import ChatLog.Number.Real
import ChatLog.Number.Shortest

/-!
A setting as it is written, and its conversion to what a setting has to be: a number of 64 bits or
a text. Truth values, words for them, and real numbers count as numbers too; numbers and truth
values count as texts. Lists, tables and nothing at all convert to neither.
-/
namespace ChatLog.Settings

inductive Value where
  | truth (value : Bool)
  | whole (value : Int)
  | real (value : Binary64)
  | text (value : String)
  /-- A list, a table or nothing at all. -/
  | composite
deriving DecidableEq, Repr

/-- Written settings by name; of several values for one name the first one counts. -/
abbrev Table := List (String × Value)

namespace Value

def truthOfWord? (word : String) : Option Bool :=
  match word.toLower with
  | "true" | "on" | "yes" => some true
  | "false" | "off" | "no" => some false
  | _ => none

def wordOfTruth (value : Bool) : UInt64 :=
  if value then 1 else 0

def toWord? : Value → Option UInt64
  | .truth value => some (wordOfTruth value)
  | .whole value => if 0 ≤ value then some value.toNat.toUInt64 else none
  | .real value => some value.toWord
  | .text value =>
    match truthOfWord? value with
    | some value => some (wordOfTruth value)
    | none => Numeral.unsigned? value.toList
  | .composite => none

def toText? : Value → Option String
  | .truth value => some (if value then "true" else "false")
  | .whole value => some (toString value)
  | .real value => some value.text
  | .text value => some value
  | .composite => none

/-- The value of an environment variable: a truth value, an integer or a real number if it is
written like one, and a text otherwise. -/
def ofVariable (written : String) : Value :=
  if written.toLower = "true" then .truth true
  else if written.toLower = "false" then .truth false
  else match Numeral.signed? written.toList with
    | some n => .whole n
    | none =>
      match Real.read? written.toList with
      | some x => .real x
      | none => .text written

end Value

end ChatLog.Settings
