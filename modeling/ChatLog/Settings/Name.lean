import ChatLog.Number.Numeral
import ChatLog.Settings.Value

/-!
The names under which settings are written. A word names a setting. A word followed by steps, each
a point and a word or an index in brackets, names a place inside a setting, which makes that setting
a list or a table. Any other text names itself.
-/
namespace ChatLog.Settings.Name

def isWordPart (c : Char) : Bool :=
  c.isAlphanum || c = '_' || c = '-'

def skipBlank (text : List Char) : List Char :=
  text.dropWhile fun c => c = ' ' || c = '\t'

def index? (text : List Char) : Option (List Char) := do
  let (sign, digits) := match skipBlank text with
    | '-' :: digits => (['-'], digits)
    | digits => ([], digits)
  let _ ← Numeral.signed? (sign ++ digits.takeWhile Char.isDigit)
  match skipBlank (digits.dropWhile Char.isDigit) with
  | ']' :: rest => some rest
  | _ => none

def isSteps : (most : Nat) → List Char → Bool
  | _, [] => true
  | most + 1, '.' :: rest =>
    rest.head?.any isWordPart && isSteps most (rest.dropWhile isWordPart)
  | most + 1, '[' :: rest => (index? rest).any (isSteps most)
  | _, _ => false

/-- The setting that a name speaks of, and whether it speaks of a place inside. -/
def target (name : String) : String × Bool :=
  let word := name.toList.takeWhile isWordPart
  let steps := name.toList.dropWhile isWordPart
  if word ≠ [] ∧ steps ≠ [] ∧ isSteps steps.length steps then (String.ofList word, true)
  else (name, false)

def settle (table : Table) : Table :=
  table.map fun (name, value) =>
    match target name with
    | (setting, true) => (setting, .composite)
    | (setting, false) => (setting, value)

end ChatLog.Settings.Name
