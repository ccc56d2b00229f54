import ChatLog.Number.Real
import ChatLog.Settings.Value
import ChatLog.Settings.Yaml.Tag

/-!
The nodes of a YAML document, and what they are as settings. A plain word is nothing, a truth value,
an integer, a real number or a text by the way it is written, unless a tag says which of them it has
to be. Lists and mappings are not looked into any more once they are known to be sound.
-/
namespace ChatLog.Settings.Yaml

inductive Node where
  | null
  | truth (value : Bool)
  | whole (value : Int)
  /-- A real number as it is written. -/
  | real (written : List Char)
  | text (value : List Char)
  | list
  | table (entries : Table)
  /-- A list or mapping with something inside that no setting can be. -/
  | unsound
  /-- A word that is not what its tag says, or a name for a node that is not complete yet. -/
  | unknown
deriving DecidableEq, Repr

namespace Node

/-! ### Plain words -/

def truth? (word : List Char) : Option Bool :=
  match String.ofList word with
  | "true" | "True" | "TRUE" => some true
  | "false" | "False" | "FALSE" => some false
  | _ => none

def based? (base : Nat) (text : List Char) : Option Int :=
  let (isNegative, digits) := match text with
    | '-' :: digits => (true, digits)
    | '+' :: digits => (false, digits)
    | digits => (false, digits)
  if digits = [] then none
  else
    ((Numeral.based? base digits).map fun n => if isNegative then -Int.ofNat n else n).filter
      fun n => decide (Numeral.Signed n)

def whole? : List Char → Option Int
  | '0' :: 'x' :: digits => based? 16 digits
  | '0' :: 'o' :: digits => based? 8 digits
  | '+' :: rest => Numeral.signed? rest
  | word => Numeral.signed? word

def isReal (word : List Char) : Bool :=
  match String.ofList word with
  | ".inf" | ".Inf" | ".INF" | "+.inf" | "+.Inf" | "+.INF" => true
  | "-.inf" | "-.Inf" | "-.INF" => true
  | ".nan" | ".NaN" | ".NAN" => true
  | _ => word.any Char.isDigit && (Real.read? word).isSome

def isNull (word : List Char) : Bool :=
  word = ['~'] || word = "null".toList

def ofWord (word : List Char) : Node :=
  if word = [] ∨ isNull word then .null
  else match truth? word with
    | some value => .truth value
    | none =>
      match whole? word with
      | some n => .whole n
      | none => if isReal word then .real word else .text word

def coreHandle : List Char := "tag:yaml.org,2002:".toList

def ofTagged (tag : Tag) (word : List Char) : Node :=
  if tag.handle ≠ coreHandle then .text word
  else match String.ofList tag.suffix with
    | "bool" => (truth? word).elim .unknown .truth
    | "int" => (Numeral.signed? word).elim .unknown .whole
    | "float" => if isReal word then .real word else .unknown
    | "null" => if isNull word then .null else .unknown
    | _ => .text word

def ofScalar (isPlain : Bool) (tag : Option Tag) (text : List Char) : Node :=
  if isPlain then tag.elim (ofWord text) fun tag => ofTagged tag text else .text text

/-! ### Settings -/

def name? : Node → Option String
  | .truth value => some (if value then "true" else "false")
  | .whole n => some (toString n)
  | .real written => some (String.ofList written)
  | .text value => some (String.ofList value)
  | _ => none

/-- The setting that a node is as a value; infinities by name are none. -/
def value? : Node → Option Value
  | .truth value => some (.truth value)
  | .whole n => some (.whole n)
  | .real written => (Real.read? written).map .real
  | .text value => some (.text (String.ofList value))
  | .unsound => none
  | .null | .list | .table _ | .unknown => some .composite

def ofItems (items : List Node) : Node :=
  if items.all fun item => item.value?.isSome then .list else .unsound

/-- The keys and values of a mapping; an unknown node is no key, and a key without value is left
out. -/
def pairs : List Node → List (Node × Node)
  | .unknown :: nodes => pairs nodes
  | key :: value :: nodes => (key, value) :: pairs nodes
  | _ => []

def ofEntries? (nodes : List Node) : Option Node :=
  let entries := pairs nodes
  if (entries.map (·.1)).Nodup then
    let table := entries.mapM fun (key, value) => do
      return (← key.name?, ← value.value?)
    some (table.elim .unsound fun table => .table table.reverse)
  else none

end Node

end ChatLog.Settings.Yaml
