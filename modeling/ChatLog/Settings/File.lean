import ChatLog.Settings.Json
import ChatLog.Settings.Layers
import ChatLog.Settings.Name
import ChatLog.Settings.Toml
import ChatLog.Settings.Yaml
import ChatLog.Text.Parts

/-!
Finding and reading the settings file. A path in a directory stands for the file of exactly that
name or, if there is none, for a file with the ending of a known format after it. A file that is not
there, or whose ending is of no known format, gives no settings; one that is there but cannot be
read fails. Of files with several endings the first one counts in the order of `endings`, which
stands for an order that is not fixed. Documents in the formats ini, ron and json5 are read
elsewhere.
-/
namespace ChatLog.Settings

inductive Format where
  | toml
  | json
  | yaml
  | ini
  | ron
  | json5
deriving DecidableEq, Repr

namespace Format

def ofEnding? : List Char → Option Format
  | ['t', 'o', 'm', 'l'] => some .toml
  | ['j', 's', 'o', 'n'] => some .json
  | ['y', 'a', 'm', 'l'] => some .yaml
  | ['y', 'm', 'l'] => some .yaml
  | ['i', 'n', 'i'] => some .ini
  | ['r', 'o', 'n'] => some .ron
  | ['j', 's', 'o', 'n', '5'] => some .json5
  | _ => none

def endings : List String := ["toml", "json", "yaml", "yml", "ini", "ron", "json5"]

end Format

abbrev Reader := Format → List Char → Option Table

def Format.read? (elsewhere : Reader) (format : Format) (document : List Char) : Option Table :=
  match format with
  | .toml => Toml.read? document
  | .json => Json.read? document
  | .yaml => Yaml.read? document
  | .ini | .ron | .json5 => elsewhere format document

abbrev Files := List (String × String)

/-- The parts of a path, apart from those that stay where they are; an absolute path opens with the
root. -/
def steps (path : String) : List (List Char) :=
  let names := (Text.parts '/' path.toList).filter fun part => part ≠ [] && part ≠ ['.']
  if path.toList.head? = some '/' then ['/'] :: names else names

def endsNamed (path : String) : Bool :=
  (Text.parts '/' path.toList).getLast?.any fun part =>
    part ≠ [] && part ≠ ['.'] && part ≠ ['.', '.']

def contentAt (files : Files) (path : List (List Char)) : Option String :=
  (files.find? fun (name, _) => steps name == path).map (·.2)

/-- What stands behind the last point of a name, unless the point opens the name. -/
def ending? (name : List Char) : Option (List Char) :=
  let behind := (name.reverse.takeWhile (· ≠ '.')).reverse
  if behind.length + 1 < name.length then some behind else none

def find? (files : Files) (path : String) : Option (Format × String) :=
  match (steps path).getLast? with
  | none | some ['/'] | some ['.', '.'] => none
  | some name =>
    match (contentAt files (steps path)).filter fun _ => endsNamed path with
    | some content =>
      ((ending? name).bind Format.ofEnding?).map fun format => (format, content)
    | none =>
      Format.endings.findSome? fun ending => do
        let format ← Format.ofEnding? ending.toList
        let content ← contentAt files ((steps path).dropLast ++ [name ++ '.' :: ending.toList])
        return (format, content)

def withoutMark : List Char → List Char
  | '\uFEFF' :: document => document
  | document => document

def ofFiles (elsewhere : Reader) (files : Files) (path : String) : Except Failure Table :=
  match find? files path with
  | none => .ok []
  | some (format, content) =>
    match format.read? elsewhere (withoutMark content.toList) with
    | some table => .ok (Name.settle table)
    | none => .error (.settings (path ++ " cannot be read"))

def load (elsewhere : Reader) (files : Files) (path : String)
    (environment : List (String × String)) : Except Failure Settings := do
  let file ← ofFiles elsewhere files path
  Layers.settings ⟨Name.settle (ofVariables environment), file⟩

end ChatLog.Settings
