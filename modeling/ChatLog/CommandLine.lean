import ChatLog.Address
import ChatLog.Searcher
import ChatLog.Settings.File

/-!
One search from the command line. The settings are loaded, the log is opened and given the tables it
lacks, and then either the usage or the reply to the words is written. What goes wrong before the
search ends the program with an error, and so does a search for whose rows there is no room.
-/
namespace ChatLog.CommandLine

structure Surroundings where
  arguments : List String
  environment : List (String × String)
  files : Settings.Files
  elsewhere : Settings.Reader
  /-- The log at an address, unless none can be opened there. -/
  openLog : Address → Option Store

structure Result where
  code : UInt8
  output : String
deriving DecidableEq, Repr

def settingsVariable : String := "CHATSEARCH_CONFIG"

def settingsName : String := "chatsearch"

def outputOf (reply : Reply) : String :=
  reply.text ++ "\n" ++ (if reply.more then "(more results available)\n" else "")

def searchIn (log : Store) (settings : Settings) (timing : Timing) (words : List String) :
    Except Failure Reply :=
  let report := (Searcher.overLog settings).search log timing .free ⟨0, 0, 0⟩ words
  Searcher.replyTo report.answer

def run (surroundings : Surroundings) (timing : Timing) : Result :=
  let name := (surroundings.environment.lookup settingsVariable).getD settingsName
  match Settings.load surroundings.elsewhere surroundings.files name surroundings.environment with
  | .error _ => ⟨1, ""⟩
  | .ok settings =>
    match (Address.read? settings.database).bind surroundings.openLog with
    | none => ⟨1, ""⟩
    | some log =>
      if surroundings.arguments = [] then ⟨0, Searcher.usage settings ++ "\n"⟩
      else
        match searchIn log.create settings timing surroundings.arguments with
        | .ok reply => ⟨0, outputOf reply⟩
        | .error _ => ⟨101, ""⟩

structure Place where
  up : Nat
  down : List (List Char)
deriving DecidableEq, Repr

def longestName : Nat := 255

/-- One part further along a path. A step back takes the last name away, wherever it led; a name
behind a file leads nowhere. -/
def Place.step (isFile : List Char → Bool) (place : Place) (part : List Char) : Option Place :=
  if part = [] ∨ part = ['.'] then some place
  else if part = ['.', '.'] then
    match place.down with
    | [] => some { place with up := place.up + 1 }
    | _ :: down => some { place with down := down }
  else if longestName < part.length then none
  else if place.up = 0 ∧ place.down.getLast?.any isFile then none
  else some { place with down := part :: place.down }

/-- A new log under a name, beside which the name of its journal has to find room. -/
def newLog (access : Access) (name : List Char) : Option Store :=
  if access = .create ∧ (name ++ "-journal".toList).length ≤ longestName then some .empty else none

/-- The log at an address in a directory that holds files, none of which is a log, and perhaps a log
of a given name. A file of at most one octet is as good as a new log. There are directories above,
which hold nothing, and none below. -/
def openIn (files : Settings.Files) (known : Option (String × Store)) (address : Address) :
    Option Store := do
  if address.isPassing then
    if address.access = .readOnly then none else return .empty
  else if address.path.head? = some '/' then none
  else
    let contents := files.map fun (name, content) => (Address.octets name, content)
    let logs := known.toList.map fun (name, log) => (Address.octets name, log)
    let isFile := fun name => (contents.lookup name).isSome || (logs.lookup name).isSome
    let place ← (Text.parts '/' address.path).foldlM (Place.step isFile) ⟨0, []⟩
    match place.up, place.down with
    | 0, [name] =>
      match logs.lookup name, contents.lookup name with
      | some log, _ => return log
      | none, some content =>
        if content.utf8ByteSize ≤ 1 ∧ address.access ≠ .readOnly then newLog .create name else none
      | none, none => newLog address.access name
    | _ + 1, [name] => newLog address.access name
    | _, _ => none

end ChatLog.CommandLine
