import ChatLog.Criteria
import ChatLog.Request
import ChatLog.Settings
import ChatLog.Text.Wildcard

/-!
Finding out whom a request means. Mentions carry their id; any other reference is a name, which a
directory is asked for, one name after the other. A name that matches nobody fails the whole
request, even where other names are found. Every question put to the directory is kept.
-/
namespace ChatLog

/-- One question to a directory: the accounts whose name fits a pattern, how many of them, and how
many to pass over. -/
structure Lookup where
  pattern : String
  limit : UInt64
  offset : UInt64
deriving DecidableEq, Repr

abbrev Directory := Lookup → Except Failure (List Id)

namespace Request

def nameOf (reference : String) : String :=
  match reference.toList with
  | '@' :: name => String.ofList name
  | _ => reference

def lookupFor (name : String) (limit : UInt64) : Lookup :=
  ⟨Text.Wildcard.containing name, limit, 0⟩

def findUsers (directory : Directory) (limit : UInt64) :
    List String → IdSet → List Lookup × Except Failure IdSet
  | [], known => ([], .ok known)
  | reference :: rest, known =>
    match Mention.user? reference.toList with
    | some id => findUsers directory limit rest (known.insert id)
    | none =>
      let name := nameOf reference
      let lookup := lookupFor name limit
      match directory lookup with
      | .error failure => ([lookup], .error (.told failure))
      | .ok [] => ([lookup], .error (.unknownUser name))
      | .ok ids =>
        let (later, result) := findUsers directory limit rest (known.insertAll ids)
        (lookup :: later, result)

/-- The criteria that a request stands for once its users are known. Without a range the newest
matches are listed. -/
def criteria (request : Request) (settings : Settings) (users : IdSet) : Criteria where
  users := users
  channels := request.channels
  seconds := request.seconds
  message := request.message
  span := request.span.getD (.newest settings.displayRows)

def resolve (request : Request) (directory : Directory) (settings : Settings) :
    List Lookup × Except Failure Criteria :=
  if request.isSearchable then
    let (lookups, users) := findUsers directory settings.fuzzyLimit request.users .empty
    (lookups, users.map (request.criteria settings))
  else ([], .error .nothingToSearch)

end Request

end ChatLog
