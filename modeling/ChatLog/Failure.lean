/-!
The causes that stop a search, each with the text that the asking user is shown. Causes inside the
storage are told apart nowhere outside it and are never shown. Somebody who is asked for names may
answer with any of them; that is passed on and shows as what it is, and is told apart from what the
search finds itself. Where no room can be had for the rows of a listing, nobody is shown anything:
the program ends.
-/
namespace ChatLog

inductive Failure where
  /-- Another search holds the guard. -/
  | busy
  /-- A word for users that names none. -/
  | noUsers
  /-- A channel that is no mention. -/
  | unknownChannel (text : String)
  /-- A recency word without a number. -/
  | noSeconds
  /-- A word that cannot be read as what its first character announces. -/
  | malformed (word expected : String)
  /-- A name that matches nobody. -/
  | unknownUser (name : String)
  /-- Neither a message, nor a user, nor a channel is asked for. -/
  | nothingToSearch
  /-- A statement could not be prepared. -/
  | unprepared
  /-- The count statement gave no row. -/
  | noCount
  /-- The storage refused to answer. -/
  | storage
  /-- Settings could not be loaded. -/
  | settings (cause : String)
  /-- A lock was left behind by a failed holder. -/
  | lock (cause : String)
  /-- What somebody answered who was asked for names. -/
  | told (cause : Failure)
  /-- No room can be reserved for the rows of a listing. -/
  | noRoom
deriving DecidableEq, Repr

def Failure.message : Failure → String
  | .busy => "Sorry, I'm busy processing another request right now. Please try again later!"
  | .noUsers => "Error: No users specified"
  | .unknownChannel text =>
    "Error: Unknown channel format " ++ text ++
      " - Must be an actual recognized channel by discord!"
  | .noSeconds => "Error: Invalid number of seconds specified. Expected ~000"
  | .malformed word expected => "Error: " ++ word ++ " is not a valid " ++ expected
  | .unknownUser name =>
    "Error: Could not find any usernames or aliases matching " ++ name ++ "!"
  | .nothingToSearch =>
    "Error: no searchable terms specified! You must have either a message, a user, or a channel."
  | .unprepared => "Error: Failed to prepare statement!"
  | .noCount => "Error: Expected 1 row, but got no rows!"
  | .storage => "Error: Failed to search the chat log!"
  | .settings cause => "Config error: " ++ cause
  | .lock cause => "Lock poisoned: " ++ cause
  | .told cause => cause.message
  | .noRoom => "capacity overflow"

end ChatLog
