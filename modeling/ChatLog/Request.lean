import ChatLog.IdSet
import ChatLog.Request.Part

/-!
A search request as its words ask for it, before names are resolved. Users and message words keep
their order, channels form a set, and of several ranges or recency words the last one counts.
-/
namespace ChatLog

structure Request where
  users : List String
  channels : IdSet
  seconds : Option Int
  words : List String
  /-- Absent when no word asks for a range. -/
  span : Option Span
deriving DecidableEq

namespace Request

def empty : Request where
  users := []
  channels := .empty
  seconds := none
  words := []
  span := none

def add (request : Request) : Part → Request
  | .blank => request
  | .span span => { request with span := some span }
  | .users references => { request with users := request.users ++ references }
  | .channels ids => { request with channels := request.channels.insertAll ids }
  | .recency seconds => { request with seconds := some seconds }
  | .message word => { request with words := request.words ++ [word] }

/-- The request that the words make; the first word that cannot be read makes it fail. -/
def ofWords (words : List String) : Except Failure Request := do
  return (← words.mapM Part.read).foldl add empty

def message (request : Request) : String :=
  " ".intercalate request.words

def isSearchable (request : Request) : Bool :=
  !request.users.isEmpty || !request.channels.isEmpty || !request.words.isEmpty

end Request

end ChatLog
