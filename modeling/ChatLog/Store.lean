import ChatLog.Failure
import ChatLog.IdSet
import ChatLog.Time.Stored

/-!
The tables of the log: users with one name each, aliases of users, and messages. A table may be
absent. Ids must be less than `2 ^ 63`, user ids, pairs of user and alias, and message ids are never
repeated, and an alias is given only to a user there is. An operation that fails changes nothing.
The storage is taken to enforce foreign keys, which the one that comes with the program does unless
it is told not to.
-/
namespace ChatLog

structure User where
  id : Id
  name : String
deriving DecidableEq, Repr

structure Alias where
  user : Id
  name : String
deriving DecidableEq, Repr

structure Message where
  id : Id
  author : Id
  channel : Id
  text : String
  /-- The text that tells when the message was written. -/
  time : String
deriving DecidableEq, Repr

inductive Table where
  | users
  | aliases
  | messages
deriving DecidableEq, Repr

structure Store where
  users : Option (List User)
  aliases : Option (List Alias)
  messages : Option (List Message)
deriving DecidableEq, Repr

namespace Store

def empty : Store := ⟨none, none, none⟩

def create (store : Store) : Store where
  users := some (store.users.getD [])
  aliases := some (store.aliases.getD [])
  messages := some (store.messages.getD [])

/-- The store without a table; what other tables hold stays. -/
def drop (table : Table) (store : Store) : Store :=
  match table with
  | .users => { store with users := none }
  | .aliases => { store with aliases := none }
  | .messages => { store with messages := none }

def rows {α : Type} (table : Option (List α)) : Except Failure (List α) :=
  match table with
  | some rows => .ok rows
  | none => .error .storage

def holds (id : Id) : Except Failure Unit :=
  if id.toNat < 0x8000000000000000 then .ok () else .error .storage

def setName (user : User) (users : List User) : List User :=
  if users.any (·.id == user.id) then
    users.map fun other => if other.id = user.id then user else other
  else users ++ [user]

def putUser (user : User) (store : Store) : Except Failure Store := do
  holds user.id
  let users ← rows store.users
  return { store with users := some (setName user users) }

/-- Gives a user an alias, unless the user has it already. That there is such a user is a foreign
key of the table. -/
def putAlias (given : Alias) (store : Store) : Except Failure Store := do
  holds given.user
  let aliases ← rows store.aliases
  let users ← rows store.users
  if given ∈ aliases then return store
  else if users.any (·.id == given.user) then
    return { store with aliases := some (aliases ++ [given]) }
  else throw .storage

def addMessage (message : Message) (store : Store) : Except Failure Store := do
  holds message.id
  holds message.author
  holds message.channel
  let messages ← rows store.messages
  if messages.any (·.id == message.id) then throw .storage
  else return { store with messages := some (messages ++ [message]) }

def logMessage (id author channel : Id) (text : String) (written : Instant) (store : Store) :
    Except Failure Store :=
  store.addMessage ⟨id, author, channel, text, String.ofList written.stored⟩

end Store

end ChatLog
