import ChatLog.Directory
import ChatLog.Store
import ChatLog.Store.Paged
import ChatLog.Store.Pattern

/-!
The directory of a store: the ids of the users whose name or one of whose aliases fits a pattern,
in ascending order and each once. The limit and the offset of a lookup are taken as signed words.
-/
namespace ChatLog.Store

def names (users : List User) (aliases : List Alias) : List (Id × String) :=
  users.map (fun user => (user.id, user.name)) ++
    aliases.map (fun given => (given.user, given.name))

def named (pattern : String) (names : List (Id × String)) : Except Failure IdSet := do
  let fitting ← names.filterM fun (_, name) => matchesPattern pattern name
  return .ofList (fitting.map (·.1))

/-- The directory of the accounts in a store. -/
def directory (store : Store) : Directory := fun lookup => do
  let users ← rows store.users
  let aliases ← rows store.aliases
  if lookup.limit = 0 then return []
  let found ← named lookup.pattern (names users aliases)
  return paged (signedWord lookup.limit) (signedWord lookup.offset) found.toList

end ChatLog.Store
