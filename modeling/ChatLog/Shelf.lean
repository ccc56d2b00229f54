import ChatLog.Query
import ChatLog.Store.Answer

/-!
Prepared statements kept for further searches of the same shape, under the written condition of
their listing. Nothing is ever taken off the shelf, and nothing is put on it unless both statements
could be prepared.
-/
namespace ChatLog

structure Prepared where
  count : Statement
  listing : Statement
deriving DecidableEq, Repr

def Prepared.on (prepared : Prepared) (store : Store) (timing : Timing) : Statements where
  count := store.answerCount timing.onCount prepared.count
  accepts := Store.accepts prepared.listing
  listing := store.answerListing timing.onListing prepared.listing

def Query.prepare (query : Query) (store : Store) : Except Failure Prepared := do
  let count ← store.prepare query.count.text
  let listing ← store.prepare query.listing.text
  return ⟨count, listing⟩

structure Shelf where
  kept : List (List Char × Prepared)
deriving DecidableEq, Repr

namespace Shelf

def empty : Shelf := ⟨[]⟩

def size (shelf : Shelf) : Nat :=
  shelf.kept.length

def find? (shelf : Shelf) (query : Query) : Option Prepared :=
  shelf.kept.lookup query.paginated

def contains (shelf : Shelf) (query : Query) : Bool :=
  (shelf.find? query).isSome

/-- The statements for a query, prepared and put on the shelf unless they are there. -/
def fetch (shelf : Shelf) (store : Store) (query : Query) : Except Failure Prepared × Shelf :=
  match shelf.find? query with
  | some prepared => (.ok prepared, shelf)
  | none =>
    match query.prepare store with
    | .ok prepared => (.ok prepared, ⟨(query.paginated, prepared) :: shelf.kept⟩)
    | .error failure => (.error failure, shelf)

end Shelf

end ChatLog
