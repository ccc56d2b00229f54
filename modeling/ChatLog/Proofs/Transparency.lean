import ChatLog.Proofs.Shelf
import ChatLog.Proofs.Stages

/-!
A searcher after any history of searches, over a store that changes as it likes in between, still
answers as one that has just been made: what it keeps on its shelf does not show.
-/
namespace ChatLog

/-- One search of a history, with the store, the time and the guard as they were then. -/
structure Visit where
  store : Store
  timing : Timing
  guard : Guard
  origin : Origin
  words : List String

theorem Query.ofWords_proper {directory : Directory} {settings : Settings} {origin : Origin}
    {words : List String} {query : Query}
    (compiled : ofWords directory settings origin words = .ok query) : query.clause ≠ [] := by
  obtain ⟨_, criteria, _, _, rfl⟩ := ofWords_ok compiled
  exact ofCriteria_proper criteria origin settings

namespace Searcher

def visited (searcher : Searcher) (visit : Visit) : Searcher :=
  (searcher.search visit.store visit.timing visit.guard visit.origin visit.words).searcher

/-- The searcher as a history of searches leaves it. -/
def after (searcher : Searcher) (history : List Visit) : Searcher :=
  history.foldl visited searcher

def fresh (settings : Settings) (directory : Store → Directory) : Searcher :=
  ⟨settings, directory, .empty⟩

theorem searchHolding_searcher (searcher : Searcher) (store : Store) (timing : Timing)
    (origin : Origin) (words : List String) :
    (searcher.searchHolding store timing origin words).2.1 = searcher ∨
      ∃ query : Query, query.clause ≠ [] ∧
        (searcher.searchHolding store timing origin words).2.1 =
          { searcher with shelf := (searcher.shelf.fetch store query).2 } := by
  rw [searchHolding_eq]
  cases compiled : Query.ofWords (searcher.directory store) searcher.settings origin words with
  | error failure => exact Or.inl rfl
  | ok query =>
    refine Or.inr ⟨query, Query.ofWords_proper compiled, ?_⟩
    simp only [runQuery_eq]

/-- A search changes nothing but the shelf, and keeps that sound. -/
theorem visited_keeps (searcher : Searcher) (sound : searcher.shelf.Sound) (visit : Visit) :
    ∃ shelf : Shelf, shelf.Sound ∧ searcher.visited visit = { searcher with shelf := shelf } := by
  obtain ⟨store, timing, ⟨busy⟩, origin, words⟩ := visit
  cases busy with
  | true => exact ⟨searcher.shelf, sound, rfl⟩
  | false =>
    change ∃ shelf : Shelf, shelf.Sound ∧
      (searcher.searchHolding store timing origin words).2.1 = { searcher with shelf := shelf }
    rcases searcher.searchHolding_searcher store timing origin words with
      same | ⟨query, proper, same⟩
    · exact ⟨searcher.shelf, sound, same⟩
    · exact ⟨_, Shelf.fetch_sound sound proper store, same⟩

theorem after_keeps (searcher : Searcher) (sound : searcher.shelf.Sound) (history : List Visit) :
    ∃ shelf : Shelf, shelf.Sound ∧ searcher.after history = { searcher with shelf := shelf } := by
  -- a sound shelf is what each search hands to the next
  induction history generalizing searcher with
  | nil => exact ⟨searcher.shelf, sound, rfl⟩
  | cons visit history ih =>
    obtain ⟨shelf, kept, changed⟩ := searcher.visited_keeps sound visit
    obtain ⟨later, still, left⟩ := ih { searcher with shelf := shelf } kept
    refine ⟨later, still, ?_⟩
    rw [after, List.foldl_cons, changed]
    exact left

/-- The answer of a search that gets the guard while the tables are there: with a sound shelf it
is as if the statements were prepared for it. -/
theorem answer_eq (searcher : Searcher) (sound : searcher.shelf.Sound) {store : Store}
    (log : store.messages.isSome) (people : store.users.isSome) (timing : Timing) (origin : Origin)
    (words : List String) :
    (searcher.search store timing .free origin words).answer = (do
      let query ← Query.ofWords (searcher.directory store) searcher.settings origin words
      let prepared ← query.prepare store
      let outcome ← (prepared.on store timing).run query.params query.span
        searcher.settings.maxSearchResults
      return .ofOutcome outcome query.message searcher.settings.displayRows) := by
  have answered : (searcher.search store timing .free origin words).answer =
      (searcher.searchHolding store timing origin words).1 := rfl
  rw [answered, searchHolding_eq]
  cases compiled : Query.ofWords (searcher.directory store) searcher.settings origin words with
  | error failure => rfl
  | ok query =>
    have proper := Query.ofWords_proper compiled
    have tables : store.hasTables query.listing := by
      simp [Store.hasTables, Query.listing, log, people]
    simp only [runQuery_eq, Shelf.fetch_eq_prepare sound proper tables]
    rfl

end Searcher

end ChatLog
