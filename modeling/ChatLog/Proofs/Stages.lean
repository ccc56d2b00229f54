import ChatLog.Searcher

/-!
The stages of a search. Words are taken to a query by reading them, resolving names and building
the clause; nothing in that depends on what is kept on the shelf or on the messages in the log. A
search that gets the guard then runs its query.
-/
namespace ChatLog

def Query.ofWords (directory : Directory) (settings : Settings) (origin : Origin)
    (words : List String) : Except Failure Query := do
  let request ← Request.ofWords words
  let criteria ← (request.resolve directory settings).2
  return .ofCriteria criteria origin settings

def Request.lookups (directory : Directory) (settings : Settings) (words : List String) :
    List Lookup :=
  match ofWords words with
  | .error _ => []
  | .ok request => (request.resolve directory settings).1

theorem Request.resolve_ok {request : Request} {directory : Directory} {settings : Settings}
    {criteria : Criteria} (resolved : (request.resolve directory settings).2 = .ok criteria) :
    request.isSearchable ∧ ∃ users,
      (findUsers directory settings.fuzzyLimit request.users .empty).2 = .ok users ∧
        criteria = request.criteria settings users := by
  unfold resolve at resolved
  split at resolved
  · rename_i searchable
    refine ⟨searchable, ?_⟩
    cases found : (findUsers directory settings.fuzzyLimit request.users .empty).2 with
    | error failure => simp [found, Except.map] at resolved
    | ok users =>
      simp only [found, Except.map, Except.ok.injEq] at resolved
      exact ⟨users, rfl, resolved.symm⟩
  · cases resolved

theorem Query.ofWords_ok {directory : Directory} {settings : Settings} {origin : Origin}
    {words : List String} {query : Query}
    (compiled : ofWords directory settings origin words = .ok query) :
    ∃ request criteria, Request.ofWords words = .ok request ∧
      (request.resolve directory settings).2 = .ok criteria ∧
      query = ofCriteria criteria origin settings := by
  unfold ofWords at compiled
  cases read : Request.ofWords words with
  | error failure => simp [read, bind, Except.bind] at compiled
  | ok request =>
    cases resolved : (request.resolve directory settings).2 with
    | error failure => simp [read, resolved, bind, Except.bind] at compiled
    | ok criteria =>
      simp only [read, resolved, bind, Except.bind, pure, Except.pure, Except.ok.injEq] at compiled
      exact ⟨request, criteria, rfl, resolved, compiled.symm⟩

namespace Searcher

/-- What a query answers depends on the shelf only through the statements fetched from it. -/
theorem runQuery_eq (searcher : Searcher) (store : Store) (timing : Timing) (query : Query) :
    searcher.runQuery store timing query =
      (do
        let prepared ← (searcher.shelf.fetch store query).1
        let outcome ← (prepared.on store timing).run query.params query.span
          searcher.settings.maxSearchResults
        return .ofOutcome outcome query.message searcher.settings.displayRows,
      { searcher with shelf := (searcher.shelf.fetch store query).2 }) := by
  unfold runQuery
  cases fetched : searcher.shelf.fetch store query with
  | mk result shelf =>
    cases result with
    | error failure => simp [bind, Except.bind]
    | ok prepared =>
      simp only [bind, Except.bind, pure, Except.pure, Prod.mk.injEq, and_true]
      cases (prepared.on store timing).run query.params query.span
        searcher.settings.maxSearchResults <;> rfl

/-- While the guard is held, a search answers with its first failing stage or runs its query. -/
theorem searchHolding_eq (searcher : Searcher) (store : Store) (timing : Timing) (origin : Origin)
    (words : List String) :
    searcher.searchHolding store timing origin words =
      let lookups := Request.lookups (searcher.directory store) searcher.settings words
      match Query.ofWords (searcher.directory store) searcher.settings origin words with
      | .error failure => (.error failure, searcher, lookups)
      | .ok query =>
        let ran := searcher.runQuery store timing query
        (ran.1, ran.2, lookups) := by
  unfold searchHolding Query.ofWords Request.lookups
  cases Request.ofWords words with
  | error failure => rfl
  | ok request =>
    cases resolved : request.resolve (searcher.directory store) searcher.settings with
    | mk lookups result => cases result <;> simp [resolved, bind, Except.bind, pure, Except.pure]

end Searcher

end ChatLog
