import ChatLog.Proofs.Grammar
import ChatLog.Proofs.Transparency

/-!
At which stage a search ends, and what it leaves behind. Each stage is told by the failure it would
have for the search, were it reached; the first of them that has one ends the search. The names are
looked up in the stage for them and nowhere else, and only the stage that prepares the statements
may put something on the shelf, which stays there even if running the statements fails.
-/
namespace ChatLog

inductive Stage where
  /-- Taking the guard. -/
  | taking
  /-- Reading the words. -/
  | reading
  /-- Finding that something is asked for at all. -/
  | scoping
  /-- Resolving the names. -/
  | naming
  | preparing
  | running
deriving DecidableEq, Repr

/-- The stages in their order. -/
def Stage.all : List Stage :=
  [.taking, .reading, .scoping, .naming, .preparing, .running]

def failure? {α : Type} : Except Failure α → Option Failure
  | .ok _ => none
  | .error failure => some failure

theorem failure?_eq_some {α : Type} {result : Except Failure α} {failure : Failure} :
    failure? result = some failure ↔ result = .error failure := by
  cases result <;> simp [failure?]

namespace Shelf

/-- What fetching the statements of a query puts on a shelf. -/
def gained (shelf : Shelf) (store : Store) (query : Query) : List (List Char × Prepared) :=
  if shelf.contains query then []
  else match query.prepare store with
    | .ok prepared => [(query.paginated, prepared)]
    | .error _ => []

theorem fetch_shelf (shelf : Shelf) (store : Store) (query : Query) :
    (shelf.fetch store query).2 = ⟨shelf.gained store query ++ shelf.kept⟩ := by
  unfold fetch gained contains
  cases shelf.find? query with
  | some prepared => rfl
  | none => cases query.prepare store <;> rfl

theorem gained_cases (shelf : Shelf) (store : Store) (query : Query) :
    shelf.gained store query = [] ∨
      ∃ prepared, query.prepare store = .ok prepared ∧
        shelf.gained store query = [(query.paginated, prepared)] := by
  unfold gained
  split
  · exact Or.inl rfl
  · cases query.prepare store with
    | error failure => exact Or.inl rfl
    | ok prepared => exact Or.inr ⟨prepared, rfl, rfl⟩

theorem gained_ne_nil (shelf : Shelf) (store : Store) (query : Query) :
    shelf.gained store query ≠ [] ↔
      shelf.contains query = false ∧ failure? (query.prepare store) = none := by
  unfold gained
  cases shelf.contains query with
  | true => simp
  | false => cases query.prepare store <;> simp [failure?]

end Shelf

namespace Searcher

variable (searcher : Searcher) (visit : Visit)

/-- The query of a search whose words can be read and whose names are known. -/
def queryFor : Query :=
  let request := Request.ofReadable visit.words
  let found := Request.foundFor (searcher.directory visit.store) searcher.settings.fuzzyLimit
  .ofCriteria (request.criteria searcher.settings (.ofList (request.users.flatMap found)))
    visit.origin searcher.settings

def outcomeFor (prepared : Prepared) : Except Failure Outcome :=
  let query := searcher.queryFor visit
  (prepared.on visit.store visit.timing).run query.params query.span
    searcher.settings.maxSearchResults

/-- The failure of a search in one of its stages, were that stage reached. -/
def failureAt : Stage → Option Failure
  | .taking => if visit.guard.isBusy then some .busy else none
  | .reading => firstFailure Request.Part.read visit.words
  | .scoping =>
    if (Request.ofReadable visit.words).isSearchable then none else some .nothingToSearch
  | .naming =>
    firstFailure (Request.idsOf (searcher.directory visit.store) searcher.settings.fuzzyLimit)
      (Request.ofReadable visit.words).users
  | .preparing =>
    if searcher.shelf.contains (searcher.queryFor visit) then none
    else failure? ((searcher.queryFor visit).prepare visit.store)
  | .running =>
    match (searcher.shelf.fetch visit.store (searcher.queryFor visit)).1 with
    | .ok prepared => failure? (searcher.outcomeFor visit prepared)
    | .error _ => none

/-- The failures that the stages report. -/
def Reports : Stage → Failure → Prop
  | .taking, failure => failure = .busy
  | .reading, failure => failure.IsUnreadable
  | .scoping, failure => failure = .nothingToSearch
  | .naming, failure =>
    ∃ reference ∈ (Request.ofReadable visit.words).users,
      failure = .unknownUser (Request.nameOf reference) ∨
        ∃ cause, failure = .told cause ∧
          searcher.directory visit.store (Request.lookupFor (Request.nameOf reference)
            searcher.settings.fuzzyLimit) = .error cause
  | .preparing, failure => failure = .unprepared
  | .running, failure =>
    failure.IsOfRunning (searcher.queryFor visit).span searcher.settings.maxSearchResults

theorem failureAt_reports {stage : Stage} {failure : Failure}
    (failed : searcher.failureAt visit stage = some failure) :
    searcher.Reports visit stage failure := by
  cases stage with
  | taking =>
    rw [failureAt] at failed
    split at failed
    · exact (Option.some.inj failed).symm
    · cases failed
  | reading =>
    obtain ⟨word, _, refused⟩ := firstFailure_eq_some failed
    exact Request.Part.read_failsOnly word failure refused
  | scoping =>
    rw [failureAt] at failed
    split at failed
    · cases failed
    · exact (Option.some.inj failed).symm
  | naming =>
    obtain ⟨reference, member, unknown⟩ := firstFailure_eq_some failed
    exact ⟨reference, member, Request.idsOf_failsOnly _ _ reference failure unknown⟩
  | preparing =>
    rw [failureAt] at failed
    split at failed
    · cases failed
    · exact Query.prepare_failsOnly _ _ failure (failure?_eq_some.mp failed)
  | running =>
    rw [failureAt] at failed
    split at failed
    · exact Prepared.run_failsOnly _ _ _ _ _ _ failure (failure?_eq_some.mp failed)
    · cases failed

/-- Words are taken to a query unless one of the three stages for that fails. -/
theorem ofWords_eq :
    Query.ofWords (searcher.directory visit.store) searcher.settings visit.origin visit.words =
      match [Stage.reading, .scoping, .naming].findSome? (searcher.failureAt visit) with
      | some failure => .error failure
      | none => .ok (searcher.queryFor visit) := by
  -- a stage is entered only when those before it pass, so its own failure is known where it is used
  unfold Query.ofWords
  rw [Request.ofWords_eq, List.findSome?_cons, failureAt]
  cases firstFailure Request.Part.read visit.words with
  | some failure => rfl
  | none =>
    simp only [bind, Except.bind]
    rw [Request.resolve_eq, List.findSome?_cons, failureAt]
    by_cases searchable : (Request.ofReadable visit.words).isSearchable = true
    · rw [if_pos searchable, if_pos searchable, List.findSome?_singleton, failureAt]
      cases firstFailure (Request.idsOf (searcher.directory visit.store)
        searcher.settings.fuzzyLimit) (Request.ofReadable visit.words).users <;> rfl
    · rw [if_neg searchable, if_neg searchable]

/-- Nobody is looked up unless the words can be read and something is asked for. -/
theorem lookups_eq_nil
    (failed : [Stage.reading, .scoping].findSome? (searcher.failureAt visit) ≠ none) :
    Request.lookups (searcher.directory visit.store) searcher.settings visit.words = [] := by
  unfold Request.lookups
  rw [Request.ofWords_eq]
  rw [List.findSome?_cons, failureAt] at failed
  cases unread : firstFailure Request.Part.read visit.words with
  | some failure => rfl
  | none =>
    rw [unread, List.findSome?_singleton, failureAt] at failed
    have vague : ¬ (Request.ofReadable visit.words).isSearchable = true := by
      intro searchable
      rw [if_pos searchable] at failed
      exact failed rfl
    simp only [Request.resolve, if_neg vague]

theorem failureAt_preparing : searcher.failureAt visit .preparing =
    failure? (searcher.shelf.fetch visit.store (searcher.queryFor visit)).1 := by
  rw [failureAt]
  unfold Shelf.fetch Shelf.contains
  cases searcher.shelf.find? (searcher.queryFor visit) with
  | some prepared => rfl
  | none => cases (searcher.queryFor visit).prepare visit.store <;> rfl

theorem failure?_runQuery :
    failure? (searcher.runQuery visit.store visit.timing (searcher.queryFor visit)).1 =
      [Stage.preparing, .running].findSome? (searcher.failureAt visit) := by
  rw [runQuery_eq, List.findSome?_cons, List.findSome?_singleton, failureAt_preparing, failureAt]
  cases (searcher.shelf.fetch visit.store (searcher.queryFor visit)).1 with
  | error failure => rfl
  | ok prepared =>
    have ran : failure? (searcher.outcomeFor visit prepared >>= fun outcome =>
        .ok (Reply.ofOutcome outcome (searcher.queryFor visit).message
          searcher.settings.displayRows)) = failure? (searcher.outcomeFor visit prepared) := by
      cases searcher.outcomeFor visit prepared <;> rfl
    exact ran

def attempt : Report :=
  searcher.search visit.store visit.timing visit.guard visit.origin visit.words

theorem attempt_free (free : visit.guard.isBusy = false) :
    searcher.attempt visit =
      let stages := searcher.searchHolding visit.store visit.timing visit.origin visit.words
      ⟨stages.1, stages.2.1, visit.guard, stages.2.2.map (·, true)⟩ := by
  obtain ⟨store, timing, ⟨busy⟩, origin, words⟩ := visit
  cases free
  rfl

/-- What a search reports: it is refused, or its words fail, or its query is run. -/
theorem attempt_eq :
    searcher.attempt visit =
      let lookups :=
        Request.lookups (searcher.directory visit.store) searcher.settings visit.words
      let ran := searcher.runQuery visit.store visit.timing (searcher.queryFor visit)
      match searcher.failureAt visit .taking with
      | some failure => ⟨.error failure, searcher, visit.guard, []⟩
      | none =>
        match [Stage.reading, .scoping, .naming].findSome? (searcher.failureAt visit) with
        | some failure => ⟨.error failure, searcher, visit.guard, lookups.map (·, true)⟩
        | none => ⟨ran.1, ran.2, visit.guard, lookups.map (·, true)⟩ := by
  cases busy : visit.guard.isBusy with
  | true =>
    have refused : visit.guard.acquire? = none := by simp [Guard.acquire?, busy]
    rw [attempt, search, refused, failureAt, if_pos busy]
  | false =>
    have taken : searcher.failureAt visit .taking = none := by
      rw [failureAt, busy]
      rfl
    rw [attempt_free searcher visit busy, searchHolding_eq, ofWords_eq, taken]
    cases [Stage.reading, .scoping, .naming].findSome? (searcher.failureAt visit) <;> rfl

theorem findSome?_taking (later : List Stage) :
    (.taking :: later).findSome? (searcher.failureAt visit) =
      (searcher.failureAt visit .taking).or (later.findSome? (searcher.failureAt visit)) := by
  rw [List.findSome?_cons]
  cases searcher.failureAt visit .taking <;> rfl

theorem failure?_attempt :
    failure? (searcher.attempt visit).answer = Stage.all.findSome? (searcher.failureAt visit) := by
  have order : Stage.all = .taking :: ([.reading, .scoping, .naming] ++ [.preparing, .running]) :=
    rfl
  rw [order, findSome?_taking, List.findSome?_append, ← failure?_runQuery, attempt_eq]
  cases searcher.failureAt visit .taking with
  | some failure => rfl
  | none =>
    cases [Stage.reading, .scoping, .naming].findSome? (searcher.failureAt visit) <;> rfl

theorem attempt_guard : (searcher.attempt visit).guard = visit.guard := by
  rw [attempt_eq]
  cases searcher.failureAt visit .taking with
  | some failure => rfl
  | none =>
    cases [Stage.reading, .scoping, .naming].findSome? (searcher.failureAt visit) <;> rfl

theorem attempt_lookups :
    (searcher.attempt visit).lookups =
      if [Stage.taking, .reading, .scoping].findSome? (searcher.failureAt visit) = none
      then (Request.lookups (searcher.directory visit.store) searcher.settings visit.words).map
        (·, true)
      else [] := by
  have nobody := searcher.lookups_eq_nil visit
  rw [findSome?_taking, attempt_eq]
  cases searcher.failureAt visit .taking with
  | some failure => rfl
  | none =>
    rw [Option.none_or]
    split_ifs with early
    · cases [Stage.reading, .scoping, .naming].findSome? (searcher.failureAt visit) <;> rfl
    · rw [nobody early]
      cases [Stage.reading, .scoping, .naming].findSome? (searcher.failureAt visit) <;> rfl

/-- What a search puts on the shelf: nothing, unless it comes to preparing its statements. -/
def gained : List (List Char × Prepared) :=
  if [Stage.taking, .reading, .scoping, .naming].findSome? (searcher.failureAt visit) = none
  then searcher.shelf.gained visit.store (searcher.queryFor visit)
  else []

theorem attempt_searcher :
    (searcher.attempt visit).searcher =
      { searcher with shelf := ⟨searcher.gained visit ++ searcher.shelf.kept⟩ } := by
  rw [gained, findSome?_taking, attempt_eq]
  cases searcher.failureAt visit .taking with
  | some failure => rfl
  | none =>
    rw [Option.none_or, runQuery_eq, Shelf.fetch_shelf]
    cases [Stage.reading, .scoping, .naming].findSome? (searcher.failureAt visit) <;> rfl

theorem gained_cases :
    searcher.gained visit = [] ∨
      ∃ prepared, (searcher.queryFor visit).prepare visit.store = .ok prepared ∧
        searcher.gained visit = [((searcher.queryFor visit).paginated, prepared)] := by
  unfold gained
  split
  · exact Shelf.gained_cases _ _ _
  · exact Or.inl rfl

theorem gained_ne_nil :
    searcher.gained visit ≠ [] ↔
      searcher.shelf.contains (searcher.queryFor visit) = false ∧
        ∀ stage, stage ≠ .running → searcher.failureAt visit stage = none := by
  have preparing (absent : searcher.shelf.contains (searcher.queryFor visit) = false) :
      searcher.failureAt visit .preparing =
        failure? ((searcher.queryFor visit).prepare visit.store) := by
    rw [failureAt, absent]
    rfl
  unfold gained
  split_ifs with early
  · rw [Shelf.gained_ne_nil]
    rw [List.findSome?_eq_none_iff] at early
    constructor
    · rintro ⟨absent, prepared⟩
      refine ⟨absent, ?_⟩
      intro stage before
      cases stage with
      | preparing => rw [preparing absent, prepared]
      | running => exact absurd rfl before
      | taking => exact early .taking (by decide)
      | reading => exact early .reading (by decide)
      | scoping => exact early .scoping (by decide)
      | naming => exact early .naming (by decide)
    · rintro ⟨absent, passed⟩
      exact ⟨absent, preparing absent ▸ passed .preparing (by decide)⟩
  · simp only [ne_eq, not_true_eq_false, false_iff]
    rintro ⟨_, passed⟩
    apply early
    rw [List.findSome?_eq_none_iff]
    intro stage member
    apply passed
    rintro rfl
    exact absurd member (by decide)

end Searcher

namespace Service

theorem put_self {α : Type} (name : String) (values : String → α) :
    put name (values name) values = values := by
  funext other
  unfold put
  split
  · rename_i same
    rw [same]
  · rfl

/-- A search through a service changes nothing there but the searcher's shelf. -/
theorem searchBy_eq (service : Service) (timing : Timing) (name : String) (client : Client)
    (origin : Origin) (words : List String) :
    let visit : Visit := ⟨service.store, timing, service.guards client.guard, origin, words⟩
    let report := client.searcher.attempt visit
    service.searchBy timing name client origin words =
      ({ service with
          clients := put name (some { client with searcher := report.searcher }) service.clients },
        ⟨report.answer, report.searcher.kept, report.guard.isBusy, report.lookups⟩) := by
  intro visit report
  have same : put client.guard report.guard service.guards = service.guards := by
    have guard : report.guard = service.guards client.guard := client.searcher.attempt_guard visit
    rw [guard, put_self]
  have searched : service.searchBy timing name client origin words =
      ({ service with
          guards := put client.guard report.guard service.guards
          clients := put name (some { client with searcher := report.searcher }) service.clients },
        ⟨report.answer, report.searcher.kept, report.guard.isBusy, report.lookups⟩) := rfl
  rw [searched, same]

section

variable {service : Service} {name : String} {client : Client}
  (installed : service.clients name = some client)

include installed

theorem perform_search (timing : Timing) (origin : Origin) (words : List String) :
    service.perform timing (.search name origin words) =
      ((service.searchBy timing name client origin words).1,
        .ok (.searched (service.searchBy timing name client origin words).2)) := by
  simp only [perform, installed]

theorem perform_process (timing : Timing) (origin : Origin) (words : List String) :
    service.perform timing (.process name origin words) =
      ((service.searchBy timing name client origin words).1,
        (Searcher.replyTo (service.searchBy timing name client origin words).2.answer).map
          fun reply => .replied reply (service.searchBy timing name client origin words).2) := by
  simp only [perform, installed]

end

/-- A search fails with the first stage that has a failure, and succeeds if none has. Nobody is
looked up when one of the first three stages fails. Whatever happens, nothing is changed but the
searcher's own shelf, which gains the statements of the query if it has none for it and every stage
before running them passes, and else nothing. -/
theorem perform_search_stages {service : Service} {name : String} {client : Client}
    (installed : service.clients name = some client) (timing : Timing) (origin : Origin)
    (words : List String) :
    let searcher := client.searcher
    let visit : Visit := ⟨service.store, timing, service.guards client.guard, origin, words⟩
    let query := searcher.queryFor visit
    ∃ next shown gained,
      service.perform timing (.search name origin words) = (next, .ok (.searched shown)) ∧
      (∀ failure, shown.answer = .error failure ↔
        Stage.all.findSome? (searcher.failureAt visit) = some failure) ∧
      (∀ stage failure, searcher.failureAt visit stage = some failure →
        searcher.Reports visit stage failure) ∧
      (∀ stage ∈ [Stage.taking, .reading, .scoping], searcher.failureAt visit stage ≠ none →
        shown.lookups = []) ∧
      next.store = service.store ∧ next.guards = service.guards ∧
      next.permits = service.permits ∧ next.shelf = service.shelf ∧
      (∀ other, other ≠ name → next.clients other = service.clients other) ∧
      next.clients name =
        some ⟨{ searcher with shelf := ⟨gained ++ searcher.shelf.kept⟩ }, client.guard⟩ ∧
      (gained = [] ∨ ∃ prepared, query.prepare service.store = .ok prepared ∧
        gained = [(query.paginated, prepared)]) ∧
      (gained ≠ [] ↔ searcher.shelf.contains query = false ∧
        ∀ stage, stage ≠ .running → searcher.failureAt visit stage = none) := by
  intro searcher visit query
  have performed := perform_search installed timing origin words
  rw [searchBy_eq] at performed
  refine ⟨_, _, searcher.gained visit, performed, ?_, ?_, ?_, rfl, rfl, rfl, rfl, ?_, ?_, ?_, ?_⟩
  · intro failure
    rw [← failure?_eq_some, ← searcher.failure?_attempt visit]
  · intro stage failure
    exact searcher.failureAt_reports visit
  · intro stage early failed
    have refused : ¬ [Stage.taking, .reading, .scoping].findSome? (searcher.failureAt visit) =
        none := by
      intro passed
      exact failed (List.findSome?_eq_none_iff.mp passed stage early)
    exact (searcher.attempt_lookups visit).trans (if_neg refused)
  · intro other different
    exact if_neg different
  · rw [← searcher.attempt_searcher visit]
    exact if_pos rfl
  · exact searcher.gained_cases visit
  · exact searcher.gained_ne_nil visit

/-- Statements stay on the shelf although the asking message has an id too large to run them. -/
theorem perform_search_stages_unstorable :
    let client : Client := ⟨.overLog .builtIn, "main"⟩
    let service : Service :=
      { start with
        store := ⟨some [], some [], some []⟩
        clients := put "log" (some client) fun _ => none }
    let timing := Timing.once ⟨0, 0⟩
    let origin : Origin := ⟨0x8000000000000000, 0, 0⟩
    service.clients "log" = some client ∧
      ∃ next shown gained,
        service.perform timing (.search "log" origin ["hello"]) = (next, .ok (.searched shown)) ∧
        shown.answer = .error .storage ∧ gained ≠ [] ∧
        next.clients "log" = some ⟨{ client.searcher with shelf := ⟨gained⟩ }, "main"⟩ := by
  intro client service timing origin
  have installed : service.clients "log" = some client := rfl
  obtain ⟨next, shown, gained, performed, fails, _, _, _, _, _, _, _, own, _, gains⟩ :=
    perform_search_stages installed timing origin ["hello"]
  have ended : Stage.all.findSome? (client.searcher.failureAt
      ⟨service.store, timing, service.guards client.guard, origin, ["hello"]⟩) =
        some .storage := by decide +kernel
  have passed : [Stage.taking, .reading, .scoping, .naming, .preparing].findSome?
      (client.searcher.failureAt
        ⟨service.store, timing, service.guards client.guard, origin, ["hello"]⟩) =
          none := by decide +kernel
  refine ⟨installed, next, shown, gained, performed, (fails .storage).mpr ended, ?_, ?_⟩
  · apply gains.mpr
    refine ⟨rfl, ?_⟩
    intro stage before
    apply List.findSome?_eq_none_iff.mp passed
    cases stage with
    | running => exact absurd rfl before
    | _ => decide
  · rw [own]
    simp [client, Searcher.overLog, Shelf.empty]

end Service

end ChatLog
