import ChatLog.Proofs.Keys
import ChatLog.Proofs.Request

/-!
Which failures the parts of a search can end with. A word that cannot be read is told in one of four
ways, a name matches nobody or its directory's failure is passed on, statements that cannot be
prepared are told as such, and whatever goes wrong in answering them is a failure of the storage,
unless there is no room for the rows.
-/
namespace ChatLog

/-- A result that fails in the allowed ways only. -/
def FailsOnly {α : Type} (allowed : Failure → Prop) (result : Except Failure α) : Prop :=
  ∀ failure, result = .error failure → allowed failure

/-- The failures of a word that cannot be read. -/
def Failure.IsUnreadable : Failure → Prop
  | .noUsers => True
  | .unknownChannel _ => True
  | .noSeconds => True
  | .malformed _ _ => True
  | _ => False

/-- The failures of running statements that have been prepared. -/
def Failure.IsOfRunning (span : Span) (most : UInt64) (failure : Failure) : Prop :=
  failure = .storage ∨
    failure = .noRoom ∧ ∃ window, span.window? most = some window ∧ window.hasRoom = false

namespace FailsOnly

variable {α β : Type} {allowed : Failure → Prop}

theorem ok (found : α) : FailsOnly allowed (.ok found) := by
  intro failure failed
  cases failed

theorem error {failure : Failure} (known : allowed failure) :
    FailsOnly allowed (.error failure : Except Failure α) := by
  intro other failed
  cases failed
  exact known

theorem mono {wider : Failure → Prop} {result : Except Failure α}
    (fails : FailsOnly allowed result) (more : ∀ failure, allowed failure → wider failure) :
    FailsOnly wider result :=
  fun failure failed => more failure (fails failure failed)

theorem bind {step : Except Failure α} {next : α → Except Failure β}
    (first : FailsOnly allowed step)
    (second : ∀ found, step = .ok found → FailsOnly allowed (next found)) :
    FailsOnly allowed (step >>= next) := by
  cases step with
  | error failure => exact error (first failure rfl)
  | ok found => exact second found rfl

theorem map {result : Except Failure α} (fails : FailsOnly allowed result) (change : α → β) :
    FailsOnly allowed (result.map change) := by
  cases result with
  | error failure => exact error (fails failure rfl)
  | ok found => exact ok (change found)

theorem mapM {step : α → Except Failure β} (each : ∀ item, FailsOnly allowed (step item))
    (items : List α) : FailsOnly allowed (items.mapM step) := by
  induction items with
  | nil => exact ok []
  | cons item items ih =>
    rw [List.mapM_cons]
    exact (each item).bind fun _ _ => ih.bind fun _ _ => ok _

variable {test : α → Except Failure Bool} (each : ∀ item, FailsOnly allowed (test item))

include each

theorem anyM (items : List α) : FailsOnly allowed (items.anyM test) := by
  induction items with
  | nil => exact ok false
  | cons item items ih =>
    apply (each item).bind
    intro holds _
    cases holds with
    | true => exact ok true
    | false => exact ih

theorem allM (items : List α) : FailsOnly allowed (items.allM test) := by
  induction items with
  | nil => exact ok true
  | cons item items ih =>
    apply (each item).bind
    intro holds _
    cases holds with
    | true => exact ih
    | false => exact ok false

theorem filterM (items : List α) : FailsOnly allowed (items.filterM test) := by
  have kept (found : List α) : FailsOnly allowed (items.filterAuxM test found) := by
    induction items generalizing found with
    | nil => exact ok found
    | cons item items ih => exact (each item).bind fun _ _ => ih _
  exact (kept []).bind fun _ _ => ok _

end FailsOnly

section

variable {α β : Type} {step : α → Except Failure β}

/-- Where steps fail, every item before the one that is told passes. -/
theorem firstFailure_eq_some_iff {items : List α} {failure : Failure} :
    firstFailure step items = some failure ↔ ∃ before item behind,
      items = before ++ item :: behind ∧ (∀ earlier ∈ before, ∃ result, step earlier = .ok result) ∧
        step item = .error failure := by
  constructor
  · intro failed
    obtain ⟨before, item, behind, split, told, passed⟩ := List.findSome?_eq_some_iff.mp failed
    refine ⟨before, item, behind, split, (firstFailure_eq_none step before).mp ?_, ?_⟩
    · exact List.findSome?_eq_none_iff.mpr passed
    · cases done : step item <;> simp_all
  · rintro ⟨before, item, behind, rfl, passed, failed⟩
    have clear := (firstFailure_eq_none step before).mpr passed
    rw [firstFailure] at clear ⊢
    rw [List.findSome?_append, clear, List.findSome?_cons, failed]
    rfl

theorem firstFailure_eq_some {items : List α} {failure : Failure}
    (failed : firstFailure step items = some failure) :
    ∃ item ∈ items, step item = .error failure := by
  obtain ⟨before, item, behind, rfl, _, told⟩ := firstFailure_eq_some_iff.mp failed
  exact ⟨item, by simp, told⟩

theorem mapM_ok_iff {items : List α} {results : List β} : items.mapM step = .ok results ↔
    List.Forall₂ (fun item result => step item = .ok result) items results := by
  induction items generalizing results with
  | nil => simp [List.forall₂_nil_left_iff, pure, Except.pure, eq_comm]
  | cons item items ih =>
    rw [List.mapM_cons, bind_ok_iff, List.forall₂_cons_left_iff]
    constructor
    · rintro ⟨result, done, rest⟩
      obtain ⟨others, tail, equal⟩ := bind_ok_iff.mp rest
      cases equal
      exact ⟨result, others, done, ih.mp tail, rfl⟩
    · rintro ⟨result, others, done, tail, rfl⟩
      exact ⟨result, done, bind_ok_iff.mpr ⟨others, ih.mpr tail, rfl⟩⟩

theorem mapM_error_iff {items : List α} {failure : Failure} :
    items.mapM step = .error failure ↔ firstFailure step items = some failure := by
  induction items with
  | nil => simp [firstFailure, pure, Except.pure]
  | cons item items ih =>
    rw [List.mapM_cons]
    cases done : step item with
    | error other => simp [firstFailure_cons_error step done, bind, Except.bind]
    | ok result =>
      rw [firstFailure_cons_ok step done, ← ih]
      cases items.mapM step <;> simp [bind, Except.bind, pure, Except.pure]

end

namespace Request

theorem idsOf_failsOnly (directory : Directory) (limit : UInt64) (reference : String) :
    FailsOnly (fun failure => failure = .unknownUser (nameOf reference) ∨
      ∃ cause, failure = .told cause ∧
        directory (lookupFor (nameOf reference) limit) = .error cause)
      (idsOf directory limit reference) := by
  unfold idsOf
  split
  · exact .ok _
  · split
    · rename_i cause answer
      exact .error (Or.inr ⟨cause, rfl, answer⟩)
    · exact .error (Or.inl rfl)
    · exact .ok _

theorem findUsers_failsOnly (directory : Directory) (limit : UInt64) (references : List String)
    (known : IdSet) :
    FailsOnly (fun failure => ∃ reference ∈ references,
        failure = .unknownUser (nameOf reference) ∨
          ∃ cause, failure = .told cause ∧
            directory (lookupFor (nameOf reference) limit) = .error cause)
      (findUsers directory limit references known).2 := by
  rw [findUsers_eq]
  split
  · rename_i failure failed
    obtain ⟨reference, member, unknown⟩ := firstFailure_eq_some failed
    exact .error ⟨reference, member, idsOf_failsOnly directory limit reference failure unknown⟩
  · exact .ok _

end Request

theorem Query.prepare_failsOnly (query : Query) (store : Store) :
    FailsOnly (· = .unprepared) (query.prepare store) := by
  have each (text : List Char) : FailsOnly (· = .unprepared) (store.prepare text) := by
    unfold Store.prepare
    split
    · split
      · exact .ok _
      · exact .error rfl
    · exact .error rfl
  exact (each _).bind fun _ _ => (each _).bind fun _ _ => .ok _

theorem Shelf.fetch_failsOnly (shelf : Shelf) (store : Store) (query : Query) :
    FailsOnly (· = .unprepared) (shelf.fetch store query).1 := by
  unfold fetch
  cases shelf.find? query with
  | some prepared => exact .ok prepared
  | none =>
    have fails := query.prepare_failsOnly store
    cases made : query.prepare store with
    | ok prepared => exact .ok prepared
    | error failure => exact .error (fails failure made)

namespace Store

theorem rows_failsOnly {α : Type} (table : Option (List α)) :
    FailsOnly (· = .storage) (rows table) := by
  cases table with
  | none => exact .error rfl
  | some rows => exact .ok rows

theorem matchesPattern_failsOnly (pattern text : String) :
    FailsOnly (· = .storage) (matchesPattern pattern text) := by
  unfold matchesPattern
  split
  · exact .error rfl
  · exact .ok _

theorem bind_failsOnly (condition : Clause Unit) (params : List Param) :
    FailsOnly (· = .storage) (bind condition params) := by
  unfold bind
  split
  · split
    · exact .ok _
    · exact .error rfl
  · exact .error rfl

theorem pageBounds_failsOnly (paging : Paging) (params : List Param) :
    FailsOnly (· = .storage) (pageBounds paging params) := by
  unfold pageBounds
  split
  · exact .ok _
  · exact .ok _
  · exact .ok _
  · exact .error rfl

theorem filterM_failsOnly (now : Moment) (clause : Clause Param) (messages : List Message) :
    FailsOnly (· = .storage) (messages.filterM (clause.holds now)) := by
  have fits (message : Message) (value : Param) :
      FailsOnly (· = .storage) (message.fits value) := by
    cases value with
    | text pattern => exact matchesPattern_failsOnly pattern message.text
    | id value => exact .ok _
    | int value => exact .ok _
  have comparison (message : Message) (comparison : Comparison Param) :
      FailsOnly (· = .storage) (comparison.holds now message) := by
    cases comparison with
    | equals column value => exact .ok _
    | differs column value => exact .ok _
    | like pattern => exact fits message pattern
    | unlike pattern => exact (fits message pattern).bind fun _ _ => .ok _
    | newer seconds => exact .ok _
  have factor (message : Message) (factor : Factor Param) :
      FailsOnly (· = .storage) (factor.holds now message) :=
    .anyM (comparison message) factor.comparisons
  exact .filterM (fun message => .allM (factor message) clause) messages

theorem answerCount_failsOnly (store : Store) (now : Moment) (statement : Statement)
    (params : List Param) : FailsOnly (· = .storage) (store.answerCount now statement params) := by
  cases statement with
  | listing condition paging => exact .error rfl
  | count condition =>
    apply (rows_failsOnly store.messages).bind
    intro messages _
    apply (bind_failsOnly condition params).bind
    rintro ⟨clause, left⟩ _
    cases left with
    | nil => exact (filterM_failsOnly now clause messages).bind fun _ _ => .ok _
    | cons value left => exact .error rfl

/-- A count gives a row whenever it is answered at all. -/
theorem answerCount_isSome {store : Store} {now : Moment} {statement : Statement}
    {params : List Param} {count : Option Nat}
    (answered : store.answerCount now statement params = .ok count) : count.isSome := by
  cases statement with
  | listing condition paging => cases answered
  | count condition =>
    obtain ⟨messages, _, answered⟩ := bind_ok_iff.mp answered
    obtain ⟨⟨clause, left⟩, _, answered⟩ := bind_ok_iff.mp answered
    cases left with
    | nil =>
      obtain ⟨matching, _, answered⟩ := bind_ok_iff.mp answered
      cases answered
      rfl
    | cons value left => cases answered

theorem answerListing_failsOnly (store : Store) (now : Moment) (statement : Statement)
    (params : List Param) :
    FailsOnly (· = .storage) (store.answerListing now statement params) := by
  cases statement with
  | count condition => exact .error rfl
  | listing condition paging =>
    apply (rows_failsOnly store.messages).bind
    intro messages _
    apply (rows_failsOnly store.users).bind
    intro users _
    apply (bind_failsOnly condition params).bind
    rintro ⟨clause, left⟩ _
    apply (pageBounds_failsOnly paging left).bind
    rintro ⟨limit, offset⟩ _
    exact (filterM_failsOnly now clause messages).bind fun _ _ => .ok _

end Store

/-- Whatever statements were prepared, running them fails as the storage does or for want of
room. -/
theorem Prepared.run_failsOnly (prepared : Prepared) (store : Store) (timing : Timing)
    (params : List Param) (span : Span) (most : UInt64) :
    FailsOnly (Failure.IsOfRunning span most)
      ((prepared.on store timing).run params span most) := by
  have storage {α : Type} {result : Except Failure α} (fails : FailsOnly (· = .storage) result) :
      FailsOnly (Failure.IsOfRunning span most) result :=
    fails.mono fun _ => Or.inl
  have fetch (window : Window) (shrunk : span.window? most = some window) :
      FailsOnly (Failure.IsOfRunning span most)
        ((prepared.on store timing).fetch params window) := by
    have read (row : Option Row) : FailsOnly (· = .storage) (Statements.readRow row) := by
      cases row with
      | none => exact .error rfl
      | some row => exact .ok row
    cases accepted : (prepared.on store timing).accepts (params ++ window.params) with
    | false =>
      rw [Statements.fetch_of_refused _ accepted]
      exact storage (.error rfl)
    | true =>
      cases room : window.hasRoom with
      | false =>
        rw [Statements.fetch_of_full _ accepted room]
        exact .error (Or.inr ⟨rfl, window, shrunk, room⟩)
      | true =>
        rw [Statements.fetch_of_room _ accepted room]
        exact storage ((store.answerListing_failsOnly _ prepared.listing _).bind
          fun stream _ => .mapM read (stream.take window.limit.toNat))
  apply (storage (store.answerCount_failsOnly _ prepared.count params)).bind
  intro count answered
  cases count with
  | none => cases Store.answerCount_isSome answered
  | some count =>
    cases count with
    | zero => exact .ok _
    | succ count =>
      cases shrunk : span.window? most with
      | none => exact .ok _
      | some window =>
        apply (fetch window shrunk).bind
        intro rows _
        cases rows with
        | nil => exact .ok _
        | cons row rows => exact .ok _

end ChatLog
