import ChatLog.Proofs.Rows

/-!
What a search answers. An outcome tells how many messages are sought when they are counted, and
lists the part that is asked for of those that are sought when they are listed. There is an outcome,
if anything is sought at all, where the statements can be prepared and run, there is room for the
part, and its times can be read; of these only the last two depend on which part is asked for.
-/
namespace ChatLog

theorem Span.page_subset {α : Type} (most : UInt64) (listing : List α) (span : Span) :
    span.page most listing ⊆ listing := by
  cases span with
  | countOnly => exact List.nil_subset _
  | rows first last => exact ((List.take_sublist _ _).trans (List.drop_sublist _ _)).subset

theorem filterM_ok {α : Type} {test : α → Except Failure Bool} {items kept : List α}
    (filtered : items.filterM test = .ok kept) :
    kept = items.filter fun item => test item = .ok true := by
  obtain ⟨_, done, _⟩ := bind_ok_iff.mp filtered
  have reached : ∀ {items found kept : List α}, items.filterAuxM test found = .ok kept →
      ∀ item ∈ items, ∃ met, test item = .ok met := by
    intro items
    induction items with
    | nil => simp
    | cons item items ih =>
      intro found kept done
      obtain ⟨met, tested, rest⟩ := bind_ok_iff.mp done
      exact List.forall_mem_cons.mpr ⟨⟨met, tested⟩, ih rest⟩
  have tested : ∀ item ∈ items, test item = .ok (decide (test item = .ok true)) := by
    intro item member
    obtain ⟨met, ok⟩ := reached done item member
    cases met <;> simp [ok]
  exact Except.ok.inj (filtered.symm.trans (filterM_eq_filter test _ items tested))

/-- What a query is answered with statements from a shelf. -/
def Shelf.answer (shelf : Shelf) (store : Store) (timing : Timing) (query : Query)
    (most : UInt64) : Except Failure Outcome := do
  let prepared ← (shelf.fetch store query).1
  (prepared.on store timing).run query.params query.span most

open Query (ordered)

/-- What an outcome says of a count and of the messages that are found, when a span of them is asked
for. -/
def Outcome.Tells (reader : TimeReader) (users : List User) (count : Nat) (found : List Message)
    (span : Span) (most : UInt64) : Outcome → Prop
  | .noResults => count = 0
  | .counted told => count ≠ 0 ∧ told = count ∧ span = .countOnly
  | .noneInRange told => count ≠ 0 ∧ told = count ∧ span ≠ .countOnly ∧
      span.page most (ordered users found) = []
  | .listed told rows => count ≠ 0 ∧ told = count ∧ span ≠ .countOnly ∧ rows ≠ [] ∧
      List.Forall₂ (Row.Shows reader users) rows (span.page most (ordered users found))

theorem Statements.run_tells {statements : Statements} {params : List Param} {count : Nat}
    (counted : statements.count params = .ok (some count)) {reader : TimeReader}
    {users : List User} {found : List Message} {span : Span} {most : UInt64}
    (shows : ∀ window rows, span.window? most = some window →
      statements.fetch params window = .ok rows →
      List.Forall₂ (Row.Shows reader users) rows (span.page most (ordered users found)))
    {outcome : Outcome} (ran : statements.run params span most = .ok outcome) :
    outcome.Tells reader users count found span most := by
  rcases run_ok counted ran with ⟨nothing, rfl⟩ | ⟨matched, counting, rfl⟩ |
    ⟨matched, listing, window, rows, shrunk, fetched, rfl⟩
  · exact nothing
  · exact ⟨matched, rfl, counting⟩
  · have shown := shows window rows shrunk fetched
    by_cases unlisted : rows = []
    · rw [unlisted] at shown
      rw [if_pos unlisted]
      exact ⟨matched, rfl, listing, List.forall₂_nil_left_iff.mp shown⟩
    · rw [if_neg unlisted]
      exact ⟨matched, rfl, listing, unlisted, shown⟩

namespace Query

variable {criteria : Criteria} {origin : Origin} {settings : Settings} {messages : List Message}

theorem sought_withSpan (span : Span) (now : Moment) :
    sought { criteria with span := span } origin settings now messages =
      sought criteria origin settings now messages := by
  apply List.filter_congr
  intro message _
  rw [decide_eq_decide]
  constructor
  · rintro ⟨⟨author, channel, text, recent⟩, admits⟩
    exact ⟨⟨author, channel, text, recent⟩, admits⟩
  · rintro ⟨⟨author, channel, text, recent⟩, admits⟩
    exact ⟨⟨author, channel, text, recent⟩, admits⟩

theorem mem_of_page {users : List User} {span : Span} {most : UInt64} {now : Moment}
    {message : Message} (member : message ∈
      span.page most (ordered users (sought criteria origin settings now messages))) :
    message ∈ messages := by
  have listed := Span.page_subset most _ span member
  have found := (List.mem_filter.mp ((ordered_perm users _).mem_iff.mp listed)).1
  exact (List.mem_filter.mp found).1

theorem messages_of_answer {shelf : Shelf} {store : Store} {timing : Timing} {query : Query}
    {most : UInt64} {outcome : Outcome}
    (answered : shelf.answer store timing query most = .ok outcome) :
    ∃ messages, store.messages = some messages := by
  obtain ⟨prepared, _, ran⟩ := bind_ok_iff.mp answered
  obtain ⟨count, counted, _⟩ := bind_ok_iff.mp ran
  obtain ⟨statement, listing⟩ := prepared
  cases statement with
  | listing condition paging => cases counted
  | count condition =>
    obtain ⟨messages, there, _⟩ := bind_ok_iff.mp counted
    exact ⟨messages, Store.rows_ok_iff.mp there⟩

/-- A message that a search is for has been tested against all its patterns. -/
theorem testable_of_asks {now : Moment} {message : Message} (asks : criteria.Asks now message)
    (admits : origin.Admits settings message) :
    ∀ value ∈ (ofCriteria criteria origin settings).params, value.isTestable := by
  have short {pattern text : String} {met : Bool}
      (tested : Store.matchesPattern pattern text = .ok met) :
      Text.Wildcard.tooLong pattern = false := by
    unfold Store.matchesPattern at tested
    split_ifs at tested with long
    exact Bool.eq_false_of_not_eq_true long
  apply testable_params origin _ (short admits.plain)
  rcases asks.text with empty | like
  · rw [empty]
    decide
  · exact short like

theorem testable_of_sought {now : Moment}
    (matched : sought criteria origin settings now messages ≠ []) :
    ∀ value ∈ (ofCriteria criteria origin settings).params, value.isTestable := by
  obtain ⟨message, member⟩ := List.exists_mem_of_ne_nil _ matched
  obtain ⟨asks, admits⟩ := of_decide_eq_true (List.mem_filter.mp member).2
  exact testable_of_asks asks admits

theorem sought_of_counted {store : Store} (log : store.messages = some messages) {now : Moment}
    {count : Option Nat}
    (counted : store.answerCount now (ofCriteria criteria origin settings).count
      (ofCriteria criteria origin settings).params = .ok count) :
    (ofCriteria criteria origin settings).params.all Param.isStorable = true ∧
      count = some (sought criteria origin settings now messages).length := by
  rw [Store.answerCount_eq_map log] at counted
  split_ifs at counted with storable
  obtain ⟨found, tested, rfl⟩ := map_ok_iff.mp counted
  refine ⟨storable, ?_⟩
  rw [filterM_ok tested]
  simp only [clause_holds]
  rfl

section

variable {shelf : Shelf} (sound : shelf.Sound) {store : Store}
  (log : store.messages = some messages) {timing : Timing} {most : UInt64}

include sound log

/-- A search that is answered at all has counted the messages it is for. -/
theorem counted_of_answer {outcome : Outcome} (answered :
      shelf.answer store timing (ofCriteria criteria origin settings) most = .ok outcome) :
    let query := ofCriteria criteria origin settings
    let statements := (⟨query.count, query.listing⟩ : Prepared).on store timing
    (shelf.fetch store query).1 = .ok ⟨query.count, query.listing⟩ ∧
      query.params.all Param.isStorable = true ∧
      statements.count query.params =
        .ok (some (sought criteria origin settings timing.onCount messages).length) ∧
      statements.run query.params query.span most = .ok outcome := by
  intro query statements
  obtain ⟨prepared, fetched, ran⟩ := bind_ok_iff.mp answered
  have pair := Shelf.fetch_pair sound (ofCriteria_proper criteria origin settings) store fetched
  subst pair
  obtain ⟨count, counted, _⟩ := bind_ok_iff.mp ran
  obtain ⟨storable, rfl⟩ := sought_of_counted log counted
  exact ⟨fetched, storable, counted, ran⟩

theorem count_of_answer {outcome : Outcome} (answered :
      shelf.answer store timing (ofCriteria criteria origin settings) most = .ok outcome) :
    outcome.count = (sought criteria origin settings timing.onCount messages).length := by
  obtain ⟨_, _, counted, ran⟩ := counted_of_answer sound log answered
  exact Statements.count_of_run counted ran

variable {users : List User} (named : store.users = some users)

include named

/-- A search that finds something runs, whatever span of its matches is asked for. -/
theorem runs_of_answer {outcome : Outcome} (answered :
      shelf.answer store timing (ofCriteria criteria origin settings) most = .ok outcome)
    (matched : sought criteria origin settings timing.onCount messages ≠ []) :
    Runs criteria origin settings := by
  obtain ⟨fetched, storable, _⟩ := counted_of_answer sound log answered
  have height := (fetch_ok_iff sound (by rw [named]; rfl) (by rw [log]; rfl)).mp fetched
  exact ⟨height.1, storable, testable_of_sought matched⟩

variable (keyed : store.Keyed)

include keyed

/-- Whatever a search is answered tells of the messages that it is for. -/
theorem tells_of_answer {outcome : Outcome} (answered :
      shelf.answer store timing (ofCriteria criteria origin settings) most = .ok outcome) :
    outcome.Tells timing.reader users
      (sought criteria origin settings timing.onCount messages).length
      (sought criteria origin settings timing.onListing messages) criteria.span most := by
  obtain ⟨_, storable, counted, ran⟩ := counted_of_answer sound log answered
  by_cases matched : sought criteria origin settings timing.onCount messages = []
  · rw [matched] at counted ⊢
    cases ran.symm.trans ((Statements.run_noResults_iff counted).mpr rfl)
    exact rfl
  have runs := runs_of_answer sound log named answered matched
  refine Statements.run_tells counted ?_ ran
  intro window rows shrunk fetched
  exact shows_of_fetch shrunk (runs.length_sought (keyed.messages messages log) _)
    (runs.listing_eq shrunk named log timing) fetched

namespace Runs

variable (runs : Runs criteria origin settings)

include runs

omit keyed in
theorem answer_eq :
    let query := ofCriteria criteria origin settings
    shelf.answer store timing query most =
      ((⟨query.count, query.listing⟩ : Prepared).on store timing).run query.params criteria.span
        most := by
  intro query
  have fetched : (shelf.fetch store query).1 = .ok ⟨query.count, query.listing⟩ :=
    (fetch_ok_iff sound (by rw [named]; rfl) (by rw [log]; rfl)).mpr ⟨runs.height, rfl⟩
  rw [Shelf.answer, fetched]
  rfl

omit keyed in
theorem answer_full (matched : sought criteria origin settings timing.onCount messages ≠ [])
    {window : Window} (shrunk : criteria.span.window? most = some window)
    (full : window.hasRoom = false) :
    shelf.answer store timing (ofCriteria criteria origin settings) most = .error .noRoom := by
  have counted := runs.count_eq log timing
  rw [runs.answer_eq sound log named, Statements.run_fetches counted
    (mt List.length_eq_zero_iff.mp matched) shrunk, runs.fetch_full shrunk store timing full]
  rfl

theorem answer_ok
    (room : ∀ window, criteria.span.window? most = some window → window.hasRoom = true)
    (readable : ∀ message ∈ criteria.span.page most
      (ordered users (sought criteria origin settings timing.onListing messages)),
      (timing.reader.read? message.time).isSome) :
    ∃ outcome, shelf.answer store timing (ofCriteria criteria origin settings) most =
      .ok outcome := by
  rw [runs.answer_eq sound log named]
  have counted := runs.count_eq log timing
  by_cases nothing : (sought criteria origin settings timing.onCount messages).length = 0
  · exact ⟨_, (Statements.run_noResults_iff counted).mpr nothing⟩
  cases shrunk : criteria.span.window? most with
  | none =>
    have counting : criteria.span = .countOnly := (Span.window?_eq_none _ most).mp shrunk
    exact ⟨_, (Statements.run_counted_iff counted nothing).mpr counting⟩
  | some window =>
    obtain ⟨rows, fetched, _⟩ :=
      runs.fetch_eq shrunk keyed named log (room window shrunk) readable
    rw [Statements.run_fetches counted nothing shrunk]
    exact ⟨_, map_ok_iff.mpr ⟨rows, fetched, rfl⟩⟩

end Runs

end

end Query

end ChatLog
