import ChatLog.Proofs.Condition
import ChatLog.Shelf
import Mathlib.Data.List.Nodup
import Mathlib.Data.String.Basic

/-!
What the statements of a query answer from the tables. The count is the number of messages that
meet the query's clause; the listing is the window of those messages, newest first, whose authors
have a name. The order of a listing is that of times and ids alone, so it does not show in which
order the messages were logged.
-/
namespace ChatLog

theorem filterM_eq_filter {α : Type} (test : α → Except Failure Bool) (met : α → Bool)
    (items : List α) (tested : ∀ item ∈ items, test item = .ok (met item)) :
    items.filterM test = .ok (items.filter met) := by
  have aux (found : List α) :
      items.filterAuxM test found = .ok ((items.filter met).reverse ++ found) := by
    induction items generalizing found with
    | nil => rfl
    | cons item items ih =>
      have rest := ih fun other member => tested other (List.mem_cons_of_mem _ member)
      have step : (item :: items).filterAuxM test found =
          items.filterAuxM test (cond (met item) (item :: found) found) := by
        simp only [List.filterAuxM, tested item List.mem_cons_self]
        rfl
      rw [step, rest]
      cases kept : met item <;> simp [kept]
  have whole := aux []
  simp only [List.filterM, whole, List.append_nil]
  simp [bind, Except.bind, pure, Except.pure]

namespace Store

theorem listedBefore_iff (first second : Message) :
    listedBefore first second = true ↔
      second.time < first.time ∨ first.time = second.time ∧ second.id ≤ first.id := by
  simp only [listedBefore, Bool.or_eq_true, Bool.and_eq_true, decide_eq_true_eq, beq_iff_eq]

theorem listedBefore_trans (first second third : Message) (before : listedBefore first second)
    (behind : listedBefore second third) : listedBefore first third := by
  rw [listedBefore_iff] at *
  rcases before with later | ⟨same, larger⟩
  · rcases behind with after | ⟨equal, _⟩
    · exact Or.inl (lt_trans after later)
    · exact Or.inl (equal ▸ later)
  · rcases behind with after | ⟨equal, below⟩
    · exact Or.inl (same ▸ after)
    · exact Or.inr ⟨same.trans equal, UInt64.le_trans below larger⟩

theorem listedBefore_total (first second : Message) :
    (listedBefore first second || listedBefore second first) = true := by
  rw [Bool.or_eq_true, listedBefore_iff, listedBefore_iff]
  rcases lt_trichotomy first.time second.time with earlier | same | later
  · exact Or.inr (Or.inl earlier)
  · rcases UInt64.le_total first.id second.id with below | above
    · exact Or.inr (Or.inr ⟨same.symm, below⟩)
    · exact Or.inl (Or.inr ⟨same, above⟩)
  · exact Or.inl (Or.inl later)

theorem listedBefore_antisymm {first second : Message} (before : listedBefore first second)
    (behind : listedBefore second first) : first.id = second.id := by
  rw [listedBefore_iff] at *
  rcases before with later | ⟨same, below⟩
  · rcases behind with earlier | ⟨equal, _⟩
    · exact absurd later (lt_asymm earlier)
    · exact absurd (equal ▸ later) (lt_irrefl _)
  · rcases behind with earlier | ⟨_, above⟩
    · exact absurd (same ▸ earlier) (lt_irrefl _)
    · exact UInt64.le_antisymm above below

/-- Messages of different ids are listed in one order only, however they stand in their table. -/
theorem newestFirst_perm {left right : List Message} (unique : (left.map (·.id)).Nodup)
    (same : left.Perm right) : newestFirst left = newestFirst right := by
  have sorted (messages : List Message) :
      (newestFirst messages).Pairwise fun first second => listedBefore first second :=
    List.pairwise_mergeSort listedBefore_trans listedBefore_total messages
  have whole : (newestFirst left).Perm (newestFirst right) :=
    ((List.mergeSort_perm left _).trans same).trans (List.mergeSort_perm right _).symm
  refine List.Perm.eq_of_pairwise ?_ (sorted left) (sorted right) whole
  intro first second inLeft inRight before behind
  have left₁ : first ∈ left := List.mem_mergeSort.mp inLeft
  have left₂ : second ∈ left := same.mem_iff.mpr (List.mem_mergeSort.mp inRight)
  exact List.inj_on_of_nodup_map unique left₁ left₂ (listedBefore_antisymm before behind)

theorem prepare_text (store : Store) (statement : Statement)
    (proper : (match statement with | .count c => c | .listing c _ => c) ≠ []) :
    store.prepare statement.text =
      if store.hasTables statement && statement.height ≤ Statement.greatestHeight then .ok statement
      else .error .unprepared := by
  simp only [prepare, Statement.read?_text statement proper]

def matching (clause : Clause Param) (now : Moment) (messages : List Message) : List Message :=
  messages.filter (clause.isMet now)

/-- The rows that a listing answers from the messages that meet its clause. -/
def listed (reader : TimeReader) (users : List User) (window : Window) (messages : List Message) :
    List (Option Row) :=
  (paged (Window.storable window.limit) ((window.offset.map Window.storable).getD 0)
    ((newestFirst messages).filterMap (withName users))).map fun (name, message) =>
      toRow reader name message

theorem storable_window (window : Window) : window.params.all Param.isStorable := by
  have signed (n : UInt64) : Numeral.Signed (Window.storable n) := by
    simp only [Numeral.Signed, Window.storable]
    omega
  cases window with
  | mk limit offset => cases offset <;> simp [Window.params, Param.isStorable, signed]

theorem bind_append (query : Query) (more : List Param) (storable : more.all Param.isStorable) :
    bind query.clause.shape (query.params ++ more) =
      if query.params.all Param.isStorable then .ok (query.clause, more) else .error .storage := by
  have filled := Clause.fill_places query.clause more
  unfold Query.params
  by_cases holds : query.clause.places.all Param.isStorable = true
  · simp only [bind, List.all_append, holds, storable, Bool.and_self, if_true, filled]
  · simp only [bind, List.all_append, holds, Bool.false_and, Bool.false_eq_true, if_false]

theorem pageBounds_params {span : Span} {most : UInt64} {window : Window}
    (shrunk : span.window? most = some window) :
    pageBounds span.paging window.params =
      .ok (Window.storable window.limit, (window.offset.map Window.storable).getD 0) := by
  cases span with
  | countOnly => cases shrunk
  | rows first last =>
    by_cases start : first = 0
    · subst start
      cases Option.some.inj shrunk
      rfl
    · have later : 0 < first := UInt64.pos_iff_ne_zero.mpr start
      simp only [Span.window?, start, if_false] at shrunk
      cases Option.some.inj shrunk
      simp [Span.paging, Span.hasOffset, later, Window.params, pageBounds]

/-- The listing of a query takes its parameters with those for its window. -/
theorem accepts_params {query : Query} (storable : query.params.all Param.isStorable)
    {most : UInt64} {window : Window} (shrunk : query.span.window? most = some window) :
    accepts query.listing (query.params ++ window.params) = true := by
  simp only [accepts, Query.listing, bind_append query window.params (storable_window window),
    if_pos storable, pageBounds_params shrunk]
  rfl

theorem filterM_holds (now : Moment) (query : Query) (messages : List Message)
    (testable : ∀ value ∈ query.params, value.isTestable) :
    messages.filterM (query.clause.holds now) = .ok (matching query.clause now messages) :=
  filterM_eq_filter _ _ _ fun message _ => query.clause.holds_eq now message testable

section

variable {store : Store} {messages : List Message} (log : store.messages = some messages)
  (now : Moment) (query : Query)

include log

theorem answerCount_eq_map :
    store.answerCount now query.count query.params =
      if query.params.all Param.isStorable
      then (messages.filterM (query.clause.holds now)).map fun found => some found.length
      else .error .storage := by
  have bound := bind_append query [] rfl
  rw [List.append_nil] at bound
  simp only [answerCount, Query.count, rows, log, bound]
  split_ifs
  · simp only [Bind.bind, Except.bind, ne_eq, not_true_eq_false, if_false]
    cases messages.filterM (query.clause.holds now) <;> rfl
  · rfl

theorem answerListing_eq_map {users : List User} (named : store.users = some users) {most : UInt64}
    {window : Window} (shrunk : query.span.window? most = some window) :
    store.answerListing now query.listing (query.params ++ window.params) =
      if query.params.all Param.isStorable
      then (messages.filterM (query.clause.holds now)).map (listed now.reader users window)
      else .error .storage := by
  have bound := bind_append query window.params (storable_window window)
  simp only [answerListing, Query.listing, rows, log, named, bound]
  split_ifs
  · simp only [Bind.bind, Except.bind, pageBounds_params shrunk]
    cases messages.filterM (query.clause.holds now) <;> rfl
  · rfl

variable (testable : ∀ value ∈ query.params, value.isTestable)

include testable

theorem answerCount_eq :
    store.answerCount now query.count query.params =
      if query.params.all Param.isStorable
      then .ok (some (matching query.clause now messages).length) else .error .storage := by
  rw [answerCount_eq_map log, filterM_holds now query messages testable]
  rfl

theorem answerListing_eq {users : List User} (named : store.users = some users) {most : UInt64}
    {window : Window} (shrunk : query.span.window? most = some window) :
    store.answerListing now query.listing (query.params ++ window.params) =
      if query.params.all Param.isStorable
      then .ok (listed now.reader users window (matching query.clause now messages))
      else .error .storage := by
  rw [answerListing_eq_map log now query named shrunk, filterM_holds now query messages testable]
  rfl

end

end Store

end ChatLog
