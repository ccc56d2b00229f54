import ChatLog.Proofs.Entries
import ChatLog.Proofs.Outcome
import Mathlib.Order.Interval.Finset.Nat

/-!
How far a listing agrees with the count. The count is of all messages that are sought, but only
those are listed whose authors have a name, and nothing makes sure that an author has one. Where
there is room for a span at all, it lists as many rows as it shares positions with the messages that
can be listed.
-/
namespace ChatLog

/-- The positions, counted from one, that a span stands for when it is at most `most` rows long. -/
def Span.positions (most : UInt64) : Span → Finset Nat
  | .countOnly => ∅
  | .rows first last =>
    if first = 0 then Finset.Icc 1 (min last.toNat most.toNat)
    else Finset.Icc first.toNat (min (max last.toNat first.toNat) (first.toNat + most.toNat - 1))

theorem Span.length_page {α : Type} (most : UInt64) (listing : List α) (span : Span) :
    (span.page most listing).length =
      (span.positions most ∩ Finset.Icc 1 listing.length).card := by
  have both (a b c d : Nat) :
      Finset.Icc a b ∩ Finset.Icc c d = Finset.Icc (max a c) (min b d) := by
    ext position
    simp only [Finset.mem_inter, Finset.mem_Icc]
    omega
  cases span with
  | countOnly => rfl
  | rows first last =>
    rw [page, positions, List.length_take, List.length_drop]
    by_cases start : first = 0
    · rw [if_pos start, if_pos start, start, both, Nat.card_Icc, UInt64.toNat_zero]
      omega
    · have later : 1 ≤ first.toNat :=
        Nat.pos_of_ne_zero fun zero => start (UInt64.toNat_inj.mp zero)
      obtain ⟨more, upper⟩ := Nat.exists_eq_add_of_le (le_max_right last.toNat first.toNat)
      rw [if_neg start, if_neg start, both, Nat.card_Icc, upper, Nat.add_sub_cancel_left,
        max_eq_left later]
      omega

theorem Span.positions_inter_ne_empty {first last most : UInt64} {count : Nat} (matched : 1 ≤ count)
    (within : first.toNat ≤ count) (rows : first = 0 → 1 ≤ last) (positive : 1 ≤ most) :
    ((Span.rows first last).positions most ∩ Finset.Icc 1 count).card ≠ 0 := by
  have wide : 1 ≤ most.toNat := UInt64.le_iff_toNat_le.mp positive
  rw [Finset.card_ne_zero]
  refine ⟨max first.toNat 1, Finset.mem_inter.mpr ⟨?_, Finset.mem_Icc.mpr (by omega)⟩⟩
  by_cases start : first = 0
  · have long : 1 ≤ last.toNat := UInt64.le_iff_toNat_le.mp (rows start)
    rw [positions, if_pos start, start, UInt64.toNat_zero, Finset.mem_Icc]
    omega
  · have later : first.toNat ≠ 0 := fun zero => start (UInt64.toNat_inj.mp zero)
    rw [positions, if_neg start, Finset.mem_Icc]
    omega

namespace Query

variable {criteria : Criteria} {origin : Origin} {settings : Settings} {timing : Timing}

/-- Where there is room, a span lists as many rows as it shares positions with the messages whose
authors have a name. -/
theorem Runs.answer_rows {shelf : Shelf} (sound : shelf.Sound) {store : Store} {users : List User}
    {messages : List Message} (named : store.users = some users)
    (log : store.messages = some messages) (keyed : store.Keyed)
    (readable : ∀ message ∈ messages, (timing.reader.read? message.time).isSome)
    (runs : Runs criteria origin settings)
    (matched : sought criteria origin settings timing.onCount messages ≠ [])
    {first last most : UInt64} {window : Window}
    (shrunk : (Span.rows first last).window? most = some window) (room : window.hasRoom = true) :
    let count := (sought criteria origin settings timing.onCount messages).length
    let found := sought criteria origin settings timing.onListing messages
    let named := found.filter fun message => message.author ∈ users.map User.id
    let shared := ((Span.rows first last).positions most ∩ Finset.Icc 1 named.length).card
    let answer := shelf.answer store timing
      (ofCriteria { criteria with span := .rows first last } origin settings) most
    (shared = 0 → answer = .ok (.noneInRange count)) ∧
      (shared ≠ 0 → ∃ rows, answer = .ok (.listed count rows) ∧ rows.length = shared) := by
  intro count found namedFound shared answer
  have length := Span.length_page most (ordered users found) (.rows first last)
  rw [(ordered_perm users found).length_eq] at length
  obtain ⟨outcome, answered⟩ : ∃ outcome, answer = .ok outcome := by
    refine (runs.withSpan (.rows first last)).answer_ok sound log named keyed ?_ ?_
    · intro other same
      cases shrunk.symm.trans same
      exact room
    · intro message member
      exact readable message (mem_of_page member)
  have told := tells_of_answer sound log named keyed answered
  rw [sought_withSpan (.rows first last), sought_withSpan (.rows first last)] at told
  cases outcome with
  | noResults => exact absurd (List.length_eq_zero_iff.mp told) matched
  | counted count => cases told.2.2
  | noneInRange count =>
    obtain ⟨_, rfl, _, empty⟩ := told
    rw [empty] at length
    exact ⟨fun _ => answered, fun part => absurd length.symm part⟩
  | listed count rows =>
    obtain ⟨_, rfl, _, rowsListed, shown⟩ := told
    have shares : rows.length = shared := shown.length_eq.trans length
    refine ⟨?_, fun _ => ⟨rows, answered, shares⟩⟩
    intro apart
    exact absurd (List.length_eq_zero_iff.mp (shares.trans apart)) rowsListed

/-- An older greeting by somebody with a name and a newer one by somebody without. -/
def greetings : List Entry :=
  [.create, .putUser ⟨42, "alice"⟩, .logMessage 1 42 111 "hello" (.ofNanos 1262304000000000000),
    .logMessage 2 43 111 "hello" (.ofNanos 1262390400000000000)]

def greeted : List Message :=
  [⟨1, 42, 111, "hello", "2010-01-01 00:00:00+00:00"⟩,
    ⟨2, 43, 111, "hello", "2010-01-02 00:00:00+00:00"⟩]

def hello : Criteria :=
  ⟨.empty, .empty, none, "hello", .countOnly⟩

def asker : Origin :=
  ⟨7, 111, 42⟩

theorem filled_greetings :
    Store.filled greetings = ⟨some [⟨42, "alice"⟩], some [], some greeted⟩ := by
  decide +kernel

theorem sought_hello : sought hello asker .builtIn ⟨.exact, 0, 0⟩ greeted = greeted := by
  decide +kernel

theorem runs_hello : Runs hello asker .builtIn :=
  ⟨by decide +kernel, by decide +kernel, by decide +kernel⟩

theorem sought_hello_ne_nil : sought hello asker .builtIn ⟨.exact, 0, 0⟩ greeted ≠ [] := by
  rw [sought_hello]
  exact List.cons_ne_nil _ _

theorem counted_hello : Shelf.empty.answer (Store.filled greetings) (.once ⟨0, 0⟩)
    (ofCriteria { hello with span := .countOnly } asker .builtIn) 50 = .ok (.counted 2) := by
  have names : (Store.filled greetings).users = some [⟨42, "alice"⟩] := by rw [filled_greetings]
  have log : (Store.filled greetings).messages = some greeted := by rw [filled_greetings]
  have counted := runs_hello.count_eq log (.once ⟨0, 0⟩)
  rw [show (Timing.once ⟨0, 0⟩).onCount = ⟨.exact, 0, 0⟩ from rfl, sought_hello] at counted
  exact (runs_hello.answer_eq Shelf.sound_empty log names).trans
    ((Statements.run_counted_iff counted (by decide)).mpr rfl)

/-- A log that was filled with messages of the years 1 to 9999 lists, of the messages it counts,
those in the span whose authors have a name, unless there is no room for the span. When all of them
have one and as many are found for the listing as were counted, a span that begins within the count
lists something. -/
theorem lists_named_of_counted {entries : List Entry}
    (inRange : ∀ entry ∈ entries, entry.InRange) (criteria : Criteria) (origin : Origin)
    (settings : Settings) {timing : Timing} (faithful : timing.reader.Faithful)
    (counting listing : List Errand) {count : Nat} {most : UInt64} :
    let store := Store.filled entries
    let answer := fun (history : List Errand) (span : Span) =>
      (Shelf.empty.after history).answer store timing
        (ofCriteria { criteria with span := span } origin settings) most
    answer counting .countOnly = .ok (.counted count) →
    ∃ users messages, store.users = some users ∧ store.messages = some messages ∧
      count = (sought criteria origin settings timing.onCount messages).length ∧
      let found := sought criteria origin settings timing.onListing messages
      let named := found.filter fun message => message.author ∈ users.map User.id
      ∀ (first last : UInt64) (window : Window),
        (Span.rows first last).window? most = some window →
        let shared := ((Span.rows first last).positions most ∩ Finset.Icc 1 named.length).card
        (window.hasRoom = false → answer listing (.rows first last) = .error .noRoom) ∧
        (window.hasRoom = true →
          (shared = 0 → answer listing (.rows first last) = .ok (.noneInRange count)) ∧
          (shared ≠ 0 → ∃ rows, answer listing (.rows first last) = .ok (.listed count rows) ∧
            rows.length = shared)) ∧
        ((∀ message ∈ found, message.author ∈ users.map User.id) → found.length = count →
          first.toNat ≤ count → (first = 0 → 1 ≤ last) → 1 ≤ most →
          named.length = count ∧ shared ≠ 0) := by
  intro store answer counted
  obtain ⟨messages, log⟩ := messages_of_answer counted
  have paired := Store.paired_filled entries
  rw [Store.Paired, log] at paired
  obtain ⟨users, names⟩ := Option.isSome_iff_exists.mp paired
  have keyed := Store.keyed_filled entries
  have readable := (Store.dated_filled inRange).readable faithful log
  have sound (history : List Errand) := Shelf.after_sound Shelf.sound_empty history
  have told := tells_of_answer (sound counting) log names keyed counted
  rw [sought_withSpan .countOnly] at told
  obtain ⟨positive, rfl, _⟩ := told
  have matched := mt List.length_eq_zero_iff.mpr positive
  have runs : Runs criteria origin settings := by
    refine (runs_of_answer (sound counting) log names counted ?_).withSpan criteria.span
    rwa [sought_withSpan .countOnly]
  refine ⟨users, messages, names, log, rfl, ?_⟩
  intro found named first last window shrunk shared
  refine ⟨fun full => ?_, fun room => ?_, ?_⟩
  · refine (runs.withSpan (.rows first last)).answer_full (sound listing) log names ?_ shrunk full
    rwa [sought_withSpan (.rows first last)]
  · exact runs.answer_rows (sound listing) names log keyed readable matched shrunk room
  · intro known all within rows wide
    have whole : named = found :=
      List.filter_eq_self.mpr fun message member => decide_eq_true (known message member)
    simp only [shared, whole, all]
    exact ⟨trivial, Span.positions_inter_ne_empty (Nat.pos_of_ne_zero positive) within rows wide⟩

theorem lists_named_of_counted_one :
    let answer := fun span : Span => Shelf.empty.answer (Store.filled greetings) (.once ⟨0, 0⟩)
      (ofCriteria { hello with span := span } asker .builtIn) 50
    (∀ entry ∈ greetings, entry.InRange) ∧ answer .countOnly = .ok (.counted 2) ∧
      ∃ rows, answer (.rows 1 5) = .ok (.listed 2 rows) ∧ rows.length = 1 := by
  intro answer
  have inRange : ∀ entry ∈ greetings, entry.InRange := by decide +kernel
  obtain ⟨users, messages, names, log, _, lists⟩ := lists_named_of_counted inRange hello asker
    .builtIn TimeReader.exact_faithful [] [] counted_hello
  rw [filled_greetings] at names log
  cases names
  cases log
  obtain ⟨_, part, _⟩ := lists 1 5 ⟨5, some 0⟩ rfl
  rw [show (Timing.once ⟨0, 0⟩).onListing = ⟨.exact, 0, 0⟩ from rfl, sought_hello] at part
  exact ⟨inRange, counted_hello, (part (by decide)).2 (by decide)⟩

/-- Two greetings are counted, but in place of the second one there is nothing. -/
theorem counted_not_listed :
    let answer := fun span : Span => Shelf.empty.answer (Store.filled greetings) (.once ⟨0, 0⟩)
      (ofCriteria { hello with span := span } asker .builtIn) 50
    answer .countOnly = .ok (.counted 2) ∧
      ((Span.rows 2 2).positions 50 ∩ Finset.Icc 1 2).card = 1 ∧
      answer (.rows 2 2) = .ok (.noneInRange 2) := by
  intro answer
  have names : (Store.filled greetings).users = some [⟨42, "alice"⟩] := by rw [filled_greetings]
  have log : (Store.filled greetings).messages = some greeted := by rw [filled_greetings]
  have shrunk : (Span.rows 2 2).window? 50 = some ⟨1, some 1⟩ := rfl
  have matched : sought hello asker .builtIn (Timing.once ⟨0, 0⟩).onCount greeted ≠ [] :=
    sought_hello_ne_nil
  have rows := runs_hello.answer_rows Shelf.sound_empty names log (Store.keyed_filled greetings)
    (by decide +kernel) matched shrunk (by decide)
  rw [show (Timing.once ⟨0, 0⟩).onListing = ⟨.exact, 0, 0⟩ from rfl, sought_hello] at rows
  exact ⟨counted_hello, by decide, rows.1 (by decide)⟩

end Query

end ChatLog
