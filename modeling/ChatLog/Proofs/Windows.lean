import ChatLog.Proofs.Rows

/-!
The arithmetic of windows. Every step of it stays within the words of 64 bits, whatever the bounds
of a span and the greatest number of rows are, and what the storage is given for a window selects
the rows that unbounded numbers would select.
-/
namespace ChatLog

/-- Whatever a window is, the storage can hold the integers that it is given for it. -/
theorem Window.params_bounds (window : Window) : ∀ value ∈ window.params,
    ∃ n : Int, value = .int n ∧ 0 ≤ n ∧ n < 0x8000000000000000 := by
  have bounds (n : UInt64) : 0 ≤ storable n ∧ storable n < 0x8000000000000000 := by
    simp only [storable]
    omega
  obtain ⟨limit, offset⟩ := window
  intro value member
  rcases List.mem_cons.mp member with rfl | later
  · exact ⟨_, rfl, bounds limit⟩
  · obtain ⟨passed, _, rfl⟩ := Option.map_eq_some_iff.mp (Option.mem_toList.mp later)
    exact ⟨_, rfl, bounds passed⟩

namespace Span

/-- The rows of a listing that its statement yields with the parameters for the window of a span. -/
def select {α : Type} (most : UInt64) (span : Span) (listing : List α) : Except Failure (List α) :=
  match span.window? most with
  | none => .ok []
  | some window => (Store.pageBounds span.paging window.params).map fun (limit, offset) =>
      Store.paged limit offset listing

/-- The parameters for a window select what the window itself would, as long as the storage can
count the rows. -/
theorem select_eq {α : Type} {span : Span} {most : UInt64} {window : Window}
    (shrunk : span.window? most = some window) {listing : List α}
    (few : listing.length < 0x8000000000000000) :
    span.select most listing =
      .ok ((listing.drop (window.offset.getD 0).toNat).take window.limit.toNat) := by
  rw [select, shrunk]
  simp only [Store.pageBounds_params shrunk, Except.map, Store.paged_storable few]

theorem window?_newest (last most : UInt64) :
    (newest last).window? most = some ⟨min last most, none⟩ :=
  rfl

theorem window?_later {first : UInt64} (later : first ≠ 0) (last most : UInt64) :
    ∃ limit passed, (rows first last).window? most = some ⟨limit, some passed⟩ ∧
      passed.toNat = first.toNat - 1 ∧
      limit.toNat = min (max first.toNat last.toNat - first.toNat + 1) most.toNat := by
  refine ⟨_, _, if_neg later, toNat_passed later, ?_⟩
  rw [UInt64.toNat_min, toNat_length later, Nat.max_comm]

theorem select_newest {α : Type} {last : UInt64} (positive : 1 ≤ last) (most : UInt64)
    {listing : List α} (few : listing.length < 0x8000000000000000) :
    (newest last).select most listing = (rows 1 last).select most listing := by
  obtain ⟨limit, passed, shrunk, first, length⟩ :=
    window?_later (show (1 : UInt64) ≠ 0 by decide) last most
  have least : 1 ≤ last.toNat := UInt64.le_iff_toNat_le.mp positive
  have same : limit.toNat = (min last most).toNat := by
    rw [length, UInt64.toNat_min, show (1 : UInt64).toNat = 1 from rfl]
    omega
  rw [select_eq (window?_newest last most) few, select_eq shrunk few, Option.getD_some, first, same]
  rfl

/-- The window of a span that starts at `first` is the one that unbounded integers give: no step of
its arithmetic leaves the words, it is at most `most` rows long, and it passes over the rows before
`first`. Its parameters are integers that the storage can hold and, as long as the storage can count
the rows, they select the rows of the window itself. The first `n` rows and the rows from the first
to the `n`-th are the same. -/
theorem window_exact (first last most : UInt64) :
    (∃ window, (rows first last).window? most = some window ∧
      (rows first last).checkedWindow? most = some (some window) ∧ window.limit ≤ most ∧
      (1 ≤ first → window.offset.map UInt64.toNat = some (first.toNat - 1) ∧
        window.limit.toNat = min (max first.toNat last.toNat - first.toNat + 1) most.toNat) ∧
      (first = 0 → window.offset = none ∧ window.limit.toNat = min last.toNat most.toNat) ∧
      (∀ value ∈ window.params, ∃ n : Int, value = .int n ∧ 0 ≤ n ∧ n < 0x8000000000000000) ∧
      ∀ {α : Type} (listing : List α), listing.length < 0x8000000000000000 →
        (rows first last).select most listing =
          .ok ((listing.drop (first.toNat - 1)).take window.limit.toNat)) ∧
      (1 ≤ last → ∀ {α : Type} (listing : List α), listing.length < 0x8000000000000000 →
        (newest last).select most listing = (rows 1 last).select most listing) := by
  refine ⟨?_, fun positive _ _ few => select_newest positive most few⟩
  by_cases start : first = 0
  · have shrunk : (rows first last).window? most = some ⟨min last most, none⟩ := if_pos start
    refine ⟨_, shrunk, (checkedWindow?_eq _ most).trans (congrArg some shrunk), limit_le shrunk,
      ?_, ?_, Window.params_bounds _, ?_⟩
    · intro later
      rw [start] at later
      exact absurd later (by decide)
    · exact fun _ => ⟨rfl, UInt64.toNat_min _ _⟩
    · intro α listing few
      rw [select_eq shrunk few, start]
      rfl
  · obtain ⟨limit, passed, shrunk, before, length⟩ := window?_later start last most
    refine ⟨_, shrunk, (checkedWindow?_eq _ most).trans (congrArg some shrunk), limit_le shrunk,
      ?_, ?_, Window.params_bounds _, ?_⟩
    · exact fun _ => ⟨congrArg some before, length⟩
    · exact fun zero => absurd zero start
    · intro α listing few
      rw [select_eq shrunk few, Option.getD_some, before]

/-- A length and an offset beyond the integers of the storage. -/
theorem window_exact_greatest :
    let greatest : UInt64 := 0xFFFFFFFFFFFFFFFF
    let listing := ["a", "b", "c"]
    1 ≤ greatest ∧ listing.length < 0x8000000000000000 ∧
      (rows 2 greatest).window? greatest = some ⟨greatest - 1, some 1⟩ ∧
      (rows 2 greatest).select greatest listing = .ok ["b", "c"] ∧
      (rows greatest 3).window? greatest = some ⟨1, some (greatest - 1)⟩ ∧
      (rows greatest 3).select greatest listing = .ok [] ∧
      (rows 0 greatest).select greatest listing = .ok listing ∧
      (newest greatest).select greatest listing = (rows 1 greatest).select greatest listing := by
  intro greatest listing
  have few : listing.length < 0x8000000000000000 := by decide
  have positive : 1 ≤ greatest := by decide
  refine ⟨positive, few, by decide, ?_, by decide, ?_, ?_, ?_⟩
  · obtain ⟨⟨window, _, _, _, later, _, _, selects⟩, _⟩ := window_exact 2 greatest greatest
    rw [selects listing few, (later (by decide)).2]
    exact congrArg Except.ok (List.take_of_length_le (by decide))
  · obtain ⟨⟨window, _, _, _, later, _, _, selects⟩, _⟩ := window_exact greatest 3 greatest
    rw [selects listing few, (later (by decide)).2]
    have beyond : listing.length ≤ greatest.toNat - 1 := by decide
    rw [List.drop_eq_nil_of_le beyond, List.take_nil]
  · obtain ⟨⟨window, _, _, _, _, start, _, selects⟩, _⟩ := window_exact 0 greatest greatest
    rw [selects listing few, (start rfl).2]
    exact congrArg Except.ok (List.take_of_length_le (by decide))
  · exact (window_exact 0 greatest greatest).2 positive listing few

end Span

end ChatLog
