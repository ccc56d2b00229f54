import ChatLog.Proofs.Answer

/-!
What is kept on a shelf. The written condition with its paging, under which statements are kept,
tells the shape of a clause and its paging apart from all others, so whatever is found under it are
the very statements of the query that looks for them.
-/
namespace ChatLog

namespace Query

theorem readOrdered_paginated (query : Query) (proper : query.clause ≠ []) :
    Statement.readOrdered query.paginated =
      some (query.clause.shape, query.span.paging.text) := by
  have shaped : query.clause.shape ≠ [] := by simpa [Clause.shape] using proper
  have read := Statement.readOrdered_text query.clause.shape query.span.paging.text shaped
  rwa [Clause.text_shape, ← List.append_assoc] at read

/-- Queries that are written alike have the same statements. -/
theorem statements_eq {left right : Query} (first : left.clause ≠ []) (second : right.clause ≠ [])
    (same : left.paginated = right.paginated) :
    left.count = right.count ∧ left.listing = right.listing := by
  have read := readOrdered_paginated left first
  rw [same, readOrdered_paginated right second] at read
  simp only [Option.some.injEq, Prod.mk.injEq] at read
  obtain ⟨shape, text⟩ := read
  have paging : right.span.paging = left.span.paging := by
    revert text
    cases right.span.paging <;> cases left.span.paging <;> decide
  exact ⟨by rw [count, count, shape], by rw [listing, listing, shape, paging]⟩

/-- Both statements of a query are prepared unless a table is missing or the clause is too high. -/
theorem prepare_eq (query : Query) (proper : query.clause ≠ []) (store : Store) :
    query.prepare store =
      if store.hasTables query.listing && query.listing.height ≤ Statement.greatestHeight
      then .ok ⟨query.count, query.listing⟩ else .error .unprepared := by
  have shaped : query.clause.shape ≠ [] := by simpa [Clause.shape] using proper
  have count := store.prepare_text query.count shaped
  have listing := store.prepare_text query.listing shaped
  unfold prepare
  rw [count, listing]
  by_cases ready : (store.hasTables query.listing &&
      decide (query.listing.height ≤ Statement.greatestHeight)) = true
  · have counted : (store.hasTables query.count &&
        decide (query.count.height ≤ Statement.greatestHeight)) = true := by
      obtain ⟨tables, small⟩ := Bool.and_eq_true_iff.mp ready
      have joined : query.clause.shape.height + 1 ≤ Statement.greatestHeight :=
        of_decide_eq_true small
      have alone : query.count.height ≤ Statement.greatestHeight := Nat.le_of_succ_le joined
      exact Bool.and_eq_true_iff.mpr ⟨(Bool.and_eq_true_iff.mp tables).1, decide_eq_true alone⟩
    simp only [ready, counted, if_true]
    rfl
  · rw [if_neg ready, if_neg ready]
    split_ifs <;> rfl

theorem prepare_ok {query : Query} (proper : query.clause ≠ []) {store : Store}
    {prepared : Prepared} (made : query.prepare store = .ok prepared) :
    prepared = ⟨query.count, query.listing⟩ ∧
      query.listing.height ≤ Statement.greatestHeight := by
  rw [query.prepare_eq proper] at made
  split_ifs at made with ready
  exact ⟨(Except.ok.inj made).symm, of_decide_eq_true (Bool.and_eq_true_iff.mp ready).2⟩

end Query

namespace Shelf

/-- Everything on the shelf are the two statements of some query, kept under what it writes. -/
def Sound (shelf : Shelf) : Prop :=
  ∀ entry ∈ shelf.kept, ∃ query : Query, query.clause ≠ [] ∧ entry.1 = query.paginated ∧
    entry.2 = ⟨query.count, query.listing⟩ ∧ query.listing.height ≤ Statement.greatestHeight

theorem sound_empty : Sound empty := by
  simp [Sound, empty]

theorem mem_of_find? {shelf : Shelf} {query : Query} {prepared : Prepared}
    (found : shelf.find? query = some prepared) : (query.paginated, prepared) ∈ shelf.kept := by
  unfold find? at found
  generalize shelf.kept = kept at found
  induction kept with
  | nil => cases found
  | cons entry kept ih =>
    obtain ⟨key, pair⟩ := entry
    rw [List.lookup_cons] at found
    cases same : query.paginated == key with
    | true =>
      rw [same] at found
      rw [beq_iff_eq.mp same, ← Option.some.inj found]
      exact List.mem_cons_self
    | false =>
      rw [same] at found
      exact List.mem_cons_of_mem _ (ih found)

section

variable {shelf : Shelf} (sound : shelf.Sound) {query : Query} (proper : query.clause ≠ [])

include sound proper

theorem find?_sound {prepared : Prepared} (found : shelf.find? query = some prepared) :
    prepared = ⟨query.count, query.listing⟩ ∧
      query.listing.height ≤ Statement.greatestHeight := by
  obtain ⟨known, written, same, pair, small⟩ := sound _ (mem_of_find? found)
  obtain ⟨count, listing⟩ := Query.statements_eq proper written same
  rw [count, listing]
  exact ⟨pair, small⟩

theorem fetch_pair (store : Store) {prepared : Prepared}
    (fetched : (shelf.fetch store query).1 = .ok prepared) :
    prepared = ⟨query.count, query.listing⟩ := by
  unfold fetch at fetched
  cases found : shelf.find? query with
  | some kept =>
    simp only [found, Except.ok.injEq] at fetched
    exact fetched ▸ (find?_sound sound proper found).1
  | none =>
    cases made : query.prepare store with
    | error failure => simp [found, made] at fetched
    | ok afresh =>
      simp only [found, made, Except.ok.injEq] at fetched
      exact fetched ▸ (Query.prepare_ok proper made).1

/-- While the tables are there, what is fetched is what preparing afresh gives. -/
theorem fetch_eq_prepare {store : Store} (tables : store.hasTables query.listing) :
    (shelf.fetch store query).1 = query.prepare store := by
  unfold fetch
  cases found : shelf.find? query with
  | some kept =>
    obtain ⟨pair, small⟩ := find?_sound sound proper found
    rw [query.prepare_eq proper, if_pos (by simp [tables, small]), pair]
  | none => cases query.prepare store <;> rfl

theorem fetch_sound (store : Store) : (shelf.fetch store query).2.Sound := by
  unfold fetch
  cases found : shelf.find? query with
  | some kept => exact sound
  | none =>
    cases made : query.prepare store with
    | error failure => exact sound
    | ok prepared =>
      obtain ⟨pair, small⟩ := Query.prepare_ok proper made
      intro entry member
      rcases List.mem_cons.mp member with rfl | old
      · exact ⟨query, proper, rfl, pair, small⟩
      · exact sound entry old

end

end Shelf

end ChatLog
