import ChatLog.Proofs.Entries
import ChatLog.Proofs.Rows
import ChatLog.Store.Accounts

/-!
What the directory of a log answers. While the pattern of a lookup is not too long, it is answered
with the ids that go with the names it fits, each once and in ascending order; there are too few ids
for a signed limit to cut less than the number it was meant for. Pages of them follow one another as
long as the offset fits a signed word.
-/
namespace ChatLog.Store

def fitting (pattern : String) (names : List (Id × String)) : IdSet :=
  .ofList ((names.filter fun pair => Text.Wildcard.fits pattern pair.2).map Prod.fst)

theorem mem_fitting {pattern : String} {names : List (Id × String)} {id : Id} :
    id ∈ fitting pattern names ↔
      ∃ name, (id, name) ∈ names ∧ Text.Wildcard.fits pattern name = true := by
  simp [fitting]

theorem named_eq {pattern : String} (short : Text.Wildcard.tooLong pattern = false)
    (names : List (Id × String)) : named pattern names = .ok (fitting pattern names) := by
  have tested := filterM_eq_filter (fun pair : Id × String => matchesPattern pattern pair.2)
    (fun pair => Text.Wildcard.fits pattern pair.2) names
    (fun pair _ => by simp [matchesPattern, short])
  simp only [named, tested]
  rfl

theorem signedWord_of_small {word : UInt64} (small : word.toNat < 0x8000000000000000) :
    signedWord word = word.toNat :=
  if_pos small

theorem signedWord_of_large {word : UInt64} (large : 0x8000000000000000 ≤ word.toNat) :
    signedWord word < 0 := by
  have bound := word.toNat_lt
  rw [signedWord, if_neg (by omega)]
  omega

/-- As many rows as a word allows, if there are not too many for a signed word. -/
theorem paged_signedWord {α : Type} {rows : List α} (few : rows.length ≤ 0x8000000000000000)
    (limit : UInt64) (offset : Int) :
    paged (signedWord limit) offset rows = (rows.drop offset.toNat).take limit.toNat := by
  unfold paged
  by_cases small : limit.toNat < 0x8000000000000000
  · rw [signedWord_of_small small, if_neg (by omega), Int.toNat_natCast]
  · have left := List.length_drop (l := rows) (i := offset.toNat)
    rw [if_pos (signedWord_of_large (by omega)), List.take_of_length_le (by omega)]

/-- A page and the page after it are a page together, unless the offset of the second one is too
large for a signed word: then the second page starts at the first row again. -/
theorem pages_append_iff {α : Type} {rows : List α} (few : rows.length ≤ 0x8000000000000000)
    (n m : UInt64) :
    rows.take n.toNat ++ (rows.drop (signedWord n).toNat).take m.toNat =
        rows.take (n.toNat + m.toNat) ↔
      n.toNat < 0x8000000000000000 ∨ m = 0 ∨ rows = [] := by
  rcases Nat.lt_or_ge n.toNat 0x8000000000000000 with small | large
  · rw [signedWord_of_small small, Int.toNat_natCast, ← List.take_add]
    exact iff_of_true rfl (.inl small)
  · have start : (signedWord n).toNat = 0 := Int.toNat_of_nonpos (signedWord_of_large large).le
    rw [start, List.drop_zero, List.take_of_length_le (by omega : rows.length ≤ n.toNat),
      List.take_of_length_le (by omega : rows.length ≤ n.toNat + m.toNat),
      List.append_right_eq_self, List.take_eq_nil_iff, ← UInt64.toNat_zero, UInt64.toNat_inj]
    exact (or_iff_right (Nat.not_lt.mpr large)).symm

section

variable {store : Store} (keyed : store.Keyed) {users : List User} {aliases : List Alias}
  (named : store.users = some users) (given : store.aliases = some aliases)

include keyed named given

theorem Keyed.storable_fitting {pattern : String} {id : Id}
    (member : id ∈ fitting pattern (names users aliases)) : id.toNat < 0x8000000000000000 := by
  obtain ⟨name, listed, _⟩ := mem_fitting.mp member
  rcases List.mem_append.mp listed with ofUser | ofAlias
  · obtain ⟨user, known, equal⟩ := List.mem_map.mp ofUser
    cases equal
    exact (keyed.users users named).storable user known
  · obtain ⟨other, known, equal⟩ := List.mem_map.mp ofAlias
    cases equal
    exact (keyed.aliases aliases given).storable other known

theorem Keyed.length_fitting_le (pattern : String) :
    (fitting pattern (names users aliases)).toList.length ≤ 0x8000000000000000 := by
  rw [← List.length_map UInt64.toNat]
  apply length_le_of_small
  · apply List.Nodup.map fun _ _ => UInt64.toNat_inj.mp
    exact (fitting pattern (names users aliases)).ascending.imp UInt64.ne_of_lt
  · intro n member
    obtain ⟨id, found, rfl⟩ := List.mem_map.mp member
    exact keyed.storable_fitting named given found

variable {pattern : String} (short : Text.Wildcard.tooLong pattern = false)

include short

/-- The directory answers a lookup with a page of the fitting ids. -/
theorem Keyed.directory_page (limit offset : UInt64) : store.directory ⟨pattern, limit, offset⟩ =
    .ok (((fitting pattern (names users aliases)).toList.drop (signedWord offset).toNat).take
      limit.toNat) := by
  have page := paged_signedWord (keyed.length_fitting_le named given pattern) limit
    (signedWord offset)
  simp only [directory, rows, named, given, named_eq short, Bind.bind, Except.bind]
  by_cases unasked : limit = 0
  · subst unasked
    simp [pure, Except.pure]
  · rw [if_neg unasked, page]
    rfl

/-- The directory answers a lookup without offset with the lowest of the fitting ids. -/
theorem Keyed.directory_eq (limit : UInt64) : store.directory ⟨pattern, limit, 0⟩ =
    .ok ((fitting pattern (names users aliases)).toList.take limit.toNat) :=
  keyed.directory_page named given short limit 0

/-- Lookups page consistently as long as the offset fits a signed word: what is answered are pages
of the ids that go with a fitting name, in ascending order and each once, and the first `n` ids with
the `m` ids after them are the first `n + m` ids. A larger offset is passed over, so that the second
lookup starts at the first id again. -/
theorem Keyed.directory_pages {n m : UInt64} (sum : n.toNat + m.toNat < UInt64.size) :
    ∃ (found : IdSet) (first second whole : List Id),
      (∀ id, id ∈ found ↔ ∃ name, (id, name) ∈ names users aliases ∧
        Text.Wildcard.fits pattern name = true) ∧
      store.directory ⟨pattern, n, 0⟩ = .ok first ∧
      store.directory ⟨pattern, m, n⟩ = .ok second ∧
      store.directory ⟨pattern, n + m, 0⟩ = .ok whole ∧
      first = found.toList.take n.toNat ∧
      whole = found.toList.take (n.toNat + m.toNat) ∧
      (∀ page ∈ [first, second, whole], page.Pairwise (· < ·)) ∧
      (first ++ second = whole ↔
        n.toNat < 0x8000000000000000 ∨ m = 0 ∨ found.toList = []) ∧
      (0x8000000000000000 ≤ n.toNat → second = found.toList.take m.toNat) := by
  let found := fitting pattern (names users aliases)
  have few := keyed.length_fitting_le named given pattern
  have total : (n + m).toNat = n.toNat + m.toNat := by
    rw [UInt64.toNat_add, Nat.mod_eq_of_lt sum]
  refine ⟨found, _, _, _, fun _ => mem_fitting, keyed.directory_eq named given short n,
    keyed.directory_page named given short m n, keyed.directory_eq named given short (n + m), rfl,
    by rw [total], ?_, ?_, ?_⟩
  · have page (skipped shown : Nat) : ((found.toList.drop skipped).take shown).Pairwise (· < ·) :=
      found.ascending.sublist ((List.take_sublist _ _).trans (List.drop_sublist _ _))
    simpa using ⟨page 0 n.toNat, page _ m.toNat, page 0 (n + m).toNat⟩
  · rw [total]
    exact pages_append_iff few n m
  · intro large
    rw [Int.toNat_of_nonpos (signedWord_of_large large).le, List.drop_zero]

end

/-- Somebody found by name and by two aliases, and somebody found by an alias alone. -/
def callers : Store :=
  filled [.create, .putUser ⟨42, "alice"⟩, .putUser ⟨7, "Bob"⟩, .putAlias ⟨42, "Ali"⟩,
    .putAlias ⟨7, "alibi"⟩, .putAlias ⟨42, "Kali"⟩]

theorem directory_pages_callers :
    callers.Keyed ∧ callers.directory ⟨"%ali%", 1, 0⟩ = .ok [7] ∧
      ∃ second, callers.directory ⟨"%ali%", 1, 1⟩ = .ok second ∧
        callers.directory ⟨"%ali%", 2, 0⟩ = .ok ([7] ++ second) := by
  have keyed : callers.Keyed := keyed_filled _
  have named : callers.users = some [⟨42, "alice"⟩, ⟨7, "Bob"⟩] := by decide +kernel
  have given : callers.aliases = some [⟨42, "Ali"⟩, ⟨7, "alibi"⟩, ⟨42, "Kali"⟩] := by
    decide +kernel
  have short : Text.Wildcard.tooLong "%ali%" = false := by decide +kernel
  have sum : (1 : UInt64).toNat + (1 : UInt64).toNat < UInt64.size := by decide
  have lowest : callers.directory ⟨"%ali%", 1, 0⟩ = .ok [7] := by decide +kernel
  obtain ⟨found, first, second, whole, _, begins, follows, all, _, _, _, united, _⟩ :=
    keyed.directory_pages named given short sum
  have same : first = [7] := by simpa [lowest] using begins.symm
  subst same
  refine ⟨keyed, lowest, second, follows, ?_⟩
  rw [united.mpr (.inl (by decide))]
  exact all

/-- An offset of which a signed word makes a negative number is passed over, and whoever was on the
page before is listed again. -/
theorem directory_pages_overlap :
    callers.users.isSome ∧ callers.aliases.isSome ∧ Text.Wildcard.tooLong "%ali%" = false ∧
      (0x8000000000000000 : UInt64).toNat + (1 : UInt64).toNat < UInt64.size ∧
      callers.directory ⟨"%ali%", 0x8000000000000000, 0⟩ = .ok [7, 42] ∧
      callers.directory ⟨"%ali%", 1, 0x8000000000000000⟩ = .ok [7] ∧
      callers.directory ⟨"%ali%", 0x8000000000000000 + 1, 0⟩ = .ok [7, 42] ∧
      ([7, 42] : List Id) ++ [7] ≠ [7, 42] := by
  decide +kernel

end ChatLog.Store
