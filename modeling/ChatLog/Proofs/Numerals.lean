import ChatLog.Mention
import ChatLog.Proofs.Digits

/-!
Which texts are read as numbers and as mentions. A numeral is at most one sign and one or more
decimal digits, and it is read as the number that it writes. A mention is an opening, digits whose
value fits a word, and a closing bracket; nothing stands before or behind it.
-/
namespace ChatLog

namespace Numeral

/-- Decimal digits, one at least, and the number that they write. -/
structure IsDecimal (digits : List Char) (n : Nat) : Prop where
  filled : digits ≠ []
  proper : ∀ c ∈ digits, c.isDigit
  value : Nat.ofDigitChars 10 digits 0 = n

/-- A numeral and its value: digits, or digits behind a sign. -/
inductive Writes : List Char → Int → Prop
  | unsigned {digits : List Char} {n : Nat} (decimal : IsDecimal digits n) : Writes digits n
  | plus {digits : List Char} {n : Nat} (decimal : IsDecimal digits n) : Writes ('+' :: digits) n
  | minus {digits : List Char} {n : Nat} (decimal : IsDecimal digits n) :
    Writes ('-' :: digits) (-n)

theorem Writes.ne_nil {text : List Char} {n : Int} (written : Writes text n) : text ≠ [] := by
  cases written with
  | unsigned decimal => exact decimal.filled
  | plus decimal => simp
  | minus decimal => simp

theorem isDigit_of_extend? {digits : List Char} {value n : Nat}
    (found : extend? value digits = some n) : ∀ c ∈ digits, c.isDigit := by
  induction digits generalizing value with
  | nil => simp
  | cons c digits ih =>
    obtain ⟨d, here, rest⟩ := Option.bind_eq_some_iff.mp found
    have digit : c.isDigit := by
      unfold digit? at here
      split at here
      · assumption
      · cases here
    exact List.forall_mem_cons.mpr ⟨digit, ih rest⟩

theorem natural?_eq_some_iff {digits : List Char} {n : Nat} :
    natural? digits = some n ↔ IsDecimal digits n := by
  constructor
  · intro found
    have filled : digits ≠ [] := by
      rintro rfl
      cases found
    have proper : ∀ c ∈ digits, c.isDigit := by
      unfold natural? at found
      split at found
      · cases found
      · exact isDigit_of_extend? found
    rw [natural?_eq proper filled] at found
    exact ⟨filled, proper, Option.some.inj found⟩
  · rintro ⟨filled, proper, rfl⟩
    exact natural?_eq proper filled

theorem IsDecimal.head_isDigit {c : Char} {digits : List Char} {n : Nat}
    (decimal : IsDecimal (c :: digits) n) : c.isDigit :=
  decimal.proper c List.mem_cons_self

theorem integer?_eq_some_iff {text : List Char} {n : Int} :
    integer? text = some n ↔ Writes text n := by
  constructor
  · intro found
    unfold integer? at found
    split at found <;> obtain ⟨m, read, rfl⟩ := Option.map_eq_some_iff.mp found <;>
      rw [natural?_eq_some_iff] at read
    · exact .plus read
    · exact .minus read
    · exact .unsigned read
  · intro written
    cases written with
    | @unsigned digits m decimal =>
      -- digits do not open with a sign, so the branch without one reads them
      have read := natural?_eq_some_iff.mpr decimal
      unfold integer?
      split
      · exact absurd decimal.head_isDigit (by decide)
      · exact absurd decimal.head_isDigit (by decide)
      · rw [read]
        rfl
    | plus decimal =>
      rw [integer?, natural?_eq_some_iff.mpr decimal]
      rfl
    | minus decimal =>
      rw [integer?, natural?_eq_some_iff.mpr decimal]
      rfl

theorem signed?_eq_some_iff {text : List Char} {n : Int} :
    signed? text = some n ↔ Writes text n ∧ Signed n := by
  rw [signed?, Option.filter_eq_some_iff, integer?_eq_some_iff, decide_eq_true_iff]

theorem digits64?_eq_some_iff {digits : List Char} {n : UInt64} :
    digits64? digits = some n ↔ IsDecimal digits n.toNat := by
  rw [digits64?, Option.bind_eq_some_iff]
  constructor
  · rintro ⟨value, read, fits⟩
    rw [natural?_eq_some_iff] at read
    split at fits
    · rename_i small
      have same := congrArg UInt64.toNat (Option.some.inj fits)
      rw [UInt64.toNat_ofNat_of_lt' small] at same
      exact same ▸ read
    · cases fits
  · intro decimal
    refine ⟨n.toNat, natural?_eq_some_iff.mpr decimal, ?_⟩
    rw [if_pos n.toNat_lt_size]
    exact congrArg some UInt64.ofNat_toNat

/-- A word is written in digits that are read as that word. -/
theorem isDecimal_toString (n : UInt64) : IsDecimal (toString n).toList n.toNat := by
  have read : natural? (toString n.toNat).toList = some n.toNat := by
    rw [Instant.toList_toString, Instant.natural?_padded]
  exact natural?_eq_some_iff.mp read

end Numeral

namespace Mention

open Numeral (IsDecimal)

/-- An opening, the digits of an id, and the closing bracket. -/
def Names (opening text : List Char) (id : UInt64) : Prop :=
  ∃ digits, text = opening ++ (digits ++ ['>']) ∧ IsDecimal digits id.toNat

theorem closing?_digits {digits : List Char} (proper : ∀ c ∈ digits, c.isDigit) :
    closing? (digits ++ ['>']) = Numeral.digits64? digits := by
  have taken : (digits ++ ['>']).takeWhile Char.isDigit = digits := by
    rw [List.takeWhile_append_of_pos proper]
    simp [List.takeWhile]
  have left : (digits ++ ['>']).dropWhile Char.isDigit = ['>'] := by
    rw [List.dropWhile_append_of_pos proper]
    simp [List.dropWhile]
  rw [closing?, left, if_pos rfl, taken]

theorem closing?_eq_some_iff {text : List Char} {id : UInt64} :
    closing? text = some id ↔ Names [] text id := by
  constructor
  · intro found
    unfold closing? at found
    split at found
    · rename_i closed
      refine ⟨_, ?_, Numeral.digits64?_eq_some_iff.mp found⟩
      rw [List.nil_append, ← closed, List.takeWhile_append_dropWhile]
    · cases found
  · rintro ⟨digits, rfl, decimal⟩
    rw [List.nil_append, closing?_digits decimal.proper]
    exact Numeral.digits64?_eq_some_iff.mpr decimal

/-- Digits do not open with the `!` that a user mention may have before them. -/
theorem user?_digits {digits : List Char} (proper : ∀ c ∈ digits, c.isDigit) :
    user? ('<' :: '@' :: (digits ++ ['>'])) = closing? (digits ++ ['>']) := by
  apply user?.eq_2
  intro rest equal
  cases digits with
  | nil => cases equal
  | cons c digits =>
    cases equal
    exact absurd (proper _ List.mem_cons_self) (by decide)

theorem names_append {opening text : List Char} {id : UInt64} :
    Names opening (opening ++ text) id ↔ Names [] text id := by
  simp [Names]

theorem channel?_eq_some_iff {text : List Char} {id : UInt64} :
    channel? text = some id ↔ Names ['<', '#'] text id := by
  constructor
  · intro found
    unfold channel? at found
    split at found
    · exact names_append.mpr (closing?_eq_some_iff.mp found)
    · cases found
  · rintro ⟨digits, rfl, decimal⟩
    exact closing?_eq_some_iff.mpr ⟨digits, rfl, decimal⟩

/-- A user mention may have a `!` before the digits. -/
theorem user?_eq_some_iff {text : List Char} {id : UInt64} :
    user? text = some id ↔ Names ['<', '@'] text id ∨ Names ['<', '@', '!'] text id := by
  constructor
  · intro found
    unfold user? at found
    split at found
    · exact Or.inr (names_append.mpr (closing?_eq_some_iff.mp found))
    · exact Or.inl (names_append.mpr (closing?_eq_some_iff.mp found))
    · cases found
  · rintro (⟨digits, rfl, decimal⟩ | ⟨digits, rfl, decimal⟩)
    · exact (user?_digits decimal.proper).trans (closing?_eq_some_iff.mpr ⟨digits, rfl, decimal⟩)
    · exact closing?_eq_some_iff.mpr ⟨digits, rfl, decimal⟩

end Mention

end ChatLog
