import ChatLog.Time.Stored
import Mathlib.Data.List.Lex
import Mathlib.Data.String.Basic

/-!
Numbers written in decimal digits. Digits are read as the number they write, whatever zeros stand in
front of them, and of two texts with equally many digits the earlier one writes the smaller number.
-/
namespace ChatLog

/-- Texts of one length are told apart before what follows them. -/
theorem lt_append {left right : List Char} (same : left.length = right.length)
    (less : left < right) (x y : List Char) : left ++ x < right ++ y := by
  induction left generalizing right with
  | nil =>
    cases right with
    | nil => exact absurd less (lt_irrefl _)
    | cons d right => cases same
  | cons c left ih =>
    cases right with
    | nil => cases same
    | cons d right =>
      rw [List.cons_append, List.cons_append, List.cons_lt_cons_iff]
      rcases List.cons_lt_cons_iff.mp less with first | ⟨equal, rest⟩
      · exact Or.inl first
      · exact Or.inr ⟨equal, ih (Nat.succ.inj same) rest⟩

namespace Numeral

theorem char_lt_iff {c d : Char} : c < d ↔ c.toNat < d.toNat :=
  Char.lt_def.trans UInt32.lt_iff_toNat_lt

theorem isDigit_bounds {c : Char} (digit : c.isDigit) : 48 ≤ c.toNat ∧ c.toNat ≤ 57 :=
  Char.isDigit_iff_toNat.mp digit

theorem isDigit_replicate (zeros : Nat) : ∀ c ∈ List.replicate zeros '0', c.isDigit := by
  intro c member
  rw [List.eq_of_mem_replicate member]
  rfl

theorem extend?_eq {digits : List Char} (proper : ∀ c ∈ digits, c.isDigit) (value : Nat) :
    extend? value digits = some (Nat.ofDigitChars 10 digits value) := by
  induction digits generalizing value with
  | nil => rfl
  | cons c digits ih =>
    have here : digit? c = some (c.toNat - '0'.toNat) := by
      simp [digit?, proper c List.mem_cons_self]
    rw [extend?, here, Option.bind_some, Nat.ofDigitChars_cons]
    exact ih (fun other member => proper other (List.mem_cons_of_mem _ member)) _

theorem natural?_eq {digits : List Char} (proper : ∀ c ∈ digits, c.isDigit)
    (something : digits ≠ []) : natural? digits = some (Nat.ofDigitChars 10 digits 0) := by
  cases digits with
  | nil => exact absurd rfl something
  | cons c digits => exact extend?_eq proper 0

theorem ofDigitChars_cons_zero (c : Char) (digits : List Char) :
    Nat.ofDigitChars 10 (c :: digits) 0 =
      10 ^ digits.length * (c.toNat - 48) + Nat.ofDigitChars 10 digits 0 := by
  rw [Nat.ofDigitChars_cons, Nat.mul_zero, Nat.zero_add, Nat.ofDigitChars_eq_ofDigitChars_zero]
  rfl

theorem ofDigitChars_lt {digits : List Char} (proper : ∀ c ∈ digits, c.isDigit) :
    Nat.ofDigitChars 10 digits 0 < 10 ^ digits.length := by
  induction digits with
  | nil => simp
  | cons c digits ih =>
    have rest := ih fun other member => proper other (List.mem_cons_of_mem _ member)
    have digit := isDigit_bounds (proper c List.mem_cons_self)
    have most := Nat.mul_le_mul_left (10 ^ digits.length) (show c.toNat - 48 ≤ 9 by omega)
    rw [ofDigitChars_cons_zero, List.length_cons, Nat.pow_succ]
    omega

theorem ofDigitChars_mono {left right : List Char} (same : left.length = right.length)
    (first : ∀ c ∈ left, c.isDigit) (second : ∀ c ∈ right, c.isDigit) (less : left < right) :
    Nat.ofDigitChars 10 left 0 < Nat.ofDigitChars 10 right 0 := by
  induction left generalizing right with
  | nil =>
    cases right with
    | nil => exact absurd less (lt_irrefl _)
    | cons d right => cases same
  | cons c left ih =>
    cases right with
    | nil => cases same
    | cons d right =>
      have lengths : left.length = right.length := Nat.succ.inj same
      have others : ∀ c ∈ left, c.isDigit := fun c member => first c (List.mem_cons_of_mem _ member)
      have small := ofDigitChars_lt others
      have digit := isDigit_bounds (first c List.mem_cons_self)
      rw [ofDigitChars_cons_zero, ofDigitChars_cons_zero, ← lengths]
      rcases List.cons_lt_cons_iff.mp less with head | ⟨rfl, rest⟩
      · have step := Nat.mul_le_mul_left (10 ^ left.length)
          (show c.toNat - 48 + 1 ≤ d.toNat - 48 by have := char_lt_iff.mp head; omega)
        rw [Nat.mul_add, Nat.mul_one] at step
        omega
      · have tail :=
          ih lengths others (fun d member => second d (List.mem_cons_of_mem _ member)) rest
        omega

section

variable {left right : List Char} (same : left.length = right.length)
  (first : ∀ c ∈ left, c.isDigit) (second : ∀ c ∈ right, c.isDigit)

include same first second

theorem ofDigitChars_lt_iff :
    Nat.ofDigitChars 10 left 0 < Nat.ofDigitChars 10 right 0 ↔ left < right := by
  refine ⟨?_, ofDigitChars_mono same first second⟩
  intro smaller
  rcases lt_trichotomy left right with less | equal | greater
  · exact less
  · exact absurd (equal ▸ smaller) (lt_irrefl _)
  · exact absurd (ofDigitChars_mono same.symm second first greater) (lt_asymm smaller)

theorem eq_of_ofDigitChars (equal : Nat.ofDigitChars 10 left 0 = Nat.ofDigitChars 10 right 0) :
    left = right := by
  rcases lt_trichotomy left right with less | same | greater
  · exact absurd equal (ofDigitChars_mono same first second less).ne
  · exact same
  · exact absurd equal.symm (ofDigitChars_mono same.symm second first greater).ne

end

end Numeral

namespace Instant

open Numeral

variable {width : Nat}

theorem isDigit_padded (width n : Nat) : ∀ c ∈ padded width n, c.isDigit := by
  intro c member
  rcases List.mem_append.mp member with zero | digit
  · exact isDigit_replicate _ c zero
  · exact Nat.isDigit_of_mem_toDigits (by decide) (by decide) digit

theorem not_mem_padded {c : Char} (other : ¬ c.isDigit) (width n : Nat) : c ∉ padded width n :=
  fun member => other (isDigit_padded width n c member)

theorem padded_ne_nil (width n : Nat) : padded width n ≠ [] := by
  simp [padded]

theorem toList_toString (n : Nat) : (toString n).toList = padded 0 n := by
  rw [padded, Nat.zero_sub, List.replicate_zero, List.nil_append]
  exact Nat.toList_repr

theorem ofDigitChars_padded (width n : Nat) : Nat.ofDigitChars 10 (padded width n) 0 = n := by
  rw [padded, Nat.ofDigitChars_append, Nat.ofDigitChars_replicate_zero, Nat.mul_zero,
    Nat.ofDigitChars_ten_toDigits]

theorem natural?_padded (width n : Nat) : natural? (padded width n) = some n := by
  rw [natural?_eq (isDigit_padded width n) (padded_ne_nil width n), ofDigitChars_padded]

theorem length_padded {n : Nat} (wide : 0 < width) (small : n < 10 ^ width) :
    (padded width n).length = width := by
  have fits := (Nat.length_toDigits_le_iff (by decide) wide).mpr small
  rw [padded, List.length_append, List.length_replicate]
  omega

theorem padded_lt {m n : Nat} (wide : 0 < width) (less : m < n) (small : n < 10 ^ width) :
    padded width m < padded width n := by
  have lengths : (padded width m).length = (padded width n).length := by
    rw [length_padded wide small, length_padded wide (less.trans small)]
  apply (ofDigitChars_lt_iff lengths (isDigit_padded width m) (isDigit_padded width n)).mp
  rwa [ofDigitChars_padded, ofDigitChars_padded]

theorem padded_append_zeros {n zeros multiple : Nat} (wide : 0 < width) (small : n < 10 ^ width)
    (whole : n * 10 ^ zeros = multiple) :
    padded width n ++ List.replicate zeros '0' = padded (width + zeros) multiple := by
  have fits : multiple < 10 ^ (width + zeros) := by
    rw [← whole, Nat.pow_add]
    exact Nat.mul_lt_mul_of_pos_right small (Nat.pow_pos (by decide))
  apply eq_of_ofDigitChars
  · rw [List.length_append, List.length_replicate, length_padded wide small,
      length_padded (by omega) fits]
  · exact List.forall_mem_append.mpr ⟨isDigit_padded width n, isDigit_replicate zeros⟩
  · exact isDigit_padded _ _
  · rw [Nat.ofDigitChars_append, Nat.ofDigitChars_replicate_zero, ofDigitChars_padded,
      ofDigitChars_padded, Nat.mul_comm, whole]

end Instant

end ChatLog
