/-!
Which part of the matches a search asks for. Bounds count from one and include both ends; a first
bound of zero means that the listing starts at the newest match. A span is shrunk to a window of
at most a given number of rows that keeps where the span starts.
-/
namespace ChatLog

inductive Span where
  | countOnly
  | rows (first last : UInt64)
deriving DecidableEq, Repr

/-- The rows that a listing fetches; `offset` counts the rows passed over, and is absent when the
listing starts at the newest match. -/
structure Window where
  limit : UInt64
  offset : Option UInt64
deriving DecidableEq, Repr

def word? (n : Int) : Option UInt64 :=
  if 0 ≤ n ∧ n < UInt64.size then some (.ofNat n.toNat) else none

theorem word?_eq_some_iff {n : Int} {word : UInt64} : word? n = some word ↔ n = word.toNat := by
  unfold word?
  constructor
  · intro found
    split at found
    · rename_i fits
      have small : n.toNat < UInt64.size := by omega
      rw [← Option.some.inj found, UInt64.toNat_ofNat_of_lt' small]
      omega
    · cases found
  · rintro rfl
    have small := word.toNat_lt_size
    rw [if_pos ⟨by omega, by omega⟩]
    simp

namespace Span

def newest (last : UInt64) : Span :=
  .rows 0 last

def isCountOnly : Span → Bool
  | .countOnly => true
  | .rows _ _ => false

def hasLimit (span : Span) : Bool :=
  !span.isCountOnly

def hasOffset : Span → Bool
  | .countOnly => false
  | .rows first _ => 0 < first

/-- The window of a span, at most `limit` rows long; a last bound before the first one stands for
the first one. Counting alone needs no window. -/
def window? (limit : UInt64) : Span → Option Window
  | .countOnly => none
  | .rows first last =>
    if first = 0 then some ⟨min last limit, none⟩
    else some ⟨min (max last first - first + 1) limit, some (first - 1)⟩

/-- The window of a span, where each sum and each difference is taken of integers and given up if it
is no word. -/
def checkedWindow? (most : UInt64) : Span → Option (Option Window)
  | .countOnly => some none
  | .rows first last =>
    if first = 0 then some (some ⟨min last most, none⟩)
    else do
      let beyond ← word? ((max last first).toNat - first.toNat)
      let length ← word? (beyond.toNat + 1)
      let passed ← word? (first.toNat - 1)
      return some ⟨min length most, some passed⟩

theorem window?_eq_none (span : Span) (most : UInt64) :
    span.window? most = none ↔ span = .countOnly := by
  cases span with
  | countOnly => simp [window?]
  | rows first last =>
    by_cases start : first = 0 <;> simp [window?, start]

theorem toNat_greater (a b : UInt64) : (max a b).toNat = max a.toNat b.toNat := by
  change (if a ≤ b then b else a).toNat = _
  rw [Nat.max_def, apply_ite UInt64.toNat]
  rfl

section

variable {first : UInt64} (later : first ≠ 0)

include later

theorem toNat_length (last : UInt64) : (max last first - first + 1).toNat =
    max last.toNat first.toNat - first.toNat + 1 := by
  have positive : 0 < first.toNat := Nat.pos_of_ne_zero fun zero => later (UInt64.toNat_inj.mp zero)
  have above : first ≤ max last first := by
    rw [UInt64.le_iff_toNat_le, toNat_greater]
    omega
  have small := (max last first).toNat_lt
  have one : (1 : UInt64).toNat = 1 := rfl
  rw [toNat_greater] at small
  rw [UInt64.toNat_add, UInt64.toNat_sub_of_le _ _ above, toNat_greater]
  omega

theorem toNat_passed : (first - 1).toNat = first.toNat - 1 := by
  have positive : 0 < first.toNat := Nat.pos_of_ne_zero fun zero => later (UInt64.toNat_inj.mp zero)
  have one : (1 : UInt64) ≤ first := UInt64.le_iff_toNat_le.mpr positive
  exact UInt64.toNat_sub_of_le _ _ one

end

theorem checkedWindow?_eq (span : Span) (most : UInt64) :
    span.checkedWindow? most = some (span.window? most) := by
  cases span with
  | countOnly => rfl
  | rows first last =>
    by_cases start : first = 0
    · simp only [checkedWindow?, window?, start, if_true]
    · have above : first ≤ max last first := by
        rw [UInt64.le_iff_toNat_le, toNat_greater]
        omega
      have difference := UInt64.toNat_sub_of_le _ _ above
      have beyond : word? ((max last first).toNat - first.toNat) =
          some (max last first - first) := by
        rw [word?_eq_some_iff, difference]
        have := UInt64.le_iff_toNat_le.mp above
        omega
      have length : word? ((max last first - first).toNat + 1) =
          some (max last first - first + 1) := by
        rw [word?_eq_some_iff, toNat_length start, difference, toNat_greater]
        omega
      have passed : word? (first.toNat - 1) = some (first - 1) := by
        have positive : first.toNat ≠ 0 := fun zero => start (UInt64.toNat_inj.mp zero)
        rw [word?_eq_some_iff, toNat_passed start]
        omega
      rw [checkedWindow?, window?, if_neg start, if_neg start, Option.bind_eq_bind, beyond,
        Option.bind_some, length, Option.bind_some, passed, Option.bind_some, Option.pure_def]

end Span

end ChatLog
