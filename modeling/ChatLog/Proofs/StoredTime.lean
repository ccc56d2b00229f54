import ChatLog.Proofs.Calendar
import ChatLog.Proofs.Digits
import ChatLog.Time.Reader

/-!
Stored texts of instants. Of the years 1 to 9999 an instant is read back exactly from its text, and
the texts are in the order of time: fields of fixed width tell the second, and a fraction that is
longer than another one goes on with a digit where the shorter one goes on with the sign of the
offset, which comes before all digits. All characters of the texts are single bytes, so the bytes
are in the same order. A reader that knows just these texts is a faithful one.
-/
namespace ChatLog

def bytesOf (text : String) : List UInt8 :=
  text.toUTF8.data.toList

theorem bytesOf_inj {text other : String} (same : bytesOf text = bytesOf other) : text = other :=
  String.toByteArray_inj.mp (ByteArray.ext (Array.toList_inj.mp same))

namespace Instant

open Numeral

/-- How many digits a fraction may have, and how many billionths its last digit counts. -/
def fractionUnits : List (Nat × Nat) := [(3, 1000000), (6, 1000), (9, 1)]

theorem fraction?_eq {digits : List Char} {n : Nat} {nanos : Fin 1000000000} (unit : Nat)
    (read : natural? digits = some n) (shape : (digits.length, unit) ∈ fractionUnits)
    (whole : n * unit = nanos.val) : fraction? digits = some nanos := by
  have kept {m : Nat} (same : m = nanos.val) :
      ((some m : Option Nat) >>= fun n =>
        if small : n < 1000000000 then (pure ⟨n, small⟩ : Option (Fin 1000000000)) else none) =
        some nanos := by
    subst same
    exact dif_pos nanos.isLt
  simp only [fractionUnits, List.mem_cons, Prod.mk.injEq, List.not_mem_nil, or_false] at shape
  unfold fraction?
  -- the products must not be evaluated here: the bound on them is a large number
  rw [read, Option.bind_eq_bind, Option.bind_some]
  split
  · exact kept (by simp_all)
  · exact kept (by simp_all)
  · exact kept (by simp_all)
  · simp_all

/-- A fraction is written in nine digits less the zeros that are left off from their end, and is
read back from what is left. -/
theorem fractionText_eq {nanos : Fin 1000000000} (fraction : nanos.val ≠ 0) :
    ∃ digits zeros, fractionText nanos.val = '.' :: digits ∧ (∀ c ∈ digits, c.isDigit) ∧
      digits ++ List.replicate zeros '0' = padded 9 nanos.val ∧
      fraction? digits = .some nanos := by
  have small := nanos.isLt
  unfold fractionText
  rw [if_neg fraction]
  split
  · have whole : nanos.val / 1000000 * 1000000 = nanos.val := by omega
    have fits : nanos.val / 1000000 < 10 ^ 3 := by omega
    have long := length_padded (by decide) fits
    exact ⟨_, 6, rfl, isDigit_padded _ _, padded_append_zeros (by decide) fits (by omega),
      fraction?_eq 1000000 (natural?_padded _ _) (by simp [long, fractionUnits]) whole⟩
  · split
    · have whole : nanos.val / 1000 * 1000 = nanos.val := by omega
      have fits : nanos.val / 1000 < 10 ^ 6 := by omega
      have long := length_padded (by decide) fits
      exact ⟨_, 3, rfl, isDigit_padded _ _, padded_append_zeros (by decide) fits (by omega),
        fraction?_eq 1000 (natural?_padded _ _) (by simp [long, fractionUnits]) whole⟩
    · have fits : nanos.val < 10 ^ 9 := by omega
      have long := length_padded (by decide) fits
      exact ⟨_, 0, rfl, isDigit_padded _ _, List.append_nil _,
        fraction?_eq 1 (natural?_padded _ _) (by simp [long, fractionUnits]) (Nat.mul_one _)⟩

/-- Nothing but zeros is the first of all texts with equally many digits. -/
theorem not_lt_zeros {digits : List Char} (proper : ∀ c ∈ digits, c.isDigit) :
    ¬ digits < List.replicate digits.length '0' := by
  intro less
  rw [← ofDigitChars_lt_iff (by simp) proper (isDigit_replicate _),
    Nat.ofDigitChars_replicate_zero] at less
  simp at less

/-- When digits come before others once zeros fill both up to one length, they come before them with
a sign in place of the zeros as well. -/
theorem lt_of_zeros {left right : List Char} {m n : Nat}
    (same : left.length + m = right.length + n) (first : ∀ c ∈ left, c.isDigit)
    (second : ∀ c ∈ right, c.isDigit)
    (less : left ++ List.replicate m '0' < right ++ List.replicate n '0') (rest : List Char) :
    left ++ '+' :: rest < right ++ '+' :: rest := by
  induction left generalizing right with
  | nil =>
    cases right with
    | nil =>
      have lengths : m = n := by simpa using same
      exact absurd (lengths ▸ less) (lt_irrefl _)
    | cons d right =>
      have digit := isDigit_bounds (second d List.mem_cons_self)
      rw [List.nil_append, List.cons_append, List.cons_lt_cons_iff, char_lt_iff]
      have sign : '+'.toNat = 43 := rfl
      omega
  | cons c left ih =>
    cases right with
    | nil =>
      -- the longer digits cannot come first, as nothing comes before zeros
      have lengths : (c :: left ++ List.replicate m '0').length = n := by
        simp only [List.length_append, List.length_replicate]
        exact same.trans (Nat.zero_add n)
      rw [List.nil_append, ← lengths] at less
      exact absurd less (not_lt_zeros (List.forall_mem_append.mpr ⟨first, isDigit_replicate m⟩))
    | cons d right =>
      rw [List.cons_append, List.cons_append, List.cons_lt_cons_iff] at less ⊢
      rcases less with head | ⟨equal, tail⟩
      · exact Or.inl head
      · refine Or.inr ⟨equal, ih ?_ ?_ ?_ tail⟩
        · simp only [List.length_cons] at same
          omega
        · exact fun e member => first e (List.mem_cons_of_mem _ member)
        · exact fun e member => second e (List.mem_cons_of_mem _ member)

theorem fractionText_lt {first second : Fin 1000000000} (less : first < second) :
    fractionText first.val ++ offsetText < fractionText second.val ++ offsetText := by
  have sign : offsetText = '+' :: "00:00".toList := rfl
  obtain ⟨right, n, text, digits, filled, _⟩ := fractionText_eq (Nat.ne_zero_of_lt less)
  rw [text]
  by_cases whole : first.val = 0
  · rw [whole, sign]
    exact List.cons_lt_cons_iff.mpr (Or.inl (by decide))
  · obtain ⟨left, m, text', digits', filled', _⟩ := fractionText_eq whole
    have before : padded 9 first.val < padded 9 second.val :=
      padded_lt (by decide) less second.isLt
    rw [text', sign, List.cons_append, List.cons_append, List.cons_lt_cons_iff]
    refine Or.inr ⟨rfl, lt_of_zeros ?_ digits' digits (filled' ▸ filled ▸ before) _⟩
    have lengths := congrArg List.length filled
    have lengths' := congrArg List.length filled'
    rw [length_padded (by decide) second.isLt] at lengths
    rw [length_padded (by decide) first.isLt] at lengths'
    simp only [List.length_append, List.length_replicate] at lengths lengths'
    omega

/-- Three numbers with a separator between them, the last two in two digits. -/
def fields (separator : Char) (width first second third : Nat) : List Char :=
  padded width first ++ separator :: (padded 2 second ++ separator :: padded 2 third)

section

variable {separator : Char} {width a b c : Nat} (wide : 0 < width) (first : a < 10 ^ width)
  (second : b < 100) (third : c < 100)

include wide first second third

theorem length_fields : (fields separator width a b c).length = width + 6 := by
  simp only [fields, List.length_append, List.length_cons, length_padded wide first,
    length_padded (by decide : 0 < 2) second, length_padded (by decide : 0 < 2) third]

theorem fields_lt {a' b' c' : Nat}
    (before : a' < a ∨ a' = a ∧ (b' < b ∨ b' = b ∧ c' < c)) :
    fields separator width a' b' c' < fields separator width a b c := by
  have two : 0 < 2 := by decide
  unfold fields
  rcases before with less | ⟨rfl, less | ⟨rfl, less⟩⟩
  · apply lt_append _ (padded_lt wide less first)
    rw [length_padded wide first, length_padded wide (less.trans first)]
  · apply List.append_left_lt
    rw [List.cons_lt_cons_self]
    apply lt_append _ (padded_lt two less second)
    rw [length_padded two second, length_padded two (less.trans second)]
  · apply List.append_left_lt
    rw [List.cons_lt_cons_self]
    apply List.append_left_lt
    rw [List.cons_lt_cons_self]
    exact padded_lt two less third

end

theorem stored_eq {instant : Instant} (inRange : instant.InRange) :
    instant.stored =
      fields '-' 4 instant.date.year.toNat instant.date.month instant.date.day ++
      ' ' :: (fields ':' 2 instant.clock.hour instant.clock.minute instant.clock.second ++
      (fractionText instant.nanos.val ++ offsetText)) := by
  have year : yearText instant.date.year = padded 4 instant.date.year.toNat := by
    have positive : ¬ instant.date.year < 0 := by
      have := inRange.1
      omega
    rw [yearText, if_neg positive]
  simp only [stored, year, fields, List.append_assoc, List.cons_append]

theorem clock_bounds (instant : Instant) :
    instant.clock.hour < 24 ∧ instant.clock.minute < 60 ∧ instant.clock.second < 60 := by
  simp only [clock]
  omega

theorem clock_before {first second : Instant}
    (before : first.seconds % 86400 < second.seconds % 86400) :
    first.clock.hour < second.clock.hour ∨ first.clock.hour = second.clock.hour ∧
      (first.clock.minute < second.clock.minute ∨ first.clock.minute = second.clock.minute ∧
        first.clock.second < second.clock.second) := by
  simp only [clock]
  omega

/-- An instant is told by its day, the second of the day, and the billionths after that. -/
theorem toNanos_lt_iff (first second : Instant) :
    first.toNanos < second.toNanos ↔
      first.seconds / 86400 < second.seconds / 86400 ∨
      first.seconds / 86400 = second.seconds / 86400 ∧
        (first.seconds % 86400 < second.seconds % 86400 ∨
          first.seconds % 86400 = second.seconds % 86400 ∧ first.nanos < second.nanos) := by
  have small := first.nanos.isLt
  have small' := second.nanos.isLt
  rw [Fin.lt_def]
  unfold toNanos
  omega

theorem date_bounds (instant : Instant) : instant.date.month < 100 ∧ instant.date.day < 100 := by
  have bounds := Date.bounds_of_isDate (Date.ofDays_spec (instant.seconds / 86400 + epochDay)).2
  unfold date
  omega

theorem stored_lt {first second : Instant} (inFirst : first.InRange) (inSecond : second.InRange)
    (earlier : first.toNanos < second.toNanos) : first.stored < second.stored := by
  have lower := inFirst.1
  have lower' := inSecond.1
  have years : first.date.year.toNat < 10 ^ 4 := by have := inFirst.2; omega
  have years' : second.date.year.toNat < 10 ^ 4 := by have := inSecond.2; omega
  obtain ⟨months, days⟩ := first.date_bounds
  obtain ⟨months', days'⟩ := second.date_bounds
  obtain ⟨hours, minutes, seconds⟩ := first.clock_bounds
  obtain ⟨hours', minutes', seconds'⟩ := second.clock_bounds
  rw [stored_eq inFirst, stored_eq inSecond]
  rcases (toNanos_lt_iff first second).mp earlier with day | ⟨sameDay, later⟩
  · have before : first.date.Before second.date := Date.ofDays_before (by omega)
    apply lt_append
    · rw [length_fields (by decide) years months days,
        length_fields (by decide) years' months' days']
    · apply fields_lt (by decide) years' months' days'
      unfold Date.Before at before
      omega
  · have date : first.date = second.date := by rw [date, sameDay, ← date]
    rw [date]
    apply List.append_left_lt
    rw [List.cons_lt_cons_self]
    rcases later with second_lt | ⟨sameSecond, nanos⟩
    · apply lt_append
      · rw [length_fields (by decide) (by omega) (by omega) (by omega),
          length_fields (by decide) (by omega) (by omega) (by omega)]
      · exact fields_lt (by decide) (by omega) (by omega) (by omega) (clock_before second_lt)
    · have clock : first.clock = second.clock := by simp only [clock, sameSecond]
      rw [clock]
      exact List.append_left_lt (fractionText_lt nanos)

theorem toNanos_inj {first second : Instant} (same : first.toNanos = second.toNanos) :
    first = second := by
  have small := first.nanos.isLt
  have small' := second.nanos.isLt
  unfold toNanos at same
  have seconds : first.seconds = second.seconds := by omega
  have nanos : first.nanos = second.nanos := Fin.ext (by omega)
  calc
    first = ⟨first.seconds, first.nanos⟩ := rfl
    _ = second := by rw [seconds, nanos]

theorem stored_lt_iff {first second : Instant} (inFirst : first.InRange)
    (inSecond : second.InRange) :
    first.stored < second.stored ↔ first.toNanos < second.toNanos := by
  refine ⟨?_, stored_lt inFirst inSecond⟩
  intro less
  rcases Int.lt_trichotomy first.toNanos second.toNanos with earlier | same | later
  · exact earlier
  · exact absurd (toNanos_inj same ▸ less) (lt_irrefl _)
  · exact absurd (stored_lt inSecond inFirst later) (lt_asymm less)

theorem field?_padded {width n : Nat} (wide : 0 < width) (small : n < 10 ^ width)
    (rest : List Char) : field? width (padded width n ++ rest) = .some (n, rest) := by
  have long := length_padded wide small
  have head : (padded width n ++ rest).take width = padded width n := List.take_left' long
  have tail : (padded width n ++ rest).drop width = rest := List.drop_left' long
  rw [field?, head, tail, if_pos long, natural?_padded]
  rfl

theorem ending?_fractionText (nanos : Fin 1000000000) :
    ending? (fractionText nanos.val ++ offsetText) = some nanos := by
  by_cases whole : nanos.val = 0
  · have zero : nanos = 0 := Fin.ext whole
    rw [zero]
    rfl
  · obtain ⟨digits, _, text, proper, _, told⟩ := fractionText_eq whole
    have sign : offsetText = '+' :: "00:00".toList := rfl
    have after : (digits ++ offsetText).dropWhile Char.isDigit = offsetText := by
      rw [List.dropWhile_append_of_pos proper]
      rfl
    have before : (digits ++ offsetText).takeWhile Char.isDigit = digits := by
      rw [List.takeWhile_append_of_pos proper, sign]
      simp
    rw [text, List.cons_append, ending?, if_pos after, before, told]

theorem ofDate_date (instant : Instant) :
    ofDate instant.date instant.clock instant.nanos = instant := by
  have days := (Date.ofDays_spec (instant.seconds / 86400 + epochDay)).1
  cases instant with
  | mk seconds nanos =>
    rw [ofDate, date, days, mk.injEq]
    refine ⟨?_, rfl⟩
    simp only [clock]
    omega

theorem ofStored?_stored {instant : Instant} (inRange : instant.InRange) :
    ofStored? instant.stored = some instant := by
  have lower := inRange.1
  have years : instant.date.year.toNat < 10 ^ 4 := by have := inRange.2; omega
  have year : ((instant.date.year.toNat : Nat) : Int) = instant.date.year := by omega
  obtain ⟨months, days⟩ := instant.date_bounds
  obtain ⟨hours, minutes, seconds⟩ := instant.clock_bounds
  have proper : isDate instant.date := (Date.ofDays_spec _).2
  have date : (⟨instant.date.year.toNat, instant.date.month, instant.date.day⟩ : Date) =
      instant.date := by rw [year]
  have two {n : Nat} (small : n < 100) (rest : List Char) :
      field? 2 (padded 2 n ++ rest) = some (n, rest) := field?_padded (by decide) small rest
  have four := field?_padded (by decide : 0 < 4) years
  rw [stored_eq inRange]
  unfold ofStored? fields
  simp only [List.append_assoc, List.cons_append, four, two months, two days, skip?, if_true,
    two (by omega : instant.clock.hour < 100), two (by omega : instant.clock.minute < 100),
    two (by omega : instant.clock.second < 100), ending?_fractionText, Option.bind_eq_bind,
    Option.bind_some, date, proper, hours, minutes, seconds, decide_true, Bool.and_self, pure]
  exact congrArg some instant.ofDate_date

theorem stored_inj {first second : Instant} (inFirst : first.InRange) (inSecond : second.InRange)
    (same : first.stored = second.stored) : first = second := by
  have read := ofStored?_stored inFirst
  rw [same, ofStored?_stored inSecond] at read
  exact (Option.some.inj read).symm

/-- Whether every character of a text is a byte by itself. -/
def Plain (text : List Char) : Prop :=
  ∀ c ∈ text, c.toNat < 128

theorem Plain.append {left right : List Char} (first : Plain left) (second : Plain right) :
    Plain (left ++ right) :=
  List.forall_mem_append.mpr ⟨first, second⟩

theorem Plain.cons {c : Char} {text : List Char} (first : c.toNat < 128) (rest : Plain text) :
    Plain (c :: text) :=
  List.forall_mem_cons.mpr ⟨first, rest⟩

theorem plain_of_digits {digits : List Char} (proper : ∀ c ∈ digits, c.isDigit) : Plain digits := by
  intro c member
  have bounds := isDigit_bounds (proper c member)
  omega

theorem bytesOf_ofList {text : List Char} (plain : Plain text) :
    bytesOf (String.ofList text) = text.map fun c => UInt8.ofNat c.toNat := by
  have bytes : bytesOf (String.ofList text) = text.flatMap String.utf8EncodeChar := by
    simp [bytesOf, String.toUTF8, List.utf8Encode]
  have single : ∀ c ∈ text, String.utf8EncodeChar c = [UInt8.ofNat c.toNat] := by
    intro c member
    have small : c.val.toNat ≤ 127 := Nat.le_of_lt_succ (plain c member)
    simp only [String.utf8EncodeChar, small, if_true]
    rfl
  rw [bytes, List.flatMap_congr single, ← List.map_eq_flatMap]

theorem bytesOf_lt_iff {left right : List Char} (first : Plain left) (second : Plain right) :
    bytesOf (String.ofList left) < bytesOf (String.ofList right) ↔ left < right := by
  rw [bytesOf_ofList first, bytesOf_ofList second]
  induction left generalizing right with
  | nil => cases right <;> simp
  | cons c left ih =>
    cases right with
    | nil => simp
    | cons d right =>
      obtain ⟨small, plain⟩ := List.forall_mem_cons.mp first
      obtain ⟨small', plain'⟩ := List.forall_mem_cons.mp second
      have value : (UInt8.ofNat c.toNat).toNat = c.toNat :=
        UInt8.toNat_ofNat_of_lt' (Nat.lt_trans small (by decide))
      have value' : (UInt8.ofNat d.toNat).toNat = d.toNat :=
        UInt8.toNat_ofNat_of_lt' (Nat.lt_trans small' (by decide))
      have before : UInt8.ofNat c.toNat < UInt8.ofNat d.toNat ↔ c < d := by
        rw [UInt8.lt_iff_toNat_lt, value, value', char_lt_iff]
      have same : UInt8.ofNat c.toNat = UInt8.ofNat d.toNat ↔ c = d := by
        rw [← UInt8.toNat_inj, value, value', Char.toNat_inj]
      rw [List.map_cons, List.map_cons, List.cons_lt_cons_iff, List.cons_lt_cons_iff, before, same,
        ih plain plain']

theorem plain_padded (width n : Nat) : Plain (padded width n) :=
  plain_of_digits (isDigit_padded width n)

theorem plain_fields {separator : Char} (single : separator.toNat < 128) (width a b c : Nat) :
    Plain (fields separator width a b c) :=
  (plain_padded width a).append
    (.cons single ((plain_padded 2 b).append (.cons single (plain_padded 2 c))))

theorem plain_fractionText (nanos : Fin 1000000000) : Plain (fractionText nanos.val) := by
  by_cases whole : nanos.val = 0
  · rw [whole]
    exact fun c member => absurd member List.not_mem_nil
  · obtain ⟨digits, _, text, proper, _⟩ := fractionText_eq whole
    rw [text]
    exact .cons (by decide) (plain_of_digits proper)

theorem plain_stored {instant : Instant} (inRange : instant.InRange) : Plain instant.stored := by
  have offset : offsetText = '+' :: (padded 2 0 ++ ':' :: padded 2 0) := rfl
  have sign : Plain offsetText := by
    rw [offset]
    exact .cons (by decide) ((plain_padded 2 0).append (.cons (by decide) (plain_padded 2 0)))
  rw [stored_eq inRange]
  exact (plain_fields (by decide) _ _ _ _).append (.cons (by decide)
    ((plain_fields (by decide) _ _ _ _).append ((plain_fractionText _).append sign)))

end Instant

namespace TimeReader

theorem exact_isNewer_stored {written : Instant} (inRange : written.InRange) (now : Instant)
    (seconds : Int) :
    exact.isNewer (String.ofList written.stored) now seconds = written.isNewer now seconds := by
  simp only [exact, String.toList_ofList, Instant.ofStored?_stored inRange, Option.any_some]

theorem exact_faithful : exact.Faithful where
  read_stored := by
    intro written inRange
    simp only [exact, String.toList_ofList, Instant.ofStored?_stored inRange]
  newer_stored := by
    intro written now seconds inRange _ _ _
    exact exact_isNewer_stored inRange now seconds

end TimeReader

end ChatLog
