import ChatLog.Proofs.Numerals
import ChatLog.Proofs.Precedence

/-!
What the value of an environment variable becomes. Before it is converted to what its setting has to
be, a value that is written like a truth value or a number is taken for one. So a text arrives as it
is written only if no truth value and no number is written otherwise in it, and a number beyond the
signed words only if it is one of the numbers of the binary64 format.
-/
namespace ChatLog

namespace Rounding

theorem toNearestUp_one (n : Nat) : toNearestUp n 1 = n := by
  rw [toNearestUp]
  omega

/-- The nearest multiple is the number itself exactly if the number is a multiple. -/
theorem mul_toNearestEven_eq_iff {den : Nat} (positive : 0 < den) (n : Nat) :
    den * toNearestEven n den = n ↔ den ∣ n := by
  constructor
  · intro same
    exact ⟨_, same.symm⟩
  · rintro ⟨m, rfl⟩
    simp [toNearestEven, positive]

end Rounding

namespace Binary64

open Rounding

theorem toWord_of_quotient {mantissa : Nat} {exponent : Int} {q : Nat}
    (whole : quotient mantissa exponent = (q, 1)) :
    (finite false mantissa exponent).toWord = UInt64.ofNat (min q (UInt64.size - 1)) := by
  simp only [toWord, whole, toNearestUp_one]

section

variable {n : Nat} (large : 0x8000000000000000 ≤ n) (fits : n < UInt64.size)

include large fits

theorem exponentFor_large : exponentFor n 1 = 11 := by
  have places : n.log2 = 63 := (Nat.log2_eq_iff (by omega)).mpr ⟨large, fits⟩
  have one : Nat.log2 1 = 0 := by decide
  have guess : ((63 : Nat) : Int) - ((0 : Nat) : Int) - 53 = 10 := by decide
  have quotient : scaled n 1 10 = (n, 1024) := rfl
  have reaches : 1024 * mantissaBound ≤ n := large
  simp only [exponentFor, places, one, guess, quotient, if_pos reaches]
  rfl

theorem ofQuotient_large : ofQuotient false n 1 =
    if toNearestEven n 2048 = mantissaBound then .finite false (mantissaBound / 2) 12
    else .finite false (toNearestEven n 2048) 11 := by
  have positive : n ≠ 0 := by omega
  have exponent := exponentFor_large large fits
  rw [ofQuotient, if_neg positive]
  -- the exponent is put in for a variable, since it is no use computing it from `n`
  generalize exponentFor n 1 = found at exponent
  subst exponent
  have quotient : scaled n 1 11 = (n, 2048) := rfl
  by_cases top : toNearestEven n 2048 = mantissaBound
  · simp only [quotient, top, if_true]
    exact if_neg (by decide)
  · simp only [quotient, if_neg top]
    exact if_neg (by decide)

/-- An unsigned word beyond the signed ones is rounded to a multiple of 2048 when it is read as a
real number. -/
theorem toWord_ofDecimal : (ofDecimal false n 0).toWord =
    UInt64.ofNat (min (2048 * toNearestEven n 2048) (UInt64.size - 1)) := by
  have places : n.log2 = 63 := (Nat.log2_eq_iff (by omega)).mpr ⟨large, fits⟩
  have positive : n ≠ 0 := by omega
  have read : ofDecimal false n 0 = ofQuotient false n 1 := by
    simp [ofDecimal, places, positive]
  rw [read, ofQuotient_large large fits]
  split
  · rename_i top
    have doubled : mantissaBound / 2 * 4096 = 2048 * mantissaBound := by decide
    rw [toWord_of_quotient (q := mantissaBound / 2 * 4096) rfl, doubled, top]
  · rw [toWord_of_quotient (q := toNearestEven n 2048 * 2048) rfl, Nat.mul_comm]

end

end Binary64

/-- The characters that words and numbers are written with. -/
def IsCommon (c : Char) : Prop :=
  c.isAlphanum ∨ c = '+' ∨ c = '-' ∨ c = '.'

instance (c : Char) : Decidable (IsCommon c) :=
  inferInstanceAs (Decidable (_ ∨ _))

theorem IsCommon.of_isDigit {c : Char} (digit : c.isDigit) : IsCommon c :=
  .inl (by simp [Char.isAlphanum, digit])

/-- What is a letter in lower case is one already. -/
theorem IsCommon.of_toLower {c : Char} (lower : c.toLower.isAlpha) : IsCommon c := by
  unfold Char.toLower at lower
  split at lower
  · rename_i capital
    have upper : c.isUpper := decide_eq_true capital
    have alpha : c.isAlpha := Bool.or_eq_true_iff.mpr (.inl upper)
    exact .inl (by simp [Char.isAlphanum, alpha])
  · exact .inl (by simp [Char.isAlphanum, lower])

theorem toList_toLower (text : String) : text.toLower.toList = text.toList.map Char.toLower :=
  String.toList_map

theorem toLower_of_isDigit {c : Char} (digit : c.isDigit) : c.toLower = c := by
  have bounds := Numeral.isDigit_bounds digit
  unfold Char.toLower
  rw [dif_neg]
  rintro ⟨least, _⟩
  have : 65 ≤ c.val.toNat := UInt32.le_iff_toNat_le.mp least
  have : c.toNat = c.val.toNat := rfl
  omega

/-- A text that spells a word, in whatever case. -/
theorem isCommon_of_map_toLower {text word : List Char}
    (lower : text.map Char.toLower = word) (letters : ∀ c ∈ word, c.isAlpha) :
    ∀ c ∈ text, IsCommon c := by
  intro c member
  exact .of_toLower (letters _ (lower ▸ List.mem_map_of_mem member))

theorem Numeral.Writes.isCommon {text : List Char} {n : Int} (written : Numeral.Writes text n) :
    ∀ c ∈ text, IsCommon c := by
  have digits {digits : List Char} {n : Nat} (decimal : Numeral.IsDecimal digits n) :
      ∀ c ∈ digits, IsCommon c :=
    fun c member => .of_isDigit (decimal.proper c member)
  cases written with
  | unsigned decimal => exact digits decimal
  | plus decimal => exact List.forall_mem_cons.mpr ⟨.inr (.inl rfl), digits decimal⟩
  | minus decimal => exact List.forall_mem_cons.mpr ⟨.inr (.inr (.inl rfl)), digits decimal⟩

namespace Real

open Numeral (IsDecimal)

theorem map_toLower_decimal {digits : List Char} {n : Nat} (decimal : IsDecimal digits n) :
    digits.map Char.toLower = digits := by
  rw [List.map_congr_left fun c member => toLower_of_isDigit (decimal.proper c member)]
  exact List.map_id digits

theorem read?_decimal {digits : List Char} {n : Nat} (decimal : IsDecimal digits n) :
    read? digits = some (.ofDecimal false n 0) := by
  have all := decimal.proper
  have whole : spanDigits digits = (digits, []) := by
    rw [spanDigits, List.takeWhile_eq_self_iff.mpr all, List.dropWhile_eq_nil_iff.mpr all]
  have read : unsigned? false digits = some (.ofDecimal false n 0) := by
    simp [unsigned?, whole, exponent?, Numeral.natural?_eq_some_iff.mpr decimal]
  have unnamed : named? false digits = none := by
    unfold named?
    rw [map_toLower_decimal decimal]
    split
    · rename_i word
      exact absurd (all 'i' (by simp [String.ofList_injective word])) (by decide)
    · rename_i word
      exact absurd (all 'i' (by simp [String.ofList_injective word])) (by decide)
    · rename_i word
      exact absurd (all 'n' (by simp [String.ofList_injective word])) (by decide)
    · rfl
  unfold read?
  split
  · exact absurd decimal.head_isDigit (by decide)
  · exact absurd decimal.head_isDigit (by decide)
  · rw [unnamed, read]
    rfl

theorem isCommon_of_named? {negative : Bool} {text : List Char} {x : Binary64}
    (found : named? negative text = some x) : ∀ c ∈ text, IsCommon c := by
  unfold named? at found
  split at found
  · rename_i word
    exact isCommon_of_map_toLower (String.ofList_injective word) (List.all_eq_true.mp rfl)
  · rename_i word
    exact isCommon_of_map_toLower (String.ofList_injective word) (List.all_eq_true.mp rfl)
  · rename_i word
    exact isCommon_of_map_toLower (String.ofList_injective word) (List.all_eq_true.mp rfl)
  · cases found

theorem isCommon_of_exponent? {text : List Char} {power : Int}
    (found : exponent? text = some power) : ∀ c ∈ text, IsCommon c := by
  unfold exponent? at found
  split at found
  · simp
  · split at found
    · rename_i letter
      refine List.forall_mem_cons.mpr ⟨?_, (Numeral.integer?_eq_some_iff.mp found).isCommon⟩
      rcases letter with rfl | rfl <;> decide
    · cases found

theorem isCommon_of_unsigned? {negative : Bool} {text : List Char} {x : Binary64}
    (found : unsigned? negative text = some x) : ∀ c ∈ text, IsCommon c := by
  have digits (part : List Char) : ∀ c ∈ part.takeWhile Char.isDigit, IsCommon c :=
    fun _ member => .of_isDigit (List.mem_takeWhile_imp member)
  have power {whole fraction rest : List Char} (found : (do
      let digits ← Numeral.natural? (whole ++ fraction)
      let power ← exponent? rest
      return Binary64.ofDecimal negative digits (power - fraction.length)) = some x) :
      ∀ c ∈ rest, IsCommon c := by
    obtain ⟨_, _, found⟩ := Option.bind_eq_some_iff.mp found
    obtain ⟨_, read, _⟩ := Option.bind_eq_some_iff.mp found
    exact isCommon_of_exponent? read
  rw [← List.takeWhile_append_dropWhile (p := Char.isDigit) (l := text), List.forall_mem_append]
  refine ⟨digits text, ?_⟩
  simp only [unsigned?, spanDigits] at found
  split at found
  · rename_i after point
    rw [point, List.forall_mem_cons,
      ← List.takeWhile_append_dropWhile (p := Char.isDigit) (l := after), List.forall_mem_append]
    exact ⟨by decide, digits after, power found⟩
  · exact power found

theorem isCommon_of_read? {text : List Char} {x : Binary64} (found : read? text = some x) :
    ∀ c ∈ text, IsCommon c := by
  have rest {negative : Bool} {text : List Char}
      (found : ((named? negative text).orElse fun _ => unsigned? negative text) = some x) :
      ∀ c ∈ text, IsCommon c := by
    cases named : named? negative text with
    | some y => exact isCommon_of_named? named
    | none =>
      rw [named] at found
      exact isCommon_of_unsigned? found
  unfold read? at found
  split at found
  · exact List.forall_mem_cons.mpr ⟨by decide, rest found⟩
  · exact List.forall_mem_cons.mpr ⟨by decide, rest found⟩
  · exact rest found

end Real

namespace Settings

namespace Value

open Numeral (IsDecimal Signed Writes)

/-- A text in which no truth value and no number is written otherwise than it is read. -/
structure Plain (written : String) : Prop where
  truth : written.toLower = "true" ∨ written.toLower = "false" → written.toLower = written
  whole : ∀ n, Writes written.toList n → Signed n → toString n = written
  real : ∀ x, Real.read? written.toList = some x →
    (∀ n, Writes written.toList n → ¬ Signed n) → x.text = written

theorem plain_of_unread {written : String}
    (truth : written.toLower = "true" ∨ written.toLower = "false" → written.toLower = written)
    (unread : Real.read? written.toList = none)
    (whole : Numeral.integer? written.toList = none) : Plain written where
  truth := truth
  whole := by
    intro n writes
    rw [← Numeral.integer?_eq_some_iff, whole] at writes
    cases writes
  real := by
    intro x read
    rw [unread] at read
    cases read

theorem toText?_ofVariable (written : String) :
    ∃ text, (ofVariable written).toText? = some text ∧ (text = written ↔ Plain written) := by
  unfold ofVariable
  split
  · rename_i truth
    refine ⟨"true", rfl, ?_, fun plain => truth.symm.trans (plain.truth (.inl truth))⟩
    rintro rfl
    exact plain_of_unread (fun _ => truth) (by decide) (by decide)
  · rename_i untrue
    split
    · rename_i truth
      refine ⟨"false", rfl, ?_, fun plain => truth.symm.trans (plain.truth (.inr truth))⟩
      rintro rfl
      exact plain_of_unread (fun _ => truth) (by decide) (by decide)
    · rename_i unfalse
      have bare : written.toLower = "true" ∨ written.toLower = "false" →
          written.toLower = written := by simp [untrue, unfalse]
      cases signed : Numeral.signed? written.toList with
      | some n =>
        obtain ⟨writes, fits⟩ := Numeral.signed?_eq_some_iff.mp signed
        refine ⟨toString n, rfl, fun same => ⟨bare, ?_, ?_⟩, fun plain => plain.whole n writes fits⟩
        · intro other again _
          rw [← Numeral.integer?_eq_some_iff] at writes again
          rw [writes] at again
          exact Option.some.inj again ▸ same
        · intro _ _ unread
          exact absurd fits (unread n writes)
      | none =>
        have unwhole : ∀ n, Writes written.toList n → ¬ Signed n := by
          intro n writes fits
          rw [Numeral.signed?_eq_some_iff.mpr ⟨writes, fits⟩] at signed
          cases signed
        cases read : Real.read? written.toList with
        | some x =>
          refine ⟨x.text, rfl, fun same => ⟨bare, ?_, ?_⟩, fun plain => plain.real x read unwhole⟩
          · intro n writes fits
            exact absurd fits (unwhole n writes)
          · intro y again _
            rw [read] at again
            exact Option.some.inj again ▸ same
        | none =>
          refine ⟨written, rfl, fun _ => ⟨bare, ?_, ?_⟩, fun _ => rfl⟩
          · intro n writes fits
            exact absurd fits (unwhole n writes)
          · intro x again
            rw [read] at again
            cases again

/-- A text with a character that neither words nor numbers have in them. -/
theorem plain_of_not_isCommon {written : String} {c : Char} (member : c ∈ written.toList)
    (other : ¬ IsCommon c) : Plain written where
  truth := by
    intro truth
    refine absurd ?_ other
    rcases truth with truth | truth
    · have word := (toList_toLower written).symm.trans (congrArg String.toList truth)
      exact isCommon_of_map_toLower word (List.all_eq_true.mp rfl) c member
    · have word := (toList_toLower written).symm.trans (congrArg String.toList truth)
      exact isCommon_of_map_toLower word (List.all_eq_true.mp rfl) c member
  whole := fun _ writes => absurd (writes.isCommon c member) other
  real := fun _ read => absurd (Real.isCommon_of_read? read c member) other

/-- What becomes of the decimal digits of an unsigned word. Beyond the signed words they are read as
a real number. -/
def arrived (n : UInt64) : UInt64 :=
  if n.toNat < 0x8000000000000000 then n
  else UInt64.ofNat (min (2048 * Rounding.toNearestEven n.toNat 2048) (UInt64.size - 1))

theorem arrived_eq_iff (n : UInt64) : arrived n = n ↔
    n.toNat < 0x8000000000000000 ∨ 2048 ∣ n.toNat ∨ n.toNat = UInt64.size - 1 := by
  unfold arrived
  split
  · simp [*]
  · rename_i large
    have fits := n.toNat_lt_size
    have most : UInt64.size = 0x10000000000000000 := rfl
    have small : min (2048 * Rounding.toNearestEven n.toNat 2048) (UInt64.size - 1) < UInt64.size :=
      by omega
    rw [← UInt64.toNat_inj, UInt64.toNat_ofNat_of_lt' small, or_iff_right large]
    by_cases greatest : n.toNat = UInt64.size - 1
    · simp only [greatest, or_true, iff_true]
      decide
    · rw [or_iff_left greatest, ← Rounding.mul_toNearestEven_eq_iff (by decide)]
      omega

theorem toWord?_ofVariable (n : UInt64) :
    (ofVariable (toString n)).toWord? = some (arrived n) := by
  have decimal := Numeral.isDecimal_toString n
  have lower : (toString n).toLower = toString n := by
    rw [← String.toList_inj, toList_toLower, Real.map_toLower_decimal decimal]
  have untrue : toString n ≠ "true" := fun word =>
    absurd (decimal.proper 't' (by simp [word])) (by decide)
  have unfalse : toString n ≠ "false" := fun word =>
    absurd (decimal.proper 'f' (by simp [word])) (by decide)
  rw [ofVariable, lower, if_neg untrue, if_neg unfalse, arrived]
  by_cases small : n.toNat < 0x8000000000000000
  · have fits : Signed n.toNat := ⟨by omega, by omega⟩
    rw [if_pos small, Numeral.signed?_eq_some_iff.mpr ⟨.unsigned decimal, fits⟩]
    simp [toWord?]
  · have unsigned : Numeral.signed? (toString n).toList = none := by
      rw [Numeral.signed?, Numeral.integer?_eq_some_iff.mpr (.unsigned decimal)]
      simp [Signed]
      omega
    simp only [if_neg small, unsigned, Real.read?_decimal decimal, toWord?]
    rw [Binary64.toWord_ofDecimal (by omega) n.toNat_lt_size]

end Value

section

variable {elsewhere : Reader} {files : Files} {path : String} {file : Table}
  (reads : Reads elsewhere files path file)

include reads

theorem load_of_told {environment : List (String × String)} {key : Key} {datum : Datum}
    (told : key.datum? (key.effective? environment file) = some datum)
    (beside : ∀ other : Key, other ≠ key →
      other.datum? (other.effective? environment file) ≠ none) :
    ∃ settings, load elsewhere files path environment = .ok settings ∧
      settings.datum key = datum := by
  cases done : load elsewhere files path environment with
  | error failure =>
    obtain ⟨other, unset⟩ := (load_eq_error_iff reads).mp ⟨failure, done⟩
    by_cases same : other = key
    · rw [same, told] at unset
      cases unset
    · exact absurd unset (beside other same)
  | ok settings =>
    have again := (load_eq_ok_iff reads).mp done key
    rw [told] at again
    exact ⟨settings, rfl, (Option.some.inj again).symm⟩

/-- A variable for a setting never keeps the settings from loading if it is for a text, or has the
digits of an unsigned word. A text arrives as it is written exactly if it is plain, which it is if
one of its characters has no place in words and numbers. The digits of a word give that word exactly
if it is below the half of the range, a multiple of 2048 or the greatest one. -/
theorem variable_arrives_iff {key : Key} {name : String}
    (names : keyOfVariable? name = some key.name)
    {front : List (String × String)} (silent : ∀ given ∈ front, key.saidBy? given = none)
    (behind : List (String × String)) (written : String)
    (beside : ∀ other : Key, other ≠ key →
      other.datum? (other.effective? (front ++ (name, written) :: behind) file) ≠ none) :
    let environment := front ++ (name, written) :: behind
    (key.isText → ∃ settings, load elsewhere files path environment = .ok settings ∧
      (settings.datum key = .text written ↔ Value.Plain written) ∧
      ∀ c ∈ written.toList, ¬ IsCommon c → settings.datum key = .text written) ∧
    (key.isText = false → ∀ n : UInt64, written = toString n →
      ∃ settings, load elsewhere files path environment = .ok settings ∧
        settings.datum key = .word (Value.arrived n) ∧
        (settings.datum key = .word n ↔
          n.toNat < 0x8000000000000000 ∨ 2048 ∣ n.toNat ∨ n.toNat = UInt64.size - 1)) := by
  intro environment
  have counts : key.effective? environment file = some (.ofVariable written) := by
    have said := @Key.saidBy?_of_names key key (name, written) names
    rw [if_pos rfl] at said
    rw [Key.effective?_append_of_silent silent, Key.effective?, List.findSome?_cons, said]
    rfl
  constructor
  · intro words
    obtain ⟨text, converts, plain⟩ := Value.toText?_ofVariable written
    have told : key.datum? (key.effective? environment file) = some (.text text) := by
      simp [counts, Key.datum?, Key.convert?, words, converts]
    obtain ⟨settings, done, arrives⟩ := load_of_told reads told beside
    refine ⟨settings, done, ?_, fun c member other => ?_⟩
    · rw [arrives, Datum.text.injEq, plain]
    · rw [arrives, plain.mpr (Value.plain_of_not_isCommon member other)]
  · rintro number n rfl
    have told : key.datum? (key.effective? environment file) = some (.word (Value.arrived n)) := by
      simp [counts, Key.datum?, Key.convert?, number, Value.toWord?_ofVariable]
    obtain ⟨settings, done, arrives⟩ := load_of_told reads told beside
    refine ⟨settings, done, arrives, ?_⟩
    rw [arrives, Datum.word.injEq, Value.arrived_eq_iff]

end

/-- A text with a slash, and a multiple of 2048 beyond the signed words. -/
theorem variable_arrives_iff_slash :
    let elsewhere : Reader := fun _ _ => none
    let front := [("CHATSEARCH_COLOUR", "red")]
    let path := "./chatsearch"
    (∃ settings, load elsewhere [] path (front ++ [("CHATSEARCH_DATABASE", "logs/007.db")]) =
        .ok settings ∧ settings.datum .database = .text "logs/007.db") ∧
      ∃ settings, load elsewhere [] path
        (front ++ [("CHATSEARCH_SELF_ID", "9223372036854777856")]) = .ok settings ∧
          settings.datum .selfId = .word 9223372036854777856 := by
  intro elsewhere front path
  have reads : Reads elsewhere [] path [] := .absent (by decide +kernel)
  have unknown : keyOfVariable? "CHATSEARCH_COLOUR" = some "colour" := by decide +kernel
  have silent : ∀ key : Key, ∀ given ∈ front, key.saidBy? given = none := by
    intro key given member
    rw [List.mem_singleton.mp member, Key.saidBy?, unknown]
    cases key <;> decide
  have beside {key : Key} {name : String} (names : keyOfVariable? name = some key.name)
      (written : String) : ∀ other : Key, other ≠ key →
        other.datum? (other.effective? (front ++ [(name, written)]) []) ≠ none := by
    intro other different
    have said := @Key.saidBy?_of_names other key (name, written) names
    rw [if_neg different] at said
    rw [Key.effective?_append_of_silent (silent other), Key.effective?, List.findSome?_cons, said]
    exact Option.some_ne_none _
  constructor
  · have names : keyOfVariable? "CHATSEARCH_DATABASE" = some Key.database.name := by decide +kernel
    obtain ⟨settings, done, _, arrives⟩ :=
      (variable_arrives_iff reads names (silent _) [] "logs/007.db" (beside names _)).1 rfl
    exact ⟨settings, done, arrives '/' (by decide) (by decide)⟩
  · have names : keyOfVariable? "CHATSEARCH_SELF_ID" = some Key.selfId.name := by decide +kernel
    obtain ⟨settings, done, _, whole⟩ :=
      (variable_arrives_iff reads names (silent _) [] "9223372036854777856" (beside names _)).2 rfl
        9223372036854777856 (by decide +kernel)
    exact ⟨settings, done, whole.mpr (.inr (.inl (by decide)))⟩

/-- The zeros that a text opens with are lost, and so is the last digit of an id. A settings file
with the same texts gives both as they are written. -/
theorem variable_arrives_otherwise :
    let elsewhere : Reader := fun _ _ => none
    let path := "./chatsearch"
    load elsewhere [] path [("CHATSEARCH_COMMAND_TRIGGER", "007")] =
        .ok { builtIn with commandTrigger := "7" } ∧
      load elsewhere [("chatsearch.toml", "command_trigger = '007'")] path [] =
        .ok { builtIn with commandTrigger := "007" } ∧
      load elsewhere [] path [("CHATSEARCH_SELF_ID", "9223372036854775809")] =
        .ok { builtIn with selfId := 9223372036854775808 } ∧
      load elsewhere [("chatsearch.toml", "self_id = '9223372036854775809'")] path [] =
        .ok { builtIn with selfId := 9223372036854775809 } := by
  decide +kernel

end Settings

end ChatLog
