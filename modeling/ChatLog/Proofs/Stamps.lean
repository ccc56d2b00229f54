import ChatLog.Proofs.Pieces
import ChatLog.Proofs.StoredTime
import ChatLog.Reply

/-!
What the stamp of a listed row tells. An instant falls on one date of the calendar, at one time of
that day. The fields of a stamp are told apart by what stands between them, so month, day and time
of day are read back from it: the half of the day says which of two hours its hour is.
-/
namespace ChatLog

/-- The date of the calendar on which an instant falls, and the time of that day. -/
structure Instant.FallsAt (instant : Instant) (date : Date) (clock : Clock) : Prop where
  proper : isDate date = true
  hour : clock.hour < 24
  minute : clock.minute < 60
  second : clock.second < 60
  told : ofDate date clock instant.nanos = instant

inductive Half where
  | am
  | pm
deriving DecidableEq, Repr

structure Stamp where
  month : Nat
  day : Nat
  hour : Nat
  minute : Nat
  second : Nat
  half : Half
deriving DecidableEq, Repr

namespace Stamp

/-- The hour of the day that a stamp tells, where twelve is the first hour of its half. -/
def hourOfDay (stamp : Stamp) : Nat :=
  match stamp.half with
  | .am => stamp.hour % 12
  | .pm => stamp.hour % 12 + 12

def clock (stamp : Stamp) : Clock :=
  ⟨stamp.hourOfDay, stamp.minute, stamp.second⟩

/-- A number in decimal digits before a separator, and what follows the separator. -/
def number? (separator : Char) (text : List Char) : Option (Nat × List Char) := do
  let (digits, rest) ← Text.cut? separator text
  return (← Numeral.natural? digits, rest)

def half? : List Char → Option Half
  | ['A', 'M'] => some .am
  | ['P', 'M'] => some .pm
  | _ => none

/-- The stamp that a text is. -/
def read? (text : List Char) : Option Stamp := do
  let (month, text) ← number? '/' text
  let (day, text) ← number? ' ' text
  let (hour, text) ← number? ':' text
  let (minute, text) ← Instant.field? 2 text
  let (second, text) ← Instant.field? 2 (← Instant.skip? ':' text)
  return ⟨month, day, hour, minute, second, ← half? text⟩

end Stamp

namespace Instant

theorem fallsAt_iff {instant : Instant} {date : Date} {clock : Clock} :
    instant.FallsAt date clock ↔ date = instant.date ∧ clock = instant.clock := by
  constructor
  · rintro ⟨proper, hour, minute, second, told⟩
    cases clock with
    | mk hours minutes seconds =>
      have counted : instant.seconds =
          (date.toDays - epochDay) * 86400 + (3600 * hours + 60 * minutes + seconds : Nat) :=
        congrArg Instant.seconds told.symm
      simp only at hour minute second
      -- the time of day is less than a day, so the seconds come apart, before 1970 as well
      have day : instant.seconds / 86400 + epochDay = date.toDays := by omega
      have inDay : (instant.seconds % 86400).toNat = 3600 * hours + 60 * minutes + seconds := by
        omega
      rw [Instant.date, day, Date.ofDays_toDays proper, Instant.clock, inDay]
      refine ⟨rfl, ?_⟩
      rw [Clock.mk.injEq]
      omega
  · rintro ⟨rfl, rfl⟩
    obtain ⟨hour, minute, second⟩ := instant.clock_bounds
    exact ⟨(Date.ofDays_spec _).2, hour, minute, second, instant.ofDate_date⟩

def toStamp (instant : Instant) : Stamp where
  month := instant.date.month
  day := instant.date.day
  hour := twelveHour instant.clock.hour
  minute := instant.clock.minute
  second := instant.clock.second
  half := if instant.clock.hour < 12 then .am else .pm

theorem clock_toStamp (instant : Instant) : instant.toStamp.clock = instant.clock := by
  have small := instant.clock_bounds.1
  have hour : instant.toStamp.hourOfDay = instant.clock.hour := by
    -- of both halves twelve is the first hour, which is where twelve stands for zero
    simp only [Stamp.hourOfDay, toStamp, twelveHour]
    split_ifs <;> simp only <;> omega
  rw [Stamp.clock, hour]
  rfl

theorem twelveHour_bounds (hour : Nat) : 1 ≤ twelveHour hour ∧ twelveHour hour ≤ 12 := by
  unfold twelveHour
  split <;> omega

theorem toList_twoDigits (n : Nat) : (twoDigits n).toList = padded 2 n := by
  unfold twoDigits
  split
  · rename_i small
    rw [String.toList_append, toList_toString, padded, padded, Nat.toDigits_of_lt_base small]
    rfl
  · rename_i large
    have long := Nat.length_toDigits_le_iff (b := 10) (n := n) (k := 1) (by decide) (by decide)
    have long : 2 - (Nat.toDigits 10 n).length = 0 := by omega
    rw [toList_toString, padded, padded, long, Nat.zero_sub]

theorem toList_stamp (instant : Instant) :
    instant.stamp.toList =
      padded 0 instant.date.month ++ '/' :: (padded 0 instant.date.day ++
      ' ' :: (padded 0 (twelveHour instant.clock.hour) ++
      ':' :: (padded 2 instant.clock.minute ++ ':' :: (padded 2 instant.clock.second ++
      (halfOfDay instant.clock.hour).toList)))) := by
  simp only [stamp, String.toList_append, toList_toString, toList_twoDigits, List.append_assoc]
  rfl

theorem number?_padded {separator : Char} (other : ¬ separator.isDigit) (width n : Nat)
    (rest : List Char) :
    Stamp.number? separator (padded width n ++ separator :: rest) = some (n, rest) := by
  rw [Stamp.number?, Text.cut?_append (not_mem_padded other width n)]
  simp only [Option.bind_eq_bind, Option.bind_some, natural?_padded, pure]

theorem half?_halfOfDay (hour : Nat) :
    Stamp.half? (halfOfDay hour).toList = some (if hour < 12 then .am else .pm) := by
  unfold halfOfDay
  split <;> rfl

theorem read?_stamp (instant : Instant) :
    Stamp.read? instant.stamp.toList = some instant.toStamp := by
  obtain ⟨_, minute, second⟩ := instant.clock_bounds
  have two {n : Nat} (small : n < 60) (rest : List Char) :
      field? 2 (padded 2 n ++ rest) = some (n, rest) := field?_padded (by decide) (by omega) rest
  rw [toList_stamp, Stamp.read?, number?_padded (by decide)]
  simp only [Option.bind_eq_bind, Option.bind_some, number?_padded (by decide : ¬ ' '.isDigit),
    number?_padded (by decide : ¬ ':'.isDigit), two minute, two second, skip?, if_true,
    half?_halfOfDay, pure]
  rfl

theorem not_mem_stamp (instant : Instant) : ']' ∉ instant.stamp.toList := by
  have digits (width n : Nat) : ']' ∉ padded width n := not_mem_padded (by decide) width n
  have half : ']' ∉ (halfOfDay instant.clock.hour).toList := by
    unfold halfOfDay
    split <;> decide
  simp [toList_stamp, digits, half]

end Instant

namespace Reply

def bracketed? (text : String) : Option (List Char) :=
  match text.toList with
  | '[' :: rest => (Text.cut? ']' rest).map Prod.fst
  | _ => none

theorem bracketed?_line (row : Row) (pattern : String) :
    bracketed? (line row pattern) = some row.written.stamp.toList := by
  have opening : "[".toList = ['['] := rfl
  have closing : "] ".toList = [']', ' '] := rfl
  simp only [bracketed?, line, String.toList_append, opening, closing, List.append_assoc,
    List.cons_append, List.nil_append, Text.cut?_append row.written.not_mem_stamp, Option.map_some]

/-- The stamp between the brackets of a line tells the time of its row. An instant of whatever year
falls on one date of the calendar, at one time of that day, and month, day, hour, minute and second
of these are read back from the line. So two lines show the same stamp if and only if their rows
agree in these five. The hour is written as one of twelve, with AM before noon and PM from noon
on. -/
theorem stamp_tells_time :
    (∀ instant : Instant, ∃ date clock, ∀ date' clock',
      instant.FallsAt date' clock' ↔ date' = date ∧ clock' = clock) ∧
    (∀ (row : Row) (date : Date) (clock : Clock), row.written.FallsAt date clock →
      ∀ pattern, ∃ text stamp, bracketed? (line row pattern) = some text ∧
        Stamp.read? text = some stamp ∧
        stamp.month = date.month ∧ stamp.day = date.day ∧ stamp.clock = clock ∧
        1 ≤ stamp.hour ∧ stamp.hour ≤ 12 ∧
        stamp.half = (if clock.hour < 12 then .am else .pm)) ∧
    ∀ (row other : Row) (date date' : Date) (clock clock' : Clock),
      row.written.FallsAt date clock → other.written.FallsAt date' clock' →
      ∀ pattern pattern', bracketed? (line row pattern) = bracketed? (line other pattern') ↔
        date.month = date'.month ∧ date.day = date'.day ∧ clock.hour = clock'.hour ∧
          clock.minute = clock'.minute ∧ clock.second = clock'.second := by
  refine ⟨?_, ?_, ?_⟩
  · intro instant
    exact ⟨instant.date, instant.clock, fun _ _ => Instant.fallsAt_iff⟩
  · intro row date clock falls pattern
    obtain ⟨rfl, rfl⟩ := Instant.fallsAt_iff.mp falls
    obtain ⟨atLeast, atMost⟩ := Instant.twelveHour_bounds row.written.clock.hour
    exact ⟨_, _, bracketed?_line row pattern, row.written.read?_stamp, rfl, rfl,
      row.written.clock_toStamp, atLeast, atMost, rfl⟩
  · intro row other date date' clock clock' falls falls' pattern pattern'
    obtain ⟨rfl, rfl⟩ := Instant.fallsAt_iff.mp falls
    obtain ⟨rfl, rfl⟩ := Instant.fallsAt_iff.mp falls'
    rw [bracketed?_line, bracketed?_line, Option.some.injEq, String.toList_inj]
    constructor
    · intro same
      have read := row.written.read?_stamp
      rw [same, other.written.read?_stamp] at read
      have stamps : row.written.toStamp = other.written.toStamp := (Option.some.inj read).symm
      have clocks := congrArg Stamp.clock stamps
      rw [Instant.clock_toStamp, Instant.clock_toStamp] at clocks
      exact ⟨congrArg Stamp.month stamps, congrArg Stamp.day stamps, congrArg Clock.hour clocks,
        congrArg Clock.minute clocks, congrArg Clock.second clocks⟩
    · rintro ⟨month, day, hour, minute, second⟩
      simp only [Instant.stamp, month, day, hour, minute, second]

/-- Two leap days, one of them before 1970, just after midnight. -/
theorem stamp_tells_time_leap_days :
    let row : Row := ⟨"alice", "hello", ⟨-58060795, 0⟩⟩
    let other : Row := ⟨"bob", "world", ⟨1709164805, 0⟩⟩
    row.written.FallsAt ⟨1968, 2, 29⟩ ⟨0, 0, 5⟩ ∧ other.written.FallsAt ⟨2024, 2, 29⟩ ⟨0, 0, 5⟩ ∧
      bracketed? (line row "hello") = some "2/29 12:00:05AM".toList ∧
      (∃ stamp, Stamp.read? "2/29 12:00:05AM".toList = some stamp ∧ stamp.month = 2 ∧
        stamp.day = 29 ∧ stamp.clock = ⟨0, 0, 5⟩ ∧ stamp.half = .am) ∧
      bracketed? (line row "hello") = bracketed? (line other "") := by
  intro row other
  have falls : row.written.FallsAt ⟨1968, 2, 29⟩ ⟨0, 0, 5⟩ :=
    ⟨by decide, by decide, by decide, by decide, by decide⟩
  have falls' : other.written.FallsAt ⟨2024, 2, 29⟩ ⟨0, 0, 5⟩ :=
    ⟨by decide, by decide, by decide, by decide, by decide⟩
  have shown : bracketed? (line row "hello") = some "2/29 12:00:05AM".toList := by decide +kernel
  obtain ⟨text, stamp, bracketed, read, month, day, clock, _, _, half⟩ :=
    stamp_tells_time.2.1 row _ _ falls "hello"
  obtain rfl := Option.some.inj (shown.symm.trans bracketed)
  have same := (stamp_tells_time.2.2 row other _ _ _ _ falls falls' "hello" "").mpr
    ⟨rfl, rfl, rfl, rfl, rfl⟩
  exact ⟨falls, falls', shown, ⟨stamp, read, month, day, clock, half⟩, same⟩

end Reply

end ChatLog
