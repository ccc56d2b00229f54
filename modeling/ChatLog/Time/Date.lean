/-!
The calendar: days, counted from the first day of the year 1, and dates of the Gregorian calendar
extended to all years. Years repeat after four centuries, so a day is first placed in its span of
four centuries, then in a century, in four years and in a year.
-/
namespace ChatLog

structure Date where
  year : Int
  month : Nat
  day : Nat
deriving DecidableEq, Repr

namespace Date

def isLeap (year : Int) : Bool :=
  year % 4 = 0 && (year % 100 != 0 || year % 400 = 0)

def monthLengths (leap : Bool) : List Nat :=
  [31, if leap then 29 else 28, 31, 30, 31, 30, 31, 31, 30, 31, 30, 31]

def daysBeforeYear (year : Int) : Int :=
  let past := year - 1
  365 * past + past / 4 - past / 100 + past / 400

/-- The year of a day and how many days of that year lie before it. -/
def yearAndDay (days : Int) : Int × Nat :=
  let span := days / 146097
  let inSpan := days % 146097
  let century := min (inSpan / 36524) 3
  let inCentury := inSpan - 36524 * century
  let four := inCentury / 1461
  let inFour := inCentury % 1461
  let single := min (inFour / 365) 3
  (400 * span + 100 * century + 4 * four + single + 1, (inFour - 365 * single).toNat)

def monthAndDay (month day : Nat) : (lengths : List Nat) → Nat × Nat
  | [] => (month, day + 1)
  | length :: later =>
    if day < length then (month, day + 1) else monthAndDay (month + 1) (day - length) later

def ofDays (days : Int) : Date :=
  let (year, inYear) := yearAndDay days
  let (month, day) := monthAndDay 1 inYear (monthLengths (isLeap year))
  ⟨year, month, day⟩

def toDays (date : Date) : Int :=
  let months := (monthLengths (isLeap date.year)).take (date.month - 1)
  daysBeforeYear date.year + (months.foldl Nat.add 0 + date.day : Nat) - 1

end Date

end ChatLog
