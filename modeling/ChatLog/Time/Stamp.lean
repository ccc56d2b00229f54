import ChatLog.Time.Instant

/-!
The stamp of a listed message: month and day, then the time of day on a clock of twelve hours with
the half of the day. Only minutes and seconds are padded.
-/
namespace ChatLog.Instant

/-- The hour on a clock of twelve hours, where midnight and noon are twelve. -/
def twelveHour (hour : Nat) : Nat :=
  if hour % 12 = 0 then 12 else hour % 12

def halfOfDay (hour : Nat) : String :=
  if hour < 12 then "AM" else "PM"

def twoDigits (n : Nat) : String :=
  if n < 10 then "0" ++ toString n else toString n

def stamp (instant : Instant) : String :=
  let date := instant.date
  let clock := instant.clock
  toString date.month ++ "/" ++ toString date.day ++ " " ++ toString (twelveHour clock.hour) ++
    ":" ++ twoDigits clock.minute ++ ":" ++ twoDigits clock.second ++ halfOfDay clock.hour

end ChatLog.Instant
