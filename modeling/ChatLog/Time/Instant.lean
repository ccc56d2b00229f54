import ChatLog.Time.Date

/-!
Instants: seconds since the start of 1970 and the billionths of a second after that, and the time
of day of an instant in universal time.
-/
namespace ChatLog

structure Instant where
  seconds : Int
  nanos : Fin 1000000000
deriving DecidableEq, Repr

structure Clock where
  hour : Nat
  minute : Nat
  second : Nat
deriving DecidableEq, Repr

namespace Instant

def epochDay : Int := 719162

def toNanos (instant : Instant) : Int :=
  instant.seconds * 1000000000 + instant.nanos.val

def ofNanos (nanos : Int) : Instant :=
  ⟨nanos / 1000000000, (nanos % 1000000000).toNat, by omega⟩

def date (instant : Instant) : Date :=
  .ofDays (instant.seconds / 86400 + epochDay)

def InRange (instant : Instant) : Prop :=
  1 ≤ instant.date.year ∧ instant.date.year ≤ 9999

instance (instant : Instant) : Decidable instant.InRange :=
  inferInstanceAs (Decidable (_ ∧ _))

def clock (instant : Instant) : Clock :=
  let second := (instant.seconds % 86400).toNat
  ⟨second / 3600, second / 60 % 60, second % 60⟩

def ofDate (date : Date) (clock : Clock) (nanos : Fin 1000000000) : Instant :=
  ⟨(date.toDays - epochDay) * 86400 + (3600 * clock.hour + 60 * clock.minute + clock.second : Nat),
    nanos⟩

/-- Whether the instant lies less than a number of seconds before another one, or after it. -/
def isNewer (instant now : Instant) (seconds : Int) : Bool :=
  now.toNanos - seconds * 1000000000 < instant.toNanos

end Instant

end ChatLog
