import ChatLog.Time.Stored

/-!
How the storage takes the texts that tell times. It reads them in ways and at a precision of its
own, once to test how long ago a time is and once more to give a row its instant, so both readings
are parameters here. Of a text that an instant is stored under, the instant is given back, and the
test is right to a second. A search looks at the present twice, when it counts and when it lists.
-/
namespace ChatLog

structure TimeReader where
  read? : String → Option Instant
  /-- Whether a text tells a time that lies less than a number of seconds before a moment. -/
  isNewer : String → Instant → Int → Bool

namespace TimeReader

/-- What is known of every reader, of the years that are written in four digits. -/
structure Faithful (reader : TimeReader) : Prop where
  read_stored : ∀ written : Instant, written.InRange →
    reader.read? (String.ofList written.stored) = some written
  newer_stored : ∀ (written now : Instant) (seconds : Int), written.InRange → now.InRange →
    0 ≤ seconds → 1000000000 ≤ (now.toNanos - seconds * 1000000000 - written.toNanos).natAbs →
    reader.isNewer (String.ofList written.stored) now seconds = written.isNewer now seconds

/-- Reads nothing but stored texts, and compares times to the billionth of a second. -/
def exact : TimeReader where
  read? text := Instant.ofStored? text.toList
  isNewer text now seconds :=
    (Instant.ofStored? text.toList).any fun written => written.isNewer now seconds

end TimeReader

structure Moment where
  reader : TimeReader
  instant : Instant

structure Timing where
  reader : TimeReader
  counting : Instant
  listing : Instant

namespace Timing

def onCount (timing : Timing) : Moment :=
  ⟨timing.reader, timing.counting⟩

def onListing (timing : Timing) : Moment :=
  ⟨timing.reader, timing.listing⟩

def once (now : Instant) : Timing :=
  ⟨.exact, now, now⟩

end Timing

end ChatLog
