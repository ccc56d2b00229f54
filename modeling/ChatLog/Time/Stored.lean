import ChatLog.Number.Numeral
import ChatLog.Time.Instant

/-!
The text under which an instant is stored: date, time of day, as many of three, six or nine digits
of the second's fraction as it needs, and the offset zero. Such texts are read back exactly, and
the texts of the years 1 to 9999 are in the order of time.
-/
namespace ChatLog.Instant

def padded (width n : Nat) : List Char :=
  let digits := Nat.toDigits 10 n
  List.replicate (width - digits.length) '0' ++ digits

def yearText (year : Int) : List Char :=
  if year < 0 then '-' :: padded 4 year.natAbs else padded 4 year.toNat

/-- The fraction of a second, in the fewest digits of none, three, six or nine that are exact. -/
def fractionText (nanos : Nat) : List Char :=
  if nanos = 0 then []
  else if nanos % 1000000 = 0 then '.' :: padded 3 (nanos / 1000000)
  else if nanos % 1000 = 0 then '.' :: padded 6 (nanos / 1000)
  else '.' :: padded 9 nanos

def offsetText : List Char := "+00:00".toList

def stored (instant : Instant) : List Char :=
  let date := instant.date
  let clock := instant.clock
  yearText date.year ++ '-' :: padded 2 date.month ++ '-' :: padded 2 date.day ++
    ' ' :: padded 2 clock.hour ++ ':' :: padded 2 clock.minute ++ ':' :: padded 2 clock.second ++
    fractionText instant.nanos.val ++ offsetText

def field? (width : Nat) (text : List Char) : Option (Nat × List Char) :=
  let digits := text.take width
  if digits.length = width then
    (Numeral.natural? digits).map fun n => (n, text.drop width)
  else none

def skip? (c : Char) : List Char → Option (List Char)
  | [] => none
  | head :: rest => if head = c then some rest else none

def fraction? (digits : List Char) : Option (Fin 1000000000) := do
  let n ← Numeral.natural? digits
  let nanos ← match digits.length with
    | 3 => some (n * 1000000)
    | 6 => some (n * 1000)
    | 9 => some n
    | _ => none
  if small : nanos < 1000000000 then return ⟨nanos, small⟩ else none

def ending? (text : List Char) : Option (Fin 1000000000) :=
  match text with
  | '.' :: rest =>
    if rest.dropWhile Char.isDigit = offsetText then fraction? (rest.takeWhile Char.isDigit)
    else none
  | _ => if text = offsetText then some 0 else none

def isDate (date : Date) : Bool :=
  match (Date.monthLengths (Date.isLeap date.year))[date.month - 1]? with
  | some length => 1 ≤ date.month && 1 ≤ date.day && date.day ≤ length
  | none => false

def ofStored? (text : List Char) : Option Instant := do
  let (year, text) ← field? 4 text
  let (month, text) ← field? 2 (← skip? '-' text)
  let (day, text) ← field? 2 (← skip? '-' text)
  let (hour, text) ← field? 2 (← skip? ' ' text)
  let (minute, text) ← field? 2 (← skip? ':' text)
  let (second, text) ← field? 2 (← skip? ':' text)
  let nanos ← ending? text
  let date : Date := ⟨year, month, day⟩
  if isDate date && hour < 24 && minute < 60 && second < 60 then
    return ofDate date ⟨hour, minute, second⟩ nanos
  else none

end ChatLog.Instant
