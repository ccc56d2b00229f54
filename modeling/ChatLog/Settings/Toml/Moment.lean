import ChatLog.Time.Stored

/-!
Dates and times of day in a TOML document: a date, a time of day, or both with or without an offset.
Each is given back in one way of writing, with `T` between date and time, `Z` for no offset, and the
fraction of the second in at most nine digits.
-/
namespace ChatLog.Settings.Toml

open Instant (field? skip? padded)

def date? (text : List Char) : Option (List Char × List Char) := do
  let (year, text) ← field? 4 text
  let (month, text) ← field? 2 (← skip? '-' text)
  let (day, text) ← field? 2 (← skip? '-' text)
  if Instant.isDate ⟨year, month, day⟩ then
    return (padded 4 year ++ '-' :: padded 2 month ++ '-' :: padded 2 day, text)
  else none

/-- A fraction without the zeros that end it, of which one stays if there is nothing else. -/
def shortFraction (digits : List Char) : List Char :=
  match ((digits.take 9).reverse.dropWhile (· = '0')).reverse with
  | [] => ['0']
  | short => short

def seconds? : List Char → Option (List Char × List Char)
  | ':' :: text => do
    let (second, text) ← field? 2 text
    if 60 < second then none
    let written := ':' :: padded 2 second
    match text with
    | '.' :: text =>
      let digits := text.takeWhile Char.isDigit
      if digits = [] then none
      return (written ++ '.' :: shortFraction digits, text.dropWhile Char.isDigit)
    | _ => return (written, text)
  | text => some ([], text)

def clock? (text : List Char) : Option (List Char × List Char) := do
  let (hour, text) ← field? 2 text
  let (minute, text) ← field? 2 (← skip? ':' text)
  let (seconds, text) ← seconds? text
  if hour < 24 ∧ minute < 60 then
    return (padded 2 hour ++ ':' :: padded 2 minute ++ seconds, text)
  else none

def offset? : List Char → Option (List Char)
  | [] => some []
  | ['Z'] => some ['Z']
  | ['z'] => some ['Z']
  | sign :: text => do
    let (hour, text) ← field? 2 text
    let (minute, text) ← field? 2 (← skip? ':' text)
    if (sign = '+' ∨ sign = '-') ∧ hour < 24 ∧ minute < 60 ∧ text = [] then
      let sign := if hour = 0 ∧ minute = 0 then '+' else sign
      return sign :: padded 2 hour ++ ':' :: padded 2 minute
    else none

def moment? (text : List Char) : Option (List Char) :=
  match date? text with
  | some (date, []) => some date
  | some (date, between :: text) => do
    let (clock, text) ← clock? text
    let offset ← offset? text
    if between = 'T' ∨ between = 't' ∨ between = ' ' then return date ++ 'T' :: clock ++ offset
    else none
  | none =>
    match clock? text with
    | some (clock, []) => some clock
    | _ => none

end ChatLog.Settings.Toml
