import ChatLog.Settings.Value

/-!
Settings in JSON. The document must be one well formed object; the values of its own names are kept
and what is nested in them is only checked. Integers beyond the words of 64 bits are real numbers. A
real number is its digits, as many as fit 64 bits, rounded once, and then multiplied or divided by a
power of ten and rounded again.
-/
namespace ChatLog.Settings.Json

def isSpace (c : Char) : Bool :=
  c = ' ' || c = '\n' || c = '\t' || c = '\r'

def skipSpace (text : List Char) : List Char :=
  text.dropWhile isSpace

def escaped? : Char → Option Char
  | '"' => some '"'
  | '\\' => some '\\'
  | '/' => some '/'
  | 'b' => some '\x08'
  | 'f' => some '\x0c'
  | 'n' => some '\n'
  | 'r' => some '\r'
  | 't' => some '\t'
  | _ => none

def pair (high low : Nat) : Char :=
  Char.ofNat (0x10000 + (high - 0xD800) * 0x400 + (low - 0xDC00))

def string? : List Char → Option (List Char × List Char)
  | '"' :: rest => some ([], rest)
  | '\\' :: 'u' :: a :: b :: c :: d :: rest =>
    match Numeral.based? 16 [a, b, c, d] with
    | none => none
    | some code =>
      if 0xD800 ≤ code ∧ code < 0xDC00 then
        match rest with
        | '\\' :: 'u' :: e :: f :: g :: h :: behind =>
          match Numeral.based? 16 [e, f, g, h] with
          | none => none
          | some low =>
            if 0xDC00 ≤ low ∧ low < 0xE000 then
              (string? behind).map fun (text, left) => (pair code low :: text, left)
            else none
        | _ => none
      else if 0xDC00 ≤ code ∧ code < 0xE000 then none
      else (string? rest).map fun (text, left) => (Char.ofNat code :: text, left)
  | '\\' :: c :: rest =>
    match escaped? c with
    | none => none
    | some character => (string? rest).map fun (text, left) => (character :: text, left)
  | c :: rest =>
    if c.toNat < 0x20 then none else (string? rest).map fun (text, left) => (c :: text, left)
  | [] => none

def gather (significand : Nat) : List Char → Nat × List Char
  | [] => (significand, [])
  | c :: rest =>
    let next := 10 * significand + (c.toNat - '0'.toNat)
    if next < UInt64.size then gather next rest else (significand, c :: rest)

def greatestPower : Nat := 308

def powerOfTen (exponent : Nat) : Binary64 :=
  .ofDecimal false 1 exponent

def shrink (x : Binary64) (places : Nat) : Binary64 :=
  if x.isZero then x
  else if places ≤ greatestPower then x.divide (powerOfTen places)
  else shrink (x.divide (powerOfTen greatestPower)) (places - greatestPower)
termination_by places
decreasing_by
  rename_i large
  simp only [greatestPower] at *
  omega

/-- The number of a significand and a power of ten; one beyond the greatest number is refused. -/
def scale? (negative : Bool) (significand : Nat) (exponent : Int) : Option Binary64 :=
  let x := Binary64.ofDecimal negative significand 0
  if exponent < 0 then some (shrink x (-exponent).toNat)
  else if x.isZero then some x
  else if greatestPower < exponent then none
  else match x.multiply (powerOfTen exponent.toNat) with
    | .finite s m e => some (.finite s m e)
    | _ => none

def exponent? : List Char → Option (Option Int × List Char)
  | [] => some (none, [])
  | e :: rest =>
    if e = 'e' ∨ e = 'E' then
      let (negative, rest) := match rest with
        | '-' :: digits => (true, digits)
        | '+' :: digits => (false, digits)
        | digits => (false, digits)
      (Numeral.natural? (rest.takeWhile Char.isDigit)).map fun n =>
        let n := min n 0x7FFFFFFF
        (some (if negative then -Int.ofNat n else n), rest.dropWhile Char.isDigit)
    else some (none, e :: rest)

def fraction? : List Char → Option (Option (List Char) × List Char)
  | '.' :: rest =>
    let digits := rest.takeWhile Char.isDigit
    if digits = [] then none else some (some digits, rest.dropWhile Char.isDigit)
  | text => some (none, text)

/-- An integer of 64 bits: a real number below the signed words, and for a zero with a minus. -/
def wholeValue (negative : Bool) (n : Nat) : Value :=
  if negative ∧ (n = 0 ∨ 0x8000000000000000 < n) then .real (.ofDecimal true n 0)
  else .whole (if negative then -n else n)

def number? (negative : Bool) (text : List Char) : Option (Value × List Char) := do
  let digits := text.takeWhile Char.isDigit
  if digits = [] then none
  if digits.head? = some '0' ∧ digits.length ≠ 1 then none
  let (significand, beyond) := gather 0 digits
  let (fraction, rest) ← fraction? (text.dropWhile Char.isDigit)
  let (exponent, rest) ← exponent? rest
  if fraction.isNone ∧ exponent.isNone ∧ beyond = [] then
    return (wholeValue negative significand, rest)
  let (significand, ignored) := gather significand (fraction.getD [])
  let places : Int := beyond.length - (((fraction.getD []).length - ignored.length : Nat) : Int)
  let x ← scale? negative significand (places + exponent.getD 0)
  return (.real x, rest)

def word? (word : String) (text : List Char) : Option (List Char) :=
  word.toList.isPrefixOf? text

mutual

/-- The value that a text opens with, and what follows it. Each call has less `fuel`; containers
are nested at most `depth` deep. -/
def value? (fuel depth : Nat) (text : List Char) : Option (Value × List Char) :=
  match fuel with
  | 0 => none
  | fuel + 1 =>
    match skipSpace text with
    | '"' :: rest => (string? rest).map fun (written, left) => (.text (String.ofList written), left)
    | '{' :: rest =>
      if depth = 0 then none
      else (entries? fuel (depth - 1) true rest).map fun (_, left) => (.composite, left)
    | '[' :: rest =>
      if depth = 0 then none
      else (items? fuel (depth - 1) true rest).map fun left => (.composite, left)
    | '-' :: rest => number? true rest
    | 't' :: rest => (word? "rue" rest).map fun left => (.truth true, left)
    | 'f' :: rest => (word? "alse" rest).map fun left => (.truth false, left)
    | 'n' :: rest => (word? "ull" rest).map fun left => (.composite, left)
    | other => number? false other

def items? (fuel depth : Nat) (first : Bool) (text : List Char) : Option (List Char) :=
  match fuel with
  | 0 => none
  | fuel + 1 =>
    match skipSpace text with
    | ']' :: rest => if first then some rest else none
    | other =>
      match value? fuel depth other with
      | none => none
      | some (_, behind) =>
        match skipSpace behind with
        | ']' :: rest => some rest
        | ',' :: rest => items? fuel depth false rest
        | _ => none

/-- The entries of an object, later ones first, and what follows its closing brace. -/
def entries? (fuel depth : Nat) (first : Bool) (text : List Char) :
    Option (Table × List Char) :=
  match fuel with
  | 0 => none
  | fuel + 1 =>
    match skipSpace text with
    | '}' :: rest => if first then some ([], rest) else none
    | '"' :: rest =>
      match string? rest with
      | none => none
      | some (key, behind) =>
        match skipSpace behind with
        | ':' :: rest =>
          match value? fuel depth rest with
          | none => none
          | some (value, behind) =>
            let entry := (String.ofList key, value)
            match skipSpace behind with
            | '}' :: rest => some ([entry], rest)
            | ',' :: rest =>
              (entries? fuel depth false rest).map fun (later, left) => (later ++ [entry], left)
            | _ => none
        | _ => none
    | _ => none

end

def greatestDepth : Nat := 127

def read? (document : List Char) : Option Table :=
  match skipSpace document with
  | '{' :: rest =>
    match entries? (2 * rest.length + 1) (greatestDepth - 1) true rest with
    | some (table, left) => if skipSpace left = [] then some table else none
    | none => none
  | _ => none

end ChatLog.Settings.Json
