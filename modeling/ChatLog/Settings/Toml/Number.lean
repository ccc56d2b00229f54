import ChatLog.Settings.Value
import ChatLog.Text.Parts

/-!
Numbers in a TOML document. Integers are decimal with a sign, or hexadecimal, octal or binary behind
a mark, and fit a signed word of 64 bits. Real numbers have a fraction or an exponent and must not
be beyond the greatest number. Single underscores may stand between two digits.
-/
namespace ChatLog.Settings.Toml

/-- Digits of a class, where single underscores may stand between two of them. -/
def grouped? (isDigit : Char → Bool) (text : List Char) : Option (List Char) :=
  let groups := Text.parts '_' text
  if groups.all (fun group => group ≠ [] && group.all isDigit) then some groups.flatten else none

def decimal? (text : List Char) : Option (List Char) :=
  (grouped? Char.isDigit text).filter fun digits => digits.length = 1 || digits.head? ≠ some '0'

def signed? (n : Int) : Option Value :=
  if Numeral.Signed n then some (.whole n) else none

def based? (base : Nat) (text : List Char) : Option Value := do
  let digits ← grouped? (fun c => (Numeral.hexDigit? c).any (· < base)) text
  signed? (← Numeral.based? base digits)

def exponent? : List Char → Option (List Char)
  | '+' :: digits => grouped? Char.isDigit digits
  | '-' :: digits => (grouped? Char.isDigit digits).map ('-' :: ·)
  | digits => grouped? Char.isDigit digits

def real? (x : Binary64) : Option Value :=
  match x with
  | .infinite _ => none
  | x => some (.real x)

def decimalNumber? (negative : Bool) (text : List Char) : Option Value := do
  let (mantissa, exponent) :=
    match Text.cut? 'e' (text.map fun c => if c = 'E' then 'e' else c) with
    | some (mantissa, exponent) => (mantissa, some exponent)
    | none => (text, none)
  let (whole, fraction) :=
    match Text.cut? '.' mantissa with
    | some (whole, fraction) => (whole, some fraction)
    | none => (mantissa, none)
  let digits ← decimal? whole
  if fraction.isNone ∧ exponent.isNone then
    let n ← Numeral.natural? digits
    signed? (if negative then -Int.ofNat n else n)
  else
    let places ← match fraction with
      | some part => grouped? Char.isDigit part
      | none => some []
    let power ← match exponent with
      | some part => exponent? part
      | none => some ['0']
    let n ← Numeral.natural? (digits ++ places)
    let shift ← Numeral.integer? power
    real? (.ofDecimal negative n (shift - places.length))

def number? (text : List Char) : Option Value :=
  match String.ofList text with
  | "inf" | "+inf" => some (.real (.infinite false))
  | "-inf" => some (.real (.infinite true))
  | "nan" | "+nan" | "-nan" => some (.real .nan)
  | _ =>
    match text with
    | '0' :: 'x' :: digits => based? 16 digits
    | '0' :: 'o' :: digits => based? 8 digits
    | '0' :: 'b' :: digits => based? 2 digits
    | '-' :: rest => decimalNumber? true rest
    | '+' :: rest => decimalNumber? false rest
    | _ => decimalNumber? false text

end ChatLog.Settings.Toml
