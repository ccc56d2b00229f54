import ChatLog.Number.Binary64

/-!
The shortest decimal that reads back as a given binary64 number. For one digit, two digits and so
on, the two neighbours of the exact value with that many digits are tried; the first count of
digits that has one in the interval of values rounding to the number wins, and of two neighbours in
it the nearer one. The decimal is written positionally, without an exponent.
-/
namespace ChatLog.Binary64

structure Decimal where
  coefficient : Nat
  exponent : Int
deriving DecidableEq, Repr

/-- Half the distance from `mantissa * 2 ^ exponent` to the next smaller number of the format, in
quarters of the mantissa's unit: less at a power of two, below which numbers lie twice as dense. -/
def gapBelow (mantissa : Nat) (exponent : Int) : Nat :=
  if mantissa = mantissaBound / 2 ∧ leastExponent < exponent then 1 else 2

/-- Whether `decimal` rounds to `mantissa * 2 ^ exponent`: it lies no further than half way to
either neighbour, the middle itself going to the even mantissa. -/
def roundsTo (mantissa : Nat) (exponent : Int) (decimal : Decimal) : Bool :=
  -- both sides in quarters of the mantissa's unit, over a common denominator
  let (num, den) :=
    if decimal.exponent < 0 then (decimal.coefficient, Nat.pow 10 (-decimal.exponent).toNat)
    else (decimal.coefficient * Nat.pow 10 decimal.exponent.toNat, 1)
  let (num, den) := scaled (4 * num) den exponent
  let low := (4 * mantissa - gapBelow mantissa exponent) * den
  let high := (4 * mantissa + 2) * den
  if mantissa % 2 = 0 then low ≤ num && num ≤ high else low < num && num < high

def onGrid (mantissa : Nat) (exponent place : Int) : Nat × Bool :=
  let (num, den) := quotient mantissa exponent
  let (num, den) :=
    if place < 0 then (num * Nat.pow 10 (-place).toNat, den)
    else (num, den * Nat.pow 10 place.toNat)
  (num / den, den ≤ 2 * (num % den))

def candidate? (mantissa : Nat) (exponent place : Int) : Option Decimal :=
  let (low, upper) := onGrid mantissa exponent place
  let below : Decimal := ⟨low, place⟩
  let above : Decimal := ⟨low + 1, place⟩
  let (first, second) := if upper then (above, below) else (below, above)
  if roundsTo mantissa exponent first then some first
  else if roundsTo mantissa exponent second then some second
  else none

def leadingPlace (mantissa : Nat) (exponent : Int) : Int :=
  let (num, den) := quotient mantissa exponent
  if den ≤ num then (Nat.toDigits 10 (num / den)).length - 1
  else
    let inverse := (den + num - 1) / num
    Int.negOfNat (Nat.toDigits 10 (inverse - 1)).length

def shortest (mantissa : Nat) (exponent : Int) : Decimal :=
  let first := leadingPlace mantissa exponent
  let tries := (List.range 17).filterMap fun n => candidate? mantissa exponent (first - Int.ofNat n)
  tries.headD ⟨0, 0⟩

/-- A decimal written positionally; a point stands only before digits. -/
def Decimal.positional (decimal : Decimal) : String :=
  let digits := Nat.toDigits 10 decimal.coefficient
  if 0 ≤ decimal.exponent then
    String.ofList (digits ++ List.replicate decimal.exponent.toNat '0')
  else
    let places := (-decimal.exponent).toNat
    let padded := List.replicate (places + 1 - digits.length) '0' ++ digits
    let whole := padded.take (padded.length - places)
    String.ofList (whole ++ '.' :: padded.drop (padded.length - places))

def Decimal.normal (decimal : Decimal) : Decimal :=
  let digits := (Nat.toDigits 10 decimal.coefficient).reverse
  let zeros := (digits.takeWhile (· = '0')).length
  ⟨decimal.coefficient / Nat.pow 10 zeros, decimal.exponent + zeros⟩

def text : Binary64 → String
  | .nan => "NaN"
  | .infinite negative => if negative then "-inf" else "inf"
  | .finite negative mantissa exponent =>
    let sign := if negative then "-" else ""
    if mantissa = 0 then sign ++ "0"
    else sign ++ (shortest mantissa exponent).normal.positional

end ChatLog.Binary64
