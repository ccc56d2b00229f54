import ChatLog.Number.Rounding

/-!
Numbers of the binary64 format: a sign and a mantissa below `2 ^ 53` times a power of two of at
least `2 ^ -1074`, or an infinity, or no number at all. Every result is the exact value rounded to
the nearest such number, ties going to the even mantissa.
-/
namespace ChatLog

inductive Binary64 where
  /-- The value `± mantissa * 2 ^ exponent`. -/
  | finite (negative : Bool) (mantissa : Nat) (exponent : Int)
  | infinite (negative : Bool)
  | nan
deriving DecidableEq, Repr

namespace Binary64

def leastExponent : Int := -1074

def greatestExponent : Int := 971

def mantissaBound : Nat := 0x20000000000000

def scaled (num den : Nat) (exponent : Int) : Nat × Nat :=
  if exponent < 0 then (num * Nat.pow 2 (-exponent).toNat, den)
  else (num, den * Nat.pow 2 exponent.toNat)

/-- The exponent at which the quotient has 53 binary digits, or the least exponent. -/
def exponentFor (num den : Nat) : Int :=
  let guess : Int := (Nat.log2 num : Int) - (Nat.log2 den : Int) - 53
  let (n, d) := scaled num den guess
  max leastExponent (if d * mantissaBound ≤ n then guess + 1 else guess)

def ofQuotient (negative : Bool) (num den : Nat) : Binary64 :=
  if num = 0 then .finite negative 0 leastExponent
  else
    let exponent := exponentFor num den
    let (n, d) := scaled num den exponent
    let mantissa := Rounding.toNearestEven n d
    let (mantissa, exponent) :=
      if mantissa = mantissaBound then (mantissaBound / 2, exponent + 1) else (mantissa, exponent)
    if greatestExponent < exponent then .infinite negative else .finite negative mantissa exponent

def ofDecimal (negative : Bool) (digits : Nat) (exponent : Int) : Binary64 :=
  let places : Int := (Nat.log2 digits : Int) / 3 + 1
  if digits = 0 ∨ places + exponent < -400 then .finite negative 0 leastExponent
  else if 400 + places < exponent then .infinite negative
  else if exponent < 0 then ofQuotient negative digits (Nat.pow 10 (-exponent).toNat)
  else ofQuotient negative (digits * Nat.pow 10 exponent.toNat) 1

def quotient (mantissa : Nat) (exponent : Int) : Nat × Nat :=
  scaled mantissa 1 (-exponent)

def isZero : Binary64 → Bool
  | .finite _ mantissa _ => mantissa == 0
  | _ => false

/-- The nearest unsigned word of 64 bits, a half going away from zero: what lies below the least
word becomes zero, what lies above the greatest becomes that one, and no number becomes zero. -/
def toWord : Binary64 → UInt64
  | .finite false mantissa exponent =>
    let (num, den) := quotient mantissa exponent
    UInt64.ofNat (min (Rounding.toNearestUp num den) (UInt64.size - 1))
  | .infinite false => UInt64.ofNat (UInt64.size - 1)
  | _ => 0

def divide (dividend divisor : Binary64) : Binary64 :=
  match dividend, divisor with
  | .finite s m e, .finite t k f =>
    let (num, den) := scaled m k (f - e)
    ofQuotient (s != t) num den
  | _, _ => .nan

def multiply (left right : Binary64) : Binary64 :=
  match left, right with
  | .finite s m e, .finite t k f =>
    let (num, den) := quotient (m * k) (e + f)
    ofQuotient (s != t) num den
  | _, _ => .nan

end Binary64

end ChatLog
