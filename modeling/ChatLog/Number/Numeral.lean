/-!
Integers written in decimal: at most one sign, then one or more ASCII digits, of which any number
may be leading zeros. A numeral is read only when its value fits the word it is meant for. Digits to
other bases and the codes of characters are read here too.
-/
namespace ChatLog.Numeral

def digit? (c : Char) : Option Nat :=
  if c.isDigit then some (c.toNat - '0'.toNat) else none

def extend? (value : Nat) : List Char → Option Nat
  | [] => some value
  | c :: rest => (digit? c).bind fun d => extend? (10 * value + d) rest

def natural? : List Char → Option Nat
  | [] => none
  | digits => extend? 0 digits

def integer? : List Char → Option Int
  | '+' :: digits => (natural? digits).map Int.ofNat
  | '-' :: digits => (natural? digits).map fun n => -Int.ofNat n
  | digits => (natural? digits).map Int.ofNat

def hexDigit? (c : Char) : Option Nat :=
  if c.isDigit then some (c.toNat - '0'.toNat)
  else if 'a' ≤ c ∧ c ≤ 'f' then some (c.toNat - 'a'.toNat + 10)
  else if 'A' ≤ c ∧ c ≤ 'F' then some (c.toNat - 'A'.toNat + 10)
  else none

/-- The value of digits to a base of at most sixteen, none at all included. -/
def based? (base : Nat) (digits : List Char) : Option Nat :=
  digits.foldlM (fun value c =>
    (hexDigit? c).bind fun d => if d < base then some (base * value + d) else none) 0

def character? (digits : List Char) : Option Char :=
  (based? 16 digits).bind fun code => if code.isValidChar then some (Char.ofNat code) else none

/-- The integers of a signed word of 64 bits. -/
def Signed (n : Int) : Prop := -0x8000000000000000 ≤ n ∧ n < 0x8000000000000000

instance (n : Int) : Decidable (Signed n) :=
  inferInstanceAs (Decidable (_ ∧ _))

def signed? (text : List Char) : Option Int :=
  (integer? text).filter fun n => decide (Signed n)

def digits64? (text : List Char) : Option UInt64 :=
  (natural? text).bind fun n => if n < UInt64.size then some n.toUInt64 else none

def unsigned? : List Char → Option UInt64
  | '+' :: digits => digits64? digits
  | digits => digits64? digits

end ChatLog.Numeral
