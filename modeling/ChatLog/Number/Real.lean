import ChatLog.Number.Binary64
import ChatLog.Number.Numeral

/-!
Reading a real number: an optional sign, then `inf`, `infinity` or `nan` in any case, or digits
with an optional point among, before or behind them and an optional exponent. The number is the
one nearest to the written value.
-/
namespace ChatLog.Real

def spanDigits (text : List Char) : List Char × List Char :=
  (text.takeWhile Char.isDigit, text.dropWhile Char.isDigit)

/-- The power of ten that follows the digits: nothing, or `e` and an integer. -/
def exponent? : List Char → Option Int
  | [] => some 0
  | e :: rest => if e = 'e' ∨ e = 'E' then Numeral.integer? rest else none

def unsigned? (negative : Bool) (text : List Char) : Option Binary64 :=
  let (whole, rest) := spanDigits text
  let (fraction, rest) :=
    match rest with
    | '.' :: after => spanDigits after
    | _ => ([], rest)
  do
    let digits ← Numeral.natural? (whole ++ fraction)
    let power ← exponent? rest
    return .ofDecimal negative digits (power - fraction.length)

def named? (negative : Bool) (text : List Char) : Option Binary64 :=
  match String.ofList (text.map Char.toLower) with
  | "inf" | "infinity" => some (.infinite negative)
  | "nan" => some .nan
  | _ => none

def read? : List Char → Option Binary64
  | '-' :: rest => (named? true rest).orElse fun _ => unsigned? true rest
  | '+' :: rest => (named? false rest).orElse fun _ => unsigned? false rest
  | text => (named? false text).orElse fun _ => unsigned? false text

end ChatLog.Real
