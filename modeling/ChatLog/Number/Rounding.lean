/-!
Rounding a quotient of natural numbers to a natural number.
-/
namespace ChatLog.Rounding

/-- The quotient to the nearest natural number; of two equally near ones, the even one. -/
def toNearestEven (num den : Nat) : Nat :=
  let low := num / den
  let twice := 2 * (num % den)
  if twice < den then low
  else if den < twice then low + 1
  else if low % 2 = 0 then low else low + 1

def toNearestUp (num den : Nat) : Nat :=
  (2 * num + den) / (2 * den)

end ChatLog.Rounding
