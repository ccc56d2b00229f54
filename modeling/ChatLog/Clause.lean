import ChatLog.IdSet
import ChatLog.Number.Numeral

/-!
The condition of a search, as conjoined factors with one place for a value in each comparison.
With parameters in the places it is what a search means; with nothing in them it is the shape that
the statement text writes, where every place is a question mark. The parameters of a clause are its
places read from left to right, and filling the shape with them gives the clause back.
-/
namespace ChatLog

inductive Param where
  | id (value : Id)
  | int (value : Int)
  | text (value : String)
deriving DecidableEq, Repr

namespace Param

/-- Whether the storage can hold the value: its integers are signed words of 64 bits. -/
def isStorable : Param → Bool
  | .id value => value.toNat < 0x8000000000000000
  | .int value => decide (Numeral.Signed value)
  | .text _ => true

end Param

inductive Column where
  | author
  | channel
  | message
deriving DecidableEq, Repr

inductive Comparison (α : Type) where
  | equals (column : Column) (value : α)
  | differs (column : Column) (value : α)
  | like (pattern : α)
  | unlike (pattern : α)
  /-- The message is newer than a number of seconds. -/
  | newer (seconds : α)
deriving DecidableEq, Repr

inductive Factor (α : Type) where
  | one (comparison : Comparison α)
  | either (first : Comparison α) (others : List (Comparison α))
deriving DecidableEq, Repr

abbrev Clause (α : Type) := List (Factor α)

namespace Comparison

variable {α β : Type}

def place : Comparison α → α
  | .equals _ value => value
  | .differs _ value => value
  | .like pattern => pattern
  | .unlike pattern => pattern
  | .newer seconds => seconds

def put (value : β) : Comparison α → Comparison β
  | .equals column _ => .equals column value
  | .differs column _ => .differs column value
  | .like _ => .like value
  | .unlike _ => .unlike value
  | .newer _ => .newer value

/-- The height of the comparison's expression: a qualified column counts two, a call or an operator
one more than the highest of its operands. -/
def height : Comparison α → Nat
  | .equals _ _ => 3
  | .differs _ _ => 3
  | .like _ => 3
  | .unlike _ => 4
  | .newer _ => 4

@[simp] theorem put_place (comparison : Comparison α) (value : β) :
    (comparison.put value).put comparison.place = comparison := by
  cases comparison <;> rfl

end Comparison

namespace Factor

variable {α β : Type}

def comparisons : Factor α → List (Comparison α)
  | .one comparison => [comparison]
  | .either first others => first :: others

def places (factor : Factor α) : List α :=
  factor.comparisons.map Comparison.place

def shape : Factor α → Factor Unit
  | .one comparison => .one (comparison.put ())
  | .either first others => .either (first.put ()) (others.map (Comparison.put ()))

def height : Factor α → Nat
  | .one comparison => comparison.height
  | .either first others =>
    others.foldl (fun reached comparison => max reached comparison.height + 1) first.height

end Factor

namespace Clause

variable {α : Type}

def places (clause : Clause α) : List α :=
  clause.flatMap Factor.places

def shape (clause : Clause α) : Clause Unit :=
  clause.map Factor.shape

def height : Clause α → Nat
  | [] => 0
  | first :: others =>
    others.foldl (fun reached factor => max reached factor.height + 1) first.height

def fillComparisons : List (Comparison Unit) → List α → Option (List (Comparison α) × List α)
  | [], values => some ([], values)
  | _ :: _, [] => none
  | comparison :: others, value :: values =>
    (fillComparisons others values).map fun (filled, left) => (comparison.put value :: filled, left)

def fillFactor : Factor Unit → List α → Option (Factor α × List α)
  | _, [] => none
  | .one comparison, value :: values => some (.one (comparison.put value), values)
  | .either first others, value :: values =>
    (fillComparisons others values).map fun (filled, left) =>
      (.either (first.put value) filled, left)

def fill : Clause Unit → List α → Option (Clause α × List α)
  | [], values => some ([], values)
  | factor :: others, values => do
    let (factor, values) ← fillFactor factor values
    let (others, left) ← fill others values
    return (factor :: others, left)

theorem fillComparisons_places (comparisons : List (Comparison α)) (left : List α) :
    fillComparisons (comparisons.map (Comparison.put ())) (comparisons.map Comparison.place ++ left)
      = some (comparisons, left) := by
  induction comparisons with
  | nil => rfl
  | cons comparison comparisons ih => simp [fillComparisons, ih]

theorem fillFactor_places (factor : Factor α) (left : List α) :
    fillFactor factor.shape (factor.places ++ left) = some (factor, left) := by
  cases factor with
  | one comparison => simp [fillFactor, Factor.shape, Factor.places, Factor.comparisons]
  | either first others =>
    simp [fillFactor, Factor.shape, Factor.places, Factor.comparisons, fillComparisons_places]

theorem fill_places (clause : Clause α) (left : List α) :
    fill clause.shape (clause.places ++ left) = some (clause, left) := by
  induction clause with
  | nil => rfl
  | cons factor others ih =>
    have split : places (factor :: others) ++ left = factor.places ++ (places others ++ left) := by
      simp [places]
    have head : shape (factor :: others) = factor.shape :: shape others := rfl
    rw [split, head, fill, fillFactor_places]
    simp [ih]

end Clause

end ChatLog
