import ChatLog.Clause.Reader

/-!
The two statements of a search, with their written forms: one counts the messages that meet a
clause, the other lists them, newest first, with the names of their authors. A listing may be
limited to a number of rows, and may pass over rows before that. Each statement is read back from
its written form.
-/
namespace ChatLog

open Text (after?)

inductive Paging where
  | unlimited
  | limited
  | limitedFrom
deriving DecidableEq, Repr

inductive Statement where
  | count (condition : Clause Unit)
  | listing (condition : Clause Unit) (paging : Paging)
deriving DecidableEq, Repr

def Paging.text : Paging → List Char
  | .unlimited => []
  | .limited => " LIMIT ?".toList
  | .limitedFrom => " LIMIT ? OFFSET ?".toList

def Paging.read? (text : List Char) : Option Paging :=
  [Paging.unlimited, .limited, .limitedFrom].find? fun paging => paging.text == text

namespace Statement

def countHead : List Char := "SELECT COUNT(*) FROM chatlog C WHERE ".toList

def listingHead : List Char :=
  ("SELECT U.Username, C.Message, C.Timestamp FROM chatlog C " ++
    "INNER JOIN users U ON C.Author = U.ID WHERE ").toList

def order : List Char := " ORDER BY C.Timestamp DESC".toList

def text : Statement → List Char
  | .count condition => countHead ++ condition.text ++ order
  | .listing condition paging => listingHead ++ condition.text ++ order ++ paging.text

def readOrdered (text : List Char) : Option (Clause Unit × List Char) := do
  let (condition, rest) ← Clause.read? text
  let left ← after? order rest
  return (condition, left)

def read? (text : List Char) : Option Statement :=
  match after? countHead text with
  | some rest =>
    match readOrdered rest with
    | some (condition, []) => some (.count condition)
    | _ => none
  | none => do
    let rest ← after? listingHead text
    let (condition, left) ← readOrdered rest
    let paging ← Paging.read? left
    return .listing condition paging

/-- The greatest height of an expression that a statement may have. -/
def greatestHeight : Nat := 1000

/-- The height of the condition; a listing joins the names of the authors by one more factor. -/
def height : Statement → Nat
  | .count condition => condition.height
  | .listing condition _ => condition.height + 1

theorem readOrdered_text (condition : Clause Unit) (left : List Char) (proper : condition ≠ []) :
    readOrdered (condition.text ++ (order ++ left)) = some (condition, left) := by
  have ends : after? conjunction (order ++ left) = none :=
    Text.after?_of_apart (by decide) left
  have whole : condition.shape = condition := by
    have factor : ∀ factor : Factor Unit, factor.shape = factor := by
      intro factor
      cases factor with
      | one comparison => cases comparison <;> rfl
      | either first others =>
        have each : ∀ comparison : Comparison Unit, comparison.put () = comparison := by
          intro comparison
          cases comparison <;> rfl
        simp [Factor.shape, each, funext each]
    simp [Clause.shape, funext factor]
  simp [readOrdered, Clause.read?_text condition _ proper ends, whole]

theorem read?_text (statement : Statement)
    (proper : (match statement with | .count c => c | .listing c _ => c) ≠ []) :
    read? statement.text = some statement := by
  cases statement with
  | count condition =>
    have ordered := readOrdered_text condition [] proper
    simp only [List.append_nil] at ordered
    simp [read?, text, ordered]
  | listing condition paging =>
    have other :
        after? countHead (listingHead ++ (condition.text ++ (order ++ paging.text))) = none :=
      Text.after?_of_apart (by decide) _
    have page : Paging.read? paging.text = some paging := by cases paging <;> decide
    have ordered := readOrdered_text condition paging.text proper
    simp [read?, text, other, ordered, page]

end Statement

end ChatLog
