import ChatLog.Clause

/-!
The written form of a clause: every place is a question mark, factors are joined by `AND`,
alternatives stand in parentheses and are joined by `OR`.
-/
namespace ChatLog

def Column.text : Column → List Char
  | .author => "C.Author".toList
  | .channel => "C.Channel".toList
  | .message => "C.ID".toList

namespace Comparison

variable {α β : Type}

def text : Comparison α → List Char
  | .equals column _ => column.text ++ " = ?".toList
  | .differs column _ => column.text ++ " != ?".toList
  | .like _ => "C.Message LIKE ?".toList
  | .unlike _ => "C.Message NOT LIKE ?".toList
  | .newer _ => "julianday(C.Timestamp) > julianday('now') - ? / 86400.0".toList

@[simp] theorem text_put (comparison : Comparison α) (value : β) :
    (comparison.put value).text = comparison.text := by
  cases comparison <;> rfl

end Comparison

def joined {α : Type} (word : List Char) (comparisons : List (Comparison α)) : List Char :=
  comparisons.flatMap fun comparison => word ++ comparison.text

def conjunction : List Char := " AND ".toList

def disjunction : List Char := " OR ".toList

def Factor.text {α : Type} : Factor α → List Char
  | .one comparison => comparison.text
  | .either first others => '(' :: first.text ++ joined disjunction others ++ [')']

namespace Clause

variable {α : Type}

def text : Clause α → List Char
  | [] => []
  | first :: others => first.text ++ others.flatMap fun factor => conjunction ++ factor.text

theorem text_cons (factor next : Factor α) (others : Clause α) :
    text (factor :: next :: others) = factor.text ++ conjunction ++ text (next :: others) := by
  simp [text]

theorem factor_text_shape (factor : Factor α) : factor.shape.text = factor.text := by
  cases factor with
  | one comparison => simp [Factor.shape, Factor.text]
  | either first others =>
    simp [Factor.shape, Factor.text, joined, List.flatMap_map]

/-- A clause and its shape are written alike. -/
theorem text_shape (clause : Clause α) : text clause.shape = text clause := by
  cases clause with
  | nil => rfl
  | cons first others =>
    have factors : (List.map Factor.shape others).flatMap (fun factor => conjunction ++ factor.text)
        = others.flatMap (fun factor => conjunction ++ factor.text) := by
      simp [List.flatMap_map, factor_text_shape]
    simp only [shape, List.map_cons, text, factor_text_shape, factors]

end Clause

end ChatLog
