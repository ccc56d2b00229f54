/-!
Cutting a text at a separator character. Joining the parts with the separator gives the text back.
-/
namespace ChatLog.Text

/-- The parts between the separators, in order; a text without separators is its only part. -/
def parts (separator : Char) : List Char → List (List Char)
  | [] => [[]]
  | c :: rest =>
    if c = separator then [] :: parts separator rest
    else match parts separator rest with
      | [] => [[c]]
      | first :: others => (c :: first) :: others

def cut? (separator : Char) : List Char → Option (List Char × List Char)
  | [] => none
  | c :: rest =>
    if c = separator then some ([], rest)
    else (cut? separator rest).map fun (before, after) => (c :: before, after)

def after? : (lead text : List Char) → Option (List Char)
  | [], text => some text
  | _ :: _, [] => none
  | l :: lead, c :: text => if l = c then after? lead text else none

theorem parts_ne_nil (separator : Char) (text : List Char) : parts separator text ≠ [] := by
  cases text with
  | nil => simp [parts]
  | cons c rest =>
    simp only [parts]
    split
    · simp
    · split <;> simp

theorem cut?_eq_some {separator : Char} {text before behind : List Char}
    (found : cut? separator text = some (before, behind)) :
    text = before ++ separator :: behind ∧ separator ∉ before := by
  induction text generalizing before with
  | nil => simp [cut?] at found
  | cons c rest ih =>
    simp only [cut?] at found
    split at found
    · rename_i same
      simp only [Option.some.injEq, Prod.mk.injEq] at found
      obtain ⟨rfl, rfl⟩ := found
      simp [same]
    · rename_i other
      obtain ⟨⟨start, tail⟩, inner, equal⟩ := Option.map_eq_some_iff.mp found
      simp only [Prod.mk.injEq] at equal
      obtain ⟨rfl, rfl⟩ := equal
      obtain ⟨rfl, absent⟩ := ih inner
      simp [absent, Ne.symm other]

@[simp] theorem after?_append (lead rest : List Char) : after? lead (lead ++ rest) = some rest := by
  induction lead with
  | nil => rfl
  | cons l lead ih => simp [after?, ih]

def apart : List Char → List Char → Bool
  | a :: left, b :: right => a != b || apart left right
  | _, _ => false

theorem after?_of_apart {lead text : List Char} (differ : apart lead text = true)
    (rest : List Char) : after? lead (text ++ rest) = none := by
  induction lead generalizing text with
  | nil => simp [apart] at differ
  | cons a lead ih =>
    cases text with
    | nil => simp [apart] at differ
    | cons b text =>
      simp only [List.cons_append, after?]
      split
      · rename_i same
        exact ih (by simpa [apart, same] using differ)
      · rfl

end ChatLog.Text
