/-!
Replacement of every occurrence of a pattern, scanning from left to right without overlaps.
A replacement by something shorter either finds nothing or shortens the text.
-/
namespace ChatLog.Text

/-- Replaces the occurrences of `pattern` that start after the first `skip` characters, which
belong to an occurrence already replaced. -/
def replaceAfter (pattern new : List Char) : (skip : Nat) → List Char → List Char
  | _, [] => []
  | skip + 1, _ :: rest => replaceAfter pattern new skip rest
  | 0, c :: rest =>
    if pattern.isPrefixOf (c :: rest) then
      new ++ replaceAfter pattern new (pattern.length - 1) rest
    else c :: replaceAfter pattern new 0 rest

/-- Every occurrence of a pattern that is not empty, replaced; the empty pattern occurs nowhere. -/
def replace (pattern new text : List Char) : List Char :=
  if pattern = [] then text else replaceAfter pattern new 0 text

theorem replaceAfter_drop (pattern new : List Char) (skip : Nat) (text : List Char) :
    replaceAfter pattern new skip text = replaceAfter pattern new 0 (text.drop skip) := by
  induction skip generalizing text with
  | zero => simp
  | succ skip ih =>
    cases text with
    | nil => simp [replaceAfter]
    | cons c rest => simpa [replaceAfter] using ih rest

@[simp] theorem replace_nil (pattern new : List Char) : replace pattern new [] = [] := by
  simp [replace, replaceAfter]

theorem replace_append (pattern new rest : List Char) (proper : pattern ≠ []) :
    replace pattern new (pattern ++ rest) = new ++ replace pattern new rest := by
  obtain ⟨p, others, rfl⟩ := List.exists_cons_of_ne_nil proper
  simp only [replace, reduceCtorEq, if_false, List.cons_append, replaceAfter]
  have front : (p :: others).isPrefixOf (p :: (others ++ rest)) = true := by simp
  rw [if_pos front, replaceAfter_drop]
  simp

theorem replace_cons_of_not (pattern new : List Char) (c : Char) (rest : List Char)
    (absent : ¬ pattern <+: c :: rest) :
    replace pattern new (c :: rest) = c :: replace pattern new rest := by
  have proper : pattern ≠ [] := by
    rintro rfl
    exact absent List.nil_prefix
  simp [replace, proper, replaceAfter, absent]

theorem replace_induction {pattern : List Char} (proper : pattern ≠ []) {motive : List Char → Prop}
    (nil : motive []) (found : ∀ rest, motive rest → motive (pattern ++ rest))
    (other : ∀ c rest, ¬ pattern <+: c :: rest → motive rest → motive (c :: rest))
    (text : List Char) : motive text := by
  generalize size : text.length = n
  induction n using Nat.strongRecOn generalizing text with
  | _ n ih =>
    cases text with
    | nil => exact nil
    | cons c rest =>
      by_cases front : pattern <+: c :: rest
      · obtain ⟨tail, split⟩ := front
        have shorter : tail.length < n := by
          have := congrArg List.length split
          have := List.length_pos_iff.mpr proper
          simp only [List.length_append] at *
          omega
        rw [← split]
        exact found tail (ih _ shorter _ rfl)
      · refine other c rest front (ih rest.length ?_ rest rfl)
        simp only [List.length_cons] at size
        omega

theorem replace_eq_or_shorter (pattern new text : List Char) (less : new.length < pattern.length) :
    replace pattern new text = text ∨ (replace pattern new text).length < text.length := by
  have proper : pattern ≠ [] := by rintro rfl; simp at less
  induction text using replace_induction proper with
  | nil => simp
  | found rest ih =>
    rw [replace_append _ _ _ proper]
    right
    simp only [List.length_append]
    rcases ih with same | fewer
    · rw [same]; omega
    · omega
  | other c rest absent ih =>
    rw [replace_cons_of_not _ _ _ _ absent]
    rcases ih with same | fewer
    · left; rw [same]
    · right; simpa using fewer

theorem replace_of_not_infix {pattern text : List Char} (new : List Char)
    (absent : ¬ pattern <:+: text) : replace pattern new text = text := by
  induction text with
  | nil => exact replace_nil pattern new
  | cons c rest ih =>
    obtain ⟨front, later⟩ := not_or.mp (mt List.infix_cons_iff.mpr absent)
    rw [replace_cons_of_not _ _ _ _ front, ih later]

theorem not_infix_of_replace_eq {pattern new text : List Char}
    (less : new.length < pattern.length) (same : replace pattern new text = text) :
    ¬ pattern <:+: text := by
  have proper : pattern ≠ [] := by rintro rfl; simp at less
  induction text using replace_induction proper with
  | nil => simpa using proper
  | found rest ih =>
    rw [replace_append _ _ _ proper] at same
    have lengths := congrArg List.length same
    simp only [List.length_append] at lengths
    rcases replace_eq_or_shorter pattern new rest less with kept | fewer
    · rw [kept] at lengths
      omega
    · omega
  | other c rest absent ih =>
    rw [replace_cons_of_not _ _ _ _ absent] at same
    rw [List.infix_cons_iff, not_or]
    exact ⟨absent, ih (List.cons.inj same).2⟩

theorem replace_eq_or_found (pattern new text : List Char) (proper : pattern ≠ []) :
    replace pattern new text = text ∨ ∃ front rest, text = front ++ (pattern ++ rest) ∧
      replace pattern new text = front ++ (new ++ replace pattern new rest) := by
  induction text with
  | nil => exact Or.inl (replace_nil pattern new)
  | cons c rest ih =>
    by_cases here : pattern <+: c :: rest
    · obtain ⟨behind, split⟩ := here
      right
      exact ⟨[], behind, split.symm, by rw [← split, replace_append _ _ _ proper]; rfl⟩
    · rw [replace_cons_of_not _ _ _ _ here]
      rcases ih with same | ⟨front, behind, split, replaced⟩
      · left; rw [same]
      · right
        exact ⟨c :: front, behind, by rw [split]; rfl, by rw [replaced]; rfl⟩

theorem filter_replace {pattern new : List Char} {kept : Char → Bool}
    (same : new.filter kept = pattern.filter kept) (text : List Char) :
    (replace pattern new text).filter kept = text.filter kept := by
  by_cases proper : pattern = []
  · rw [replace, if_pos proper]
  · induction text using replace_induction proper with
    | nil => rw [replace_nil]
    | found rest ih =>
      rw [replace_append _ _ _ proper, List.filter_append, List.filter_append, same, ih]
    | other c rest absent ih =>
      rw [replace_cons_of_not _ _ _ _ absent, List.filter_cons, List.filter_cons, ih]

theorem sublist_replace {pattern new : List Char} (within : pattern.Sublist new)
    (text : List Char) : text.Sublist (replace pattern new text) := by
  by_cases proper : pattern = []
  · simp only [replace, if_pos proper, List.Sublist.refl]
  · induction text using replace_induction proper with
    | nil => exact List.nil_sublist _
    | found rest ih =>
      rw [replace_append _ _ _ proper]
      exact within.append ih
    | other c rest absent ih =>
      rw [replace_cons_of_not _ _ _ _ absent]
      exact ih.cons_cons c

end ChatLog.Text
