import ChatLog.Text.Blank
import ChatLog.Text.Parts
import Mathlib.Data.List.TakeWhile

/-!
How a word is taken apart. Its parts are the pieces between the separators, a cut is made at the
first separator only, and trimming leaves what stands between the blanks at either end.
-/
namespace ChatLog.Text

theorem parts_eq_splitOn (separator : Char) (text : List Char) :
    parts separator text = text.splitOn separator := by
  induction text with
  | nil => rfl
  | cons c text ih =>
    rw [parts, ih, List.splitOn_cons_eq_if_modifyHead]
    by_cases here : c = separator
    · simp [here]
    · simp only [here, beq_iff_eq, if_false]
      cases split : text.splitOn separator with
      | nil => exact absurd (ih.trans split) (parts_ne_nil separator text)
      | cons first others => rfl

theorem cut?_eq_none_iff {separator : Char} {text : List Char} :
    cut? separator text = none ↔ separator ∉ text := by
  induction text with
  | nil => simp [cut?]
  | cons c text ih =>
    by_cases here : c = separator
    · simp [cut?, here]
    · simp [cut?, here, ih, Ne.symm here]

theorem cut?_append {separator : Char} {before : List Char} (absent : separator ∉ before)
    (behind : List Char) :
    cut? separator (before ++ separator :: behind) = some (before, behind) := by
  induction before with
  | nil => simp [cut?]
  | cons c before ih =>
    rw [List.mem_cons, not_or] at absent
    simp [cut?, Ne.symm absent.1, ih absent.2]

/-- What is left of a text when the blanks at either end are taken away. -/
structure Trimmed (text inner : List Char) : Prop where
  around : ∃ before behind, text = before ++ (inner ++ behind) ∧
    (∀ c ∈ before, isBlank c) ∧ ∀ c ∈ behind, isBlank c
  first : ∀ c ∈ inner.head?, ¬ isBlank c
  last : ∀ c ∈ inner.getLast?, ¬ isBlank c

theorem not_isBlank_head_dropWhile (text : List Char) :
    ∀ c ∈ (text.dropWhile isBlank).head?, ¬ isBlank c := by
  intro c first
  have kept := List.head?_dropWhile_not isBlank text
  rw [first] at kept
  simp [kept]

theorem dropWhile_isBlank {text : List Char} (first : ∀ c ∈ text.head?, ¬ isBlank c) :
    text.dropWhile isBlank = text := by
  cases text with
  | nil => rfl
  | cons c text => exact List.dropWhile_cons_of_neg (first c rfl)

theorem trim_eq_iff {text inner : List Char} : trim text = inner ↔ Trimmed text inner := by
  constructor
  · rintro rfl
    obtain ⟨before, front, leading⟩ : ∃ before, text = before ++ trimStart text ∧
        ∀ c ∈ before, isBlank c :=
      ⟨text.takeWhile isBlank, List.takeWhile_append_dropWhile.symm,
        fun _ member => List.mem_takeWhile_imp member⟩
    obtain ⟨behind, back, trailing⟩ : ∃ behind, trimStart text = trim text ++ behind ∧
        ∀ c ∈ behind, isBlank c := by
      refine ⟨((trimStart text).reverse.takeWhile isBlank).reverse, ?_, ?_⟩
      · rw [trim, trimEnd, ← List.reverse_append, List.takeWhile_append_dropWhile,
          List.reverse_reverse]
      · intro c member
        exact List.mem_takeWhile_imp (List.mem_reverse.mp member)
    refine ⟨⟨before, behind, by rw [← back, ← front], leading, trailing⟩, ?_, ?_⟩
    · intro c first
      have opens : c ∈ (trimStart text).head? := by
        rw [back, List.head?_append, first]
        rfl
      exact not_isBlank_head_dropWhile text c opens
    · rw [trim, trimEnd, List.getLast?_reverse]
      exact not_isBlank_head_dropWhile _
  · rintro ⟨⟨before, behind, rfl, leading, trailing⟩, first, last⟩
    rw [trim, trimStart, List.dropWhile_append_of_pos leading]
    match inner with
    | [] =>
      rw [List.nil_append, List.dropWhile_eq_nil_iff.mpr trailing]
      rfl
    | c :: inner =>
      have reversed : ∀ d ∈ behind.reverse, isBlank d := fun d member =>
        trailing d (List.mem_reverse.mp member)
      have opens : ∀ d ∈ (c :: inner ++ behind).head?, ¬ isBlank d := first
      rw [dropWhile_isBlank opens, trimEnd, List.reverse_append,
        List.dropWhile_append_of_pos reversed, dropWhile_isBlank (by rwa [List.head?_reverse]),
        List.reverse_reverse]

end ChatLog.Text
