import ChatLog.Reply
import Mathlib.Data.List.Infix

/-!
Marks that are taken off again. Stripping leaves no occurrence of the pattern with a mark before it,
so in a marked text every mark that is found was put there, unless the pattern's own asterisks let a
marked pattern begin before the mark. Where they cannot, stripping a marked text gives the stripped
text back and marking again changes nothing.
-/
namespace ChatLog

namespace Text.Emphasis

theorem stripOnce_eq_iff (pattern text : List Char) :
    stripOnce pattern text = text ↔ ¬ opened pattern <:+: text := by
  constructor
  · intro same
    have unwrapped :=
      replace_eq_or_shorter (wrapped pattern) pattern text (length_lt_wrapped pattern)
    have unopened := replace_eq_or_shorter (opened pattern) pattern
      (replace (wrapped pattern) pattern text) (length_lt_opened pattern)
    unfold stripOnce at same
    rcases unwrapped with kept | fewer
    · rw [kept] at same
      exact not_infix_of_replace_eq (length_lt_opened pattern) same
    · -- what the first of the two made shorter cannot become the text again
      rw [same] at unopened
      rcases unopened with kept | less
      · rw [← kept] at fewer
        exact absurd fewer (lt_irrefl _)
      · omega
  · intro absent
    have unwrapped : ¬ wrapped pattern <:+: text :=
      fun inside => absent ((List.prefix_append _ mark).isInfix.trans inside)
    rw [stripOnce, replace_of_not_infix pattern unwrapped, replace_of_not_infix pattern absent]

theorem opened_not_infix_strip (pattern text : List Char) :
    ¬ opened pattern <:+: strip pattern text :=
  (stripOnce_eq_iff _ _).mp (stripOnce_strip pattern text)

theorem strip_of_not_infix {pattern text : List Char} (absent : ¬ opened pattern <:+: text) :
    strip pattern text = text := by
  rw [strip, if_pos ((stripOnce_eq_iff _ _).mpr absent)]

theorem strip_stripOnce (pattern text : List Char) :
    strip pattern (stripOnce pattern text) = strip pattern text := by
  by_cases same : stripOnce pattern text = text
  · rw [same]
  · rw [strip.eq_def pattern text, if_neg same]

/-- Whether the marks put around a pattern are found again where they stand. What is taken for a
marked pattern too early would begin in the text before the mark and go on with an end of the
pattern that, with a mark behind it, opens the marked pattern; then the text before the mark and the
pattern have an opened pattern in them, which no stripped text has. -/
def Legible (pattern : List Char) : Prop :=
  ∀ front back, pattern = front ++ back → back ++ mark <+: opened pattern →
    opened pattern <:+: mark ++ (front ++ pattern)

theorem legible_iff_take (pattern : List Char) : Legible pattern ↔
    ∀ n ≤ pattern.length, pattern.drop n ++ mark <+: opened pattern →
      opened pattern <:+: mark ++ (pattern.take n ++ pattern) := by
  constructor
  · intro legible n _
    exact legible _ _ (List.take_append_drop n pattern).symm
  · intro each front back split
    have cut := each front.length (by rw [split, List.length_append]; omega)
    rwa [split, List.drop_left, List.take_left, ← split] at cut

instance : DecidablePred Legible := fun pattern =>
  decidable_of_iff _ (legible_iff_take pattern).symm

/-- A pattern without two asterisks side by side is legible: an end of it that stands before a mark
in an opened pattern is at most an asterisk, and then the pattern begins with one. -/
theorem legible_of_not_infix {pattern : List Char} (single : ¬ mark <:+: pattern) :
    Legible pattern := by
  intro front back split early
  have begins : back <+: pattern := by
    match back with
    | [] => exact List.nil_prefix
    | [c] =>
      obtain ⟨rfl, later⟩ := List.cons_prefix_cons.mp early
      exact (List.prefix_cons_inj '*').mp ((List.prefix_append _ _).trans later)
    | c :: d :: back =>
      obtain ⟨rfl, later⟩ := List.cons_prefix_cons.mp early
      obtain ⟨rfl, _⟩ := List.cons_prefix_cons.mp later
      exact absurd ⟨front, back, by simp [split, mark]⟩ single
  obtain ⟨rest, whole⟩ := begins
  have repeated : front ++ pattern = pattern ++ rest := by
    calc front ++ pattern = front ++ (back ++ rest) := by rw [whole]
      _ = pattern ++ rest := by rw [← List.append_assoc, ← split]
  rw [repeated, ← List.append_assoc]
  exact (List.prefix_append _ rest).isInfix

section

variable {pattern : List Char} (legible : Legible pattern)

include legible

/-- What is taken for a marked pattern too early shows an opened pattern before the mark. -/
theorem opened_infix_of_early {between later : List Char}
    (early : pattern ++ mark <+: between ++ (opened pattern ++ later)) :
    opened pattern <:+: mark ++ (between ++ pattern) := by
  rcases Nat.le_total pattern.length between.length with shorter | longer
  · have inside : pattern <+: between :=
      List.prefix_of_prefix_length_le ((List.prefix_append _ _).trans early)
        (List.prefix_append _ _) shorter
    have opens : opened pattern <+: mark ++ (between ++ pattern) :=
      (List.prefix_append_right_inj mark).mpr (inside.trans (List.prefix_append _ _))
    exact opens.isInfix
  · have inside : between <+: pattern :=
      List.prefix_of_prefix_length_le (List.prefix_append _ _)
        ((List.prefix_append _ _).trans early) longer
    obtain ⟨back, split⟩ := inside
    have behind : back ++ mark <+: opened pattern ++ later := by
      rw [← split, List.append_assoc, split] at early
      exact (List.prefix_append_right_inj between).mp early
    have length : (back ++ mark).length ≤ (opened pattern).length := by
      simp only [opened, ← split, List.length_append]
      omega
    exact legible between back split.symm
      (List.prefix_of_prefix_length_le behind (List.prefix_append _ _) length)

variable {text : List Char} (clean : ¬ opened pattern <:+: text)

include clean

/-- No marked pattern begins before the first place where a mark was put. -/
theorem not_wrapped_prefix (absent : ¬ pattern <+: text) :
    ¬ wrapped pattern <+: replace pattern (wrapped pattern) text := by
  have proper : pattern ≠ [] := by
    rintro rfl
    exact absent List.nil_prefix
  intro early
  rcases replace_eq_or_found pattern (wrapped pattern) text proper with
    same | ⟨front, rest, rfl, marked⟩
  · rw [same] at early
    exact clean ((List.prefix_append _ mark).trans early).isInfix
  · rw [marked] at early
    generalize replace pattern (wrapped pattern) rest = later at early
    -- the mark before the pattern is told apart by how much of it the text before it covers
    match front with
    | [] => exact absent (List.prefix_append _ _)
    | [c] =>
      have shifted : c = '*' ∧ pattern ++ mark <+: '*' :: (pattern ++ (mark ++ later)) := by
        simpa [wrapped, mark, eq_comm] using early
      obtain ⟨rfl, shifted⟩ := shifted
      have begins : pattern <+: '*' :: pattern := by
        apply List.prefix_of_prefix_length_le ((List.prefix_append _ mark).trans shifted)
        · exact (List.prefix_cons_inj '*').mpr (List.prefix_append _ _)
        · simp
      exact absent (begins.trans ((List.prefix_cons_inj '*').mpr (List.prefix_append _ rest)))
    | c :: d :: between =>
      have shifted : c = '*' ∧ d = '*' ∧
          pattern ++ mark <+: between ++ (opened pattern ++ (mark ++ later)) := by
        simpa [wrapped, opened, mark, eq_comm] using early
      obtain ⟨rfl, rfl, shifted⟩ := shifted
      have part : mark ++ (between ++ pattern) <+: '*' :: '*' :: between ++ (pattern ++ rest) :=
        ⟨rest, by simp [mark]⟩
      exact clean ((opened_infix_of_early legible shifted).trans part.isInfix)

/-- Taking the marks off that were put into a stripped text gives that text back. -/
theorem replace_wrapped (filled : pattern ≠ []) :
    replace (wrapped pattern) pattern (replace pattern (wrapped pattern) text) = text := by
  have marked : wrapped pattern ≠ [] := by simp [wrapped, mark]
  induction text using replace_induction filled with
  | nil => simp
  | found rest ih =>
    rw [replace_append _ _ _ filled, replace_append _ _ _ marked,
      ih fun inside => clean (inside.trans (List.suffix_append _ _).isInfix)]
  | other c rest absent ih =>
    have early := not_wrapped_prefix legible clean absent
    rw [replace_cons_of_not _ _ _ _ absent] at early ⊢
    rw [replace_cons_of_not _ _ _ _ early,
      ih fun inside => clean (inside.trans (List.suffix_cons _ _).isInfix)]

theorem stripOnce_marked (filled : pattern ≠ []) :
    stripOnce pattern (replace pattern (wrapped pattern) text) = text := by
  rw [stripOnce, replace_wrapped legible clean filled, replace_of_not_infix pattern clean]

theorem strip_marked (filled : pattern ≠ []) :
    strip pattern (replace pattern (wrapped pattern) text) = text := by
  rw [← strip_stripOnce, stripOnce_marked legible clean filled, strip_of_not_infix clean]

end

/-- Stripping undoes marking: where a pattern has no two asterisks side by side, one pass over a
highlighted text takes off the marks that were put there, and nothing opened is left to be found. -/
theorem strip_highlight {pattern : List Char} (filled : pattern ≠ []) (single : ¬ mark <:+: pattern)
    (text : List Char) :
    let marked := highlight text pattern
    let stripped := strip pattern text
    strip pattern marked = stripped ∧ replace (wrapped pattern) pattern marked = stripped ∧
      replace (opened pattern) pattern stripped = stripped ∧ ¬ opened pattern <:+: stripped := by
  intro marked stripped
  have legible := legible_of_not_infix single
  have clean : ¬ opened pattern <:+: stripped := opened_not_infix_strip pattern text
  have put : marked = replace pattern (wrapped pattern) stripped := if_neg filled
  rw [put]
  exact ⟨strip_marked legible clean filled, replace_wrapped legible clean filled,
    replace_of_not_infix pattern clean, clean⟩

/-- Marks in front of a pattern that overlaps itself and has an asterisk of its own. -/
theorem strip_highlight_overlapping :
    let pattern := "a*a".toList
    let text := "****a*a*a".toList
    pattern ≠ [] ∧ ¬ mark <:+: pattern ∧ highlight text pattern = "**a*a***a".toList ∧
      strip pattern (highlight text pattern) = "a*a*a".toList := by
  intro pattern text
  have filled : pattern ≠ [] := by decide
  have single : ¬ mark <:+: pattern := by decide
  have stripped : strip pattern text = "a*a*a".toList := by decide +kernel
  have marked : highlight text pattern = "**a*a***a".toList := by decide +kernel
  exact ⟨filled, single, marked, (strip_highlight filled single text).1.trans stripped⟩

end Text.Emphasis

namespace Reply

open Text.Emphasis (Legible mark)

/-- Highlighting a text twice is highlighting it once, for every legible pattern; a pattern without
two asterisks side by side is one. -/
theorem highlight_again (pattern : String) :
    (¬ mark <:+: pattern.toList → Legible pattern.toList) ∧
      (Legible pattern.toList → ∀ text,
        highlight (highlight text pattern) pattern = highlight text pattern) := by
  refine ⟨Text.Emphasis.legible_of_not_infix, ?_⟩
  intro legible text
  unfold highlight
  rw [String.toList_ofList]
  congr 1
  by_cases empty : pattern.toList = []
  · simp only [Text.Emphasis.highlight, empty, if_true]
  · have clean := Text.Emphasis.opened_not_infix_strip pattern.toList text.toList
    have stripped := Text.Emphasis.strip_marked legible clean empty
    simp only [Text.Emphasis.highlight, empty, if_false, stripped]

theorem highlight_again_stars :
    Legible "**a".toList ∧ Legible "a*a".toList ∧
      highlight (highlight "****a**a" "**a") "**a" = highlight "****a**a" "**a" := by
  have legible : Legible "**a".toList := by decide
  refine ⟨legible, by decide, ?_⟩
  exact (highlight_again "**a").2 legible "****a**a"

/-- A pattern with two asterisks inside can begin before the mark that was put there. -/
theorem highlight_again_differs :
    let once := highlight "**aa**aa" "a**a"
    once = "**a**a**a**a" ∧ highlight once "a**a" = "**a**a****a**a**" ∧
      highlight once "a**a" ≠ once := by
  decide +kernel

end Reply

end ChatLog
