import ChatLog.Text.Replace

/-!
Marking the occurrences of a pattern with a double asterisk on either side. Marks that already
stand around or before the pattern are stripped first, again and again until none is left, so that
marks never pile up. Each pass that changes the text shortens it, so stripping ends.
-/
namespace ChatLog.Text.Emphasis

def mark : List Char := ['*', '*']

def opened (pattern : List Char) : List Char := mark ++ pattern

def wrapped (pattern : List Char) : List Char := mark ++ pattern ++ mark

theorem length_lt_opened (pattern : List Char) : pattern.length < (opened pattern).length := by
  simp only [opened, mark, List.length_append, List.length_cons]
  omega

theorem length_lt_wrapped (pattern : List Char) : pattern.length < (wrapped pattern).length := by
  simp only [wrapped, mark, List.length_append, List.length_cons]
  omega

/-- One pass: first the wrapped occurrences lose their marks, then the merely opened ones. -/
def stripOnce (pattern text : List Char) : List Char :=
  replace (opened pattern) pattern (replace (wrapped pattern) pattern text)

theorem stripOnce_eq_or_shorter (pattern text : List Char) :
    stripOnce pattern text = text ∨ (stripOnce pattern text).length < text.length := by
  have first := replace_eq_or_shorter (wrapped pattern) pattern text (length_lt_wrapped pattern)
  have second := replace_eq_or_shorter (opened pattern) pattern
    (replace (wrapped pattern) pattern text) (length_lt_opened pattern)
  unfold stripOnce
  rcases first with same | fewer
  · rw [same] at second ⊢
    exact second
  · right
    rcases second with same | less
    · rw [same]; exact fewer
    · omega

def strip (pattern text : List Char) : List Char :=
  if stripOnce pattern text = text then text else strip pattern (stripOnce pattern text)
termination_by text.length
decreasing_by
  rename_i changed
  exact (stripOnce_eq_or_shorter pattern text).resolve_left changed

/-- The text with every occurrence of the pattern in marks; the empty pattern marks nothing. -/
def highlight (text pattern : List Char) : List Char :=
  if pattern = [] then text else replace pattern (wrapped pattern) (strip pattern text)

theorem stripOnce_strip (pattern text : List Char) :
    stripOnce pattern (strip pattern text) = strip pattern text := by
  induction text using strip.induct pattern with
  | case1 text same => rw [strip, if_pos same]; exact same
  | case2 text changed ih => rw [strip, if_neg changed]; exact ih

end ChatLog.Text.Emphasis
