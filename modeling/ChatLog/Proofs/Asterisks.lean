import ChatLog.Proofs.Emphasis

/-!
Marks put around a pattern that may carry marks already. One more layer of them comes off in the
first half of the first pass of stripping, and then the second half takes a mark off in front of
every occurrence that is still opened. Where that opens a wrapped occurrence, the mark behind it is
never taken off: of two layers, one closing mark is left behind each occurrence.
-/
namespace ChatLog.Text.Emphasis

/-- The text with one more layer of marks around every occurrence of the pattern. -/
def layer (pattern text : List Char) : List Char :=
  replace pattern (wrapped pattern) text

section

variable {pattern : List Char} (filled : pattern ≠ [])

include filled

theorem layer_found (rest : List Char) :
    layer pattern (pattern ++ rest) = '*' :: '*' :: (pattern ++ (mark ++ layer pattern rest)) := by
  rw [layer, replace_append _ _ _ filled]
  simp [wrapped, mark, layer]

variable (plain : '*' ∉ pattern)

include plain

theorem not_prefix_star_cons (rest : List Char) : ¬ pattern <+: '*' :: rest := by
  obtain ⟨c, others, rfl⟩ := List.exists_cons_of_ne_nil filled
  intro early
  exact plain (by simp [(List.cons_prefix_cons.mp early).1])

/-- A marked text begins with a mark or with something else that is no occurrence. -/
theorem not_prefix_layer (text : List Char) : ¬ pattern <+: layer pattern text := by
  by_cases here : pattern <+: text
  · obtain ⟨rest, rfl⟩ := here
    rw [layer_found filled]
    exact not_prefix_star_cons filled plain _
  · intro early
    rcases replace_eq_or_found pattern (wrapped pattern) text filled with
      same | ⟨front, rest, rfl, marked⟩
    · rw [layer, same] at early
      exact here early
    · rw [layer, marked] at early
      rcases List.prefix_or_prefix_of_prefix early (List.prefix_append front _) with
        inside | ⟨back, rfl⟩
      · exact here (inside.trans (List.prefix_append _ _))
      · -- an occurrence that reaches into the mark would have an asterisk of its own
        have behind := (List.prefix_append_right_inj front).mp early
        match back with
        | [] => exact here (by simp)
        | c :: back =>
          have star : c = '*' :=
            (List.cons_prefix_cons.mp (by simpa [wrapped, mark] using behind)).1
          exact plain (by simp [star])

theorem not_star_prefix_layer (text : List Char) : ¬ '*' :: pattern <+: layer pattern text := by
  intro early
  by_cases here : pattern <+: text
  · obtain ⟨rest, rfl⟩ := here
    rw [layer_found filled] at early
    exact not_prefix_star_cons filled plain _ (List.cons_prefix_cons.mp early).2
  · match text with
    | [] => simp [layer] at early
    | c :: rest =>
      rw [layer, replace_cons_of_not _ _ _ _ here] at early
      exact not_prefix_layer filled plain rest (List.cons_prefix_cons.mp early).2

/-- In a marked text every opened occurrence is one that was marked. -/
theorem not_opened_prefix_cons_layer (c : Char) (text : List Char) :
    ¬ opened pattern <+: c :: layer pattern text := by
  intro early
  exact not_star_prefix_layer filled plain text (List.cons_prefix_cons.mp early).2

/-- Taking wrapped occurrences out of their marks undoes one layer, whatever marks were there. -/
theorem replace_wrapped_layer (text : List Char) :
    replace (wrapped pattern) pattern (layer pattern text) = text := by
  have marked : wrapped pattern ≠ [] := by simp [wrapped, mark]
  induction text using replace_induction filled with
  | nil => simp [layer]
  | found rest ih =>
    rw [layer, replace_append _ _ _ filled, replace_append _ _ _ marked, ← layer, ih]
  | other c rest absent ih =>
    have early : ¬ wrapped pattern <+: c :: layer pattern rest := fun whole =>
      not_opened_prefix_cons_layer filled plain c rest ((List.prefix_append _ mark).trans whole)
    rw [layer, replace_cons_of_not _ _ _ _ absent, ← layer, replace_cons_of_not _ _ _ _ early, ih]

/-- Taking a mark off in front of opened occurrences leaves the one behind them. -/
theorem replace_opened_layer (text : List Char) :
    replace (opened pattern) pattern (layer pattern text) =
      replace pattern (pattern ++ mark) text := by
  have marked : opened pattern ≠ [] := by simp [opened, mark]
  induction text using replace_induction filled with
  | nil => simp [layer]
  | found rest ih =>
    have whole : layer pattern (pattern ++ rest) =
        opened pattern ++ '*' :: '*' :: layer pattern rest := by
      simp [layer_found filled, opened, mark]
    have first : ¬ opened pattern <+: '*' :: '*' :: layer pattern rest := by
      intro early
      exact not_prefix_layer filled plain rest
        (List.cons_prefix_cons.mp (List.cons_prefix_cons.mp early).2).2
    rw [whole, replace_append _ _ _ marked, replace_cons_of_not _ _ _ _ first,
      replace_cons_of_not _ _ _ _ (not_opened_prefix_cons_layer filled plain '*' rest), ih,
      replace_append _ _ _ filled]
    simp [mark]
  | other c rest absent ih =>
    rw [layer, replace_cons_of_not _ _ _ _ absent, ← layer,
      replace_cons_of_not _ _ _ _ (not_opened_prefix_cons_layer filled plain c rest), ih,
      replace_cons_of_not _ _ _ _ absent]

theorem strip_layer (text : List Char) :
    strip pattern (layer pattern text) =
      strip pattern (replace (opened pattern) pattern text) := by
  rw [← strip_stripOnce, stripOnce, replace_wrapped_layer filled plain]

theorem highlight_eq_iff (text other : List Char) :
    highlight text pattern = highlight other pattern ↔
      strip pattern text = strip pattern other := by
  have put (text : List Char) : highlight text pattern = layer pattern (strip pattern text) :=
    if_neg filled
  constructor
  · intro same
    rw [put, put] at same
    rw [← replace_wrapped_layer filled plain (strip pattern text), same,
      replace_wrapped_layer filled plain]
  · intro same
    rw [put, put, same]

end

/-- A text with one more layer of marks around a pattern without asterisks is highlighted as the
text without a mark in front of its opened occurrences. So it is highlighted as the text itself
where no occurrence is wrapped in marks already, however many stand in front, and otherwise exactly
where taking the marks in front off first does not change what stripping leaves. Two more layers
leave one mark behind every occurrence. -/
theorem highlight_layer {pattern : List Char} (filled : pattern ≠ []) (plain : '*' ∉ pattern)
    (text : List Char) :
    let marked := layer pattern text
    let unopened := replace (opened pattern) pattern text
    highlight marked pattern = highlight unopened pattern ∧
      (¬ wrapped pattern <:+: text → highlight marked pattern = highlight text pattern) ∧
      (highlight marked pattern = highlight text pattern ↔
        strip pattern unopened = strip pattern text) ∧
      highlight (layer pattern marked) pattern =
        highlight (replace pattern (pattern ++ mark) text) pattern := by
  intro marked unopened
  have stripped : strip pattern marked = strip pattern unopened := strip_layer filled plain text
  refine ⟨?_, ?_, ?_, ?_⟩
  · rw [highlight_eq_iff filled plain, stripped]
  · intro bare
    rw [highlight_eq_iff filled plain, stripped, ← strip_stripOnce pattern text, stripOnce,
      replace_of_not_infix pattern bare]
  · rw [highlight_eq_iff filled plain, stripped]
  · rw [highlight_eq_iff filled plain, strip_layer filled plain, replace_opened_layer filled plain]

/-- Marks in front of a word, more than one of them, and one more layer around it. -/
theorem highlight_layer_opened :
    let pattern := "hello".toList
    let text := "****hello, **hello".toList
    pattern ≠ [] ∧ '*' ∉ pattern ∧ ¬ wrapped pattern <:+: text ∧
      layer pattern text = "******hello**, ****hello**".toList ∧
      highlight (layer pattern text) pattern = "**hello**, **hello**".toList := by
  intro pattern text
  have filled : pattern ≠ [] := by decide
  have plain : '*' ∉ pattern := by decide
  have bare : ¬ wrapped pattern <:+: text := by decide
  have alone : highlight text pattern = "**hello**, **hello**".toList := by decide +kernel
  have same := (highlight_layer filled plain text).2.1 bare
  exact ⟨filled, plain, bare, by decide +kernel, same.trans alone⟩

/-- A second layer around a word is not taken off as a whole. -/
theorem highlight_layer_differs :
    let pattern := "hello".toList
    let text := "**hello**".toList
    layer pattern text = "****hello****".toList ∧
      highlight text pattern = "**hello**".toList ∧
      highlight (layer pattern text) pattern = "**hello****".toList ∧
      highlight (layer pattern text) pattern ≠ highlight text pattern := by
  decide +kernel

end ChatLog.Text.Emphasis
