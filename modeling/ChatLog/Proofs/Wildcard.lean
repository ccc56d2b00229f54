import ChatLog.Text.Wildcard

/-!
The texts that wildcard patterns fit, as a grammar, and the matcher's agreement with it. Whatever
characters a word has, wildcards and null characters among them, its own text fits it, so a text
that opens with a word and a space fits the pattern for such texts.
-/
namespace ChatLog.Text.Wildcard

/-- A pattern and a text that it fits. -/
inductive Fits : List Char → List Char → Prop
  | nil : Fits [] []
  | run {pattern text : List Char} (skipped : List Char) (rest : Fits pattern text) :
      Fits ('%' :: pattern) (skipped ++ text)
  | one {p c : Char} {pattern text : List Char} (plain : p ≠ '%')
      (same : p = '_' ∨ sameLetter p c) (rest : Fits pattern text) :
      Fits (p :: pattern) (c :: text)

theorem length_orLater (places : List Bool) : (orLater places).length = places.length := by
  induction places with
  | nil => rfl
  | cons here later ih => simp [orLater, ih]

theorem length_tailsFit (pattern text : List Char) :
    (tailsFit pattern text).length = text.length + 1 := by
  induction pattern generalizing text with
  | nil => simp [tailsFit]
  | cons p pattern ih =>
    by_cases run : p = '%'
    · simp [tailsFit, run, length_orLater, ih]
    · simp [tailsFit, run, ih]

theorem tailsFit_cons (pattern text : List Char) (c : Char) :
    tailsFit pattern (c :: text) =
      (tailsFit pattern (c :: text)).headD false :: tailsFit pattern text := by
  induction pattern generalizing c text with
  | nil => rfl
  | cons p pattern ih =>
    have later := ih text c
    by_cases run : p = '%'
    · simp only [tailsFit, run, if_true]
      rw [later]
      rfl
    · obtain ⟨next, rest, split⟩ := List.exists_cons_of_length_pos
        (show 0 < (tailsFit pattern text).length by rw [length_tailsFit]; omega)
      simp only [tailsFit, run, if_false]
      rw [later, split]
      rfl

theorem headD_tailsFit_run (pattern text : List Char) (c : Char) :
    (tailsFit ('%' :: pattern) (c :: text)).headD false =
      ((tailsFit pattern (c :: text)).headD false ||
        (tailsFit ('%' :: pattern) text).headD false) := by
  simp only [tailsFit, if_true]
  rw [tailsFit_cons]
  rfl

theorem headD_tailsFit_one {p : Char} (plain : p ≠ '%') (pattern text : List Char) (c : Char) :
    (tailsFit (p :: pattern) (c :: text)).headD false =
      ((tailsFit pattern text).headD false && (p == '_' || sameLetter p c)) := by
  obtain ⟨next, rest, split⟩ := List.exists_cons_of_length_pos
    (show 0 < (tailsFit pattern text).length by rw [length_tailsFit]; omega)
  simp only [tailsFit, plain, if_false]
  rw [tailsFit_cons, split]
  rfl

theorem fits_run_iff (pattern text : List Char) :
    Fits ('%' :: pattern) text ↔ ∃ tail, tail <:+ text ∧ Fits pattern tail := by
  constructor
  · intro fit
    cases fit with
    | run skipped rest => exact ⟨_, List.suffix_append _ _, rest⟩
    | one plain _ _ => exact absurd rfl plain
  · rintro ⟨tail, ⟨skipped, rfl⟩, rest⟩
    exact .run skipped rest

theorem fits_one_iff {p : Char} (plain : p ≠ '%') (pattern text : List Char) :
    Fits (p :: pattern) text ↔
      ∃ c tail, text = c :: tail ∧ (p = '_' ∨ sameLetter p c) ∧ Fits pattern tail := by
  constructor
  · intro fit
    generalize whole : p :: pattern = opened at fit
    cases fit with
    | nil => cases whole
    | run _ _ =>
      cases whole
      exact absurd rfl plain
    | one _ same rest =>
      cases whole
      exact ⟨_, _, rfl, same, rest⟩
  · rintro ⟨c, tail, rfl, same, rest⟩
    exact .one plain same rest

/-- Two patterns, one after the other, fit what falls into a text for each of them. -/
theorem fits_append_iff (pattern behind text : List Char) :
    Fits (pattern ++ behind) text ↔
      ∃ front rest, text = front ++ rest ∧ Fits pattern front ∧ Fits behind rest := by
  induction pattern generalizing text with
  | nil =>
    constructor
    · intro fit
      exact ⟨[], text, rfl, .nil, fit⟩
    · rintro ⟨front, rest, rfl, ⟨⟩, fit⟩
      exact fit
  | cons p pattern ih =>
    by_cases run : p = '%'
    · subst run
      rw [List.cons_append, fits_run_iff]
      constructor
      · rintro ⟨tail, ⟨skipped, rfl⟩, fit⟩
        obtain ⟨front, rest, rfl, opens, closes⟩ := (ih tail).mp fit
        exact ⟨skipped ++ front, rest, by simp, .run skipped opens, closes⟩
      · rintro ⟨front, rest, rfl, opens, closes⟩
        obtain ⟨tail, ⟨skipped, rfl⟩, fit⟩ := (fits_run_iff pattern front).mp opens
        exact ⟨tail ++ rest, ⟨skipped, by simp⟩, (ih _).mpr ⟨tail, rest, rfl, fit, closes⟩⟩
    · rw [List.cons_append, fits_one_iff run]
      constructor
      · rintro ⟨c, tail, rfl, same, fit⟩
        obtain ⟨front, rest, rfl, opens, closes⟩ := (ih tail).mp fit
        exact ⟨c :: front, rest, rfl, .one run same opens, closes⟩
      · rintro ⟨front, rest, rfl, opens, closes⟩
        obtain ⟨c, tail, rfl, same, fit⟩ := (fits_one_iff run pattern front).mp opens
        exact ⟨c, tail ++ rest, rfl, same, (ih _).mpr ⟨tail, rest, rfl, fit, closes⟩⟩

theorem fits_append_run_iff (pattern text : List Char) :
    Fits (pattern ++ ['%']) text ↔ ∃ front, front <+: text ∧ Fits pattern front := by
  rw [fits_append_iff]
  constructor
  · rintro ⟨front, rest, rfl, fit, _⟩
    exact ⟨front, List.prefix_append _ _, fit⟩
  · rintro ⟨front, ⟨rest, rfl⟩, fit⟩
    exact ⟨front, rest, rfl, fit, by simpa using Fits.run rest .nil⟩

theorem tailsFit_iff (pattern text : List Char) :
    (tailsFit pattern text).headD false = true ↔ Fits pattern text := by
  induction pattern generalizing text with
  | nil =>
    cases text with
    | nil => simp [tailsFit, Fits.nil]
    | cons c text =>
      simp only [tailsFit, List.map_cons, List.cons_append, List.headD_cons, Bool.false_eq_true,
        false_iff]
      intro fit
      cases fit
  | cons p pattern ih =>
    by_cases run : p = '%'
    · subst run
      rw [fits_run_iff]
      induction text with
      | nil =>
        have single : tailsFit ('%' :: pattern) [] = orLater (tailsFit pattern []) := by
          simp [tailsFit]
        obtain ⟨only, alone⟩ := List.length_eq_one_iff.mp (length_tailsFit pattern [])
        simp [← ih, single, alone, orLater]
      | cons c text inner =>
        rw [headD_tailsFit_run, Bool.or_eq_true, ih, inner]
        constructor
        · rintro (here | ⟨tail, ⟨skipped, rfl⟩, rest⟩)
          · exact ⟨_, List.suffix_refl _, here⟩
          · exact ⟨tail, ⟨c :: skipped, rfl⟩, rest⟩
        · rintro ⟨tail, suffix, rest⟩
          rcases List.suffix_cons_iff.mp suffix with rfl | shorter
          · exact Or.inl rest
          · exact Or.inr ⟨tail, shorter, rest⟩
    · rw [fits_one_iff run]
      cases text with
      | nil => simp [tailsFit, run]
      | cons c text =>
        rw [headD_tailsFit_one run, Bool.and_eq_true, Bool.or_eq_true, beq_iff_eq, ih]
        constructor
        · rintro ⟨rest, same⟩
          exact ⟨c, text, rfl, same, rest⟩
        · rintro ⟨_, _, equal, same, rest⟩
          cases equal
          exact ⟨rest, same⟩

theorem fits_iff (pattern text : String) :
    fits pattern text = true ↔ Fits (visible pattern.toList) (visible text.toList) :=
  tailsFit_iff _ _

/-- A pattern fits its own text, and with any run behind it every text that opens with that. -/
theorem Fits.literal_append {pattern rest : List Char} (word : List Char)
    (fit : Fits pattern rest) : Fits (word ++ pattern) (word ++ rest) := by
  induction word with
  | nil => exact fit
  | cons c word ih =>
    by_cases run : c = '%'
    · subst run
      exact .run ['%'] ih
    · exact .one run (Or.inr (by simp [sameLetter])) ih

theorem visible_append_of_null {word : List Char} (null : '\x00' ∈ word) (rest : List Char) :
    visible (word ++ rest) = visible word := by
  unfold visible
  congr 1
  induction word with
  | nil => simp at null
  | cons c word ih =>
    by_cases stop : c = '\x00'
    · simp [stop]
    · have later : '\x00' ∈ word := by simpa [Ne.symm stop] using null
      simpa [stop] using ih later

theorem visible_append {word : List Char} (plain : '\x00' ∉ word) (rest : List Char) :
    visible (word ++ rest) = word.map seen ++ visible rest := by
  have kept : (word ++ rest).takeWhile (· ≠ '\x00') = word ++ rest.takeWhile (· ≠ '\x00') := by
    apply List.takeWhile_append_of_pos
    intro c member
    have different : c ≠ '\x00' := by
      rintro rfl
      exact plain member
    simpa using different
  simp only [visible, kept, List.map_append]

/-- A text that opens with a word and a space fits the pattern for such texts. -/
theorem fits_opening {word text : String} (opens : (word ++ " ").toList <+: text.toList) :
    fits (opening word) text = true := by
  rw [fits_iff]
  obtain ⟨rest, split⟩ := opens
  have pattern : (opening word).toList = (word ++ " ").toList ++ ['%'] := by
    simp [opening]
  rw [← split, pattern]
  by_cases null : '\x00' ∈ (word ++ " ").toList
  · rw [visible_append_of_null null, visible_append_of_null null]
    simpa using Fits.nil.literal_append (visible (word ++ " ").toList)
  · rw [visible_append null, visible_append null]
    apply Fits.literal_append
    have run := Fits.run (visible rest) Fits.nil
    simpa [visible, seen] using run

end ChatLog.Text.Wildcard
