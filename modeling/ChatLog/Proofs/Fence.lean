import ChatLog.Text.Blank
import ChatLog.Text.Parts
import Mathlib.Data.List.Infix

/-!
Fenced texts. A preformatted line stands between two fences of three backticks and has no other one.
A text makes such a line when it neither breaks the line nor has a fence itself, and has no backtick
at either end; whether it does can be told from the parts between characters that do no harm.
-/
namespace ChatLog

namespace Text

/-- The characters that end a line. -/
def isLineBreak (c : Char) : Bool :=
  ['\n', '\x0B', '\x0C', '\r', '\u0085', '\u2028', '\u2029'].contains c

def ticks : List Char := ['`', '`', '`']

def isQuiet (c : Char) : Bool :=
  !isLineBreak c && c != '`'

/-- A text that breaks neither the line nor the fence it is put into. -/
structure IsInline (text : List Char) : Prop where
  unbroken : ∀ c ∈ text, isLineBreak c = false
  unfenced : ¬ ticks <:+: text

/-- An inline text that leaves the fences before and behind it as they are. -/
structure FitsFence (text : List Char) : Prop where
  proper : text ≠ []
  inline : IsInline text
  opens : text.head? ≠ some '`'
  ends : text.getLast? ≠ some '`'

/-- A text with nothing in it that could break a line or a fence. -/
def IsCalm (text : List Char) : Prop :=
  text ≠ [] ∧ ∀ c ∈ text, isQuiet c = true

-- the characters of the text are gone through here, not all characters there are
instance : DecidablePred IsCalm := fun text =>
  decidable_of_iff (text ≠ [] ∧ text.all isQuiet = true) (by simp [IsCalm])

instance : DecidablePred IsInline := fun text =>
  decidable_of_iff (text.all (!isLineBreak ·) = true ∧ ¬ ticks <:+: text)
    ⟨fun ⟨unbroken, unfenced⟩ => ⟨by simpa using unbroken, unfenced⟩,
      fun inline => ⟨by simpa using inline.unbroken, inline.unfenced⟩⟩

/-- A preformatted line: it starts and ends with a fence and has no other one. -/
structure IsFenced (text : List Char) : Prop where
  fenced : ∃ inside, text = ticks ++ inside ++ ticks
  unbroken : ∀ c ∈ text, isLineBreak c = false
  alone : ∀ before behind, text = before ++ ticks ++ behind → before = [] ∨ behind = []

theorem IsInline.of_part {part text : List Char} (inline : IsInline text)
    (inside : part <:+: text) : IsInline part :=
  ⟨fun c member => inline.unbroken c (inside.subset member),
    fun fence => inline.unfenced (fence.trans inside)⟩

theorem prefix_of_prefix_append_cons {part right : List Char} {c : Char} (absent : c ∉ part)
    (left : List Char) (begins : part <+: left ++ c :: right) : part <+: left := by
  induction left generalizing part with
  | nil =>
    cases part with
    | nil => exact List.nil_prefix
    | cons p part =>
      obtain ⟨same, _⟩ := List.cons_prefix_cons.mp begins
      exact absurd (same ▸ List.mem_cons_self) absent
  | cons d left ih =>
    cases part with
    | nil => exact List.nil_prefix
    | cons p part =>
      obtain ⟨same, rest⟩ := List.cons_prefix_cons.mp begins
      rw [List.mem_cons, not_or] at absent
      exact List.cons_prefix_cons.mpr ⟨same, ih absent.2 rest⟩

theorem infix_append_cons_iff {part : List Char} {c : Char} (absent : c ∉ part) (filled : part ≠ [])
    (left right : List Char) :
    part <:+: left ++ c :: right ↔ part <:+: left ∨ part <:+: right := by
  constructor
  · intro inside
    induction left with
    | nil =>
      rcases List.infix_cons_iff.mp inside with begins | later
      · have nothing := prefix_of_prefix_append_cons absent [] begins
        exact absurd (List.prefix_nil.mp nothing) filled
      · exact Or.inr later
    | cons d left ih =>
      rcases List.infix_cons_iff.mp inside with begins | later
      · have first := prefix_of_prefix_append_cons absent (d :: left) begins
        exact Or.inl first.isInfix
      · rcases ih later with front | behind
        · exact Or.inl (front.trans (List.infix_cons List.infix_rfl))
        · exact Or.inr behind
  · rintro (front | behind)
    · exact front.trans (List.prefix_append _ _).isInfix
    · exact behind.trans ((List.suffix_cons c right).isInfix.trans
        (List.suffix_append left _).isInfix)

theorem isInline_append_cons {c : Char} (quiet : isQuiet c = true) (left right : List Char) :
    IsInline (left ++ c :: right) ↔ IsInline left ∧ IsInline right := by
  obtain ⟨unbroken, plain⟩ : isLineBreak c = false ∧ c ≠ '`' := by simpa [isQuiet] using quiet
  have absent : c ∉ ticks := by simp [ticks, plain]
  have fence := infix_append_cons_iff absent (by decide) left right
  constructor
  · intro whole
    exact ⟨whole.of_part (List.prefix_append _ _).isInfix,
      whole.of_part ((List.suffix_cons c right).isInfix.trans (List.suffix_append left _).isInfix)⟩
  · rintro ⟨front, behind⟩
    refine ⟨?_, ?_⟩
    · intro d member
      rcases List.mem_append.mp member with inFront | inside
      · exact front.unbroken d inFront
      · rcases List.mem_cons.mp inside with rfl | later
        · exact unbroken
        · exact behind.unbroken d later
    · intro found
      rcases fence.mp found with inFront | inBehind
      · exact front.unfenced inFront
      · exact behind.unfenced inBehind

/-- Two backticks on either side make no fence with a text that has none at its ends. -/
theorem ticks_infix_of_between {first last : Char} (plain : first ≠ '`') (clear : last ≠ '`')
    {rest front : List Char} (same : first :: rest = front ++ [last])
    (fence : ticks <:+: ['`', '`'] ++ first :: rest ++ ['`', '`']) : ticks <:+: first :: rest := by
  have inner : ticks <:+: ['`', '`'] ++ front := by
    rw [same] at fence
    have split : ['`', '`'] ++ (front ++ [last]) ++ ['`', '`'] =
        (['`', '`'] ++ front) ++ last :: ['`', '`'] := by simp
    rw [split, infix_append_cons_iff (by simp [ticks, clear]) (by decide)] at fence
    exact fence.resolve_right (by decide)
  cases front with
  | nil => exact absurd inner (by decide)
  | cons c front =>
    obtain ⟨rfl, inside⟩ := List.cons.inj same
    rw [infix_append_cons_iff (by simp [ticks, plain]) (by decide)] at inner
    have found := inner.resolve_left (by decide)
    rw [inside]
    exact found.trans (List.infix_cons (List.prefix_append front [last]).isInfix)

theorem IsFenced.fitsFence {text : List Char} (fenced : IsFenced (ticks ++ text ++ ticks)) :
    FitsFence text := by
  have apart (before behind : List Char)
      (split : ticks ++ text ++ ticks = before ++ ticks ++ behind) (front : before ≠ [])
      (rear : behind ≠ []) : False :=
    (fenced.alone before behind split).elim front rear
  refine ⟨?_, ⟨?_, ?_⟩, ?_, ?_⟩
  · rintro rfl
    exact apart ['`'] ['`', '`'] rfl (by decide) (by decide)
  · intro c member
    exact fenced.unbroken c (List.mem_append_left _ (List.mem_append_right _ member))
  · rintro ⟨before, behind, rfl⟩
    exact apart (ticks ++ before) (behind ++ ticks) (by simp)
      (by simp [ticks]) (by simp [ticks])
  · intro first
    obtain ⟨rest, rfl⟩ := List.head?_eq_some_iff.mp first
    exact apart ['`'] (rest ++ ticks) (by simp [ticks]) (by decide)
      (by simp [ticks])
  · intro last
    obtain ⟨front, rfl⟩ := List.getLast?_eq_some_iff.mp last
    exact apart (ticks ++ front) ['`'] (by simp [ticks]) (by simp [ticks])
      (by decide)

theorem FitsFence.isFenced {text : List Char} (fits : FitsFence text) :
    IsFenced (ticks ++ text ++ ticks) := by
  refine ⟨⟨_, rfl⟩, ?_, ?_⟩
  · have quiet : ∀ c ∈ ticks, isLineBreak c = false := by
      have all : ticks.all (!isLineBreak ·) = true := by decide
      simpa using all
    intro c member
    simp only [List.mem_append] at member
    rcases member with (tick | inside) | tick
    · exact quiet c tick
    · exact fits.inline.unbroken c inside
    · exact quiet c tick
  · intro before behind split
    by_contra both
    rw [not_or] at both
    -- without its first and its last character, the whole text still has the fence found
    obtain ⟨b, before, rfl⟩ := List.exists_cons_of_ne_nil both.1
    obtain ⟨behind, d, rfl⟩ := (List.eq_nil_or_concat' behind).resolve_left both.2
    have inner : ['`', '`'] ++ text ++ ['`', '`'] ++ ['`'] =
        before ++ ticks ++ behind ++ [d] := by
      have tails := (List.cons.inj split).2
      simpa [ticks] using tails
    have fence : ticks <:+: ['`', '`'] ++ text ++ ['`', '`'] :=
      ⟨before, behind, (List.append_inj' inner rfl).1.symm⟩
    obtain ⟨first, rest, rfl⟩ := List.exists_cons_of_ne_nil fits.proper
    obtain ⟨front, last, same⟩ := (List.eq_nil_or_concat' (first :: rest)).resolve_left fits.proper
    have plain : first ≠ '`' := by simpa using fits.opens
    have clear : last ≠ '`' := by simpa [same] using fits.ends
    exact fits.inline.unfenced (ticks_infix_of_between plain clear same fence)

/-- A text between two fences has no other one unless it has one itself or has a backtick at either
end, which would make another one with those beside it. -/
theorem isFenced_iff (text : List Char) : IsFenced (ticks ++ text ++ ticks) ↔ FitsFence text :=
  ⟨IsFenced.fitsFence, FitsFence.isFenced⟩

theorem isCalm_ofList {text : List Char} (calm : IsCalm text) :
    IsCalm (String.ofList text).toList := by
  -- the kernel sees a literal as made of its characters at once, but decodes it slowly
  rwa [String.toList_ofList]

namespace IsCalm

variable {calm : List Char} (quiet : IsCalm calm)

include quiet

theorem backtick_not_mem : '`' ∉ calm := by
  intro member
  exact absurd (quiet.2 _ member) (by decide)

theorem isInline_append (text : List Char) : IsInline (calm ++ text) ↔ IsInline text := by
  have nothing : IsInline [] := by decide
  have each := quiet.2
  clear quiet
  induction calm with
  | nil => rfl
  | cons c calm ih =>
    have apart := isInline_append_cons (each c List.mem_cons_self) [] (calm ++ text)
    rw [List.nil_append, and_iff_right nothing] at apart
    rw [List.cons_append, apart]
    exact ih fun d member => each d (List.mem_cons_of_mem c member)

theorem isInline_between (left right : List Char) :
    IsInline (left ++ (calm ++ right)) ↔ IsInline left ∧ IsInline right := by
  constructor
  · intro whole
    have behind := whole.of_part (List.suffix_append left _).isInfix
    exact ⟨whole.of_part (List.prefix_append left _).isInfix,
      (quiet.isInline_append right).mp behind⟩
  · rintro ⟨front, behind⟩
    have inline := (quiet.isInline_append right).mpr behind
    obtain ⟨c, rest, rfl⟩ := List.exists_cons_of_ne_nil quiet.1
    have later := inline.of_part (List.suffix_cons c (rest ++ right)).isInfix
    exact (isInline_append_cons (quiet.2 c List.mem_cons_self) left _).mpr ⟨front, later⟩

theorem append_isInline (text : List Char) : IsInline (text ++ calm) ↔ IsInline text := by
  have nothing : IsInline [] := by decide
  have alone := quiet.isInline_between text []
  rwa [List.append_nil, and_iff_left nothing] at alone

theorem isInline : IsInline calm :=
  (quiet.append_isInline []).mpr (by decide)

theorem getLast?_between (left right : List Char) :
    (left ++ (calm ++ right)).getLast? = some '`' ↔ right.getLast? = some '`' := by
  have clear : (left ++ calm).getLast? ≠ some '`' := by
    rw [List.getLast?_append_of_ne_nil left quiet.1]
    exact fun last => quiet.backtick_not_mem (List.mem_of_getLast? last)
  rw [← List.append_assoc, List.getLast?_append]
  cases right.getLast? with
  | none => simpa using clear
  | some c => rfl

theorem head?_append (text : List Char) : (calm ++ text).head? ≠ some '`' := by
  rw [List.head?_append_of_ne_nil calm quiet.1]
  exact fun first => quiet.backtick_not_mem (List.mem_of_head? first)

theorem fitsFence_append (text : List Char) :
    FitsFence (calm ++ text) ↔ IsInline text ∧ text.getLast? ≠ some '`' := by
  constructor
  · rintro ⟨_, inline, _, ends⟩
    exact ⟨(quiet.isInline_append text).mp inline, mt (quiet.getLast?_between [] text).mpr ends⟩
  · rintro ⟨inline, ends⟩
    exact ⟨by simp [quiet.1], (quiet.isInline_append text).mpr inline, quiet.head?_append text,
      mt (quiet.getLast?_between [] text).mp ends⟩

end IsCalm

theorem prefix_of_parts {separator : Char} {text first : List Char} {others : List (List Char)}
    (split : parts separator text = first :: others) : first <+: text := by
  induction text generalizing first others with
  | nil =>
    rw [parts] at split
    exact (List.cons.inj split).1 ▸ List.nil_prefix
  | cons c text ih =>
    rw [parts] at split
    split at split
    · exact (List.cons.inj split).1 ▸ List.nil_prefix
    · split at split
      · rename_i empty
        exact absurd empty (parts_ne_nil separator text)
      · rename_i start rest found
        exact (List.cons.inj split).1 ▸ List.cons_prefix_cons.mpr ⟨rfl, ih found⟩

theorem infix_of_mem_parts {separator : Char} {text part : List Char}
    (member : part ∈ parts separator text) : part <:+: text := by
  induction text with
  | nil => exact List.mem_singleton.mp member ▸ List.infix_rfl
  | cons c text ih =>
    cases found : parts separator text with
    | nil => exact absurd found (parts_ne_nil separator text)
    | cons first others =>
      rw [found] at ih
      rw [parts, found] at member
      have later (inside : part ∈ first :: others) : part <:+: c :: text :=
        List.infix_cons (ih inside)
      by_cases same : c = separator
      · rw [if_pos same] at member
        rcases List.mem_cons.mp member with rfl | inside
        · exact List.nil_infix
        · exact later inside
      · rw [if_neg same] at member
        rcases List.mem_cons.mp member with rfl | inside
        · exact (List.cons_prefix_cons.mpr ⟨rfl, prefix_of_parts found⟩).isInfix
        · exact later (List.mem_cons_of_mem _ inside)

theorem trim_within (text : List Char) : trim text <:+: text := by
  have first : trimStart text <:+ text := List.dropWhile_suffix isBlank
  have last : trim text <+: trimStart text := by
    rw [trim, trimEnd, ← List.reverse_suffix, List.reverse_reverse]
    exact List.dropWhile_suffix isBlank
  exact last.isInfix.trans first.isInfix

end Text

end ChatLog
