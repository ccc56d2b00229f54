import ChatLog.Proofs.Fence
import ChatLog.Reply

/-!
Links that are broken. Putting a character that no word has into every occurrence of a pattern makes
no word appear that was not there, and leaves no occurrence where the pattern cannot begin behind
the place of that character. Texts that end in a line break are put in order one by one, so a
listing is defused row by row.
-/
namespace ChatLog

namespace Text

/-- A character outside the pattern separates what is replaced. -/
theorem replace_append_cons {pattern : List Char} {c : Char} (absent : c ∉ pattern)
    (new before behind : List Char) : replace pattern new (before ++ c :: behind) =
      replace pattern new before ++ c :: replace pattern new behind := by
  by_cases proper : pattern = []
  · simp only [replace, if_pos proper]
  · induction before using replace_induction proper with
    | nil =>
      have here : ¬ pattern <+: c :: behind := by
        intro early
        exact proper (List.prefix_nil.mp (prefix_of_prefix_append_cons absent [] early))
      rw [List.nil_append, replace_cons_of_not _ _ _ _ here, replace_nil, List.nil_append]
    | found rest ih =>
      rw [List.append_assoc, replace_append _ _ _ proper, replace_append _ _ _ proper, ih,
        List.append_assoc]
    | other d rest other ih =>
      have here : ¬ pattern <+: d :: (rest ++ c :: behind) := fun early =>
        other (prefix_of_prefix_append_cons absent (d :: rest) early)
      rw [List.cons_append, replace_cons_of_not _ _ _ _ here, replace_cons_of_not _ _ _ _ other, ih,
        List.cons_append]

section

variable {front back word : List Char} {gap : Char} (absent : gap ∉ word)

include absent

/-- What a broken text begins with, the text begins with. -/
theorem prefix_of_prefix_broken {text : List Char}
    (begins : word <+: replace (front ++ back) (front ++ gap :: back) text) : word <+: text := by
  by_cases proper : front ++ back = []
  · rwa [replace, if_pos proper] at begins
  · induction text using replace_induction proper generalizing word with
    | nil => rwa [replace_nil] at begins
    | found rest =>
      rw [replace_append _ _ _ proper, List.append_assoc] at begins
      have early : word <+: front := prefix_of_prefix_append_cons absent front begins
      exact early.trans ⟨back ++ rest, by rw [List.append_assoc]⟩
    | other c rest other ih =>
      rw [replace_cons_of_not _ _ _ _ other] at begins
      cases word with
      | nil => exact List.nil_prefix
      | cons d word =>
        obtain ⟨rfl, later⟩ := List.cons_prefix_cons.mp begins
        rw [List.mem_cons, not_or] at absent
        exact List.cons_prefix_cons.mpr ⟨rfl, ih absent.2 later⟩

end

theorem infix_of_infix_append {first : Char} {back word rest : List Char}
    (opens : word.head? = some first) (behind : first ∉ back) (inside : word <:+: back ++ rest) :
    word <:+: rest := by
  induction back with
  | nil => exact inside
  | cons c back ih =>
    rw [List.mem_cons, not_or] at behind
    rcases List.infix_cons_iff.mp inside with begins | later
    · obtain ⟨others, rfl⟩ := List.head?_eq_some_iff.mp opens
      exact absurd (List.cons_prefix_cons.mp begins).1 behind.1
    · exact ih behind.2 later

/-- A word that cannot begin behind the gap stands nowhere in a broken text, if it is what was
broken or stood nowhere before. -/
theorem not_infix_broken {front back word : List Char} {gap first : Char} (absent : gap ∉ word)
    (opens : word.head? = some first) (behind : first ∉ back) (long : ¬ word <:+: front)
    {text : List Char} (clear : word = front ++ back ∨ ¬ word <:+: text) :
    ¬ word <:+: replace (front ++ back) (front ++ gap :: back) text := by
  have filled : word ≠ [] := by
    rintro rfl
    cases opens
  by_cases proper : front ++ back = []
  · rcases clear with same | nowhere
    · exact absurd (same.trans proper) filled
    · rwa [replace, if_pos proper]
  · induction text using replace_induction proper with
    | nil => simpa using filled
    | found rest ih =>
      have later : word = front ++ back ∨ ¬ word <:+: rest :=
        clear.imp_right (mt fun inside => inside.trans (List.suffix_append _ _).isInfix)
      rw [replace_append _ _ _ proper, List.append_assoc, List.cons_append,
        infix_append_cons_iff absent filled]
      rintro (before | after)
      · exact long before
      · exact ih later (infix_of_infix_append opens behind after)
    | other c rest other ih =>
      have later : word = front ++ back ∨ ¬ word <:+: rest :=
        clear.imp_right (mt fun inside => inside.trans (List.suffix_cons _ _).isInfix)
      have kept := replace_cons_of_not (front ++ back) (front ++ gap :: back) c rest other
      rw [kept, List.infix_cons_iff]
      rintro (begins | inside)
      · rw [← kept] at begins
        have early := prefix_of_prefix_broken absent begins
        rcases clear with same | nowhere
        · exact other (same ▸ early)
        · exact nowhere early.isInfix
      · exact ih later inside

namespace Link

/-- The zero width space that breaks a link. -/
def gap : Char := '\u200B'

def colon : List Char := "://".toList

/-- The text with every link of a scheme broken before its colon. -/
def broken (scheme text : List Char) : List Char :=
  replace (scheme ++ colon) (scheme ++ gap :: colon) text

theorem defuse_eq (text : List Char) :
    defuse text = broken "https".toList (broken "http".toList text) :=
  rfl

theorem filter_broken (scheme text : List Char) :
    (broken scheme text).filter (· ≠ gap) = text.filter (· ≠ gap) :=
  filter_replace (by simp) text

theorem sublist_broken (scheme text : List Char) : text.Sublist (broken scheme text) :=
  sublist_replace ((List.sublist_cons_self gap colon).append_left scheme) text

theorem broken_append_newline {scheme : List Char} (inline : '\n' ∉ scheme)
    (before behind : List Char) : broken scheme (before ++ '\n' :: behind) =
      broken scheme before ++ '\n' :: broken scheme behind := by
  have absent : '\n' ∉ scheme ++ colon := by
    simp [inline, colon]
  exact replace_append_cons absent _ before behind

theorem broken_of_not_mem {scheme text : List Char} (absent : '/' ∉ text) :
    broken scheme text = text := by
  apply replace_of_not_infix
  intro inside
  exact absent (inside.subset (by simp [colon]))

theorem not_plain_infix_defuse (text : List Char) : ¬ plain <:+: defuse text := by
  have opens : plain.head? = some 'h' := by decide
  have first : ¬ plain <:+: broken "http".toList text :=
    not_infix_broken (by decide) opens (by decide) (by decide) (Or.inl rfl)
  rw [defuse_eq]
  exact not_infix_broken (by decide) opens (by decide) (by decide) (Or.inr first)

theorem not_secure_infix_defuse (text : List Char) : ¬ secure <:+: defuse text := by
  have opens : secure.head? = some 'h' := by decide
  rw [defuse_eq]
  exact not_infix_broken (by decide) opens (by decide) (by decide) (Or.inl rfl)

theorem defuse_defuse (text : List Char) : defuse (defuse text) = defuse text := by
  rw [defuse, replace_of_not_infix _ (not_plain_infix_defuse text),
    replace_of_not_infix _ (not_secure_infix_defuse text)]

theorem filter_defuse (text : List Char) :
    (defuse text).filter (· ≠ gap) = text.filter (· ≠ gap) := by
  rw [defuse_eq, filter_broken, filter_broken]

theorem sublist_defuse (text : List Char) : text.Sublist (defuse text) := by
  rw [defuse_eq]
  exact (sublist_broken _ text).trans (sublist_broken _ _)

/-- What stands before a line break is defused apart from what stands behind it. -/
theorem defuse_append_newline (before behind : List Char) :
    defuse (before ++ '\n' :: behind) = defuse before ++ '\n' :: defuse behind := by
  simp only [defuse_eq]
  rw [broken_append_newline (by decide), broken_append_newline (by decide)]

/-- Lines are defused one by one, and a heading without a slash is kept. -/
theorem defuse_lines {heading : List Char} (plainly : '/' ∉ heading) (lines : List (List Char)) :
    defuse (heading ++ '\n' :: lines.flatMap (· ++ ['\n'])) =
      heading ++ '\n' :: lines.flatMap fun line => defuse (line ++ ['\n']) := by
  have rest : defuse (lines.flatMap (· ++ ['\n'])) =
      lines.flatMap fun line => defuse (line ++ ['\n']) := by
    induction lines with
    | nil => rfl
    | cons line lines ih =>
      have ended : defuse (line ++ ['\n']) = defuse line ++ ['\n'] := defuse_append_newline line []
      rw [List.flatMap_cons, List.flatMap_cons, List.append_assoc, List.singleton_append,
        defuse_append_newline, ih, ended, List.append_assoc, List.singleton_append]
  have kept : defuse heading = heading := by
    rw [defuse_eq, broken_of_not_mem plainly, broken_of_not_mem plainly]
  rw [defuse_append_newline, kept, rest]

end Link

end Text

namespace Reply

open Text.Link (plain secure gap)

theorem header_eq (count : Nat) :
    ∃ heading, (header count).toList = heading ++ ['\n'] ∧ '/' ∉ heading := by
  refine ⟨_, String.toList_append, ?_⟩
  have digits : '/' ∉ (toString count).toList := by
    intro member
    have digit := Nat.isDigit_of_mem_toDigits (by decide) (by decide) (Nat.toList_repr ▸ member)
    exact absurd digit (by decide)
  have noun : '/' ∉ (if count = 1 then " match." else " matches.").toList := by
    split <;> decide
  simp only [fence, String.toList_append, List.mem_append, not_or]
  exact ⟨⟨by decide, ⟨by decide, digits⟩, noun⟩, by decide⟩

theorem line_eq (row : Row) (pattern : String) :
    ∃ body, (line row pattern).toList = body ++ ['\n'] :=
  ⟨_, String.toList_append⟩

/-- A listing is defused line by line below its header. -/
theorem text_listed (count : Nat) (rows : List Row) (pattern : String) (displayRows : UInt64) :
    (ofOutcome (.listed count rows) pattern displayRows).text =
      header count ++ String.join (rows.map fun row => defuseLinks (line row pattern)) := by
  obtain ⟨heading, above, plainly⟩ := header_eq count
  choose body ended using fun row => line_eq row pattern
  have lines := Text.Link.defuse_lines plainly (rows.map body)
  apply String.toList_inj.mp
  simp only [ofOutcome, defuseLinks, String.toList_ofList, String.toList_append, String.toList_join,
    List.flatMap_map, ended, above, List.append_assoc, List.singleton_append] at lines ⊢
  exact lines

/-- Defusing leaves no link in a text and changes nothing else: doing it again changes nothing, the
text is kept within the result, and without zero width spaces the two are the same. A listing is
defused line by line below its header, so none of its links is left, whoever wrote it. -/
theorem defuses_links :
    (∀ text, let defused := defuseLinks text
      ¬ plain <:+: defused.toList ∧ ¬ secure <:+: defused.toList ∧
      defuseLinks defused = defused ∧ text.toList.Sublist defused.toList ∧
      defused.toList.filter (· ≠ gap) = text.toList.filter (· ≠ gap)) ∧
    ∀ count rows pattern displayRows,
      let reply := ofOutcome (.listed count rows) pattern displayRows
      reply.text =
        header count ++ String.join (rows.map fun row => defuseLinks (line row pattern)) ∧
      ¬ plain <:+: reply.text.toList ∧ ¬ secure <:+: reply.text.toList := by
  have each (text : String) : (defuseLinks text).toList = Text.Link.defuse text.toList :=
    String.toList_ofList
  have unlinked (text : String) :
      ¬ plain <:+: (defuseLinks text).toList ∧ ¬ secure <:+: (defuseLinks text).toList := by
    rw [each]
    exact ⟨Text.Link.not_plain_infix_defuse _, Text.Link.not_secure_infix_defuse _⟩
  refine ⟨?_, ?_⟩
  · intro text defused
    obtain ⟨noPlain, noSecure⟩ := unlinked text
    refine ⟨noPlain, noSecure, ?_, ?_, ?_⟩
    · rw [← String.toList_inj, each, each, Text.Link.defuse_defuse]
    · rw [each]
      exact Text.Link.sublist_defuse _
    · rw [each, Text.Link.filter_defuse]
  · intro count rows pattern displayRows reply
    exact ⟨text_listed count rows pattern displayRows, unlinked _⟩

end Reply

end ChatLog
