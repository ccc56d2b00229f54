import ChatLog.Proofs.Emphasis
import Mathlib.Logic.Function.Iterate

/-!
The passes of stripping and what they touch. Passes shorten the text until one of them changes
nothing, so there are no more of them than characters, and then no pattern with a mark before it is
left. Neither a pass nor the marks that are put in afterwards touch anything but asterisks.
-/
namespace ChatLog

namespace Text.Emphasis

/-- Stripping is a number of passes of which each shortens the text. -/
theorem strip_eq_iterate (pattern text : List Char) :
    ∃ passes, strip pattern text = (stripOnce pattern)^[passes] text ∧
      (strip pattern text).length + passes ≤ text.length ∧
      ∀ earlier < passes, ((stripOnce pattern)^[earlier + 1] text).length <
        ((stripOnce pattern)^[earlier] text).length := by
  induction text using strip.induct pattern with
  | case1 text same =>
    have done : strip pattern text = text := by rw [strip, if_pos same]
    exact ⟨0, done, by rw [done]; omega, fun _ before => absurd before (Nat.not_lt_zero _)⟩
  | case2 text changed ih =>
    obtain ⟨passes, ran, few, falls⟩ := ih
    have shorter := (stripOnce_eq_or_shorter pattern text).resolve_left changed
    have next : strip pattern text = strip pattern (stripOnce pattern text) := by
      rw [strip.eq_def pattern text, if_neg changed]
    refine ⟨passes + 1, next.trans ran, by rw [next]; omega, ?_⟩
    intro earlier before
    cases earlier with
    | zero => exact shorter
    | succ earlier => exact falls earlier (Nat.lt_of_succ_lt_succ before)

/-- The characters that marks are not made of. -/
def isOther (c : Char) : Bool :=
  c ≠ '*'

theorem filter_opened (pattern : List Char) :
    (opened pattern).filter isOther = pattern.filter isOther := by
  simp [opened, mark, isOther]

theorem filter_wrapped (pattern : List Char) :
    (wrapped pattern).filter isOther = pattern.filter isOther := by
  simp [wrapped, mark, isOther]

theorem filter_stripOnce (pattern text : List Char) :
    (stripOnce pattern text).filter isOther = text.filter isOther := by
  rw [stripOnce, filter_replace (filter_opened pattern).symm,
    filter_replace (filter_wrapped pattern).symm]

theorem filter_strip (pattern text : List Char) :
    (strip pattern text).filter isOther = text.filter isOther := by
  induction text using strip.induct pattern with
  | case1 text same => rw [strip, if_pos same]
  | case2 text changed ih => rw [strip, if_neg changed, ih, filter_stripOnce]

theorem filter_highlight (text pattern : List Char) :
    (highlight text pattern).filter isOther = text.filter isOther := by
  by_cases empty : pattern = []
  · rw [highlight, if_pos empty]
  · rw [highlight, if_neg empty, filter_replace (filter_wrapped pattern), filter_strip]

end Text.Emphasis

namespace Reply

open Text.Emphasis (opened strip stripOnce)

/-- Every pass of stripping that changes the text shortens it, so that after no more passes than
there are characters nothing changes any more; then no pattern with a mark before it is left. And
highlighting keeps every character but the asterisks, in its order. -/
theorem highlight_passes :
    (∀ pattern text : List Char, pattern ≠ [] →
      (stripOnce pattern text ≠ text → (stripOnce pattern text).length < text.length) ∧
      (∃ passes ≤ text.length, strip pattern text = (stripOnce pattern)^[passes] text ∧
        (∀ earlier < passes, ((stripOnce pattern)^[earlier + 1] text).length <
          ((stripOnce pattern)^[earlier] text).length) ∧
        (stripOnce pattern)^[passes + 1] text = (stripOnce pattern)^[passes] text) ∧
      ¬ opened pattern <:+: strip pattern text) ∧
    ∀ text pattern : String,
      (highlight text pattern).toList.filter (· ≠ '*') = text.toList.filter (· ≠ '*') := by
  refine ⟨?_, ?_⟩
  · intro pattern text _
    refine ⟨(Text.Emphasis.stripOnce_eq_or_shorter pattern text).resolve_left, ?_,
      Text.Emphasis.opened_not_infix_strip pattern text⟩
    obtain ⟨passes, ran, few, falls⟩ := Text.Emphasis.strip_eq_iterate pattern text
    refine ⟨passes, by omega, ran, falls, ?_⟩
    rw [Function.iterate_succ_apply', ← ran]
    exact Text.Emphasis.stripOnce_strip pattern text
  · intro text pattern
    rw [highlight, String.toList_ofList]
    exact Text.Emphasis.filter_highlight text.toList pattern.toList

/-- Three passes, of which each makes the occurrence that the next one finds. -/
theorem highlight_passes_nested :
    let pattern := "a*".toList
    let text := "****a**a*".toList
    pattern ≠ [] ∧ stripOnce pattern text ≠ text ∧
      (stripOnce pattern text).length < text.length ∧
      (stripOnce pattern)^[3] text = "aa*".toList ∧ strip pattern text = "aa*".toList ∧
      ¬ opened pattern <:+: strip pattern text ∧
      (highlight "****a**a*" "a*").toList.filter (· ≠ '*') = "aa".toList := by
  intro pattern text
  have proper : pattern ≠ [] := by decide
  have changed : stripOnce pattern text ≠ text := by decide +kernel
  obtain ⟨shortens, _, clean⟩ := highlight_passes.1 pattern text proper
  refine ⟨proper, changed, shortens changed, by decide +kernel, by decide +kernel, clean, ?_⟩
  rw [highlight_passes.2]
  decide

end Reply

end ChatLog
