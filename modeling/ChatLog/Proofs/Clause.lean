import ChatLog.Clause.Meaning
import ChatLog.Clause.Text

/-!
The test of a clause. A clause holds of a message when each of its factors does, and while every
pattern in it is short enough to be tested the test never fails: it gives what the comparisons say
by themselves. A written clause has as many question marks as it has places.
-/
namespace ChatLog

/-- Whether a value can be tested: a pattern must not be too long. -/
def Param.isTestable : Param → Bool
  | .text pattern => !Text.Wildcard.tooLong pattern
  | _ => true

def Message.resembles (message : Message) : Param → Bool
  | .text pattern => Text.Wildcard.fits pattern message.text
  | _ => false

theorem Message.fits_eq (message : Message) {pattern : Param} (testable : pattern.isTestable) :
    message.fits pattern = .ok (message.resembles pattern) := by
  cases pattern with
  | id _ => rfl
  | int _ => rfl
  | text pattern =>
    have short : Text.Wildcard.tooLong pattern = false := by simpa [Param.isTestable] using testable
    simp [Message.fits, Message.resembles, Store.matchesPattern, short]

namespace Comparison

/-- What a comparison says of a message, patterns of any length taken as they are. -/
def isMet (now : Moment) (message : Message) : Comparison Param → Bool
  | .equals column value => column.hasValue message value
  | .differs column value => !column.hasValue message value
  | .like pattern => message.resembles pattern
  | .unlike pattern => !message.resembles pattern
  | .newer seconds => message.isNewer now seconds

theorem holds_eq (now : Moment) (message : Message) (comparison : Comparison Param)
    (testable : comparison.place.isTestable) :
    comparison.holds now message = .ok (comparison.isMet now message) := by
  cases comparison with
  | equals _ _ => rfl
  | differs _ _ => rfl
  | like pattern => exact message.fits_eq testable
  | unlike pattern =>
    have short : pattern.isTestable := testable
    have tested := message.fits_eq short
    simp only [holds, tested, isMet]
    rfl
  | newer _ => rfl

theorem count_text {α : Type} (comparison : Comparison α) : comparison.text.count '?' = 1 := by
  cases comparison with
  | equals column _ => cases column <;> rfl
  | differs column _ => cases column <;> rfl
  | like _ => rfl
  | unlike _ => rfl
  | newer _ => rfl

end Comparison

theorem count_joined {α : Type} (word : List Char) (plain : word.count '?' = 0)
    (comparisons : List (Comparison α)) :
    (joined word comparisons).count '?' = comparisons.length := by
  induction comparisons with
  | nil => rfl
  | cons comparison others ih =>
    have split : joined word (comparison :: others) =
        word ++ (comparison.text ++ joined word others) := by simp [joined]
    rw [split, List.count_append, List.count_append, plain, comparison.count_text, ih]
    simp only [List.length_cons]
    omega

namespace Factor

def isMet (now : Moment) (message : Message) (factor : Factor Param) : Bool :=
  factor.comparisons.any (Comparison.isMet now message)

theorem holds_eq (now : Moment) (message : Message) (factor : Factor Param)
    (testable : ∀ value ∈ factor.places, value.isTestable) :
    factor.holds now message = .ok (factor.isMet now message) := by
  unfold holds isMet
  unfold places at testable
  generalize factor.comparisons = comparisons at testable
  induction comparisons with
  | nil => rfl
  | cons comparison others ih =>
    have first := comparison.holds_eq now message (testable _ (by simp))
    have rest := ih fun value member => testable value (by simp_all)
    simp only [List.anyM_cons, List.any_cons, first]
    cases comparison.isMet now message with
    | true => rfl
    | false => exact rest

theorem holds_one (now : Moment) (message : Message) (comparison : Comparison Param) :
    (one comparison).holds now message = comparison.holds now message := by
  simp only [holds, comparisons, List.anyM_cons, List.anyM_nil]
  cases comparison.holds now message with
  | error _ => rfl
  | ok met => cases met <;> rfl

theorem count_text {α : Type} (factor : Factor α) :
    factor.text.count '?' = factor.places.length := by
  cases factor with
  | one comparison => simp [text, places, comparisons, comparison.count_text]
  | either first others =>
    have alternatives := count_joined disjunction (by decide) others
    simp [text, places, comparisons, first.count_text, alternatives]
    omega

end Factor

namespace Clause

def isMet (now : Moment) (clause : Clause Param) (message : Message) : Bool :=
  clause.all (Factor.isMet now message)

/-- A clause holds exactly when each factor does, whatever a factor after a false one would do. -/
theorem holds_iff (now : Moment) (clause : Clause Param) (message : Message) :
    clause.holds now message = .ok true ↔
      ∀ factor ∈ clause, factor.holds now message = .ok true := by
  unfold holds
  induction clause with
  | nil => simp [pure, Except.pure]
  | cons factor others ih =>
    simp only [List.allM_cons, List.forall_mem_cons, ← ih]
    cases factor.holds now message with
    | error failure => simp [bind, Except.bind]
    | ok met => cases met <;> simp [bind, Except.bind, pure, Except.pure]

theorem holds_eq (now : Moment) (clause : Clause Param) (message : Message)
    (testable : ∀ value ∈ clause.places, value.isTestable) :
    clause.holds now message = .ok (clause.isMet now message) := by
  unfold holds isMet
  induction clause with
  | nil => rfl
  | cons factor others ih =>
    have first := factor.holds_eq now message fun value member =>
      testable value (by simp [places, member])
    have rest := ih fun value member => testable value (by
      simp only [places, List.flatMap_cons, List.mem_append]
      exact Or.inr member)
    simp only [List.allM_cons, List.all_cons, first]
    cases factor.isMet now message with
    | true => exact rest
    | false => rfl

theorem count_text {α : Type} (clause : Clause α) :
    clause.text.count '?' = clause.places.length := by
  cases clause with
  | nil => rfl
  | cons first others =>
    have later : (others.flatMap fun factor => conjunction ++ factor.text).count '?' =
        (places others).length := by
      induction others with
      | nil => rfl
      | cons factor others ih =>
        have plain : conjunction.count '?' = 0 := by decide
        simp only [List.flatMap_cons, places, List.count_append, List.length_append, plain,
          factor.count_text] at ih ⊢
        omega
    simp only [text, places, List.flatMap_cons, List.count_append, List.length_append,
      first.count_text] at later ⊢
    omega

end Clause

end ChatLog
