import ChatLog.Clause.Text
import ChatLog.Text.Parts

/-!
Reading a clause back from its written form. Every clause with at least one factor is read back as
its shape, whatever follows it, unless that goes on with another factor.
-/
namespace ChatLog

open Text (after? apart)

namespace Comparison

def shapes : List (Comparison Unit) :=
  [.equals .author (), .equals .channel (), .equals .message (), .differs .author (),
    .differs .channel (), .differs .message (), .like (), .unlike (), .newer ()]

def read? (text : List Char) : Option (Comparison Unit × List Char) :=
  shapes.findSome? fun shape => (after? shape.text text).map fun rest => (shape, rest)

theorem mem_shapes (shape : Comparison Unit) : shape ∈ shapes := by
  cases shape with
  | equals column _ => cases column <;> simp [shapes]
  | differs column _ => cases column <;> simp [shapes]
  | like _ => simp [shapes]
  | unlike _ => simp [shapes]
  | newer _ => simp [shapes]

/-- Two comparisons are written so that they differ at a place that both have. -/
theorem apart_text {shape other : Comparison Unit} (different : shape ≠ other) :
    apart shape.text other.text = true := by
  have all : ∀ a ∈ shapes, ∀ b ∈ shapes, a ≠ b → apart a.text b.text = true := by decide
  exact all shape (mem_shapes shape) other (mem_shapes other) different

theorem read?_text (shape : Comparison Unit) (rest : List Char) :
    read? (shape.text ++ rest) = some (shape, rest) := by
  unfold read?
  have member := mem_shapes shape
  generalize shapes = candidates at member
  induction candidates with
  | nil => simp at member
  | cons candidate candidates ih =>
    by_cases same : candidate = shape
    · simp [same]
    · have later : shape ∈ candidates := by simpa [Ne.symm same] using member
      simp [Text.after?_of_apart (apart_text same), ih later]

theorem after?_parenthesis_text {α : Type} (comparison : Comparison α) (rest : List Char) :
    after? ['('] (comparison.text ++ rest) = none := by
  apply Text.after?_of_apart
  cases comparison with
  | equals column _ => cases column <;> rfl
  | differs column _ => cases column <;> rfl
  | like _ => rfl
  | unlike _ => rfl
  | newer _ => rfl

end Comparison

namespace Factor

def readOthers : (most : Nat) → List Char → Option (List (Comparison Unit) × List Char)
  | 0, _ => none
  | most + 1, text =>
    match after? disjunction text with
    | none => (after? [')'] text).map fun rest => ([], rest)
    | some behind => do
      let (shape, rest) ← Comparison.read? behind
      let (others, left) ← readOthers most rest
      return (shape :: others, left)

def read? (text : List Char) : Option (Factor Unit × List Char) :=
  match after? ['('] text with
  | none => (Comparison.read? text).map fun (shape, rest) => (.one shape, rest)
  | some inside => do
    let (first, rest) ← Comparison.read? inside
    let (others, left) ← readOthers rest.length rest
    return (.either first others, left)

theorem readOthers_joined (others : List (Comparison Unit)) (rest : List Char) (most : Nat)
    (enough : others.length < most) :
    readOthers most (joined disjunction others ++ ')' :: rest) = some (others, rest) := by
  induction others generalizing most with
  | nil =>
    obtain ⟨less, rfl⟩ : ∃ less, most = less + 1 := ⟨most - 1, by simp at enough; omega⟩
    have closed : after? disjunction (')' :: rest) = none :=
      Text.after?_of_apart (show apart disjunction [')'] = true from rfl) rest
    simp [joined, readOthers, closed, after?]
  | cons shape others ih =>
    obtain ⟨less, rfl⟩ : ∃ less, most = less + 1 := ⟨most - 1, by simp at enough; omega⟩
    have split : joined disjunction (shape :: others) ++ ')' :: rest =
        disjunction ++ (shape.text ++ (joined disjunction others ++ ')' :: rest)) := by
      simp [joined]
    have fewer : others.length < less := by simp at enough; omega
    rw [split, readOthers, Text.after?_append]
    simp only [Comparison.read?_text, Option.bind_eq_bind, Option.bind_some, ih less fewer]
    rfl

theorem length_le_joined (others : List (Comparison Unit)) :
    others.length ≤ (joined disjunction others).length := by
  induction others with
  | nil => simp
  | cons shape others ih =>
    have split : joined disjunction (shape :: others) =
        disjunction ++ (shape.text ++ joined disjunction others) := by simp [joined]
    have word : disjunction.length = 4 := rfl
    simp only [split, List.length_append, List.length_cons, word]
    omega

theorem read?_text (factor : Factor Unit) (rest : List Char) :
    read? (factor.text ++ rest) = some (factor, rest) := by
  cases factor with
  | one shape =>
    simp [read?, text, Comparison.after?_parenthesis_text, Comparison.read?_text]
  | either first others =>
    have split : text (.either first others) ++ rest =
        ['('] ++ (first.text ++ (joined disjunction others ++ ')' :: rest)) := by
      simp [text]
    have enough : others.length < (joined disjunction others ++ ')' :: rest).length := by
      have := length_le_joined others
      simp only [List.length_append, List.length_cons]
      omega
    rw [split, read?, Text.after?_append]
    simp only [Comparison.read?_text, Option.bind_eq_bind, Option.bind_some,
      readOthers_joined others rest _ enough]
    rfl

end Factor

namespace Clause

def readFactors : (most : Nat) → List Char → Option (Clause Unit × List Char)
  | 0, _ => none
  | most + 1, text => do
    let (factor, rest) ← Factor.read? text
    match after? conjunction rest with
    | none => return ([factor], rest)
    | some behind =>
      let (others, left) ← readFactors most behind
      return (factor :: others, left)

def read? (text : List Char) : Option (Clause Unit × List Char) :=
  readFactors text.length text

theorem readFactors_text (factor : Factor Unit) (others : Clause Unit) (rest : List Char)
    (ends : after? conjunction rest = none) (most : Nat) (enough : others.length < most) :
    readFactors most (text (factor :: others) ++ rest) = some (factor :: others, rest) := by
  induction others generalizing factor most with
  | nil =>
    obtain ⟨less, rfl⟩ : ∃ less, most = less + 1 := ⟨most - 1, by simp at enough; omega⟩
    simp [readFactors, text, Factor.read?_text, ends]
  | cons next others ih =>
    obtain ⟨less, rfl⟩ : ∃ less, most = less + 1 := ⟨most - 1, by simp at enough; omega⟩
    have split : text (factor :: next :: others) ++ rest =
        factor.text ++ (conjunction ++ (text (next :: others) ++ rest)) := by
      simp [text_cons]
    have fewer : others.length < less := by simp at enough; omega
    rw [split, readFactors]
    simp [Factor.read?_text, ih next less fewer]

theorem length_lt_text (factor : Factor Unit) (others : Clause Unit) :
    others.length < (text (factor :: others)).length := by
  induction others generalizing factor with
  | nil =>
    have first : 0 < factor.text.length := by
      cases factor with
      | one shape =>
        have all : ∀ shape ∈ Comparison.shapes, 0 < shape.text.length := by decide
        exact all shape (Comparison.mem_shapes shape)
      | either first others => simp [Factor.text]
    simpa [text] using first
  | cons next others ih =>
    have later := ih next
    have word : conjunction.length = 5 := rfl
    simp only [text_cons, List.length_append, List.length_cons, word]
    omega

/-- A clause is read back as its shape from a text that does not go on with another factor. -/
theorem read?_text {α : Type} (clause : Clause α) (rest : List Char) (proper : clause ≠ [])
    (ends : after? conjunction rest = none) :
    read? (text clause ++ rest) = some (clause.shape, rest) := by
  obtain ⟨factor, others, shaped⟩ := List.exists_cons_of_ne_nil
    (show clause.shape ≠ [] by simpa [shape] using proper)
  rw [← text_shape, shaped, read?]
  apply readFactors_text factor others rest ends
  have size := length_lt_text factor others
  simp only [List.length_append]
  omega

end Clause

end ChatLog
