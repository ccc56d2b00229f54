import ChatLog.Proofs.Numerals

/-!
Which texts are mentions. There are three ways to open one, and behind each of them the digits of an
id are read alike, up to the closing bracket that ends the text. So an id is read back from however
many digits it is written in, and nothing but marks and digits stands in a mention.
-/
namespace ChatLog

namespace Numeral

theorem digits64?_zeros (zeros : Nat) {digits : List Char} (filled : digits ≠ [])
    (proper : ∀ c ∈ digits, c.isDigit) :
    digits64? (List.replicate zeros '0' ++ digits) = digits64? digits := by
  have all := List.forall_mem_append.mpr ⟨isDigit_replicate zeros, proper⟩
  have same : natural? (List.replicate zeros '0' ++ digits) = natural? digits := by
    rw [natural?_eq all (by simp [filled]), natural?_eq proper filled, Nat.ofDigitChars_append,
      Nat.ofDigitChars_replicate_zero, Nat.mul_zero]
  rw [digits64?, same, ← digits64?]

theorem digits64?_large {digits : List Char} (filled : digits ≠ [])
    (proper : ∀ c ∈ digits, c.isDigit) (large : UInt64.size ≤ Nat.ofDigitChars 10 digits 0) :
    digits64? digits = none := by
  rw [digits64?, natural?_eq proper filled, Option.bind_some, if_neg (Nat.not_lt.mpr large)]

end Numeral

namespace Mention

/-- The ways to open a mention, each with the reader of the mentions that open so. -/
inductive Opens : List Char → (List Char → Option UInt64) → Prop
  | user : Opens ['<', '@'] user?
  | nickname : Opens ['<', '@', '!'] user?
  | channel : Opens ['<', '#'] channel?

/-- The characters of mentions that are no digits. -/
def marks : List Char := ['<', '@', '!', '#', '>']

variable {opening : List Char} {read : List Char → Option UInt64}

theorem Opens.read_digits (opens : Opens opening read) {digits : List Char}
    (proper : ∀ c ∈ digits, c.isDigit) :
    read (opening ++ (digits ++ ['>'])) = Numeral.digits64? digits := by
  rw [← closing?_digits proper]
  cases opens with
  | user => exact user?_digits proper
  | nickname => rfl
  | channel => rfl

theorem Opens.marked (opens : Opens opening read) : ∀ c ∈ opening, c ∈ marks := by
  cases opens <;> simp [marks]

theorem Opens.isDigit_or_mark (opens : Opens opening read) {text : List Char} {id : UInt64}
    (named : Names opening text id) : ∀ c ∈ text, c.isDigit ∨ c ∈ marks := by
  obtain ⟨digits, rfl, decimal⟩ := named
  intro c member
  rcases List.mem_append.mp member with opened | rest
  · exact Or.inr (opens.marked c opened)
  · rcases List.mem_append.mp rest with digit | closed
    · exact Or.inl (decimal.proper c digit)
    · rw [List.mem_singleton.mp closed]
      exact Or.inr (by decide)

theorem Opens.exists_names (opens : Opens opening read) {text : List Char} {id : UInt64}
    (found : read text = some id) : ∃ opening, Opens opening read ∧ Names opening text id := by
  cases opens with
  | user | nickname =>
    rcases user?_eq_some_iff.mp found with bare | nick
    · exact ⟨_, .user, bare⟩
    · exact ⟨_, .nickname, nick⟩
  | channel => exact ⟨_, .channel, channel?_eq_some_iff.mp found⟩

theorem Opens.read_eq_none (opens : Opens opening read) {text : List Char} {c : Char}
    (member : c ∈ text) (other : ¬ c.isDigit) (unmarked : c ∉ marks) : read text = none := by
  cases found : read text with
  | none => rfl
  | some id =>
    obtain ⟨_, opened, named⟩ := opens.exists_names found
    rcases opened.isDigit_or_mark named c member with digit | mark
    · exact absurd digit other
    · exact absurd mark unmarked

theorem channel?_eq_none {text : List Char} {id : UInt64} (user : user? text = some id) :
    channel? text = none := by
  rcases user?_eq_some_iff.mp user with ⟨digits, rfl, _⟩ | ⟨digits, rfl, _⟩ <;> rfl

/-- A text is read as a mention of an id if and only if it is an opening, one or more digits whose
value is the id, and the closing bracket. So every id is read back from the mention that is written
for it, zeros in front of the digits do not matter, and digits whose value is beyond 64 bits are no
mention. No text mentions both a user and a channel, and none is a mention that has any other
character in it: a sign, a digit of another script, or a line break at its end. -/
theorem mentions_exact :
    (∀ text id, user? text = some id ↔
      Names ['<', '@'] text id ∨ Names ['<', '@', '!'] text id) ∧
    (∀ text id, channel? text = some id ↔ Names ['<', '#'] text id) ∧
    (∀ opening read, Opens opening read →
      (∀ id : UInt64, read (opening ++ ((toString id).toList ++ ['>'])) = some id) ∧
      ∀ digits, digits ≠ [] → (∀ c ∈ digits, c.isDigit) →
        (∀ zeros, read (opening ++ (List.replicate zeros '0' ++ digits ++ ['>'])) =
          read (opening ++ (digits ++ ['>']))) ∧
        (UInt64.size ≤ Nat.ofDigitChars 10 digits 0 → read (opening ++ (digits ++ ['>'])) = none)) ∧
    (∀ text, user? text = none ∨ channel? text = none) ∧
    ∀ text, (∃ c ∈ text, ¬ c.isDigit ∧ c ∉ marks) → user? text = none ∧ channel? text = none := by
  refine ⟨fun _ _ => user?_eq_some_iff, fun _ _ => channel?_eq_some_iff, ?_, ?_, ?_⟩
  · intro opening read opens
    refine ⟨?_, ?_⟩
    · intro id
      have decimal := Numeral.isDecimal_toString id
      rw [opens.read_digits decimal.proper, Numeral.digits64?_eq_some_iff.mpr decimal]
    · intro digits filled proper
      refine ⟨?_, ?_⟩
      · intro zeros
        have all := List.forall_mem_append.mpr ⟨Numeral.isDigit_replicate zeros, proper⟩
        rw [opens.read_digits all, opens.read_digits proper,
          Numeral.digits64?_zeros zeros filled proper]
      · intro large
        rw [opens.read_digits proper, Numeral.digits64?_large filled proper large]
  · intro text
    cases user : user? text with
    | none => exact Or.inl rfl
    | some id => exact Or.inr (channel?_eq_none user)
  · rintro text ⟨c, member, other, unmarked⟩
    exact ⟨Opens.user.read_eq_none member other unmarked,
      Opens.channel.read_eq_none member other unmarked⟩

/-- A nickname's mention with zeros, the smallest number that is too large, and a line break. -/
theorem mentions_exact_nickname :
    user? "<@!00042>".toList = user? "<@!42>".toList ∧
      UInt64.size ≤ Nat.ofDigitChars 10 "18446744073709551616".toList 0 ∧
      user? "<@!18446744073709551616>".toList = none ∧
      '\n' ∈ "<@!42>\n".toList ∧ user? "<@!42>\n".toList = none := by
  obtain ⟨_, reads⟩ := mentions_exact.2.2.1 _ _ .nickname
  have few : ∀ c ∈ "42".toList, c.isDigit := List.all_eq_true.mp (by decide)
  have many : ∀ c ∈ "18446744073709551616".toList, c.isDigit := List.all_eq_true.mp (by decide)
  have large : UInt64.size ≤ Nat.ofDigitChars 10 "18446744073709551616".toList 0 := by decide
  have zeros := (reads "42".toList (by decide) few).1 3
  have unread := (reads "18446744073709551616".toList (by decide) many).2 large
  have broken : '\n' ∈ "<@!42>\n".toList := by decide
  have other := mentions_exact.2.2.2.2 "<@!42>\n".toList ⟨'\n', broken, by decide, by decide⟩
  exact ⟨zeros, large, unread, broken, other.1⟩

end Mention

end ChatLog
