import ChatLog.Proofs.Condition
import ChatLog.Proofs.Grammar

/-!
What keeps a search from listing the whole log. Every reference that is resolved stands for
somebody, every channel word names a channel and every word of a message is a text, so a request
that asks for anything comes to criteria that name a user, a channel or a text, and its condition
opens with them. A request that asks for none of these is refused before anybody is looked up, and
no other is refused so: a lookup that fails is a failure of its own kind, whatever was answered to
it.
-/
namespace ChatLog

theorem isEmpty_ofList (ids : List Id) : (IdSet.ofList ids).isEmpty ↔ ids = [] := by
  rw [IdSet.isEmpty, List.isEmpty_iff, List.eq_nil_iff_forall_not_mem,
    List.eq_nil_iff_forall_not_mem]
  simp only [IdSet.mem_toList, IdSet.mem_ofList]

namespace Request

namespace Part

/-- A word that names no user, no channel and no text: the empty word, a range or a recency. -/
def NamesNothing (word : String) : Prop :=
  word = "" ∨ word.toList.head? = some '*' ∨ word.toList.head? = some '~'

instance (word : String) : Decidable (NamesNothing word) :=
  inferInstanceAs (Decidable (_ ∨ _ ∨ _))

theorem namesNothing_iff (word : String) :
    NamesNothing word ↔
      kindOf word ≠ .users ∧ kindOf word ≠ .channels ∧ kindOf word ≠ .message := by
  unfold NamesNothing kindOf
  rw [← String.toList_eq_nil_iff]
  split <;> simp_all [List.head?_eq_some_iff]

theorem ne_empty_of_message {word : String} (message : kindOf word = .message) : word ≠ "" := by
  rintro rfl
  cases message

theorem read_names {word : String} {part : Part} (done : read word = .ok part) :
    (part.kind = .users → part.references ≠ []) ∧ (part.kind = .channels → part.ids ≠ []) := by
  cases read_eq_iff.mp done with
  | users opens pieces named => exact ⟨fun _ => named, nofun⟩
  | channels opens pieces mentions =>
    refine ⟨nofun, fun _ => ?_⟩
    rintro (rfl : _ = [])
    rw [List.forall₂_nil_right_iff.mp mentions] at pieces
    have bare := List.forall₂_nil_right_iff.mp pieces
    rw [← Text.parts_eq_splitOn] at bare
    exact Text.parts_ne_nil _ _ bare
  | _ => exact ⟨nofun, nofun⟩

end Part

section

variable {words : List String} (readable : ∀ word ∈ words, ∃ part, Part.read word = .ok part)

include readable

theorem users_ofReadable_eq_nil :
    (ofReadable words).users = [] ↔ ∀ word ∈ words, Part.kindOf word ≠ .users := by
  rw [ofReadable, List.flatMap_eq_nil_iff]
  refine forall₂_congr fun word member => ?_
  obtain ⟨part, done⟩ := readable word member
  have named := (Part.read_names done).1
  rw [Part.ofWord_eq done, ← (Part.read_ok done).1]
  cases part <;> simp_all [Part.references, Part.kind]

theorem isEmpty_channels_ofReadable :
    (ofReadable words).channels.isEmpty ↔ ∀ word ∈ words, Part.kindOf word ≠ .channels := by
  rw [ofReadable, isEmpty_ofList, List.flatMap_eq_nil_iff]
  refine forall₂_congr fun word member => ?_
  obtain ⟨part, done⟩ := readable word member
  have named := (Part.read_names done).2
  rw [Part.ofWord_eq done, ← (Part.read_ok done).1]
  cases part <;> simp_all [Part.ids, Part.kind]

/-- A request that can be read asks for a user, a channel or a text exactly when some word does. -/
theorem isSearchable_ofReadable :
    (ofReadable words).isSearchable = false ↔ ∀ word ∈ words, Part.NamesNothing word := by
  have texts : (ofReadable words).words = [] ↔ ∀ word ∈ words, Part.kindOf word ≠ .message := by
    simp [ofReadable, List.filter_eq_nil_iff]
  simp only [isSearchable, Bool.or_eq_false_iff, Bool.not_eq_false', List.isEmpty_iff,
    users_ofReadable_eq_nil readable, isEmpty_channels_ofReadable readable, texts,
    Part.namesNothing_iff]
  constructor
  · rintro ⟨⟨users, channels⟩, texts⟩ word member
    exact ⟨users word member, channels word member, texts word member⟩
  · intro nothing
    exact ⟨⟨fun word member => (nothing word member).1,
      fun word member => (nothing word member).2.1⟩,
      fun word member => (nothing word member).2.2⟩

end

theorem message_ne_empty {request : Request} (texts : request.words ≠ [])
    (proper : ∀ word ∈ request.words, word ≠ "") : request.message ≠ "" := by
  unfold message
  cases words : request.words with
  | nil => exact absurd words texts
  | cons first others =>
    have here := proper first (by simp [words])
    cases others with
    | nil => simpa using here
    | cons next others => simp [String.intercalate_cons_cons, here]

theorem foundFor_ne_nil {directory : Directory} {limit : UInt64} {reference : String}
    (resolved : ∃ ids, idsOf directory limit reference = .ok ids) :
    foundFor directory limit reference ≠ [] := by
  obtain ⟨ids, found⟩ := resolved
  rw [foundFor, found]
  unfold idsOf at found
  split at found
  · cases found
    simp
  · split at found
    · cases found
    · cases found
    · rename_i somebody _
      cases found
      exact somebody

theorem flatMap_foundFor_ne_nil {directory : Directory} {limit : UInt64} {references : List String}
    (resolved : ∀ reference ∈ references, ∃ ids, idsOf directory limit reference = .ok ids)
    (asked : references ≠ []) : references.flatMap (foundFor directory limit) ≠ [] := by
  rw [Ne, List.flatMap_eq_nil_iff]
  intro nobody
  obtain ⟨reference, member⟩ := List.exists_mem_of_ne_nil _ asked
  exact foundFor_ne_nil (resolved reference member) (nobody reference member)

/-- Finding users passes on what was answered to a lookup that was made and failed. -/
theorem findUsers_told_iff {cause : Failure} (directory : Directory) (limit : UInt64)
    (references : List String) (known : IdSet) :
    (findUsers directory limit references known).2 = .error (.told cause) ↔
      ∃ lookup ∈ (findUsers directory limit references known).1,
        directory lookup = .error cause := by
  induction references generalizing known with
  | nil => simp [findUsers]
  | cons reference references ih =>
    unfold findUsers
    cases mention : Mention.user? reference.toList with
    | some id => exact ih _
    | none =>
      cases answer : directory (lookupFor (nameOf reference) limit) with
      | error told => simp [answer]
      | ok ids =>
        cases ids with
        | nil => simp [answer]
        | cons first others =>
          have later := ih (known.insertAll (first :: others))
          simpa [answer] using later

theorem findUsers_ne_refused (directory : Directory) (limit : UInt64) (references : List String)
    (known : IdSet) :
    (findUsers directory limit references known).2 ≠ .error .nothingToSearch := by
  intro refused
  rw [findUsers_eq] at refused
  split at refused
  · rename_i failure failed
    cases refused
    obtain ⟨reference, _, answer⟩ := firstFailure_eq_some failed
    rcases idsOf_failsOnly directory limit reference _ answer with unknown | ⟨cause, told, _⟩
    · cases unknown
    · cases told
  · cases refused

/-- A request is refused as asking for nothing exactly when it does. -/
theorem resolve_refused_iff (request : Request) (directory : Directory) (settings : Settings) :
    (request.resolve directory settings).2 = .error .nothingToSearch ↔
      request.isSearchable = false := by
  unfold resolve
  cases request.isSearchable with
  | false => simp
  | true =>
    have proper := findUsers_ne_refused directory settings.fuzzyLimit request.users .empty
    simp only [if_true, Bool.true_eq_false, iff_false]
    intro refused
    cases found : (findUsers directory settings.fuzzyLimit request.users .empty).2 with
    | ok users => simp [found, Except.map] at refused
    | error failure =>
      rw [found] at proper
      simp only [found, Except.map, Except.error.injEq] at refused
      exact proper (congrArg _ refused)

theorem resolve_told_iff (request : Request) (directory : Directory) (settings : Settings)
    (cause : Failure) :
    (request.resolve directory settings).2 = .error (.told cause) ↔
      ∃ lookup ∈ (request.resolve directory settings).1, directory lookup = .error cause := by
  unfold resolve
  cases request.isSearchable with
  | false => simp
  | true =>
    simp only [if_true, ← findUsers_told_iff]
    cases (findUsers directory settings.fuzzyLimit request.users .empty).2 <;> simp [Except.map]

theorem resolve_ok_names {request : Request} {directory : Directory} {settings : Settings}
    {criteria : Criteria} (proper : ∀ word ∈ request.words, word ≠ "")
    (resolved : (request.resolve directory settings).2 = .ok criteria) :
    ¬ criteria.users.isEmpty ∨ ¬ criteria.channels.isEmpty ∨ criteria.message ≠ "" := by
  rw [resolve_eq] at resolved
  split at resolved
  · rename_i searchable
    split at resolved
    · cases resolved
    · rename_i found
      cases resolved
      simp only [isSearchable, Bool.or_eq_true, Bool.not_eq_true', List.isEmpty_eq_false_iff]
        at searchable
      rcases searchable with (users | channels) | words
      · left
        rw [criteria, isEmpty_ofList]
        exact flatMap_foundFor_ne_nil ((firstFailure_eq_none _ _).mp found) users
      · exact Or.inr (Or.inl (by simp [criteria, channels]))
      · exact Or.inr (Or.inr (message_ne_empty words proper))
  · cases resolved

end Request

namespace Query

/-- The query's condition starts with a factor, written out and joined to what is left. -/
def OpensWith (query : Query) (factor : Factor Param) : Prop :=
  ∃ others, query.clause = factor :: others ∧
    query.condition = factor.text ++ conjunction ++ (Clause.text others ++ Statement.order)

/-- The query's condition starts with a group that has one alternative for each of the ids. -/
def OpensWithAny (query : Query) (column : Column) (ids : IdSet) : Prop :=
  ∃ first others, ids.toList = first :: others ∧
    query.OpensWith (.either (.equals column (.id first))
      (others.map fun id => .equals column (.id id)))

theorem opensWith_of_head? {query : Query} {factor : Factor Param}
    (opened : query.clause.head? = some factor) (more : query.clause.tail ≠ []) :
    query.OpensWith factor := by
  obtain ⟨others, clause⟩ := List.head?_eq_some_iff.mp opened
  refine ⟨others, clause, ?_⟩
  rw [condition, clause]
  rw [clause, List.tail_cons] at more
  obtain ⟨next, others, rfl⟩ := List.exists_cons_of_ne_nil more
  rw [Clause.text_cons, List.append_assoc]

/-- The group or text that is named first in criteria opens the condition. -/
theorem ofCriteria_opens {criteria : Criteria} (origin : Origin) (settings : Settings)
    (named : ¬ criteria.users.isEmpty ∨ ¬ criteria.channels.isEmpty ∨ criteria.message ≠ "") :
    let query := ofCriteria criteria origin settings
    query.OpensWithAny .author criteria.users ∨ query.OpensWithAny .channel criteria.channels ∨
      query.OpensWith (.one (.like (.text (Text.Wildcard.containing criteria.message)))) := by
  intro query
  simp only [IdSet.isEmpty, List.isEmpty_iff] at named
  have opens {factor : Factor Param} (first : (wanted criteria).head? = some factor) :
      query.OpensWith factor := by
    obtain ⟨others, asked⟩ := List.head?_eq_some_iff.mp first
    apply opensWith_of_head? <;> simp [query, ofCriteria, asked, excluded]
  cases users : criteria.users.toList with
  | cons first others =>
    left
    exact ⟨first, others, users, opens (by simp [wanted, anyOf, users])⟩
  | nil =>
    cases channels : criteria.channels.toList with
    | cons first others =>
      right; left
      exact ⟨first, others, channels, opens (by simp [wanted, anyOf, users, channels])⟩
    | nil =>
      right; right
      have text : criteria.message ≠ "" := by simpa [users, channels] using named
      exact opens (by simp [wanted, anyOf, users, channels, text])

end Query

end ChatLog
