import ChatLog.Proofs.Request
import ChatLog.Proofs.Stages

/-!
The order of words. Which words there are, the order among the words of the message, the last range
and the last recency word are all that a query is told by. Users and channels can be named again
anywhere.
-/
namespace ChatLog

namespace Request

def namesIds (word : String) : Bool :=
  Part.kindOf word = .users || Part.kindOf word = .channels

/-- Requests that differ at most in the order in which users are referred to, and how often. -/
structure Alike (left right : Request) : Prop where
  users : ∀ reference, reference ∈ left.users ↔ reference ∈ right.users
  channels : left.channels = right.channels
  seconds : left.seconds = right.seconds
  words : left.words = right.words
  span : left.span = right.span

/-- Words among which nothing that counts differs. -/
structure SameWords (words others : List String) : Prop where
  members : ∀ word, word ∈ words ↔ word ∈ others
  message : words.filter (Part.kindOf · = .message) = others.filter (Part.kindOf · = .message)
  recency : (words.filter (Part.kindOf · = .recency)).getLast? =
    (others.filter (Part.kindOf · = .recency)).getLast?
  span : (words.filter (Part.kindOf · = .span)).getLast? =
    (others.filter (Part.kindOf · = .span)).getLast?

theorem mem_flatMap_congr {α β : Type} (expand : α → List β) {items others : List α}
    (members : ∀ item, item ∈ items ↔ item ∈ others) (result : β) :
    result ∈ items.flatMap expand ↔ result ∈ others.flatMap expand := by
  rw [List.mem_flatMap, List.mem_flatMap]
  exact exists_congr fun item => by rw [members item]

theorem ofList_flatMap_congr {α : Type} (expand : α → List Id) {items others : List α}
    (members : ∀ item, item ∈ items ↔ item ∈ others) :
    IdSet.ofList (items.flatMap expand) = IdSet.ofList (others.flatMap expand) := by
  apply IdSet.ext
  intro id
  rw [IdSet.mem_ofList, IdSet.mem_ofList]
  exact mem_flatMap_congr expand members id

namespace Alike

variable {left right : Request} (alike : left.Alike right)

include alike

theorem isSearchable : left.isSearchable = right.isSearchable := by
  have alone : left.users.isEmpty = right.users.isEmpty := by
    rw [Bool.eq_iff_iff, List.isEmpty_iff, List.isEmpty_iff, List.eq_nil_iff_forall_not_mem,
      List.eq_nil_iff_forall_not_mem]
    exact forall_congr' fun reference => by rw [alike.users reference]
  rw [Request.isSearchable, Request.isSearchable, alone, alike.channels, alike.words]

theorem criteria (settings : Settings) (users : IdSet) :
    left.criteria settings users = right.criteria settings users := by
  rw [Request.criteria, Request.criteria, message, message, alike.channels, alike.seconds,
    alike.words, alike.span]

theorem resolve_congr (directory : Directory) (settings : Settings)
    (first : firstFailure (idsOf directory settings.fuzzyLimit) left.users =
      firstFailure (idsOf directory settings.fuzzyLimit) right.users) :
    (left.resolve directory settings).2 = (right.resolve directory settings).2 := by
  have found := ofList_flatMap_congr (foundFor directory settings.fuzzyLimit) alike.users
  rw [resolve_eq, resolve_eq, alike.isSearchable, first, found, alike.criteria]

/-- Which reference fails first may differ, but not whether one does. -/
theorem resolve_ok (directory : Directory) (settings : Settings) {criteria : Criteria}
    (resolved : (left.resolve directory settings).2 = .ok criteria) :
    (right.resolve directory settings).2 = .ok criteria := by
  have known := firstFailure_none_congr (idsOf directory settings.fuzzyLimit) alike.users
  cases first : firstFailure (idsOf directory settings.fuzzyLimit) left.users with
  | none =>
    rw [← alike.resolve_congr directory settings (first.trans (known.mp first).symm)]
    exact resolved
  | some failure =>
    rw [resolve_eq, first] at resolved
    split at resolved <;> cases resolved

end Alike

namespace SameWords

variable {words others : List String}

theorem ofReadable (same : SameWords words others) :
    (ofReadable words).Alike (ofReadable others) where
  users := mem_flatMap_congr _ same.members
  channels := ofList_flatMap_congr _ same.members
  seconds := by rw [Request.ofReadable, Request.ofReadable, same.recency]
  words := same.message
  span := by rw [Request.ofReadable, Request.ofReadable, same.span]

theorem symm (same : SameWords words others) : SameWords others words :=
  ⟨fun word => (same.members word).symm, same.message.symm, same.recency.symm, same.span.symm⟩

theorem filter_namesIds (kind : Part.Kind) (users : kind ≠ .users) (channels : kind ≠ .channels)
    (words : List String) :
    (words.filter (!namesIds ·)).filter (Part.kindOf · = kind) =
      words.filter (Part.kindOf · = kind) := by
  rw [List.filter_filter]
  apply List.filter_congr
  intro word _
  by_cases announced : Part.kindOf word = kind
  · simp [namesIds, announced, users, channels]
  · simp [announced]

theorem of_repeated (members : ∀ word, word ∈ words ↔ word ∈ others)
    (rest : words.filter (!namesIds ·) = others.filter (!namesIds ·)) : SameWords words others := by
  have kept (kind : Part.Kind) (users : kind ≠ .users) (channels : kind ≠ .channels) :
      words.filter (Part.kindOf · = kind) = others.filter (Part.kindOf · = kind) := by
    rw [← filter_namesIds kind users channels words, rest, filter_namesIds kind users channels]
  constructor
  · exact members
  · exact kept .message (by decide) (by decide)
  · rw [kept .recency (by decide) (by decide)]
  · rw [kept .span (by decide) (by decide)]

theorem of_again {before again : List String} (known : ∀ word ∈ again, word ∈ before)
    (ids : ∀ word ∈ again, namesIds word) (behind : List String) :
    SameWords (before ++ again ++ behind) (before ++ behind) := by
  apply of_repeated
  · intro word
    have there := known word
    simp only [List.mem_append]
    tauto
  · have gone : again.filter (!namesIds ·) = [] := by
      rw [List.filter_eq_nil_iff]
      intro word member
      simp [ids word member]
    rw [List.filter_append, List.filter_append, List.filter_append, gone, List.append_nil]

end SameWords

end Request

namespace Query

theorem ofWords_eq (directory : Directory) (settings : Settings) (origin : Origin)
    (words : List String) :
    ofWords directory settings origin words =
      match firstFailure Request.Part.read words with
      | some failure => .error failure
      | none => ((Request.ofReadable words).resolve directory settings).2.map
          fun criteria => ofCriteria criteria origin settings := by
  rw [ofWords, Request.ofWords_eq]
  cases firstFailure Request.Part.read words with
  | some failure => rfl
  | none =>
    simp only [bind, Except.bind]
    cases ((Request.ofReadable words).resolve directory settings).2 <;> rfl

theorem ofWords_same (directory : Directory) (settings : Settings) (origin : Origin)
    {words others : List String} (same : Request.SameWords words others) {query : Query}
    (compiled : ofWords directory settings origin words = .ok query) :
    ofWords directory settings origin others = .ok query := by
  obtain ⟨request, criteria, read, resolved, rfl⟩ := ofWords_ok compiled
  rw [Request.ofWords_eq] at read
  have readable := firstFailure_none_congr Request.Part.read same.members
  cases failed : firstFailure Request.Part.read words with
  | some failure =>
    rw [failed] at read
    cases read
  | none =>
    rw [failed] at read
    cases read
    rw [ofWords_eq, readable.mp failed]
    simp only [same.ofReadable.resolve_ok directory settings resolved, Except.map]

theorem ofWords_again (directory : Directory) (settings : Settings) (origin : Origin)
    {before again : List String} (known : ∀ word ∈ again, word ∈ before)
    (ids : ∀ word ∈ again, Request.namesIds word) (behind : List String) :
    ofWords directory settings origin (before ++ again ++ behind) =
      ofWords directory settings origin (before ++ behind) := by
  have alike := (Request.SameWords.of_again known ids behind).ofReadable
  have references : ∀ reference ∈ (Request.ofReadable again).users,
      reference ∈ (Request.ofReadable before).users := by
    intro reference member
    obtain ⟨word, found, written⟩ := List.mem_flatMap.mp member
    exact List.mem_flatMap.mpr ⟨word, known word found, written⟩
  have first := firstFailure_again (Request.idsOf directory settings.fuzzyLimit) references
    (Request.ofReadable behind).users
  -- equal first failures carry over to the references, so the failures are equal as well
  rw [ofWords_eq, ofWords_eq, firstFailure_again _ known, alike.resolve_congr]
  simp only [Request.ofReadable, List.flatMap_append] at first ⊢
  exact first

/-- A query is told by which words there are, the order of the words of the message, the last range
and the last recency word. Whatever the order, it is one query or none. Users and channels that are
named again change nothing, and where they come again later not even the failure. -/
theorem ofWords_order (directory : Directory) (settings : Settings) (origin : Origin) :
    (∀ words others : List String, words.Perm others →
      words.filter (Request.Part.kindOf · = .message) =
        others.filter (Request.Part.kindOf · = .message) →
      (words.filter (Request.Part.kindOf · = .recency)).getLast? =
        (others.filter (Request.Part.kindOf · = .recency)).getLast? →
      (words.filter (Request.Part.kindOf · = .span)).getLast? =
        (others.filter (Request.Part.kindOf · = .span)).getLast? →
      ∀ query, ofWords directory settings origin words = .ok query ↔
        ofWords directory settings origin others = .ok query) ∧
    (∀ words others : List String, (∀ word, word ∈ words ↔ word ∈ others) →
      words.filter (!Request.namesIds ·) = others.filter (!Request.namesIds ·) →
      ∀ query, ofWords directory settings origin words = .ok query ↔
        ofWords directory settings origin others = .ok query) ∧
    ∀ before again behind : List String, (∀ word ∈ again, word ∈ before) →
      (∀ word ∈ again, Request.namesIds word) →
      ofWords directory settings origin (before ++ again ++ behind) =
        ofWords directory settings origin (before ++ behind) := by
  have both {words others : List String} (same : Request.SameWords words others) (query : Query) :
      ofWords directory settings origin words = .ok query ↔
        ofWords directory settings origin others = .ok query := by
    constructor
    · exact ofWords_same directory settings origin same
    · exact ofWords_same directory settings origin same.symm
  refine ⟨?_, ?_, ?_⟩
  · intro words others perm message recency span
    exact both ⟨fun _ => perm.mem_iff, message, recency, span⟩
  · intro words others members rest
    exact both (.of_repeated members rest)
  · intro before again behind known ids
    exact ofWords_again directory settings origin known ids behind

/-- One search in two orders and with a channel named twice, and a failure that stays the same. -/
theorem ofWords_order_shuffled :
    let compile := ofWords (fun _ => .ok [3]) .builtIn ⟨0, 0, 0⟩
    let query : Query :=
      ⟨[.either (.equals .author (.id 3)) [.equals .author (.id 5)],
        .either (.equals .channel (.id 7)) [], .one (.like (.text "%hello world%")),
        .one (.newer (.int 5)), .one (.differs .message (.id 0)), .one (.differs .author (.id 0)),
        .one (.differs .channel (.id 0)), .one (.unlike (.text "!search %"))],
        .countOnly, "hello world"⟩
    compile ["hello", "@alice|<@5>", "<#7>", "*5", "~60", "world", "*", "~5"] = .ok query ∧
      compile ["*5", "~60", "<#7>", "~5", "*", "hello", "world", "@alice|<@5>"] = .ok query ∧
      compile ["<#7>", "hello", "@alice|<@5>", "<#7>", "*5", "~60", "world", "*", "~5"] =
        .ok query ∧
      compile (["@bob", "#bob"] ++ ["@bob"] ++ ["world"]) =
        compile (["@bob", "#bob"] ++ ["world"]) := by
  intro compile query
  have compiled : compile ["hello", "@alice|<@5>", "<#7>", "*5", "~60", "world", "*", "~5"] =
      .ok query := by cbv
  obtain ⟨permuted, repeated, again⟩ := ofWords_order (fun _ => .ok [3]) .builtIn ⟨0, 0, 0⟩
  refine ⟨compiled, ?_, ?_, ?_⟩
  · exact (permuted _ _ (by decide) (by decide) (by decide) (by decide) query).mp compiled
  · refine (repeated _ _ ?_ (by decide) query).mp compiled
    intro word
    simp only [List.mem_cons, List.not_mem_nil]
    tauto
  · exact again ["@bob", "#bob"] ["@bob"] ["world"] (by decide) (by decide)

end Query

end ChatLog
