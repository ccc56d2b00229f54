import ChatLog.Proofs.Grammar

/-!
How the references of a request are resolved. A mention is taken for its id and every other
reference is asked for by name, in order, until a name finds nobody; then that is the failure and
nothing more is asked. Otherwise the users are all who are mentioned and all who are found.
-/
namespace ChatLog.Request

def Mentions (reference : String) (id : Id) : Prop :=
  Mention.Names ['<', '@'] reference.toList id ∨ Mention.Names ['<', '@', '!'] reference.toList id

theorem mention_eq_some_iff {reference : String} {id : Id} :
    Mention.user? reference.toList = some id ↔ Mentions reference id :=
  Mention.user?_eq_some_iff

/-- A reference that is a mention of somebody; any other is a name. -/
def IsMention (reference : String) : Prop :=
  ∃ id, Mentions reference id

instance : DecidablePred IsMention := fun reference =>
  decidable_of_iff (Mention.user? reference.toList).isSome <| by
    rw [Option.isSome_iff_exists]
    exact exists_congr fun _ => mention_eq_some_iff

theorem mention_eq_none {reference : String} (name : ¬ IsMention reference) :
    Mention.user? reference.toList = none := by
  rw [Option.eq_none_iff_forall_ne_some]
  exact fun id found => name ⟨id, mention_eq_some_iff.mp found⟩

/-- The names among references, each without one `@` in front. -/
def namesIn (references : List String) : List String :=
  (references.filter (¬ IsMention ·)).map nameOf

/-- Whether a directory finds anybody for a lookup. -/
def finds (directory : Directory) (lookup : Lookup) : Bool :=
  match directory lookup with
  | .ok ids => !ids.isEmpty
  | .error _ => false

/-- The ids that a directory finds for a name, unless it fails or finds nobody. -/
def idsFor (directory : Directory) (limit : UInt64) (name : String) : Except Failure (List Id) :=
  match directory (lookupFor name limit) with
  | .error failure => .error (.told failure)
  | .ok [] => .error (.unknownUser name)
  | .ok ids => .ok ids

/-- Items up to the first that does not pass, and that one too. -/
def through {α : Type} (passes : α → Bool) : List α → List α
  | [] => []
  | item :: items => item :: if passes item then through passes items else []

section

variable {directory : Directory} {limit : UInt64}

theorem idsFor_ok_iff {name : String} {ids : List Id} :
    idsFor directory limit name = .ok ids ↔
      directory (lookupFor name limit) = .ok ids ∧ ids ≠ [] := by
  unfold idsFor
  cases directory (lookupFor name limit) with
  | error failure => simp
  | ok found =>
    cases found with
    | nil => simp +contextual
    | cons first others =>
      simp only [Except.ok.injEq, iff_self_and]
      rintro rfl
      simp

theorem idsFor_error_iff {name : String} {failure : Failure} :
    idsFor directory limit name = .error failure ↔
      (∃ cause, directory (lookupFor name limit) = .error cause ∧ failure = .told cause) ∨
        directory (lookupFor name limit) = .ok [] ∧ failure = .unknownUser name := by
  unfold idsFor
  cases directory (lookupFor name limit) with
  | error other => simp [eq_comm]
  | ok found => cases found <;> simp [eq_comm]

theorem exists_idsFor_iff {name : String} :
    (∃ ids, idsFor directory limit name = .ok ids) ↔
      finds directory (lookupFor name limit) = true := by
  simp only [idsFor_ok_iff]
  unfold finds
  cases directory (lookupFor name limit) <;> simp

theorem idsOf_mention {reference : String} {id : Id} (mention : Mentions reference id) :
    idsOf directory limit reference = .ok [id] := by
  rw [idsOf, mention_eq_some_iff.mpr mention]

theorem idsOf_name {reference : String} (name : ¬ IsMention reference) :
    idsOf directory limit reference = idsFor directory limit (nameOf reference) := by
  rw [idsOf, mention_eq_none name]
  rfl

theorem namesIn_cons_mention {reference : String} (mention : IsMention reference)
    (references : List String) : namesIn (reference :: references) = namesIn references := by
  simp [namesIn, mention]

theorem namesIn_cons_name {reference : String} (name : ¬ IsMention reference)
    (references : List String) :
    namesIn (reference :: references) = nameOf reference :: namesIn references := by
  simp [namesIn, name]

theorem firstFailure_idsOf (references : List String) :
    firstFailure (idsOf directory limit) references =
      firstFailure (idsFor directory limit) (namesIn references) := by
  induction references with
  | nil => rfl
  | cons reference references ih =>
    by_cases mention : IsMention reference
    · obtain ⟨id, carried⟩ := mention
      rw [firstFailure_cons_ok _ (idsOf_mention carried), ih,
        namesIn_cons_mention ⟨id, carried⟩]
    · have same : idsOf directory limit reference = idsFor directory limit (nameOf reference) :=
        idsOf_name mention
      rw [namesIn_cons_name mention]
      cases found : idsFor directory limit (nameOf reference) with
      | error failure =>
        rw [firstFailure_cons_error _ (same.trans found), firstFailure_cons_error _ found]
      | ok ids => rw [firstFailure_cons_ok _ (same.trans found), firstFailure_cons_ok _ found, ih]

theorem findUsers_lookups (references : List String) (known : IdSet) :
    (findUsers directory limit references known).1 =
      through (finds directory) ((namesIn references).map (lookupFor · limit)) := by
  induction references generalizing known with
  | nil => rfl
  | cons reference references ih =>
    unfold findUsers
    by_cases mention : IsMention reference
    · obtain ⟨id, carried⟩ := mention
      rw [namesIn_cons_mention ⟨id, carried⟩, mention_eq_some_iff.mpr carried]
      exact ih _
    · rw [namesIn_cons_name mention, mention_eq_none mention, List.map_cons, through]
      cases answer : directory (lookupFor (nameOf reference) limit) with
      | error failure => simp [finds, answer]
      | ok ids =>
        cases ids with
        | nil => simp [finds, answer]
        | cons first others => simp [finds, answer, ih]

theorem mem_foundFor {reference : String} {id : Id} :
    id ∈ foundFor directory limit reference ↔ Mentions reference id ∨ ¬ IsMention reference ∧
      ∃ ids, directory (lookupFor (nameOf reference) limit) = .ok ids ∧ id ∈ ids := by
  by_cases mention : IsMention reference
  · obtain ⟨other, carried⟩ := mention
    have only : Mentions reference id ↔ id = other := by
      rw [← mention_eq_some_iff, mention_eq_some_iff.mpr carried, Option.some.injEq, eq_comm]
    have is : IsMention reference := ⟨other, carried⟩
    simp [foundFor, idsOf_mention carried, only, is]
  · have never : ¬ Mentions reference id := fun carried => mention ⟨id, carried⟩
    simp only [foundFor, idsOf_name mention, never, false_or, mention, not_false_iff, true_and]
    unfold idsFor
    cases directory (lookupFor (nameOf reference) limit) with
    | error failure => simp
    | ok ids => cases ids <;> simp

theorem exists_mem_foundFor_iff {references : List String} {id : Id} :
    (∃ reference ∈ references, id ∈ foundFor directory limit reference) ↔
      (∃ reference ∈ references, Mentions reference id) ∨
        ∃ name ∈ namesIn references, ∃ ids,
          directory (lookupFor name limit) = .ok ids ∧ id ∈ ids := by
  simp only [mem_foundFor, namesIn, List.mem_map, List.mem_filter, decide_eq_true_iff]
  constructor
  · rintro ⟨reference, member, carried | ⟨name, found⟩⟩
    · exact Or.inl ⟨reference, member, carried⟩
    · exact Or.inr ⟨_, ⟨reference, ⟨member, name⟩, rfl⟩, found⟩
  · rintro (⟨reference, member, carried⟩ | ⟨_, ⟨reference, ⟨member, name⟩, rfl⟩, found⟩)
    · exact ⟨reference, member, Or.inl carried⟩
    · exact ⟨reference, member, Or.inr ⟨name, found⟩⟩

end

theorem mem_of_mem_through {α : Type} {passes : α → Bool} {items : List α} {item : α}
    (reached : item ∈ through passes items) : item ∈ items := by
  induction items with
  | nil => exact reached
  | cons first items ih =>
    rcases List.mem_cons.mp reached with rfl | later
    · exact List.mem_cons_self
    · split at later
      · exact List.mem_cons_of_mem _ (ih later)
      · cases later

theorem nameOf_ne_empty {reference : String} (named : reference ∉ ["", "@", "<@"]) :
    nameOf reference ≠ "" := by
  unfold nameOf
  split
  · rename_i name opens
    intro bare
    rw [← String.toList_eq_nil_iff, String.toList_ofList] at bare
    subst bare
    exact named (by simp [← String.toList_inj, opens])
  · rintro rfl
    exact named (by decide)

/-- Words that make a request refer to nobody by an empty name. -/
theorem reference_of_words {words : List String} {request : Request}
    (read : ofWords words = .ok request) {reference : String} (member : reference ∈ request.users) :
    reference ∉ ["", "@", "<@"] := by
  rw [ofWords_eq] at read
  split at read <;> cases read
  obtain ⟨word, _, written⟩ := List.mem_flatMap.mp member
  cases done : Part.read word with
  | error failure =>
    rw [Part.ofWord, done] at written
    cases written
  | ok part =>
    rw [Part.ofWord_eq done] at written
    cases Part.read_eq_iff.mp done with
    | users opens pieces _ => exact of_decide_eq_true (List.mem_filter.mp written).2
    | _ => cases written

section

variable {request : Request} (searchable : request.isSearchable = true) (directory : Directory)
  (settings : Settings)

include searchable

theorem resolve_ok_iff_of_names (criteria : Criteria) :
    (request.resolve directory settings).2 = .ok criteria ↔
      firstFailure (idsFor directory settings.fuzzyLimit) (namesIn request.users) = none ∧
        request.criteria settings
          (.ofList (request.users.flatMap (foundFor directory settings.fuzzyLimit))) =
            criteria := by
  rw [resolve_eq, if_pos searchable, firstFailure_idsOf]
  cases firstFailure (idsFor directory settings.fuzzyLimit) (namesIn request.users) <;> simp

theorem resolve_error_iff_of_names (failure : Failure) :
    (request.resolve directory settings).2 = .error failure ↔
      firstFailure (idsFor directory settings.fuzzyLimit) (namesIn request.users) =
        some failure := by
  rw [resolve_eq, if_pos searchable, firstFailure_idsOf]
  cases firstFailure (idsFor directory settings.fuzzyLimit) (namesIn request.users) <;> simp

end

/-- The lookups of a request that asks for something are those for its names, in order and up to
the first that finds nobody. There is an answer exactly when no name does that, and then the users
are all who are mentioned and all who are found, and the rest is carried over. Otherwise the failure
is the directory's, passed on, or that nobody is known by the name. Words ask for no empty name. -/
theorem resolve_unites {request : Request} (searchable : request.isSearchable = true)
    (directory : Directory) (settings : Settings) :
    let lookup (name : String) : Lookup := ⟨"%" ++ name ++ "%", settings.fuzzyLimit, 0⟩
    let names := namesIn request.users
    let lookups := (request.resolve directory settings).1
    let answer := (request.resolve directory settings).2
    lookups = through (finds directory) (names.map lookup) ∧
      ((∃ criteria, answer = .ok criteria) ↔ ∀ name ∈ names, finds directory (lookup name)) ∧
      (∀ criteria, answer = .ok criteria →
        (∀ id, id ∈ criteria.users ↔ (∃ reference ∈ request.users, Mentions reference id) ∨
          ∃ name ∈ names, ∃ ids, directory (lookup name) = .ok ids ∧ id ∈ ids) ∧
        criteria.channels = request.channels ∧ criteria.seconds = request.seconds ∧
        criteria.message = " ".intercalate request.words ∧
        criteria.span = request.span.getD (.newest settings.displayRows)) ∧
      (∀ failure, answer = .error failure ↔
        ∃ before name behind, names = before ++ name :: behind ∧
          (∀ earlier ∈ before, finds directory (lookup earlier)) ∧
          ((∃ cause, directory (lookup name) = .error cause ∧ failure = .told cause) ∨
            directory (lookup name) = .ok [] ∧ failure = .unknownUser name)) ∧
      ∀ words, ofWords words = .ok request →
        (∀ name ∈ names, name ≠ "") ∧ ∀ made ∈ lookups, made.pattern ≠ "%%" := by
  intro lookup names lookups answer
  have asked : lookups = through (finds directory) (names.map lookup) := by
    simp only [lookups, resolve, searchable, if_true]
    exact findUsers_lookups request.users .empty
  have found (name : String) : (∃ ids, idsFor directory settings.fuzzyLimit name = .ok ids) ↔
      finds directory (lookup name) = true := exists_idsFor_iff
  refine ⟨asked, ?_, ?_, ?_, ?_⟩
  · have every := firstFailure_eq_none (idsFor directory settings.fuzzyLimit) names
    simp only [found] at every
    simp only [answer, resolve_ok_iff_of_names searchable, exists_and_left, exists_eq', and_true]
    exact every
  · intro criteria resolved
    obtain ⟨_, rfl⟩ := (resolve_ok_iff_of_names searchable directory settings criteria).mp resolved
    refine ⟨?_, rfl, rfl, rfl, rfl⟩
    intro id
    rw [criteria, IdSet.mem_ofList, List.mem_flatMap]
    exact exists_mem_foundFor_iff
  · intro failure
    rw [resolve_error_iff_of_names searchable, firstFailure_eq_some_iff]
    simp only [found, idsFor_error_iff]
    exact Iff.rfl
  · intro words read
    have proper : ∀ name ∈ names, name ≠ "" := by
      intro name member
      obtain ⟨reference, kept, rfl⟩ := List.mem_map.mp member
      exact nameOf_ne_empty (reference_of_words read (List.mem_of_mem_filter kept))
    refine ⟨proper, ?_⟩
    intro made reached
    obtain ⟨name, member, rfl⟩ := List.mem_map.mp (mem_of_mem_through (asked ▸ reached))
    intro bare
    have empty : name.toList = [] := by
      have texts := congrArg String.toList bare
      simpa [lookup] using texts
    exact proper name member (String.toList_eq_nil_iff.mp empty)

/-- A name and a mention that are resolved, and a mention whose id fits no word, which is looked up
as a name that nobody has. -/
theorem resolve_unites_mention :
    let directory : Directory := fun lookup => .ok (if lookup.pattern = "%bob%" then [9, 3] else [])
    let known : Request := ⟨["@bob", "<@!42>"], .empty, none, [], none⟩
    let unknown : Request :=
      ⟨["bob", "<@!42>", "<@99999999999999999999>", "@carol"], .empty, none, [], none⟩
    known.isSearchable ∧ unknown.isSearchable ∧
      (∃ criteria, (known.resolve directory .builtIn).2 = .ok criteria ∧ 3 ∈ criteria.users ∧
        42 ∈ criteria.users) ∧
      unknown.resolve directory .builtIn =
        ([⟨"%bob%", 20, 0⟩, ⟨"%<@99999999999999999999>%", 20, 0⟩],
          .error (.unknownUser "<@99999999999999999999>")) := by
  intro directory known unknown
  have searchable : known.isSearchable := rfl
  have searched : unknown.isSearchable := rfl
  refine ⟨searchable, searched, ?_, ?_⟩
  · obtain ⟨_, answered, united, _⟩ := resolve_unites searchable directory .builtIn
    obtain ⟨criteria, resolved⟩ := answered.mpr (by decide +kernel)
    have members := (united criteria resolved).1
    refine ⟨criteria, resolved, (members 3).mpr (Or.inr ?_), (members 42).mpr (Or.inl ?_)⟩
    · exact ⟨"bob", by decide +kernel, [9, 3], rfl, by decide⟩
    · exact ⟨"<@!42>", by decide, mention_eq_some_iff.mp (by decide +kernel)⟩
  · obtain ⟨asked, _, _, failed, _⟩ := resolve_unites searched directory .builtIn
    apply Prod.ext
    · exact asked.trans (by decide +kernel)
    · refine (failed _).mpr ⟨["bob"], _, ["carol"], ?_, ?_, Or.inr ⟨rfl, rfl⟩⟩
      · decide +kernel
      · decide +kernel

end ChatLog.Request
