import ChatLog.Directory
import Mathlib.Data.List.Basic

/-!
What words ask for. Reading is a failure of the first word that cannot be read or else a request
put together from all of them, and resolving is a failure of the first reference that stands for
nobody or else the ids of all of them. Each field of a request is told by the words of one kind.
-/
namespace ChatLog

/-- The failure of the first item at which a step fails. -/
def firstFailure {α β : Type} (step : α → Except Failure β) (items : List α) : Option Failure :=
  items.findSome? fun item =>
    match step item with
    | .ok _ => none
    | .error failure => some failure

section

variable {α β : Type} (step : α → Except Failure β)

theorem firstFailure_cons_ok {item : α} {result : β} (done : step item = .ok result)
    (items : List α) : firstFailure step (item :: items) = firstFailure step items := by
  simp [firstFailure, done]

theorem firstFailure_cons_error {item : α} {failure : Failure} (failed : step item = .error failure)
    (items : List α) : firstFailure step (item :: items) = some failure := by
  simp [firstFailure, failed]

theorem firstFailure_eq_none (items : List α) :
    firstFailure step items = none ↔ ∀ item ∈ items, ∃ result, step item = .ok result := by
  rw [firstFailure, List.findSome?_eq_none_iff]
  refine forall₂_congr fun item _ => ?_
  cases step item <;> simp

theorem firstFailure_none_congr {items others : List α}
    (members : ∀ item, item ∈ items ↔ item ∈ others) :
    firstFailure step items = none ↔ firstFailure step others = none := by
  rw [firstFailure_eq_none, firstFailure_eq_none]
  exact forall_congr' fun item => by rw [members item]

theorem firstFailure_again {before again : List α} (known : ∀ item ∈ again, item ∈ before)
    (behind : List α) :
    firstFailure step (before ++ again ++ behind) = firstFailure step (before ++ behind) := by
  have split (first second : List α) : firstFailure step (first ++ second) =
      (firstFailure step first).or (firstFailure step second) := List.findSome?_append
  rw [split, split, split]
  cases failed : firstFailure step before with
  | some failure => rfl
  | none =>
    have done : firstFailure step again = none := by
      rw [firstFailure_eq_none] at failed ⊢
      intro item member
      exact failed item (known item member)
    rw [done]
    rfl

theorem mapM_eq (value : α → β) (agrees : ∀ item result, step item = .ok result →
    value item = result) (items : List α) :
    items.mapM step = match firstFailure step items with
      | some failure => .error failure
      | none => .ok (items.map value) := by
  induction items with
  | nil => rfl
  | cons item items ih =>
    rw [List.mapM_cons]
    cases done : step item with
    | error failure =>
      rw [firstFailure_cons_error step done]
      rfl
    | ok result =>
      rw [firstFailure_cons_ok step done, ih]
      cases firstFailure step items with
      | some failure => rfl
      | none =>
        rw [List.map_cons, agrees item result done]
        rfl

end

namespace Request

namespace Part

/-- What a word announces by its first characters. -/
inductive Kind where
  | blank
  | span
  | users
  | channels
  | recency
  | message
deriving DecidableEq, Repr

def kindOf (word : String) : Kind :=
  match word.toList with
  | [] => .blank
  | '*' :: _ => .span
  | '@' :: _ => .users
  | '<' :: '@' :: _ => .users
  | '#' :: _ => .channels
  | '<' :: '#' :: _ => .channels
  | '~' :: _ => .recency
  | _ => .message

def kind : Part → Kind
  | .blank => .blank
  | .span _ => .span
  | .users _ => .users
  | .channels _ => .channels
  | .recency _ => .recency
  | .message _ => .message

/-- The part that a word makes, if it can be read. -/
def ofWord (word : String) : Part :=
  match read word with
  | .ok part => part
  | .error _ => .blank

theorem ofWord_eq {word : String} {part : Part} (done : read word = .ok part) :
    ofWord word = part := by
  rw [ofWord, done]

def references : Part → List String
  | .users references => references
  | _ => []

def ids : Part → List Id
  | .channels ids => ids
  | _ => []

def seconds? : Part → Option Int
  | .recency seconds => some seconds
  | _ => none

def texts : Part → List String
  | .message word => [word]
  | _ => []

def asked? : Part → Option Span
  | .span asked => some asked
  | _ => none

/-- A part is of the kind that its word announces, and what is a word of the message is the word
itself. -/
theorem read_ok {word : String} {part : Part} (done : read word = .ok part) :
    part.kind = kindOf word ∧ part.texts = if kindOf word = .message then [word] else [] := by
  unfold read at done
  unfold kindOf
  split at done
  · cases done
    simp_all [kind, texts]
  · unfold readSpan at done
    split at done <;> cases done
    simp_all [kind, texts]
  · unfold readUsers at done
    split at done <;> cases done
    simp_all [kind, texts]
  · unfold readUsers at done
    split at done <;> cases done
    simp_all [kind, texts]
  · cases done
  · unfold readChannels at done
    cases found : (alternatives word).mapM readChannel with
    | error failure => simp [found, bind, Except.bind] at done
    | ok ids =>
      simp only [found, bind, Except.bind, pure, Except.pure, Except.ok.injEq] at done
      subst done
      simp_all [kind, texts]
  · unfold readRecency at done
    split at done
    · cases done
    · split at done <;> cases done
      simp_all [kind, texts]
  · cases done
    simp_all [kind, texts]

theorem isSome_seconds? {word : String} {part : Part} (done : read word = .ok part) :
    (ofWord word).seconds?.isSome = decide (kindOf word = .recency) := by
  rw [ofWord_eq done, ← (read_ok done).1]
  cases part <;> rfl

theorem isSome_asked? {word : String} {part : Part} (done : read word = .ok part) :
    (ofWord word).asked?.isSome = decide (kindOf word = .span) := by
  rw [ofWord_eq done, ← (read_ok done).1]
  cases part <;> rfl

end Part

theorem insertAll_append (first second : List Id) (ids : IdSet) :
    ids.insertAll (first ++ second) = (ids.insertAll first).insertAll second :=
  List.foldl_append

theorem foldl_add (parts : List Part) (request : Request) :
    parts.foldl add request =
      { users := request.users ++ parts.flatMap Part.references
        channels := request.channels.insertAll (parts.flatMap Part.ids)
        seconds := (parts.reverse.findSome? Part.seconds?).or request.seconds
        words := request.words ++ parts.flatMap Part.texts
        span := (parts.reverse.findSome? Part.asked?).or request.span } := by
  induction parts generalizing request with
  | nil => simp [IdSet.insertAll]
  | cons part parts ih =>
    rw [List.foldl_cons, ih]
    cases part <;>
      simp [add, Part.references, Part.ids, Part.seconds?, Part.texts, Part.asked?,
        insertAll_append, List.findSome?_append]

theorem findSome?_reverse_eq {α β : Type} (partial? : α → Option β) (defined : α → Bool)
    (items : List α) (agrees : ∀ item ∈ items, (partial? item).isSome = defined item) :
    items.reverse.findSome? partial? = (items.filter defined).getLast?.bind partial? := by
  induction items with
  | nil => rfl
  | cons item items ih =>
    have rest := ih fun other member => agrees other (List.mem_cons_of_mem _ member)
    have here := agrees item List.mem_cons_self
    rw [List.reverse_cons, List.findSome?_append, rest]
    cases kept : defined item with
    | false =>
      have nothing : partial? item = none := by simpa [kept] using here
      simp [kept, nothing]
    | true =>
      rw [List.filter_cons_of_pos kept, List.getLast?_cons]
      cases last : (items.filter defined).getLast? with
      | none => simp
      | some other =>
        have member := List.mem_filter.mp (List.mem_of_getLast? last)
        have later := agrees other (List.mem_cons_of_mem _ member.1)
        rw [member.2] at later
        obtain ⟨result, found⟩ := Option.isSome_iff_exists.mp later
        simp [found]

/-- The request that readable words make. -/
def ofReadable (words : List String) : Request where
  users := words.flatMap fun word => (Part.ofWord word).references
  channels := .ofList (words.flatMap fun word => (Part.ofWord word).ids)
  seconds := (words.filter (Part.kindOf · = .recency)).getLast?.bind fun word =>
    (Part.ofWord word).seconds?
  words := words.filter (Part.kindOf · = .message)
  span := (words.filter (Part.kindOf · = .span)).getLast?.bind fun word => (Part.ofWord word).asked?

theorem flatMap_texts {words : List String}
    (readable : ∀ word ∈ words, ∃ part, Part.read word = .ok part) :
    (words.flatMap fun word => (Part.ofWord word).texts) =
      words.filter (Part.kindOf · = .message) := by
  induction words with
  | nil => rfl
  | cons word words ih =>
    obtain ⟨part, done⟩ := readable word List.mem_cons_self
    rw [List.flatMap_cons, Part.ofWord_eq done, (Part.read_ok done).2,
      ih fun other member => readable other (List.mem_cons_of_mem _ member)]
    by_cases message : Part.kindOf word = .message <;> simp [message]

theorem foldl_ofWord {words : List String}
    (readable : ∀ word ∈ words, ∃ part, Part.read word = .ok part) :
    (words.map Part.ofWord).foldl add empty = ofReadable words := by
  have seconds := findSome?_reverse_eq (fun word => (Part.ofWord word).seconds?)
    (Part.kindOf · = .recency) words fun word member => by
      obtain ⟨part, done⟩ := readable word member
      exact Part.isSome_seconds? done
  have span := findSome?_reverse_eq (fun word => (Part.ofWord word).asked?)
    (Part.kindOf · = .span) words fun word member => by
      obtain ⟨part, done⟩ := readable word member
      exact Part.isSome_asked? done
  rw [foldl_add, ofReadable, List.flatMap_map, List.flatMap_map, List.flatMap_map,
    ← List.map_reverse, List.findSome?_map, List.findSome?_map, flatMap_texts readable]
  simp only [Function.comp_def, seconds, span, empty, List.nil_append, Option.or_none, IdSet.ofList]

/-- Words are read one after the other; the first that cannot be read ends that. -/
theorem ofWords_eq (words : List String) :
    ofWords words = match firstFailure Part.read words with
      | some failure => .error failure
      | none => .ok (ofReadable words) := by
  have read := mapM_eq Part.read Part.ofWord (fun _ _ => Part.ofWord_eq) words
  unfold ofWords
  rw [read]
  cases failed : firstFailure Part.read words with
  | some failure => rfl
  | none =>
    rw [← foldl_ofWord ((firstFailure_eq_none Part.read words).mp failed)]
    rfl

/-- The ids that a reference stands for: the one in a mention, or those found by name. -/
def idsOf (directory : Directory) (limit : UInt64) (reference : String) :
    Except Failure (List Id) :=
  match Mention.user? reference.toList with
  | some id => .ok [id]
  | none =>
    match directory (lookupFor (nameOf reference) limit) with
    | .error failure => .error (.told failure)
    | .ok [] => .error (.unknownUser (nameOf reference))
    | .ok ids => .ok ids

def foundFor (directory : Directory) (limit : UInt64) (reference : String) : List Id :=
  match idsOf directory limit reference with
  | .ok ids => ids
  | .error _ => []

/-- References are resolved one after the other; the first that stands for nobody ends that. -/
theorem findUsers_eq (directory : Directory) (limit : UInt64) (references : List String)
    (known : IdSet) :
    (findUsers directory limit references known).2 =
      match firstFailure (idsOf directory limit) references with
      | some failure => .error failure
      | none => .ok (known.insertAll (references.flatMap (foundFor directory limit))) := by
  induction references generalizing known with
  | nil => rfl
  | cons reference references ih =>
    have next {ids : List Id} (found : idsOf directory limit reference = .ok ids) :
        (known.insertAll ids).insertAll (references.flatMap (foundFor directory limit)) =
          known.insertAll ((reference :: references).flatMap (foundFor directory limit)) := by
      rw [List.flatMap_cons, insertAll_append, foundFor, found]
    unfold findUsers
    cases mention : Mention.user? reference.toList with
    | some id =>
      have found : idsOf directory limit reference = .ok [id] := by simp [idsOf, mention]
      rw [firstFailure_cons_ok _ found, ← next found]
      exact ih _
    | none =>
      cases answer : directory (lookupFor (nameOf reference) limit) with
      | error failure =>
        have failed : idsOf directory limit reference = .error (.told failure) := by
          simp [idsOf, mention, answer]
        rw [firstFailure_cons_error _ failed]
        simp [answer]
      | ok ids =>
        cases ids with
        | nil =>
          have failed : idsOf directory limit reference =
              .error (.unknownUser (nameOf reference)) := by
            simp [idsOf, mention, answer]
          rw [firstFailure_cons_error _ failed]
          simp [answer]
        | cons first others =>
          have found : idsOf directory limit reference = .ok (first :: others) := by
            simp [idsOf, mention, answer]
          rw [firstFailure_cons_ok _ found, ← next found]
          simpa [answer] using ih _

theorem resolve_eq (request : Request) (directory : Directory) (settings : Settings) :
    (request.resolve directory settings).2 =
      if request.isSearchable then
        match firstFailure (idsOf directory settings.fuzzyLimit) request.users with
        | some failure => .error failure
        | none => .ok (request.criteria settings
            (.ofList (request.users.flatMap (foundFor directory settings.fuzzyLimit))))
      else .error .nothingToSearch := by
  unfold resolve
  by_cases searchable : request.isSearchable = true
  · rw [if_pos searchable, if_pos searchable]
    have found := findUsers_eq directory settings.fuzzyLimit request.users .empty
    simp only [found]
    cases firstFailure (idsOf directory settings.fuzzyLimit) request.users <;> rfl
  · rw [if_neg searchable, if_neg searchable]

end Request

end ChatLog
