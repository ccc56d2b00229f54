import ChatLog.Proofs.Effects
import Mathlib.Data.List.Dedup

/-!
What a service keeps on its shelf over a whole run, in which tables are made and dropped between
the calls for statements. The texts on the shelf are those for which some call has had statements,
each once. A call for one of them needs no table; a call for another one puts its two statements
there or fails and leaves everything as it was.
-/
namespace ChatLog

/-- The query whose statements a step calls for. -/
def Step.query? : Step → Option Query
  | .prepare criteria origin settings => some (.ofCriteria criteria origin settings)
  | .run criteria origin settings => some (.ofCriteria criteria origin settings)
  | _ => none

theorem Step.query?_proper {step : Step} {query : Query} (called : step.query? = some query) :
    query.clause ≠ [] := by
  cases step <;> cases called <;> exact Query.ofCriteria_proper _ _ _

/-- Whether both statements of a query can be prepared from a store. -/
def Query.isReady (query : Query) (store : Store) : Bool :=
  store.hasTables query.listing && query.listing.height ≤ Statement.greatestHeight

namespace Shelf

def keys (shelf : Shelf) : List (List Char) :=
  shelf.kept.map Prod.fst

/-- A shelf keeps the statements for some texts, each of them once. -/
structure Records (shelf : Shelf) (texts : List (List Char)) : Prop where
  sound : shelf.Sound
  unique : shelf.keys.Nodup
  mem_keys : ∀ text, text ∈ shelf.keys ↔ text ∈ texts

theorem records_empty : empty.Records [] :=
  ⟨sound_empty, List.nodup_nil, fun _ => Iff.rfl⟩

theorem contains_iff (shelf : Shelf) (query : Query) :
    shelf.contains query = true ↔ query.paginated ∈ shelf.keys := by
  unfold contains find? keys
  induction shelf.kept with
  | nil => simp
  | cons entry kept ih =>
    obtain ⟨text, pair⟩ := entry
    rw [List.lookup_cons, List.map_cons, List.mem_cons]
    cases same : query.paginated == text with
    | true => simp [beq_iff_eq.mp same]
    | false => simp [beq_eq_false_iff_ne.mp same, ih]

theorem Records.size_eq {shelf : Shelf} {texts : List (List Char)} (records : shelf.Records texts) :
    shelf.size = texts.dedup.length := by
  have same : shelf.keys.Perm texts.dedup := by
    rw [List.perm_ext_iff_of_nodup records.unique (List.nodup_dedup texts)]
    intro text
    rw [records.mem_keys, List.mem_dedup]
  rw [← same.length_eq, keys, List.length_map, size]

theorem fetch_eq {shelf : Shelf} (sound : shelf.Sound) {query : Query} (proper : query.clause ≠ [])
    (store : Store) :
    shelf.fetch store query =
      let pair : Prepared := ⟨query.count, query.listing⟩
      if shelf.contains query then (.ok pair, shelf)
      else if query.isReady store then (.ok pair, ⟨(query.paginated, pair) :: shelf.kept⟩)
      else (.error .unprepared, shelf) := by
  unfold fetch contains
  cases found : shelf.find? query with
  | some prepared =>
    rw [(find?_sound sound proper found).1]
    rfl
  | none =>
    have made : query.prepare store = if query.isReady store
        then .ok ⟨query.count, query.listing⟩ else .error .unprepared :=
      query.prepare_eq proper store
    by_cases ready : query.isReady store = true
    · rw [if_pos ready] at made
      simp [made, ready]
    · rw [if_neg ready] at made
      simp [made, ready]

def grant? (shelf : Shelf) (store : Store) (query : Query) : Option (List Char) :=
  match (shelf.fetch store query).1 with
  | .ok _ => some query.paginated
  | .error _ => none

/-- The text of a call joins those there have been, if the call succeeds. -/
theorem Records.fetch {shelf : Shelf} {texts : List (List Char)} (records : shelf.Records texts)
    {query : Query} (proper : query.clause ≠ []) (store : Store) :
    (shelf.fetch store query).2.Records (texts ++ (shelf.grant? store query).toList) := by
  have sound := fetch_sound records.sound proper store
  unfold grant?
  rw [fetch_eq records.sound proper] at sound ⊢
  by_cases known : shelf.contains query = true
  · -- the text is among those on the shelf already
    rw [if_pos known] at sound ⊢
    refine ⟨sound, records.unique, ?_⟩
    intro text
    have old := (records.mem_keys query.paginated).mp ((shelf.contains_iff query).mp known)
    rw [records.mem_keys, List.mem_append, Option.toList_some, List.mem_singleton]
    exact ⟨Or.inl, fun either => either.elim id fun same => same ▸ old⟩
  · rw [if_neg known] at sound ⊢
    rw [contains_iff] at known
    split_ifs at sound ⊢ with ready
    · refine ⟨sound, List.nodup_cons.mpr ⟨known, records.unique⟩, ?_⟩
      intro text
      rw [List.mem_append, Option.toList_some, List.mem_singleton, ← records.mem_keys, or_comm]
      exact List.mem_cons
    · rw [Option.toList_none, List.append_nil]
      exact ⟨sound, records.unique, records.mem_keys⟩

end Shelf

namespace Service

/-- The steps of a run with their answers. -/
def log (service : Service) (steps : List (Timing × Step)) :
    List (Step × Except Failure Answer) :=
  (steps.map Prod.snd).zip (service.performAll steps).2

/-- The text of the statements that a step called for and got, by its answer. A run that fails
otherwise than by preparing has got its statements. -/
def granted? : Step × Except Failure Answer → Option (List Char)
  | (.prepare criteria origin settings, .ok (.prepared _ _ _ none)) =>
    some (Query.ofCriteria criteria origin settings).paginated
  | (.run _ _ _, .error .unprepared) => none
  | (.run criteria origin settings, _) =>
    some (Query.ofCriteria criteria origin settings).paginated
  | _ => none

def granted (log : List (Step × Except Failure Answer)) : List (List Char) :=
  log.filterMap granted?

section

variable (service : Service) (timing : Timing)

theorem perform_shelf (step : Step) :
    (service.perform timing step).1.shelf =
      match step.query? with
      | none => service.shelf
      | some query => (service.shelf.fetch service.store query).2 := by
  have change (change : Store → Except Failure Store) :
      (service.change change).1.shelf = service.shelf := by
    unfold Service.change
    split <;> rfl
  cases step with
  | putUser user => exact change _
  | putAlias given => exact change _
  | addMessage message => exact change _
  | describe name =>
    simp only [perform]
    cases service.clients name <;> rfl
  | process name origin words =>
    simp only [perform]
    cases service.clients name <;> rfl
  | search name origin words =>
    simp only [perform]
    cases service.clients name <;> rfl
  | acquire guard =>
    have taken : (service.acquire guard).1.shelf = service.shelf := by
      unfold acquire
      split <;> rfl
    exact taken
  | release guard =>
    have left : (service.release guard).1.shelf = service.shelf := by
      unfold release
      split <;> rfl
    exact left
  | _ => rfl

theorem granted?_run (criteria : Criteria) (origin : Origin) (settings : Settings) :
    granted? (.run criteria origin settings,
        (service.perform timing (.run criteria origin settings)).2) =
      service.shelf.grant? service.store (.ofCriteria criteria origin settings) := by
  have fails := service.shelf.fetch_failsOnly service.store (.ofCriteria criteria origin settings)
  unfold Shelf.grant?
  simp only [perform, prepare]
  cases fetched : (service.shelf.fetch service.store (.ofCriteria criteria origin settings)).1 with
  | error failure =>
    cases fails failure fetched
    rfl
  | ok prepared =>
    -- statements that were got fail as the storage does or for want of room, not as preparing does
    let query := Query.ofCriteria criteria origin settings
    have ran := prepared.run_failsOnly service.store timing query.params query.span
      settings.maxSearchResults
    cases answer : (prepared.on service.store timing).run query.params query.span
      settings.maxSearchResults with
    | ok outcome => simp [query, bind, Except.bind, pure, Except.pure, granted?, answer]
    | error failure =>
      rcases ran failure answer with rfl | ⟨rfl, _⟩ <;>
        simp [query, bind, Except.bind, granted?, answer]

theorem granted?_perform (step : Step) :
    granted? (step, (service.perform timing step).2) =
      step.query?.bind (service.shelf.grant? service.store) := by
  cases step with
  | prepare criteria origin settings =>
    simp only [perform, prepare, Step.query?, Option.bind_some, Shelf.grant?]
    cases (service.shelf.fetch service.store (.ofCriteria criteria origin settings)).1 <;> rfl
  | run criteria origin settings => exact service.granted?_run timing criteria origin settings
  | _ => rfl

end

theorem perform_records {service : Service} {texts : List (List Char)}
    (records : service.shelf.Records texts) (timing : Timing) (step : Step) :
    (service.perform timing step).1.shelf.Records
      (texts ++ (granted? (step, (service.perform timing step).2)).toList) := by
  rw [perform_shelf, granted?_perform]
  cases called : step.query? with
  | none => simpa using records
  | some query => exact records.fetch (Step.query?_proper called) service.store

theorem performAll_records {service : Service} {texts : List (List Char)}
    (records : service.shelf.Records texts) (steps : List (Timing × Step)) :
    (service.performAll steps).1.shelf.Records (texts ++ granted (service.log steps)) := by
  -- the texts of each step are among those that the shelf it hands on has records of
  induction steps generalizing service texts with
  | nil =>
    change service.shelf.Records (texts ++ [])
    rwa [List.append_nil]
  | cons step steps ih =>
    obtain ⟨timing, step⟩ := step
    have later := ih (perform_records records timing step)
    have run : service.log ((timing, step) :: steps) =
        (step, (service.perform timing step).2) :: (service.perform timing step).1.log steps := rfl
    have all : granted (service.log ((timing, step) :: steps)) =
        (granted? (step, (service.perform timing step).2)).toList ++
          granted ((service.perform timing step).1.log steps) := by
      rw [run, granted, List.filterMap_cons]
      cases granted? (step, (service.perform timing step).2) <;> rfl
    rw [all, ← List.append_assoc]
    exact later

theorem performAll_append (service : Service) (steps later : List (Timing × Step)) :
    (service.performAll (steps ++ later)).1 =
      ((service.performAll steps).1.performAll later).1 := by
  induction steps generalizing service with
  | nil => rfl
  | cons step steps ih => exact ih (service.perform step.1 step.2).1

theorem performAll_kept (service : Service) (steps : List (Timing × Step)) :
    service.shelf.kept <:+ (service.performAll steps).1.shelf.kept := by
  induction steps generalizing service with
  | nil => exact List.suffix_rfl
  | cons step steps ih =>
    have first : service.shelf.kept <:+ (service.perform step.1 step.2).1.shelf.kept := by
      rw [perform_shelf]
      cases step.2.query? with
      | none => exact List.suffix_rfl
      | some query =>
        simp only [Shelf.fetch_shelf]
        exact List.suffix_append _ _
    exact first.trans (ih (service.perform step.1 step.2).1)

theorem perform_prepare (service : Service) (timing : Timing) (criteria : Criteria)
    (origin : Origin) (settings : Settings) :
    let query := Query.ofCriteria criteria origin settings
    let next := (service.prepare query).1
    service.perform timing (.prepare criteria origin settings) =
      (next, .ok (.prepared (service.shelf.contains query) (next.shelf.contains query)
        next.shelf.size (failure? (service.prepare query).2))) := by
  intro query next
  simp only [perform]
  cases (service.prepare query).2 <;> rfl

section

variable {service : Service} (sound : service.shelf.Sound)

include sound

theorem prepare_eq {query : Query} (proper : query.clause ≠ []) :
    let pair : Prepared := ⟨query.count, query.listing⟩
    service.prepare query =
      if service.shelf.contains query then (service, .ok pair)
      else if query.isReady service.store then
        ({ service with shelf := ⟨(query.paginated, pair) :: service.shelf.kept⟩ }, .ok pair)
      else (service, .error .unprepared) := by
  intro pair
  unfold prepare
  rw [Shelf.fetch_eq sound proper]
  split_ifs <;> rfl

theorem perform_prepare_eq (timing : Timing) (criteria : Criteria) (origin : Origin)
    (settings : Settings) :
    let query := Query.ofCriteria criteria origin settings
    let pair : Prepared := ⟨query.count, query.listing⟩
    let size := service.shelf.size
    let added : Service :=
      { service with shelf := ⟨(query.paginated, pair) :: service.shelf.kept⟩ }
    service.perform timing (.prepare criteria origin settings) =
      if service.shelf.contains query then (service, .ok (.prepared true true size none))
      else if query.isReady service.store then (added, .ok (.prepared false true (size + 1) none))
      else (service, .ok (.prepared false false size (some .unprepared))) := by
  intro query pair size added
  rw [perform_prepare, prepare_eq sound (Query.ofCriteria_proper criteria origin settings)]
  split_ifs with known ready
  · rw [known]
    rfl
  · have new : added.shelf.contains query = true := by
      rw [Shelf.contains_iff]
      exact List.mem_cons_self
    rw [new, Bool.eq_false_of_not_eq_true known]
    rfl
  · rw [Bool.eq_false_of_not_eq_true known]
    rfl

end

/-- Over any run of steps, the shelf has as many texts as calls have had statements for, and these
are the texts for which it says so. Whatever comes later, it loses nothing, and only a call for
statements puts something there. A call for a text on the shelf gets its statements and changes
nothing, whether there are tables or not; one for another text gets them and puts them there under
that text alone, or is told that they cannot be prepared and changes nothing. -/
theorem shelf_keeps (steps : List (Timing × Step)) :
    let service := (start.performAll steps).1
    let texts := granted (start.log steps)
    service.shelf.size = texts.dedup.length ∧
    (∀ query : Query, service.shelf.contains query = true ↔ query.paginated ∈ texts) ∧
    (∀ later, service.shelf.kept <:+ (start.performAll (steps ++ later)).1.shelf.kept) ∧
    (∀ timing step, (service.perform timing step).1.shelf =
      match step.query? with
      | none => service.shelf
      | some query => (service.prepare query).1.shelf) ∧
    ∀ timing criteria origin settings,
      let query := Query.ofCriteria criteria origin settings
      let pair : Prepared := ⟨query.count, query.listing⟩
      let size := service.shelf.size
      let added : Service :=
        { service with shelf := ⟨(query.paginated, pair) :: service.shelf.kept⟩ }
      service.prepare query =
        (if service.shelf.contains query then (service, .ok pair)
        else if query.isReady service.store then (added, .ok pair)
        else (service, .error .unprepared)) ∧
      service.perform timing (.prepare criteria origin settings) =
        (if service.shelf.contains query then (service, .ok (.prepared true true size none))
        else if query.isReady service.store then
          (added, .ok (.prepared false true (size + 1) none))
        else (service, .ok (.prepared false false size (some .unprepared)))) := by
  intro service texts
  have records : service.shelf.Records texts := by
    have all := performAll_records (show start.shelf.Records [] from Shelf.records_empty) steps
    rwa [List.nil_append] at all
  refine ⟨records.size_eq, ?_, ?_, ?_, ?_⟩
  · intro query
    rw [Shelf.contains_iff, records.mem_keys]
  · intro later
    rw [performAll_append]
    exact performAll_kept service later
  · intro timing step
    exact service.perform_shelf timing step
  · intro timing criteria origin settings query pair size added
    exact ⟨prepare_eq records.sound (Query.ofCriteria_proper criteria origin settings),
      perform_prepare_eq records.sound timing criteria origin settings⟩

/-- What a call has put on the shelf is still there when the messages are gone, and it could not be
prepared again. -/
example :
    let criteria : Criteria := ⟨.empty, .empty, none, "hello", .newest 5⟩
    let origin : Origin := ⟨7, 111, 42⟩
    let query := Query.ofCriteria criteria origin .builtIn
    let steps := [.create, .prepare criteria origin .builtIn, .drop .messages]
    let service := (start.performAll (steps.map fun step => (.once ⟨0, 0⟩, step))).1
    service.shelf.keys = [query.paginated] ∧ query.isReady service.store = false := by
  decide +kernel

end Service

end ChatLog
