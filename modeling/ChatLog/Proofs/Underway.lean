import ChatLog.Proofs.Grammar
import ChatLog.Proofs.Stages
import ChatLog.Traffic

/-!
A search that is under way. No stage changes whose search it is or which guard it has, and each
lookup is kept with the guard as it was found then. When nobody else moves, a search goes on to its
end by itself, and there it has the answer, the shelf and the lookups of a search made in one go.
-/
namespace ChatLog

/-- References are resolved one at a time. -/
theorem Request.findUsers_cons (directory : Directory) (limit : UInt64) (reference : String)
    (references : List String) (known : IdSet) :
    findUsers directory limit (reference :: references) known =
      let first := findUsers directory limit [reference] known
      match first.2 with
      | .error failure => (first.1, .error failure)
      | .ok found =>
        let rest := findUsers directory limit references found
        (first.1 ++ rest.1, rest.2) := by
  cases mention : Mention.user? reference.toList with
  | some id => simp [findUsers, mention]
  | none =>
    cases answer : directory (lookupFor (nameOf reference) limit) with
    | error failure => simp [findUsers, mention, answer]
    | ok ids => cases ids <;> simp [findUsers, mention, answer]

namespace Search

variable (search : Search) (store : Store) (guard : Guard) (timing : Timing)

theorem advance_keeps {next : Search} {answer? : Option (Except Failure Reply)}
    (moved : search.advance store guard timing = (next, answer?)) :
    next.name = search.name ∧ next.client.guard = search.client.guard ∧
      ∃ made : List Lookup, next.lookups = search.lookups ++ made.map (·, guard.isBusy) := by
  obtain rfl : next = (search.advance store guard timing).1 := by rw [moved]
  clear moved
  have same {next : Search} (named : next.name = search.name)
      (guarded : next.client.guard = search.client.guard)
      (quiet : next.lookups = search.lookups) :
      next.name = search.name ∧ next.client.guard = search.client.guard ∧
        ∃ made : List Lookup, next.lookups = search.lookups ++ made.map (·, guard.isBusy) :=
    ⟨named, guarded, [], by rw [quiet, List.map_nil, List.append_nil]⟩
  unfold advance
  cases search.task with
  | read words =>
    dsimp only
    split
    · exact same rfl rfl rfl
    · split <;> exact same rfl rfl rfl
  | resolve request references known =>
    cases references with
    | nil => exact same rfl rfl rfl
    | cons reference references =>
      dsimp only
      split <;> exact ⟨rfl, rfl, _, rfl⟩
  | prepare query =>
    dsimp only
    split <;> exact same rfl rfl rfl
  | run query prepared => exact same rfl rfl rfl

/-- No stage after the taking of the guard finds that somebody else holds it. -/
theorem advance_failsOnly {answer : Except Failure Reply}
    (ended : (search.advance store guard timing).2 = some answer) :
    FailsOnly (· ≠ .busy) answer := by
  unfold advance at ended
  cases task : search.task with
  | read words =>
    cases unread : Request.ofWords words with
    | error failure =>
      simp only [task, unread, Option.some.injEq] at ended
      subst ended
      refine .error ?_
      rintro rfl
      exact Request.ofWords_failsOnly words _ unread
    | ok request =>
      simp only [task, unread] at ended
      split at ended
      · cases ended
      · cases ended
        exact .error (by simp)
  | resolve request references known =>
    cases references with
    | nil => simp [task] at ended
    | cons reference references =>
      cases unknown : (Request.findUsers (search.client.searcher.directory store)
        search.client.searcher.settings.fuzzyLimit [reference] known).2 with
      | error failure =>
        simp only [task, unknown, Option.some.injEq] at ended
        subst ended
        obtain ⟨_, _, rfl | ⟨_, rfl, _⟩⟩ :=
          Request.findUsers_failsOnly _ _ _ _ failure unknown
        · exact .error (by simp)
        · exact .error (by simp)
      | ok found => simp [task, unknown] at ended
  | prepare query =>
    cases fetched : (search.client.searcher.shelf.fetch store query).1 with
    | error failure =>
      simp only [task, fetched, Option.some.injEq] at ended
      subst ended
      rw [search.client.searcher.shelf.fetch_failsOnly store query failure fetched]
      exact .error (by simp)
    | ok prepared => simp [task, fetched] at ended
  | run query prepared =>
    simp only [task, Option.some.injEq] at ended
    subst ended
    refine ((prepared.run_failsOnly store timing query.params query.span
      search.client.searcher.settings.maxSearchResults).mono ?_).map _
    rintro failure (rfl | ⟨rfl, _⟩)
    · simp
    · simp

/-- When nobody else moves, a search goes on for a number of stages and ends in the next. -/
inductive Ends : Search → Nat → Search → Except Failure Reply → Prop where
  | last {search final : Search} {answer : Except Failure Reply}
    (ended : search.advance store guard timing = (final, some answer)) : Ends search 0 final answer
  | more {search next final : Search} {count : Nat} {answer : Except Failure Reply}
    (on : search.advance store guard timing = (next, none)) (rest : Ends next count final answer) :
    Ends search (count + 1) final answer

def EndsWith (client : Client) (lookups : List (Lookup × Bool)) (answer : Except Failure Reply) :
    Prop :=
  ∃ count final, Ends store guard timing search count final answer ∧ final.client = client ∧
    final.lookups = lookups

section

variable {search store guard timing}

theorem Ends.failsOnly {final : Search} {count : Nat} {answer : Except Failure Reply}
    (ends : search.Ends store guard timing count final answer) : FailsOnly (· ≠ .busy) answer := by
  induction ends with
  | @last search final answer ended =>
    exact search.advance_failsOnly store guard timing (by rw [ended])
  | more _ _ ih => exact ih

theorem EndsWith.last {final : Search} {answer : Except Failure Reply}
    (ended : search.advance store guard timing = (final, some answer)) :
    search.EndsWith store guard timing final.client final.lookups answer :=
  ⟨0, final, .last ended, rfl, rfl⟩

theorem EndsWith.more {next : Search} {client : Client} {lookups : List (Lookup × Bool)}
    {answer : Except Failure Reply} (on : search.advance store guard timing = (next, none))
    (rest : next.EndsWith store guard timing client lookups answer) :
    search.EndsWith store guard timing client lookups answer := by
  obtain ⟨count, final, ends, left, made⟩ := rest
  exact ⟨count + 1, final, .more on ends, left, made⟩

end

section

variable (name : String) (client : Client) (origin : Origin) (lookups : List (Lookup × Bool))

theorem endsWith_prepare (query : Query) :
    let ran := client.searcher.runQuery store timing query
    EndsWith ⟨name, client, origin, .prepare query, lookups⟩ store guard timing
      { client with searcher := ran.2 } lookups ran.1 := by
  unfold Searcher.runQuery
  cases fetched : client.searcher.shelf.fetch store query with
  | mk result shelf =>
    cases result with
    | error failure =>
      have ended : advance ⟨name, client, origin, .prepare query, lookups⟩ store guard timing =
          (⟨name, { client with searcher := { client.searcher with shelf := shelf } }, origin,
            .prepare query, lookups⟩, some (.error failure)) := by
        simp only [advance, fetched]
      exact .last ended
    | ok prepared =>
      have on : advance ⟨name, client, origin, .prepare query, lookups⟩ store guard timing =
          (⟨name, { client with searcher := { client.searcher with shelf := shelf } }, origin,
            .run query prepared, lookups⟩, none) := by
        simp only [advance, fetched]
      exact .more on ⟨0, _, .last rfl, rfl, rfl⟩

/-- What is left to do once the references still to resolve are told. -/
theorem endsWith_resolve (request : Request) (references : List String) (known : IdSet) :
    let settings := client.searcher.settings
    let found := Request.findUsers (client.searcher.directory store) settings.fuzzyLimit references
      known
    let made := lookups ++ found.1.map (·, guard.isBusy)
    let search : Search := ⟨name, client, origin, .resolve request references known, lookups⟩
    match found.2 with
    | .error failure => search.EndsWith store guard timing client made (.error failure)
    | .ok users =>
      let query := Query.ofCriteria (request.criteria settings users) origin settings
      let ran := client.searcher.runQuery store timing query
      search.EndsWith store guard timing { client with searcher := ran.2 } made ran.1 := by
  -- each reference is one stage, which hands the ids known and the lookups made to the next
  induction references generalizing known lookups with
  | nil =>
    simp only [Request.findUsers, List.map_nil, List.append_nil]
    exact .more rfl (endsWith_prepare store guard timing name client origin lookups _)
  | cons reference references ih =>
    dsimp only
    rw [Request.findUsers_cons]
    cases first : Request.findUsers (client.searcher.directory store)
      client.searcher.settings.fuzzyLimit [reference] known with
    | mk made result =>
      cases result with
      | error failure =>
        have ended : advance ⟨name, client, origin,
            .resolve request (reference :: references) known, lookups⟩ store guard timing =
            (⟨name, client, origin, .resolve request (reference :: references) known,
              lookups ++ made.map (·, guard.isBusy)⟩, some (.error failure)) := by
          simp only [advance, first]
        exact .last ended
      | ok found =>
        have on : advance ⟨name, client, origin,
            .resolve request (reference :: references) known, lookups⟩ store guard timing =
            (⟨name, client, origin, .resolve request references found,
              lookups ++ made.map (·, guard.isBusy)⟩, none) := by
          simp only [advance, first]
        have rest := ih (lookups ++ made.map (·, guard.isBusy)) found
        simp only [List.map_append, ← List.append_assoc] at rest ⊢
        split at rest
        · exact .more on rest
        · exact .more on rest

theorem endsWith_read (words : List String) :
    let stages := client.searcher.searchHolding store timing origin words
    EndsWith ⟨name, client, origin, .read words, []⟩ store guard timing
      { client with searcher := stages.2.1 } (stages.2.2.map (·, guard.isBusy)) stages.1 := by
  unfold Searcher.searchHolding Request.resolve
  cases read : Request.ofWords words with
  | error failure =>
    have ended : advance ⟨name, client, origin, .read words, []⟩ store guard timing =
        (⟨name, client, origin, .read words, []⟩, some (.error failure)) := by
      simp only [advance, read]
    exact .last ended
  | ok request =>
    by_cases searchable : request.isSearchable = true
    · have on : advance ⟨name, client, origin, .read words, []⟩ store guard timing =
          (⟨name, client, origin, .resolve request request.users .empty, []⟩, none) := by
        simp only [advance, read, searchable, if_true]
      have rest := endsWith_resolve store guard timing name client origin [] request request.users
        .empty
      simp only [searchable, if_true, List.nil_append] at rest ⊢
      split at rest <;> rename_i resolved <;> rw [resolved]
      · exact .more on rest
      · exact .more on rest
    · have ended : advance ⟨name, client, origin, .read words, []⟩ store guard timing =
          (⟨name, client, origin, .read words, []⟩, some (.error .nothingToSearch)) := by
        simp only [advance, read, searchable, Bool.false_eq_true, if_false]
      simp only [searchable, Bool.false_eq_true, if_false]
      exact .last ended

end

end Search

namespace Service

theorem put_put {α : Type} (name : String) (first second : α) (values : String → α) :
    put name second (put name first values) = put name second values := by
  funext other
  unfold put
  split <;> rfl

theorem put_same {α : Type} (name : String) (value : α) (values : String → α) :
    put name value values name = value :=
  if_pos rfl

theorem put_other {α : Type} {name other : String} (distinct : other ≠ name) (value : α)
    (values : String → α) : put name value values other = values other :=
  if_neg distinct

end Service

namespace Traffic

theorem moveAll_cons (traffic : Traffic) (timing : Timing) (next : Move)
    (rest : List (Timing × Move)) :
    traffic.moveAll ((timing, next) :: rest) =
      let moved := traffic.move timing next
      ((moved.1.moveAll rest).1, moved.2 :: (moved.1.moveAll rest).2) :=
  rfl

section

variable {traffic : Traffic} {timing : Timing} {place : Nat} {search next : Search}
  (here : traffic.searches[place]? = some search)

include here

theorem advance_on
    (on : search.advance traffic.service.store (traffic.service.guards search.client.guard) timing =
      (next, none)) :
    traffic.advance timing place =
      (⟨{ traffic.service with
            clients := Service.put search.name (some next.client) traffic.service.clients },
          traffic.searches.set place next⟩, .advanced) := by
  obtain ⟨named, guarded, _⟩ := search.advance_keeps _ _ _ on
  unfold advance
  simp only [here, on, named]

theorem advance_ended {answer : Except Failure Reply}
    (ended : search.advance traffic.service.store (traffic.service.guards search.client.guard)
      timing = (next, some answer)) :
    let left := (traffic.service.guards search.client.guard).release
    traffic.advance timing place =
      (⟨{ traffic.service with
            guards := Service.put search.client.guard left traffic.service.guards
            clients := Service.put search.name (some next.client) traffic.service.clients },
          traffic.searches.eraseIdx place⟩,
        .ended search.client.guard
          ⟨answer, next.client.searcher.kept, left.isBusy, next.lookups⟩) := by
  obtain ⟨named, guarded, _⟩ := search.advance_keeps _ _ _ ended
  unfold advance
  simp only [here, ended, named, guarded]

end

/-- A search that is moved on until it ends, while nothing else moves. -/
theorem moveAll_ends {store : Store} {guard : Guard} {timing : Timing} {search final : Search}
    {count : Nat} {answer : Except Failure Reply}
    (ends : search.Ends store guard timing count final answer) {traffic : Traffic} {place : Nat}
    (here : traffic.searches[place]? = some search) (same : traffic.service.store = store)
    (found : traffic.service.guards search.client.guard = guard) :
    traffic.moveAll (List.replicate (count + 1) (timing, .advance place)) =
      (⟨{ traffic.service with
            guards := Service.put search.client.guard guard.release traffic.service.guards
            clients := Service.put search.name (some final.client) traffic.service.clients },
          traffic.searches.eraseIdx place⟩,
        List.replicate count .advanced ++ [.ended search.client.guard
          ⟨answer, final.client.searcher.kept, guard.release.isBusy, final.lookups⟩]) := by
  -- a stage that does not end the search leaves the store, the guard and the search's place
  induction ends generalizing traffic with
  | last ended =>
    subst same found
    have moved := advance_ended here ended
    simp only [List.replicate, moveAll_cons, move, moved]
    rfl
  | @more search next final count answer on rest ih =>
    subst same found
    have moved := advance_on here on
    obtain ⟨named, guarded, _⟩ := search.advance_keeps _ _ _ on
    have inside : place < traffic.searches.length := (List.getElem?_eq_some_iff.mp here).1
    have later := @ih
      ⟨{ traffic.service with
          clients := Service.put search.name (some next.client) traffic.service.clients },
        traffic.searches.set place next⟩
      (by simp [inside]) rfl (by rw [guarded])
    rw [List.replicate_succ, moveAll_cons]
    simp only [move, moved, later, named, guarded, Service.put_put, List.eraseIdx_set_eq]
    rfl

section

variable {traffic : Traffic} {name : String} {client : Client}
  (installed : traffic.service.clients name = some client)

include installed

theorem begin_busy (busy : (traffic.service.guards client.guard).isBusy = true) (origin : Origin)
    (words : List String) :
    traffic.begin name origin words =
      (traffic, .refused ⟨.error .busy, client.searcher.kept, true, []⟩) := by
  simp [begin, installed, Guard.acquire?, busy]

theorem begin_free (free : (traffic.service.guards client.guard).isBusy = false) (origin : Origin)
    (words : List String) :
    traffic.begin name origin words =
      (⟨{ traffic.service with
            guards := Service.put client.guard ⟨true⟩ traffic.service.guards },
          traffic.searches ++ [⟨name, client, origin, .read words, []⟩]⟩,
        .begun client.guard) := by
  simp [begin, installed, Guard.acquire?, free]

end

/-- A search that takes its guard and is moved on until it ends, while nothing else moves, is the
search that is made in one go. -/
theorem moveAll_search (traffic : Traffic) {name : String} {client : Client}
    (installed : traffic.service.clients name = some client)
    (free : (traffic.service.guards client.guard).isBusy = false) (timing : Timing)
    (origin : Origin) (words : List String) :
    let searched := traffic.service.searchBy timing name client origin words
    ∃ count, traffic.moveAll ((timing, .begin name origin words) ::
        List.replicate (count + 1) (timing, .advance traffic.searches.length)) =
      (⟨searched.1, traffic.searches⟩,
        .begun client.guard :: List.replicate count .advanced ++
          [.ended client.guard searched.2]) := by
  intro searched
  obtain ⟨count, final, ends, left, made⟩ :=
    Search.endsWith_read traffic.service.store ⟨true⟩ timing name client origin words
  refine ⟨count, ?_⟩
  have ran := @moveAll_ends _ _ _ _ _ _ _ ends
    ⟨{ traffic.service with guards := Service.put client.guard ⟨true⟩ traffic.service.guards },
      traffic.searches ++ [⟨name, client, origin, .read words, []⟩]⟩ traffic.searches.length
    (by simp) rfl (Service.put_same _ _ _)
  rw [moveAll_cons]
  simp only [move, begin_free installed free, ran, Service.put_put]
  simp [searched, Service.searchBy, Searcher.search, Guard.acquire?, free, left, made,
    List.eraseIdx_append_of_length_le]

end Traffic

end ChatLog
