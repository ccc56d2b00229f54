import ChatLog.Service

/-!
Searches that are under way while others do anything else. A search takes its guard and then goes on
from stage to stage, one reference after the other while names are resolved, and gives the guard
back when it ends. Between any two of these moves somebody may take or leave a guard, change the
store, or move a search of their own. A searcher is not replaced while a search of its is under way.
-/
namespace ChatLog

inductive Task where
  | read (words : List String)
  | resolve (request : Request) (references : List String) (known : IdSet)
  | prepare (query : Query)
  | run (query : Query) (prepared : Prepared)

structure Search where
  name : String
  client : Client
  origin : Origin
  task : Task
  /-- The lookups made, each with whether the guard was held at that time. -/
  lookups : List (Lookup × Bool)

/-- The next stage of a search over a store, while its guard is found like this: the search as it
goes on, and its answer if it ends. -/
def Search.advance (search : Search) (store : Store) (guard : Guard) (timing : Timing) :
    Search × Option (Except Failure Reply) :=
  let searcher := search.client.searcher
  match search.task with
  | .read words =>
    match Request.ofWords words with
    | .error failure => (search, some (.error failure))
    | .ok request =>
      if request.isSearchable then
        ({ search with task := .resolve request request.users .empty }, none)
      else (search, some (.error .nothingToSearch))
  | .resolve request [] known =>
    let criteria := request.criteria searcher.settings known
    ({ search with task := .prepare (.ofCriteria criteria search.origin searcher.settings) }, none)
  | .resolve request (reference :: references) known =>
    let (made, found) := Request.findUsers (searcher.directory store) searcher.settings.fuzzyLimit
      [reference] known
    let lookups := search.lookups ++ made.map fun lookup => (lookup, guard.isBusy)
    match found with
    | .error failure => ({ search with lookups := lookups }, some (.error failure))
    | .ok known =>
      ({ search with task := .resolve request references known, lookups := lookups }, none)
  | .prepare query =>
    let (result, shelf) := searcher.shelf.fetch store query
    let client := { search.client with searcher := { searcher with shelf := shelf } }
    match result with
    | .error failure => ({ search with client := client }, some (.error failure))
    | .ok prepared => ({ search with client := client, task := .run query prepared }, none)
  | .run query prepared =>
    let outcome := (prepared.on store timing).run query.params query.span
      searcher.settings.maxSearchResults
    (search, some (outcome.map fun found =>
      .ofOutcome found query.message searcher.settings.displayRows))

structure Traffic where
  service : Service
  searches : List Search

inductive Move where
  /-- A step of the service, in one go. -/
  | perform (step : Step)
  | begin (name : String) (origin : Origin) (words : List String)
  /-- The next stage of the search at a place. -/
  | advance (place : Nat)

inductive Event where
  | performed (answer : Except Failure Answer)
  /-- A search has taken its guard. -/
  | begun (guard : String)
  | refused (shown : Shown)
  | advanced
  /-- A search has given its guard back. -/
  | ended (guard : String) (shown : Shown)
  /-- There is nothing to move. -/
  | nothing

namespace Traffic

def start : Traffic := ⟨.start, []⟩

def begin (traffic : Traffic) (name : String) (origin : Origin) (words : List String) :
    Traffic × Event :=
  let service := traffic.service
  match service.clients name with
  | none => (traffic, .nothing)
  | some client =>
    match (service.guards client.guard).acquire? with
    | none =>
      (traffic, .refused ⟨.error .busy, client.searcher.kept,
        (service.guards client.guard).isBusy, []⟩)
    | some held =>
      ({ service := { service with guards := Service.put client.guard held service.guards }
         searches := traffic.searches ++ [⟨name, client, origin, .read words, []⟩] },
        .begun client.guard)

def advance (traffic : Traffic) (timing : Timing) (place : Nat) : Traffic × Event :=
  let service := traffic.service
  match traffic.searches[place]? with
  | none => (traffic, .nothing)
  | some search =>
    let guard := service.guards search.client.guard
    let (search, answer) := search.advance service.store guard timing
    let service :=
      { service with clients := Service.put search.name (some search.client) service.clients }
    match answer with
    | none => (⟨service, traffic.searches.set place search⟩, .advanced)
    | some answer =>
      let left := guard.release
      (⟨{ service with guards := Service.put search.client.guard left service.guards },
          traffic.searches.eraseIdx place⟩,
        .ended search.client.guard
          ⟨answer, search.client.searcher.kept, left.isBusy, search.lookups⟩)

/-- Whether a step can be made: a searcher stays while it searches. -/
def allows (traffic : Traffic) : Step → Bool
  | .install name _ _ _ => traffic.searches.all (·.name != name)
  | _ => true

def move (traffic : Traffic) (timing : Timing) : Move → Traffic × Event
  | .perform step =>
    if traffic.allows step then
      let (service, answer) := traffic.service.perform timing step
      ({ traffic with service := service }, .performed answer)
    else (traffic, .nothing)
  | .begin name origin words => traffic.begin name origin words
  | .advance place => traffic.advance timing place

def moveAll (traffic : Traffic) : List (Timing × Move) → Traffic × List Event
  | [] => (traffic, [])
  | (timing, next) :: rest =>
    let (traffic, event) := traffic.move timing next
    let (traffic, events) := traffic.moveAll rest
    (traffic, event :: events)

end Traffic

end ChatLog
