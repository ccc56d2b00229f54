import ChatLog.Searcher

/-!
A service keeps one store, any number of guards and searchers by name, and a shelf of its own. Its
clients change the store, take and leave guards, and search; every step gives an answer and the
service as it is afterwards. A guard that nobody has named yet is free.
-/
namespace ChatLog

structure Seed where
  users : List User
  aliases : List Alias
  messages : List Message
deriving DecidableEq, Repr

namespace Store

/-- A step for each element, until one of them fails; the store as it was before that. -/
def each {α : Type} (step : α → Store → Except Failure Store) :
    List α → Store → Store × Except Failure Unit
  | [], store => (store, .ok ())
  | a :: rest, store =>
    match step a store with
    | .ok next => each step rest next
    | .error failure => (store, .error failure)

def plant (seed : Seed) (store : Store) : Store × Except Failure Unit :=
  match each putUser seed.users store with
  | (store, .error failure) => (store, .error failure)
  | (store, .ok ()) =>
    match each putAlias seed.aliases store with
    | (store, .error failure) => (store, .error failure)
    | (store, .ok ()) => each addMessage seed.messages store

end Store

structure Client where
  searcher : Searcher
  guard : String

structure Service where
  store : Store
  guards : String → Guard
  /-- The guards that somebody outside a search holds. -/
  permits : List String
  clients : String → Option Client
  shelf : Shelf

inductive Names where
  | fromLog
  | fromDirectory (directory : Directory)

inductive Step where
  | create
  | putUser (user : User)
  | putAlias (given : Alias)
  | addMessage (message : Message)
  | plant (seed : Seed)
  | drop (table : Table)
  | findUsers (lookup : Lookup)
  /-- A new searcher under a name, in place of one of the same name. -/
  | install (client guard : String) (settings : Settings) (names : Names)
  | describe (client : String)
  /-- A search whose failures become replies. -/
  | process (client : String) (origin : Origin) (words : List String)
  | search (client : String) (origin : Origin) (words : List String)
  | acquire (guard : String)
  | release (guard : String)
  /-- The statements of a query, on the service's own shelf. -/
  | prepare (criteria : Criteria) (origin : Origin) (settings : Settings)
  | run (criteria : Criteria) (origin : Origin) (settings : Settings)

structure Shown where
  answer : Except Failure Reply
  kept : Nat
  isBusy : Bool
  lookups : List (Lookup × Bool)

inductive Answer where
  | done
  | ids (found : List Id)
  | description (settings : Settings) (guard : String) (kept : Nat) (isBusy : Bool)
  | replied (reply : Reply) (shown : Shown)
  | searched (shown : Shown)
  | acquired (granted isBusy : Bool)
  | released (held isBusy : Bool)
  | prepared (known contains : Bool) (size : Nat) (failed : Option Failure)
  | outcome (found : Outcome)
  /-- No searcher has the name. -/
  | nobody

namespace Service

def start : Service where
  store := .empty
  guards := fun _ => .free
  permits := []
  clients := fun _ => none
  shelf := .empty

def put {α : Type} (name : String) (value : α) (values : String → α) : String → α :=
  fun other => if other = name then value else values other

def change (service : Service) (step : Store → Except Failure Store) :
    Service × Except Failure Answer :=
  match step service.store with
  | .ok store => ({ service with store := store }, .ok .done)
  | .error failure => (service, .error failure)

def searchBy (service : Service) (timing : Timing) (name : String) (client : Client)
    (origin : Origin) (words : List String) : Service × Shown :=
  let report :=
    client.searcher.search service.store timing (service.guards client.guard) origin words
  ({ service with
      guards := put client.guard report.guard service.guards
      clients := put name (some { client with searcher := report.searcher }) service.clients },
    ⟨report.answer, report.searcher.kept, report.guard.isBusy, report.lookups⟩)

def acquire (service : Service) (guard : String) : Service × Answer :=
  match (service.guards guard).acquire? with
  | some held =>
    ({ service with
        guards := put guard held service.guards
        permits := guard :: service.permits },
      .acquired true held.isBusy)
  | none => (service, .acquired false (service.guards guard).isBusy)

def release (service : Service) (guard : String) : Service × Answer :=
  if guard ∈ service.permits then
    let left := (service.guards guard).release
    ({ service with
        guards := put guard left service.guards
        permits := service.permits.erase guard },
      .released true left.isBusy)
  else (service, .released false (service.guards guard).isBusy)

def prepare (service : Service) (query : Query) : Service × Except Failure Prepared :=
  let (prepared, shelf) := service.shelf.fetch service.store query
  ({ service with shelf := shelf }, prepared)

def perform (service : Service) (timing : Timing) : Step → Service × Except Failure Answer
  | .create => ({ service with store := service.store.create }, .ok .done)
  | .putUser user => service.change (Store.putUser user)
  | .putAlias given => service.change (Store.putAlias given)
  | .addMessage message => service.change (Store.addMessage message)
  | .plant seed =>
    let (store, result) := service.store.plant seed
    ({ service with store := store }, result.map fun _ => .done)
  | .drop table => ({ service with store := service.store.drop table }, .ok .done)
  | .findUsers lookup => (service, (service.store.directory lookup).map .ids)
  | .install name guard settings names =>
    let searcher := match names with
      | .fromLog => Searcher.overLog settings
      | .fromDirectory directory => Searcher.withDirectory settings directory
    ({ service with clients := put name (some ⟨searcher, guard⟩) service.clients }, .ok .done)
  | .describe name =>
    match service.clients name with
    | none => (service, .ok .nobody)
    | some client =>
      (service, .ok (.description client.searcher.settings client.guard client.searcher.kept
        (service.guards client.guard).isBusy))
  | .process name origin words =>
    match service.clients name with
    | none => (service, .ok .nobody)
    | some client =>
      let (service, shown) := service.searchBy timing name client origin words
      (service, (Searcher.replyTo shown.answer).map fun reply => .replied reply shown)
  | .search name origin words =>
    match service.clients name with
    | none => (service, .ok .nobody)
    | some client =>
      let (service, shown) := service.searchBy timing name client origin words
      (service, .ok (.searched shown))
  | .acquire guard =>
    let (service, answer) := service.acquire guard
    (service, .ok answer)
  | .release guard =>
    let (service, answer) := service.release guard
    (service, .ok answer)
  | .prepare criteria origin settings =>
    let query := Query.ofCriteria criteria origin settings
    let known := service.shelf.contains query
    let (service, result) := service.prepare query
    let failed := match result with
      | .ok _ => none
      | .error failure => some failure
    (service, .ok (.prepared known (service.shelf.contains query) service.shelf.size failed))
  | .run criteria origin settings =>
    let query := Query.ofCriteria criteria origin settings
    let (service, result) := service.prepare query
    (service, do
      let prepared ← result
      let outcome ← (prepared.on service.store timing).run query.params query.span
        settings.maxSearchResults
      return .outcome outcome)

def performAll (service : Service) : List (Timing × Step) → Service × List (Except Failure Answer)
  | [] => (service, [])
  | (timing, step) :: rest =>
    let (service, answer) := service.perform timing step
    let (service, answers) := service.performAll rest
    (service, answer :: answers)

end Service

end ChatLog
