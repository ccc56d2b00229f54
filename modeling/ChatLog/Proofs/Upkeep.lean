import ChatLog.Proofs.Entries
import Mathlib.Data.List.Infix

/-!
What a log keeps while it is filled. Whatever is entered, in whatever order, keys stay unique and
within the range of the storage, every alias belongs to a user there is, an entry that fails leaves
no trace, and what has been logged stays as it is.
-/
namespace ChatLog

namespace Store

/-- Every alias belongs to a user of the store. -/
def Owned (store : Store) : Prop :=
  ∀ aliases ∈ store.aliases, ∀ given ∈ aliases, ∃ users ∈ store.users, ∃ user ∈ users,
    user.id = given.user

/-- Every table of a store is a table of another one, with the same rows. -/
structure Within (store next : Store) : Prop where
  users : ∀ users ∈ store.users, next.users = some users
  aliases : ∀ aliases ∈ store.aliases, next.aliases = some aliases
  messages : ∀ messages ∈ store.messages, next.messages = some messages

/-- A user has been put in or given another name, and nothing else has changed. -/
structure Renames (user : User) (store next : Store) : Prop where
  users : ∃ known named, store.users = some known ∧ next.users = some named ∧
    ∀ other, other ∈ named ↔ other = user ∨ other ∈ known ∧ other.id ≠ user.id
  aliases : next.aliases = store.aliases
  messages : next.messages = store.messages

/-- The messages of a store are the first ones that another one has logged. -/
def Continues (messages : List Message) (store : Store) : Prop :=
  ∃ logged, store.messages = some logged ∧ messages <+: logged

theorem mem_setName {user other : User} {users : List User} :
    other ∈ setName user users ↔ other = user ∨ other ∈ users ∧ other.id ≠ user.id := by
  unfold setName
  split
  · -- the rows of other ids stay, and the one with this id there is becomes the user
    rename_i known
    obtain ⟨named, there, same⟩ := List.any_eq_true.mp known
    rw [List.mem_map]
    constructor
    · rintro ⟨before, member, rfl⟩
      split_ifs with renamed
      · exact Or.inl rfl
      · exact Or.inr ⟨member, renamed⟩
    · rintro (rfl | ⟨member, different⟩)
      · exact ⟨named, there, if_pos (beq_iff_eq.mp same)⟩
      · exact ⟨other, member, if_neg different⟩
  · rename_i unknown
    rw [List.mem_append, List.mem_singleton, or_comm]
    refine or_congr_right (iff_self_and.mpr fun member same => unknown ?_)
    exact List.any_eq_true.mpr ⟨other, member, beq_iff_eq.mpr same⟩

theorem within_create (store : Store) : store.Within store.create := by
  constructor
  · intro users there
    simp only [create, Option.mem_def.mp there, Option.getD_some]
  · intro aliases there
    simp only [create, Option.mem_def.mp there, Option.getD_some]
  · intro messages there
    simp only [create, Option.mem_def.mp there, Option.getD_some]

theorem renames_putUser {store next : Store} {user : User}
    (done : store.putUser user = .ok next) : Renames user store next := by
  obtain ⟨known, _, there, rfl⟩ := putUser_ok done
  exact ⟨⟨known, _, there, rfl, fun _ => mem_setName⟩, rfl, rfl⟩

theorem owned_empty : Owned empty := by
  simp [Owned, empty]

theorem Owned.enter {store next : Store} (owned : store.Owned) {entry : Entry}
    (entered : store.enter entry = .ok next) : next.Owned := by
  cases entry with
  | create =>
    cases entered
    rintro _ ⟨⟩ given member
    cases table : store.aliases with
    | none => simp [table] at member
    | some aliases =>
      obtain ⟨users, there, known⟩ := owned aliases table given (by simpa [table] using member)
      exact ⟨users, store.within_create.users users there, known⟩
  | putUser user =>
    obtain ⟨known, _, there, rfl⟩ := putUser_ok entered
    intro aliases table given member
    obtain ⟨users, listed, owner, found, same⟩ := owned aliases table given member
    cases there.symm.trans listed
    refine ⟨_, rfl, ?_⟩
    -- an alias of the user keeps its owner: the row is another one, but its id is the same
    by_cases renamed : owner.id = user.id
    · exact ⟨user, mem_setName.mpr (Or.inl rfl), renamed.symm.trans same⟩
    · exact ⟨owner, mem_setName.mpr (Or.inr ⟨found, renamed⟩), same⟩
  | putAlias added =>
    obtain ⟨aliases, users, _, table, there, ⟨_, rfl⟩ | ⟨_, owner, rfl⟩⟩ := putAlias_ok entered
    · exact owned
    · rintro _ ⟨⟩ given member
      rcases List.mem_append.mp member with old | new
      · exact owned aliases table given old
      · rw [List.mem_singleton.mp new]
        exact ⟨users, there, List.mem_map.mp owner⟩
  | logMessage id author channel text written =>
    obtain ⟨_, _, _, _, rfl⟩ := addMessage_ok entered
    exact owned

theorem owned_filled (entries : List Entry) : (filled entries).Owned :=
  enterAll_keeps (fun _ _ _ _ owned => owned.enter) owned_empty

theorem Continues.enter {messages : List Message} {store next : Store}
    (continues : Continues messages store) {entry : Entry}
    (entered : store.enter entry = .ok next) : Continues messages next := by
  obtain ⟨logged, there, first⟩ := continues
  cases entry with
  | create =>
    cases entered
    exact ⟨logged, store.within_create.messages logged there, first⟩
  | putUser user =>
    obtain ⟨_, _, _, rfl⟩ := putUser_ok entered
    exact ⟨logged, there, first⟩
  | putAlias given =>
    obtain ⟨_, _, _, _, _, ⟨_, rfl⟩ | ⟨_, _, rfl⟩⟩ := putAlias_ok entered
    · exact ⟨logged, there, first⟩
    · exact ⟨logged, there, first⟩
  | logMessage id author channel text written =>
    obtain ⟨known, _, log, _, rfl⟩ := addMessage_ok entered
    cases there.symm.trans log
    exact ⟨_, rfl, first.trans (List.prefix_append _ _)⟩

theorem enterAll_append (store : Store) (entries more : List Entry) :
    store.enterAll (entries ++ more) = (store.enterAll entries).enterAll more :=
  List.foldl_append

/-- What has been logged stays as it is, whatever else is entered. -/
theorem continues_filled {entries : List Entry} {messages : List Message}
    (log : (filled entries).messages = some messages) (more : List Entry) :
    Continues messages (filled (entries ++ more)) := by
  unfold filled at log ⊢
  rw [enterAll_append]
  exact enterAll_keeps (fun _ _ _ _ continues => continues.enter)
    ⟨messages, log, List.prefix_refl messages⟩

end Store

/-- The step of a service that makes an entry. -/
def Entry.step : Entry → Step
  | .create => .create
  | .putUser user => .putUser user
  | .putAlias given => .putAlias given
  | .logMessage id author channel text written =>
    .addMessage ⟨id, author, channel, text, String.ofList written.stored⟩

namespace Service

/-- The service after entries at their moments. -/
def entering (entries : List (Timing × Entry)) : Service :=
  (start.performAll (entries.map fun (timing, entry) => (timing, entry.step))).1

theorem perform_entry (service : Service) (timing : Timing) (entry : Entry) :
    service.perform timing entry.step = service.change (·.enter entry) := by
  cases entry <;> rfl

theorem change_store (service : Service) (step : Store → Except Failure Store) :
    (service.change step).1.store = (step service.store).toOption.getD service.store := by
  unfold change
  cases step service.store <;> rfl

theorem entering_store (entries : List (Timing × Entry)) :
    (entering entries).store = Store.filled (entries.map Prod.snd) := by
  have all (service : Service) :
      (service.performAll (entries.map fun (timing, entry) => (timing, entry.step))).1.store =
        service.store.enterAll (entries.map Prod.snd) := by
    induction entries generalizing service with
    | nil => rfl
    | cons entry entries ih =>
      change ((service.perform entry.1 entry.2.step).1.performAll _).1.store = _
      rw [ih, perform_entry, change_store]
      rfl
  exact all start

theorem change_ok {service : Service} {step : Store → Except Failure Store} {answer : Answer}
    (answered : (service.change step).2 = .ok answer) :
    step service.store = .ok (service.change step).1.store := by
  unfold change at answered ⊢
  cases done : step service.store with
  | error failure => simp [done] at answered
  | ok next => rfl

theorem change_error {service : Service} {step : Store → Except Failure Store} {failure : Failure}
    (failed : (service.change step).2 = .error failure) :
    (service.change step).1.store = service.store := by
  unfold change at failed ⊢
  cases done : step service.store with
  | error failure => rfl
  | ok next => simp [done] at failed

/-- After any entries the keys of the tables are unique and in the range of the storage, and every
alias has its user. From there an entry that fails changes nothing, a name is put in without
anything else, tables that are made again lose nothing, and every message stays as it was logged. -/
theorem entering_keeps (entries : List (Timing × Entry)) :
    let service := entering entries
    let store := service.store
    (store.Keyed ∧ store.Owned) ∧
    (∀ timing (entry : Entry) failure, (service.perform timing entry.step).2 = .error failure →
      (service.perform timing entry.step).1.store = store) ∧
    (∀ timing user answer, (service.perform timing (.putUser user)).2 = .ok answer →
      Store.Renames user store (service.perform timing (.putUser user)).1.store) ∧
    (∀ timing, (service.perform timing .create).2 = .ok .done ∧
      store.Within (service.perform timing .create).1.store) ∧
    ∀ more, ∀ messages ∈ store.messages, ∃ logged,
      (entering (entries ++ more)).store.messages = some logged ∧ messages <+: logged ∧
        ∀ message ∈ messages, ∀ other ∈ logged, other.id = message.id → other = message := by
  intro service store
  have filled : store = Store.filled (entries.map Prod.snd) := entering_store entries
  refine ⟨⟨filled ▸ Store.keyed_filled _, filled ▸ Store.owned_filled _⟩, ?_, ?_, ?_, ?_⟩
  · intro timing entry failure failed
    rw [perform_entry] at failed ⊢
    exact change_error failed
  · intro timing user answer answered
    exact Store.renames_putUser (change_ok answered)
  · intro timing
    exact ⟨rfl, Store.within_create store⟩
  · intro more messages log
    rw [Option.mem_def, filled] at log
    obtain ⟨logged, there, first⟩ := Store.continues_filled log (more.map Prod.snd)
    rw [entering_store, List.map_append]
    refine ⟨logged, there, first, ?_⟩
    intro message member other found same
    have keys := (Store.keyed_filled _).messages logged there
    exact List.inj_on_of_nodup_map keys.unique found (first.subset member) same

theorem entering_keeps_renamed :
    let now : Instant := ⟨1262304000, 0⟩
    let timing := Timing.once now
    let entries : List (Timing × Entry) := [(timing, .create), (timing, .putUser ⟨42, "alice"⟩),
      (timing, .putAlias ⟨42, "al"⟩), (timing, .logMessage 1 42 111 "hello" now)]
    let more : List (Timing × Entry) := [(timing, .putUser ⟨42, "alicia"⟩), (timing, .create),
      (timing, .putAlias ⟨42, "al"⟩), (timing, .logMessage 1 42 111 "again" now)]
    let stranger : Entry := .putAlias ⟨7, "nobody"⟩
    let message : Message := ⟨1, 42, 111, "hello", "2010-01-01 00:00:00+00:00"⟩
    let service := entering entries
    service.store = ⟨some [⟨42, "alice"⟩], some [⟨42, "al"⟩], some [message]⟩ ∧
      (service.perform timing stranger.step).2 = .error .storage ∧
      (service.perform timing stranger.step).1.store = service.store ∧
      (service.perform timing (.putUser ⟨42, "alicia"⟩)).2 = .ok .done ∧
      Store.Renames ⟨42, "alicia"⟩ service.store
        (service.perform timing (.putUser ⟨42, "alicia"⟩)).1.store ∧
      ∃ logged, (entering (entries ++ more)).store.messages = some logged ∧
        ∀ other ∈ logged, other.id = message.id → other = message := by
  intro now timing entries more stranger message service
  have store : service.store = ⟨some [⟨42, "alice"⟩], some [⟨42, "al"⟩], some [message]⟩ := by
    decide +kernel
  obtain ⟨_, failing, naming, _, logging⟩ := entering_keeps entries
  have refused : (service.perform timing stranger.step).2 = .error .storage := by
    rw [perform_entry, change, store]
    rfl
  have named : (service.perform timing (.putUser ⟨42, "alicia"⟩)).2 = .ok .done := by
    rw [perform, change, store]
    rfl
  obtain ⟨logged, there, _, stays⟩ := logging more [message] (congrArg Store.messages store)
  exact ⟨store, refused, failing timing stranger .storage refused, named,
    naming timing ⟨42, "alicia"⟩ .done named, logged, there, stays message (by simp)⟩

end Service

end ChatLog
