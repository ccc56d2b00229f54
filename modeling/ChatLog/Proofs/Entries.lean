import ChatLog.Proofs.Keys
import ChatLog.Proofs.StoredTime

/-!
Logs that are filled entry by entry. Tables are made, users, aliases and messages are put in, and an
entry that fails leaves no trace. Whatever was entered, the keys of the tables are kept, and every
message has the text of the instant it was entered with.
-/
namespace ChatLog

inductive Entry where
  | create
  | putUser (user : User)
  | putAlias (given : Alias)
  | logMessage (id author channel : Id) (text : String) (written : Instant)
deriving DecidableEq

/-- Whether a message is entered with an instant whose year has four digits. -/
def Entry.InRange : Entry → Prop
  | .logMessage _ _ _ _ written => written.InRange
  | _ => True

instance : DecidablePred Entry.InRange
  | .logMessage _ _ _ _ written => inferInstanceAs (Decidable written.InRange)
  | .create => isTrue trivial
  | .putUser _ => isTrue trivial
  | .putAlias _ => isTrue trivial

namespace Store

def enter (store : Store) : Entry → Except Failure Store
  | .create => .ok store.create
  | .putUser user => store.putUser user
  | .putAlias given => store.putAlias given
  | .logMessage id author channel text written => store.logMessage id author channel text written

/-- A store after entries, of which those that fail change nothing. -/
def enterAll (store : Store) (entries : List Entry) : Store :=
  entries.foldl (fun store entry => (store.enter entry).toOption.getD store) store

/-- The store that entries make of one without tables. -/
def filled (entries : List Entry) : Store :=
  empty.enterAll entries

/-- What every entry that succeeds keeps is kept by all of them. -/
theorem enterAll_keeps {holds : Store → Prop} {entries : List Entry}
    (keeps : ∀ entry ∈ entries, ∀ {store next : Store}, holds store →
      store.enter entry = .ok next → holds next)
    {store : Store} (start : holds store) : holds (store.enterAll entries) := by
  induction entries generalizing store with
  | nil => exact start
  | cons entry entries ih =>
    have rest : ∀ other ∈ entries, ∀ {store next : Store}, holds store →
        store.enter other = .ok next → holds next :=
      fun other member => keeps other (List.mem_cons_of_mem _ member)
    cases entered : store.enter entry with
    | error failure =>
      have same : store.enterAll (entry :: entries) = store.enterAll entries := by
        simp only [enterAll, List.foldl_cons, entered]
        rfl
      rw [same]
      exact ih rest start
    | ok next =>
      have gone : store.enterAll (entry :: entries) = next.enterAll entries := by
        simp only [enterAll, List.foldl_cons, entered]
        rfl
      rw [gone]
      exact ih rest (keeps entry List.mem_cons_self start entered)

theorem Keyed.enter {store next : Store} (keyed : store.Keyed) {entry : Entry}
    (entered : store.enter entry = .ok next) : next.Keyed := by
  cases entry with
  | create =>
    cases entered
    exact keyed.create
  | putUser user => exact keyed.putUser entered
  | putAlias given => exact keyed.putAlias entered
  | logMessage id author channel text written => exact keyed.addMessage entered

theorem keyed_filled (entries : List Entry) : (filled entries).Keyed :=
  enterAll_keeps (fun _ _ _ _ keyed => keyed.enter) keyed_empty

/-- Every message has the text of an instant whose year has four digits. -/
def Dated (store : Store) : Prop :=
  ∀ messages ∈ store.messages, ∀ message ∈ messages, ∃ written : Instant,
    written.InRange ∧ message.time = String.ofList written.stored

theorem dated_empty : Dated empty := by
  simp [Dated, empty]

theorem Dated.enter {store next : Store} (dated : store.Dated) {entry : Entry}
    (inRange : entry.InRange) (entered : store.enter entry = .ok next) : next.Dated := by
  cases entry with
  | create =>
    cases entered
    rintro _ ⟨⟩ message member
    cases table : store.messages with
    | none => simp [table] at member
    | some messages => exact dated messages table message (by simpa [table] using member)
  | putUser user =>
    obtain ⟨_, _, _, rfl⟩ := putUser_ok entered
    exact dated
  | putAlias given =>
    obtain ⟨_, _, _, _, _, ⟨_, rfl⟩ | ⟨_, _, rfl⟩⟩ := putAlias_ok entered
    · exact dated
    · exact dated
  | logMessage id author channel text written =>
    obtain ⟨messages, _, log, _, rfl⟩ := addMessage_ok entered
    rintro _ ⟨⟩ message member
    rcases List.mem_append.mp member with old | new
    · exact dated messages log message old
    · rw [List.mem_singleton.mp new]
      exact ⟨written, inRange, rfl⟩

theorem dated_filled {entries : List Entry} (inRange : ∀ entry ∈ entries, entry.InRange) :
    (filled entries).Dated :=
  enterAll_keeps (fun entry member _ _ dated => dated.enter (inRange entry member)) dated_empty

/-- Every storage reads the times of such messages. -/
theorem Dated.readable {store : Store} (dated : store.Dated) {reader : TimeReader}
    (faithful : reader.Faithful) {messages : List Message} (log : store.messages = some messages) :
    ∀ message ∈ messages, (reader.read? message.time).isSome := by
  intro message member
  obtain ⟨written, inRange, text⟩ := dated messages log message member
  rw [text, faithful.read_stored written inRange]
  rfl

/-- Tables of users and of messages are only ever made together. -/
def Paired (store : Store) : Prop :=
  store.users.isSome = store.messages.isSome

theorem Paired.enter {store next : Store} (paired : store.Paired) {entry : Entry}
    (entered : store.enter entry = .ok next) : next.Paired := by
  cases entry with
  | create =>
    cases entered
    rfl
  | putUser user =>
    obtain ⟨_, _, there, rfl⟩ := putUser_ok entered
    rw [Paired, there] at paired
    exact paired
  | putAlias given =>
    obtain ⟨_, _, _, _, _, ⟨_, rfl⟩ | ⟨_, _, rfl⟩⟩ := putAlias_ok entered
    · exact paired
    · exact paired
  | logMessage id author channel text written =>
    obtain ⟨_, _, there, _, rfl⟩ := addMessage_ok entered
    rw [Paired, there] at paired
    exact paired

theorem paired_filled (entries : List Entry) : (filled entries).Paired :=
  enterAll_keeps (fun _ _ _ _ paired => paired.enter) rfl

end Store

end ChatLog
