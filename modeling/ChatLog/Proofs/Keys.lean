import ChatLog.Service
import Mathlib.Data.List.Nodup
import Mathlib.Tactic.SplitIfs

/-!
The keys of the tables. User ids, pairs of user and alias, and message ids are never repeated, and
they are ids that the storage can hold. Every operation on a store keeps that, so it holds of
whatever store a service has come to.
-/
namespace ChatLog

/-- A step and what follows it succeed when both do. -/
theorem bind_ok_iff {α β : Type} {step : Except Failure α} {next : α → Except Failure β}
    {result : β} : (step >>= next) = .ok result ↔
      ∃ found, step = .ok found ∧ next found = .ok result := by
  cases step with
  | error failure => simp [bind, Except.bind]
  | ok found => simp [bind, Except.bind]

theorem map_ok_iff {α β : Type} {next : α → β} {step : Except Failure α} {result : β} :
    step.map next = .ok result ↔ ∃ found, step = .ok found ∧ next found = result := by
  cases step <;> simp [Except.map]

namespace Store

/-- Rows whose keys are never repeated, with ids that the storage can hold. -/
structure Keys {α κ : Type} (key : α → κ) (id : α → Id) (rows : List α) : Prop where
  unique : (rows.map key).Nodup
  storable : ∀ row ∈ rows, (id row).toNat < 0x8000000000000000

structure Keyed (store : Store) : Prop where
  users : ∀ users ∈ store.users, Keys User.id User.id users
  aliases : ∀ aliases ∈ store.aliases, Keys (fun given => given) Alias.user aliases
  messages : ∀ messages ∈ store.messages, Keys Message.id Message.id messages

theorem holds_ok_iff {id : Id} : holds id = .ok () ↔ id.toNat < 0x8000000000000000 := by
  unfold holds
  split <;> simp_all

theorem rows_ok_iff {α : Type} {table : Option (List α)} {found : List α} :
    rows table = .ok found ↔ table = some found := by
  cases table <;> simp [rows]

/-! What each operation that succeeds has checked, and what it has written. -/

section

variable {store next : Store}

theorem putUser_ok {user : User} (done : store.putUser user = .ok next) :
    ∃ users, user.id.toNat < 0x8000000000000000 ∧ store.users = some users ∧
      next = { store with users := some (setName user users) } := by
  obtain ⟨⟨⟩, held, done⟩ := bind_ok_iff.mp done
  obtain ⟨users, there, done⟩ := bind_ok_iff.mp done
  cases done
  exact ⟨users, holds_ok_iff.mp held, rows_ok_iff.mp there, rfl⟩

theorem putAlias_ok {given : Alias} (done : store.putAlias given = .ok next) :
    ∃ aliases users, given.user.toNat < 0x8000000000000000 ∧ store.aliases = some aliases ∧
      store.users = some users ∧
      (given ∈ aliases ∧ next = store ∨
        given ∉ aliases ∧ given.user ∈ users.map User.id ∧
          next = { store with aliases := some (aliases ++ [given]) }) := by
  obtain ⟨⟨⟩, held, done⟩ := bind_ok_iff.mp done
  obtain ⟨aliases, log, done⟩ := bind_ok_iff.mp done
  obtain ⟨users, there, done⟩ := bind_ok_iff.mp done
  refine ⟨aliases, users, holds_ok_iff.mp held, rows_ok_iff.mp log, rows_ok_iff.mp there, ?_⟩
  split_ifs at done with old owned
  · cases done
    exact Or.inl ⟨old, rfl⟩
  · cases done
    obtain ⟨user, member, same⟩ := List.any_eq_true.mp owned
    exact Or.inr ⟨old, List.mem_map.mpr ⟨user, member, beq_iff_eq.mp same⟩, rfl⟩

theorem addMessage_ok {message : Message} (done : store.addMessage message = .ok next) :
    ∃ messages, message.id.toNat < 0x8000000000000000 ∧ store.messages = some messages ∧
      message.id ∉ messages.map Message.id ∧
      next = { store with messages := some (messages ++ [message]) } := by
  obtain ⟨⟨⟩, held, done⟩ := bind_ok_iff.mp done
  obtain ⟨⟨⟩, _, done⟩ := bind_ok_iff.mp done
  obtain ⟨⟨⟩, _, done⟩ := bind_ok_iff.mp done
  obtain ⟨messages, there, done⟩ := bind_ok_iff.mp done
  split_ifs at done with known
  cases done
  refine ⟨messages, holds_ok_iff.mp held, rows_ok_iff.mp there, ?_, rfl⟩
  intro member
  obtain ⟨other, logged, equal⟩ := List.mem_map.mp member
  exact known (List.any_eq_true.mpr ⟨other, logged, beq_iff_eq.mpr equal⟩)

end

theorem Keys.nil {α κ : Type} (key : α → κ) (id : α → Id) : Keys key id [] :=
  ⟨List.nodup_nil, by simp⟩

theorem Keys.append {α κ : Type} {key : α → κ} {id : α → Id} {rows : List α}
    (keys : Keys key id rows) {row : α} (new : key row ∉ rows.map key)
    (holds : (id row).toNat < 0x8000000000000000) : Keys key id (rows ++ [row]) := by
  constructor
  · rw [List.map_append, List.nodup_append]
    refine ⟨keys.unique, by simp, ?_⟩
    intro known member other last
    rw [List.map_singleton, List.mem_singleton] at last
    rintro rfl
    exact new (last ▸ member)
  · intro other member
    rcases List.mem_append.mp member with old | last
    · exact keys.storable other old
    · rw [List.mem_singleton.mp last]
      exact holds

theorem Keys.setName {users : List User} (keys : Keys User.id User.id users) {user : User}
    (holds : user.id.toNat < 0x8000000000000000) : Keys User.id User.id (setName user users) := by
  unfold Store.setName
  split
  · have same : (users.map fun other => if other.id = user.id then user else other).map User.id =
        users.map User.id := by
      rw [List.map_map]
      apply List.map_congr_left
      intro other _
      by_cases known : other.id = user.id <;> simp [known]
    constructor
    · rw [same]
      exact keys.unique
    · intro other member
      have known : other.id ∈ users.map User.id := same ▸ List.mem_map_of_mem member
      obtain ⟨before, there, equal⟩ := List.mem_map.mp known
      rw [← equal]
      exact keys.storable before there
  · rename_i absent
    apply keys.append _ holds
    intro member
    obtain ⟨other, there, equal⟩ := List.mem_map.mp member
    exact absent (List.any_eq_true.mpr ⟨other, there, by simp [equal]⟩)

theorem keyed_empty : Keyed empty := by
  constructor <;> simp [empty]

namespace Keyed

variable {store next : Store} (keyed : store.Keyed)

include keyed

theorem create : store.create.Keyed := by
  constructor
  · rintro _ ⟨⟩
    cases table : store.users with
    | none => exact .nil _ _
    | some users => exact keyed.users users table
  · rintro _ ⟨⟩
    cases table : store.aliases with
    | none => exact .nil _ _
    | some aliases => exact keyed.aliases aliases table
  · rintro _ ⟨⟩
    cases table : store.messages with
    | none => exact .nil _ _
    | some messages => exact keyed.messages messages table

theorem drop (table : Table) : (store.drop table).Keyed := by
  cases table with
  | users => exact ⟨by simp [Store.drop], keyed.aliases, keyed.messages⟩
  | aliases => exact ⟨keyed.users, by simp [Store.drop], keyed.messages⟩
  | messages => exact ⟨keyed.users, keyed.aliases, by simp [Store.drop]⟩

theorem putUser {user : User} (done : store.putUser user = .ok next) : next.Keyed := by
  obtain ⟨users, held, there, rfl⟩ := putUser_ok done
  refine ⟨?_, keyed.aliases, keyed.messages⟩
  rintro _ ⟨⟩
  exact (keyed.users users there).setName held

theorem putAlias {given : Alias} (done : store.putAlias given = .ok next) : next.Keyed := by
  obtain ⟨aliases, users, held, there, _, ⟨_, rfl⟩ | ⟨new, _, rfl⟩⟩ := putAlias_ok done
  · exact keyed
  · refine ⟨keyed.users, ?_, keyed.messages⟩
    rintro _ ⟨⟩
    exact (keyed.aliases aliases there).append (by simpa using new) held

theorem addMessage {message : Message} (done : store.addMessage message = .ok next) :
    next.Keyed := by
  obtain ⟨messages, held, there, new, rfl⟩ := addMessage_ok done
  refine ⟨keyed.users, keyed.aliases, ?_⟩
  rintro _ ⟨⟩
  exact (keyed.messages messages there).append new held

theorem each {α : Type} {step : α → Store → Except Failure Store}
    (keeps : ∀ item {store next : Store}, store.Keyed → step item store = .ok next → next.Keyed)
    (items : List α) : (Store.each step items store).1.Keyed := by
  induction items generalizing store with
  | nil => exact keyed
  | cons item items ih =>
    rw [Store.each]
    cases done : step item store with
    | error failure => exact keyed
    | ok next => exact ih (keeps item keyed done)

theorem plant (seed : Seed) : (store.plant seed).1.Keyed := by
  have users : (Store.each Store.putUser seed.users store).1.Keyed :=
    keyed.each (fun _ _ _ before => before.putUser) seed.users
  unfold Store.plant
  generalize Store.each Store.putUser seed.users store = planted at users
  obtain ⟨peopled, failure | _⟩ := planted
  · exact users
  have aliases : (Store.each Store.putAlias seed.aliases peopled).1.Keyed :=
    users.each (fun _ _ _ before => before.putAlias) seed.aliases
  simp only
  generalize Store.each Store.putAlias seed.aliases peopled = planted at aliases
  obtain ⟨known, failure | _⟩ := planted
  · exact aliases
  have messages : (Store.each Store.addMessage seed.messages known).1.Keyed :=
    aliases.each (fun _ _ _ before => before.addMessage) seed.messages
  exact messages

end Keyed

end Store

namespace Service

theorem change_keyed {service : Service} (keyed : service.store.Keyed)
    {step : Store → Except Failure Store}
    (keeps : ∀ {next : Store}, step service.store = .ok next → next.Keyed) :
    (service.change step).1.store.Keyed := by
  unfold change
  cases done : step service.store with
  | error failure => exact keyed
  | ok next => exact keeps done

theorem acquire_store (service : Service) (guard : String) :
    (service.acquire guard).1.store = service.store := by
  unfold acquire
  split <;> rfl

theorem release_store (service : Service) (guard : String) :
    (service.release guard).1.store = service.store := by
  unfold release
  split <;> rfl

theorem perform_keyed {service : Service} (keyed : service.store.Keyed) (timing : Timing)
    (step : Step) : (service.perform timing step).1.store.Keyed := by
  cases step with
  | create => exact keyed.create
  | putUser user => exact change_keyed keyed keyed.putUser
  | putAlias given => exact change_keyed keyed keyed.putAlias
  | addMessage message => exact change_keyed keyed keyed.addMessage
  | plant seed => exact keyed.plant seed
  | drop table => exact keyed.drop table
  | findUsers lookup => exact keyed
  | install client guard settings names => exact keyed
  | describe client =>
    simp only [perform]
    cases service.clients client <;> exact keyed
  | process client origin words =>
    simp only [perform]
    cases service.clients client <;> exact keyed
  | search client origin words =>
    simp only [perform]
    cases service.clients client <;> exact keyed
  | acquire guard =>
    rw [← acquire_store service guard] at keyed
    exact keyed
  | release guard =>
    rw [← release_store service guard] at keyed
    exact keyed
  | prepare criteria origin settings => exact keyed
  | run criteria origin settings => exact keyed

/-- The store that a service has come to by any steps is keyed. -/
theorem performAll_keyed {service : Service} (keyed : service.store.Keyed)
    (steps : List (Timing × Step)) : (service.performAll steps).1.store.Keyed := by
  induction steps generalizing service with
  | nil => exact keyed
  | cons step steps ih => exact ih (perform_keyed keyed step.1 step.2)

end Service

end ChatLog
