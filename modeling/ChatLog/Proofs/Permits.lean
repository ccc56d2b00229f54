import ChatLog.Proofs.Effects
import ChatLog.Proofs.Underway
import Mathlib.Data.List.Perm.Basic

/-!
Single flight. In whatever order clients take and give back permits, begin searches, move them on
and do anything else, a guard is busy exactly while one permit of it is out, held by somebody or by
a search under way, and there is never a second one. A search looks names up while its guard is
busy, and gives the guard back at whatever stage it ends.
-/
namespace ChatLog

namespace Service

theorem acquire_free {service : Service} {guard : String}
    (free : (service.guards guard).isBusy = false) :
    service.acquire guard =
      ({ service with
          guards := put guard ⟨true⟩ service.guards
          permits := guard :: service.permits },
        .acquired true true) := by
  simp [acquire, Guard.acquire?, free]

theorem acquire_busy {service : Service} {guard : String}
    (busy : (service.guards guard).isBusy = true) :
    service.acquire guard = (service, .acquired false true) := by
  simp [acquire, Guard.acquire?, busy]

theorem release_held {service : Service} {guard : String} (out : guard ∈ service.permits) :
    service.release guard =
      ({ service with
          guards := put guard .free service.guards
          permits := service.permits.erase guard },
        .released true false) := by
  simp [release, out, Guard.release, Guard.free]

theorem release_absent {service : Service} {guard : String} (absent : guard ∉ service.permits) :
    service.release guard = (service, .released false (service.guards guard).isBusy) := by
  simp [release, absent]

/-- What is no taking and no giving back leaves guards and permits alone. -/
theorem perform_quiet (service : Service) (timing : Timing) {step : Step}
    (takes : ∀ guard, step ≠ .acquire guard) (gives : ∀ guard, step ≠ .release guard) :
    (service.perform timing step).1.guards = service.guards ∧
      (service.perform timing step).1.permits = service.permits := by
  have change (change : Store → Except Failure Store) :
      (service.change change).1.guards = service.guards ∧
        (service.change change).1.permits = service.permits := by
    unfold Service.change
    split <;> exact ⟨rfl, rfl⟩
  have searched (name : String) (client : Client) (origin : Origin) (words : List String) :
      (service.searchBy timing name client origin words).1.guards = service.guards ∧
        (service.searchBy timing name client origin words).1.permits = service.permits := by
    rw [searchBy_eq]
    exact ⟨rfl, rfl⟩
  cases step with
  | acquire guard => exact absurd rfl (takes guard)
  | release guard => exact absurd rfl (gives guard)
  | putUser user => exact change _
  | putAlias given => exact change _
  | addMessage message => exact change _
  | describe name =>
    simp only [perform]
    cases service.clients name <;> exact ⟨rfl, rfl⟩
  | process name origin words =>
    simp only [perform]
    cases service.clients name with
    | none => exact ⟨rfl, rfl⟩
    | some client => exact searched name client origin words
  | search name origin words =>
    simp only [perform]
    cases service.clients name with
    | none => exact ⟨rfl, rfl⟩
    | some client => exact searched name client origin words
  | _ => exact ⟨rfl, rfl⟩

end Service

namespace Traffic

/-- Whether a move took a permit of a guard, by what came of it. -/
def took (guard : String) : Move × Event → Bool
  | (.perform (.acquire other), .performed (.ok (.acquired granted _))) => other = guard && granted
  | (.begin _ _ _, .begun other) => other = guard
  | _ => false

/-- Whether a move gave back a permit of a guard, by what came of it. -/
def dropped (guard : String) : Move × Event → Bool
  | (.perform (.release other), .performed (.ok (.released held _))) => other = guard && held
  | (.advance _, .ended other _) => other = guard
  | _ => false

def log (traffic : Traffic) (moves : List (Timing × Move)) : List (Move × Event) :=
  (moves.map Prod.snd).zip (traffic.moveAll moves).2

/-- How many permits of a guard are out: with somebody, or with a search under way. -/
def out (traffic : Traffic) (guard : String) : Nat :=
  traffic.service.permits.count guard + traffic.searches.countP (·.client.guard = guard)

/-- One permit of each guard that is busy is out, and none of any other; and the searches under way
have looked names up while their guard was busy. -/
structure Guarded (traffic : Traffic) : Prop where
  single : ∀ guard, traffic.out guard = if (traffic.service.guards guard).isBusy then 1 else 0
  under : ∀ search ∈ traffic.searches, ∀ entry ∈ search.lookups, entry.2 = true

theorem perm_cons_eraseIdx {α : Type} {items : List α} {item : α} {place : Nat}
    (here : items[place]? = some item) : items.Perm (item :: items.eraseIdx place) := by
  obtain ⟨inside, rfl⟩ := List.getElem?_eq_some_iff.mp here
  exact (List.getElem_cons_eraseIdx_perm inside).symm

theorem guarded_start : start.Guarded :=
  ⟨fun _ => rfl, fun _ under => absurd under List.not_mem_nil⟩

/-- The permits of each guard that are out after a move are those before it with what the move took
and without what it gave back. -/
def Balanced (traffic : Traffic) (move : Move) (next : Traffic × Event) : Prop :=
  ∀ guard, next.1.out guard + (dropped guard (move, next.2)).toNat =
    traffic.out guard + (took guard (move, next.2)).toNat

section

variable {traffic : Traffic} (guarded : traffic.Guarded)

include guarded

theorem Guarded.busy_of_mem {guard : String} (held : guard ∈ traffic.service.permits) :
    (traffic.service.guards guard).isBusy = true := by
  have counted := guarded.single guard
  have one : 0 < traffic.service.permits.count guard := List.count_pos_iff.mpr held
  by_contra free
  rw [out, if_neg free] at counted
  omega

theorem Guarded.busy_of_search {search : Search} (under : search ∈ traffic.searches) :
    (traffic.service.guards search.client.guard).isBusy = true := by
  have counted := guarded.single search.client.guard
  have one : 0 < traffic.searches.countP (·.client.guard = search.client.guard) :=
    List.countP_pos_iff.mpr ⟨search, under, by simp⟩
  by_contra free
  rw [out, if_neg free] at counted
  omega

theorem Guarded.under_advance {timing : Timing} {place : Nat} {search next : Search}
    {answer? : Option (Except Failure Reply)} (here : traffic.searches[place]? = some search)
    (stage : search.advance traffic.service.store (traffic.service.guards search.client.guard)
      timing = (next, answer?)) :
    ∀ entry ∈ next.lookups, entry.2 = true := by
  have member := List.mem_of_getElem? here
  obtain ⟨_, _, made, lookups⟩ := search.advance_keeps _ _ _ stage
  rw [lookups, guarded.busy_of_search member]
  intro entry looked
  rcases List.mem_append.mp looked with old | new
  · exact guarded.under search member entry old
  · obtain ⟨_, _, rfl⟩ := List.mem_map.mp new
    rfl

theorem Guarded.of_kept {move : Move} {service : Service} {event : Event}
    (guards : service.guards = traffic.service.guards)
    (permits : service.permits = traffic.service.permits)
    (quiet : ∀ guard, took guard (move, event) = false ∧ dropped guard (move, event) = false) :
    Guarded ⟨service, traffic.searches⟩ ∧
      traffic.Balanced move (⟨service, traffic.searches⟩, event) := by
  have same (guard : String) : out ⟨service, traffic.searches⟩ guard = traffic.out guard := by
    simp only [out, permits]
  refine ⟨⟨?_, guarded.under⟩, ?_⟩
  · intro guard
    rw [same, guards]
    exact guarded.single guard
  · intro guard
    simp only [same, (quiet guard).1, (quiet guard).2]

theorem Guarded.of_taken {move : Move} {next : Traffic} {event : Event} {taken : String}
    (free : (traffic.service.guards taken).isBusy = false)
    (guards : next.service.guards = Service.put taken ⟨true⟩ traffic.service.guards)
    (under : ∀ search ∈ next.searches, ∀ entry ∈ search.lookups, entry.2 = true)
    (more : ∀ guard, next.out guard = traffic.out guard + if taken = guard then 1 else 0)
    (event_took : ∀ guard, took guard (move, event) = decide (taken = guard))
    (quiet : ∀ guard, dropped guard (move, event) = false) :
    next.Guarded ∧ traffic.Balanced move (next, event) := by
  refine ⟨⟨?_, under⟩, ?_⟩
  · intro guard
    have before := guarded.single guard
    rw [more, guards, before]
    by_cases same : taken = guard
    · subst same
      simp [free, Service.put_same]
    · simp [same, Service.put_other (Ne.symm same)]
  · intro guard
    by_cases same : taken = guard <;> simp [more, event_took, quiet, same]

theorem Guarded.of_left {move : Move} {next : Traffic} {event : Event} {left : String}
    (busy : (traffic.service.guards left).isBusy = true)
    (guards : next.service.guards = Service.put left .free traffic.service.guards)
    (under : ∀ search ∈ next.searches, ∀ entry ∈ search.lookups, entry.2 = true)
    (fewer : ∀ guard, next.out guard + (if left = guard then 1 else 0) = traffic.out guard)
    (event_dropped : ∀ guard, dropped guard (move, event) = decide (left = guard))
    (quiet : ∀ guard, took guard (move, event) = false) :
    next.Guarded ∧ traffic.Balanced move (next, event) := by
  refine ⟨⟨?_, under⟩, ?_⟩
  · intro guard
    have before := guarded.single guard
    have after := fewer guard
    rw [guards]
    by_cases same : left = guard
    · subst same
      rw [busy] at before
      simp only [Service.put_same, Guard.free]
      simp at before after ⊢
      omega
    · rw [if_neg same] at after
      rw [Service.put_other (Ne.symm same), ← before]
      exact after
  · intro guard
    have after := fewer guard
    by_cases same : left = guard <;> simp [event_dropped, quiet, same] at after ⊢ <;> omega

theorem acquire_guarded (timing : Timing) (taken : String) :
    let next := traffic.move timing (.perform (.acquire taken))
    next.1.Guarded ∧ traffic.Balanced (.perform (.acquire taken)) next := by
  have moved : traffic.move timing (.perform (.acquire taken)) =
      (⟨(traffic.service.acquire taken).1, traffic.searches⟩,
        .performed (.ok (traffic.service.acquire taken).2)) := rfl
  rw [moved]
  cases busy : (traffic.service.guards taken).isBusy with
  | true =>
    rw [Service.acquire_busy busy]
    exact guarded.of_kept rfl rfl fun guard => by simp [took, dropped]
  | false =>
    rw [Service.acquire_free busy]
    refine guarded.of_taken busy rfl guarded.under ?_ (fun guard => by simp [took]) fun _ => rfl
    intro guard
    simp only [out, List.count_cons, beq_iff_eq]
    omega

theorem release_guarded (timing : Timing) (left : String) :
    let next := traffic.move timing (.perform (.release left))
    next.1.Guarded ∧ traffic.Balanced (.perform (.release left)) next := by
  have moved : traffic.move timing (.perform (.release left)) =
      (⟨(traffic.service.release left).1, traffic.searches⟩,
        .performed (.ok (traffic.service.release left).2)) := rfl
  rw [moved]
  by_cases held : left ∈ traffic.service.permits
  · rw [Service.release_held held]
    refine guarded.of_left (guarded.busy_of_mem held) rfl guarded.under ?_
      (fun guard => by simp [dropped]) fun _ => rfl
    intro guard
    have one : 0 < traffic.service.permits.count left := List.count_pos_iff.mpr held
    by_cases same : left = guard
    · subst same
      simp only [out, List.count_erase_self, if_true]
      omega
    · simp [out, same, List.count_erase]
  · rw [Service.release_absent held]
    exact guarded.of_kept rfl rfl fun guard => by simp [took, dropped]

theorem begin_guarded (timing : Timing) (name : String) (origin : Origin) (words : List String) :
    let next := traffic.move timing (.begin name origin words)
    next.1.Guarded ∧ traffic.Balanced (.begin name origin words) next := by
  have quiet (event : Event) (still : ∀ guard, event ≠ .begun guard) (guard : String) :
      took guard (.begin name origin words, event) = false ∧
        dropped guard (.begin name origin words, event) = false := by
    cases event <;> simp_all [took, dropped]
  cases installed : traffic.service.clients name with
  | none =>
    have moved : traffic.move timing (.begin name origin words) = (traffic, .nothing) := by
      simp [move, begin, installed]
    rw [moved]
    exact guarded.of_kept rfl rfl (quiet _ (by simp))
  | some client =>
    cases busy : (traffic.service.guards client.guard).isBusy with
    | true =>
      rw [show traffic.move timing (.begin name origin words) = _ from begin_busy installed busy ..]
      exact guarded.of_kept rfl rfl (quiet _ (by simp))
    | false =>
      rw [show traffic.move timing (.begin name origin words) = _ from begin_free installed busy ..]
      refine guarded.of_taken busy rfl ?_ ?_ (fun _ => rfl) fun _ => rfl
      · intro search under entry made
        rcases List.mem_append.mp under with before | new
        · exact guarded.under search before entry made
        · rw [List.mem_singleton.mp new] at made
          cases made
      · intro guard
        simp only [out, List.countP_append, List.countP_singleton, decide_eq_true_eq]
        omega

theorem advance_guarded (timing : Timing) (place : Nat) :
    let next := traffic.move timing (.advance place)
    next.1.Guarded ∧ traffic.Balanced (.advance place) next := by
  have quiet (event : Event) (still : ∀ guard shown, event ≠ .ended guard shown) (guard : String) :
      took guard (.advance place, event) = false ∧
        dropped guard (.advance place, event) = false := by
    cases event <;> simp_all [took, dropped]
  have moved : traffic.move timing (.advance place) = traffic.advance timing place := rfl
  rw [moved]
  cases here : traffic.searches[place]? with
  | none =>
    have still : traffic.advance timing place = (traffic, .nothing) := by simp [advance, here]
    rw [still]
    exact guarded.of_kept rfl rfl (quiet _ (by simp))
  | some search =>
    have busy := guarded.busy_of_search (List.mem_of_getElem? here)
    have split := perm_cons_eraseIdx here
    have counted (guard : String) : traffic.searches.countP (·.client.guard = guard) =
        (traffic.searches.eraseIdx place).countP (·.client.guard = guard) +
          if search.client.guard = guard then 1 else 0 := by
      simp only [split.countP_eq, List.countP_cons, decide_eq_true_eq]
    have others : ∀ other ∈ traffic.searches.eraseIdx place,
        ∀ entry ∈ other.lookups, entry.2 = true :=
      fun other member => guarded.under other (split.mem_iff.mpr (List.mem_cons_of_mem _ member))
    cases stage : search.advance traffic.service.store
      (traffic.service.guards search.client.guard) timing with
    | mk next answer? =>
      obtain ⟨_, same, _⟩ := search.advance_keeps _ _ _ stage
      cases answer? with
      | none =>
        rw [advance_on here stage]
        have inside : place < traffic.searches.length := (List.getElem?_eq_some_iff.mp here).1
        have replaced := List.set_perm_cons_eraseIdx inside next
        have kept (guard : String) :
            (traffic.searches.set place next).countP (·.client.guard = guard) =
              traffic.searches.countP (·.client.guard = guard) := by
          simp only [replaced.countP_eq, List.countP_cons, counted, same, decide_eq_true_eq]
        refine ⟨⟨?_, ?_⟩, ?_⟩
        · intro guard
          simpa only [out, kept] using guarded.single guard
        · intro other member
          rcases List.mem_cons.mp (replaced.mem_iff.mp member) with rfl | rest
          · exact guarded.under_advance here stage
          · exact others other rest
        · intro guard
          simp only [out, kept, (quiet .advanced (by simp) guard).1,
            (quiet .advanced (by simp) guard).2]
      | some answer =>
        rw [advance_ended here stage]
        refine guarded.of_left busy rfl others ?_ (fun _ => rfl) fun _ => rfl
        intro guard
        simp only [out, counted]
        omega

theorem move_guarded (timing : Timing) (next : Move) :
    (traffic.move timing next).1.Guarded ∧
      traffic.Balanced next (traffic.move timing next) := by
  cases next with
  | begin name origin words => exact begin_guarded guarded timing name origin words
  | advance place => exact advance_guarded guarded timing place
  | perform step =>
    by_cases takes : ∃ guard, step = .acquire guard
    · obtain ⟨guard, rfl⟩ := takes
      exact acquire_guarded guarded timing guard
    by_cases gives : ∃ guard, step = .release guard
    · obtain ⟨guard, rfl⟩ := gives
      exact release_guarded guarded timing guard
    rw [not_exists] at takes gives
    have quiet (event : Event) (guard : String) :
        took guard (.perform step, event) = false ∧
          dropped guard (.perform step, event) = false := by
      cases step <;> simp_all [took, dropped]
    have kept := traffic.service.perform_quiet timing takes gives
    unfold move
    dsimp only
    split
    · exact guarded.of_kept kept.1 kept.2 (quiet _)
    · exact guarded.of_kept rfl rfl (quiet _)

/-- Over a run, permits and guards stay together, and every permit is accounted for. -/
theorem moveAll_guarded (moves : List (Timing × Move)) :
    (traffic.moveAll moves).1.Guarded ∧ ∀ guard,
      (traffic.moveAll moves).1.out guard + (traffic.log moves).countP (dropped guard) =
        traffic.out guard + (traffic.log moves).countP (took guard) := by
  -- each move hands guarded traffic to the next, and the balances of the moves add up
  induction moves generalizing traffic with
  | nil => exact ⟨guarded, fun _ => rfl⟩
  | cons next moves ih =>
    obtain ⟨timing, next⟩ := next
    obtain ⟨first, balanced⟩ := move_guarded guarded timing next
    obtain ⟨last, rest⟩ := ih first
    refine ⟨last, ?_⟩
    intro guard
    have before := balanced guard
    have after := rest guard
    have run : traffic.log ((timing, next) :: moves) =
        (next, (traffic.move timing next).2) :: (traffic.move timing next).1.log moves := rfl
    have left : (traffic.moveAll ((timing, next) :: moves)).1 =
        ((traffic.move timing next).1.moveAll moves).1 := rfl
    have flag (answered : Bool) : answered.toNat = if answered = true then 1 else 0 := by
      cases answered <;> rfl
    rw [run, left, List.countP_cons, List.countP_cons, ← flag, ← flag]
    omega

end

theorem move_permit (traffic : Traffic) (timing : Timing) (guard : String) :
    let service := traffic.service
    (traffic.move timing (.perform (.acquire guard))).2 =
        .performed (.ok (.acquired (!(service.guards guard).isBusy) true)) ∧
      (traffic.move timing (.perform (.release guard))).2 =
        .performed (.ok (.released (guard ∈ service.permits)
          ((service.guards guard).isBusy && guard ∉ service.permits))) := by
  intro service
  have acquired : (traffic.move timing (.perform (.acquire guard))).2 =
      .performed (.ok (service.acquire guard).2) := rfl
  have released : (traffic.move timing (.perform (.release guard))).2 =
      .performed (.ok (service.release guard).2) := rfl
  constructor
  · rw [acquired]
    cases busy : (service.guards guard).isBusy with
    | true =>
      rw [Service.acquire_busy busy]
      rfl
    | false =>
      rw [Service.acquire_free busy]
      rfl
  · rw [released]
    by_cases held : guard ∈ service.permits
    · rw [Service.release_held held]
      simp [held]
    · rw [Service.release_absent held]
      simp [held]

/-- A search made in one go is refused while its guard is busy, and otherwise it is one that takes
its guard and then moves on to its end. -/
theorem move_search (traffic : Traffic) {name : String} {client : Client}
    (installed : traffic.service.clients name = some client) (timing : Timing) (origin : Origin)
    (words : List String) :
    let service := traffic.service
    ∃ next shown,
      traffic.move timing (.perform (.search name origin words)) =
        (⟨next, traffic.searches⟩, .performed (.ok (.searched shown))) ∧
      traffic.move timing (.perform (.process name origin words)) =
        (⟨next, traffic.searches⟩, .performed ((Searcher.replyTo shown.answer).map fun reply =>
          .replied reply shown)) ∧
      next.guards = service.guards ∧ next.permits = service.permits ∧
      (shown.answer = .error .busy ↔ (service.guards client.guard).isBusy = true) ∧
      (∀ entry ∈ shown.lookups, entry.2 = true) ∧
      ((service.guards client.guard).isBusy = true →
        shown.lookups = [] ∧ traffic.begin name origin words = (traffic, .refused shown)) ∧
      ((service.guards client.guard).isBusy = false → ∃ count,
        traffic.moveAll ((timing, .begin name origin words) ::
            List.replicate (count + 1) (timing, .advance traffic.searches.length)) =
          (⟨next, traffic.searches⟩, .begun client.guard :: List.replicate count .advanced ++
            [.ended client.guard shown])) := by
  intro service
  let searched := service.searchBy timing name client origin words
  have found := Service.perform_search installed timing origin words
  have processed := Service.perform_process installed timing origin words
  have kept := @Service.perform_quiet service timing (.search name origin words) (by simp) (by simp)
  rw [found] at kept
  refine ⟨searched.1, searched.2, ?_, ?_, kept.1, kept.2, ?_⟩
  · simp only [move, allows, if_true, found]
    rfl
  · simp only [move, allows, if_true, processed]
    rfl
  cases busy : (service.guards client.guard).isBusy with
  | true =>
    have refused : searched.2 = ⟨.error .busy, client.searcher.kept, true, []⟩ := by
      simp [searched, Service.searchBy, Searcher.search, Guard.acquire?, busy]
    rw [refused]
    refine ⟨by simp, by simp, ?_, by simp⟩
    exact fun _ => ⟨rfl, begin_busy installed busy origin words⟩
  | false =>
    have granted : searched.2.answer =
        (client.searcher.searchHolding service.store timing origin words).1 ∧
        ∃ made : List Lookup, searched.2.lookups = made.map (·, true) := by
      simp [searched, Service.searchBy, Searcher.search, Guard.acquire?, busy]
    obtain ⟨count, final, ends, _⟩ := Search.endsWith_read service.store ⟨true⟩ timing name client
      origin words
    refine ⟨?_, ?_, by simp, fun _ => traffic.moveAll_search installed busy timing origin words⟩
    · rw [granted.1]
      simpa using ends.failsOnly .busy
    · obtain ⟨made, lookups⟩ := granted.2
      rw [lookups]
      simp

/-- A search under way has its guard, and looks names up while it is busy. Whatever stage it ends
at, it gives the guard back then, and no other. -/
theorem move_advance {traffic : Traffic} (guarded : traffic.Guarded) {place : Nat} {search : Search}
    (here : traffic.searches[place]? = some search) (timing : Timing) :
    let service := traffic.service
    ∃ next : Search, next.client.guard = search.client.guard ∧
      (∀ entry ∈ next.lookups, entry.2 = true) ∧
      let moved : Service :=
        { service with clients := Service.put search.name (some next.client) service.clients }
      traffic.move timing (.advance place) =
          (⟨moved, traffic.searches.set place next⟩, .advanced) ∨
        ∃ answer, answer ≠ .error .busy ∧
          traffic.move timing (.advance place) =
            (⟨{ moved with guards := Service.put search.client.guard .free service.guards },
                traffic.searches.eraseIdx place⟩,
              .ended search.client.guard
                ⟨answer, next.client.searcher.kept, false, next.lookups⟩) := by
  intro service
  have moved : traffic.move timing (.advance place) = traffic.advance timing place := rfl
  cases stage : search.advance service.store (service.guards search.client.guard) timing with
  | mk next answer? =>
    obtain ⟨_, same, _⟩ := search.advance_keeps _ _ _ stage
    refine ⟨next, same, guarded.under_advance here stage, ?_⟩
    cases answer? with
    | none => exact Or.inl (moved.trans (advance_on here stage))
    | some answer =>
      have fails := search.advance_failsOnly service.store (service.guards search.client.guard)
        timing (by rw [stage])
      refine Or.inr ⟨answer, ?_, moved.trans (advance_ended here stage)⟩
      exact fun refused => fails .busy refused rfl

end Traffic

end ChatLog
