import ChatLog.Proofs.Chronology
import ChatLog.Script

/-!
What comes of a search for whatever its two statements answer. The listing is asked only for a
positive count and a range of rows; of its rows the first ones are read, as many as the window is
long, and one of them that cannot be read makes the search fail. Nothing is read of a window without
room.
-/
namespace ChatLog

namespace Statements

section

variable {statements : Statements} {params : List Param} (span : Span) (most : UInt64)

theorem run_of_error {failure : Failure} (failed : statements.count params = .error failure) :
    statements.run params span most = .error failure := by
  rw [run, failed]
  rfl

theorem run_of_noRow (nothing : statements.count params = .ok none) :
    statements.run params span most = .error .noCount := by
  rw [run, nothing]
  rfl

end

theorem mapM_readRow_cases (stream : List (Option Row)) :
    (none ∈ stream ∧ stream.mapM readRow = .error .storage) ∨
      ∃ rows, stream = rows.map some ∧ stream.mapM readRow = .ok rows := by
  induction stream with
  | nil => exact Or.inr ⟨[], rfl, rfl⟩
  | cons line stream ih =>
    rw [List.mapM_cons]
    cases line with
    | none => exact Or.inl ⟨List.mem_cons_self, rfl⟩
    | some row =>
      rcases ih with ⟨member, failed⟩ | ⟨rows, rfl, read⟩
      · refine Or.inl ⟨List.mem_cons_of_mem _ member, ?_⟩
        rw [failed]
        rfl
      · refine Or.inr ⟨row :: rows, rfl, ?_⟩
        rw [read]
        rfl

end Statements

/-- What a search comes to when only the count is asked for. -/
def Tally.settled : Tally → Except Failure Outcome
  | .noRow => .error .noCount
  | .unreadable => .error .storage
  | .number n =>
    if n < 0 then .error .storage else if n = 0 then .ok .noResults else .ok (.counted n.toNat)

namespace Tally

variable {tally : Tally}

theorem settled_unreadable (bad : tally = .unreadable ∨ ∃ n < 0, tally = .number n) :
    tally.settled = .error .storage := by
  rcases bad with rfl | ⟨n, negative, rfl⟩
  · rfl
  · exact if_pos negative

theorem settled_noRow_iff : tally.settled = .error .noCount ↔ tally = .noRow := by
  cases tally with
  | number n =>
    simp only [settled]
    split_ifs <;> simp
  | _ => simp [settled]

theorem settled_noResults_iff : tally.settled = .ok .noResults ↔ tally = .number 0 := by
  cases tally with
  | number n =>
    simp only [settled]
    split_ifs <;> simp <;> omega
  | _ => simp [settled]

theorem settled_counted_iff {count : Nat} :
    tally.settled = .ok (.counted count) ↔ 0 < count ∧ tally = .number count := by
  cases tally with
  | number n =>
    simp only [settled]
    split_ifs <;> simp <;> omega
  | _ => simp [settled]

end Tally

/-- Whatever the listing is, it is not asked unless the count is positive and rows are wanted. -/
theorem Statements.run_settled {statements : Statements} {params : List Param} {tally : Tally}
    (answered : statements.count params = tally.read) {span : Span}
    (idle : span = .countOnly ∨ ∀ n > 0, tally ≠ .number n) (most : UInt64) :
    statements.run params span most = tally.settled := by
  cases tally with
  | noRow => exact run_of_noRow span most answered
  | unreadable => exact run_of_error span most answered
  | number n =>
    by_cases negative : n < 0
    · rw [Tally.read, if_pos negative] at answered
      rw [run_of_error span most answered, Tally.settled, if_pos negative]
    · rw [Tally.read, if_neg negative] at answered
      rw [run_eq statements answered, Tally.settled, if_neg negative]
      by_cases zero : n = 0
      · rw [if_pos zero, zero]
        rfl
      · rcases idle with rfl | other
        · rw [if_neg zero, if_neg (by omega)]
          rfl
        · exact absurd rfl (other n (by omega))

namespace Script

variable {script : Script} {params : List Param} {span : Span} {most : UInt64}

section

variable {count : Nat} (positive : 0 < count) (counted : script.count params = .number count)
  {window : Window} (shrunk : span.window? most = some window)

include positive counted shrunk

theorem run_fetched : script.statements.run params span most =
    (script.statements.fetch params window).map fun rows =>
      if rows = [] then .noneInRange count else .listed count rows := by
  have answered : script.statements.count params = .ok (some count) := by
    simp [statements, counted, Tally.read]
  simp only [Statements.run_eq _ answered, Nat.pos_iff_ne_zero.mp positive, if_false, shrunk]

theorem run_refused (refused : script.accepts (params ++ window.params) = false) :
    script.statements.run params span most = .error .storage := by
  rw [run_fetched positive counted shrunk, Statements.fetch_of_refused _ refused]
  rfl

section

variable (accepted : script.accepts (params ++ window.params) = true)

include accepted

theorem run_full (full : window.hasRoom = false) :
    script.statements.run params span most = .error .noRoom := by
  rw [run_fetched positive counted shrunk, Statements.fetch_of_full _ accepted full]
  rfl

theorem run_roomy (room : window.hasRoom = true) :
    let result := script.statements.run params span most
    let shown := (script.stream (params ++ window.params)).take window.limit.toNat
    (none ∈ shown ∧ result = .error .storage) ∨
      (shown = [] ∧ result = .ok (.noneInRange count)) ∨
      ∃ rows, rows ≠ [] ∧ rows.map some = shown ∧ result = .ok (.listed count rows) := by
  intro result shown
  have ran : result = (shown.mapM Statements.readRow).map fun rows =>
      if rows = [] then .noneInRange count else .listed count rows := by
    simp only [result, run_fetched positive counted shrunk]
    rw [Statements.fetch_of_room _ accepted room]
    rfl
  rcases Statements.mapM_readRow_cases shown with ⟨member, failed⟩ | ⟨rows, whole, read⟩
  · exact Or.inl ⟨member, by rw [ran, failed]; rfl⟩
  · right
    rw [ran, read]
    cases rows with
    | nil => exact Or.inl ⟨whole, rfl⟩
    | cons row rows => exact Or.inr ⟨row :: rows, by simp, whole.symm, rfl⟩

end

theorem run_not_settled :
    let result := script.statements.run params span most
    result ≠ .error .noCount ∧ result ≠ .ok .noResults ∧ ∀ n, result ≠ .ok (.counted n) := by
  intro result
  cases accepts : script.accepts (params ++ window.params) with
  | false => simp [result, run_refused positive counted shrunk accepts]
  | true =>
    cases room : window.hasRoom with
    | false => simp [result, run_full positive counted shrunk accepts room]
    | true =>
      rcases run_roomy positive counted shrunk accepts room with
        ⟨_, failed⟩ | ⟨_, nothing⟩ | ⟨rows, _, _, listed⟩
      · simp [result, failed]
      · simp [result, nothing]
      · simp [result, listed]

theorem run_window (accepted : script.accepts (params ++ window.params) = true)
    (room : window.hasRoom = true) :
    let result := script.statements.run params span most
    let stream := script.stream (params ++ window.params)
    let limit := window.limit.toNat
    (result = .error .storage ↔ none ∈ stream.take limit) ∧
    (result = .ok (.noneInRange count) ↔ limit = 0 ∨ stream = []) ∧
    (limit ≠ 0 → stream ≠ [] → none ∉ stream.take limit → ∃ rows,
      result = .ok (.listed count rows) ∧ rows.map some = stream.take limit ∧
        rows.length = min limit stream.length ∧ rows ≠ [] ∧ rows.length ≤ most.toNat) := by
  intro result stream limit
  have empty : limit = 0 ∨ stream = [] ↔ stream.take limit = [] := List.take_eq_nil_iff.symm
  rw [empty]
  rcases run_roomy positive counted shrunk accepted room with
    ⟨member, failed⟩ | ⟨nothing, ran⟩ | ⟨rows, proper, shown, ran⟩
  · have filled := List.ne_nil_of_mem member
    refine ⟨iff_of_true failed member, iff_of_false ?_ filled, ?_⟩
    · simp [result, failed]
    · exact fun _ _ absent => absurd member absent
  · refine ⟨iff_of_false ?_ ?_, iff_of_true ran nothing, ?_⟩
    · simp [result, ran]
    · simp [stream, limit, nothing]
    · intro positive filled _
      rcases empty.mpr nothing with zero | unfilled
      · exact absurd zero positive
      · exact absurd unfilled filled
  · have length : rows.length = min limit stream.length := by
      rw [← List.length_map (f := some), shown, List.length_take]
    have few : limit ≤ most.toNat := UInt64.le_iff_toNat_le.mp (Span.limit_le shrunk)
    refine ⟨iff_of_false ?_ ?_, iff_of_false ?_ ?_, ?_⟩
    · simp [result, ran]
    · simp [stream, limit, ← shown]
    · simp [result, ran]
    · simpa [stream, limit, ← shown] using proper
    · exact fun _ _ _ => ⟨rows, ran, shown, length, proper, by omega⟩

theorem run_same_front {other : List (Option Row)} (same : other.take window.limit.toNat =
      (script.stream (params ++ window.params)).take window.limit.toNat) :
    ({ script with stream := fun _ => other } : Script).statements.run params span most =
      script.statements.run params span most := by
  let changed : Script := { script with stream := fun _ => other }
  have fetched : changed.statements.fetch params window =
      script.statements.fetch params window := by
    cases accepts : script.accepts (params ++ window.params) with
    | false =>
      rw [changed.statements.fetch_of_refused accepts, Statements.fetch_of_refused _ accepts]
    | true =>
      cases room : window.hasRoom with
      | false =>
        rw [changed.statements.fetch_of_full accepts room, Statements.fetch_of_full _ accepts room]
      | true =>
        rw [changed.statements.fetch_of_room accepts room, Statements.fetch_of_room _ accepts room]
        exact congrArg (List.mapM Statements.readRow) same
  have told : changed.count params = .number count := counted
  rw [run_fetched positive counted shrunk, ← fetched]
  exact run_fetched positive told shrunk

end

/-- What a search comes to, for all that its statements can answer. It fails without a count when
there is no row to count in, and as the storage does when the value there is none; zero is no
result, and a positive number is all there is to say when no rows are wanted. In these cases it is
the same with any other listing. Otherwise the listing is asked for its window, and where there is
room for that, the first rows of its stream are read, as many as the window is long. Where there is
no room, no row is read, however few there are. -/
theorem run_outcome (script : Script) (params : List Param) (span : Span) (most : UInt64) :
    let tally := script.count params
    let result := script.statements.run params span most
    (result = .error .noCount ↔ tally = .noRow) ∧
    (tally = .unreadable ∨ (∃ n < 0, tally = .number n) → result = .error .storage) ∧
    (result = .ok .noResults ↔ tally = .number 0) ∧
    (∀ count : Nat, result = .ok (.counted count) ↔
      0 < count ∧ tally = .number count ∧ span = .countOnly) ∧
    ((span = .countOnly ∨ ∀ n > 0, tally ≠ .number n) → ∀ other : Statements,
      other.count params = script.statements.count params → other.run params span most = result) ∧
    ∀ count : Nat, 0 < count → tally = .number count → span ≠ .countOnly →
      ∃ window, span.window? most = some window ∧
        let asked := params ++ window.params
        let stream := script.stream asked
        let limit := window.limit.toNat
        (script.accepts asked = false → result = .error .storage) ∧
        (script.accepts asked = true → window.hasRoom = false → result = .error .noRoom) ∧
        (script.accepts asked = true → window.hasRoom = true →
          (result = .error .storage ↔ none ∈ stream.take limit) ∧
          (result = .ok (.noneInRange count) ↔ limit = 0 ∨ stream = []) ∧
          (limit ≠ 0 → stream ≠ [] → none ∉ stream.take limit → ∃ rows,
            result = .ok (.listed count rows) ∧ rows.map some = stream.take limit ∧
              rows.length = min limit stream.length ∧ rows ≠ [] ∧ rows.length ≤ most.toNat)) ∧
        ∀ other : List (Option Row), other.take limit = stream.take limit →
          ({ script with stream := fun _ => other } : Script).statements.run params span most =
            result := by
  intro tally result
  by_cases idle : span = .countOnly ∨ ∀ n > 0, tally ≠ .number n
  · have settled : result = tally.settled := Statements.run_settled rfl idle most
    refine ⟨?_, ?_, ?_, ?_, ?_, ?_⟩
    · rw [settled, Tally.settled_noRow_iff]
    · exact fun bad => settled.trans (Tally.settled_unreadable bad)
    · rw [settled, Tally.settled_noResults_iff]
    · intro count
      rw [settled, Tally.settled_counted_iff, ← and_assoc, iff_self_and]
      rintro ⟨positive, counted⟩
      exact idle.resolve_right fun other => other count (by omega) counted
    · intro _ other same
      rw [settled]
      exact Statements.run_settled same idle most
    · intro count positive counted ranged
      exact absurd counted (idle.resolve_left ranged count (by omega))
  · obtain ⟨ranged, waits⟩ := not_or.mp idle
    obtain ⟨n, above, counted⟩ : ∃ n > 0, tally = .number n := by simpa using waits
    obtain ⟨count, rfl⟩ : ∃ count : Nat, n = count := ⟨n.toNat, by omega⟩
    have positive : 0 < count := by omega
    obtain ⟨window, shrunk⟩ : ∃ window, span.window? most = some window :=
      Option.ne_none_iff_exists'.mp (mt (Span.window?_eq_none span most).mp ranged)
    obtain ⟨noCount, noResults, notCounted⟩ := run_not_settled positive counted shrunk
    refine ⟨?_, ?_, ?_, ?_, fun settled => absurd settled idle, ?_⟩
    · exact iff_of_false noCount (by simp [counted])
    · rintro (bad | ⟨m, negative, bad⟩)
      · cases counted.symm.trans bad
      · cases counted.symm.trans bad
        omega
    · exact iff_of_false noResults (by simp [counted]; omega)
    · exact fun m => iff_of_false (notCounted m) fun told => ranged told.2.2
    · intro other _ same _
      obtain rfl : count = other := by exact_mod_cast Tally.number.inj (counted.symm.trans same)
      exact ⟨window, shrunk, run_refused positive counted shrunk, run_full positive counted shrunk,
        run_window positive counted shrunk,
        fun _ same => run_same_front positive counted shrunk same⟩

/-- A listing of one place with more rows than are asked for, the last of them unreadable, and a
count that is negative. -/
theorem run_outcome_unreadable :
    let hello : Row := ⟨"alice", "hello", ⟨1262304000, 0⟩⟩
    let farewell : Row := ⟨"bob", "bye", ⟨1262217600, 0⟩⟩
    let script : Script := ⟨fun _ => .number 3, fun params => params.length == 1,
      fun _ => [some hello, some farewell, none]⟩
    let negative : Script := { script with count := fun _ => .number (-1) }
    script.count [] = .number 3 ∧ script.accepts [.int 2] = true ∧ script.accepts [.int 3] = true ∧
      script.accepts [.int 2, .int 4] = false ∧
      script.statements.run [] (.newest 2) 50 = .ok (.listed 3 [hello, farewell]) ∧
      script.statements.run [] (.newest 3) 50 = .error .storage ∧
      script.statements.run [] (.rows 5 6) 50 = .error .storage ∧
      (∀ accepts listing, Statements.run ⟨script.statements.count, accepts, listing⟩ [] .countOnly
        50 = .ok (.counted 3)) ∧
      negative.statements.run [] (.newest 2) 50 = .error .storage := by
  intro hello farewell script negative
  refine ⟨rfl, rfl, rfl, rfl, ?_, ?_, ?_, ?_, ?_⟩
  · obtain ⟨_, _, _, _, _, asks⟩ := run_outcome script [] (.newest 2) 50
    obtain ⟨window, shrunk, _, _, accepted, _⟩ := asks 3 (by decide) rfl nofun
    cases shrunk
    obtain ⟨_, _, lists⟩ := accepted rfl (by decide)
    obtain ⟨rows, ran, shown, _⟩ := lists (by decide) (by decide) (by decide)
    have both : rows = [hello, farewell] :=
      List.map_injective_iff.mpr (fun _ _ => Option.some.inj) shown
    rw [ran, both]
  · obtain ⟨_, _, _, _, _, asks⟩ := run_outcome script [] (.newest 3) 50
    obtain ⟨window, shrunk, _, _, accepted, _⟩ := asks 3 (by decide) rfl nofun
    cases shrunk
    exact (accepted rfl (by decide)).1.mpr (by decide)
  · obtain ⟨_, _, _, _, _, asks⟩ := run_outcome script [] (.rows 5 6) 50
    obtain ⟨window, shrunk, refused, _⟩ := asks 3 (by decide) rfl nofun
    cases shrunk
    exact refused rfl
  · intro accepts listing
    obtain ⟨_, _, _, counted, same, _⟩ := run_outcome script [] .countOnly 50
    rw [same (Or.inl rfl) ⟨script.statements.count, accepts, listing⟩ rfl]
    exact (counted 3).mpr ⟨by decide, rfl, rfl⟩
  · exact (run_outcome negative [] (.newest 2) 50).2.1 (Or.inr ⟨-1, by decide, rfl⟩)

/-- One readable row, asked for by a window without room. -/
theorem row_without_room :
    let hello : Row := ⟨"alice", "hello", ⟨1262304000, 0⟩⟩
    let script : Script := ⟨fun _ => .number 1, fun _ => true, fun _ => [some hello]⟩
    let window : Window := ⟨0x200000000000000, none⟩
    let shown := (script.stream window.params).take window.limit.toNat
    (Span.newest 0x200000000000000).window? 0x200000000000000 = some window ∧
      script.accepts window.params = true ∧ shown ≠ [] ∧ none ∉ shown ∧
      script.statements.run [] (.newest 0x200000000000000) 0x200000000000000 =
        .error .noRoom := by
  decide

end Script

end ChatLog
