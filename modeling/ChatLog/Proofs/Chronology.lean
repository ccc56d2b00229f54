import ChatLog.Proofs.Entries
import ChatLog.Proofs.Outcome

/-!
Listings are in the order of time. Rows are ordered by the texts of their times, and of instants
whose year has four digits the texts are in the order of time.
-/
namespace ChatLog

theorem Statements.listing_of_run {statements : Statements} {params : List Param} {span : Span}
    {most : UInt64} {count : Nat} {rows : List Row}
    (ran : statements.run params span most = .ok (.listed count rows)) :
    ∃ (window : Window) (stream : List (Option Row)), span.window? most = some window ∧
      statements.listing (params ++ window.params) = .ok stream ∧
      stream.take window.limit.toNat = rows.map some := by
  obtain ⟨found, counted, done⟩ := bind_ok_iff.mp ran
  cases found with
  | none => cases done
  | some found =>
    rcases run_ok counted ran with ⟨_, told⟩ | ⟨_, _, told⟩ | ⟨_, _, window, fetched, shrunk,
      read, told⟩
    · cases told
    · cases told
    · split_ifs at told
      cases told
      obtain ⟨_, _, stream, answered, taken⟩ := fetch_ok_iff.mp read
      exact ⟨window, stream, shrunk, answered, taken⟩

namespace Store

theorem paged_sublist {α : Type} (limit offset : Int) (rows : List α) :
    (paged limit offset rows).Sublist rows := by
  unfold paged
  split_ifs
  · exact List.drop_sublist _ _
  · exact (List.take_sublist _ _).trans (List.drop_sublist _ _)

theorem answerListing_ok {store : Store} {now : Moment} {statement : Statement}
    {params : List Param} {stream : List (Option Row)}
    (answered : store.answerListing now statement params = .ok stream) :
    ∃ (messages : List Message) (lines : List (String × Message)), store.messages = some messages ∧
      stream = lines.map (fun (name, message) => toRow now.reader name message) ∧
      (lines.Pairwise fun first second => listedBefore first.2 second.2) ∧
      ∀ line ∈ lines, line.2 ∈ messages := by
  cases statement with
  | count condition => cases answered
  | listing condition paging =>
    obtain ⟨messages, log, answered⟩ := bind_ok_iff.mp answered
    obtain ⟨users, _, answered⟩ := bind_ok_iff.mp answered
    obtain ⟨⟨clause, left⟩, _, answered⟩ := bind_ok_iff.mp answered
    obtain ⟨⟨limit, offset⟩, _, answered⟩ := bind_ok_iff.mp answered
    obtain ⟨found, tested, answered⟩ := bind_ok_iff.mp answered
    cases answered
    have part := (paged_sublist limit offset
      ((newestFirst found).filterMap (withName users))).map Prod.snd
    rw [map_snd_withName] at part
    have sorted := List.pairwise_mergeSort listedBefore_trans listedBefore_total found
    refine ⟨messages, _, rows_ok_iff.mp log, rfl, ?_, ?_⟩
    · exact List.pairwise_map.mp (sorted.sublist (part.trans List.filter_sublist))
    · intro line member
      have known := part.subset (List.mem_map_of_mem member)
      have there := List.mem_mergeSort.mp (List.mem_filter.mp known).1
      rw [filterM_ok tested] at there
      exact (List.mem_filter.mp there).1

end Store

section

variable {reader : TimeReader} (faithful : reader.Faithful)

include faithful

theorem Store.written_of_toRow {name : String} {message : Message} {row : Row}
    (read : toRow reader name message = some row) {written : Instant} (inRange : written.InRange)
    (text : message.time = String.ofList written.stored) : row.written = written := by
  obtain ⟨told, same, rfl⟩ := Option.map_eq_some_iff.mp read
  rw [text, faithful.read_stored written inRange] at same
  exact (Option.some.inj same).symm

theorem Store.Dated.rows_pairwise {store : Store} (dated : store.Dated) {prepared : Prepared}
    {counting listing : Instant} {params : List Param} {span : Span} {most : UInt64} {count : Nat}
    {rows : List Row} (ran : (prepared.on store ⟨reader, counting, listing⟩).run params span most =
      .ok (.listed count rows)) :
    rows.Pairwise fun first second => second.written.toNanos ≤ first.written.toNanos := by
  obtain ⟨window, stream, _, answered, read⟩ := Statements.listing_of_run ran
  obtain ⟨messages, lines, log, rfl, sorted, logged⟩ := Store.answerListing_ok answered
  rw [← List.map_take] at read
  have ordered : (rows.map some).Pairwise fun first second =>
      ∀ later ∈ first, ∀ earlier ∈ second, earlier.written.toNanos ≤ later.written.toNanos := by
    rw [← read, List.pairwise_map]
    apply (sorted.sublist (List.take_sublist _ _)).imp_of_mem
    intro first second inFirst inSecond before later told earlier told'
    obtain ⟨instant, inRange, text⟩ :=
      dated messages log _ (logged _ (List.mem_of_mem_take inFirst))
    obtain ⟨instant', inRange', text'⟩ :=
      dated messages log _ (logged _ (List.mem_of_mem_take inSecond))
    rw [written_of_toRow faithful told inRange text,
      written_of_toRow faithful told' inRange' text']
    rw [listedBefore_iff, text, text', String.lt_iff_toList_lt, String.toList_ofList,
      String.toList_ofList, Instant.stored_lt_iff inRange' inRange] at before
    rcases before with less | ⟨same, _⟩
    · exact less.le
    · rw [Instant.stored_inj inRange inRange' (String.ofList_injective same)]
  simpa [List.pairwise_map] using ordered

end

/-- Of the years 1 to 9999 the bytes under which instants are stored compare as the instants do, and
are read back as the very instants. So the rows of every listing of a log that was filled with
messages of these years, whatever statements list them, come newest first. -/
theorem stored_bytes_follow_time :
    (∀ first second : Instant, first.InRange → second.InRange →
      (bytesOf (String.ofList first.stored) < bytesOf (String.ofList second.stored) ↔
        first.toNanos < second.toNanos) ∧
      (bytesOf (String.ofList first.stored) = bytesOf (String.ofList second.stored) ↔
        first = second) ∧
      Instant.ofStored? (String.ofList first.stored).toList = some first) ∧
    ∀ entries : List Entry, (∀ entry ∈ entries, entry.InRange) →
      ∀ (prepared : Prepared) (timing : Timing) (params : List Param) (span : Span)
        (most : UInt64) (count : Nat) (rows : List Row), timing.reader.Faithful →
        (prepared.on (Store.filled entries) timing).run params span most =
          .ok (.listed count rows) →
        rows.Pairwise fun first second => second.written.toNanos ≤ first.written.toNanos := by
  refine ⟨?_, ?_⟩
  · intro first second inFirst inSecond
    have bytes := Instant.bytesOf_lt_iff (Instant.plain_stored inFirst)
      (Instant.plain_stored inSecond)
    refine ⟨bytes.trans (Instant.stored_lt_iff inFirst inSecond), ?_, ?_⟩
    · constructor
      · intro same
        exact Instant.stored_inj inFirst inSecond (String.ofList_injective (bytesOf_inj same))
      · rintro rfl
        rfl
    · rw [String.toList_ofList]
      exact Instant.ofStored?_stored inFirst
  · intro entries inRange prepared timing params span most count rows faithful ran
    exact (Store.dated_filled inRange).rows_pairwise faithful ran

/-- A half second, a little more than that, and the whole second, entered in this order. -/
theorem stored_bytes_follow_time_fractions :
    let whole : Instant := ⟨1262304000, 0⟩
    let half : Instant := ⟨1262304000, 500000000⟩
    let more : Instant := ⟨1262304000, 500001000⟩
    let entries : List Entry := [.create, .putUser ⟨42, "alice"⟩,
      .logMessage 1 42 111 "hello" half, .logMessage 2 42 111 "hello" more,
      .logMessage 3 42 111 "hello" whole]
    let query :=
      Query.ofCriteria ⟨.empty, .ofList [111], none, "hello", .rows 1 5⟩ ⟨7, 111, 42⟩ .builtIn
    let timing := Timing.once ⟨0, 0⟩
    let statements := (⟨query.count, query.listing⟩ : Prepared).on (Store.filled entries) timing
    let rows : List Row :=
      [⟨"alice", "hello", more⟩, ⟨"alice", "hello", half⟩, ⟨"alice", "hello", whole⟩]
    bytesOf (String.ofList whole.stored) < bytesOf (String.ofList half.stored) ∧
      bytesOf (String.ofList half.stored) < bytesOf (String.ofList more.stored) ∧
      (∀ entry ∈ entries, entry.InRange) ∧
      statements.run query.params query.span 50 = .ok (.listed 3 rows) ∧
      rows.Pairwise fun first second => second.written.toNanos ≤ first.written.toNanos := by
  intro whole half more entries query timing statements rows
  have inRange : ∀ entry ∈ entries, entry.InRange := by decide +kernel
  let first : Message := ⟨1, 42, 111, "hello", "2010-01-01 00:00:00.500+00:00"⟩
  let second : Message := ⟨2, 42, 111, "hello", "2010-01-01 00:00:00.500001+00:00"⟩
  let third : Message := ⟨3, 42, 111, "hello", "2010-01-01 00:00:00+00:00"⟩
  have filled : Store.filled entries =
      ⟨some [⟨42, "alice"⟩], some [], some [first, second, third]⟩ := by decide +kernel
  have matched : Store.matching query.clause timing.onListing [first, second, third] =
      [first, second, third] := by decide +kernel
  have sorted : Store.newestFirst [first, second, third] = [second, first, third] := by
    rw [Store.newestFirst_perm (by decide) (List.Perm.swap second first [third])]
    exact List.mergeSort_of_pairwise (by decide)
  have window : query.span.window? 50 = some ⟨5, some 0⟩ := by decide
  have listing : statements.listing (query.params ++ Window.params ⟨5, some 0⟩) =
      .ok (rows.map some) := by
    have log : (Store.filled entries).messages = some [first, second, third] := by rw [filled]
    have named : (Store.filled entries).users = some [⟨42, "alice"⟩] := by rw [filled]
    have lists := Store.answerListing_eq log timing.onListing query (by decide +kernel) named window
    rw [if_pos (by decide +kernel), matched, Store.listed, sorted] at lists
    refine lists.trans ?_
    decide +kernel
  have counted : statements.count query.params = .ok (some 3) := by decide +kernel
  have fetched : statements.fetch query.params ⟨5, some 0⟩ = .ok rows := by
    have room : Window.hasRoom ⟨5, some 0⟩ = true := by decide
    rw [statements.fetch_of_room (by decide +kernel) room, listing]
    rfl
  have ran : statements.run query.params query.span 50 = .ok (.listed 3 rows) := by
    simp only [Statements.run_eq statements counted, window, fetched]
    rfl
  obtain ⟨compare, lists⟩ := stored_bytes_follow_time
  refine ⟨?_, ?_, inRange, ran, lists entries inRange _ _ _ _ _ _ _ TimeReader.exact_faithful ran⟩
  · exact (compare whole half (by decide) (by decide)).1.mpr (by decide)
  · exact (compare half more (by decide) (by decide)).1.mpr (by decide)

end ChatLog
