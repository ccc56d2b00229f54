import ChatLog.Proofs.Keys
import ChatLog.Proofs.Outline
import Mathlib.Data.List.Forall2
import Mathlib.Data.List.Perm.Subperm
import Mathlib.Data.Set.List

/-!
The rows that a search lists. The messages that are sought and whose authors have a name, newest
first, are cut to the part that the span asks for. Ids are unique and smaller than `2 ^ 63`, so
there are too few messages for the limits of the storage's integers to cut anything more. Counting
and listing each have a moment of their own, so a search for recent messages may be for more of
them when it counts than when it lists.
-/
namespace ChatLog

instance (criteria : Criteria) (now : Moment) (message : Message) :
    Decidable (criteria.Asks now message) :=
  decidable_of_iff
    ((criteria.users.isEmpty ∨ message.author ∈ criteria.users) ∧
      (criteria.channels.isEmpty ∨ message.channel ∈ criteria.channels) ∧
      (criteria.message = "" ∨ Store.matchesPattern
        (Text.Wildcard.containing criteria.message) message.text = .ok true) ∧
      ∀ seconds ∈ criteria.seconds, 0 ≤ seconds →
        now.reader.isNewer message.time now.instant seconds)
    ⟨fun ⟨author, channel, text, recent⟩ => ⟨author, channel, text, recent⟩,
      fun asks => ⟨asks.author, asks.channel, asks.text, asks.recent⟩⟩

instance (origin : Origin) (settings : Settings) (message : Message) :
    Decidable (origin.Admits settings message) :=
  decidable_of_iff
    (message.channel ≠ settings.modChannelId ∧ message.author ≠ settings.selfId ∧
      message.id ≠ origin.messageId ∧
      (message.channel = settings.spoilerChannelId →
        origin.channelId = settings.spoilerChannelId) ∧
      Store.matchesPattern (Text.Wildcard.opening settings.commandTrigger) message.text =
        .ok false)
    ⟨fun ⟨channel, author, other, spoiler, plain⟩ => ⟨channel, author, other, spoiler, plain⟩,
      fun admits =>
        ⟨admits.channel, admits.author, admits.other, admits.spoiler, admits.plain⟩⟩

def Query.sought (criteria : Criteria) (origin : Origin) (settings : Settings) (now : Moment)
    (messages : List Message) : List Message :=
  messages.filter fun message => criteria.Asks now message ∧ origin.Admits settings message

/-- The part of a listing that a span asks for, at most `most` rows long. -/
def Span.page {α : Type} (most : UInt64) (listing : List α) : Span → List α
  | .countOnly => []
  | .rows first last =>
    (listing.drop (first.toNat - 1)).take
      (if first = 0 then min last.toNat most.toNat
        else min (max last.toNat first.toNat - first.toNat + 1) most.toNat)

/-- A row that shows a message under the name that its author has. -/
structure Row.Shows (reader : TimeReader) (users : List User) (row : Row) (message : Message) :
    Prop where
  author : ⟨message.author, row.author⟩ ∈ users
  text : row.message = message.text
  written : reader.read? message.time = some row.written

theorem length_le_of_small {numbers : List Nat} {bound : Nat} (unique : numbers.Nodup)
    (small : ∀ n ∈ numbers, n < bound) : numbers.length ≤ bound := by
  have inside : numbers ⊆ List.range bound := fun n member => List.mem_range.mpr (small n member)
  have length := (unique.subperm inside).length_le
  rwa [List.length_range] at length

theorem Span.page_eq {α : Type} {span : Span} {most : UInt64} {window : Window}
    (shrunk : span.window? most = some window) (listing : List α) :
    span.page most listing =
      (listing.drop (window.offset.getD 0).toNat).take window.limit.toNat := by
  cases span with
  | countOnly => cases shrunk
  | rows first last =>
    by_cases start : first = 0
    · subst start
      cases Option.some.inj shrunk
      simp [page, UInt64.toNat_min]
    · simp only [window?, start, if_false] at shrunk
      cases Option.some.inj shrunk
      simp only [page, start, if_false, UInt64.toNat_min, toNat_length start, Option.getD_some,
        toNat_passed start]

theorem Span.limit_le {span : Span} {most : UInt64} {window : Window}
    (shrunk : span.window? most = some window) : window.limit ≤ most := by
  have least (length : UInt64) : min length most ≤ most := by
    rw [UInt64.le_iff_toNat_le, UInt64.toNat_min]
    exact Nat.min_le_right _ _
  cases span with
  | countOnly => cases shrunk
  | rows first last =>
    by_cases start : first = 0
    · cases (if_pos start).symm.trans shrunk
      exact least last
    · cases (if_neg start).symm.trans shrunk
      exact least _

/-- There is room for so few rows as can be asked for under a small limit. -/
theorem Span.hasRoom_of_small {span : Span} {most : UInt64} (small : most.toNat < 0x200000000000000)
    (window : Window) (shrunk : span.window? most = some window) : window.hasRoom = true :=
  decide_eq_true (Nat.lt_of_le_of_lt (UInt64.le_iff_toNat_le.mp (limit_le shrunk)) small)

/-- Fewer rows than the storage's integers can count are cut by a window as it stands, though the
storage is given no more than the greatest of its integers. -/
theorem Store.paged_storable {α : Type} {rows : List α} (few : rows.length < 0x8000000000000000)
    (window : Window) :
    paged (Window.storable window.limit) ((window.offset.map Window.storable).getD 0) rows =
      (rows.drop (window.offset.getD 0).toNat).take window.limit.toNat := by
  have skipped : rows.drop ((window.offset.map Window.storable).getD 0).toNat =
      rows.drop (window.offset.getD 0).toNat := by
    cases window.offset with
    | none => rfl
    | some offset =>
      have passed : (Window.storable offset).toNat = min offset.toNat 0x7FFFFFFFFFFFFFFF := by
        simp only [Window.storable]
        omega
      simp only [Option.map_some, Option.getD_some, passed]
      by_cases small : offset.toNat ≤ 0x7FFFFFFFFFFFFFFF
      · rw [Nat.min_eq_left small]
      · rw [List.drop_eq_nil_of_le (by omega), List.drop_eq_nil_of_le (by omega)]
  have positive : ¬ Window.storable window.limit < 0 := by
    simp only [Window.storable]
    omega
  have limited : (Window.storable window.limit).toNat =
      min window.limit.toNat 0x7FFFFFFFFFFFFFFF := by
    simp only [Window.storable]
    omega
  simp only [paged, skipped, positive, if_false, limited]
  have left : (rows.drop (window.offset.getD 0).toNat).length ≤ 0x7FFFFFFFFFFFFFFF := by
    rw [List.length_drop]
    omega
  generalize rows.drop (window.offset.getD 0).toNat = rest at left
  by_cases small : window.limit.toNat ≤ 0x7FFFFFFFFFFFFFFF
  · rw [Nat.min_eq_left small]
  · rw [List.take_of_length_le (by omega), List.take_of_length_le (by omega)]

theorem Store.take_paged {α : Type} {rows : List α} (few : rows.length < 0x8000000000000000)
    (window : Window) :
    (paged (Window.storable window.limit) ((window.offset.map Window.storable).getD 0) rows).take
        window.limit.toNat =
      (rows.drop (window.offset.getD 0).toNat).take window.limit.toNat := by
  rw [paged_storable few, List.take_take, Nat.min_self]

def Outcome.count : Outcome → Nat
  | .noResults => 0
  | .counted count => count
  | .noneInRange count => count
  | .listed count _ => count

namespace Statements

theorem run_eq (statements : Statements) {params : List Param} {count : Nat}
    (counted : statements.count params = .ok (some count)) (span : Span) (most : UInt64) :
    statements.run params span most =
      if count = 0 then .ok .noResults
      else match span.window? most with
        | none => .ok (.counted count)
        | some window => (statements.fetch params window).map fun rows =>
            if rows = [] then .noneInRange count else .listed count rows := by
  unfold run
  rw [counted]
  cases count with
  | zero => rfl
  | succ count =>
    simp only [bind, Except.bind, Nat.add_one_ne_zero, if_false]
    cases span.window? most with
    | none => rfl
    | some window =>
      simp only
      cases statements.fetch params window with
      | error failure => rfl
      | ok rows => cases rows <;> rfl

section

variable {statements : Statements} {params : List Param} {count : Nat}
  (counted : statements.count params = .ok (some count)) {span : Span} {most : UInt64}

include counted

theorem run_fetches (matched : count ≠ 0) {window : Window}
    (shrunk : span.window? most = some window) :
    statements.run params span most = (statements.fetch params window).map fun rows =>
      if rows = [] then .noneInRange count else .listed count rows := by
  rw [statements.run_eq counted, if_neg matched, shrunk]

theorem run_ok {outcome : Outcome} (ran : statements.run params span most = .ok outcome) :
    (count = 0 ∧ outcome = .noResults) ∨
    (count ≠ 0 ∧ span = .countOnly ∧ outcome = .counted count) ∨
    (count ≠ 0 ∧ span ≠ .countOnly ∧ ∃ window rows, span.window? most = some window ∧
      statements.fetch params window = .ok rows ∧
      outcome = if rows = [] then .noneInRange count else .listed count rows) := by
  by_cases matched : count = 0
  · rw [statements.run_eq counted, if_pos matched] at ran
    exact .inl ⟨matched, (Except.ok.inj ran).symm⟩
  right
  cases shrunk : span.window? most with
  | none =>
    rw [statements.run_eq counted, if_neg matched, shrunk] at ran
    exact .inl ⟨matched, (span.window?_eq_none most).mp shrunk, (Except.ok.inj ran).symm⟩
  | some window =>
    have listing : span ≠ .countOnly := by
      intro counting
      cases shrunk.symm.trans ((span.window?_eq_none most).mpr counting)
    rw [run_fetches counted matched shrunk] at ran
    obtain ⟨rows, fetched, told⟩ := map_ok_iff.mp ran
    exact .inr ⟨matched, listing, window, rows, rfl, fetched, told.symm⟩

theorem run_noResults_iff : statements.run params span most = .ok .noResults ↔ count = 0 := by
  constructor
  · intro ran
    rcases run_ok counted ran with ⟨nothing, _⟩ | ⟨_, _, told⟩ | ⟨_, _, _, rows, _, _, told⟩
    · exact nothing
    · cases told
    · split_ifs at told
  · intro nothing
    rw [statements.run_eq counted, if_pos nothing]

theorem run_counted_iff (matched : count ≠ 0) :
    statements.run params span most = .ok (.counted count) ↔ span = .countOnly := by
  constructor
  · intro ran
    rcases run_ok counted ran with ⟨_, told⟩ | ⟨_, counting, _⟩ | ⟨_, _, _, rows, _, _, told⟩
    · cases told
    · exact counting
    · split_ifs at told
  · rintro rfl
    rw [statements.run_eq counted, if_neg matched]
    rfl

/-- Whatever part of the matches is listed, they are counted. -/
theorem count_of_run {outcome : Outcome} (ran : statements.run params span most = .ok outcome) :
    outcome.count = count := by
  rcases run_ok counted ran with ⟨rfl, rfl⟩ | ⟨_, _, rfl⟩ | ⟨_, _, _, rows, _, _, rfl⟩
  · rfl
  · rfl
  · split_ifs <;> rfl

end

theorem mapM_readRow_ok_iff {stream : List (Option Row)} {rows : List Row} :
    stream.mapM readRow = .ok rows ↔ stream = rows.map some := by
  induction stream generalizing rows with
  | nil => cases rows <;> simp [pure, Except.pure]
  | cons line stream ih =>
    rw [List.mapM_cons, bind_ok_iff]
    constructor
    · rintro ⟨row, first, rest⟩
      obtain ⟨others, later, done⟩ := bind_ok_iff.mp rest
      cases done
      cases line with
      | none => cases first
      | some line =>
        cases first
        rw [List.map_cons, ih.mp later]
    · intro same
      cases rows with
      | nil => cases same
      | cons row rows =>
        obtain ⟨rfl, later⟩ := List.cons.inj same
        exact ⟨row, rfl, bind_ok_iff.mpr ⟨rows, ih.mpr later, rfl⟩⟩

/-- What has been fetched was taken from a listing that all the parameters were given to. -/
theorem fetch_ok_iff {statements : Statements} {params : List Param} {window : Window}
    {rows : List Row} :
    statements.fetch params window = .ok rows ↔
      statements.accepts (params ++ window.params) = true ∧ window.hasRoom = true ∧
        ∃ stream, statements.listing (params ++ window.params) = .ok stream ∧
          stream.take window.limit.toNat = rows.map some := by
  cases accepted : statements.accepts (params ++ window.params) with
  | false => simp [statements.fetch_of_refused accepted]
  | true =>
    cases room : window.hasRoom with
    | false => simp [statements.fetch_of_full accepted room]
    | true =>
      rw [statements.fetch_of_room accepted room]
      simp only [true_and, ← mapM_readRow_ok_iff]
      exact bind_ok_iff

end Statements

namespace Store

theorem withName_eq_some {users : List User} {message other : Message} {name : String}
    (named : withName users message = some (name, other)) :
    other = message ∧ ⟨message.author, name⟩ ∈ users := by
  obtain ⟨user, found, equal⟩ := Option.map_eq_some_iff.mp named
  cases equal
  have author : user.id = message.author := by simpa using List.find?_some found
  refine ⟨rfl, ?_⟩
  rw [← author]
  exact List.mem_of_find?_eq_some found

/-- Messages keep their order when names are joined to them. -/
theorem map_snd_withName (users : List User) (messages : List Message) :
    (messages.filterMap (withName users)).map Prod.snd =
      messages.filter fun message => message.author ∈ users.map User.id := by
  induction messages with
  | nil => rfl
  | cons message messages ih =>
    cases named : withName users message with
    | none =>
      have unknown : message.author ∉ users.map User.id := by
        simpa [withName] using named
      rw [List.filterMap_cons_none named, List.filter_cons_of_neg (by simpa using unknown), ih]
    | some pair =>
      obtain ⟨name, other⟩ := pair
      obtain ⟨rfl, member⟩ := withName_eq_some named
      have known : other.author ∈ users.map User.id := List.mem_map_of_mem member
      rw [List.filterMap_cons_some named, List.map_cons,
        List.filter_cons_of_pos (by simpa using known), ih]

section

variable {reader : TimeReader} {users : List User} {pairs : List (String × Message)}
  (known : ∀ pair ∈ pairs, ⟨pair.2.author, pair.1⟩ ∈ users)

include known

theorem shows_of_read {rows : List Row}
    (read : (pairs.map fun (name, message) => toRow reader name message) = rows.map some) :
    List.Forall₂ (Row.Shows reader users) rows (pairs.map Prod.snd) := by
  induction pairs generalizing rows with
  | nil =>
    rw [List.map_eq_nil_iff.mp read.symm]
    exact .nil
  | cons pair pairs ih =>
    obtain ⟨row, rows, rfl, first, others⟩ := List.map_eq_cons_iff.mp read.symm
    obtain ⟨author, later⟩ := List.forall_mem_cons.mp known
    obtain ⟨written, told, rfl⟩ := Option.map_eq_some_iff.mp first.symm
    exact .cons ⟨author, rfl, told⟩ (ih later others.symm)

end

theorem exists_read {reader : TimeReader} {pairs : List (String × Message)}
    (readable : ∀ pair ∈ pairs, (reader.read? pair.2.time).isSome) :
    ∃ rows : List Row,
      (pairs.map fun (name, message) => toRow reader name message) = rows.map some := by
  have told : (pairs.map fun (name, message) => toRow reader name message) ∈
      Set.range (List.map some) := by
    rw [Set.range_list_map]
    intro line member
    obtain ⟨pair, there, rfl⟩ := List.mem_map.mp member
    obtain ⟨written, reads⟩ := Option.isSome_iff_exists.mp (readable pair there)
    exact ⟨_, (Option.map_eq_some_iff.mpr ⟨written, reads, rfl⟩).symm⟩
  obtain ⟨rows, same⟩ := told
  exact ⟨rows, same.symm⟩

end Store

/-- A query asked of a shelf, with the store as it was then. -/
structure Errand where
  store : Store
  criteria : Criteria
  origin : Origin
  settings : Settings

namespace Shelf

def after (shelf : Shelf) (history : List Errand) : Shelf :=
  history.foldl (fun shelf errand => (shelf.fetch errand.store
    (.ofCriteria errand.criteria errand.origin errand.settings)).2) shelf

theorem after_sound {shelf : Shelf} (sound : shelf.Sound) (history : List Errand) :
    (shelf.after history).Sound := by
  induction history generalizing shelf with
  | nil => exact sound
  | cons errand history ih =>
    exact ih (fetch_sound sound (Query.ofCriteria_proper _ _ _) errand.store)

end Shelf

namespace Query

variable {criteria : Criteria} {origin : Origin} {settings : Settings}

theorem matching_eq_sought
    (testable : ∀ value ∈ (ofCriteria criteria origin settings).params, value.isTestable)
    (now : Moment) (messages : List Message) :
    Store.matching (ofCriteria criteria origin settings).clause now messages =
      sought criteria origin settings now messages := by
  apply List.filter_congr
  intro message _
  rw [Bool.eq_iff_iff, isMet_iff testable, decide_eq_true_iff]

/-- Whether the statements of a search can be prepared, and run on whatever messages there are. -/
structure Runs (criteria : Criteria) (origin : Origin) (settings : Settings) : Prop where
  height : (ofCriteria criteria origin settings).listing.height ≤ Statement.greatestHeight
  storable : (ofCriteria criteria origin settings).params.all Param.isStorable
  testable : ∀ value ∈ (ofCriteria criteria origin settings).params, value.isTestable

theorem height_le_of_few (origin : Origin) (settings : Settings)
    (users : criteria.users.toList.length ≤ 900)
    (channels : criteria.channels.toList.length ≤ 900) :
    (ofCriteria criteria origin settings).listing.height ≤ Statement.greatestHeight := by
  have height := height_listing criteria origin settings
  rw [Statement.greatestHeight]
  omega

def ordered (users : List User) (found : List Message) : List Message :=
  (Store.newestFirst found).filter fun message => message.author ∈ users.map User.id

theorem ordered_perm (users : List User) (found : List Message) :
    (ordered users found).Perm
      (found.filter fun message => message.author ∈ users.map User.id) :=
  (List.mergeSort_perm found _).filter _

theorem ordered_pairwise (users : List User) (found : List Message) :
    (ordered users found).Pairwise fun first second =>
      second.time < first.time ∨ first.time = second.time ∧ second.id ≤ first.id := by
  have sorted := List.pairwise_mergeSort Store.listedBefore_trans Store.listedBefore_total found
  apply (sorted.sublist List.filter_sublist).imp
  intro first second
  exact (Store.listedBefore_iff first second).mp

section

variable {reader : TimeReader} {users : List User} {found : List Message} {span : Span}
  {most : UInt64} {window : Window} (shrunk : span.window? most = some window)
  (few : found.length < 0x8000000000000000)

include shrunk few

/-- The part of a listing that is read is the part that the span asks for. -/
theorem exists_pairs (reader : TimeReader) (users : List User) : ∃ pairs : List (String × Message),
    (Store.listed reader users window found).take window.limit.toNat =
      (pairs.map fun (name, message) => Store.toRow reader name message) ∧
    (∀ pair ∈ pairs, ⟨pair.2.author, pair.1⟩ ∈ users) ∧
    pairs.map Prod.snd = span.page most (ordered users found) := by
  have cut : ((Store.newestFirst found).filterMap (Store.withName users)).length <
      0x8000000000000000 := by
    have kept := List.length_filterMap_le (Store.withName users) (Store.newestFirst found)
    rw [Store.newestFirst, List.length_mergeSort] at kept
    exact Nat.lt_of_le_of_lt kept few
  refine ⟨(((Store.newestFirst found).filterMap (Store.withName users)).drop
    (window.offset.getD 0).toNat).take window.limit.toNat, ?_, ?_, ?_⟩
  · rw [Store.listed, ← List.map_take, Store.take_paged cut]
  · rintro ⟨name, message⟩ member
    obtain ⟨other, _, joined⟩ :=
      List.mem_filterMap.mp (List.mem_of_mem_drop (List.mem_of_mem_take member))
    obtain ⟨rfl, author⟩ := Store.withName_eq_some joined
    exact author
  · rw [Span.page_eq shrunk, ordered, ← Store.map_snd_withName, List.map_take, List.map_drop]

variable {statements : Statements} {params : List Param}
  (listing : statements.listing (params ++ window.params) =
    .ok (Store.listed reader users window found))

include listing

theorem shows_of_fetch {rows : List Row} (fetched : statements.fetch params window = .ok rows) :
    List.Forall₂ (Row.Shows reader users) rows (span.page most (ordered users found)) := by
  obtain ⟨_, _, stream, answered, read⟩ := Statements.fetch_ok_iff.mp fetched
  cases listing.symm.trans answered
  obtain ⟨pairs, same, known, page⟩ := exists_pairs shrunk few reader users
  rw [← page]
  exact Store.shows_of_read known (same.symm.trans read)

theorem exists_fetch (accepted : statements.accepts (params ++ window.params) = true)
    (room : window.hasRoom = true)
    (readable : ∀ message ∈ span.page most (ordered users found),
      (reader.read? message.time).isSome) :
    ∃ rows, statements.fetch params window = .ok rows := by
  obtain ⟨pairs, same, _, page⟩ := exists_pairs shrunk few reader users
  rw [← page, List.forall_mem_map] at readable
  obtain ⟨rows, read⟩ := Store.exists_read readable
  exact ⟨rows, Statements.fetch_ok_iff.mpr ⟨accepted, room, _, listing, same.trans read⟩⟩

end

theorem fetch_ok_iff {shelf : Shelf} (sound : shelf.Sound) {store : Store}
    (users : store.users.isSome) (messages : store.messages.isSome) {prepared : Prepared} :
    let query := ofCriteria criteria origin settings
    (shelf.fetch store query).1 = .ok prepared ↔
      query.listing.height ≤ Statement.greatestHeight ∧
        prepared = ⟨query.count, query.listing⟩ := by
  intro query
  have proper := ofCriteria_proper criteria origin settings
  have tables : store.hasTables query.listing := by
    simp [Store.hasTables, listing, users, messages]
  rw [Shelf.fetch_eq_prepare sound proper tables, prepare_eq query proper, tables, Bool.true_and]
  by_cases low : query.listing.height ≤ Statement.greatestHeight
  · rw [if_pos (decide_eq_true low), Except.ok.injEq]
    exact ⟨fun same => ⟨low, same.symm⟩, fun same => same.2.symm⟩
  · rw [if_neg (by simpa using low)]
    constructor
    · intro failed
      cases failed
    · rintro ⟨height, _⟩
      exact absurd height low

namespace Runs

variable {store : Store} {messages : List Message} (runs : Runs criteria origin settings)

include runs

theorem withSpan (span : Span) : Runs { criteria with span := span } origin settings :=
  ⟨runs.height, runs.storable, runs.testable⟩

/-- The message that asks for a search is never sought, so one id is left unused. -/
theorem length_sought (keys : Store.Keys Message.id Message.id messages) (now : Moment) :
    (sought criteria origin settings now messages).length < 0x8000000000000000 := by
  have asked : origin.messageId.toNat < 0x8000000000000000 := by
    have given : Param.id origin.messageId ∈ (ofCriteria criteria origin settings).params := by
      simp [params_ofCriteria]
    exact of_decide_eq_true (List.all_eq_true.mp runs.storable _ given)
  have unique : ((sought criteria origin settings now messages).map Message.id).Nodup :=
    keys.unique.sublist (List.filter_sublist.map _)
  have numbers : ((origin.messageId ::
      (sought criteria origin settings now messages).map Message.id).map UInt64.toNat).Nodup := by
    apply List.Nodup.map fun _ _ => UInt64.toNat_inj.mp
    rw [List.nodup_cons]
    refine ⟨?_, unique⟩
    intro member
    obtain ⟨message, found, same⟩ := List.mem_map.mp member
    have admits := (of_decide_eq_true (List.mem_filter.mp found).2).2
    exact admits.other same
  have small : ∀ n ∈ (origin.messageId ::
      (sought criteria origin settings now messages).map Message.id).map UInt64.toNat,
      n < 0x8000000000000000 := by
    intro n member
    obtain ⟨id, there, rfl⟩ := List.mem_map.mp member
    rcases List.mem_cons.mp there with rfl | found
    · exact asked
    · obtain ⟨message, sought, rfl⟩ := List.mem_map.mp found
      exact keys.storable message (List.mem_filter.mp sought).1
  have length := length_le_of_small numbers small
  rwa [List.length_map, List.length_cons, List.length_map] at length

theorem count_eq (log : store.messages = some messages) (timing : Timing) :
    let query := ofCriteria criteria origin settings
    ((⟨query.count, query.listing⟩ : Prepared).on store timing).count query.params =
      .ok (some (sought criteria origin settings timing.onCount messages).length) := by
  intro query
  have answer := Store.answerCount_eq log timing.onCount query runs.testable
  rw [if_pos runs.storable, matching_eq_sought runs.testable] at answer
  exact answer

variable {most : UInt64} {window : Window} (shrunk : criteria.span.window? most = some window)

include shrunk

theorem fetch_full (store : Store) (timing : Timing) (full : window.hasRoom = false) :
    let query := ofCriteria criteria origin settings
    ((⟨query.count, query.listing⟩ : Prepared).on store timing).fetch query.params window =
      .error .noRoom :=
  Statements.fetch_of_full _ (Store.accepts_params runs.storable shrunk) full

theorem listing_eq {users : List User} (named : store.users = some users)
    (log : store.messages = some messages) (timing : Timing) :
    let query := ofCriteria criteria origin settings
    ((⟨query.count, query.listing⟩ : Prepared).on store timing).listing
        (query.params ++ window.params) =
      .ok (Store.listed timing.reader users window
        (sought criteria origin settings timing.onListing messages)) := by
  intro query
  have listing := Store.answerListing_eq log timing.onListing query runs.testable named shrunk
  rwa [if_pos runs.storable, matching_eq_sought runs.testable] at listing

theorem fetch_eq (keyed : store.Keyed) {users : List User} (named : store.users = some users)
    (log : store.messages = some messages) {timing : Timing} (room : window.hasRoom = true)
    (readable : ∀ message ∈ criteria.span.page most
      (ordered users (sought criteria origin settings timing.onListing messages)),
      (timing.reader.read? message.time).isSome) :
    let query := ofCriteria criteria origin settings
    ∃ rows, ((⟨query.count, query.listing⟩ : Prepared).on store timing).fetch query.params window =
        .ok rows ∧
      List.Forall₂ (Row.Shows timing.reader users) rows (criteria.span.page most
        (ordered users (sought criteria origin settings timing.onListing messages))) := by
  intro query
  have few := runs.length_sought (keyed.messages messages log) timing.onListing
  have accepted : ((⟨query.count, query.listing⟩ : Prepared).on store timing).accepts
      (query.params ++ window.params) = true := Store.accepts_params runs.storable shrunk
  have listing := runs.listing_eq shrunk named log timing
  obtain ⟨rows, fetched⟩ := exists_fetch shrunk few listing accepted room readable
  exact ⟨rows, fetched, shows_of_fetch shrunk few listing fetched⟩

end Runs

/-- A search for not too many users and channels counts the messages it is for, whatever was asked
of the shelf before. A listing, where there is room for its window, shows those of them whose
authors have a name, newest first and of equal times the larger id first, cut to the part that the
span asks for, if the times of that part can be read. Where there is no room, nothing is listed,
however few there are. -/
theorem run_lists_sought (history : List Errand) {store : Store} (keyed : store.Keyed)
    {users : List User} {messages : List Message} (named : store.users = some users)
    (log : store.messages = some messages) (storable : Storable criteria origin settings)
    (fewUsers : criteria.users.toList.length ≤ 900)
    (fewChannels : criteria.channels.toList.length ≤ 900)
    (text : Text.Wildcard.tooLong (Text.Wildcard.containing criteria.message) = false)
    (trigger : Text.Wildcard.tooLong (Text.Wildcard.opening settings.commandTrigger) = false)
    (timing : Timing) (most : UInt64) :
    let query := ofCriteria criteria origin settings
    let count := (sought criteria origin settings timing.onCount messages).length
    let found := sought criteria origin settings timing.onListing messages
    ∃ listing : List Message,
      listing.Perm (found.filter fun message => message.author ∈ users.map User.id) ∧
      (listing.Pairwise fun first second =>
        second.time < first.time ∨ first.time = second.time ∧ second.id ≤ first.id) ∧
      let page := criteria.span.page most listing
      ∃ prepared,
        ((Shelf.empty.after history).fetch store query).1 = .ok prepared ∧
        let answer := (prepared.on store timing).run query.params query.span most
        (answer = .ok .noResults ↔ count = 0) ∧
        (count ≠ 0 → (answer = .ok (.counted count) ↔ criteria.span = .countOnly)) ∧
        (count ≠ 0 → ∀ window, criteria.span.window? most = some window →
          (window.hasRoom = false → answer = .error .noRoom) ∧
          (window.hasRoom = true → (∀ message ∈ page, (timing.reader.read? message.time).isSome) →
            (answer = .ok (.noneInRange count) ↔ page = []) ∧
            (page ≠ [] → ∃ rows, answer = .ok (.listed count rows) ∧
              List.Forall₂ (Row.Shows timing.reader users) rows page))) := by
  intro query count found
  have runs : Runs criteria origin settings :=
    ⟨height_le_of_few origin settings fewUsers fewChannels, storable_params storable,
      testable_params origin text trigger⟩
  refine ⟨ordered users found, ordered_perm users found, ordered_pairwise users found, ?_⟩
  intro page
  have fetched : ((Shelf.empty.after history).fetch store query).1 =
      .ok ⟨query.count, query.listing⟩ :=
    (fetch_ok_iff (Shelf.after_sound Shelf.sound_empty history) (by rw [named]; rfl)
      (by rw [log]; rfl)).mpr ⟨runs.height, rfl⟩
  refine ⟨_, fetched, ?_⟩
  intro answer
  have counted := runs.count_eq log timing
  refine ⟨Statements.run_noResults_iff counted, Statements.run_counted_iff counted, ?_⟩
  intro matched window shrunk
  have ran : answer = _ := Statements.run_fetches counted matched shrunk
  refine ⟨fun full => ?_, fun room readable => ?_⟩
  · rw [ran, runs.fetch_full shrunk store timing full]
    rfl
  · obtain ⟨rows, read, shown⟩ := runs.fetch_eq shrunk keyed named log room readable
    have reported : answer = .ok (if rows = [] then .noneInRange count else .listed count rows) :=
      ran.trans (congrArg (Except.map _) read)
    have empty : rows = [] ↔ page = [] := by
      rw [← List.length_eq_zero_iff, shown.length_eq, List.length_eq_zero_iff]
    constructor
    · rw [reported, ← empty]
      split_ifs with unlisted <;> simp [unlisted]
    · intro something
      rw [reported, if_neg (mt empty.mp something)]
      exact ⟨rows, rfl, shown⟩

/-- A greeting by somebody with a name, one by somebody without, and another message. -/
theorem run_lists_sought_hello :
    let greeting : Message := ⟨1, 42, 111, "hello", "2010-01-01 00:00:00+00:00"⟩
    let stranger : Message := ⟨2, 43, 111, "oh hello", "2010-01-02 00:00:00+00:00"⟩
    let farewell : Message := ⟨3, 42, 111, "bye", "2010-01-03 00:00:00+00:00"⟩
    let timing : Timing := ⟨.exact, ⟨0, 0⟩, ⟨1, 0⟩⟩
    let store : Store := (Service.start.performAll
      [(timing, .create), (timing, .putUser ⟨42, "alice"⟩), (timing, .addMessage greeting),
        (timing, .addMessage stranger), (timing, .addMessage farewell)]).1.store
    let criteria : Criteria := ⟨.empty, .ofList [111], none, "hello", .rows 1 5⟩
    let origin : Origin := ⟨7, 111, 42⟩
    let query := ofCriteria criteria origin .builtIn
    store.Keyed ∧ Storable criteria origin .builtIn ∧
      ∃ prepared, (Shelf.empty.fetch store query).1 = .ok prepared ∧
        (prepared.on store timing).run query.params query.span 50 =
          .ok (.listed 2 [⟨"alice", "hello", ⟨1262304000, 0⟩⟩]) := by
  intro greeting stranger farewell timing store criteria origin query
  have keyed : store.Keyed := Service.performAll_keyed Store.keyed_empty _
  have named : store.users = some [⟨42, "alice"⟩] := rfl
  have log : store.messages = some [greeting, stranger, farewell] := rfl
  have storable : Storable criteria origin .builtIn := by
    constructor
    · simp [criteria]
    · intro id member
      have listed : id = 111 := by simpa [criteria] using member
      rw [listed]
      decide
    · simp [criteria]
    · decide
    · decide
    · decide
    · decide
  have counted : sought criteria origin .builtIn timing.onCount [greeting, stranger, farewell] =
      [greeting, stranger] := by decide
  have found : sought criteria origin .builtIn timing.onListing [greeting, stranger, farewell] =
      [greeting, stranger] := by decide
  obtain ⟨listing, perm, _, prepared, fetched, _, _, lists⟩ := run_lists_sought [] keyed named log
    storable (by decide) (by decide) (by decide) (by decide) timing 50
  rw [found] at perm
  rw [counted] at lists
  have only : listing = [greeting] := List.perm_singleton.mp perm
  rw [only] at lists
  have listed := (lists (by decide) ⟨5, some 0⟩ rfl).2 rfl (by decide)
  obtain ⟨rows, ran, shown⟩ := listed.2 (by decide)
  refine ⟨keyed, storable, prepared, fetched, ?_⟩
  obtain ⟨row, rest, shows, others, rfl⟩ := List.forall₂_cons_right_iff.mp shown
  cases List.forall₂_nil_right_iff.mp others
  obtain ⟨author, text, written⟩ := row
  have name : greeting.author = 42 ∧ author = "alice" := by simpa using shows.author
  have instant : Instant.ofStored? greeting.time.toList = some ⟨1262304000, 0⟩ := by decide
  rw [ran, name.2, show text = "hello" from shows.text,
    Option.some.inj (instant.symm.trans shows.written)]
  rfl

/-- One greeting, which is within a window that has no room. -/
theorem greeting_without_room :
    let greeting : Message := ⟨1, 42, 111, "hello", "2010-01-01 00:00:00+00:00"⟩
    let store : Store := ⟨some [⟨42, "alice"⟩], some [], some [greeting]⟩
    let criteria : Criteria := ⟨.empty, .empty, none, "hello", .rows 0 0x200000000000000⟩
    let origin : Origin := ⟨7, 111, 42⟩
    let query := ofCriteria criteria origin .builtIn
    sought criteria origin .builtIn ⟨.exact, 0, 0⟩ [greeting] = [greeting] ∧
      criteria.span.page 0x200000000000000 [greeting] = [greeting] ∧
      ∃ prepared, (Shelf.empty.fetch store query).1 = .ok prepared ∧
        (prepared.on store (.once ⟨0, 0⟩)).run query.params query.span 0x200000000000000 =
          .error .noRoom := by
  intro greeting store criteria origin query
  have storable : Storable criteria origin .builtIn := by
    constructor
    · simp [criteria]
    · simp [criteria]
    · simp [criteria]
    · decide
    · decide
    · decide
    · decide
  have runs : Runs criteria origin .builtIn :=
    ⟨height_le_of_few _ _ (by decide) (by decide), storable_params storable,
      testable_params origin (by decide) (by decide)⟩
  have found : sought criteria origin .builtIn ⟨.exact, 0, 0⟩ [greeting] = [greeting] := by decide
  have fetched : (Shelf.empty.fetch store query).1 = .ok ⟨query.count, query.listing⟩ :=
    (fetch_ok_iff Shelf.sound_empty rfl rfl).mpr ⟨runs.height, rfl⟩
  have shrunk : query.span.window? 0x200000000000000 = some ⟨0x200000000000000, none⟩ := rfl
  have log : store.messages = some [greeting] := rfl
  have counted := runs.count_eq log (.once ⟨0, 0⟩)
  rw [show (Timing.once ⟨0, 0⟩).onCount = ⟨.exact, 0, 0⟩ from rfl, found] at counted
  refine ⟨found, rfl, _, fetched, ?_⟩
  rw [Statements.run_fetches counted (by decide) shrunk,
    runs.fetch_full shrunk store (.once ⟨0, 0⟩) (by decide)]
  rfl

end Query

end ChatLog
