import ChatLog.Proofs.Accounts
import ChatLog.Proofs.Effects
import ChatLog.Proofs.Entries
import ChatLog.Proofs.Outcome

/-!
What a search of an intact log can fail with. A log that was filled entry by entry has its tables,
its keys and times that can be read, so every stage that needs the storage succeeds: names are
looked up, both statements are prepared and run, and the rows are read. What is left is a mentioned
id that the storage cannot hold, which is told when the statements are run, and a listing of more
rows than there is room for. Every other failure is caused by the words alone.
-/
namespace ChatLog

def Failure.BlamesWords : Failure → Prop
  | .nothingToSearch => True
  | .unknownUser _ => True
  | failure => failure.IsUnreadable

def Request.mentioned (request : Request) : List Id :=
  request.users.filterMap (fun reference => Mention.user? reference.toList) ++
    request.channels.toList

/-- Whether a request mentions an id that the storage cannot hold. -/
def Request.MentionsLarge (request : Request) : Prop :=
  ∃ id ∈ request.mentioned, 0x8000000000000000 ≤ id.toNat

namespace Store

/-- A log with all its tables, whose keys are in order and whose times can be read. -/
structure Intact (store : Store) : Prop where
  keyed : store.Keyed
  dated : store.Dated
  users : store.users.isSome
  aliases : store.aliases.isSome
  messages : store.messages.isSome

theorem Intact.enter {store next : Store} (intact : store.Intact) {entry : Entry}
    (inRange : entry.InRange) (entered : store.enter entry = .ok next) : next.Intact := by
  have keyed := intact.keyed.enter entered
  have dated := intact.dated.enter inRange entered
  obtain ⟨_, _, users, aliases, messages⟩ := intact
  cases entry with
  | create =>
    cases entered
    exact ⟨keyed, dated, rfl, rfl, rfl⟩
  | putUser user =>
    obtain ⟨_, _, _, rfl⟩ := putUser_ok entered
    exact ⟨keyed, dated, rfl, aliases, messages⟩
  | putAlias given =>
    obtain ⟨_, _, _, _, _, ⟨_, rfl⟩ | ⟨_, _, rfl⟩⟩ := putAlias_ok entered
    · exact ⟨keyed, dated, users, aliases, messages⟩
    · exact ⟨keyed, dated, users, rfl, messages⟩
  | logMessage id author channel text written =>
    obtain ⟨_, _, _, _, rfl⟩ := addMessage_ok entered
    exact ⟨keyed, dated, users, aliases, rfl⟩

theorem intact_filled {entries : List Entry} (inRange : ∀ entry ∈ entries, entry.InRange) :
    (filled (.create :: entries)).Intact := by
  have made : empty.enter .create = .ok empty.create := rfl
  have start : empty.create.Intact :=
    ⟨keyed_empty.create, dated_empty.enter (show Entry.InRange .create from trivial) made, rfl, rfl,
      rfl⟩
  have rest : filled (.create :: entries) = empty.create.enterAll entries := rfl
  rw [rest]
  exact enterAll_keeps (fun entry member _ _ intact => intact.enter (inRange entry member)) start

end Store

namespace Request

theorem Part.read_signed {word : String} {seconds : Int}
    (done : Part.read word = .ok (.recency seconds)) : Numeral.Signed seconds := by
  cases Part.read_eq_iff.mp done with
  | recency opens written signed => exact signed

theorem ofWords_ok {words : List String} {request : Request}
    (read : ofWords words = .ok request) :
    firstFailure Part.read words = none ∧ request = ofReadable words := by
  rw [ofWords_eq] at read
  cases failed : firstFailure Part.read words with
  | some failure =>
    rw [failed] at read
    cases read
  | none =>
    rw [failed] at read
    exact ⟨rfl, (Except.ok.inj read).symm⟩

theorem signed_seconds {words : List String} {seconds : Int}
    (asked : (ofReadable words).seconds = some seconds) : Numeral.Signed seconds := by
  obtain ⟨word, _, found⟩ := Option.bind_eq_some_iff.mp asked
  cases done : Part.read word with
  | error failure =>
    rw [Part.ofWord, done] at found
    cases found
  | ok part =>
    rw [Part.ofWord_eq done] at found
    cases part <;> cases found
    exact Part.read_signed done

theorem idsOf_ok_iff (directory : Directory) (limit : UInt64) (reference : String) :
    (∃ ids, idsOf directory limit reference = .ok ids) ↔
      (Mention.user? reference.toList = none → ∃ ids, ids ≠ [] ∧
        directory (lookupFor (nameOf reference) limit) = .ok ids) := by
  unfold idsOf
  cases mention : Mention.user? reference.toList with
  | some id => simp
  | none =>
    cases answer : directory (lookupFor (nameOf reference) limit) with
    | error failure => simp
    | ok ids => cases ids <;> simp

end Request

namespace Store.Intact

variable {store : Store} (intact : store.Intact)

include intact

theorem directory_ok {name : String}
    (short : Text.Wildcard.tooLong (Text.Wildcard.containing name) = false) (limit : UInt64) :
    ∃ ids, store.directory (Request.lookupFor name limit) = .ok ids ∧
      ∀ id ∈ ids, id.toNat < 0x8000000000000000 := by
  obtain ⟨users, named⟩ := Option.isSome_iff_exists.mp intact.users
  obtain ⟨aliases, given⟩ := Option.isSome_iff_exists.mp intact.aliases
  refine ⟨_, intact.keyed.directory_eq named given short limit, ?_⟩
  intro id member
  exact intact.keyed.storable_fitting named given (List.mem_of_mem_take member)

section

variable {reference : String} (limit : UInt64)
  (short : Mention.user? reference.toList = none →
    Text.Wildcard.tooLong (Text.Wildcard.containing (Request.nameOf reference)) = false)

include short

theorem idsOf_failsOnly : FailsOnly (· = .unknownUser (Request.nameOf reference))
    (Request.idsOf store.directory limit reference) := by
  unfold Request.idsOf
  cases mention : Mention.user? reference.toList with
  | some id => exact .ok [id]
  | none =>
    obtain ⟨ids, answer, _⟩ := intact.directory_ok (short mention) limit
    simp only [answer]
    cases ids with
    | nil => exact .error rfl
    | cons id ids => exact .ok _

theorem mention_of_large {ids : List Id}
    (found : Request.idsOf store.directory limit reference = .ok ids) {id : Id} (member : id ∈ ids)
    (large : 0x8000000000000000 ≤ id.toNat) : Mention.user? reference.toList = some id := by
  unfold Request.idsOf at found
  cases mention : Mention.user? reference.toList with
  | some other =>
    simp only [mention, Except.ok.injEq] at found
    subst found
    rw [List.mem_singleton.mp member]
  | none =>
    obtain ⟨known, answer, small⟩ := intact.directory_ok (short mention) limit
    simp only [mention, answer] at found
    cases known with
    | nil => cases found
    | cons first others =>
      cases found
      exact absurd (small id member) (by omega)

end

end Store.Intact

theorem Searcher.search_answer (searcher : Searcher) (store : Store) (timing : Timing)
    (origin : Origin) (words : List String) :
    (searcher.search store timing .free origin words).answer = (do
      let query ← Query.ofWords (searcher.directory store) searcher.settings origin words
      let outcome ← searcher.shelf.answer store timing query searcher.settings.maxSearchResults
      return .ofOutcome outcome query.message searcher.settings.displayRows) := by
  have answered : (searcher.search store timing .free origin words).answer =
      (searcher.searchHolding store timing origin words).1 := rfl
  rw [answered, searchHolding_eq]
  cases Query.ofWords (searcher.directory store) searcher.settings origin words with
  | error failure => rfl
  | ok query =>
    simp only [runQuery_eq, Shelf.answer, bind, Except.bind]
    cases (searcher.shelf.fetch store query).1 <;> rfl

namespace Query

/-- Whether a search finds something to list and asks for more of it than there is room for. -/
def Crowded (criteria : Criteria) (origin : Origin) (settings : Settings) (now : Moment)
    (messages : List Message) (most : UInt64) : Prop :=
  sought criteria origin settings now messages ≠ [] ∧
    ∃ window, criteria.span.window? most = some window ∧ window.hasRoom = false

variable {criteria : Criteria} {origin : Origin} {settings : Settings} {shelf : Shelf}
  (sound : shelf.Sound) {store : Store} (intact : store.Intact) {messages : List Message}
  (log : store.messages = some messages)

include sound intact log

theorem answer_unstorable
    (low : (ofCriteria criteria origin settings).listing.height ≤ Statement.greatestHeight)
    (unstorable : ¬ (ofCriteria criteria origin settings).params.all Param.isStorable = true)
    (timing : Timing) (most : UInt64) :
    shelf.answer store timing (ofCriteria criteria origin settings) most = .error .storage := by
  let query := ofCriteria criteria origin settings
  have fetched : (shelf.fetch store query).1 = .ok ⟨query.count, query.listing⟩ :=
    (fetch_ok_iff sound intact.users intact.messages).mpr ⟨low, rfl⟩
  have counts : ((⟨query.count, query.listing⟩ : Prepared).on store timing).count query.params =
      .error .storage := by
    rw [show ((⟨query.count, query.listing⟩ : Prepared).on store timing).count query.params = _
      from Store.answerCount_eq_map log timing.onCount query, if_neg unstorable]
  rw [Shelf.answer, fetched]
  simp only [bind, Except.bind, Statements.run]
  rw [counts]

/-- On an intact log a query is answered, unless it has a parameter that cannot be stored or asks
for more rows than there is room for. -/
theorem answer_intact (users : criteria.users.toList.length ≤ 900)
    (channels : criteria.channels.toList.length ≤ 900)
    (testable : ∀ value ∈ (ofCriteria criteria origin settings).params, value.isTestable)
    {timing : Timing} (faithful : timing.reader.Faithful) (most : UInt64) :
    let query := ofCriteria criteria origin settings
    let answer := shelf.answer store timing query most
    let crowded := Crowded criteria origin settings timing.onCount messages most
    (query.params.all Param.isStorable ≠ true ∧ answer = .error .storage) ∨
      (query.params.all Param.isStorable = true ∧ crowded ∧ answer = .error .noRoom) ∨
      (query.params.all Param.isStorable = true ∧ ¬ crowded ∧ ∃ outcome, answer = .ok outcome) := by
  intro query answer crowded
  have height := height_le_of_few origin settings users channels
  by_cases storable : query.params.all Param.isStorable = true
  · right
    obtain ⟨known, named⟩ := Option.isSome_iff_exists.mp intact.users
    have runs : Runs criteria origin settings := ⟨height, storable, testable⟩
    by_cases many : crowded
    · obtain ⟨matched, window, shrunk, full⟩ := many
      exact .inl ⟨storable, ⟨matched, window, shrunk, full⟩,
        runs.answer_full sound log named matched shrunk full⟩
    · refine .inr ⟨storable, many, ?_⟩
      by_cases matched : sought criteria origin settings timing.onCount messages = []
      · rw [show answer = _ from runs.answer_eq sound log named]
        have counted := runs.count_eq log timing
        rw [matched] at counted
        exact ⟨_, (Statements.run_noResults_iff counted).mpr rfl⟩
      · apply runs.answer_ok sound log named intact.keyed
        · intro window shrunk
          exact Bool.eq_true_of_not_eq_false fun full => many ⟨matched, window, shrunk, full⟩
        · intro message member
          exact intact.dated.readable faithful log message (mem_of_page member)
  · exact .inl ⟨storable, answer_unstorable sound intact log height storable timing most⟩

end Query

/-- Ids that a log can hold, and a trigger that is short enough to be tested. -/
structure Origin.Fits (origin : Origin) (settings : Settings) : Prop where
  messageId : origin.messageId.toNat < 0x8000000000000000
  selfId : settings.selfId.toNat < 0x8000000000000000
  modChannelId : settings.modChannelId.toNat < 0x8000000000000000
  spoilerChannelId : settings.spoilerChannelId.toNat < 0x8000000000000000
  trigger : Text.Wildcard.tooLong (Text.Wildcard.opening settings.commandTrigger) = false

theorem Query.isStorable_params_iff {criteria : Criteria} {origin : Origin} {settings : Settings}
    (fits : origin.Fits settings)
    (signed : ∀ seconds ∈ criteria.seconds, Numeral.Signed seconds) :
    (ofCriteria criteria origin settings).params.all Param.isStorable = true ↔
      ∀ id, id ∈ criteria.users ∨ id ∈ criteria.channels → id.toNat < 0x8000000000000000 := by
  constructor
  · intro storable id asked
    have place : Param.id id ∈ (ofCriteria criteria origin settings).params := by
      rw [params_ofCriteria]
      rcases asked with user | channel
      · simp [user]
      · simp [channel]
    exact of_decide_eq_true (List.all_eq_true.mp storable _ place)
  · intro small
    exact storable_params ⟨fun id user => small id (Or.inl user),
      fun id channel => small id (Or.inr channel), signed, fits.messageId, fits.selfId,
      fits.modChannelId, fits.spoilerChannelId⟩

/-- A request whose patterns are short enough to be tested and that stands for few ids. -/
structure Request.Fits (request : Request) (directory : Directory) (settings : Settings) :
    Prop where
  message : Text.Wildcard.tooLong (Text.Wildcard.containing request.message) = false
  names : ∀ reference ∈ request.users, Mention.user? reference.toList = none →
    Text.Wildcard.tooLong (Text.Wildcard.containing (nameOf reference)) = false
  few : ∀ criteria, (request.resolve directory settings).2 = .ok criteria →
    criteria.users.toList.length ≤ 900 ∧ criteria.channels.toList.length ≤ 900

/-- Whether every name in a request is one that a directory finds somebody for. -/
def Request.Resolves (request : Request) (directory : Directory) (settings : Settings) : Prop :=
  ∀ reference ∈ request.users, Mention.user? reference.toList = none →
    ∃ ids, ids ≠ [] ∧ directory (lookupFor (nameOf reference) settings.fuzzyLimit) = .ok ids

namespace Request

theorem resolve_ok_iff (request : Request) (directory : Directory) (settings : Settings)
    (criteria : Criteria) :
    (request.resolve directory settings).2 = .ok criteria ↔
      request.isSearchable = true ∧ request.Resolves directory settings ∧
        criteria = request.criteria settings
          (.ofList (request.users.flatMap (foundFor directory settings.fuzzyLimit))) := by
  have named : firstFailure (idsOf directory settings.fuzzyLimit) request.users = none ↔
      request.Resolves directory settings := by
    rw [firstFailure_eq_none]
    exact forall₂_congr fun reference _ => idsOf_ok_iff directory settings.fuzzyLimit reference
  rw [resolve_eq, ← named]
  by_cases searchable : request.isSearchable = true
  · rw [if_pos searchable]
    cases firstFailure (idsOf directory settings.fuzzyLimit) request.users with
    | some failure => simp
    | none => simp [searchable, eq_comm]
  · simp [searchable]

end Request

namespace Store.Intact

variable {store : Store} (intact : store.Intact) {settings : Settings} {request : Request}
  (fits : request.Fits store.directory settings)

include intact fits

theorem resolve_failsOnly :
    FailsOnly Failure.BlamesWords (request.resolve store.directory settings).2 := by
  rw [Request.resolve_eq]
  split_ifs with searchable
  · split
    · rename_i failure failed
      obtain ⟨reference, member, unknown⟩ := firstFailure_eq_some failed
      have told := intact.idsOf_failsOnly settings.fuzzyLimit (fits.names reference member)
      rw [told failure unknown]
      exact .error trivial
    · exact .ok _
  · exact .error trivial

theorem large_iff {criteria : Criteria}
    (resolved : (request.resolve store.directory settings).2 = .ok criteria) {id : Id}
    (large : 0x8000000000000000 ≤ id.toNat) :
    id ∈ criteria.users ∨ id ∈ criteria.channels ↔ id ∈ request.mentioned := by
  obtain ⟨_, _, rfl⟩ := (request.resolve_ok_iff _ _ _).mp resolved
  have user : id ∈ IdSet.ofList (request.users.flatMap
        (Request.foundFor store.directory settings.fuzzyLimit)) ↔
      ∃ reference ∈ request.users, Mention.user? reference.toList = some id := by
    rw [IdSet.mem_ofList, List.mem_flatMap]
    refine exists_congr fun reference => and_congr_right fun member => ?_
    constructor
    · intro found
      unfold Request.foundFor at found
      cases ids : Request.idsOf store.directory settings.fuzzyLimit reference with
      | error failure => simp [ids] at found
      | ok known =>
        rw [ids] at found
        exact intact.mention_of_large _ (fits.names reference member) ids found large
    · intro mention
      have ids : Request.idsOf store.directory settings.fuzzyLimit reference = .ok [id] := by
        simp [Request.idsOf, mention]
      simp [Request.foundFor, ids]
  rw [Request.mentioned, List.mem_append, List.mem_filterMap]
  exact or_congr user Iff.rfl

end Store.Intact

theorem Failure.IsUnreadable.blamesWords {failure : Failure} (unread : failure.IsUnreadable) :
    failure.BlamesWords := by
  cases failure <;> trivial

namespace Searcher

theorem search_of_unread {words : List String} {failure : Failure}
    (unread : Request.ofWords words = .error failure) (searcher : Searcher) (store : Store)
    (timing : Timing) (origin : Origin) :
    (searcher.search store timing .free origin words).answer = .error failure := by
  rw [search_answer, Query.ofWords, unread]
  rfl

section

variable {words : List String} {request : Request} (read : Request.ofWords words = .ok request)

include read

theorem search_of_unresolved {searcher : Searcher} {store : Store} {failure : Failure}
    (unresolved : (request.resolve (searcher.directory store) searcher.settings).2 =
      .error failure) (timing : Timing) (origin : Origin) :
    (searcher.search store timing .free origin words).answer = .error failure := by
  rw [search_answer, Query.ofWords, read]
  simp only [bind, Except.bind, unresolved]

theorem search_of_resolved (searcher : Searcher) {store : Store} {criteria : Criteria}
    (resolved : (request.resolve (searcher.directory store) searcher.settings).2 = .ok criteria)
    (timing : Timing) (origin : Origin) :
    let query := Query.ofCriteria criteria origin searcher.settings
    (searcher.search store timing .free origin words).answer =
      (searcher.shelf.answer store timing query searcher.settings.maxSearchResults).map
        fun outcome => .ofOutcome outcome query.message searcher.settings.displayRows := by
  intro query
  rw [search_answer, Query.ofWords, read]
  simp only [bind, Except.bind, resolved, pure, Except.pure]
  cases searcher.shelf.answer store timing query searcher.settings.maxSearchResults <;> rfl

/-- What resolved criteria ask for can be stored, unless an id is mentioned that is too large. -/
theorem mentions_large_iff {store : Store} (intact : store.Intact) {settings : Settings}
    {origin : Origin} (suited : origin.Fits settings)
    (fits : request.Fits store.directory settings) {criteria : Criteria}
    (resolved : (request.resolve store.directory settings).2 = .ok criteria) :
    request.MentionsLarge ↔
      (Query.ofCriteria criteria origin settings).params.all Param.isStorable ≠ true := by
  have signed : ∀ seconds ∈ criteria.seconds, Numeral.Signed seconds := by
    intro seconds asked
    obtain ⟨_, _, built⟩ := (request.resolve_ok_iff _ _ _).mp resolved
    rw [built, (Request.ofWords_ok read).2] at asked
    exact Request.signed_seconds asked
  rw [ne_eq, Query.isStorable_params_iff suited signed]
  constructor
  · rintro ⟨id, member, large⟩ small
    exact absurd (small id ((intact.large_iff fits resolved large).mpr member)) (by omega)
  · intro unstorable
    by_contra held
    apply unstorable
    intro id member
    by_contra large
    rw [Nat.not_lt] at large
    exact held ⟨id, (intact.large_iff fits resolved large).mp member, large⟩

/-- Resolved criteria are searched for, unless an id is mentioned that the log cannot hold or more
rows are asked for than there is room for. -/
theorem answer_of_resolved {store : Store} (intact : store.Intact) {messages : List Message}
    (log : store.messages = some messages) {shelf : Shelf} (sound : shelf.Sound)
    {settings : Settings} {origin : Origin} (suited : origin.Fits settings)
    (fits : request.Fits store.directory settings) {criteria : Criteria}
    (resolved : (request.resolve store.directory settings).2 = .ok criteria) {timing : Timing}
    (faithful : timing.reader.Faithful) :
    let searcher : Searcher := ⟨settings, Store.directory, shelf⟩
    let answer := (searcher.search store timing .free origin words).answer
    let crowded := Query.Crowded criteria origin settings timing.onCount messages
      settings.maxSearchResults
    (request.MentionsLarge ∧ answer = .error .storage) ∨
      (¬ request.MentionsLarge ∧ crowded ∧ answer = .error .noRoom) ∨
      (¬ request.MentionsLarge ∧ ¬ crowded ∧ ∃ reply, answer = .ok reply) := by
  intro searcher answer crowded
  have searched := search_of_resolved read searcher resolved timing origin
  obtain ⟨users, channels⟩ := fits.few criteria resolved
  have text : Text.Wildcard.tooLong (Text.Wildcard.containing criteria.message) = false := by
    obtain ⟨_, _, built⟩ := (request.resolve_ok_iff _ _ _).mp resolved
    rw [built]
    exact fits.message
  have testable := Query.testable_params origin text suited.trigger
  have answered := Query.answer_intact sound intact log users channels testable faithful
    settings.maxSearchResults
  have failed {failure : Failure} (ran : shelf.answer store timing
      (.ofCriteria criteria origin settings) settings.maxSearchResults = .error failure) :
      answer = .error failure := by
    rw [show answer = _ from searched, show searcher.shelf.answer _ _ _ _ = _ from ran]
    rfl
  rw [mentions_large_iff read intact suited fits resolved, ne_eq, not_not]
  rcases answered with ⟨unstorable, ran⟩ | ⟨storable, many, ran⟩ | ⟨storable, few, outcome, ran⟩
  · exact .inl ⟨unstorable, failed ran⟩
  · exact .inr (.inl ⟨storable, many, failed ran⟩)
  · have replied : answer = .ok (.ofOutcome outcome criteria.message settings.displayRows) := by
      rw [show answer = _ from searched, show searcher.shelf.answer _ _ _ _ = _ from ran]
      rfl
    exact .inr (.inr ⟨storable, few, _, replied⟩)

end

/-- Over an intact log, words that come to no criteria fail by what they are, and criteria are
searched for. -/
theorem answer_of_intact {store : Store} (intact : store.Intact) {messages : List Message}
    (log : store.messages = some messages) {shelf : Shelf} (sound : shelf.Sound)
    {settings : Settings} {origin : Origin} (suited : origin.Fits settings) {words : List String}
    (fits : ∀ request, Request.ofWords words = .ok request →
      request.Fits store.directory settings) {timing : Timing}
    (faithful : timing.reader.Faithful) :
    let searcher : Searcher := ⟨settings, Store.directory, shelf⟩
    let answer := (searcher.search store timing .free origin words).answer
    (∃ failure, answer = .error failure ∧ failure.BlamesWords ∧
      ∀ request criteria, Request.ofWords words = .ok request →
        (request.resolve store.directory settings).2 ≠ .ok criteria) ∨
      ∃ request criteria, Request.ofWords words = .ok request ∧
        (request.resolve store.directory settings).2 = .ok criteria ∧
        let crowded := Query.Crowded criteria origin settings timing.onCount messages
          settings.maxSearchResults
        (request.MentionsLarge ∧ answer = .error .storage) ∨
          (¬ request.MentionsLarge ∧ crowded ∧ answer = .error .noRoom) ∨
          (¬ request.MentionsLarge ∧ ¬ crowded ∧ ∃ reply, answer = .ok reply) := by
  intro searcher answer
  cases read : Request.ofWords words with
  | error failure =>
    have blamed := (Request.ofWords_failsOnly words failure read).blamesWords
    exact .inl ⟨failure, search_of_unread read searcher store timing origin, blamed, nofun⟩
  | ok request =>
    cases resolved : (request.resolve store.directory settings).2 with
    | error failure =>
      refine .inl ⟨failure, search_of_unresolved read resolved timing origin,
        intact.resolve_failsOnly (fits request read) failure resolved, ?_⟩
      rintro _ criteria ⟨⟩ other
      cases resolved.symm.trans other
    | ok criteria =>
      exact .inr ⟨request, criteria, rfl, resolved,
        answer_of_resolved read intact log sound suited (fits request read) resolved faithful⟩

end Searcher

end ChatLog
