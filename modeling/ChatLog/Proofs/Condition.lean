import ChatLog.Proofs.Clause
import ChatLog.Proofs.StoredTime
import ChatLog.Query
import ChatLog.Store.Answer
import Mathlib.Tactic.SplitIfs

/-!
The written condition of a search, read back and given its parameters, holds of exactly the
messages that the search is for. Its question marks are as many as its parameters, and the window
of a listing brings one parameter for each question mark that paging adds.
-/
namespace ChatLog

/-- What a search asks of a message at a moment. -/
structure Criteria.Asks (criteria : Criteria) (now : Moment) (message : Message) : Prop where
  author : criteria.users.isEmpty ∨ message.author ∈ criteria.users
  channel : criteria.channels.isEmpty ∨ message.channel ∈ criteria.channels
  text : criteria.message = "" ∨
    Store.matchesPattern (Text.Wildcard.containing criteria.message) message.text = .ok true
  recent : ∀ seconds ∈ criteria.seconds, 0 ≤ seconds →
    now.reader.isNewer message.time now.instant seconds

/-- What every search asks of a message: that it is not kept out of all of them. -/
structure Origin.Admits (origin : Origin) (settings : Settings) (message : Message) : Prop where
  channel : message.channel ≠ settings.modChannelId
  author : message.author ≠ settings.selfId
  other : message.id ≠ origin.messageId
  spoiler : message.channel = settings.spoilerChannelId →
    origin.channelId = settings.spoilerChannelId
  plain : Store.matchesPattern (Text.Wildcard.opening settings.commandTrigger) message.text
    = .ok false

namespace Query

/-- The ids of a search are ones that the storage can hold, and its recency is a signed word. -/
structure Storable (criteria : Criteria) (origin : Origin) (settings : Settings) : Prop where
  users : ∀ id ∈ criteria.users, id.toNat < 0x8000000000000000
  channels : ∀ id ∈ criteria.channels, id.toNat < 0x8000000000000000
  seconds : ∀ seconds ∈ criteria.seconds, Numeral.Signed seconds
  messageId : origin.messageId.toNat < 0x8000000000000000
  selfId : settings.selfId.toNat < 0x8000000000000000
  modChannelId : settings.modChannelId.toNat < 0x8000000000000000
  spoilerChannelId : settings.spoilerChannelId.toNat < 0x8000000000000000

theorem ofCriteria_proper (criteria : Criteria) (origin : Origin) (settings : Settings) :
    (ofCriteria criteria origin settings).clause ≠ [] := by
  simp [ofCriteria, excluded]

theorem places_anyOf (column : Column) (ids : IdSet) :
    (anyOf column ids).places = ids.toList.map Param.id := by
  unfold anyOf
  cases ids.toList with
  | nil => rfl
  | cons first others =>
    simp [Clause.places, Factor.places, Factor.comparisons, Comparison.place, Function.comp_def]

/-- The parameters of a query, in the order of their question marks. -/
theorem params_ofCriteria (criteria : Criteria) (origin : Origin) (settings : Settings) :
    (ofCriteria criteria origin settings).params =
      criteria.users.toList.map Param.id ++ criteria.channels.toList.map Param.id ++
      (if criteria.message = "" then [] else [.text (Text.Wildcard.containing criteria.message)]) ++
      (criteria.recency?.map Param.int).toList ++
      (if origin.channelId = settings.spoilerChannelId then []
        else [.id settings.spoilerChannelId]) ++
      [.id origin.messageId, .id settings.selfId, .id settings.modChannelId,
        .text (Text.Wildcard.opening settings.commandTrigger)] := by
  have users := places_anyOf .author criteria.users
  have channels := places_anyOf .channel criteria.channels
  unfold Clause.places at users channels
  simp only [params, ofCriteria, wanted, excluded, Clause.places, List.flatMap_append, users,
    channels, List.append_assoc]
  cases criteria.recency? <;> split_ifs <;> rfl

theorem storable_params {criteria : Criteria} {origin : Origin} {settings : Settings}
    (storable : Storable criteria origin settings) :
    (ofCriteria criteria origin settings).params.all Param.isStorable := by
  have ids (set : IdSet) (small : ∀ id ∈ set, id.toNat < 0x8000000000000000) :
      (set.toList.map Param.id).all Param.isStorable := by
    simpa [Param.isStorable] using small
  have recency : (criteria.recency?.map Param.int).toList.all Param.isStorable := by
    unfold Criteria.recency?
    cases given : criteria.seconds with
    | none => rfl
    | some seconds =>
      have signed := storable.seconds seconds given
      by_cases past : 0 ≤ seconds <;> simp [Option.filter, past, Param.isStorable, signed]
  have message := storable.messageId
  have self := storable.selfId
  have mod := storable.modChannelId
  have spoiler := storable.spoilerChannelId
  rw [params_ofCriteria]
  simp only [List.all_append, ids _ storable.users, ids _ storable.channels, recency]
  split_ifs <;> simp_all [Param.isStorable]

theorem bind_params (query : Query) (storable : query.params.all Param.isStorable) :
    Store.bind query.clause.shape query.params = .ok (query.clause, []) := by
  have filled := Clause.fill_places query.clause []
  rw [List.append_nil] at filled
  unfold params at storable ⊢
  simp only [Store.bind, storable, if_true, filled]

theorem hasValue_id (column : Column) (message : Message) (id : Id) :
    column.hasValue message (.id id) = decide (column.of message = id) := by
  by_cases same : column.of message = id
  · simp [Column.hasValue, Param.integer?, same]
  · have different : (id.toNat : Int) ≠ (column.of message).toNat := by
      intro equal
      exact same (UInt64.toNat_inj.mp (Int.ofNat.inj equal)).symm
    simp [Column.hasValue, Param.integer?, same, different]

theorem anyOf_holds (now : Moment) (message : Message) (column : Column) (ids : IdSet) :
    (∀ factor ∈ anyOf column ids, factor.holds now message = .ok true) ↔
      ids.isEmpty ∨ column.of message ∈ ids := by
  rw [← IdSet.mem_toList]
  unfold anyOf IdSet.isEmpty
  cases ids.toList with
  | nil => simp
  | cons first others =>
    have tested := Factor.holds_eq now message
      (.either (.equals column (.id first)) (others.map fun id => .equals column (.id id)))
      (by simp [Factor.places, Factor.comparisons, Comparison.place, Param.isTestable])
    simp [tested, Factor.isMet, Factor.comparisons, Comparison.isMet, hasValue_id,
      Function.comp_def]

theorem unlike_holds (now : Moment) (message : Message) (pattern : String) :
    (Comparison.unlike (.text pattern)).holds now message = .ok true ↔
      Store.matchesPattern pattern message.text = .ok false := by
  simp only [Comparison.holds, Message.fits]
  cases Store.matchesPattern pattern message.text with
  | error failure => simp [bind, Except.bind]
  | ok fits => cases fits <;> simp [bind, Except.bind, pure, Except.pure]

theorem newer_holds (now : Moment) (message : Message) (seconds : Int) :
    (Comparison.newer (.int seconds)).holds now message = .ok true ↔
      now.reader.isNewer message.time now.instant seconds := by
  simp [Comparison.holds, Message.isNewer, Param.integer?]

theorem wanted_holds (now : Moment) (message : Message) (criteria : Criteria) :
    (∀ factor ∈ wanted criteria, factor.holds now message = .ok true) ↔
      criteria.Asks now message := by
  have text : (∀ factor ∈ (if criteria.message = "" then []
        else [Factor.one (.like (.text (Text.Wildcard.containing criteria.message)))]),
        factor.holds now message = .ok true) ↔
      criteria.message = "" ∨
        Store.matchesPattern (Text.Wildcard.containing criteria.message) message.text =
          .ok true := by
    by_cases empty : criteria.message = "" <;>
      simp [empty, Factor.holds_one, Comparison.holds, Message.fits]
  have recent : (∀ factor ∈
        (criteria.recency?.map fun seconds => Factor.one (.newer (.int seconds))).toList,
        factor.holds now message = .ok true) ↔
      ∀ seconds ∈ criteria.seconds, 0 ≤ seconds →
        now.reader.isNewer message.time now.instant seconds := by
    unfold Criteria.recency?
    cases criteria.seconds with
    | none => simp
    | some seconds =>
      by_cases past : 0 ≤ seconds <;>
        simp [Option.filter, past, Factor.holds_one, newer_holds]
  simp only [wanted, List.mem_append, or_imp, forall_and, anyOf_holds, text, recent]
  constructor
  · rintro ⟨⟨⟨author, channel⟩, text⟩, recent⟩
    exact ⟨author, channel, text, recent⟩
  · rintro ⟨author, channel, text, recent⟩
    exact ⟨⟨⟨author, channel⟩, text⟩, recent⟩

theorem excluded_holds (now : Moment) (message : Message) (origin : Origin)
    (settings : Settings) :
    (∀ factor ∈ excluded origin settings, factor.holds now message = .ok true) ↔
      origin.Admits settings message := by
  have differs (column : Column) (id : Id) :
      (Factor.one (.differs column (.id id))).holds now message = .ok true ↔
        column.of message ≠ id := by
    simp [Factor.holds_one, Comparison.holds, hasValue_id]
  have spoiler : (∀ factor ∈ (if origin.channelId = settings.spoilerChannelId then []
        else [Factor.one (.differs .channel (.id settings.spoilerChannelId))]),
        factor.holds now message = .ok true) ↔
      (message.channel = settings.spoilerChannelId →
        origin.channelId = settings.spoilerChannelId) := by
    by_cases inside : origin.channelId = settings.spoilerChannelId <;>
      simp [inside, differs, Column.of]
  have plain := Factor.holds_one now message
    (.unlike (.text (Text.Wildcard.opening settings.commandTrigger)))
  simp only [excluded, List.mem_append, or_imp, forall_and, spoiler, List.forall_mem_cons, differs,
    Column.of, plain, unlike_holds]
  constructor
  · rintro ⟨spoiler, other, author, channel, plain, _⟩
    exact ⟨channel, author, other, spoiler, plain⟩
  · rintro ⟨channel, author, other, spoiler, plain⟩
    exact ⟨spoiler, other, author, channel, plain, by simp⟩

theorem clause_holds (now : Moment) (message : Message) (criteria : Criteria) (origin : Origin)
    (settings : Settings) :
    (ofCriteria criteria origin settings).clause.holds now message = .ok true ↔
      criteria.Asks now message ∧ origin.Admits settings message := by
  simp only [Clause.holds_iff, ofCriteria, List.mem_append, or_imp, forall_and, wanted_holds,
    excluded_holds]

/-- A faithful reader finds the messages recent that are, unless the second decides. -/
theorem asks_exact_iff {now : Moment} (faithful : now.reader.Faithful)
    (present : now.instant.InRange) {message : Message} {written : Instant}
    (inRange : written.InRange) (logged : message.time = String.ofList written.stored)
    {criteria : Criteria} (clear : ∀ seconds ∈ criteria.seconds, 1000000000 ≤
      (now.instant.toNanos - seconds * 1000000000 - written.toNanos).natAbs) :
    criteria.Asks now message ↔ criteria.Asks ⟨.exact, now.instant⟩ message := by
  have recent (seconds : Int) (asked : seconds ∈ criteria.seconds) (past : 0 ≤ seconds) :
      now.reader.isNewer message.time now.instant seconds =
        TimeReader.exact.isNewer message.time now.instant seconds := by
    rw [logged, TimeReader.exact_isNewer_stored inRange,
      faithful.newer_stored _ _ _ inRange present past (clear seconds asked)]
  constructor
  · intro asks
    refine ⟨asks.author, asks.channel, asks.text, fun seconds asked past => ?_⟩
    exact recent seconds asked past ▸ asks.recent seconds asked past
  · intro asks
    refine ⟨asks.author, asks.channel, asks.text, fun seconds asked past => ?_⟩
    exact (recent seconds asked past).symm ▸ asks.recent seconds asked past

theorem testable_params {criteria : Criteria} (origin : Origin) {settings : Settings}
    (text : Text.Wildcard.tooLong (Text.Wildcard.containing criteria.message) = false)
    (trigger : Text.Wildcard.tooLong (Text.Wildcard.opening settings.commandTrigger) = false) :
    ∀ value ∈ (ofCriteria criteria origin settings).params, value.isTestable := by
  intro value member
  rw [params_ofCriteria] at member
  simp only [List.mem_append, List.mem_map, List.mem_cons, List.not_mem_nil, or_false] at member
  rcases member with ((((⟨_, _, rfl⟩ | ⟨_, _, rfl⟩) | pattern) | recency) | spoiler) |
    rfl | rfl | rfl | rfl
  · rfl
  · rfl
  · split_ifs at pattern
    · cases pattern
    · rw [List.mem_singleton.mp pattern]
      simp [Param.isTestable, text]
  · cases given : criteria.recency? with
    | none => simp [given] at recency
    | some seconds =>
      have only : value = .int seconds := by simpa [given] using recency
      rw [only]
      rfl
  · split_ifs at spoiler
    · cases spoiler
    · rw [List.mem_singleton.mp spoiler]
      rfl
  · rfl
  · rfl
  · rfl
  · simp [Param.isTestable, trigger]

theorem isMet_iff {criteria : Criteria} {origin : Origin} {settings : Settings}
    (testable : ∀ value ∈ (ofCriteria criteria origin settings).params, value.isTestable)
    (now : Moment) (message : Message) :
    (ofCriteria criteria origin settings).clause.isMet now message = true ↔
      criteria.Asks now message ∧ origin.Admits settings message := by
  rw [← clause_holds, Clause.holds_eq now _ message testable, Except.ok.injEq]

theorem read?_condition (query : Query) (proper : query.clause ≠ []) :
    Clause.read? query.condition = some (query.clause.shape, Statement.order) :=
  Clause.read?_text query.clause Statement.order proper (by decide)

theorem count_condition (query : Query) :
    query.condition.count '?' = query.params.length := by
  have plain : Statement.order.count '?' = 0 := by decide
  rw [condition, List.count_append, query.clause.count_text, plain]
  rfl

/-- Paging adds a question mark for each parameter of a window. -/
theorem count_paging (span : Span) (most : UInt64) :
    span.paging.text.count '?' =
      ((span.window? most).map fun window => window.params.length).getD 0 := by
  cases span with
  | countOnly => rfl
  | rows first last =>
    by_cases start : first = 0
    · subst start
      rfl
    · have later : 0 < first := UInt64.pos_iff_ne_zero.mpr start
      have paging : (Span.rows first last).paging = .limitedFrom := by
        simp [Span.paging, Span.hasOffset, later]
      simp only [paging, Span.window?, start, if_false]
      rfl

/-- The written condition of a search, read back and with its parameters put into the places of
its question marks in their order, holds of a message exactly when the search is for that message,
at every moment and however the storage reads times. A faithful reader takes messages for recent by
the billionths of a second between, unless that is less than a second off. No question mark is
without a parameter, nor a parameter without a question mark. -/
theorem condition_reads (criteria : Criteria) (origin : Origin) (settings : Settings)
    (storable : Storable criteria origin settings) :
    let query := ofCriteria criteria origin settings
    ∃ shape clause,
      Clause.read? query.condition = some (shape, Statement.order) ∧
      Store.bind shape query.params = .ok (clause, []) ∧
      (∀ now message, clause.holds now message = .ok true ↔
        criteria.Asks now message ∧ origin.Admits settings message) ∧
      (∀ now : Moment, now.reader.Faithful → now.instant.InRange →
        ∀ (message : Message) (written : Instant), written.InRange →
          message.time = String.ofList written.stored →
          (∀ seconds ∈ criteria.seconds, 1000000000 ≤
            (now.instant.toNanos - seconds * 1000000000 - written.toNanos).natAbs) →
          (clause.holds now message = .ok true ↔
            criteria.Asks ⟨.exact, now.instant⟩ message ∧ origin.Admits settings message)) ∧
      query.condition.count '?' = query.params.length ∧
      ∀ most, query.paginated.count '?' = query.params.length +
        ((criteria.span.window? most).map fun window => window.params.length).getD 0 := by
  intro query
  refine ⟨query.clause.shape, query.clause, ?_, ?_, ?_, ?_, ?_, ?_⟩
  · exact read?_condition query (ofCriteria_proper criteria origin settings)
  · exact bind_params query (storable_params storable)
  · intro now message
    exact clause_holds now message criteria origin settings
  · intro now faithful present message written inRange logged clear
    rw [clause_holds, asks_exact_iff faithful present inRange logged clear]
  · exact count_condition query
  · intro most
    rw [paginated, List.count_append, count_condition, count_paging]
    rfl

/-- A search for two users in a channel, and a message it is for. -/
theorem condition_reads_hello :
    let criteria : Criteria := ⟨.ofList [43, 42], .ofList [111], some 600, "hello", .rows 2 4⟩
    let query := ofCriteria criteria ⟨7, 111, 42⟩ .builtIn
    Storable criteria ⟨7, 111, 42⟩ .builtIn ∧ ∃ shape clause,
      Clause.read? query.condition = some (shape, Statement.order) ∧
      Store.bind shape query.params = .ok (clause, []) ∧
      clause.holds ⟨.exact, 1000, 0⟩ ⟨1, 42, 111, "oh hello", "1970-01-01 00:10:00.500+00:00"⟩ =
        .ok true ∧
      query.paginated.count '?' = query.params.length + 2 := by
  intro criteria query
  have storable : Storable criteria ⟨7, 111, 42⟩ .builtIn := by
    constructor
    · intro id member
      have listed : id = 43 ∨ id = 42 := by simpa [criteria] using member
      rcases listed with rfl | rfl <;> decide
    · intro id member
      have listed : id = 111 := by simpa [criteria] using member
      rw [listed]
      decide
    · rintro seconds ⟨⟩
      decide
    · decide
    · decide
    · decide
    · decide
  obtain ⟨shape, clause, read, bound, holds, _, _, paged⟩ :=
    condition_reads criteria ⟨7, 111, 42⟩ .builtIn storable
  refine ⟨storable, shape, clause, read, bound, (holds _ _).mpr ⟨?_, ?_⟩, paged 50⟩
  · have like : Store.matchesPattern (Text.Wildcard.containing "hello") "oh hello" = .ok true :=
      rfl
    refine ⟨Or.inr (by decide), Or.inr (by decide), Or.inr like, ?_⟩
    rintro seconds ⟨⟩ _
    decide
  · have plain : Store.matchesPattern (Text.Wildcard.opening "!search") "oh hello" = .ok false :=
      rfl
    exact ⟨by decide, by decide, by decide, by decide, plain⟩

end Query

end ChatLog
