import ChatLog.Proofs.Transparency
import ChatLog.Proofs.Wildcard

/-!
Hidden messages never show in an answer. Whatever a search asks for, its answer from two logs that
differ only in messages hidden from it is the same: neither the count, nor the rows, nor their
places in the window, nor a failure to read them tells anything of a hidden message.
-/
namespace ChatLog

/-- Whether a message is hidden from the searches that a message asks for. -/
def Message.isHidden (message : Message) (origin : Origin) (settings : Settings) : Bool :=
  message.channel == settings.modChannelId || message.author == settings.selfId ||
    message.id == origin.messageId ||
    (message.channel == settings.spoilerChannelId &&
      origin.channelId != settings.spoilerChannelId) ||
    (settings.commandTrigger ++ " ").toList.isPrefixOf message.text.toList

/-- A directory that knows the accounts of a store and nothing of its messages. -/
def Directory.KnowsAccounts (directory : Store → Directory) : Prop :=
  ∀ left right : Store, left.users = right.users → left.aliases = right.aliases →
    directory left = directory right

theorem Store.directory_knowsAccounts : Directory.KnowsAccounts Store.directory := by
  intro left right users aliases
  funext lookup
  rw [directory, directory, users, aliases]

theorem Origin.not_admits_of_isHidden {origin : Origin} {settings : Settings} {message : Message}
    (hidden : message.isHidden origin settings) : ¬ origin.Admits settings message := by
  intro admits
  simp only [Message.isHidden, Bool.or_eq_true, Bool.and_eq_true, beq_iff_eq, bne_iff_ne,
    List.isPrefixOf_iff_prefix] at hidden
  rcases hidden with (((channel | author) | other) | ⟨spoiler, outside⟩) | opens
  · exact admits.channel channel
  · exact admits.author author
  · exact admits.other other
  · exact outside (admits.spoiler spoiler)
  · have fit := Text.Wildcard.fits_opening opens
    have plain := admits.plain
    simp only [Store.matchesPattern, fit] at plain
    split at plain <;> cases plain

namespace Query

/-- Of logs that differ only in hidden messages, the same messages meet a query. -/
theorem matching_perm {criteria : Criteria} {origin : Origin} {settings : Settings}
    (testable : ∀ value ∈ (ofCriteria criteria origin settings).params, value.isTestable)
    {left right : List Message} (leftUnique : (left.map (·.id)).Nodup)
    (rightUnique : (right.map (·.id)).Nodup)
    (shown : ∀ message, message.isHidden origin settings = false →
      (message ∈ left ↔ message ∈ right)) (now : Moment) :
    (Store.matching (ofCriteria criteria origin settings).clause now left).Perm
      (Store.matching (ofCriteria criteria origin settings).clause now right) := by
  unfold Store.matching
  rw [List.perm_ext_iff_of_nodup (leftUnique.of_map.filter _) (rightUnique.of_map.filter _)]
  intro message
  rw [List.mem_filter, List.mem_filter, isMet_iff testable]
  have inBoth (admits : origin.Admits settings message) : message ∈ left ↔ message ∈ right := by
    apply shown
    rw [Bool.eq_false_iff]
    intro hidden
    exact Origin.not_admits_of_isHidden hidden admits
  constructor
  · rintro ⟨member, asks, admits⟩
    exact ⟨(inBoth admits).mp member, asks, admits⟩
  · rintro ⟨member, asks, admits⟩
    exact ⟨(inBoth admits).mpr member, asks, admits⟩

end Query

theorem Statements.run_congr {first second : Statements} {params : List Param} {span : Span}
    {most : UInt64} (count : first.count params = second.count params)
    (accepts : first.accepts = second.accepts)
    (listing : ∀ window, span.window? most = some window →
      first.listing (params ++ window.params) = second.listing (params ++ window.params)) :
    first.run params span most = second.run params span most := by
  unfold run fetch
  rw [count, accepts]
  cases shrunk : span.window? most with
  | none => rfl
  | some window => simp only [listing window shrunk]

section

variable {left right : Store} {users : List User} {first second : List Message}
  (leftUsers : left.users = some users) (rightUsers : right.users = some users)
  (leftLog : left.messages = some first) (rightLog : right.messages = some second)

include leftUsers rightUsers leftLog rightLog

theorem Store.run_eq_of_perm (query : Query)
    (testable : ∀ value ∈ query.params, value.isTestable) (unique : (first.map (·.id)).Nodup)
    (same : ∀ now, (matching query.clause now first).Perm (matching query.clause now second))
    (timing : Timing) (most : UInt64) :
    let prepared : Prepared := ⟨query.count, query.listing⟩
    (prepared.on left timing).run query.params query.span most =
      (prepared.on right timing).run query.params query.span most := by
  apply Statements.run_congr
  · have counts := answerCount_eq leftLog timing.onCount query testable
    rw [(same _).length_eq, ← answerCount_eq rightLog timing.onCount query testable] at counts
    exact counts
  · rfl
  · intro window shrunk
    have found : ((matching query.clause timing.onListing first).map (·.id)).Nodup :=
      unique.sublist (List.filter_sublist.map _)
    have rows := answerListing_eq leftLog timing.onListing query testable leftUsers shrunk
    rw [listed, newestFirst_perm found (same _), ← listed,
      ← answerListing_eq rightLog timing.onListing query testable rightUsers shrunk] at rows
    exact rows

/-- Two stores give a search one answer when its query has one outcome over both. -/
theorem Searcher.answer_congr (searcher : Searcher) (sound : searcher.shelf.Sound) {timing : Timing}
    {origin : Origin} {words : List String}
    (known : searcher.directory left = searcher.directory right)
    (same : ∀ query,
      Query.ofWords (searcher.directory right) searcher.settings origin words = .ok query →
      ((⟨query.count, query.listing⟩ : Prepared).on left timing).run query.params query.span
          searcher.settings.maxSearchResults =
        ((⟨query.count, query.listing⟩ : Prepared).on right timing).run query.params query.span
          searcher.settings.maxSearchResults) :
    (searcher.search left timing .free origin words).answer =
      (searcher.search right timing .free origin words).answer := by
  rw [answer_eq searcher sound (by rw [leftLog]; rfl) (by rw [leftUsers]; rfl),
    answer_eq searcher sound (by rw [rightLog]; rfl) (by rw [rightUsers]; rfl), known]
  cases compiled : Query.ofWords (searcher.directory right) searcher.settings origin words with
  | error failure => rfl
  | ok query =>
    have proper := Query.ofWords_proper compiled
    have tables : left.hasTables query.listing = right.hasTables query.listing := by
      simp [Store.hasTables, Query.listing, leftUsers, rightUsers, leftLog, rightLog]
    have alike : query.prepare left = query.prepare right := by
      rw [Query.prepare_eq query proper, Query.prepare_eq query proper, tables]
    simp only [bind, Except.bind, alike]
    cases made : query.prepare right with
    | error failure => rfl
    | ok prepared =>
      obtain ⟨rfl, _⟩ := Query.prepare_ok proper made
      simp only [same query compiled]

end

/-- Two logs over the same accounts that differ only in messages hidden from a search give it the
same answer, whatever the searcher was asked before. -/
theorem hidden_never_shows (settings : Settings) {directory : Store → Directory}
    (accounts : Directory.KnowsAccounts directory) (history : List Visit) (origin : Origin)
    (words : List String)
    (text : ∀ request, Request.ofWords words = .ok request →
      Text.Wildcard.tooLong (Text.Wildcard.containing request.message) = false)
    (trigger : Text.Wildcard.tooLong (Text.Wildcard.opening settings.commandTrigger) = false)
    (users : List User) (aliases : List Alias) {left right : List Message}
    (leftUnique : (left.map (·.id)).Nodup) (rightUnique : (right.map (·.id)).Nodup)
    (shown : ∀ message, message.isHidden origin settings = false →
      (message ∈ left ↔ message ∈ right)) (timing : Timing) :
    let searcher := (Searcher.fresh settings directory).after history
    (searcher.search ⟨some users, some aliases, some left⟩ timing .free origin words).answer =
      (searcher.search ⟨some users, some aliases, some right⟩ timing .free origin
        words).answer := by
  intro searcher
  obtain ⟨shelf, sound, same⟩ :=
    (Searcher.fresh settings directory).after_keeps Shelf.sound_empty history
  have known := accounts ⟨some users, some aliases, some left⟩
    ⟨some users, some aliases, some right⟩ rfl rfl
  rw [show searcher = { Searcher.fresh settings directory with shelf := shelf } from same]
  apply Searcher.answer_congr rfl rfl rfl rfl _ sound known
  intro query compiled
  obtain ⟨request, criteria, read, resolved, rfl⟩ := Query.ofWords_ok compiled
  obtain ⟨_, _, _, built⟩ := Request.resolve_ok resolved
  have short : Text.Wildcard.tooLong (Text.Wildcard.containing criteria.message) = false := by
    rw [built]
    exact text request read
  have testable := Query.testable_params origin short trigger
  have perm := Query.matching_perm testable leftUnique rightUnique shown
  exact Store.run_eq_of_perm rfl rfl rfl rfl _ testable leftUnique perm timing
    settings.maxSearchResults

/-- A message in the moderation channel and another search beside the one message to be found,
asked for again after a search over no tables. -/
theorem hidden_never_shows_moderated :
    let settings : Settings := { Settings.builtIn with modChannelId := 9 }
    let origin : Origin := ⟨7, 111, 42⟩
    let greeting : Message := ⟨1, 42, 111, "hello", "2010-01-01 00:00:00+00:00"⟩
    let moderated : Message := ⟨2, 43, 9, "hello", "2010-01-02 00:00:00+00:00"⟩
    let asked : Message := ⟨3, 42, 111, "!search hello", "2010-01-03 00:00:00+00:00"⟩
    let left := [greeting]
    let right := [moderated, greeting, asked]
    let timing := Timing.once ⟨0, 0⟩
    let searcher := (Searcher.fresh settings Store.directory).after
      [⟨.empty, timing, .free, origin, ["hello"]⟩]
    (left.map (·.id)).Nodup ∧ (right.map (·.id)).Nodup ∧
      (∀ message, message.isHidden origin settings = false →
        (message ∈ left ↔ message ∈ right)) ∧
      (searcher.search ⟨some [⟨42, "alice"⟩], some [], some left⟩ timing .free origin
          ["hello"]).answer =
        (searcher.search ⟨some [⟨42, "alice"⟩], some [], some right⟩ timing .free origin
          ["hello"]).answer := by
  intro settings origin greeting moderated asked left right timing searcher
  have leftUnique : (left.map (·.id)).Nodup := by decide
  have rightUnique : (right.map (·.id)).Nodup := by decide
  have shown : ∀ message, message.isHidden origin settings = false →
      (message ∈ left ↔ message ∈ right) := by
    intro message visible
    have notModerated : message ≠ moderated := by
      rintro rfl
      exact absurd visible (by decide)
    have notAsked : message ≠ asked := by
      rintro rfl
      exact absurd visible (by decide)
    simp [left, right, notModerated, notAsked]
  have text : ∀ request, Request.ofWords ["hello"] = .ok request →
      Text.Wildcard.tooLong (Text.Wildcard.containing request.message) = false := by
    intro request read
    have asks : Request.ofWords ["hello"] = .ok ⟨[], .empty, none, ["hello"], none⟩ := by cbv
    rw [asks] at read
    cases read
    decide
  refine ⟨leftUnique, rightUnique, shown, ?_⟩
  exact hidden_never_shows settings Store.directory_knowsAccounts _ origin ["hello"] text
    (by decide) [⟨42, "alice"⟩] [] leftUnique rightUnique shown timing

end ChatLog
