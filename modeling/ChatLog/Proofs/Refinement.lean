import ChatLog.Proofs.Intact
import ChatLog.Proofs.Narrowing
import ChatLog.Proofs.Wildcard

/-!
Searches with one word more. One more word of the message asks for a text of which the text before
is a part, and the first word for users, for channels or for a recency asks for something that was
left open, so what is found is among what was found without it. Further users and channels are
alternatives to the ones before, so what was found is found again. A range asks for the same
messages. How many messages a search says there are can only move that way.
-/
namespace ChatLog

/-- The pattern for a text fits what the pattern for a longer text fits, wherever that is cut. -/
theorem Text.Wildcard.fits_containing_front {front behind text : String}
    (fit : fits (containing (front ++ behind)) text = true) :
    fits (containing front) text = true := by
  have longer : (containing (front ++ behind)).toList =
      ('%' :: front.toList) ++ (behind.toList ++ ['%']) := by
    simp [containing]
  have shorter : (containing front).toList = ('%' :: front.toList) ++ ['%'] := by
    simp [containing]
  rw [fits_iff, longer] at fit
  rw [fits_iff, shorter]
  by_cases null : '\x00' ∈ '%' :: front.toList
  · -- both patterns end at the null character
    rw [visible_append_of_null null] at fit ⊢
    exact fit
  · rw [visible_append null] at fit ⊢
    obtain ⟨found, rest, split, opens, _⟩ := (fits_append_iff _ _ _).mp fit
    exact (fits_append_run_iff _ _).mpr ⟨found, ⟨rest, split.symm⟩, opens⟩

theorem Store.matchesPattern_containing_front {front behind text : String}
    (found : matchesPattern (Text.Wildcard.containing (front ++ behind)) text = .ok true) :
    matchesPattern (Text.Wildcard.containing front) text = .ok true := by
  unfold matchesPattern at found ⊢
  split_ifs at found with long
  have short : ¬ Text.Wildcard.tooLong (Text.Wildcard.containing front) = true := by
    simp only [Text.Wildcard.tooLong, Text.Wildcard.containing, String.utf8ByteSize_append,
      decide_eq_true_eq] at long ⊢
    omega
  rw [if_neg short, Text.Wildcard.fits_containing_front (Except.ok.inj found)]

/-- Criteria that ask for no message which others do not ask for. -/
def Criteria.Refines (narrower wider : Criteria) : Prop :=
  ∀ now message, narrower.Asks now message → wider.Asks now message

theorem Query.length_sought_le {narrower wider : Criteria} (refines : narrower.Refines wider)
    (origin : Origin) (settings : Settings) (now : Moment) (messages : List Message) :
    (sought narrower origin settings now messages).length ≤
      (sought wider origin settings now messages).length := by
  apply List.Sublist.length_le
  apply List.monotone_filter_right
  intro message found
  rw [decide_eq_true_eq] at found ⊢
  exact ⟨refines now message found.1, found.2⟩

namespace Request

theorem ofReadable_append {words : List String} {word : String}
    (readable : ∀ other ∈ words ++ [word], ∃ part, Part.read other = .ok part) :
    ofReadable (words ++ [word]) = (ofReadable words).add (Part.ofWord word) := by
  have before : ∀ other ∈ words, ∃ part, Part.read other = .ok part :=
    fun other member => readable other (List.mem_append_left _ member)
  rw [← foldl_ofWord readable, ← foldl_ofWord before, List.map_append, List.foldl_append]
  rfl

def resolved (request : Request) (directory : Directory) (settings : Settings) : Criteria :=
  request.criteria settings
    (.ofList (request.users.flatMap (foundFor directory settings.fuzzyLimit)))

section

variable {request : Request} (directory : Directory) (settings : Settings)

theorem resolved_message_refines (word : String) :
    ((request.add (.message word)).resolved directory settings).Refines
      (request.resolved directory settings) := by
  rintro now message ⟨author, channel, text, recent⟩
  refine ⟨author, channel, ?_, recent⟩
  by_cases first : request.words = []
  · left
    simp [resolved, criteria, Request.message, first]
  · right
    have longer : ((request.add (.message word)).resolved directory settings).message =
        request.message ++ (" " ++ word) := by
      have joined := String.intercalate_append_of_ne_nil (s := " ") first (List.cons_ne_nil word [])
      rwa [String.intercalate_singleton, String.append_assoc] at joined
    rw [longer] at text
    exact Store.matchesPattern_containing_front (text.resolve_left (by simp))

theorem resolved_users_refines (nobody : request.users = []) (references : List String) :
    ((request.add (.users references)).resolved directory settings).Refines
      (request.resolved directory settings) := by
  rintro now message ⟨_, channel, text, recent⟩
  refine ⟨Or.inl ?_, channel, text, recent⟩
  simp [resolved, criteria, isEmpty_ofList, nobody]

theorem refines_resolved_users
    (somebody : ¬ (request.resolved directory settings).users.isEmpty)
    (references : List String) :
    (request.resolved directory settings).Refines
      ((request.add (.users references)).resolved directory settings) := by
  rintro now message ⟨author, channel, text, recent⟩
  refine ⟨Or.inr ?_, channel, text, recent⟩
  have known := author.resolve_left somebody
  simp only [resolved, criteria, IdSet.mem_ofList] at known ⊢
  simp [add, known]

theorem resolved_channels_refines (anywhere : request.channels.isEmpty) (ids : List Id) :
    ((request.add (.channels ids)).resolved directory settings).Refines
      (request.resolved directory settings) := by
  rintro now message ⟨author, _, text, recent⟩
  exact ⟨author, Or.inl anywhere, text, recent⟩

theorem refines_resolved_channels (somewhere : ¬ request.channels.isEmpty) (ids : List Id) :
    (request.resolved directory settings).Refines
      ((request.add (.channels ids)).resolved directory settings) := by
  rintro now message ⟨author, channel, text, recent⟩
  refine ⟨author, Or.inr ?_, text, recent⟩
  have known : message.channel ∈ request.channels := channel.resolve_left somewhere
  simp [resolved, criteria, add, known]

theorem resolved_recency_refines (always : request.seconds = none) (seconds : Int) :
    ((request.add (.recency seconds)).resolved directory settings).Refines
      (request.resolved directory settings) := by
  rintro now message ⟨author, channel, text, _⟩
  refine ⟨author, channel, text, ?_⟩
  simp [resolved, criteria, always]

end

/-- What an appended word does to the criteria: as long as nothing of its kind was asked for they
ask for less, and once there are users or channels, further ones ask for more. -/
theorem refines_append {words : List String} {word : String}
    (readable : ∀ other ∈ words ++ [word], ∃ part, Part.read other = .ok part)
    {directory : Directory} {settings : Settings}
    (resolves : (ofReadable words).Resolves directory settings) :
    let wider := (ofReadable words).resolved directory settings
    let refined := (ofReadable (words ++ [word])).resolved directory settings
    (Part.kindOf word = .message → refined.Refines wider) ∧
    (Part.kindOf word ∈ [.users, .channels, .recency] →
      (∀ earlier ∈ words, Part.kindOf earlier ≠ Part.kindOf word) → refined.Refines wider) ∧
    (Part.kindOf word ∈ [.users, .channels] →
      (∃ earlier ∈ words, Part.kindOf earlier = Part.kindOf word) → wider.Refines refined) ∧
    (Part.kindOf word = .span → ∃ span, refined = { wider with span := span }) := by
  have before : ∀ other ∈ words, ∃ part, Part.read other = .ok part :=
    fun other member => readable other (List.mem_append_left _ member)
  obtain ⟨part, done⟩ := readable word (List.mem_append_right _ List.mem_cons_self)
  rw [ofReadable_append readable, Part.ofWord_eq done, ← (Part.read_ok done).1]
  intro wider refined
  cases part with
  | blank => simp [Part.kind]
  | message text => simp [Part.kind, wider, refined, resolved_message_refines]
  | span span =>
    exact ⟨by simp [Part.kind], by simp [Part.kind], by simp [Part.kind], fun _ => ⟨span, rfl⟩⟩
  | recency seconds =>
    refine ⟨by simp [Part.kind], ?_, by simp [Part.kind], by simp [Part.kind]⟩
    intro _ new
    change ∀ earlier ∈ words, Part.kindOf earlier ≠ .recency at new
    apply resolved_recency_refines
    have never : words.filter (Part.kindOf · = .recency) = [] := by
      simpa [List.filter_eq_nil_iff] using new
    simp [ofReadable, never]
  | users references =>
    refine ⟨by simp [Part.kind], ?_, ?_, by simp [Part.kind]⟩
    · intro _ new
      exact resolved_users_refines _ _ ((users_ofReadable_eq_nil before).mpr new) references
    · rintro _ ⟨earlier, member, same⟩
      apply refines_resolved_users
      have named : (ofReadable words).users ≠ [] :=
        fun nobody => (users_ofReadable_eq_nil before).mp nobody earlier member same
      have found : ∀ reference ∈ (ofReadable words).users,
          ∃ ids, idsOf directory settings.fuzzyLimit reference = .ok ids :=
        fun reference member => (idsOf_ok_iff _ _ _).mpr (resolves reference member)
      exact mt (isEmpty_ofList _).mp (flatMap_foundFor_ne_nil found named)
  | channels ids =>
    refine ⟨by simp [Part.kind], ?_, ?_, by simp [Part.kind]⟩
    · intro _ new
      exact resolved_channels_refines _ _ ((isEmpty_channels_ofReadable before).mpr new) ids
    · rintro _ ⟨earlier, member, same⟩
      apply refines_resolved_channels
      exact fun nowhere => (isEmpty_channels_ofReadable before).mp nowhere earlier member same

end Request

namespace Searcher

def outcome (searcher : Searcher) (store : Store) (timing : Timing) (origin : Origin)
    (words : List String) : Except Failure Outcome := do
  let query ← Query.ofWords (searcher.directory store) searcher.settings origin words
  searcher.shelf.answer store timing query searcher.settings.maxSearchResults

structure Answers (searcher : Searcher) (store : Store) (timing : Timing) (guard : Guard)
    (origin : Origin) (words : List String) (outcome : Outcome) : Prop where
  outcome_eq : searcher.outcome store timing origin words = .ok outcome
  answer_eq : ∃ pattern, (searcher.search store timing guard origin words).answer =
    .ok (.ofOutcome outcome pattern searcher.settings.displayRows)

/-- A search that succeeds says how many messages its words are for. -/
theorem counts_of_ok {searcher : Searcher} (sound : searcher.shelf.Sound) {store : Store}
    {timing : Timing} {guard : Guard} {origin : Origin} {words : List String} {reply : Reply}
    (answered : (searcher.search store timing guard origin words).answer = .ok reply) :
    let directory := searcher.directory store
    (∀ word ∈ words, ∃ part, Request.Part.read word = .ok part) ∧
      (Request.ofReadable words).Resolves directory searcher.settings ∧
      ∃ outcome messages, searcher.Answers store timing guard origin words outcome ∧
        store.messages = some messages ∧
        outcome.count = (Query.sought ((Request.ofReadable words).resolved directory
          searcher.settings) origin searcher.settings timing.onCount messages).length := by
  intro directory
  obtain ⟨busy⟩ := guard
  cases busy with
  | true => cases answered
  | false =>
    have replied := answered
    rw [show (⟨false⟩ : Guard) = .free from rfl, search_answer] at replied
    obtain ⟨query, compiled, replied⟩ := bind_ok_iff.mp replied
    obtain ⟨outcome, ran, replied⟩ := bind_ok_iff.mp replied
    obtain ⟨request, criteria, read, known, rfl⟩ := Query.ofWords_ok compiled
    obtain ⟨readable, rfl⟩ := Request.ofWords_ok read
    obtain ⟨_, resolves, rfl⟩ := (Request.resolve_ok_iff _ _ _ _).mp known
    obtain ⟨messages, log⟩ := Query.messages_of_answer ran
    have answers : searcher.Answers store timing ⟨false⟩ origin words outcome :=
      ⟨bind_ok_iff.mpr ⟨_, compiled, ran⟩, _, answered.trans replied.symm⟩
    exact ⟨(firstFailure_eq_none _ _).mp readable, resolves, outcome, messages, answers, log,
      Query.count_of_answer sound log ran⟩

/-- When one word is appended and both searches succeed, each after a history of its own but on the
same store, at the same moments and for the same message, the count does not rise with one more word
of the message or with the first word for users, channels or a recency, does not fall with further
users or channels, and stays with a range. -/
theorem appended_word_shifts_count (settings : Settings) (directory : Store → Directory)
    (history later : List Visit) (store : Store) (timing : Timing) (guard again : Guard)
    (origin : Origin) (words : List String) (word : String) {reply refined : Reply} :
    let searcher := (fresh settings directory).after history
    let other := (fresh settings directory).after later
    (searcher.search store timing guard origin words).answer = .ok reply →
    (other.search store timing again origin (words ++ [word])).answer = .ok refined →
    ∃ before behind, searcher.Answers store timing guard origin words before ∧
      other.Answers store timing again origin (words ++ [word]) behind ∧
      (Request.Part.kindOf word = .message → behind.count ≤ before.count) ∧
      (Request.Part.kindOf word ∈ [.users, .channels, .recency] →
        (∀ earlier ∈ words, Request.Part.kindOf earlier ≠ Request.Part.kindOf word) →
          behind.count ≤ before.count) ∧
      (Request.Part.kindOf word ∈ [.users, .channels] →
        (∃ earlier ∈ words, Request.Part.kindOf earlier = Request.Part.kindOf word) →
          before.count ≤ behind.count) ∧
      (Request.Part.kindOf word = .span → behind.count = before.count) := by
  intro searcher other answered refinedAnswered
  obtain ⟨shelf, sound, same⟩ := (fresh settings directory).after_keeps Shelf.sound_empty history
  obtain ⟨kept, alsoSound, alsoSame⟩ :=
    (fresh settings directory).after_keeps Shelf.sound_empty later
  change searcher = _ at same
  change other = _ at alsoSame
  rw [same] at answered ⊢
  rw [alsoSame] at refinedAnswered ⊢
  obtain ⟨_, resolves, before, messages, wide, log, counted⟩ := counts_of_ok sound answered
  obtain ⟨readable, _, behind, found, narrow, alsoLog, counts⟩ :=
    counts_of_ok alsoSound refinedAnswered
  cases log.symm.trans alsoLog
  obtain ⟨message, first, further, ranged⟩ := Request.refines_append readable resolves
  refine ⟨before, behind, wide, narrow, ?_, ?_, ?_, ?_⟩
  all_goals rw [counted, counts]
  · intro text
    exact Query.length_sought_le (message text) origin settings timing.onCount messages
  · intro kind new
    exact Query.length_sought_le (first kind new) origin settings timing.onCount messages
  · intro kind known
    exact Query.length_sought_le (further kind known) origin settings timing.onCount messages
  · intro kind
    obtain ⟨span, spanned⟩ := ranged kind
    have same := congrArg (fun criteria =>
      (Query.sought criteria origin settings timing.onCount messages).length) spanned
    exact same.trans (congrArg List.length (Query.sought_withSpan span timing.onCount))

/-- One more word of the message with a wildcard, and an alternative to the user. -/
theorem appended_word_shifts_count_snow :
    let store : Store := ⟨some [⟨42, "alice"⟩, ⟨43, "bob"⟩], some [],
      some [⟨1, 42, 111, "the snow man", "2010-01-01 00:00:00+00:00"⟩,
        ⟨2, 42, 111, "SNOW", "2010-01-02 00:00:00+00:00"⟩,
        ⟨3, 43, 111, "snow", "2010-01-03 00:00:00+00:00"⟩]⟩
    let searcher := fresh .builtIn Store.directory
    let answer := fun words =>
      (searcher.search store (.once ⟨0, 0⟩) .free ⟨7, 111, 42⟩ words).answer
    let answers := searcher.Answers store (.once ⟨0, 0⟩) .free ⟨7, 111, 42⟩
    let words := ["*", "@alice", "Sn_w"]
    answer words = .ok ⟨Reply.header 2, false⟩ ∧
      answer (words ++ ["m%n"]) = .ok ⟨Reply.header 1, false⟩ ∧
      answer (words ++ ["@bob"]) = .ok ⟨Reply.header 3, false⟩ ∧
      (∃ before behind, answers words before ∧ answers (words ++ ["m%n"]) behind ∧
        behind.count ≤ before.count) ∧
      ∃ before behind, answers words before ∧ answers (words ++ ["@bob"]) behind ∧
        before.count ≤ behind.count := by
  intro store searcher answer answers words
  have found : answer words = .ok ⟨Reply.header 2, false⟩ := by decide +kernel
  have longer : answer (words ++ ["m%n"]) = .ok ⟨Reply.header 1, false⟩ := by decide +kernel
  have further : answer (words ++ ["@bob"]) = .ok ⟨Reply.header 3, false⟩ := by decide +kernel
  obtain ⟨before, behind, wide, narrow, fewer, _⟩ := appended_word_shifts_count .builtIn
    Store.directory [] [] store (.once ⟨0, 0⟩) .free .free ⟨7, 111, 42⟩ words "m%n" found longer
  obtain ⟨alone, both, one, together, _, _, more, _⟩ := appended_word_shifts_count .builtIn
    Store.directory [] [] store (.once ⟨0, 0⟩) .free .free ⟨7, 111, 42⟩ words "@bob" found further
  exact ⟨found, longer, further, ⟨before, behind, wide, narrow, fewer rfl⟩, alone, both, one,
    together, more (by decide) (by decide)⟩

end Searcher

end ChatLog
