import ChatLog.Proofs.Effects
import ChatLog.Proofs.Fence
import Mathlib.Tactic.MkIffOfInductiveProp

/-!
Failures as preformatted lines. What a failure tells is put between two fences as it is, with the
words and names that it quotes. So it is one line with no other fence in it exactly when the quoted
texts have neither a line break nor a fence, and the one that ends the message does not end with a
backtick. What is quoted is part of the words of the request, unless a directory told the failure.
Where there is no room for the rows of a listing, there is no reply at all.
-/
namespace ChatLog

namespace Failure

/-- The texts that the message of a failure quotes. -/
def quoted : Failure → List String
  | .unknownChannel text => [text]
  | .malformed word expected => [word, expected]
  | .unknownUser name => [name]
  | .settings cause => [cause]
  | .lock cause => [cause]
  | .told cause => cause.quoted
  | _ => []

/-- The quoted text that the message of a failure ends with. -/
def closing : Failure → String
  | .malformed _ expected => expected
  | .settings cause => cause
  | .lock cause => cause
  | .told cause => cause.closing
  | _ => ""

/-- What a failure quotes breaks neither the line nor the fence around its message. -/
@[mk_iff]
structure KeepsLine (failure : Failure) : Prop where
  inline : ∀ text ∈ failure.quoted, Text.IsInline text.toList
  ends : failure.closing.toList.getLast? ≠ some '`'

theorem keepsLine_of_silent {failure : Failure} (unquoted : failure.quoted = [])
    (unclosed : failure.closing = "") : failure.KeepsLine :=
  ⟨by simp [unquoted], by simp [unclosed]⟩

theorem fitsFence_message (failure : Failure) :
    Text.FitsFence failure.message.toList ↔ failure.KeepsLine := by
  have fixed {text : String} (calm : Text.IsCalm text.toList) :
      Text.FitsFence text.toList ↔ (∀ other ∈ ([] : List String), Text.IsInline other.toList) ∧
        "".toList.getLast? ≠ some '`' := by
    have fits := calm.fitsFence_append []
    rw [List.append_nil] at fits
    exact fits.trans (iff_of_true ⟨by decide, by decide⟩ ⟨by simp, by decide⟩)
  have between {front behind : String} (before : Text.IsCalm front.toList)
      (after : Text.IsCalm behind.toList) (text : String) :
      Text.FitsFence (front ++ text ++ behind).toList ↔
        (∀ other ∈ [text], Text.IsInline other.toList) ∧ "".toList.getLast? ≠ some '`' := by
    rw [String.toList_append, String.toList_append, List.append_assoc, before.fitsFence_append,
      after.append_isInline, List.forall_mem_singleton]
    have ends := after.getLast?_between text.toList []
    rw [List.append_nil] at ends
    rw [ne_eq, ends]
    rfl
  have ending {front : String} (before : Text.IsCalm front.toList) (text : String) :
      Text.FitsFence (front ++ text).toList ↔
        (∀ other ∈ [text], Text.IsInline other.toList) ∧ text.toList.getLast? ≠ some '`' := by
    rw [String.toList_append, before.fitsFence_append, List.forall_mem_singleton]
  rw [keepsLine_iff]
  -- the words of the messages themselves are calm, so only what is quoted between them counts
  induction failure with
  | told cause same => exact same
  | unknownChannel text =>
    exact between (Text.isCalm_ofList (by decide +kernel))
      (Text.isCalm_ofList (by decide +kernel)) text
  | unknownUser name =>
    exact between (Text.isCalm_ofList (by decide +kernel))
      (Text.isCalm_ofList (by decide +kernel)) name
  | settings cause => exact ending (Text.isCalm_ofList (by decide +kernel)) cause
  | lock cause => exact ending (Text.isCalm_ofList (by decide +kernel)) cause
  | malformed word expected =>
    have before : Text.IsCalm "Error: ".toList := by decide +kernel
    have middle : Text.IsCalm " is not a valid ".toList := by decide +kernel
    have split : (malformed word expected).message.toList =
        "Error: ".toList ++ (word.toList ++ (" is not a valid ".toList ++ expected.toList)) := by
      unfold message
      rw [String.toList_append, String.toList_append, String.toList_append, List.append_assoc,
        List.append_assoc]
    have ends := middle.getLast?_between word.toList expected.toList
    rw [quoted, closing, split, before.fitsFence_append, middle.isInline_between,
      List.forall_mem_cons, List.forall_mem_singleton, ne_eq, ends]
  | busy => exact fixed (Text.isCalm_ofList (by decide +kernel))
  | noUsers => exact fixed (Text.isCalm_ofList (by decide +kernel))
  | noSeconds => exact fixed (Text.isCalm_ofList (by decide +kernel))
  | nothingToSearch => exact fixed (Text.isCalm_ofList (by decide +kernel))
  | unprepared => exact fixed (Text.isCalm_ofList (by decide +kernel))
  | noCount => exact fixed (Text.isCalm_ofList (by decide +kernel))
  | storage => exact fixed (Text.isCalm_ofList (by decide +kernel))
  | noRoom => exact fixed (Text.isCalm_ofList (by decide +kernel))

theorem isFenced_notice (failure : Failure) :
    Text.IsFenced (Reply.notice failure.message).text.toList ↔ failure.KeepsLine := by
  have split : (Reply.notice failure.message).text.toList =
      Text.ticks ++ failure.message.toList ++ Text.ticks := by
    unfold Reply.notice Reply.fence
    rw [String.toList_append, String.toList_append]
    rfl
  rw [split, Text.isFenced_iff, fitsFence_message]

end Failure

namespace Request

theorem infix_of_mem_alternatives {word text : String} (member : text ∈ Part.alternatives word) :
    text.toList <:+: word.toList := by
  obtain ⟨part, inside, rfl⟩ := List.mem_map.mp member
  rw [String.toList_ofList]
  exact (Text.trim_within part).trans (Text.infix_of_mem_parts inside)

theorem nameOf_within (reference : String) : (nameOf reference).toList <:+: reference.toList := by
  unfold nameOf
  split
  · rename_i name same
    rw [same, String.toList_ofList]
    exact (List.suffix_cons '@' name).isInfix
  · exact List.infix_rfl

theorem Part.mem_alternatives {word : String} {part : Part} (done : Part.read word = .ok part)
    {reference : String} (member : reference ∈ part.references) :
    reference ∈ alternatives word := by
  cases read_eq_iff.mp done with
  | users opens pieces _ =>
    rw [alternatives_eq_iff.mpr pieces]
    exact List.mem_of_mem_filter member
  | _ => cases member

theorem infix_of_mem_users {words : List String} {reference : String}
    (member : reference ∈ (ofReadable words).users) :
    ∃ word ∈ words, reference.toList <:+: word.toList := by
  obtain ⟨word, inWords, inPart⟩ := List.mem_flatMap.mp member
  refine ⟨word, inWords, infix_of_mem_alternatives ?_⟩
  cases done : Part.read word with
  | ok part => exact Part.mem_alternatives done (Part.ofWord_eq done ▸ inPart)
  | error failure =>
    rw [Part.ofWord, done] at inPart
    cases inPart

theorem Part.read_keepsLine {word : String} {failure : Failure}
    (failed : Part.read word = .error failure) (inline : Text.IsInline word.toList) :
    failure.KeepsLine := by
  have malformed {expected : String} (calm : Text.IsCalm expected.toList) :
      (Failure.malformed word expected).KeepsLine := by
    refine ⟨?_, ?_⟩
    · simpa [Failure.quoted, inline] using calm.isInline
    · have ends := calm.getLast?_between [] []
      rw [List.append_nil] at ends
      exact mt ends.mp (by decide)
  have channel {text : String} (part : Text.IsInline text.toList) :
      (Failure.unknownChannel text).KeepsLine :=
    ⟨by simpa [Failure.quoted] using part, by simp [Failure.closing]⟩
  cases read_eq_iff.mp failed with
  | noSpan | noRecency => exact malformed (by decide +kernel)
  | nobody | noSeconds => exact Failure.keepsLine_of_silent rfl rfl
  | channelName => exact channel inline
  | @noChannel _ unknown before behind opens pieces =>
    have member : unknown ∈ alternatives word := by
      rw [alternatives_eq_iff.mpr pieces]
      exact List.mem_append_cons_self
    exact channel (inline.of_part (infix_of_mem_alternatives member))

end Request

namespace Searcher

theorem replyTo_error {failure : Failure} (shows : failure ≠ .noRoom) :
    replyTo (.error failure) = .ok (.notice failure.message) := by
  cases failure with
  | noRoom => exact absurd rfl shows
  | _ => rfl

/-- Over inline words, only what a directory tells can be a failure that does not keep its line. -/
theorem attempt_keepsLine (searcher : Searcher) (visit : Visit) {failure : Failure}
    (failed : (searcher.attempt visit).answer = .error failure)
    (inline : ∀ word ∈ visit.words, Text.IsInline word.toList) :
    (∃ cause lookup, failure = .told cause ∧
      searcher.directory visit.store lookup = .error cause) ∨ failure.KeepsLine := by
  have ended := searcher.failure?_attempt visit
  rw [failed] at ended
  obtain ⟨stage, _, reported⟩ := List.exists_of_findSome?_eq_some ended.symm
  have told := searcher.failureAt_reports visit reported
  cases stage with
  | taking => exact Or.inr (told ▸ Failure.keepsLine_of_silent rfl rfl)
  | reading =>
    obtain ⟨word, member, refused⟩ := firstFailure_eq_some reported
    exact Or.inr (Request.Part.read_keepsLine refused (inline word member))
  | scoping => exact Or.inr (told ▸ Failure.keepsLine_of_silent rfl rfl)
  | naming =>
    obtain ⟨reference, member, rfl | ⟨cause, passed, asked⟩⟩ := told
    · obtain ⟨word, inWords, part⟩ := Request.infix_of_mem_users member
      have named := (Request.nameOf_within reference).trans part
      refine Or.inr ⟨?_, by simp [Failure.closing]⟩
      simpa [Failure.quoted] using (inline word inWords).of_part named
    · exact Or.inl ⟨cause, _, passed, asked⟩
  | preparing => exact Or.inr (told ▸ Failure.keepsLine_of_silent rfl rfl)
  | running =>
    rcases told with rfl | ⟨rfl, _⟩
    · exact Or.inr (Failure.keepsLine_of_silent rfl rfl)
    · exact Or.inr (Failure.keepsLine_of_silent rfl rfl)

end Searcher

namespace Service

/-- Whatever makes a search fail, processing the same words leaves the same service and answers
with the failure between two fences and without more, unless there was no room for the rows, which
ends the program. The answer is a single preformatted line exactly when the failure keeps its line:
with the line breaks and fences of the words that it quotes, it does not. -/
theorem process_fences {service next : Service} {name : String} {client : Client}
    (installed : service.clients name = some client) (timing : Timing) (origin : Origin)
    (words : List String) {shown : Shown} {failure : Failure}
    (searched : service.perform timing (.search name origin words) = (next, .ok (.searched shown)))
    (failed : shown.answer = .error failure) :
    let text := "```" ++ failure.message ++ "```"
    (failure ≠ .noRoom → service.perform timing (.process name origin words) =
        (next, .ok (.replied ⟨text, false⟩ shown))) ∧
      (failure = .noRoom →
        service.perform timing (.process name origin words) = (next, .error .noRoom)) ∧
      (Text.IsFenced text.toList ↔ failure.KeepsLine) ∧
      ((∀ word ∈ words, Text.IsInline word.toList) →
        (∃ cause lookup, failure = .told cause ∧
          client.searcher.directory service.store lookup = .error cause) ∨
          Text.IsFenced text.toList) := by
  intro text
  have fenced : Text.IsFenced text.toList ↔ failure.KeepsLine := failure.isFenced_notice
  rw [perform_search installed, Prod.mk.injEq, Except.ok.injEq, Answer.searched.injEq] at searched
  obtain ⟨rfl, rfl⟩ := searched
  refine ⟨?_, ?_, fenced, ?_⟩
  · intro shows
    rw [perform_process installed, failed, Searcher.replyTo_error shows]
    rfl
  · rintro rfl
    rw [perform_process installed, failed]
    rfl
  · intro inline
    rw [fenced]
    rw [searchBy_eq] at failed
    exact client.searcher.attempt_keepsLine _ failed inline

/-- A channel by its name alone, asked for by a searcher over the log. -/
theorem process_fences_channel :
    let client : Client := ⟨.overLog .builtIn, "main"⟩
    let service : Service := { start with clients := put "log" (some client) fun _ => none }
    let timing := Timing.once ⟨0, 0⟩
    let origin : Origin := ⟨7, 111, 42⟩
    let failure : Failure := .unknownChannel "#general"
    let text := "```" ++ failure.message ++ "```"
    service.clients "log" = some client ∧
      ∃ next shown,
        service.perform timing (.search "log" origin ["#general"]) =
            (next, .ok (.searched shown)) ∧
          shown.answer = .error failure ∧
          service.perform timing (.process "log" origin ["#general"]) =
            (next, .ok (.replied ⟨text, false⟩ shown)) ∧
          Text.IsFenced text.toList := by
  intro client service timing origin failure text
  have installed : service.clients "log" = some client := rfl
  have performed := perform_search installed timing origin ["#general"]
  have failed :
      (service.searchBy timing "log" client origin ["#general"]).2.answer = .error failure := rfl
  obtain ⟨processed, _, fenced, _⟩ :=
    process_fences installed timing origin ["#general"] performed failed
  have keeps : failure.KeepsLine := ⟨by decide, by decide⟩
  exact ⟨installed, _, _, performed, failed, processed (by decide), fenced.mpr keeps⟩

/-- A line break in a word and a fence in a word, each shown as it is. -/
theorem process_unfenced :
    let service : Service :=
      { start with clients := put "log" (some ⟨.overLog .builtIn, "main"⟩) fun _ => none }
    ∀ word ∈ ["#general\nchat", "#```"], ∃ reply shown,
      (service.perform (.once ⟨0, 0⟩) (.process "log" ⟨7, 111, 42⟩ [word])).2 =
          .ok (.replied reply shown) ∧
        shown.answer = .error (.unknownChannel word) ∧
        reply = .notice (Failure.unknownChannel word).message ∧
        ¬ Text.IsFenced reply.text.toList := by
  intro service
  have shows (word : String) (torn : ¬ Text.IsInline word.toList) : ¬ Text.IsFenced
      (Reply.notice (Failure.unknownChannel word).message).text.toList := by
    rw [Failure.isFenced_notice]
    exact fun keeps => torn (keeps.inline word List.mem_cons_self)
  intro word member
  simp only [List.mem_cons, List.not_mem_nil, or_false] at member
  rcases member with rfl | rfl
  · exact ⟨_, _, rfl, rfl, rfl, shows _ (by decide)⟩
  · exact ⟨_, _, rfl, rfl, rfl, shows _ (by decide)⟩

end Service

end ChatLog
