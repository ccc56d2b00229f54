import ChatLog.Proofs.Chronology
import ChatLog.Proofs.Intact
import ChatLog.Proofs.Links

/-!
How many rows a reply lists, and when it says that there are more. A listing is never longer than
the greatest number of rows, and without a range not longer than the rows that are usually shown
either. More is said to be available exactly where more rows are listed than these, which takes a
range, and a greatest number of rows above them.
-/
namespace ChatLog

def Outcome.rows : Outcome → List Row
  | .listed _ rows => rows
  | _ => []

def Reply.heading : Outcome → String
  | .noResults => fence "No results found."
  | .noneInRange _ => fence "No results in range."
  | .counted count => header count
  | .listed count _ => header count

theorem Reply.text_ofOutcome (outcome : Outcome) (pattern : String) (displayRows : UInt64) :
    (ofOutcome outcome pattern displayRows).text = heading outcome ++
      String.join (outcome.rows.map fun row => defuseLinks (line row pattern)) := by
  have alone (text : String) : text = text ++ String.join [] := by simp
  cases outcome with
  | noResults => exact alone _
  | counted count => exact alone _
  | noneInRange count => exact alone _
  | listed count rows => exact text_listed count rows pattern displayRows

theorem Reply.more_ofOutcome (outcome : Outcome) (pattern : String) (displayRows : UInt64) :
    (ofOutcome outcome pattern displayRows).more = true ↔
      displayRows.toNat < outcome.rows.length := by
  cases outcome with
  | listed count rows => exact decide_eq_true_iff
  | noResults => simp [ofOutcome, notice, Outcome.rows]
  | counted count => simp [ofOutcome, Outcome.rows]
  | noneInRange count => simp [ofOutcome, notice, Outcome.rows]

/-- Rows are listed only for a window, and not more than it is long. -/
theorem Statements.length_rows {statements : Statements} {params : List Param} {span : Span}
    {most : UInt64} {outcome : Outcome} (ran : statements.run params span most = .ok outcome) :
    outcome.rows = [] ∨ ∃ window, span.window? most = some window ∧
      outcome.rows.length ≤ window.limit.toNat := by
  cases outcome with
  | noResults => exact Or.inl rfl
  | counted count => exact Or.inl rfl
  | noneInRange count => exact Or.inl rfl
  | listed count rows =>
    obtain ⟨window, stream, shrunk, _, read⟩ := listing_of_run ran
    refine Or.inr ⟨window, shrunk, ?_⟩
    calc rows.length = (stream.take window.limit.toNat).length := by rw [read, List.length_map]
      _ ≤ window.limit.toNat := by
        rw [List.length_take]
        exact Nat.min_le_left _ _

namespace Request

variable {words : List String}

theorem span_ofReadable_of_none (unasked : ∀ word ∈ words, Part.kindOf word ≠ .span) :
    (ofReadable words).span = none := by
  have kept : words.filter (Part.kindOf · = .span) = [] := by
    rw [List.filter_eq_nil_iff]
    intro word member
    simp [unasked word member]
  rw [ofReadable, kept]
  rfl

theorem span_ofReadable_of_star
    (counting : (words.filter (Part.kindOf · = .span)).getLast? = some "*") :
    (ofReadable words).span = some .countOnly := by
  rw [ofReadable, counting]
  rfl

end Request

/-- A query asks for the span of the last range among its words, or else for the rows that are
usually shown. -/
theorem Query.span_ofWords {directory : Directory} {settings : Settings} {origin : Origin}
    {words : List String} {query : Query}
    (compiled : ofWords directory settings origin words = .ok query) :
    query.span = (Request.ofReadable words).span.getD (.newest settings.displayRows) := by
  obtain ⟨request, criteria, read, resolved, rfl⟩ := ofWords_ok compiled
  obtain ⟨_, rfl⟩ := Request.ofWords_ok read
  obtain ⟨_, users, _, rfl⟩ := Request.resolve_ok resolved
  rfl

namespace Searcher

variable {searcher : Searcher} {store : Store} {timing : Timing} {guard : Guard} {origin : Origin}
  {words : List String} {reply : Reply}

theorem search_ok
    (answered : (searcher.search store timing guard origin words).answer = .ok reply) :
    ∃ query outcome,
      Query.ofWords (searcher.directory store) searcher.settings origin words = .ok query ∧
      searcher.shelf.answer store timing query searcher.settings.maxSearchResults = .ok outcome ∧
      reply = .ofOutcome outcome query.message searcher.settings.displayRows := by
  obtain ⟨busy⟩ := guard
  cases busy with
  | true => cases answered
  | false =>
    rw [show (⟨false⟩ : Guard) = .free from rfl, search_answer] at answered
    obtain ⟨query, compiled, answered⟩ := bind_ok_iff.mp answered
    obtain ⟨outcome, ran, replied⟩ := bind_ok_iff.mp answered
    cases replied
    exact ⟨query, outcome, compiled, ran, rfl⟩

/-- A search that is answered replies with a heading and a line for each row of its outcome, and
says that there are more exactly if these are more than the rows that are usually shown. They are
never more than the greatest number of rows; without a range they are no more than are usually
shown, and where the last range only counts there are none. So more is said to be available neither
there nor where the greatest number is not above the usual one. -/
theorem search_more
    (answered : (searcher.search store timing guard origin words).answer = .ok reply) :
    ∃ query outcome,
      Query.ofWords (searcher.directory store) searcher.settings origin words = .ok query ∧
      searcher.shelf.answer store timing query searcher.settings.maxSearchResults = .ok outcome ∧
      reply.text = Reply.heading outcome ++ String.join
        (outcome.rows.map fun row => Reply.defuseLinks (Reply.line row query.message)) ∧
      (reply.more = true ↔ searcher.settings.displayRows.toNat < outcome.rows.length) ∧
      outcome.rows.length ≤ searcher.settings.maxSearchResults.toNat ∧
      ((∀ word ∈ words, Request.Part.kindOf word ≠ .span) →
        outcome.rows.length ≤ searcher.settings.displayRows.toNat ∧ reply.more = false) ∧
      ((words.filter (Request.Part.kindOf · = .span)).getLast? = some "*" →
        outcome.rows = [] ∧ reply.more = false) ∧
      (searcher.settings.maxSearchResults ≤ searcher.settings.displayRows →
        reply.more = false) := by
  obtain ⟨query, outcome, compiled, ran, rfl⟩ := search_ok answered
  have asked := Query.span_ofWords compiled
  have more := Reply.more_ofOutcome outcome query.message searcher.settings.displayRows
  have nothing (few : outcome.rows.length ≤ searcher.settings.displayRows.toNat) :
      (Reply.ofOutcome outcome query.message searcher.settings.displayRows).more = false :=
    Bool.eq_false_iff.mpr fun surplus => Nat.not_lt.mpr few (more.mp surplus)
  obtain ⟨prepared, _, listed⟩ := bind_ok_iff.mp ran
  have bounds : outcome.rows.length ≤ searcher.settings.maxSearchResults.toNat := by
    rcases Statements.length_rows listed with unlisted | ⟨window, shrunk, few⟩
    · simp [unlisted]
    · exact few.trans (UInt64.le_iff_toNat_le.mp (Span.limit_le shrunk))
  refine ⟨query, outcome, compiled, ran, Reply.text_ofOutcome _ _ _, more, bounds, ?_, ?_, ?_⟩
  · intro unasked
    rw [Request.span_ofReadable_of_none unasked, Option.getD_none] at asked
    have few : outcome.rows.length ≤ searcher.settings.displayRows.toNat := by
      rcases Statements.length_rows listed with unlisted | ⟨window, shrunk, few⟩
      · simp [unlisted]
      · rw [asked] at shrunk
        cases shrunk
        rw [UInt64.toNat_min] at few
        exact few.trans (Nat.min_le_left _ _)
    exact ⟨few, nothing few⟩
  · intro counting
    rw [Request.span_ofReadable_of_star counting, Option.getD_some] at asked
    have unlisted : outcome.rows = [] := by
      rcases Statements.length_rows listed with unlisted | ⟨window, shrunk, _⟩
      · exact unlisted
      · rw [asked] at shrunk
        cases shrunk
    exact ⟨unlisted, nothing (by simp [unlisted])⟩
  · intro less
    exact nothing (bounds.trans (UInt64.le_iff_toNat_le.mp less))

/-- Three matches, of which two are listed at most and one is usually shown. -/
theorem search_more_hello :
    let messages : List Message := [⟨3, 42, 111, "oh, hello", "2010-01-03 00:00:00+00:00"⟩,
      ⟨2, 42, 111, "hello you", "2010-01-02 00:00:00+00:00"⟩,
      ⟨1, 42, 111, "hello", "2010-01-01 00:00:00+00:00"⟩]
    let store : Store := ⟨some [⟨42, "alice"⟩], some [], some messages⟩
    let timing := Timing.once ⟨0, 0⟩
    let searcher := overLog { Settings.builtIn with maxSearchResults := 2, displayRows := 1 }
    let reply : Reply := ⟨Reply.header 3 ++ "[1/3 12:00:00AM] alice: oh, **hello**\n" ++
      "[1/2 12:00:00AM] alice: **hello** you\n", true⟩
    (searcher.search store timing .free ⟨7, 111, 42⟩ ["hello", "*3"]).answer = .ok reply ∧
      ∃ query outcome, searcher.shelf.answer store timing query 2 = .ok outcome ∧
        reply.text = Reply.heading outcome ++ String.join
          (outcome.rows.map fun row => Reply.defuseLinks (Reply.line row query.message)) ∧
        outcome.rows.length = 2 := by
  intro messages store timing searcher reply
  let query := Query.ofCriteria ⟨.empty, .empty, none, "hello", .newest 3⟩ ⟨7, 111, 42⟩
    searcher.settings
  let statements := (⟨query.count, query.listing⟩ : Prepared).on store timing
  let rows : List Row :=
    [⟨"alice", "oh, hello", ⟨1262476800, 0⟩⟩, ⟨"alice", "hello you", ⟨1262390400, 0⟩⟩]
  have compiled : Query.ofWords (searcher.directory store) searcher.settings ⟨7, 111, 42⟩
      ["hello", "*3"] = .ok query := by decide +kernel
  have matched : Store.matching query.clause timing.onListing messages = messages := by
    decide +kernel
  have sorted : Store.newestFirst messages = messages := List.mergeSort_of_pairwise (by decide)
  have window : query.span.window? 2 = some ⟨2, none⟩ := by decide
  have listing : statements.listing (query.params ++ Window.params ⟨2, none⟩) =
      .ok (rows.map some) := by
    have lists := Store.answerListing_eq (show store.messages = some messages from rfl)
      timing.onListing query (by decide +kernel)
      (show store.users = some [⟨42, "alice"⟩] from rfl) window
    rw [if_pos (by decide +kernel), matched, Store.listed, sorted] at lists
    refine lists.trans ?_
    decide +kernel
  have counted : statements.count query.params = .ok (some 3) := by decide +kernel
  have fetched : statements.fetch query.params ⟨2, none⟩ = .ok rows := by
    have room : Window.hasRoom ⟨2, none⟩ = true := by decide
    rw [statements.fetch_of_room (by decide +kernel) room, listing]
    rfl
  have ran : statements.run query.params query.span 2 = .ok (.listed 3 rows) := by
    simp only [Statements.run_eq statements counted, window, fetched]
    rfl
  have answered : (searcher.search store timing .free ⟨7, 111, 42⟩ ["hello", "*3"]).answer =
      .ok reply := by
    have outcome : searcher.shelf.answer store timing query 2 = .ok (.listed 3 rows) :=
      bind_ok_iff.mpr ⟨_, by decide +kernel, ran⟩
    refine (search_answer searcher store _ _ _).trans (bind_ok_iff.mpr ⟨query, compiled, ?_⟩)
    refine bind_ok_iff.mpr ⟨_, outcome, ?_⟩
    decide +kernel
  obtain ⟨query, outcome, _, ran, text, more, few, _⟩ := search_more answered
  exact ⟨answered, query, outcome, ran, text, Nat.le_antisymm few (more.mp rfl)⟩

end Searcher

end ChatLog
