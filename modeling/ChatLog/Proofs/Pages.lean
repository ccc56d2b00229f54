import ChatLog.Proofs.Outcome
import Mathlib.Data.Nat.Find

/-!
Matches that are read page by page. Neighbouring pages are neighbouring parts of one listing, so
that the pages up to the first one that is no listing make up all of it.
-/
namespace ChatLog

/-- The span of a page, counted from zero, of so many rows, while its bounds are words. -/
def Span.pageAt? (size page : Nat) : Option Span :=
  if (page + 1) * size < 0x10000000000000000 then
    some (.rows (.ofNat (page * size + 1)) (.ofNat ((page + 1) * size)))
  else none

theorem Span.page_pageAt {α : Type} {size page : Nat} {span : Span} {most : UInt64}
    (positive : 1 ≤ size) (fits : size ≤ most.toNat) (asked : pageAt? size page = some span)
    (listing : List α) :
    span ≠ .countOnly ∧ span.page most listing = (listing.drop (page * size)).take size := by
  unfold pageAt? at asked
  split_ifs at asked with small
  cases asked
  have next : (page + 1) * size = page * size + size := Nat.succ_mul page size
  rw [next] at small ⊢
  have first : (UInt64.ofNat (page * size + 1)).toNat = page * size + 1 :=
    UInt64.toNat_ofNat_of_lt' (by rw [UInt64.size]; omega)
  have last : (UInt64.ofNat (page * size + size)).toNat = page * size + size :=
    UInt64.toNat_ofNat_of_lt' (by rw [UInt64.size]; omega)
  have later : UInt64.ofNat (page * size + 1) ≠ 0 := by
    intro zero
    rw [zero] at first
    simp at first
  have length : min (max (page * size + size) (page * size + 1) - (page * size + 1) + 1)
      most.toNat = size := by omega
  refine ⟨nofun, ?_⟩
  rw [Span.page, if_neg later, first, last, length, Nat.add_sub_cancel]

/-- Pages that begin within a listing that is not too long have words for their bounds. -/
theorem Span.pageAt?_isSome {size page length : Nat} (few : length < 0x8000000000000000)
    (small : size < 0x10000000000000000) (begins : page * size < length) :
    (pageAt? size page).isSome := by
  have next : (page + 1) * size = page * size + size := Nat.succ_mul page size
  have bound : (page + 1) * size < 0x10000000000000000 := by
    cases page with
    | zero => omega
    | succ page =>
      have before : (page + 1) * size = page * size + size := Nat.succ_mul page size
      omega
  rw [pageAt?, if_pos bound]
  rfl

theorem Span.page_newest {α : Type} {last most : UInt64} {listing : List α}
    (long : listing.length ≤ last.toNat) (wide : listing.length ≤ most.toNat) :
    (Span.newest last).page most listing = listing := by
  rw [newest, page, if_pos rfl, UInt64.toNat_zero, Nat.zero_sub, List.drop_zero,
    List.take_of_length_le (le_min long wide)]

theorem Row.Shows.unique {reader : TimeReader} {users : List User}
    (keys : Store.Keys User.id User.id users) :
    Relator.LeftUnique (Row.Shows reader users) := by
  intro row other message shows shows'
  obtain ⟨author, text, written⟩ := row
  obtain ⟨author', text', written'⟩ := other
  have user := List.inj_on_of_nodup_map keys.unique shows.author shows'.author rfl
  cases user
  cases shows.text.trans shows'.text.symm
  cases Option.some.inj (shows.written.symm.trans shows'.written)
  rfl

/-- What is told of a part of a listing is a list of rows, and no other rows show that part. -/
theorem Outcome.Tells.eq_listed {reader : TimeReader} {users : List User} {count : Nat}
    {found : List Message} {span : Span} {most : UInt64} {outcome : Outcome}
    (told : outcome.Tells reader users count found span most)
    (keys : Store.Keys User.id User.id users) (matched : count ≠ 0) (ranged : span ≠ .countOnly)
    (something : span.page most (Query.ordered users found) ≠ []) {rows : List Row}
    (shown : List.Forall₂ (Row.Shows reader users) rows
      (span.page most (Query.ordered users found))) :
    outcome = .listed count rows := by
  cases outcome with
  | noResults => exact absurd told matched
  | counted other => exact absurd told.2.2 ranged
  | noneInRange other => exact absurd told.2.2.2 something
  | listed other alike =>
    obtain ⟨_, rfl, _, _, same⟩ := told
    rw [List.left_unique_forall₂' (Row.Shows.unique keys) same shown]

namespace Query

variable {reader : TimeReader} {users : List User} {found : List Message} {size : Nat}
  {most : UInt64} {answer : Nat → Span → Except Failure Outcome}

section

variable (positive : 1 ≤ size) (fits : size ≤ most.toNat)
  (tells : ∀ page span, Span.pageAt? size page = some span →
    ∃ outcome, answer page span = .ok outcome ∧
      outcome.Tells reader users found.length found span most)

include positive fits tells

/-- A page that begins within the listing lists the part of it that comes next. -/
theorem page_listed (few : found.length < 0x8000000000000000) {page : Nat}
    (begins : page * size < (ordered users found).length) :
    ∃ span rows, Span.pageAt? size page = some span ∧
      answer page span = .ok (.listed found.length rows) ∧
      List.Forall₂ (Row.Shows reader users) rows
        (((ordered users found).drop (page * size)).take size) := by
  have length : (ordered users found).length ≤ found.length := by
    rw [(ordered_perm users found).length_eq]
    exact List.length_filter_le _ _
  have word := most.toNat_lt
  have small : size < 0x10000000000000000 := Nat.lt_of_le_of_lt fits word
  obtain ⟨span, asked⟩ := Option.isSome_iff_exists.mp
    (Span.pageAt?_isSome (lt_of_le_of_lt length few) small begins)
  obtain ⟨rowsAsked, part⟩ := Span.page_pageAt positive fits asked (ordered users found)
  obtain ⟨outcome, answered, told⟩ := tells page span asked
  have something : ((ordered users found).drop (page * size)).take size ≠ [] := by
    rw [← List.length_pos_iff, List.length_take, List.length_drop]
    omega
  cases outcome with
  | noResults =>
    have nothing : found.length = 0 := told
    omega
  | counted count => exact absurd told.2.2 rowsAsked
  | noneInRange count => exact absurd (part ▸ told.2.2.2) something
  | listed count rows =>
    obtain ⟨_, rfl, _, _, shown⟩ := told
    exact ⟨span, rows, asked, answered, part ▸ shown⟩

theorem page_not_listed {page : Nat} (beyond : (ordered users found).length ≤ page * size)
    {span : Span} (asked : Span.pageAt? size page = some span) :
    ∃ outcome, answer page span = .ok outcome ∧ ∀ count rows, outcome ≠ .listed count rows := by
  obtain ⟨_, part⟩ := Span.page_pageAt positive fits asked (ordered users found)
  obtain ⟨outcome, answered, told⟩ := tells page span asked
  refine ⟨outcome, answered, ?_⟩
  rintro count rows rfl
  obtain ⟨_, _, _, something, shown⟩ := told
  rw [part, List.drop_eq_nil_of_le beyond, List.take_nil] at shown
  exact something (List.forall₂_nil_right_iff.mp shown)

theorem pages_listed (few : found.length < 0x8000000000000000) (number : Nat)
    (begin : ∀ page < number, page * size < (ordered users found).length) :
    ∃ pages : List (List Row), pages.length = number ∧
      (∀ page rows, pages[page]? = some rows → ∃ span, Span.pageAt? size page = some span ∧
        answer page span = .ok (.listed found.length rows)) ∧
      List.Forall₂ (Row.Shows reader users) pages.flatten
        ((ordered users found).take (number * size)) := by
  -- each page goes on where the pages before it end
  induction number with
  | zero => exact ⟨[], rfl, by simp, by simp⟩
  | succ number ih =>
    obtain ⟨pages, rfl, listed, shown⟩ := ih fun page before => begin page (by omega)
    obtain ⟨span, rows, asked, answered, next⟩ :=
      page_listed positive fits tells few (begin pages.length (by omega))
    refine ⟨pages ++ [rows], by simp, ?_, ?_⟩
    · intro page other there
      rcases Nat.lt_trichotomy page pages.length with before | rfl | behind
      · rw [List.getElem?_append_left before] at there
        exact listed page other there
      · rw [List.getElem?_concat_length] at there
        cases there
        exact ⟨span, asked, answered⟩
      · rw [List.getElem?_eq_none (by simp; omega)] at there
        cases there
    · rw [List.flatten_concat, Nat.succ_mul, List.take_add]
      exact List.rel_append shown next

end

/-- While the matching messages stay the same and no page of them fails, the pages up to the first
one that is no listing list those matching messages whose authors have a name, each once, newest
first and of equal times the larger id first. So does one listing that is long enough for all of
them, if there is room for it. -/
theorem pages_list_sought {store : Store} (keyed : store.Keyed) {messages : List Message}
    (named : store.users = some users) (log : store.messages = some messages)
    (criteria : Criteria) (origin : Origin) (settings : Settings) (history : Nat → List Errand)
    (reader : TimeReader) (counting listing : Nat → Instant) (found : List Message)
    (counted : ∀ page, sought criteria origin settings ⟨reader, counting page⟩ messages = found)
    (steady : ∀ page, sought criteria origin settings ⟨reader, listing page⟩ messages = found)
    {size : Nat} (positive : 1 ≤ size) (fits : size ≤ settings.maxSearchResults.toNat) :
    let answer := fun (page : Nat) (span : Span) (most : UInt64) =>
      (Shelf.empty.after (history page)).answer store ⟨reader, counting page, listing page⟩
        (ofCriteria { criteria with span := span } origin settings) most
    (∀ page span, Span.pageAt? size page = some span →
      ∃ outcome, answer page span settings.maxSearchResults = .ok outcome) →
    ∃ (pages : List (List Row)) (whole : List Message),
      (∀ page rows, pages[page]? = some rows → ∃ span, Span.pageAt? size page = some span ∧
        answer page span settings.maxSearchResults = .ok (.listed found.length rows)) ∧
      (∀ span, Span.pageAt? size pages.length = some span →
        ∃ outcome, answer pages.length span settings.maxSearchResults = .ok outcome ∧
          ∀ count rows, outcome ≠ .listed count rows) ∧
      List.Forall₂ (Row.Shows reader users) pages.flatten whole ∧
      whole.Perm (found.filter fun message => message.author ∈ users.map User.id) ∧
      whole.Nodup ∧
      (whole.Pairwise fun first second =>
        second.time < first.time ∨ first.time = second.time ∧ second.id ≤ first.id) ∧
      ∀ page last most, whole ≠ [] → whole.length ≤ last.toNat → whole.length ≤ most.toNat →
        Window.hasRoom ⟨min last most, none⟩ →
        answer page (.newest last) most = .ok (.listed found.length pages.flatten) := by
  intro answer succeeds
  have sound (page : Nat) := Shelf.after_sound Shelf.sound_empty (history page)
  have told {page : Nat} {span : Span} {most : UInt64} {outcome : Outcome}
      (answered : answer page span most = .ok outcome) :
      outcome.Tells reader users found.length found span most := by
    have tells := tells_of_answer (sound page) log named keyed answered
    rw [sought_withSpan span, sought_withSpan span] at tells
    simpa only [Timing.onCount, Timing.onListing, counted, steady] using tells
  have tells (page : Nat) (span : Span) (asked : Span.pageAt? size page = some span) :
      ∃ outcome, answer page span settings.maxSearchResults = .ok outcome ∧
        outcome.Tells reader users found.length found span settings.maxSearchResults := by
    obtain ⟨outcome, answered⟩ := succeeds page span asked
    exact ⟨outcome, answered, told answered⟩
  have word := settings.maxSearchResults.toNat_lt
  have runs (matched : found ≠ []) : Runs criteria origin settings := by
    obtain ⟨span, asked⟩ : ∃ span, Span.pageAt? size 0 = some span := by
      rw [Span.pageAt?, if_pos (by omega)]
      exact ⟨_, rfl⟩
    obtain ⟨outcome, answered⟩ := succeeds 0 span asked
    refine (runs_of_answer (sound 0) log named answered ?_).withSpan criteria.span
    rw [sought_withSpan]
    exact (counted 0).symm ▸ matched
  have few : found.length < 0x8000000000000000 := by
    by_cases matched : found = []
    · simp [matched]
    · exact counted 0 ▸ (runs matched).length_sought (keyed.messages messages log) _
  have first : ∃ page, (ordered users found).length ≤ page * size :=
    ⟨(ordered users found).length, Nat.le_mul_of_pos_right _ positive⟩
  obtain ⟨pages, number, listed, shown⟩ := pages_listed positive fits tells few (Nat.find first)
    fun page before => Nat.lt_of_not_le (Nat.find_min first before)
  have beyond : (ordered users found).length ≤ pages.length * size := number ▸ Nat.find_spec first
  rw [← number, List.take_of_length_le beyond] at shown
  refine ⟨pages, ordered users found, listed, ?_, shown, ordered_perm users found, ?_,
    ordered_pairwise users found, ?_⟩
  · intro span asked
    exact page_not_listed positive fits tells beyond asked
  · have unique : found.Nodup := by
      rw [← steady 0]
      exact (keyed.messages messages log).unique.of_map.filter _
    exact (ordered_perm users found).nodup_iff.mpr (unique.filter _)
  · intro page last most something long wide room
    have whole : (Span.newest last).page most (ordered users found) = ordered users found :=
      Span.page_newest long wide
    have matched : found ≠ [] := by
      rintro rfl
      exact something (by simp [ordered, Store.newestFirst])
    have answers : ∃ outcome, answer page (.newest last) most = .ok outcome := by
      refine ((runs matched).withSpan (.newest last)).answer_ok (sound page) log named keyed ?_ ?_
      · rintro window ⟨⟩
        exact room
      · intro message member
        rw [sought_withSpan (.newest last), Timing.onListing, steady, whole] at member
        obtain ⟨⟨place, within⟩, rfl⟩ := List.get_of_mem member
        have shows := shown.get (shown.length_eq ▸ within) within
        rw [shows.written]
        rfl
    obtain ⟨outcome, answered⟩ := answers
    have ranged : Span.newest last ≠ .countOnly := by simp [Span.newest]
    rw [answered, (told answered).eq_listed (keyed.users users named)
      (mt List.length_eq_zero_iff.mp matched) ranged (whole.symm ▸ something) (whole.symm ▸ shown)]

/-- Three greetings by somebody with a name and one by somebody without, two rows on a page. -/
theorem pages_list_sought_greetings :
    let first : Message := ⟨1, 42, 111, "hello", "2010-01-01 00:00:00+00:00"⟩
    let stranger : Message := ⟨2, 43, 111, "oh hello", "2010-01-02 00:00:00+00:00"⟩
    let second : Message := ⟨3, 42, 111, "hello again", "2010-01-03 00:00:00+00:00"⟩
    let third : Message := ⟨4, 42, 111, "hello there", "2010-01-04 00:00:00+00:00"⟩
    let timing := Timing.once ⟨0, 0⟩
    let store : Store := (Service.start.performAll
      [(timing, .create), (timing, .putUser ⟨42, "alice"⟩), (timing, .addMessage first),
        (timing, .addMessage stranger), (timing, .addMessage second),
        (timing, .addMessage third)]).1.store
    let criteria : Criteria := ⟨.empty, .ofList [111], none, "hello", .countOnly⟩
    let origin : Origin := ⟨7, 111, 42⟩
    let answer := fun span : Span => Shelf.empty.answer store timing
      (ofCriteria { criteria with span := span } origin .builtIn) 50
    store.Keyed ∧ ∃ pages : List (List Row), pages.flatten.length = 3 ∧
      (∀ page rows, pages[page]? = some rows → ∃ span, Span.pageAt? 2 page = some span ∧
        answer span = .ok (.listed 4 rows)) ∧
      answer (.newest 3) = .ok (.listed 4 pages.flatten) := by
  intro first stranger second third timing store criteria origin answer
  have keyed : store.Keyed := Service.performAll_keyed Store.keyed_empty _
  have named : store.users = some [⟨42, "alice"⟩] := rfl
  have log : store.messages = some [first, stranger, second, third] := rfl
  have readable : ∀ message ∈ [first, stranger, second, third],
      (TimeReader.exact.read? message.time).isSome := by decide +kernel
  have steady : sought criteria origin .builtIn ⟨.exact, 0, 0⟩ [first, stranger, second, third] =
      [first, stranger, second, third] := by decide +kernel
  have runs : Runs criteria origin .builtIn :=
    ⟨by decide +kernel, by decide +kernel, by decide +kernel⟩
  have succeeds (page : Nat) (span : Span) (asked : Span.pageAt? 2 page = some span) :
      ∃ outcome, answer span = .ok outcome := by
    refine (runs.withSpan span).answer_ok Shelf.sound_empty log named keyed ?_ ?_
    · exact Span.hasRoom_of_small (by decide)
    · intro message member
      exact readable message (mem_of_page member)
  obtain ⟨pages, whole, listed, _, shown, perm, _, _, long⟩ := pages_list_sought keyed named log
    criteria origin .builtIn (fun _ => []) .exact (fun _ => ⟨0, 0⟩) (fun _ => ⟨0, 0⟩) _
    (fun _ => steady) (fun _ => steady) (by decide : 1 ≤ 2) (by decide) succeeds
  have three : whole.length = 3 := by
    rw [perm.length_eq]
    decide
  refine ⟨keyed, pages, shown.length_eq.trans three, listed, long 0 3 50 ?_ ?_ ?_ (by decide)⟩
  · exact List.ne_nil_of_length_pos (by omega)
  · exact three.le
  · rw [three]
    decide

end Query

end ChatLog
