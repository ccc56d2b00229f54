import ChatLog.Proofs.Accounts
import ChatLog.Proofs.Entries
import ChatLog.Proofs.Request
import ChatLog.Proofs.Wildcard
import Mathlib.Data.List.Infix

/-!
What names and texts are found by a part of them. A part is looked for with a wildcard pattern, so
whatever has a part written like it, up to the case of ASCII letters, is found. Nothing else is
found as long as every character of the part stands for itself alone; but a `%` or a `_` in it is a
wildcard there as well, and three characters of the first plane are not told apart.
-/
namespace ChatLog

namespace Text

/-- Whether a text has a part written like another text, up to the case of ASCII letters. -/
def Contains (part text : String) : Prop :=
  ∃ found, found <:+: text.toList ∧ List.Forall₂ (Wildcard.sameLetter · ·) part.toList found

theorem contains_iff_tails (part text : String) : Contains part text ↔
    ∃ tail ∈ text.toList.tails,
      List.Forall₂ (Wildcard.sameLetter · ·) part.toList (tail.take part.toList.length) := by
  constructor
  · rintro ⟨found, inside, alike⟩
    obtain ⟨tail, front, behind⟩ := List.infix_iff_prefix_suffix.mp inside
    refine ⟨tail, (List.mem_tails _ _).mpr behind, ?_⟩
    rwa [alike.length_eq, ← List.prefix_iff_eq_take.mp front]
  · rintro ⟨tail, behind, alike⟩
    exact ⟨_, (List.take_prefix _ _).isInfix.trans ((List.mem_tails _ _).mp behind).isInfix, alike⟩

instance (part text : String) : Decidable (Contains part text) :=
  decidable_of_iff _ (contains_iff_tails part text).symm

def IsWhole (text : String) : Prop :=
  '\x00' ∉ text.toList

instance : DecidablePred IsWhole := fun text =>
  inferInstanceAs (Decidable ('\x00' ∉ text.toList))

namespace Wildcard

/-- Whether a text has a part that fits a pattern. -/
def Occurs (pattern text : String) : Prop :=
  ∃ found, found <:+: text.toList ∧ Fits (pattern.toList.map seen) (found.map seen)

/-- Whether a character stands for itself alone in a pattern. -/
def IsPlain (c : Char) : Prop :=
  c ∉ ['%', '_', '\uFFFD', '\uFFFE', '\uFFFF']

instance : DecidablePred IsPlain := fun c =>
  inferInstanceAs (Decidable (c ∉ _))

theorem visible_of_isWhole {text : String} (whole : IsWhole text) :
    visible text.toList = text.toList.map seen := by
  have front := visible_append whole []
  rwa [List.append_nil, show visible [] = [] from rfl, List.append_nil] at front

/-- The pattern of texts that contain a part fits the texts in which the part occurs. -/
theorem fits_containing_iff {part text : String} (whole : IsWhole part) (stored : IsWhole text) :
    fits (containing part) text = true ↔ Occurs part text := by
  have pattern : visible (containing part).toList =
      '%' :: (part.toList.map seen ++ ['%']) := by
    have split : (containing part).toList = '%' :: part.toList ++ ['%'] := by simp [containing]
    have plain : '\x00' ∉ '%' :: part.toList := by
      rw [List.mem_cons, not_or]
      exact ⟨by decide, whole⟩
    rw [split, visible_append plain]
    rfl
  rw [fits_iff, pattern, visible_of_isWhole stored, fits_run_iff]
  constructor
  · rintro ⟨tail, behind, fit⟩
    obtain ⟨front, begins, fit⟩ := (fits_append_run_iff _ _).mp fit
    obtain ⟨found, inside, rfl⟩ := List.infix_map_iff.mp (begins.isInfix.trans behind.isInfix)
    exact ⟨found, inside, fit⟩
  · rintro ⟨found, ⟨before, behind, split⟩, fit⟩
    refine ⟨(found ++ behind).map seen, ?_, ?_⟩
    · exact ⟨before.map seen, by simp [← split]⟩
    · exact (fits_append_run_iff _ _).mpr
        ⟨found.map seen, by simp [List.prefix_append], fit⟩

theorem eq_of_toLower_eq {p c : Char} (lower : p.toLower = c) (beyond : 'z' < c) : p = c := by
  unfold Char.toLower at lower
  split at lower
  · rename_i capital
    subst lower
    exfalso
    have upper : p.val.toNat ≤ 90 := UInt32.le_iff_toNat_le.mp capital.2
    have above : 122 < (p.val + ('a'.val - 'A'.val)).toNat := UInt32.lt_iff_toNat_lt.mp beyond
    have shift : ('a'.val - 'A'.val).toNat = 32 := rfl
    rw [UInt32.toNat_add, shift] at above
    omega
  · exact lower

theorem special_of_seen_ne {c : Char} (other : seen c ≠ c) : c = '\uFFFE' ∨ c = '\uFFFF' := by
  by_contra neither
  exact other (if_neg neither)

/-- The characters that are seen as another one match themselves alone. -/
theorem eq_of_sameLetter {p c : Char} (other : seen c ≠ c) (same : sameLetter p c) : p = c := by
  rw [sameLetter, beq_iff_eq] at same
  rcases special_of_seen_ne other with rfl | rfl
  · exact eq_of_toLower_eq same (by decide)
  · exact eq_of_toLower_eq same (by decide)

theorem sameLetter_seen {p c : Char} (same : sameLetter p c) : sameLetter (seen p) (seen c) := by
  by_cases text : seen c = c
  · by_cases pattern : seen p = p
    · rwa [text, pattern]
    · have reversed : sameLetter c p := by
        rw [sameLetter, beq_iff_eq] at same ⊢
        exact same.symm
      rw [eq_of_sameLetter pattern reversed]
      simp [sameLetter]
  · rw [eq_of_sameLetter text same]
    simp [sameLetter]

theorem seen_eq_of_isPlain {p : Char} (plain : IsPlain p) : seen p = p := by
  simp only [IsPlain, List.mem_cons, List.not_mem_nil, or_false, not_or] at plain
  exact if_neg (not_or.mpr ⟨plain.2.2.2.1, plain.2.2.2.2⟩)

theorem sameLetter_seen_iff {p c : Char} (plain : IsPlain p) :
    sameLetter p (seen c) ↔ sameLetter p c := by
  by_cases text : seen c = c
  · rw [text]
  · have special := special_of_seen_ne text
    have replaced : seen c = '\uFFFD' := if_pos special
    simp only [IsPlain, List.mem_cons, List.not_mem_nil, or_false, not_or] at plain
    constructor
    · rw [replaced, sameLetter, beq_iff_eq]
      intro same
      exact absurd (eq_of_toLower_eq same (by decide)) plain.2.2.1
    · intro same
      have equal := eq_of_sameLetter text same
      rcases special with rfl | rfl
      · exact absurd equal plain.2.2.2.1
      · exact absurd equal plain.2.2.2.2

theorem fits_of_alike {part found : List Char} (alike : List.Forall₂ (sameLetter · ·) part found) :
    Fits (part.map seen) (found.map seen) := by
  induction alike with
  | nil => exact .nil
  | @cons p c part found same _ ih =>
    have letters := sameLetter_seen same
    rw [List.map_cons, List.map_cons]
    by_cases run : seen p = '%'
    · rw [run]
      exact .run [seen c] ih
    · exact .one run (Or.inr letters) ih

theorem alike_iff_fits {part found : List Char} (plain : ∀ p ∈ part, IsPlain p) :
    Fits (part.map seen) (found.map seen) ↔ List.Forall₂ (sameLetter · ·) part found := by
  refine ⟨?_, fits_of_alike⟩
  induction part generalizing found with
  | nil =>
    intro fit
    cases found with
    | nil => exact .nil
    | cons c found => cases fit
  | cons p part ih =>
    have here := plain p List.mem_cons_self
    have others : ∀ q ∈ part, IsPlain q := fun q member => plain q (List.mem_cons_of_mem _ member)
    intro fit
    rw [List.map_cons, seen_eq_of_isPlain here] at fit
    simp only [IsPlain, List.mem_cons, List.not_mem_nil, or_false, not_or] at here
    obtain ⟨_, _, split, same, rest⟩ := (fits_one_iff here.1 _ _).mp fit
    cases found with
    | nil => cases split
    | cons c found =>
      cases split
      have letters := same.resolve_left here.2.1
      exact .cons ((sameLetter_seen_iff (plain p List.mem_cons_self)).mp letters) (ih others rest)

/-- What contains a part is found by it, whatever characters the part has. -/
theorem occurs_of_contains {part text : String} (contained : Contains part text) :
    Occurs part text := by
  obtain ⟨found, inside, alike⟩ := contained
  exact ⟨found, inside, fits_of_alike alike⟩

/-- A part whose characters stand for themselves alone finds only what contains it. -/
theorem occurs_iff_contains {part text : String} (plain : ∀ p ∈ part.toList, IsPlain p) :
    Occurs part text ↔ Contains part text :=
  exists_congr fun _ => and_congr_right fun _ => alike_iff_fits plain

end Wildcard

end Text

open Text (Contains IsWhole)
open Text.Wildcard (Occurs IsPlain containing tooLong)

theorem Request.idsOf_eq {directory : Directory} {limit : UInt64} {reference : String}
    (named : Mention.user? reference.toList = none) {ids : List Id}
    (answered : directory (lookupFor (nameOf reference) limit) = .ok ids) :
    idsOf directory limit reference =
      if ids = [] then .error (.unknownUser (nameOf reference)) else .ok ids := by
  unfold idsOf
  rw [named]
  simp only [answered]
  cases ids <;> rfl

theorem Criteria.asks_iff {criteria : Criteria} (something : criteria.message ≠ "")
    (short : tooLong (containing criteria.message) = false) (whole : IsWhole criteria.message)
    (now : Moment) {message : Message} (stored : IsWhole message.text) :
    criteria.Asks now message ↔
      { criteria with message := "" }.Asks now message ∧ Occurs criteria.message message.text := by
  have text : Store.matchesPattern (containing criteria.message) message.text = .ok true ↔
      Occurs criteria.message message.text := by
    rw [Store.matchesPattern, short, ← Text.Wildcard.fits_containing_iff whole stored]
    simp
  constructor
  · rintro ⟨author, channel, asked, recent⟩
    exact ⟨⟨author, channel, Or.inl rfl, recent⟩, text.mp (asked.resolve_left something)⟩
  · rintro ⟨⟨author, channel, _, recent⟩, occurs⟩
    exact ⟨author, channel, Or.inr (text.mpr occurs), recent⟩

/-- A name stands for the lowest ids, up to the limit, of the users with a name or an alias in which
it occurs, and a text restricts a search to the messages in which it occurs. Whatever contains the
name or the text is found; nothing else is found if each of its characters stands for itself. -/
theorem parts_find_occurrences {store : Store} (keyed : store.Keyed) {users : List User}
    {aliases : List Alias} (named : store.users = some users) (given : store.aliases = some aliases)
    (stored : ∀ pair ∈ Store.names users aliases, IsWhole pair.2) :
    (∀ (reference : String) (limit : UInt64),
      let name := Request.nameOf reference
      Mention.user? reference.toList = none → IsWhole name → tooLong (containing name) = false →
      ∃ found : IdSet,
        let ids := found.toList.take limit.toNat
        Request.idsOf store.directory limit reference =
          (if ids = [] then .error (.unknownUser name) else .ok ids) ∧
        (∀ id, id ∈ found ↔ ∃ known, (id, known) ∈ Store.names users aliases ∧ Occurs name known) ∧
        (∀ id known, (id, known) ∈ Store.names users aliases → Contains name known → id ∈ found) ∧
        ((∀ c ∈ name.toList, IsPlain c) → ∀ id, id ∈ found ↔
          ∃ known, (id, known) ∈ Store.names users aliases ∧ Contains name known)) ∧
    ∀ (criteria : Criteria) (origin : Origin) (settings : Settings) (now : Moment)
      (message : Message), criteria.message ≠ "" → IsWhole criteria.message →
      tooLong (containing criteria.message) = false → IsWhole message.text →
      let query := Query.ofCriteria criteria origin settings
      let unrestricted := Query.ofCriteria { criteria with message := "" } origin settings
      (query.clause.holds now message = .ok true ↔
        unrestricted.clause.holds now message = .ok true ∧ Occurs criteria.message message.text) ∧
      (Contains criteria.message message.text → Occurs criteria.message message.text) ∧
      ((∀ c ∈ criteria.message.toList, IsPlain c) →
        (Occurs criteria.message message.text ↔ Contains criteria.message message.text)) := by
  refine ⟨?_, ?_⟩
  · intro reference limit name unmentioned whole short
    let found := Store.fitting (containing name) (Store.names users aliases)
    have member (id : Id) : id ∈ found ↔
        ∃ known, (id, known) ∈ Store.names users aliases ∧ Occurs name known := by
      rw [Store.mem_fitting]
      refine exists_congr fun known => and_congr_right fun listed => ?_
      exact Text.Wildcard.fits_containing_iff whole (stored _ listed)
    have answered := keyed.directory_eq named given short limit
    refine ⟨found, Request.idsOf_eq unmentioned answered, member, ?_, ?_⟩
    · intro id known listed contained
      exact (member id).mpr ⟨known, listed, Text.Wildcard.occurs_of_contains contained⟩
    · intro plain id
      rw [member]
      refine exists_congr fun known => and_congr_right fun _ => ?_
      exact Text.Wildcard.occurs_iff_contains plain
  · intro criteria origin settings now message something whole short text query unrestricted
    refine ⟨?_, Text.Wildcard.occurs_of_contains, Text.Wildcard.occurs_iff_contains⟩
    rw [Query.clause_holds, Query.clause_holds,
      Criteria.asks_iff something short whole now text]
    exact and_right_comm

/-- Two people whose names differ in one character, which is a wildcard in one of them. -/
def snow : List Entry :=
  [.create, .putUser ⟨42, "snow_man"⟩, .putUser ⟨43, "snowyman"⟩, .putAlias ⟨43, "Frosty"⟩]

def offer : Message :=
  ⟨1, 43, 111, "50 Cents off", "2010-01-01 00:00:00+00:00"⟩

theorem filled_snow : Store.filled snow =
    ⟨some [⟨42, "snow_man"⟩, ⟨43, "snowyman"⟩], some [⟨43, "Frosty"⟩], some []⟩ := by
  decide +kernel

theorem parts_find_occurrences_snow :
    let store := Store.filled snow
    let criteria : Criteria := ⟨.empty, .empty, none, "cents", .newest 5⟩
    let query := Query.ofCriteria criteria ⟨7, 111, 42⟩ .builtIn
    store.Keyed ∧ (∃ ids, Request.idsOf store.directory 1 "@SNOW" = .ok ids ∧ ids = [42]) ∧
      query.clause.holds ⟨.exact, 0, 0⟩ offer = .ok true := by
  intro store criteria query
  have keyed : store.Keyed := Store.keyed_filled snow
  have named : store.users = some [⟨42, "snow_man"⟩, ⟨43, "snowyman"⟩] := by
    simp only [store, filled_snow]
  have given : store.aliases = some [⟨43, "Frosty"⟩] := by
    simp only [store, filled_snow]
  obtain ⟨names, texts⟩ := parts_find_occurrences keyed named given (by decide +kernel)
  obtain ⟨found, resolved, _, _, exact⟩ :=
    names "@SNOW" 1 (by decide +kernel) (by decide +kernel) (by decide +kernel)
  have only : found = .ofList [42, 43] := by
    have frosty : ¬ Contains "SNOW" "Frosty" := by decide
    have first : Contains "SNOW" "snow_man" := by decide
    have second : Contains "SNOW" "snowyman" := by decide
    ext id
    have plain : ∀ c ∈ "SNOW".toList, IsPlain c := by
      have all : "SNOW".toList.all (IsPlain ·) = true := by decide
      simpa using all
    rw [exact plain]
    change (∃ known, (id, known) ∈ Store.names [⟨42, "snow_man"⟩, ⟨43, "snowyman"⟩]
      [⟨43, "Frosty"⟩] ∧ Contains "SNOW" known) ↔ _
    simp [Store.names, or_and_right, exists_or, and_assoc, frosty, first, second]
  subst only
  have text := texts criteria ⟨7, 111, 42⟩ .builtIn ⟨.exact, 0, 0⟩ offer (by decide +kernel)
    (by decide +kernel) (by decide +kernel) (by decide +kernel)
  refine ⟨keyed, ⟨_, resolved.trans (by decide +kernel), rfl⟩, ?_⟩
  refine text.1.mpr ⟨by decide +kernel, text.2.1 ?_⟩
  decide

/-- A wildcard in a name or in a text finds what does not contain it. -/
theorem occurs_uncontained :
    let store := Store.filled snow
    let criteria : Criteria := ⟨.empty, .empty, none, "50% off", .newest 5⟩
    let query := Query.ofCriteria criteria ⟨7, 111, 42⟩ .builtIn
    Request.ofWords ["@snow_man", "50%", "off"] =
        .ok ⟨["@snow_man"], .empty, none, ["50%", "off"], none⟩ ∧
      Request.idsOf store.directory 20 "@snow_man" = .ok [42, 43] ∧
      (∀ pair ∈ Store.names (store.users.getD []) (store.aliases.getD []),
        Contains "snow_man" pair.2 → pair.1 = 42) ∧
      query.clause.holds ⟨.exact, 0, 0⟩ offer = .ok true ∧ ¬ Contains "50% off" offer.text := by
  decide +kernel

end ChatLog
