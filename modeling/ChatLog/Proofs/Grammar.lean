import ChatLog.Proofs.Failures
import ChatLog.Proofs.Numerals
import ChatLog.Proofs.Pieces

/-!
The grammar of a request. Each word is told by its opening, and for each opening the grammar says
which words are well formed, what part of a request they make, and what is told of those that are
not. Reading a word follows the grammar, so a request is made from words that are all well formed,
and otherwise fails as the first word that is not.
-/
namespace ChatLog.Request

namespace Part

/-- A bound of a range: a numeral of a number that is not negative and fits a signed word. -/
structure IsBound (text : List Char) (n : UInt64) : Prop where
  written : Numeral.Writes text n.toNat
  small : n.toNat < 0x8000000000000000

/-- The texts behind a `*`. A first `-` stands between two bounds. -/
inductive Bounds : List Char → Span → Prop
  | none : Bounds [] .countOnly
  | one {text : List Char} {last : UInt64} (whole : '-' ∉ text) (bound : IsBound text last) :
    Bounds text (.newest last)
  | two {before behind : List Char} {first last : UInt64} (apart : '-' ∉ before)
    (opening : IsBound before first) (closing : IsBound behind last) :
    Bounds (before ++ '-' :: behind) (.rows first last)

/-- The pieces of a word between its pipes, without the blanks around them. -/
def Alternatives (word : String) (texts : List String) : Prop :=
  List.Forall₂ (fun piece text => Text.Trimmed piece text.toList) (word.toList.splitOn '|') texts

/-- The alternatives that name somebody. -/
def kept (texts : List String) : List String :=
  texts.filter (· ∉ ["", "@", "<@"])

def openings : List (List Char) :=
  [['*'], ['@'], ['<', '@'], ['#'], ['<', '#'], ['~']]

/-- What is read from a word: the part that it makes if it is well formed, or else why not. -/
inductive Reading : String → Except Failure Part → Prop
  | blank : Reading "" (.ok .blank)
  | span {word : String} {bounds : List Char} {asked : Span} (opens : word.toList = '*' :: bounds)
    (told : Bounds bounds asked) : Reading word (.ok (.span asked))
  | noSpan {word : String} {bounds : List Char} (opens : word.toList = '*' :: bounds)
    (untold : ∀ asked, ¬ Bounds bounds asked) :
    Reading word (.error (.malformed word "result range"))
  | users {word : String} {texts : List String}
    (opens : ['@'] <+: word.toList ∨ ['<', '@'] <+: word.toList) (pieces : Alternatives word texts)
    (filled : kept texts ≠ []) : Reading word (.ok (.users (kept texts)))
  | nobody {word : String} {texts : List String}
    (opens : ['@'] <+: word.toList ∨ ['<', '@'] <+: word.toList) (pieces : Alternatives word texts)
    (nobody : kept texts = []) : Reading word (.error .noUsers)
  | channelName {word : String} (opens : ['#'] <+: word.toList) :
    Reading word (.error (.unknownChannel word))
  | channels {word : String} {texts : List String} {ids : List Id}
    (opens : ['<', '#'] <+: word.toList) (pieces : Alternatives word texts)
    (mentions : List.Forall₂ (fun text id => Mention.Names ['<', '#'] text.toList id) texts ids) :
    Reading word (.ok (.channels ids))
  | noChannel {word unknown : String} {before behind : List String}
    (opens : ['<', '#'] <+: word.toList)
    (pieces : Alternatives word (before ++ unknown :: behind))
    (earlier : ∀ text ∈ before, ∃ id, Mention.Names ['<', '#'] text.toList id)
    (absent : ∀ id, ¬ Mention.Names ['<', '#'] unknown.toList id) :
    Reading word (.error (.unknownChannel unknown))
  | recency {word : String} {text : List Char} {seconds : Int} (opens : word.toList = '~' :: text)
    (written : Numeral.Writes text seconds) (signed : Numeral.Signed seconds) :
    Reading word (.ok (.recency seconds))
  | noSeconds {word : String} (opens : word.toList = ['~']) : Reading word (.error .noSeconds)
  | noRecency {word : String} {text : List Char} (opens : word.toList = '~' :: text)
    (filled : text ≠ [])
    (untold : ∀ seconds, Numeral.Writes text seconds → ¬ Numeral.Signed seconds) :
    Reading word (.error (.malformed word "number of seconds"))
  | message {word : String} (filled : word ≠ "")
    (other : ∀ opening ∈ openings, ¬ opening <+: word.toList) : Reading word (.ok (.message word))

theorem bound?_eq_some_iff {text : List Char} {n : UInt64} :
    bound? text = some n ↔ IsBound text n := by
  rw [bound?, Option.bind_eq_some_iff]
  constructor
  · rintro ⟨value, read, fits⟩
    obtain ⟨written, _, small⟩ := Numeral.signed?_eq_some_iff.mp read
    split at fits
    · rename_i positive
      have same : n.toNat = value.toNat := by
        rw [← Option.some.inj fits]
        exact UInt64.toNat_ofNat_of_lt' (by simp only [UInt64.size]; omega)
      have whole : value = n.toNat := by omega
      exact ⟨whole ▸ written, by omega⟩
    · cases fits
  · rintro ⟨written, small⟩
    refine ⟨n.toNat, Numeral.signed?_eq_some_iff.mpr ⟨written, by omega, by omega⟩, ?_⟩
    rw [if_pos (Int.natCast_nonneg _), Int.toNat_natCast]
    exact congrArg some UInt64.ofNat_toNat

theorem span?_eq_some_iff {bounds : List Char} {asked : Span} :
    span? bounds = some asked ↔ Bounds bounds asked := by
  constructor
  · intro found
    unfold span? at found
    split at found
    · rename_i empty
      cases found
      exact empty ▸ .none
    · split at found
      · rename_i before behind cut
        obtain ⟨rfl, apart⟩ := Text.cut?_eq_some cut
        obtain ⟨first, opening, rest⟩ := Option.bind_eq_some_iff.mp found
        obtain ⟨last, closing, equal⟩ := Option.bind_eq_some_iff.mp rest
        cases equal
        exact .two apart (bound?_eq_some_iff.mp opening) (bound?_eq_some_iff.mp closing)
      · rename_i cut
        obtain ⟨last, bound, rfl⟩ := Option.map_eq_some_iff.mp found
        exact .one (Text.cut?_eq_none_iff.mp cut) (bound?_eq_some_iff.mp bound)
  · intro told
    cases told with
    | none => rfl
    | one whole bound =>
      rw [span?, if_neg bound.written.ne_nil, Text.cut?_eq_none_iff.mpr whole]
      simp only [bound?_eq_some_iff.mpr bound, Option.map_some]
    | two apart opening closing =>
      rw [span?, if_neg (by simp), Text.cut?_append apart]
      simp only [bound?_eq_some_iff.mpr opening, bound?_eq_some_iff.mpr closing, bind,
        Option.bind_some, pure]

theorem alternatives_eq_iff {word : String} {texts : List String} :
    alternatives word = texts ↔ Alternatives word texts := by
  have trimmed (piece : List Char) (text : String) :
      Text.Trimmed piece text.toList ↔ String.ofList (Text.trim piece) = text := by
    rw [← Text.trim_eq_iff, ← String.toList_inj, String.toList_ofList]
  unfold alternatives Alternatives
  simp only [trimmed]
  rw [Text.parts_eq_splitOn, ← List.forall₂_map_left_iff, List.forall₂_eq_eq_eq]

theorem filter_namesSomebody (texts : List String) : texts.filter namesSomebody = kept texts := by
  apply List.filter_congr
  intro text _
  simp [namesSomebody, bne, beq_eq_decide, Bool.and_assoc]

theorem readUsers_eq {word : String} {texts : List String} (pieces : Alternatives word texts) :
    readUsers word = if kept texts = [] then .error .noUsers else .ok (.users (kept texts)) := by
  rw [readUsers, alternatives_eq_iff.mpr pieces, filter_namesSomebody]
  cases kept texts <;> simp

theorem readChannel_eq_ok_iff {text : String} {id : Id} :
    readChannel text = .ok id ↔ Mention.Names ['<', '#'] text.toList id := by
  rw [← Mention.channel?_eq_some_iff, readChannel]
  cases Mention.channel? text.toList <;> simp

theorem readChannel_eq_error_iff {text : String} {failure : Failure} :
    readChannel text = .error failure ↔
      failure = .unknownChannel text ∧ ∀ id, ¬ Mention.Names ['<', '#'] text.toList id := by
  simp only [← Mention.channel?_eq_some_iff]
  rw [readChannel]
  cases Mention.channel? text.toList <;> simp [eq_comm]

theorem reading_readUsers {word : String}
    (opens : ['@'] <+: word.toList ∨ ['<', '@'] <+: word.toList) :
    Reading word (readUsers word) := by
  have pieces : Alternatives word (alternatives word) := alternatives_eq_iff.mp rfl
  rw [readUsers_eq pieces]
  split
  · rename_i nobody
    exact .nobody opens pieces nobody
  · rename_i filled
    exact .users opens pieces filled

theorem reading_readChannels {word : String} (opens : ['<', '#'] <+: word.toList) :
    Reading word (readChannels word) := by
  rw [readChannels]
  cases found : (alternatives word).mapM readChannel with
  | ok ids =>
    refine .channels opens (alternatives_eq_iff.mp rfl) ?_
    exact (mapM_ok_iff.mp found).imp fun _ _ => readChannel_eq_ok_iff.mp
  | error failure =>
    obtain ⟨before, unknown, behind, split, earlier, failed⟩ :=
      firstFailure_eq_some_iff.mp (mapM_error_iff.mp found)
    obtain ⟨rfl, absent⟩ := readChannel_eq_error_iff.mp failed
    refine .noChannel opens (alternatives_eq_iff.mp split) ?_ absent
    intro text member
    obtain ⟨id, known⟩ := earlier text member
    exact ⟨id, readChannel_eq_ok_iff.mp known⟩

theorem reading_read (word : String) : Reading word (read word) := by
  unfold read
  split
  · rename_i opens
    rw [String.toList_eq_nil_iff.mp opens]
    exact .blank
  · rename_i bounds opens
    rw [readSpan]
    split
    · rename_i asked found
      exact .span opens (span?_eq_some_iff.mp found)
    · rename_i unread
      refine .noSpan opens fun asked told => ?_
      rw [span?_eq_some_iff.mpr told] at unread
      cases unread
  · rename_i rest opens
    exact reading_readUsers (Or.inl ⟨rest, opens.symm⟩)
  · rename_i rest opens
    exact reading_readUsers (Or.inr ⟨rest, opens.symm⟩)
  · rename_i rest opens
    exact .channelName ⟨rest, opens.symm⟩
  · rename_i rest opens
    exact reading_readChannels ⟨rest, opens.symm⟩
  · rename_i text opens
    rw [readRecency]
    split
    · rename_i empty
      exact .noSeconds (empty ▸ opens)
    · rename_i filled
      split
      · rename_i seconds found
        obtain ⟨written, signed⟩ := Numeral.signed?_eq_some_iff.mp found
        exact .recency opens written signed
      · rename_i unread
        refine .noRecency opens filled fun seconds written signed => ?_
        rw [Numeral.signed?_eq_some_iff.mpr ⟨written, signed⟩] at unread
        cases unread
  · rename_i filled star person mention hash channel tilde
    refine .message (mt String.toList_eq_nil_iff.mpr filled) ?_
    intro opening listed
    simp only [openings, List.mem_cons, List.not_mem_nil, or_false] at listed
    rcases listed with rfl | rfl | rfl | rfl | rfl | rfl <;> rintro ⟨rest, opens⟩
    · exact star rest opens.symm
    · exact person rest opens.symm
    · exact mention rest opens.symm
    · exact hash rest opens.symm
    · exact channel rest opens.symm
    · exact tilde rest opens.symm

section

variable {word : String}

theorem read_span {bounds : List Char} (opens : word.toList = '*' :: bounds) :
    read word = readSpan word bounds := by
  rw [read, opens]
  rfl

theorem read_users (opens : ['@'] <+: word.toList ∨ ['<', '@'] <+: word.toList) :
    read word = readUsers word := by
  rcases opens with ⟨rest, opens⟩ | ⟨rest, opens⟩ <;> rw [read, ← opens] <;> rfl

theorem read_channelName (opens : ['#'] <+: word.toList) :
    read word = .error (.unknownChannel word) := by
  obtain ⟨rest, opens⟩ := opens
  rw [read, ← opens]
  rfl

theorem read_channels (opens : ['<', '#'] <+: word.toList) : read word = readChannels word := by
  obtain ⟨rest, opens⟩ := opens
  rw [read, ← opens]
  rfl

theorem read_recency {text : List Char} (opens : word.toList = '~' :: text) :
    read word = readRecency word text := by
  rw [read, opens]
  rfl

theorem read_message (filled : word ≠ "")
    (other : ∀ opening ∈ openings, ¬ opening <+: word.toList) :
    read word = .ok (.message word) := by
  have absent (opening rest : List Char) (listed : opening ∈ openings) :
      word.toList ≠ opening ++ rest := fun opens => other opening listed ⟨rest, opens.symm⟩
  unfold read
  split
  · rename_i empty
    exact absurd (String.toList_eq_nil_iff.mp empty) filled
  · rename_i rest opens
    exact absurd opens (absent ['*'] rest (by decide))
  · rename_i rest opens
    exact absurd opens (absent ['@'] rest (by decide))
  · rename_i rest opens
    exact absurd opens (absent ['<', '@'] rest (by decide))
  · rename_i rest opens
    exact absurd opens (absent ['#'] rest (by decide))
  · rename_i rest opens
    exact absurd opens (absent ['<', '#'] rest (by decide))
  · rename_i rest opens
    exact absurd opens (absent ['~'] rest (by decide))
  · rfl

end

/-- Reading a word follows the grammar. -/
theorem read_eq_iff {word : String} {result : Except Failure Part} :
    read word = result ↔ Reading word result := by
  constructor
  · rintro rfl
    exact reading_read word
  · intro told
    cases told with
    | blank => rfl
    | span opens told => rw [read_span opens, readSpan, span?_eq_some_iff.mpr told]
    | @noSpan _ bounds opens untold =>
      have unread : span? bounds = none := by
        rw [Option.eq_none_iff_forall_ne_some]
        exact fun asked found => untold asked (span?_eq_some_iff.mp found)
      rw [read_span opens, readSpan, unread]
    | users opens pieces filled => rw [read_users opens, readUsers_eq pieces, if_neg filled]
    | nobody opens pieces empty => rw [read_users opens, readUsers_eq pieces, if_pos empty]
    | channelName opens => exact read_channelName opens
    | channels opens pieces mentions =>
      have found := mapM_ok_iff.mpr (mentions.imp fun _ _ => readChannel_eq_ok_iff.mpr)
      rw [read_channels opens, readChannels, alternatives_eq_iff.mpr pieces, found]
      rfl
    | @noChannel _ unknown before behind opens pieces earlier absent =>
      have failed : (before ++ unknown :: behind).mapM readChannel =
          .error (.unknownChannel unknown) := by
        rw [mapM_error_iff, firstFailure_eq_some_iff]
        refine ⟨before, unknown, behind, rfl, ?_, readChannel_eq_error_iff.mpr ⟨rfl, absent⟩⟩
        intro text member
        exact (earlier text member).imp fun _ => readChannel_eq_ok_iff.mpr
      rw [read_channels opens, readChannels, alternatives_eq_iff.mpr pieces, failed]
      rfl
    | @recency _ text seconds opens written signed =>
      rw [read_recency opens, readRecency, if_neg written.ne_nil,
        Numeral.signed?_eq_some_iff.mpr ⟨written, signed⟩]
    | noSeconds opens => rw [read_recency opens, readRecency, if_pos rfl]
    | @noRecency _ text opens filled untold =>
      have unread : Numeral.signed? text = none := by
        rw [Option.eq_none_iff_forall_ne_some]
        intro seconds found
        obtain ⟨written, signed⟩ := Numeral.signed?_eq_some_iff.mp found
        exact untold seconds written signed
      rw [read_recency opens, readRecency, if_neg filled, unread]
    | message filled other => exact read_message filled other

theorem read_failsOnly (word : String) : FailsOnly Failure.IsUnreadable (read word) := by
  intro failure failed
  cases read_eq_iff.mp failed <;> trivial

/-- A word that makes a part of a request. -/
def WellFormed (word : String) : Prop :=
  ∃ part, Reading word (.ok part)

theorem wellFormed_iff {word : String} : WellFormed word ↔ ∃ part, read word = .ok part :=
  exists_congr fun _ => read_eq_iff.symm

end Part

/-- The request that parts make together: users and words of the message in their order, all the
channels, and the last range and the last recency there are. -/
structure Gathers (parts : List Part) (request : Request) : Prop where
  users : request.users = parts.flatMap Part.references
  channels : ∀ id, id ∈ request.channels ↔ ∃ part ∈ parts, id ∈ part.ids
  seconds : request.seconds = (parts.filterMap Part.seconds?).getLast?
  words : request.words = parts.flatMap Part.texts
  span : request.span = (parts.filterMap Part.asked?).getLast?

theorem foldl_add_eq_iff {parts : List Part} {request : Request} :
    parts.foldl add empty = request ↔ Gathers parts request := by
  have gathers : Gathers parts (parts.foldl add empty) := by
    rw [foldl_add]
    constructor
    · rfl
    · simp [empty, List.mem_flatMap]
    · simp [empty, List.getLast?_filterMap]
    · rfl
    · simp [empty, List.getLast?_filterMap]
  constructor
  · rintro rfl
    exact gathers
  · intro other
    have channels : (parts.foldl add empty).channels = request.channels :=
      IdSet.ext fun id => (gathers.channels id).trans (other.channels id).symm
    generalize parts.foldl add empty = made at gathers channels
    cases made
    cases request
    rw [Request.mk.injEq]
    exact ⟨gathers.users.trans other.users.symm, channels, gathers.seconds.trans other.seconds.symm,
      gathers.words.trans other.words.symm, gathers.span.trans other.span.symm⟩

theorem ofWords_ok_iff {words : List String} {request : Request} :
    ofWords words = .ok request ↔
      ∃ parts, List.Forall₂ (fun word part => Part.Reading word (.ok part)) words parts ∧
        Gathers parts request := by
  rw [ofWords, bind_ok_iff]
  refine exists_congr fun parts => ?_
  rw [mapM_ok_iff, ← foldl_add_eq_iff]
  simp only [Part.read_eq_iff, pure, Except.pure, Except.ok.injEq]

theorem ofWords_error_iff {words : List String} {failure : Failure} :
    ofWords words = .error failure ↔ firstFailure Part.read words = some failure := by
  rw [ofWords_eq]
  cases firstFailure Part.read words <;> simp

theorem ofWords_failsOnly (words : List String) :
    FailsOnly Failure.IsUnreadable (ofWords words) := by
  intro failure failed
  obtain ⟨word, _, refused⟩ := firstFailure_eq_some (ofWords_error_iff.mp failed)
  exact Part.read_failsOnly word failure refused

/-- Words make a request exactly when each of them that is not empty is well formed, and then it is
what their parts make together. Otherwise reading them fails as the first word that is not well
formed. -/
theorem ofWords_grammar (words : List String) :
    ((∃ request, ofWords words = .ok request) ↔
      ∀ word ∈ words, word ≠ "" → Part.WellFormed word) ∧
    (∀ request, ofWords words = .ok request ↔
      ∃ parts, List.Forall₂ (fun word part => Part.Reading word (.ok part)) words parts ∧
        Gathers parts request) ∧
    ∀ failure, ofWords words = .error failure ↔
      ∃ before word behind, words = before ++ word :: behind ∧
        (∀ earlier ∈ before, Part.WellFormed earlier) ∧
        ¬ Part.WellFormed word ∧ Part.Reading word (.error failure) := by
  refine ⟨?_, fun request => ofWords_ok_iff, ?_⟩
  · have readable : (∃ request, ofWords words = .ok request) ↔
        firstFailure Part.read words = none := by
      rw [ofWords_eq]
      cases firstFailure Part.read words <;> simp
    rw [readable, firstFailure_eq_none]
    refine forall₂_congr fun word _ => ?_
    rw [← Part.wellFormed_iff]
    constructor
    · exact fun formed _ => formed
    · intro formed
      by_cases empty : word = ""
      · exact empty ▸ ⟨.blank, .blank⟩
      · exact formed empty
  · intro failure
    rw [ofWords_error_iff, firstFailure_eq_some_iff]
    simp only [Part.read_eq_iff]
    refine exists_congr fun before => exists_congr fun word => exists_congr fun behind => ?_
    refine and_congr_right fun _ => and_congr_right fun _ => (and_iff_right_of_imp ?_).symm
    intro failed formed
    obtain ⟨part, done⟩ := Part.wellFormed_iff.mp formed
    rw [Part.read_eq_iff.mpr failed] at done
    cases done

example : ofWords ["*5--0", "", "hi", "*+3", "~-1"] =
    .ok ⟨[], .empty, some (-1), ["hi"], some (.newest 3)⟩ := by
  rfl

example : ofWords ["@ |<@", "*1-2-3"] = .error .noUsers := by
  rfl

end ChatLog.Request
