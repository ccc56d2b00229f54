import ChatLog.Proofs.Shelf

/-!
The outline of a query: how many users and channels it names, which of its optional factors it has,
and how its listing is paged. A query is written from its outline alone, and its outline is read
off what it writes, so statements are shared by exactly those searches that have one outline. Its
numbers of users and channels bound the height of the clause.
-/
namespace ChatLog

theorem Clause.height_le {α : Type} {bound : Nat} {clause : Clause α}
    (low : ∀ factor ∈ clause, factor.height ≤ bound) : clause.height ≤ bound + clause.length := by
  have joined (others : Clause α) (reached : Nat)
      (small : ∀ factor ∈ others, factor.height ≤ bound) :
      others.foldl (fun reached factor => max reached factor.height + 1) reached ≤
        max reached bound + others.length := by
    induction others generalizing reached with
    | nil => simp
    | cons factor others ih =>
      have next := small factor List.mem_cons_self
      have rest := ih (max reached factor.height + 1) fun other member =>
        small other (List.mem_cons_of_mem _ member)
      simp only [List.foldl_cons, List.length_cons]
      omega
  cases clause with
  | nil => exact Nat.zero_le _
  | cons first others =>
    have start := low first List.mem_cons_self
    have rest := joined others first.height fun factor member =>
      low factor (List.mem_cons_of_mem _ member)
    simp only [height, List.length_cons]
    omega

theorem Factor.height_replicate {α : Type} (comparison : Comparison α) (others : Nat) :
    (either comparison (List.replicate others comparison)).height = comparison.height + others := by
  have joined (reached : Nat) (enough : comparison.height ≤ reached) :
      (List.replicate others comparison).foldl
        (fun reached comparison => max reached comparison.height + 1) reached =
          reached + others := by
    induction others generalizing reached with
    | zero => rfl
    | succ others ih =>
      rw [List.replicate_succ, List.foldl_cons, ih _ (by omega)]
      omega
  exact joined comparison.height le_rfl

structure Outline where
  users : Nat
  channels : Nat
  hasText : Bool
  hasRecency : Bool
  /-- Whether messages in the spoiler channel are kept out. -/
  hidesSpoilers : Bool
  paging : Paging
deriving DecidableEq, Repr

namespace Outline

/-- The factor for one of a number of ids, if there are any. -/
def anyOf (column : Column) : Nat → Clause Unit
  | 0 => []
  | others + 1 => [.either (.equals column ()) (List.replicate others (.equals column ()))]

def optional (present : Bool) (comparison : Comparison Unit) : Clause Unit :=
  if present then [.one comparison] else []

/-- The factors that every clause ends with. -/
def closing : Clause Unit :=
  [.one (.differs .message ()), .one (.differs .author ()), .one (.differs .channel ()),
    .one (.unlike ())]

def clause (outline : Outline) : Clause Unit :=
  anyOf .author outline.users ++ anyOf .channel outline.channels ++
    optional outline.hasText (.like ()) ++ optional outline.hasRecency (.newer ()) ++
    optional outline.hidesSpoilers (.differs .channel ()) ++ closing

/-- The condition with its order, written with nothing but the outline known. -/
def condition (outline : Outline) : List Char :=
  outline.clause.text ++ Statement.order

def paginated (outline : Outline) : List Char :=
  outline.condition ++ outline.paging.text

theorem comparisons_anyOf (column : Column) (size : Nat) :
    (anyOf column size).flatMap Factor.comparisons = List.replicate size (.equals column ()) := by
  cases size with
  | zero => rfl
  | succ others => simp [anyOf, Factor.comparisons, List.replicate_succ]

theorem comparisons_optional (present : Bool) (comparison : Comparison Unit) :
    (optional present comparison).flatMap Factor.comparisons =
      List.replicate present.toNat comparison := by
  cases present <;> rfl

theorem comparisons_clause (outline : Outline) :
    outline.clause.flatMap Factor.comparisons =
      List.replicate outline.users (.equals .author ()) ++
      List.replicate outline.channels (.equals .channel ()) ++
      List.replicate outline.hasText.toNat (.like ()) ++
      List.replicate outline.hasRecency.toNat (.newer ()) ++
      List.replicate outline.hidesSpoilers.toNat (.differs .channel ()) ++
      [.differs .message (), .differs .author (), .differs .channel (), .unlike ()] := by
  rw [clause, List.flatMap_append, List.flatMap_append, List.flatMap_append, List.flatMap_append,
    List.flatMap_append, comparisons_anyOf, comparisons_anyOf, comparisons_optional,
    comparisons_optional, comparisons_optional]
  rfl

private theorem flag_inj {left right : Bool} (same : left.toNat = right.toNat) : left = right := by
  revert same
  cases left <;> cases right <;> decide

/-- A clause tells its outline: each part of that is how often one comparison stands in it. -/
theorem clause_inj {left right : Outline} (same : left.clause = right.clause)
    (paging : left.paging = right.paging) : left = right := by
  have counted (comparison : Comparison Unit) :
      (left.clause.flatMap Factor.comparisons).count comparison =
        (right.clause.flatMap Factor.comparisons).count comparison := by rw [same]
  have users : left.users = right.users := by
    simpa [comparisons_clause, List.count_replicate] using counted (.equals .author ())
  have channels : left.channels = right.channels := by
    simpa [comparisons_clause, List.count_replicate] using counted (.equals .channel ())
  have text : left.hasText = right.hasText := by
    apply flag_inj
    simpa [comparisons_clause, List.count_replicate] using counted (.like ())
  have recency : left.hasRecency = right.hasRecency := by
    apply flag_inj
    simpa [comparisons_clause, List.count_replicate] using counted (.newer ())
  -- the moderation channel adds one comparison of this kind on both sides
  have spoilers : left.hidesSpoilers = right.hidesSpoilers := by
    apply flag_inj
    simpa [comparisons_clause, List.count_replicate] using counted (.differs .channel ())
  cases left
  cases right
  simp_all

theorem height_anyOf (column : Column) (size : Nat) :
    ∀ factor ∈ anyOf column size, factor.height ≤ size + 3 := by
  intro factor member
  cases size with
  | zero => cases member
  | succ others =>
    rw [List.mem_singleton.mp member, Factor.height_replicate, Comparison.height]
    omega

theorem height_optional (present : Bool) (comparison : Comparison Unit) :
    ∀ factor ∈ optional present comparison, factor.height ≤ 4 := by
  intro factor member
  cases present with
  | false => cases member
  | true =>
    rw [List.mem_singleton.mp member]
    cases comparison <;> simp [Factor.height, Comparison.height]

theorem length_clause (outline : Outline) : outline.clause.length ≤ 9 := by
  have group (column : Column) (size : Nat) : (anyOf column size).length ≤ 1 := by
    cases size <;> simp [anyOf]
  have option (present : Bool) (comparison : Comparison Unit) :
      (optional present comparison).length ≤ 1 := by
    cases present <;> simp [optional]
  have users := group .author outline.users
  have channels := group .channel outline.channels
  have text := option outline.hasText (.like ())
  have recency := option outline.hasRecency (.newer ())
  have spoilers := option outline.hidesSpoilers (.differs .channel ())
  have fixed : closing.length = 4 := rfl
  simp only [clause, List.length_append]
  omega

/-- Only the numbers of users and channels make a clause high. -/
theorem height_clause (outline : Outline) :
    outline.clause.height ≤ max outline.users outline.channels + 13 := by
  have low : ∀ factor ∈ outline.clause, factor.height ≤ max outline.users outline.channels + 4 := by
    intro factor member
    simp only [clause, List.mem_append] at member
    rcases member with ((((users | channels) | text) | recency) | spoilers) | fixed
    · have := height_anyOf .author outline.users factor users
      omega
    · have := height_anyOf .channel outline.channels factor channels
      omega
    · have := height_optional _ _ factor text
      omega
    · have := height_optional _ _ factor recency
      omega
    · have := height_optional _ _ factor spoilers
      omega
    · have every : ∀ factor ∈ closing, factor.height ≤ 4 := by decide
      have := every factor fixed
      omega
  have bound := Clause.height_le low
  have few := outline.length_clause
  omega

end Outline

namespace Query

def outline (criteria : Criteria) (origin : Origin) (settings : Settings) : Outline where
  users := criteria.users.toList.length
  channels := criteria.channels.toList.length
  hasText := criteria.message != ""
  hasRecency := criteria.recency?.isSome
  hidesSpoilers := origin.channelId != settings.spoilerChannelId
  paging := criteria.span.paging

theorem shape_anyOf (column : Column) (ids : IdSet) :
    (anyOf column ids).shape = Outline.anyOf column ids.toList.length := by
  unfold anyOf
  cases ids.toList with
  | nil => rfl
  | cons first others =>
    simp [Clause.shape, Factor.shape, Outline.anyOf, Comparison.put, Function.comp_def,
      List.map_const']

theorem shape_ofCriteria (criteria : Criteria) (origin : Origin) (settings : Settings) :
    (ofCriteria criteria origin settings).clause.shape =
      (outline criteria origin settings).clause := by
  have users := shape_anyOf .author criteria.users
  have channels := shape_anyOf .channel criteria.channels
  unfold Clause.shape at users channels
  simp only [Clause.shape, ofCriteria, wanted, excluded, List.map_append, users, channels, outline,
    Outline.clause, List.append_assoc]
  cases criteria.recency? <;> by_cases text : criteria.message = "" <;>
    by_cases inside : origin.channelId = settings.spoilerChannelId <;>
    simp [text, inside, Outline.optional, Outline.closing, Factor.shape, Comparison.put]

/-- A query is written from its outline. -/
theorem condition_ofCriteria (criteria : Criteria) (origin : Origin) (settings : Settings) :
    (ofCriteria criteria origin settings).condition =
      (outline criteria origin settings).condition := by
  rw [condition, Outline.condition, ← Clause.text_shape, shape_ofCriteria]

theorem paginated_ofCriteria (criteria : Criteria) (origin : Origin) (settings : Settings) :
    (ofCriteria criteria origin settings).paginated =
      (outline criteria origin settings).paginated := by
  rw [paginated, Outline.paginated, condition_ofCriteria]
  rfl

theorem height_listing (criteria : Criteria) (origin : Origin) (settings : Settings) :
    (ofCriteria criteria origin settings).listing.height ≤
      max criteria.users.toList.length criteria.channels.toList.length + 14 := by
  have bound := (outline criteria origin settings).height_clause
  rw [← shape_ofCriteria] at bound
  exact Nat.succ_le_succ bound

theorem outline_inj {left right : Criteria} {leftOrigin rightOrigin : Origin}
    {leftSettings rightSettings : Settings}
    (same : (ofCriteria left leftOrigin leftSettings).paginated =
      (ofCriteria right rightOrigin rightSettings).paginated) :
    outline left leftOrigin leftSettings = outline right rightOrigin rightSettings := by
  obtain ⟨_, listing⟩ := statements_eq (ofCriteria_proper left leftOrigin leftSettings)
    (ofCriteria_proper right rightOrigin rightSettings) same
  injection listing with shape paging
  rw [shape_ofCriteria, shape_ofCriteria] at shape
  exact Outline.clause_inj shape paging

theorem outline_eq_iff {left right : Criteria} {leftOrigin rightOrigin : Origin}
    {leftSettings rightSettings : Settings} :
    outline left leftOrigin leftSettings = outline right rightOrigin rightSettings ↔
      left.users.toList.length = right.users.toList.length ∧
      left.channels.toList.length = right.channels.toList.length ∧
      (left.message = "" ↔ right.message = "") ∧
      ((∃ seconds ∈ left.seconds, 0 ≤ seconds) ↔ ∃ seconds ∈ right.seconds, 0 ≤ seconds) ∧
      (leftOrigin.channelId ≠ leftSettings.spoilerChannelId ↔
        rightOrigin.channelId ≠ rightSettings.spoilerChannelId) ∧
      left.span.paging = right.span.paging := by
  have text : (left.message != "") = (right.message != "") ↔
      (left.message = "" ↔ right.message = "") := by
    rw [Bool.eq_iff_iff, bne_iff_ne, bne_iff_ne, not_iff_not]
  have given (criteria : Criteria) :
      criteria.recency?.isSome = true ↔ ∃ seconds ∈ criteria.seconds, 0 ≤ seconds := by
    simp [Criteria.recency?, Option.any_eq_true]
  have recency : left.recency?.isSome = right.recency?.isSome ↔
      ((∃ seconds ∈ left.seconds, 0 ≤ seconds) ↔ ∃ seconds ∈ right.seconds, 0 ≤ seconds) := by
    rw [Bool.eq_iff_iff, given, given]
  have spoilers : (leftOrigin.channelId != leftSettings.spoilerChannelId) =
      (rightOrigin.channelId != rightSettings.spoilerChannelId) ↔
      (leftOrigin.channelId ≠ leftSettings.spoilerChannelId ↔
        rightOrigin.channelId ≠ rightSettings.spoilerChannelId) := by
    rw [Bool.eq_iff_iff, bne_iff_ne, bne_iff_ne]
  rw [outline, outline, Outline.mk.injEq, text, recency, spoilers]

/-- Two searches are written alike exactly when they agree on how many users and channels they name,
whether they have a text and a recency window, whether they keep out the spoiler channel, and how
they are paged. Both statements of a search are written from that alone: nothing else that the
search, the message asking for it or the settings say stands in them. -/
theorem paginated_eq_iff (left right : Criteria) (leftOrigin rightOrigin : Origin)
    (leftSettings rightSettings : Settings) :
    let first := ofCriteria left leftOrigin leftSettings
    let second := ofCriteria right rightOrigin rightSettings
    (first.paginated = second.paginated ↔
      left.users.toList.length = right.users.toList.length ∧
      left.channels.toList.length = right.channels.toList.length ∧
      (left.message = "" ↔ right.message = "") ∧
      ((∃ seconds ∈ left.seconds, 0 ≤ seconds) ↔ ∃ seconds ∈ right.seconds, 0 ≤ seconds) ∧
      (leftOrigin.channelId ≠ leftSettings.spoilerChannelId ↔
        rightOrigin.channelId ≠ rightSettings.spoilerChannelId) ∧
      left.span.paging = right.span.paging) ∧
    first.paginated = (outline left leftOrigin leftSettings).paginated ∧
    first.count.text =
      Statement.countHead ++ (outline left leftOrigin leftSettings).condition ∧
    first.listing.text =
      Statement.listingHead ++ (outline left leftOrigin leftSettings).paginated := by
  intro first second
  have written := paginated_ofCriteria left leftOrigin leftSettings
  refine ⟨?_, written, ?_, ?_⟩
  · rw [← outline_eq_iff]
    constructor
    · exact outline_inj
    · intro same
      rw [written, same, ← paginated_ofCriteria]
  · rw [text_count, condition_ofCriteria]
  · rw [text_listing, paginated_ofCriteria]

end Query

end ChatLog
