/-!
Finite sets of ids, kept in ascending order without repetitions. Two sets with the same members are
equal, so the order in which ids arrive never shows.
-/
namespace ChatLog

abbrev Id := UInt64

structure IdSet where
  toList : List Id
  ascending : toList.Pairwise (· < ·)
deriving DecidableEq

namespace IdSet

/-- An id put at its place in an ascending list that may hold it already. -/
def place (id : Id) : List Id → List Id
  | [] => [id]
  | head :: rest =>
    if id < head then id :: head :: rest
    else if id = head then head :: rest
    else head :: place id rest

theorem mem_place {id other : Id} {ids : List Id} :
    other ∈ place id ids ↔ other = id ∨ other ∈ ids := by
  induction ids with
  | nil => simp [place]
  | cons head rest ih =>
    simp only [place]
    split
    · simp
    · split
      · rename_i same
        subst same
        simp
      · simp only [List.mem_cons, ih]
        constructor
        · rintro (h | h | h) <;> simp [h]
        · rintro (h | h | h) <;> simp [h]

theorem place_ascending {id : Id} {ids : List Id} (sorted : ids.Pairwise (· < ·)) :
    (place id ids).Pairwise (· < ·) := by
  induction ids with
  | nil => simp [place]
  | cons head rest ih =>
    obtain ⟨least, tail⟩ := List.pairwise_cons.mp sorted
    simp only [place]
    split
    · rename_i before
      refine List.pairwise_cons.mpr ⟨?_, sorted⟩
      intro other member
      rcases List.mem_cons.mp member with rfl | later
      · exact before
      · exact UInt64.lt_trans before (least other later)
    · split
      · exact sorted
      · rename_i notBefore different
        refine List.pairwise_cons.mpr ⟨?_, ih tail⟩
        intro other member
        rcases mem_place.mp member with rfl | later
        · rcases UInt64.lt_or_eq_of_le (UInt64.not_lt.mp notBefore) with less | equal
          · exact less
          · exact absurd equal.symm different
        · exact least other later

def empty : IdSet := ⟨[], List.Pairwise.nil⟩

def insert (id : Id) (ids : IdSet) : IdSet :=
  ⟨place id ids.toList, place_ascending ids.ascending⟩

def insertAll (added : List Id) (ids : IdSet) : IdSet :=
  added.foldl (fun set id => set.insert id) ids

def ofList (ids : List Id) : IdSet :=
  empty.insertAll ids

def isEmpty (ids : IdSet) : Bool :=
  ids.toList.isEmpty

instance : Membership Id IdSet where
  mem ids id := id ∈ ids.toList

instance (id : Id) (ids : IdSet) : Decidable (id ∈ ids) :=
  inferInstanceAs (Decidable (id ∈ ids.toList))

@[simp] theorem mem_toList {id : Id} {ids : IdSet} : id ∈ ids.toList ↔ id ∈ ids := Iff.rfl

@[simp] theorem not_mem_empty (id : Id) : id ∉ empty := by
  rintro ⟨⟩

@[simp] theorem mem_insert {id other : Id} {ids : IdSet} :
    other ∈ ids.insert id ↔ other = id ∨ other ∈ ids :=
  mem_place

@[simp] theorem mem_insertAll {added : List Id} {other : Id} {ids : IdSet} :
    other ∈ ids.insertAll added ↔ other ∈ added ∨ other ∈ ids := by
  induction added generalizing ids with
  | nil => simp [insertAll]
  | cons id added ih =>
    have step : ids.insertAll (id :: added) = (ids.insert id).insertAll added := rfl
    rw [step, ih]
    simp only [mem_insert, List.mem_cons]
    constructor
    · rintro (h | h | h) <;> simp [h]
    · rintro ((h | h) | h) <;> simp [h]

@[simp] theorem mem_ofList {ids : List Id} {id : Id} : id ∈ ofList ids ↔ id ∈ ids := by
  simp [ofList]

private theorem ascending_ext {left right : List Id} (first : left.Pairwise (· < ·))
    (second : right.Pairwise (· < ·)) (same : ∀ id, id ∈ left ↔ id ∈ right) : left = right := by
  induction left generalizing right with
  | nil =>
    cases right with
    | nil => rfl
    | cons head rest => exact absurd ((same head).mpr (List.mem_cons_self ..)) (by simp)
  | cons a left ih =>
    cases right with
    | nil => exact absurd ((same a).mp (List.mem_cons_self ..)) (by simp)
    | cons b right =>
      obtain ⟨leastA, restA⟩ := List.pairwise_cons.mp first
      obtain ⟨leastB, restB⟩ := List.pairwise_cons.mp second
      have heads : a = b := by
        rcases List.mem_cons.mp ((same a).mp (List.mem_cons_self ..)) with equal | later
        · exact equal
        · rcases List.mem_cons.mp ((same b).mpr (List.mem_cons_self ..)) with equal | other
          · exact equal.symm
          · exact absurd (UInt64.lt_trans (leastA b other) (leastB a later)) (UInt64.lt_irrefl a)
      subst heads
      rw [ih restA restB]
      intro id
      constructor
      · intro member
        rcases List.mem_cons.mp ((same id).mp (List.mem_cons_of_mem _ member)) with equal | found
        · exact absurd (equal ▸ leastA id member) (UInt64.lt_irrefl a)
        · exact found
      · intro member
        rcases List.mem_cons.mp ((same id).mpr (List.mem_cons_of_mem _ member)) with equal | found
        · exact absurd (equal ▸ leastB id member) (UInt64.lt_irrefl a)
        · exact found

@[ext] theorem ext {left right : IdSet} (same : ∀ id, id ∈ left ↔ id ∈ right) : left = right := by
  obtain ⟨first, sorted⟩ := left
  obtain ⟨second, ordered⟩ := right
  have lists : first = second := ascending_ext sorted ordered same
  subst lists
  rfl

end IdSet

end ChatLog
