import ChatLog.Settings.Value

/-!
The tables of a TOML document while it is read. A table comes to be by a header of its own, by the
header of a table inside it, or by a name with points; a header may name it once, and only names
with points may add to what such names have made.
-/
namespace ChatLog.Settings.Toml

inductive Origin where
  | innerHeader
  | header
  | pointedName
deriving DecidableEq, Repr

inductive Item where
  | value (value : Value)
  | table (origin : Origin) (items : List (String × Item))
  /-- Tables under one header written several times; only the last one can still grow. -/
  | tables (last : List (String × Item))

abbrev Items := List (String × Item)

namespace Items

def set (name : String) (item : Item) (items : Items) : Items :=
  (name, item) :: items.filter fun (other, _) => other ≠ name

def within (path : List String) (change : Items → Option Items) (items : Items) : Option Items :=
  match path with
  | [] => change items
  | name :: path =>
    match items.lookup name with
    | none => (within path change []).map fun inner => items.set name (.table .innerHeader inner)
    | some (.value _) => none
    | some (.table origin inner) =>
      (within path change inner).map fun inner => items.set name (.table origin inner)
    | some (.tables last) => (within path change last).map fun last => items.set name (.tables last)

def openTable (name : String) (items : Items) : Option Items :=
  match items.lookup name with
  | none => some (items.set name (.table .header []))
  | some (.table .innerHeader inner) => some (items.set name (.table .header inner))
  | some _ => none

/-- The items with one more table of a header that is written several times. -/
def addTable (name : String) (items : Items) : Option Items :=
  match items.lookup name with
  | none | some (.tables _) => some (items.set name (.tables []))
  | some _ => none

/-- The items with a value under a name behind the points of a path. -/
def put (path : List String) (name : String) (value : Value) (items : Items) : Option Items :=
  match path with
  | [] => if (items.lookup name).isSome then none else some (items.set name (.value value))
  | first :: path =>
    match items.lookup first with
    | none => (put path name value []).map fun inner => items.set first (.table .pointedName inner)
    | some (.table origin inner) =>
      if origin = .header ∨ (origin = .innerHeader ∧ path = []) then none
      else (put path name value inner).map fun inner => items.set first (.table origin inner)
    | some (.tables last) =>
      if path = [] then none
      else (put path name value last).map fun last => items.set first (.tables last)
    | some (.value _) => none

def toTable (items : Items) : Table :=
  items.map fun (name, item) =>
    match item with
    | .value value => (name, value)
    | _ => (name, .composite)

end Items

end ChatLog.Settings.Toml
