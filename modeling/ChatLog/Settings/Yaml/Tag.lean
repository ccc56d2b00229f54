import ChatLog.Number.Numeral
import ChatLog.Settings.Yaml.Cursor

/-!
What stands before a value in a YAML document to say more about it: anchors, which give it a name,
tags, which give it a kind, and the directives at the head of a document, which say how tags are
abbreviated.
-/
namespace ChatLog.Settings.Yaml

/-- A tag: a handle, which may be an abbreviation, and what follows it. -/
structure Tag where
  handle : List Char
  suffix : List Char
deriving DecidableEq, Repr

inductive Directive where
  | version
  /-- A handle and what it abbreviates. -/
  | abbreviation (handle full : List Char)
deriving DecidableEq, Repr

def isUriPart (c : Char) : Bool :=
  c.isAlphanum || "-#;/?:@&=+$,_.!~*'()[]%".toList.contains c

def isTagPart (c : Char) : Bool :=
  isUriPart c && !isFlow c && c ≠ '!'

def isAnchorPart (c : Char) : Bool :=
  !isGap c && !isFlow c && c ≠ '\uFEFF'

def anchor? (start : Cursor) : Option (String × Cursor) :=
  let (name, cursor) := start.skip.spanWhile isAnchorPart
  if name = [] then none else some (String.ofList name, cursor)

/-! ### Tags -/

def octetCount? (octet : Nat) : Option Nat :=
  if octet < 0x80 then some 1
  else if octet < 0xC0 then none
  else if octet < 0xE0 then some 2
  else if octet < 0xF0 then some 3
  else if octet < 0xF8 then some 4
  else none

def octet? (cursor : Cursor) : Option (Nat × Cursor) :=
  match cursor.rest with
  | '%' :: a :: b :: _ => (Numeral.based? 16 [a, b]).map fun octet => (octet, cursor.skipMany 3)
  | _ => none

def moreOctets? (code : Nat) : (count : Nat) → Cursor → Option (Nat × Cursor)
  | 0, cursor => some (code, cursor)
  | count + 1, cursor => do
    let (octet, cursor) ← octet? cursor
    if 0x80 ≤ octet ∧ octet < 0xC0 then moreOctets? (code * 0x100 + octet) count cursor else none

def uriEscape? (cursor : Cursor) : Option (Char × Cursor) := do
  let (first, cursor) ← octet? cursor
  let (code, cursor) ← moreOctets? first ((← octetCount? first) - 1) cursor
  if code.isValidChar then return (Char.ofNat code, cursor) else none

def uriParts? (isPart : Char → Bool) : (most : Nat) → Cursor → Option (List Char × Cursor)
  | most + 1, cursor =>
    if !isPart cursor.peek then some ([], cursor)
    else do
      let (c, cursor) ←
        if cursor.peek = '%' then uriEscape? cursor else some (cursor.peek, cursor.skip)
      (uriParts? isPart most cursor).map fun (parts, cursor) => (c :: parts, cursor)
  | 0, cursor => some ([], cursor)

def handle? (cursor : Cursor) : Option (List Char × Cursor) :=
  if cursor.peek ≠ '!' then none
  else
    let (word, cursor) := cursor.skip.spanWhile isWordPart
    if cursor.peek = '!' then some ('!' :: word ++ ['!'], cursor.skip)
    else some ('!' :: word, cursor)

def isWholeHandle (handle : List Char) : Bool :=
  2 ≤ handle.length && handle.getLast? = some '!'

def verbatimTag? (cursor : Cursor) : Option (Tag × Cursor) := do
  let (suffix, cursor) ← uriParts? isUriPart (cursor.rest.length + 1) (cursor.skipMany 2)
  if cursor.peek = '>' then return (⟨[], suffix⟩, cursor.skip) else none

def shortTag? (cursor : Cursor) : Option (Tag × Cursor) := do
  let (handle, cursor) ← handle? cursor
  let (suffix, behind) ← uriParts? isTagPart (cursor.rest.length + 1) cursor
  if isWholeHandle handle then
    if suffix = [] then none else return (⟨handle, suffix⟩, behind)
  else
    match handle.tail ++ suffix with
    | [] => return (⟨[], ['!']⟩, behind)
    | suffix => return (⟨['!'], suffix⟩, behind)

def tag? (inFlow : Bool) (cursor : Cursor) : Option (Tag × Cursor) := do
  let (tag, cursor) ← if cursor.second = '<' then verbatimTag? cursor else shortTag? cursor
  if isGap cursor.peek || (inFlow && isFlow cursor.peek) then return (tag, cursor) else none

/-! ### Directives -/

def versionNumber? (cursor : Cursor) : Option Cursor :=
  let (digits, cursor) := cursor.spanWhile Char.isDigit
  if digits = [] ∨ 9 < digits.length then none else some cursor

def version? (cursor : Cursor) : Option (Directive × Cursor) := do
  let cursor ← versionNumber? (cursor.skipBlanks isBlank).2
  if cursor.peek ≠ '.' then none
  return (.version, ← versionNumber? cursor.skip)

def abbreviation? (cursor : Cursor) : Option (Directive × Cursor) := do
  let (handle, cursor) ← handle? (cursor.skipBlanks isBlank).2
  if handle ≠ ['!'] ∧ !isWholeHandle handle then none
  let (_, cursor) := cursor.skipBlanks isBlank
  let (lead, cursor) ←
    if cursor.peek = '!' then some ('!', cursor.skip)
    else if !isTagPart cursor.peek then none
    else if cursor.peek = '%' then uriEscape? cursor
    else some (cursor.peek, cursor.skip)
  let (parts, cursor) ← uriParts? isUriPart (cursor.rest.length + 1) cursor
  if isGap cursor.peek then return (.abbreviation handle (lead :: parts), cursor) else none

/-- The directive on a line, and the place behind the line. One of an unknown name abbreviates
nothing. -/
def directive? (start : Cursor) : Option (Directive × Cursor) := do
  let (name, cursor) := start.skip.spanWhile isWordPart
  if name = [] ∨ !isGap cursor.peek then none
  let (directive, cursor) ← match String.ofList name with
    | "YAML" => version? cursor
    | "TAG" => abbreviation? cursor
    | _ => some (.abbreviation [] [], (cursor.spanWhile fun c => !isEnd c).2)
  let (_, cursor) ← cursor.toLineEnd? isBlank
  if cursor.isAtEnd then return (directive, cursor.skipBreak) else none

end ChatLog.Settings.Yaml
