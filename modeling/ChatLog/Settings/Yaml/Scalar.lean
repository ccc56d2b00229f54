import ChatLog.Number.Numeral
import ChatLog.Settings.Yaml.Cursor

/-!
The texts of a YAML document: in single quotes, in double quotes with escapes, plain, and in blocks
of lines. In all but the last, a line end inside is a blank, and each empty line after it a line
end.
-/
namespace ChatLog.Settings.Yaml

/-- What stands between two pieces of a text: blanks on one line, or a line end and empty lines. -/
structure Between where
  blanks : List Char
  /-- A line ends here, unless its end is escaped. -/
  hasBreak : Bool
  emptyLines : Nat

namespace Between

def nothing : Between := ⟨[], false, 0⟩

def text (between : Between) (isBroken : Bool) : List Char :=
  if isBroken then
    if between.hasBreak ∧ between.emptyLines = 0 then [' ']
    else List.replicate between.emptyLines '\n'
  else between.blanks

def addBreak (between : Between) (isBroken : Bool) : Between :=
  if isBroken then { between with emptyLines := between.emptyLines + 1 }
  else { between with blanks := [], hasBreak := true }

end Between

/-! ### Quoted texts -/

def escaped? : Char → Option Char
  | '0' => some '\x00'
  | 'a' => some '\x07'
  | 'b' => some '\x08'
  | 't' => some '\t'
  | '\t' => some '\t'
  | 'n' => some '\n'
  | 'v' => some '\x0b'
  | 'f' => some '\x0c'
  | 'r' => some '\r'
  | 'e' => some '\x1b'
  | ' ' => some ' '
  | '"' => some '"'
  | '/' => some '/'
  | '\\' => some '\\'
  | 'N' => some '\u0085'
  | '_' => some '\u00a0'
  | 'L' => some '\u2028'
  | 'P' => some '\u2029'
  | _ => none

def codeLength? : Char → Option Nat
  | 'x' => some 2
  | 'u' => some 4
  | 'U' => some 8
  | _ => none

def escape? (cursor : Cursor) : Option (Char × Cursor) :=
  match codeLength? cursor.second with
  | some length =>
    let digits := (cursor.rest.drop 2).take length
    if digits.length = length then
      (Numeral.character? digits).map fun c => (c, cursor.skipMany (length + 2))
    else none
  | none => (escaped? cursor.second).map fun c => (c, cursor.skipMany 2)

def piece? (quote : Char) : (most : Nat) → Cursor → Option (List Char × Bool × Cursor)
  | most + 1, cursor =>
    let c := cursor.peek
    if isGap c then some ([], false, cursor)
    else if c = '\'' ∧ quote = '\'' ∧ cursor.second = '\'' then
      (piece? quote most (cursor.skipMany 2)).map fun (piece, behind) => ('\'' :: piece, behind)
    else if c = quote then some ([], false, cursor)
    else if c = '\\' ∧ quote = '"' then
      if isBreak cursor.second then some ([], true, cursor.skip.skipBreak)
      else do
        let (character, cursor) ← escape? cursor
        (piece? quote most cursor).map fun (piece, behind) => (character :: piece, behind)
    else (piece? quote most cursor.skip).map fun (piece, behind) => (c :: piece, behind)
  | 0, cursor => some ([], false, cursor)

/-- The gap behind a piece of a quoted text, and the place behind it. A tab may not indent a line to
less than `indent`. -/
def quotedGap? (indent : Int) (between : Between) (isBroken : Bool) :
    (most : Nat) → Cursor → Option (Between × Bool × Cursor)
  | most + 1, cursor =>
    let c := cursor.peek
    if isBlank c then
      if isBroken then
        if c = '\t' ∧ (cursor.column : Int) < indent then none
        else quotedGap? indent between isBroken most cursor.skipBlank
      else
        quotedGap? indent { between with blanks := between.blanks ++ [c] } isBroken most
          cursor.skipBlank
    else if isBreak c then
      quotedGap? indent (between.addBreak isBroken) true most cursor.skipBreak
    else some (between, isBroken, cursor)
  | 0, cursor => some (between, isBroken, cursor)

def quotedText? (quote : Char) (indent : Int) : (most : Nat) → Cursor → Option (List Char × Cursor)
  | most + 1, cursor => do
    if (cursor.column = 0 ∧ cursor.isDocumentMarker) ∨ cursor.rest = [] ∨
        (cursor.column : Int) < indent then none
    let (piece, isBroken, cursor) ← piece? quote (cursor.rest.length + 1) cursor
    if cursor.peek = quote then return (piece, cursor)
    let (between, isBroken, cursor) ←
      quotedGap? indent .nothing isBroken (cursor.rest.length + 1) cursor
    let (text, cursor) ← quotedText? quote indent most cursor
    return (piece ++ between.text isBroken ++ text, cursor)
  | 0, _ => none

/-- Whether a quoted text that began on a line may be followed by what follows it. -/
def mayFollowQuoted (inFlow : Bool) (line : Nat) (cursor : Cursor) : Bool :=
  match cursor.peek with
  | ':' => inFlow || line = cursor.line
  | c => isEnd c || (inFlow && (c = ',' || c = '}' || c = ']'))

def quoted? (inFlow : Bool) (indent : Int) (start : Cursor) : Option (List Char × Cursor) := do
  let (text, cursor) ← quotedText? start.peek indent (start.rest.length + 1) start.skip
  let (_, cursor) ← cursor.skip.toLineEnd? isBlank
  if mayFollowQuoted inFlow start.line cursor then return (text, cursor) else none

/-! ### Plain texts -/

def isPlain (inFlow : Bool) (cursor : Cursor) : Bool :=
  match cursor.peek with
  | ':' => !(isGap cursor.second || (inFlow && isFlow cursor.second))
  | c => !(inFlow && isFlow c)

def plainPiece (inFlow : Bool) : (most : Nat) → Cursor → List Char × Cursor
  | most + 1, cursor =>
    if !isGap cursor.peek && isPlain inFlow cursor then
      let (piece, behind) := plainPiece inFlow most cursor.skip
      (cursor.peek :: piece, behind)
    else ([], cursor)
  | 0, cursor => ([], cursor)

/-- The gap behind a piece of a plain text, and the place behind it. On a line that is not empty, a
tab may not indent to less than `indent`. -/
def plainGap? (indent : Int) (between : Between) :
    (most : Nat) → Cursor → Option (Between × Cursor)
  | most + 1, cursor =>
    let c := cursor.peek
    if isBlank c then
      if !cursor.isLeading then
        plainGap? indent { between with blanks := between.blanks ++ [c] } most cursor.skipBlank
      else if (cursor.column : Int) < indent ∧ c = '\t' then do
        let (_, cursor) ← cursor.toLineEnd? isBlank
        if cursor.isAtEnd then plainGap? indent between most cursor else none
      else plainGap? indent between most cursor.skipBlank
    else if isBreak c then
      plainGap? indent (between.addBreak cursor.isLeading) most cursor.skipBreak
    else some (between, cursor)
  | 0, cursor => some (between, cursor)

def plainText? (inFlow : Bool) (indent : Int) (between : Between) :
    (most : Nat) → Cursor → Option (List Char × Cursor)
  | most + 1, cursor => do
    if (cursor.isLeading && cursor.isDocumentMarker) || cursor.peek = '#' then return ([], cursor)
    if inFlow && cursor.peek = '-' && isFlow cursor.second then none
    let lead := if isPlain inFlow cursor then between.text cursor.isLeading else []
    let (piece, cursor) := plainPiece inFlow (cursor.rest.length + 1) cursor
    if !(isBlank cursor.peek || isBreak cursor.peek) then
      return (if piece = [] then ([], cursor) else (lead ++ piece, cursor))
    let (between, cursor) ← plainGap? indent .nothing (cursor.rest.length + 1) cursor
    if !inFlow && (cursor.column : Int) < indent then return (lead ++ piece, cursor)
    let (text, cursor) ← plainText? inFlow indent between most cursor
    return (lead ++ piece ++ text, cursor)
  | 0, _ => none

def plain? (inFlow : Bool) (indent : Int) (start : Cursor) : Option (List Char × Cursor) :=
  if inFlow && (start.column : Int) < indent then none
  else plainText? inFlow indent .nothing (start.rest.length + 1) start

/-! ### Blocks of lines -/

inductive Chomping where
  | strip
  | clip
  | keep
deriving DecidableEq, Repr

def blockMarks? (cursor : Cursor) : Option (Chomping × Nat × Cursor) :=
  let chomping? := fun (cursor : Cursor) =>
    if cursor.peek = '+' then (Chomping.keep, cursor.skip)
    else if cursor.peek = '-' then (.strip, cursor.skip)
    else (.clip, cursor)
  let indent? := fun (cursor : Cursor) =>
    match Numeral.digit? cursor.peek with
    | some 0 => none
    | some n => some (n, cursor.skip)
    | none => some (0, cursor)
  if cursor.peek.isDigit then do
    let (indent, cursor) ← indent? cursor
    let (chomping, cursor) := chomping? cursor
    return (chomping, indent, cursor)
  else do
    let (chomping, cursor) := chomping? cursor
    if chomping = .clip then return (.clip, 0, cursor)
    let (indent, cursor) ← indent? cursor
    return (chomping, indent, cursor)

def blockIndent (indent : Nat) : (most : Nat) → Cursor → Nat × Cursor
  | most + 1, cursor =>
    let spaces := (cursor.rest.takeWhile (· = ' ')).length
    let cursor := (min spaces (indent - cursor.column)).repeat Cursor.skipBlank cursor
    if isBreak cursor.peek then
      let (lines, cursor) := blockIndent indent most cursor.skipBreak
      (lines + 1, cursor)
    else (0, cursor)
  | 0, cursor => (0, cursor)

/-- Past empty lines and the indentation of the first line of a block: the farthest column reached,
how many lines were empty, and the place. -/
def firstIndent : (most : Nat) → Cursor → Nat × Nat × Cursor
  | most + 1, cursor =>
    let (_, cursor) := cursor.skipBlanks (· = ' ')
    if isBreak cursor.peek then
      let (column, lines, behind) := firstIndent most cursor.skipBreak
      (max cursor.column column, lines + 1, behind)
    else (cursor.column, 0, cursor)
  | 0, cursor => (cursor.column, 0, cursor)

structure Block where
  text : List Char
  hasBreak : Bool
  emptyLines : Nat
  isBlankLed : Bool

def Block.join (isLiteral : Bool) (block : Block) (isBlankLed : Bool) : List Char :=
  let ends := List.replicate block.emptyLines '\n'
  if !isLiteral && block.hasBreak && !block.isBlankLed && !isBlankLed then
    if block.emptyLines = 0 then [' '] else ends
  else (if block.hasBreak then ['\n'] else []) ++ ends

def blockLines (isLiteral : Bool) (indent : Nat) (block : Block) :
    (most : Nat) → Cursor → Block × Cursor
  | most + 1, cursor =>
    if cursor.column ≠ indent ∨ cursor.rest = [] ∨ (indent = 0 ∧ cursor.isMarker '.') then
      (block, cursor)
    else
      let isBlankLed := isBlank cursor.peek
      let (line, cursor) := cursor.skipBlanks fun c => !isEnd c
      let text := block.text ++ block.join isLiteral isBlankLed ++ line
      if cursor.rest = [] then (⟨text, false, 0, isBlankLed⟩, cursor)
      else
        let (lines, cursor) := blockIndent indent (cursor.rest.length + 1) cursor.skipBreak
        blockLines isLiteral indent ⟨text, true, lines, isBlankLed⟩ most cursor
  | 0, cursor => (block, cursor)

/-- The text of a whole block: a line end behind its last line, and all empty lines if they are
kept. -/
def Block.chomped (chomping : Chomping) (indent : Nat) (cursor : Cursor) (block : Block) :
    List Char :=
  let ending := if block.hasBreak then ['\n'] else []
  let closing := if cursor.rest = [] ∧ max indent 1 ≤ cursor.column then ['\n'] else []
  match chomping with
  | .strip => block.text
  | .clip => block.text ++ ending ++ closing
  | .keep => block.text ++ ending ++ closing ++ List.replicate block.emptyLines '\n'

def block? (outer : Int) (start : Cursor) : Option (List Char × Cursor) := do
  let (chomping, increment, cursor) ← blockMarks? start.skip
  let (_, cursor) ← cursor.toLineEnd? isBlank
  if !cursor.isAtEnd then none
  let cursor := cursor.skipBreak
  if cursor.peek = '\t' then none
  let (indent, lines, cursor) :=
    if increment = 0 then
      let (column, lines, cursor) := firstIndent (cursor.rest.length + 1) cursor
      (max column (max (outer + 1).toNat (if 0 < outer then 1 else 0)), lines, cursor)
    else
      let indent := if 0 ≤ outer then outer.toNat + increment else increment
      let (lines, cursor) := blockIndent indent (cursor.rest.length + 1) cursor
      (indent, lines, cursor)
  if cursor.rest = [] then
    match chomping with
    | .strip => return ([], cursor)
    | .clip => return (if cursor.line = start.line then [] else ['\n'], cursor)
    | .keep =>
      return (if cursor.line = start.line then [] else List.replicate (max lines 1) '\n', cursor)
  else if cursor.column < indent ∧ outer < cursor.column then none
  else
    let (block, cursor) :=
      blockLines (start.peek = '|') indent ⟨[], false, lines, false⟩ (cursor.rest.length + 1) cursor
    return (block.chomped chomping indent cursor, cursor)

end ChatLog.Settings.Yaml
