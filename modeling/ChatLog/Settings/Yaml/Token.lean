import ChatLog.Settings.Yaml.Scalar
import ChatLog.Settings.Yaml.Tag

/-!
The tokens of a YAML document. Lines that are indented more than what they belong to open lists and
mappings, and less indented ones close them. A word turns out to be the key of a mapping only when
a colon follows, so every place where a key may stand is remembered, and the token for a key is put
in there later.
-/
namespace ChatLog.Settings.Yaml

inductive Token where
  | directive (directive : Directive)
  | documentStart
  | documentEnd
  | blockSequenceStart
  | blockMappingStart
  | blockEnd
  | flowSequenceStart
  | flowSequenceEnd
  | flowMappingStart
  | flowMappingEnd
  | blockEntry
  | flowEntry
  | key
  | value
  | alias (name : String)
  | anchor (name : String)
  | tag (tag : Tag)
  | scalar (isPlain : Bool) (text : List Char)
deriving DecidableEq, Repr

/-- A place where a key may stand. -/
structure KeyPlace where
  isPossible : Bool
  /-- Nothing but a key may stand there. -/
  isRequired : Bool
  /-- How many tokens come before it. -/
  position : Nat
  index : Nat
  line : Nat
  column : Nat

/-- An indentation that was left for a greater one; some of these end with a token. -/
structure Level where
  indent : Int
  isBlock : Bool

structure Reading where
  cursor : Cursor
  /-- The tokens so far, the last one first. -/
  tokens : List Token
  /-- Whether the last token is an anchor or a tag that opens its line. -/
  isLooseProperty : Bool
  /-- The latest place for a key outside of brackets and braces and in each of them, the innermost
  first. -/
  keys : List KeyPlace
  mayKeyFollow : Bool
  indent : Int
  levels : List Level
  /-- How many brackets and braces are open. -/
  flow : Nat
  /-- Where a colon may follow a key without a blank behind it. -/
  adjacentAt : Nat
  inFlowMapping : Bool
  /-- For each open bracket, whether a mapping without braces is open in it. -/
  bareMappings : List Bool

namespace Reading

def noKey : KeyPlace := ⟨false, false, 0, 0, 0, 0⟩

def start (text : List Char) : Reading where
  cursor := .start text
  tokens := []
  isLooseProperty := false
  keys := [noKey]
  mayKeyFollow := true
  indent := -1
  levels := []
  flow := 0
  adjacentAt := 0
  inFlowMapping := false
  bareMappings := []

def inFlow (reading : Reading) : Bool :=
  reading.flow ≠ 0

def push (token : Token) (reading : Reading) : Reading :=
  { reading with tokens := token :: reading.tokens, isLooseProperty := false }

def insert (position : Nat) (token : Token) (reading : Reading) : Reading :=
  let later := reading.tokens.length - position
  { reading with tokens := reading.tokens.take later ++ token :: reading.tokens.drop later }

def setKeys (allowed : Bool) (reading : Reading) : Reading :=
  { reading with mayKeyFollow := allowed }

/-! ### Indentation -/

def unroll (column : Int) (reading : Reading) : Reading :=
  if reading.inFlow then reading
  else
    let (indent, tokens, levels) := back reading.indent reading.tokens reading.levels
    { reading with
      indent := indent, levels := levels, tokens := tokens
      isLooseProperty := reading.isLooseProperty && tokens.length = reading.tokens.length }
where
  back (indent : Int) (tokens : List Token) : List Level → Int × List Token × List Level
    | [] => (indent, tokens, [])
    | level :: levels =>
      if column < indent then
        back level.indent (if level.isBlock then .blockEnd :: tokens else tokens) levels
      else (indent, tokens, level :: levels)

def unrollBare (reading : Reading) : Reading :=
  let (indent, levels) := back reading.indent reading.levels
  { reading with indent := indent, levels := levels }
where
  back (indent : Int) : List Level → Int × List Level
    | [] => (indent, [])
    | level :: levels =>
      if level.isBlock then (indent, level :: levels) else back level.indent levels

/-- On to a greater indentation, which a token opens at a position or at the end. -/
def roll (column : Nat) (position : Nat) (token : Token) (reading : Reading) : Reading :=
  if reading.inFlow then reading
  else
    let reading :=
      match reading.levels with
      | level :: levels =>
        if reading.indent ≤ (column : Int) ∧ !level.isBlock then
          { reading with indent := level.indent, levels := levels }
        else reading
      | [] => reading
    if reading.indent < (column : Int) then
      let levels := ⟨reading.indent, true⟩ :: reading.levels
      { reading with indent := (column : Int), levels := levels }.insert position token
    else reading

def rollBare (reading : Reading) : Reading :=
  if !reading.inFlow && reading.levels.head?.any (·.isBlock) then
    { reading with
      indent := reading.indent + 1, levels := ⟨reading.indent, false⟩ :: reading.levels }
  else reading

/-! ### Places for keys -/

def saveKey (reading : Reading) : Reading :=
  if reading.mayKeyFollow then
    let cursor := reading.cursor
    let isRequired := !reading.inFlow && reading.indent = cursor.column &&
      reading.levels.head?.any (·.isBlock)
    { reading with
      keys := ⟨true, isRequired, reading.tokens.length, cursor.index, cursor.line, cursor.column⟩ ::
        reading.keys.tail }
  else reading

def dropKey? (reading : Reading) : Option Reading :=
  match reading.keys with
  | [] => some reading
  | key :: keys =>
    if key.isPossible && key.isRequired then none
    else some { reading with keys := { key with isPossible := false } :: keys }

def longestKey : Nat := 1024

/-- Forgets the places that are too far back: outside of brackets and braces, a key is on one
line. -/
def dropStaleKeys? (reading : Reading) : Option Reading :=
  if reading.inFlow then some reading
  else do
    let cursor := reading.cursor
    let keys ← reading.keys.mapM fun key =>
      if key.isPossible && (key.line < cursor.line || key.index + longestKey < cursor.index) then
        if key.isRequired then none else some { key with isPossible := false }
      else some key
    return { reading with keys := keys }

/-! ### One token -/

def toLineEnd? (reading : Reading) : Option Reading :=
  (reading.cursor.toLineEnd? isBlank).map fun (_, cursor) => { reading with cursor := cursor }

def toContent? (reading : Reading) : Option Reading := do
  let cursor ← reading.cursor.content? reading.indent
  let passedLine := !reading.inFlow && reading.cursor.line < cursor.line
  return { reading with cursor := cursor, mayKeyFollow := reading.mayKeyFollow || passedLine }

def endBareMapping (reading : Reading) : Reading :=
  match reading.bareMappings with
  | true :: others =>
    { reading with inFlowMapping := false, bareMappings := false :: others }.push .flowMappingEnd
  | _ => reading

def greatestFlow : Nat := 255

def openFlow? (isMapping : Bool) (reading : Reading) : Option Reading := do
  let reading := reading.saveKey.rollBare
  if reading.flow = greatestFlow then none
  let reading := { reading with
    keys := noKey :: reading.keys
    flow := reading.flow + 1
    mayKeyFollow := true
    cursor := reading.cursor.skip
    inFlowMapping := reading.inFlowMapping || isMapping
    bareMappings := if isMapping then reading.bareMappings else false :: reading.bareMappings }
  return (← reading.toLineEnd?).push (if isMapping then .flowMappingStart else .flowSequenceStart)

def closeFlow? (isMapping : Bool) (reading : Reading) : Option Reading := do
  let reading ← reading.dropKey?
  let reading :=
    if reading.inFlow then { reading with flow := reading.flow - 1, keys := reading.keys.tail }
    else reading
  let reading :=
    if isMapping then reading
    else
      let reading := reading.endBareMapping
      { reading with bareMappings := reading.bareMappings.tail }
  let reading ← { reading with mayKeyFollow := false, cursor := reading.cursor.skip }.toLineEnd?
  let reading :=
    if reading.inFlow then { reading with adjacentAt := reading.cursor.index } else reading
  return reading.push (if isMapping then .flowMappingEnd else .flowSequenceEnd)

def flowEntry? (reading : Reading) : Option Reading := do
  let reading := ((← reading.dropKey?).setKeys true).endBareMapping
  return (← { reading with cursor := reading.cursor.skip }.toLineEnd?).push .flowEntry

def blockEntry? (reading : Reading) : Option Reading := do
  let start := reading.cursor
  if reading.inFlow || !reading.mayKeyFollow then none
  if reading.isLooseProperty && start.column = 0 && (-1 : Int) < reading.indent then none
  let reading := { reading with cursor := start.skip }
  let reading := reading.roll start.column reading.tokens.length .blockSequenceStart
  let (blanks, cursor) ← reading.cursor.toLineEnd? isBlank
  if '\t' ∈ blanks ∧ cursor.peek = '-' ∧ isGap cursor.second then none
  let (_, cursor) ← cursor.toLineEnd? (· = ' ')
  let reading := { reading with cursor := cursor }
  let reading := if isBreak cursor.peek || isFlow cursor.peek then reading.rollBare else reading
  return ((← reading.dropKey?).setKeys true).push .blockEntry

/-- Past spaces, comments and line ends, of which at least one has to be there. -/
def toExplicitKey? (reading : Reading) : Option Reading :=
  let (passed, cursor) := go reading.cursor.rest.length false reading.cursor
  let passedLine := !reading.inFlow && reading.cursor.line < cursor.line
  if !passed || cursor.peek = '\t' then none
  else some { reading with cursor := cursor, mayKeyFollow := reading.mayKeyFollow || passedLine }
where
  go : (most : Nat) → Bool → Cursor → Bool × Cursor
    | most + 1, passed, cursor =>
      if cursor.peek = ' ' then go most true cursor.skipBlank
      else if isBreak cursor.peek then go most true cursor.skipBreak
      else if cursor.peek = '#' then go most passed (cursor.spanWhile fun c => !isEnd c).2
      else (passed, cursor)
    | 0, passed, cursor => (passed, cursor)

def explicitKey? (reading : Reading) : Option Reading := do
  let start := reading.cursor
  if !reading.inFlow && !reading.mayKeyFollow then none
  let reading :=
    if reading.inFlow then { reading with inFlowMapping := true }
    else reading.roll start.column reading.tokens.length .blockMappingStart
  let reading := (← reading.dropKey?).setKeys !reading.inFlow
  return (← { reading with cursor := start.skip }.toExplicitKey?).push .key

def keyedValue? (isBare : Bool) (start : Cursor) (key : KeyPlace) (reading : Reading) :
    Option Reading :=
  if isBare && key.line < start.line then none
  else
    let reading := reading.insert key.position .key
    let reading := if isBare then reading.insert key.position .flowMappingStart else reading
    let reading := (reading.roll key.column key.position .blockMappingStart).rollBare
    some { reading with
      keys := { key with isPossible := false } :: reading.keys.tail, mayKeyFollow := false }

def bareValue? (isBare : Bool) (start : Cursor) (reading : Reading) : Option Reading :=
  let reading := if isBare then reading.push .flowMappingStart else reading
  if reading.inFlow then some (reading.rollBare.setKeys false)
  else if !reading.mayKeyFollow then none
  else
    let reading := reading.roll start.column reading.tokens.length .blockMappingStart
    some (reading.rollBare.setKeys true)

def value? (reading : Reading) : Option Reading := do
  let start := reading.cursor
  let isBare := !reading.bareMappings.isEmpty && !reading.inFlowMapping
  let reading := { reading with
    bareMappings := if isBare then true :: reading.bareMappings.tail else reading.bareMappings
    cursor := start.skip }
  let reading ←
    if reading.cursor.peek = '\t' then do
      let (blanks, cursor) ← reading.cursor.toLineEnd? isBlank
      if ' ' ∉ blanks ∧ isWordPart cursor.peek then none
      else some { reading with cursor := cursor }
    else some reading
  let key := reading.keys.headD noKey
  let reading ←
    if key.isPossible then reading.keyedValue? isBare start key else reading.bareValue? isBare start
  return reading.push .value

/-- A token that may be a key, read from its place. -/
def keyLike (token : Token) (cursor : Cursor) (reading : Reading) : Reading :=
  let start := reading.cursor
  let isProperty := match token with
    | .anchor _ | .tag _ => true
    | _ => false
  { (reading.saveKey.setKeys false).push token with
    cursor := cursor, isLooseProperty := isProperty && start.column = 0 }

def quotedScalar? (reading : Reading) : Option Reading := do
  let (text, cursor) ← quoted? reading.inFlow reading.indent reading.cursor
  let token := Token.scalar false text
  let reading := { reading.saveKey.setKeys false with cursor := cursor }
  let reading ← reading.toContent?
  return { reading with adjacentAt := reading.cursor.index }.push token

def plainScalar? (reading : Reading) : Option Reading := do
  let reading := (reading.saveKey.setKeys false).unrollBare
  let (text, cursor) ← plain? reading.inFlow (reading.indent + 1) reading.cursor
  let reading := { reading with cursor := cursor }
  return { reading with mayKeyFollow := reading.mayKeyFollow || cursor.isLeading }.push
    (.scalar true text)

def blockScalar? (reading : Reading) : Option Reading := do
  let reading := (reading.saveKey.setKeys true).unrollBare
  let (text, cursor) ← block? reading.indent reading.cursor
  return { reading with cursor := cursor }.push (.scalar false text)

def endBlocks? (reading : Reading) : Option Reading := do
  return (← (reading.unroll (-1)).dropKey?).setKeys false

def documentMarker? (token : Token) (reading : Reading) : Option Reading := do
  let reading ← reading.endBlocks?
  return { reading with cursor := reading.cursor.skipMany 3 }.push token

def token? (reading : Reading) : Option Reading :=
  let cursor := reading.cursor
  let c := cursor.peek
  let next := cursor.second
  let isColon := c = ':' && (isGap next ||
    (reading.inFlow && (isFlow next || cursor.index = reading.adjacentAt)))
  if c = '[' then reading.openFlow? false
  else if c = '{' then reading.openFlow? true
  else if c = ']' then reading.closeFlow? false
  else if c = '}' then reading.closeFlow? true
  else if c = ',' then reading.flowEntry?
  else if c = '-' ∧ isGap next then reading.blockEntry?
  else if c = '?' ∧ isGap next then reading.explicitKey?
  else if isColon then reading.value?
  else if c = '*' then
    (anchor? cursor).map fun (name, cursor) => reading.keyLike (.alias name) cursor
  else if c = '&' then
    (anchor? cursor).map fun (name, cursor) => reading.keyLike (.anchor name) cursor
  else if c = '!' then
    (tag? reading.inFlow cursor).map fun (tag, cursor) => reading.keyLike (.tag tag) cursor
  else if (c = '|' ∨ c = '>') ∧ !reading.inFlow then reading.blockScalar?
  else if c = '\'' ∨ c = '"' then reading.quotedScalar?
  else if c = '%' ∨ c = '@' ∨ c = '\x60' then none
  else reading.plainScalar?

def documentToken? (reading : Reading) : Option (Option Reading) :=
  let cursor := reading.cursor
  if cursor.column ≠ 0 then none
  else if cursor.peek = '%' then
    some do
      let reading ← reading.endBlocks?
      let (directive, cursor) ← directive? cursor
      return { reading with cursor := cursor }.push (.directive directive)
  else if cursor.isMarker '-' then some (reading.documentMarker? .documentStart)
  else if cursor.isMarker '.' then
    some do
      let reading ← (← reading.documentMarker? .documentEnd).toLineEnd?
      if reading.cursor.isAtEnd then return reading else none
  else none

def finish? (reading : Reading) : Option Reading :=
  if reading.keys.any fun key => key.isPossible && key.isRequired then none
  else some (reading.unroll (-1))

def readAll? : (most : Nat) → Reading → Option Reading
  | most + 1, reading => do
    let reading ← (← reading.toContent?).dropStaleKeys?
    let reading := reading.unroll reading.cursor.column
    if reading.cursor.rest = [] then reading.finish?
    else
      let next ← match reading.documentToken? with
        | some next => next
        | none => if (reading.cursor.column : Int) < reading.indent then none else reading.token?
      readAll? most next
  | 0, _ => none

end Reading

/-- The tokens of a text; each but the marks of structure takes at least one character. -/
def Token.ofText? (text : List Char) : Option (List Token) :=
  (Reading.readAll? (text.length + 2) (.start text)).map fun reading => reading.tokens.reverse

end ChatLog.Settings.Yaml
