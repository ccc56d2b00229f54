/-!
A place in a YAML text, with what follows it. The place counts characters, lines and columns, and
knows whether only blanks stand before it on its line. Past the end of the text every character is
the null character, which ends a text too.
-/
namespace ChatLog.Settings.Yaml

def isBreak (c : Char) : Bool :=
  c = '\n' || c = '\r'

def isBlank (c : Char) : Bool :=
  c = ' ' || c = '\t'

def isEnd (c : Char) : Bool :=
  isBreak c || c = '\x00'

def isGap (c : Char) : Bool :=
  isBlank c || isEnd c

def isFlow (c : Char) : Bool :=
  c = ',' || c = '[' || c = ']' || c = '{' || c = '}'

def isWordPart (c : Char) : Bool :=
  c.isAlphanum || c = '_' || c = '-'

structure Cursor where
  rest : List Char
  index : Nat
  line : Nat
  column : Nat
  isLeading : Bool
deriving DecidableEq, Repr

namespace Cursor

def start (text : List Char) : Cursor :=
  ⟨text.takeWhile (· ≠ '\x00'), 0, 0, 0, true⟩

def peek (cursor : Cursor) : Char :=
  cursor.rest.headD '\x00'

def second (cursor : Cursor) : Char :=
  cursor.rest.tail.headD '\x00'

def skipBlank (cursor : Cursor) : Cursor :=
  { cursor with
    rest := cursor.rest.tail, index := cursor.index + 1, column := cursor.column + 1 }

def skip (cursor : Cursor) : Cursor :=
  { cursor.skipBlank with isLeading := false }

def skipMany (n : Nat) (cursor : Cursor) : Cursor :=
  n.repeat skip cursor

def skipBreak (cursor : Cursor) : Cursor :=
  match cursor.rest with
  | '\r' :: '\n' :: rest => ⟨rest, cursor.index + 2, cursor.line + 1, 0, true⟩
  | c :: rest => if isBreak c then ⟨rest, cursor.index + 1, cursor.line + 1, 0, true⟩ else cursor
  | [] => cursor

def spanWhile (within : Char → Bool) (cursor : Cursor) : List Char × Cursor :=
  let taken := cursor.rest.takeWhile within
  (taken, cursor.skipMany taken.length)

def skipBlanks (within : Char → Bool) (cursor : Cursor) : List Char × Cursor :=
  let taken := cursor.rest.takeWhile within
  (taken, taken.length.repeat skipBlank cursor)

def isAtEnd (cursor : Cursor) : Bool :=
  isEnd cursor.peek

def isMarker (c : Char) (cursor : Cursor) : Bool :=
  cursor.rest.take 3 == [c, c, c] && isGap ((cursor.rest.drop 3).headD '\x00')

def isDocumentMarker (cursor : Cursor) : Bool :=
  cursor.isMarker '-' || cursor.isMarker '.'

/-- Past the rest of a line up to its end: blanks, and a comment if blanks stand before it. The
blanks that were passed are given too. -/
def toLineEnd? (isPassed : Char → Bool) (cursor : Cursor) : Option (List Char × Cursor) :=
  let (blanks, cursor) := cursor.skipBlanks isPassed
  if cursor.peek ≠ '#' then some (blanks, cursor)
  else if blanks = [] then none
  else some (blanks, (cursor.spanWhile fun c => !isEnd c).2)

/-- Past blanks, comments and line ends, in at most `most` steps. A tab may not indent a line to
less than `indent`. -/
def toContent? (indent : Int) : (most : Nat) → Cursor → Option Cursor
  | most + 1, cursor =>
    match cursor.peek with
    | '\t' =>
      if cursor.isLeading && (cursor.column : Int) < indent then do
        let (_, cursor) ← cursor.toLineEnd? isBlank
        if cursor.isAtEnd then toContent? indent most cursor else none
      else toContent? indent most cursor.skipBlank
    | ' ' => toContent? indent most cursor.skipBlank
    | '#' => toContent? indent most (cursor.spanWhile fun c => !isEnd c).2
    | c => if isBreak c then toContent? indent most cursor.skipBreak else some cursor
  | 0, cursor => some cursor

def content? (indent : Int) (cursor : Cursor) : Option Cursor :=
  toContent? indent cursor.rest.length cursor

end Cursor

end ChatLog.Settings.Yaml
