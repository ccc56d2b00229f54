import ChatLog.Number.Numeral

/-!
Texts in a TOML document. Single quotes hold a text as it is; in double quotes a backslash opens an
escape. Quotes written three times hold a text of several lines: a line end right behind the opening
quotes does not count, one or two quotes may stand anywhere inside, and right before the closing
quotes too.
-/
namespace ChatLog.Settings.Toml

def isPrintable (c : Char) : Bool :=
  c = '\t' || (' ' ≤ c && c ≠ '\x7F')

def isBlank (c : Char) : Bool :=
  c = ' ' || c = '\t'

def skipBlank (text : List Char) : List Char :=
  text.dropWhile isBlank

def newline? : List Char → Option (List Char)
  | '\n' :: rest => some rest
  | '\r' :: '\n' :: rest => some rest
  | _ => none

def escape? : List Char → Option (Char × List Char)
  | '"' :: rest => some ('"', rest)
  | '\\' :: rest => some ('\\', rest)
  | 'b' :: rest => some ('\x08', rest)
  | 't' :: rest => some ('\t', rest)
  | 'n' :: rest => some ('\n', rest)
  | 'f' :: rest => some ('\x0c', rest)
  | 'r' :: rest => some ('\r', rest)
  | 'e' :: rest => some ('\x1b', rest)
  | 'x' :: a :: b :: rest => (Numeral.character? [a, b]).map fun c => (c, rest)
  | 'u' :: a :: b :: c :: d :: rest => (Numeral.character? [a, b, c, d]).map fun c => (c, rest)
  | 'U' :: a :: b :: c :: d :: e :: f :: g :: h :: rest =>
    (Numeral.character? [a, b, c, d, e, f, g, h]).map fun c => (c, rest)
  | _ => none

def line? (quote : Char) : (most : Nat) → List Char → Option (List Char × List Char)
  | most + 1, c :: rest =>
    if c = quote then some ([], rest)
    else if c = '\\' ∧ quote = '"' then do
      let (character, rest) ← escape? rest
      (line? quote most rest).map fun (text, rest) => (character :: text, rest)
    else if isPrintable c then (line? quote most rest).map fun (text, rest) => (c :: text, rest)
    else none
  | _, _ => none

def skipSpace : List Char → List Char
  | '\r' :: '\n' :: rest => skipSpace rest
  | c :: rest => if isBlank c || c = '\n' then skipSpace rest else c :: rest
  | [] => []

/-- What follows a backslash at the end of a line: all space up to the next character. -/
def continued? (text : List Char) : Option (List Char) :=
  (newline? (skipBlank text)).map skipSpace

def lines? (quote : Char) : (most : Nat) → List Char → Option (List Char × List Char)
  | most + 1, c :: rest =>
    let quotes := min 5 ((c :: rest).takeWhile (· = quote)).length
    if 3 ≤ quotes then some (List.replicate (quotes - 3) quote, (c :: rest).drop quotes)
    else if c = '\\' ∧ quote = '"' then
      match continued? rest with
      | some rest => lines? quote most rest
      | none => do
        let (character, rest) ← escape? rest
        (lines? quote most rest).map fun (text, rest) => (character :: text, rest)
    else if isPrintable c ∨ c = '\n' ∨ (c = '\r' ∧ rest.head? = some '\n') then
      (lines? quote most rest).map fun (text, rest) => (c :: text, rest)
    else none
  | _, _ => none

def quoted? (quote : Char) : List Char → Option (List Char × List Char)
  | a :: b :: rest =>
    if a = quote ∧ b = quote then
      let rest := (newline? rest).getD rest
      lines? quote rest.length rest
    else line? quote (rest.length + 2) (a :: b :: rest)
  | rest => line? quote rest.length rest

end ChatLog.Settings.Toml
