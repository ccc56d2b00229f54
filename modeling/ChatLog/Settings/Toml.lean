import ChatLog.Settings.Toml.Item
import ChatLog.Settings.Toml.Moment
import ChatLog.Settings.Toml.Number
import ChatLog.Settings.Toml.Text

/-!
Settings in TOML. A document is lines, each with a name and its value or the header of a table, and
comments. A value is a text in quotes, a truth value, a number, a moment, a list or a table in
braces; what is nested in the last two is only checked. No name may be given two values.
-/
namespace ChatLog.Settings.Toml

def afterComment? (text : List Char) : Option (List Char) :=
  let rest := text.dropWhile isPrintable
  if rest = [] ∨ (newline? rest).isSome then some rest else none

def gap? : (most : Nat) → List Char → Option (List Char)
  | most + 1, text =>
    match skipBlank text with
    | '#' :: rest => (afterComment? rest).bind (gap? most)
    | rest =>
      match newline? rest with
      | some rest => gap? most rest
      | none => some rest
  | 0, text => some text

def lineEnd? (text : List Char) : Option (List Char) := do
  let rest ← match skipBlank text with
    | '#' :: rest => afterComment? rest
    | rest => some rest
  if rest = [] then return [] else newline? rest

def isBare (c : Char) : Bool :=
  c.isAlphanum || c = '_' || c = '-'

def word? : List Char → Option (String × List Char)
  | '"' :: rest => (line? '"' rest.length rest).map fun (word, rest) => (String.ofList word, rest)
  | '\'' :: rest => (line? '\'' rest.length rest).map fun (word, rest) => (String.ofList word, rest)
  | text =>
    let word := text.takeWhile isBare
    if word = [] then none else some (String.ofList word, text.dropWhile isBare)

def name? : (most : Nat) → List Char → Option (List String × String × List Char)
  | most + 1, text => do
    let (word, rest) ← word? (skipBlank text)
    match skipBlank rest with
    | '.' :: rest => (name? most rest).map fun (path, last, rest) => (word :: path, last, rest)
    | rest => return ([], word, rest)
  | 0, _ => none

def isScalarPart (c : Char) : Bool :=
  isBare c || c = '.' || c = '+' || c = ':'

/-- A value without quotes and brackets, and what follows; a date may be followed by a blank and a
time of day. -/
def scalar? (text : List Char) : Option (Value × List Char) := do
  let written := text.takeWhile isScalarPart
  let rest := text.dropWhile isScalarPart
  let (written, rest) := match date? written, rest with
    | some (_, []), ' ' :: c :: later =>
      if c.isDigit then
        (written ++ ' ' :: (c :: later).takeWhile isScalarPart, (c :: later).dropWhile isScalarPart)
      else (written, rest)
    | _, _ => (written, rest)
  let value ← match String.ofList written with
    | "true" => some (.truth true)
    | "false" => some (.truth false)
    | _ =>
      match moment? written with
      | some moment => some (.text (String.ofList moment))
      | none => number? written
  return (value, rest)

def greatestDepth : Nat := 80

mutual

/-- The value that a text opens with, and what follows it. Each call has less `fuel`. -/
def value? (fuel depth : Nat) (text : List Char) : Option (Value × List Char) :=
  match fuel with
  | 0 => none
  | fuel + 1 =>
    match text with
    | '"' :: rest => (quoted? '"' rest).map fun (text, rest) => (.text (String.ofList text), rest)
    | '\'' :: rest => (quoted? '\'' rest).map fun (text, rest) => (.text (String.ofList text), rest)
    | '[' :: rest =>
      if depth = 0 then none
      else (elements? fuel (depth - 1) rest).map fun rest => (.composite, rest)
    | '{' :: rest =>
      if depth = 0 then none
      else (entries? fuel (depth - 1) [] rest).map fun rest => (.composite, rest)
    | text => scalar? text

def elements? (fuel depth : Nat) (text : List Char) : Option (List Char) :=
  match fuel with
  | 0 => none
  | fuel + 1 => do
    match ← gap? text.length text with
    | ']' :: rest => return rest
    | text =>
      let (_, rest) ← value? fuel depth text
      match ← gap? rest.length rest with
      | ']' :: rest => return rest
      | ',' :: rest => elements? fuel depth rest
      | _ => none

def entries? (fuel depth : Nat) (items : Items) (text : List Char) : Option (List Char) :=
  match fuel with
  | 0 => none
  | fuel + 1 => do
    match ← gap? text.length text with
    | '}' :: rest => return rest
    | text =>
      let (path, name, rest) ← name? text.length text
      match rest with
      | '=' :: rest =>
        let (value, rest) ← value? fuel depth (skipBlank rest)
        let items ← items.put path name value
        match ← gap? rest.length rest with
        | '}' :: rest => return rest
        | ',' :: rest => entries? fuel depth items rest
        | _ => none
      | _ => none

end

structure Reading where
  items : Items
  current : List String

def header? (closing text : List Char) : Option (List String × String × List Char) := do
  let (path, name, rest) ← name? text.length text
  return (path, name, ← closing.isPrefixOf? rest)

def line (reading : Reading) (text : List Char) : Option (Reading × List Char) :=
  match text with
  | '[' :: '[' :: rest => do
    let (path, name, rest) ← header? [']', ']'] rest
    return (⟨← reading.items.within path (Items.addTable name), path ++ [name]⟩, ← lineEnd? rest)
  | '[' :: rest => do
    let (path, name, rest) ← header? [']'] rest
    return (⟨← reading.items.within path (Items.openTable name), path ++ [name]⟩, ← lineEnd? rest)
  | text => do
    let (path, name, rest) ← name? text.length text
    match rest with
    | '=' :: rest =>
      let (value, rest) ← value? (2 * rest.length + 1) greatestDepth (skipBlank rest)
      let items ← reading.items.within reading.current (Items.put path name value)
      return ({ reading with items := items }, ← lineEnd? rest)
    | _ => none

def readLines (reading : Reading) : (most : Nat) → List Char → Option Reading
  | most + 1, text => do
    match ← gap? text.length text with
    | [] => return reading
    | text =>
      let (reading, rest) ← line reading text
      readLines reading most rest
  | 0, _ => some reading

def read? (document : List Char) : Option Table :=
  (readLines ⟨[], []⟩ (document.length + 1) document).map fun reading => reading.items.toTable

end ChatLog.Settings.Toml
