import ChatLog.Failure
import ChatLog.Mention
import ChatLog.Span
import ChatLog.Text.Blank
import ChatLog.Text.Parts

/-!
One word of a search request. Its first one or two characters say what it asks for: `*` a range of
the matches, `@` or `<@` users, `<#` channels, `~` recency; `#` is refused, since channels are named
by mentions only, and everything else is a word of the message. Alternatives among users and among
channels are separated by `|`.
-/
namespace ChatLog.Request

inductive Part where
  /-- The empty word, which asks for nothing. -/
  | blank
  | span (span : Span)
  /-- Users as they were written, names and mentions alike. -/
  | users (references : List String)
  | channels (ids : List UInt64)
  | recency (seconds : Int)
  | message (word : String)
deriving DecidableEq, Repr

namespace Part

def alternatives (word : String) : List String :=
  (Text.parts '|' word.toList).map fun part => String.ofList (Text.trim part)

/-- Whether an alternative names somebody: the bare opening of a reference names nobody. -/
def namesSomebody (reference : String) : Bool :=
  reference != "" && reference != "@" && reference != "<@"

def bound? (text : List Char) : Option UInt64 :=
  (Numeral.signed? text).bind fun n => if 0 ≤ n then some n.toNat.toUInt64 else none

/-- A range: nothing for counting alone, one bound for the newest matches, or two bounds. -/
def span? (bounds : List Char) : Option Span :=
  if bounds = [] then some .countOnly
  else match Text.cut? '-' bounds with
    | some (first, last) => do return .rows (← bound? first) (← bound? last)
    | none => (bound? bounds).map .newest

def readSpan (word : String) (bounds : List Char) : Except Failure Part :=
  match span? bounds with
  | some found => .ok (.span found)
  | none => .error (.malformed word "result range")

def readUsers (word : String) : Except Failure Part :=
  match (alternatives word).filter namesSomebody with
  | [] => .error .noUsers
  | references => .ok (.users references)

def readChannel (text : String) : Except Failure UInt64 :=
  match Mention.channel? text.toList with
  | some id => .ok id
  | none => .error (.unknownChannel text)

def readChannels (word : String) : Except Failure Part := do
  return .channels (← (alternatives word).mapM readChannel)

def readRecency (word : String) (seconds : List Char) : Except Failure Part :=
  if seconds = [] then .error .noSeconds
  else match Numeral.signed? seconds with
    | some n => .ok (.recency n)
    | none => .error (.malformed word "number of seconds")

def read (word : String) : Except Failure Part :=
  match word.toList with
  | [] => .ok .blank
  | '*' :: bounds => readSpan word bounds
  | '@' :: _ => readUsers word
  | '<' :: '@' :: _ => readUsers word
  | '#' :: _ => .error (.unknownChannel word)
  | '<' :: '#' :: _ => readChannels word
  | '~' :: seconds => readRecency word seconds
  | _ => .ok (.message word)

end Part

end ChatLog.Request
