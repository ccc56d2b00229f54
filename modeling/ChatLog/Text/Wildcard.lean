/-!
Wildcard patterns: `%` stands for any run of characters, `_` for exactly one, and every other
character for itself, where ASCII letters match in either case. There is no escape character. The
matcher works on all tails of the text at once, so its cost is the product of the two lengths.
-/
namespace ChatLog.Text.Wildcard

def sameLetter (p c : Char) : Bool :=
  p.toLower == c.toLower

/-- At each place, whether some later or equal place holds. -/
def orLater : List Bool → List Bool
  | [] => []
  | here :: later =>
    let fromLater := orLater later
    (here || fromLater.headD false) :: fromLater

def tailsFit : (pattern text : List Char) → List Bool
  | [], text => text.map (fun _ => false) ++ [true]
  | p :: pattern, text =>
    let rest := tailsFit pattern text
    if p = '%' then orLater rest
    else List.zipWith (fun c fits => fits && (p == '_' || sameLetter p c)) text rest.tail ++ [false]

/-- The last two characters of the first plane are seen as the replacement character. -/
def seen (c : Char) : Char :=
  if c = '\uFFFE' ∨ c = '\uFFFF' then '\uFFFD' else c

/-- A text as patterns see it: it ends before its first null character. -/
def visible (text : List Char) : List Char :=
  (text.takeWhile (· ≠ '\x00')).map seen

def fits (pattern text : String) : Bool :=
  (tailsFit (visible pattern.toList) (visible text.toList)).headD false

def longest : Nat := 50000

def tooLong (pattern : String) : Bool :=
  longest < pattern.utf8ByteSize

def containing (part : String) : String :=
  "%" ++ part ++ "%"

def opening (word : String) : String :=
  word ++ " %"

end ChatLog.Text.Wildcard
