import ChatLog.Listing
import ChatLog.Text.Emphasis
import ChatLog.Text.Link
import ChatLog.Time.Stamp

/-!
The reply to a search: a fenced header, and for a listing one line per row with its stamp, author
and text, where the text searched for is marked and links are defused.
-/
namespace ChatLog

structure Reply where
  text : String
  /-- Whether more rows were listed than are usually displayed. -/
  more : Bool
deriving DecidableEq, Repr

namespace Reply

def fence (text : String) : String :=
  "```" ++ text ++ "```"

def notice (text : String) : Reply :=
  ⟨fence text, false⟩

def highlight (text pattern : String) : String :=
  String.ofList (Text.Emphasis.highlight text.toList pattern.toList)

def defuseLinks (text : String) : String :=
  String.ofList (Text.Link.defuse text.toList)

def line (row : Row) (pattern : String) : String :=
  "[" ++ row.written.stamp ++ "] " ++ row.author ++ ": " ++ highlight row.message pattern ++ "\n"

def header (count : Nat) : String :=
  fence ("Search results: " ++ toString count ++ (if count = 1 then " match." else " matches.")) ++
    "\n"

/-- The reply to an outcome. More is said to be available when more rows were listed than
`displayRows`. -/
def ofOutcome (outcome : Outcome) (pattern : String) (displayRows : UInt64) : Reply :=
  match outcome with
  | .noResults => notice "No results found."
  | .noneInRange _ => notice "No results in range."
  | .counted count => ⟨header count, false⟩
  | .listed count rows =>
    ⟨defuseLinks (header count ++ String.join (rows.map fun row => line row pattern)),
      displayRows.toNat < rows.length⟩

end Reply

end ChatLog
