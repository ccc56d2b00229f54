import ChatLog.Clause
import ChatLog.Failure
import ChatLog.Span
import ChatLog.Query
import ChatLog.Time.Instant

/-!
Carrying out a search with its two statements, whatever they answer: the matches are counted, and
unless counting is all that was asked for, the rows of the window are fetched. Rows beyond the
window are never read. Room for all the rows that the window allows is reserved before the first of
them is read, however few there are, and there is none for a window of `2 ^ 57` rows or more.
-/
namespace ChatLog

structure Row where
  author : String
  message : String
  written : Instant
deriving DecidableEq, Repr

inductive Outcome where
  /-- Nothing matches. -/
  | noResults
  /-- Only the number of matches was asked for. -/
  | counted (count : Nat)
  /-- Something matches, but nothing in the window. -/
  | noneInRange (count : Nat)
  | listed (count : Nat) (rows : List Row)
deriving DecidableEq, Repr

/-- Two statements by what they answer to parameters: a count, unless there is no row, and a stream
of rows, of which each can be read or not. The listing takes its parameters before it is run. -/
structure Statements where
  count : List Param → Except Failure (Option Nat)
  accepts : List Param → Bool
  listing : List Param → Except Failure (List (Option Row))

/-- A row takes 64 octets, and `2 ^ 63` octets are more than can be addressed. -/
def Window.hasRoom (window : Window) : Bool :=
  window.limit.toNat < 0x200000000000000

namespace Statements

def readRow : Option Row → Except Failure Row
  | some row => .ok row
  | none => .error .storage

def fetch (statements : Statements) (params : List Param) (window : Window) :
    Except Failure (List Row) := do
  let given := params ++ window.params
  if !statements.accepts given then throw .storage
  if !window.hasRoom then throw .noRoom
  let stream ← statements.listing given
  (stream.take window.limit.toNat).mapM readRow

section

variable (statements : Statements) {params : List Param} {window : Window}

theorem fetch_of_refused (refused : statements.accepts (params ++ window.params) = false) :
    statements.fetch params window = .error .storage := by
  simp only [fetch, refused]
  rfl

variable (accepted : statements.accepts (params ++ window.params) = true)

include accepted

theorem fetch_of_full (full : window.hasRoom = false) :
    statements.fetch params window = .error .noRoom := by
  simp only [fetch, accepted, full]
  rfl

theorem fetch_of_room (room : window.hasRoom = true) :
    statements.fetch params window = (statements.listing (params ++ window.params)).bind
      fun stream => (stream.take window.limit.toNat).mapM readRow := by
  simp only [fetch, accepted, room]
  rfl

end

def run (statements : Statements) (params : List Param) (span : Span) (most : UInt64) :
    Except Failure Outcome := do
  match ← statements.count params with
  | none => throw .noCount
  | some 0 => return .noResults
  | some count =>
    match span.window? most with
    | none => return .counted count
    | some window =>
      match ← statements.fetch params window with
      | [] => return .noneInRange count
      | rows => return .listed count rows

end Statements

end ChatLog
