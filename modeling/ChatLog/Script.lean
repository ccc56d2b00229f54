import ChatLog.Listing

/-!
Statements whose answers are given. A count yields no row at all, or a row whose value must be an
integer that is not negative; a listing takes the parameters that it accepts and then yields its
rows, more of them perhaps than it was asked for.
-/
namespace ChatLog

inductive Tally where
  | noRow
  /-- A value that is no integer. -/
  | unreadable
  | number (n : Int)
deriving DecidableEq, Repr

structure Script where
  count : List Param → Tally
  accepts : List Param → Bool
  stream : List Param → List (Option Row)

def Tally.read : Tally → Except Failure (Option Nat)
  | .noRow => .ok none
  | .unreadable => .error .storage
  | .number n => if n < 0 then .error .storage else .ok (some n.toNat)

def Script.statements (script : Script) : Statements where
  count params := (script.count params).read
  accepts := script.accepts
  listing params := .ok (script.stream params)

end ChatLog
