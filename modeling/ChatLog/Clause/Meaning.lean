import ChatLog.Clause
import ChatLog.Store
import ChatLog.Store.Pattern
import ChatLog.Time.Reader

/-!
What a clause with its parameters says of a logged message at a moment. Factors are tested from
left to right, and the first one that does not hold ends the test; so does the first of several
alternatives that holds. Only testing a pattern that is too long can fail.
-/
namespace ChatLog

def Param.integer? : Param → Option Int
  | .id value => some value.toNat
  | .int value => some value
  | .text _ => none

def Column.of (message : Message) : Column → Id
  | .author => message.author
  | .channel => message.channel
  | .message => message.id

def Column.hasValue (column : Column) (message : Message) (value : Param) : Bool :=
  value.integer? == some (column.of message).toNat

def Message.fits (message : Message) : Param → Except Failure Bool
  | .text pattern => Store.matchesPattern pattern message.text
  | _ => .ok false

def Message.isNewer (message : Message) (now : Moment) (seconds : Param) : Bool :=
  seconds.integer?.any fun window => now.reader.isNewer message.time now.instant window

def Comparison.holds (now : Moment) (message : Message) : Comparison Param → Except Failure Bool
  | .equals column value => .ok (column.hasValue message value)
  | .differs column value => .ok (!column.hasValue message value)
  | .like pattern => message.fits pattern
  | .unlike pattern => do return !(← message.fits pattern)
  | .newer seconds => .ok (message.isNewer now seconds)

def Factor.holds (now : Moment) (message : Message) (factor : Factor Param) :
    Except Failure Bool :=
  factor.comparisons.anyM (Comparison.holds now message)

def Clause.holds (now : Moment) (clause : Clause Param) (message : Message) :
    Except Failure Bool :=
  clause.allM (Factor.holds now message)

end ChatLog
