import ChatLog.IdSet
import ChatLog.Span

/-!
A search with every name resolved, and the message that asked for it.
-/
namespace ChatLog

/-- The message that asks for a search. -/
structure Origin where
  messageId : Id
  channelId : Id
  authorId : Id
deriving DecidableEq, Repr

structure Criteria where
  /-- The authors searched for; any author when empty. -/
  users : IdSet
  /-- The channels searched; any channel when empty. -/
  channels : IdSet
  /-- How far back messages are searched; without limit when absent or negative. -/
  seconds : Option Int
  /-- The text searched for; any text when empty. -/
  message : String
  span : Span
deriving DecidableEq

namespace Criteria

def recency? (criteria : Criteria) : Option Int :=
  criteria.seconds.filter (0 ≤ ·)

end Criteria

end ChatLog
