import ChatLog.Criteria
import ChatLog.Settings
import ChatLog.Statement
import ChatLog.Text.Wildcard

/-!
The query that a search stands for: its clause with the parameters in their places, and what the
reply needs to know. Factors always stand in the same order, and what is excluded from every search
closes the clause. The written condition with its paging depends on the shape of the clause alone,
so searches of one shape share their statements.
-/
namespace ChatLog

structure Query where
  clause : Clause Param
  span : Span
  message : String
deriving DecidableEq

namespace Span

def paging (span : Span) : Paging :=
  if span.hasOffset then .limitedFrom else if span.hasLimit then .limited else .unlimited

end Span

namespace Window

/-- A number as the storage holds it: what is beyond its integers becomes the greatest of them. -/
def storable (n : UInt64) : Int :=
  min n.toNat 0x7FFFFFFFFFFFFFFF

def params (window : Window) : List Param :=
  .int (storable window.limit) :: (window.offset.map fun n => Param.int (storable n)).toList

end Window

namespace Query

def anyOf (column : Column) (ids : IdSet) : Clause Param :=
  match ids.toList with
  | [] => []
  | first :: others =>
    [.either (.equals column (.id first)) (others.map fun id => .equals column (.id id))]

def wanted (criteria : Criteria) : Clause Param :=
  anyOf .author criteria.users ++ anyOf .channel criteria.channels ++
    (if criteria.message = "" then []
      else [.one (.like (.text (Text.Wildcard.containing criteria.message)))]) ++
    (criteria.recency?.map fun seconds => Factor.one (.newer (.int seconds))).toList

/-- The factors that keep messages out of every search: the spoiler channel unless the search comes
from it, the asking message, the own account, the moderation channel, and other searches. -/
def excluded (origin : Origin) (settings : Settings) : Clause Param :=
  (if origin.channelId = settings.spoilerChannelId then []
    else [.one (.differs .channel (.id settings.spoilerChannelId))]) ++
  [.one (.differs .message (.id origin.messageId)),
    .one (.differs .author (.id settings.selfId)),
    .one (.differs .channel (.id settings.modChannelId)),
    .one (.unlike (.text (Text.Wildcard.opening settings.commandTrigger)))]

def ofCriteria (criteria : Criteria) (origin : Origin) (settings : Settings) : Query where
  clause := wanted criteria ++ excluded origin settings
  span := criteria.span
  message := criteria.message

def params (query : Query) : List Param :=
  query.clause.places

def count (query : Query) : Statement :=
  .count query.clause.shape

def listing (query : Query) : Statement :=
  .listing query.clause.shape query.span.paging

def condition (query : Query) : List Char :=
  query.clause.text ++ Statement.order

def paginated (query : Query) : List Char :=
  query.condition ++ query.span.paging.text

theorem text_count (query : Query) :
    query.count.text = Statement.countHead ++ query.condition := by
  simp [count, Statement.text, condition, Clause.text_shape]

theorem text_listing (query : Query) :
    query.listing.text = Statement.listingHead ++ query.paginated := by
  simp [listing, Statement.text, paginated, condition, Clause.text_shape]

end Query

end ChatLog
