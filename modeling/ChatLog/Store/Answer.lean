import ChatLog.Clause.Meaning
import ChatLog.Listing
import ChatLog.Statement
import ChatLog.Store.Paged

/-!
Preparing statements from their written form, and answering them from the tables. A statement needs
its tables both when it is prepared and whenever it is answered. Counting looks at messages alone;
a listing joins the names of the authors, so messages of authors without a name are counted but
never listed.
-/
namespace ChatLog.Store

def hasTables (store : Store) : Statement → Bool
  | .count _ => store.messages.isSome
  | .listing _ _ => store.messages.isSome && store.users.isSome

def prepare (store : Store) (text : List Char) : Except Failure Statement :=
  match Statement.read? text with
  | some statement =>
    if store.hasTables statement && statement.height ≤ Statement.greatestHeight then .ok statement
    else .error .unprepared
  | none => .error .unprepared

/-- A condition with the first of the parameters in its places, and the parameters left over. Each
parameter must be a value that the store can hold. -/
def bind (condition : Clause Unit) (params : List Param) :
    Except Failure (Clause Param × List Param) :=
  if params.all Param.isStorable then
    match condition.fill params with
    | some bound => .ok bound
    | none => .error .storage
  else .error .storage

def pageBounds : Paging → List Param → Except Failure (Int × Int)
  | .unlimited, [] => .ok (-1, 0)
  | .limited, [.int limit] => .ok (limit, 0)
  | .limitedFrom, [.int limit, .int offset] => .ok (limit, offset)
  | _, _ => .error .storage

def answerCount (store : Store) (now : Moment) (statement : Statement) (params : List Param) :
    Except Failure (Option Nat) := do
  match statement with
  | .listing _ _ => throw .storage
  | .count condition =>
    let messages ← rows store.messages
    let (clause, left) ← bind condition params
    if left ≠ [] then throw .storage
    let matching ← messages.filterM (clause.holds now)
    return some matching.length

/-- Whether a statement is a listing that has places for the parameters, and for no more. -/
def accepts (statement : Statement) (params : List Param) : Bool :=
  match statement with
  | .count _ => false
  | .listing condition paging =>
    match bind condition params with
    | .ok (_, left) => (pageBounds paging left).isOk
    | .error _ => false

/-- Whether one message is listed before another or may be: later times come first in the order of
their texts, and of equal times the larger id. -/
def listedBefore (first second : Message) : Bool :=
  second.time < first.time || (first.time == second.time && second.id ≤ first.id)

def newestFirst (messages : List Message) : List Message :=
  messages.mergeSort listedBefore

def withName (users : List User) (message : Message) : Option (String × Message) :=
  (users.find? (·.id == message.author)).map fun user => (user.name, message)

def toRow (reader : TimeReader) (name : String) (message : Message) : Option Row :=
  (reader.read? message.time).map fun written => ⟨name, message.text, written⟩

def answerListing (store : Store) (now : Moment) (statement : Statement) (params : List Param) :
    Except Failure (List (Option Row)) := do
  match statement with
  | .count _ => throw .storage
  | .listing condition paging =>
    let messages ← rows store.messages
    let users ← rows store.users
    let (clause, left) ← bind condition params
    let (limit, offset) ← pageBounds paging left
    let matching ← messages.filterM (clause.holds now)
    let named := (newestFirst matching).filterMap (withName users)
    return (paged limit offset named).map fun (name, message) => toRow now.reader name message

end ChatLog.Store
