import ChatLog.Directory
import ChatLog.Guard
import ChatLog.Reply
import ChatLog.Shelf
import ChatLog.Store.Accounts

/-!
A searcher takes the words of a request to a reply: it takes the guard, reads the words, resolves
the names, prepares or finds the statements, runs them and composes the reply. The first stage that
fails ends the search, and whatever happens the guard is left free again by the search that took it.
-/
namespace ChatLog

structure Searcher where
  settings : Settings
  /-- Who is asked for names, given the store at that time. -/
  directory : Store → Directory
  shelf : Shelf

/-- What a search leaves behind: its answer, the searcher with its shelf, the guard, and the lookups
it made, each with whether the guard was held. -/
structure Report where
  answer : Except Failure Reply
  searcher : Searcher
  guard : Guard
  lookups : List (Lookup × Bool)

namespace Searcher

def overLog (settings : Settings) : Searcher :=
  ⟨settings, Store.directory, .empty⟩

def withDirectory (settings : Settings) (directory : Directory) : Searcher :=
  ⟨settings, fun _ => directory, .empty⟩

def runQuery (searcher : Searcher) (store : Store) (timing : Timing) (query : Query) :
    Except Failure Reply × Searcher :=
  match searcher.shelf.fetch store query with
  | (.error failure, shelf) => (.error failure, { searcher with shelf := shelf })
  | (.ok prepared, shelf) =>
    let outcome :=
      (prepared.on store timing).run query.params query.span searcher.settings.maxSearchResults
    (outcome.map fun found => .ofOutcome found query.message searcher.settings.displayRows,
      { searcher with shelf := shelf })

def searchHolding (searcher : Searcher) (store : Store) (timing : Timing) (origin : Origin)
    (words : List String) : Except Failure Reply × Searcher × List Lookup :=
  match Request.ofWords words with
  | .error failure => (.error failure, searcher, [])
  | .ok request =>
    match request.resolve (searcher.directory store) searcher.settings with
    | (lookups, .error failure) => (.error failure, searcher, lookups)
    | (lookups, .ok criteria) =>
      let query := Query.ofCriteria criteria origin searcher.settings
      let (answer, searcher) := searcher.runQuery store timing query
      (answer, searcher, lookups)

def search (searcher : Searcher) (store : Store) (timing : Timing) (guard : Guard)
    (origin : Origin) (words : List String) : Report :=
  match guard.acquire? with
  | none => ⟨.error .busy, searcher, guard, []⟩
  | some held =>
    let (answer, searcher, lookups) := searcher.searchHolding store timing origin words
    ⟨answer, searcher, held.release, lookups.map fun lookup => (lookup, held.isBusy)⟩

/-- The reply to whatever a search answers: a failure is a preformatted line, unless it ends the
program. -/
def replyTo : Except Failure Reply → Except Failure Reply
  | .ok reply => .ok reply
  | .error .noRoom => .error .noRoom
  | .error failure => .ok (.notice failure.message)

def kept (searcher : Searcher) : Nat :=
  searcher.shelf.size

def name : String := "Search"

def summary : String := "Performs a complex search on the chat history."

def synopsis : String :=
  "[*[result-range]] [@user[|@user2|...]] [#channel[|#channel2|...]] [~seconds] [message]"

def usage (settings : Settings) : String :=
  settings.commandTrigger ++ " " ++ synopsis ++ "\n" ++
  "Searches the chat log. All parameters are optional and may come in any order; " ++
  "they are combined into a single search, but at least a message, a user or a channel is required.\n" ++
  "*N returns the first N results, *A-B the A-th to the B-th result (inclusive), " ++
  "and a lone * only reports how many results there are. At most " ++
  toString settings.maxSearchResults ++ " results are listed.\n" ++
  "@user searches for a user. A ping uses the user id directly, a name is looked up in the username " ++
  "and alias tables. Separate several users with | to search for any of them; each still needs its @.\n" ++
  "#channel must be a channel mention recognized by discord. Several channels are separated the same way.\n" ++
  "~N only searches the last N seconds, so ~600 covers the past 10 minutes.\n" ++
  "Everything else is the message to look for; it does not need quotes.\n\n" ++
  "Example: " ++ settings.commandTrigger ++ " #manechat @cloud|@JamesNotABot *4 ~600\n" ++
  "Returns the 4 most recent messages in #manechat from the past 10 minutes by any user with \"cloud\" " ++
  "in their name, or by JamesNotABot."

end Searcher

end ChatLog
