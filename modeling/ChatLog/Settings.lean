/-!
The settings of a search: limits, the channels and the account that searches treat specially, and
the values a program around the search needs.
-/
namespace ChatLog

structure Settings where
  maxSearchResults : UInt64
  selfId : UInt64
  modChannelId : UInt64
  /-- The channel whose messages are found only from within it. -/
  spoilerChannelId : UInt64
  /-- A message that opens with this word and a space is a search itself and is never found. -/
  commandTrigger : String
  /-- The rows listed when no range is given, beyond which more are said to be available. -/
  displayRows : UInt64
  /-- The most accounts that one name may stand for. -/
  fuzzyLimit : UInt64
  database : String
  log : String
deriving DecidableEq, Repr

def Settings.builtIn : Settings where
  maxSearchResults := 50
  selfId := 0
  modChannelId := 0
  spoilerChannelId := 0
  commandTrigger := "!search"
  displayRows := 5
  fuzzyLimit := 20
  database := "chatsearch.db"
  log := "info"

end ChatLog
