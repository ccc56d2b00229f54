import ChatLog.Failure
import ChatLog.Settings
import ChatLog.Settings.Value

/-!
Settings in layers: what an environment variable says counts before what the settings file says,
and that before what is built in. Each setting is converted from the one value that counts for it,
so a value that is overridden does no harm.
-/
namespace ChatLog.Settings

structure Layers where
  environment : Table
  file : Table
deriving DecidableEq, Repr

structure Kind (α : Type) where
  name : String
  convert? : Value → Option α

namespace Kind

def number : Kind UInt64 := ⟨"number", Value.toWord?⟩

def text : Kind String := ⟨"text", Value.toText?⟩

end Kind

namespace Layers

def get? (layers : Layers) (key : String) : Option Value :=
  (layers.environment.lookup key).or (layers.file.lookup key)

def setting {α : Type} (layers : Layers) (kind : Kind α) (key : String) (builtIn : α) :
    Except Failure α :=
  match layers.get? key with
  | none => .ok builtIn
  | some value =>
    match kind.convert? value with
    | some converted => .ok converted
    | none => .error (.settings ("no " ++ kind.name ++ " for " ++ key))

def settings (layers : Layers) : Except Failure Settings := do
  return {
    maxSearchResults := ← layers.setting .number "max_search_results" builtIn.maxSearchResults
    selfId := ← layers.setting .number "self_id" builtIn.selfId
    modChannelId := ← layers.setting .number "mod_channel_id" builtIn.modChannelId
    spoilerChannelId := ← layers.setting .number "spoiler_channel_id" builtIn.spoilerChannelId
    commandTrigger := ← layers.setting .text "command_trigger" builtIn.commandTrigger
    displayRows := ← layers.setting .number "display_rows" builtIn.displayRows
    fuzzyLimit := ← layers.setting .number "fuzzy_limit" builtIn.fuzzyLimit
    database := ← layers.setting .text "database" builtIn.database
    log := ← layers.setting .text "log" builtIn.log }

end Layers

/-- What the names of environment variables for settings open with, in any case. -/
def variableHead : String := "chatsearch_"

def keyOfVariable? (name : String) : Option String :=
  (variableHead.toList.isPrefixOf? name.toLower.toList).map String.ofList

def ofVariables (environment : List (String × String)) : Table :=
  environment.filterMap fun (name, written) =>
    (keyOfVariable? name).map fun key => (key, Value.ofVariable written)

end ChatLog.Settings
