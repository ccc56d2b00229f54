import ChatLog.CommandLine
import Std.Time.DateTime.Timestamp

/-!
The program: it gathers the arguments, the environment variables that can name settings and the
settings files, searches once, writes the result and ends with its code. A log lives in memory for
the time of the program, and files of formats that are read elsewhere cannot be read.
-/
namespace ChatLog

def settingKeys : List String :=
  ["max_search_results", "self_id", "mod_channel_id", "spoiler_channel_id", "command_trigger",
    "display_rows", "fuzzy_limit", "database", "log"]

/-- The environment variables that can name settings, in the cases in which they are usual. -/
def variableNames : List String :=
  CommandLine.settingsVariable ::
    settingKeys.flatMap fun key =>
      [Settings.variableHead ++ key, (Settings.variableHead ++ key).toUpper]

def readEnvironment : IO (List (String × String)) :=
  variableNames.filterMapM fun name => do
    return (← IO.getEnv name).map fun written => (name, written)

def readFiles (name : String) : IO Settings.Files :=
  let names := name :: Settings.Format.endings.map fun ending => name ++ "." ++ ending
  names.filterMapM fun (candidate : String) => do
    try
      return some (candidate, ← IO.FS.readFile candidate)
    catch _ => return none

def readClock : IO Instant := do
  return .ofNanos (← Std.Time.Timestamp.now).toNanosecondsSinceUnixEpoch.val

end ChatLog

open ChatLog in
def main (arguments : List String) : IO UInt32 := do
  let environment ← readEnvironment
  let name := (environment.lookup CommandLine.settingsVariable).getD CommandLine.settingsName
  let files ← readFiles name
  let timing := Timing.once (← readClock)
  let result :=
    CommandLine.run
      ⟨arguments, environment, files, fun _ _ => none, CommandLine.openIn files none⟩ timing
  (← IO.getStdout).putStr result.output
  return result.code.toUInt32
