import Std.Time.DateTime.Timestamp
import VersionStamp.Calendar.ZoneRule
import VersionStamp.Command.Run
import VersionStamp.Yaml.Schema

/-! The program: it looks around for what a run needs, runs, and prints the outcome. -/

namespace VersionStamp.Command

open Calendar

def epochSeconds : Int := 719162 * secondsPerDay

def currentTime : IO Timestamp := do
  let now ← Std.Time.Timestamp.now
  match WallTime.ofSeconds (epochSeconds + now.toSecondsSinceUnixEpoch.val) with
  | .ok wall => return ⟨wall, 0⟩
  | .error _ => return ⟨.start, 0⟩

def readEnvironment : IO Environment := do
  return {
    template := ← IO.getEnv "BUILDVERSION_TEMPLATE"
    recognizer := ← IO.getEnv "BUILDVERSION_RECOGNIZER"
    localTimezone := ← IO.getEnv "BUILDVERSION_LOCAL_TIMEZONE"
    logLevel := ← IO.getEnv "LOG_LEVEL"
    debugMode := ← IO.getEnv "DEBUG_MODE" }

/-- The zone that the environment names, and UTC where it names none. -/
def readZone : IO Zone := do
  let rule ← IO.getEnv "TZ"
  return ((rule.map (·.toList)).bind Zone.ofRule?).getD .utc

def readDocument (path : List Char) : IO Config.Document := do
  try
    let bytes ← IO.FS.readBinFile (String.ofList path)
    match String.fromUTF8? bytes with
    | some text => return Yaml.read text.toList
    | none => return .failed (.noSuchValue "the settings are no text in UTF-8")
  catch
    | .noFileOrDirectory _ _ _ => return .missing
    | _ => return .unreadable

/-- Reads what the arguments ask for and nothing else. -/
def lookAround (arguments : List (List Char)) : IO Surroundings := do
  let document ← match configPath? arguments with
    | some path => readDocument path
    | none => pure .missing
  let input ← if readsInput arguments then (← IO.getStdin).readToEnd else pure ""
  return {
    environment := ← readEnvironment
    zone := ← readZone
    clock := .ofSteps (← currentTime) 0
    document := fun _ => document
    input := input.toList }

end VersionStamp.Command

open VersionStamp.Command in
def main (arguments : List String) : IO UInt32 := do
  let arguments := arguments.map (·.toList)
  let outcome := run (← lookAround arguments) arguments
  match outcome with
  | .printed text => IO.print (String.ofList text)
  | .misused => IO.eprintln "The arguments are not as they should be."
  | .refused message => IO.eprint (errorLine message)
  | .crashed cause => IO.eprintln cause.message
  return outcome.exitCode.toUInt32
