import VersionStamp.Command.Request
import VersionStamp.Config.Logging
import VersionStamp.Config.Overrides
import VersionStamp.Json
import VersionStamp.Session
import VersionStamp.Tags

/-! Carrying out what a command line asks for. Settings are loaded first, then logging is set up,
then the command runs. Faults in templates and candidates are told to the user; any other failure ends
the program. -/

namespace VersionStamp.Command

open Calendar

structure Surroundings where
  environment : Environment
  zone : Zone
  clock : Clock
  /-- What the file of settings at a path comes to. -/
  document : List Char → Config.Document
  input : List Char

inductive Crash
  | version (e : VersionError)
  | config (e : ConfigError)

inductive Outcome
  | printed (text : List Char)
  /-- The arguments break the rules. -/
  | misused
  /-- The user is told what is wrong. -/
  | refused (message : String)
  | crashed (cause : Crash)

namespace Outcome

def exitCode : Outcome → Nat
  | .printed _ => 0
  | .misused => 2
  | .refused _ => 1
  | .crashed _ => 1

def output : Outcome → List Char
  | .printed text => text
  | _ => []

end Outcome

inductive Stop
  | refused (message : String)
  | crashed (cause : Crash)

abbrev Attempt := Except Stop

/-- A failure of an operation on versions: faults in templates and candidates are told to the
user. -/
def Stop.ofError (e : VersionError) : Stop :=
  match e with
  | .template (.foreign _) => .crashed (.version e)
  | .template t => .refused t.message
  | .parse p => .refused p.message
  | e => .crashed (.version e)

def Stop.ofConfig (e : ConfigError) : Stop := .crashed (.config e)

def attempt (result : Except VersionError α) : Attempt α := result.mapError Stop.ofError

def insist (result : Except VersionError α) : Attempt α :=
  result.mapError fun e => .crashed (.version e)

def settingsAt (around : Surroundings) (path : List Char) : Except ConfigError Config :=
  (Config.load (around.document path) around.environment).map (·.config)

def makeVerbose (config : Config) : Except ConfigError Config :=
  match lookup? "logging" config with
  | some (.mapping entries) =>
    .ok (setKey "logging" (.mapping (setKey "level" (.text "DEBUG") entries)) config)
  | some _ => .error .wrongKind
  | none => .error (.missingKey "logging")

def sectionOf (config : Config) (name : String) : Except ConfigError Value :=
  match lookup? name config with
  | some value => .ok value
  | none => .error (.missingKey name)

def prepare (around : Surroundings) (path : List Char) (verbose : Bool) :
    Except ConfigError Config := do
  let config ← settingsAt around path
  let config ← if verbose then makeVerbose config else .ok config
  let _ ← LogSetup.ofSection (← sectionOf config "logging")
  return config

/-- Template, recognizer and mode, where the command line leaves them to the settings. -/
structure Choices where
  template : Value
  recognizer : Option Value
  mode : ZoneMode

/-- A setting of a section; one that is not there is null. -/
def settingOf (entries : Value) (key : String) : Except ConfigError Value :=
  match entries with
  | .mapping entries => .ok ((lookup? key entries).getD .null)
  | _ => .error .notMapping

/-- Takes the choices of the command line, and looks up those alone that it leaves open. -/
def Choices.ofConfig (config : Config) (common : Common) : Except ConfigError Choices := do
  let version ← sectionOf config "version"
  let template ← match common.template with
    | some text => pure (.text (String.ofList text))
    | none => settingOf version "template"
  let recognizer ← match common.recognizer with
    | some text => pure (some (.text (String.ofList text)))
    | none => (settingOf version "recognizer").map fun value =>
        if value.isSet then some value else none
  let useLocal ← match common.useLocal with
    | some useLocal => pure useLocal
    | none => (settingOf version "use_local_timezone").map (·.isSet)
  return { template, recognizer, mode := .ofFlag useLocal }

/-- Compiles the chosen template. Only text can be a template or a recognizer, and the template is
checked before the recognizer is looked at. -/
def Choices.compile (choices : Choices) : Attempt Template := do
  let source ← match choices.template with
    | .text s => pure s.toList
    | value => if value.isSet then throw (.ofConfig .wrongKind) else pure []
  match choices.recognizer with
  | none => attempt ((Template.compile source none).mapError .template)
  | some (.text s) => attempt ((Template.compile source (some s.toList)).mapError .template)
  | some _ =>
    let _ ← attempt ((Template.compile source none).mapError .template)
    throw (.ofConfig .wrongKind)

def line (text : List Char) : List Char := text ++ ['\n']

def readVersion (around : Surroundings) (choices : Choices) (candidate : List Char) :
    Attempt (Version × Clock) := do
  let template ← choices.compile
  let (parsed, clock) := template.parse around.zone choices.mode around.clock candidate
  let state ← attempt (parsed.mapError .parse)
  return (⟨template, state⟩, clock)

def runRender (around : Surroundings) (choices : Choices) (major minor build : Nat)
    (stamp : Stamp) : Attempt (List Char) := do
  let template ← choices.compile
  let made := State.create around.zone around.clock (.int major) (.int minor) (.int build) stamp
    choices.mode
  let state ← attempt made.1
  return line (← insist (template.render around.zone state))

def fieldLines (s : State) : List Char :=
  line ("major:     ".toList ++ Text.decimal s.major) ++
    line ("minor:     ".toList ++ Text.decimal s.minor) ++
    line ("build:     ".toList ++ Text.decimal s.build) ++
    line ("timestamp: ".toList ++ s.timestamp.iso)

def recordEntries (r : Record) : List (String × Value) :=
  [("version", .text (String.ofList r.version)),
   ("template", .text (String.ofList r.template)),
   ("recognizer", .text (String.ofList r.recognizer)),
   ("major", .int r.major),
   ("minor", .int r.minor),
   ("build", .int r.build),
   ("timestamp", .text (String.ofList r.timestamp)),
   ("timezone", .text r.mode.name)]

def runParse (around : Surroundings) (choices : Choices) (candidate : List Char) (asJson : Bool) :
    Attempt (List Char) := do
  let (v, _) ← readVersion around choices candidate
  if asJson then
    let record ← insist (v.toRecord around.zone)
    return line (Json.writeLines (recordEntries record))
  else return fieldLines v.state

def advancePart (v : Version) (clock : Clock) : Part → Except VersionError Version
  | .auto =>
    let ((after, outcome), _) := v.advance clock
    outcome.map fun _ => after
  | .counter c => .ok (v.increment c clock).1
  | .timestamp => .ok (v.refresh clock).1

def runBump (around : Surroundings) (choices : Choices) (candidate : List Char) (part : Part)
    (setMajor : Option Nat) : Attempt (List Char) := do
  let (v, clock) ← readVersion around choices candidate
  let v ← match setMajor with
    | none => pure v
    | some n => insist (v.setCounter .major (.int n))
  let v ← insist (advancePart v clock part)
  return line (← insist (v.render around.zone))

def splitLines : List Char → List Char → List (List Char)
  | [], current => if current.isEmpty then [] else [current.reverse]
  | '\r' :: '\n' :: rest, current => current.reverse :: splitLines rest []
  | '\r' :: rest, current => current.reverse :: splitLines rest []
  | '\n' :: rest, current => current.reverse :: splitLines rest []
  | c :: rest, current => splitLines rest (c :: current)

/-- The lines of a text without white space around them and without empty ones. -/
def inputTags (text : List Char) : List (List Char) :=
  ((splitLines text []).map Text.strip).filter fun tag => !tag.isEmpty

def runLatest (around : Surroundings) (choices : Choices) (tags : List (List Char))
    (advance : Bool) : Attempt (List Char) := do
  let tags := if tags.isEmpty then inputTags around.input else tags
  let template ← choices.compile
  if advance then
    let v ← insist (template.followingVersion around.zone choices.mode around.clock tags).1
    return line (← insist (v.render around.zone))
  else
    match (template.newestVersion around.zone choices.mode around.clock tags).1 with
    | some v => return line (← insist (v.render around.zone))
    | none => throw (.refused s!"No tags match pattern '{String.ofList template.source}'")

def Request.common : Request → Common
  | .render common _ _ _ _ => common
  | .parse common _ _ => common
  | .pattern common => common
  | .bump common _ _ _ => common
  | .latest common _ _ => common

def runRequest (around : Surroundings) (config : Config) (request : Request) :
    Attempt (List Char) := do
  let choices ← (Choices.ofConfig config request.common).mapError .ofConfig
  match request with
  | .render _ major minor build stamp => runRender around choices major minor build stamp
  | .parse _ candidate asJson => runParse around choices candidate asJson
  | .pattern _ => return line (← choices.compile).recognizer
  | .bump _ candidate part setMajor => runBump around choices candidate part setMajor
  | .latest _ tags advance => runLatest around choices tags advance

def versionLine : String := "buildversion, version 1.0.0"

/-- Runs the program. The settings are loaded before the arguments of the command are read. -/
def run (around : Surroundings) (arguments : List (List Char)) : Outcome :=
  match readOpening? arguments with
  | none => .misused
  | some .help => .printed []
  | some .version => .printed (line versionLine.toList)
  | some (.command path verbose name rest) =>
    match prepare around path verbose with
    | .error e => .crashed (.config e)
    | .ok config =>
      match readRequest? name rest with
      | none => .misused
      | some .help => .printed []
      | some (.request request) =>
        match runRequest around config request with
        | .ok text => .printed text
        | .error (.refused message) => .refused message
        | .error (.crashed cause) => .crashed cause

def errorLine (message : String) : String := s!"❌ Error: {message}\n"

def configPath? (arguments : List (List Char)) : Option (List Char) :=
  match readOpening? arguments with
  | some (.command path _ _ _) => some path
  | _ => none

def readsInput (arguments : List (List Char)) : Bool :=
  match readOpening? arguments with
  | some (.command _ _ name rest) =>
    match readRequest? name rest with
    | some (.request (.latest _ tags _)) => tags.isEmpty
    | _ => false
  | _ => false

def Crash.message : Crash → String
  | .version e => e.message
  | .config e => e.message

end VersionStamp.Command
