import VersionStamp.Config.Merge
import VersionStamp.Text.Case

/-! Overrides from the environment. Five variables set four settings. A section that is no mapping
cannot be set: the variable is passed over with a warning. -/

namespace VersionStamp

structure Environment where
  template : Option String := none
  recognizer : Option String := none
  localTimezone : Option String := none
  logLevel : Option String := none
  debugMode : Option String := none
  deriving DecidableEq, Repr

/-- Settings on their way through the overrides, with the number of warnings so far. -/
structure Adjusted where
  config : Config
  warnings : Nat

/-- Whether a text says yes: `1`, `true`, `yes` or `on` in any case, with white space around it. -/
def saysYes (text : String) : Bool :=
  ["1", "true", "yes", "on"].contains
    (String.ofList (Text.lower (Text.strip text.toList)))

namespace Adjusted

def warn (a : Adjusted) : Adjusted := { a with warnings := a.warnings + 1 }

/-- Sets a key of a section. A section that is missing comes into being. -/
def set (a : Adjusted) (sectionName key : String) (value : Value) : Adjusted :=
  match lookup? sectionName a.config with
  | none => { a with config := setKey sectionName (.mapping [(key, value)]) a.config }
  | some (.mapping entries) =>
    { a with config := setKey sectionName (.mapping (setKey key value entries)) a.config }
  | some _ => a.warn

def setIfGiven (a : Adjusted) (sectionName key : String) (value : Option Value) : Adjusted :=
  match value with
  | none => a
  | some value => a.set sectionName key value

/-- The level in force, as a setting of the level looks it up. -/
def level? (a : Adjusted) : Except ConfigError (Option Value) :=
  match lookup? "logging" a.config with
  | none => .error (.missingKey "logging")
  | some (.mapping entries) =>
    match lookup? "level" entries with
    | none => .error (.missingKey "level")
    | some level => .ok (some level)
  | some _ => .ok none

/-- Debug mode sets the level to `DEBUG`; turned off, it sets the level to what it is. -/
def setDebug (a : Adjusted) (debugMode : Option String) : Except ConfigError Adjusted :=
  match debugMode with
  | none => .ok a
  | some text =>
    if saysYes text then .ok (a.set "logging" "level" (.text "DEBUG"))
    else
      match a.level? with
      | .error e => .error e
      | .ok none => .ok a.warn
      | .ok (some level) => .ok (a.set "logging" "level" level)

end Adjusted

namespace Config

def applyEnvironment (config : Config) (env : Environment) : Except ConfigError Adjusted :=
  let a : Adjusted := ⟨config, 0⟩
  let a := a.setIfGiven "version" "template" (env.template.map .text)
  let a := a.setIfGiven "version" "recognizer" (env.recognizer.map .text)
  let a := a.setIfGiven "version" "use_local_timezone"
    (env.localTimezone.map fun text => .bool (saysYes text))
  let a := a.setIfGiven "logging" "level" (env.logLevel.map .text)
  a.setDebug env.debugMode

inductive Document
  /-- There is no such file. -/
  | missing
  | found (value : Value)
  /-- The file cannot be opened, or its text has not the form of a document. -/
  | unreadable
  /-- Reading ends with an error of another kind. -/
  | failed (e : ConfigError)

/-- What a document gives: nothing where there is none or where it is empty. -/
def Document.given : Document → Except ConfigError Value
  | .missing | .unreadable => .ok (.mapping [])
  | .found value => .ok (if value.isSet then value else .mapping [])
  | .failed e => .error e

/-- The settings of a document over the defaults, with the overrides on top. A document that cannot be
read is warned of. -/
def load (document : Document) (env : Environment) : Except ConfigError Adjusted := do
  let config ← ofValue (← document.given) defaults
  let adjusted ← config.applyEnvironment env
  return match document with
    | .unreadable => adjusted.warn
    | _ => adjusted

end Config

end VersionStamp
