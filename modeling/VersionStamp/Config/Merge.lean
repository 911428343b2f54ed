import VersionStamp.Template.Basic
import VersionStamp.Value

/-! Settings and their defaults. Settings are a mapping of sections; what a configuration leaves out
is filled in from the defaults, section by section, and what it says stands. -/

namespace VersionStamp

/-- Settings: the entries of a mapping. -/
abbrev Config := List (String × Value)

inductive ConfigError
  /-- A mapping was needed. -/
  | notMapping
  | missingKey (key : String)
  /-- A value of some other kind was needed. -/
  | wrongKind
  /-- A level that is a text instead of a number. -/
  | unknownLevel (name : String)
  /-- A value is written that there is not, such as the thirteenth month of a year. -/
  | noSuchValue (message : String)
  deriving DecidableEq, Repr

def ConfigError.message : ConfigError → String
  | .notMapping => "the settings are no mapping of sections"
  | .missingKey key => s!"the settings lack the key '{key}'"
  | .wrongKind => "a setting has a value of the wrong kind"
  | .unknownLevel name => s!"Unknown level: '{name}'"
  | .noSuchValue message => message

namespace Config

mutual

/-- A value over the default for it: mappings are merged, anything else replaces the default. -/
def mergeValue : Value → Option Value → Value
  | .mapping entries, some (.mapping defaults) => .mapping (merge entries defaults)
  | value, _ => value

def merge : Config → Config → Config
  | [], defaults => defaults
  | (key, value) :: rest, defaults =>
    merge rest (setKey key (mergeValue value (lookup? key defaults)) defaults)

end

def ofValue (value : Value) (defaults : Config) : Except ConfigError Config :=
  match value with
  | .mapping entries => .ok (merge entries defaults)
  | _ => .error .notMapping

def defaults : Config :=
  [("version", .mapping
      [("template", .text (String.ofList Template.defaultSource)),
       ("recognizer", .null),
       ("use_local_timezone", .bool false)]),
   ("logging", .mapping
      [("level", .text "WARNING"),
       ("log_to_file", .bool false),
       ("log_filename", .text "buildversion.log"),
       ("logs_dir", .text "logs"),
       ("rotate_logs", .bool true)])]

end Config

end VersionStamp
