import VersionStamp.Config.Merge
import VersionStamp.Text.Case

/-! Where log messages go: to the console at a chosen level, and to a file if one is asked for,
which takes messages of every kind. -/

namespace VersionStamp

inductive HandlerKind
  | stream
  | file
  | rotatingFile
  deriving DecidableEq, Repr

def HandlerKind.name : HandlerKind → String
  | .stream => "StreamHandler"
  | .file => "FileHandler"
  | .rotatingFile => "RotatingFileHandler"

structure LogHandler where
  kind : HandlerKind
  level : Nat
  deriving DecidableEq, Repr

structure LogSetup where
  level : Nat
  handlers : List LogHandler
  /-- The files below the working directory that are opened. -/
  files : List String
  deriving DecidableEq, Repr

/-- What a name stands for among the settings of logging. -/
inductive LevelName
  | level (n : Nat)
  /-- A format for messages that has a name like those of levels. -/
  | format (text : String)
  /-- A table that has a name like those of levels. -/
  | table
  deriving DecidableEq, Repr

def levelName? (name : String) : Option LevelName :=
  match name with
  | "NOTSET" => some (.level 0)
  | "DEBUG" => some (.level 10)
  | "INFO" => some (.level 20)
  | "WARN" | "WARNING" => some (.level 30)
  | "ERROR" => some (.level 40)
  | "FATAL" | "CRITICAL" => some (.level 50)
  | "BASIC_FORMAT" => some (.format "%(levelname)s:%(name)s:%(message)s")
  | "_STYLES" => some .table
  | _ => none

def usualLevel : Nat := 30

def fileLevel : Nat := 10

/-- The level that a setting names, in any case. Other values and unknown names mean the usual
level. -/
def levelOf (value : Value) : Except ConfigError Nat :=
  match value with
  | .text name =>
    match levelName? (String.ofList (Text.upper name.toList)) with
    | some (.level n) => .ok n
    | some (.format text) => .error (.unknownLevel text)
    | some .table => .error .wrongKind
    | none => .ok usualLevel
  | _ => .ok usualLevel

/-- A path below the working directory, from its parts; parts that lead nowhere are left out. An
absolute path and one that leaves the working directory have none. -/
def localPath? (path : List Char) : Option String :=
  let step := fun (done : List (List Char)) (part : List Char) =>
    if part.isEmpty || part == ['.'] then some done
    else if part == ['.', '.'] then if done.isEmpty then none else some done.tail
    else some (part :: done)
  if path.head? == some '/' then none
  else
    ((path.splitOn '/').foldlM step []).map fun parts =>
      String.ofList (['/'].intercalate parts.reverse)

/-- The path of a file in a directory. An absolute file name stands for itself. -/
def joinPath (directory file : List Char) : List Char :=
  if file.head? == some '/' || directory.isEmpty then file else directory ++ '/' :: file

def logFile? (entries : Config) : Except ConfigError (Option String) :=
  match (lookup? "logs_dir" entries).getD (.text "logs"),
    (lookup? "log_filename" entries).getD (.text "buildversion.log") with
  | .text directory, .text file => .ok (localPath? (joinPath directory.toList file.toList))
  | _, _ => .error .wrongKind

def LogSetup.ofSection (value : Value) : Except ConfigError LogSetup :=
  match value with
  | .mapping entries => do
    let level ← levelOf ((lookup? "level" entries).getD (.text "WARNING"))
    let console : LogHandler := ⟨.stream, level⟩
    if ((lookup? "log_to_file" entries).getD (.bool false)).isSet then
      let file ← logFile? entries
      let rotates := ((lookup? "rotate_logs" entries).getD (.bool true)).isSet
      let kind : HandlerKind := if rotates then .rotatingFile else .file
      return ⟨level, [console, ⟨kind, fileLevel⟩], file.toList⟩
    else
      return ⟨level, [console], []⟩
  | _ => .error .notMapping

end VersionStamp
