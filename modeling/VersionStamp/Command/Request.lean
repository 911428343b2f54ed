import VersionStamp.Calendar.Entry
import VersionStamp.Command.Options
import VersionStamp.State

/-! Requests: what a command line asks for, with every value checked. -/

namespace VersionStamp.Command

open Calendar

/-- Choices that all commands share. What is left out comes from the settings. -/
structure Common where
  template : Option (List Char)
  recognizer : Option (List Char)
  useLocal : Option Bool
  deriving DecidableEq, Repr

inductive Part
  | auto
  | counter (c : Counter)
  | timestamp
  deriving DecidableEq, Repr

inductive Request
  | render (common : Common) (major minor build : Nat) (stamp : Stamp)
  | parse (common : Common) (candidate : List Char) (asJson : Bool)
  | pattern (common : Common)
  | bump (common : Common) (candidate : List Char) (part : Part) (setMajor : Option Nat)
  /-- Without tags they are read from the input. -/
  | latest (common : Common) (tags : List (List Char)) (advance : Bool)

inductive CommandName
  | render
  | parse
  | pattern
  | bump
  | latest
  deriving DecidableEq, Repr

def CommandName.ofText? (text : List Char) : Option CommandName :=
  match String.ofList text with
  | "render" => some .render
  | "parse" => some .parse
  | "pattern" => some .pattern
  | "bump" => some .bump
  | "latest" => some .latest
  | _ => none

inductive Opening
  | help
  | version
  | command (config : List Char) (verbose : Bool) (name : CommandName)
      (arguments : List (List Char))

/-- A request that was read, or a wish for help. -/
inductive Reading
  | help
  | request (r : Request)

def yes : List Char := "yes".toList

def no : List Char := "no".toList

def helpOption : OptionSpec := { key := "help", long := "--help", records := some yes }

def openingOptions : List OptionSpec :=
  [helpOption,
   { key := "version", long := "--version", records := some yes },
   { key := "config", short := some 'c', long := "--config" },
   { key := "verbose", short := some 'v', long := "--verbose", records := some yes }]

def commonOptions : List OptionSpec :=
  [helpOption,
   { key := "template", short := some 't', long := "--template" },
   { key := "recognizer", short := some 'r', long := "--recognizer" },
   { key := "local", long := "--local", records := some yes },
   { key := "local", long := "--utc", records := some no }]

def CommandName.options : CommandName → List OptionSpec
  | .render => commonOptions ++
    [{ key := "major", long := "--major" },
     { key := "minor", long := "--minor" },
     { key := "build", long := "--build" },
     { key := "timestamp", long := "--timestamp" }]
  | .parse => commonOptions ++ [{ key := "json", long := "--json", records := some yes }]
  | .pattern => commonOptions
  | .bump => commonOptions ++
    [{ key := "part", short := some 'p', long := "--part" },
     { key := "set_major", long := "--set-major" }]
  | .latest => commonOptions ++ [{ key := "next", long := "--next", records := some yes }]

def usualConfig : List Char := "buildversion.yaml".toList

def isUsualConfig (path : List Char) : Bool :=
  path.head? != some '/' &&
    match (path.splitOn '/').reverse with
    | [] => false
    | name :: folders =>
      name == usualConfig && folders.all fun folder => folder.isEmpty || folder == ['.']

/-- Reads what comes before the command, and its name. Wishes for help and for the version come
first, in the order in which they were given. -/
def readOpening? (arguments : List (List Char)) : Option Opening :=
  if arguments.isEmpty then some .help
  else do
    let parsed ← parse? openingOptions false arguments
    match parsed.given.reverse.find? fun entry => entry.1 == "help" || entry.1 == "version" with
    | some ("help", _) => return .help
    | some _ => return .version
    | none =>
      match parsed.operands with
      | [] => none
      | name :: rest =>
        let name ← CommandName.ofText? name
        return .command ((parsed.given.find? "config").getD usualConfig)
          (parsed.given.has "verbose") name rest

def readCount? (text : List Char) : Option Nat :=
  match Text.readInt text with
  | .ok i => if i < 0 then none else some i.toNat
  | .error _ => none

/-- Reads an option if it was given; `none` where its value is refused. -/
def readGiven? (given : Given) (key : String) (read : List Char → Option α) : Option (Option α) :=
  match given.find? key with
  | none => some none
  | some text => (read text).map some

def readPart? (text : List Char) : Option Part :=
  match String.ofList text with
  | "auto" => some .auto
  | "major" => some (.counter .major)
  | "minor" => some (.counter .minor)
  | "build" => some (.counter .build)
  | "timestamp" => some .timestamp
  | _ => none

def Common.ofGiven (given : Given) : Common :=
  { template := given.find? "template"
    recognizer := given.find? "recognizer"
    useLocal := (given.find? "local").map (· == yes) }

def onlyOne? : List (List Char) → Option (List Char)
  | [operand] => some operand
  | _ => none

def readRender? (parsed : Parsed) : Option Request := do
  let given := parsed.given
  let major ← readGiven? given "major" readCount?
  let minor ← readGiven? given "minor" readCount?
  let build ← readGiven? given "build" readCount?
  let typed ← readGiven? given "timestamp" readEntry?
  let stamp : Stamp := match typed with
    | none => .now
    | some w => .naive w
  if parsed.operands.isEmpty then
    return .render (.ofGiven given) (major.getD 0) (minor.getD 0) (build.getD 0) stamp
  else none

def readBump? (parsed : Parsed) : Option Request := do
  let given := parsed.given
  let candidate ← onlyOne? parsed.operands
  let part ← readGiven? given "part" readPart?
  let setMajor ← readGiven? given "set_major" readCount?
  return .bump (.ofGiven given) candidate (part.getD .auto) setMajor

def CommandName.read? (name : CommandName) (parsed : Parsed) : Option Request :=
  let common := Common.ofGiven parsed.given
  match name with
  | .render => readRender? parsed
  | .parse =>
    (onlyOne? parsed.operands).map fun candidate =>
      .parse common candidate (parsed.given.has "json")
  | .pattern => if parsed.operands.isEmpty then some (.pattern common) else none
  | .bump => readBump? parsed
  | .latest => some (.latest common parsed.operands (parsed.given.has "next"))

def readRequest? (name : CommandName) (arguments : List (List Char)) : Option Reading := do
  let parsed ← parse? name.options true arguments
  if parsed.given.has "help" then return .help
  else return .request (← name.read? parsed)

end VersionStamp.Command
