/-! Options on a command line. An option has names of one letter or of several; it takes a value or
it records a fixed word. Of an option that is given twice the later counts. -/

namespace VersionStamp.Command

structure OptionSpec where
  /-- The word under which the option is recorded. -/
  key : String
  /-- The letter of the short name. -/
  short : Option Char := none
  /-- The long name, with its dashes. -/
  long : String
  /-- What a flag records; an option without it takes a value. -/
  records : Option (List Char) := none
  deriving DecidableEq, Repr

/-- Options as they were given, the last first. -/
abbrev Given := List (String × List Char)

def Given.find? (given : Given) (key : String) : Option (List Char) :=
  (given.lookup key)

def Given.has (given : Given) (key : String) : Bool := (given.find? key).isSome

structure Parsed where
  given : Given
  /-- What is no option. -/
  operands : List (List Char)

def splitAssignment (argument : List Char) : List Char × Option (List Char) :=
  match argument.dropWhile (· != '=') with
  | [] => (argument, none)
  | _ :: value => (argument.takeWhile (· != '='), some value)

def takeLong? (spec : OptionSpec) (attached : Option (List Char)) (rest : List (List Char)) :
    Option ((String × List Char) × List (List Char)) :=
  match spec.records, attached, rest with
  | some word, none, _ => some ((spec.key, word), rest)
  | some _, some _, _ => none
  | none, some value, _ => some ((spec.key, value), rest)
  | none, none, value :: rest => some ((spec.key, value), rest)
  | none, none, [] => none

/-- Records the options of a group of letters. A value is the rest of the group or the next
argument. -/
def takeLetters? (specs : List OptionSpec) :
    List Char → List (List Char) → Given → Option (Given × List (List Char))
  | [], rest, given => some (given, rest)
  | c :: letters, rest, given =>
    match specs.find? fun spec => spec.short == some c with
    | none => none
    | some spec =>
      match spec.records with
      | some word => takeLetters? specs letters rest ((spec.key, word) :: given)
      | none =>
        match letters, rest with
        | [], [] => none
        | [], value :: rest => some ((spec.key, value) :: given, rest)
        | value, rest => some ((spec.key, value) :: given, rest)

def takeOption? (specs : List OptionSpec) (argument : List Char) (rest : List (List Char))
    (given : Given) : Option (Given × List (List Char)) :=
  let (name, attached) := splitAssignment argument
  match specs.find? fun spec => spec.long.toList == name with
  | some spec => (takeLong? spec attached rest).map fun (entry, rest) => (entry :: given, rest)
  | none =>
    if argument.take 2 == ['-', '-'] then none
    else takeLetters? specs (argument.drop 1) rest given

def isOption (argument : List Char) : Bool := argument.head? == some '-' && 1 < argument.length

/-- Goes through the arguments. Two dashes end the options; unless options may come `anywhere`, so
does the first argument that is none. -/
def parseFrom (specs : List OptionSpec) (anywhere : Bool) :
    Nat → List (List Char) → Given → List (List Char) → Option Parsed
  | 0, _, _, _ => none
  | _ + 1, [], given, operands => some ⟨given, operands.reverse⟩
  | fuel + 1, argument :: rest, given, operands =>
    if argument == ['-', '-'] then some ⟨given, operands.reverse ++ rest⟩
    else if isOption argument then
      (takeOption? specs argument rest given).bind fun (given, rest) =>
        parseFrom specs anywhere fuel rest given operands
    else if anywhere then parseFrom specs anywhere fuel rest given (argument :: operands)
    else some ⟨given, operands.reverse ++ argument :: rest⟩

/-- Splits arguments into options and operands; `none` where they break the rules. -/
def parse? (specs : List OptionSpec) (anywhere : Bool) (arguments : List (List Char)) :
    Option Parsed :=
  parseFrom specs anywhere (arguments.length + 1) arguments [] []

end VersionStamp.Command
