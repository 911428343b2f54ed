import VersionStamp.Pattern.Fault

/-! The state of the reader of patterns: the groups that are open, with their parts and flags, and
what the next token of the text goes on with. -/

namespace VersionStamp.Pattern

structure Token where
  char : Char
  escaped : Bool
  position : Nat
  deriving DecidableEq, Repr

namespace Token

def text (t : Token) : List Char := if t.escaped then ['\\', t.char] else [t.char]

def finish (t : Token) : Nat := t.position + t.text.length

def is (t : Token) (c : Char) : Bool := !t.escaped && t.char == c

def isPlain (t : Token) (p : Char → Bool) : Bool := !t.escaped && p t.char

end Token

/-- The tokens of a pattern text, and whether a backslash is left over at its end. -/
def tokensFrom : List Char → Nat → List Token × Bool
  | [], _ => ([], false)
  | ['\\'], _ => ([], true)
  | '\\' :: c :: rest, i =>
    let (tokens, dangling) := tokensFrom rest (i + 2)
    (⟨c, true, i⟩ :: tokens, dangling)
  | c :: rest, i =>
    let (tokens, dangling) := tokensFrom rest (i + 1)
    (⟨c, false, i⟩ :: tokens, dangling)

/-- What a part of a pattern may be told about its meaning. -/
inductive Flag
  | ignoreCase
  | multiline
  | dotAll
  | verbose
  | ascii
  | unicode
  | locale
  | template
  deriving DecidableEq, Repr

namespace Flag

def ofLetter? : Char → Option Flag
  | 'i' => some .ignoreCase
  | 'm' => some .multiline
  | 's' => some .dotAll
  | 'x' => some .verbose
  | 'a' => some .ascii
  | 'u' => some .unicode
  | 'L' => some .locale
  | 't' => some .template
  | _ => none

def isAlphabet : Flag → Bool
  | .ascii | .unicode | .locale => true
  | _ => false

end Flag

def turnFlags (flags on off : List Flag) : List Flag :=
  let kept := if on.any (·.isAlphabet) then flags.filter (!·.isAlphabet) else flags
  (on ++ kept).filter fun flag => !off.contains flag

inductive Repeatable
  | yes
  /-- An anchor, which cannot be repeated. -/
  | anchored
  /-- A repetition, which cannot be repeated again. -/
  | alreadyRepeated
  deriving DecidableEq, Repr

structure Part where
  pattern : Pattern
  repeatable : Repeatable := .yes
  deriving DecidableEq, Repr

/-- What the parts between a pair of parentheses are for. -/
inductive GroupPurpose
  | plain
  | capture (group : Nat)
  | look (wanted : Bool)
  | lookBack (wanted : Bool)
  | atomic
  | condition (group : Nat)
  deriving DecidableEq, Repr

/-- A group that is being read: where it was opened, its finished alternatives and the parts of the
open one, both with the last first. -/
structure Group where
  opened : Nat
  purpose : GroupPurpose
  branches : List Pattern := []
  parts : List Part := []
  flags : List Flag := []
  /-- In a view of what lies behind, the number of the first group that belongs to it. -/
  lookbehind : Option Nat := none
  deriving DecidableEq, Repr

namespace Group

def add (g : Group) (part : Part) : Group := { g with parts := part :: g.parts }

def branch (g : Group) : Pattern := .ofList (g.parts.reverse.map (·.pattern))

def nextBranch (g : Group) : Group := { g with branches := g.branch :: g.branches, parts := [] }

def body (g : Group) : Pattern :=
  match (g.branch :: g.branches).reverse with
  | [] => .empty
  | first :: others => .ofBranches first others

def toPattern (g : Group) : Pattern :=
  match g.purpose with
  | .plain => g.body
  | .capture group => .capture group g.body
  | .look wanted => .look wanted g.body
  | .lookBack wanted => .lookBack wanted g.body
  | .atomic => .atomic g.body
  | .condition group =>
    match g.branches with
    | [] => .condition group g.branch .empty
    | first :: _ => .condition group first g.branch

def rules (g : Group) : CharRules := ⟨g.flags.contains .ignoreCase, g.flags.contains .ascii⟩

def isUntouched (g : Group) : Bool := g.branches.isEmpty && g.parts.isEmpty

end Group

inductive SetPlace
  /-- Right after the opening bracket. -/
  | opening
  | item
  /-- After an item that may turn out to begin a range. -/
  | after (item : CharItem) (written : List Char)
  /-- After an item and a hyphen. -/
  | hyphen (item : CharItem) (written : List Char)
  deriving DecidableEq, Repr

structure OpenSet where
  opened : Nat
  negated : Bool
  items : List CharItem
  place : SetPlace
  deriving DecidableEq, Repr

/-- The text of a repetition count that is being read, digits last first. -/
structure OpenCount where
  opened : Nat
  least : List Char
  most : Option (List Char)
  deriving DecidableEq, Repr

inductive EscapeKind
  /-- So many hexadecimal digits. -/
  | hex (digits : Nat)
  /-- Up to three octal digits. -/
  | octal
  /-- A group by its number, unless there are three octal digits. -/
  | reference
  /-- A character by its name. -/
  | name
  deriving DecidableEq, Repr

structure OpenEscape where
  opened : Nat
  kind : EscapeKind
  /-- What was read after the backslash. -/
  written : List Char
  set? : Option OpenSet
  deriving DecidableEq, Repr

inductive NameUse
  | group
  | reference
  | condition
  | character
  deriving DecidableEq, Repr

namespace NameUse

def terminator : NameUse → Char
  | .group => '>'
  | .reference | .condition => ')'
  | .character => '\x7d'

def what : NameUse → String
  | .character => "character name"
  | _ => "group name"

end NameUse

/-- What the next token continues. -/
inductive Mode
  | sequence
  /-- Right after a repetition, where a sign may change its manner. -/
  | afterRepeat
  | count (c : OpenCount)
  | set (s : OpenSet)
  | escape (e : OpenEscape)
  /-- After an opening parenthesis. -/
  | group (opened : Nat)
  /-- After a parenthesis and a question mark. -/
  | extension (opened : Nat)
  | namedExtension (opened : Nat)
  | behindExtension (opened : Nat)
  | name (opened : Nat) (use : NameUse) (text : List Char)
  | flagsOn (opened : Nat) (on : List Flag)
  | flagsOff (opened : Nat) (on off : List Flag)
  | comment (opened : Nat)
  /-- A comment up to the end of the line. -/
  | lineComment
  deriving DecidableEq, Repr

/-- The group that is open, those around it, and what the next token belongs to. -/
structure ReaderState where
  mode : Mode
  current : Group
  outer : List Group
  /-- How many groups were opened that keep what they read. -/
  groups : Nat := 0
  names : List (List Char × Nat) := []
  /-- The groups that were closed. -/
  widths : List (Nat × Width) := []
  /-- The groups that conditions ask for by number, with the places. -/
  asked : List (Nat × Nat) := []
  deriving DecidableEq, Repr

namespace ReaderState

def start : ReaderState := { mode := .sequence, current := { opened := 0, purpose := .plain }, outer := [] }

def add (s : ReaderState) (part : Part) : ReaderState :=
  { s with mode := .sequence, current := s.current.add part }

def addItem (s : ReaderState) (item : CharItem) : ReaderState :=
  s.add { pattern := .set { items := [item], rules := s.current.rules } }

def openGroup (s : ReaderState) (opened : Nat) (purpose : GroupPurpose) : ReaderState :=
  { s with
    mode := .sequence
    current := { opened, purpose, flags := s.current.flags, lookbehind := s.current.lookbehind }
    outer := s.current :: s.outer }

def openCapture (s : ReaderState) (opened : Nat) : ReaderState :=
  { s.openGroup opened (.capture (s.groups + 1)) with groups := s.groups + 1 }

/-- Opens a view of what lies behind. Groups opened from here on belong to the outermost one. -/
def openLookBack (s : ReaderState) (opened : Nat) (wanted : Bool) : ReaderState :=
  let inner := s.openGroup opened (.lookBack wanted)
  { inner with current.lookbehind := s.current.lookbehind.or (some (s.groups + 1)) }

def openFlagged (s : ReaderState) (opened : Nat) (on off : List Flag) : ReaderState :=
  let inner := s.openGroup opened .plain
  { inner with current.flags := turnFlags s.current.flags on off }

def closeGroup (s : ReaderState) : ReaderState :=
  match s.outer with
  | [] => s
  | g :: outer =>
    let closed := { s with
      mode := .sequence
      current := g.add { pattern := s.current.toPattern }
      outer }
    match s.current.purpose with
    | .capture group => { closed with widths := (group, s.current.body.width) :: s.widths }
    | _ => closed

def repeatLast (s : ReaderState) (position least : Nat) (most : Option Nat) :
    Except ReadError ReaderState :=
  match s.current.parts with
  | [] => .error (.placed .nothingToRepeat position)
  | part :: parts =>
    match part.repeatable with
    | .anchored => .error (.placed .nothingToRepeat position)
    | .alreadyRepeated => .error (.placed .multipleRepeat position)
    | .yes =>
      let part : Part := ⟨.repeated part.pattern least most .greedy, .alreadyRepeated⟩
      .ok { s with mode := .afterRepeat, current := { s.current with parts := part :: parts } }

def turnRepeat (s : ReaderState) (manner : Manner) : ReaderState :=
  let parts := match s.current.parts with
    | [] => []
    | part :: parts => { part with pattern := part.pattern.inManner manner } :: parts
  { s with mode := .sequence, current := { s.current with parts } }

/-- Within a view of what lies behind, only groups that were closed before it can be asked for. -/
def checkLookbehind (s : ReaderState) (group tell : Nat) : Except ReadError Unit :=
  match s.current.lookbehind with
  | none => .ok ()
  | some first =>
    if (s.widths.lookup group).isNone then .error (.placed .openReference tell)
    else if first ≤ group then .error (.placed .lookbehindReference tell)
    else .ok ()

/-- Refers to a group. The place of the fault where the group is still open is `position`. -/
def addReference (s : ReaderState) (group position tell : Nat) :
    Except ReadError ReaderState :=
  match s.widths.lookup group with
  | none => .error (.placed .openReference position)
  | some width => do
    s.checkLookbehind group tell
    return s.add { pattern := .reference ⟨group, width, s.current.rules⟩ }

end ReaderState

end VersionStamp.Pattern
