import VersionStamp.Text.Blank
import VersionStamp.Text.Case
import VersionStamp.Text.Digit
import VersionStamp.Text.Word

/-! Patterns: the form in which recognizers of version strings are kept. A pattern reads a text from
left to right; sets of characters take one character each, anchors and views of what lies ahead or
behind take none. Groups keep what they read, for references and conditions later on. -/

namespace VersionStamp

structure CharRules where
  /-- Letters are equal up to case. -/
  ignoreCase : Bool := false
  /-- Only ASCII has classes and letter case. -/
  ascii : Bool := false
  deriving DecidableEq, Repr

def CharRules.forms (rules : CharRules) (c : Char) : List Char :=
  if rules.ascii then [c, c.toLower, c.toUpper] else Text.letterForms c

/-- The classes with an escape of their own: `\d`, `\w` and `\s`. -/
inductive CharClass
  | digit
  | word
  | blank
  deriving DecidableEq, Repr

def CharClass.has (ascii : Bool) : CharClass → Char → Bool
  | .digit, c => if ascii then c.isDigit else Text.isDigit c
  | .word, c => if ascii then c.isAlphanum || c == '_' else Text.isWord c
  | .blank, c => if ascii then c == ' ' || 0x09 ≤ c.toNat && c.toNat ≤ 0x0D else Text.isBlank c

inductive CharItem
  | char (c : Char)
  | range (first last : Nat)
  | inClass (k : CharClass)
  | notInClass (k : CharClass)
  deriving DecidableEq, Repr

namespace CharItem

/-- A code point; one half of a surrogate pair is no character of any text. -/
def ofCode (code : Nat) : CharItem :=
  if code.isValidChar then .char (Char.ofNat code) else .range code code

def code? : CharItem → Option Nat
  | .char c => some c.toNat
  | .range first last => if first = last then some first else none
  | _ => none

def has (ascii : Bool) : CharItem → Char → Bool
  | .char x, c => c == x
  | .range first last, c => first ≤ c.toNat && c.toNat ≤ last
  | .inClass k, c => k.has ascii c
  | .notInClass k, c => !k.has ascii c

/-- Membership under rules. Classes hold no matter what the case is. -/
def admits (rules : CharRules) (item : CharItem) (c : Char) : Bool :=
  match item with
  | .inClass _ | .notInClass _ => item.has rules.ascii c
  | _ =>
    if rules.ignoreCase then (rules.forms c).any (item.has rules.ascii)
    else item.has rules.ascii c

end CharItem

structure CharSet where
  items : List CharItem
  negated : Bool := false
  rules : CharRules := {}
  deriving DecidableEq, Repr

namespace CharSet

def has (s : CharSet) (c : Char) : Bool := s.items.any (·.admits s.rules c) != s.negated

def single (c : Char) : CharSet := { items := [.char c] }

def digits : CharSet := { items := [.inClass .digit] }

def inLine : CharSet := { items := [.char '\n'], negated := true }

def all : CharSet := { items := [], negated := true }

theorem has_single {x c : Char} : (single x).has c = (c == x) := by
  simp [has, single, CharItem.admits, CharItem.has]

theorem has_digits {c : Char} : digits.has c = Text.isDigit c := by
  simp [has, digits, CharItem.admits, CharItem.has, CharClass.has]

end CharSet

inductive Anchor
  | start
  | finish
  /-- The end of the text, or the place before a last line break. -/
  | lastLineEnd
  | lineStart
  | lineEnd
  /-- Between a character of a word and one that is none. -/
  | wordEdge (ascii : Bool)
  | noWordEdge (ascii : Bool)
  deriving DecidableEq, Repr

structure Width where
  least : Nat
  /-- There is no bound where this is left out. -/
  most : Option Nat
  deriving DecidableEq, Repr

namespace Width

def exactly (n : Nat) : Width := ⟨n, some n⟩

def add (a b : Width) : Width :=
  ⟨a.least + b.least, do return (← a.most) + (← b.most)⟩

def either (a b : Width) : Width :=
  ⟨min a.least b.least, do return max (← a.most) (← b.most)⟩

/-- The width of so many rounds; no rounds of anything have no width. -/
def rounds (a : Width) (least : Nat) (most : Option Nat) : Width :=
  ⟨a.least * least,
    match a.most, most with
    | some 0, _ => some 0
    | _, some 0 => some 0
    | some width, some most => some (width * most)
    | _, _ => none⟩

end Width

/-- The order in which numbers of rounds are tried. -/
inductive Manner
  | greedy
  | lazy
  /-- As many rounds as there are, and never fewer. -/
  | possessive
  deriving DecidableEq, Repr

def Manner.name : Manner → String
  | .greedy => "MAX_REPEAT"
  | .lazy => "MIN_REPEAT"
  | .possessive => "POSSESSIVE_REPEAT"

/-- A reference to what a group has read. -/
structure Reference where
  group : Nat
  width : Width
  rules : CharRules
  deriving DecidableEq, Repr

/-- A pattern for texts. -/
inductive Pattern
  | empty
  | set (s : CharSet)
  | anchor (a : Anchor)
  /-- What lies ahead matches, or does not. -/
  | look (wanted : Bool) (p : Pattern)
  /-- What lies just behind matches, or does not. -/
  | lookBack (wanted : Bool) (p : Pattern)
  | seq (p q : Pattern)
  | alt (p q : Pattern)
  | capture (group : Nat) (p : Pattern)
  | reference (r : Reference)
  /-- One pattern where a group has read something, and another where it has not. -/
  | condition (group : Nat) (yes no : Pattern)
  /-- Only the first way of reading counts. -/
  | atomic (p : Pattern)
  | repeated (p : Pattern) (least : Nat) (most : Option Nat) (manner : Manner)
  deriving DecidableEq, Repr

namespace Pattern

def char (c : Char) : Pattern := .set (.single c)

def number : Pattern := .repeated (.set .digits) 1 none .greedy

def ofList (items : List Pattern) : Pattern := items.foldr .seq .empty

/-- The alternatives in order; a single one stands for itself. -/
def ofBranches (first : Pattern) : List Pattern → Pattern
  | [] => first
  | second :: others => .alt first (ofBranches second others)

/-- The same repetition in another manner. -/
def inManner (manner : Manner) : Pattern → Pattern
  | .repeated p least most _ => .repeated p least most manner
  | p => p

def width : Pattern → Width
  | .empty | .anchor _ | .look _ _ | .lookBack _ _ => .exactly 0
  | .set _ => .exactly 1
  | .seq p q => p.width.add q.width
  | .alt p q | .condition _ p q => p.width.either q.width
  | .capture _ p | .atomic p => p.width
  | .reference r => r.width
  | .repeated p least most _ => p.width.rounds least most

end Pattern

end VersionStamp
