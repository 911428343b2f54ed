import VersionStamp.Pattern.Basic

/-! Matching a pattern against a whole text. The matcher goes back to every earlier choice before it
gives up, except into what is read once and for all: views ahead and behind, atomic groups and
possessive repetitions. -/

namespace VersionStamp

/-- A place in a text, with the places where groups were last entered and left. -/
structure Cursor where
  /-- The characters before the place, the nearest first. -/
  before : List Char
  rest : List Char
  index : Nat
  entered : List (Nat × Nat) := []
  left : List (Nat × Nat) := []

namespace Cursor

def atStart (text : List Char) : Cursor := { before := [], rest := text, index := 0 }

def past (cursor : Cursor) (c : Char) (rest : List Char) : Cursor :=
  { cursor with before := c :: cursor.before, rest, index := cursor.index + 1 }

def enter (cursor : Cursor) (group : Nat) : Cursor :=
  { cursor with entered := (group, cursor.index) :: cursor.entered }

def leave (cursor : Cursor) (group : Nat) : Cursor :=
  { cursor with left := (group, cursor.index) :: cursor.left }

/-- What a group has read. A group that was entered again counts once it is left. -/
def captured? (cursor : Cursor) (group : Nat) : Option (List Char) := do
  let first ← cursor.entered.lookup group
  let last ← cursor.left.lookup group
  if last < first then none
  else some (((cursor.before.reverse ++ cursor.rest).drop first).take (last - first))

def withGroupsOf (cursor other : Cursor) : Cursor :=
  { cursor with entered := other.entered, left := other.left }

def back? (cursor : Cursor) (n : Nat) : Option Cursor :=
  if n ≤ cursor.before.length then
    some { cursor with
      before := cursor.before.drop n
      rest := (cursor.before.take n).reverse ++ cursor.rest
      index := cursor.index - n }
  else none

end Cursor

namespace Anchor

def isWordEdge (ascii : Bool) (cursor : Cursor) : Bool :=
  cursor.before.head?.any (CharClass.word.has ascii) !=
    cursor.rest.head?.any (CharClass.word.has ascii)

/-- Whether the condition holds at a place. An empty text has no edges of words, and no places
inside or outside of words either. -/
def holds (a : Anchor) (cursor : Cursor) : Bool :=
  match a with
  | .start => cursor.before.isEmpty
  | .finish => cursor.rest.isEmpty
  | .lastLineEnd => cursor.rest.isEmpty || cursor.rest == ['\n']
  | .lineStart => cursor.before.isEmpty || cursor.before.head? == some '\n'
  | .lineEnd => cursor.rest.isEmpty || cursor.rest.head? == some '\n'
  | .wordEdge ascii => isWordEdge ascii cursor
  | .noWordEdge ascii =>
    !isWordEdge ascii cursor && !(cursor.before.isEmpty && cursor.rest.isEmpty)

end Anchor

/-- Equal under rules. A reference knows one lower case for each letter. -/
def CharRules.same (rules : CharRules) (a b : Char) : Bool :=
  if rules.ignoreCase then
    if rules.ascii then a.toLower == b.toLower else Text.toLower a == Text.toLower b
  else a == b

namespace Pattern

/-- Reads from a place and hands every place where it may stop to what follows, until that accepts
one and tells where the whole reading stops. -/
abbrev Reading := Cursor → (Cursor → Option Cursor) → Option Cursor

def readTimes (read : Reading) : Nat → Reading
  | 0 => fun cursor next => next cursor
  | n + 1 => fun cursor next => read cursor fun after => readTimes read n after next

/-- Reads at most `n` times, as often as possible first. A round that takes no character is the
last one. -/
def readUpTo (read : Reading) : Nat → Reading
  | 0 => fun cursor next => next cursor
  | n + 1 => fun cursor next =>
    (read cursor fun after =>
      if after.index = cursor.index then next after else readUpTo read n after next) <|>
      next cursor

/-- Reads at most `n` times, as seldom as possible first. -/
def readFew (read : Reading) : Nat → Reading
  | 0 => fun cursor next => next cursor
  | n + 1 => fun cursor next =>
    next cursor <|>
      read cursor fun after =>
        if after.index = cursor.index then next after else readFew read n after next

/-- Reads exactly `n` times, every time in the first way only. -/
def readEach (read : Reading) : Nat → Cursor → Option Cursor
  | 0, cursor => some cursor
  | n + 1, cursor => (read cursor some).bind (readEach read n)

/-- Reads as often as possible, but at most `n` times, every time in the first way only. -/
def readMost (read : Reading) : Nat → Cursor → Cursor
  | 0, cursor => cursor
  | n + 1, cursor =>
    match read cursor some with
    | none => cursor
    | some after => if after.index = cursor.index then after else readMost read n after

/-- How often a repetition may go on after its first `least` rounds when `left` characters are
left: the last round may take none. -/
def roundsLeft (least : Nat) (most : Option Nat) (left : Nat) : Nat :=
  match most with
  | none => left + 1
  | some most => min (most - least) (left + 1)

def readRepeated (read : Reading) (least : Nat) (most : Option Nat) (manner : Manner) : Reading :=
  fun cursor next =>
    let rounds := fun after : Cursor => roundsLeft least most after.rest.length
    match manner with
    | .greedy => readTimes read least cursor fun after => readUpTo read (rounds after) after next
    | .lazy => readTimes read least cursor fun after => readFew read (rounds after) after next
    | .possessive =>
      (readEach read least cursor).bind fun after => next (readMost read (rounds after) after)

def readText (rules : CharRules) : List Char → Reading
  | [] => fun cursor next => next cursor
  | x :: text => fun cursor next =>
    match cursor.rest with
    | [] => none
    | c :: rest =>
      if rules.same x c then readText rules text (cursor.past c rest) next else none

/-- Goes on from a place just where something was found or missed, as it was wanted. Groups that
were read on the way count. -/
def goOn (wanted : Bool) (cursor : Cursor) (found : Option Cursor)
    (next : Cursor → Option Cursor) : Option Cursor :=
  match wanted, found with
  | true, some after => next (cursor.withGroupsOf after)
  | false, none => next cursor
  | _, _ => none

def read : Pattern → Reading
  | .empty => fun cursor next => next cursor
  | .set s => fun cursor next =>
    match cursor.rest with
    | [] => none
    | c :: rest => if s.has c then next (cursor.past c rest) else none
  | .anchor a => fun cursor next => if a.holds cursor then next cursor else none
  | .look wanted p => fun cursor next => goOn wanted cursor (p.read cursor some) next
  | .lookBack wanted p => fun cursor next =>
    goOn wanted cursor ((cursor.back? p.width.least).bind fun earlier => p.read earlier some) next
  | .seq p q => fun cursor next => p.read cursor fun after => q.read after next
  | .alt p q => fun cursor next => p.read cursor next <|> q.read cursor next
  | .capture group p => fun cursor next =>
    p.read (cursor.enter group) fun after => next (after.leave group)
  | .reference r => fun cursor next =>
    (cursor.captured? r.group).bind fun text => readText r.rules text cursor next
  | .condition group yes no => fun cursor next =>
    if (cursor.captured? group).isSome then yes.read cursor next else no.read cursor next
  | .atomic p => fun cursor next => (p.read cursor some).bind next
  | .repeated p least most manner => readRepeated p.read least most manner

def matchesAll (p : Pattern) (text : List Char) : Bool :=
  (p.read (.atStart text) fun cursor => if cursor.rest.isEmpty then some cursor else none).isSome

end Pattern

end VersionStamp
