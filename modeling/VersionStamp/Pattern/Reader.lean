import VersionStamp.Pattern.ReaderState
import VersionStamp.Text.Name

/-! Reading patterns from text. A backslash and the character after it are one token; the reader
goes over the tokens once and keeps the groups that are open. Every fault is reported with the
place that a writer of patterns expects: where the group, set, name or repetition began. -/

namespace VersionStamp.Pattern

/-- The control characters that have a letter as escape. -/
def controlEscape? : Char → Option Char
  | 'a' => some '\x07'
  | 'f' => some '\x0c'
  | 'n' => some '\n'
  | 'r' => some '\r'
  | 't' => some '\t'
  | 'v' => some '\x0b'
  | _ => none

def classEscape? : Char → Option CharItem
  | 'd' => some (.inClass .digit)
  | 'D' => some (.notInClass .digit)
  | 's' => some (.inClass .blank)
  | 'S' => some (.notInClass .blank)
  | 'w' => some (.inClass .word)
  | 'W' => some (.notInClass .word)
  | _ => none

def anchorEscape? (ascii : Bool) : Char → Option Anchor
  | 'A' => some .start
  | 'Z' => some .finish
  | 'b' => some (.wordEdge ascii)
  | 'B' => some (.noWordEdge ascii)
  | _ => none

/-- The escapes that go on after their first character. In a set no groups are referred to. -/
def longEscape? (inSet : Bool) (c : Char) : Option EscapeKind :=
  match c with
  | 'x' => some (.hex 2)
  | 'u' => some (.hex 4)
  | 'U' => some (.hex 8)
  | 'N' => some .name
  | '0' => some .octal
  | _ =>
    if !inSet then if c.isDigit then some .reference else none
    else if c.isDigit && c.toNat < 0x38 then some .octal else none

def literalEscape (t : Token) : Except ReadError Char :=
  match controlEscape? t.char with
  | some c => .ok c
  | none => if t.char.isAlphanum then .error (.placed (.badEscape t.text) t.position) else .ok t.char

def readEscape (s : ReaderState) (t : Token) : Except ReadError ReaderState :=
  match anchorEscape? s.current.rules.ascii t.char, classEscape? t.char,
    longEscape? false t.char with
  | some a, _, _ => .ok (s.add ⟨.anchor a, .anchored⟩)
  | _, some item, _ => .ok (s.addItem item)
  | _, _, some kind => .ok { s with mode := .escape ⟨t.position, kind, [t.char], none⟩ }
  | _, _, none => do
    return s.addItem (.char (← literalEscape t))

/-- White space that stands for nothing in verbose patterns. -/
def isLayout (c : Char) : Bool := CharClass.blank.has true c

def readSequence (s : ReaderState) (t : Token) : Except ReadError ReaderState :=
  let s := { s with mode := .sequence }
  let flags := s.current.flags
  if flags.contains .verbose && t.isPlain isLayout then .ok s
  else if flags.contains .verbose && t.is '#' then .ok { s with mode := .lineComment }
  else if t.escaped then readEscape s t
  else
    match t.char with
    | '|' => .ok { s with current := s.current.nextBranch }
    | '(' => .ok { s with mode := .group t.position }
    | ')' => .ok s.closeGroup
    | '[' => .ok { s with mode := .set ⟨t.position, false, [], .opening⟩ }
    | '.' =>
      .ok (s.add { pattern := .set (if flags.contains .dotAll then .all else .inLine) })
    | '^' => .ok (s.add ⟨.anchor (if flags.contains .multiline then .lineStart else .start), .anchored⟩)
    | '$' => .ok (s.add ⟨.anchor (if flags.contains .multiline then .lineEnd else .lastLineEnd), .anchored⟩)
    | '*' => s.repeatLast t.position 0 none
    | '+' => s.repeatLast t.position 1 none
    | '?' => s.repeatLast t.position 0 (some 1)
    | '\x7b' => .ok { s with mode := .count ⟨t.position, [], none⟩ }
    | c => .ok (s.addItem (.char c))

def OpenCount.takes (c : OpenCount) (t : Token) : Bool :=
  t.is '\x7d' && !(c.least.isEmpty && c.most.isNone) || t.is ',' && c.most.isNone ||
    t.isPlain Char.isDigit

/-- The characters of a count that turned out to be none, as literal text. -/
def abandonCount (s : ReaderState) (c : OpenCount) : ReaderState :=
  let written := c.least.reverse ++
    match c.most with
    | none => []
    | some most => ',' :: most.reverse
  ('\x7b' :: written).foldl (fun s c => s.addItem (.char c)) s

def repeatLimit : Nat := 4294967295

def readBound (digits : List Char) : Except Fault (Option Nat) :=
  if digits.isEmpty then .ok none
  else
    match Text.readDigits digits.reverse with
    | .error cause => .error (.unreadableCount cause)
    | .ok n => if repeatLimit ≤ n then .error .repeatTooLarge else .ok (some n)

def finishCount (s : ReaderState) (c : OpenCount) : Except ReadError ReaderState := do
  let least ← (readBound c.least).mapError (⟨·, none⟩)
  let most ← (readBound (c.most.getD c.least)).mapError (⟨·, none⟩)
  if most.any (· < least.getD 0) then throw (.placed .repeatOrder (c.opened + 1))
  s.repeatLast c.opened (least.getD 0) most

def readCount (s : ReaderState) (c : OpenCount) (t : Token) : Except ReadError ReaderState :=
  if t.is '\x7d' then finishCount s c
  else if t.is ',' then .ok { s with mode := .count { c with most := some [] } }
  else
    match c.most with
    | none => .ok { s with mode := .count { c with least := t.char :: c.least } }
    | some most => .ok { s with mode := .count { c with most := some (t.char :: most) } }

def closeSet (s : ReaderState) (o : OpenSet) (items : List CharItem) : ReaderState :=
  s.add { pattern := .set { items := items.reverse, negated := o.negated, rules := s.current.rules } }

/-- Puts an item into a set, or ends a range with it. The place after the item is `tell`. -/
def addSetItem (s : ReaderState) (o : OpenSet) (item : CharItem) (written : List Char)
    (tell : Nat) : Except ReadError ReaderState :=
  match o.place with
  | .hyphen first firstWritten =>
    let fault : ReadError :=
      .placed (.badRange firstWritten written) (tell - written.length - 1 - firstWritten.length)
    match first.code?, item.code? with
    | some a, some b =>
      if a ≤ b then
        .ok { s with mode := .set { o with items := .range a b :: o.items, place := .item } }
      else .error fault
    | _, _ => .error fault
  | _ => .ok { s with mode := .set { o with place := .after item written } }

def readSetItem (s : ReaderState) (o : OpenSet) (t : Token) : Except ReadError ReaderState :=
  if t.escaped then
    match classEscape? t.char, longEscape? true t.char with
    | some item, _ => addSetItem s o item t.text t.finish
    | none, some kind => .ok { s with mode := .escape ⟨t.position, kind, [t.char], some o⟩ }
    | none, none => do
      let c ← if t.char = 'b' then pure '\x08' else literalEscape t
      addSetItem s o (.char c) t.text t.finish
  else addSetItem s o (.char t.char) t.text t.finish

def readSet (s : ReaderState) (o : OpenSet) (t : Token) : Except ReadError ReaderState :=
  match o.place with
  | .hyphen first _ =>
    if t.is ']' then .ok (closeSet s o (.char '-' :: first :: o.items)) else readSetItem s o t
  | .after item written =>
    let items := item :: o.items
    if t.is '-' then .ok { s with mode := .set { o with place := .hyphen item written } }
    else if t.is ']' then .ok (closeSet s o items)
    else readSetItem s { o with items, place := .item } t
  | .opening =>
    if t.is '^' then .ok { s with mode := .set { o with negated := true, place := .item } }
    else readSetItem s { o with place := .item } t
  | .item =>
    if t.is ']' && !o.items.isEmpty then .ok (closeSet s o o.items) else readSetItem s o t

def isOctalDigit (c : Char) : Bool := c.isDigit && c.toNat < 0x38

def isHexDigit (c : Char) : Bool :=
  c.isDigit || 'a' ≤ c && c ≤ 'f' || 'A' ≤ c && c ≤ 'F'

def hexValue (c : Char) : Nat :=
  if c.isDigit then c.toNat - 0x30 else c.toLower.toNat - 0x61 + 10

def numberIn (base : Nat) (digits : List Char) : Nat :=
  digits.foldl (fun n c => n * base + hexValue c) 0

namespace OpenEscape

def takes (e : OpenEscape) (t : Token) : Bool :=
  match e.kind with
  | .hex digits => e.written.length ≤ digits && t.isPlain isHexDigit
  | .octal => e.written.length < 3 && t.isPlain isOctalDigit
  | .reference =>
    match e.written with
    | [_] => t.isPlain Char.isDigit
    | [a, b] => isOctalDigit a && isOctalDigit b && t.isPlain isOctalDigit
    | _ => false
  | .name => t.is '\x7b'

def text (e : OpenEscape) : List Char := '\\' :: e.written

end OpenEscape

/-- A code point that an escape stands for, at the place it was written for. -/
def addCode (s : ReaderState) (e : OpenEscape) (code tell : Nat) :
    Except ReadError ReaderState :=
  match e.set? with
  | none => .ok (s.addItem (.ofCode code))
  | some o => addSetItem s o (.ofCode code) ('\\' :: e.written.take 1) tell

def octalLimit : Nat := 255

def codeLimit : Nat := 0x10FFFF

def machineLimit : Nat := 0x7FFFFFFF

def finishEscape (s : ReaderState) (e : OpenEscape) (tell : Nat) : Except ReadError ReaderState :=
  let octal : Except ReadError ReaderState :=
    let code := numberIn 8 e.written
    if octalLimit < code then .error (.placed (.octalTooLarge e.text) e.opened)
    else addCode s e code tell
  match e.kind with
  | .hex digits =>
    let code := numberIn 16 (e.written.drop 1)
    if e.written.length ≤ digits then .error (.placed (.incompleteEscape e.text) e.opened)
    else if machineLimit < code then .error ⟨.codeTooLarge, none⟩
    else if codeLimit < code then .error (.placed (.badEscape e.text) e.opened)
    else addCode s e code tell
  | .octal => octal
  | .reference =>
    if 3 ≤ e.written.length then octal
    else
      let group := numberIn 10 e.written
      if group ≤ s.groups then s.addReference group e.opened tell
      else .error (.placed (.invalidReference group) (e.opened + 1))
  | .name => .error (.placed (.missing "\x7b") tell)

def readEscaped (s : ReaderState) (e : OpenEscape) (t : Token) : ReaderState :=
  match e.kind with
  | .name => { s with mode := .name e.opened .character [] }
  | _ => { s with mode := .escape { e with written := e.written ++ [t.char] } }

def readExtension (s : ReaderState) (opened : Nat) (t : Token) : Except ReadError ReaderState :=
  if t.is ':' then .ok (s.openGroup opened .plain)
  else if t.is '=' then .ok (s.openGroup opened (.look true))
  else if t.is '!' then .ok (s.openGroup opened (.look false))
  else if t.is '>' then .ok (s.openGroup opened .atomic)
  else if t.is 'P' then .ok { s with mode := .namedExtension opened }
  else if t.is '<' then .ok { s with mode := .behindExtension opened }
  else if t.is '(' then .ok { s with mode := .name opened .condition [] }
  else if t.is '#' then .ok { s with mode := .comment opened }
  else .error (.placed (.unknownExtension t.text) (opened + 1))

def readNamedExtension (s : ReaderState) (opened : Nat) (t : Token) :
    Except ReadError ReaderState :=
  if t.is '<' then .ok { s with mode := .name opened .group [] }
  else if t.is '=' then .ok { s with mode := .name opened .reference [] }
  else .error (.placed (.unknownExtension ('P' :: t.text)) (opened + 1))

def readBehindExtension (s : ReaderState) (opened : Nat) (t : Token) :
    Except ReadError ReaderState :=
  if t.is '=' then .ok (s.openLookBack opened true)
  else if t.is '!' then .ok (s.openLookBack opened false)
  else .error (.placed (.unknownExtension ('<' :: t.text)) (opened + 1))

def turnOn (s : ReaderState) (opened : Nat) (on : List Flag) (flag : Flag) (tell : Nat) :
    Except ReadError ReaderState :=
  if flag = .locale then .error (.placed .localeFlag tell)
  else if flag.isAlphabet && on.any fun other => other.isAlphabet && other != flag then
    .error (.placed .alphabetFlags tell)
  else .ok { s with mode := .flagsOn opened (flag :: on) }

def flagFault (t : Token) (what : String) : ReadError :=
  .placed (if t.isPlain Text.isLetter then .unknownFlag else .missing what) t.position

/-- Flags for the whole pattern, which come before everything else. -/
def turnGlobally (s : ReaderState) (opened : Nat) (on : List Flag) :
    Except ReadError ReaderState :=
  if s.outer.isEmpty && s.current.isUntouched then
    .ok { s with mode := .sequence, current := { s.current with flags := on ++ s.current.flags } }
  else .error (.placed .flagsNotAtStart opened)

def readFlagsOn (s : ReaderState) (opened : Nat) (on : List Flag) (t : Token) :
    Except ReadError ReaderState :=
  if t.is ')' then turnGlobally s opened on
  else if t.is ':' || t.is '-' then
    if on.contains .template then .error (.placed (.globalFlag "on") t.position)
    else if t.is ':' then .ok (s.openFlagged opened on [])
    else .ok { s with mode := .flagsOff opened on [] }
  else
    match t.escaped, Flag.ofLetter? t.char with
    | false, some flag => turnOn s opened on flag t.finish
    | _, _ => .error (flagFault t "-, : or )")

def readFlagsOff (s : ReaderState) (opened : Nat) (on off : List Flag) (t : Token) :
    Except ReadError ReaderState :=
  if t.is ':' && !off.isEmpty then
    if off.contains .template then .error (.placed (.globalFlag "off") t.position)
    else if on.any off.contains then .error (.placed .contraryFlags t.position)
    else .ok (s.openFlagged opened on off)
  else
    match t.escaped, Flag.ofLetter? t.char with
    | false, some flag =>
      if flag.isAlphabet then .error (.placed .lastingFlag t.finish)
      else .ok { s with mode := .flagsOff opened on (flag :: off) }
    | _, _ => .error (flagFault t (if off.isEmpty then "flag" else ":"))

def groupLimit : Nat := 1073741823

def openCondition (s : ReaderState) (opened : Nat) (name : List Char) (position : Nat) :
    Except ReadError ReaderState := do
  let tell := position + name.length + 1
  if Text.isName name then
    match s.names.lookup name with
    | none => throw (.placed (.unknownGroupName name) position)
    | some group =>
      s.checkLookbehind group tell
      return s.openGroup opened (.condition group)
  match Text.readInt name with
  | .ok (.ofNat group) =>
    if group = 0 then throw (.placed .badGroupNumber position)
    else if groupLimit ≤ group then throw (.placed (.invalidReference group) position)
    else
      s.checkLookbehind group tell
      let asked := if (s.asked.lookup group).isSome then s.asked else s.asked ++ [(group, position)]
      return { s.openGroup opened (.condition group) with asked }
  | _ => throw (.placed (.badGroupName name) position)

def isCharacterNamePart (c : Char) : Bool := c.isAlphanum || c == ' ' || c == '-'

def finishName (s : ReaderState) (opened : Nat) (use : NameUse) (name : List Char)
    (position : Nat) : Except ReadError ReaderState :=
  match use with
  | .character =>
    if name.all isCharacterNamePart then .error ⟨.namedCharacter name, none⟩
    else .error (.placed (.unknownName name) opened)
  | .condition => openCondition s opened name position
  | .group =>
    if !Text.isName name then .error (.placed (.badGroupName name) position)
    else
      match s.names.lookup name with
      | some former => .error (.placed (.repeatedGroupName name (s.groups + 1) former) position)
      | none =>
        let inner := s.openCapture opened
        .ok { inner with names := (name, inner.groups) :: s.names }
  | .reference =>
    if !Text.isName name then .error (.placed (.badGroupName name) position)
    else
      match s.names.lookup name with
      | none => .error (.placed (.unknownGroupName name) position)
      | some group => s.addReference group position (position + name.length + 1)

def readName (s : ReaderState) (opened : Nat) (use : NameUse) (name : List Char) (t : Token) :
    Except ReadError ReaderState :=
  if t.is use.terminator then
    if name.isEmpty then .error (.placed (.missing use.what) t.position)
    else finishName s opened use name (t.position - name.length)
  else .ok { s with mode := .name opened use (name ++ t.text) }

/-- The groups that conditions ask for have to be there, and flags must not be at odds. -/
def checkWhole (s : ReaderState) : Except ReadError Unit :=
  if s.current.flags.contains .ascii && s.current.flags.contains .unicode then
    .error ⟨.contraryAlphabets, none⟩
  else .ok ()

/-- Ends what does not go on with the next token, before that is taken. The place of the token is
`tell`. -/
def settle (s : ReaderState) (t : Option Token) (tell : Nat) : Except ReadError ReaderState :=
  match s.mode with
  | .escape e => if t.any e.takes then .ok s else finishEscape s e tell
  | .count c => .ok (if t.any c.takes then s else abandonCount s c)
  | .group opened =>
    .ok (if t.any (·.is '?') then s else s.openCapture opened)
  | _ => .ok s

def ReaderState.isInSequence (s : ReaderState) : Bool :=
  s.mode == .sequence || s.mode == .afterRepeat

/-- A token that cannot follow is refused before it is taken. -/
def refuse (s : ReaderState) (t : Token) : Except ReadError Unit := do
  if s.isInSequence then
    if t.is ')' && s.outer.isEmpty then
      checkWhole s
      throw (.placed .unbalancedParenthesis t.position)
    if t.is '|' && (s.current.purpose matches .condition _) && !s.current.branches.isEmpty then
      throw (.placed .thirdBranch t.position)

def take (s : ReaderState) (t : Token) : Except ReadError ReaderState :=
  match s.mode with
  | .sequence => readSequence s t
  | .afterRepeat =>
    if t.is '?' then .ok (s.turnRepeat .lazy)
    else if t.is '+' then .ok (s.turnRepeat .possessive)
    else readSequence s t
  | .count c => readCount s c t
  | .set o => readSet s o t
  | .escape e => .ok (readEscaped s e t)
  | .group opened => .ok { s with mode := .extension opened }
  | .extension opened =>
    match t.escaped, Flag.ofLetter? t.char with
    | false, some flag => turnOn s opened [] flag t.finish
    | _, _ =>
      if t.is '-' then .ok { s with mode := .flagsOff opened [] [] } else readExtension s opened t
  | .namedExtension opened => readNamedExtension s opened t
  | .behindExtension opened => readBehindExtension s opened t
  | .name opened use name => readName s opened use name t
  | .flagsOn opened on => readFlagsOn s opened on t
  | .flagsOff opened on off => readFlagsOff s opened on off t
  | .comment _ => .ok (if t.is ')' then { s with mode := .sequence } else s)
  | .lineComment => .ok (if t.is '\n' then { s with mode := .sequence } else s)

/-- What is known about a token before it is taken. -/
def meet (s : ReaderState) (t : Token) : Except ReadError ReaderState := do
  let s ← settle s (some t) t.position
  refuse s t
  return s

def readToken (s : ReaderState) (t : Token) : Except ReadError ReaderState := do
  take (← meet s t) t

def lookbehindLimit : Nat := 4294967295

/-- A fault of the pattern as a whole: a view of what lies behind needs a fixed width, and with the
flag for templates nothing is repeated. -/
def fault? (template : Bool) : Pattern → Option Fault
  | .empty | .set _ | .anchor _ | .reference _ => none
  | .look _ p | .capture _ p | .atomic p => p.fault? template
  | .lookBack _ p =>
    if lookbehindLimit < p.width.least then some .lookbehindLength
    else if p.width.most ≠ some p.width.least then some .lookbehindWidth
    else p.fault? template
  | .seq p q | .alt p q | .condition _ p q => (p.fault? template).or (q.fault? template)
  | .repeated p _ _ manner => if template then some (.templateRepeat manner) else p.fault? template

def finishSequence (s : ReaderState) : Except ReadError Pattern := do
  if !s.outer.isEmpty then throw (.placed .unterminatedGroup s.current.opened)
  checkWhole s
  match s.asked.find? fun (group, _) => s.groups < group with
  | some (group, position) => throw (.placed (.invalidReference group) position)
  | none =>
    match s.current.body.fault? (s.current.flags.contains .template) with
    | some fault => throw ⟨fault, none⟩
    | none => return s.current.body

def finishReading (s : ReaderState) (length : Nat) : Except ReadError Pattern := do
  let s ← settle s none length
  match s.mode with
  | .set o => throw (.placed .unterminatedSet o.opened)
  | .comment opened => throw (.placed .unterminatedComment opened)
  | .extension _ | .namedExtension _ | .behindExtension _ => throw (.placed .unexpectedEnd length)
  | .name _ use [] => throw (.placed (.missing use.what) length)
  | .name _ use name => throw (.placed (.unterminatedName use.terminator) (length - name.length))
  | .flagsOn _ _ => throw (.placed (.missing "-, : or )") length)
  | .flagsOff _ _ off => throw (.placed (.missing (if off.isEmpty then "flag" else ":")) length)
  | _ => finishSequence s

/-- The fault of a pattern text that ends in a lone backslash. The backslash is seen before the
token in front of it is taken, but after that token is met. -/
def danglingFault (tokens : List Token) (length : Nat) : ReadError :=
  let met := do
    let s ← tokens.dropLast.foldlM readToken ReaderState.start
    tokens.getLast?.mapM (meet s)
  match met with
  | .error e => e
  | .ok _ => .placed .danglingEscape (length - 1)

def ofText (text : List Char) : Except ReadError Pattern :=
  let (tokens, dangling) := tokensFrom text 0
  if dangling then .error (danglingFault tokens text.length)
  else do
    let s ← tokens.foldlM readToken ReaderState.start
    finishReading s text.length

end VersionStamp.Pattern
