/-! The tokens of YAML documents. Indentation opens and closes blocks, and a key is known as one
only when its colon is seen, so the marks of blocks and keys are put in front of tokens that were
read before. Whatever is refused here is no YAML; the reason is not kept. -/

namespace VersionStamp.Yaml

/-- The marks and scalars of a document. Blocks have no end mark of their own in the text: it is
added where the indentation falls back. -/
inductive Token
  | directive
  | documentStart
  | documentEnd
  | blockSequence
  | blockMapping
  | blockEnd
  | flowSequence
  | flowSequenceEnd
  | flowMapping
  | flowMappingEnd
  | flowEntry
  | blockEntry
  | key
  | value
  | alias (name : List Char)
  | anchor (name : List Char)
  | tag (written : List Char)
  | scalar (text : List Char) (plain : Bool)
  deriving DecidableEq, Repr

def isBreak (c : Char) : Bool :=
  c == '\n' || c == '\x85' || c == '\u2028' || c == '\u2029'

def endsWord : Option Char → Bool
  | none => true
  | some c => c == ' ' || c == '\t' || isBreak c

def endsLine : Option Char → Bool
  | none => true
  | some c => isBreak c

def isAllowed (c : Char) : Bool :=
  c == '\t' || c == '\n' || c == '\r' || c == '\x85' || (' ' ≤ c && c ≤ '~') ||
    (0xA0 ≤ c.toNat && c.toNat ≤ 0xFFFD) || 0x10000 ≤ c.toNat

def breakText (c : Char) : Char := if c == '\x85' then '\n' else c

structure Place where
  rest : List Char
  index : Nat := 0
  line : Nat := 0
  column : Nat := 0

namespace Place

def peek (p : Place) : Option Char := p.rest.head?

def peekAt (p : Place) (n : Nat) : Option Char := p.rest[n]?

def isAt (p : Place) (c : Char) : Bool := p.peek == some c

def next (p : Place) : Place :=
  match p.rest with
  | [] => p
  | c :: rest =>
    if isBreak c then ⟨rest, p.index + 1, p.line + 1, 0⟩
    else if c == '\ufeff' then ⟨rest, p.index + 1, p.line, p.column⟩
    else ⟨rest, p.index + 1, p.line, p.column + 1⟩

def forward (p : Place) : Nat → Place
  | 0 => p
  | n + 1 => p.next.forward n

def takeWhile (p : Place) (f : Char → Bool) : List Char × Place :=
  let text := p.rest.takeWhile f
  (text, p.forward text.length)

def skipWhile (p : Place) (f : Char → Bool) : Place := (p.takeWhile f).2

def skipBlanks (p : Place) : Place := p.skipWhile (· == ' ')

def skipLine (p : Place) : Place := p.skipWhile fun c => !isBreak c

def isDocumentMark (p : Place) (c : Char) : Bool :=
  p.rest.take 3 == [c, c, c] && endsWord (p.peekAt 3)

def isSeparator (p : Place) : Bool := p.isDocumentMark '-' || p.isDocumentMark '.'

def finishLine? (p : Place) : Option Place :=
  let p := p.skipBlanks
  let p := if p.isAt '#' then p.skipLine else p
  if endsLine p.peek then some p.next else none

end Place

/-! Plain scalars -/

def endsPlain (inFlow : Bool) (rest : List Char) : Bool :=
  match rest with
  | [] => true
  | c :: after =>
    endsWord (some c) ||
      (c == ':' &&
        (endsWord after.head? ||
          (inFlow && ",[]\x7b\x7d".toList.contains (after.headD ' ')))) ||
      (inFlow && ",?[]\x7b\x7d".toList.contains c)

def plainLength (inFlow : Bool) : List Char → Nat
  | [] => 0
  | c :: rest => if endsPlain inFlow (c :: rest) then 0 else plainLength inFlow rest + 1

/-- Line breaks and the blanks between them; `none` where a document separator follows a break. -/
def plainBreaks : Nat → Place → List Char → Option (List Char) × Place
  | 0, p, breaks => (some breaks, p)
  | fuel + 1, p, breaks =>
    match p.peek with
    | some c =>
      if c == ' ' then plainBreaks fuel p.next breaks
      else if isBreak c then
        if p.next.isSeparator then (none, p.next)
        else plainBreaks fuel p.next (breaks ++ [breakText c])
      else (some breaks, p)
    | none => (some breaks, p)

/-- A single line break is a blank, and more of them are as many breaks less one. -/
def foldBreaks (first : Char) (breaks : List Char) : List Char :=
  if first ≠ '\n' then first :: breaks
  else if breaks.isEmpty then [' '] else breaks

/-- White space inside a plain scalar: the text for it, the place after it, and whether it had a
line break. Without text the scalar is at its end. -/
def plainSpaces (p : Place) : List Char × Place × Bool :=
  let (blanks, p) := p.takeWhile (· == ' ')
  match p.peek with
  | some c =>
    if isBreak c then
      let p := p.next
      if p.isSeparator then ([], p, true)
      else
        match plainBreaks p.rest.length p [] with
        | (none, p) => ([], p, true)
        | (some breaks, p) => (foldBreaks (breakText c) breaks, p, true)
    else (blanks, p, false)
  | none => (blanks, p, false)

structure PlainScalar where
  text : List Char
  place : Place
  /-- A key may follow: the scalar ended after a line break. -/
  broken : Bool

/-- Reads a plain scalar on from `text`, with the white space `spaces` still to be added. -/
def scanPlain (inFlow : Bool) (indent : Int) :
    Nat → Place → (text spaces : List Char) → (broken : Bool) → PlainScalar
  | 0, p, text, _, broken => ⟨text, p, broken⟩
  | fuel + 1, p, text, spaces, broken =>
    let length := plainLength inFlow p.rest
    if p.isAt '#' || length == 0 then ⟨text, p, broken⟩
    else
      let text := text ++ spaces ++ p.rest.take length
      let (spaces, p, broken) := plainSpaces (p.forward length)
      if spaces.isEmpty || p.isAt '#' || (!inFlow && p.column < indent) then ⟨text, p, broken⟩
      else scanPlain inFlow indent fuel p text spaces broken

/-! Quoted scalars -/

def escapedChar? : Char → Option Char
  | '0' => some '\x00'
  | 'a' => some '\x07'
  | 'b' => some '\x08'
  | 't' | '\t' => some '\t'
  | 'n' => some '\n'
  | 'v' => some '\x0b'
  | 'f' => some '\x0c'
  | 'r' => some '\r'
  | 'e' => some '\x1b'
  | ' ' => some ' '
  | '"' => some '"'
  | '\\' => some '\\'
  | '/' => some '/'
  | 'N' => some '\x85'
  | '_' => some '\xa0'
  | 'L' => some '\u2028'
  | 'P' => some '\u2029'
  | _ => none

def escapeWidth? : Char → Option Nat
  | 'x' => some 2
  | 'u' => some 4
  | 'U' => some 8
  | _ => none

def hexValue? (c : Char) : Option Nat :=
  if '0' ≤ c ∧ c ≤ '9' then some (c.toNat - 48)
  else if 'a' ≤ c ∧ c ≤ 'f' then some (c.toNat - 87)
  else if 'A' ≤ c ∧ c ≤ 'F' then some (c.toNat - 55)
  else none

def valueInBase (base : Nat) (digits : List Char) : Option Nat :=
  digits.foldlM (fun n c =>
    match hexValue? c with
    | some d => if d < base then some (base * n + d) else none
    | none => none) 0

/-- The breaks after the first in a quoted scalar; blanks at the starts of lines do not count. -/
def quotedBreaks : Nat → Place → List Char → Option (List Char × Place)
  | 0, _, _ => none
  | fuel + 1, p, breaks =>
    if p.isSeparator then none
    else
      let p := p.skipWhile fun c => c == ' ' || c == '\t'
      match p.peek with
      | some c =>
        if isBreak c then quotedBreaks fuel p.next (breaks ++ [breakText c]) else some (breaks, p)
      | none => some (breaks, p)

def scanEscape (p : Place) : Option (List Char × Place) :=
  match p.peek with
  | none => none
  | some c =>
    match escapedChar? c with
    | some e => some ([e], p.next)
    | none =>
      match escapeWidth? c with
      | some width =>
        let digits := p.next.rest.take width
        if digits.length = width then
          (valueInBase 16 digits).bind fun n =>
            if n.isValidChar then some ([Char.ofNat n], p.next.forward width) else none
        else none
      | none =>
        if isBreak c then quotedBreaks (p.rest.length + 1) p.next [] else none

def scanQuoted (double : Bool) : Nat → Place → List Char → Option (List Char × Place)
  | 0, _, _ => none
  | fuel + 1, p, text =>
    match p.peek with
    | none => none
    | some c =>
      if !double && c == '\'' then
        if p.peekAt 1 == some '\'' then scanQuoted double fuel (p.forward 2) (text ++ ['\''])
        else some (text, p.next)
      else if double && c == '"' then some (text, p.next)
      else if double && c == '\\' then
        (scanEscape p.next).bind fun (added, p) => scanQuoted double fuel p (text ++ added)
      else if c == ' ' || c == '\t' || isBreak c then
        let (blanks, p) := p.takeWhile fun c => c == ' ' || c == '\t'
        match p.peek with
        | none => none
        | some b =>
          if isBreak b then
            (quotedBreaks (p.rest.length + 1) p.next []).bind fun (breaks, p) =>
              scanQuoted double fuel p (text ++ foldBreaks (breakText b) breaks)
          else scanQuoted double fuel p (text ++ blanks)
      else scanQuoted double fuel p.next (text ++ [c])

/-! Block scalars -/

inductive Chomping
  | clip
  | strip
  | keep
  deriving DecidableEq, Repr

def chomping? : Char → Option Chomping
  | '+' => some .keep
  | '-' => some .strip
  | _ => none

def indentDigit? (c : Char) : Option Nat :=
  if '1' ≤ c ∧ c ≤ '9' then some (c.toNat - 48) else none

def blockSigns (p : Place) : Chomping × Option Nat × Place :=
  match p.peek.bind chomping? with
  | some chomping =>
    let p := p.next
    match p.peek.bind indentDigit? with
    | some n => (chomping, some n, p.next)
    | none => (chomping, none, p)
  | none =>
    match p.peek.bind indentDigit? with
    | some n =>
      let p := p.next
      match p.peek.bind chomping? with
      | some chomping => (chomping, some n, p.next)
      | none => (.clip, some n, p)
    | none => (.clip, none, p)

/-- Empty lines before the text of a block scalar, and the deepest of their indentations. -/
def blockIndent : Nat → Place → List Char → Nat → List Char × Nat × Place
  | 0, p, breaks, deepest => (breaks, deepest, p)
  | fuel + 1, p, breaks, deepest =>
    match p.peek with
    | some c =>
      if isBreak c then blockIndent fuel p.next (breaks ++ [breakText c]) deepest
      else if c == ' ' then blockIndent fuel p.next breaks (max deepest p.next.column)
      else (breaks, deepest, p)
    | none => (breaks, deepest, p)

def skipIndent (indent : Nat) : Nat → Place → Place
  | 0, p => p
  | fuel + 1, p =>
    if p.column < indent && p.isAt ' ' then skipIndent indent fuel p.next else p

def blockBreaks (indent : Nat) : Nat → Place → List Char → List Char × Place
  | 0, p, breaks => (breaks, p)
  | fuel + 1, p, breaks =>
    let p := skipIndent indent indent p
    match p.peek with
    | some c =>
      if isBreak c then blockBreaks indent fuel p.next (breaks ++ [breakText c]) else (breaks, p)
    | none => (breaks, p)

/-- The lines of a block scalar. `breaks` are the line breaks that come before the next line. -/
def blockLines (folded : Bool) (chomping : Chomping) (indent : Nat) :
    Nat → Place → (text breaks : List Char) → (last : List Char) → List Char × Place
  | 0, p, text, _, _ => (text, p)
  | fuel + 1, p, text, breaks, last =>
    let finished := text ++ (if chomping = .strip then [] else last) ++
      (if chomping = .keep then breaks else [])
    if p.column == indent && p.peek.isSome then
      let startsWithWord := !(p.isAt ' ' || p.isAt '\t')
      let (line, p) := p.takeWhile fun c => !isBreak c
      let text := text ++ breaks ++ line
      let last := (p.peek.map breakText).toList
      let (breaks, p) := blockBreaks indent (p.rest.length + 1) p.next []
      if p.column == indent && p.peek.isSome then
        let joined :=
          if folded && last == ['\n'] && startsWithWord && !(p.isAt ' ' || p.isAt '\t') then
            if breaks.isEmpty then [' '] else []
          else last
        blockLines folded chomping indent fuel p (text ++ joined) breaks last
      else
        (text ++ (if chomping = .strip then [] else last) ++
          (if chomping = .keep then breaks else []), p)
    else (finished, p)

def scanBlock (folded : Bool) (outer : Int) (p : Place) : Option (List Char × Place) := do
  let (chomping, digit, p) := blockSigns p
  if !(endsLine p.peek || p.isAt ' ') then
    none
  let p ← p.finishLine?
  let least := (max (outer + 1) 1).toNat
  match digit with
  | some n =>
    let indent := least + n - 1
    let (breaks, p) := blockBreaks indent (p.rest.length + 1) p []
    return blockLines folded chomping indent (p.rest.length + 1) p [] breaks []
  | none =>
    let (breaks, deepest, p) := blockIndent (p.rest.length + 1) p [] 0
    return blockLines folded chomping (max least deepest) (p.rest.length + 1) p [] breaks []

/-! The scanner -/

structure KeyCandidate where
  level : Nat
  token : Nat
  required : Bool
  index : Nat
  line : Nat
  column : Nat

structure Scanner where
  place : Place
  flowLevel : Nat := 0
  /-- The column of the innermost block, and those of the blocks around it. -/
  indent : Int := -1
  indents : List Int := []
  allowKey : Bool := true
  candidates : List KeyCandidate := []
  tokens : Array Token := #[]

namespace Scanner

def inFlow (s : Scanner) : Bool := s.flowLevel != 0

def push (s : Scanner) (t : Token) : Scanner := { s with tokens := s.tokens.push t }

def insertAt (s : Scanner) (n : Nat) (added : Array Token) : Scanner :=
  { s with tokens := s.tokens.extract 0 n ++ added ++ s.tokens.extract n s.tokens.size }

def toNextToken (s : Scanner) : Nat → Scanner
  | 0 => s
  | fuel + 1 =>
    let p := s.place.skipBlanks
    let p := if p.isAt '#' then p.skipLine else p
    match p.peek with
    | some c =>
      if isBreak c then
        toNextToken { s with place := p.next, allowKey := s.allowKey || !s.inFlow } fuel
      else { s with place := p }
    | none => { s with place := p }

/-- Drops what can no longer be a key: a key lies on one line and is not too long. -/
def dropStale (s : Scanner) : Option Scanner :=
  let isStale := fun (k : KeyCandidate) =>
    k.line != s.place.line || s.place.index - k.index > 1024
  if s.candidates.any fun k => isStale k && k.required then none
  else some { s with candidates := s.candidates.filter fun k => !isStale k }

def unwind (s : Scanner) (column : Int) : Scanner :=
  if s.inFlow then s
  else
    let closed := (s.indent :: s.indents).takeWhile (· > column)
    let left := (s.indent :: s.indents).dropWhile (· > column)
    { s with
      tokens := s.tokens ++ (closed.map fun _ => Token.blockEnd).toArray
      indent := left.headD (-1)
      indents := left.tail }

def addIndent (s : Scanner) (column : Nat) : Option Scanner :=
  if s.indent < column then
    some { s with indents := s.indent :: s.indents, indent := column }
  else none

def dropCandidate (s : Scanner) : Option Scanner :=
  if s.candidates.any fun k => k.level == s.flowLevel && k.required then none
  else some { s with candidates := s.candidates.filter fun k => k.level != s.flowLevel }

def saveCandidate (s : Scanner) : Option Scanner :=
  if s.allowKey then do
    let required := !s.inFlow && s.indent == (s.place.column : Int)
    let s ← s.dropCandidate
    let candidate : KeyCandidate :=
      ⟨s.flowLevel, s.tokens.size, required, s.place.index, s.place.line, s.place.column⟩
    return { s with candidates := candidate :: s.candidates }
  else some s

def skip (s : Scanner) (n : Nat) : Scanner := { s with place := s.place.forward n }

def endBlocks (s : Scanner) : Option Scanner := do
  let s ← (s.unwind (-1)).dropCandidate
  return { s with allowKey := false }

def isNameChar (c : Char) : Bool := c.isAlphanum || c == '-' || c == '_'

/-- A line that begins with a percent sign. Of directives only the version matters. -/
def fetchDirective (s : Scanner) : Option Scanner := do
  let s ← s.endBlocks
  let (name, p) := s.place.next.takeWhile isNameChar
  if name.isEmpty || !(endsLine p.peek || p.isAt ' ') then
    none
  let p ←
    if name == "YAML".toList then do
      let p := p.skipBlanks
      if !p.isAt '1' || p.next.peek != some '.' then
        none
      let (minor, p) := (p.forward 2).takeWhile Char.isDigit
      if minor.isEmpty then
        none
      p.finishLine?
    else some p.skipLine.next
  return { s with place := p }.push .directive

def fetchDocumentMark (s : Scanner) (t : Token) : Option Scanner := do
  let s ← s.endBlocks
  return (s.skip 3).push t

def fetchFlowStart (s : Scanner) (t : Token) : Option Scanner := do
  let s ← s.saveCandidate
  return ({ s with flowLevel := s.flowLevel + 1, allowKey := true }.skip 1).push t

def fetchFlowEnd (s : Scanner) (t : Token) : Option Scanner := do
  let s ← s.dropCandidate
  return ({ s with flowLevel := s.flowLevel - 1, allowKey := false }.skip 1).push t

def fetchFlowEntry (s : Scanner) : Option Scanner := do
  let s ← s.dropCandidate
  return ({ s with allowKey := true }.skip 1).push .flowEntry

def openBlock (s : Scanner) (t : Token) : Option Scanner :=
  if s.inFlow then some s
  else if !s.allowKey then none
  else
    match s.addIndent s.place.column with
    | some opened => some (opened.push t)
    | none => some s

def fetchBlockEntry (s : Scanner) : Option Scanner := do
  let s ← s.openBlock .blockSequence
  let s ← s.dropCandidate
  return ({ s with allowKey := true }.skip 1).push .blockEntry

def fetchKey (s : Scanner) : Option Scanner := do
  let s ← s.openBlock .blockMapping
  let s ← s.dropCandidate
  return ({ s with allowKey := !s.inFlow }.skip 1).push .key

/-- A colon: the candidate before it is a key, or the key is empty. -/
def fetchValue (s : Scanner) : Option Scanner :=
  match s.candidates.find? fun k => k.level == s.flowLevel with
  | some k =>
    let s := { s with candidates := s.candidates.filter fun k => k.level != s.flowLevel }
    let s :=
      if s.inFlow then s.insertAt k.token #[.key]
      else
        match s.addIndent k.column with
        | some opened => opened.insertAt k.token #[.blockMapping, .key]
        | none => s.insertAt k.token #[.key]
    some (({ s with allowKey := false }.skip 1).push .value)
  | none => do
    let s ← s.openBlock .blockMapping
    let s ← s.dropCandidate
    return ({ s with allowKey := !s.inFlow }.skip 1).push .value

def fetchName (s : Scanner) (t : List Char → Token) : Option Scanner := do
  let s ← s.saveCandidate
  let (name, p) := s.place.next.takeWhile isNameChar
  let ends := endsWord p.peek || "?:,]\x7d%@\x60".toList.contains (p.peek.getD ' ')
  if name.isEmpty || !ends then
    none
  return { s with allowKey := false, place := p }.push (t name)

def fetchTag (s : Scanner) : Option Scanner := do
  let s ← s.saveCandidate
  let (written, p) := s.place.takeWhile fun c => !endsWord (some c)
  return { s with allowKey := false, place := p }.push (.tag written)

def fetchBlockScalar (s : Scanner) (folded : Bool) : Option Scanner := do
  let s ← { s with allowKey := true }.dropCandidate
  let (text, p) ← scanBlock folded s.indent s.place.next
  return { s with place := p }.push (.scalar text false)

def fetchQuoted (s : Scanner) (double : Bool) : Option Scanner := do
  let s ← s.saveCandidate
  let (text, p) ← scanQuoted double (s.place.rest.length + 1) s.place.next []
  return { s with allowKey := false, place := p }.push (.scalar text false)

def fetchPlain (s : Scanner) : Option Scanner := do
  let s ← s.saveCandidate
  let found := scanPlain s.inFlow (s.indent + 1) (s.place.rest.length + 1) s.place [] [] false
  return { s with allowKey := found.broken, place := found.place }.push (.scalar found.text true)

def startsPlain (s : Scanner) (c : Char) : Bool :=
  !endsWord (some c) && (!"-?:,[]\x7b\x7d#&*!|>'\"%@\x60".toList.contains c ||
    (!endsWord (s.place.peekAt 1) && (c == '-' || (!s.inFlow && (c == '?' || c == ':')))))

def fetch (s : Scanner) (c : Char) : Option Scanner :=
  let atLineStart := s.place.column == 0
  let spaced := endsWord (s.place.peekAt 1)
  if c == '%' && atLineStart then s.fetchDirective
  else if atLineStart && s.place.isDocumentMark '-' then s.fetchDocumentMark .documentStart
  else if atLineStart && s.place.isDocumentMark '.' then s.fetchDocumentMark .documentEnd
  else if c == '[' then s.fetchFlowStart .flowSequence
  else if c == '\x7b' then s.fetchFlowStart .flowMapping
  else if c == ']' then s.fetchFlowEnd .flowSequenceEnd
  else if c == '\x7d' then s.fetchFlowEnd .flowMappingEnd
  else if c == ',' then s.fetchFlowEntry
  else if c == '-' && spaced then s.fetchBlockEntry
  else if c == '?' && (s.inFlow || spaced) then s.fetchKey
  else if c == ':' && (s.inFlow || spaced) then s.fetchValue
  else if c == '*' then s.fetchName .alias
  else if c == '&' then s.fetchName .anchor
  else if c == '!' then s.fetchTag
  else if c == '|' && !s.inFlow then s.fetchBlockScalar false
  else if c == '>' && !s.inFlow then s.fetchBlockScalar true
  else if c == '\'' then s.fetchQuoted false
  else if c == '"' then s.fetchQuoted true
  else if s.startsPlain c then s.fetchPlain
  else none

/-- Reads tokens up to the end of the document. Each of them takes at least one character. -/
def run (s : Scanner) : Nat → Option (Array Token)
  | 0 => none
  | fuel + 1 => do
    let s ← (s.toNextToken (s.place.rest.length + 1)).dropStale
    let s := s.unwind s.place.column
    match s.place.peek with
    | none =>
      let s ← s.endBlocks
      return s.tokens
    | some c => run (← s.fetch c) fuel

end Scanner

/-- Line breaks of every system as one line feed. -/
def unifyBreaks : List Char → List Char
  | '\r' :: '\n' :: rest => '\n' :: unifyBreaks rest
  | '\r' :: rest => '\n' :: unifyBreaks rest
  | c :: rest => c :: unifyBreaks rest
  | [] => []

def tokens? (text : List Char) : Option (List Token) :=
  let text := unifyBreaks text
  let body := if text.head? == some '\ufeff' then text.tail else text
  if text.all isAllowed then
    (Scanner.run { place := ⟨body, 0, 0, 0⟩ } (body.length + 1)).map (·.toList)
  else none

end VersionStamp.Yaml
