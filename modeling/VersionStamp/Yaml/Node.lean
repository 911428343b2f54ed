import VersionStamp.Yaml.Token

/-! The nodes of YAML documents: scalars, sequences and mappings, made from tokens. A node that has
an anchor can stand again under its name. -/

namespace VersionStamp.Yaml

/-- The tree of a document before its scalars have a meaning. -/
inductive Node
  | scalar (text : List Char) (plain : Bool) (tag : Option (List Char))
  | sequence (items : List Node) (tag : Option (List Char))
  | mapping (entries : List (Node × Node)) (tag : Option (List Char))

def Node.nothing : Node := .scalar [] true none

structure Remaining where
  tokens : List Token
  anchors : List (List Char × Node)

abbrev NodeReader (α : Type) := Remaining → Option (α × Remaining)

namespace Remaining

def startsWith (r : Remaining) (choices : List Token) : Bool :=
  match r.tokens with
  | [] => false
  | t :: _ => choices.contains t

def drop (r : Remaining) : Remaining := { r with tokens := r.tokens.tail }

def expect (r : Remaining) (t : Token) : Option Remaining :=
  if r.startsWith [t] then some r.drop else none

end Remaining

structure Properties where
  anchor : Option (List Char) := none
  tag : Option (List Char) := none

def readProperties (r : Remaining) : Properties × Remaining :=
  match r.tokens with
  | .anchor a :: .tag t :: rest => (⟨some a, some t⟩, { r with tokens := rest })
  | .tag t :: .anchor a :: rest => (⟨some a, some t⟩, { r with tokens := rest })
  | .anchor a :: rest => (⟨some a, none⟩, { r with tokens := rest })
  | .tag t :: rest => (⟨none, some t⟩, { r with tokens := rest })
  | _ => ({}, r)

def Remaining.name (r : Remaining) (properties : Properties) (node : Node) :
    Option (Node × Remaining) :=
  match properties.anchor with
  | none => some (node, r)
  | some a =>
    if r.anchors.any fun entry => entry.1 == a then none
    else some (node, { r with anchors := (a, node) :: r.anchors })

/-- Where a node stands: inside brackets, in a block, or as the value of a key in a block, where a
sequence needs no indentation. -/
inductive Site
  | flow
  | block
  | blockValue
  deriving DecidableEq, Repr

mutual

def readNode : Nat → Site → NodeReader Node
  | 0, _, _ => none
  | fuel + 1, site, r =>
    match r.tokens with
    | .alias a :: rest =>
      (r.anchors.find? fun entry => entry.1 == a).map fun entry =>
        (entry.2, { r with tokens := rest })
    | _ =>
      let (properties, r) := readProperties r
      let tag := properties.tag
      match site, r.tokens with
      | .blockValue, .blockEntry :: _ => do
        let (items, r) ← readOpenSequence fuel [] r
        r.name properties (.sequence items tag)
      | _, .scalar text plain :: rest =>
        Remaining.name { r with tokens := rest } properties (.scalar text plain tag)
      | _, .flowSequence :: rest => do
        let (items, r) ← readFlowSequence fuel [] { r with tokens := rest }
        r.name properties (.sequence items tag)
      | _, .flowMapping :: rest => do
        let (entries, r) ← readFlowMapping fuel [] { r with tokens := rest }
        r.name properties (.mapping entries tag)
      | .flow, _ => readEmpty properties r
      | _, .blockSequence :: rest => do
        let (items, r) ← readBlockSequence fuel [] { r with tokens := rest }
        r.name properties (.sequence items tag)
      | _, .blockMapping :: rest => do
        let (entries, r) ← readBlockMapping fuel [] { r with tokens := rest }
        r.name properties (.mapping entries tag)
      | _, _ => readEmpty properties r

/-- A node of which nothing but an anchor or a tag is written. -/
def readEmpty (properties : Properties) : NodeReader Node
  | r =>
    if properties.anchor.isSome || properties.tag.isSome then
      r.name properties (.scalar [] (properties.tag.isNone) properties.tag)
    else none

def readUnless (stops : List Token) : Nat → Site → NodeReader Node
  | 0, _, _ => none
  | fuel + 1, site, r =>
    if r.startsWith stops then some (.nothing, r) else readNode fuel site r

def readBlockSequence : Nat → List Node → NodeReader (List Node)
  | 0, _, _ => none
  | fuel + 1, items, r =>
    match r.tokens with
    | .blockEntry :: rest => do
      let (item, r) ← readUnless [.blockEntry, .blockEnd] fuel .block { r with tokens := rest }
      readBlockSequence fuel (item :: items) r
    | .blockEnd :: rest => some (items.reverse, { r with tokens := rest })
    | _ => none

def readOpenSequence : Nat → List Node → NodeReader (List Node)
  | 0, _, _ => none
  | fuel + 1, items, r =>
    match r.tokens with
    | .blockEntry :: rest => do
      let (item, r) ←
        readUnless [.blockEntry, .key, .value, .blockEnd] fuel .block { r with tokens := rest }
      readOpenSequence fuel (item :: items) r
    | _ => some (items.reverse, r)

/-- The entries of a mapping in a block. Keys and values may be left out. -/
def readBlockMapping : Nat → List (Node × Node) → NodeReader (List (Node × Node))
  | 0, _, _ => none
  | fuel + 1, entries, r =>
    match r.tokens with
    | .blockEnd :: rest => some (entries.reverse, { r with tokens := rest })
    | .key :: rest => do
      let (key, r) ←
        readUnless [.key, .value, .blockEnd] fuel .blockValue { r with tokens := rest }
      match r.tokens with
      | .value :: rest => do
        let (value, r) ←
          readUnless [.key, .value, .blockEnd] fuel .blockValue { r with tokens := rest }
        readBlockMapping fuel ((key, value) :: entries) r
      | _ => readBlockMapping fuel ((key, .nothing) :: entries) r
    | .value :: rest => do
      let (value, r) ←
        readUnless [.key, .value, .blockEnd] fuel .blockValue { r with tokens := rest }
      readBlockMapping fuel ((.nothing, value) :: entries) r
    | _ => none

def readFlowValue (close : Token) : Nat → NodeReader Node
  | 0, _ => none
  | fuel + 1, r =>
    match r.tokens with
    | .value :: rest => readUnless [.flowEntry, close] fuel .flow { r with tokens := rest }
    | _ => some (.nothing, r)

/-- The items of a sequence in brackets. A key with its value is a mapping of one entry. -/
def readFlowSequence : Nat → List Node → NodeReader (List Node)
  | 0, _, _ => none
  | fuel + 1, items, r =>
    match r.tokens with
    | .flowSequenceEnd :: rest => some (items.reverse, { r with tokens := rest })
    | _ => do
      let r ← if items.isEmpty then some r else r.expect .flowEntry
      match r.tokens with
      | .flowSequenceEnd :: rest => some (items.reverse, { r with tokens := rest })
      | .key :: rest => do
        let (key, r) ←
          readUnless [.value, .flowEntry, .flowSequenceEnd] fuel .flow { r with tokens := rest }
        let (value, r) ← readFlowValue .flowSequenceEnd fuel r
        readFlowSequence fuel (.mapping [(key, value)] none :: items) r
      | _ => do
        let (item, r) ← readNode fuel .flow r
        readFlowSequence fuel (item :: items) r

/-- The entries of a mapping in braces. -/
def readFlowMapping : Nat → List (Node × Node) → NodeReader (List (Node × Node))
  | 0, _, _ => none
  | fuel + 1, entries, r =>
    match r.tokens with
    | .flowMappingEnd :: rest => some (entries.reverse, { r with tokens := rest })
    | _ => do
      let r ← if entries.isEmpty then some r else r.expect .flowEntry
      match r.tokens with
      | .flowMappingEnd :: rest => some (entries.reverse, { r with tokens := rest })
      | .key :: rest => do
        let (key, r) ←
          readUnless [.value, .flowEntry, .flowMappingEnd] fuel .flow { r with tokens := rest }
        let (value, r) ← readFlowValue .flowMappingEnd fuel r
        readFlowMapping fuel ((key, value) :: entries) r
      | _ => do
        let (key, r) ← readNode fuel .flow r
        readFlowMapping fuel ((key, .nothing) :: entries) r

end

/-- Passes directives, after which a document has to be announced. -/
def skipDirectives (tokens : List Token) : List Token :=
  tokens.dropWhile (· == .directive)

def skipDocumentEnds (tokens : List Token) : List Token :=
  tokens.dropWhile (· == .documentEnd)

/-- The content of a document, after which nothing may follow. -/
def readDocument? (tokens : List Token) : Option Node := do
  let fuel := 4 * tokens.length + 8
  let (node, r) ← readUnless [.directive, .documentStart, .documentEnd] fuel .block ⟨tokens, []⟩
  if (skipDocumentEnds r.tokens).isEmpty then some node else none

/-- The node of the only document of a text; no node where the text has no document. -/
def nodeOfTokens? (tokens : List Token) : Option (Option Node) :=
  match tokens with
  | [] => some none
  | .documentEnd :: _ => none
  | t :: _ =>
    if [Token.directive, .documentStart].contains t then
      match skipDirectives tokens with
      | [.documentStart] => some (some .nothing)
      | .documentStart :: rest => (readDocument? rest).map some
      | _ => none
    else (readDocument? tokens).map some

end VersionStamp.Yaml
