import VersionStamp.Value

/-! Values as JSON text, in ASCII: every other character is written by its code units. -/

namespace VersionStamp.Json

def codeUnit (n : Nat) : List Char := '\\' :: 'u' :: Text.hexDigits 4 n

/-- A character inside a JSON string. Beyond the first plane it takes two code units. -/
def escapeChar (c : Char) : List Char :=
  match c with
  | '"' => ['\\', '"']
  | '\\' => ['\\', '\\']
  | '\n' => ['\\', 'n']
  | '\r' => ['\\', 'r']
  | '\t' => ['\\', 't']
  | '\x08' => ['\\', 'b']
  | '\x0c' => ['\\', 'f']
  | c =>
    if ' ' ≤ c ∧ c ≤ '~' then [c]
    else if c.toNat < 0x10000 then codeUnit c.toNat
    else
      let n := c.toNat - 0x10000
      codeUnit (0xD800 + n / 0x400) ++ codeUnit (0xDC00 + n % 0x400)

def string (text : List Char) : List Char := '"' :: (text.flatMap escapeChar ++ ['"'])

def number (f : Float) : List Char :=
  if f.isNaN then "NaN".toList
  else if f.isInf then (if f < 0 then "-Infinity" else "Infinity").toList
  else Decimal.floatText f

def integer (i : Int) : List Char :=
  if i < 0 then '-' :: Text.decimal i.natAbs else Text.decimal i.natAbs

def separated (separator : List Char) : List (List Char) → List Char
  | [] => []
  | [item] => item
  | item :: others => item ++ separator ++ separated separator others

mutual

def write : Value → List Char
  | .null => "null".toList
  | .bool b => (if b then "true" else "false").toList
  | .int i => integer i
  | .float f => number f
  | .text s => string s.toList
  | .date written => string written.toList
  | .list items => '[' :: separated [',', ' '] (writeItems items) ++ [']']
  | .mapping entries => '\x7b' :: separated [',', ' '] (writeEntries entries) ++ ['\x7d']

def writeItems : List Value → List (List Char)
  | [] => []
  | v :: rest => write v :: writeItems rest

def writeEntries : List (String × Value) → List (List Char)
  | [] => []
  | (key, v) :: rest => (string key.toList ++ ':' :: ' ' :: write v) :: writeEntries rest

end

/-- An object with one entry a line, indented by two blanks. -/
def writeLines (entries : List (String × Value)) : List Char :=
  "\x7b\n  ".toList ++ separated ",\n  ".toList (writeEntries entries) ++ "\n\x7d".toList

end VersionStamp.Json
