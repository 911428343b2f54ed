/-! Literal text inside a written pattern: characters with a meaning of their own get a
backslash. -/

namespace VersionStamp.Pattern

/-- White space of ASCII and the characters that patterns use as signs. -/
def needsEscape (c : Char) : Bool :=
  "\t\n\x0b\x0c\r #$&()*+-.?[\\]^\x7b|\x7d~".toList.contains c

def escapeChar (c : Char) : List Char := if needsEscape c then ['\\', c] else [c]

/-- The pattern text that matches `text` and nothing else. -/
def escape (text : List Char) : List Char := text.flatMap escapeChar

def numberText : List Char := ['\\', 'd', '+']

end VersionStamp.Pattern
