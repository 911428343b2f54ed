import VersionStamp.Text.CharRange

/-! White space: the set that a template may not hold, and the stripping of text at both ends. -/

namespace VersionStamp.Text

def blankRanges : List CodeRange :=
  [(0x09, 0x0D), (0x1C, 0x20), (0x85, 0x85), (0xA0, 0xA0), (0x1680, 0x1680), (0x2000, 0x200A),
   (0x2028, 0x2029), (0x202F, 0x202F), (0x205F, 0x205F), (0x3000, 0x3000)]

/-- White space of any script, with the four separators U+001C to U+001F. -/
def isBlank (c : Char) : Bool := inRanges blankRanges c

/-- The white space that may surround a number: the separators U+001C to U+001F are not in it. -/
def isNumeralBlank (c : Char) : Bool :=
  isBlank c && !(0x1C ≤ c.toNat && c.toNat ≤ 0x1F)

def stripBy (p : Char → Bool) (text : List Char) : List Char :=
  ((text.dropWhile p).reverse.dropWhile p).reverse

def strip (text : List Char) : List Char := stripBy isBlank text

end VersionStamp.Text
