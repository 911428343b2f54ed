import VersionStamp.Text.Printable
import VersionStamp.Text.Numeral

/-! Quoted text in messages: single quotes, or double quotes where the text has a single one and no
double one; what cannot be shown is written by its code point. -/

namespace VersionStamp.Text

def hexDigits (width n : Nat) : List Char :=
  let digits := Nat.toDigits 16 n
  List.replicate (width - digits.length) '0' ++ digits

def quoteFor (text : List Char) : Char :=
  if text.contains '\'' && !text.contains '"' then '"' else '\''

def quotedChar (quote c : Char) : List Char :=
  if c = quote || c = '\\' then ['\\', c]
  else if c = '\n' then ['\\', 'n']
  else if c = '\r' then ['\\', 'r']
  else if c = '\t' then ['\\', 't']
  else if isPrintable c then [c]
  else if c.toNat < 0x100 then '\\' :: 'x' :: hexDigits 2 c.toNat
  else if c.toNat < 0x10000 then '\\' :: 'u' :: hexDigits 4 c.toNat
  else '\\' :: 'U' :: hexDigits 8 c.toNat

def quoted (text : List Char) : List Char :=
  let quote := quoteFor text
  quote :: (text.flatMap (quotedChar quote) ++ [quote])

/-- The most that a message shows of a text that is no number. -/
def quotedExtent : Nat := 200

def limitNotice : String :=
  "Exceeds the limit (4300 digits) for integer string conversion"

def limitAdvice : String :=
  "; use sys.set_int_max_str_digits() to increase the limit"

def NumeralError.message : NumeralError → String
  | .tooLong digits => limitNotice ++ s!": value has {digits} digits" ++ limitAdvice
  | .tooLarge => limitNotice ++ limitAdvice
  | .malformed text =>
    "invalid literal for int() with base 10: " ++ String.ofList ((quoted text).take quotedExtent)

end VersionStamp.Text
