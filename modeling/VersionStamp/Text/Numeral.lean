import VersionStamp.Text.Blank
import VersionStamp.Text.Digit

/-! Integers as decimal text. Writing gives the shortest form, reading takes the digits of any
script, mixed and with leading zeros. Neither side handles more than 4300 digits: a longer
numeral is refused before its value is computed. -/

namespace VersionStamp.Text

/-- The longest numeral that is read or written. -/
def digitLimit : Nat := 4300

inductive NumeralError
  | tooLong (digits : Nat)
  | tooLarge
  | malformed (text : List Char)
  deriving DecidableEq, Repr

def decimal (n : Nat) : List Char := Nat.toDigits 10 n

theorem decimal_length_le_iff {n k : Nat} (h : 0 < k) : (decimal n).length ≤ k ↔ n < Nat.pow 10 k :=
  Nat.length_toDigits_le_iff (by decide) h

def isWritable (n : Nat) : Bool := n < Nat.pow 10 digitLimit

theorem isWritable_iff {n : Nat} : isWritable n = true ↔ (decimal n).length ≤ digitLimit := by
  rw [decimal_length_le_iff (by decide)]
  simp [isWritable]

def writeNat (n : Nat) : Except NumeralError (List Char) :=
  if isWritable n then .ok (decimal n) else .error .tooLarge

def writeInt (i : Int) : Except NumeralError (List Char) := do
  let digits ← writeNat i.natAbs
  return if i < 0 then '-' :: digits else digits

/-- The decimal text of `n`, with zeros before it up to `width` characters. -/
def padded (width n : Nat) : List Char :=
  List.replicate (width - (decimal n).length) '0' ++ decimal n

/-- The value of a run of digits, most significant first. -/
def digitsValue (digits : List Char) : Nat :=
  digits.foldl (fun value c => 10 * value + digitValue c) 0

/-- Reads a run of digits, leading zeros counted in its length. -/
def readDigits (digits : List Char) : Except NumeralError Nat :=
  if digits.length ≤ digitLimit then .ok (digitsValue digits) else .error (.tooLong digits.length)

/-- The digits of a numeral whose digits may be set apart by single low lines. -/
def joinDigits? : List Char → Option (List Char)
  | [] => none
  | [c] => if isDigit c then some [c] else none
  | c :: '_' :: rest => if isDigit c then (joinDigits? rest).map (c :: ·) else none
  | c :: rest => if isDigit c then (joinDigits? rest).map (c :: ·) else none

def splitSign : List Char → Bool × List Char
  | '-' :: rest => (true, rest)
  | '+' :: rest => (false, rest)
  | text => (false, text)

/-- Reads an integer: white space around it, one sign, digits of any script with single low lines
between them. A run of too many digits is reported even if the text goes wrong after it. -/
def readInt (text : List Char) : Except NumeralError Int :=
  let (negative, body) := splitSign (text.dropWhile isNumeralBlank)
  let run := body.takeWhile fun c => isDigit c || c == '_'
  let rest := body.dropWhile fun c => isDigit c || c == '_'
  match joinDigits? run with
  | none => .error (.malformed text)
  | some digits =>
    match readDigits digits with
    | .error e => .error e
    | .ok value =>
      if rest.all isNumeralBlank then .ok (if negative then -value else value)
      else .error (.malformed text)

end VersionStamp.Text
