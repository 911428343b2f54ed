/-! The shortest decimal that reads back as a given binary floating-point number. A binary number
`m * 2 ^ q` is read back from every decimal that lies between the midpoints to its neighbours; the
shortest decimals are searched for by their number of digits, in exact arithmetic. -/

namespace VersionStamp.Decimal

structure Binary where
  mantissa : Nat
  exponent : Int
  deriving DecidableEq, Repr

structure Scientific where
  digits : Nat
  exponent : Int
  deriving DecidableEq, Repr

namespace Binary

/-- The magnitude of a finite double, from the bits of its exponent and fraction. -/
def ofBits (bits : Nat) : Binary :=
  let fraction : Nat := bits % Nat.pow 2 52
  let biased : Nat := bits / Nat.pow 2 52 % Nat.pow 2 11
  if biased = 0 then ⟨fraction, -1074⟩ else ⟨Nat.pow 2 52 + fraction, (biased : Int) - 1075⟩

def numerator (b : Binary) (quarters : Nat) : Nat := quarters * Nat.pow 2 b.exponent.toNat

def denominator (b : Binary) : Nat := 4 * Nat.pow 2 (-b.exponent).toNat

/-- The distance to the midpoint below, in quarters of a unit: less at a power of two. -/
def below (b : Binary) : Nat :=
  if b.mantissa = Nat.pow 2 52 ∧ b.exponent ≠ -1074 then 1 else 2

/-- The order of a fraction `n / d` against the decimal `digits * 10 ^ exponent`. -/
def compareDecimal (n d : Nat) (s : Scientific) : Ordering :=
  compare (n * Nat.pow 10 (-s.exponent).toNat) (s.digits * Nat.pow 10 s.exponent.toNat * d)

/-- A decimal reads back as the number. The midpoints do so if the mantissa is even. -/
def readsBack (b : Binary) (s : Scientific) : Bool :=
  let low := compareDecimal (b.numerator (4 * b.mantissa - b.below)) b.denominator s
  let high := compareDecimal (b.numerator (4 * b.mantissa + 2)) b.denominator s
  let even := b.mantissa % 2 == 0
  (low == .lt || (even && low == .eq)) && (high == .gt || (even && high == .eq))

/-- The largest power of ten that is at most the number, given as an exponent. -/
def magnitude (b : Binary) : Int :=
  let n := b.numerator (4 * b.mantissa)
  let d := b.denominator
  let guess : Int := (Nat.toDigits 10 n).length - (Nat.toDigits 10 d).length
  if compareDecimal n d ⟨1, guess⟩ == .lt then guess - 1 else guess

def floorAt (b : Binary) (count : Nat) : Scientific :=
  let exponent := b.magnitude - count + 1
  let n := b.numerator (4 * b.mantissa) * Nat.pow 10 (-exponent).toNat
  ⟨n / (b.denominator * Nat.pow 10 exponent.toNat), exponent⟩

def nearer (b : Binary) (s : Scientific) : Scientific :=
  let above : Scientific := ⟨s.digits + 1, s.exponent⟩
  let middle : Scientific := ⟨10 * s.digits + 5, s.exponent - 1⟩
  match compareDecimal (b.numerator (4 * b.mantissa)) b.denominator middle with
  | .lt => s
  | .gt => above
  | .eq => if s.digits % 2 = 0 then s else above

def withDigits? (b : Binary) (count : Nat) : Option Scientific :=
  let low := b.floorAt count
  let high : Scientific := ⟨low.digits + 1, low.exponent⟩
  match b.readsBack low, b.readsBack high with
  | true, true => some (b.nearer low)
  | true, false => some low
  | false, true => some high
  | false, false => none

/-- The decimal of the fewest digits that reads back. Seventeen digits always do. -/
def shortest (b : Binary) : Scientific :=
  ((List.range' 1 17).findSome? b.withDigits?).getD (b.floorAt 17)

end Binary

def trimZeros (s : Scientific) : Scientific :=
  let digits := Nat.toDigits 10 s.digits
  let zeros := (digits.reverse.takeWhile (· == '0')).length
  ⟨s.digits / Nat.pow 10 zeros, s.exponent + zeros⟩

/-- Where a decimal is written with an exponent, and how. -/
structure NumberStyle where
  /-- The exponents of the first digit from which positional notation is given up. -/
  least : Int
  most : Int
  /-- The least number of digits of a written exponent. -/
  exponentWidth : Nat

/-- Numbers in messages: positional from `0.0001` up to sixteen places before the point, and at
least two digits of exponent beyond. -/
def messageStyle : NumberStyle := ⟨-4, 16, 2⟩

def writeExponent (style : NumberStyle) (e : Int) : List Char :=
  let digits := Nat.toDigits 10 e.natAbs
  'e' :: (if e < 0 then '-' else '+') ::
    List.replicate (style.exponentWidth - digits.length) '0' ++ digits

def write (style : NumberStyle) (s : Scientific) : List Char :=
  let digits := Nat.toDigits 10 s.digits
  let first : Int := s.exponent + digits.length - 1
  if style.least ≤ first ∧ first < style.most then
    if s.exponent ≥ 0 then digits ++ List.replicate s.exponent.toNat '0' ++ ['.', '0']
    else if first < 0 then '0' :: '.' :: List.replicate (-first - 1).toNat '0' ++ digits
    else digits.take (first.toNat + 1) ++ '.' :: digits.drop (first.toNat + 1)
  else
    match digits with
    | [] => []
    | [d] => d :: writeExponent style first
    | d :: rest => d :: '.' :: rest ++ writeExponent style first

def floatText (f : Float) : List Char :=
  let sign := if f.toBits >>> 63 == 1 then ['-'] else []
  if f.isNaN then "nan".toList
  else if f.isInf then sign ++ "inf".toList
  else
    let b := Binary.ofBits (f.toBits.toNat % Nat.pow 2 63)
    if b.mantissa = 0 then sign ++ "0.0".toList
    else sign ++ write messageStyle (trimZeros b.shortest)

end VersionStamp.Decimal
