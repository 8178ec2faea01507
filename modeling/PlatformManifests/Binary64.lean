/-!
Binary64 numbers as they are written: the shortest decimal that reads back as the same number.

`Binary64.ofRatio` rounds a fraction to the nearest binary64 number, a tie to the even mantissa, and
then looks for the fewest digits that lie in the interval of reals rounding to that number. All of
it is exact arithmetic on natural numbers.
-/
namespace PlatformManifests

/-- A finite number is `digits * 10 ^ scale`, with the fewest digits that identify it. -/
inductive Binary64 where
  | notNumber
  | infinite (negative : Bool)
  | finite (negative : Bool) (digits : Nat) (scale : Int)
deriving DecidableEq, Repr

/-- A decimal as it stands in a text: `digits * 10 ^ scale`. -/
structure Decimal where
  negative : Bool
  digits : Nat
  scale : Int
deriving DecidableEq, Repr

/-- A nonnegative fraction; the denominator is positive. -/
structure Ratio where
  top : Nat
  bottom : Nat

namespace Ratio

/-- The fraction `factor * base ^ power`. -/
def power (factor base : Nat) (power : Int) : Ratio :=
  if 0 ≤ power then ⟨factor * Nat.pow base power.toNat, 1⟩
  else ⟨factor, Nat.pow base (-power).toNat⟩

def lt (first second : Ratio) : Bool := first.top * second.bottom < second.top * first.bottom

def le (first second : Ratio) : Bool := first.top * second.bottom ≤ second.top * first.bottom

def mul (first second : Ratio) : Ratio := ⟨first.top * second.top, first.bottom * second.bottom⟩

def div (first second : Ratio) : Ratio := ⟨first.top * second.bottom, first.bottom * second.top⟩

def floor (ratio : Ratio) : Nat := ratio.top / ratio.bottom

/-- The nearest natural number; a half goes to the even neighbour. -/
def roundEven (ratio : Ratio) : Nat :=
  let whole := ratio.top / ratio.bottom
  let twice := 2 * (ratio.top % ratio.bottom)
  if twice < ratio.bottom then whole
  else if ratio.bottom < twice then whole + 1
  else whole + whole % 2

/-- The greatest power of ten that is not above a positive fraction. -/
def decimalExponent (ratio : Ratio) : Int :=
  let bits : Int := (Nat.log2 ratio.top : Int) - (Nat.log2 ratio.bottom : Int)
  let guess := (bits * 30103).fdiv 100000
  if (power 1 10 (guess + 1)).le ratio then guess + 1
  else if (power 1 10 guess).le ratio then guess
  else guess - 1

end Ratio

namespace Binary64

/-- The bound of the mantissas, which have 53 bits. -/
def mantissaBound : Nat := 9007199254740992

/-- The least mantissa with all 53 bits. -/
def fullMantissa : Nat := 4503599627370496

/-- The mantissa and the binary exponent of the binary64 number nearest to a positive fraction. -/
def mantissa (ratio : Ratio) : Nat × Int :=
  let bits : Int := (Nat.log2 ratio.top : Int) - (Nat.log2 ratio.bottom : Int)
  let guess := bits - 53
  let tight := if (Ratio.power mantissaBound 2 guess).le ratio then guess + 1 else guess
  let exponent := max tight (-1074)
  let rounded := (ratio.div (Ratio.power 1 2 exponent)).roundEven
  if rounded = mantissaBound then (fullMantissa, exponent + 1) else (rounded, exponent)

/-- Whether a decimal rounds to the binary64 number `mantissa * 2 ^ exponent`. -/
def readsBack (mantissa : Nat) (exponent : Int) (digits : Nat) (scale : Int) : Bool :=
  let below := if mantissa = fullMantissa ∧ -1074 < exponent then 1 else 2
  let low := Ratio.power (4 * mantissa - below) 2 (exponent - 2)
  let high := Ratio.power (4 * mantissa + 2) 2 (exponent - 2)
  let candidate := Ratio.power digits 10 scale
  if mantissa % 2 = 0 then low.le candidate && candidate.le high
  else low.lt candidate && candidate.lt high

/-- The decimal with `count` digits nearest to a binary64 number, if it reads back. -/
def withDigits (mantissa : Nat) (exponent : Int) (count : Nat) : Option (Nat × Int) :=
  let value := Ratio.power mantissa 2 exponent
  let scale := value.decimalExponent - count + 1
  let lower := (value.div (Ratio.power 1 10 scale)).floor
  let nearer := (value.div (Ratio.power 1 10 scale)).roundEven
  let other := if nearer = lower then lower + 1 else lower
  if readsBack mantissa exponent nearer scale then some (nearer, scale)
  else if readsBack mantissa exponent other scale then some (other, scale)
  else none

/-- Moves trailing zeros of the digits into the scale; `fuel` bounds their number. -/
def trim : Nat → Nat → Int → Nat × Int
  | 0, digits, scale => (digits, scale)
  | fuel + 1, digits, scale =>
    if digits ≠ 0 ∧ digits % 10 = 0 then trim fuel (digits / 10) (scale + 1) else (digits, scale)

def shortest (mantissa : Nat) (exponent : Int) : Nat × Int :=
  let found := (List.range 17).findSome? fun index => withDigits mantissa exponent (index + 1)
  let (digits, scale) := found.getD (mantissa, 0)
  trim 20 digits scale

/-- A fraction rounded to 53 bits, as binary64 numbers are that lie below their upper bound. -/
def rounded (ratio : Ratio) : Ratio :=
  if ratio.top = 0 then ratio
  else
    let (bits, exponent) := mantissa ratio
    Ratio.power bits 2 exponent

/-- The binary64 number nearest to a fraction. -/
def ofRatio (negative : Bool) (ratio : Ratio) : Binary64 :=
  if ratio.top = 0 then .finite negative 0 0
  else
    let (bits, exponent) := mantissa ratio
    if 971 < exponent then .infinite negative
    else if bits = 0 then .finite negative 0 0
    else
      let (digits, scale) := shortest bits exponent
      .finite negative digits scale

/-- The binary64 number nearest to a decimal. -/
def nearest (decimal : Decimal) : Binary64 :=
  let length : Int := (Nat.toDigits 10 decimal.digits).length
  if decimal.digits = 0 ∨ length + decimal.scale < -330 then .finite decimal.negative 0 0
  else if 310 < length + decimal.scale then .infinite decimal.negative
  else ofRatio decimal.negative (Ratio.power decimal.digits 10 decimal.scale)

def isFinite : Binary64 → Bool
  | .finite .. => true
  | _ => false

def zeros (count : Nat) : String := String.ofList (List.replicate count '0')

/-- Digits with a point before the last `places` of them, and at least one digit before it. -/
def pointed (digits : Nat) (places : Nat) : String :=
  let text := Nat.toDigits 10 digits
  let padded := List.replicate (places + 1 - text.length) '0' ++ text
  let whole := padded.length - places
  String.ofList (padded.take whole ++ '.' :: padded.drop whole)

/-- Positional notation with at least one digit on either side of the point. -/
def magnitude (digits : Nat) (scale : Int) : String :=
  if 0 ≤ scale then toString digits ++ (if digits = 0 then "" else zeros scale.toNat) ++ ".0"
  else pointed digits (-scale).toNat

def sign (negative : Bool) : String := if negative then "-" else ""

/-- Positional notation whatever the size. -/
def positional : Binary64 → String
  | .notNumber => "NaN"
  | .infinite negative => sign negative ++ "inf"
  | .finite negative digits scale => sign negative ++ magnitude digits scale

/-- Positional notation from `1e-5` up to `1e16`, scientific notation outside; `plus` is written
before an exponent that is not negative. -/
def scientific (plus : String) : Binary64 → String
  | .notNumber => "NaN"
  | .infinite negative => sign negative ++ "inf"
  | .finite negative digits scale =>
    let text := Nat.toDigits 10 digits
    let point : Int := text.length + scale
    if digits = 0 then sign negative ++ "0.0"
    else if -5 < point ∧ point ≤ 16 then sign negative ++ magnitude digits scale
    else
      let tail := if text.length = 1 then "" else "." ++ String.ofList (text.drop 1)
      let power := (if 0 < point then plus else "") ++ toString (point - 1)
      sign negative ++ String.ofList (text.take 1) ++ tail ++ "e" ++ power

/-- Exponents have a sign only if they are negative. -/
def compact (value : Binary64) : String := value.scientific ""

/-- Exponents always have a sign. -/
def signed (value : Binary64) : String := value.scientific "+"

end Binary64

namespace Decimal

/-- The value of decimal digits, most significant first. -/
def ofDigits (digits : List Char) : Nat :=
  digits.foldl (fun value digit => value * 10 + (digit.toNat - '0'.toNat)) 0

/-- A sign, and what follows it. -/
def splitSign : List Char → Bool × List Char
  | '-' :: rest => (true, rest)
  | '+' :: rest => (false, rest)
  | text => (false, text)

/-- The exponent after the digits: nothing, or `e` with a signed number. -/
def exponent? : List Char → Option Int
  | [] => some 0
  | letter :: rest =>
    if letter = 'e' ∨ letter = 'E' then
      let (negative, digits) := splitSign rest
      if digits.isEmpty || !digits.all Char.isDigit then none
      else
        let value : Int := ofDigits digits
        some (if negative then -value else value)
    else none

/-- Reads a signed decimal: digits with an optional point and an optional exponent. -/
def ofText? (text : List Char) : Option Decimal := do
  let (negative, body) := splitSign text
  let whole := body.takeWhile Char.isDigit
  let afterWhole := body.dropWhile Char.isDigit
  let (fraction, rest) := match afterWhole with
    | '.' :: tail => (tail.takeWhile Char.isDigit, tail.dropWhile Char.isDigit)
    | other => ([], other)
  if whole.isEmpty && fraction.isEmpty then none
  else
    let power ← exponent? rest
    some ⟨negative, ofDigits (whole ++ fraction), power - fraction.length⟩

end Decimal

end PlatformManifests
