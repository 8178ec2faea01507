import PlatformManifests.Json.Basic

/-!
Numbers of JSON texts.

A number without a point and an exponent that fits 64 bits is an integer. Any other one is read as
a binary64 number, but not as the nearest one: of its digits only those count that 64 bits can
hold, and these are rounded before the power of ten is applied, which is rounded as well.
-/
namespace PlatformManifests.Json

/-- A number as it is written. -/
structure Numeral where
  negative : Bool
  whole : List Char
  fraction : Option (List Char)
  exponent : Option Int

namespace Numeral

def ofText? (token : List Char) : Option Numeral := do
  let (negative, body) := match token with
    | '-' :: rest => (true, rest)
    | rest => (false, rest)
  let whole := body.takeWhile Char.isDigit
  let (fraction, rest) := match body.dropWhile Char.isDigit with
    | '.' :: tail => (some (tail.takeWhile Char.isDigit), tail.dropWhile Char.isDigit)
    | other => (none, other)
  let padded := 1 < whole.length && whole.head? == some '0'
  if whole.isEmpty || padded || fraction == some [] then none
  else
    let exponent ← Decimal.exponent? rest
    some ⟨negative, whole, fraction, if rest.isEmpty then none else some exponent⟩

/-- The integer, if it is written as one and 64 bits hold it; `-0` is not one. -/
def integer? (numeral : Numeral) : Option Int :=
  let size := Decimal.ofDigits numeral.whole
  let value : Int := if numeral.negative then -size else size
  let narrow := -9223372036854775808 ≤ value && value < 18446744073709551616
  if numeral.fraction.isNone && numeral.exponent.isNone && narrow
      && !(numeral.negative && size = 0) then some value
  else none

/-- Appends digits to a number as long as 64 bits hold it; the digits that are left come second. -/
def gather : Nat → List Char → Nat × List Char
  | value, [] => (value, [])
  | value, digit :: rest =>
    let longer := Decimal.ofDigits [digit] + value * 10
    if longer < 18446744073709551616 then gather longer rest else (value, digit :: rest)

/-- The digits that count, and the power of ten of the last one. A digit before the point still
counts as a place when its value is given up. -/
def significand (numeral : Numeral) : Nat × Int :=
  let fraction := numeral.fraction.getD []
  let (whole, passed) := gather 0 numeral.whole
  let (value, ignored) := gather whole fraction
  let places : Int := (fraction.length : Int) - ignored.length
  (value, numeral.exponent.getD 0 + passed.length - places)

/-- The greatest power of ten that is applied at once. -/
def widestStep : Int := 308

def tenTo (power : Int) : Ratio := Binary64.rounded (Ratio.power 1 10 power)

/-- A fraction times a power of ten, in steps of at most 308 places downwards and in one step
upwards. No more than one step up is possible, except for zero. -/
def scaled (value : Ratio) (power : Int) : Option Ratio :=
  if value.top = 0 then some value
  else if widestStep < power then none
  else if 0 ≤ power then some (value.mul (tenTo power))
  else if -widestStep ≤ power then some (value.div (tenTo (-power)))
  else
    let first := Binary64.rounded (value.div (tenTo widestStep))
    if -(2 * widestStep) ≤ power then some (first.div (tenTo (-power - widestStep)))
    else some ⟨0, 1⟩

/-- The binary64 number that a numeral is read as. None is infinite. -/
def real? (numeral : Numeral) : Option Binary64 := do
  let (value, power) := numeral.significand
  let ratio ← scaled (Binary64.rounded ⟨value, 1⟩) power
  let real := Binary64.ofRatio numeral.negative ratio
  if real.isFinite then some real else none

end Numeral

def isNumberChar (c : Char) : Bool :=
  c.isDigit || c = '-' || c = '+' || c = '.' || c = 'e' || c = 'E'

def number? (token : List Char) : Option Json := do
  let numeral ← Numeral.ofText? token
  match numeral.integer? with
  | some value => some (.int value)
  | none => numeral.real?.map .real

end PlatformManifests.Json
