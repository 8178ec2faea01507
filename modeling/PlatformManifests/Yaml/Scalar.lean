import PlatformManifests.Binary64

/-!
What a plain scalar stands for: nothing, a truth value, a number, or its own text.

Whole numbers have a sign and decimal digits, or a base mark and digits of that base. Decimal
digits that start with a superfluous zero are text.
-/
namespace PlatformManifests.Yaml

/-- A whole number is `wide` when 64 bits do not hold it. -/
inductive Scalar where
  | null
  | bool (value : Bool)
  | int (value : Int)
  | wide (value : Int)
  | real (value : Binary64)
  | text (value : String)
deriving DecidableEq, Repr

namespace Scalar

def isNull (text : List Char) : Bool :=
  [[], "~".toList, "null".toList, "Null".toList, "NULL".toList].contains text

def bool? (text : List Char) : Option Bool :=
  if ["true".toList, "True".toList, "TRUE".toList].contains text then some true
  else if ["false".toList, "False".toList, "FALSE".toList].contains text then some false
  else none

def digitValue? (base : Nat) (c : Char) : Option Nat :=
  let value :=
    if c.isDigit then c.toNat - '0'.toNat
    else if 'a' ≤ c ∧ c ≤ 'z' then c.toNat - 'a'.toNat + 10
    else if 'A' ≤ c ∧ c ≤ 'Z' then c.toNat - 'A'.toNat + 10
    else base
  if value < base then some value else none

/-- The value of one or more digits. -/
def digits? (base : Nat) (text : List Char) : Option Nat :=
  if text.isEmpty then none
  else text.foldl (fun sum c => do some ((← sum) * base + (← digitValue? base c))) (some 0)

/-- Digits after a base mark. -/
def marked? : List Char → Option Nat
  | '0' :: 'x' :: digits => digits? 16 digits
  | '0' :: 'o' :: digits => digits? 8 digits
  | '0' :: 'b' :: digits => digits? 2 digits
  | _ => none

def dropSign : List Char → List Char
  | '+' :: rest => rest
  | '-' :: rest => rest
  | unsigned => unsigned

/-- Decimal digits that start with a superfluous zero, behind an optional sign. -/
def isPadded (text : List Char) : Bool :=
  match dropSign text with
  | '0' :: digit :: rest => (digit :: rest).all Char.isDigit
  | _ => false

/-- The magnitude of a whole number without its sign; `signed` is the text with the sign. -/
def magnitude? (signed unsigned : List Char) : Option Nat :=
  match marked? unsigned with
  | some value => some value
  | none => if isPadded signed then none else digits? 10 unsigned

/-- A whole number, and whether it has a minus sign. -/
def whole? (text : List Char) : Option (Bool × Nat) :=
  match text with
  | '-' :: rest => (magnitude? text rest).map (true, ·)
  | '+' :: rest => (magnitude? text rest).map (false, ·)
  | _ => (magnitude? text text).map (false, ·)

/-- A whole number of at most 64 bits without a minus sign. -/
def natural? (text : List Char) : Option Nat :=
  match whole? text with
  | some (false, value) => if value ≤ 18446744073709551615 then some value else none
  | _ => none

/-- Whether 64 bits hold a number, with a sign or without. -/
def isNarrow (value : Int) : Bool := -9223372036854775808 ≤ value && value ≤ 18446744073709551615

/-- Whether 128 bits hold a number, with a sign or without. -/
def isWide (value : Int) : Bool :=
  -170141183460469231731687303715884105728 ≤ value
    && value ≤ 340282366920938463463374607431768211455

/-- A whole number of at most 128 bits. -/
def int? (text : List Char) : Option Scalar :=
  match whole? text with
  | some (negative, value) =>
    let signed : Int := if negative then -value else value
    if isNarrow signed then some (.int signed)
    else if isWide signed then some (.wide signed)
    else none
  | none => none

def special? (text : List Char) : Option Binary64 :=
  let unsigned := match text with
    | '+' :: rest => rest
    | _ => text
  if [".inf".toList, ".Inf".toList, ".INF".toList].contains unsigned then some (.infinite false)
  else if ["-.inf".toList, "-.Inf".toList, "-.INF".toList].contains text then some (.infinite true)
  else if [".nan".toList, ".NaN".toList, ".NAN".toList].contains text then some .notNumber
  else none

/-- A number with a point, an exponent, or too many digits for 128 bits. -/
def real? (text : List Char) : Option Binary64 :=
  match special? text with
  | some value => some value
  | none => do
    let decimal ← Decimal.ofText? text
    let value := Binary64.nearest decimal
    if value.isFinite then some value else none

def ofPlain (text : String) : Scalar :=
  let chars := text.toList
  if isNull chars then .null
  else
    match bool? chars with
    | some value => .bool value
    | none =>
      match int? chars with
      | some number => number
      | none =>
        if isPadded chars then .text text
        else
          match real? chars with
          | some value => .real value
          | none => .text text

end Scalar

end PlatformManifests.Yaml
