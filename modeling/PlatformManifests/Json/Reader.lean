import PlatformManifests.Json.Number

/-!
Reading JSON. An object lists its members by ascending name, and the last of repeated names counts.

Every reader takes the characters still to be read and gives back those it left; the fuel, the
number of characters of the whole text, bounds the nesting.
-/
namespace PlatformManifests.Json

def isBlank (c : Char) : Bool := c = ' ' || c = '\t' || c = '\n' || c = '\r'

def skipBlank (text : List Char) : List Char := text.dropWhile isBlank

def hexValue? (c : Char) : Option Nat :=
  if c.isDigit then some (c.toNat - '0'.toNat)
  else if 'a' ≤ c ∧ c ≤ 'f' then some (c.toNat - 'a'.toNat + 10)
  else if 'A' ≤ c ∧ c ≤ 'F' then some (c.toNat - 'A'.toNat + 10)
  else none

/-- Four hexadecimal digits. -/
def readUnit? : List Char → Option (Nat × List Char)
  | a :: b :: c :: d :: rest => do
    let first ← hexValue? a
    let second ← hexValue? b
    let third ← hexValue? c
    let fourth ← hexValue? d
    some (((first * 16 + second) * 16 + third) * 16 + fourth, rest)
  | _ => none

/-- A character given by one code unit, or by a pair of surrogates. -/
def readCodePoint? (text : List Char) : Option (Char × List Char) := do
  let (unit, rest) ← readUnit? text
  if 0xD800 ≤ unit ∧ unit < 0xDC00 then
    match rest with
    | '\\' :: 'u' :: tail => do
      let (low, after) ← readUnit? tail
      if 0xDC00 ≤ low ∧ low < 0xE000 then
        some (Char.ofNat (0x10000 + (unit - 0xD800) * 0x400 + (low - 0xDC00)), after)
      else none
    | _ => none
  else if 0xDC00 ≤ unit ∧ unit < 0xE000 then none
  else some (Char.ofNat unit, rest)

/-- The character that an escape stands for. -/
def readEscape? : List Char → Option (Char × List Char)
  | 'u' :: rest => readCodePoint? rest
  | c :: rest =>
    if c = '"' ∨ c = '\\' ∨ c = '/' then some (c, rest)
    else if c = 'b' then some ('\x08', rest)
    else if c = 'f' then some ('\x0c', rest)
    else if c = 'n' then some ('\n', rest)
    else if c = 'r' then some ('\r', rest)
    else if c = 't' then some ('\t', rest)
    else none
  | [] => none

/-- The characters up to the closing quote. -/
def readQuoted? : Nat → List Char → List Char → Option (String × List Char)
  | 0, _, _ => none
  | fuel + 1, done, text =>
    match text with
    | '"' :: rest => some (String.ofList done.reverse, rest)
    | '\\' :: rest => do
      let (c, after) ← readEscape? rest
      readQuoted? fuel (c :: done) after
    | c :: rest => if c.toNat < 0x20 then none else readQuoted? fuel (c :: done) rest
    | [] => none

mutual

def readValue? : Nat → List Char → Option (Json × List Char)
  | 0, _ => none
  | fuel + 1, text =>
    match skipBlank text with
    | 'n' :: 'u' :: 'l' :: 'l' :: rest => some (.null, rest)
    | 't' :: 'r' :: 'u' :: 'e' :: rest => some (.bool true, rest)
    | 'f' :: 'a' :: 'l' :: 's' :: 'e' :: rest => some (.bool false, rest)
    | '"' :: rest => do
      let (value, after) ← readQuoted? (rest.length + 1) [] rest
      some (.str value, after)
    | '[' :: rest =>
      match skipBlank rest with
      | ']' :: after => some (.array [], after)
      | _ => readItems? fuel [] rest
    | '\x7b' :: rest =>
      match skipBlank rest with
      | '\x7d' :: after => some (.object [], after)
      | _ => readMembers? fuel ∅ rest
    | number => do
      let value ← number? (number.takeWhile isNumberChar)
      some (value, number.dropWhile isNumberChar)

def readItems? : Nat → List Json → List Char → Option (Json × List Char)
  | 0, _, _ => none
  | fuel + 1, done, text => do
    let (item, rest) ← readValue? fuel text
    match skipBlank rest with
    | ',' :: after => readItems? fuel (item :: done) after
    | ']' :: after => some (.array (item :: done).reverse, after)
    | _ => none

def readMembers? : Nat → Dict Json → List Char → Option (Json × List Char)
  | 0, _, _ => none
  | fuel + 1, done, text =>
    match skipBlank text with
    | '"' :: start => do
      let (name, colon) ← readQuoted? (start.length + 1) [] start
      match skipBlank colon with
      | ':' :: valueText => do
        let (value, rest) ← readValue? fuel valueText
        match skipBlank rest with
        | ',' :: after => readMembers? fuel (done.insert name value) after
        | '\x7d' :: after => some (.object (done.insert name value).entries, after)
        | _ => none
      | _ => none
    | _ => none

end

/-- Reads a text that holds one value and nothing else. -/
def read? (text : String) : Option Json :=
  match readValue? (2 * text.toList.length + 2) text.toList with
  | some (value, rest) => if (skipBlank rest).isEmpty then some value else none
  | none => none

end PlatformManifests.Json
