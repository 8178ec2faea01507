import PlatformManifests.Yaml.Input
import PlatformManifests.Yaml.ScalarText
import PlatformManifests.Yaml.Token

/-!
The small tokens around nodes: anchors and aliases, tags, and the directives before a document.
-/
namespace PlatformManifests.Yaml

/-- An anchor or an alias: its mark character and a name. -/
def readName (activity : String) (input : Input) : Scan (String × Input) :=
  let (name, rest) := (input.skip 1).span isWordChar
  let stops (c : Char) : Bool := c = '?' || c = ':' || c = ',' || c = ']' || c = '}' || c = '%'
    || c = '@' || c = '`'
  if name.isEmpty || !(rest.blankOrEnd 0 || rest.head.any stops) then
    .error (rest.fault "did not find expected alphabetic or numeric character"
      (some (activity, input.mark)))
  else .ok (String.ofList name, rest)

/-! ### Tags -/

/-- What is being read when a tag turns out to be wrong. -/
structure TagPlace where
  activity : String
  start : Mark

def TagPlace.fault (place : TagPlace) (input : Input) (problem : String) : SyntaxFault :=
  input.fault problem (some (place.activity, place.start))

/-- An exclamation mark, a name, and possibly a second exclamation mark. -/
def readHandle (inDirective : Bool) (place : TagPlace) (input : Input) :
    Scan (List Char × Input) :=
  if !input.startsWith '!' then .error (place.fault input "did not find expected '!'")
  else
    let (name, rest) := (input.skip 1).span isWordChar
    if rest.startsWith '!' then .ok ('!' :: (name ++ ['!']), rest.skip 1)
    else if inDirective && !name.isEmpty then
      .error (place.fault rest "did not find expected '!'")
    else .ok ('!' :: name, rest)

/-- The number of octets that a first octet announces. -/
def octetCount? (octet : UInt8) : Option Nat :=
  if octet < 0x80 then some 1
  else if 0xC0 ≤ octet ∧ octet < 0xE0 then some 2
  else if 0xE0 ≤ octet ∧ octet < 0xF0 then some 3
  else if 0xF0 ≤ octet ∧ octet < 0xF8 then some 4
  else none

def readOctet (place : TagPlace) (input : Input) : Scan (UInt8 × Input) :=
  match input.chars with
  | '%' :: high :: low :: _ =>
    match hexNumber? [high, low] with
    | some octet => .ok (octet.toUInt8, input.skip 3)
    | none => .error (place.fault input "did not find URI escaped octet")
  | _ => .error (place.fault input "did not find URI escaped octet")

def readTrailingOctets (place : TagPlace) : Nat → Input → Scan (Tag.Octets × Input)
  | 0, input => .ok ([], input)
  | count + 1, input => do
    let (octet, rest) ← readOctet place input
    if octet < 0x80 ∨ 0xC0 ≤ octet then
      .error (place.fault input "found an incorrect trailing UTF-8 octet")
    else do
      let (others, after) ← readTrailingOctets place count rest
      .ok (octet :: others, after)

/-- Escaped octets: a first one, and as many trailing ones as it announces. -/
def readOctets (place : TagPlace) (input : Input) : Scan (Tag.Octets × Input) := do
  let (octet, rest) ← readOctet place input
  match octetCount? octet with
  | none => .error (place.fault input "found an incorrect leading UTF-8 octet")
  | some count => do
    let (others, after) ← readTrailingOctets place (count - 1) rest
    .ok (octet :: others, after)

def isTagChar (verbatim : Bool) (c : Char) : Bool :=
  isWordChar c || [';', '/', '?', ':', '@', '&', '=', '+', '$', '.', '%', '!', '~', '*', '\'',
    '(', ')'].contains c || (verbatim && [',', '[', ']'].contains c)

/-- The octets of the characters that a tag may hold; those read so far come in reverse. -/
def readTagChars (verbatim : Bool) (place : TagPlace) :
    Nat → Tag.Octets → Input → Scan (Tag.Octets × Input)
  | 0, done, input => .ok (done.reverse, input)
  | fuel + 1, done, input =>
    match input.head with
    | some c =>
      if !isTagChar verbatim c then .ok (done.reverse, input)
      else if c = '%' then do
        let (octets, rest) ← readOctets place input
        readTagChars verbatim place fuel (octets.reverse ++ done) rest
      else readTagChars verbatim place fuel (c.toNat.toUInt8 :: done) (input.skip 1)
    | none => .ok (done.reverse, input)

/-- The rest of a tag after its handle; `lead` was read while looking for a handle. -/
def readTagRest (verbatim : Bool) (lead : List Char) (place : TagPlace) (input : Input) :
    Scan (Tag.Octets × Input) := do
  let (octets, rest) ← readTagChars verbatim place (input.chars.length + 1) [] input
  if lead.isEmpty && octets.isEmpty then
    .error (place.fault rest "did not find expected tag URI")
  else .ok (Tag.beforeNull (Tag.octetsOf (String.ofList (lead.drop 1)) ++ octets), rest)

/-- A tag as a handle and the rest. A verbatim tag and a lone exclamation mark have no handle. -/
def readTag (inFlow : Bool) (input : Input) : Scan (String × Tag.Octets × Input) := do
  let place : TagPlace := ⟨"while parsing a tag", input.mark⟩
  let scanning : TagPlace := ⟨"while scanning a tag", input.mark⟩
  let (handle, octets, rest) ←
    if input.peek 1 == some '<' then do
      let (octets, rest) ← readTagRest true [] place (input.skip 2)
      if rest.startsWith '>' then pure ([], octets, rest.skip 1)
      else .error (scanning.fault rest "did not find the expected '>'")
    else do
      let (lead, afterHandle) ← readHandle false scanning input
      if 1 < lead.length ∧ lead.getLast? = some '!' then
        let (octets, rest) ← readTagRest false [] place afterHandle
        pure (lead, octets, rest)
      else
        let (octets, rest) ← readTagRest false lead place afterHandle
        if octets.isEmpty then pure ([], [Tag.bang], rest) else pure (['!'], octets, rest)
  if (inFlow && rest.startsWith ',') || rest.blankOrEnd 0 then
    .ok (String.ofList handle, octets, rest)
  else .error (scanning.fault rest "did not find expected whitespace or line break")

/-! ### Directives -/

def readVersionNumber (start : Mark) (input : Input) : Scan (Nat × Input) :=
  let context := some ("while scanning a %YAML directive", start)
  let (digits, rest) := input.span Char.isDigit
  if 9 < digits.length then .error ((input.skip 9).fault "found extremely long version number" context)
  else if digits.isEmpty then .error (rest.fault "did not find expected version number" context)
  else .ok (digits.foldl (fun value digit => value * 10 + (digit.toNat - '0'.toNat)) 0, rest)

def readVersion (start : Mark) (input : Input) : Scan (TokenKind × Input) := do
  let (major, afterMajor) ← readVersionNumber start (input.skipWhile isBlank)
  if !afterMajor.startsWith '.' then
    .error (afterMajor.fault "did not find expected digit or '.' character"
      (some ("while scanning a %YAML directive", start)))
  else do
    let (minor, rest) ← readVersionNumber start (afterMajor.skip 1)
    .ok (.version major minor, rest)

def readShorthand (start : Mark) (input : Input) : Scan (TokenKind × Input) := do
  let place : TagPlace := ⟨"while scanning a %TAG directive", start⟩
  let (handle, afterHandle) ←
    readHandle true ⟨"while scanning a directive", start⟩ (input.skipWhile isBlank)
  if !afterHandle.atBlank then
    .error (place.fault afterHandle "did not find expected whitespace")
  else do
    let (lead, rest) ← readTagRest true [] ⟨"while parsing a %TAG directive", start⟩
      (afterHandle.skipWhile isBlank)
    if rest.blankOrEnd 0 then .ok (.shorthand (String.ofList handle) lead, rest)
    else .error (place.fault rest "did not find expected whitespace or line break")

/-- A directive from its percent sign to the end of its line. -/
def readDirective (input : Input) : Scan (Token × Input) := do
  let start := input.mark
  let context := some ("while scanning a directive", start)
  let (name, rest) := (input.skip 1).span isWordChar
  if name.isEmpty then .error (rest.fault "could not find expected directive name" context)
  else if !rest.blankOrEnd 0 then
    .error (rest.fault "found unexpected non-alphabetical character" context)
  else do
    let (kind, after) ←
      if name = "YAML".toList then readVersion start rest
      else if name = "TAG".toList then readShorthand start rest
      else .error (rest.fault "found unknown directive name" context)
    let lineEnd := after.skipComment
    if lineEnd.breakOrEnd then .ok (⟨kind, start, after.mark⟩, lineEnd.skipBreak)
    else .error (lineEnd.fault "did not find expected comment or line break" context)

end PlatformManifests.Yaml
