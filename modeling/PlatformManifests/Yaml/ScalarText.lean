import PlatformManifests.Yaml.Input
import PlatformManifests.Yaml.Token

/-!
The text of scalars: plain ones, quoted ones, and block scalars.

Inside a plain or a quoted scalar, blanks on one line are kept, and line ends are folded: a single
one becomes a space, and of several the first is dropped. Readers carry the text read so far in
reverse; their fuel is the number of characters that are left.
-/
namespace PlatformManifests.Yaml

/-- Blanks and line ends between two words of a scalar. -/
structure Gap where
  spaces : List Char
  first : List Char
  later : List Char
  broken : Bool

namespace Gap

def none : Gap := ⟨[], [], [], false⟩

/-- What a gap contributes to the scalar. -/
def text (gap : Gap) : List Char :=
  if gap.broken then
    match gap.first with
    | '\n' :: _ => if gap.later.isEmpty then [' '] else gap.later
    | _ => gap.first ++ gap.later
  else gap.spaces

def addBreak (gap : Gap) (lineEnd : List Char) : Gap :=
  if gap.broken then { gap with later := gap.later ++ lineEnd }
  else ⟨[], lineEnd, gap.later, true⟩

def addBlank (gap : Gap) (c : Char) : Gap :=
  if gap.broken then gap else { gap with spaces := gap.spaces ++ [c] }

/-- Reads a gap. After a line end, a tab left of the column `indent` is a fault. -/
def read (indent : Int) (activity : String) (start : Mark) :
    Nat → Gap → Input → Scan (Gap × Input)
  | 0, gap, input => .ok (gap, input)
  | fuel + 1, gap, input =>
    match input.head with
    | some c =>
      if isBlank c then
        if gap.broken ∧ input.mark.column < indent ∧ c = '\t' then
          .error (input.fault "found a tab character that violates indentation"
            (some (activity, start)))
        else read indent activity start fuel (gap.addBlank c) (input.skip 1)
      else if isBreak c then
        let (lineEnd, rest) := input.readBreak
        read indent activity start fuel (gap.addBreak lineEnd) rest
      else .ok (gap, input)
    | Option.none => .ok (gap, input)

end Gap

/-! ### Plain scalars -/

def isFlowIndicator (c : Char) : Bool :=
  c = ',' || c = '[' || c = ']' || c = '{' || c = '}'

/-- Whether a plain scalar ends before the next character. -/
def plainEnds (inFlow : Bool) (input : Input) : Bool :=
  (input.startsWith ':' && input.blankOrEnd 1) || (inFlow && input.head.any isFlowIndicator)

/-- In a flow collection a colon may not touch an indicator. -/
def strayColon (inFlow : Bool) (input : Input) : Bool :=
  inFlow && input.startsWith ':' && (input.peek 1).any fun c => isFlowIndicator c || c = '?'

structure PlainScalar where
  text : List Char
  stop : Mark
  /-- The scalar is followed by the end of its line. -/
  broken : Bool
  rest : Input

/-- Reads words and the gaps between them up to the end of the scalar. -/
def readPlainWords (inFlow : Bool) (indent : Int) (start : Mark) :
    Nat → List Char → Gap → Mark → Input → Scan PlainScalar
  | 0, done, gap, stop, input => .ok ⟨done.reverse, stop, gap.broken, input⟩
  | fuel + 1, done, gap, stop, input =>
    let ended : Scan PlainScalar := .ok ⟨done.reverse, stop, gap.broken, input⟩
    if input.blankOrEnd 0 then
      if input.atEnd then ended
      else do
        let (next, rest) ←
          gap.read indent "while scanning a plain scalar" start (fuel + 1) input
        if (!inFlow && rest.mark.column < indent) || rest.atDocumentMark '-'
            || rest.atDocumentMark '.' || rest.startsWith '#' then
          .ok ⟨done.reverse, stop, next.broken, rest⟩
        else readPlainWords inFlow indent start fuel done next stop rest
    else if strayColon inFlow input then
      .error (input.fault "found unexpected ':'" (some ("while scanning a plain scalar", start)))
    else if plainEnds inFlow input then ended
    else
      match input.chars with
      | c :: _ =>
        let rest := input.skip 1
        readPlainWords inFlow indent start fuel (c :: (gap.text.reverse ++ done)) Gap.none
          rest.mark rest
      | [] => ended

def readPlain (inFlow : Bool) (indent : Int) (input : Input) : Scan PlainScalar :=
  readPlainWords inFlow indent input.mark (2 * input.chars.length + 2) [] Gap.none input.mark input

/-! ### Quoted scalars -/

def hexValue? (c : Char) : Option Nat :=
  if c.isDigit then some (c.toNat - '0'.toNat)
  else if 'a' ≤ c ∧ c ≤ 'f' then some (c.toNat - 'a'.toNat + 10)
  else if 'A' ≤ c ∧ c ≤ 'F' then some (c.toNat - 'A'.toNat + 10)
  else Option.none

/-- The value of hexadecimal digits, all of them. -/
def hexNumber? (digits : List Char) : Option Nat :=
  digits.foldl (fun sum digit => do some ((← sum) * 16 + (← hexValue? digit))) (some 0)

/-- The character that a one-letter escape stands for. -/
def simpleEscape? : Char → Option Char
  | '0' => some '\x00'
  | 'a' => some '\x07'
  | 'b' => some '\x08'
  | 't' => some '\t'
  | '\t' => some '\t'
  | 'n' => some '\n'
  | 'v' => some '\x0b'
  | 'f' => some '\x0c'
  | 'r' => some '\r'
  | 'e' => some '\x1b'
  | ' ' => some ' '
  | '"' => some '"'
  | '/' => some '/'
  | '\\' => some '\\'
  | 'N' => some '\u0085'
  | '_' => some '\u00a0'
  | 'L' => some '\u2028'
  | 'P' => some '\u2029'
  | _ => Option.none

/-- The number of digits after the letter of a numeric escape. -/
def escapeLength? : Char → Option Nat
  | 'x' => some 2
  | 'u' => some 4
  | 'U' => some 8
  | _ => Option.none

/-- Reads what follows a backslash. -/
def readEscape (start : Mark) (input : Input) : Scan (Char × Input) :=
  let context := some ("while parsing a quoted scalar", start)
  match (input.peek 1).bind simpleEscape? with
  | some c => .ok (c, input.skip 2)
  | Option.none =>
    match (input.peek 1).bind escapeLength? with
    | Option.none => .error (input.fault "found unknown escape character" context)
    | some length =>
      let body := input.skip 2
      let digits := body.chars.take length
      match hexNumber? digits with
      | some code =>
        if digits.length < length then
          .error (body.fault "did not find expected hexdecimal number" context)
        else if (0xD800 ≤ code ∧ code ≤ 0xDFFF) ∨ 0x10FFFF < code then
          .error (body.fault "found invalid Unicode character escape code" context)
        else .ok (Char.ofNat code, body.skip length)
      | Option.none => .error (body.fault "did not find expected hexdecimal number" context)

/-- Reads up to the closing quote; `gap` is what was read since the last other character. -/
def readQuotedParts (single : Bool) (start : Mark) :
    Nat → List Char → Gap → Input → Scan (List Char × Input)
  | 0, _, _, input => .error (input.fault "found unexpected end of stream"
      (some ("while scanning a quoted scalar", start)))
  | fuel + 1, done, gap, input =>
    let context := some ("while scanning a quoted scalar", start)
    let quote := if single then '\'' else '"'
    match input.chars with
    | [] => .error (input.fault "found unexpected end of stream" context)
    | c :: _ =>
      if input.atDocumentMark '-' || input.atDocumentMark '.' then
        .error (input.fault "found unexpected document indicator" context)
      else if isBlank c || isBreak c then do
        let (next, rest) ← gap.read 0 "while scanning a quoted scalar" start (fuel + 1) input
        readQuotedParts single start fuel done next rest
      else
        let joined := gap.text.reverse ++ done
        if single && c = '\'' && input.peek 1 == some '\'' then
          readQuotedParts single start fuel ('\'' :: joined) Gap.none (input.skip 2)
        else if c = quote then .ok (joined.reverse, input.skip 1)
        else if !single && c = '\\' then
          if (input.peek 1).any isBreak then
            readQuotedParts single start fuel joined ⟨[], [], [], true⟩ (input.skip 1).skipBreak
          else do
            let (escaped, rest) ← readEscape start input
            readQuotedParts single start fuel (escaped :: joined) Gap.none rest
        else readQuotedParts single start fuel (c :: joined) Gap.none (input.skip 1)

/-- Reads a quoted scalar from its opening quote. -/
def readQuoted (single : Bool) (input : Input) : Scan (List Char × Input) :=
  readQuotedParts single input.mark (2 * input.chars.length + 2) [] Gap.none (input.skip 1)

/-! ### Block scalars -/

/-- What becomes of the line ends at the end of a block scalar. -/
inductive Chomping where
  | clip
  | strip
  | keep
deriving DecidableEq, Repr

/-- The header of a block scalar: chomping, and the indentation if it is given. -/
structure BlockHeader where
  chomping : Chomping
  increment : Nat

def chompingOf? : Char → Option Chomping
  | '+' => some .keep
  | '-' => some .strip
  | _ => Option.none

def readIncrement (start : Mark) (input : Input) : Scan (Nat × Input) :=
  match input.head with
  | some c =>
    if c = '0' then
      .error (input.fault "found an indentation indicator equal to 0"
        (some ("while scanning a block scalar", start)))
    else if c.isDigit then .ok (c.toNat - '0'.toNat, input.skip 1)
    else .ok (0, input)
  | Option.none => .ok (0, input)

def readChomping (input : Input) : Chomping × Input :=
  match input.head.bind chompingOf? with
  | some chomping => (chomping, input.skip 1)
  | Option.none => (.clip, input)

/-- Chomping and indentation, in either order, up to the end of the line. -/
def readBlockHeader (start : Mark) (input : Input) : Scan (BlockHeader × Input) := do
  let (header, rest) ←
    match input.head.bind chompingOf? with
    | some chomping => do
      let (increment, rest) ← readIncrement start (input.skip 1)
      pure (BlockHeader.mk chomping increment, rest)
    | Option.none => do
      let (increment, rest) ← readIncrement start input
      if increment = 0 then pure (BlockHeader.mk .clip 0, rest)
      else
        let (chomping, afterChomping) := readChomping rest
        pure (BlockHeader.mk chomping increment, afterChomping)
  let lineEnd := rest.skipComment
  if lineEnd.breakOrEnd then .ok (header, lineEnd.skipBreak)
  else .error (lineEnd.fault "did not find expected comment or line break"
    (some ("while scanning a block scalar", start)))

/-- Indentation and empty lines before the next line of a block scalar. An indentation of zero
means that it is not known yet. -/
structure BlockBreaks where
  widest : Nat
  breaks : List Char
  stop : Mark
  rest : Input

def readBlockBreaks (indent : Nat) (start : Mark) :
    Nat → Nat → List Char → Mark → Input → Scan BlockBreaks
  | 0, widest, breaks, stop, input => .ok ⟨widest, breaks, stop, input⟩
  | fuel + 1, widest, breaks, stop, input =>
    let room := input.chars.takeWhile (· = ' ')
    let width := if indent = 0 then room.length else min room.length (indent - input.mark.column)
    let line := input.skip width
    let reach := max widest line.mark.column
    if (indent = 0 ∨ line.mark.column < indent) ∧ line.startsWith '\t' then
      .error (line.fault "found a tab character where an indentation space is expected"
        (some ("while scanning a block scalar", start)))
    else if line.atBreak then
      let (lineEnd, rest) := line.readBreak
      readBlockBreaks indent start fuel reach (breaks ++ lineEnd) rest.mark rest
    else .ok ⟨reach, breaks, stop, line⟩

structure BlockLines where
  text : List Char
  lastBreak : List Char
  breaks : List Char
  stop : Mark
  rest : Input

/-- Reads the lines of a block scalar that stand at its indentation. -/
def readBlockLines (literal : Bool) (indent : Nat) (start : Mark) :
    Nat → List Char → List Char → Bool → BlockBreaks → Scan BlockLines
  | 0, done, lastBreak, _, before =>
    .ok ⟨done.reverse, lastBreak, before.breaks, before.stop, before.rest⟩
  | fuel + 1, done, lastBreak, blankBefore, before =>
    let input := before.rest
    if input.mark.column ≠ indent ∨ input.atEnd then
      .ok ⟨done.reverse, lastBreak, before.breaks, before.stop, before.rest⟩
    else do
      let blankHere := input.atBlank
      let folds := !literal && lastBreak.head? == some '\n' && !blankBefore && !blankHere
      let joint :=
        if folds then (if before.breaks.isEmpty then [' '] else []) else lastBreak
      let (line, lineEnd) := input.span fun _ => true
      let (nextBreak, rest) := lineEnd.readBreak
      let after ← readBlockBreaks indent start (rest.chars.length + 1) 0 [] rest.mark rest
      readBlockLines literal indent start fuel
        (line.reverse ++ before.breaks.reverse ++ joint.reverse ++ done) nextBreak blankHere after

structure BlockScalar where
  text : List Char
  stop : Mark
  rest : Input

/-- Reads a block scalar from its indicator; `parent` is the column of the block around it. -/
def readBlock (literal : Bool) (parent : Int) (input : Input) : Scan BlockScalar := do
  let start := input.mark
  let (header, body) ← readBlockHeader start (input.skip 1)
  let given := if header.increment = 0 then 0 else (max parent 0).toNat + header.increment
  let before ← readBlockBreaks given start (body.chars.length + 1) 0 [] body.mark body
  let indent := if given = 0 then max before.widest (max (parent + 1).toNat 1) else given
  let lines ← readBlockLines literal indent start (body.chars.length + 1) [] [] false before
  let tail := match header.chomping with
    | .strip => []
    | .clip => lines.lastBreak
    | .keep => lines.lastBreak ++ lines.breaks
  .ok ⟨lines.text ++ tail, lines.stop, lines.rest⟩

end PlatformManifests.Yaml
