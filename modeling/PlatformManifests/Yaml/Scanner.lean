import PlatformManifests.Yaml.Property

/-!
From characters to tokens.

Indentation opens and closes block collections. A key may stand before its colon without any sign
of its own; so the place of every token that could turn out to be such a key is kept until the
colon, or until the line ends, and the missing tokens are then put in at that place.

The tokens of a text that breaks off are those that were certain at that point.
-/
namespace PlatformManifests.Yaml

/-- A token that may turn out to be the start of a key. A required one must. -/
structure KeyCandidate where
  required : Bool
  position : Nat
  mark : Mark

/-- The candidates of the flow collections around the current place, the innermost first. -/
structure Scanner where
  input : Input
  tokens : Array Token
  indent : Int
  outerIndents : List Int
  keyAllowed : Bool
  candidate : Option KeyCandidate
  outerCandidates : List (Option KeyCandidate)

namespace Scanner

def inFlow (scanner : Scanner) : Bool := !scanner.outerCandidates.isEmpty

def mark (scanner : Scanner) : Mark := scanner.input.mark

def fault (scanner : Scanner) (problem : String) : SyntaxFault :=
  scanner.input.fault problem none

def push (scanner : Scanner) (token : Token) : Scanner :=
  { scanner with tokens := scanner.tokens.push token }

/-- Adds a token of the next `count` characters. -/
def take (scanner : Scanner) (kind : TokenKind) (count : Nat) : Scanner :=
  let rest := scanner.input.skip count
  { scanner with input := rest, tokens := scanner.tokens.push ⟨kind, scanner.mark, rest.mark⟩ }

def keyFault (scanner : Scanner) (candidate : KeyCandidate) : SyntaxFault :=
  scanner.input.fault "could not find expected ':'"
    (some ("while scanning a simple key", candidate.mark))

/-- Gives up the current candidate. -/
def dropCandidate (scanner : Scanner) : Scan Scanner :=
  match scanner.candidate with
  | some candidate =>
    if candidate.required then .error (scanner.keyFault candidate)
    else .ok { scanner with candidate := none }
  | none => .ok scanner

/-- Makes the next token a candidate where a key is allowed. -/
def saveCandidate (scanner : Scanner) : Scan Scanner :=
  if scanner.keyAllowed then do
    let scanner ← scanner.dropCandidate
    let required := !scanner.inFlow && scanner.indent = scanner.mark.column
    .ok { scanner with candidate := some ⟨required, scanner.tokens.size, scanner.mark⟩ }
  else .ok scanner

/-- A key stays on one line and within 1024 bytes. -/
def isStale (mark : Mark) (candidate : KeyCandidate) : Bool :=
  candidate.mark.line < mark.line || candidate.mark.index + 1024 < mark.index

def refresh (scanner : Scanner) (candidate : Option KeyCandidate) : Scan (Option KeyCandidate) :=
  match candidate with
  | some held =>
    if isStale scanner.mark held then
      if held.required then .error (scanner.keyFault held) else .ok none
    else .ok (some held)
  | none => .ok none

def dropStale (scanner : Scanner) : Scan Scanner := do
  let outer ← scanner.outerCandidates.mapM scanner.refresh
  let candidate ← scanner.refresh scanner.candidate
  .ok { scanner with candidate := candidate, outerCandidates := outer }

/-- Opens a block collection at a column right of the current one. -/
def openBlock (scanner : Scanner) (column : Nat) (position : Nat) (kind : TokenKind)
    (mark : Mark) : Scanner :=
  if scanner.inFlow ∨ (column : Int) ≤ scanner.indent then scanner
  else
    { scanner with
      indent := column
      outerIndents := scanner.indent :: scanner.outerIndents
      tokens := scanner.tokens.insertIdxIfInBounds position ⟨kind, mark, mark⟩ }

/-- Closes the block collections right of a column. -/
def closeBlocks (column : Int) : List Int → Scanner → Scanner
  | [], scanner => scanner
  | outer :: rest, scanner =>
    if scanner.inFlow ∨ scanner.indent ≤ column then scanner
    else
      closeBlocks column rest
        { scanner with
          indent := outer
          outerIndents := rest
          tokens := scanner.tokens.push ⟨.blockEnd, scanner.mark, scanner.mark⟩ }

def closeTo (scanner : Scanner) (column : Int) : Scanner :=
  closeBlocks column scanner.outerIndents scanner

/-- Passes over blanks, comments and line ends, and over a byte order mark at the start of a line.
Tabs may not stand where a key is allowed. -/
def skipSpace : Nat → Scanner → Scanner
  | 0, scanner => scanner
  | fuel + 1, scanner =>
    let opened :=
      if scanner.mark.column = 0 ∧ scanner.input.startsWith '\ufeff' then scanner.input.skip 1
      else scanner.input
    let tabs := scanner.inFlow || !scanner.keyAllowed
    let afterBlanks := opened.skipWhile fun c => c = ' ' || (tabs && c = '\t')
    let afterComment :=
      if afterBlanks.startsWith '#' then afterBlanks.skipWhile fun _ => true else afterBlanks
    if afterComment.atBreak then
      skipSpace fuel
        { scanner with
          input := afterComment.skipBreak
          keyAllowed := scanner.keyAllowed || !scanner.inFlow }
    else { scanner with input := afterComment }

/-- Ends all blocks and candidates, before a directive or a document mark. -/
def leaveDocument (scanner : Scanner) : Scan Scanner := do
  let scanner ← (scanner.closeTo (-1)).dropCandidate
  .ok { scanner with keyAllowed := false }

def addStreamEnd (scanner : Scanner) : Scan Scanner := do
  let mark := scanner.mark
  let lineStart : Mark := if mark.column = 0 then mark else ⟨mark.index, mark.line + 1, 0⟩
  let scanner ← leaveDocument { scanner with input := ⟨scanner.input.chars, lineStart⟩ }
  .ok (scanner.take .streamEnd 0)

def addDirective (scanner : Scanner) : Scan Scanner := do
  let scanner ← scanner.leaveDocument
  let (token, rest) ← readDirective scanner.input
  .ok { scanner.push token with input := rest }

def addDocumentMark (scanner : Scanner) (kind : TokenKind) : Scan Scanner := do
  let scanner ← scanner.leaveDocument
  .ok (scanner.take kind 3)

def openFlow (scanner : Scanner) (kind : TokenKind) : Scan Scanner := do
  let scanner ← scanner.saveCandidate
  let opened :=
    { scanner with
      candidate := none
      outerCandidates := scanner.candidate :: scanner.outerCandidates
      keyAllowed := true }
  .ok (opened.take kind 1)

def closeFlow (scanner : Scanner) (kind : TokenKind) : Scan Scanner := do
  let scanner ← scanner.dropCandidate
  let closed :=
    match scanner.outerCandidates with
    | outer :: rest => { scanner with candidate := outer, outerCandidates := rest }
    | [] => scanner
  .ok ({ closed with keyAllowed := false }.take kind 1)

def addFlowEntry (scanner : Scanner) : Scan Scanner := do
  let scanner ← scanner.dropCandidate
  .ok ({ scanner with keyAllowed := true }.take .flowEntry 1)

/-- Opens a block collection at the current column, where one may begin. -/
def beginBlock (scanner : Scanner) (kind : TokenKind) (problem : String) : Scan Scanner :=
  if scanner.inFlow then .ok scanner
  else if !scanner.keyAllowed then .error (scanner.fault problem)
  else .ok (scanner.openBlock scanner.mark.column scanner.tokens.size kind scanner.mark)

def addBlockEntry (scanner : Scanner) : Scan Scanner := do
  let scanner ← scanner.beginBlock .blockSequenceStart
    "block sequence entries are not allowed in this context"
  let scanner ← scanner.dropCandidate
  .ok ({ scanner with keyAllowed := true }.take .blockEntry 1)

def addKey (scanner : Scanner) : Scan Scanner := do
  let scanner ← scanner.beginBlock .blockMappingStart
    "mapping keys are not allowed in this context"
  let scanner ← scanner.dropCandidate
  .ok ({ scanner with keyAllowed := !scanner.inFlow }.take .key 1)

def addValue (scanner : Scanner) : Scan Scanner :=
  match scanner.candidate with
  | some candidate =>
    let marked :=
      { scanner with
        tokens := scanner.tokens.insertIdxIfInBounds candidate.position
          ⟨.key, candidate.mark, candidate.mark⟩ }
    let opened := marked.openBlock candidate.mark.column candidate.position .blockMappingStart
      candidate.mark
    .ok ({ opened with candidate := none, keyAllowed := false }.take .value 1)
  | none => do
    let scanner ← scanner.beginBlock .blockMappingStart
      "mapping values are not allowed in this context"
    .ok ({ scanner with keyAllowed := !scanner.inFlow }.take .value 1)

/-- Adds a token that may start a key. -/
def addContent (scanner : Scanner) (read : Input → Scan (TokenKind × Input)) : Scan Scanner := do
  let scanner ← scanner.saveCandidate
  let start := scanner.mark
  let (kind, rest) ← read scanner.input
  .ok { scanner.push ⟨kind, start, rest.mark⟩ with input := rest, keyAllowed := false }

def addAlias (scanner : Scanner) : Scan Scanner :=
  scanner.addContent fun input => do
    let (name, rest) ← readName "while scanning an alias" input
    .ok (.alias name, rest)

def addAnchor (scanner : Scanner) : Scan Scanner :=
  scanner.addContent fun input => do
    let (name, rest) ← readName "while scanning an anchor" input
    .ok (.anchor name, rest)

def addTag (scanner : Scanner) : Scan Scanner :=
  scanner.addContent fun input => do
    let (handle, suffix, rest) ← readTag scanner.inFlow input
    .ok (.tag handle suffix, rest)

def addQuoted (scanner : Scanner) (single : Bool) : Scan Scanner :=
  scanner.addContent fun input => do
    let (text, rest) ← readQuoted single input
    .ok (.scalar (String.ofList text) (if single then .singleQuoted else .doubleQuoted), rest)

def addPlain (scanner : Scanner) : Scan Scanner := do
  let scanner ← scanner.saveCandidate
  let start := scanner.mark
  let plain ← readPlain scanner.inFlow (scanner.indent + 1) scanner.input
  let token : Token := ⟨.scalar (String.ofList plain.text) .plain, start, plain.stop⟩
  .ok { scanner.push token with input := plain.rest, keyAllowed := plain.broken }

def addBlock (scanner : Scanner) (literal : Bool) : Scan Scanner := do
  let scanner ← scanner.dropCandidate
  let start := scanner.mark
  let block ← readBlock literal scanner.indent scanner.input
  let style : ScalarStyle := if literal then .literal else .folded
  let token : Token := ⟨.scalar (String.ofList block.text) style, start, block.stop⟩
  .ok { scanner.push token with input := block.rest, keyAllowed := true }

/-- Characters that a plain scalar cannot start with. -/
def isIndicator (c : Char) : Bool :=
  ['-', '?', ':', ',', '[', ']', '{', '}', '#', '&', '*', '!', '|', '>', '\'', '"', '%', '@',
    '`'].contains c

def startsPlain (scanner : Scanner) (c : Char) : Bool :=
  (!isBlank c && !isBreak c && !isIndicator c)
    || (c = '-' && !(scanner.input.peek 1).any isBlank)
    || (!scanner.inFlow && (c = '?' || c = ':') && !scanner.input.blankOrEnd 1)

/-- Adds the next token; blanks and comments before it are already passed over. -/
def addNext (scanner : Scanner) : Scan Scanner :=
  let input := scanner.input
  let spaced := input.blankOrEnd 1
  match input.chars with
  | [] => scanner.addStreamEnd
  | c :: _ =>
    if input.mark.column = 0 ∧ c = '%' then scanner.addDirective
    else if input.atDocumentMark '-' then scanner.addDocumentMark .documentStart
    else if input.atDocumentMark '.' then scanner.addDocumentMark .documentEnd
    else if c = '[' then scanner.openFlow .flowSequenceStart
    else if c = '{' then scanner.openFlow .flowMappingStart
    else if c = ']' then scanner.closeFlow .flowSequenceEnd
    else if c = '}' then scanner.closeFlow .flowMappingEnd
    else if c = ',' then scanner.addFlowEntry
    else if c = '-' ∧ spaced then scanner.addBlockEntry
    else if c = '?' ∧ (scanner.inFlow ∨ spaced) then scanner.addKey
    else if c = ':' ∧ (scanner.inFlow ∨ spaced) then scanner.addValue
    else if c = '*' then scanner.addAlias
    else if c = '&' then scanner.addAnchor
    else if c = '!' then scanner.addTag
    else if c = '|' ∧ !scanner.inFlow then scanner.addBlock true
    else if c = '>' ∧ !scanner.inFlow then scanner.addBlock false
    else if c = '\'' then scanner.addQuoted true
    else if c = '"' then scanner.addQuoted false
    else if scanner.startsPlain c then scanner.addPlain
    else .error (input.fault "found character that cannot start any token"
      (some ("while scanning for the next token", input.mark)))

/-- Reads up to the next token and adds it. A required key must still be possible after that. -/
def step (scanner : Scanner) : Scan Scanner := do
  let scanner ← (scanner.skipSpace (scanner.input.chars.length + 1)).dropStale
  let scanner ← (scanner.closeTo scanner.mark.column).addNext
  scanner.dropStale

/-- The tokens before the first candidate: no key can be put in before them any more. -/
def certain (scanner : Scanner) : List Token :=
  let candidates := (scanner.candidate :: scanner.outerCandidates).filterMap id
  let limit := candidates.foldl (fun least held => min least held.position) scanner.tokens.size
  scanner.tokens.toList.take limit

def isDone (scanner : Scanner) : Bool :=
  scanner.tokens.back?.any fun token => token.kind = .streamEnd

/-- Adds tokens up to the end of the text, or to the fault that breaks it off. -/
def run : Nat → Scanner → List Token × Option SyntaxFault
  | 0, scanner => (scanner.tokens.toList, none)
  | fuel + 1, scanner =>
    if scanner.isDone then (scanner.tokens.toList, none)
    else
      match scanner.step with
      | .ok next => run fuel next
      | .error fault => (scanner.certain, some fault)

def start (text : String) : Scanner :=
  ⟨Input.ofText text, #[], -1, [], true, none, []⟩

end Scanner

/-- The byte offset of the first character that may not stand in a text. -/
def forbiddenAt? (text : String) : Option Nat :=
  let before := text.toList.takeWhile isAllowed
  if before.length = text.length then none else some (byteLength before)

/-- The tokens of a text, and the fault that breaks it off if there is one. -/
def scan (text : String) : List Token × Option SyntaxFault :=
  match forbiddenAt? text with
  | some offset =>
    ([], some ⟨"control characters are not allowed", ⟨offset, 0, 0⟩, none⟩)
  | none => Scanner.run (2 * text.length + 4) (Scanner.start text)

end PlatformManifests.Yaml
