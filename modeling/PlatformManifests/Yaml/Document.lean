import PlatformManifests.Yaml.Node
import PlatformManifests.Yaml.Scanner

/-!
From tokens to the first document of a text.

Every reader gives back what it read together with the tokens that are left, or with the fault
that stopped it; in the second case what it read ends in a `broken` node. Each reader takes a
token, or comes within four calls to one that does; so four times their number is fuel enough.
-/
namespace PlatformManifests.Yaml

/-- The tokens that are left, what to answer when they run out, the anchors so far with the
newest first, and the tag handles that are in force. -/
structure Feed where
  tokens : List Token
  ending : SyntaxFault
  anchors : List (String × Nat)
  handles : List (String × Tag.Octets)

namespace Feed

def peek (feed : Feed) : Scan Token :=
  match feed.tokens with
  | token :: _ => .ok token
  | [] => .error feed.ending

def skip (feed : Feed) : Feed := { feed with tokens := feed.tokens.drop 1 }

/-- Numbers a new anchor by the count of the names that were used before it. -/
def addAnchor (feed : Feed) (name : String) : Nat × Feed :=
  let number := (feed.anchors.map (·.1)).eraseDups.length
  (number, { feed with anchors := (name, number) :: feed.anchors })

end Feed

structure Parsed (α : Type) where
  value : α
  rest : Scan Feed

namespace Parsed

def broken (fault : SyntaxFault) : Parsed Node := ⟨.broken fault, .error fault⟩

/-- Reads on unless the reading has stopped; then `stopped` completes the value. -/
def andThen {α β γ : Type} (first : Parsed α) (join : α → β → γ) (stopped : SyntaxFault → β)
    (next : Feed → Parsed β) : Parsed γ :=
  match first.rest with
  | .ok feed =>
    let second := next feed
    ⟨join first.value second.value, second.rest⟩
  | .error fault => ⟨join first.value (stopped fault), .error fault⟩

def map {α β : Type} (change : α → β) (parsed : Parsed α) : Parsed β :=
  ⟨change parsed.value, parsed.rest⟩

/-- Looks at the next token. -/
def look {α : Type} (feed : Feed) (stopped : SyntaxFault → α) (next : Token → Parsed α) :
    Parsed α :=
  match feed.peek with
  | .ok token => next token
  | .error fault => ⟨stopped fault, .error fault⟩

end Parsed

/-- Where a node stands. After a key, a sequence need not be indented. -/
inductive Place where
  | block
  | blockEntry
  | flow
deriving DecidableEq

/-- Anchor and tag before a node, not resolved yet. -/
structure Decoration where
  start : Mark
  anchor : Option String
  tag : Option (String × Tag.Octets × Mark)

/-- Reads the anchor and the tag of a node, in either order. -/
def readDecoration (token : Token) (feed : Feed) : Scan (Decoration × Token × Feed) :=
  match token.kind with
  | .anchor name => do
    let next ← feed.skip.peek
    match next.kind with
    | .tag handle rest => do
      let after ← feed.skip.skip.peek
      .ok (⟨token.start, some name, some (handle, rest, next.start)⟩, after, feed.skip.skip)
    | _ => .ok (⟨token.start, some name, none⟩, next, feed.skip)
  | .tag handle rest => do
    let next ← feed.skip.peek
    match next.kind with
    | .anchor name => do
      let after ← feed.skip.skip.peek
      .ok (⟨token.start, some name, some (handle, rest, token.start)⟩, after, feed.skip.skip)
    | _ => .ok (⟨token.start, none, some (handle, rest, token.start)⟩, next, feed.skip)
  | _ => .ok (⟨token.start, none, none⟩, token, feed)

/-- The tag of a handle and a rest. -/
def resolveTag (feed : Feed) (decoration : Decoration) : Scan (Option Tag) :=
  match decoration.tag with
  | none => .ok none
  | some (handle, rest, mark) =>
    if handle.isEmpty then .ok (some (.ofOctets rest))
    else
      match feed.handles.lookup handle with
      | some lead => .ok (some (.ofOctets (lead ++ rest)))
      | none => .error ⟨"found undefined tag handle", mark,
          some ("while parsing a node", decoration.start)⟩

/-- The properties of a node, the token after them, and what is left from that token on. -/
def readProperties (token : Token) (feed : Feed) : Scan (Properties × Token × Feed) := do
  let (decoration, next, rest) ← readDecoration token feed
  let tag ← resolveTag feed decoration
  match decoration.anchor with
  | none => .ok (⟨decoration.start, none, tag⟩, next, rest)
  | some name =>
    let (number, numbered) := rest.addAnchor name
    .ok (⟨decoration.start, some number, tag⟩, next, numbered)

def emptyNode (mark : Mark) (feed : Feed) : Parsed Node := ⟨.blank mark, .ok feed⟩

def endsBlockItem (kind : TokenKind) : Bool := kind = .blockEntry || kind = .blockEnd

def endsBlockPart (kind : TokenKind) : Bool := kind = .key || kind = .value || kind = .blockEnd

def endsFlowItem (kind : TokenKind) : Bool := kind = .flowEntry || kind = .flowSequenceEnd

def endsFlowPart (kind : TokenKind) : Bool := kind = .flowEntry || kind = .flowMappingEnd

def itemFault (activity problem : String) (start : Mark) (token : Token) : SyntaxFault :=
  ⟨problem, token.start, some (activity, start)⟩

def stopItems (fault : SyntaxFault) : Parsed (List Node) := ⟨[.broken fault], .error fault⟩

def stopEntries (fault : SyntaxFault) : Parsed (List (Node × Node)) :=
  ⟨[(.broken fault, .broken fault)], .error fault⟩

/-- An item in front of further ones. -/
def consItem (item : Parsed Node) (next : Feed → Parsed (List Node)) : Parsed (List Node) :=
  item.andThen List.cons (fun _ => []) next

/-- A key, its value, and the entries after them. -/
def consEntry (key : Parsed Node) (value : Feed → Parsed Node)
    (next : Feed → Parsed (List (Node × Node))) : Parsed (List (Node × Node)) :=
  (key.andThen Prod.mk Node.broken value).andThen List.cons (fun _ => []) next

mutual

def readNode : Nat → Place → Feed → Parsed Node
  | 0, _, feed => .broken feed.ending
  | fuel + 1, place, feed =>
    match feed.peek with
    | .error fault => .broken fault
    | .ok token =>
      match token.kind with
      | .alias name =>
        match feed.anchors.lookup name with
        | some number => ⟨.alias token.start number, .ok feed.skip⟩
        | none => .broken ⟨"unknown anchor", token.start, none⟩
      | _ =>
        match readProperties token feed with
        | .error fault => .broken fault
        | .ok (props, next, rest) => readContent fuel place props next rest

def readContent : Nat → Place → Properties → Token → Feed → Parsed Node
  | 0, _, _, _, feed => .broken feed.ending
  | fuel + 1, place, props, token, feed =>
    match token.kind with
    | .scalar text style => ⟨.scalar props style text, .ok feed.skip⟩
    | .flowSequenceStart =>
      (readFlowItems fuel token.start true feed.skip).map (.sequence props)
    | .flowMappingStart =>
      (readFlowEntries fuel token.start true feed.skip).map (.mapping props)
    | kind =>
      if kind = .blockEntry ∧ place = .blockEntry then
        (readIndentlessItems fuel feed).map (.sequence props)
      else if kind = .blockSequenceStart ∧ place ≠ .flow then
        (readBlockItems fuel token.start feed.skip).map (.sequence props)
      else if kind = .blockMappingStart ∧ place ≠ .flow then
        (readBlockEntries fuel token.start feed.skip).map (.mapping props)
      else if props.anchor.isSome ∨ props.tag.isSome then
        ⟨.scalar props .plain "", .ok feed⟩
      else
        let activity :=
          if place = .flow then "while parsing a flow node" else "while parsing a block node"
        .broken (itemFault activity "did not find expected node content" props.mark token)

def readBlockItems : Nat → Mark → Feed → Parsed (List Node)
  | 0, _, feed => stopItems feed.ending
  | fuel + 1, start, feed =>
    match feed.peek with
    | .error fault => stopItems fault
    | .ok token =>
      if token.kind = .blockEnd then ⟨[], .ok feed.skip⟩
      else if token.kind = .blockEntry then
        let item := Parsed.look feed.skip .broken fun next =>
          if endsBlockItem next.kind then emptyNode token.stop feed.skip
          else readNode fuel .block feed.skip
        consItem item (readBlockItems fuel start)
      else
        stopItems (itemFault "while parsing a block collection"
          "did not find expected '-' indicator" start token)

def readIndentlessItems : Nat → Feed → Parsed (List Node)
  | 0, feed => stopItems feed.ending
  | fuel + 1, feed =>
    match feed.peek with
    | .error fault => stopItems fault
    | .ok token =>
      if token.kind = .blockEntry then
        let item := Parsed.look feed.skip .broken fun next =>
          if next.kind = .blockEntry ∨ endsBlockPart next.kind then emptyNode token.stop feed.skip
          else readNode fuel .block feed.skip
        consItem item (readIndentlessItems fuel)
      else ⟨[], .ok feed⟩

def readBlockEntries : Nat → Mark → Feed → Parsed (List (Node × Node))
  | 0, _, feed => stopEntries feed.ending
  | fuel + 1, start, feed =>
    match feed.peek with
    | .error fault => stopEntries fault
    | .ok token =>
      if token.kind = .blockEnd then ⟨[], .ok feed.skip⟩
      else if token.kind = .key then
        consEntry (readBlockPart fuel token.stop feed.skip) (readBlockValue fuel)
          (readBlockEntries fuel start)
      else
        stopEntries (itemFault "while parsing a block mapping" "did not find expected key"
          start token)

/-- The key or the value after its indicator; `mark` is the end of the indicator. -/
def readBlockPart : Nat → Mark → Feed → Parsed Node
  | 0, _, feed => .broken feed.ending
  | fuel + 1, mark, feed =>
    Parsed.look feed .broken fun next =>
      if endsBlockPart next.kind then emptyNode mark feed else readNode fuel .blockEntry feed

def readBlockValue : Nat → Feed → Parsed Node
  | 0, feed => .broken feed.ending
  | fuel + 1, feed =>
    Parsed.look feed .broken fun token =>
      if token.kind = .value then readBlockPart fuel token.stop feed.skip
      else emptyNode token.start feed

/-- The items of a flow sequence; all but the first come after a comma. -/
def readFlowItems : Nat → Mark → Bool → Feed → Parsed (List Node)
  | 0, _, _, feed => stopItems feed.ending
  | fuel + 1, start, first, feed =>
    match feed.peek with
    | .error fault => stopItems fault
    | .ok token =>
      if token.kind = .flowSequenceEnd then ⟨[], .ok feed.skip⟩
      else if first then readFlowItem fuel start feed
      else if token.kind = .flowEntry then readFlowItem fuel start feed.skip
      else
        stopItems (itemFault "while parsing a flow sequence" "did not find expected ',' or ']'"
          start token)

def readFlowItem : Nat → Mark → Feed → Parsed (List Node)
  | 0, _, feed => stopItems feed.ending
  | fuel + 1, start, feed =>
    match feed.peek with
    | .error fault => stopItems fault
    | .ok token =>
      if token.kind = .flowSequenceEnd then ⟨[], .ok feed.skip⟩
      else if token.kind = .key then
        let pair := (readPairKey fuel feed.skip).andThen Prod.mk Node.broken (readPairValue fuel)
        consItem (pair.map fun entry => .mapping ⟨token.start, none, none⟩ [entry])
          (readFlowItems fuel start false)
      else consItem (readNode fuel .flow feed) (readFlowItems fuel start false)

/-- The key of a single pair inside a flow sequence. In place of a missing key the next token is
passed over, whatever it is. -/
def readPairKey : Nat → Feed → Parsed Node
  | 0, feed => .broken feed.ending
  | fuel + 1, feed =>
    Parsed.look feed .broken fun token =>
      if token.kind = .value ∨ endsFlowItem token.kind then emptyNode token.stop feed.skip
      else readNode fuel .flow feed

def readPairValue : Nat → Feed → Parsed Node
  | 0, feed => .broken feed.ending
  | fuel + 1, feed =>
    Parsed.look feed .broken fun token =>
      if token.kind = .value then
        Parsed.look feed.skip .broken fun next =>
          if endsFlowItem next.kind then emptyNode next.start feed.skip
          else readNode fuel .flow feed.skip
      else emptyNode token.start feed

def readFlowEntries : Nat → Mark → Bool → Feed → Parsed (List (Node × Node))
  | 0, _, _, feed => stopEntries feed.ending
  | fuel + 1, start, first, feed =>
    match feed.peek with
    | .error fault => stopEntries fault
    | .ok token =>
      if token.kind = .flowMappingEnd then ⟨[], .ok feed.skip⟩
      else if first then readFlowEntry fuel start feed
      else if token.kind = .flowEntry then readFlowEntry fuel start feed.skip
      else
        stopEntries (itemFault "while parsing a flow mapping"
          "did not find expected ',' or '\x7d'" start token)

def readFlowEntry : Nat → Mark → Feed → Parsed (List (Node × Node))
  | 0, _, feed => stopEntries feed.ending
  | fuel + 1, start, feed =>
    match feed.peek with
    | .error fault => stopEntries fault
    | .ok token =>
      if token.kind = .flowMappingEnd then ⟨[], .ok feed.skip⟩
      else if token.kind = .key then
        let key := Parsed.look feed.skip .broken fun next =>
          if next.kind = .value ∨ endsFlowPart next.kind then emptyNode next.start feed.skip
          else readNode fuel .flow feed.skip
        consEntry key (readFlowValue fuel) (readFlowEntries fuel start false)
      else
        consEntry (readNode fuel .flow feed)
          (fun rest => Parsed.look rest .broken fun next => emptyNode next.start rest)
          (readFlowEntries fuel start false)

def readFlowValue : Nat → Feed → Parsed Node
  | 0, feed => .broken feed.ending
  | fuel + 1, feed =>
    Parsed.look feed .broken fun token =>
      if token.kind = .value then
        Parsed.look feed.skip .broken fun next =>
          if endsFlowPart next.kind then emptyNode next.start feed.skip
          else readNode fuel .flow feed.skip
      else emptyNode token.start feed

end

/-! ### Documents -/

def isDirective : TokenKind → Bool
  | .version _ _ => true
  | .shorthand _ _ => true
  | _ => false

/-- Reads the directives before a document: at most one version, and distinct tag handles. -/
def readDirectives : List Token → Bool → Feed → Scan Feed
  | [], _, feed => .ok feed
  | token :: rest, versioned, feed =>
    match token.kind with
    | .version major minor =>
      if versioned then .error ⟨"found duplicate %YAML directive", token.start, none⟩
      else if major ≠ 1 ∨ (minor ≠ 1 ∧ minor ≠ 2) then
        .error ⟨"found incompatible YAML document", token.start, none⟩
      else readDirectives rest true feed
    | .shorthand handle lead =>
      if (feed.handles.lookup handle).isSome then
        .error ⟨"found duplicate %TAG directive", token.start, none⟩
      else readDirectives rest versioned { feed with handles := (handle, lead) :: feed.handles }
    | _ => .ok feed

def standardHandles : List (String × Tag.Octets) :=
  [("!", [Tag.bang]), ("!!", Tag.octetsOf "tag:yaml.org,2002:")]

/-- What is left after the directives, with the standard handles added. -/
def startDocument (feed : Feed) : Scan Feed := do
  let directed ← readDirectives feed.tokens false feed
  let rest := feed.tokens.dropWhile fun token => isDirective token.kind
  .ok { directed with tokens := rest, handles := directed.handles ++ standardHandles }

/-- The content of a document after its start mark. -/
def readMarkedContent (fuel : Nat) (feed : Feed) : Parsed Node :=
  Parsed.look feed .broken fun token =>
    if isDirective token.kind ∨ token.kind = .documentStart ∨ token.kind = .documentEnd
        ∨ token.kind = .streamEnd then
      emptyNode token.start feed
    else readNode fuel .block feed

/-- The first document of a text, what is wrong with it, and whether more follows it. -/
structure Document where
  root : Node
  fault : Option SyntaxFault
  followed : Bool

namespace Document

/-- The root node of a text, and what comes after it. An empty text counts as an empty scalar. -/
def readRoot (feed : Feed) : Parsed Node :=
  let fuel := 4 * feed.tokens.length + 8
  Parsed.look feed .broken fun token =>
    if token.kind = .streamEnd then emptyNode token.start feed
    else
      match startDocument feed with
      | .error fault => .broken fault
      | .ok started =>
        if isDirective token.kind ∨ token.kind = .documentStart then
          Parsed.look started .broken fun next =>
            if next.kind = .documentStart then readMarkedContent fuel started.skip
            else .broken ⟨"did not find expected <document start>", next.start, none⟩
        else readNode fuel .block started

/-- Whether something other than the end of the text comes after the marks that end a document. -/
def followed? (feed : Feed) : Scan Bool := do
  let token ← feed.peek
  let rest := feed.tokens.dropWhile fun token => token.kind = .documentEnd
  match rest with
  | next :: _ => .ok (next.kind ≠ .streamEnd)
  | [] => .ok (token.kind = .documentEnd)

def read (text : String) : Document :=
  let (tokens, fault) := scan text
  let ending := fault.getD ⟨"unexpected end of text", Mark.first, none⟩
  let parsed := readRoot ⟨tokens, ending, [], []⟩
  match parsed.rest with
  | .error fault => ⟨parsed.value, some fault, false⟩
  | .ok feed =>
    match followed? feed with
    | .ok more => ⟨parsed.value, none, more⟩
    | .error fault => ⟨parsed.value, some fault, false⟩

end Document

end PlatformManifests.Yaml
