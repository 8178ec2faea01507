import PlatformManifests.Yaml.Mark

/-!
The characters of a YAML text that are still to be read, with the position of the first of them.
-/
namespace PlatformManifests.Yaml

def isBlank (c : Char) : Bool := c = ' ' || c = '\t'

def isBreak (c : Char) : Bool :=
  c = '\n' || c = '\r' || c = '\u0085' || c = '\u2028' || c = '\u2029'

/-- Letters, digits, hyphen and underscore: the characters of names. -/
def isWordChar (c : Char) : Bool := c.isAlphanum || c = '_' || c = '-'

/-- Line ends, the tab, and everything from the space up, except surrogates and noncharacters. -/
def isAllowed (c : Char) : Bool :=
  let code := c.toNat
  code = 0x09 || code = 0x0A || code = 0x0D || (0x20 ≤ code && code ≤ 0x7E) || code = 0x85
    || (0xA0 ≤ code && code ≤ 0xFFFD) || 0x10000 ≤ code

/-- The number of bytes of characters in UTF-8. -/
def byteLength : List Char → Nat
  | [] => 0
  | c :: rest => c.utf8Size + byteLength rest

structure Input where
  chars : List Char
  mark : Mark

namespace Input

def ofText (text : String) : Input := ⟨text.toList, Mark.first⟩

def peek (input : Input) (ahead : Nat) : Option Char := input.chars[ahead]?

def head (input : Input) : Option Char := input.chars.head?

def startsWith (input : Input) (c : Char) : Bool := input.chars.head? == some c

def atEnd (input : Input) : Bool := input.chars.isEmpty

/-- Whether the character at a distance is a blank, a line end, or lies past the end. -/
def blankOrEnd (input : Input) (ahead : Nat) : Bool :=
  (input.peek ahead).all fun c => isBlank c || isBreak c

def breakOrEnd (input : Input) : Bool := input.head.all isBreak

def atBlank (input : Input) : Bool := input.head.any isBlank

def atBreak (input : Input) : Bool := input.head.any isBreak

/-- Passes over characters of one line. -/
def skip (input : Input) (count : Nat) : Input :=
  ⟨input.chars.drop count,
    { input.mark with
      index := input.mark.index + byteLength (input.chars.take count)
      column := input.mark.column + count }⟩

/-- The characters of one line that satisfy a test, and what comes after them. -/
def span (input : Input) (test : Char → Bool) : List Char × Input :=
  let taken := input.chars.takeWhile fun c => test c && !isBreak c
  (taken, input.skip taken.length)

def skipWhile (input : Input) (test : Char → Bool) : Input := (input.span test).2

/-- A line end as it enters a scalar, and what comes after it. -/
def readBreak (input : Input) : List Char × Input :=
  let next (count : Nat) : Input :=
    ⟨input.chars.drop count,
      ⟨input.mark.index + byteLength (input.chars.take count), input.mark.line + 1, 0⟩⟩
  match input.chars with
  | '\r' :: '\n' :: _ => (['\n'], next 2)
  | c :: _ =>
    if c = '\u2028' ∨ c = '\u2029' then ([c], next 1)
    else if isBreak c then (['\n'], next 1)
    else ([], input)
  | [] => ([], input)

def skipBreak (input : Input) : Input := input.readBreak.2

/-- The rest of the line, except its end, when it holds nothing but blanks and a comment. -/
def skipComment (input : Input) : Input :=
  let afterBlanks := input.skipWhile isBlank
  if afterBlanks.startsWith '#' then afterBlanks.skipWhile fun _ => true else afterBlanks

/-- Three hyphens, or three points, that stand alone at the start of a line. -/
def atDocumentMark (input : Input) (c : Char) : Bool :=
  input.mark.column = 0 && input.chars.take 3 = [c, c, c] && input.blankOrEnd 3

def fault (input : Input) (problem : String) (context : Option (String × Mark)) : SyntaxFault :=
  ⟨problem, input.mark, context⟩

end Input

end PlatformManifests.Yaml
