import PlatformManifests.Json.Basic
import PlatformManifests.Yaml.Input
import PlatformManifests.Yaml.Scalar
import PlatformManifests.Yaml.Token

/-!
Written YAML. Collections are in block style, and every scalar is in the plainest style that reads
back as the same text. A sequence is not indented below its key.
-/
namespace PlatformManifests.Yaml

/-! ### Styles of scalars -/

/-- Characters that can be written as they are. -/
def isShowable (c : Char) : Bool :=
  let code := c.toNat
  c = '\n' || (0x20 ≤ code && code ≤ 0x7E)
    || (0xA0 ≤ code && code ≠ 0xFEFF && code ≠ 0xFFFE && code ≠ 0xFFFF)

def endsWord : Option Char → Bool
  | none => true
  | some c => isBlank c || isBreak c || c = '\x00'

/-- Whether a character sequence of a text, at the place after `before`, has a meaning in YAML. -/
def hasIndicator (before : Char) : List Char → Bool
  | [] => false
  | c :: rest =>
    (c = ':' && endsWord rest.head?) || (c = '#' && endsWord (some before)) || hasIndicator c rest

/-- Whether the first character of a text has a meaning in YAML. -/
def startsWithIndicator : List Char → Bool
  | [] => false
  | c :: rest =>
    ['#', ',', '[', ']', '{', '}', '&', '*', '!', '|', '>', '\'', '"', '%', '@', '`'].contains c
      || (['?', ':', '-'].contains c && endsWord rest.head?)

def startsLikeMark (text : List Char) : Bool :=
  text.take 3 = ['-', '-', '-'] || text.take 3 = ['.', '.', '.']

/-- Whether two characters stand next to each other somewhere. -/
def adjacent (first second : Char → Bool) : List Char → Bool
  | a :: b :: rest => (first a && second b) || adjacent first second (b :: rest)
  | _ => false

def isSpace (c : Char) : Bool := c = ' '

def isShown (text : List Char) : Bool := text.all isShowable

/-- On one line, without outer spaces, and without anything that has a meaning in YAML. -/
def allowsPlain (text : List Char) : Bool :=
  isShown text && !text.any isBreak && !text.head?.any isSpace && !text.getLast?.any isSpace
    && !startsLikeMark text && !startsWithIndicator text
    && !(match text with
      | [] => false
      | c :: rest => hasIndicator c rest)

/-- Spaces around line ends would be lost between single quotes. -/
def allowsSingle (text : List Char) : Bool :=
  isShown text && !adjacent isSpace isBreak text && !adjacent isBreak isSpace text

/-- Spaces at the end of a line would not be seen. -/
def allowsLiteral (text : List Char) : Bool :=
  isShown text && !text.getLast?.any isSpace && !adjacent isSpace isBreak text

/-- Whether a plain scalar of this text would be read as something other than text. -/
def isAmbiguous (text : String) : Bool :=
  match Scalar.ofPlain text with
  | .text _ => Scalar.isPadded text.toList
  | _ => true

/-- Text of several lines is literal, ambiguous text is quoted, any other text is plain, as far
as the text allows. -/
def styleOf (text : String) : ScalarStyle :=
  let chars := text.toList
  if chars.contains '\n' then if allowsLiteral chars then .literal else .doubleQuoted
  else if !isAmbiguous text && allowsPlain chars then .plain
  else if allowsSingle chars then .singleQuoted
  else .doubleQuoted

/-! ### Scalars -/

def spaces (count : Nat) : List Char := List.replicate count ' '

/-- Hexadecimal digits with zeros in front. -/
def hexDigits (width value : Nat) : List Char :=
  let digits := (Nat.toDigits 16 value).map Char.toUpper
  List.replicate (width - digits.length) '0' ++ digits

def escapeLetter? (c : Char) : Option Char :=
  match c with
  | '\x00' => some '0'
  | '\x07' => some 'a'
  | '\x08' => some 'b'
  | '\t' => some 't'
  | '\n' => some 'n'
  | '\x0b' => some 'v'
  | '\x0c' => some 'f'
  | '\r' => some 'r'
  | '\x1b' => some 'e'
  | '"' => some '"'
  | '\\' => some '\\'
  | '\u0085' => some 'N'
  | '\u2028' => some 'L'
  | '\u2029' => some 'P'
  | _ => none

def escapedChar (c : Char) : List Char :=
  match escapeLetter? c with
  | some letter => ['\\', letter]
  | none =>
    if isShowable c then [c]
    else if c.toNat ≤ 0xFF then '\\' :: 'x' :: hexDigits 2 c.toNat
    else if c.toNat ≤ 0xFFFF then '\\' :: 'u' :: hexDigits 4 c.toNat
    else '\\' :: 'U' :: hexDigits 8 c.toNat

def doubleQuoted (text : List Char) : List Char := '"' :: (text.flatMap escapedChar ++ ['"'])

/-- Text between single quotes; `fresh` says that a line has just begun. -/
def singleQuotedRest (indent : Nat) (fresh : Bool) : List Char → List Char
  | [] => (if fresh then spaces indent else []) ++ ['\'']
  | c :: rest =>
    if isBreak c then c :: singleQuotedRest indent true rest
    else
      (if fresh then spaces indent else []) ++ (if c = '\'' then ['\'', '\''] else [c])
        ++ singleQuotedRest indent false rest

def singleQuoted (indent : Nat) (text : List Char) : List Char :=
  '\'' :: singleQuotedRest indent false text

/-- How the line ends at the end of a literal are to be read back. -/
def chomping (text : List Char) : List Char :=
  match text.reverse with
  | [] => ['-']
  | [last] => if isBreak last then ['+'] else ['-']
  | last :: before :: _ => if !isBreak last then ['-'] else if isBreak before then ['+'] else []

/-- The lines of a literal; `fresh` says that a line has just begun. -/
def literalLines (indent : Nat) (fresh : Bool) : List Char → List Char
  | [] => []
  | c :: rest =>
    if isBreak c then c :: literalLines indent true rest
    else (if fresh then spaces indent else []) ++ c :: literalLines indent false rest

/-- A literal states its indentation where its first line does not show it. -/
def literal (indent : Nat) (text : List Char) : List Char :=
  let hint := if text.head?.any fun c => isSpace c || isBreak c then ['2'] else []
  '|' :: (hint ++ chomping text ++ '\n' :: literalLines indent true text)

/-- A text as a scalar; `indent` is the indentation of its further lines. -/
def written (indent : Nat) (text : String) : List Char :=
  let chars := text.toList
  match styleOf text with
  | .plain => chars
  | .singleQuoted => singleQuoted indent chars
  | .doubleQuoted => doubleQuoted chars
  | .literal => literal indent chars
  | .folded => literal indent chars

/-- Ends a line that is not ended yet. -/
def endLine (line : List Char) : List Char :=
  if line.getLast?.any isBreak then line else line ++ ['\n']

/-! ### Documents -/

/-- A key stands before its colon if it is on one line and not long. -/
def isShortKey (key : String) : Bool := !key.toList.any isBreak && key.utf8ByteSize ≤ 128

def realText : Binary64 → String
  | .notNumber => ".nan"
  | .infinite negative => if negative then "-.inf" else ".inf"
  | value => value.compact

/-- Scalars and empty collections, as they stand behind an indicator. -/
def leaf (indent : Nat) : Json → List Char
  | .null => "null".toList
  | .bool value => (toString value).toList
  | .int value => (toString value).toList
  | .real value => (realText value).toList
  | .str value => written (indent + 2) value
  | .array _ => "[]".toList
  | .object _ => "\x7b\x7d".toList

mutual

/-- What comes after a colon behind a key. -/
def afterColon (indent : Nat) : Json → List Char
  | .array (item :: rest) => '\n' :: items indent false (item :: rest)
  | .object (entry :: rest) => '\n' :: entries (indent + 2) false (entry :: rest)
  | value => ' ' :: endLine (leaf indent value)

/-- What comes after an indicator that begins a line. -/
def afterMark (indent : Nat) : Json → List Char
  | .array (item :: rest) => ' ' :: items (indent + 2) true (item :: rest)
  | .object (entry :: rest) => ' ' :: entries (indent + 2) true (entry :: rest)
  | value => ' ' :: endLine (leaf indent value)

/-- Items of a sequence; `inline` says that the first one continues a line. -/
def items (indent : Nat) (inline : Bool) : List Json → List Char
  | [] => []
  | item :: rest =>
    (if inline then [] else spaces indent) ++ '-' :: (afterMark indent item ++
      items indent false rest)

/-- Entries of a mapping; `inline` says that the first one continues a line. -/
def entries (indent : Nat) (inline : Bool) : List (String × Json) → List Char
  | [] => []
  | (key, value) :: rest =>
    let start := if inline then [] else spaces indent
    let entry :=
      if isShortKey key then written (indent + 2) key ++ ':' :: afterColon indent value
      else
        '?' :: ' ' :: (endLine (written (indent + 2) key) ++ spaces indent
          ++ ':' :: afterMark indent value)
    start ++ entry ++ entries indent false rest

end

/-- The text of a document. -/
def print (document : Json) : String :=
  String.ofList
    (match document with
    | .array (item :: rest) => items 0 false (item :: rest)
    | .object (entry :: rest) => entries 0 false (entry :: rest)
    | other => endLine (leaf 0 other))

/-- The text of several documents. -/
def printAll (documents : List Json) : String :=
  String.intercalate "---\n" (documents.map print)

end PlatformManifests.Yaml
