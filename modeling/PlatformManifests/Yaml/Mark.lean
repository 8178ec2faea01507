/-!
Positions in a YAML text, and what can be wrong with its syntax.

A position counts bytes of UTF-8, lines, and the characters before it on its line, all from zero.
Messages count lines and columns from one and leave out the very first position.
-/
namespace PlatformManifests.Yaml

structure Mark where
  index : Nat
  line : Nat
  column : Nat
deriving DecidableEq, Repr, Inhabited

namespace Mark

def first : Mark := ⟨0, 0, 0⟩

def isFirst (mark : Mark) : Bool := mark.line = 0 && mark.column = 0

def sameSpot (mark other : Mark) : Bool := mark.line = other.line && mark.column = other.column

def text (mark : Mark) : String :=
  "line " ++ toString (mark.line + 1) ++ " column " ++ toString (mark.column + 1)

/-- The position at the end of a message. -/
def suffix (mark : Mark) : String := if mark.isFirst then "" else " at " ++ mark.text

end Mark

/-- What broke off the reading of a text, where, and what was being read. -/
structure SyntaxFault where
  problem : String
  mark : Mark
  context : Option (String × Mark)
deriving DecidableEq, Repr

namespace SyntaxFault

def message (fault : SyntaxFault) : String :=
  let placed :=
    if fault.mark.isFirst ∧ fault.mark.index ≠ 0 then
      fault.problem ++ " at position " ++ toString fault.mark.index
    else fault.problem ++ fault.mark.suffix
  match fault.context with
  | none => placed
  | some (activity, mark) =>
    placed ++ ", " ++ activity ++ (if mark.sameSpot fault.mark then "" else mark.suffix)

end SyntaxFault

/-- What a reading step gives: a result, or the reason why the text breaks off. -/
abbrev Scan (α : Type) := Except SyntaxFault α

end PlatformManifests.Yaml
