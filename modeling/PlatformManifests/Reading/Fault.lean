import PlatformManifests.Text.Quoted
import PlatformManifests.Yaml.Mark

/-!
What can be wrong with a value that is read into a type, and where it stands.
-/
namespace PlatformManifests.Reading

/-- The value that was found where another was expected. A number is given as it is written. -/
inductive Found where
  | null
  | unit
  | bool (value : Bool)
  | int (value : Int)
  | wide (value : Int)
  | real (written : String)
  | text (value : String)
  | items
  | members
deriving DecidableEq, Repr

def Found.message : Found → String
  | .null => "null"
  | .unit => "unit value"
  | .bool value => "boolean `" ++ toString value ++ "`"
  | .int value => "integer `" ++ toString value ++ "`"
  | .wide value =>
    "integer `" ++ toString value ++ "` as " ++ (if value < 0 then "i128" else "u128")
  | .real written => "floating point `" ++ written ++ "`"
  | .text value => "string " ++ Text.quoted value
  | .items => "sequence"
  | .members => "map"

inductive ReadError where
  | unexpected (found : Found) (expected : String)
  | outOfRange (found : Found) (expected : String)
  | missing (field : String)
  | unknown (field : String) (known : List String)
  | repeated (field : String)
  | wrongLength (length : Nat) (expected : String)
  | refused (reason : String)
deriving DecidableEq, Repr

namespace ReadError

def inTicks (name : String) : String := "`" ++ name ++ "`"

/-- The names that would have been right. -/
def alternatives : List String → String
  | [] => "there are no fields"
  | [only] => "expected " ++ inTicks only
  | [first, second] => "expected " ++ inTicks first ++ " or " ++ inTicks second
  | several => "expected one of " ++ String.intercalate ", " (several.map inTicks)

def message : ReadError → String
  | .unexpected found expected =>
    "invalid type: " ++ found.message ++ ", expected " ++ expected
  | .outOfRange found expected =>
    "invalid value: " ++ found.message ++ ", expected " ++ expected
  | .missing field => "missing field " ++ inTicks field
  | .unknown field known => "unknown field " ++ inTicks field ++ ", " ++ alternatives known
  | .repeated field => "duplicate field " ++ inTicks field
  | .wrongLength length expected =>
    "invalid length " ++ toString length ++ ", expected " ++ expected
  | .refused reason => reason

end ReadError

/-- The way from the root of a document to a value. Under a key that is not text, the way is
unknown. -/
inductive Path where
  | root
  | key (parent : Path) (name : String)
  | index (parent : Path) (position : Nat)
  | unknown (parent : Path)
deriving DecidableEq, Repr

namespace Path

mutual

def text : Path → String
  | .root => "."
  | .key parent name => parent.lead ++ name
  | .index parent position => parent.text ++ "[" ++ toString position ++ "]"
  | .unknown parent => parent.lead ++ "?"

/-- What stands before a key. -/
def lead : Path → String
  | .root => ""
  | .key parent name => parent.lead ++ name ++ "."
  | .index parent position => parent.text ++ "[" ++ toString position ++ "]."
  | .unknown parent => parent.lead ++ "?."

end

end Path

structure Location where
  path : Path
  mark : Yaml.Mark
deriving DecidableEq, Repr

/-- Either a value does not fit, possibly at a known location, or the text itself breaks off. -/
inductive Fault where
  | misfit (location : Option Location) (error : ReadError)
  | broken (fault : Yaml.SyntaxFault)
deriving DecidableEq, Repr

namespace Fault

/-- The path and the position are left out at the root and at the start of the text. -/
def message : Fault → String
  | .misfit none error => error.message
  | .misfit (some location) error =>
    let path := location.path.text
    (if path = "." then "" else path ++ ": ") ++ error.message ++ location.mark.suffix
  | .broken fault => fault.message

end Fault

end PlatformManifests.Reading
