import PlatformManifests.Binary64
import PlatformManifests.Dict

/-!
JSON values. The members of an object are a list in the order in which they are written;
`Json.record` lists the members of a document by ascending name.
-/
namespace PlatformManifests

inductive Json where
  | null
  | bool (value : Bool)
  | int (value : Int)
  | real (value : Binary64)
  | str (value : String)
  | array (items : List Json)
  | object (members : List (String × Json))
deriving Repr, Inhabited, BEq

namespace Json

/-- The member of an object under a name. -/
def member? (json : Json) (name : String) : Option Json :=
  match json with
  | .object members => members.lookup name
  | _ => none

/-- The members that are present, in the given order. -/
def present (members : List (String × Option Json)) : List (String × Json) :=
  members.filterMap fun member => member.2.map (member.1, ·)

/-- An object whose members keep the given order. -/
def listed (members : List (String × Option Json)) : Json := .object (present members)

/-- An object whose members are listed by ascending name. -/
def record (members : List (String × Option Json)) : Json :=
  .object (Dict.ofList (present members)).entries

def texts (values : List String) : Json := .array (values.map .str)

def textDict (dict : Dict String) : Json := .object (dict.map Json.str).entries

/-- The members of a list that is written only when it has some. -/
def unlessEmpty (items : List Json) : Option Json :=
  if items.isEmpty then none else some (.array items)

end Json

end PlatformManifests
