import PlatformManifests.Json.Basic
import PlatformManifests.Reading.Source

/-!
JSON as a source of values. Faults have no location. A record is an object, or an array of its
members in the order of their declaration.
-/
namespace PlatformManifests.Json

open Reading

def found : Json → Found
  | .null => .null
  | .bool value => .bool value
  | .int value => .int value
  | .real value => .real value.signed
  | .str value => .text value
  | .array _ => .items
  | .object _ => .members

def blame (_ : Json) (error : ReadError) : Fault := .misfit none error

def misfit {α : Type} (json : Json) (expected : String) : Except Fault α :=
  .error (json.blame (.unexpected json.found expected))

def readText : Json → Except Fault String
  | .str value => .ok value
  | json => json.misfit "a string"

def readWhole (json : Json) (low high : Int) (expected : String) : Except Fault Int :=
  match json with
  | .int value =>
    if low ≤ value ∧ value ≤ high then .ok value
    else .error (json.blame (.outOfRange json.found expected))
  | _ => json.misfit expected

def readBoolean : Json → Except Fault Bool
  | .bool value => .ok value
  | json => json.misfit "a boolean"

def isAbsent : Json → Bool
  | .null => true
  | _ => false

def readItems : Json → Except Fault (List Json)
  | .array items => .ok items
  | json => json.misfit "a sequence"

def readPairs : Json → Except Fault (List (Except Fault String × Json))
  | .object members => .ok (members.map fun member => (.ok member.1, member.2))
  | json => json.misfit "a map"

/-- The entries of a list with their places. -/
def numbered {α : Type} (entries : List α) : List (Nat × α) :=
  entries.zipIdx.map fun entry => (entry.2, entry.1)

def unknownMember? (shape : Shape) (members : List (String × Json)) : Option Trouble :=
  if shape.closed then
    ((numbered members).find? fun entry => !shape.fields.contains entry.2.1).map fun entry =>
      ⟨entry.1, .misfit none (.unknown entry.2.1 shape.fields)⟩
  else none

def objectMembers (shape : Shape) (members : List (String × Json)) : Members Json where
  shape := shape
  entries := numbered members
  limit := members.length
  missing _ name := .misfit none (.missing name)
  trouble := unknownMember? shape members

def arrayMembers (shape : Shape) (items : List Json) : Members Json where
  shape := shape
  entries := numbered (shape.fields.zip items)
  limit := items.length
  missing position _ := .misfit none (.wrongLength position shape.arity)
  trouble :=
    if shape.fields.length < items.length then
      some ⟨items.length, .misfit none (.wrongLength items.length "fewer elements in array")⟩
    else none

def readMembers (shape : Shape) : Json → Except Fault (Members Json)
  | .object members => .ok (objectMembers shape members)
  | .array items => .ok (arrayMembers shape items)
  | json => json.misfit ("struct " ++ shape.name)

instance : Source Json where
  blame := blame
  text := readText
  whole := readWhole
  boolean := readBoolean
  isAbsent := isAbsent
  items := readItems
  pairs := readPairs
  members := readMembers

end PlatformManifests.Json
