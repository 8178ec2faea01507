import PlatformManifests.Reading.Source
import PlatformManifests.Yaml.Scalar
import PlatformManifests.Yaml.Tree

/-!
YAML data without a type: what the scalars of a document stand for, under the tags that are
written. A mapping has each key once; the order of its entries does not matter for equality.

Values are also a source of typed data. As such they ignore tags, and have no positions.
-/
namespace PlatformManifests.Yaml

open Reading

inductive Value where
  | null
  | bool (value : Bool)
  | int (value : Int)
  | real (value : Binary64)
  | text (value : String)
  | sequence (items : List Value)
  | mapping (entries : List (Value × Value))
  | tagged (tag : String) (content : Value)
deriving Repr, Inhabited

namespace Value

/-- Zero and negative zero are the same number. -/
def sameReal : Binary64 → Binary64 → Bool
  | .finite _ 0 _, .finite _ 0 _ => true
  | first, second => first = second

/-- A tag is known by its name without a further exclamation mark. -/
def bareTag (tag : String) : String :=
  match tag.toList with
  | '!' :: c :: rest => String.ofList (c :: rest)
  | _ => tag

mutual

def same : Value → Value → Bool
  | .null, .null => true
  | .bool a, .bool b => a = b
  | .int a, .int b => a = b
  | .real a, .real b => sameReal a b
  | .text a, .text b => a = b
  | .sequence a, .sequence b => sameItems a b
  | .mapping a, .mapping b => a.length = b.length && covers a b
  | .tagged a x, .tagged b y => bareTag a = bareTag b && same x y
  | _, _ => false

def sameItems : List Value → List Value → Bool
  | [], [] => true
  | a :: as, b :: bs => same a b && sameItems as bs
  | _, _ => false

/-- Whether every entry of the first mapping is an entry of the second one. -/
def covers : List (Value × Value) → List (Value × Value) → Bool
  | [], _ => true
  | (key, value) :: rest, others =>
    others.any (fun entry => same key entry.1 && same value entry.2) && covers rest others

end

/-- How a key is named in the message about its second entry. -/
def entryText : Value → String
  | .null => "duplicate entry with null key"
  | .bool value => "duplicate entry with key `" ++ toString value ++ "`"
  | .int value => "duplicate entry with key " ++ toString value
  | .real .notNumber => "duplicate entry with key .nan"
  | .real (.infinite negative) =>
    "duplicate entry with key " ++ (if negative then "-.inf" else ".inf")
  | .real value => "duplicate entry with key " ++ value.compact
  | .text value => "duplicate entry with key " ++ Text.quoted value
  | .sequence _ => "duplicate entry in YAML map"
  | .mapping _ => "duplicate entry in YAML map"
  | .tagged _ _ => "duplicate entry in YAML map"

/-! ### From trees -/

def misfitAt {α : Type} (path : Path) (mark : Mark) (error : ReadError) : Except Fault α :=
  .error (.misfit (some ⟨path, mark⟩) error)

/-- The value of a plain scalar. A whole number of more than 64 bits is none. -/
def ofScalar (path : Path) (mark : Mark) : Scalar → Except Fault Value
  | .null => .ok .null
  | .bool held => .ok (.bool held)
  | .int held => .ok (.int held)
  | .real held => .ok (.real held)
  | .text held => .ok (.text held)
  | .wide held => misfitAt path mark (.unexpected (.wide held) "any YAML value")

/-- The value of a scalar that is tagged as being of some kind. -/
def ofKind (path : Path) (mark : Mark) (kind : ScalarKind) (written : String) :
    Except Fault Value :=
  let chars := written.toList
  let refuse (expected : String) : Except Fault Value :=
    misfitAt path mark (.outOfRange (.text written) expected)
  match kind with
  | .boolean => ((Scalar.bool? chars).map fun held => .ok (.bool held)).getD (refuse "a boolean")
  | .integer => ((Scalar.int? chars).map (ofScalar path mark)).getD (refuse "an integer")
  | .float => ((Scalar.real? chars).map fun held => .ok (.real held)).getD (refuse "a float")
  | .null => if Scalar.isNull chars ∧ chars ≠ [] then .ok .null else refuse "null"

/-- A value under a tag. Only the tags of the application are kept. -/
def underTag (tag : Option Tag) (content : Except Fault Value) : Except Fault Value :=
  match tag with
  | some (.own name) => content.map (.tagged name)
  | _ => content

/-- What a scalar stands for. The tag of an application does not change that, and under a foreign
one it is a text. -/
def contentOf (path : Path) (mark : Mark) (tag : Option Tag) (style : ScalarStyle)
    (written : String) : Except Fault Value :=
  match tag with
  | some (.core kind) => ofKind path mark kind written
  | some .foreign => .ok (.text written)
  | _ => if style = .plain then ofScalar path mark (Scalar.ofPlain written) else .ok (.text written)

/-- Adds an entry whose key is new. A repeated key is named as it was given first. -/
def addEntry (path : Path) (mark : Mark) (entries : List (Value × Value)) (key : Value)
    (value : Except Fault Value) : Except Fault (List (Value × Value)) :=
  match entries.find? fun entry => same entry.1 key with
  | some entry => misfitAt path mark (.refused (entryText entry.1))
  | none => value.map fun held => entries ++ [(key, held)]

def childPath (path : Path) (label : Option String) : Path :=
  match label with
  | some name => .key path name
  | none => .unknown path

mutual

def ofTree (path : Path) : Tree → Except Fault Value
  | .scalar mark tag style written => underTag tag (contentOf path mark tag style written)
  | .sequence _ tag items => underTag tag ((ofItems path 0 items).map .sequence)
  | .mapping mark tag entries =>
    underTag tag ((ofEntries path mark [] entries).map .mapping)
  | .broken fault => .error (.broken fault)

def ofItems (path : Path) (position : Nat) : List Tree → Except Fault (List Value)
  | [] => .ok []
  | item :: rest => do
    let value ← ofTree (.index path position) item
    let others ← ofItems path (position + 1) rest
    .ok (value :: others)

def ofEntries (path : Path) (mark : Mark) (done : List (Value × Value)) :
    List (Option String × Tree × Tree) → Except Fault (List (Value × Value))
  | [] => .ok done
  | (label, key, value) :: rest => do
    let name ← ofTree path key
    let entries ← addEntry path mark done name (ofTree (childPath path label) value)
    ofEntries path mark entries rest

end

/-! ### As a source -/

def untagged : Value → Value
  | .tagged _ content => content.untagged
  | value => value

def found : Value → Found
  | .null => .unit
  | .bool held => .bool held
  | .int held => .int held
  | .real held => .real held.positional
  | .text held => .text held
  | .sequence _ => .items
  | .mapping _ => .members
  | .tagged _ content => content.found

def blame (_ : Value) (error : ReadError) : Fault := .misfit none error

def misfit {α : Type} (value : Value) (expected : String) : Except Fault α :=
  .error (value.blame (.unexpected value.found expected))

def textOr (expected : String) (value : Value) : Except Fault String :=
  match value.untagged with
  | .text held => .ok held
  | _ => value.misfit expected

def readWhole (value : Value) (low high : Int) (expected : String) : Except Fault Int :=
  match value.untagged with
  | .int held =>
    if low ≤ held ∧ held ≤ high then .ok held
    else .error (value.blame (.outOfRange value.found expected))
  | _ => value.misfit expected

def readBoolean (value : Value) : Except Fault Bool :=
  match value.untagged with
  | .bool held => .ok held
  | _ => value.misfit "a boolean"

def isAbsent : Value → Bool
  | .null => true
  | _ => false

def readItems (value : Value) : Except Fault (List Value) :=
  match value.untagged with
  | .sequence items => .ok items
  | .null => .ok []
  | _ => value.misfit "a sequence"

/-- The entries of a mapping; no value at all counts as the empty mapping. -/
def entriesOr (expected : String) (value : Value) : Except Fault (List (Value × Value)) :=
  match value.untagged with
  | .mapping entries => .ok entries
  | .null => .ok []
  | _ => value.misfit expected

def readPairs (value : Value) : Except Fault (List (Except Fault String × Value)) :=
  (value.entriesOr "a map").map fun entries =>
    entries.map fun entry => (entry.1.textOr "a string", entry.2)

/-- The first entry with a key that is no field, or is one for the second time. -/
def trouble? (shape : Shape) : Nat → List String → List (Value × Value) → Option Trouble
  | _, _, [] => none
  | order, seen, (key, _) :: rest =>
    match key.textOr "field identifier" with
    | .error fault => some ⟨order, fault⟩
    | .ok name =>
      if !shape.fields.contains name then
        if shape.closed then some ⟨order, .misfit none (.unknown name shape.fields)⟩
        else trouble? shape (order + 1) seen rest
      else if seen.contains name then some ⟨order, .misfit none (.repeated name)⟩
      else trouble? shape (order + 1) (name :: seen) rest

def readMembers (shape : Shape) (value : Value) : Except Fault (Members Value) := do
  let entries ← value.entriesOr ("struct " ++ shape.name)
  let named := entries.zipIdx.filterMap fun (entry, order) =>
    match entry.1.textOr "field identifier" with
    | .ok name => some (order, name, entry.2)
    | .error _ => none
  .ok {
    shape := shape
    entries := named
    limit := entries.length
    missing := fun _ name => .misfit none (.missing name)
    trouble := trouble? shape 0 [] entries }

instance : Source Value where
  blame := blame
  text := textOr "a string"
  whole := readWhole
  boolean := readBoolean
  isAbsent := isAbsent
  items := readItems
  pairs := readPairs
  members := readMembers

/-- The value of a mapping under a text key without a tag. -/
def member? (value : Value) (name : String) : Option Value :=
  match value.untagged with
  | .mapping entries =>
    (entries.find? fun entry => same entry.1 (.text name)).map (·.2)
  | _ => none

def text? (value : Value) : Option String :=
  match value.untagged with
  | .text held => some held
  | _ => none

end Value

/-- What is read from a document counts only if the text is sound and holds no other one. -/
def Document.settle {α : Type} (document : Document) (value : α) : Except Fault α :=
  match document.fault with
  | some fault => .error (.broken fault)
  | none =>
    if document.followed then
      .error (.misfit none
        (.refused "deserializing from YAML containing more than one document is not supported"))
    else .ok value

def Value.ofDocument (document : Document) : Except Fault Value := do
  document.settle (← ofTree .root document.tree)

end PlatformManifests.Yaml
