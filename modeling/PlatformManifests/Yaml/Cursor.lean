import PlatformManifests.Yaml.Value

/-!
The nodes of a document as a source of typed data, with their paths and positions.

The reader of the data, not the node, decides what a scalar is: where text is wanted, every scalar
is its written text, and an empty plain scalar counts as an empty collection.
-/
namespace PlatformManifests.Yaml

open Reading

/-- A node of a document and the way to it. -/
structure Cursor where
  path : Path
  tree : Tree

namespace Cursor

def mark (cursor : Cursor) : Mark :=
  match cursor.tree with
  | .scalar mark _ _ _ => mark
  | .sequence mark _ _ => mark
  | .mapping mark _ _ => mark
  | .broken fault => fault.mark

def blame (cursor : Cursor) (error : ReadError) : Fault :=
  match cursor.tree with
  | .broken fault => .broken fault
  | _ => .misfit (some ⟨cursor.path, cursor.mark⟩) error

/-- A scalar whose tag does not fit its text is called by the tag, whatever was expected. -/
def scalarError (tag : Option Tag) (style : ScalarStyle) (written expected : String) :
    ReadError :=
  match Value.contentOf .root Mark.first tag style written with
  | .ok value => .unexpected value.found expected
  | .error (.misfit _ (.unexpected found _)) => .unexpected found expected
  | .error (.misfit _ error) => error
  | .error (.broken _) => .unexpected (.text written) expected

def misfit {α : Type} (cursor : Cursor) (expected : String) : Except Fault α :=
  match cursor.tree with
  | .scalar _ tag style written => .error (cursor.blame (scalarError tag style written expected))
  | .sequence _ _ _ => .error (cursor.blame (.unexpected .items expected))
  | .mapping _ _ _ => .error (cursor.blame (.unexpected .members expected))
  | .broken fault => .error (.broken fault)

def textOr (expected : String) (cursor : Cursor) : Except Fault String :=
  match cursor.tree with
  | .scalar _ _ _ written => .ok written
  | _ => cursor.misfit expected

/-- Whether a scalar may stand for something other than text: a plain one may, and a literal one
with the tag of what is wanted. -/
def isOpen (tag : Option Tag) (style : ScalarStyle) (kind : ScalarKind) : Bool :=
  style = .plain || (style = .literal && tag = some (.core kind))

def readWhole (cursor : Cursor) (low high : Int) (expected : String) : Except Fault Int :=
  let inRange (held : Int) : Except Fault Int :=
    if low ≤ held ∧ held ≤ high then .ok held
    else .error (cursor.blame (.outOfRange (.int held) expected))
  match cursor.tree with
  | .scalar _ tag style written =>
    if isOpen tag style .integer then
      match Scalar.int? written.toList with
      | some (.int held) =>
        if 0 ≤ low ∧ (Scalar.natural? written.toList).isNone then cursor.misfit expected
        else inRange held
      | _ => cursor.misfit expected
    else cursor.misfit expected
  | _ => cursor.misfit expected

def readBoolean (cursor : Cursor) : Except Fault Bool :=
  match cursor.tree with
  | .scalar _ tag style written =>
    if isOpen tag style .boolean then
      match Scalar.bool? written.toList with
      | some held => .ok held
      | none => cursor.misfit "a boolean"
    else cursor.misfit "a boolean"
  | _ => cursor.misfit "a boolean"

def isAbsent (cursor : Cursor) : Bool :=
  match cursor.tree with
  | .scalar _ none .plain written => Scalar.isNull written.toList
  | _ => false

def isBlank (cursor : Cursor) : Bool :=
  match cursor.tree with
  | .scalar _ _ .plain written => written.isEmpty
  | _ => false

def readItems (cursor : Cursor) : Except Fault (List Cursor) :=
  match cursor.tree with
  | .sequence _ _ items =>
    .ok (items.zipIdx.map fun (item, position) => ⟨.index cursor.path position, item⟩)
  | _ => if cursor.isBlank then .ok [] else cursor.misfit "a sequence"

/-- The keys and values of a mapping. A key has the path of the mapping. -/
def entriesOr (expected : String) (cursor : Cursor) : Except Fault (List (Cursor × Cursor)) :=
  match cursor.tree with
  | .mapping _ _ entries =>
    .ok (entries.map fun (label, key, value) =>
      (⟨cursor.path, key⟩, ⟨Value.childPath cursor.path label, value⟩))
  | _ => if cursor.isBlank then .ok [] else cursor.misfit expected

def readPairs (cursor : Cursor) : Except Fault (List (Except Fault String × Cursor)) :=
  (cursor.entriesOr "a map").map fun entries =>
    entries.map fun entry => (entry.1.textOr "a string", entry.2)

/-- The first entry with a key that is no field, or is one for the second time. -/
def trouble? (shape : Shape) (whole : Cursor) :
    Nat → List String → List (Cursor × Cursor) → Option Trouble
  | _, _, [] => none
  | order, seen, (key, _) :: rest =>
    match key.textOr "field identifier" with
    | .error fault => some ⟨order, fault⟩
    | .ok name =>
      if !shape.fields.contains name then
        if shape.closed then some ⟨order, key.blame (.unknown name shape.fields)⟩
        else trouble? shape whole (order + 1) seen rest
      else if seen.contains name then some ⟨order, whole.blame (.repeated name)⟩
      else trouble? shape whole (order + 1) (name :: seen) rest

def readMembers (shape : Shape) (cursor : Cursor) : Except Fault (Members Cursor) := do
  let entries ← cursor.entriesOr ("struct " ++ shape.name)
  let named := entries.zipIdx.filterMap fun (entry, order) =>
    match entry.1.textOr "field identifier" with
    | .ok name => some (order, name, entry.2)
    | .error _ => none
  .ok {
    shape := shape
    entries := named
    limit := entries.length
    missing := fun _ name => cursor.blame (.missing name)
    trouble := trouble? shape cursor 0 [] entries }

instance : Source Cursor where
  blame := blame
  text := textOr "a string"
  whole := readWhole
  boolean := readBoolean
  isAbsent := isAbsent
  items := readItems
  pairs := readPairs
  members := readMembers

/-- Reads a document straight into a type. -/
def readDocument {α : Type} (read : Cursor → Except Fault α) (document : Document) :
    Except Fault α := do
  document.settle (← read ⟨.root, document.tree⟩)

end Cursor

end PlatformManifests.Yaml
