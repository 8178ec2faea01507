import PlatformManifests.Dict
import PlatformManifests.Reading.Fault

/-!
Reading values of a type out of a document, whatever the format of the document is.

A source offers the shapes that a format knows: text, whole numbers, truth values, items, pairs,
and the members of a record. A record is read member by member: of several faults the one whose
member comes first in the document is reported, and members that are missing come last, in the
order of their declaration.
-/
namespace PlatformManifests.Reading

/-- The name of a record type and its members in order. A closed record has no others. -/
structure Shape where
  name : String
  fields : List String
  closed : Bool
deriving Repr

/-- How the length of a record given as a list of its members is described. -/
def Shape.arity (shape : Shape) : String :=
  "struct " ++ shape.name ++ " with " ++ toString shape.fields.length
    ++ (if shape.fields.length = 1 then " element" else " elements")

/-- A fault inside a record. Faults are reported in ascending order of `order`. -/
structure Trouble where
  order : Nat
  fault : Fault

/-- The members of a record, each with its place in the document. -/
structure Members (σ : Type) where
  shape : Shape
  entries : List (Nat × String × σ)
  /-- The order of a fault that comes after all entries. -/
  limit : Nat
  missing : Nat → String → Fault
  trouble : Option Trouble

class Source (σ : Type) where
  /-- A fault at a value. -/
  blame : σ → ReadError → Fault
  text : σ → Except Fault String
  /-- A whole number between two bounds, called by the name of its type. -/
  whole : σ → Int → Int → String → Except Fault Int
  boolean : σ → Except Fault Bool
  isAbsent : σ → Bool
  items : σ → Except Fault (List σ)
  /-- Keys and values of a mapping. -/
  pairs : σ → Except Fault (List (Except Fault String × σ))
  members : Shape → σ → Except Fault (Members σ)

/-- A part of a record that was read, or the first trouble with it. -/
inductive RecordPart (α : Type) where
  | value (held : α)
  | trouble (first : Trouble)

namespace RecordPart

def map {α β : Type} (change : α → β) : RecordPart α → RecordPart β
  | .value held => .value (change held)
  | .trouble first => .trouble first

/-- Two parts of one record; of two troubles the first in order remains. -/
def both {α β : Type} : RecordPart (α → β) → RecordPart α → RecordPart β
  | .value change, .value held => .value (change held)
  | .value _, .trouble second => .trouble second
  | .trouble first, .value _ => .trouble first
  | .trouble first, .trouble second =>
    if second.order < first.order then .trouble second else .trouble first

instance : Functor RecordPart where
  map change part := part.map change

instance : Seq RecordPart where
  seq first second := first.both (second ())

end RecordPart

namespace Members

variable {σ α : Type}

/-- The place of a field in the declaration. -/
def position (members : Members σ) (name : String) : Nat := members.shape.fields.idxOf name

def find? (members : Members σ) (name : String) : Option (Nat × String × σ) :=
  members.entries.find? fun entry => entry.2.1 = name

/-- Reads a field; `absent` is what becomes of a field that is not there. -/
def field (members : Members σ) (name : String) (read : σ → Except Fault α)
    (absent : RecordPart α) : RecordPart α :=
  match members.find? name with
  | some (order, _, source) =>
    match read source with
    | .ok value => .value value
    | .error fault => .trouble ⟨order, fault⟩
  | none => absent

def required (members : Members σ) (name : String) (read : σ → Except Fault α) : RecordPart α :=
  let position := members.position name
  members.field name read (.trouble ⟨members.limit + position, members.missing position name⟩)

def withDefault (members : Members σ) (name : String) (read : σ → Except Fault α)
    (default : α) : RecordPart α :=
  members.field name read (.value default)

/-- The whole record, unless some part of it or an entry of the document is wrong. -/
def finish (members : Members σ) (part : RecordPart α) : Except Fault α :=
  match part, members.trouble with
  | .value value, none => .ok value
  | .value _, some trouble => .error trouble.fault
  | .trouble trouble, none => .error trouble.fault
  | .trouble first, some second =>
    .error (if second.order ≤ first.order then second.fault else first.fault)

end Members

/-! ### Readers -/

variable {σ α : Type} [Source σ]

def readText (source : σ) : Except Fault String := Source.text source

def readBoolean (source : σ) : Except Fault Bool := Source.boolean source

def readPort (source : σ) : Except Fault UInt16 :=
  (Source.whole source 0 65535 "u16").map fun value => UInt16.ofNat value.toNat

def readCount (source : σ) : Except Fault UInt32 :=
  (Source.whole source 0 4294967295 "u32").map fun value => UInt32.ofNat value.toNat

def readWide (source : σ) : Except Fault Int64 :=
  (Source.whole source (-9223372036854775808) 9223372036854775807 "i64").map Int64.ofInt

def readList (read : σ → Except Fault α) (source : σ) : Except Fault (List α) := do
  (← Source.items source).mapM read

/-- Reads the entries in their order; a later value replaces an earlier one of the same key. -/
def readEntries (read : σ → Except Fault α) :
    List (Except Fault String × σ) → Dict α → Except Fault (Dict α)
  | [], dict => .ok dict
  | (key, source) :: rest, dict => do
    let name ← key
    let value ← read source
    readEntries read rest (dict.insert name value)

def readDict (read : σ → Except Fault α) (source : σ) : Except Fault (Dict α) := do
  readEntries read (← Source.pairs source) ∅

def readTexts (source : σ) : Except Fault (List String) := readList readText source

def readTextDict (source : σ) : Except Fault (Dict String) := readDict readText source

/-- A value that may be absent. -/
def readOption (read : σ → Except Fault α) (source : σ) : Except Fault (Option α) :=
  if Source.isAbsent source then .ok none else (read source).map some

def readRecord (shape : Shape) (parts : Members σ → RecordPart α) (source : σ) : Except Fault α := do
  let members ← Source.members shape source
  members.finish (parts members)

/-- A field that may be missing or absent. -/
def Members.optional (members : Members σ) (name : String) (read : σ → Except Fault α) :
    RecordPart (Option α) :=
  members.withDefault name (readOption read) none

end PlatformManifests.Reading
