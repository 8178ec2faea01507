/-!
Tags of YAML nodes.

A tag is written in ASCII, with any other octet escaped; so it is a string of octets, which need
not be the text of a name. Tags that start with an exclamation mark belong to the application, and
a few of the other ones name a kind of scalar.
-/
namespace PlatformManifests.Yaml

/-- The kinds of scalars that a tag can ask for. -/
inductive ScalarKind where
  | boolean
  | integer
  | float
  | null
deriving DecidableEq, Repr

namespace ScalarKind

def all : List ScalarKind := [boolean, integer, float, null]

def tagText : ScalarKind → String
  | boolean => "tag:yaml.org,2002:bool"
  | integer => "tag:yaml.org,2002:int"
  | float => "tag:yaml.org,2002:float"
  | null => "tag:yaml.org,2002:null"

end ScalarKind

/-- What a tag says about its node. An `illegible` tag is one of the application without a name
that is a text; a `foreign` one is of no concern here. -/
inductive Tag where
  | own (name : String)
  | illegible
  | core (kind : ScalarKind)
  | foreign
deriving DecidableEq, Repr

namespace Tag

abbrev Octets := List UInt8

/-- The octet of the exclamation mark. -/
def bang : UInt8 := 0x21

/-- The octets of a text. -/
def octetsOf (text : String) : Octets := text.toUTF8.toList

/-- The text of octets, if they are one. -/
def text? (octets : Octets) : Option String := String.fromUTF8? ⟨octets.toArray⟩

/-- A null octet ends a tag. -/
def beforeNull (octets : Octets) : Octets := octets.takeWhile (· ≠ 0)

/-- The name of an application's tag is what follows its exclamation mark, or else the mark. -/
def ofOctets (written : Octets) : Tag :=
  if written.head? = some bang then
    match text? (if written.length = 1 then written else written.drop 1) with
    | some name => .own name
    | none => .illegible
  else
    match ScalarKind.all.find? fun kind => octetsOf kind.tagText = written with
    | some kind => .core kind
    | none => .foreign

end Tag

end PlatformManifests.Yaml
