import PlatformManifests.Yaml.Token

/-!
Nodes of a YAML document as they are written: scalars, collections, and aliases that stand for
another node. A document that breaks off ends in a `broken` node, so whoever reads the nodes from
the first to the last meets the fault where the text has it.
-/
namespace PlatformManifests.Yaml

/-- Where a node starts, the number of its anchor, and its tag. -/
structure Properties where
  mark : Mark
  anchor : Option Nat
  tag : Option Tag
deriving DecidableEq, Repr

inductive Node where
  | scalar (props : Properties) (style : ScalarStyle) (text : String)
  | sequence (props : Properties) (items : List Node)
  | mapping (props : Properties) (entries : List (Node × Node))
  | alias (mark : Mark) (target : Nat)
  | broken (fault : SyntaxFault)
deriving Repr, Inhabited

namespace Node

/-- The scalar that stands where nothing is written. -/
def blank (mark : Mark) : Node := .scalar ⟨mark, none, none⟩ .plain ""

def anchorEntry (props : Properties) (node : Node) : List (Nat × Node) :=
  (props.anchor.map fun anchor => (anchor, node)).toList

mutual

/-- The nodes with an anchor, in the order in which they start. -/
def anchored : Node → List (Nat × Node)
  | .scalar props style text => anchorEntry props (.scalar props style text)
  | .sequence props items => anchorEntry props (.sequence props items) ++ anchoredItems items
  | .mapping props entries => anchorEntry props (.mapping props entries) ++ anchoredEntries entries
  | .alias _ _ => []
  | .broken _ => []

def anchoredItems : List Node → List (Nat × Node)
  | [] => []
  | item :: rest => anchored item ++ anchoredItems rest

def anchoredEntries : List (Node × Node) → List (Nat × Node)
  | [] => []
  | (key, value) :: rest => anchored key ++ anchored value ++ anchoredEntries rest

end

mutual

/-- One for a scalar or an alias, two for the start and the end of a collection. -/
def size : Node → Nat
  | .sequence _ items => 2 + sizeOfItems items
  | .mapping _ entries => 2 + sizeOfEntries entries
  | .scalar _ _ _ => 1
  | .alias _ _ => 1
  | .broken _ => 0

def sizeOfItems : List Node → Nat
  | [] => 0
  | item :: rest => size item + sizeOfItems rest

def sizeOfEntries : List (Node × Node) → Nat
  | [] => 0
  | (key, value) :: rest => size key + size value + sizeOfEntries rest

end

/-- The last node with an anchor of the given number. -/
def target? (root : Node) (anchor : Nat) : Option Node := root.anchored.reverse.lookup anchor

end Node

end PlatformManifests.Yaml
