import PlatformManifests.Yaml.Document

/-!
Documents with every alias replaced by the node that it stands for.

An alias may name a node that contains it, and aliases of aliases multiply. So collections may be
nested at most 128 deep, and at most a hundred aliases are followed for each node of the document.
-/
namespace PlatformManifests.Yaml

/-- The label of an entry is the text of its key, where the key is written as a scalar. -/
inductive Tree where
  | scalar (mark : Mark) (tag : Option Tag) (style : ScalarStyle) (text : String)
  | sequence (mark : Mark) (tag : Option Tag) (items : List Tree)
  | mapping (mark : Mark) (tag : Option Tag) (entries : List (Option String × Tree × Tree))
  | broken (fault : SyntaxFault)
deriving Repr, Inhabited

namespace Tree

def depthLimit : Nat := 128

def aliasesPerNode : Nat := 100

/-- The aliases that may still be followed, or the fault that ended the replacement. -/
abbrev Budget := Scan Nat

/-- Applies a step to each item in turn, until one of them ends the replacement. -/
def eachWithin {α β : Type} (step : α → Nat → β × Budget) : List α → Nat → List β × Budget
  | [], left => ([], .ok left)
  | item :: rest, left =>
    match step item left with
    | (done, .ok still) =>
      let (others, final) := eachWithin step rest still
      (done :: others, final)
    | (done, .error fault) => ([done], .error fault)

def labelOf? : Node → Option String
  | .scalar _ _ text => some text
  | _ => none

/-- Follows an alias to the node that it stands for. -/
def follow (root : Node) (node : Node) (left : Nat) : Scan (Node × Nat) :=
  match node with
  | .alias mark target =>
    match left, root.target? target with
    | 0, _ => .error ⟨"repetition limit exceeded", Mark.first, none⟩
    | still + 1, some found => .ok (found, still)
    | _, none => .error ⟨"unknown anchor", mark, none⟩
  | _ => .ok (node, left)

def tooDeep (mark : Mark) : Tree × Budget :=
  let fault : SyntaxFault := ⟨"recursion limit exceeded", mark, none⟩
  (.broken fault, .error fault)

/-- Replaces the aliases of a node; the first argument is the depth that is still allowed. -/
def expand (root : Node) : Nat → Node → Nat → Tree × Budget
  | depth, node, left =>
    match follow root node left with
    | .error fault => (.broken fault, .error fault)
    | .ok (.scalar props style text, still) => (.scalar props.mark props.tag style text, .ok still)
    | .ok (.sequence props items, still) =>
      match depth with
      | 0 => tooDeep props.mark
      | below + 1 =>
        let (trees, final) := eachWithin (expand root below) items still
        (.sequence props.mark props.tag trees, final)
    | .ok (.mapping props entries, still) =>
      match depth with
      | 0 => tooDeep props.mark
      | below + 1 =>
        let step (entry : Node × Node) (left : Nat) :=
          match expand root below entry.1 left with
          | (key, .error fault) => ((labelOf? entry.1, key, .broken fault), .error fault)
          | (key, .ok still) =>
            let (value, final) := expand root below entry.2 still
            ((labelOf? entry.1, key, value), final)
        let (trees, final) := eachWithin step entries still
        (.mapping props.mark props.tag trees, final)
    | .ok (.alias mark _, _) => (.broken ⟨"unknown anchor", mark, none⟩, .ok left)
    | .ok (.broken fault, _) => (.broken fault, .error fault)

def ofNode (root : Node) : Tree := (expand root depthLimit root (root.size * aliasesPerNode)).1

end Tree

/-- The tree of the first document of a text. -/
def Document.tree (document : Document) : Tree := Tree.ofNode document.root

end PlatformManifests.Yaml
