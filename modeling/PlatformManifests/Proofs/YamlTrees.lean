import PlatformManifests.Proofs.JsonTree
import PlatformManifests.Proofs.Outcome
import PlatformManifests.Proofs.YamlNumbers
import PlatformManifests.Yaml.Value

/-!
YAML trees that show JSON values: texts and numbers are scalars that stand for them, arrays are
sequences, objects are mappings, and nothing has a tag. The untyped value of such a tree is the
value that it shows.
-/
namespace PlatformManifests.Yaml

open Reading

/-! ### Trees -/

namespace Tree

mutual

/-- Whether a tree shows a value. A plain text must not stand for something else, and a number has
decimal digits, no sign, and at most 64 bits. -/
def shows : Json → Tree → Bool
  | .str value, .scalar _ none style text =>
    text = value && (style ≠ .plain || Scalar.ofPlain value = .text value)
  | .int (.ofNat value), .scalar _ none .plain text =>
    text = toString value && value ≤ 18446744073709551615
  | .bool value, .scalar _ none .plain text => text = toString value
  | .array items, .sequence _ none trees => showsItems items trees
  | .object members, .mapping _ none entries => showsMembers members entries
  | _, _ => false

def showsItems : List Json → List Tree → Bool
  | [], [] => true
  | item :: items, tree :: trees => shows item tree && showsItems items trees
  | _, _ => false

def showsMembers : List (String × Json) → List (Option String × Tree × Tree) → Bool
  | [], [] => true
  | (name, value) :: members, (_, key, held) :: entries =>
    shows (.str name) key && shows value held && showsMembers members entries
  | _, _ => false

end

variable {tree : Tree}

theorem exists_of_shows_str {value : String} (shown : shows (.str value) tree) :
    ∃ mark style, tree = .scalar mark none style value ∧
      (style = .plain → Scalar.ofPlain value = .text value) := by
  cases tree with
  | scalar mark tag style text =>
    cases tag with
    | none =>
      obtain ⟨same, written⟩ := Bool.and_eq_true_iff.mp shown
      obtain rfl := of_decide_eq_true same
      refine ⟨mark, style, rfl, fun plain => ?_⟩
      subst plain
      exact of_decide_eq_true written
    | some => cases shown
  | _ => cases shown

theorem exists_of_shows_int {value : Int} (shown : shows (.int value) tree) :
    ∃ mark, ∃ number : Nat, value = number ∧ number ≤ 18446744073709551615 ∧
      tree = .scalar mark none .plain (toString number) := by
  cases tree with
  | scalar mark tag style text =>
    cases tag with
    | none =>
      cases value with
      | ofNat number =>
        cases style with
        | plain =>
          obtain ⟨same, narrow⟩ := Bool.and_eq_true_iff.mp shown
          obtain rfl := of_decide_eq_true same
          exact ⟨mark, number, rfl, of_decide_eq_true narrow, rfl⟩
        | _ => cases shown
      | negSucc => cases shown
    | some => cases value <;> cases shown
  | _ => cases value <;> cases shown

theorem exists_of_shows_bool {value : Bool} (shown : shows (.bool value) tree) :
    ∃ mark, tree = .scalar mark none .plain (toString value) := by
  cases tree with
  | scalar mark tag style text =>
    cases tag with
    | none =>
      cases style with
      | plain => exact ⟨mark, congrArg _ (of_decide_eq_true shown)⟩
      | _ => cases shown
    | some => cases shown
  | _ => cases shown

theorem showsItems_forall₂ {items : List Json} {trees : List Tree}
    (shown : showsItems items trees) :
    List.Forall₂ (fun tree item => shows item tree) trees items := by
  induction items generalizing trees with
  | nil =>
    cases trees with
    | nil => exact .nil
    | cons => cases shown
  | cons item rest ih =>
    cases trees with
    | nil => cases shown
    | cons tree trees =>
      obtain ⟨first, later⟩ := Bool.and_eq_true_iff.mp shown
      exact .cons first (ih later)

theorem showsMembers_forall₂ {members : List (String × Json)}
    {entries : List (Option String × Tree × Tree)} (shown : showsMembers members entries) :
    List.Forall₂ (fun entry member => shows (.str member.1) entry.2.1 ∧
      shows member.2 entry.2.2) entries members := by
  induction members generalizing entries with
  | nil =>
    cases entries with
    | nil => exact .nil
    | cons => cases shown
  | cons member rest ih =>
    cases entries with
    | nil => cases shown
    | cons entry entries =>
      obtain ⟨both, later⟩ := Bool.and_eq_true_iff.mp shown
      exact .cons (Bool.and_eq_true_iff.mp both) (ih later)

theorem exists_of_shows_array {items : List Json} (shown : shows (.array items) tree) :
    ∃ mark trees, tree = .sequence mark none trees ∧
      List.Forall₂ (fun tree item => shows item tree) trees items := by
  cases tree with
  | sequence mark tag trees =>
    cases tag with
    | none => exact ⟨mark, trees, rfl, showsItems_forall₂ shown⟩
    | some => cases shown
  | _ => cases shown

theorem exists_of_shows_object {members : List (String × Json)}
    (shown : shows (.object members) tree) :
    ∃ mark entries, tree = .mapping mark none entries ∧
      List.Forall₂ (fun entry member => shows (.str member.1) entry.2.1 ∧
        shows member.2 entry.2.2) entries members := by
  cases tree with
  | mapping mark tag entries =>
    cases tag with
    | none => exact ⟨mark, entries, rfl, showsMembers_forall₂ shown⟩
    | some => cases shown
  | _ => cases shown

end Tree

/-! ### Values -/

namespace Value

mutual

def ofJson : Json → Value
  | .null => .null
  | .bool held => .bool held
  | .int held => .int held
  | .real held => .real held
  | .str held => .text held
  | .array items => .sequence (ofJsonItems items)
  | .object members => .mapping (ofJsonMembers members)

def ofJsonItems : List Json → List Value
  | [] => []
  | item :: rest => ofJson item :: ofJsonItems rest

def ofJsonMembers : List (String × Json) → List (Value × Value)
  | [] => []
  | (name, held) :: rest => (.text name, ofJson held) :: ofJsonMembers rest

end

def ofMember (member : String × Json) : Value × Value := (.text member.1, ofJson member.2)

theorem ofJsonItems_eq_map (items : List Json) : ofJsonItems items = items.map ofJson := by
  induction items with
  | nil => rfl
  | cons item rest ih => exact congrArg (ofJson item :: ·) ih

theorem ofJsonMembers_eq_map (members : List (String × Json)) :
    ofJsonMembers members = members.map ofMember := by
  induction members with
  | nil => rfl
  | cons member rest ih => exact congrArg (ofMember member :: ·) ih

/-- Every tree that shows the value stands for it. -/
def Recovered (json : Json) : Prop :=
  ∀ tree path, Tree.shows json tree → ofTree path tree = .ok (ofJson json)

theorem recovered_str (value : String) : Recovered (.str value) := by
  intro tree path shown
  obtain ⟨mark, style, rfl, plain⟩ := Tree.exists_of_shows_str shown
  change (if style = .plain then ofScalar path mark (Scalar.ofPlain value) else _) = _
  split
  · rename_i same
    rw [plain same]
    rfl
  · rfl

theorem recovered_int (value : Int) : Recovered (.int value) := by
  intro tree path shown
  obtain ⟨mark, number, rfl, narrow, rfl⟩ := Tree.exists_of_shows_int shown
  change ofScalar path mark (Scalar.ofPlain (toString number)) = _
  rw [Scalar.ofPlain_of_int? (Scalar.int?_toString narrow)]
  rfl

theorem recovered_bool (value : Bool) : Recovered (.bool value) := by
  intro tree path shown
  obtain ⟨mark, rfl⟩ := Tree.exists_of_shows_bool shown
  cases value <;> rfl

theorem ofItems_eq_ok {items : List Json} {trees : List Tree}
    (shown : List.Forall₂ (fun tree item => Tree.shows item tree) trees items)
    (each : ∀ item ∈ items, Recovered item) (path : Path) (position : Nat) :
    ofItems path position trees = .ok (items.map ofJson) := by
  induction shown generalizing position with
  | nil => rfl
  | @cons tree item _ rest first _ ih =>
    obtain ⟨here, later⟩ := List.forall_mem_cons.mp each
    rw [ofItems, here tree _ first, ih later]
    rfl

theorem recovered_array {items : List Json} (each : ∀ item ∈ items, Recovered item) :
    Recovered (.array items) := by
  intro tree path shown
  obtain ⟨mark, trees, rfl, shownItems⟩ := Tree.exists_of_shows_array shown
  rw [ofTree, ofItems_eq_ok shownItems each, ofJson, ofJsonItems_eq_map]
  rfl

/-- Different names are different keys. -/
theorem addEntry_eq_ok {before : List (String × Json)} {member : String × Json}
    (fresh : member.1 ∉ before.map Prod.fst) (path : Path) (mark : Mark) :
    addEntry path mark (before.map ofMember) (.text member.1) (.ok (ofJson member.2)) =
      .ok ((before ++ [member]).map ofMember) := by
  have missing :
      (before.map ofMember).find? (fun entry => same entry.1 (.text member.1)) = none := by
    rw [List.find?_eq_none]
    rintro entry listed twice
    obtain ⟨other, inside, rfl⟩ := List.mem_map.mp listed
    have equal : other.1 = member.1 := of_decide_eq_true twice
    exact fresh (equal ▸ List.mem_map_of_mem inside)
  rw [addEntry, missing, List.map_append]
  rfl

theorem ofEntries_eq_ok (before : List (String × Json)) {members : List (String × Json)}
    {entries : List (Option String × Tree × Tree)}
    (shown : List.Forall₂ (fun entry member => Tree.shows (.str member.1) entry.2.1 ∧
      Tree.shows member.2 entry.2.2) entries members)
    (each : ∀ member ∈ members, Recovered member.2)
    (distinct : ((before ++ members).map Prod.fst).Nodup) (path : Path) (mark : Mark) :
    ofEntries path mark (before.map ofMember) entries = .ok ((before ++ members).map ofMember) := by
  induction shown generalizing before with
  | nil =>
    rw [List.append_nil]
    rfl
  | @cons entry member _ rest first _ ih =>
    obtain ⟨here, later⟩ := List.forall_mem_cons.mp each
    have fresh : member.1 ∉ before.map Prod.fst := by
      rw [List.map_append, List.nodup_append] at distinct
      exact fun twice => distinct.2.2 _ twice _ List.mem_cons_self rfl
    rw [List.append_cons] at distinct ⊢
    have added := addEntry_eq_ok fresh path mark
    rw [← here entry.2.2 (childPath path entry.1) first.2] at added
    exact Outcome.bind_eq_ok.mpr ⟨_, recovered_str _ _ path first.1,
      Outcome.bind_eq_ok.mpr ⟨_, added, ih _ later distinct⟩⟩

theorem recovered_object {members : List (String × Json)}
    (distinct : (members.map Prod.fst).Nodup) (each : ∀ member ∈ members, Recovered member.2) :
    Recovered (.object members) := by
  intro tree path shown
  obtain ⟨mark, entries, rfl, shownMembers⟩ := Tree.exists_of_shows_object shown
  have given : ofEntries path mark [] entries = .ok (members.map ofMember) :=
    ofEntries_eq_ok [] shownMembers each distinct path mark
  rw [ofTree, given, ofJson, ofJsonMembers_eq_map]
  rfl

theorem recovered {json : Json} (keyed : json.Keyed) : Recovered json := by
  induction keyed with
  | null =>
    intro tree path shown
    cases tree <;> cases shown
  | real value =>
    intro tree path shown
    cases tree <;> cases shown
  | bool value => exact recovered_bool value
  | int value => exact recovered_int value
  | str value => exact recovered_str value
  | array items _ ih => exact recovered_array ih
  | object members distinct _ ih => exact recovered_object distinct ih

end Value

end PlatformManifests.Yaml
