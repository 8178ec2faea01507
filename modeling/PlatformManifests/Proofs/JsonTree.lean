import PlatformManifests.Proofs.Dictionary
import PlatformManifests.Json.Basic

/-!
JSON values as trees. A value is found in a tree by the names of the members that lead to it, and
the order of members does not matter. A tree keeps another one if it has all members of the other
one, with the same values, and adds none but at given places.
-/
namespace PlatformManifests.Json

/-! ### Members at any depth -/

/-- The value at the end of a path of member names. -/
def at? : Json → List String → Option Json
  | json, [] => some json
  | json, name :: rest => (json.member? name).bind fun held => held.at? rest

def IsObject (json : Json) : Prop := ∃ members, json = .object members

instance (json : Json) : Decidable json.IsObject :=
  match json with
  | .object members => .isTrue ⟨members, rfl⟩
  | .null | .bool _ | .int _ | .real _ | .str _ | .array _ => .isFalse nofun

/-- No member is null. -/
def NullFree (json : Json) : Prop := ∀ path, json.at? path ≠ some .null

/-- What stands at the given places is an object. -/
def Mapped (places : List String → Prop) (json : Json) : Prop :=
  ∀ path, places path → ∀ held, json.at? path = some held → held.IsObject

/-- The members of each object have different names. -/
inductive Keyed : Json → Prop
  | null : Keyed .null
  | bool (value : Bool) : Keyed (.bool value)
  | int (value : Int) : Keyed (.int value)
  | real (value : Binary64) : Keyed (.real value)
  | str (value : String) : Keyed (.str value)
  | array (items : List Json) (each : ∀ item ∈ items, Keyed item) : Keyed (.array items)
  | object (members : List (String × Json)) (distinct : (members.map Prod.fst).Nodup)
      (each : ∀ member ∈ members, Keyed member.2) : Keyed (.object members)

section Object

variable {members : List (String × Json)} {name : String} {held : Json}

theorem at?_cons (rest : List String) :
    (Json.object members).at? (name :: rest) = (members.lookup name).bind (·.at? rest) := rfl

theorem Keyed.distinct (keyed : (Json.object members).Keyed) : (members.map Prod.fst).Nodup := by
  cases keyed with
  | object _ distinct each => exact distinct

theorem Keyed.member (keyed : (Json.object members).Keyed)
    (found : members.lookup name = some held) : held.Keyed := by
  cases keyed with
  | object _ distinct each => exact each (name, held) ((lookup_eq_some_iff_mem distinct).mp found)

theorem NullFree.member (solid : (Json.object members).NullFree)
    (found : members.lookup name = some held) : held.NullFree := by
  intro path null
  refine solid (name :: path) ?_
  rw [at?_cons, found]
  exact null

theorem Mapped.member {places : List String → Prop} (mapped : (Json.object members).Mapped places)
    (found : members.lookup name = some held) : held.Mapped fun path => places (name :: path) := by
  intro path place other there
  refine mapped (name :: path) place other ?_
  rw [at?_cons, found]
  exact there

end Object

/-! ### Checks -/

mutual

/-- Neither nulls nor members of the same name, at any depth. -/
def isClean : Json → Bool
  | .null => false
  | .array items => itemsAreClean items
  | .object members => decide (members.map Prod.fst).Nodup && membersAreClean members
  | .bool _ => true
  | .int _ => true
  | .real _ => true
  | .str _ => true

def itemsAreClean : List Json → Bool
  | [] => true
  | item :: rest => isClean item && itemsAreClean rest

def membersAreClean : List (String × Json) → Bool
  | [] => true
  | (_, held) :: rest => isClean held && membersAreClean rest

end

theorem membersAreClean_eq_all (members : List (String × Json)) :
    membersAreClean members = members.all fun member => isClean member.2 := by
  induction members with
  | nil => rfl
  | cons member rest ih => exact congrArg (isClean member.2 && ·) ih

mutual

theorem keyed_of_isClean : {json : Json} → json.isClean → json.Keyed
  | .bool value, _ => .bool value
  | .int value, _ => .int value
  | .real value, _ => .real value
  | .str value, _ => .str value
  | .array items, clean => .array items (keyed_items clean)
  | .object members, clean =>
    .object members (of_decide_eq_true (Bool.and_eq_true_iff.mp clean).1)
      (keyed_members (Bool.and_eq_true_iff.mp clean).2)

theorem keyed_items : {items : List Json} → itemsAreClean items → ∀ item ∈ items, item.Keyed
  | [], _ => List.forall_mem_nil _
  | _ :: _, clean =>
    List.forall_mem_cons.mpr ⟨keyed_of_isClean (Bool.and_eq_true_iff.mp clean).1,
      keyed_items (Bool.and_eq_true_iff.mp clean).2⟩

theorem keyed_members : {members : List (String × Json)} → membersAreClean members →
    ∀ member ∈ members, member.2.Keyed
  | [], _ => List.forall_mem_nil _
  | _ :: _, clean =>
    List.forall_mem_cons.mpr ⟨keyed_of_isClean (Bool.and_eq_true_iff.mp clean).1,
      keyed_members (Bool.and_eq_true_iff.mp clean).2⟩

end

theorem isClean_member {members : List (String × Json)} {name : String} {held : Json}
    (clean : (Json.object members).isClean) (found : members.lookup name = some held) :
    held.isClean := by
  obtain ⟨distinct, each⟩ := Bool.and_eq_true_iff.mp clean
  rw [membersAreClean_eq_all, List.all_eq_true] at each
  exact each (name, held) ((lookup_eq_some_iff_mem (of_decide_eq_true distinct)).mp found)

theorem nullFree_of_isClean {json : Json} (clean : json.isClean) : json.NullFree := by
  intro path null
  induction path generalizing json with
  | nil =>
    cases null
    cases clean
  | cons name rest ih =>
    obtain ⟨held, there, further⟩ := Option.bind_eq_some_iff.mp null
    cases json with
    | object members => exact ih (isClean_member clean there) further
    | _ => cases there

/-! ### Members by ascending name -/

mutual

/-- The same tree with the members of each object by ascending name. -/
def canonical : Json → Json
  | .array items => .array (canonicalItems items)
  | .object members => .object (Dict.ofList (canonicalMembers members)).entries
  | .null => .null
  | .bool value => .bool value
  | .int value => .int value
  | .real value => .real value
  | .str value => .str value

def canonicalItems : List Json → List Json
  | [] => []
  | item :: rest => canonical item :: canonicalItems rest

def canonicalMembers : List (String × Json) → List (String × Json)
  | [] => []
  | (name, value) :: rest => (name, canonical value) :: canonicalMembers rest

end

theorem canonicalMembers_eq_map (members : List (String × Json)) :
    canonicalMembers members = members.map fun member => (member.1, member.2.canonical) := by
  induction members with
  | nil => rfl
  | cons member rest ih => exact congrArg (_ :: ·) ih

/-- Objects with different names for their members are the same tree if they answer alike. -/
theorem canonical_object_eq {members others : List (String × Json)}
    (distinct : (members.map Prod.fst).Nodup) (otherDistinct : (others.map Prod.fst).Nodup)
    (same : ∀ name, (members.lookup name).map canonical = (others.lookup name).map canonical) :
    (Json.object members).canonical = (Json.object others).canonical := by
  have names (entries : List (String × Json)) :
      (entries.map fun member => (member.1, member.2.canonical)).map Prod.fst =
        entries.map Prod.fst := by
    rw [List.map_map]
    rfl
  rw [canonical, canonical, canonicalMembers_eq_map, canonicalMembers_eq_map]
  refine congrArg (fun dict : Dict Json => Json.object dict.entries) (Dict.ext_get? fun name => ?_)
  rw [Dict.get?_ofList (names members ▸ distinct), Dict.get?_ofList (names others ▸ otherDistinct),
    lookup_map_entries, lookup_map_entries, same]

/-! ### Trees that keep a tree -/

/-- The second tree has every member of the first one with the same value. What it has besides is
in the value of a member that may be added, as told by its place. -/
structure Kept (added : List String → Json → Prop) (json other : Json) : Prop where
  kept {path : List String} {held : Json} (found : json.at? path = some held) :
    ∃ counterpart, other.at? path = some counterpart ∧
      (counterpart = held ∨ held.IsObject ∧ counterpart.IsObject)
  added {path : List String} {held : Json} (found : other.at? path = some held)
    (missing : json.at? path = none) :
    ∃ place value rest, added place value ∧ path = place ++ rest ∧ value.at? rest = some held

/-- A member that is kept, is missing in both trees, or is added. -/
inductive MemberKept (added : List String → Json → Prop) : Option Json → Option Json → Prop
  | both {held other : Json} (kept : held.Kept added other) :
      MemberKept added (some held) (some other)
  | neither : MemberKept added none none
  | extra {other : Json} (permitted : added [] other) : MemberKept added none (some other)

namespace Kept

variable {added : List String → Json → Prop}

theorem refl (json : Json) : json.Kept added json where
  kept found := ⟨_, found, .inl rfl⟩
  added found missing := by
    rw [found] at missing
    cases missing

/-- An object keeps another one if it does so member by member. -/
theorem object {members others : List (String × Json)}
    (each : ∀ name, MemberKept (fun path => added (name :: path)) (members.lookup name)
      (others.lookup name)) : (Json.object members).Kept added (.object others) where
  kept {path held} found := by
    cases path with
    | nil =>
      cases found
      exact ⟨_, rfl, .inr ⟨⟨_, rfl⟩, ⟨_, rfl⟩⟩⟩
    | cons name rest =>
      have member := each name
      rw [at?_cons] at found ⊢
      generalize members.lookup name = first at found member
      generalize others.lookup name = second at member ⊢
      cases member with
      | both kept => exact kept.kept found
      | neither => cases found
      | extra => cases found
  added {path held} found missing := by
    cases path with
    | nil => cases missing
    | cons name rest =>
      have member := each name
      rw [at?_cons] at found missing
      generalize members.lookup name = first at missing member
      generalize others.lookup name = second at found member
      cases member with
      | both kept =>
        obtain ⟨place, value, further, permitted, rfl, there⟩ := kept.added found missing
        exact ⟨name :: place, value, further, permitted, rfl, there⟩
      | neither => cases found
      | extra permitted => exact ⟨[name], _, rest, permitted, rfl, found⟩

/-- At its root a tree is kept as it is, unless both trees are objects. -/
theorem root {json other : Json} (kept : json.Kept added other) :
    other = json ∨ json.IsObject ∧ other.IsObject := by
  have whole : json.at? [] = some json := rfl
  obtain ⟨counterpart, found, same⟩ := kept.kept whole
  cases found
  exact same

section Exact

variable {members others : List (String × Json)} {name : String} {held : Json}

theorem exists_member
    (kept : (Json.object members).Kept (fun _ _ => False) (.object others))
    (found : members.lookup name = some held) :
    ∃ counterpart, others.lookup name = some counterpart ∧
      held.Kept (fun _ _ => False) counterpart := by
  have here : (Json.object members).at? [name] = some held := by
    rw [at?_cons, found]
    rfl
  obtain ⟨_, otherFound, _⟩ := kept.kept here
  obtain ⟨counterpart, there, _⟩ := Option.bind_eq_some_iff.mp otherFound
  refine ⟨counterpart, there, ?_, ?_⟩
  · intro path inner innerFound
    have deeper : (Json.object members).at? (name :: path) = some inner := by
      rw [at?_cons, found]
      exact innerFound
    have further := kept.kept deeper
    rw [at?_cons, show others.lookup name = some counterpart from there] at further
    exact further
  · intro path inner innerFound missing
    have deeper : (Json.object others).at? (name :: path) = some inner := by
      rw [at?_cons, show others.lookup name = some counterpart from there]
      exact innerFound
    have lacking : (Json.object members).at? (name :: path) = none := by
      rw [at?_cons, found]
      exact missing
    obtain ⟨_, _, _, nothing, _⟩ := kept.added deeper lacking
    exact nothing.elim

theorem lookup_eq_none
    (kept : (Json.object members).Kept (fun _ _ => False) (.object others))
    (missing : members.lookup name = none) : others.lookup name = none := by
  cases found : others.lookup name with
  | none => rfl
  | some counterpart =>
    have there : (Json.object others).at? [name] = some counterpart := by
      rw [at?_cons, found]
      rfl
    have lacking : (Json.object members).at? [name] = none := by
      rw [at?_cons, missing]
      rfl
    obtain ⟨_, _, _, nothing, _⟩ := kept.added there lacking
    exact nothing.elim

end Exact

/-- If nothing is added, then the trees are the same. -/
theorem canonical_eq {json other : Json} (keyed : json.Keyed) (otherKeyed : other.Keyed)
    (kept : json.Kept (fun _ _ => False) other) : other.canonical = json.canonical := by
  induction keyed generalizing other with
  | object members distinct each ih =>
    rcases kept.root with same | ⟨_, others, rfl⟩
    · rw [same]
    · refine canonical_object_eq otherKeyed.distinct distinct fun name => ?_
      cases found : members.lookup name with
      | some held =>
        obtain ⟨counterpart, there, inner⟩ := kept.exists_member found
        have listed := (lookup_eq_some_iff_mem distinct).mp found
        have same := ih (name, held) listed (otherKeyed.member there) inner
        rw [there]
        exact congrArg some same
      | none => rw [kept.lookup_eq_none found]
  | _ =>
    rcases kept.root with rfl | ⟨⟨_, impossible⟩, _⟩
    · rfl
    · cases impossible

end Kept

end PlatformManifests.Json
