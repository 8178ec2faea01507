import Mathlib.Data.List.TakeWhile
import PlatformManifests.Proofs.ReadBack
import PlatformManifests.Proofs.YamlTrees
import PlatformManifests.Yaml.Cursor

/-!
YAML sources that show JSON values. Whatever is read from a document, by way of untyped values or
straight from its nodes, is what the JSON value holds that the document shows.
-/
namespace PlatformManifests.Yaml

open Reading

/-! ### Mappings as records -/

section Records

variable {σ : Type} {shows : σ → Json → Prop} {textOr : σ → Except Fault String}

/-- The entries whose keys are texts, with their places. -/
theorem rel_find_named {entries : List (σ × σ)} {members : List (String × Json)}
    (shown : List.Forall₂ (fun entry member => textOr entry.1 = .ok member.1 ∧
      shows entry.2 member.2) entries members) (name : String) (start : Nat) :
    Option.Rel shows
      ((((entries.zipIdx start).filterMap fun (entry, order) =>
          match textOr entry.1 with
          | .ok label => some (order, label, entry.2)
          | .error _ => none).find? fun entry => entry.2.1 = name).map fun entry => entry.2.2)
      (members.lookup name) := by
  induction shown generalizing start with
  | nil => exact .none
  | @cons entry member _ rest first _ ih =>
    obtain ⟨label, json⟩ := member
    obtain ⟨key, held⟩ := first
    rw [List.zipIdx_cons, List.filterMap_cons, lookup_entry]
    simp only [key, List.find?_cons]
    by_cases same : label = name
    · subst same
      simpa using Option.Rel.some held
    · simpa [same, Ne.symm same] using ih (start + 1)

end Records

section Trouble

variable {shape : Shape} {members : List (String × Json)} {seen : List String}

theorem fresh_cons {member : String × Json} (distinct : ((member :: members).map Prod.fst).Nodup)
    (fresh : ∀ name ∈ (member :: members).map Prod.fst, name ∉ seen) :
    ∀ name ∈ members.map Prod.fst, name ∉ member.1 :: seen := by
  intro name listed twice
  obtain ⟨alone, _⟩ := List.nodup_cons.mp distinct
  rcases List.mem_cons.mp twice with rfl | before
  · exact alone listed
  · exact fresh name (List.mem_cons_of_mem _ listed) before

theorem Value.trouble?_eq_none {entries : List (Value × Value)}
    (named : List.Forall₂ (fun entry member => entry.1.textOr "field identifier" = .ok member.1)
      entries members)
    (distinct : (members.map Prod.fst).Nodup)
    (known : ∀ name ∈ members.map Prod.fst, name ∈ shape.fields)
    (fresh : ∀ name ∈ members.map Prod.fst, name ∉ seen) (order : Nat) :
    Value.trouble? shape order seen entries = none := by
  induction named generalizing order seen with
  | nil => rfl
  | @cons entry member _ rest first _ ih =>
    obtain ⟨here, later⟩ := List.forall_mem_cons.mp known
    have new := fresh member.1 List.mem_cons_self
    simp [Value.trouble?, first, here, new, ih distinct.of_cons later (fresh_cons distinct fresh)]

theorem Cursor.trouble?_eq_none {entries : List (Cursor × Cursor)}
    (named : List.Forall₂ (fun entry member => entry.1.textOr "field identifier" = .ok member.1)
      entries members)
    (distinct : (members.map Prod.fst).Nodup)
    (known : ∀ name ∈ members.map Prod.fst, name ∈ shape.fields)
    (fresh : ∀ name ∈ members.map Prod.fst, name ∉ seen) (whole : Cursor) (order : Nat) :
    Cursor.trouble? shape whole order seen entries = none := by
  induction named generalizing order seen with
  | nil => rfl
  | @cons entry member _ rest first _ ih =>
    obtain ⟨here, later⟩ := List.forall_mem_cons.mp known
    have new := fresh member.1 List.mem_cons_self
    simp [Cursor.trouble?, first, here, new, ih distinct.of_cons later (fresh_cons distinct fresh)]

end Trouble

/-! ### Sources -/

namespace Value

theorem forall₂_ofJsonMembers (members : List (String × Json)) (expected : String) :
    List.Forall₂ (fun entry member => entry.1.textOr expected = .ok member.1 ∧
      entry.2 = ofJson member.2) (ofJsonMembers members) members := by
  rw [ofJsonMembers_eq_map, List.forall₂_map_left_iff, List.forall₂_same]
  exact fun _ _ => ⟨rfl, rfl⟩

instance : Faithful Value where
  Shows value json := value = ofJson json
  text shown := by
    subst shown
    rfl
  whole shown above below expected := by
    subst shown
    exact if_pos ⟨above, below⟩
  boolean shown := by
    subst shown
    rfl
  present {_ json} shown solid := by
    subst shown
    cases json with
    | null => exact absurd rfl solid
    | _ => rfl
  items {source values} shown := by
    subst shown
    refine ⟨ofJsonItems values, rfl, ?_⟩
    rw [ofJsonItems_eq_map, List.forall₂_map_left_iff, List.forall₂_same]
    exact fun _ _ => rfl
  pairs {source members} shown := by
    subst shown
    refine ⟨_, rfl, ?_⟩
    rw [List.forall₂_map_left_iff]
    exact forall₂_ofJsonMembers members _
  members {source members} shown {shape} distinct known := by
    subst shown
    have shown := forall₂_ofJsonMembers members "field identifier"
    exact ⟨_, rfl, trouble?_eq_none (shown.imp fun _ _ => And.left) distinct known
      (fun _ _ => List.not_mem_nil) 0, fun name => rel_find_named shown name 0⟩

end Value

namespace Cursor

theorem textOr_eq_ok {cursor : Cursor} {value : String} (shown : cursor.tree.shows (.str value))
    (expected : String) : cursor.textOr expected = .ok value := by
  obtain ⟨mark, style, tree, _⟩ := Tree.exists_of_shows_str shown
  rw [textOr, tree]

theorem forall₂_zipIdx {α β : Type} {related : α → β → Prop} {values : List α}
    {others : List β}
    (each : List.Forall₂ related values others) (start : Nat) :
    List.Forall₂ (fun value other => related value.1 other) (values.zipIdx start) others := by
  induction each generalizing start with
  | nil => exact .nil
  | cons first _ ih => exact .cons first (ih (start + 1))

theorem isNull_eq_false {text : String} (written : Scalar.ofPlain text = .text text) :
    Scalar.isNull text.toList = false := by
  cases null : Scalar.isNull text.toList with
  | false => rfl
  | true =>
    simp only [Scalar.ofPlain, null] at written
    cases written

theorem isAbsent_eq_false {cursor : Cursor} {json : Json} (shown : cursor.tree.shows json) :
    cursor.isAbsent = false := by
  obtain ⟨path, tree⟩ := cursor
  cases json with
  | str value =>
    obtain ⟨mark, style, rfl, plain⟩ := Tree.exists_of_shows_str shown
    cases style with
    | plain => exact isNull_eq_false (plain rfl)
    | _ => rfl
  | int value =>
    obtain ⟨mark, number, _, narrow, rfl⟩ := Tree.exists_of_shows_int shown
    exact Scalar.isNull_eq_false (Scalar.int?_toString narrow)
  | bool value =>
    obtain ⟨mark, rfl⟩ := Tree.exists_of_shows_bool shown
    cases value <;> rfl
  | array items =>
    obtain ⟨mark, trees, rfl, _⟩ := Tree.exists_of_shows_array shown
    rfl
  | object members =>
    obtain ⟨mark, entries, rfl, _⟩ := Tree.exists_of_shows_object shown
    rfl
  | _ => cases tree <;> cases shown

theorem exists_entries {cursor : Cursor} {members : List (String × Json)}
    (shown : Tree.shows (.object members) cursor.tree) (expected label : String) :
    ∃ entries, cursor.entriesOr expected = .ok entries ∧
      List.Forall₂ (fun entry member => entry.1.textOr label = .ok member.1 ∧
        Tree.shows member.2 entry.2.tree) entries members := by
  obtain ⟨path, tree⟩ := cursor
  obtain ⟨mark, entries, rfl, each⟩ := Tree.exists_of_shows_object shown
  refine ⟨_, rfl, ?_⟩
  rw [List.forall₂_map_left_iff]
  exact each.imp fun _ _ ⟨key, held⟩ => ⟨textOr_eq_ok key label, held⟩

instance : Faithful Cursor where
  Shows cursor json := cursor.tree.shows json
  text shown := textOr_eq_ok shown _
  whole {source value low high} shown above below expected := by
    obtain ⟨path, tree⟩ := source
    obtain ⟨mark, number, rfl, small, rfl⟩ := Tree.exists_of_shows_int shown
    change readWhole _ low high expected = _
    simp only [readWhole, isOpen, Scalar.int?_toString small, Scalar.natural?_toString small]
    simp [above, below]
  boolean {source value} shown := by
    obtain ⟨path, tree⟩ := source
    obtain ⟨mark, rfl⟩ := Tree.exists_of_shows_bool shown
    cases value <;> rfl
  present shown _ := isAbsent_eq_false shown
  items {source values} shown := by
    obtain ⟨path, tree⟩ := source
    obtain ⟨mark, trees, rfl, each⟩ := Tree.exists_of_shows_array shown
    refine ⟨_, rfl, ?_⟩
    rw [List.forall₂_map_left_iff]
    exact forall₂_zipIdx each 0
  pairs {source members} shown := by
    obtain ⟨entries, given, each⟩ := exists_entries shown "a map" "a string"
    refine ⟨entries.map fun entry => (entry.1.textOr "a string", entry.2), ?_, ?_⟩
    · change (source.entriesOr "a map").map _ = _
      rw [given]
      rfl
    · rw [List.forall₂_map_left_iff]
      exact each
  members {source members} shown {shape} distinct known := by
    obtain ⟨entries, given, each⟩ :=
      exists_entries shown ("struct " ++ shape.name) "field identifier"
    refine ⟨_, Outcome.bind_eq_ok.mpr ⟨entries, given, rfl⟩, ?_, fun name => ?_⟩
    · exact trouble?_eq_none (each.imp fun _ _ => And.left) distinct known
        (fun _ _ => List.not_mem_nil) source 0
    · exact rel_find_named each name 0

end Cursor

/-! ### Documents -/

/-- A sound text of one document, whose tree shows a value. -/
structure Document.Shows (document : Document) (json : Json) : Prop where
  sound : document.fault = none
  alone : document.followed = false
  tree : document.tree.shows json

namespace Document.Shows

variable {document : Document} {json : Json}

instance : Decidable (document.Shows json) :=
  decidable_of_iff
    (document.fault.isNone ∧ document.followed = false ∧ document.tree.shows json)
    ⟨fun ⟨sound, alone, tree⟩ => ⟨Option.isNone_iff_eq_none.mp sound, alone, tree⟩,
      fun shown => ⟨Option.isNone_iff_eq_none.mpr shown.sound, shown.alone, shown.tree⟩⟩

theorem settle_eq_ok (shown : document.Shows json) {α : Type} (value : α) :
    document.settle value = .ok value := by
  rw [Document.settle, shown.sound]
  exact if_neg (Bool.eq_false_iff.mp shown.alone)

theorem ofDocument_eq_ok (shown : document.Shows json) (keyed : json.Keyed) :
    Value.ofDocument document = .ok (Value.ofJson json) := by
  rw [Value.ofDocument, Value.recovered keyed _ _ shown.tree]
  exact shown.settle_eq_ok _

theorem readDocument_eq_ok {α : Type} {read : Cursor → Except Fault α} {write : α → Json}
    (reads : ReadsBack read write) {value : α} (shown : document.Shows (write value)) :
    Cursor.readDocument read document = .ok value := by
  have tree : Faithful.Shows (⟨.root, document.tree⟩ : Cursor) (write value) := shown.tree
  rw [Cursor.readDocument, reads.back tree]
  exact shown.settle_eq_ok _

end Document.Shows

namespace Document

/-- The document that is read from the tokens of a text. -/
def ofTokens (tokens : List Token × Option SyntaxFault) : Document :=
  let ending := tokens.2.getD ⟨"unexpected end of text", Mark.first, none⟩
  let parsed := readRoot ⟨tokens.1, ending, [], []⟩
  match parsed.rest with
  | .error fault => ⟨parsed.value, some fault, false⟩
  | .ok feed =>
    match followed? feed with
    | .ok more => ⟨parsed.value, none, more⟩
    | .error fault => ⟨parsed.value, some fault, false⟩

/-- The document that is read from characters that are all allowed. -/
def ofChars (chars : List Char) : Document :=
  ofTokens (Scanner.run (2 * chars.length + 4) ⟨⟨chars, Mark.first⟩, #[], -1, [], true, none, []⟩)

theorem read_ofList {chars : List Char} (allowed : chars.all isAllowed) :
    Document.read (.ofList chars) = ofChars chars := by
  have whole : chars.takeWhile isAllowed = chars :=
    List.takeWhile_eq_self_iff.mpr (List.all_eq_true.mp allowed)
  have tokens : scan (.ofList chars) =
      Scanner.run (2 * chars.length + 4) ⟨⟨chars, Mark.first⟩, #[], -1, [], true, none, []⟩ := by
    rw [scan, forbiddenAt?, String.toList_ofList, String.length_ofList, whole, if_pos rfl,
      Scanner.start, Input.ofText, String.toList_ofList]
  exact congrArg ofTokens tokens

theorem shows_ofList {chars : List Char} {json : Json} (allowed : chars.all isAllowed)
    (shown : (ofChars chars).Shows json) : (Document.read (.ofList chars)).Shows json :=
  read_ofList allowed ▸ shown

end Document

end PlatformManifests.Yaml
