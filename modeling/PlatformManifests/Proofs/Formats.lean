import PlatformManifests.Proofs.ApplyOrder
import PlatformManifests.Proofs.Documents
import PlatformManifests.Proofs.Stream
import PlatformManifests.Proofs.YamlSources

/-!
The two formats of a resource set. Both carry the documents of the set in the order in which they
are applied: the JSON text as one list, the YAML text as documents with marks between them.
-/
namespace PlatformManifests

open Yaml

namespace Yaml

/-! ### Documents of a stream -/

namespace Value

mutual

/-- The value of a document tells which document it is. -/
theorem ofJson_injective : {first second : Json} → ofJson first = ofJson second → first = second
  | .null, second, same => by cases second <;> cases same; rfl
  | .bool _, second, same => by cases second <;> cases same; rfl
  | .int _, second, same => by cases second <;> cases same; rfl
  | .real _, second, same => by cases second <;> cases same; rfl
  | .str _, second, same => by cases second <;> cases same; rfl
  | .array _, second, same => by
    cases second with
    | array others => exact congrArg Json.array (ofJsonItems_injective (Value.sequence.inj same))
    | _ => cases same
  | .object _, second, same => by
    cases second with
    | object others => exact congrArg Json.object (ofJsonMembers_injective (Value.mapping.inj same))
    | _ => cases same

theorem ofJsonItems_injective : {first second : List Json} →
    ofJsonItems first = ofJsonItems second → first = second
  | [], [], _ => rfl
  | _ :: _, _ :: _, same =>
    congrArg₂ List.cons (ofJson_injective (List.cons.inj same).1)
      (ofJsonItems_injective (List.cons.inj same).2)

theorem ofJsonMembers_injective : {first second : List (String × Json)} →
    ofJsonMembers first = ofJsonMembers second → first = second
  | [], [], _ => rfl
  | (_, _) :: _, (_, _) :: _, same => by
    obtain ⟨member, rest⟩ := List.cons.inj same
    obtain ⟨name, value⟩ := Prod.mk.inj member
    rw [Value.text.inj name, ofJson_injective value, ofJsonMembers_injective rest]

end

end Value

/-- A text is read as a document. -/
def IsReadAs (text : String) (document : Json) : Prop :=
  Value.ofDocument (Document.read text) = .ok (Value.ofJson document)

theorem IsReadAs.unique {text : String} {document other : Json} (reads : IsReadAs text document)
    (otherReads : IsReadAs text other) : document = other :=
  Value.ofJson_injective (Except.ok.inj (reads.symm.trans otherReads))

/-- The printed document ends its last line, and is read as the document. -/
structure Reproduced (document : Json) : Prop where
  ended : (print document).toList.getLast? = some '\n'
  back : IsReadAs (print document) document

/-- Printed objects come back one by one when a stream of them is cut at its marks. -/
theorem cut_printAll {documents : List Json} (several : documents ≠ [])
    (tidy : ∀ document ∈ documents, document.IsObject ∧ document.Tidy)
    (ended : ∀ document ∈ documents, (print document).toList.getLast? = some '\n') :
    Text.cut (printAll documents) = documents.map print := by
  refine Text.cut_join (mt List.map_eq_nil_iff.mp several) (List.forall_mem_map.mpr ended) ?_
  refine List.forall_mem_map.mpr fun document listed line inside => ?_
  obtain ⟨⟨members, rfl⟩, whole⟩ := tidy document listed
  exact not_isMark_of_mem_print whole inside

end Yaml

theorem Resource.isObject_toJson (resource : Resource) : resource.toJson.IsObject := by
  cases resource <;> exact ⟨_, rfl⟩

namespace ResourceSet

variable {set : ResourceSet}

theorem length_documents (set : ResourceSet) : set.documents.length = set.size := by
  rw [documents_eq, List.length_map, length_applied]

theorem documents_ne_nil (several : set.isEmpty = false) : set.documents ≠ [] := by
  intro none
  have size := set.length_documents
  rw [none, List.length_nil] at size
  rw [isEmpty, Dict.isEmpty, List.isEmpty_eq_false_iff] at several
  exact several (List.length_eq_zero_iff.mp size.symm)

theorem cut_toYaml (several : set.isEmpty = false)
    (ended : ∀ document ∈ set.documents, (print document).toList.getLast? = some '\n') :
    Text.cut set.toYaml = set.documents.map print := by
  refine cut_printAll (documents_ne_nil several) (fun document listed => ?_) ended
  obtain ⟨entry, _, rfl⟩ := List.mem_map.mp listed
  exact ⟨entry.2.resource.isObject_toJson, entry.2.resource.tidy⟩

/-- The JSON text of a set is read as the list of its documents. Cut at its marks, the YAML text of
a set with resources has one piece for each of them, and the piece at each place is read as the
document at that place, and as no other. -/
theorem formats_carry_same_documents (several : set.isEmpty = false)
    (reproduced : ∀ document ∈ set.documents, Reproduced document) :
    Json.read? set.toJson = some (.array set.documents) ∧ set.documents.length = set.size ∧
    (Text.cut set.toYaml).length = set.size ∧
    ∀ (place : Nat) (piece : String), (Text.cut set.toYaml)[place]? = some piece →
      ∃ document, set.documents[place]? = some document ∧ IsReadAs piece document ∧
        ∀ other, IsReadAs piece other → other = document := by
  have pieces := cut_toYaml several fun document listed => (reproduced document listed).ended
  refine ⟨set.read?_toJson, set.length_documents, ?_, fun place piece there => ?_⟩
  · rw [pieces, List.length_map, length_documents]
  · rw [pieces, List.getElem?_map] at there
    obtain ⟨document, found, rfl⟩ := Option.map_eq_some_iff.mp there
    have back := (reproduced document (List.mem_of_getElem? found)).back
    exact ⟨document, found, back, fun other reads => reads.unique back⟩

/-- A set whose texts look like marks, numbers, truth values and nothing. -/
def awkward : ResourceSet :=
  ⟨.ofList [
    ("configmap/notes", ⟨"notes", .configMap (.ofBody ⟨"notes", "demo", ∅, ∅⟩
      ⟨.ofList [("empty", ""), ("flag", "true"), ("number", "0012"), ("script", "a\n---\nb\n"),
        ("rule", "---")]⟩)⟩),
    ("serviceaccount/notes", ⟨"notes", .serviceAccount (.ofBody ⟨"notes", "demo", ∅, ∅⟩ ⟨none⟩)⟩)]⟩

theorem awkward_reproduced : ∀ document ∈ awkward.documents, Reproduced document := by
  have shown : ∀ document ∈ awkward.documents,
      (print document).toList.getLast? = some '\n' ∧ document.isClean ∧
        (Document.read (print document)).Shows document := by
    decide +kernel
  intro document listed
  obtain ⟨ended, clean, shows⟩ := shown document listed
  exact ⟨ended, shows.ofDocument_eq_ok (Json.keyed_of_isClean clean)⟩

theorem awkward_formats_carry_same_documents :
    awkward.isEmpty = false ∧ (∀ document ∈ awkward.documents, Reproduced document) ∧
    Json.read? awkward.toJson = some (.array awkward.documents) ∧
    (Text.cut awkward.toYaml).length = 2 ∧
    ∀ (place : Nat) (piece : String), (Text.cut awkward.toYaml)[place]? = some piece →
      ∃ document, awkward.documents[place]? = some document ∧ IsReadAs piece document ∧
        ∀ other, IsReadAs piece other → other = document := by
  have several : awkward.isEmpty = false := by decide
  obtain ⟨whole, _, size, each⟩ := formats_carry_same_documents several awkward_reproduced
  have two : awkward.size = 2 := by decide +kernel
  exact ⟨several, awkward_reproduced, whole, size.trans two, each⟩

end ResourceSet

end PlatformManifests
