import PlatformManifests.Proofs.Reachability
import PlatformManifests.Proofs.Workloads

/-!
The buckets as the job gets to know them. It is told their names in one text, with commas between
them, so a name with a comma in it arrives as several.
-/
namespace PlatformManifests

namespace Text

/-- The names that a text with commas between them lists. -/
def commaList (text : String) : List String := (pieces ',' text.toList).map String.ofList

variable {text name : String} {names : List String}

theorem commaList_of_plain (plain : ',' ∉ text.toList) : commaList text = [text] := by
  rw [commaList, pieces_of_not_mem plain, List.map_singleton, String.ofList_toList]

theorem plain_of_mem_commaList (member : name ∈ commaList text) : ',' ∉ name.toList := by
  obtain ⟨piece, cut, rfl⟩ := List.mem_map.mp member
  rw [String.toList_ofList]
  exact not_mem_of_mem_pieces cut

theorem commaList_intercalate (several : names ≠ []) :
    commaList (String.intercalate "," names) = names.flatMap commaList := by
  have single : ",".toList = [','] := by decide
  rw [commaList, pieces_intercalate_eq_flatMap single several, List.map_flatMap]
  rfl

theorem commaList_intercalate_eq_iff (several : names ≠ []) :
    commaList (String.intercalate "," names) = names ↔ ∀ name ∈ names, ',' ∉ name.toList := by
  constructor
  · intro same name member
    rw [← same] at member
    exact plain_of_mem_commaList member
  · intro plain
    have single : ",".toList = [','] := by decide
    exact pieces_intercalate single several plain

theorem mem_commaList_intercalate_iff (member : name ∈ names) :
    name ∈ commaList (String.intercalate "," names) ↔ ',' ∉ name.toList := by
  constructor
  · intro cut
    exact plain_of_mem_commaList cut
  · intro plain
    rw [commaList_intercalate (List.ne_nil_of_mem member), List.mem_flatMap]
    refine ⟨name, member, ?_⟩
    rw [commaList_of_plain plain]
    exact List.mem_singleton_self name

end Text

namespace InitJob

variable {model : Model} {config : Configuration} {descriptor : Descriptor}

/-- What the container of the job has in the variables for the buckets. -/
def TellsBuckets (descriptor : Descriptor) (buckets publicBucket : String) : Prop :=
  ∃ resource container, descriptor.get? workload = some resource ∧
    resource.mainContainer? = some container ∧
    container.envVar? "BUCKETS" = some (.literal "BUCKETS" buckets) ∧
    container.envVar? "PUBLIC_BUCKET" = some (.literal "PUBLIC_BUCKET" publicBucket)

theorem tellsBuckets (made : generate model config = .ok descriptor) :
    TellsBuckets descriptor (String.intercalate "," model.storage.buckets)
      model.storage.publicBucket := by
  obtain ⟨resource, template, found, running, runs⟩ := (runs made).all List.mem_cons_self
  obtain ⟨container, only, realized⟩ := runs.main
  have told {name value : String} (inside : (name, .text value) ∈ storageSettings model) :
      container.envVar? name = some (.literal name value) := by
    obtain ⟨held, resolved, single⟩ := realized.envVar?_eq_some (workloads_distinct _ listed)
      (List.mem_append_right _ inside)
    rw [single, ← Except.ok.inj resolved]
  have main := Resource.mainContainer?_eq_some running only
  refine ⟨resource, container, found, main, told ?_, told ?_⟩
  · simp [storageSettings]
  · simp [storageSettings]

/-- The job is told the pieces of the names of the buckets. These are the names exactly if none has
a comma in it, and the public bucket is one of them exactly if its own name has none. -/
theorem generate_buckets_intact_iff (valid : model.validate = .ok ())
    (made : generate model config = .ok descriptor) :
    ∃ buckets publicBucket, TellsBuckets descriptor buckets publicBucket ∧
      Text.commaList buckets = model.storage.buckets.flatMap Text.commaList ∧
      (Text.commaList buckets = model.storage.buckets ↔
        ∀ bucket ∈ model.storage.buckets, ',' ∉ bucket.toList) ∧
      publicBucket = model.storage.publicBucket ∧
      (publicBucket ∈ Text.commaList buckets ↔ ',' ∉ publicBucket.toList) := by
  have declared := (Model.validate_eq_ok.mp valid).1
  have several := List.ne_nil_of_mem declared
  exact ⟨_, _, tellsBuckets made, Text.commaList_intercalate several,
    Text.commaList_intercalate_eq_iff several, rfl,
    Text.mem_commaList_intercalate_iff declared⟩

theorem demonstration_buckets_intact :
    ∃ descriptor, Model.standard.validate = .ok () ∧
      generate Model.standard Configuration.demonstration = .ok descriptor ∧
      ∃ buckets publicBucket, TellsBuckets descriptor buckets publicBucket ∧
        Text.commaList buckets = Model.standard.storage.buckets ∧
        publicBucket ∈ Text.commaList buckets := by
  obtain ⟨set, composed⟩ := exists_compose_demonstration
  obtain ⟨_, valid, _⟩ := compose_eq_ok.mp composed
  obtain ⟨descriptor, made, _⟩ := exists_made composed generator_mem_all
  obtain ⟨buckets, publicBucket, tells, _, intact, rfl, kept⟩ :=
    generate_buckets_intact_iff valid made
  have plain : ∀ bucket ∈ Model.standard.storage.buckets, ',' ∉ bucket.toList := by
    decide +kernel
  have publicPlain : ',' ∉ Model.standard.storage.publicBucket.toList := by decide +kernel
  exact ⟨descriptor, valid, made, buckets, _, tells, intact.mpr plain, kept.mpr publicPlain⟩

/-- A valid model may have a comma in the name of its public bucket. Then the job is told of two
buckets that the model does not have, and of a public one that is not among those it is told of. -/
theorem generate_bucket_split :
    ∃ descriptor, (Model.standard.withPublicBucket "public,images").validate = .ok () ∧
      generate (Model.standard.withPublicBucket "public,images") Configuration.demonstration =
        .ok descriptor ∧
      ∃ buckets, TellsBuckets descriptor buckets "public,images" ∧
        Text.commaList buckets = "public" :: "images" :: Model.standard.storage.buckets ∧
        Text.commaList buckets ≠
          (Model.standard.withPublicBucket "public,images").storage.buckets ∧
        "public,images" ∉ Text.commaList buckets := by
  obtain ⟨plain, started⟩ := exists_compose_demonstration
  obtain ⟨set, composed⟩ := exists_compose_withPublicBucket started "public,images"
  obtain ⟨_, valid, _⟩ := compose_eq_ok.mp composed
  obtain ⟨descriptor, made, _⟩ := exists_made composed generator_mem_all
  refine ⟨descriptor, valid, made, _, tellsBuckets made, ?_⟩
  decide +kernel

end InitJob

end PlatformManifests
