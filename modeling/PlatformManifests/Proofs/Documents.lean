import PlatformManifests.Proofs.JsonText
import PlatformManifests.Proofs.ReadBack
import PlatformManifests.ResourceSet

/-!
Documents of resources. Whatever a resource holds, its document lists all members by ascending
name and has no number beyond 64 bits, so that its JSON text reads back.
-/
namespace PlatformManifests

open Json Reading

/-! ### Fields -/

/-- What is written for a field, if anything, is tidy. -/
def TidyField (written : Option Json) : Prop := ∀ json, written = some json → json.Tidy

section Fields

variable {α : Type} {write : α → Json}

@[simp] theorem tidyField_some {json : Json} : TidyField (some json) ↔ json.Tidy := by
  simp [TidyField]

@[simp] theorem tidyField_map {value : Option α} :
    TidyField (value.map write) ↔ ∀ held, value = some held → (write held).Tidy := by
  constructor
  · rintro tidy held rfl
    exact tidy _ rfl
  · intro each json written
    obtain ⟨held, given, rfl⟩ := Option.map_eq_some_iff.mp written
    exact each held given

@[simp] theorem tidy_str (text : String) : (Json.str text).Tidy := .str text

@[simp] theorem tidy_bool (value : Bool) : (Json.bool value).Tidy := .bool value

@[simp] theorem tidy_port (port : UInt16) : (Json.int port.toNat).Tidy := by
  have bound := port.toNat_lt
  exact .int _ (by omega) (by omega)

@[simp] theorem tidy_count (count : UInt32) : (Json.int count.toNat).Tidy := by
  have bound := count.toNat_lt
  exact .int _ (by omega) (by omega)

@[simp] theorem tidy_wide (number : Int64) : (Json.int number.toInt).Tidy := by
  have low := number.le_toInt
  have high := number.toInt_lt
  exact .int _ (by omega) (by omega)

@[simp] theorem tidy_array_map {items : List α} :
    (Json.array (items.map write)).Tidy ↔ ∀ item ∈ items, (write item).Tidy := by
  constructor
  · rintro ⟨⟩
    rename_i each
    exact List.forall_mem_map.mp each
  · exact fun each => .array _ (List.forall_mem_map.mpr each)

@[simp] theorem tidy_texts (texts : List String) : (Json.texts texts).Tidy :=
  tidy_array_map.mpr fun _ _ => .str _

@[simp] theorem tidyField_writtenList {items : List α} :
    TidyField (writtenList write items) ↔ ∀ item ∈ items, (write item).Tidy := by
  cases items with
  | nil => simp [writtenList, unlessEmpty, TidyField]
  | cons first rest => exact tidyField_some.trans tidy_array_map

@[simp] theorem tidy_textDict (dict : Dict String) : (Json.textDict dict).Tidy := by
  refine .object _ (dict.map Json.str).ascending fun member listed => ?_
  obtain ⟨entry, _, rfl⟩ := List.mem_map.mp listed
  exact .str entry.2

@[simp] theorem tidyField_writtenDict (dict : Dict String) : TidyField (writtenDict dict) := by
  intro json written
  rw [writtenDict] at written
  split at written
  · cases written
  · cases written
    exact tidy_textDict dict

theorem mem_of_mem_foldl_insert {entries : List (String × α)} {entry : String × α} {start : Dict α}
    (inside : entry ∈
      (entries.foldl (fun dict next => dict.insert next.1 next.2) start).entries) :
    entry ∈ start.entries ∨ entry ∈ entries := by
  induction entries generalizing start with
  | nil => exact .inl inside
  | cons head rest ih =>
    rcases ih inside with before | later
    · rcases mem_insertEntry before with same | earlier
      · exact .inr (same ▸ List.mem_cons_self)
      · exact .inl earlier
    · exact .inr (List.mem_cons_of_mem _ later)

theorem mem_of_mem_ofList {entries : List (String × α)} {entry : String × α}
    (inside : entry ∈ (Dict.ofList entries).entries) : entry ∈ entries :=
  (mem_of_mem_foldl_insert inside).resolve_left List.not_mem_nil

theorem tidy_record {fields : List (String × Option Json)}
    (each : ∀ field ∈ fields, TidyField field.2) : (Json.record fields).Tidy := by
  refine .object _ (Dict.ofList _).ascending fun member listed => ?_
  have written := mem_present.mp (mem_of_mem_ofList listed)
  exact each _ written member.2 rfl

end Fields

/-! ### Parts of manifests -/

@[simp] theorem Metadata.tidy (metadata : Metadata) : metadata.toJson.Tidy :=
  tidy_record (by simp)

@[simp] theorem LabelSelector.tidy (selector : LabelSelector) : selector.toJson.Tidy :=
  tidy_record (by simp)

@[simp] theorem PolicyRule.tidy (rule : PolicyRule) : rule.toJson.Tidy := tidy_record (by simp)

@[simp] theorem RoleRef.tidy (ref : RoleRef) : ref.toJson.Tidy := tidy_record (by simp)

@[simp] theorem Subject.tidy (subject : Subject) : subject.toJson.Tidy := tidy_record (by simp)

@[simp] theorem ServicePort.tidy (port : ServicePort) : port.toJson.Tidy := tidy_record (by simp)

@[simp] theorem Service.tidy (service : Service) : service.toJson.Tidy := tidy_record (by simp)

@[simp] theorem StorageRequest.tidy (request : StorageRequest) : request.toJson.Tidy :=
  tidy_record (by simp)

@[simp] theorem ClaimResources.tidy (resources : ClaimResources) : resources.toJson.Tidy :=
  tidy_record (by simp)

@[simp] theorem VolumeClaim.tidy (claim : VolumeClaim) : claim.toJson.Tidy := tidy_record (by simp)

@[simp] theorem SecretKey.tidy (secret : SecretKey) : secret.toJson.Tidy := tidy_record (by simp)

@[simp] theorem EnvSource.tidy (source : EnvSource) : source.toJson.Tidy := tidy_record (by simp)

@[simp] theorem EnvVar.tidy (env : EnvVar) : env.toJson.Tidy := tidy_record (by simp)

@[simp] theorem ContainerPort.tidy (port : ContainerPort) : port.toJson.Tidy :=
  tidy_record (by simp)

@[simp] theorem VolumeMount.tidy (mount : VolumeMount) : mount.toJson.Tidy := tidy_record (by simp)

@[simp] theorem TcpAction.tidy (action : TcpAction) : action.toJson.Tidy := tidy_record (by simp)

@[simp] theorem HttpAction.tidy (action : HttpAction) : action.toJson.Tidy := tidy_record (by simp)

@[simp] theorem ExecAction.tidy (action : ExecAction) : action.toJson.Tidy := tidy_record (by simp)

@[simp] theorem Probe.tidy (probe : Probe) : probe.toJson.Tidy :=
  tidy_record (by simp [Probe.count])

@[simp] theorem Container.tidy (container : Container) : container.toJson.Tidy :=
  tidy_record (by simp)

@[simp] theorem ConfigMapVolume.tidy (volume : ConfigMapVolume) : volume.toJson.Tidy :=
  tidy_record (by simp)

@[simp] theorem ClaimVolume.tidy (volume : ClaimVolume) : volume.toJson.Tidy :=
  tidy_record (by simp)

@[simp] theorem ScratchVolume.tidy (volume : ScratchVolume) : volume.toJson.Tidy :=
  tidy_record (by simp)

@[simp] theorem Volume.tidy (volume : Volume) : volume.toJson.Tidy := tidy_record (by simp)

@[simp] theorem PodSecurity.tidy (security : PodSecurity) : security.toJson.Tidy :=
  tidy_record (by simp)

@[simp] theorem PodSpec.tidy (pod : PodSpec) : pod.toJson.Tidy := tidy_record (by simp)

@[simp] theorem PodMetadata.tidy (metadata : PodMetadata) : metadata.toJson.Tidy :=
  tidy_record (by simp)

@[simp] theorem PodTemplate.tidy (template : PodTemplate) : template.toJson.Tidy :=
  tidy_record (by simp)

@[simp] theorem StatefulSet.tidy (workload : StatefulSet) : workload.toJson.Tidy :=
  tidy_record (by simp)

@[simp] theorem Deployment.tidy (workload : Deployment) : workload.toJson.Tidy :=
  tidy_record (by simp)

@[simp] theorem Job.tidy (workload : Job) : workload.toJson.Tidy := tidy_record (by simp)

@[simp] theorem BackendPort.tidy (port : BackendPort) : port.toJson.Tidy := tidy_record (by simp)

@[simp] theorem ServiceBackend.tidy (backend : ServiceBackend) : backend.toJson.Tidy :=
  tidy_record (by simp)

@[simp] theorem Backend.tidy (backend : Backend) : backend.toJson.Tidy := tidy_record (by simp)

@[simp] theorem IngressPath.tidy (path : IngressPath) : path.toJson.Tidy := tidy_record (by simp)

@[simp] theorem IngressPaths.tidy (paths : IngressPaths) : paths.toJson.Tidy :=
  tidy_record (by simp)

@[simp] theorem IngressRule.tidy (rule : IngressRule) : rule.toJson.Tidy := tidy_record (by simp)

@[simp] theorem IngressTls.tidy (tls : IngressTls) : tls.toJson.Tidy := tidy_record (by simp)

@[simp] theorem Ingress.tidy (ingress : Ingress) : ingress.toJson.Tidy := tidy_record (by simp)

@[simp] theorem IssuerRef.tidy (ref : IssuerRef) : ref.toJson.Tidy := tidy_record (by simp)

@[simp] theorem Certificate.tidy (certificate : Certificate) : certificate.toJson.Tidy :=
  tidy_record (by simp)

/-! ### Manifests -/

theorem Manifest.tidy {β : Type} [Body β] (manifest : Manifest β)
    (each : ∀ field ∈ Body.write manifest.body, TidyField field.2) : manifest.toJson.Tidy := by
  refine tidy_record (List.forall_mem_append.mpr ⟨?_, each⟩)
  simp

theorem Resource.tidy (resource : Resource) : resource.toJson.Tidy := by
  cases resource <;> exact Manifest.tidy _ (by simp [Body.write])

namespace ResourceSet

theorem tidy_of_mem_documents {set : ResourceSet} {document : Json}
    (listed : document ∈ set.documents) : document.Tidy := by
  obtain ⟨entry, _, rfl⟩ := List.mem_map.mp listed
  exact entry.2.resource.tidy

/-- The JSON text of a set reads back as the list of its documents. -/
theorem read?_toJson (set : ResourceSet) :
    Json.read? set.toJson = some (.array set.documents) :=
  Tidy.read?_pretty (.array _ fun _ => tidy_of_mem_documents)

end ResourceSet

end PlatformManifests
