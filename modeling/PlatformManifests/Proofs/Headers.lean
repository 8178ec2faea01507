import PlatformManifests.Proofs.ApplyOrder
import PlatformManifests.Proofs.JsonTree
import PlatformManifests.Proofs.Ownership
import PlatformManifests.Proofs.ReadBack

/-!
What documents say of their resources. API version, kind, namespace and labels stand in the document
where every object of the cluster has them. In whatever is composed of chosen components they are
those of the deployment and of the component that the resource comes from.
-/
namespace PlatformManifests

namespace Json

theorem member?_record {fields : List (String × Option Json)}
    (distinct : (fields.map Prod.fst).Nodup) {name : String} {json : Json}
    (listed : (name, some json) ∈ fields) : (record fields).member? name = some json := by
  change (Dict.ofList (present fields)).get? name = some json
  rw [Dict.get?_ofList (distinct.sublist Reading.present_sublist)]
  exact Reading.lookup_present_some distinct listed

theorem member?_textDict (dict : Dict String) (name : String) :
    (textDict dict).member? name = (dict.get? name).map Json.str :=
  Dict.get?_map Json.str dict name

theorem at?_cons_of_member {json held : Json} {name : String}
    (found : json.member? name = some held) (rest : List String) :
    json.at? (name :: rest) = held.at? rest := by
  rw [at?, found, Option.bind_some]

/-- What the documents of all kinds begin with. -/
structure Heads (document : Json) (apiVersion kind : String) (metadata : Metadata) : Prop where
  apiVersion : document.member? "apiVersion" = some (.str apiVersion)
  kind : document.member? "kind" = some (.str kind)
  metadata : document.member? "metadata" = some metadata.toJson

end Json

namespace Manifest

variable {β : Type} [Body β]

theorem member?_toJson (manifest : Manifest β)
    (names : (Body.write manifest.body).map Prod.fst = Body.fields β)
    (distinct : (shape β).fields.Nodup) {name : String} {json : Json}
    (listed : (name, some json) ∈ [("apiVersion", some (.str manifest.apiVersion)),
      ("kind", some (.str manifest.kind)), ("metadata", some manifest.metadata.toJson)]) :
    manifest.toJson.member? name = some json := by
  rw [shape, ← names] at distinct
  rw [toJson]
  refine Json.member?_record ?_ (List.mem_append_left _ listed)
  exact distinct

theorem heads (manifest : Manifest β)
    (names : (Body.write manifest.body).map Prod.fst = Body.fields β)
    (distinct : (shape β).fields.Nodup) :
    manifest.toJson.Heads manifest.apiVersion manifest.kind manifest.metadata where
  apiVersion := manifest.member?_toJson names distinct (by simp)
  kind := manifest.member?_toJson names distinct (by simp)
  metadata := manifest.member?_toJson names distinct (by simp)

end Manifest

theorem Resource.heads (resource : Resource) :
    resource.toJson.Heads resource.declared.1 resource.declared.2 resource.metadata := by
  cases resource <;> exact Manifest.heads _ rfl (by decide)

namespace Metadata

theorem member?_toJson (metadata : Metadata) {name : String} {json : Json}
    (listed : (name, some json) ∈ [("name", some (.str metadata.name)),
      ("namespace", some (.str metadata.space)), ("labels", writtenDict metadata.labels),
      ("annotations", writtenDict metadata.annotations)]) :
    metadata.toJson.member? name = some json := by
  have distinct : shape.fields.Nodup := by decide
  rw [toJson]
  refine Json.member?_record ?_ listed
  exact distinct

theorem at?_namespace (metadata : Metadata) :
    metadata.toJson.at? ["namespace"] = some (.str metadata.space) :=
  Json.at?_cons_of_member (metadata.member?_toJson (by simp)) []

/-- Where there is a label, the labels are written. -/
theorem at?_label {metadata : Metadata} {name value : String}
    (held : metadata.labels.get? name = some value) :
    metadata.toJson.at? ["labels", name] = some (.str value) := by
  have several : metadata.labels.isEmpty = false := by
    have listed := Dict.get?_eq_some_iff.mp held
    exact List.isEmpty_eq_false_iff.mpr (List.ne_nil_of_mem listed)
  have labels : metadata.toJson.member? "labels" = some (.textDict metadata.labels) := by
    apply metadata.member?_toJson
    simp [writtenDict, several]
  have label : (Json.textDict metadata.labels).member? name = some (.str value) := by
    rw [Json.member?_textDict, held, Option.map_some]
  rw [Json.at?_cons_of_member labels, Json.at?_cons_of_member label, Json.at?]

end Metadata

/-! ### Labels of what is composed -/

/-- The document is that of an object of the kind, in the namespace of the deployment, with the
labels of the platform and of the component. -/
structure Json.Labelled (document : Json) (config : Configuration) (kind : Kind)
    (component : String) : Prop where
  apiVersion : document.at? ["apiVersion"] = some (.str kind.apiVersion)
  kind : document.at? ["kind"] = some (.str kind.name)
  space : document.at? ["metadata", "namespace"] = some (.str config.space)
  partOf : document.at? ["metadata", "labels", Label.partOf] = some (.str Label.platform)
  managedBy : document.at? ["metadata", "labels", Label.managedBy] = some (.str Label.manager)
  component : document.at? ["metadata", "labels", Label.component] = some (.str component)

theorem Owner.Signs.labelled {owner : Owner} {config : Configuration} {resource : Resource}
    (signs : owner.Signs config resource) :
    resource.toJson.Labelled config resource.kind owner.component := by
  have heads := resource.heads
  rw [signs.declared] at heads
  have inMetadata := Json.at?_cons_of_member heads.metadata
  have marked := signs.marked
  refine ⟨Json.at?_cons_of_member heads.apiVersion [], Json.at?_cons_of_member heads.kind [],
    ?_, ?_, ?_, ?_⟩
  · rw [inMetadata, Metadata.at?_namespace, marked.space]
  · rw [inMetadata, Metadata.at?_label marked.partOf]
  · rw [inMetadata, Metadata.at?_label marked.managedBy]
  · rw [inMetadata, Metadata.at?_label marked.component]

/-- Each document of whatever is composed of chosen components bears the labels of the component
that its resource is recorded for. -/
theorem compose_selected_documents_labelled {model : Model} {config : Configuration}
    {names : List String} {generators : List Generator} {set : ResourceSet}
    (chosen : Generator.select names = .ok generators)
    (composed : compose model config generators = .ok set) :
    ∀ document ∈ set.documents, ∃ key resource component, set.get? key = some resource ∧
      document = resource.toJson ∧ set.componentOf? key = some component ∧
        document.Labelled config resource.kind component := by
  intro document listed
  rw [ResourceSet.documents_eq] at listed
  obtain ⟨⟨key, resource⟩, applied, rfl⟩ := List.mem_map.mp listed
  have held := ResourceSet.mem_applied.mp applied
  have builtIn : ∀ generator ∈ generators, generator ∈ Generator.all := fun _ member =>
    (sublist_of_select chosen).subset member
  obtain ⟨site, _, _, _, origin⟩ := exists_origin composed builtIn held
  exact ⟨key, resource, site.2.component, held, rfl, origin.component, origin.signed.labelled⟩

end PlatformManifests
