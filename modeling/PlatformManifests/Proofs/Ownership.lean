import PlatformManifests.Proofs.Catalogue
import PlatformManifests.Proofs.Selection
import PlatformManifests.Proofs.Wiring

/-!
Who owns what. Whichever components are composed, each resource is labelled with the component that
it is recorded for, and labels select the pods of exactly one workload: the one that the service
belongs to.
-/
namespace PlatformManifests

variable {model : Model} {config : Configuration} {descriptor : Descriptor}

namespace Resource

/-- The API version and the kind that the document of a resource names. -/
def declared : Resource → String × String
  | .serviceAccount manifest => (manifest.apiVersion, manifest.kind)
  | .role manifest => (manifest.apiVersion, manifest.kind)
  | .roleBinding manifest => (manifest.apiVersion, manifest.kind)
  | .configMap manifest => (manifest.apiVersion, manifest.kind)
  | .volumeClaim manifest => (manifest.apiVersion, manifest.kind)
  | .service manifest => (manifest.apiVersion, manifest.kind)
  | .statefulSet manifest => (manifest.apiVersion, manifest.kind)
  | .deployment manifest => (manifest.apiVersion, manifest.kind)
  | .job manifest => (manifest.apiVersion, manifest.kind)
  | .certificate manifest => (manifest.apiVersion, manifest.kind)
  | .ingress manifest => (manifest.apiVersion, manifest.kind)

/-- The labels by which a stateful set or a deployment finds its pods. A job has none. -/
def matchLabels? : Resource → Option (Dict String)
  | .statefulSet manifest => some manifest.body.selector.matchLabels
  | .deployment manifest => some manifest.body.selector.matchLabels
  | _ => none

theorem isSome_template? (resource : Resource) :
    resource.template?.isSome = resource.isWorkload := by
  cases resource <;> rfl

theorem isSome_template?_of_matchLabels {resource : Resource} {labels : Dict String}
    (matched : resource.matchLabels? = some labels) : resource.template?.isSome := by
  cases resource <;> first | rfl | cases matched

end Resource

/-! ### Labels -/

/-- In the namespace of the deployment, with the labels of the platform and of a component. -/
structure Metadata.Marked (config : Configuration) (component : String) (metadata : Metadata) :
    Prop where
  space : metadata.space = config.space
  partOf : metadata.labels.get? Label.partOf = some Label.platform
  managedBy : metadata.labels.get? Label.managedBy = some Label.manager
  component : metadata.labels.get? Label.component = some component

namespace Owner

/-- The label with the name is overwritten, and that of the component is added. -/
theorem marked_label (owner : Owner) {metadata : Metadata} {name : String}
    (space : metadata.space = config.space)
    (labels : metadata.labels = (Metadata.ofName name config.space).labels) :
    (owner.label metadata).Marked config owner.component := by
  -- Neither of the two labels that are set on top is one of the platform's own.
  have partName : Label.partOf ≠ Label.name := by decide
  have partComponent : Label.partOf ≠ Label.component := by decide
  have partManaged : Label.partOf ≠ Label.managedBy := by decide
  have managedName : Label.managedBy ≠ Label.name := by decide
  have managedComponent : Label.managedBy ≠ Label.component := by decide
  refine ⟨space, ?_, ?_, ?_⟩
  · simp [label, Metadata.withLabel, labels, Metadata.ofName, Dict.ofList, partName, partComponent,
      partManaged]
  · simp [label, Metadata.withLabel, labels, Metadata.ofName, Dict.ofList, managedName,
      managedComponent]
  · simp [label, Metadata.withLabel]

theorem marked_metadata (owner : Owner) (name : String) :
    (owner.metadata config name).Marked config owner.component :=
  owner.marked_label rfl rfl

theorem marked_route (owner : Owner) (name : String) (annotations : Dict String) :
    (owner.label (Route.metadata config name annotations)).Marked config owner.component := by
  apply owner.marked_label
  · unfold Route.metadata
    split <;> rfl
  · unfold Route.metadata
    split <;> rfl

/-- A resource as its owner makes it: with the owner's labels, of the kind that it says, and with
the owner's labels wherever it selects pods or makes them. -/
structure Signs (owner : Owner) (config : Configuration) (resource : Resource) : Prop where
  marked : resource.metadata.Marked config owner.component
  declared : resource.declared = (resource.kind.apiVersion, resource.kind.name)
  template : ∀ template, resource.template? = some template →
    ∃ pod, template = owner.podTemplate pod
  service : ∀ service, resource.service? = some service → service.selector = owner.selector
  matchLabels : ∀ labels, resource.matchLabels? = some labels → labels = owner.selector

variable {owner : Owner}

/-- Workloads; a job matches no pods by labels. -/
theorem Signs.running {resource : Resource} {pod : PodSpec}
    (marked : resource.metadata.Marked config owner.component)
    (declared : resource.declared = (resource.kind.apiVersion, resource.kind.name))
    (runs : resource.template? = some (owner.podTemplate pod))
    (noService : resource.service? = none)
    (matchLabels : ∀ labels ∈ resource.matchLabels?, labels = owner.selector) :
    owner.Signs config resource := by
  refine ⟨marked, declared, ?_, ?_, matchLabels⟩
  · intro template given
    rw [runs] at given
    exact ⟨pod, (Option.some.inj given).symm⟩
  · simp [noService]

theorem Signs.statefulSet (pod : PodSpec) : owner.Signs config (owner.statefulSet config pod) := by
  apply Signs.running (owner.marked_metadata _) rfl rfl rfl
  rintro _ ⟨⟩
  rfl

theorem Signs.deployment (replicas : UInt32) (pod : PodSpec) :
    owner.Signs config (owner.deployment config replicas pod) := by
  apply Signs.running (owner.marked_metadata _) rfl rfl rfl
  rintro _ ⟨⟩
  rfl

theorem Signs.job (name : String) (backoffLimit : UInt32) (pod : PodSpec) :
    owner.Signs config (.job (.ofBody (owner.metadata config name)
      ⟨backoffLimit, owner.podTemplate pod⟩)) := by
  apply Signs.running (owner.marked_metadata _) rfl rfl rfl
  rintro _ ⟨⟩

theorem Signs.internalService (ports : List ServicePort) :
    owner.Signs config (owner.internalService config ports) := by
  refine ⟨owner.marked_metadata _, rfl, ?_, ?_, ?_⟩
  · rintro _ ⟨⟩
  · rintro _ ⟨⟩
    rfl
  · rintro _ ⟨⟩

/-- Resources that neither run pods nor select them. -/
theorem Signs.plain {resource : Resource}
    (marked : resource.metadata.Marked config owner.component)
    (declared : resource.declared = (resource.kind.apiVersion, resource.kind.name))
    (noPod : resource.template? = none) (noService : resource.service? = none)
    (noLabels : resource.matchLabels? = none) : owner.Signs config resource := by
  refine ⟨marked, declared, ?_, ?_, ?_⟩
  · simp [noPod]
  · simp [noService]
  · simp [noLabels]

theorem Signs.volumeClaim (name size : String) :
    owner.Signs config (owner.volumeClaim config name size) :=
  Signs.plain (owner.marked_metadata name) rfl rfl rfl rfl

theorem Signs.routed (name host : String) (annotations : Dict String) (rules : List PathRule) :
    owner.Signs config (owner.routed model config name annotations host rules) :=
  Signs.plain (owner.marked_route name annotations) rfl rfl rfl rfl

/-! ### Components -/

/-- The resources of a component: all of them its own, with one workload at most. If there is a
service, then the workload matches pods by the labels of the component. -/
structure Governs (owner : Owner) (config : Configuration) (resources : List Resource)
    (workload : Option Resource) : Prop where
  signed : ∀ resource ∈ resources, owner.Signs config resource
  only : resources.filter Resource.isWorkload = workload.toList
  answered : ∀ resource ∈ resources, resource.service?.isSome →
    ∃ running ∈ workload, running.matchLabels? = some owner.selector

theorem Governs.eq_of_running {resources : List Resource} {workload : Option Resource}
    (governs : owner.Governs config resources workload) {first second : Resource}
    (firstInside : first ∈ resources) (secondInside : second ∈ resources)
    (firstRuns : first.template?.isSome) (secondRuns : second.template?.isSome) :
    first = second := by
  rw [Resource.isSome_template?] at firstRuns secondRuns
  have firstFound := List.mem_filter.mpr ⟨firstInside, firstRuns⟩
  have secondFound := List.mem_filter.mpr ⟨secondInside, secondRuns⟩
  rw [governs.only, Option.mem_toList] at firstFound secondFound
  exact Option.mem_unique firstFound secondFound

/-- The descriptor has the resources of the component. -/
def Made (owner : Owner) (config : Configuration) (descriptor : Descriptor) : Prop :=
  ∃ resources workload, descriptor.Lists resources ∧ owner.Governs config resources workload

/-- The one workload matches the pods. -/
theorem made_of_workload {component : String} {workload : Resource} {resources : List Resource}
    (listed : Descriptor.ofResources component resources = .ok descriptor)
    (only : resources.filter Resource.isWorkload = [workload])
    (matched : workload.matchLabels? = some owner.selector)
    (signed : ∀ resource ∈ resources, owner.Signs config resource) :
    owner.Made config descriptor := by
  have lists := (Descriptor.ofResources_eq_ok.mp listed).2.2
  refine ⟨resources, some workload, lists, signed, only, ?_⟩
  intro _ _ _
  exact ⟨workload, rfl, matched⟩

theorem made_of_no_service (workload : Option Resource) {component : String}
    {resources : List Resource}
    (listed : Descriptor.ofResources component resources = .ok descriptor)
    (only : resources.filter Resource.isWorkload = workload.toList)
    (unanswered : ∀ resource ∈ resources, resource.service? = none)
    (signed : ∀ resource ∈ resources, owner.Signs config resource) :
    owner.Made config descriptor := by
  have lists := (Descriptor.ofResources_eq_ok.mp listed).2.2
  refine ⟨resources, workload, lists, signed, only, ?_⟩
  intro resource inside asked
  rw [unanswered resource inside] at asked
  cases asked

end Owner

theorem Database.governed (made : generate model config = .ok descriptor) :
    owner.Made config descriptor := by
  obtain ⟨port, env, check, image, size, _, _, _, _, _, listed⟩ := generate_ok made
  apply Owner.made_of_workload listed rfl rfl
  simp only [List.forall_mem_cons]
  exact ⟨.statefulSet _, .internalService _, .volumeClaim _ _,
    .plain (owner.marked_metadata _) rfl rfl rfl rfl, List.forall_mem_nil _⟩

theorem Cache.governed (made : generate model config = .ok descriptor) :
    owner.Made config descriptor := by
  obtain ⟨port, image, password, _, _, _, listed⟩ := generate_ok made
  apply Owner.made_of_workload listed rfl rfl
  simp only [List.forall_mem_cons]
  exact ⟨.statefulSet _, .internalService _, List.forall_mem_nil _⟩

theorem SearchIndex.governed (made : generate model config = .ok descriptor) :
    owner.Made config descriptor := by
  obtain ⟨port, env, image, size, _, _, _, _, listed⟩ := generate_ok made
  apply Owner.made_of_workload listed rfl rfl
  simp only [List.forall_mem_cons]
  exact ⟨.statefulSet _, .internalService _, .volumeClaim _ _, .routed _ _ _ _,
    List.forall_mem_nil _⟩

theorem ObjectStore.governed (made : generate model config = .ok descriptor) :
    owner.Made config descriptor := by
  obtain ⟨apiPort, consolePort, env, image, size, _, _, _, _, _, listed⟩ := generate_ok made
  apply Owner.made_of_workload listed rfl rfl
  simp only [List.forall_mem_cons]
  exact ⟨.statefulSet _, .internalService _, .volumeClaim _ _,
    .routed _ _ _ _, .routed _ _ _ _, List.forall_mem_nil _⟩

theorem IdentityProvider.governed (made : generate model config = .ok descriptor) :
    owner.Made config descriptor := by
  obtain ⟨httpPort, managementPort, databasePort, env, image, check, database, replicas, _, _, _, _,
    _, _, _, _, listed⟩ := generate_ok made
  apply Owner.made_of_workload listed rfl rfl
  simp only [List.forall_mem_cons]
  exact ⟨.deployment _ _, .internalService _, .routed _ _ _ _, List.forall_mem_nil _⟩

theorem CatalogApi.governed (made : generate model config = .ok descriptor) :
    owner.Made config descriptor := by
  obtain ⟨port, waitImage, steps, image, env, replicas, _, _, _, _, _, _, listed⟩ :=
    generate_ok made
  apply Owner.made_of_workload listed rfl rfl
  simp only [List.forall_mem_cons]
  exact ⟨.deployment _ _, .internalService _, List.forall_mem_nil _⟩

theorem IngressRouter.governed (made : generate model config = .ok descriptor) :
    owner.Made config descriptor := by
  obtain ⟨routes, _, listed⟩ := generate_ok made
  unfold certificates at listed
  split at listed
  · apply Owner.made_of_no_service none listed rfl
    · simp only [List.forall_mem_cons]
      exact ⟨rfl, rfl, List.forall_mem_nil _⟩
    · simp only [List.forall_mem_cons]
      exact ⟨.routed _ _ _ _, .plain (owner.marked_metadata _) rfl rfl rfl rfl,
        List.forall_mem_nil _⟩
  · apply Owner.made_of_no_service none listed rfl
    · exact List.forall_mem_singleton.mpr rfl
    · exact List.forall_mem_singleton.mpr (.routed _ _ _ _)

theorem InitJob.governed (made : generate model config = .ok descriptor) :
    owner.Made config descriptor := by
  obtain ⟨steps, image, env, _, _, _, listed⟩ := generate_ok made
  apply Owner.made_of_no_service (some _) listed rfl
  · simp only [List.forall_mem_cons]
    exact ⟨rfl, rfl, rfl, rfl, List.forall_mem_nil _⟩
  · have marked : (owner.metadata config name).Marked config component :=
      owner.marked_metadata name
    simp only [List.forall_mem_cons]
    exact ⟨.plain marked rfl rfl rfl rfl, .plain marked rfl rfl rfl rfl,
      .plain marked rfl rfl rfl rfl, .job _ _ _, List.forall_mem_nil _⟩

theorem sites_governed : ∀ site ∈ sites, ∀ descriptor,
    site.1.generate model config = .ok descriptor → site.2.Made config descriptor := by
  simp only [sites, List.forall_mem_cons]
  exact ⟨fun _ => Database.governed, fun _ => Cache.governed, fun _ => SearchIndex.governed,
    fun _ => ObjectStore.governed, fun _ => IdentityProvider.governed,
    fun _ => CatalogApi.governed, fun _ => IngressRouter.governed, fun _ => InitJob.governed,
    List.forall_mem_nil _⟩

theorem component_eq_of_site : ∀ site ∈ sites, site.1.component = site.2.component := by
  simp only [sites, List.forall_mem_cons]
  exact ⟨rfl, rfl, rfl, rfl, rfl, rfl, rfl, rfl, List.forall_mem_nil _⟩

/-! ### Sets -/

/-- The pods of one workload have all of the labels, and those of no other one have. -/
def ResourceSet.PicksOut (set : ResourceSet) (labels : Dict String) (key : String) : Prop :=
  (∃ workload template, set.get? key = some workload ∧ workload.template? = some template ∧
    template.Bears labels) ∧
  ∀ other workload template, set.get? other = some workload →
    workload.template? = some template → template.Bears labels → other = key

/-- Documents bear the labels of their component, services pick out the workload of their own
component, and workloads that match pods by labels pick out themselves. -/
structure ResourceSet.Owned (set : ResourceSet) (config : Configuration) : Prop where
  documents : ∀ key resource, set.get? key = some resource →
    resource.declared = (resource.kind.apiVersion, resource.kind.name) ∧
      ∃ component, set.componentOf? key = some component ∧
        resource.metadata.Marked config component
  services : ∀ key resource service, set.get? key = some resource →
    resource.service? = some service → ∃ running workload,
      set.PicksOut service.selector running ∧ set.get? running = some workload ∧
        workload.matchLabels? = some service.selector ∧
        set.componentOf? running = set.componentOf? key
  workloads : ∀ key resource labels, set.get? key = some resource →
    resource.matchLabels? = some labels → set.PicksOut labels key

/-- The component that a resource comes from. -/
structure Origin (model : Model) (config : Configuration) (set : ResourceSet) (key : String)
    (resource : Resource) (site : Generator × Owner) (descriptor : Descriptor)
    (resources : List Resource) (workload : Option Resource) : Prop where
  listed : site ∈ sites
  made : site.1.generate model config = .ok descriptor
  lists : descriptor.Lists resources
  governs : site.2.Governs config resources workload
  inside : resource ∈ resources
  named : resource.key = key
  held : ∀ other ∈ resources, set.entries.get? other.key = some ⟨site.2.component, other⟩

theorem exists_origin {generators : List Generator} {set : ResourceSet}
    (composed : compose model config generators = .ok set)
    (builtIn : ∀ generator ∈ generators, generator ∈ Generator.all) {key : String}
    {resource : Resource} (given : set.get? key = some resource) :
    ∃ site descriptor resources workload,
      Origin model config set key resource site descriptor resources workload := by
  obtain ⟨valid, modelValid, _⟩ := compose_eq_ok.mp composed
  obtain ⟨generator, chosen, descriptor, made, found, held⟩ := exists_maker composed given
  have listed := builtIn generator chosen
  have attributed := all_attribute valid modelValid generator listed
  rw [← map_fst_sites] at listed
  obtain ⟨site, siteMember, rfl⟩ := List.mem_map.mp listed
  obtain ⟨resources, workload, lists, governs⟩ := sites_governed site siteMember descriptor made
  obtain ⟨inside, named⟩ := (lists key resource).mp found
  refine ⟨site, descriptor, resources, workload,
    ⟨siteMember, made, lists, governs, inside, named, ?_⟩⟩
  intro other otherInside
  rw [held ((lists other.key other).mpr ⟨otherInside, rfl⟩), attributed descriptor made,
    component_eq_of_site site siteMember]

namespace Origin

variable {set : ResourceSet} {key : String} {resource : Resource} {site : Generator × Owner}
  {resources : List Resource} {workload : Option Resource}

theorem recorded (origin : Origin model config set key resource site descriptor resources workload)
    {other : Resource} (inside : other ∈ resources) :
    set.get? other.key = some other ∧ set.componentOf? other.key = some site.2.component := by
  rw [ResourceSet.get?, ResourceSet.componentOf?, origin.held other inside]
  exact ⟨rfl, rfl⟩

theorem component
    (origin : Origin model config set key resource site descriptor resources workload) :
    set.componentOf? key = some site.2.component := by
  have recorded := (origin.recorded origin.inside).2
  rw [origin.named] at recorded
  exact recorded

theorem signed (origin : Origin model config set key resource site descriptor resources workload) :
    site.2.Signs config resource :=
  origin.governs.signed resource origin.inside

/-- Pods with the labels of a component are those of its workload. -/
theorem key_eq_of_bears
    (origin : Origin model config set key resource site descriptor resources workload)
    (runs : resource.template?.isSome) {otherKey : String} {other : Resource}
    {otherSite : Generator × Owner} {otherDescriptor : Descriptor} {otherResources : List Resource}
    {otherWorkload : Option Resource}
    (there : Origin model config set otherKey other otherSite otherDescriptor otherResources
      otherWorkload) {template : PodTemplate} (given : other.template? = some template)
    (bears : template.Bears site.2.selector) : otherKey = key := by
  -- The labels tell the owner, the owner tells the generator, and a generator makes one workload.
  obtain ⟨pod, rfl⟩ := there.signed.template template given
  have owners : site.2 = otherSite.2 := Owner.eq_of_bears bears
  obtain rfl : site = otherSite :=
    List.inj_on_of_nodup_map owners_nodup origin.listed there.listed owners
  obtain rfl := Except.ok.inj (origin.made.symm.trans there.made)
  have otherInside : other ∈ resources :=
    ((origin.lists _ _).mp ((there.lists _ _).mpr ⟨there.inside, rfl⟩)).1
  have otherRuns : other.template?.isSome := by
    rw [given]
    rfl
  have same := origin.governs.eq_of_running otherInside origin.inside otherRuns runs
  rw [← there.named, ← origin.named, same]

theorem neighbour
    (origin : Origin model config set key resource site descriptor resources workload)
    {other : Resource} (inside : other ∈ resources) :
    Origin model config set other.key other site descriptor resources workload :=
  ⟨origin.listed, origin.made, origin.lists, origin.governs, inside, rfl, origin.held⟩

theorem picksOut {generators : List Generator}
    (composed : compose model config generators = .ok set)
    (builtIn : ∀ generator ∈ generators, generator ∈ Generator.all)
    (origin : Origin model config set key resource site descriptor resources workload)
    (runs : resource.template?.isSome) : set.PicksOut site.2.selector key := by
  constructor
  · obtain ⟨template, given⟩ := Option.isSome_iff_exists.mp runs
    have held := (origin.recorded origin.inside).1
    rw [origin.named] at held
    obtain ⟨pod, rfl⟩ := origin.signed.template template given
    exact ⟨resource, _, held, given, site.2.bears_own pod⟩
  · intro otherKey other template otherHeld given bears
    obtain ⟨otherSite, _, _, _, there⟩ := exists_origin composed builtIn otherHeld
    exact origin.key_eq_of_bears runs there given bears

/-- A service stands beside the workload of its component. -/
theorem exists_running
    (origin : Origin model config set key resource site descriptor resources workload)
    (serves : resource.service?.isSome) : ∃ running ∈ resources,
      running.template?.isSome ∧ running.matchLabels? = some site.2.selector := by
  obtain ⟨running, chosen, matched⟩ := origin.governs.answered resource origin.inside serves
  have found : running ∈ resources.filter Resource.isWorkload := by
    rw [origin.governs.only, Option.mem_toList]
    exact chosen
  obtain ⟨inside, runs⟩ := List.mem_filter.mp found
  rw [← Resource.isSome_template?] at runs
  exact ⟨running, inside, runs, matched⟩

end Origin

/-- In whatever is composed of chosen components, documents bear the labels of the component that
they are recorded for. Each service picks out the workload of its own component, by the labels by
which that workload matches its pods, and no labels pick out the pods of several workloads. -/
theorem compose_selected_owned {names : List String} {generators : List Generator}
    {set : ResourceSet} (chosen : Generator.select names = .ok generators)
    (composed : compose model config generators = .ok set) : set.Owned config := by
  have builtIn : ∀ generator ∈ generators, generator ∈ Generator.all := fun _ member =>
    (sublist_of_select chosen).subset member
  refine ⟨?_, ?_, ?_⟩
  · intro key resource held
    obtain ⟨site, _, _, _, origin⟩ := exists_origin composed builtIn held
    exact ⟨origin.signed.declared, _, origin.component, origin.signed.marked⟩
  · intro key resource service held body
    obtain ⟨site, _, _, _, origin⟩ := exists_origin composed builtIn held
    obtain ⟨running, inside, runs, matched⟩ := origin.exists_running (by simp [body])
    obtain ⟨runningHeld, recorded⟩ := origin.recorded inside
    rw [origin.signed.service service body]
    refine ⟨running.key, running, ?_, runningHeld, matched, ?_⟩
    · exact (origin.neighbour inside).picksOut composed builtIn runs
    · rw [recorded, origin.component]
  · intro key resource labels held matched
    obtain ⟨site, _, _, _, origin⟩ := exists_origin composed builtIn held
    rw [origin.signed.matchLabels labels matched]
    exact origin.picksOut composed builtIn (Resource.isSome_template?_of_matchLabels matched)

theorem compose_demonstration_owned :
    ∃ set, compose Model.standard Configuration.demonstration
        [Database.generator, CatalogApi.generator, InitJob.generator] = .ok set ∧
      set.Owned Configuration.demonstration := by
  obtain ⟨whole, composed⟩ := exists_compose_demonstration
  have chosen : Generator.select ["init-job", "catalog-api", "database"] =
      .ok [Database.generator, CatalogApi.generator, InitJob.generator] := rfl
  have part := compose_selected_eq_restrict composed chosen
  exact ⟨_, part, compose_selected_owned chosen part⟩

end PlatformManifests
