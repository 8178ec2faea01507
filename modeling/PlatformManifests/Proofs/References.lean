import Mathlib.Data.String.Basic
import PlatformManifests.Proofs.Listing
import PlatformManifests.Proofs.Ownership
import PlatformManifests.Proofs.Routing

/-!
References between resources. Each resource refers to objects of lower rank, and under TLS a route
to the certificate, which has the same rank and a lower key. As the platform makes all that its
resources refer to, the order in which they are applied is a topological one.
-/
namespace PlatformManifests

variable {model : Model} {config : Configuration} {descriptor : Descriptor}

/-! ### What a resource refers to -/

/-- An object by its kind and name, in a namespace. -/
structure Reference where
  object : Kind × String
  space : String
deriving DecidableEq

namespace PodSpec

/-- The account that the pod runs under, and the config maps and claims of its volumes. -/
def uses (pod : PodSpec) : List (Kind × String) :=
  pod.serviceAccountName.toList.map (Prod.mk .serviceAccount) ++
    (pod.volumes.filterMap Volume.configMap).map (fun source => (.configMap, source.name)) ++
    (pod.volumes.filterMap Volume.claim).map fun source => (.volumeClaim, source.claimName)

/-- What the containers mount is there. -/
def Mounts (pod : PodSpec) : Prop :=
  ∀ container ∈ pod.initContainers ++ pod.containers, ∀ mount ∈ container.volumeMounts,
    mount.name ∈ pod.volumes.map Volume.name

end PodSpec

namespace Resource

/-- The objects of its own namespace that a resource refers to. -/
def uses : Resource → List (Kind × String)
  | .statefulSet manifest =>
    (.service, manifest.body.serviceName) :: manifest.body.template.spec.uses
  | .deployment manifest => manifest.body.template.spec.uses
  | .job manifest => manifest.body.template.spec.uses
  | .roleBinding manifest => [(.role, manifest.body.roleRef.name)]
  | .ingress manifest =>
    manifest.body.rules.flatMap fun rule => rule.http.paths.map fun path =>
      (.service, path.backend.service.name)
  | _ => []

def binding? : Resource → Option RoleBinding
  | .roleBinding manifest => some manifest.body
  | _ => none

/-- Those to whom a binding gives its role; each says in which namespace it is. -/
def subjects (resource : Resource) : List Subject :=
  resource.binding?.toList.flatMap RoleBinding.subjects

def references (resource : Resource) : List Reference :=
  (resource.uses.map fun object => ⟨object, resource.metadata.space⟩) ++
    resource.subjects.map fun subject => ⟨(.serviceAccount, subject.name), subject.space⟩

end Resource

/-! ### Ranks -/

theorem PodSpec.rank_le_of_uses {pod : PodSpec} {object : Kind × String}
    (used : object ∈ pod.uses) : object.1.rank ≤ Kind.volumeClaim.rank := by
  simp only [uses, List.mem_append, List.mem_map] at used
  rcases used with (⟨_, _, rfl⟩ | ⟨_, _, rfl⟩) | ⟨_, _, rfl⟩
  · exact (by decide : Kind.serviceAccount.rank ≤ Kind.volumeClaim.rank)
  · exact (by decide : Kind.configMap.rank ≤ Kind.volumeClaim.rank)
  · exact Nat.le_refl Kind.volumeClaim.rank

namespace Resource

theorem rank_lt_of_uses {resource : Resource} {object : Kind × String}
    (used : object ∈ resource.uses) : object.1.rank < resource.kind.rank := by
  have service : Kind.service.rank < Kind.statefulSet.rank := by decide
  have claim : Kind.volumeClaim.rank < Kind.service.rank := by decide
  have job : Kind.statefulSet.rank < Kind.job.rank := by decide
  -- Kinds that are not named here refer to nothing.
  cases resource with
  | statefulSet manifest =>
    rcases List.mem_cons.mp used with rfl | inPod
    · exact service
    · exact (PodSpec.rank_le_of_uses inPod).trans_lt (claim.trans service)
  | deployment manifest => exact (PodSpec.rank_le_of_uses used).trans_lt (claim.trans service)
  | job manifest =>
    exact (PodSpec.rank_le_of_uses used).trans_lt ((claim.trans service).trans job)
  | roleBinding manifest =>
    obtain rfl := List.mem_singleton.mp used
    exact (by decide : Kind.role.rank < Kind.roleBinding.rank)
  | ingress manifest =>
    obtain ⟨rule, _, inRule⟩ := List.mem_flatMap.mp used
    obtain ⟨path, _, rfl⟩ := List.mem_map.mp inRule
    exact (by decide : Kind.service.rank < Kind.ingress.rank)
  | _ => cases used

theorem mem_subjects {resource : Resource} {subject : Subject} :
    subject ∈ resource.subjects ↔
      ∃ binding, resource.binding? = some binding ∧ subject ∈ binding.subjects := by
  simp [subjects]

theorem kind_of_binding {resource : Resource} {binding : RoleBinding}
    (seen : resource.binding? = some binding) : resource.kind = .roleBinding := by
  cases resource with
  | roleBinding manifest => rfl
  | _ => cases seen

/-- Whatever a resource refers to belongs to a lower rank. -/
theorem rank_lt_of_references {resource : Resource} {reference : Reference}
    (referred : reference ∈ resource.references) :
    reference.object.1.rank < resource.kind.rank := by
  rcases List.mem_append.mp referred with own | granted
  · obtain ⟨object, used, rfl⟩ := List.mem_map.mp own
    exact rank_lt_of_uses used
  · obtain ⟨subject, member, rfl⟩ := List.mem_map.mp granted
    obtain ⟨binding, seen, _⟩ := mem_subjects.mp member
    rw [kind_of_binding seen]
    exact (by decide : Kind.serviceAccount.rank < Kind.roleBinding.rank)

end Resource

/-! ### Components -/

/-- The platform makes all that the binding refers to. -/
structure RoleBinding.Anchored (config : Configuration) (binding : RoleBinding) : Prop where
  role : binding.roleRef.kind = Kind.role.name
  subjects : ∀ subject ∈ binding.subjects, subject.kind = Kind.serviceAccount.name ∧
    subject.space = config.space ∧ (.serviceAccount, subject.name) ∈ platformObjects

/-- The platform makes all that the resource refers to, and its pods have what they mount. -/
structure Resource.Anchored (config : Configuration) (resource : Resource) : Prop where
  uses : ∀ object ∈ resource.uses, object ∈ platformObjects
  binding : ∀ binding, resource.binding? = some binding → binding.Anchored config
  mounts : ∀ template, resource.template? = some template → template.spec.Mounts

namespace Resource.Anchored

variable {owner : Owner} {pod : PodSpec}

theorem running {resource : Resource} (noBinding : resource.binding? = none)
    (runs : resource.template? = some (owner.podTemplate pod))
    (uses : ∀ object ∈ resource.uses, object ∈ platformObjects) (mounts : pod.Mounts) :
    Anchored config resource := by
  refine ⟨uses, ?_, ?_⟩
  · simp [noBinding]
  · intro template given
    rw [runs] at given
    rw [← Option.some.inj given]
    exact mounts

theorem statefulSet (governing : (.service, owner.service) ∈ platformObjects)
    (uses : ∀ object ∈ pod.uses, object ∈ platformObjects) (mounts : pod.Mounts) :
    Anchored config (owner.statefulSet config pod) := by
  apply running rfl rfl ?_ mounts
  exact List.forall_mem_cons.mpr ⟨governing, uses⟩

theorem deployment (replicas : UInt32)
    (uses : ∀ object ∈ pod.uses, object ∈ platformObjects) (mounts : pod.Mounts) :
    Anchored config (owner.deployment config replicas pod) :=
  running rfl rfl uses mounts

theorem job (metadata : Metadata) (backoffLimit : UInt32)
    (uses : ∀ object ∈ pod.uses, object ∈ platformObjects) (mounts : pod.Mounts) :
    Anchored config (.job (.ofBody metadata ⟨backoffLimit, owner.podTemplate pod⟩)) :=
  running rfl rfl uses mounts

theorem routed {name host : String} {annotations : Dict String} {rules : List PathRule}
    (targets : ∀ rule ∈ rules, (.service, rule.service) ∈ platformObjects) :
    Anchored config (owner.routed model config name annotations host rules) := by
  refine ⟨?_, ?_, ?_⟩
  · intro object used
    simp only [Owner.routed, Resource.uses, Manifest.ofBody, List.flatMap_singleton, List.map_map,
      List.mem_map] at used
    obtain ⟨rule, inside, rfl⟩ := used
    exact targets rule inside
  · rintro _ ⟨⟩
  · rintro _ ⟨⟩

theorem plain {resource : Resource} (noUses : resource.uses = [])
    (noBinding : resource.binding? = none) (noPod : resource.template? = none) :
    Anchored config resource := by
  refine ⟨?_, ?_, ?_⟩
  · simp [noUses]
  · simp [noBinding]
  · simp [noPod]

theorem roleBinding {metadata : Metadata} {role account : String}
    (space : metadata.space = config.space) (granted : (.role, role) ∈ platformObjects)
    (receiver : (.serviceAccount, account) ∈ platformObjects) :
    Anchored config (.roleBinding (bindRole metadata role account)) := by
  refine ⟨List.forall_mem_singleton.mpr granted, ?_, ?_⟩
  · rintro _ ⟨⟩
    exact ⟨rfl, List.forall_mem_singleton.mpr ⟨rfl, space, receiver⟩⟩
  · rintro _ ⟨⟩

end Resource.Anchored

theorem WaitStep.mounts_nil (steps : List WaitStep) :
    ∀ container ∈ initContainers steps, container.volumeMounts = [] := by
  intro container member
  obtain ⟨step, _, rfl⟩ := List.mem_map.mp member
  rfl

/-- The steps that wait mount nothing. -/
theorem mounts_of_container {pod : PodSpec} {steps : List WaitStep} {container : Container}
    (first : pod.initContainers = initContainers steps) (only : pod.containers = [container])
    (mounts : ∀ mount ∈ container.volumeMounts, mount.name ∈ pod.volumes.map Volume.name) :
    pod.Mounts := by
  unfold PodSpec.Mounts
  rw [first, only, List.forall_mem_append, List.forall_mem_singleton]
  refine ⟨?_, mounts⟩
  intro waiting member mount inside
  rw [WaitStep.mounts_nil steps waiting member] at inside
  cases inside

def Descriptor.Anchored (config : Configuration) (descriptor : Descriptor) : Prop :=
  ∀ key resource, descriptor.get? key = some resource → resource.Anchored config

theorem Descriptor.anchored_of_listed {component : String} {resources : List Resource}
    (listed : Descriptor.ofResources component resources = .ok descriptor)
    (each : ∀ resource ∈ resources, resource.Anchored config) : descriptor.Anchored config :=
  Descriptor.forall_of_listed listed each

theorem Database.anchored (made : generate model config = .ok descriptor) :
    descriptor.Anchored config := by
  obtain ⟨port, env, check, image, size, _, _, _, _, _, listed⟩ := generate_ok made
  have uses : ∀ object ∈ [(Kind.configMap, scriptsName), (Kind.volumeClaim, claimName)],
      object ∈ platformObjects := by decide
  have mounts : ∀ mount ∈ [VolumeMount.writable "data" dataDirectory,
      .fixed "init" "/docker-entrypoint-initdb.d"], mount.name ∈ ["data", "init"] := by decide
  apply Descriptor.anchored_of_listed listed
  simp only [List.forall_mem_cons]
  exact ⟨.statefulSet (by decide) uses (@mounts_of_container _ [] _ rfl rfl mounts),
    .plain rfl rfl rfl, .plain rfl rfl rfl, .plain rfl rfl rfl, List.forall_mem_nil _⟩

theorem Cache.anchored (made : generate model config = .ok descriptor) :
    descriptor.Anchored config := by
  obtain ⟨port, image, password, _, _, _, listed⟩ := generate_ok made
  have mounts : ∀ mount ∈ [VolumeMount.writable "data" "/data"], mount.name ∈ ["data"] := by decide
  apply Descriptor.anchored_of_listed listed
  simp only [List.forall_mem_cons]
  exact ⟨.statefulSet (by decide) (List.forall_mem_nil _)
    (@mounts_of_container _ [] _ rfl rfl mounts), .plain rfl rfl rfl, List.forall_mem_nil _⟩

theorem SearchIndex.anchored (made : generate model config = .ok descriptor) :
    descriptor.Anchored config := by
  obtain ⟨port, env, image, size, _, _, _, _, listed⟩ := generate_ok made
  have target : (Kind.service, service) ∈ platformObjects := by decide
  have uses : ∀ object ∈ [(Kind.volumeClaim, claimName)], object ∈ platformObjects := by decide
  have mounts : ∀ mount ∈ [VolumeMount.writable "data" "/usr/share/elasticsearch/data"],
      mount.name ∈ ["data"] := by decide
  apply Descriptor.anchored_of_listed listed
  simp only [List.forall_mem_cons]
  exact ⟨.statefulSet target uses (@mounts_of_container _ [] _ rfl rfl mounts),
    .plain rfl rfl rfl, .plain rfl rfl rfl, .routed (List.forall_mem_singleton.mpr target),
    List.forall_mem_nil _⟩

theorem ObjectStore.anchored (made : generate model config = .ok descriptor) :
    descriptor.Anchored config := by
  obtain ⟨apiPort, consolePort, env, image, size, _, _, _, _, _, listed⟩ := generate_ok made
  have target : (Kind.service, service) ∈ platformObjects := by decide
  have uses : ∀ object ∈ [(Kind.volumeClaim, claimName)], object ∈ platformObjects := by decide
  have mounts : ∀ mount ∈ [VolumeMount.writable "data" dataDirectory],
      mount.name ∈ ["data"] := by decide
  apply Descriptor.anchored_of_listed listed
  simp only [List.forall_mem_cons]
  exact ⟨.statefulSet target uses (@mounts_of_container _ [] _ rfl rfl mounts),
    .plain rfl rfl rfl, .plain rfl rfl rfl, .routed (List.forall_mem_singleton.mpr target),
    .routed (List.forall_mem_singleton.mpr target), List.forall_mem_nil _⟩

theorem IdentityProvider.anchored (made : generate model config = .ok descriptor) :
    descriptor.Anchored config := by
  obtain ⟨httpPort, managementPort, databasePort, env, image, check, database, replicas, _, _, _, _,
    _, _, _, _, listed⟩ := generate_ok made
  have target : (Kind.service, service) ∈ platformObjects := by decide
  apply Descriptor.anchored_of_listed listed
  simp only [List.forall_mem_cons]
  exact ⟨.deployment _ (List.forall_mem_nil _)
    (mounts_of_container rfl rfl (List.forall_mem_nil _)), .plain rfl rfl rfl,
    .routed (List.forall_mem_singleton.mpr target), List.forall_mem_nil _⟩

theorem CatalogApi.anchored (made : generate model config = .ok descriptor) :
    descriptor.Anchored config := by
  obtain ⟨port, waitImage, steps, image, env, replicas, _, _, _, _, _, _, listed⟩ :=
    generate_ok made
  apply Descriptor.anchored_of_listed listed
  simp only [List.forall_mem_cons]
  exact ⟨.deployment _ (List.forall_mem_nil _)
    (mounts_of_container rfl rfl (List.forall_mem_nil _)), .plain rfl rfl rfl,
    List.forall_mem_nil _⟩

theorem IngressRouter.anchored (made : generate model config = .ok descriptor) :
    descriptor.Anchored config := by
  obtain ⟨routes, found, listed⟩ := generate_ok made
  have targets : ∀ rule ∈ routes, (Kind.service, rule.service) ∈ platformObjects := by
    simp only [rules, Outcome.bind_eq_ok, Except.ok.injEq] at found
    obtain ⟨apiPort, _, storagePort, _, rfl⟩ := found
    have api : (Kind.service, CatalogApi.service) ∈ platformObjects := by decide
    have storage : (Kind.service, ObjectStore.service) ∈ platformObjects := by decide
    exact List.forall_mem_cons.mpr ⟨api, List.forall_mem_singleton.mpr storage⟩
  apply Descriptor.anchored_of_listed listed
  refine List.forall_mem_cons.mpr ⟨.routed targets, ?_⟩
  unfold certificates
  split
  · exact List.forall_mem_singleton.mpr (.plain rfl rfl rfl)
  · exact List.forall_mem_nil _

theorem InitJob.anchored (made : generate model config = .ok descriptor) :
    descriptor.Anchored config := by
  obtain ⟨steps, image, env, _, _, _, listed⟩ := generate_ok made
  have role : (Kind.role, name) ∈ platformObjects := by decide
  have account : (Kind.serviceAccount, name) ∈ platformObjects := by decide
  apply Descriptor.anchored_of_listed listed
  simp only [List.forall_mem_cons]
  exact ⟨.plain rfl rfl rfl, .plain rfl rfl rfl, .roleBinding rfl role account,
    .job _ _ (List.forall_mem_singleton.mpr account)
      (mounts_of_container rfl rfl (List.forall_mem_nil _)), List.forall_mem_nil _⟩

theorem all_anchored : ∀ generator ∈ Generator.all, ∀ descriptor,
    generator.generate model config = .ok descriptor → descriptor.Anchored config := by
  simp only [Generator.all, List.forall_mem_cons]
  exact ⟨fun _ => Database.anchored, fun _ => Cache.anchored, fun _ => SearchIndex.anchored,
    fun _ => ObjectStore.anchored, fun _ => IdentityProvider.anchored,
    fun _ => CatalogApi.anchored, fun _ => IngressRouter.anchored, fun _ => InitJob.anchored,
    List.forall_mem_nil _⟩

/-! ### The platform -/

/-- What resources refer to is found at an earlier place. -/
structure ResourceSet.Resolved (set : ResourceSet) (config : Configuration) : Prop where
  references : ∀ key resource, set.get? key = some resource →
    ∀ reference ∈ resource.references, ∃ earlier referee, set.Precedes earlier key ∧
      set.get? earlier = some referee ∧ referee.identity = reference.object ∧
      referee.metadata.space = reference.space
  bindings : ∀ key resource binding, set.get? key = some resource →
    resource.binding? = some binding → binding.roleRef.kind = Kind.role.name ∧
      ∀ subject ∈ binding.subjects, subject.kind = Kind.serviceAccount.name
  certificates : ∀ key manifest, set.get? key = some (.ingress manifest) →
    (config.scheme = .https → manifest.body.tls ≠ []) ∧
    ∀ block ∈ manifest.body.tls, ∃ earlier certificate, set.Precedes earlier key ∧
      set.get? earlier = some (.certificate certificate) ∧
      certificate.body.secretName = block.secretName ∧
      certificate.metadata.space = manifest.metadata.space
  mounts : ∀ key resource template, set.get? key = some resource →
    resource.template? = some template → template.spec.Mounts

section Composed

variable {set : ResourceSet}

theorem anchored_of_composed (composed : compose model config Generator.all = .ok set)
    {key : String} {resource : Resource} (held : set.get? key = some resource) :
    resource.Anchored config := by
  obtain ⟨generator, listed, descriptor, made, found, _⟩ := exists_maker composed held
  exact all_anchored generator listed descriptor made key resource found

theorem space_of_composed (composed : compose model config Generator.all = .ok set)
    {key : String} {resource : Resource} (held : set.get? key = some resource) :
    resource.metadata.space = config.space := by
  obtain ⟨_, _, _, _, origin⟩ := exists_origin composed (fun _ listed => listed) held
  exact origin.signed.marked.space

theorem exists_object (composed : compose model config Generator.all = .ok set)
    {object : Kind × String} (listed : object ∈ platformObjects) :
    ∃ resource, set.get? (object.1.keyOf object.2) = some resource ∧
      resource.identity = object := by
  obtain ⟨valid, modelValid, _⟩ := compose_eq_ok.mp composed
  have keys := keys_perm (profiles_kept valid modelValid) composed
  have present : object.1.keyOf object.2 ∈ set.entries.keys := by
    rw [keys.mem_iff, ← map_keyOf_platformObjects]
    apply List.mem_append_left
    exact List.mem_map.mpr ⟨object, listed, rfl⟩
  obtain ⟨resource, held⟩ := ResourceSet.mem_keys_iff.mp present
  obtain ⟨kind, name⟩ := Kind.keyOf_inj.mp (key_eq_of_composed composed held)
  exact ⟨resource, held, Prod.ext kind name⟩

theorem exists_earlier (composed : compose model config Generator.all = .ok set)
    {key : String} {resource : Resource} (held : set.get? key = some resource)
    {reference : Reference} (referred : reference ∈ resource.references)
    (listed : reference.object ∈ platformObjects) (space : reference.space = config.space) :
    ∃ earlier referee, set.Precedes earlier key ∧ set.get? earlier = some referee ∧
      referee.identity = reference.object ∧ referee.metadata.space = reference.space := by
  obtain ⟨referee, found, same⟩ := exists_object composed listed
  have lower : referee.kind.rank < resource.kind.rank := by
    have rank := Resource.rank_lt_of_references referred
    rw [← same] at rank
    exact rank
  refine ⟨_, referee, ResourceSet.precedes_of_held found held (.inl lower), found, same, ?_⟩
  rw [space_of_composed composed found, space]

/-- All references go to objects of the platform in the namespace of the deployment. -/
theorem anchored_references (composed : compose model config Generator.all = .ok set)
    {key : String} {resource : Resource} (held : set.get? key = some resource)
    {reference : Reference} (referred : reference ∈ resource.references) :
    reference.object ∈ platformObjects ∧ reference.space = config.space := by
  have anchored := anchored_of_composed composed held
  rcases List.mem_append.mp referred with own | granted
  · obtain ⟨object, used, rfl⟩ := List.mem_map.mp own
    exact ⟨anchored.uses object used, space_of_composed composed held⟩
  · obtain ⟨subject, member, rfl⟩ := List.mem_map.mp granted
    obtain ⟨binding, seen, inside⟩ := Resource.mem_subjects.mp member
    obtain ⟨_, space, listed⟩ := (anchored.binding binding seen).subjects subject inside
    exact ⟨listed, space⟩

theorem keyOf_certificate_lt_ingress (name other : String) :
    Kind.certificate.keyOf name < Kind.ingress.keyOf other := by
  rw [String.lt_iff_toList_lt]
  simp only [Kind.keyOf, Kind.keyName, String.toList_append]
  exact List.Lex.rel (by decide)

/-- The certificate and the routes have the same rank. -/
theorem certificate_precedes (composed : compose model config Generator.all = .ok set)
    (secure : config.scheme = .https) {key : String} {manifest : Manifest Ingress}
    (held : set.get? key = some (.ingress manifest)) :
    set.Precedes (Kind.certificate.keyOf config.tlsSecretName) key := by
  have found := get?_certificate composed secure
  refine ResourceSet.precedes_of_held found held (.inr ⟨rfl, ?_⟩)
  rw [← key_eq_of_composed composed held]
  exact keyOf_certificate_lt_ingress _ _

/-- A route has a block for TLS exactly under https, and the block names the certificate's
secret. -/
theorem tls_of_composed (composed : compose model config Generator.all = .ok set) {key : String}
    {manifest : Manifest Ingress} (held : set.get? key = some (.ingress manifest)) :
    (config.scheme = .https → manifest.body.tls ≠ []) ∧
      ∀ block ∈ manifest.body.tls,
        config.scheme = .https ∧ block.secretName = config.tlsSecretName := by
  obtain ⟨gateway, _, opens⟩ := exists_gateway composed held
  rw [opens.tls, Route.tls]
  cases config.scheme with
  | http => simp [Scheme.isTls]
  | https => simp [Scheme.isTls]

end Composed

/-- The order in which the platform is applied is topological. Everything that a resource refers to
is there, in the namespace of the reference, and comes earlier; under https so does the certificate
with the secret of a route. Containers mount volumes of their pods only. -/
theorem compose_all_resolved {set : ResourceSet}
    (composed : compose model config Generator.all = .ok set) : set.Resolved config := by
  refine ⟨?_, ?_, ?_, ?_⟩
  · intro key resource held reference referred
    obtain ⟨listed, space⟩ := anchored_references composed held referred
    exact exists_earlier composed held referred listed space
  · intro key resource binding held seen
    have anchored := (anchored_of_composed composed held).binding binding seen
    exact ⟨anchored.role, fun subject member => (anchored.subjects subject member).1⟩
  · intro key manifest held
    obtain ⟨covered, blocks⟩ := tls_of_composed composed held
    refine ⟨covered, ?_⟩
    intro block member
    obtain ⟨secure, named⟩ := blocks block member
    refine ⟨_, _, certificate_precedes composed secure held, get?_certificate composed secure,
      named.symm, ?_⟩
    exact (space_of_composed composed held).symm
  · intro key resource template held given
    exact (anchored_of_composed composed held).mounts template given

theorem compose_demonstration_resolved :
    ∃ set, compose Model.standard Configuration.demonstration Generator.all = .ok set ∧
      set.Resolved Configuration.demonstration := by
  obtain ⟨set, composed⟩ := exists_compose_demonstration
  exact ⟨set, composed, compose_all_resolved composed⟩

end PlatformManifests
