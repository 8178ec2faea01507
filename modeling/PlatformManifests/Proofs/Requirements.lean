import PlatformManifests.Model.Standard
import PlatformManifests.Proofs.Composition
import PlatformManifests.Proofs.Profile

/-!
What the whole platform needs and what it makes. For valid inputs the eight generators together
fail only on a lookup that finds nothing, and otherwise always make objects with the same keys, of
which the certificate alone depends on the configuration.
-/
namespace PlatformManifests

open Descriptor

variable {model : Model} {config : Configuration}

/-! ### Generators that keep to profiles -/

namespace Profile

/-- All that the component looks up is there. -/
def Satisfied (profile : Profile) (model : Model) (config : Configuration) : Prop :=
  ∀ lookup ∈ profile.lookups config, lookup.Found model config

/-- The first component that lacks something, and the first thing that it lacks. -/
def FirstMissing (profiles : List Profile) (model : Model) (config : Configuration)
    (error : Error) : Prop :=
  ∃ before profile after lookup, profiles = before ++ profile :: after ∧
    (∀ earlier ∈ before, earlier.Satisfied model config) ∧
    Lookup.FirstAbsent model config (profile.lookups config) lookup ∧
    error = lookup.errorIn profile.generator.component

variable {profiles : List Profile}

theorem Kept.exists_ok_iff {profile : Profile} (kept : profile.Kept model config) :
    (∃ descriptor, profile.generator.generate model config = .ok descriptor) ↔
      profile.Satisfied model config :=
  kept.reads.exists_ok_iff

theorem Kept.apart {first second : Profile} (firstKept : first.Kept model config)
    (secondKept : second.Kept model config) {former latter : Descriptor}
    (formerMade : first.generator.generate model config = .ok former)
    (latterMade : second.generator.generate model config = .ok latter)
    (disjoint : (first.objects config).Disjoint (second.objects config)) :
    former.Apart latter := by
  intro key inFormer inLatter
  obtain ⟨object, member, rfl⟩ := (firstKept.mem_keys former formerMade key).mp inFormer
  obtain ⟨other, otherMember, same⟩ := (secondKept.mem_keys latter latterMade _).mp inLatter
  have equal : other = object :=
    Prod.ext (Kind.keyOf_inj.mp same).1 (Kind.keyOf_inj.mp same).2
  exact disjoint member (equal ▸ otherMember)

/-- No object is made twice. -/
def Distinct (profiles : List Profile) (config : Configuration) : Prop :=
  (profiles.flatMap fun profile => profile.objects config).Nodup

theorem satisfied_of_generated (kept : ∀ profile ∈ profiles, profile.Kept model config)
    {descriptors : List Descriptor}
    (all : Generated model config (profiles.map Profile.generator) descriptors) :
    ∀ profile ∈ profiles, profile.Satisfied model config := by
  intro profile member
  obtain ⟨descriptor, _, made⟩ := all.exists_descriptor (List.mem_map_of_mem member)
  exact (kept profile member).exists_ok_iff.mp ⟨descriptor, made⟩

theorem mem_keys_of_generated (kept : ∀ profile ∈ profiles, profile.Kept model config)
    {descriptors : List Descriptor}
    (all : Generated model config (profiles.map Profile.generator) descriptors) (key : String) :
    (∃ descriptor ∈ descriptors, key ∈ descriptor.resources.keys) ↔
      key ∈ (profiles.flatMap fun profile => profile.objects config).map
        fun object => object.1.keyOf object.2 := by
  simp only [List.mem_map, List.mem_flatMap]
  constructor
  · rintro ⟨descriptor, member, inside⟩
    obtain ⟨generator, listed, made⟩ := all.exists_generator member
    obtain ⟨profile, profileMember, rfl⟩ := List.mem_map.mp listed
    have objects := (kept profile profileMember).mem_keys descriptor made key
    obtain ⟨object, objectMember, same⟩ := objects.mp inside
    exact ⟨object, ⟨profile, profileMember, objectMember⟩, same⟩
  · rintro ⟨object, ⟨profile, profileMember, objectMember⟩, same⟩
    obtain ⟨descriptor, member, made⟩ :=
      all.exists_descriptor (List.mem_map_of_mem profileMember)
    have objects := (kept profile profileMember).mem_keys descriptor made key
    exact ⟨descriptor, member, objects.mpr ⟨object, objectMember, same⟩⟩

theorem first_eq_first {α : Type} {holds : α → Prop} {before after other rest : List α}
    {first second : α} (split : before ++ first :: after = other ++ second :: rest)
    (earlier : ∀ item ∈ before, holds item) (fails : ¬ holds first)
    (otherEarlier : ∀ item ∈ other, holds item) (otherFails : ¬ holds second) :
    first = second := by
  induction before generalizing other with
  | nil =>
    cases other with
    | nil => exact (List.cons.inj split).1
    | cons head tail =>
      obtain rfl := (List.cons.inj split).1
      exact absurd (otherEarlier _ List.mem_cons_self) fails
  | cons head tail ih =>
    obtain ⟨headHolds, tailHold⟩ := List.forall_mem_cons.mp earlier
    cases other with
    | nil =>
      obtain rfl := (List.cons.inj split).1
      exact absurd headHolds otherFails
    | cons otherHead otherTail =>
      exact ih (List.cons.inj split).2 tailHold (List.forall_mem_cons.mp otherEarlier).2

theorem not_satisfied_of_firstAbsent {profile : Profile} {lookup : Lookup}
    (absent : Lookup.FirstAbsent model config (profile.lookups config) lookup) :
    ¬ profile.Satisfied model config := by
  obtain ⟨before, after, listed, _, missing⟩ := absent
  intro satisfied
  exact missing (satisfied lookup (listed ▸ List.mem_append_right _ List.mem_cons_self))

theorem FirstMissing.unique {error cause : Error}
    (first : FirstMissing profiles model config error)
    (second : FirstMissing profiles model config cause) : error = cause := by
  obtain ⟨before, profile, after, lookup, rfl, earlier, absent, rfl⟩ := first
  obtain ⟨_, other, _, otherLookup, split, otherEarlier, otherAbsent, rfl⟩ := second
  obtain rfl := first_eq_first split earlier (not_satisfied_of_firstAbsent absent) otherEarlier
    (not_satisfied_of_firstAbsent otherAbsent)
  obtain ⟨_, _, listed, found, missing⟩ := absent
  obtain ⟨_, _, otherListed, otherFound, otherMissing⟩ := otherAbsent
  rw [first_eq_first (listed.symm.trans otherListed) found missing otherFound otherMissing]

/-- What is missing depends on no more than the lookups and what they find. -/
theorem FirstMissing.of_same {other : Configuration} {error : Error}
    (missing : FirstMissing profiles model config error)
    (found : ∀ lookup : Lookup, lookup.Found model other ↔ lookup.Found model config)
    (same : ∀ profile ∈ profiles, profile.lookups other = profile.lookups config) :
    FirstMissing profiles model other error := by
  obtain ⟨before, profile, after, lookup, rfl, earlier, absent, rfl⟩ := missing
  obtain ⟨sameBefore, sameRest⟩ := List.forall_mem_append.mp same
  refine ⟨before, profile, after, lookup, rfl, ?_, ?_, rfl⟩
  · intro former member asked inside
    rw [sameBefore former member] at inside
    exact (found asked).mpr (earlier former member asked inside)
  · rw [sameRest profile List.mem_cons_self]
    obtain ⟨first, last, split, all, none⟩ := absent
    exact ⟨first, last, split, fun asked inside => (found asked).mpr (all asked inside),
      fun held => none ((found lookup).mp held)⟩

/-- As the objects are distinct, a generator can only fail because something is missing. -/
theorem firstMissing_of_firstFault (kept : ∀ profile ∈ profiles, profile.Kept model config)
    (distinct : Distinct profiles config) {error : Error}
    (fault : FirstFault model config (profiles.map Profile.generator) error) :
    FirstMissing profiles model config error := by
  obtain ⟨_, _, _, descriptors, split, earlier, here⟩ := fault
  obtain ⟨before, rest, rfl, rfl, tail⟩ := List.map_eq_append_iff.mp split
  obtain ⟨profile, after, rfl, rfl, rfl⟩ := List.map_eq_cons_iff.mp tail
  obtain ⟨keptBefore, keptRest⟩ := List.forall_mem_append.mp kept
  have keptHere := keptRest profile List.mem_cons_self
  have satisfied := satisfied_of_generated keptBefore earlier
  cases here with
  | generation cause failed =>
    obtain ⟨lookup, absent, rfl⟩ := keptHere.reads.eq_error failed
    exact ⟨before, profile, after, lookup, rfl, satisfied, absent, lookup.inComponent_error _⟩
  | clash descriptor owner key made shared =>
    obtain ⟨generator, listed, ownerMade⟩ := earlier.exists_generator shared.owned
    obtain ⟨former, formerMember, rfl⟩ := List.mem_map.mp listed
    have pairs := (List.pairwise_append.mp (List.nodup_flatMap.mp distinct).2).2.2
    have disjoint := pairs former formerMember profile List.mem_cons_self
    have apart := (keptBefore former formerMember).apart keptHere ownerMade made disjoint
    exact absurd shared.inside (apart shared.taken)

theorem exists_generated_iff (kept : ∀ profile ∈ profiles, profile.Kept model config)
    (distinct : Distinct profiles config) :
    (∃ descriptors, Generated model config (profiles.map Profile.generator) descriptors) ↔
      ∀ profile ∈ profiles, profile.Satisfied model config := by
  constructor
  · rintro ⟨descriptors, all⟩
    exact satisfied_of_generated kept all
  · intro satisfied
    rcases generated_or_firstFault model config (profiles.map Profile.generator) with
      all | ⟨error, fault⟩
    · exact all
    · obtain ⟨before, profile, after, lookup, rfl, _, ⟨earlier, later, split, _, absent⟩, _⟩ :=
        firstMissing_of_firstFault kept distinct fault
      have found := satisfied profile (by simp) lookup (by simp [split])
      exact absurd found absent

end Profile

/-! ### The platform -/

/-- The profiles of all components, in the order in which they are generated. -/
def profiles : List Profile :=
  [Database.profile, Cache.profile, SearchIndex.profile, ObjectStore.profile,
    IdentityProvider.profile, CatalogApi.profile, IngressRouter.profile, InitJob.profile]

theorem map_generator_profiles : profiles.map Profile.generator = Generator.all := rfl

theorem profiles_kept (valid : config.validate = .ok ()) (modelValid : model.validate = .ok ()) :
    ∀ profile ∈ profiles, profile.Kept model config := by
  simp only [profiles, List.forall_mem_cons]
  exact ⟨Database.kept, Cache.kept, SearchIndex.kept valid modelValid,
    ObjectStore.kept valid modelValid, IdentityProvider.kept valid modelValid, CatalogApi.kept,
    IngressRouter.kept valid modelValid, InitJob.kept, List.forall_mem_nil _⟩

/-- Everything that the platform asks of the configuration and of the model is there. -/
structure Complete (model : Model) (config : Configuration) : Prop where
  secrets : ∀ identifier ∈ [SecretId.postgresSuperuser, SecretId.postgresIdentity,
    SecretId.postgresApplication, SecretId.redis, SecretId.elastic, SecretId.minioRoot,
    SecretId.keycloakAdmin, SecretId.catalogApiClient], config.secrets.contains identifier
  mailPassword : ∀ mail identifier, config.mail = some mail →
    mail.passwordSecret = some identifier → config.secrets.contains identifier
  images : ∀ key ∈ [ImageKey.postgres, ImageKey.redis, ImageKey.elasticsearch, ImageKey.minio,
    ImageKey.keycloak, ImageKey.catalogApi, ImageKey.platformInit, ImageKey.wait],
    model.images.contains key
  ports : ∀ key ∈ [PortKey.postgres, PortKey.redis, PortKey.elasticsearch, PortKey.minioApi,
    PortKey.minioConsole, PortKey.keycloakHttp, PortKey.keycloakManagement, PortKey.catalogApi],
    model.ports.contains key
  volumes : ∀ key ∈ [VolumeKey.postgres, VolumeKey.elasticsearch, VolumeKey.minio],
    model.volumes.contains key
  replicas : ∀ key ∈ [ImageKey.keycloak, ImageKey.catalogApi], model.replicas.contains key
  clients : ∀ key ∈ [ClientKey.catalogApi, ClientKey.web], model.identity.clients.contains key
  events : model.brokers.contains BrokerKey.events

theorem mem_mailLookups {lookup : Lookup} :
    lookup ∈ InitJob.mailLookups config ↔ ∃ mail identifier, config.mail = some mail ∧
      mail.passwordSecret = some identifier ∧ lookup = .secret identifier := by
  simp only [InitJob.mailLookups, Option.mem_toList, Option.map_eq_some_iff,
    Option.bind_eq_some_iff, @eq_comm _ lookup]
  grind

theorem mailLookups_found_iff :
    (∀ lookup ∈ InitJob.mailLookups config, lookup.Found model config) ↔
      ∀ mail identifier, config.mail = some mail → mail.passwordSecret = some identifier →
        config.secrets.contains identifier := by
  simp only [mem_mailLookups]
  constructor
  · intro found mail identifier relay named
    exact found _ ⟨mail, identifier, relay, named, rfl⟩
  · rintro held _ ⟨mail, identifier, relay, named, rfl⟩
    exact held mail identifier relay named

theorem satisfied_iff_complete :
    (∀ profile ∈ profiles, profile.Satisfied model config) ↔ Complete model config := by
  simp only [profiles, Profile.Satisfied, Database.profile, Cache.profile, SearchIndex.profile,
    ObjectStore.profile, IdentityProvider.profile, CatalogApi.profile, IngressRouter.profile,
    InitJob.profile, CatalogApi.environmentLookups, InitJob.environmentLookups,
    mailLookups_found_iff, List.forall_mem_cons, List.forall_mem_append, List.not_mem_nil,
    false_implies, implies_true, and_true]
  simp only [Lookup.Found, ← Dict.contains.eq_1]
  constructor
  · intro all
    constructor <;> simp +contextual [all]
  · rintro ⟨secrets, mailPassword, images, ports, volumes, replicas, clients, events⟩
    simp_all

/-- The objects that do not depend on the configuration. -/
def platformObjects : List (Kind × String) :=
  Database.inventory ++ Cache.inventory ++ SearchIndex.inventory ++ ObjectStore.inventory ++
    IdentityProvider.inventory ++ CatalogApi.inventory ++ [(.ingress, IngressRouter.routeName)] ++
    InitJob.inventory

def platformKeys : List String :=
  ["statefulset/postgres", "service/postgres", "persistentvolumeclaim/postgres-data",
    "configmap/postgres-init", "statefulset/redis", "service/redis", "statefulset/elasticsearch",
    "service/elasticsearch", "persistentvolumeclaim/elasticsearch-data", "ingress/elasticsearch",
    "statefulset/minio", "service/minio", "persistentvolumeclaim/minio-data", "ingress/minio",
    "ingress/minio-console", "deployment/keycloak", "service/keycloak", "ingress/keycloak",
    "deployment/catalog-api", "service/catalog-api", "ingress/platform",
    "serviceaccount/platform-init", "role/platform-init", "rolebinding/platform-init",
    "job/platform-init"]

example : platformKeys.length = 25 := rfl

theorem map_keyOf_platformObjects :
    (platformObjects.map fun object => object.1.keyOf object.2) = platformKeys := by
  decide +kernel

theorem map_keyOf_certificateObjects :
    ((IngressRouter.certificateObjects config).map fun object => object.1.keyOf object.2) =
      if config.scheme = .https then ["certificate/" ++ config.space ++ "-tls"] else [] := by
  unfold IngressRouter.certificateObjects
  cases config.scheme with
  | http => rfl
  | https =>
    have key : Kind.keyOf .certificate config.tlsSecretName =
        "certificate/" ++ config.space ++ "-tls" := (String.append_assoc ..).symm
    simp [Scheme.isTls, key]

theorem objects_perm :
    (profiles.flatMap fun profile => profile.objects config).Perm
      (platformObjects ++ IngressRouter.certificateObjects config) := by
  have moved : (IngressRouter.certificateObjects config ++ InitJob.inventory).Perm
      (InitJob.inventory ++ IngressRouter.certificateObjects config) := List.perm_append_comm
  exact moved.append_left (platformObjects.take 21)

theorem profiles_distinct : Profile.Distinct profiles config := by
  have noCertificate : ∀ object ∈ platformObjects, object.1 ≠ .certificate := by decide
  refine objects_perm.nodup_iff.mpr (List.nodup_append.mpr ⟨by decide +kernel, ?_, ?_⟩)
  · unfold IngressRouter.certificateObjects
    split <;> simp
  · intro object member other otherMember same
    unfold IngressRouter.certificateObjects at otherMember
    split at otherMember
    · rw [List.mem_singleton.mp otherMember] at same
      exact noCertificate object member (congrArg Prod.fst same)
    · cases otherMember

theorem keys_perm {set : ResourceSet} (kept : ∀ profile ∈ profiles, profile.Kept model config)
    (composed : compose model config Generator.all = .ok set) :
    set.entries.keys.Perm
      (platformKeys ++
        if config.scheme = .https then ["certificate/" ++ config.space ++ "-tls"] else []) := by
  obtain ⟨_, _, descriptors, all, union⟩ := compose_eq_ok.mp composed
  rw [← map_keyOf_certificateObjects, ← map_keyOf_platformObjects, ← List.map_append]
  have keyOf_injective : Function.Injective fun object : Kind × String =>
      object.1.keyOf object.2 := by
    intro first second same
    exact Prod.ext (Kind.keyOf_inj.mp same).1 (Kind.keyOf_inj.mp same).2
  have objects : (platformObjects ++ IngressRouter.certificateObjects config).Nodup :=
    objects_perm.nodup_iff.mp profiles_distinct
  have keys := objects.map keyOf_injective
  refine (List.perm_ext_iff_of_nodup set.entries.keys_nodup keys).mpr fun key => ?_
  rw [union.mem_keys, Profile.mem_keys_of_generated kept all, (objects_perm.map _).mem_iff]

theorem exists_compose_iff_complete (valid : config.validate = .ok ())
    (modelValid : model.validate = .ok ()) :
    (∃ set, compose model config Generator.all = .ok set) ↔ Complete model config := by
  have kept := profiles_kept valid modelValid
  rw [← satisfied_iff_complete, ← Profile.exists_generated_iff kept profiles_distinct,
    map_generator_profiles, exists_compose_eq_ok]
  simp only [valid, modelValid, true_and]

/-- A valid platform fails exactly with the error of what is missing first. -/
theorem compose_eq_error_iff_firstMissing (valid : config.validate = .ok ())
    (modelValid : model.validate = .ok ()) {error : Error} :
    compose model config Generator.all = .error error ↔
      Profile.FirstMissing profiles model config error := by
  have missing_of_failed : ∀ {cause}, compose model config Generator.all = .error cause →
      Profile.FirstMissing profiles model config cause := by
    intro cause failed
    rcases compose_eq_error.mp failed with invalid | ⟨_, invalid⟩ | ⟨_, _, fault⟩
    · rw [valid] at invalid
      cases invalid
    · rw [modelValid] at invalid
      cases invalid
    · exact Profile.firstMissing_of_firstFault (profiles_kept valid modelValid) profiles_distinct
        fault
  refine ⟨missing_of_failed, fun missing => ?_⟩
  cases composed : compose model config Generator.all with
  | error cause => rw [missing.unique (missing_of_failed composed)]
  | ok set =>
    have complete := (exists_compose_iff_complete valid modelValid).mp ⟨set, composed⟩
    obtain ⟨before, profile, after, lookup, split, _, absent, _⟩ := missing
    have member : profile ∈ profiles := split ▸ List.mem_append_right _ List.mem_cons_self
    exact absurd (satisfied_iff_complete.mpr complete profile member)
      (Profile.not_satisfied_of_firstAbsent absent)

/-- Two valid configurations with the same secrets and the same mail server fail alike. -/
theorem compose_eq_error_of_same {other : Configuration} (valid : config.validate = .ok ())
    (otherValid : other.validate = .ok ()) (secrets : other.secrets = config.secrets)
    (mail : other.mail = config.mail) {error : Error}
    (failed : compose model config Generator.all = .error error) :
    compose model other Generator.all = .error error := by
  have found : ∀ lookup : Lookup, lookup.Found model other ↔ lookup.Found model config := by
    intro lookup
    cases lookup with
    | secret identifier => simp only [Lookup.Found, secrets]
    | _ => exact Iff.rfl
  have job : InitJob.profile.lookups other = InitJob.profile.lookups config := by
    simp only [InitJob.profile, InitJob.environmentLookups, InitJob.mailLookups, mail]
  have lookups : ∀ profile ∈ profiles, profile.lookups other = profile.lookups config := by
    simp only [profiles, List.forall_mem_cons]
    exact ⟨rfl, rfl, rfl, rfl, rfl, rfl, rfl, job, List.forall_mem_nil _⟩
  cases modelValid : model.validate with
  | error cause =>
    have invalid : ∀ {config : Configuration}, config.validate = .ok () →
        compose model config Generator.all = .error cause :=
      fun valid => compose_eq_error.mpr (.inr (.inl ⟨valid, modelValid⟩))
    rw [invalid valid] at failed
    rw [invalid otherValid, failed]
  | ok _ =>
    have missing := (compose_eq_error_iff_firstMissing valid modelValid).mp failed
    exact (compose_eq_error_iff_firstMissing otherValid modelValid).mpr
      (missing.of_same found lookups)

/-- Nothing is lost when a port gets another number. -/
theorem Complete.withPort (complete : Complete model config) (key : String) (port : UInt16) :
    Complete (model.withPort key port) config := by
  refine { complete with ports := fun other listed => ?_ }
  have held := complete.ports other listed
  rw [Dict.contains] at held ⊢
  rw [Model.withPort, Dict.get?_insert]
  split
  · rfl
  · exact held

theorem exists_compose_withPort {set : ResourceSet}
    (composed : compose model config Generator.all = .ok set) (key : String) {port : UInt16}
    (nonzero : port ≠ 0) :
    ∃ other, compose (model.withPort key port) config Generator.all = .ok other := by
  obtain ⟨valid, modelValid, _⟩ := compose_eq_ok.mp composed
  have complete := (exists_compose_iff_complete valid modelValid).mp ⟨set, composed⟩
  have otherValid := Model.validate_withPort modelValid key nonzero
  exact (exists_compose_iff_complete valid otherValid).mpr (complete.withPort key port)

theorem complete_demonstration : Complete Model.standard Configuration.demonstration := by
  constructor
  case mailPassword =>
    intro mail identifier relay
    cases relay
  all_goals decide +kernel

theorem exists_compose_demonstration :
    ∃ set, compose Model.standard Configuration.demonstration Generator.all = .ok set := by
  have modelValid : Model.standard.validate = .ok () := by decide +kernel
  exact (exists_compose_iff_complete Configuration.demonstration_valid modelValid).mpr
    complete_demonstration

/-! ### Composition of the whole platform -/

/-- With valid inputs the platform is composed exactly if all that it asks for is there. The keys
of the outcome are the same for all inputs, but for the certificate, which comes with TLS. If
something is missing, then the error is that of the first component that lacks something, and
tells the first thing that it lacks. -/
theorem compose_all_complete_or_first_missing (valid : config.validate = .ok ())
    (modelValid : model.validate = .ok ()) :
    ((∃ set, compose model config Generator.all = .ok set) ↔ Complete model config) ∧
    (∀ set, compose model config Generator.all = .ok set →
      set.entries.keys.Perm
        (platformKeys ++
          if config.scheme = .https then ["certificate/" ++ config.space ++ "-tls"] else [])) ∧
    (∀ error, compose model config Generator.all = .error error →
      Profile.FirstMissing profiles model config error) ∧
    profiles.map Profile.generator = Generator.all ∧
    ∀ profile ∈ profiles,
      (∃ descriptor, profile.generator.generate model config = .ok descriptor) ↔
        profile.Satisfied model config := by
  have kept := profiles_kept valid modelValid
  refine ⟨?_, fun set => keys_perm kept, ?_, rfl, fun profile member =>
    (kept profile member).exists_ok_iff⟩
  · rw [← satisfied_iff_complete, ← Profile.exists_generated_iff kept profiles_distinct,
      map_generator_profiles, exists_compose_eq_ok]
    simp only [valid, modelValid, true_and]
  · intro error failed
    rcases compose_eq_error.mp failed with invalid | ⟨_, invalid⟩ | ⟨_, _, fault⟩
    · rw [valid] at invalid
      cases invalid
    · rw [modelValid] at invalid
      cases invalid
    · exact Profile.firstMissing_of_firstFault kept profiles_distinct fault

/-- The demonstration lacks nothing, and as it is reached by TLS it has a certificate. -/
theorem compose_all_demonstration :
    ∃ set, compose Model.standard Configuration.demonstration Generator.all = .ok set ∧
      set.entries.keys.Perm (platformKeys ++ ["certificate/demo-tls"]) := by
  have valid : Configuration.demonstration.validate = .ok () := by decide +kernel
  have modelValid : Model.standard.validate = .ok () := by decide +kernel
  have complete : Complete Model.standard Configuration.demonstration := by
    constructor
    case mailPassword =>
      intro mail identifier relay
      cases relay
    all_goals decide +kernel
  obtain ⟨success, keys, _⟩ := compose_all_complete_or_first_missing valid modelValid
  obtain ⟨set, composed⟩ := success.mpr complete
  exact ⟨set, composed, keys set composed⟩

end PlatformManifests
