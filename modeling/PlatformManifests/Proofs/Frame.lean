import PlatformManifests.Proofs.Routing

/-!
How far a setting reaches. The administrator and the mail relay reach the job that sets the
platform up, the storage class the claims for storage, and the issuer the certificate. A resource
that a setting does not reach is the same whatever the setting is.
-/
namespace PlatformManifests

open Outcome

/-! ### Lookups side by side -/

section Lookups

variable {α β : Type} {relation : α → β → Prop} {first : Option α} {other : Option β}

theorem rel_of_both (forth : ∀ value, first = some value →
    ∃ counterpart, other = some counterpart ∧ relation value counterpart)
    (back : ∀ counterpart, other = some counterpart → ∃ value, first = some value) :
    Option.Rel relation first other := by
  cases first with
  | some value =>
    obtain ⟨counterpart, rfl, related⟩ := forth value rfl
    exact .some related
  | none =>
    cases other with
    | none => exact .none
    | some counterpart =>
      obtain ⟨value, found⟩ := back counterpart rfl
      cases found

theorem exists_right_of_rel (related : Option.Rel relation first other) {value : α}
    (found : first = some value) :
    ∃ counterpart, other = some counterpart ∧ relation value counterpart := by
  subst found
  cases related with
  | some holds => exact ⟨_, rfl, holds⟩

theorem exists_left_of_rel (related : Option.Rel relation first other) {counterpart : β}
    (found : other = some counterpart) : ∃ value, first = some value := by
  subst found
  cases related with
  | some holds => exact ⟨_, rfl⟩

end Lookups

/-! ### Compositions that agree up to a relation -/

section Relation

variable {change : Resource → Resource → Prop}

/-- Descriptors of one component with the same keys, and with related resources under each key. -/
def Descriptor.Related (change : Resource → Resource → Prop) (first other : Descriptor) : Prop :=
  first.component = other.component ∧
    ∀ key, Option.Rel change (first.get? key) (other.get? key)

def OwnedResource.Related (change : Resource → Resource → Prop) (first other : OwnedResource) :
    Prop :=
  first.component = other.component ∧ change first.resource other.resource

/-- A relation that keeps keys, and that holds between a resource and itself. -/
structure Framing (change : Resource → Resource → Prop) : Prop where
  refl (resource : Resource) : change resource resource
  key_eq {first other : Resource} (related : change first other) : other.key = first.key

namespace Framing

variable (framing : Framing change)
include framing

theorem alike_refl (outcome : Outcome Descriptor) :
    Alike (Descriptor.Related change) outcome outcome := by
  intro descriptor again made madeAgain
  obtain rfl := Except.ok.inj (made.symm.trans madeAgain)
  refine ⟨rfl, fun key => rel_of_both ?_ fun resource held => ⟨resource, held⟩⟩
  exact fun resource held => ⟨resource, held, framing.refl resource⟩

theorem alike_ofResources {component : String} {resources others : List Resource}
    (each : List.Forall₂ change resources others) :
    Alike (Descriptor.Related change) (Descriptor.ofResources component resources)
      (Descriptor.ofResources component others) := by
  intro descriptor changed made otherMade
  obtain ⟨name, _, lists⟩ := Descriptor.ofResources_eq_ok.mp made
  obtain ⟨otherName, _, otherLists⟩ := Descriptor.ofResources_eq_ok.mp otherMade
  refine ⟨name.trans otherName.symm, fun key => rel_of_both ?forth ?back⟩
  case forth =>
    intro resource held
    obtain ⟨inside, rfl⟩ := (lists _ _).mp held
    obtain ⟨other, there, related⟩ := exists_related each inside
    exact ⟨other, (otherLists _ _).mpr ⟨there, framing.key_eq related⟩, related⟩
  case back =>
    intro other held
    obtain ⟨inside, rfl⟩ := (otherLists _ _).mp held
    obtain ⟨resource, there, related⟩ := exists_related each.flip inside
    exact ⟨resource, (lists _ _).mpr ⟨there, (framing.key_eq related).symm⟩⟩

end Framing

variable {model other : Model} {config changed : Configuration} {generators : List Generator}
  {set otherSet : ResourceSet}

/-- If each generator makes related resources, then the sets hold related resources, with the same
owners. -/
theorem rel_entries
    (each : ∀ generator ∈ generators, Alike (Descriptor.Related change)
      (generator.generate model config) (generator.generate other changed))
    (composed : compose model config generators = .ok set)
    (otherComposed : compose other changed generators = .ok otherSet) (key : String) :
    Option.Rel (OwnedResource.Related change) (set.entries.get? key)
      (otherSet.entries.get? key) := by
  obtain ⟨_, _, descriptors, generated, union⟩ := compose_eq_ok.mp composed
  obtain ⟨_, _, others, otherGenerated, otherUnion⟩ := compose_eq_ok.mp otherComposed
  refine rel_of_both ?forth ?back
  case forth =>
    intro owned found
    obtain ⟨descriptor, member, owner, held⟩ := (union key owned).mp found
    obtain ⟨generator, listed, made⟩ := generated.exists_generator member
    obtain ⟨counterpart, otherMember, otherMade⟩ := otherGenerated.exists_descriptor listed
    obtain ⟨same, related⟩ := each generator listed _ _ made otherMade
    obtain ⟨resource, there, changes⟩ := exists_right_of_rel (related key) held
    refine ⟨⟨counterpart.component, resource⟩, ?_, owner.symm.trans same, changes⟩
    exact (otherUnion _ _).mpr ⟨counterpart, otherMember, rfl, there⟩
  case back =>
    intro owned found
    obtain ⟨counterpart, otherMember, _, there⟩ := (otherUnion key owned).mp found
    obtain ⟨generator, listed, otherMade⟩ := otherGenerated.exists_generator otherMember
    obtain ⟨descriptor, member, made⟩ := generated.exists_descriptor listed
    have related := (each generator listed _ _ made otherMade).2
    obtain ⟨resource, held⟩ := exists_left_of_rel (related key) there
    exact ⟨⟨descriptor.component, resource⟩, (union _ _).mpr ⟨descriptor, member, rfl, held⟩⟩

end Relation

/-! ### What each setting changes -/

variable {model : Model} {config : Configuration}

namespace Resource

/-- The resource has the same key, and it is the same unless the key is the given one. -/
def SameUnless (key : String) (first other : Resource) : Prop :=
  other.key = first.key ∧ (first.key ≠ key → first = other)

/-- The resource is the same, or a claim for storage of another class. -/
inductive Reclassed : Resource → Resource → Prop
  | same (resource : Resource) : Reclassed resource resource
  | claim (manifest : Manifest VolumeClaim) (storageClass : Option String) :
      Reclassed (.volumeClaim manifest)
        (.volumeClaim { manifest with body := { manifest.body with
          storageClassName := storageClass } })

/-- The resource is the same, or a certificate from another issuer. -/
inductive Reissued : Resource → Resource → Prop
  | same (resource : Resource) : Reissued resource resource
  | certificate (manifest : Manifest Certificate) (name : String) :
      Reissued (.certificate manifest)
        (.certificate { manifest with body := { manifest.body with
          issuerRef := { manifest.body.issuerRef with name := name } } })

theorem framing_sameUnless (key : String) : Framing (SameUnless key) where
  refl _ := ⟨rfl, fun _ => rfl⟩
  key_eq related := related.1

theorem framing_reclassed : Framing Reclassed where
  refl := .same
  key_eq related := by cases related <;> rfl

theorem framing_reissued : Framing Reissued where
  refl := .same
  key_eq related := by cases related <;> rfl

end Resource

section Settings

variable (admin : Contact) (mail : Option MailRelay) (storageClass : Option String)
  (issuer : String)

theorem InitJob.generate_sameUnless :
    Alike (Descriptor.Related (Resource.SameUnless "job/platform-init")) (generate model config)
      (generate model { config with admin := admin, mail := mail }) := by
  have framing := Resource.framing_sameUnless "job/platform-init"
  have envs : Alike (fun _ _ : List EnvVar => True) (environment model config)
      (environment model { config with admin := admin, mail := mail }) :=
    fun _ _ _ _ => trivial
  refine .same fun steps => ?_
  refine .same fun image => ?_
  refine envs.bind fun env otherEnv _ => ?_
  refine .same fun role => ?_
  refine framing.alike_ofResources (.cons ?_ (.cons ?_ (.cons ?_ (.cons ?_ .nil))))
  · exact framing.refl _
  · exact framing.refl _
  · exact framing.refl _
  · exact ⟨rfl, absurd rfl⟩

theorem all_sameUnless : ∀ generator ∈ Generator.all,
    Alike (Descriptor.Related (Resource.SameUnless "job/platform-init"))
      (generator.generate model config)
      (generator.generate model { config with admin := admin, mail := mail }) := by
  have same := (Resource.framing_sameUnless "job/platform-init").alike_refl
  simp only [Generator.all, List.forall_mem_cons]
  exact ⟨same (Database.generate model config), same (Cache.generate model config),
    same (SearchIndex.generate model config), same (ObjectStore.generate model config),
    same (IdentityProvider.generate model config), same (CatalogApi.generate model config),
    same (IngressRouter.generate model config), InitJob.generate_sameUnless admin mail,
    List.forall_mem_nil _⟩

theorem Database.generate_reclassed :
    Alike (Descriptor.Related Resource.Reclassed) (generate model config)
      (generate model { config with storageClass := storageClass }) := by
  refine .same fun port => ?_
  refine .same fun env => ?_
  refine .same fun check => ?_
  refine .same fun image => ?_
  refine .same fun size => ?_
  refine Resource.framing_reclassed.alike_ofResources
    (.cons (.same _) (.cons (.same _) (.cons ?_ (.cons (.same _) .nil))))
  exact .claim _ storageClass

theorem SearchIndex.generate_reclassed :
    Alike (Descriptor.Related Resource.Reclassed) (generate model config)
      (generate model { config with storageClass := storageClass }) := by
  refine .same fun port => ?_
  refine .same fun env => ?_
  refine .same fun image => ?_
  refine .same fun route => ?_
  refine .same fun size => ?_
  refine Resource.framing_reclassed.alike_ofResources
    (.cons (.same _) (.cons (.same _) (.cons ?_ (.cons (.same _) .nil))))
  exact .claim _ storageClass

theorem ObjectStore.generate_reclassed :
    Alike (Descriptor.Related Resource.Reclassed) (generate model config)
      (generate model { config with storageClass := storageClass }) := by
  refine .same fun apiPort => ?_
  refine .same fun consolePort => ?_
  refine .same fun env => ?_
  refine .same fun image => ?_
  refine .same fun api => ?_
  refine .same fun console => ?_
  refine .same fun size => ?_
  refine Resource.framing_reclassed.alike_ofResources
    (.cons (.same _) (.cons (.same _) (.cons ?_ (.cons (.same _) (.cons (.same _) .nil)))))
  exact .claim _ storageClass

theorem all_reclassed : ∀ generator ∈ Generator.all,
    Alike (Descriptor.Related Resource.Reclassed) (generator.generate model config)
      (generator.generate model { config with storageClass := storageClass }) := by
  have same := Resource.framing_reclassed.alike_refl
  simp only [Generator.all, List.forall_mem_cons]
  exact ⟨Database.generate_reclassed storageClass, same (Cache.generate model config),
    SearchIndex.generate_reclassed storageClass, ObjectStore.generate_reclassed storageClass,
    same (IdentityProvider.generate model config), same (CatalogApi.generate model config),
    same (IngressRouter.generate model config), same (InitJob.generate model config),
    List.forall_mem_nil _⟩

theorem IngressRouter.certificates_reissued :
    List.Forall₂ Resource.Reissued (certificates config)
      (certificates { config with clusterIssuer := issuer }) := by
  unfold certificates
  cases config.scheme with
  | http => exact .nil
  | https => exact .cons (.certificate _ issuer) .nil

theorem IngressRouter.generate_reissued :
    Alike (Descriptor.Related Resource.Reissued) (generate model config)
      (generate model { config with clusterIssuer := issuer }) := by
  refine .same fun rules => ?_
  refine .same fun route => ?_
  exact Resource.framing_reissued.alike_ofResources
    (.cons (.same _) (certificates_reissued issuer))

theorem all_reissued : ∀ generator ∈ Generator.all,
    Alike (Descriptor.Related Resource.Reissued) (generator.generate model config)
      (generator.generate model { config with clusterIssuer := issuer }) := by
  have same := Resource.framing_reissued.alike_refl
  simp only [Generator.all, List.forall_mem_cons]
  exact ⟨same (Database.generate model config), same (Cache.generate model config),
    same (SearchIndex.generate model config), same (ObjectStore.generate model config),
    same (IdentityProvider.generate model config), same (CatalogApi.generate model config),
    IngressRouter.generate_reissued issuer, same (InitJob.generate model config),
    List.forall_mem_nil _⟩

end Settings

/-! ### Composed sets -/

section Composed

variable {other : Configuration} {set otherSet : ResourceSet}

/-- The job for the given steps, image and environment. -/
def InitJob.job (config : Configuration) (steps : List WaitStep) (image : String)
    (env : List EnvVar) : Manifest Job :=
  .ofBody (owner.metadata config name)
    ⟨backoffLimit, owner.podTemplate (pod steps ((Container.ofImage name image).withEnv env))⟩

theorem InitJob.exists_job (composed : compose model config Generator.all = .ok set) :
    ∃ steps image env, waitSteps model = .ok steps ∧
      model.image ImageKey.platformInit = .ok image ∧
      set.entries.get? "job/platform-init" =
        some ⟨component, .job (job config steps image env)⟩ := by
  have listed : generator ∈ Generator.all := by simp [Generator.all]
  obtain ⟨_, _, descriptors, generated, union⟩ := compose_eq_ok.mp composed
  obtain ⟨descriptor, member, made⟩ := generated.exists_descriptor listed
  obtain ⟨steps, image, env, waits, found, _, resources⟩ := generate_ok made
  obtain ⟨owner, _, lists⟩ := Descriptor.ofResources_eq_ok.mp resources
  refine ⟨steps, image, env, waits, found, (union _ _).mpr ⟨descriptor, member, owner, ?_⟩⟩
  exact (lists _ _).mpr ⟨by simp [job], rfl⟩

/-- Where related resources must be the same, the entries are the same. -/
theorem entries_eq_of_rel {change : Resource → Resource → Prop} {key : String}
    (related : Option.Rel (OwnedResource.Related change) (set.entries.get? key)
      (otherSet.entries.get? key))
    (same : ∀ resource counterpart, set.get? key = some resource →
      change resource counterpart → resource = counterpart) :
    set.entries.get? key = otherSet.entries.get? key := by
  cases found : set.entries.get? key with
  | none =>
    rw [found] at related
    cases there : otherSet.entries.get? key with
    | none => rfl
    | some owned =>
      rw [there] at related
      cases related
  | some owned =>
    obtain ⟨counterpart, there, owner, changes⟩ := exists_right_of_rel related found
    have held : set.get? key = some owned.resource := congrArg (Option.map _) found
    have resource := same _ _ held changes
    rw [there]
    cases owned
    cases counterpart
    exact congrArg some (congrArg₂ OwnedResource.mk owner resource)

theorem eq_of_entries (same : ∀ key, set.entries.get? key = otherSet.entries.get? key) :
    set = otherSet := by
  have entries := Dict.ext_get? same
  cases set
  cases otherSet
  exact congrArg ResourceSet.mk entries

theorem entries_eq_except_job {admin : Contact} {mail : Option MailRelay}
    (composed : compose model config Generator.all = .ok set)
    (otherComposed : compose model { config with admin := admin, mail := mail } Generator.all =
      .ok otherSet) {key : String} (elsewhere : key ≠ "job/platform-init") :
    set.entries.get? key = otherSet.entries.get? key := by
  have related := rel_entries (all_sameUnless admin mail) composed otherComposed key
  refine entries_eq_of_rel related fun resource counterpart held changes => changes.2 ?_
  rw [key_eq_of_composed composed held]
  exact elsewhere

/-- The job has one main container, and of that container only the environment may change. -/
theorem job_eq_except_environment {admin : Contact} {mail : Option MailRelay}
    (composed : compose model config Generator.all = .ok set)
    (otherComposed : compose model { config with admin := admin, mail := mail } Generator.all =
      .ok otherSet) :
    ∃ (manifest : Manifest Job) (container : Container) (env : List EnvVar),
      manifest.body.template.spec.containers = [container] ∧
      set.entries.get? "job/platform-init" = some ⟨InitJob.component, .job manifest⟩ ∧
      otherSet.entries.get? "job/platform-init" = some ⟨InitJob.component, .job
        { manifest with body := { manifest.body with template := { manifest.body.template with
          spec := { manifest.body.template.spec with
            containers := [{ container with env := env }] } } } }⟩ := by
  obtain ⟨steps, image, env, waits, images, held⟩ := InitJob.exists_job composed
  obtain ⟨_, _, otherEnv, waitsAgain, imagesAgain, otherHeld⟩ := InitJob.exists_job otherComposed
  obtain rfl := Except.ok.inj (waits.symm.trans waitsAgain)
  obtain rfl := Except.ok.inj (images.symm.trans imagesAgain)
  exact ⟨InitJob.job config steps image env, (Container.ofImage InitJob.name image).withEnv env,
    otherEnv, rfl, held, otherHeld⟩

theorem entries_eq_except_claims {storageClass : Option String}
    (composed : compose model config Generator.all = .ok set)
    (otherComposed : compose model { config with storageClass := storageClass } Generator.all =
      .ok otherSet) :
    (∀ key, (∀ manifest, set.get? key ≠ some (.volumeClaim manifest)) →
      set.entries.get? key = otherSet.entries.get? key) ∧
    ∀ key owner manifest, set.entries.get? key = some ⟨owner, .volumeClaim manifest⟩ →
      ∃ storageClass, otherSet.entries.get? key = some ⟨owner, .volumeClaim
        { manifest with body := { manifest.body with storageClassName := storageClass } }⟩ := by
  have related := rel_entries (all_reclassed storageClass) composed otherComposed
  constructor
  · intro key noClaim
    refine entries_eq_of_rel (related key) fun resource counterpart held changes => ?_
    cases changes with
    | same => rfl
    | claim manifest => exact absurd held (noClaim manifest)
  · intro key owner manifest held
    obtain ⟨⟨_, _⟩, there, rfl, changes⟩ := exists_right_of_rel (related key) held
    cases changes with
    | same => exact ⟨_, there⟩
    | claim _ storageClass => exact ⟨storageClass, there⟩

theorem entries_eq_except_certificate {issuer : String}
    (composed : compose model config Generator.all = .ok set)
    (otherComposed : compose model { config with clusterIssuer := issuer } Generator.all =
      .ok otherSet) :
    (∀ key, (∀ manifest, set.get? key ≠ some (.certificate manifest)) →
      set.entries.get? key = otherSet.entries.get? key) ∧
    ∀ key owner manifest, set.entries.get? key = some ⟨owner, .certificate manifest⟩ →
      ∃ name, otherSet.entries.get? key = some ⟨owner, .certificate
        { manifest with body := { manifest.body with
          issuerRef := { manifest.body.issuerRef with name := name } } }⟩ := by
  have related := rel_entries (all_reissued issuer) composed otherComposed
  constructor
  · intro key noCertificate
    refine entries_eq_of_rel (related key) fun resource counterpart held changes => ?_
    cases changes with
    | same => rfl
    | certificate manifest => exact absurd held (noCertificate manifest)
  · intro key owner manifest held
    obtain ⟨⟨_, _⟩, there, rfl, changes⟩ := exists_right_of_rel (related key) held
    cases changes with
    | same => exact ⟨_, there⟩
    | certificate _ name => exact ⟨name, there⟩

/-- Two compositions for one model. If only the administrator and the mail relay differ, then only
the environment of the main container of the set-up job does. If only the storage class differs,
then only that of the claims does. If only the issuer differs, then only that of the certificate
does, which under http there is none of. -/
theorem compose_all_framed (composed : compose model config Generator.all = .ok set)
    (otherComposed : compose model other Generator.all = .ok otherSet) :
    (other = { config with admin := other.admin, mail := other.mail } →
      (∀ key, key ≠ "job/platform-init" →
        set.entries.get? key = otherSet.entries.get? key) ∧
      ∃ (manifest : Manifest Job) (container : Container) (env : List EnvVar),
        manifest.body.template.spec.containers = [container] ∧
        set.entries.get? "job/platform-init" = some ⟨InitJob.component, .job manifest⟩ ∧
        otherSet.entries.get? "job/platform-init" = some ⟨InitJob.component, .job
          { manifest with body := { manifest.body with template := { manifest.body.template with
            spec := { manifest.body.template.spec with
              containers := [{ container with env := env }] } } } }⟩) ∧
    (other = { config with storageClass := other.storageClass } →
      (∀ key, (∀ manifest, set.get? key ≠ some (.volumeClaim manifest)) →
        set.entries.get? key = otherSet.entries.get? key) ∧
      ∀ key owner manifest, set.entries.get? key = some ⟨owner, .volumeClaim manifest⟩ →
        ∃ storageClass, otherSet.entries.get? key = some ⟨owner, .volumeClaim
          { manifest with body := { manifest.body with storageClassName := storageClass } }⟩) ∧
    (other = { config with clusterIssuer := other.clusterIssuer } →
      (∀ key, (∀ manifest, set.get? key ≠ some (.certificate manifest)) →
        set.entries.get? key = otherSet.entries.get? key) ∧
      (∀ key owner manifest, set.entries.get? key = some ⟨owner, .certificate manifest⟩ →
        ∃ name, otherSet.entries.get? key = some ⟨owner, .certificate
          { manifest with body := { manifest.body with
            issuerRef := { manifest.body.issuerRef with name := name } } }⟩) ∧
      (config.scheme = .http → set = otherSet)) := by
  refine ⟨fun differ => ?_, fun differ => ?_, fun differ => ?_⟩
  · rw [differ] at otherComposed
    exact ⟨fun _ => entries_eq_except_job composed otherComposed,
      job_eq_except_environment composed otherComposed⟩
  · rw [differ] at otherComposed
    exact entries_eq_except_claims composed otherComposed
  · rw [differ] at otherComposed
    obtain ⟨elsewhere, reissued⟩ := entries_eq_except_certificate composed otherComposed
    refine ⟨elsewhere, reissued, fun plain => eq_of_entries fun key => elsewhere key ?_⟩
    intro manifest found
    have secure := (certificate_eq composed found).1
    rw [plain] at secure
    cases secure

/-- The demonstration, and the demonstration with a mail relay. -/
theorem compose_demonstration_framed :
    ∃ set otherSet, compose Model.standard Configuration.demonstration Generator.all = .ok set ∧
      compose Model.standard { Configuration.demonstration with
        mail := some ⟨"mail.example.org", 25, "platform@demo.example.org", none, none, false⟩ }
        Generator.all = .ok otherSet ∧
      ∀ key, key ≠ "job/platform-init" →
        set.entries.get? key = otherSet.entries.get? key := by
  let other : Configuration := { Configuration.demonstration with
    mail := some ⟨"mail.example.org", 25, "platform@demo.example.org", none, none, false⟩ }
  have otherValid : other.validate = .ok () := by decide +kernel
  have modelValid : Model.standard.validate = .ok () := by decide +kernel
  have complete : Complete Model.standard other := by
    constructor
    case mailPassword =>
      rintro _ _ ⟨⟩ ⟨⟩
    all_goals decide +kernel
  obtain ⟨set, composed⟩ := exists_compose_demonstration
  obtain ⟨otherSet, otherComposed⟩ :=
    (exists_compose_iff_complete otherValid modelValid).mpr complete
  obtain ⟨elsewhere, _⟩ := (compose_all_framed composed otherComposed).1 rfl
  exact ⟨set, otherSet, composed, otherComposed, elsewhere⟩

end Composed

end PlatformManifests
