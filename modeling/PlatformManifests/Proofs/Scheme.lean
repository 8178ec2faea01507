import PlatformManifests.Proofs.Routing

/-!
The scheme of external addresses. When a configuration changes from http to https, routes get the
certificate and the redirects, external addresses in the environment of workloads change their
scheme, and nothing else changes: addresses inside the cluster keep theirs.
-/
namespace PlatformManifests

open Outcome

variable {model : Model} {config : Configuration}

namespace Configuration

def secured (config : Configuration) : Configuration := { config with scheme := .https }

theorem externalUrl_of_http (plain : config.scheme = .http) (subdomain : String) :
    config.externalUrl subdomain = "http://" ++ config.host subdomain := by
  rw [externalUrl, plain]
  exact congrArg (· ++ config.host subdomain) (by decide : "http" ++ "://" = "http://")

theorem externalUrl_secured (subdomain : String) :
    config.secured.externalUrl subdomain = "https://" ++ config.host subdomain :=
  congrArg (· ++ config.host subdomain) (by decide : "https" ++ "://" = "https://")

end Configuration

/-! ### What the scheme changes -/

/-- The variable is the same, or an address that changes its scheme. -/
inductive EnvVar.Secured : EnvVar → EnvVar → Prop
  | same (env : EnvVar) : Secured env env
  | address (name rest : String) :
      Secured (.literal name ("http://" ++ rest)) (.literal name ("https://" ++ rest))

inductive Container.Secured : Container → Container → Prop
  | environment (container : Container) (env : List EnvVar)
      (addresses : List.Forall₂ EnvVar.Secured container.env env) :
      Secured container { container with env := env }

inductive PodTemplate.Secured : PodTemplate → PodTemplate → Prop
  | containers (template : PodTemplate) (containers : List Container)
      (each : List.Forall₂ Container.Secured template.spec.containers containers) :
      Secured template { template with spec := { template.spec with containers := containers } }

/-- The ingress with a certificate for a host, and with plain requests redirected. -/
def Manifest.withTls (manifest : Manifest Ingress) (host secretName : String) :
    Manifest Ingress :=
  { manifest with
    metadata := (manifest.metadata.annotated AnnotationKey.sslRedirect "true").annotated
      AnnotationKey.forceSslRedirect "true"
    body := { manifest.body with tls := manifest.body.tls ++ [⟨[host], secretName⟩] } }

/-- How a resource changes with the scheme. The one TLS block of an ingress is for the host of its
one rule. -/
inductive Resource.Secured (config : Configuration) : Resource → Resource → Prop
  | same (resource : Resource) (noWorkload : resource.isWorkload = false)
      (noRoute : resource.ingress? = none) : Secured config resource resource
  | statefulSet (manifest : Manifest StatefulSet) (template : PodTemplate)
      (change : manifest.body.template.Secured template) :
      Secured config (.statefulSet manifest)
        (.statefulSet { manifest with body := { manifest.body with template := template } })
  | deployment (manifest : Manifest Deployment) (template : PodTemplate)
      (change : manifest.body.template.Secured template) :
      Secured config (.deployment manifest)
        (.deployment { manifest with body := { manifest.body with template := template } })
  | job (manifest : Manifest Job) (template : PodTemplate)
      (change : manifest.body.template.Secured template) :
      Secured config (.job manifest)
        (.job { manifest with body := { manifest.body with template := template } })
  | route (manifest : Manifest Ingress) (rule : IngressRule)
      (single : manifest.body.rules = [rule]) (plain : manifest.body.tls = []) :
      Secured config (.ingress manifest)
        (.ingress (manifest.withTls rule.host config.tlsSecretName))

theorem EnvVar.secured_external (plain : config.scheme = .http) (name subdomain path : String) :
    Secured (.literal name (config.externalUrl subdomain ++ path))
      (.literal name (config.secured.externalUrl subdomain ++ path)) := by
  rw [Configuration.externalUrl_of_http plain, Configuration.externalUrl_secured,
    String.append_assoc, String.append_assoc]
  exact .address name _

theorem EnvVar.secured_site (plain : config.scheme = .http) (name subdomain : String) :
    Secured (.literal name (config.externalUrl subdomain))
      (.literal name (config.secured.externalUrl subdomain)) := by
  rw [Configuration.externalUrl_of_http plain, Configuration.externalUrl_secured]
  exact .address name _

theorem secured_refl (env : List EnvVar) : List.Forall₂ EnvVar.Secured env env :=
  List.forall₂_same.mpr fun held _ => .same held

theorem Resource.Secured.key_eq {resource changed : Resource}
    (change : resource.Secured config changed) : changed.key = resource.key := by
  cases change <;> rfl

/-! ### Environments -/

theorem ObjectStore.environment_secured (plain : config.scheme = .http) :
    Alike (List.Forall₂ EnvVar.Secured) (environment config) (environment config.secured) := by
  refine .same fun user => ?_
  refine .same fun password => ?_
  exact .ok (.cons (.same _) (.cons (.same _) (.cons (EnvVar.secured_site plain _ _)
    (.cons (EnvVar.secured_site plain _ _) .nil))))

theorem IdentityProvider.environment_secured (plain : config.scheme = .http)
    (httpPort managementPort databasePort : UInt16) :
    Alike (List.Forall₂ EnvVar.Secured)
      (environment model config httpPort managementPort databasePort)
      (environment model config.secured httpPort managementPort databasePort) := by
  refine .same fun password => ?_
  refine .same fun adminName => ?_
  refine .same fun adminPassword => ?_
  exact .ok (.cons (EnvVar.secured_site plain _ _) (secured_refl _))

namespace CatalogApi

theorem storageEnvironment_secured (plain : config.scheme = .http) :
    Alike (List.Forall₂ EnvVar.Secured) (storageEnvironment model config)
      (storageEnvironment model config.secured) := by
  refine .same fun port => ?_
  refine .same fun user => ?_
  refine .same fun password => ?_
  exact .ok (.cons (.same _) (.cons (EnvVar.secured_site plain _ _) (secured_refl _)))

theorem identityEnvironment_secured (plain : config.scheme = .http) :
    Alike (List.Forall₂ EnvVar.Secured) (identityEnvironment model config)
      (identityEnvironment model config.secured) := by
  refine .same fun url => ?_
  refine .same fun client => ?_
  refine .same fun secret => ?_
  have issuer := EnvVar.secured_external plain "OIDC_ISSUER" config.subdomains.identity
    ("/realms/" ++ model.identity.realm)
  rw [← String.append_assoc, ← String.append_assoc] at issuer
  exact .ok (.cons (.same _) (.cons (.same _) (.cons issuer (secured_refl _))))

theorem environment_secured (plain : config.scheme = .http) :
    Alike (List.Forall₂ EnvVar.Secured) (environment model config)
      (environment model config.secured) := by
  refine .same fun database => ?_
  refine .same fun cache => ?_
  refine .same fun search => ?_
  refine (storageEnvironment_secured plain).bind fun storage changedStorage storages => ?_
  refine (identityEnvironment_secured plain).bind fun identity changedIdentity identities => ?_
  refine .same fun events => ?_
  have site := EnvVar.secured_site plain "PUBLIC_URL" ""
  have before : List.Forall₂ EnvVar.Secured [.literal "PUBLIC_URL" (config.externalUrl ""),
      .literal "API_ROOT_PATH" pathPrefix] [.literal "PUBLIC_URL" (config.secured.externalUrl ""),
      .literal "API_ROOT_PATH" pathPrefix] := .cons site (.cons (.same _) .nil)
  have data := List.rel_append (List.rel_append (List.rel_append before (secured_refl database))
    (secured_refl cache)) (secured_refl search)
  exact .ok (List.rel_append (List.rel_append (List.rel_append data storages) identities)
    (secured_refl _))

end CatalogApi

namespace InitJob

theorem identityEnvironment_secured (plain : config.scheme = .http) :
    Alike (List.Forall₂ EnvVar.Secured) (identityEnvironment model config)
      (identityEnvironment model config.secured) := by
  refine .same fun url => ?_
  refine .same fun user => ?_
  refine .same fun password => ?_
  refine .same fun apiClient => ?_
  refine .same fun secret => ?_
  refine .same fun webClient => ?_
  have redirect := EnvVar.secured_external plain "WEB_REDIRECT_URI" "" "/*"
  have origin := EnvVar.secured_site plain "WEB_ORIGIN" ""
  exact .ok (List.rel_append (secured_refl [.literal "KEYCLOAK_URL" url, user, password,
    .literal "REALM" model.identity.realm, .literal "API_CLIENT_ID" apiClient, secret,
    .literal "WEB_CLIENT_ID" webClient]) (.cons redirect (.cons origin .nil)))

theorem environment_secured (plain : config.scheme = .http) :
    Alike (List.Forall₂ EnvVar.Secured) (environment model config)
      (environment model config.secured) := by
  refine (identityEnvironment_secured plain).bind fun identity changed identities => ?_
  refine .same fun mail => ?_
  refine .same fun storage => ?_
  simp only [List.append_assoc]
  exact .ok (List.rel_append identities (secured_refl _))

end InitJob

/-! ### Resources of components -/

/-- Each resource of the one descriptor has its counterpart under the same key of the other. -/
def Descriptor.Secured (config : Configuration) (descriptor changed : Descriptor) : Prop :=
  ∀ key resource, descriptor.get? key = some resource →
    ∃ counterpart, changed.get? key = some counterpart ∧ resource.Secured config counterpart

theorem Owner.route_secured (owner : Owner) (plain : config.scheme = .http) {name host : String}
    {annotations : Dict String} {rules : List PathRule} :
    Alike (Resource.Secured config) (owner.route model config name annotations host rules)
      (owner.route model config.secured name annotations host rules) := by
  intro resource changed made changedMade
  obtain ⟨_, rfl⟩ := Owner.route_eq_ok.mp made
  obtain ⟨_, rfl⟩ := Owner.route_eq_ok.mp changedMade
  let manifest : Manifest Ingress := .ofBody
    (owner.label { Metadata.ofName name config.space with annotations := annotations })
    ⟨model.ingressClass, [], [⟨host, ⟨rules.map PathRule.toPath⟩⟩]⟩
  have before : owner.routed model config name annotations host rules = .ingress manifest := by
    unfold Owner.routed Route.metadata Route.tls
    rw [plain]
    rfl
  have after : owner.routed model config.secured name annotations host rules =
      .ingress (manifest.withTls host config.tlsSecretName) := rfl
  rw [before, after]
  exact .route manifest _ rfl rfl

section Pods

variable {owner : Owner} {pod : PodSpec} {containers : List Container}

theorem PodTemplate.Secured.ofPod
    (each : List.Forall₂ Container.Secured pod.containers containers) :
    (owner.podTemplate pod).Secured (owner.podTemplate { pod with containers := containers }) :=
  .containers (owner.podTemplate pod) containers each

theorem Resource.Secured.ofStatefulSet
    (each : List.Forall₂ Container.Secured pod.containers containers) :
    Secured config (owner.statefulSet config pod)
      (owner.statefulSet config { pod with containers := containers }) :=
  .statefulSet _ _ (.ofPod each)

theorem Resource.Secured.ofDeployment {replicas : UInt32}
    (each : List.Forall₂ Container.Secured pod.containers containers) :
    Secured config (owner.deployment config replicas pod)
      (owner.deployment config replicas { pod with containers := containers }) :=
  .deployment _ _ (.ofPod each)

end Pods

/-- What is listed has counterparts that are listed, too; there may be more of those. -/
theorem Descriptor.secured_of_listed {component : String} {resources counterparts : List Resource}
    (each : ∀ resource ∈ resources, ∃ counterpart ∈ counterparts,
      resource.Secured config counterpart) :
    Alike (Descriptor.Secured config) (Descriptor.ofResources component resources)
      (Descriptor.ofResources component counterparts) := by
  intro descriptor changed made changedMade key resource held
  have lists := (Descriptor.ofResources_eq_ok.mp made).2.2
  have changedLists := (Descriptor.ofResources_eq_ok.mp changedMade).2.2
  obtain ⟨member, rfl⟩ := (lists key resource).mp held
  obtain ⟨counterpart, inside, change⟩ := each resource member
  exact ⟨counterpart, (changedLists _ _).mpr ⟨inside, change.key_eq⟩, change⟩

theorem Descriptor.secured_of_forall₂ {component : String} {resources counterparts : List Resource}
    (each : List.Forall₂ (Resource.Secured config) resources counterparts) :
    Alike (Descriptor.Secured config) (Descriptor.ofResources component resources)
      (Descriptor.ofResources component counterparts) :=
  Descriptor.secured_of_listed fun _ => exists_related each

theorem Database.generate_secured :
    Alike (Descriptor.Secured config) (generate model config) (generate model config.secured) := by
  refine .same fun port => ?_
  refine .same fun env => ?_
  refine .same fun check => ?_
  refine .same fun image => ?_
  refine .same fun size => ?_
  refine Descriptor.secured_of_forall₂ (.cons ?_ (.cons ?_ (.cons ?_ (.cons ?_ .nil))))
  · exact .ofStatefulSet (.cons (.environment _ _ (secured_refl _)) .nil)
  · exact .same _ rfl rfl
  · exact .same _ rfl rfl
  · exact .same _ rfl rfl

theorem Cache.generate_secured :
    Alike (Descriptor.Secured config) (generate model config) (generate model config.secured) := by
  refine .same fun port => ?_
  refine .same fun image => ?_
  refine .same fun password => ?_
  refine Descriptor.secured_of_forall₂ (.cons ?_ (.cons ?_ .nil))
  · exact .ofStatefulSet (.cons (.environment _ _ (secured_refl _)) .nil)
  · exact .same _ rfl rfl

theorem SearchIndex.generate_secured (plain : config.scheme = .http) :
    Alike (Descriptor.Secured config) (generate model config) (generate model config.secured) := by
  refine .same fun port => ?_
  refine .same fun env => ?_
  refine .same fun image => ?_
  refine (Owner.route_secured owner plain).bind fun route changedRoute routes => ?_
  refine .same fun size => ?_
  refine Descriptor.secured_of_forall₂ (.cons ?_ (.cons ?_ (.cons ?_ (.cons routes .nil))))
  · exact .ofStatefulSet (.cons (.environment _ _ (secured_refl _)) .nil)
  · exact .same _ rfl rfl
  · exact .same _ rfl rfl

theorem ObjectStore.generate_secured (plain : config.scheme = .http) :
    Alike (Descriptor.Secured config) (generate model config) (generate model config.secured) := by
  refine .same fun apiPort => ?_
  refine .same fun consolePort => ?_
  refine (environment_secured plain).bind fun env changedEnv envs => ?_
  refine .same fun image => ?_
  refine (Owner.route_secured owner plain).bind fun api changedApi apis => ?_
  refine (Owner.route_secured owner plain).bind fun console changedConsole consoles => ?_
  refine .same fun size => ?_
  refine Descriptor.secured_of_forall₂
    (.cons ?_ (.cons ?_ (.cons ?_ (.cons apis (.cons consoles .nil)))))
  · exact .ofStatefulSet (.cons (.environment _ _ envs) .nil)
  · exact .same _ rfl rfl
  · exact .same _ rfl rfl

theorem IdentityProvider.generate_secured (plain : config.scheme = .http) :
    Alike (Descriptor.Secured config) (generate model config) (generate model config.secured) := by
  refine .same fun httpPort => ?_
  refine .same fun managementPort => ?_
  refine .same fun databasePort => ?_
  refine (environment_secured plain _ _ _).bind fun env changedEnv envs => ?_
  refine .same fun image => ?_
  refine .same fun check => ?_
  refine .same fun database => ?_
  refine (Owner.route_secured owner plain).bind fun route changedRoute routes => ?_
  refine .same fun replicas => ?_
  refine Descriptor.secured_of_forall₂ (.cons ?_ (.cons ?_ (.cons routes .nil)))
  · exact .ofDeployment (.cons (.environment _ _ envs) .nil)
  · exact .same _ rfl rfl

theorem CatalogApi.generate_secured (plain : config.scheme = .http) :
    Alike (Descriptor.Secured config) (generate model config) (generate model config.secured) := by
  refine .same fun port => ?_
  refine .same fun waitImage => ?_
  refine .same fun steps => ?_
  refine .same fun image => ?_
  refine (environment_secured plain).bind fun env changedEnv envs => ?_
  refine .same fun replicas => ?_
  refine Descriptor.secured_of_forall₂ (.cons ?_ (.cons ?_ .nil))
  · exact .ofDeployment
      (.cons (.environment _ _ (List.rel_append envs (secured_refl _))) .nil)
  · exact .same _ rfl rfl

/-- The certificate has no counterpart under http. -/
theorem IngressRouter.generate_secured (plain : config.scheme = .http) :
    Alike (Descriptor.Secured config) (generate model config) (generate model config.secured) := by
  have none : certificates config = [] := by
    rw [certificates, plain]
    rfl
  refine .same fun routes => ?_
  refine (Owner.route_secured owner plain).bind fun route changedRoute changes => ?_
  rw [none]
  refine Descriptor.secured_of_listed (List.forall_mem_singleton.mpr ?_)
  exact ⟨changedRoute, List.mem_cons_self, changes⟩

theorem InitJob.generate_secured (plain : config.scheme = .http) :
    Alike (Descriptor.Secured config) (generate model config) (generate model config.secured) := by
  refine .same fun steps => ?_
  refine .same fun image => ?_
  refine (environment_secured plain).bind fun env changedEnv envs => ?_
  refine .same fun role => ?_
  refine Descriptor.secured_of_forall₂ (.cons ?_ (.cons ?_ (.cons ?_ (.cons ?_ .nil))))
  · exact .same _ rfl rfl
  · exact .same _ rfl rfl
  · exact .same _ rfl rfl
  · exact .job _ _ (.ofPod (.cons (.environment _ _ envs) .nil))

/-! ### The platform -/

theorem all_secured (plain : config.scheme = .http) : ∀ generator ∈ Generator.all,
    Alike (Descriptor.Secured config) (generator.generate model config)
      (generator.generate model config.secured) := by
  simp only [Generator.all, List.forall_mem_cons]
  exact ⟨Database.generate_secured, Cache.generate_secured, SearchIndex.generate_secured plain,
    ObjectStore.generate_secured plain, IdentityProvider.generate_secured plain,
    CatalogApi.generate_secured plain, IngressRouter.generate_secured plain,
    InitJob.generate_secured plain, List.forall_mem_nil _⟩

section Composed

variable {set changed : ResourceSet}

theorem exists_counterpart (plain : config.scheme = .http)
    (composed : compose model config Generator.all = .ok set)
    (changedComposed : compose model config.secured Generator.all = .ok changed) {key : String}
    {resource : Resource} (found : set.get? key = some resource) :
    ∃ counterpart, changed.get? key = some counterpart ∧ resource.Secured config counterpart := by
  obtain ⟨_, _, descriptors, generated, union⟩ := compose_eq_ok.mp composed
  obtain ⟨descriptor, member, held⟩ := union.get?_eq_some_iff.mp found
  obtain ⟨generator, listed, made⟩ := generated.exists_generator member
  obtain ⟨changedDescriptor, changedMade, changedHeld⟩ := exists_made changedComposed listed
  obtain ⟨counterpart, there, change⟩ :=
    all_secured plain generator listed descriptor changedDescriptor made changedMade key resource
      held
  exact ⟨counterpart, changedHeld there, change⟩

theorem keys_perm_of_plain (plain : config.scheme = .http)
    (composed : compose model config Generator.all = .ok set)
    (changedComposed : compose model config.secured Generator.all = .ok changed) :
    changed.entries.keys.Perm (set.entries.keys ++ ["certificate/" ++ config.space ++ "-tls"]) := by
  obtain ⟨valid, modelValid, _⟩ := compose_eq_ok.mp composed
  obtain ⟨changedValid, _⟩ := compose_eq_ok.mp changedComposed
  have keys := keys_perm (profiles_kept valid modelValid) composed
  have changedKeys := keys_perm (profiles_kept changedValid modelValid) changedComposed
  have http : config.scheme ≠ .https := by
    rw [plain]
    nofun
  have https : config.secured.scheme = .https := rfl
  rw [if_neg http, List.append_nil] at keys
  rw [if_pos https] at changedKeys
  exact changedKeys.trans (keys.symm.append_right _)

theorem rel_get? (plain : config.scheme = .http)
    (composed : compose model config Generator.all = .ok set)
    (changedComposed : compose model config.secured Generator.all = .ok changed) {key : String}
    (other : key ≠ "certificate/" ++ config.space ++ "-tls") :
    Option.Rel (Resource.Secured config) (set.get? key) (changed.get? key) := by
  cases found : set.get? key with
  | some resource =>
    obtain ⟨counterpart, there, change⟩ := exists_counterpart plain composed changedComposed found
    rw [there]
    exact .some change
  | none =>
    cases there : changed.get? key with
    | none => exact .none
    | some counterpart =>
      have keys := keys_perm_of_plain plain composed changedComposed
      have member := keys.mem_iff.mp (ResourceSet.mem_keys_iff.mpr ⟨counterpart, there⟩)
      rcases List.mem_append.mp member with before | certificate
      · obtain ⟨resource, held⟩ := ResourceSet.mem_keys_iff.mp before
        rw [found] at held
        cases held
      · exact absurd (List.mem_singleton.mp certificate) other

end Composed

/-- Under http and under https the composition fails with the same errors. If it succeeds, then
http has no TLS anywhere; https adds the certificate, a TLS block and the redirects to each route,
and the scheme of external addresses in workloads; and it changes nothing else. -/
theorem compose_all_secured (plain : config.scheme = .http) (valid : config.validate = .ok ())
    (securedValid : config.secured.validate = .ok ()) :
    ((∃ set, compose model config Generator.all = .ok set) ↔
      ∃ changed, compose model config.secured Generator.all = .ok changed) ∧
    (∀ error, compose model config Generator.all = .error error ↔
      compose model config.secured Generator.all = .error error) ∧
    ∀ set changed, compose model config Generator.all = .ok set →
      compose model config.secured Generator.all = .ok changed →
      (∀ key manifest, set.get? key ≠ some (.certificate manifest)) ∧
      (∀ key manifest, set.get? key = some (.ingress manifest) → manifest.body.tls = []) ∧
      changed.entries.keys.Perm
        (set.entries.keys ++ ["certificate/" ++ config.space ++ "-tls"]) ∧
      (∃ manifest, changed.get? ("certificate/" ++ config.space ++ "-tls") =
        some (.certificate manifest) ∧ manifest.body.secretName = config.tlsSecretName) ∧
      ∀ key, key ≠ "certificate/" ++ config.space ++ "-tls" →
        Option.Rel (Resource.Secured config) (set.get? key) (changed.get? key) := by
  have errors : ∀ error, compose model config Generator.all = .error error ↔
      compose model config.secured Generator.all = .error error := fun error =>
    ⟨compose_eq_error_of_same valid securedValid rfl rfl,
      compose_eq_error_of_same securedValid valid rfl rfl⟩
  refine ⟨?_, errors, ?_⟩
  · have success : ∀ {outcome : Outcome ResourceSet},
        (∃ set, outcome = .ok set) ↔ ∀ error, outcome ≠ .error error := by
      intro outcome
      cases outcome <;> simp
    simp only [success, ne_eq, errors]
  · intro set changed composed changedComposed
    refine ⟨?_, ?_, keys_perm_of_plain plain composed changedComposed, ?_, fun key =>
      rel_get? plain composed changedComposed⟩
    · intro key manifest found
      obtain ⟨secure, _⟩ := certificate_eq composed found
      rw [plain] at secure
      cases secure
    · intro key manifest found
      obtain ⟨counterpart, _, change⟩ := exists_counterpart plain composed changedComposed found
      cases change with
      | same _ _ noRoute => cases noRoute
      | route _ _ _ untouched => exact untouched
    · have key : Kind.keyOf .certificate config.tlsSecretName =
          "certificate/" ++ config.space ++ "-tls" := (String.append_assoc ..).symm
      exact ⟨_, key ▸ get?_certificate changedComposed rfl, rfl⟩

theorem compose_demonstration_secured :
    ∃ set changed, compose Model.standard { Configuration.demonstration with scheme := .http }
        Generator.all = .ok set ∧
      compose Model.standard Configuration.demonstration Generator.all = .ok changed ∧
      changed.entries.keys.Perm (set.entries.keys ++ ["certificate/demo-tls"]) := by
  let plain : Configuration := { Configuration.demonstration with scheme := .http }
  have valid : plain.validate = .ok () := by decide +kernel
  have securedValid : plain.secured.validate = .ok () := by decide +kernel
  obtain ⟨success, _, switched⟩ := compose_all_secured rfl valid securedValid
  obtain ⟨changed, changedComposed⟩ := exists_compose_demonstration
  obtain ⟨set, composed⟩ := success.mpr ⟨changed, changedComposed⟩
  obtain ⟨_, _, keys, _⟩ := switched set changed composed changedComposed
  exact ⟨set, changed, composed, changedComposed, keys⟩

end PlatformManifests
