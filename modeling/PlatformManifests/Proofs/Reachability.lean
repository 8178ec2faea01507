import PlatformManifests.Proofs.Routing

/-!
Which paths of a route are ever taken. A request goes to the first path whose elements it begins
with, so a path is lost if an earlier one is a prefix of it. On the platform this happens exactly if
the public bucket is named like the path of the API, which the model does not rule out.
-/
namespace PlatformManifests

variable {model : Model} {config : Configuration}

/-! ### Elements of paths -/

/-- A slash at the end adds no element. -/
def withoutLastSlash (elements : List (List Char)) : List (List Char) :=
  if elements.getLast? = some [] then elements.dropLast else elements

/-- What stands between the slashes of a path. -/
def pathElements (path : String) : List (List Char) :=
  withoutLastSlash (Text.pieces '/' path.toList)

theorem withoutLastSlash_cons (first : List Char) {rest : List (List Char)} (nonempty : rest ≠ []) :
    withoutLastSlash (first :: rest) = first :: withoutLastSlash rest := by
  obtain ⟨second, later, rfl⟩ := List.exists_cons_of_ne_nil nonempty
  rw [withoutLastSlash, withoutLastSlash, List.getLast?_cons_cons]
  split
  · rw [List.dropLast_cons_of_ne_nil nonempty]
  · rfl

theorem head?_withoutLastSlash {first : List Char} (named : first ≠ [])
    (elements : List (List Char)) :
    (withoutLastSlash elements).head? = some first ↔ elements.head? = some first := by
  cases elements with
  | nil => rfl
  | cons head rest =>
    cases rest with
    | nil =>
      by_cases empty : head = []
      · simp [withoutLastSlash, empty, named.symm]
      · simp [withoutLastSlash, empty]
    | cons second later =>
      rw [withoutLastSlash_cons head (List.cons_ne_nil second later)]
      rfl

theorem withoutLastSlash_eq_nil {elements : List (List Char)} (nonempty : elements ≠ []) :
    withoutLastSlash elements = [] ↔ elements = [[]] := by
  obtain ⟨head, rest, rfl⟩ := List.exists_cons_of_ne_nil nonempty
  cases rest with
  | nil => by_cases empty : head = [] <;> simp [withoutLastSlash, empty]
  | cons second later =>
    rw [withoutLastSlash_cons head (List.cons_ne_nil second later)]
    simp

/-! ### Requests -/

namespace IngressPath

/-- The path is for all requests that begin with its elements, and the request is one of them. -/
def Captures (rule : IngressPath) (request : String) : Prop :=
  rule.pathType = PathMatch.pathPrefix.name ∧ pathElements rule.path <+: pathElements request

instance (rule : IngressPath) (request : String) : Decidable (rule.Captures request) :=
  inferInstanceAs (Decidable (_ ∧ _))

theorem captures_iff {rule : IngressPath} (kind : rule.pathType = PathMatch.pathPrefix.name)
    {request : String} :
    rule.Captures request ↔ pathElements rule.path <+: pathElements request :=
  and_iff_right kind

theorem captures_self {rule : IngressPath} (kind : rule.pathType = PathMatch.pathPrefix.name) :
    rule.Captures rule.path :=
  ⟨kind, List.prefix_rfl⟩

theorem Captures.trans {earlier later : IngressPath} {request : String}
    (first : earlier.Captures later.path) (second : later.Captures request) :
    earlier.Captures request :=
  ⟨first.1, first.2.trans second.2⟩

/-- Two paths have a request in common exactly if one of them is for all requests of the other. -/
theorem exists_captured_iff {first second : IngressPath}
    (firstKind : first.pathType = PathMatch.pathPrefix.name)
    (secondKind : second.pathType = PathMatch.pathPrefix.name) :
    (∃ request, first.Captures request ∧ second.Captures request) ↔
      first.Captures second.path ∨ second.Captures first.path := by
  constructor
  · rintro ⟨request, ⟨_, inFirst⟩, ⟨_, inSecond⟩⟩
    rcases List.prefix_or_prefix_of_prefix inFirst inSecond with wider | narrower
    · exact .inl ⟨firstKind, wider⟩
    · exact .inr ⟨secondKind, narrower⟩
  · rintro (wider | narrower)
    · exact ⟨second.path, wider, captures_self secondKind⟩
    · exact ⟨first.path, captures_self firstKind, narrower⟩

end IngressPath

/-- The place of the path that a request goes to. -/
def firstMatch (paths : List IngressPath) (request : String) : Option Nat :=
  paths.findIdx? fun rule => rule.Captures request

def Reached (paths : List IngressPath) : Prop :=
  ∀ index < paths.length, ∃ request, firstMatch paths request = some index

/-- No path is taken over whole by an earlier one. -/
def Unshadowed (paths : List IngressPath) : Prop :=
  paths.Pairwise fun earlier later => ¬ earlier.Captures later.path

theorem unshadowed_iff_reached {paths : List IngressPath}
    (kinds : ∀ rule ∈ paths, rule.pathType = PathMatch.pathPrefix.name) :
    Unshadowed paths ↔ Reached paths := by
  simp only [Unshadowed, Reached, firstMatch, List.findIdx?_eq_some_iff_getElem,
    decide_eq_true_eq]
  rw [List.pairwise_iff_getElem]
  constructor
  · intro apart index inside
    -- The request for the path itself reaches it.
    have own := IngressPath.captures_self (kinds paths[index] (List.getElem_mem inside))
    exact ⟨paths[index].path, inside, own, fun earlier before =>
      apart earlier index (by omega) inside before⟩
  · intro reached earlier later earlierInside laterInside before shadowed
    obtain ⟨request, _, captured, missed⟩ := reached later laterInside
    exact missed earlier before (shadowed.trans captured)

/-- The later path has requests of its own. -/
def Spares (earlier later : String) : Prop := ¬ pathElements earlier <+: pathElements later

theorem unshadowed_iff_patterns {paths : List IngressPath}
    (kinds : ∀ rule ∈ paths, rule.pathType = PathMatch.pathPrefix.name) :
    Unshadowed paths ↔ (paths.map IngressPath.path).Pairwise Spares := by
  rw [Unshadowed, List.pairwise_map]
  apply List.Pairwise.iff_of_mem
  intro earlier later member _
  rw [Spares, IngressPath.captures_iff (kinds earlier member)]

/-! ### The route of the domain -/

namespace IngressRouter

/-- The path of the bucket is that of the API, or one below it. -/
def ClaimsApi (bucket : String) : Prop := bucket = "api" ∨ ∃ rest, bucket = "api/" ++ rest

theorem claimsApi_iff {bucket : String} :
    ClaimsApi bucket ↔ (Text.pieces '/' bucket.toList).head? = some "api".toList := by
  have plain : '/' ∉ "api".toList := by decide
  rw [Text.head?_pieces_eq_some_iff plain, ClaimsApi, ← String.toList_inj]
  apply or_congr_right
  constructor
  · rintro ⟨rest, rfl⟩
    exact ⟨rest.toList, String.toList_append⟩
  · rintro ⟨rest, text⟩
    refine ⟨String.ofList rest, String.toList_inj.mp ?_⟩
    rw [text, String.toList_append, @String.toList_ofList rest]
    rfl

theorem pathElements_api : pathElements CatalogApi.pathPrefix = [[], "api".toList] := by
  decide +kernel

theorem pathElements_bucketPath (model : Model) :
    pathElements (bucketPath model) =
      [] :: withoutLastSlash (Text.pieces '/' model.storage.publicBucket.toList) := by
  have text : (bucketPath model).toList = '/' :: model.storage.publicBucket.toList := by
    rw [bucketPath, String.toList_append]
    rfl
  rw [pathElements, text, Text.pieces, if_pos rfl,
    withoutLastSlash_cons [] (Text.pieces_ne_nil '/' _)]

theorem api_prefix_iff :
    pathElements CatalogApi.pathPrefix <+: pathElements (bucketPath model) ↔
      ClaimsApi model.storage.publicBucket := by
  have named : "api".toList ≠ [] := by decide
  rw [pathElements_api, pathElements_bucketPath, claimsApi_iff, List.cons_prefix_cons,
    ← head?_withoutLastSlash named]
  cases withoutLastSlash (Text.pieces '/' model.storage.publicBucket.toList) with
  | nil => simp
  | cons head rest => simp [List.cons_prefix_cons, eq_comm]

theorem bucket_prefix_iff :
    pathElements (bucketPath model) <+: pathElements CatalogApi.pathPrefix ↔
      model.storage.publicBucket = "" ∨
        withoutLastSlash (Text.pieces '/' model.storage.publicBucket.toList) = ["api".toList] := by
  have nameless : withoutLastSlash (Text.pieces '/' model.storage.publicBucket.toList) = [] ↔
      model.storage.publicBucket = "" := by
    rw [withoutLastSlash_eq_nil (Text.pieces_ne_nil '/' _), Text.pieces_eq_singleton_nil,
      String.toList_eq_nil_iff]
  rw [pathElements_api, pathElements_bucketPath, List.cons_prefix_cons, List.prefix_cons_iff,
    nameless]
  simp

/-- One of the two paths is the other, or goes on from it. -/
theorem comparable_iff :
    (pathElements CatalogApi.pathPrefix <+: pathElements (bucketPath model) ∨
      pathElements (bucketPath model) <+: pathElements CatalogApi.pathPrefix) ↔
    model.storage.publicBucket = "" ∨ ClaimsApi model.storage.publicBucket := by
  have named : "api".toList ≠ [] := by decide
  have equal (same : withoutLastSlash (Text.pieces '/' model.storage.publicBucket.toList) =
      ["api".toList]) : ClaimsApi model.storage.publicBucket := by
    rw [claimsApi_iff, ← head?_withoutLastSlash named, same]
    rfl
  rw [api_prefix_iff, bucket_prefix_iff]
  constructor
  · rintro (claims | nameless | same)
    · exact .inr claims
    · exact .inl nameless
    · exact .inr (equal same)
  · rintro (nameless | claims)
    · exact .inr (.inl nameless)
    · exact .inl claims

end IngressRouter

/-! ### Routes of the platform -/

/-- The paths for a host, in their order. -/
def Ingress.pathsOf (ingress : Ingress) (host : String) : List IngressPath :=
  (ingress.rules.filter fun rule => rule.host = host).flatMap fun rule => rule.http.paths

/-- It holds of the paths for every host in every ingress. -/
def ResourceSet.EachRoute (set : ResourceSet) (holds : List IngressPath → Prop) : Prop :=
  ∀ key manifest, set.get? key = some (.ingress manifest) →
    ∀ host, holds (manifest.body.pathsOf host)

namespace Gateway

/-- No target takes all requests of a later one. -/
def Distinguishes (gateway : Gateway) : Prop :=
  (gateway.targets.map Target.pattern).Pairwise Spares

theorem Opens.exists_pathsOf {gateway : Gateway} {manifest : Manifest Ingress}
    (opens : gateway.Opens model config manifest) :
    ∃ paths, List.Forall₂ (Target.Leads model) gateway.targets paths ∧
      ∀ host, manifest.body.pathsOf host =
        if host = config.host gateway.subdomain then paths else [] := by
  obtain ⟨paths, rules, leads⟩ := opens.rules
  refine ⟨paths, leads, fun host => ?_⟩
  rw [Ingress.pathsOf, rules]
  by_cases own : config.host gateway.subdomain = host
  · simp [own]
  · simp [own, Ne.symm own]

end Gateway

section Paths

variable {targets : List Target} {paths : List IngressPath}

theorem kinds_of_leads (leads : List.Forall₂ (Target.Leads model) targets paths) :
    ∀ rule ∈ paths, rule.pathType = PathMatch.pathPrefix.name := by
  intro rule member
  obtain ⟨target, _, port, _, rfl⟩ := exists_related leads.flip member
  rfl

theorem patterns_of_leads (leads : List.Forall₂ (Target.Leads model) targets paths) :
    paths.map IngressPath.path = targets.map Target.pattern := by
  induction leads with
  | nil => rfl
  | cons lead _ ih =>
    obtain ⟨port, _, rfl⟩ := lead
    rw [List.map_cons, List.map_cons, ih]
    rfl

theorem unshadowed_of_leads_iff (leads : List.Forall₂ (Target.Leads model) targets paths) :
    Unshadowed paths ↔ (targets.map Target.pattern).Pairwise Spares := by
  rw [unshadowed_iff_patterns (kinds_of_leads leads), patterns_of_leads leads]

end Paths

theorem IngressRouter.distinguishes_iff :
    (IngressRouter.gateway model).Distinguishes ↔ ¬ ClaimsApi model.storage.publicBucket := by
  rw [Gateway.Distinguishes, gateway, List.map_cons, List.map_cons, List.map_nil,
    List.pairwise_pair, Spares, api_prefix_iff]

/-- Only the route of the domain has more than one path. -/
theorem distinguishes_of_mem_gateways {entry : String × Gateway}
    (listed : entry ∈ gateways model config) :
    entry = (IngressRouter.route, IngressRouter.gateway model) ∨ entry.2.Distinguishes := by
  have single {key subdomain : String} {target : Target}
      (same : entry = (key, ⟨subdomain, [target]⟩)) : entry.2.Distinguishes := by
    rw [same]
    exact List.pairwise_singleton _ _
  simp only [gateways, gatewayRosters, ObjectStore.gateways, List.flatMap_cons, List.flatMap_nil,
    List.nil_append, List.cons_append, List.append_nil, List.mem_cons, List.not_mem_nil,
    or_false] at listed
  rcases listed with search | api | console | identity | router
  · exact .inr (single search)
  · exact .inr (single api)
  · exact .inr (single console)
  · exact .inr (single identity)
  · exact .inl router

theorem router_mem_gateways :
    (IngressRouter.route, IngressRouter.gateway model) ∈ gateways model config := by
  simp [gateways, gatewayRosters]

section Composed

variable {set : ResourceSet}

theorem kinds_of_composed (composed : compose model config Generator.all = .ok set) {key : String}
    {manifest : Manifest Ingress} (found : set.get? key = some (.ingress manifest))
    (host : String) :
    ∀ rule ∈ manifest.body.pathsOf host, rule.pathType = PathMatch.pathPrefix.name := by
  obtain ⟨gateway, _, opens⟩ := exists_gateway composed found
  obtain ⟨paths, leads, served⟩ := opens.exists_pathsOf
  rw [served host]
  split
  · exact kinds_of_leads leads
  · exact List.forall_mem_nil _

theorem unshadowed_of_distinguishes {gateway : Gateway} {manifest : Manifest Ingress}
    (opens : gateway.Opens model config manifest) (distinguishes : gateway.Distinguishes)
    (host : String) : Unshadowed (manifest.body.pathsOf host) := by
  obtain ⟨paths, leads, served⟩ := opens.exists_pathsOf
  rw [served host]
  split
  · exact (unshadowed_of_leads_iff leads).mpr distinguishes
  · exact List.Pairwise.nil

theorem eachRoute_unshadowed_iff (composed : compose model config Generator.all = .ok set) :
    set.EachRoute Unshadowed ↔ ¬ IngressRouter.ClaimsApi model.storage.publicBucket := by
  rw [← IngressRouter.distinguishes_iff]
  constructor
  · intro all
    obtain ⟨manifest, found, opens⟩ := exists_ingress composed router_mem_gateways
    obtain ⟨paths, leads, served⟩ := opens.exists_pathsOf
    have own := all _ _ found (config.host (IngressRouter.gateway model).subdomain)
    rw [served, if_pos rfl] at own
    exact (unshadowed_of_leads_iff leads).mp own
  · intro distinguishes key manifest found
    obtain ⟨gateway, listed, opens⟩ := exists_gateway composed found
    apply unshadowed_of_distinguishes opens
    rcases distinguishes_of_mem_gateways listed with router | apart
    · rw [(Prod.mk.inj router).2]
      exact distinguishes
    · exact apart

theorem eachRoute_reached_iff (composed : compose model config Generator.all = .ok set) :
    set.EachRoute Reached ↔ set.EachRoute Unshadowed :=
  forall₃_congr fun _ _ found => forall_congr' fun host =>
    (unshadowed_iff_reached (kinds_of_composed composed found host)).symm

/-- The route of the domain has the paths of the API and of the bucket, in this order. -/
theorem exists_paths_of_domain (composed : compose model config Generator.all = .ok set) :
    ∃ manifest api storage, set.get? IngressRouter.route = some (.ingress manifest) ∧
      manifest.body.pathsOf config.domain = [api, storage] ∧
      api.path = CatalogApi.pathPrefix ∧ storage.path = IngressRouter.bucketPath model := by
  obtain ⟨manifest, found, opens⟩ := exists_ingress composed router_mem_gateways
  obtain ⟨paths, leads, served⟩ := opens.exists_pathsOf
  have own : manifest.body.pathsOf config.domain = paths := (served _).trans (if_pos rfl)
  rcases leads with _ | ⟨⟨apiPort, _, rfl⟩, _ | ⟨⟨storagePort, _, rfl⟩, _ | _⟩⟩
  exact ⟨manifest, _, _, found, own, rfl, rfl⟩

/-- All paths of all routes are reached exactly if the public bucket is not named like the path of
the API. No request is both for the API and for the bucket exactly if the bucket has a name besides.
-/
theorem compose_all_unshadowed_iff (composed : compose model config Generator.all = .ok set) :
    (set.EachRoute Unshadowed ↔ ¬ IngressRouter.ClaimsApi model.storage.publicBucket) ∧
    (set.EachRoute Reached ↔ ¬ IngressRouter.ClaimsApi model.storage.publicBucket) ∧
    (∀ key manifest, set.get? key = some (.ingress manifest) → key ≠ IngressRouter.route →
      ∀ host, Unshadowed (manifest.body.pathsOf host)) ∧
    ∃ manifest api storage, set.get? IngressRouter.route = some (.ingress manifest) ∧
      manifest.body.pathsOf config.domain = [api, storage] ∧
      api.path = CatalogApi.pathPrefix ∧ storage.path = IngressRouter.bucketPath model ∧
      ((∃ request, api.Captures request ∧ storage.Captures request) ↔
        model.storage.publicBucket = "" ∨
          IngressRouter.ClaimsApi model.storage.publicBucket) := by
  refine ⟨eachRoute_unshadowed_iff composed, ?_, ?_, ?_⟩
  · rw [eachRoute_reached_iff composed, eachRoute_unshadowed_iff composed]
  · intro key manifest found other
    obtain ⟨gateway, listed, opens⟩ := exists_gateway composed found
    apply unshadowed_of_distinguishes opens
    exact (distinguishes_of_mem_gateways listed).resolve_left fun router =>
      other (congrArg Prod.fst router)
  · obtain ⟨manifest, api, storage, found, served, apiPath, storagePath⟩ :=
      exists_paths_of_domain composed
    have kinds := kinds_of_composed composed found config.domain
    rw [served, List.forall_mem_cons, List.forall_mem_singleton] at kinds
    obtain ⟨apiKind, storageKind⟩ := kinds
    refine ⟨manifest, api, storage, found, served, apiPath, storagePath, ?_⟩
    rw [IngressPath.exists_captured_iff apiKind storageKind, IngressPath.captures_iff apiKind,
      IngressPath.captures_iff storageKind, apiPath, storagePath, IngressRouter.comparable_iff]

end Composed

theorem compose_demonstration_unshadowed :
    ∃ set, compose Model.standard Configuration.demonstration Generator.all = .ok set ∧
      set.EachRoute Unshadowed ∧ set.EachRoute Reached := by
  have free : ¬ IngressRouter.ClaimsApi Model.standard.storage.publicBucket := by
    rw [IngressRouter.claimsApi_iff]
    decide +kernel
  obtain ⟨set, composed⟩ := exists_compose_demonstration
  obtain ⟨unshadowed, reached, _⟩ := compose_all_unshadowed_iff composed
  exact ⟨set, composed, unshadowed.mpr free, reached.mpr free⟩

/-! ### A bucket named like the path of the API -/

def Model.withPublicBucket (model : Model) (bucket : String) : Model :=
  { model with storage := ⟨bucket :: model.storage.buckets, bucket⟩ }

theorem Model.validate_withPublicBucket (valid : model.validate = .ok ()) (bucket : String) :
    (model.withPublicBucket bucket).validate = .ok () :=
  validate_eq_ok.mpr ⟨List.mem_cons_self, (validate_eq_ok.mp valid).2⟩

/-- A platform can be composed with whatever name for its public bucket. -/
theorem exists_compose_withPublicBucket {set : ResourceSet}
    (composed : compose model config Generator.all = .ok set) (bucket : String) :
    ∃ other, compose (model.withPublicBucket bucket) config Generator.all = .ok other := by
  obtain ⟨valid, modelValid, _⟩ := compose_eq_ok.mp composed
  have complete := (exists_compose_iff_complete valid modelValid).mp ⟨set, composed⟩
  have otherValid := Model.validate_withPublicBucket modelValid bucket
  exact (exists_compose_iff_complete valid otherValid).mpr { complete with }

/-- Then no request gets to the bucket. -/
theorem compose_bucket_shadowed :
    ∃ set, compose (Model.standard.withPublicBucket "api") Configuration.demonstration
        Generator.all = .ok set ∧
      ¬ set.EachRoute Unshadowed ∧ ¬ set.EachRoute Reached ∧
      ∃ manifest api storage, set.get? "ingress/platform" = some (.ingress manifest) ∧
        manifest.body.pathsOf "demo.example.org" = [api, storage] ∧
        api.path = "/api" ∧ storage.path = "/api" := by
  obtain ⟨plain, started⟩ := exists_compose_demonstration
  obtain ⟨set, composed⟩ := exists_compose_withPublicBucket started "api"
  have claims : IngressRouter.ClaimsApi "api" := .inl rfl
  have shadowed : ¬ set.EachRoute Unshadowed := fun all =>
    (eachRoute_unshadowed_iff composed).mp all claims
  obtain ⟨manifest, api, storage, found, served, apiPath, storagePath⟩ :=
    exists_paths_of_domain composed
  have storageApi : storage.path = "/api" := by
    rw [storagePath]
    decide +kernel
  have key : IngressRouter.route = "ingress/platform" := by decide +kernel
  refine ⟨set, composed, shadowed, ?_, manifest, api, storage, key ▸ found, served, apiPath,
    storageApi⟩
  rw [eachRoute_reached_iff composed]
  exact shadowed

end PlatformManifests
