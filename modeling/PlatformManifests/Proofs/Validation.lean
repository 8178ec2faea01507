import PlatformManifests.Configuration.Validation
import PlatformManifests.Proofs.Dictionary
import PlatformManifests.Proofs.Lookup
import PlatformManifests.Proofs.Outcome
import PlatformManifests.Secret

/-!
What validation establishes. An accepted configuration has no violation at all, so each of its
fields keeps its rule; an accepted model has a public bucket among its buckets and no port zero.
-/
namespace PlatformManifests

@[simp] theorem accept_eq_ok {violations : List Error} :
    accept violations = .ok () ↔ violations = [] := by
  cases violations <;> simp [accept]

@[simp] theorem demand_eq_nil {holds : Bool} {field message : String} :
    demand holds field message = [] ↔ holds = true := by
  cases holds <;> simp [demand]

namespace Subdomains

/-- No field is at fault exactly if every value is a label, and none comes twice or came before. -/
theorem violationsAfter_eq_nil {earlier rest : List (String × String)} :
    violationsAfter earlier rest = [] ↔
      (∀ entry ∈ rest, Naming.isDnsLabel entry.2 = true) ∧ (rest.map Prod.snd).Nodup ∧
        ∀ entry ∈ rest, ∀ former ∈ earlier, former.2 ≠ entry.2 := by
  induction rest generalizing earlier with
  | nil => simp [violationsAfter]
  | cons first rest ih =>
    obtain ⟨field, value⟩ := first
    have divided : violationsAfter earlier ((field, value) :: rest) = [] ↔
        Naming.isDnsLabel value = true ∧ (∀ former ∈ earlier, former.2 ≠ value) ∧
          violationsAfter (earlier ++ [(field, value)]) rest = [] := by
      simp only [violationsAfter, List.append_eq_nil_iff, demand_eq_nil, and_assoc]
      refine and_congr_right fun _ => and_congr_left fun _ => ?_
      split <;> rename_i found
      · have member := List.mem_of_find?_eq_some found
        have same := List.find?_some found
        simp only [List.cons_ne_nil, false_iff, not_forall]
        exact ⟨_, member, fun differ => differ (of_decide_eq_true same)⟩
      · simpa using found
    simp only [divided, ih, List.forall_mem_cons, List.map_cons, List.nodup_cons, List.mem_map,
      List.forall_mem_append]
    constructor
    · rintro ⟨label, fresh, labels, distinct, apart⟩
      refine ⟨⟨label, labels⟩, ⟨?_, distinct⟩, fresh, fun entry member => (apart entry member).1⟩
      rintro ⟨entry, member, same⟩
      exact (apart entry member).2.1 same.symm
    · rintro ⟨⟨label, labels⟩, ⟨alone, distinct⟩, fresh, apart⟩
      refine ⟨label, fresh, labels, distinct, fun entry member => ⟨apart entry member, ?_⟩⟩
      exact ⟨fun same => alone ⟨entry, member, same.symm⟩, List.forall_mem_nil _⟩

end Subdomains

namespace Configuration

theorem validate_eq_ok {config : Configuration} :
    config.validate = .ok () ↔
      Naming.isDnsLabel config.space = true ∧ Naming.isDnsName config.domain = true ∧
      config.subdomains.violations = [] ∧
      (∀ entry ∈ config.secrets.entries, secretViolations entry = []) ∧
      mailAddressViolations "admin.email" config.admin.email = [] ∧
      (config.mail.map MailRelay.violations).getD [] = [] ∧
      (config.storageClass.map storageClassViolations).getD [] = [] ∧
      config.issuerViolations = [] := by
  simp only [validate, accept_eq_ok, violations, List.append_eq_nil_iff, demand_eq_nil,
    List.flatMap_eq_nil_iff, and_assoc]

theorem domain_ne_empty {config : Configuration} (valid : config.validate = .ok ()) :
    config.domain.toList ≠ [] := by
  have name := (validate_eq_ok.mp valid).2.1
  simp only [Naming.isDnsName, Bool.and_eq_true] at name
  simpa using name.1.1

/-- A valid configuration gives every subdomain a host. -/
theorem host_ne_empty {config : Configuration} (valid : config.validate = .ok ())
    (subdomain : String) : (config.host subdomain).isEmpty = false := by
  have domain := domain_ne_empty valid
  rw [Bool.eq_false_iff]
  intro empty
  have none : (config.host subdomain).toList = [] := by
    simpa [String.isEmpty_iff] using empty
  unfold host at none
  split at none
  · exact domain none
  · simp [String.toList_append] at none

/-- A deployment with an external address of its own and all secrets that the platform asks for. -/
def demonstration : Configuration where
  space := "demo"
  scheme := .https
  domain := "demo.example.org"
  subdomains := .standard
  secrets := .ofList [
    (SecretId.postgresSuperuser, "postgres-root"),
    (SecretId.postgresIdentity, "postgres-keycloak"),
    (SecretId.postgresApplication, "postgres-catalog"),
    (SecretId.redis, "redis-auth"),
    (SecretId.elastic, "elastic-auth"),
    (SecretId.minioRoot, "minio-auth"),
    (SecretId.keycloakAdmin, "keycloak-auth"),
    (SecretId.catalogApiClient, "catalog-client")]
  admin := ⟨"admin@demo.example.org", none⟩
  mail := none
  storageClass := none
  clusterIssuer := standardIssuer

theorem demonstration_valid : demonstration.validate = .ok () := by decide +kernel

end Configuration

namespace Model

variable {model : Model}

theorem validate_eq_ok :
    model.validate = .ok () ↔
      model.storage.publicBucket ∈ model.storage.buckets ∧
      ∀ entry ∈ model.ports.entries, entry.2 ≠ 0 := by
  unfold validate
  by_cases declared : model.storage.publicBucket ∈ model.storage.buckets
  · simp only [List.contains_eq_mem, declared, decide_true, Bool.not_true, Bool.false_eq_true,
      if_false, true_and]
    split
    · rename_i key port found
      have zero : port = 0 := by simpa using List.find?_some found
      have inside := List.mem_of_find?_eq_some found
      simp only [reduceCtorEq, false_iff, not_forall]
      exact ⟨(key, port), inside, fun nonzero => nonzero zero⟩
    · rename_i none
      simpa using none
  · simp [declared]

/-- A valid model has no port zero. -/
theorem port_ne_zero (valid : model.validate = .ok ()) {key : String}
    {port : UInt16} (found : model.port key = .ok port) : port ≠ 0 := by
  have held : model.ports.get? key = some port := entry_eq_ok.mp found
  exact (validate_eq_ok.mp valid).2 (key, port) (Dict.get?_eq_some_iff.mp held)

/-- A model stays valid when a port gets another number, but for zero. -/
theorem validate_withPort (valid : model.validate = .ok ()) (key : String) {port : UInt16}
    (nonzero : port ≠ 0) : (model.withPort key port).validate = .ok () := by
  obtain ⟨declared, ports⟩ := validate_eq_ok.mp valid
  refine validate_eq_ok.mpr ⟨declared, fun entry member => ?_⟩
  have held : (model.ports.insert key port).get? entry.1 = some entry.2 :=
    Dict.get?_eq_some_iff.mpr member
  rw [Dict.get?_insert] at held
  split at held
  · exact Option.some.inj held ▸ nonzero
  · exact ports entry (Dict.get?_eq_some_iff.mp held)

end Model

end PlatformManifests
