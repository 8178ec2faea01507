import PlatformManifests.Configuration.Document
import PlatformManifests.Model.Document
import PlatformManifests.Proofs.Keeping

/-!
Models and configurations as documents. They are read back as they were written, from any source
that shows what was written, and reading a document loses nothing that it says.
-/
namespace PlatformManifests

open Reading

/-! ### Models -/

section Model

variable {σ : Type} [Source σ] [Faithful σ] {places : List String → Prop}
  {added : List String → Json → Prop}

theorem Account.readsBack : ReadsBack (σ := σ) Account.read Account.toJson := by
  refine listed_readsBack (fun _ => rfl) (by decide) ?_
  rintro ⟨user, database⟩ members held
  exact (held.required text_readsBack (by simp)).map
    |>.seq (held.required text_readsBack (by simp))

theorem Account.keeps (root : places []) : Keeps places added Account.read Account.toJson := by
  refine keeps_record root rfl (fun _ => rfl) (by decide) fun entries value sound given => ?_
  obtain ⟨_, database, rfl, given, databases⟩ := given.of_seq
  obtain ⟨user, rfl, users⟩ := given.of_map
  simp only [List.forall_mem_cons]
  exact ⟨sound.required keeps_text users, sound.required keeps_text databases,
    List.forall_mem_nil _⟩

theorem Account.keyed (account : Account) : account.toJson.Keyed := by
  refine keyed_listed Account.shape rfl (by decide) ?_
  simp only [List.forall_mem_cons]
  exact ⟨.some (.str _), .some (.str _), List.forall_mem_nil _⟩

theorem Accounts.readsBack : ReadsBack (σ := σ) Accounts.read Accounts.toJson := by
  refine listed_readsBack (fun _ => rfl) (by decide) ?_
  rintro ⟨superuser, identity, application⟩ members held
  exact (held.required Account.readsBack (by simp)).map
    |>.seq (held.required Account.readsBack (by simp))
    |>.seq (held.required Account.readsBack (by simp))

theorem Accounts.keeps (root : places []) (each : ∀ name ∈ Accounts.shape.fields, places [name]) :
    Keeps places added Accounts.read Accounts.toJson := by
  refine keeps_record root rfl (fun _ => rfl) (by decide) fun entries value sound given => ?_
  obtain ⟨_, application, rfl, given, applications⟩ := given.of_seq
  obtain ⟨_, identity, rfl, given, identities⟩ := given.of_seq
  obtain ⟨superuser, rfl, superusers⟩ := given.of_map
  have account {name : String} (listed : name ∈ Accounts.shape.fields) :
      Keeps (fun path => places (name :: path)) (fun path => added (name :: path)) Account.read
        Account.toJson := Account.keeps (each name listed)
  simp only [List.forall_mem_cons]
  exact ⟨sound.required (account (by decide)) superusers,
    sound.required (account (by decide)) identities,
    sound.required (account (by decide)) applications, List.forall_mem_nil _⟩

theorem Accounts.keyed (accounts : Accounts) : accounts.toJson.Keyed := by
  refine keyed_listed Accounts.shape rfl (by decide) ?_
  simp only [List.forall_mem_cons]
  exact ⟨.some (Account.keyed _), .some (Account.keyed _), .some (Account.keyed _),
    List.forall_mem_nil _⟩

theorem IdentitySection.readsBack :
    ReadsBack (σ := σ) IdentitySection.read IdentitySection.toJson := by
  refine listed_readsBack (fun _ => rfl) (by decide) ?_
  rintro ⟨realm, clients⟩ members held
  exact (held.required text_readsBack (by simp)).map
    |>.seq (held.required textDict_readsBack (by simp))

theorem IdentitySection.keeps (root : places []) :
    Keeps places added IdentitySection.read IdentitySection.toJson := by
  refine keeps_record root rfl (fun _ => rfl) (by decide) fun entries value sound given => ?_
  obtain ⟨_, clients, rfl, given, clientsGiven⟩ := given.of_seq
  obtain ⟨realm, rfl, realms⟩ := given.of_map
  simp only [List.forall_mem_cons]
  exact ⟨sound.required keeps_text realms, sound.required keeps_textDict clientsGiven,
    List.forall_mem_nil _⟩

theorem IdentitySection.keyed (identity : IdentitySection) : identity.toJson.Keyed := by
  refine keyed_listed IdentitySection.shape rfl (by decide) ?_
  simp only [List.forall_mem_cons]
  exact ⟨.some (.str _), .some (keyed_dict .str _), List.forall_mem_nil _⟩

theorem StorageSection.readsBack :
    ReadsBack (σ := σ) StorageSection.read StorageSection.toJson := by
  refine listed_readsBack (fun _ => rfl) (by decide) ?_
  rintro ⟨buckets, publicBucket⟩ members held
  exact (held.required texts_readsBack (by simp)).map
    |>.seq (held.required text_readsBack (by simp))

theorem StorageSection.keeps (root : places []) :
    Keeps places added StorageSection.read StorageSection.toJson := by
  refine keeps_record root rfl (fun _ => rfl) (by decide) fun entries value sound given => ?_
  obtain ⟨_, publicBucket, rfl, given, publicBuckets⟩ := given.of_seq
  obtain ⟨buckets, rfl, bucketLists⟩ := given.of_map
  simp only [List.forall_mem_cons]
  exact ⟨sound.required keeps_texts bucketLists, sound.required keeps_text publicBuckets,
    List.forall_mem_nil _⟩

theorem StorageSection.keyed (storage : StorageSection) : storage.toJson.Keyed := by
  refine keyed_listed StorageSection.shape rfl (by decide) ?_
  simp only [List.forall_mem_cons]
  exact ⟨.some (keyed_texts _), .some (.str _), List.forall_mem_nil _⟩

namespace Model

theorem readsBack : ReadsBack (σ := σ) Model.read Model.toJson := by
  have ports : ReadsBack (σ := σ) (readDict readPort) portsToJson := dict_readsBack port_readsBack
  have counts : ReadsBack (σ := σ) (readDict readCount) countsToJson :=
    dict_readsBack count_readsBack
  refine listed_readsBack (fun _ => rfl) (by decide) ?_
  rintro ⟨images, portNumbers, volumes, replicas, identity, database, storage, brokers,
    ingressClass⟩ members held
  exact (held.required textDict_readsBack (by simp)).map
    |>.seq (held.required ports (by simp))
    |>.seq (held.required textDict_readsBack (by simp))
    |>.seq (held.required counts (by simp))
    |>.seq (held.required IdentitySection.readsBack (by simp))
    |>.seq (held.required Accounts.readsBack (by simp))
    |>.seq (held.required StorageSection.readsBack (by simp))
    |>.seq (held.required textDict_readsBack (by simp))
    |>.seq (held.required text_readsBack (by simp))

/-- The records of a model, and their fields. -/
def records : List (List String × List String) :=
  [([], shape.fields), (["identity"], IdentitySection.shape.fields),
    (["database"], Accounts.shape.fields), (["database", "superuser"], Account.shape.fields),
    (["database", "identityProvider"], Account.shape.fields),
    (["database", "application"], Account.shape.fields), (["storage"], StorageSection.shape.fields)]

/-- Reading a model loses nothing, and nothing has a default. -/
theorem keeps : Keeps (fun path => path ∈ records.map Prod.fst) added Model.read Model.toJson := by
  refine keeps_record (by decide) rfl (fun _ => rfl) (by decide) fun entries value sound given => ?_
  obtain ⟨_, ingressClass, rfl, given, ingressClasses⟩ := given.of_seq
  obtain ⟨_, brokers, rfl, given, brokersGiven⟩ := given.of_seq
  obtain ⟨_, storage, rfl, given, storages⟩ := given.of_seq
  obtain ⟨_, database, rfl, given, databases⟩ := given.of_seq
  obtain ⟨_, identity, rfl, given, identities⟩ := given.of_seq
  obtain ⟨_, replicas, rfl, given, counts⟩ := given.of_seq
  obtain ⟨_, volumes, rfl, given, sizes⟩ := given.of_seq
  obtain ⟨_, ports, rfl, given, numbers⟩ := given.of_seq
  obtain ⟨images, rfl, imagesGiven⟩ := given.of_map
  simp only [List.forall_mem_cons]
  exact ⟨sound.required keeps_textDict imagesGiven,
    sound.required (keeps_dict fun _ => keeps_port) numbers,
    sound.required keeps_textDict sizes,
    sound.required (keeps_dict fun _ => keeps_count) counts,
    sound.required (IdentitySection.keeps (by decide)) identities,
    sound.required (Accounts.keeps (by decide) (by decide)) databases,
    sound.required (StorageSection.keeps (by decide)) storages,
    sound.required keeps_textDict brokersGiven, sound.required keeps_text ingressClasses,
    List.forall_mem_nil _⟩

theorem keyed (model : Model) : model.toJson.Keyed := by
  refine keyed_listed shape rfl (by decide) ?_
  simp only [List.forall_mem_cons]
  exact ⟨.some (keyed_dict .str _), .some (keyed_dict (fun _ => .int _) _),
    .some (keyed_dict .str _), .some (keyed_dict (fun _ => .int _) _),
    .some (IdentitySection.keyed _), .some (Accounts.keyed _), .some (StorageSection.keyed _),
    .some (keyed_dict .str _), .some (.str _), List.forall_mem_nil _⟩

end Model

end Model

/-! ### Configurations -/

section Configuration

variable {σ : Type} [Source σ] [Faithful σ] {places : List String → Prop}
  {added : List String → Json → Prop}

namespace Scheme

theorem ofName_name (scheme : Scheme) : ofName scheme.name = .ok scheme := by
  cases scheme <;> rfl

theorem name_of_ofName {name : String} {scheme : Scheme} (given : ofName name = .ok scheme) :
    name = scheme.name := by
  unfold ofName at given
  split at given
  · rename_i plain
    cases given
    exact plain
  · split at given
    · rename_i secure
      cases given
      exact secure
    · cases given

theorem readsBack : ReadsBack (σ := σ) Scheme.read fun scheme => .str scheme.name where
  back {_ scheme} shown := by
    refine Outcome.bind_eq_ok.mpr ⟨scheme.name, Faithful.text shown, ?_⟩
    simp only [ofName_name]
  solid _ := nofun

theorem keeps : Keeps places added Scheme.read fun scheme => .str scheme.name := by
  refine keeps_of_eq fun json scheme given => ?_
  obtain ⟨name, text, given⟩ := Outcome.bind_eq_ok.mp given
  rw [eq_str_of_readText text]
  cases chosen : ofName name with
  | ok held =>
    rw [chosen] at given
    cases given
    rw [name_of_ofName chosen]
  | error error =>
    rw [chosen] at given
    cases given

end Scheme

namespace Subdomains

theorem readsBack : ReadsBack (σ := σ) Subdomains.read Subdomains.toJson := by
  refine listed_readsBack (fun _ => rfl) (by decide) ?_
  rintro ⟨identity, storage, storageConsole, search⟩ members held
  exact (held.withDefault text_readsBack (by simp)).map
    |>.seq (held.withDefault text_readsBack (by simp))
    |>.seq (held.withDefault text_readsBack (by simp))
    |>.seq (held.withDefault text_readsBack (by simp))

theorem keeps (root : places []) (identity : added ["identity"] (.str standard.identity))
    (storage : added ["storage"] (.str standard.storage))
    (storageConsole : added ["storageConsole"] (.str standard.storageConsole))
    (search : added ["search"] (.str standard.search)) :
    Keeps places added Subdomains.read Subdomains.toJson := by
  refine keeps_record root rfl (fun _ => rfl) (by decide) fun entries value sound given => ?_
  obtain ⟨_, _, rfl, given, searches⟩ := given.of_seq
  obtain ⟨_, _, rfl, given, consoles⟩ := given.of_seq
  obtain ⟨_, _, rfl, given, storages⟩ := given.of_seq
  obtain ⟨_, rfl, identities⟩ := given.of_map
  simp only [List.forall_mem_cons]
  exact ⟨sound.withDefault keeps_text identities identity,
    sound.withDefault keeps_text storages storage,
    sound.withDefault keeps_text consoles storageConsole,
    sound.withDefault keeps_text searches search, List.forall_mem_nil _⟩

theorem keyed (subdomains : Subdomains) : subdomains.toJson.Keyed := by
  refine keyed_listed shape rfl (by decide) ?_
  simp only [List.forall_mem_cons]
  exact ⟨.some (.str _), .some (.str _), .some (.str _), .some (.str _), List.forall_mem_nil _⟩

end Subdomains

namespace Contact

theorem readsBack : ReadsBack (σ := σ) Contact.read Contact.toJson := by
  refine listed_readsBack (fun _ => rfl) (by decide) ?_
  rintro ⟨email, name⟩ members held
  exact (held.required text_readsBack (by simp)).map
    |>.seq (held.optional text_readsBack (by simp))

theorem keeps (root : places []) : Keeps places added Contact.read Contact.toJson := by
  refine keeps_record root rfl (fun _ => rfl) (by decide) fun entries value sound given => ?_
  obtain ⟨_, name, rfl, given, names⟩ := given.of_seq
  obtain ⟨email, rfl, emails⟩ := given.of_map
  simp only [List.forall_mem_cons]
  exact ⟨sound.required keeps_text emails, sound.optional keeps_text names,
    List.forall_mem_nil _⟩

theorem keyed (contact : Contact) : contact.toJson.Keyed := by
  refine keyed_listed shape rfl (by decide) ?_
  simp only [List.forall_mem_cons]
  exact ⟨.some (.str _), .map .str _, List.forall_mem_nil _⟩

end Contact

namespace MailRelay

theorem readsBack : ReadsBack (σ := σ) MailRelay.read MailRelay.toJson := by
  refine listed_readsBack (fun _ => rfl) (by decide) ?_
  rintro ⟨host, port, sender, user, passwordSecret, starttls⟩ members held
  exact (held.required text_readsBack (by simp)).map
    |>.seq (held.withDefault port_readsBack (by simp))
    |>.seq (held.required text_readsBack (by simp))
    |>.seq (held.optional text_readsBack (by simp))
    |>.seq (held.optional text_readsBack (by simp))
    |>.seq (held.withDefault boolean_readsBack (by simp))

theorem keeps (root : places []) (port : added ["port"] (.int MailRelay.standardPort.toNat))
    (starttls : added ["starttls"] (.bool true)) :
    Keeps places added MailRelay.read MailRelay.toJson := by
  refine keeps_record root rfl (fun _ => rfl) (by decide) fun entries value sound given => ?_
  obtain ⟨_, encrypted, rfl, given, encryptions⟩ := given.of_seq
  obtain ⟨_, passwordSecret, rfl, given, passwords⟩ := given.of_seq
  obtain ⟨_, user, rfl, given, users⟩ := given.of_seq
  obtain ⟨_, sender, rfl, given, senders⟩ := given.of_seq
  obtain ⟨_, number, rfl, given, numbers⟩ := given.of_seq
  obtain ⟨host, rfl, hosts⟩ := given.of_map
  have ports := sound.withDefault keeps_port numbers port
  simp only [List.forall_mem_cons]
  exact ⟨sound.required keeps_text hosts, ports,
    sound.required keeps_text senders, sound.optional keeps_text users,
    sound.optional keeps_text passwords, sound.withDefault keeps_boolean encryptions starttls,
    List.forall_mem_nil _⟩

theorem keyed (mail : MailRelay) : mail.toJson.Keyed := by
  refine keyed_listed shape rfl (by decide) ?_
  simp only [List.forall_mem_cons]
  exact ⟨.some (.str _), .some (.int _), .some (.str _), .map .str _, .map .str _,
    .some (.bool _), List.forall_mem_nil _⟩

end MailRelay

namespace Configuration

theorem readsBack : ReadsBack (σ := σ) Configuration.read Configuration.toJson := by
  refine listed_readsBack (fun _ => rfl) (by decide) ?_
  rintro ⟨space, scheme, domain, subdomains, secrets, admin, mail, storageClass, clusterIssuer⟩
    members held
  exact (held.required text_readsBack (by simp)).map
    |>.seq (held.required Scheme.readsBack (by simp))
    |>.seq (held.required text_readsBack (by simp))
    |>.seq (held.withDefault Subdomains.readsBack (by simp))
    |>.seq (held.required textDict_readsBack (by simp))
    |>.seq (held.required Contact.readsBack (by simp))
    |>.seq (held.optional MailRelay.readsBack (by simp))
    |>.seq (held.optional text_readsBack (by simp))
    |>.seq (held.withDefault text_readsBack (by simp))

/-- The records of a configuration, and their fields. -/
def records : List (List String × List String) :=
  [([], shape.fields), (["subdomains"], Subdomains.shape.fields),
    (["admin"], Contact.shape.fields), (["smtp"], MailRelay.shape.fields)]

/-- What is there by default, and where. -/
def defaults : List (List String × Json) :=
  [(["subdomains"], Subdomains.standard.toJson),
    (["subdomains", "identity"], .str Subdomains.standard.identity),
    (["subdomains", "storage"], .str Subdomains.standard.storage),
    (["subdomains", "storageConsole"], .str Subdomains.standard.storageConsole),
    (["subdomains", "search"], .str Subdomains.standard.search),
    (["smtp", "port"], .int MailRelay.standardPort.toNat), (["smtp", "starttls"], .bool true),
    (["clusterIssuer"], .str standardIssuer)]

def HasDefault (place : List String) (value : Json) : Prop := (place, value) ∈ defaults

/-- Reading a configuration loses nothing, and adds nothing but defaults. -/
theorem keeps : Keeps (fun path => path ∈ records.map Prod.fst) HasDefault Configuration.read
    Configuration.toJson := by
  refine keeps_record (by decide) rfl (fun _ => rfl) (by decide) fun entries value sound given => ?_
  obtain ⟨_, clusterIssuer, rfl, given, issuers⟩ := given.of_seq
  obtain ⟨_, storageClass, rfl, given, classes⟩ := given.of_seq
  obtain ⟨_, mail, rfl, given, relays⟩ := given.of_seq
  obtain ⟨_, admin, rfl, given, admins⟩ := given.of_seq
  obtain ⟨_, secrets, rfl, given, names⟩ := given.of_seq
  obtain ⟨_, subdomains, rfl, given, labels⟩ := given.of_seq
  obtain ⟨_, domain, rfl, given, domains⟩ := given.of_seq
  obtain ⟨_, scheme, rfl, given, schemes⟩ := given.of_seq
  obtain ⟨space, rfl, spaces⟩ := given.of_map
  have schemeKept : Json.MemberKept (fun path => HasDefault ("scheme" :: path)) _ _ :=
    sound.required Scheme.keeps schemes
  have documented : ∀ entry ∈ defaults, HasDefault entry.1 entry.2 := fun _ listed => listed
  simp only [defaults, List.forall_mem_cons] at documented
  obtain ⟨standard, identity, storage, storageConsole, search, port, starttls, issuer, _⟩ :=
    documented
  have subdomainsKept : Json.MemberKept (fun path => HasDefault ("subdomains" :: path)) _ _ :=
    sound.withDefault (Subdomains.keeps (by decide) identity storage storageConsole search) labels
      standard
  simp only [List.forall_mem_cons]
  exact ⟨sound.required keeps_text spaces, schemeKept, sound.required keeps_text domains,
    subdomainsKept, sound.required keeps_textDict names,
    sound.required (Contact.keeps (by decide)) admins,
    sound.optional (MailRelay.keeps (by decide) port starttls) relays,
    sound.optional keeps_text classes, sound.withDefault keeps_text issuers issuer,
    List.forall_mem_nil _⟩

theorem keyed (config : Configuration) : config.toJson.Keyed := by
  refine keyed_listed shape rfl (by decide) ?_
  simp only [List.forall_mem_cons]
  exact ⟨.some (.str _), .some (.str _), .some (.str _), .some (Subdomains.keyed _),
    .some (keyed_dict .str _), .some (Contact.keyed _), .map MailRelay.keyed _, .map .str _,
    .some (.str _), List.forall_mem_nil _⟩

end Configuration

end Configuration

end PlatformManifests
