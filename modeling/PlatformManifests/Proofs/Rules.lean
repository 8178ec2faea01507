import PlatformManifests.Proofs.KeyOrder
import PlatformManifests.Proofs.NameGrammar

/-!
The rules of a configuration, listed in the order in which they count. Validation accepts what keeps
all of them, and otherwise reports the first that is broken: its field, and what is wrong there.
-/
namespace PlatformManifests

/-- What has to hold of a field, and what is said if it does not. -/
structure Rule where
  field : String
  holds : Prop
  complaint : String

namespace Rule

def error (rule : Rule) : Error := .invalidConfiguration rule.field rule.complaint

def FirstBroken (rules : List Rule) (rule : Rule) : Prop :=
  ∃ before after, rules = before ++ rule :: after ∧ (∀ earlier ∈ before, earlier.holds) ∧
    ¬ rule.holds

theorem FirstBroken.unique {rules : List Rule} {rule other : Rule}
    (first : FirstBroken rules rule) (second : FirstBroken rules other) : rule = other := by
  obtain ⟨before, after, rfl, earlier, broken⟩ := first
  obtain ⟨_, _, split, otherEarlier, otherBroken⟩ := second
  exact Profile.first_eq_first split earlier broken otherEarlier otherBroken

/-! ### Lists of violations -/

/-- There is no violation if all rules hold, and otherwise the first broken rule is told first. -/
def Reports (rules : List Rule) (violations : List Error) : Prop :=
  (∀ rule ∈ rules, rule.holds) ∧ violations = [] ∨
    ∃ rule, FirstBroken rules rule ∧ violations.head? = some rule.error

namespace Reports

variable {rules further : List Rule} {violations others : List Error}

theorem nil : Reports [] [] := .inl ⟨List.forall_mem_nil _, rfl⟩

theorem demand {rule : Rule} {holds : Bool} (decides : holds = true ↔ rule.holds) :
    Reports [rule] (demand holds rule.field rule.complaint) := by
  cases holds with
  | true => exact .inl ⟨List.forall_mem_singleton.mpr (decides.mp rfl), rfl⟩
  | false =>
    have broken : ¬ rule.holds := fun kept => Bool.false_ne_true (decides.mpr kept)
    exact .inr ⟨rule, ⟨[], [], rfl, List.forall_mem_nil _, broken⟩, rfl⟩

theorem append (first : Reports rules violations) (second : Reports further others) :
    Reports (rules ++ further) (violations ++ others) := by
  rcases first with ⟨kept, rfl⟩ | ⟨rule, ⟨before, after, rfl, earlier, broken⟩, told⟩
  · rcases second with ⟨furtherKept, rfl⟩ | ⟨rule, ⟨before, after, rfl, earlier, broken⟩, told⟩
    · exact .inl ⟨List.forall_mem_append.mpr ⟨kept, furtherKept⟩, rfl⟩
    · have all := List.forall_mem_append.mpr ⟨kept, earlier⟩
      exact .inr ⟨rule, ⟨rules ++ before, after, by simp, all, broken⟩, told⟩
  · obtain ⟨rest, rfl⟩ := List.head?_eq_some_iff.mp told
    exact .inr ⟨rule, ⟨before, after ++ further, by simp, earlier, broken⟩, rfl⟩

theorem flatMap {α : Type} {rulesOf : α → List Rule} {violationsOf : α → List Error}
    (items : List α) (each : ∀ item, Reports (rulesOf item) (violationsOf item)) :
    Reports (items.flatMap rulesOf) (items.flatMap violationsOf) := by
  induction items with
  | nil => exact nil
  | cons item rest ih => exact (each item).append ih

theorem accept_eq_ok_iff (reports : Reports rules violations) :
    accept violations = .ok () ↔ ∀ rule ∈ rules, rule.holds := by
  rcases reports with ⟨kept, rfl⟩ | ⟨rule, ⟨before, after, rfl, _, broken⟩, told⟩
  · exact iff_of_true rfl kept
  · obtain ⟨rest, rfl⟩ := List.head?_eq_some_iff.mp told
    refine iff_of_false nofun fun kept => broken (kept rule ?_)
    exact List.mem_append_right before List.mem_cons_self

theorem accept_eq_error_iff (reports : Reports rules violations) {error : Error} :
    accept violations = .error error ↔ ∃ rule, FirstBroken rules rule ∧ error = rule.error := by
  rcases reports with ⟨kept, rfl⟩ | ⟨rule, first, told⟩
  · refine iff_of_false nofun ?_
    rintro ⟨rule, ⟨before, after, rfl, _, broken⟩, _⟩
    exact broken (kept rule (List.mem_append_right before List.mem_cons_self))
  · obtain ⟨rest, rfl⟩ := List.head?_eq_some_iff.mp told
    constructor
    · rintro ⟨⟩
      exact ⟨rule, first, rfl⟩
    · rintro ⟨other, otherFirst, rfl⟩
      rw [first.unique otherFirst]
      rfl

end Reports

/-! ### Rules of single fields -/

def label (field value : String) : Rule where
  field
  holds := Naming.Label value
  complaint := quoteName value ++ " is not a valid DNS-1123 label"

/-- The ending of the complaint says what the name is for. -/
def dnsName (field value ending : String) : Rule where
  field
  holds := Naming.DnsName value
  complaint := quoteName value ++ ending

def mailAddress (field value : String) : Rule where
  field
  holds := Naming.MailAddress value
  complaint := quoteName value ++ " is not an email address"

/-- The value is not that of an earlier field. -/
def apart (field value : String) (earlier : String × String) : Rule where
  field
  holds := value ≠ earlier.2
  complaint := quoteName value ++ " is already used by " ++ earlier.1

theorem reports_label (field value : String) :
    Reports [label field value] (PlatformManifests.demand (Naming.isDnsLabel value) field
      (quoteName value ++ " is not a valid DNS-1123 label")) := by
  have decides : Naming.isDnsLabel value = true ↔ (label field value).holds :=
    Naming.isDnsLabel_iff
  exact .demand decides

theorem reports_dnsName (field value ending : String) :
    Reports [dnsName field value ending] (PlatformManifests.demand (Naming.isDnsName value) field
      (quoteName value ++ ending)) := by
  have decides : Naming.isDnsName value = true ↔ (dnsName field value ending).holds :=
    Naming.isDnsName_iff_dnsName
  exact .demand decides

theorem reports_mailAddress (field value : String) :
    Reports [mailAddress field value] (mailAddressViolations field value) := by
  have decides : Naming.isMailAddress value = true ↔ (mailAddress field value).holds :=
    Naming.isMailAddress_iff
  exact .demand decides

end Rule

open Rule (Reports)

/-! ### Rules of sections -/

namespace Subdomains

/-- Each subdomain is a label, and is not the same as one before it. -/
def rules (subdomains : Subdomains) : List Rule :=
  [.label "subdomains.identity" subdomains.identity,
    .label "subdomains.storage" subdomains.storage,
    .apart "subdomains.storage" subdomains.storage
      ("subdomains.identity", subdomains.identity),
    .label "subdomains.storageConsole" subdomains.storageConsole,
    .apart "subdomains.storageConsole" subdomains.storageConsole
      ("subdomains.identity", subdomains.identity),
    .apart "subdomains.storageConsole" subdomains.storageConsole
      ("subdomains.storage", subdomains.storage),
    .label "subdomains.search" subdomains.search,
    .apart "subdomains.search" subdomains.search
      ("subdomains.identity", subdomains.identity),
    .apart "subdomains.search" subdomains.search
      ("subdomains.storage", subdomains.storage),
    .apart "subdomains.search" subdomains.search
      ("subdomains.storageConsole", subdomains.storageConsole)]

/-- The rules of further fields, where some came earlier. -/
def rulesAfter (earlier : List (String × String)) : List (String × String) → List Rule
  | [] => []
  | (field, value) :: rest =>
    [.label field value] ++ earlier.map (.apart field value)
      ++ rulesAfter (earlier ++ [(field, value)]) rest

theorem rules_eq (subdomains : Subdomains) : subdomains.rules = rulesAfter [] subdomains.fields :=
  rfl

/-- Of the earlier fields with the same value the first is told. -/
theorem reports_apart (field value : String) (earlier : List (String × String)) :
    Reports (earlier.map (.apart field value))
      (match earlier.find? fun entry => entry.2 = value with
        | some (other, _) =>
          [.invalidConfiguration field (quoteName value ++ " is already used by " ++ other)]
        | none => []) := by
  induction earlier with
  | nil => exact .nil
  | cons former rest ih =>
    rw [List.map_cons]
    by_cases same : former.2 = value
    · rw [List.find?_cons_of_pos (by simpa using same)]
      have broken : ¬ (Rule.apart field value former).holds := fun differ => differ same.symm
      exact .inr ⟨_, ⟨[], _, rfl, List.forall_mem_nil _, broken⟩, rfl⟩
    · rw [List.find?_cons_of_neg (by simpa using same)]
      have kept : Reports [.apart field value former] [] :=
        .inl ⟨List.forall_mem_singleton.mpr (Ne.symm same), rfl⟩
      exact kept.append ih

theorem reports_violationsAfter (earlier rest : List (String × String)) :
    Reports (rulesAfter earlier rest) (violationsAfter earlier rest) := by
  induction rest generalizing earlier with
  | nil => exact .nil
  | cons entry rest ih =>
    obtain ⟨field, value⟩ := entry
    exact ((Rule.reports_label field value).append (reports_apart field value earlier)).append (ih _)

theorem reports_violations (subdomains : Subdomains) :
    Reports subdomains.rules subdomains.violations := by
  rw [rules_eq]
  exact reports_violationsAfter [] subdomains.fields

theorem forall_rules_iff {subdomains : Subdomains} :
    (∀ rule ∈ subdomains.rules, rule.holds) ↔
      (Naming.Label subdomains.identity ∧ Naming.Label subdomains.storage ∧
        Naming.Label subdomains.storageConsole ∧ Naming.Label subdomains.search) ∧
      [subdomains.identity, subdomains.storage, subdomains.storageConsole,
        subdomains.search].Nodup := by
  have distinct : [subdomains.identity, subdomains.storage, subdomains.storageConsole,
      subdomains.search].Nodup ↔
        subdomains.storage ≠ subdomains.identity ∧
        (subdomains.storageConsole ≠ subdomains.identity ∧
          subdomains.storageConsole ≠ subdomains.storage) ∧
        subdomains.search ≠ subdomains.identity ∧ subdomains.search ≠ subdomains.storage ∧
          subdomains.search ≠ subdomains.storageConsole := by
    grind
  rw [distinct, rules]
  simp only [List.forall_mem_cons]
  constructor
  · rintro ⟨identity, storage, apart, console, consoleApart, consoleFar, search, rest⟩
    exact ⟨⟨identity, storage, console, search⟩, apart, ⟨consoleApart, consoleFar⟩, rest.1,
      rest.2.1, rest.2.2.1⟩
  · rintro ⟨⟨identity, storage, console, search⟩, apart, ⟨consoleApart, consoleFar⟩, first, second,
      third⟩
    exact ⟨identity, storage, apart, console, consoleApart, consoleFar, search, first, second,
      third, List.forall_mem_nil _⟩

end Subdomains

def secretRules (entry : String × String) : List Rule :=
  [⟨"secrets", entry.1 ≠ "", "empty secret identifier"⟩,
    .dnsName ("secrets." ++ entry.1) entry.2 " is not a valid Secret name"]

theorem reports_secretViolations (entry : String × String) :
    Reports (secretRules entry) (secretViolations entry) := by
  have identified : (!entry.1.isEmpty) = true ↔ entry.1 ≠ "" := by simp
  exact (Reports.demand identified).append (Rule.reports_dnsName _ _ _)

namespace MailRelay

def rules (mail : MailRelay) : List Rule :=
  [⟨"smtp.host", mail.host ≠ "", "must not be empty"⟩,
    ⟨"smtp.port", mail.port ≠ 0, "must be non-zero"⟩,
    .mailAddress "smtp.from" mail.sender,
    ⟨"smtp.passwordSecret", mail.user.isSome → mail.passwordSecret.isSome,
      "required when smtp.user is set"⟩]

theorem reports_violations (mail : MailRelay) : Reports mail.rules mail.violations := by
  have host : (!mail.host.isEmpty) = true ↔ mail.host ≠ "" := by simp
  have port : decide (mail.port ≠ 0) = true ↔ mail.port ≠ 0 := decide_eq_true_iff
  have password : (mail.user.isNone || mail.passwordSecret.isSome) = true ↔
      (mail.user.isSome → mail.passwordSecret.isSome) := by
    cases mail.user <;> simp
  exact (((Reports.demand host).append (Reports.demand port)).append
    (Rule.reports_mailAddress _ _)).append (Reports.demand password)

/-- What makes a relay usable; who logs in needs a password. -/
structure Sound (mail : MailRelay) : Prop where
  host : mail.host ≠ ""
  port : mail.port ≠ 0
  sender : Naming.MailAddress mail.sender
  password : mail.user.isSome → mail.passwordSecret.isSome

theorem forall_rules_iff {mail : MailRelay} :
    (∀ rule ∈ mail.rules, rule.holds) ↔ mail.Sound := by
  rw [rules]
  simp only [List.forall_mem_cons]
  constructor
  · rintro ⟨host, port, sender, password, _⟩
    exact ⟨host, port, sender, password⟩
  · rintro ⟨host, port, sender, password⟩
    exact ⟨host, port, sender, password, List.forall_mem_nil _⟩

end MailRelay

/-! ### Rules of a configuration -/

namespace Configuration

/-- All rules, in the order in which they count; secrets come in the order of their identifiers. -/
def rules (config : Configuration) : List Rule :=
  [.label "namespace" config.space, .dnsName "domain" config.domain " is not a valid domain name"]
    ++ config.subdomains.rules
    ++ config.secrets.entries.flatMap secretRules
    ++ [.mailAddress "admin.email" config.admin.email]
    ++ config.mail.toList.flatMap MailRelay.rules
    ++ config.storageClass.toList.map
      (fun name => .dnsName "storageClass" name " is not a valid StorageClass name")
    ++ [⟨"clusterIssuer", config.scheme = .https → Naming.DnsName config.clusterIssuer,
      quoteName config.clusterIssuer ++ " is not a valid issuer name"⟩]

theorem reports_violations (config : Configuration) :
    Reports config.rules config.violations := by
  have mail : Reports (config.mail.toList.flatMap MailRelay.rules)
      ((config.mail.map MailRelay.violations).getD []) := by
    cases config.mail with
    | none => exact .nil
    | some mail => simpa using mail.reports_violations
  have storageClass : Reports (config.storageClass.toList.map fun name =>
      .dnsName "storageClass" name " is not a valid StorageClass name")
      ((config.storageClass.map storageClassViolations).getD []) := by
    cases config.storageClass with
    | none => exact .nil
    | some name => exact Rule.reports_dnsName _ _ _
  have issuer : (!config.scheme.isTls || Naming.isDnsName config.clusterIssuer) = true ↔
      (config.scheme = .https → Naming.DnsName config.clusterIssuer) := by
    cases config.scheme <;> simp [Scheme.isTls, Naming.isDnsName_iff_dnsName]
  have space := Rule.reports_label "namespace" config.space
  have domain := Rule.reports_dnsName "domain" config.domain " is not a valid domain name"
  have subdomains := config.subdomains.reports_violations
  have secrets := Reports.flatMap config.secrets.entries reports_secretViolations
  have admin := Rule.reports_mailAddress "admin.email" config.admin.email
  exact ((((((space.append domain).append subdomains).append secrets).append admin).append
    mail).append storageClass).append (Reports.demand issuer)

/-- What makes a configuration valid. -/
structure Sound (config : Configuration) : Prop where
  space : Naming.Label config.space
  domain : Naming.DnsName config.domain
  labels : Naming.Label config.subdomains.identity ∧ Naming.Label config.subdomains.storage ∧
    Naming.Label config.subdomains.storageConsole ∧ Naming.Label config.subdomains.search
  distinct : [config.subdomains.identity, config.subdomains.storage,
    config.subdomains.storageConsole, config.subdomains.search].Nodup
  secrets : ∀ identifier name, config.secrets.get? identifier = some name →
    identifier ≠ "" ∧ Naming.DnsName name
  admin : Naming.MailAddress config.admin.email
  mail : ∀ mail, config.mail = some mail → mail.Sound
  storageClass : ∀ name, config.storageClass = some name → Naming.DnsName name
  issuer : config.scheme = .https → Naming.DnsName config.clusterIssuer

theorem forall_secretRules_iff {config : Configuration} :
    (∀ rule ∈ config.secrets.entries.flatMap secretRules, rule.holds) ↔
      ∀ identifier name, config.secrets.get? identifier = some name →
        identifier ≠ "" ∧ Naming.DnsName name := by
  simp only [List.forall_mem_flatMap, secretRules, List.forall_mem_cons, Dict.get?_eq_some_iff]
  constructor
  · intro kept identifier name held
    obtain ⟨identified, named, _⟩ := kept (identifier, name) held
    exact ⟨identified, named⟩
  · intro sound entry held
    obtain ⟨identified, named⟩ := sound entry.1 entry.2 held
    exact ⟨identified, named, List.forall_mem_nil _⟩

theorem forall_rules_iff {config : Configuration} :
    (∀ rule ∈ config.rules, rule.holds) ↔ config.Sound := by
  have mail : (∀ rule ∈ config.mail.toList.flatMap MailRelay.rules, rule.holds) ↔
      ∀ mail, config.mail = some mail → mail.Sound := by
    simp only [List.forall_mem_flatMap, Option.mem_toList, MailRelay.forall_rules_iff]
  have storageClass : (∀ rule ∈ config.storageClass.toList.map fun name =>
        Rule.dnsName "storageClass" name " is not a valid StorageClass name", rule.holds) ↔
      ∀ name, config.storageClass = some name → Naming.DnsName name := by
    simp only [List.forall_mem_map, Option.mem_toList, Rule.dnsName]
  simp only [rules, List.forall_mem_append, List.forall_mem_cons, Subdomains.forall_rules_iff,
    forall_secretRules_iff, mail, storageClass]
  constructor
  · rintro ⟨⟨⟨⟨⟨⟨⟨space, domain, _⟩, labels, distinct⟩, secrets⟩, admin, _⟩, mail⟩, storageClass⟩,
      issuer, _⟩
    exact ⟨space, domain, labels, distinct, secrets, admin, mail, storageClass, issuer⟩
  · rintro ⟨space, domain, labels, distinct, secrets, admin, mail, storageClass, issuer⟩
    have none := List.forall_mem_nil Rule.holds
    exact ⟨⟨⟨⟨⟨⟨⟨space, domain, none⟩, labels, distinct⟩, secrets⟩, admin, none⟩, mail⟩,
      storageClass⟩, issuer, none⟩

/-- Validation is exact. It accepts the valid configurations and no other, and for any other it
tells the field of the first broken rule, and what is wrong. Secrets count in the order of the
octets of their identifiers. -/
theorem validate_tells_first_broken (config : Configuration) :
    (config.validate = .ok () ↔ config.Sound) ∧
    (∀ error, config.validate = .error error ↔ ∃ rule, Rule.FirstBroken config.rules rule ∧
      error = .invalidConfiguration rule.field rule.complaint) ∧
    (config.secrets.keys.map octets).Pairwise (· < ·) := by
  have reports := reports_violations config
  refine ⟨?_, fun error => reports.accept_eq_error_iff, config.secrets.octets_ascending⟩
  rw [← forall_rules_iff]
  exact reports.accept_eq_ok_iff

/-- The second of three equal subdomains is told, though the address is wrong too. -/
example : { demonstration with
      subdomains := ⟨"auth", "auth", "auth", "search"⟩, admin := ⟨"admin", none⟩ }.validate =
    .error (.invalidConfiguration "subdomains.storage"
      "'auth' is already used by subdomains.identity") := by
  decide +kernel

end Configuration

end PlatformManifests
