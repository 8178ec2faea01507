import PlatformManifests.Configuration.Basic
import PlatformManifests.Naming

/-!
The rules that a configuration has to keep. `Configuration.violations` lists all that are broken,
in the order of the fields; validation reports the first.
-/
namespace PlatformManifests

/-- An error unless a condition holds. -/
def demand (holds : Bool) (field message : String) : List Error :=
  if holds then [] else [.invalidConfiguration field message]

def quoteName (name : String) : String := "'" ++ name ++ "'"

/-- Accepts when there is no violation, and otherwise reports the first. -/
def accept (violations : List Error) : Outcome Unit :=
  match violations with
  | [] => .ok ()
  | first :: _ => .error first

namespace Subdomains

def fields (subdomains : Subdomains) : List (String × String) :=
  [("subdomains.identity", subdomains.identity), ("subdomains.storage", subdomains.storage),
    ("subdomains.storageConsole", subdomains.storageConsole),
    ("subdomains.search", subdomains.search)]

/-- Each subdomain is a label that no earlier one has. -/
def violationsAfter (earlier : List (String × String)) : List (String × String) → List Error
  | [] => []
  | (field, value) :: rest =>
    demand (Naming.isDnsLabel value) field (quoteName value ++ " is not a valid DNS-1123 label")
      ++ (match earlier.find? fun entry => entry.2 = value with
        | some (other, _) =>
          [.invalidConfiguration field (quoteName value ++ " is already used by " ++ other)]
        | none => [])
      ++ violationsAfter (earlier ++ [(field, value)]) rest

def violations (subdomains : Subdomains) : List Error := violationsAfter [] subdomains.fields

end Subdomains

def secretViolations (entry : String × String) : List Error :=
  demand (!entry.1.isEmpty) "secrets" "empty secret identifier"
    ++ demand (Naming.isDnsName entry.2) ("secrets." ++ entry.1)
      (quoteName entry.2 ++ " is not a valid Secret name")

def mailAddressViolations (field address : String) : List Error :=
  demand (Naming.isMailAddress address) field (quoteName address ++ " is not an email address")

namespace MailRelay

def violations (mail : MailRelay) : List Error :=
  demand (!mail.host.isEmpty) "smtp.host" "must not be empty"
    ++ demand (mail.port ≠ 0) "smtp.port" "must be non-zero"
    ++ mailAddressViolations "smtp.from" mail.sender
    ++ demand (mail.user.isNone || mail.passwordSecret.isSome) "smtp.passwordSecret"
      "required when smtp.user is set"

end MailRelay

namespace Configuration

def storageClassViolations (name : String) : List Error :=
  demand (Naming.isDnsName name) "storageClass"
    (quoteName name ++ " is not a valid StorageClass name")

/-- The issuer matters only where certificates are issued. -/
def issuerViolations (config : Configuration) : List Error :=
  demand (!config.scheme.isTls || Naming.isDnsName config.clusterIssuer) "clusterIssuer"
    (quoteName config.clusterIssuer ++ " is not a valid issuer name")

def violations (config : Configuration) : List Error :=
  demand (Naming.isDnsLabel config.space) "namespace"
      (quoteName config.space ++ " is not a valid DNS-1123 label")
    ++ demand (Naming.isDnsName config.domain) "domain"
      (quoteName config.domain ++ " is not a valid domain name")
    ++ config.subdomains.violations
    ++ config.secrets.entries.flatMap secretViolations
    ++ mailAddressViolations "admin.email" config.admin.email
    ++ (config.mail.map MailRelay.violations).getD []
    ++ (config.storageClass.map storageClassViolations).getD []
    ++ config.issuerViolations

def validate (config : Configuration) : Outcome Unit := accept config.violations

end Configuration

end PlatformManifests
