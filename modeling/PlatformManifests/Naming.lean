import PlatformManifests.Text.Pieces

/-!
Names that the cluster and the mail system accept: DNS labels, DNS names made of labels, and mail
addresses.
-/
namespace PlatformManifests.Naming

def isLabelChar (c : Char) : Bool := c.isLower || c.isDigit || c = '-'

/-- One to 63 lower-case letters, digits and hyphens, with no hyphen at either end. -/
def isLabel (name : List Char) : Bool :=
  !name.isEmpty && name.length ≤ 63 && name.all isLabelChar
    && name.head? ≠ some '-' && name.getLast? ≠ some '-'

def isDnsLabel (name : String) : Bool := isLabel name.toList

/-- Labels with dots between them, at most 253 characters in all. -/
def isDnsName (name : String) : Bool :=
  !name.toList.isEmpty && name.toList.length ≤ 253 && (Text.pieces '.' name.toList).all isLabel

/-- Something before the first at sign, and after it a dot and no further at sign. -/
def isMailAddress (address : String) : Bool :=
  match Text.pieces '@' address.toList with
  | [account, host] => !account.isEmpty && host.contains '.'
  | _ => false

end PlatformManifests.Naming
