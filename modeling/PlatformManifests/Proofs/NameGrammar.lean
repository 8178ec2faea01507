import Mathlib.Data.String.Basic
import PlatformManifests.Proofs.Naming

/-!
The grammar of names. A label has one to 63 letters, digits and hyphens with a letter or digit at
both ends, a name is made of labels with single dots between them, and a mail address of two parts
with an at sign between them. The checks accept what the grammar allows, and nothing else.
-/
namespace PlatformManifests.Naming

/-! ### Labels -/

/-- A lower-case letter of ASCII, or a digit. -/
def Alphanumeric (c : Char) : Prop := 'a' ≤ c ∧ c ≤ 'z' ∨ '0' ≤ c ∧ c ≤ '9'

structure Label (name : String) : Prop where
  nonempty : 1 ≤ name.length
  short : name.length ≤ 63
  allowed : ∀ c ∈ name.toList, Alphanumeric c ∨ c = '-'
  first : ∀ c, name.toList.head? = some c → Alphanumeric c
  last : ∀ c, name.toList.getLast? = some c → Alphanumeric c

theorem isLabelChar_iff {c : Char} : isLabelChar c = true ↔ Alphanumeric c ∨ c = '-' := by
  have lower : c.isLower = (decide (c ≥ 'a') && decide (c ≤ 'z')) := rfl
  simp [isLabelChar, Alphanumeric, lower, Char.isDigit, Char.le_def]

theorem not_alphanumeric_hyphen : ¬ Alphanumeric '-' := by
  unfold Alphanumeric
  decide

/-- An end of a text of allowed characters is alphanumeric unless it is a hyphen. -/
theorem end_ne_hyphen_iff {text : List Char} {c? : Option Char} (inside : ∀ c ∈ c?, c ∈ text)
    (allowed : ∀ c ∈ text, Alphanumeric c ∨ c = '-') :
    c? ≠ some '-' ↔ ∀ c, c? = some c → Alphanumeric c := by
  constructor
  · rintro other c rfl
    rcases allowed c (inside c rfl) with alphanumeric | rfl
    · exact alphanumeric
    · exact absurd rfl other
  · intro alphanumeric hyphen
    exact not_alphanumeric_hyphen (alphanumeric '-' hyphen)

theorem isDnsLabel_iff {name : String} : isDnsLabel name = true ↔ Label name := by
  have head : ∀ c ∈ name.toList.head?, c ∈ name.toList := fun c => List.mem_of_head?
  have last : ∀ c ∈ name.toList.getLast?, c ∈ name.toList := fun c => List.mem_of_getLast?
  have some : name.toList ≠ [] ↔ 1 ≤ name.length := by
    rw [← String.length_toList, Nat.one_le_iff_ne_zero, Ne, Ne, List.length_eq_zero_iff]
  rw [isDnsLabel, isLabel_iff, some, String.length_toList]
  simp only [isLabelChar_iff]
  constructor
  · rintro ⟨nonempty, short, allowed, noHyphenFirst, noHyphenLast⟩
    exact ⟨nonempty, short, allowed, (end_ne_hyphen_iff head allowed).mp noHyphenFirst,
      (end_ne_hyphen_iff last allowed).mp noHyphenLast⟩
  · rintro ⟨nonempty, short, allowed, alphanumericFirst, alphanumericLast⟩
    exact ⟨nonempty, short, allowed, (end_ne_hyphen_iff head allowed).mpr alphanumericFirst,
      (end_ne_hyphen_iff last allowed).mpr alphanumericLast⟩

/-! ### Names -/

structure DnsName (name : String) : Prop where
  labels : ∃ labels : List String, labels ≠ [] ∧ (∀ label ∈ labels, Label label) ∧
    name = String.intercalate "." labels
  short : name.length ≤ 253

theorem toList_dot : ".".toList = ['.'] := by decide

theorem isDnsName_iff_dnsName {name : String} : isDnsName name = true ↔ DnsName name := by
  rw [isDnsName_iff]
  constructor
  · rintro ⟨short, each⟩
    refine ⟨⟨(Text.pieces '.' name.toList).map String.ofList, ?_, ?_, ?_⟩, short⟩
    · simpa using Text.pieces_ne_nil '.' name.toList
    · intro label member
      obtain ⟨piece, inside, rfl⟩ := List.mem_map.mp member
      rw [← isDnsLabel_iff, isDnsLabel, String.toList_ofList]
      exact each piece inside
    · rw [Text.intercalate_pieces toList_dot, String.ofList_toList]
  · rintro ⟨⟨labels, several, each, rfl⟩, short⟩
    have plain : ∀ label ∈ labels, '.' ∉ label.toList := fun label member =>
      dot_not_mem_of_isLabel (isDnsLabel_iff.mpr (each label member))
    refine ⟨short, ?_⟩
    intro piece member
    have back := Text.pieces_intercalate toList_dot several plain
    have listed : String.ofList piece ∈ labels := back ▸ List.mem_map_of_mem member
    have label := isDnsLabel_iff.mpr (each _ listed)
    rwa [isDnsLabel, String.toList_ofList] at label

/-! ### Lengths in bytes -/

def isLabelInBytes (name : List Char) : Bool :=
  !name.isEmpty && (String.ofList name).utf8ByteSize ≤ 63 && name.all isLabelChar
    && name.head? ≠ some '-' && name.getLast? ≠ some '-'

/-- The check of labels with the bytes of UTF-8 counted in place of the characters. -/
def isDnsLabelInBytes (name : String) : Bool := isLabelInBytes name.toList

/-- The check of names with the bytes of UTF-8 counted in place of the characters. -/
def isDnsNameInBytes (name : String) : Bool :=
  !name.toList.isEmpty && name.utf8ByteSize ≤ 253
    && (Text.pieces '.' name.toList).all isLabelInBytes

theorem utf8Size_of_isLabelChar {c : Char} (allowed : isLabelChar c = true) : c.utf8Size = 1 := by
  rw [Char.utf8Size_eq_one_iff]
  rcases isLabelChar_iff.mp allowed with (⟨_, below⟩ | ⟨_, below⟩) | rfl
  · exact UInt32.le_trans (Char.le_def.mp below) (by decide)
  · exact UInt32.le_trans (Char.le_def.mp below) (by decide)
  · decide

theorem utf8ByteSize_eq_length {text : List Char} (single : ∀ c ∈ text, c.utf8Size = 1) :
    (String.ofList text).utf8ByteSize = text.length := by
  induction text with
  | nil => rfl
  | cons c rest ih =>
    obtain ⟨first, others⟩ := List.forall_mem_cons.mp single
    rw [String.utf8ByteSize_ofList] at ih ⊢
    rw [String.utf8Len_cons, ih others, first, List.length_cons]

/-- More bytes than characters come with a character that no label has. -/
theorem isLabelInBytes_eq (name : List Char) : isLabelInBytes name = isLabel name := by
  unfold isLabelInBytes isLabel
  by_cases allowed : name.all isLabelChar = true
  · have single : ∀ c ∈ name, c.utf8Size = 1 := fun c member =>
      utf8Size_of_isLabelChar (List.all_eq_true.mp allowed c member)
    rw [utf8ByteSize_eq_length single]
  · simp [allowed]

theorem isDnsNameInBytes_eq (name : String) : isDnsNameInBytes name = isDnsName name := by
  have labels : isLabelInBytes = isLabel := funext isLabelInBytes_eq
  rw [isDnsNameInBytes, isDnsName, labels]
  by_cases each : (Text.pieces '.' name.toList).all isLabel = true
  · have single : ∀ c ∈ name.toList, c.utf8Size = 1 := by
      intro c member
      rw [← Text.joined_pieces '.' name.toList] at member
      rcases Text.eq_or_mem_of_mem_joined member with rfl | ⟨piece, inside, held⟩
      · decide
      · have label := isLabel_iff.mp (List.all_eq_true.mp each piece inside)
        exact utf8Size_of_isLabelChar (label.2.2.1 c held)
    have size := utf8ByteSize_eq_length single
    rw [String.ofList_toList] at size
    rw [size]
  · simp [each]

/-- Labels and names are accepted as the grammar has it. A name in front of a name is a name if the
whole is short enough. Whether lengths are counted in bytes or in characters does not matter. -/
theorem checks_accept_grammar :
    (∀ name, isDnsLabel name = true ↔ Label name) ∧
    (∀ name, isDnsName name = true ↔ DnsName name) ∧
    (∀ first second : String, isDnsName (first ++ "." ++ second) = true ↔
      isDnsName first = true ∧ isDnsName second = true ∧
        (first ++ "." ++ second).length ≤ 253) ∧
    ∀ name, isDnsLabelInBytes name = isDnsLabel name ∧ isDnsNameInBytes name = isDnsName name := by
  refine ⟨fun _ => isDnsLabel_iff, fun _ => isDnsName_iff_dnsName, ?_, ?_⟩
  · intro first second
    rw [isDnsName_join_iff, length_join]
  · intro name
    exact ⟨isLabelInBytes_eq name.toList, isDnsNameInBytes_eq name⟩

/-! ### Mail addresses -/

/-- An account and a host with an at sign between them, and none in them. -/
def MailAddress (address : String) : Prop :=
  ∃ account host : String, address = account ++ "@" ++ host ∧ account ≠ "" ∧
    '@' ∉ account.toList ∧ '@' ∉ host.toList ∧ '.' ∈ host.toList

theorem isMailAddress_iff {address : String} :
    isMailAddress address = true ↔ MailAddress address := by
  have text (account host : String) : (account ++ "@" ++ host).toList =
      account.toList ++ '@' :: host.toList := by
    simp [String.toList_append]
  unfold isMailAddress
  constructor
  · intro accepted
    split at accepted
    · rename_i account host cut
      obtain ⟨whole, accountPlain, hostPlain⟩ := Text.pieces_eq_pair_iff.mp cut
      obtain ⟨nonempty, dotted⟩ := Bool.and_eq_true_iff.mp accepted
      refine ⟨String.ofList account, String.ofList host, ?_, ?_, ?_, ?_, ?_⟩
      · rw [← String.toList_inj, text, whole, String.toList_ofList, String.toList_ofList]
      · simpa [← String.toList_inj] using nonempty
      · rwa [String.toList_ofList]
      · rwa [String.toList_ofList]
      · rw [String.toList_ofList]
        exact List.contains_iff_mem.mp dotted
    · cases accepted
  · rintro ⟨account, host, rfl, nonempty, accountPlain, hostPlain, dotted⟩
    have cut := Text.pieces_eq_pair_iff.mpr ⟨text account host, accountPlain, hostPlain⟩
    rw [cut]
    have some : account.toList ≠ [] := by simpa using nonempty
    simp [some, dotted]

end PlatformManifests.Naming
