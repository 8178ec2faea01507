import PlatformManifests.Proofs.Hosts

/-!
Names put together from valid parts. A valid name in front of a valid name is valid if the whole is
short enough, and only then. The configuration limits the parts alone.
-/
namespace PlatformManifests

namespace Naming

theorem isLabel_iff {name : List Char} :
    isLabel name = true ↔ name ≠ [] ∧ name.length ≤ 63 ∧ (∀ c ∈ name, isLabelChar c = true) ∧
      name.head? ≠ some '-' ∧ name.getLast? ≠ some '-' := by
  simp [isLabel, and_assoc]

theorem dot_not_mem_of_isLabel {name : List Char} (label : isLabel name = true) : '.' ∉ name := by
  intro member
  have allowed := (isLabel_iff.mp label).2.2.1 '.' member
  exact absurd allowed (by decide)

/-- What follows a label may make it too long, and does no other harm if it ends well. -/
theorem isLabel_append_iff {name ending : List Char} (label : isLabel name = true)
    (allowed : ∀ c ∈ ending, isLabelChar c = true) (nonempty : ending ≠ [])
    (last : ending.getLast? ≠ some '-') :
    isLabel (name ++ ending) = true ↔ name.length + ending.length ≤ 63 := by
  obtain ⟨nameNonempty, _, nameAllowed, first, _⟩ := isLabel_iff.mp label
  have whole : ∀ c ∈ name ++ ending, isLabelChar c = true :=
    List.forall_mem_append.mpr ⟨nameAllowed, allowed⟩
  have head : (name ++ ending).head? = name.head? := List.head?_append_of_ne_nil name nameNonempty
  have end? : (name ++ ending).getLast? = ending.getLast? :=
    List.getLast?_append_of_ne_nil name nonempty
  rw [isLabel_iff, head, end?, List.length_append]
  constructor
  · rintro ⟨_, short, _⟩
    exact short
  · intro short
    exact ⟨List.append_ne_nil_of_left_ne_nil nameNonempty ending, short, whole, first, last⟩

/-- There is always a piece, so the text itself need not be said to be nonempty. -/
theorem isDnsName_iff {name : String} :
    isDnsName name = true ↔
      name.length ≤ 253 ∧ ∀ piece ∈ Text.pieces '.' name.toList, isLabel piece = true := by
  have nonempty (labels : ∀ piece ∈ Text.pieces '.' name.toList, isLabel piece = true) :
      name.toList ≠ [] := by
    intro empty
    rw [empty] at labels
    exact absurd (labels [] List.mem_cons_self) (by decide)
  rw [isDnsName, Bool.and_eq_true, Bool.and_eq_true, List.all_eq_true, decide_eq_true_eq,
    String.length_toList]
  constructor
  · rintro ⟨⟨_, short⟩, labels⟩
    exact ⟨short, labels⟩
  · rintro ⟨short, labels⟩
    exact ⟨⟨by simpa using nonempty labels, short⟩, labels⟩

theorem isDnsName_iff_of_no_dot {name : String} (plain : '.' ∉ name.toList) :
    isDnsName name = true ↔ isDnsLabel name = true := by
  rw [isDnsName_iff, Text.pieces_of_not_mem plain, List.forall_mem_singleton]
  constructor
  · rintro ⟨_, label⟩
    exact label
  · intro label
    have short := (isLabel_iff.mp label).2.1
    rw [String.length_toList] at short
    exact ⟨by omega, label⟩

theorem isDnsName_of_isDnsLabel {name : String} (label : isDnsLabel name = true) :
    isDnsName name = true :=
  (isDnsName_iff_of_no_dot (dot_not_mem_of_isLabel label)).mpr label

theorem length_join (first second : String) :
    (first ++ "." ++ second).length = first.length + 1 + second.length := by
  have dot : ".".length = 1 := by decide
  rw [String.length_append, String.length_append, dot]

/-- Both parts are valid, and the whole is short enough. -/
theorem isDnsName_join_iff {first second : String} :
    isDnsName (first ++ "." ++ second) = true ↔
      isDnsName first = true ∧ isDnsName second = true ∧
        first.length + 1 + second.length ≤ 253 := by
  have text : (first ++ "." ++ second).toList = first.toList ++ '.' :: second.toList := by
    simp [String.toList_append]
  rw [isDnsName_iff, isDnsName_iff, isDnsName_iff, text, length_join,
    Text.pieces_append_separator, List.forall_mem_append]
  constructor
  · rintro ⟨short, firstLabels, secondLabels⟩
    exact ⟨⟨by omega, firstLabels⟩, ⟨by omega, secondLabels⟩, short⟩
  · rintro ⟨⟨_, firstLabels⟩, ⟨_, secondLabels⟩, short⟩
    exact ⟨short, firstLabels, secondLabels⟩

end Naming

/-! ### Names that a configuration leads to -/

namespace Configuration

variable {config : Configuration}

theorem isDnsName_host_iff (valid : config.validate = .ok ()) {subdomain : String}
    (member : subdomain ∈ config.subdomains.fields.map Prod.snd) :
    Naming.isDnsName (config.host subdomain) = true ↔
      subdomain.length + 1 + config.domain.length ≤ 253 := by
  obtain ⟨_, domain, subdomains, _⟩ := validate_eq_ok.mp valid
  obtain ⟨entry, inside, rfl⟩ := List.mem_map.mp member
  have label := (Subdomains.violationsAfter_eq_nil.mp subdomains).1 entry inside
  have nonempty : entry.2.isEmpty = false := by
    rw [Bool.eq_false_iff]
    intro empty
    rw [String.isEmpty_iff.mp empty] at label
    exact absurd label (by decide)
  have name := Naming.isDnsName_of_isDnsLabel label
  rw [host, nonempty, if_neg Bool.false_ne_true, Naming.isDnsName_join_iff]
  simp only [name, domain, true_and]

theorem isDnsName_tlsSecretName_iff (valid : config.validate = .ok ()) :
    Naming.isDnsName config.tlsSecretName = true ↔ config.space.length ≤ 59 := by
  have label : Naming.isLabel config.space.toList = true := (validate_eq_ok.mp valid).1
  have text : config.tlsSecretName.toList = config.space.toList ++ "-tls".toList :=
    String.toList_append
  have plain : '.' ∉ config.tlsSecretName.toList := by
    rw [text, List.mem_append]
    rintro (inSpace | inEnding)
    · exact Naming.dot_not_mem_of_isLabel label inSpace
    · exact absurd inEnding (by decide)
  have allowed := List.all_eq_true.mp (by decide : "-tls".toList.all Naming.isLabelChar = true)
  have fits := Naming.isLabel_append_iff label allowed (by decide) (by decide)
  rw [Naming.isDnsName_iff_of_no_dot plain, Naming.isDnsLabel, text, fits, String.length_toList]
  have four : "-tls".toList.length = 4 := by decide
  omega

/-- Of the names that an accepted configuration leads to, the domain itself is always valid. The
hosts of subdomains are valid exactly if they have no more than 253 characters, and the name for
certificates exactly if that of the namespace leaves room for its ending. -/
theorem derived_names_valid_iff_short (valid : config.validate = .ok ()) :
    config.hosts = (("" :: config.subdomains.fields.map Prod.snd).map config.host) ∧
    Naming.isDnsName (config.host "") = true ∧
    (∀ subdomain ∈ config.subdomains.fields.map Prod.snd,
      Naming.isDnsName (config.host subdomain) = true ↔
        subdomain.length + 1 + config.domain.length ≤ 253) ∧
    (Naming.isDnsName config.tlsSecretName = true ↔ config.space.length ≤ 59) := by
  have domain : Naming.isDnsName config.domain = true := (validate_eq_ok.mp valid).2.1
  exact ⟨rfl, domain, fun _ => isDnsName_host_iff valid, isDnsName_tlsSecretName_iff valid⟩

theorem derived_names_valid_demonstration :
    demonstration.validate = .ok () ∧ (∀ host ∈ demonstration.hosts, Naming.isDnsName host = true) ∧
      Naming.isDnsName demonstration.tlsSecretName = true := by
  obtain ⟨hosts, apex, subdomains, secret⟩ := derived_names_valid_iff_short demonstration_valid
  have short : ∀ subdomain ∈ demonstration.subdomains.fields.map Prod.snd,
      subdomain.length + 1 + demonstration.domain.length ≤ 253 := by decide +kernel
  refine ⟨demonstration_valid, ?_, secret.mpr (by decide +kernel)⟩
  rw [hosts, List.map_cons, List.forall_mem_cons, List.forall_mem_map]
  exact ⟨apex, fun subdomain member => (subdomains subdomain member).mpr (short subdomain member)⟩

/-! ### Names as long as they may be -/

def labelOfSize (size : Nat) : String := String.ofList (List.replicate size 'a')

@[simp] theorem length_labelOfSize (size : Nat) : (labelOfSize size).length = size := by
  rw [labelOfSize, String.length_ofList, List.length_replicate]

theorem isDnsLabel_labelOfSize {size : Nat} (some : 0 < size) (short : size ≤ 63) :
    Naming.isDnsLabel (labelOfSize size) = true := by
  rw [Naming.isDnsLabel, labelOfSize, String.toList_ofList, Naming.isLabel_iff]
  have nonempty : size ≠ 0 := by omega
  refine ⟨by simp [nonempty], by simpa using short, ?_, ?_, ?_⟩
  · intro c member
    rw [List.eq_of_mem_replicate member]
    decide
  · simp [List.head?_replicate, nonempty]
  · simp [List.getLast?_replicate, nonempty]

def longest : Configuration :=
  { demonstration with
    space := labelOfSize 63
    domain := labelOfSize 63 ++ "." ++
      (labelOfSize 63 ++ "." ++ (labelOfSize 63 ++ "." ++ labelOfSize 61)) }

theorem length_longest_domain : longest.domain.length = 253 := by
  simp only [longest, Naming.length_join, length_labelOfSize]

theorem longest_valid : longest.validate = .ok () := by
  have space := isDnsLabel_labelOfSize (by decide : 0 < 63) (by decide)
  have last := isDnsLabel_labelOfSize (by decide : 0 < 61) (by decide)
  have domain : Naming.isDnsName longest.domain = true := by
    simp only [longest, Naming.isDnsName_join_iff, Naming.isDnsName_of_isDnsLabel space,
      Naming.isDnsName_of_isDnsLabel last, Naming.length_join, length_labelOfSize, true_and]
    decide
  exact validate_eq_ok.mpr ⟨space, domain, (validate_eq_ok.mp demonstration_valid).2.2⟩

/-- Validation accepts them, though nothing fits in front of the domain or behind the namespace. -/
theorem derived_names_invalid_longest :
    longest.validate = .ok () ∧
      (∀ subdomain ∈ longest.subdomains.fields.map Prod.snd,
        Naming.isDnsName (longest.host subdomain) = false) ∧
      Naming.isDnsName longest.tlsSecretName = false := by
  have space : longest.space.length = 63 := length_labelOfSize 63
  refine ⟨longest_valid, ?_, ?_⟩
  · intro subdomain member
    rw [Bool.eq_false_iff, Ne, isDnsName_host_iff longest_valid member, length_longest_domain]
    omega
  · rw [Bool.eq_false_iff, Ne, isDnsName_tlsSecretName_iff longest_valid, space]
    omega

end Configuration

end PlatformManifests
