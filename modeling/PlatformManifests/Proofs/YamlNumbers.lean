import Mathlib.Data.List.Basic
import PlatformManifests.Yaml.Scalar

/-!
Whole numbers as plain scalars. A number that is written in decimal digits stands for itself: its
digits have no base mark and no superfluous zero, and are neither a null nor a truth value.
-/
namespace PlatformManifests.Yaml.Scalar

/-! ### Digits -/

theorem digitValue?_of_isDigit {c : Char} (digit : c.isDigit) :
    digitValue? 10 c = some (c.toNat - '0'.toNat) := by
  have bounds : 48 ≤ c.toNat ∧ c.toNat ≤ 57 := Char.isDigit_iff_toNat.mp digit
  have below : c.toNat - 48 < 10 := by omega
  rw [digitValue?, if_pos digit]
  exact if_pos below

theorem foldl_digits {digits : List Char} (all : ∀ c ∈ digits, c.isDigit) (start : Nat) :
    digits.foldl (fun sum c => do some ((← sum) * 10 + (← digitValue? 10 c))) (some start) =
      some (Nat.ofDigitChars 10 digits start) := by
  induction digits generalizing start with
  | nil => rfl
  | cons c rest ih =>
    obtain ⟨first, later⟩ := List.forall_mem_cons.mp all
    rw [List.foldl_cons, digitValue?_of_isDigit first, Nat.ofDigitChars_cons, Nat.mul_comm]
    exact ih later _

theorem digits?_eq_some {digits : List Char} (all : ∀ c ∈ digits, c.isDigit)
    (written : digits ≠ []) : digits? 10 digits = some (Nat.ofDigitChars 10 digits 0) := by
  have nonempty : ¬ digits.isEmpty := mt List.isEmpty_iff.mp written
  rw [digits?, if_neg nonempty, foldl_digits all]

/-- Only zero is written with a zero in front. -/
theorem head?_toDigits_ne_zero {number : Nat} (positive : 0 < number) :
    (Nat.toDigits 10 number).head? ≠ some '0' := by
  induction number using Nat.strongRecOn with
  | ind number ih =>
    by_cases small : number < 10
    · have single : ∀ digit < 10, 0 < digit → digit.digitChar ≠ '0' := by decide
      rw [Nat.toDigits_of_lt_base small, List.head?_cons]
      exact fun same => single number small positive (Option.some.inj same)
    · have written : Nat.toDigits 10 (number / 10) ≠ [] :=
        List.ne_nil_of_length_pos Nat.length_toDigits_pos
      rw [Nat.toDigits_of_base_le (by decide) (by omega), List.head?_append_of_ne_nil _ written]
      exact ih (number / 10) (by omega) (by omega)

section Digits

variable {c : Char} {rest : List Char}

theorem marked?_eq_none (nonzero : c ≠ '0') : marked? (c :: rest) = none := by
  unfold marked?
  split <;> first | rfl | simp_all

theorem dropSign_of_isDigit (digit : c.isDigit) : dropSign (c :: rest) = c :: rest := by
  unfold dropSign
  split <;> simp_all

theorem isPadded_eq_false (digit : c.isDigit) (nonzero : c ≠ '0') :
    isPadded (c :: rest) = false := by
  rw [isPadded, dropSign_of_isDigit digit]
  split <;> simp_all

theorem magnitude?_digits (all : ∀ digit ∈ c :: rest, digit.isDigit) (nonzero : c ≠ '0') :
    magnitude? (c :: rest) (c :: rest) = some (Nat.ofDigitChars 10 (c :: rest) 0) := by
  have digit := all c List.mem_cons_self
  rw [magnitude?, marked?_eq_none nonzero, isPadded_eq_false digit nonzero]
  exact digits?_eq_some all (List.cons_ne_nil _ _)

theorem whole?_digits (all : ∀ digit ∈ c :: rest, digit.isDigit) (nonzero : c ≠ '0') :
    whole? (c :: rest) = some (false, Nat.ofDigitChars 10 (c :: rest) 0) := by
  have digit := all c List.mem_cons_self
  rw [whole?, magnitude?_digits all nonzero]
  · rfl
  · rintro _ ⟨⟩
    cases digit
  · rintro _ ⟨⟩
    cases digit

end Digits

theorem whole?_toDigits (number : Nat) :
    whole? (Nat.toDigits 10 number) = some (false, number) := by
  rcases Nat.eq_zero_or_pos number with rfl | positive
  · rfl
  · have all : ∀ digit ∈ Nat.toDigits 10 number, digit.isDigit := fun _ member =>
      Nat.isDigit_of_mem_toDigits (by decide) (by decide) member
    have leading := head?_toDigits_ne_zero positive
    have value : Nat.ofDigitChars 10 (Nat.toDigits 10 number) 0 = number :=
      Nat.ofDigitChars_ten_toDigits
    cases digits : Nat.toDigits 10 number with
    | nil =>
      rw [digits] at value
      exact absurd value (Nat.ne_of_lt positive)
    | cons c rest =>
      rw [digits] at all leading value
      rw [whole?_digits all fun same => leading (congrArg some same), value]

/-! ### Scalars -/

theorem natural?_toString {number : Nat} (narrow : number ≤ 18446744073709551615) :
    natural? (toString number).toList = some number := by
  have digits : (toString number).toList = Nat.toDigits 10 number := Nat.toList_repr
  rw [natural?, digits, whole?_toDigits]
  exact if_pos narrow

theorem int?_toString {number : Nat} (narrow : number ≤ 18446744073709551615) :
    int? (toString number).toList = some (.int number) := by
  have digits : (toString number).toList = Nat.toDigits 10 number := Nat.toList_repr
  have held : isNarrow number := by
    rw [isNarrow, Bool.and_eq_true, decide_eq_true_iff, decide_eq_true_iff]
    omega
  rw [int?, digits, whole?_toDigits]
  exact if_pos held

section Whole

variable {text : List Char} {scalar : Scalar}

theorem not_mem_of_int? (given : int? text = some scalar) {words : List (List Char)}
    (none : ∀ word ∈ words, int? word = none) : text ∉ words := by
  intro listed
  rw [none text listed] at given
  cases given

theorem isNull_eq_false (given : int? text = some scalar) : isNull text = false :=
  Bool.eq_false_iff.mpr
    (mt List.contains_iff_mem.mp (not_mem_of_int? given (by decide)))

theorem bool?_eq_none (given : int? text = some scalar) : bool? text = none := by
  rw [bool?, if_neg (mt List.contains_iff_mem.mp (not_mem_of_int? given (by decide))),
    if_neg (mt List.contains_iff_mem.mp (not_mem_of_int? given (by decide)))]

end Whole

theorem ofPlain_of_int? {text : String} {scalar : Scalar} (given : int? text.toList = some scalar) :
    ofPlain text = scalar := by
  simp only [ofPlain, isNull_eq_false given, bool?_eq_none given, given]
  rfl

end PlatformManifests.Yaml.Scalar
