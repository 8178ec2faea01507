import Mathlib.Data.List.TakeWhile
import PlatformManifests.Json.Printer
import PlatformManifests.Json.Reader
import PlatformManifests.Proofs.Dictionary
import PlatformManifests.Proofs.YamlNumbers

/-!
Written JSON reads back. A tree without binary64 numbers, whose whole numbers fit 64 bits and whose
objects list their members by ascending name, is what its indented text is read as.
-/
namespace PlatformManifests.Json

/-! ### Quoted text -/

theorem hexValue?_hexDigit (value : Nat) : hexValue? (hexDigit value) = some (value % 16) := by
  have all : ∀ digit < 16, hexValue? ((Nat.toDigits 16 digit).headD '0') = some digit := by
    decide +kernel
  exact all (value % 16) (Nat.mod_lt _ (by decide))

theorem readCodePoint?_control {c : Char} (control : c.toNat < 0x20) (rest : List Char) :
    readCodePoint? ('0' :: '0' :: hexDigit (c.toNat / 16) :: hexDigit c.toNat :: rest) =
      some (c, rest) := by
  have unit : readUnit? ('0' :: '0' :: hexDigit (c.toNat / 16) :: hexDigit c.toNat :: rest) =
      some (c.toNat, rest) := by
    have zero : hexValue? '0' = some 0 := by decide
    have value : ((0 * 16 + 0) * 16 + c.toNat / 16 % 16) * 16 + c.toNat % 16 = c.toNat := by omega
    simp only [readUnit?, hexValue?_hexDigit, zero, Option.bind_eq_bind, Option.bind_some, value]
  have low : ¬ (0xD800 ≤ c.toNat ∧ c.toNat < 0xDC00) := by omega
  have high : ¬ (0xDC00 ≤ c.toNat ∧ c.toNat < 0xE000) := by omega
  rw [readCodePoint?, unit, Option.bind_eq_bind, Option.bind_some]
  simp only [if_neg low, if_neg high, Char.ofNat_toNat]

/-- A written character is read as itself, and reading goes on behind it. -/
theorem readQuoted?_escaped (fuel : Nat) (done : List Char) (c : Char) (rest : List Char) :
    readQuoted? (fuel + 1) done (escaped c ++ rest) = readQuoted? fuel (c :: done) rest := by
  have named : ∀ {letter : Char}, readEscape? (letter :: rest) = some (c, rest) →
      readQuoted? (fuel + 1) done ('\\' :: letter :: rest) = readQuoted? fuel (c :: done) rest := by
    intro letter known
    rw [readQuoted?, known]
    rfl
  unfold escaped
  split_ifs with quote slash backspace feed line carriage tab control
  · subst quote
    exact named rfl
  · subst slash
    exact named rfl
  · subst backspace
    exact named rfl
  · subst feed
    exact named rfl
  · subst line
    exact named rfl
  · subst carriage
    exact named rfl
  · subst tab
    exact named rfl
  · have known : readEscape? ('u' :: '0' :: '0' :: hexDigit (c.toNat / 16) :: hexDigit c.toNat ::
        rest) = some (c, rest) := readCodePoint?_control control rest
    simp only [List.cons_append, List.nil_append]
    rw [readQuoted?, known]
    rfl
  · rw [List.singleton_append, readQuoted?]
    · exact if_neg control
    · exact quote
    · exact slash

theorem readQuoted?_flatMap_escaped {text : List Char} {fuel : Nat}
    (enough : text.length < fuel) (done rest : List Char) :
    readQuoted? fuel done (text.flatMap escaped ++ '"' :: rest) =
      some (String.ofList (done.reverse ++ text), rest) := by
  induction text generalizing fuel done with
  | nil =>
    obtain ⟨more, rfl⟩ := Nat.exists_eq_add_one_of_ne_zero (Nat.ne_of_gt enough)
    rw [List.flatMap_nil, List.nil_append, readQuoted?, List.append_nil]
  | cons c later ih =>
    obtain ⟨more, rfl⟩ := Nat.exists_eq_add_one_of_ne_zero (Nat.ne_of_gt (Nat.zero_lt_of_lt enough))
    rw [List.flatMap_cons, List.append_assoc, readQuoted?_escaped,
      ih (Nat.lt_of_succ_lt_succ enough), List.reverse_cons, List.append_assoc,
      List.singleton_append]

theorem length_le_flatMap_escaped (text : List Char) :
    text.length ≤ (text.flatMap escaped).length := by
  induction text with
  | nil => exact Nat.le_refl _
  | cons c rest ih =>
    have written : 1 ≤ (escaped c).length := by
      unfold escaped
      split_ifs <;> simp
    rw [List.length_cons, List.flatMap_cons, List.length_append]
    omega

/-- A quoted text behind its first quote. -/
theorem readQuoted?_text (text : String) (rest : List Char) :
    readQuoted? ((text.toList.flatMap escaped ++ '"' :: rest).length + 1) []
      (text.toList.flatMap escaped ++ '"' :: rest) = some (text, rest) := by
  have enough : text.toList.length <
      (text.toList.flatMap escaped ++ '"' :: rest).length + 1 := by
    have written := length_le_flatMap_escaped text.toList
    rw [List.length_append]
    omega
  rw [readQuoted?_flatMap_escaped enough, List.reverse_nil, List.nil_append, String.ofList_toList]

theorem toList_quoted (text : String) :
    (quoted text).toList = '"' :: (text.toList.flatMap escaped ++ ['"']) :=
  String.toList_ofList

/-! ### Whole numbers -/

theorem ofDigits_toDigits (number : Nat) :
    Decimal.ofDigits (Nat.toDigits 10 number) = number := by
  have value : Nat.ofDigitChars 10 (Nat.toDigits 10 number) 0 = number :=
    Nat.ofDigitChars_ten_toDigits
  rw [Nat.ofDigitChars] at value
  rw [Decimal.ofDigits]
  simpa only [Nat.mul_comm 10] using value

theorem isDigit_of_mem_toDigits {number : Nat} {c : Char} (member : c ∈ Nat.toDigits 10 number) :
    c.isDigit :=
  Nat.isDigit_of_mem_toDigits (by decide) (by decide) member

theorem toDigits_not_padded (number : Nat) :
    ¬ (1 < (Nat.toDigits 10 number).length ∧ (Nat.toDigits 10 number).head? = some '0') := by
  rintro ⟨long, padded⟩
  rcases Nat.eq_zero_or_pos number with rfl | positive
  · exact absurd long (by decide)
  · exact Yaml.Scalar.head?_toDigits_ne_zero positive padded

/-- The digits of a number, possibly behind a minus sign. -/
def signed (negative : Bool) (number : Nat) : List Char :=
  (if negative then ['-'] else []) ++ Nat.toDigits 10 number

theorem toList_toString (value : Int) :
    (toString value).toList = signed (decide (value < 0)) value.natAbs := by
  cases value with
  | ofNat number => exact Nat.toList_repr
  | negSucc number =>
    have text : toString (Int.negSucc number) = "-" ++ (number + 1).repr := rfl
    rw [text, String.toList_append, Nat.toList_repr, decide_eq_true (Int.negSucc_lt_zero number)]
    rfl

theorem Numeral.ofText?_digits {digits : List Char} (all : ∀ c ∈ digits, c.isDigit)
    (written : digits ≠ [])
    (unpadded : ¬ (1 < digits.length ∧ digits.head? = some '0')) (negative : Bool) :
    Numeral.ofText? ((if negative then ['-'] else []) ++ digits) =
      some ⟨negative, digits, none, none⟩ := by
  have whole : digits.takeWhile Char.isDigit = digits := List.takeWhile_eq_self_iff.mpr all
  have after : digits.dropWhile Char.isDigit = [] := List.dropWhile_eq_nil_iff.mpr all
  have nonempty : digits.isEmpty = false := List.isEmpty_eq_false_iff.mpr written
  have accepted : (decide (1 < digits.length) && digits.head? == some '0') = false := by
    rw [Bool.eq_false_iff, ne_eq, Bool.and_eq_true, decide_eq_true_iff, beq_iff_eq]
    exact unpadded
  have bare : ∀ rest, digits = '-' :: rest → False := by
    rintro rest rfl
    exact absurd (all '-' List.mem_cons_self) (by decide)
  cases negative with
  | true =>
    rw [if_pos rfl, List.singleton_append, Numeral.ofText?]
    simp only [whole, after, nonempty, accepted]
    rfl
  | false =>
    rw [if_neg Bool.false_ne_true, List.nil_append, Numeral.ofText?]
    · simp only [whole, after, nonempty, accepted]
      rfl
    · exact bare

theorem number?_toString {value : Int} (low : -9223372036854775808 ≤ value)
    (high : value < 18446744073709551616) :
    number? (toString value).toList = some (.int value) := by
  have digits : ∀ c ∈ Nat.toDigits 10 value.natAbs, c.isDigit := fun _ => isDigit_of_mem_toDigits
  have written : Nat.toDigits 10 value.natAbs ≠ [] :=
    List.ne_nil_of_length_pos Nat.length_toDigits_pos
  have numeral : Numeral.ofText? (toString value).toList =
      some ⟨decide (value < 0), Nat.toDigits 10 value.natAbs, none, none⟩ := by
    rw [toList_toString]
    exact Numeral.ofText?_digits digits written (toDigits_not_padded _) _
  have whole : Numeral.integer? ⟨decide (value < 0), Nat.toDigits 10 value.natAbs, none, none⟩ =
      some value := by
    have size : (if value < 0 then -(value.natAbs : Int) else value.natAbs) = value := by
      split <;> omega
    have plain : (decide (value < 0) && decide (value.natAbs = 0)) = false := by
      rw [← Bool.decide_and]
      exact decide_eq_false (by omega)
    unfold Numeral.integer?
    simp only [ofDigits_toDigits, decide_eq_true_eq, size, plain, decide_eq_true low,
      decide_eq_true high]
    rfl
  rw [number?, numeral, Option.bind_eq_bind, Option.bind_some, whole]

theorem isNumberChar_of_mem_toString {value : Int} {c : Char}
    (member : c ∈ (toString value).toList) : isNumberChar c := by
  rw [toList_toString, signed] at member
  rcases List.mem_append.mp member with sign | digit
  · split at sign
    · cases List.mem_singleton.mp sign
      rfl
    · cases sign
  · rw [isNumberChar, isDigit_of_mem_toDigits digit]
    rfl

/-! ### Blanks -/

/-- No part of a number comes first. -/
def Apart (rest : List Char) : Prop := ∀ c ∈ rest.head?, isNumberChar c = false

theorem apart_nil : Apart [] := nofun

theorem skipBlank_newLine (level : Nat) (rest : List Char) :
    skipBlank ((newLine level).toList ++ rest) = skipBlank rest := by
  have blank : ∀ c ∈ (newLine level).toList, isBlank c := by
    intro c member
    simp only [newLine, String.toList_append, String.toList_ofList, List.mem_append] at member
    rcases member with first | later
    · cases List.mem_singleton.mp first
      rfl
    · cases List.eq_of_mem_replicate later
      rfl
  exact List.dropWhile_append_of_pos blank

theorem skipBlank_space (rest : List Char) : skipBlank (' ' :: rest) = skipBlank rest := rfl

theorem skipBlank_of_not {c : Char} (solid : isBlank c = false) (rest : List Char) :
    skipBlank (c :: rest) = c :: rest := by
  rw [skipBlank, List.dropWhile_cons, if_neg (Bool.eq_false_iff.mp solid)]

theorem readValue?_congr {first second : List Char} (same : skipBlank first = skipBlank second)
    (fuel : Nat) : readValue? fuel first = readValue? fuel second := by
  cases fuel with
  | zero => rfl
  | succ fuel =>
    unfold readValue?
    rw [same]

theorem readItems?_congr {first second : List Char} (same : skipBlank first = skipBlank second)
    (fuel : Nat) (done : List Json) : readItems? fuel done first = readItems? fuel done second := by
  cases fuel with
  | zero => rfl
  | succ fuel =>
    unfold readItems?
    rw [readValue?_congr same]

theorem readMembers?_congr {first second : List Char} (same : skipBlank first = skipBlank second)
    (fuel : Nat) (done : Dict Json) :
    readMembers? fuel done first = readMembers? fuel done second := by
  cases fuel with
  | zero => rfl
  | succ fuel =>
    unfold readMembers?
    rw [same]

/-! ### Values -/

/-- No binary64 numbers, no whole numbers beyond 64 bits, and all members by ascending name. -/
inductive Tidy : Json → Prop
  | null : Tidy .null
  | bool (value : Bool) : Tidy (.bool value)
  | int (value : Int) (low : -9223372036854775808 ≤ value) (high : value < 18446744073709551616) :
    Tidy (.int value)
  | str (value : String) : Tidy (.str value)
  | array (items : List Json) (each : ∀ item ∈ items, Tidy item) : Tidy (.array items)
  | object (members : List (String × Json)) (sorted : Ascending members)
      (each : ∀ member ∈ members, Tidy member.2) : Tidy (.object members)

theorem Tidy.member {members : List (String × Json)} (tidy : (Json.object members).Tidy)
    {entry : String × Json} (inside : entry ∈ members) : entry.2.Tidy := by
  cases tidy with
  | object _ _ each => exact each entry inside

/-- A value that its indented text is read as, with any text behind it left. -/
structure Reads (json : Json) : Prop where
  opens (level : Nat) :
    ∃ c rest, (json.prettyAt level).toList = c :: rest ∧ isBlank c = false ∧ c ≠ ']'
  reads {level fuel : Nat} {rest : List Char}
    (enough : (json.prettyAt level).toList.length ≤ fuel + 1) (apart : Apart rest) :
    readValue? (fuel + 1) ((json.prettyAt level).toList ++ rest) = some (json, rest)

theorem Reads.written {json : Json} (reads : json.Reads) (level : Nat) :
    0 < (json.prettyAt level).toList.length := by
  obtain ⟨c, rest, text, _⟩ := reads.opens level
  rw [text]
  exact Nat.succ_pos _

theorem reads_null : Json.null.Reads where
  opens level := ⟨'n', ['u', 'l', 'l'], by rw [prettyAt]; rfl, rfl, by decide⟩
  reads _ _ := by
    rw [prettyAt]
    rfl

theorem reads_bool (value : Bool) : (Json.bool value).Reads where
  opens level := by
    rw [prettyAt]
    cases value with
    | true => exact ⟨_, _, rfl, rfl, by decide⟩
    | false => exact ⟨_, _, rfl, rfl, by decide⟩
  reads _ _ := by
    rw [prettyAt]
    cases value with
    | true => rfl
    | false => rfl

theorem reads_str (value : String) : (Json.str value).Reads where
  opens level := by
    rw [prettyAt, toList_quoted]
    exact ⟨_, _, rfl, rfl, by decide⟩
  reads _ _ := by
    rw [prettyAt, toList_quoted, List.cons_append, List.append_assoc, List.singleton_append,
      readValue?, skipBlank_of_not rfl]
    simp only [readQuoted?_text, Option.bind_eq_bind, Option.bind_some]

theorem ne_of_isNumberChar {c : Char} (numeric : isNumberChar c) (other : Char)
    (foreign : isNumberChar other = false) : c ≠ other := by
  rintro rfl
  rw [numeric] at foreign
  cases foreign

theorem isBlank_of_isNumberChar {c : Char} (numeric : isNumberChar c) : isBlank c = false := by
  have space := ne_of_isNumberChar numeric ' ' rfl
  have tab := ne_of_isNumberChar numeric '\t' rfl
  have line := ne_of_isNumberChar numeric '\n' rfl
  have carriage := ne_of_isNumberChar numeric '\r' rfl
  simp [isBlank, space, tab, line, carriage]

theorem readValue?_number {c : Char} {rest : List Char} (numeric : isNumberChar c) (fuel : Nat) :
    readValue? (fuel + 1) (c :: rest) =
      (number? ((c :: rest).takeWhile isNumberChar)).map
        fun value => (value, (c :: rest).dropWhile isNumberChar) := by
  rw [readValue?, skipBlank_of_not (isBlank_of_isNumberChar numeric)]
  split
  case h_7 => cases number? ((c :: rest).takeWhile isNumberChar) <;> rfl
  all_goals
    rename_i same
    injection same with first
    exact absurd first (ne_of_isNumberChar numeric _ rfl)

theorem Apart.takeWhile_eq {rest : List Char} (apart : Apart rest) :
    rest.takeWhile isNumberChar = [] ∧ rest.dropWhile isNumberChar = rest := by
  cases rest with
  | nil => exact ⟨rfl, rfl⟩
  | cons c later =>
    have foreign := Bool.eq_false_iff.mp (apart c rfl)
    rw [List.takeWhile_cons, List.dropWhile_cons, if_neg foreign, if_neg foreign]
    exact ⟨rfl, rfl⟩

theorem reads_int {value : Int} (low : -9223372036854775808 ≤ value)
    (high : value < 18446744073709551616) : (Json.int value).Reads := by
  have all : ∀ c ∈ (toString value).toList, isNumberChar c := fun _ =>
    isNumberChar_of_mem_toString
  have token := number?_toString low high
  obtain ⟨c, digits, text⟩ : ∃ c digits, (toString value).toList = c :: digits := by
    cases text : (toString value).toList with
    | nil =>
      rw [text] at token
      cases token
    | cons c digits => exact ⟨c, digits, rfl⟩
  have numeric : isNumberChar c := all c (text ▸ List.mem_cons_self)
  constructor
  · intro level
    rw [prettyAt]
    exact ⟨c, digits, text, isBlank_of_isNumberChar numeric, ne_of_isNumberChar numeric _ rfl⟩
  · intro level fuel rest _ apart
    obtain ⟨none, whole⟩ := apart.takeWhile_eq
    have taken : (c :: digits ++ rest).takeWhile isNumberChar = c :: digits := by
      rw [← text, List.takeWhile_append_of_pos all, none, List.append_nil]
    have left : (c :: digits ++ rest).dropWhile isNumberChar = rest := by
      rw [← text, List.dropWhile_append_of_pos all, whole]
    rw [prettyAt, text, List.cons_append, readValue?_number numeric, ← List.cons_append, taken,
      left, ← text, token]
    rfl

/-! ### Lists and objects -/

theorem apart_newLine (level : Nat) (rest : List Char) :
    Apart ((newLine level).toList ++ rest) := by
  rw [newLine, String.toList_append]
  rintro _ ⟨⟩
  rfl

theorem apart_comma (rest : List Char) : Apart (',' :: rest) := by
  rintro _ ⟨⟩
  rfl

theorem toList_prettyItems_cons (level : Nat) (next : Json) (rest : List Json) :
    (prettyItems level (next :: rest)).toList = ',' :: ((newLine level).toList ++
      ((prettyAt level next).toList ++ (prettyItems level rest).toList)) := by
  simp only [prettyItems, String.toList_append, List.append_assoc]
  rfl

theorem readItems?_item {item : Json} (reads : item.Reads) {level fuel : Nat} (done : List Json)
    {behind : List Char} (enough : (prettyAt level item).toList.length ≤ fuel + 1)
    (apart : Apart behind) :
    readItems? (fuel + 2) done ((prettyAt level item).toList ++ behind) =
      match skipBlank behind with
      | ',' :: after => readItems? (fuel + 1) (item :: done) after
      | ']' :: after => some (.array (item :: done).reverse, after)
      | _ => none := by
  rw [readItems?, reads.reads enough apart]
  rfl

theorem readItems?_pretty {item : Json} {rest : List Json}
    (each : ∀ entry ∈ item :: rest, entry.Reads) (level close : Nat) {fuel : Nat}
    (done : List Json) (after : List Char)
    (enough : (prettyAt level item).toList.length + (prettyItems level rest).toList.length <
      fuel) :
    readItems? fuel done ((prettyAt level item).toList ++ ((prettyItems level rest).toList ++
      ((newLine close).toList ++ ']' :: after))) =
        some (.array (done.reverse ++ item :: rest), after) := by
  induction rest generalizing item fuel done with
  | nil =>
    have first : item.Reads := each item List.mem_cons_self
    have written := first.written level
    obtain ⟨fuel, rfl⟩ : ∃ more, fuel = more + 2 := ⟨fuel - 2, by omega⟩
    have nothing : (prettyItems level []).toList = [] := rfl
    rw [nothing, List.nil_append, readItems?_item first done (by omega) (apart_newLine close _),
      skipBlank_newLine, skipBlank_of_not rfl]
    simp only [List.reverse_cons]
  | cons next rest ih =>
    obtain ⟨first, others⟩ := List.forall_mem_cons.mp each
    have written := first.written level
    rw [toList_prettyItems_cons] at enough ⊢
    simp only [List.length_cons, List.length_append] at enough
    obtain ⟨fuel, rfl⟩ : ∃ more, fuel = more + 2 := ⟨fuel - 2, by omega⟩
    rw [List.cons_append, readItems?_item first done (by omega) (apart_comma _),
      skipBlank_of_not rfl]
    simp only [List.append_assoc]
    rw [readItems?_congr (skipBlank_newLine level _), ih others (item :: done) (by omega),
      List.reverse_cons, List.append_assoc, List.singleton_append]

theorem readValue?_items {c : Char} {text rest : List Char} (inside : skipBlank text = c :: rest)
    (more : c ≠ ']') (fuel : Nat) :
    readValue? (fuel + 1) ('[' :: text) = readItems? fuel [] text := by
  rw [readValue?, skipBlank_of_not rfl]
  simp only [inside]
  split
  · rename_i same
    injection same with first
    exact absurd first more
  · rfl

theorem reads_array {items : List Json} (each : ∀ item ∈ items, item.Reads) :
    (Json.array items).Reads := by
  cases items with
  | nil =>
    constructor
    · intro level
      exact ⟨'[', [']'], by rw [prettyAt]; rfl, rfl, by decide⟩
    · intro level fuel rest _ _
      rw [prettyAt]
      rfl
  | cons item others =>
    have text : ∀ level, (prettyAt level (.array (item :: others))).toList =
        '[' :: ((newLine (level + 1)).toList ++ ((prettyAt (level + 1) item).toList ++
          ((prettyItems (level + 1) others).toList ++ ((newLine level).toList ++ [']'])))) := by
      intro level
      simp only [prettyAt, String.toList_append, List.append_assoc]
      rfl
    constructor
    · intro level
      exact ⟨_, _, text level, rfl, by decide⟩
    · intro level fuel rest enough _
      obtain ⟨first, _⟩ := List.forall_mem_cons.mp each
      obtain ⟨c, tail, opening, solid, more⟩ := first.opens (level + 1)
      have inside (behind : List Char) : skipBlank ((newLine (level + 1)).toList ++
          ((prettyAt (level + 1) item).toList ++ behind)) = c :: (tail ++ behind) := by
        rw [skipBlank_newLine, opening, List.cons_append, skipBlank_of_not solid]
      rw [text] at enough ⊢
      simp only [List.length_cons, List.length_append] at enough
      simp only [List.cons_append, List.append_assoc, List.nil_append]
      rw [readValue?_items (inside _) more, readItems?_congr (skipBlank_newLine _ _),
        readItems?_pretty each _ _ _ _ (by omega)]
      rfl

theorem insertEntry_last {α : Type} {name : String} {value : α} {entries : List (String × α)}
    (below : ∀ entry ∈ entries, entry.1 < name) :
    insertEntry name value entries = entries ++ [(name, value)] := by
  induction entries with
  | nil => rfl
  | cons head rest ih =>
    obtain ⟨first, others⟩ := List.forall_mem_cons.mp below
    have apart : ¬ name < head.1 := String.lt_asymm first
    have differ : name ≠ head.1 := fun same => String.lt_irrefl name (same ▸ first)
    rw [insertEntry, if_neg apart, if_neg differ, ih others, List.cons_append]

theorem insert_last {name : String} {value : Json} {done : Dict Json}
    {rest : List (String × Json)} (sorted : Ascending (done.entries ++ (name, value) :: rest)) :
    (done.insert name value).entries = done.entries ++ [(name, value)] :=
  insertEntry_last fun entry inside =>
    (List.pairwise_append.mp sorted).2.2 entry inside _ List.mem_cons_self

/-- The characters of a member behind its first quote. -/
def memberText (level : Nat) (name : String) (value : Json) (behind : List Char) : List Char :=
  name.toList.flatMap escaped ++ '"' :: ':' :: ' ' :: ((prettyAt level value).toList ++ behind)

theorem readMembers?_member {value : Json} (reads : value.Reads) (name : String)
    {level fuel : Nat} (done : Dict Json) {behind : List Char}
    (enough : (prettyAt level value).toList.length ≤ fuel + 1) (apart : Apart behind) :
    readMembers? (fuel + 2) done ('"' :: memberText level name value behind) =
      match skipBlank behind with
      | ',' :: after => readMembers? (fuel + 1) (done.insert name value) after
      | '\x7d' :: after => some (.object (done.insert name value).entries, after)
      | _ => none := by
  have colon (rest : List Char) : skipBlank (':' :: rest) = ':' :: rest := skipBlank_of_not rfl rest
  have spaced : readValue? (fuel + 1) (' ' :: ((prettyAt level value).toList ++ behind)) =
      some (value, behind) := by
    rw [readValue?_congr (skipBlank_space _), reads.reads enough apart]
  rw [memberText, readMembers?, skipBlank_of_not rfl]
  simp only [readQuoted?_text, Option.bind_eq_bind, Option.bind_some, colon]
  rw [spaced]
  rfl

theorem toList_prettyMembers_cons (level : Nat) (name : String) (value : Json)
    (rest : List (String × Json)) (behind : List Char) :
    (prettyMembers level ((name, value) :: rest)).toList ++ behind =
      ',' :: ((newLine level).toList ++
        '"' :: memberText level name value ((prettyMembers level rest).toList ++ behind)) := by
  simp only [prettyMembers, String.toList_append, toList_quoted, List.append_assoc,
    List.cons_append, List.nil_append, memberText]
  rfl

theorem readMembers?_pretty {name : String} {value : Json} {rest : List (String × Json)}
    (each : ∀ member ∈ (name, value) :: rest, member.2.Reads) (level close : Nat) {fuel : Nat}
    {done : Dict Json} (sorted : Ascending (done.entries ++ (name, value) :: rest))
    (after : List Char)
    (enough : (prettyAt level value).toList.length + (prettyMembers level rest).toList.length <
      fuel) :
    readMembers? fuel done ('"' :: memberText level name value
      ((prettyMembers level rest).toList ++ ((newLine close).toList ++ '\x7d' :: after))) =
        some (.object (done.entries ++ (name, value) :: rest), after) := by
  induction rest generalizing name value fuel done with
  | nil =>
    have first : value.Reads := each (name, value) List.mem_cons_self
    have written := first.written level
    obtain ⟨fuel, rfl⟩ : ∃ more, fuel = more + 2 := ⟨fuel - 2, by omega⟩
    have nothing : (prettyMembers level []).toList = [] := rfl
    rw [nothing, List.nil_append,
      readMembers?_member first name done (by omega) (apart_newLine close _), skipBlank_newLine,
      skipBlank_of_not rfl]
    simp only [insert_last sorted]
  | cons next rest ih =>
    obtain ⟨other, held⟩ := next
    have first : value.Reads := each (name, value) List.mem_cons_self
    have others := (List.forall_mem_cons.mp each).2
    have written := first.written level
    have lengths := congrArg List.length (toList_prettyMembers_cons level other held rest [])
    simp only [memberText, List.length_cons, List.length_append, List.length_nil] at lengths
    obtain ⟨fuel, rfl⟩ : ∃ more, fuel = more + 2 := ⟨fuel - 2, by omega⟩
    have inserted := insert_last sorted
    have further : Ascending ((done.insert name value).entries ++ (other, held) :: rest) := by
      rw [inserted, List.append_assoc]
      exact sorted
    rw [toList_prettyMembers_cons, readMembers?_member first name done (by omega) (apart_comma _),
      skipBlank_of_not rfl]
    simp only
    rw [readMembers?_congr (skipBlank_newLine level _), ih others further (by omega), inserted,
      List.append_assoc, List.singleton_append]

theorem readValue?_members {text rest : List Char} (inside : skipBlank text = '"' :: rest)
    (fuel : Nat) : readValue? (fuel + 1) ('\x7b' :: text) = readMembers? fuel ∅ text := by
  rw [readValue?, skipBlank_of_not rfl]
  simp only [inside]
  rfl

theorem reads_object {members : List (String × Json)} (sorted : Ascending members)
    (each : ∀ member ∈ members, member.2.Reads) : (Json.object members).Reads := by
  cases members with
  | nil =>
    constructor
    · intro level
      exact ⟨'\x7b', ['\x7d'], by rw [prettyAt]; rfl, rfl, by decide⟩
    · intro level fuel rest _ _
      rw [prettyAt]
      rfl
  | cons member others =>
    obtain ⟨name, value⟩ := member
    have text (level : Nat) (behind : List Char) :
        (prettyAt level (.object ((name, value) :: others))).toList ++ behind =
          '\x7b' :: ((newLine (level + 1)).toList ++ '"' :: memberText (level + 1) name value
            ((prettyMembers (level + 1) others).toList ++
              ((newLine level).toList ++ '\x7d' :: behind))) := by
      simp only [prettyAt, String.toList_append, toList_quoted, List.append_assoc,
        List.cons_append, List.nil_append, memberText]
      rfl
    constructor
    · intro level
      have whole := text level []
      rw [List.append_nil] at whole
      exact ⟨_, _, whole, rfl, by decide⟩
    · intro level fuel rest enough _
      have lengths := congrArg List.length (text level [])
      simp only [memberText, List.length_cons, List.length_append, List.length_nil] at lengths
      have inside (behind : List Char) : skipBlank ((newLine (level + 1)).toList ++ '"' :: behind) =
          '"' :: behind := by
        rw [skipBlank_newLine, skipBlank_of_not rfl]
      have ascending : Ascending ((∅ : Dict Json).entries ++ (name, value) :: others) := sorted
      rw [text, readValue?_members (inside _), readMembers?_congr (skipBlank_newLine _ _),
        readMembers?_pretty each _ _ ascending _ (by omega)]
      rfl

theorem Tidy.reads {json : Json} (tidy : json.Tidy) : json.Reads := by
  induction tidy with
  | null => exact reads_null
  | bool value => exact reads_bool value
  | int value low high => exact reads_int low high
  | str value => exact reads_str value
  | array items each ih => exact reads_array ih
  | object members sorted each ih => exact reads_object sorted ih

/-- Indented JSON reads back as the value that it was written from. -/
theorem Tidy.read?_pretty {json : Json} (tidy : json.Tidy) : read? json.pretty = some json := by
  have enough : (json.prettyAt 0).toList.length ≤ 2 * (json.prettyAt 0).toList.length + 1 + 1 := by
    omega
  have whole := tidy.reads.reads enough apart_nil
  rw [List.append_nil] at whole
  rw [read?, pretty, whole]
  rfl

end PlatformManifests.Json
