import PlatformManifests.Proofs.JsonText
import PlatformManifests.Proofs.Lines
import PlatformManifests.Yaml.Printer

/-!
Printed documents and the marks between them. No line of a printed object is a mark, whatever texts
it holds: text on one line stands behind a key or an indicator, and every further line of a text is
indented or empty.
-/
namespace PlatformManifests.Yaml

open Text

/-! ### Texts on one line -/

theorem exists_digitChar {base number : Nat} (large : 1 < base) {c : Char}
    (member : c ∈ Nat.toDigits base number) : ∃ digit < base, c = Nat.digitChar digit := by
  induction number using Nat.strongRecOn with
  | ind number ih =>
    by_cases small : number < base
    · rw [Nat.toDigits_of_lt_base small] at member
      exact ⟨number, small, List.mem_singleton.mp member⟩
    · rw [Nat.toDigits_of_base_le large (Nat.not_lt.mp small)] at member
      rcases List.mem_append.mp member with early | last
      · exact ih _ (Nat.div_lt_self (by omega) large) early
      · exact ⟨_, Nat.mod_lt _ (by omega), List.mem_singleton.mp last⟩

theorem newline_not_mem_hexDigits (width value : Nat) : '\n' ∉ hexDigits width value := by
  have letters : ∀ digit < 16, (Nat.digitChar digit).toUpper ≠ '\n' := by decide
  intro member
  rcases List.mem_append.mp member with zero | digit
  · cases List.eq_of_mem_replicate zero
  · obtain ⟨c, listed, upper⟩ := List.mem_map.mp digit
    obtain ⟨place, below, rfl⟩ := exists_digitChar (by decide) listed
    exact letters place below upper

theorem newline_not_mem_escapedChar (c : Char) : '\n' ∉ escapedChar c := by
  have digits := newline_not_mem_hexDigits
  unfold escapedChar
  split
  · rename_i letter known
    unfold escapeLetter? at known
    split at known <;> cases known <;> decide
  · rename_i unnamed
    have other : c ≠ '\n' := by
      rintro rfl
      cases unnamed
    split_ifs <;> simp [digits, other.symm]

theorem newline_not_mem_doubleQuoted (text : List Char) : '\n' ∉ doubleQuoted text := by
  have inner : '\n' ∉ text.flatMap escapedChar := by
    rw [List.mem_flatMap]
    rintro ⟨c, _, member⟩
    exact newline_not_mem_escapedChar c member
  simp [doubleQuoted, inner]

theorem newline_not_mem_spaces (count : Nat) : '\n' ∉ spaces count := by
  intro member
  cases List.eq_of_mem_replicate member

theorem newline_not_mem_singleQuotedRest (indent : Nat) {text : List Char} (inner : '\n' ∉ text)
    (fresh : Bool) : '\n' ∉ singleQuotedRest indent fresh text := by
  have start (fresh : Bool) : '\n' ∉ if fresh then spaces indent else [] := by
    split
    · exact newline_not_mem_spaces indent
    · exact List.not_mem_nil
  induction text generalizing fresh with
  | nil => simp [singleQuotedRest, start]
  | cons c rest ih =>
    rw [List.mem_cons, not_or] at inner
    have further := ih inner.2
    rw [singleQuotedRest]
    split_ifs <;> simp_all

/-- Only a literal has more than one line. -/
theorem written_cases (indent : Nat) (text : String) :
    '\n' ∉ written indent text ∨
      '\n' ∈ text.toList ∧ written indent text = literal indent text.toList := by
  have double := newline_not_mem_doubleQuoted text.toList
  unfold written styleOf
  by_cases several : '\n' ∈ text.toList
  · rw [if_pos (List.contains_iff_mem.mpr several)]
    split_ifs
    · exact .inr ⟨several, rfl⟩
    · exact .inl double
  · have single : '\n' ∉ singleQuoted indent text.toList := by
      have rest := newline_not_mem_singleQuotedRest indent several false
      simp [singleQuoted, rest]
    rw [if_neg (mt List.contains_iff_mem.mp several)]
    split_ifs
    · exact .inl several
    · exact .inl single
    · exact .inl double

/-! ### Literals -/

theorem safe_literalLines (indent : Nat) (text : List Char) :
    Safe (literalLines (indent + 1) true text) ∧
      ∀ start, Solid start → Safe (start ++ literalLines (indent + 1) false text) := by
  induction text with
  | nil => exact ⟨safe_nil, fun start solid => by simpa [literalLines] using solid.safe⟩
  | cons c rest ih =>
    obtain ⟨fresh, further⟩ := ih
    by_cases ends : isBreak c
    · have apart : Safe [c] := safe_of_not_mem (by simp; rintro rfl; cases ends)
      simp only [literalLines, if_pos ends]
      exact ⟨apart.append fresh, fun start solid => solid.safe.append (apart.append fresh)⟩
    · have inner : '\n' ∉ [c] := by simp; rintro rfl; exact ends rfl
      have indented : Solid (spaces (indent + 1)) :=
        ⟨newline_not_mem_spaces _, ' ', List.mem_cons_self, by decide⟩
      simp only [literalLines, if_neg ends, if_true, Bool.false_eq_true, if_false, List.nil_append]
      constructor
      · rw [List.append_cons]
        exact further _ (indented.append inner)
      · intro start solid
        rw [List.append_cons]
        exact further _ (solid.append inner)

theorem newline_not_mem_chomping (text : List Char) : '\n' ∉ chomping text := by
  unfold chomping
  split
  · decide
  · split <;> decide
  · split_ifs <;> decide

theorem safe_literal (indent : Nat) (text : List Char) : Safe (literal (indent + 1) text) := by
  have header : Solid ('|' ::
      ((if text.head?.any fun c => isSpace c || isBreak c then ['2'] else []) ++ chomping text)) := by
    refine ⟨?_, '|', List.mem_cons_self, by decide⟩
    have hint : '\n' ∉ if text.head?.any fun c => isSpace c || isBreak c then ['2'] else [] := by
      split <;> decide
    simp [hint, newline_not_mem_chomping]
  have line : Safe ['\n'] := safe_of_not_mem (by decide)
  have whole := header.safe.append (line.append (safe_literalLines indent text).1)
  simpa [literal] using whole

theorem safe_written {start : List Char} (solid : Solid start) (indent : Nat) (text : String) :
    Safe (start ++ written (indent + 1) text) := by
  rcases written_cases (indent + 1) text with inner | ⟨_, several⟩
  · exact (solid.append inner).safe
  · rw [several]
    exact solid.safe.append (safe_literal indent _)

theorem safe_endLine {text : List Char} {start : List Char} (safe : Safe (start ++ text)) :
    Safe (start ++ endLine text) := by
  rw [endLine]
  split
  · exact safe
  · rw [← List.append_assoc]
    exact safe.append (safe_of_not_mem (by decide))

theorem safe_leaf {start : List Char} (solid : Solid start) (indent : Nat) {json : Json}
    (tidy : json.Tidy) : Safe (start ++ leaf indent json) := by
  have short {word : List Char} (inner : '\n' ∉ word) : Safe (start ++ word) :=
    (solid.append inner).safe
  have words : '\n' ∉ "null".toList ∧ (∀ value : Bool, '\n' ∉ (toString value).toList) ∧
      '\n' ∉ "[]".toList ∧ '\n' ∉ "\x7b\x7d".toList := by
    decide +kernel
  obtain ⟨null, truth, brackets, braces⟩ := words
  cases tidy with
  | null => exact short null
  | bool value => exact short (truth value)
  | int value low high =>
    refine short fun member => ?_
    cases Json.isNumberChar_of_mem_toString member
  | str value => exact safe_written solid (indent + 1) value
  | array => exact short brackets
  | object => exact short braces

/-! ### Documents -/

/-- What is printed of a value behind a key, or behind another character, has no marks. -/
structure Unmarked (json : Json) : Prop where
  colon (indent : Nat) : Safe (afterColon indent json)
  mark (indent : Nat) {c : Char} (inner : c ≠ '\n') : Safe (c :: afterMark indent json)

theorem solid_space {c : Char} (inner : c ≠ '\n') : Solid [c, ' '] where
  inner := by simp [inner.symm]
  other := ⟨' ', by simp, by decide⟩

theorem safe_spaces (count : Nat) : Safe (spaces count) :=
  safe_of_not_mem fun member => nomatch List.eq_of_mem_replicate member

theorem unmarked_leaf {json : Json} (tidy : json.Tidy)
    (colon : ∀ indent, afterColon indent json = ' ' :: endLine (leaf indent json))
    (mark : ∀ indent, afterMark indent json = ' ' :: endLine (leaf indent json)) :
    Unmarked json where
  colon indent := by
    have space : Solid [' '] := ⟨by decide, ' ', List.mem_singleton_self _, by decide⟩
    rw [colon]
    exact safe_endLine (safe_leaf space indent tidy)
  mark indent c inner := by
    rw [mark]
    exact safe_endLine (safe_leaf (solid_space inner) indent tidy)

theorem safe_items {list : List Json} (each : ∀ item ∈ list, Unmarked item) (indent : Nat)
    (inline : Bool) : Safe (items indent inline list) := by
  have start (inline : Bool) : Safe (if inline then [] else spaces indent) := by
    split
    · exact safe_nil
    · exact safe_spaces indent
  induction list generalizing inline with
  | nil => exact safe_nil
  | cons item rest ih =>
    obtain ⟨first, others⟩ := List.forall_mem_cons.mp each
    rw [items, ← List.cons_append]
    exact (start inline).append ((first.mark indent (by decide)).append (ih others false))

theorem newline_not_mem_key (indent : Nat) {key : String} (short : isShortKey key) :
    '\n' ∉ written indent key := by
  have single : '\n' ∉ key.toList := by
    intro member
    have broken : key.toList.any isBreak := List.any_eq_true.mpr ⟨'\n', member, rfl⟩
    rw [isShortKey, broken] at short
    cases short
  exact (written_cases indent key).resolve_right fun several => single several.1

theorem safe_entries {list : List (String × Json)} (each : ∀ entry ∈ list, Unmarked entry.2)
    (indent : Nat) (inline : Bool) : Safe (entries indent inline list) := by
  have start (inline : Bool) : Safe (if inline then [] else spaces indent) := by
    split
    · exact safe_nil
    · exact safe_spaces indent
  induction list generalizing inline with
  | nil => exact safe_nil
  | cons entry rest ih =>
    obtain ⟨key, value⟩ := entry
    obtain ⟨first, others⟩ := List.forall_mem_cons.mp each
    rw [entries]
    refine ((start inline).append ?_).append (ih others false)
    split
    · rename_i short
      have head : Solid (written (indent + 2) key ++ [':']) := by
        refine ⟨?_, ':', by simp, by decide⟩
        simp [newline_not_mem_key _ short]
      rw [List.append_cons]
      exact head.safe.append (first.colon indent)
    · have question : Solid ['?', ' '] := solid_space (by decide)
      have head := safe_endLine (safe_written question (indent + 1) key)
      have value := first.mark indent (by decide : ':' ≠ '\n')
      have whole := (head.append (safe_spaces indent)).append value
      simpa using whole

theorem Unmarked.of_tidy {json : Json} (tidy : json.Tidy) : Unmarked json := by
  induction tidy with
  | null => exact unmarked_leaf .null (fun _ => rfl) fun _ => rfl
  | bool value => exact unmarked_leaf (.bool value) (fun _ => rfl) fun _ => rfl
  | int value low high => exact unmarked_leaf (.int value low high) (fun _ => rfl) fun _ => rfl
  | str value => exact unmarked_leaf (.str value) (fun _ => rfl) fun _ => rfl
  | array list each ih =>
    cases list with
    | nil => exact unmarked_leaf (.array [] each) (fun _ => rfl) fun _ => rfl
    | cons item rest =>
      have line : Safe ['\n'] := safe_of_not_mem (by decide)
      constructor
      · intro indent
        exact line.append (safe_items ih indent false)
      · intro indent c inner
        exact (solid_space inner).safe.append (safe_items ih (indent + 2) true)
  | object members sorted each ih =>
    cases members with
    | nil => exact unmarked_leaf (.object [] sorted each) (fun _ => rfl) fun _ => rfl
    | cons entry rest =>
      have line : Safe ['\n'] := safe_of_not_mem (by decide)
      constructor
      · intro indent
        exact line.append (safe_entries ih (indent + 2) false)
      · intro indent c inner
        exact (solid_space inner).safe.append (safe_entries ih (indent + 2) true)

/-- No line of a printed object is a mark. -/
theorem not_isMark_of_mem_print {members : List (String × Json)}
    (tidy : (Json.object members).Tidy) {line : List Char}
    (listed : line ∈ lines (print (.object members)).toList) : isMark line = false := by
  refine Safe.isMark ?_ listed
  cases members with
  | nil => exact safe_of_not_mem (by decide +kernel)
  | cons entry rest =>
    rw [print, String.toList_ofList]
    exact safe_entries (fun member inside => .of_tidy (tidy.member inside)) 0 false

end PlatformManifests.Yaml
