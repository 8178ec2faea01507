/-!
Text cut at a separator, and joined by one. Joining undoes cutting, and cutting undoes joining
where no piece holds the separator.
-/
namespace PlatformManifests.Text

/-- The pieces between the separators; a text without a separator is one piece. -/
def pieces (separator : Char) : List Char → List (List Char)
  | [] => [[]]
  | c :: rest =>
    if c = separator then [] :: pieces separator rest
    else
      match pieces separator rest with
      | first :: others => (c :: first) :: others
      | [] => [[c]]

/-- One or more pieces with the separator between them. -/
def joined (separator : Char) : List (List Char) → List Char
  | [] => []
  | [only] => only
  | first :: second :: rest => first ++ separator :: joined separator (second :: rest)

theorem pieces_ne_nil (separator : Char) (text : List Char) : pieces separator text ≠ [] := by
  cases text with
  | nil => simp [pieces]
  | cons c rest =>
    rw [pieces]
    split
    · simp
    · split <;> simp

theorem joined_pieces (separator : Char) (text : List Char) :
    joined separator (pieces separator text) = text := by
  induction text with
  | nil => rfl
  | cons c rest ih =>
    rw [pieces]
    have some := pieces_ne_nil separator rest
    split
    · rename_i same
      cases cut : pieces separator rest with
      | nil => exact absurd cut some
      | cons first others => simp [joined, ← cut, ih, same]
    · cases cut : pieces separator rest with
      | nil => exact absurd cut some
      | cons first others =>
        cases others with
        | nil => simpa [joined, cut] using congrArg (c :: ·) ih
        | cons second later => simpa [joined, cut] using congrArg (c :: ·) ih

theorem pieces_append_separator (separator : Char) (before after : List Char) :
    pieces separator (before ++ separator :: after) =
      pieces separator before ++ pieces separator after := by
  induction before with
  | nil => simp [pieces]
  | cons c rest ih =>
    rw [List.cons_append, pieces, pieces, ih]
    split
    · rfl
    · cases cut : pieces separator rest with
      | nil => exact absurd cut (pieces_ne_nil separator rest)
      | cons first others => rfl

theorem pieces_of_not_mem {separator : Char} {text : List Char} (absent : separator ∉ text) :
    pieces separator text = [text] := by
  induction text with
  | nil => rfl
  | cons c rest ih =>
    have differ : c ≠ separator := (List.ne_of_not_mem_cons absent).symm
    have restAbsent : separator ∉ rest := List.not_mem_of_not_mem_cons absent
    rw [pieces, if_neg differ, ih restAbsent]

theorem pieces_eq_singleton_nil {separator : Char} {text : List Char} :
    pieces separator text = [[]] ↔ text = [] := by
  constructor
  · intro cut
    have whole := joined_pieces separator text
    rw [cut] at whole
    exact whole.symm
  · rintro rfl
    rfl

/-- The first piece goes up to the first separator, or to the end. -/
theorem head?_pieces_eq_some_iff {separator : Char} {text first : List Char}
    (plain : separator ∉ first) :
    (pieces separator text).head? = some first ↔
      text = first ∨ ∃ rest, text = first ++ separator :: rest := by
  constructor
  · intro found
    have whole := joined_pieces separator text
    obtain ⟨others, cut⟩ := List.head?_eq_some_iff.mp found
    rw [cut] at whole
    cases others with
    | nil => exact .inl whole.symm
    | cons second later => exact .inr ⟨_, whole.symm⟩
  · rintro (rfl | ⟨rest, rfl⟩)
    · rw [pieces_of_not_mem plain]
      rfl
    · rw [pieces_append_separator, pieces_of_not_mem plain]
      rfl

theorem not_mem_of_mem_pieces {separator : Char} {text piece : List Char}
    (cut : piece ∈ pieces separator text) : separator ∉ piece := by
  induction text generalizing piece with
  | nil =>
    cases List.mem_singleton.mp cut
    exact List.not_mem_nil
  | cons c rest ih =>
    rw [pieces] at cut
    split at cut
    · rcases List.mem_cons.mp cut with rfl | later
      · exact List.not_mem_nil
      · exact ih later
    · rename_i other
      split at cut
      · rename_i first others found
        rw [found] at ih
        rcases List.mem_cons.mp cut with rfl | later
        · exact List.not_mem_cons_of_ne_of_not_mem (Ne.symm other) (ih List.mem_cons_self)
        · exact ih (List.mem_cons_of_mem _ later)
      · cases List.mem_singleton.mp cut
        exact List.not_mem_cons_of_ne_of_not_mem (Ne.symm other) List.not_mem_nil

theorem eq_or_mem_of_mem_joined {separator c : Char} {parts : List (List Char)}
    (member : c ∈ joined separator parts) : c = separator ∨ ∃ part ∈ parts, c ∈ part := by
  induction parts with
  | nil => cases member
  | cons first rest ih =>
    cases rest with
    | nil => exact .inr ⟨first, List.mem_cons_self, member⟩
    | cons second later =>
      rw [joined, List.mem_append, List.mem_cons] at member
      rcases member with inFirst | same | further
      · exact .inr ⟨first, List.mem_cons_self, inFirst⟩
      · exact .inl same
      · rcases ih further with same | ⟨part, inside, held⟩
        · exact .inl same
        · exact .inr ⟨part, List.mem_cons_of_mem first inside, held⟩

theorem pieces_eq_pair_iff {separator : Char} {text first second : List Char} :
    pieces separator text = [first, second] ↔
      text = first ++ separator :: second ∧ separator ∉ first ∧ separator ∉ second := by
  constructor
  · intro cut
    have whole := joined_pieces separator text
    have plain (piece : List Char) (member : piece ∈ [first, second]) : separator ∉ piece :=
      not_mem_of_mem_pieces (cut ▸ member)
    rw [cut] at whole
    exact ⟨whole.symm, plain first (by simp), plain second (by simp)⟩
  · rintro ⟨rfl, firstPlain, secondPlain⟩
    rw [pieces_append_separator, pieces_of_not_mem firstPlain, pieces_of_not_mem secondPlain]
    rfl

theorem pieces_intercalate_eq_flatMap {separator : Char} {between : String}
    (single : between.toList = [separator]) {names : List String} (several : names ≠ []) :
    pieces separator (String.intercalate between names).toList =
      names.flatMap fun name => pieces separator name.toList := by
  induction names with
  | nil => exact absurd rfl several
  | cons name rest ih =>
    cases rest with
    | nil => rw [String.intercalate_singleton, List.flatMap_singleton]
    | cons next later =>
      rw [String.intercalate_cons_cons, String.append_assoc, String.toList_append,
        String.toList_append, single, List.singleton_append, pieces_append_separator,
        ih (List.cons_ne_nil next later), List.flatMap_cons (x := name)]

/-- Pieces without the separator come back when they are joined by it and cut again. -/
theorem pieces_intercalate {separator : Char} {between : String}
    (single : between.toList = [separator]) {names : List String} (several : names ≠ [])
    (plain : ∀ name ∈ names, separator ∉ name.toList) :
    (pieces separator (String.intercalate between names).toList).map String.ofList =
      names := by
  have whole : (names.flatMap fun name => pieces separator name.toList) =
      names.map String.toList := by
    rw [List.map_eq_flatMap, List.flatMap_def, List.flatMap_def]
    apply congrArg List.flatten
    apply List.map_congr_left
    intro name member
    exact pieces_of_not_mem (plain name member)
  rw [pieces_intercalate_eq_flatMap single several, whole, List.map_map]
  simp [Function.comp_def]

theorem joined_eq_intercalate (separator : Char) (parts : List (List Char)) :
    joined separator parts = [separator].intercalate parts := by
  induction parts with
  | nil => rfl
  | cons first rest ih =>
    cases rest with
    | nil => simp [joined]
    | cons second later => simp [joined, ih]

/-- The pieces of a text give it back when they are joined by the separator. -/
theorem intercalate_pieces {separator : Char} {between : String}
    (single : between.toList = [separator]) (text : List Char) :
    String.intercalate between ((pieces separator text).map String.ofList) =
      String.ofList text := by
  have same : ((pieces separator text).map String.ofList).map String.toList =
      pieces separator text := by
    simp [List.map_map, Function.comp_def]
  rw [← String.toList_inj, String.toList_intercalate, single, same, ← joined_eq_intercalate,
    joined_pieces, String.toList_ofList]

end PlatformManifests.Text
