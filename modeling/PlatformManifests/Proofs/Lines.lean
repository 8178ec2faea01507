import Mathlib.Data.List.Basic

/-!
Texts of several documents. Lines are taken with their ends, and a text is cut at the lines that
hold three dashes and nothing else. Texts without such lines come back when what was joined with
them in between is cut again.
-/
namespace PlatformManifests.Text

/-! ### Lines -/

/-- The lines of a text, each with its end. Only the last one may have none. -/
def lines : List Char → List (List Char)
  | [] => []
  | c :: rest =>
    if c = '\n' then [c] :: lines rest
    else
      match lines rest with
      | first :: others => (c :: first) :: others
      | [] => [[c]]

theorem flatten_lines (text : List Char) : (lines text).flatten = text := by
  induction text with
  | nil => rfl
  | cons c rest ih =>
    rw [lines]
    split
    · rw [List.flatten_cons, ih, List.singleton_append]
    · cases cut : lines rest with
      | nil =>
        rw [cut] at ih
        rw [← ih]
        rfl
      | cons first others =>
        rw [cut] at ih
        rw [← ih]
        rfl

theorem lines_ne_nil {text : List Char} (written : text ≠ []) : lines text ≠ [] := by
  intro none
  have whole := flatten_lines text
  rw [none] at whole
  exact written whole.symm

theorem lines_cons {c : Char} {rest first : List Char} {others : List (List Char)}
    (inner : c ≠ '\n') (cut : lines rest = first :: others) :
    lines (c :: rest) = (c :: first) :: others := by
  rw [lines, if_neg inner, cut]

theorem lines_eq_singleton {text : List Char} (written : text ≠ []) (inner : '\n' ∉ text) :
    lines text = [text] := by
  induction text with
  | nil => exact absurd rfl written
  | cons c rest ih =>
    have here : c ≠ '\n' := (List.ne_of_not_mem_cons inner).symm
    by_cases nothing : rest = []
    · rw [nothing, lines, if_neg here, lines]
    · exact lines_cons here (ih nothing (List.not_mem_of_not_mem_cons inner))

/-- Text behind another text begins with new lines, or its first line continues the last one. -/
theorem lines_append (before after : List Char) :
    lines (before ++ after) = lines before ++ lines after ∨
    ∃ earlier last first later, lines before = earlier ++ [last] ∧ lines after = first :: later ∧
      lines (before ++ after) = earlier ++ (last ++ first) :: later := by
  induction before with
  | nil => exact .inl rfl
  | cons c rest ih =>
    by_cases line : c = '\n'
    · simp only [List.cons_append, lines, if_pos line]
      rcases ih with apart | ⟨earlier, last, first, later, cut, afterCut, joined⟩
      · exact .inl (congrArg _ apart)
      · refine .inr ⟨[c] :: earlier, last, first, later, ?_, afterCut, ?_⟩
        · rw [cut, List.cons_append]
        · rw [joined, List.cons_append]
    · by_cases nothing : rest = []
      · subst nothing
        cases cut : lines after with
        | nil =>
          refine .inl ?_
          rw [List.append_nil, List.singleton_append, lines, if_neg line, cut, lines, if_neg line,
            lines]
        | cons first later =>
          refine .inr ⟨[], [c], first, later, ?_, rfl, lines_cons line cut⟩
          rw [lines, if_neg line, lines, List.nil_append]
      · obtain ⟨head, tail, cut⟩ := List.exists_cons_of_ne_nil (lines_ne_nil nothing)
        rw [lines_cons line cut]
        rcases ih with apart | ⟨earlier, last, first, later, restCut, afterCut, joined⟩
        · refine .inl ?_
          rw [cut, List.cons_append] at apart
          rw [List.cons_append, lines_cons line apart, List.cons_append]
        · refine .inr ?_
          rw [restCut] at cut
          cases earlier with
          | nil =>
            rw [List.nil_append, List.cons.injEq] at cut
            obtain ⟨rfl, rfl⟩ := cut
            exact ⟨[], c :: last, first, later, rfl, afterCut, lines_cons line joined⟩
          | cons second earlier =>
            rw [List.cons_append, List.cons.injEq] at cut
            obtain ⟨rfl, rfl⟩ := cut
            exact ⟨(c :: second) :: earlier, last, first, later, rfl, afterCut,
              lines_cons line joined⟩

theorem lines_append_of_ended {before : List Char} (ended : before.getLast? = some '\n')
    (after : List Char) : lines (before ++ after) = lines before ++ lines after := by
  induction before with
  | nil => cases ended
  | cons c rest ih =>
    cases rest with
    | nil =>
      cases ended
      rfl
    | cons next tail =>
      have further := ih (List.getLast?_cons_cons ▸ ended)
      by_cases line : c = '\n'
      · simp only [List.cons_append, lines, if_pos line] at further ⊢
        rw [further]
      · obtain ⟨head, others, cut⟩ := List.exists_cons_of_ne_nil
          (lines_ne_nil (List.cons_ne_nil next tail))
        rw [cut, List.cons_append] at further
        rw [lines_cons line cut, List.cons_append]
        exact lines_cons line further

/-! ### Marks -/

/-- Three dashes alone on a line. -/
def isMark (line : List Char) : Bool := line = ['-', '-', '-', '\n'] || line = ['-', '-', '-']

/-- The texts between the marks. -/
def cut (text : String) : List String :=
  ((lines text.toList).splitOnP isMark).map fun piece => String.ofList piece.flatten

theorem splitOnP_join {texts : List String} {text : String}
    (ended : ∀ each ∈ text :: texts, each.toList.getLast? = some '\n')
    (unmarked : ∀ each ∈ text :: texts, ∀ line ∈ lines each.toList, isMark line = false) :
    (lines (String.intercalate "---\n" (text :: texts)).toList).splitOnP isMark =
      (text :: texts).map fun each => lines each.toList := by
  induction texts generalizing text with
  | nil =>
    rw [String.intercalate_singleton,
      List.splitOnP_eq_singleton (List.forall_mem_singleton.mp unmarked)]
    rfl
  | cons next rest ih =>
    obtain ⟨first, others⟩ := List.forall_mem_cons.mp ended
    obtain ⟨firstUnmarked, othersUnmarked⟩ := List.forall_mem_cons.mp unmarked
    have mark : lines "---\n".toList = [['-', '-', '-', '\n']] := by decide +kernel
    rw [String.intercalate_cons_cons, String.toList_append, String.toList_append,
      List.append_assoc, lines_append_of_ended first, lines_append_of_ended (by decide +kernel),
      mark, List.singleton_append, List.splitOnP_append_cons_of_forall_mem firstUnmarked _ rfl,
      ih others othersUnmarked]
    rfl

theorem cut_join {texts : List String} (several : texts ≠ [])
    (ended : ∀ text ∈ texts, text.toList.getLast? = some '\n')
    (unmarked : ∀ text ∈ texts, ∀ line ∈ lines text.toList, isMark line = false) :
    cut (String.intercalate "---\n" texts) = texts := by
  obtain ⟨text, rest, rfl⟩ := List.exists_cons_of_ne_nil several
  have whole : (fun text : String => String.ofList (lines text.toList).flatten) = id := by
    funext text
    rw [flatten_lines, String.ofList_toList, id]
  rw [cut, splitOnP_join ended unmarked, List.map_map]
  change List.map (fun text : String => String.ofList (lines text.toList).flatten) _ = _
  rw [whole, List.map_id]

/-! ### Lines that are no marks -/

/-- No line is made of dashes only. -/
def Safe (text : List Char) : Prop :=
  ∀ line ∈ lines text, '-' ∈ line → ∃ c ∈ line, c ≠ '-' ∧ c ≠ '\n'

theorem Safe.isMark {text line : List Char} (safe : Safe text) (listed : line ∈ lines text) :
    isMark line = false := by
  rw [Bool.eq_false_iff]
  intro marked
  have dashes : line = ['-', '-', '-', '\n'] ∨ line = ['-', '-', '-'] := by
    simpa [Text.isMark] using marked
  have some : '-' ∈ line := by
    rcases dashes with rfl | rfl <;> simp
  obtain ⟨c, inside, other, inner⟩ := safe line listed some
  rcases dashes with rfl | rfl <;> simp_all

theorem safe_nil : Safe [] := nofun

theorem Safe.append {before after : List Char} (safe : Safe before) (further : Safe after) :
    Safe (before ++ after) := by
  intro line listed dash
  rcases lines_append before after with apart | ⟨earlier, last, first, later, cut, afterCut, joined⟩
  · rw [apart] at listed
    rcases List.mem_append.mp listed with inside | inside
    · exact safe line inside dash
    · exact further line inside dash
  · rw [joined] at listed
    rcases List.mem_append.mp listed with inside | inside
    · exact safe line (cut ▸ List.mem_append_left _ inside) dash
    · rcases List.mem_cons.mp inside with rfl | inside
      · rcases List.mem_append.mp dash with here | here
        · obtain ⟨c, member, solid⟩ := safe last (by simp [cut]) here
          exact ⟨c, List.mem_append_left _ member, solid⟩
        · obtain ⟨c, member, solid⟩ := further first (by simp [afterCut]) here
          exact ⟨c, List.mem_append_right _ member, solid⟩
      · exact further line (by simp [afterCut, inside]) dash

theorem safe_of_not_mem {text : List Char} (none : '-' ∉ text) : Safe text := by
  intro line listed dash
  have whole := List.mem_flatten.mpr ⟨line, listed, dash⟩
  rw [flatten_lines] at whole
  exact absurd whole none

/-- A part of a line that holds more than dashes. -/
structure Solid (text : List Char) : Prop where
  inner : '\n' ∉ text
  other : ∃ c ∈ text, c ≠ '-'

theorem Solid.append {start text : List Char} (solid : Solid start) (inner : '\n' ∉ text) :
    Solid (start ++ text) where
  inner := List.not_mem_append solid.inner inner
  other := by
    obtain ⟨c, inside, other⟩ := solid.other
    exact ⟨c, List.mem_append_left _ inside, other⟩

theorem Solid.safe {text : List Char} (solid : Solid text) : Safe text := by
  obtain ⟨c, inside, other⟩ := solid.other
  intro line listed _
  rw [lines_eq_singleton (List.ne_nil_of_mem inside) solid.inner] at listed
  cases List.mem_singleton.mp listed
  exact ⟨c, inside, other, fun same => solid.inner (same ▸ inside)⟩

end PlatformManifests.Text
