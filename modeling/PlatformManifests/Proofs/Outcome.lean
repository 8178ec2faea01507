import PlatformManifests.Error

/-!
Chains of steps that may fail. The first failure is the outcome of the chain, and what a chain
gives is what its last step gives for the values before it. A list that is checked item by item
fails at the first item that has a problem.
-/
namespace PlatformManifests.Outcome

variable {ε α β γ δ : Type}

@[simp] theorem bind_eq_ok {first : Except ε α} {next : α → Except ε β} {result : β} :
    (first >>= next) = .ok result ↔ ∃ value, first = .ok value ∧ next value = .ok result := by
  cases first with
  | error cause => simp [bind, Except.bind]
  | ok value => simp [bind, Except.bind]

theorem bind_eq_error {first : Except ε α} {next : α → Except ε β} {cause : ε} :
    (first >>= next) = .error cause ↔
      first = .error cause ∨ ∃ value, first = .ok value ∧ next value = .error cause := by
  cases first with
  | error other => simp [bind, Except.bind]
  | ok value => simp [bind, Except.bind]

@[simp] theorem map_eq_ok {outcome : Except ε α} {change : α → β} {result : β} :
    outcome.map change = .ok result ↔ ∃ value, outcome = .ok value ∧ change value = result := by
  cases outcome <;> simp [Except.map]

@[simp] theorem exists_unit_eq_ok {outcome : Except ε Unit} :
    (∃ value, outcome = .ok value) ↔ outcome = .ok () :=
  ⟨fun ⟨_, accepted⟩ => accepted, fun accepted => ⟨(), accepted⟩⟩

theorem toOption_eq_some {outcome : Except ε α} {value : α} :
    outcome.toOption = some value ↔ outcome = .ok value := by
  cases outcome <;> simp [Except.toOption]

/-- A chain whose steps are the steps of another one, value for value, is that other chain. -/
theorem bind_of_eq {first other : Except ε α} {next further : α → Except ε β}
    (same : first = other) (rest : ∀ value, next value = further value) :
    (first >>= next) = (other >>= further) := by
  subst same
  exact bind_congr rest

/-- In a chain of steps that change a state, the second step begins in the state that the first one
leaves. If the first one fails, then its state is that of the chain. -/
theorem run_bind {σ : Type} (first : ExceptT ε (StateM σ) α) (next : α → ExceptT ε (StateM σ) β)
    (state : σ) :
    (first >>= next).run.run state =
      match first.run.run state with
      | (.ok value, changed) => (next value).run.run changed
      | (.error cause, changed) => (.error cause, changed) := by
  rw [ExceptT.run_bind, StateT.run_bind]
  change (match first.run.run state with | (outcome, changed) => _) = _
  cases first.run.run state with
  | mk outcome changed => cases outcome <;> rfl

/-! ### Steps that give the same up to a change -/

variable {first : Except ε α} {next : α → Except ε β} {changed : γ → Except ε δ}
  {change : β → δ}

/-- If a first step gives changed values, and the rest undoes nothing of it, then so does the
whole. -/
theorem bind_of_map {other : Except ε γ} {before : α → γ} (same : other = first.map before)
    (rest : ∀ value, changed (before value) = (next value).map change) :
    (other >>= changed) = (first >>= next).map change := by
  subst same
  cases first with
  | error cause => rfl
  | ok value => exact rest value

theorem bind_of_same {further : α → Except ε δ}
    (rest : ∀ value, further value = (next value).map change) :
    (first >>= further) = (first >>= next).map change := by
  cases first with
  | error cause => rfl
  | ok value => exact rest value

/-! ### Two chains side by side -/

/-- If both outcomes are values, then the values are related. -/
def Alike (related : α → γ → Prop) (outcome : Except ε α) (other : Except ε γ) : Prop :=
  ∀ value changed, outcome = .ok value → other = .ok changed → related value changed

namespace Alike

variable {related : α → γ → Prop} {further : β → δ → Prop} {outcome : Except ε α}
  {other : Except ε γ} {next : α → Except ε β} {after : γ → Except ε δ}

theorem ok {value : α} {change : γ} (holds : related value change) :
    Alike related (.ok value : Except ε α) (.ok change) := by
  rintro _ _ ⟨⟩ ⟨⟩
  exact holds

theorem bind (first : Alike related outcome other)
    (rest : ∀ value changed, related value changed → Alike further (next value) (after changed)) :
    Alike further (outcome >>= next) (other >>= after) := by
  intro result changedResult made otherMade
  obtain ⟨value, given, last⟩ := bind_eq_ok.mp made
  obtain ⟨changed, otherGiven, otherLast⟩ := bind_eq_ok.mp otherMade
  exact rest value changed (first value changed given otherGiven) result changedResult last
    otherLast

/-- A step that is the same in both chains. -/
theorem same {after : α → Except ε δ}
    (rest : ∀ value, Alike further (next value) (after value)) :
    Alike further (outcome >>= next) (outcome >>= after) := by
  intro result changed made otherMade
  obtain ⟨value, given, last⟩ := bind_eq_ok.mp made
  obtain ⟨_, again, otherLast⟩ := bind_eq_ok.mp otherMade
  obtain rfl := Except.ok.inj (given.symm.trans again)
  exact rest value result changed last otherLast

end Alike

/-! ### Lists that are checked item by item -/

/-- Goes through the items, with their places from the given one on, up to the first that has a
problem. -/
def scan (problem? : α → Option β) (report : Nat → β → ε) (place : Nat) : List α → Except ε Unit
  | [] => .ok ()
  | item :: rest =>
    match problem? item with
    | some problem => .error (report place problem)
    | none => scan problem? report (place + 1) rest

/-- The item has the problem, and no item before it has any. -/
structure FirstProblem (problem? : α → Option β) (items : List α) (index : Nat) (item : α)
    (problem : β) : Prop where
  here : items[index]? = some item
  told : problem? item = some problem
  before : ∀ earlier < index, ∀ former, items[earlier]? = some former → problem? former = none

section Scan

variable {problem? : α → Option β} {report : Nat → β → ε} {items : List α} {place : Nat}
  {first item : α} {problem : β}

theorem firstProblem_zero :
    FirstProblem problem? (first :: items) 0 item problem ↔
      first = item ∧ problem? first = some problem := by
  constructor
  · intro found
    obtain rfl := Option.some.inj found.here
    exact ⟨rfl, found.told⟩
  · rintro ⟨rfl, told⟩
    exact ⟨rfl, told, fun earlier less => absurd less (Nat.not_lt_zero earlier)⟩

theorem firstProblem_succ {index : Nat} :
    FirstProblem problem? (first :: items) (index + 1) item problem ↔
      problem? first = none ∧ FirstProblem problem? items index item problem := by
  constructor
  · intro found
    refine ⟨found.before 0 (Nat.succ_pos index) first rfl, found.here, found.told, ?_⟩
    intro earlier less
    exact found.before (earlier + 1) (Nat.succ_lt_succ less)
  · rintro ⟨sound, found⟩
    refine ⟨found.here, found.told, ?_⟩
    intro earlier less former held
    cases earlier with
    | zero =>
      obtain rfl := Option.some.inj held
      exact sound
    | succ earlier => exact found.before earlier (Nat.lt_of_succ_lt_succ less) former held

theorem scan_eq_ok :
    scan problem? report place items = .ok () ↔ ∀ item ∈ items, problem? item = none := by
  induction items generalizing place with
  | nil => simp [scan]
  | cons first rest ih =>
    rw [scan, List.forall_mem_cons]
    cases found : problem? first with
    | none => simpa using ih
    | some problem => simp

theorem scan_eq_error {cause : ε} :
    scan problem? report place items = .error cause ↔
      ∃ index item problem, FirstProblem problem? items index item problem ∧
        cause = report (place + index) problem := by
  induction items generalizing place with
  | nil =>
    refine iff_of_false nofun ?_
    rintro ⟨index, item, problem, found, _⟩
    exact absurd found.here (by simp)
  | cons first rest ih =>
    rw [scan]
    cases told : problem? first with
    | none =>
      rw [ih]
      constructor
      · rintro ⟨index, item, problem, found, rfl⟩
        refine ⟨index + 1, item, problem, firstProblem_succ.mpr ⟨told, found⟩, ?_⟩
        rw [Nat.add_right_comm, Nat.add_assoc]
      · rintro ⟨index, item, problem, found, rfl⟩
        cases index with
        | zero =>
          obtain ⟨_, other⟩ := firstProblem_zero.mp found
          rw [told] at other
          cases other
        | succ index =>
          refine ⟨index, item, problem, (firstProblem_succ.mp found).2, ?_⟩
          rw [Nat.add_right_comm, Nat.add_assoc]
    | some problem =>
      constructor
      · rintro ⟨⟩
        exact ⟨0, first, problem, firstProblem_zero.mpr ⟨rfl, told⟩, rfl⟩
      · rintro ⟨index, item, other, found, rfl⟩
        cases index with
        | zero =>
          obtain ⟨_, same⟩ := firstProblem_zero.mp found
          obtain rfl := Option.some.inj (told.symm.trans same)
          rfl
        | succ index =>
          obtain ⟨sound, _⟩ := firstProblem_succ.mp found
          rw [told] at sound
          cases sound

end Scan

end PlatformManifests.Outcome
