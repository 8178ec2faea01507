import PlatformManifests.Component.InitJob
import PlatformManifests.Proofs.Outcome

/-!
What a role may grant. A rule is explicit if it names each thing that it grants, and a role is made
of explicit rules alone. Any other is refused for the first list at fault.
-/
namespace PlatformManifests.InitJob

/-- The lists that a rule of a role consists of. -/
inductive GrantList
  | apiGroups
  | resources
  | verbs
deriving DecidableEq

def Wild (values : List String) : Prop := ∃ value ∈ values, '*' ∈ value.toList

instance (values : List String) : Decidable (Wild values) :=
  inferInstanceAs (Decidable (∃ value ∈ values, '*' ∈ value.toList))

namespace GrantList

def field : GrantList → String
  | apiGroups => "apiGroups"
  | resources => "resources"
  | verbs => "verbs"

def values (rule : PolicyRule) : GrantList → List String
  | apiGroups => rule.apiGroups
  | resources => rule.resources
  | verbs => rule.verbs

/-- The place of a list among those of its rule. -/
def place : GrantList → Nat
  | apiGroups => 0
  | resources => 1
  | verbs => 2

/-- Only the list of API groups may be empty. -/
def Offends (rule : PolicyRule) (list : GrantList) : Prop :=
  Wild (list.values rule) ∨ list ≠ apiGroups ∧ list.values rule = []

def complaint (rule : PolicyRule) (list : GrantList) : String :=
  if Wild (list.values rule) then "wildcards are not allowed, list each entry explicitly"
  else "must not be empty"

def order : List GrantList := [apiGroups, resources, verbs]

def problem? (rule : PolicyRule) (list : GrantList) : Option String :=
  listProblem? (list.values rule) (list == apiGroups)

variable {rule : PolicyRule} {list other : GrantList} {problem : String}

theorem mem_order (list : GrantList) : list ∈ order := by cases list <;> decide

theorem order_increasing : order.Pairwise fun first second => first.place < second.place := by
  decide

theorem mem_before {before after : List GrantList} (split : order = before ++ list :: after) :
    other ∈ before ↔ other.place < list.place := by
  have increasing := order_increasing
  rw [split, List.pairwise_append, List.pairwise_cons] at increasing
  obtain ⟨_, ⟨above, _⟩, below⟩ := increasing
  constructor
  · intro earlier
    exact below other earlier list List.mem_cons_self
  · intro less
    have listed := mem_order other
    rw [split, List.mem_append, List.mem_cons] at listed
    rcases listed with earlier | rfl | later
    · exact earlier
    · exact absurd less (Nat.lt_irrefl _)
    · exact absurd less (Nat.lt_asymm (above other later))

theorem hasWildcard_iff {values : List String} : hasWildcard values = true ↔ Wild values := by
  simp [hasWildcard, Wild]

theorem problem?_eq_some :
    list.problem? rule = some problem ↔ list.Offends rule ∧ problem = list.complaint rule := by
  simp only [problem?, listProblem?, Offends, complaint, hasWildcard_iff]
  by_cases wild : Wild (list.values rule)
  · rw [if_pos wild, if_pos wild, Option.some.injEq]
    constructor
    · intro told
      exact ⟨.inl wild, told.symm⟩
    · rintro ⟨_, rfl⟩
      rfl
  · rw [if_neg wild, if_neg wild]
    have bare : ((list.values rule).isEmpty && !list == apiGroups) = true ↔
        list ≠ apiGroups ∧ list.values rule = [] := by
      rw [Bool.and_eq_true, List.isEmpty_iff, Bool.not_eq_true', beq_eq_false_iff_ne, and_comm]
    simp only [bare, wild, false_or]
    by_cases empty : list ≠ apiGroups ∧ list.values rule = []
    · rw [if_pos empty, Option.some.injEq]
      constructor
      · intro told
        exact ⟨empty, told.symm⟩
      · rintro ⟨_, rfl⟩
        rfl
    · rw [if_neg empty]
      refine iff_of_false nofun ?_
      rintro ⟨offends, _⟩
      exact empty offends

theorem problem?_eq_none : list.problem? rule = none ↔ ¬ list.Offends rule := by
  rw [Option.eq_none_iff_forall_ne_some]
  constructor
  · intro silent offends
    exact silent _ (problem?_eq_some.mpr ⟨offends, rfl⟩)
  · intro sound problem told
    exact sound (problem?_eq_some.mp told).1

end GrantList

/-- A rule that names what it grants, and grants something. -/
structure Explicit (rule : PolicyRule) : Prop where
  named : ∀ list : GrantList, ∀ value ∈ list.values rule, '*' ∉ value.toList
  resources : rule.resources ≠ []
  verbs : rule.verbs ≠ []

/-- The least list at fault, by the place of its rule and then by its own. -/
structure FirstOffence (rules : List PolicyRule) (index : Nat) (rule : PolicyRule)
    (list : GrantList) : Prop where
  here : rules[index]? = some rule
  offends : list.Offends rule
  within : ∀ other : GrantList, other.place < list.place → ¬ other.Offends rule
  before : ∀ earlier < index, ∀ former, rules[earlier]? = some former →
    ∀ other : GrantList, ¬ other.Offends former

variable {rule : PolicyRule} {rules : List PolicyRule} {problem : String × String}

theorem explicit_iff : Explicit rule ↔ ∀ list : GrantList, ¬ list.Offends rule := by
  constructor
  · rintro ⟨named, resources, verbs⟩ list (⟨value, held, star⟩ | ⟨kind, empty⟩)
    · exact named list value held star
    · cases list with
      | apiGroups => exact kind rfl
      | resources => exact resources empty
      | verbs => exact verbs empty
  · intro sound
    constructor
    · intro list value held star
      exact sound list (.inl ⟨value, held, star⟩)
    · intro empty
      exact sound .resources (.inr ⟨by decide, empty⟩)
    · intro empty
      exact sound .verbs (.inr ⟨by decide, empty⟩)

theorem ruleProblem?_eq (rule : PolicyRule) :
    ruleProblem? rule = GrantList.order.findSome? fun list =>
      (list.problem? rule).map fun problem => (list.field, problem) := rfl

theorem ruleProblem?_eq_none :
    ruleProblem? rule = none ↔ ∀ list : GrantList, ¬ list.Offends rule := by
  rw [ruleProblem?_eq, List.findSome?_eq_none_iff]
  simp only [Option.map_eq_none_iff, GrantList.problem?_eq_none, GrantList.mem_order, forall_const]

theorem ruleProblem?_eq_some :
    ruleProblem? rule = some problem ↔
      ∃ list : GrantList, list.Offends rule ∧
        (∀ other : GrantList, other.place < list.place → ¬ other.Offends rule) ∧
        problem = (list.field, list.complaint rule) := by
  rw [ruleProblem?_eq, List.findSome?_eq_some_iff]
  constructor
  · rintro ⟨before, list, after, split, told, silent⟩
    obtain ⟨words, complained, rfl⟩ := Option.map_eq_some_iff.mp told
    obtain ⟨offends, rfl⟩ := GrantList.problem?_eq_some.mp complained
    refine ⟨list, offends, ?_, rfl⟩
    intro other less
    have earlier := silent other ((GrantList.mem_before split).mpr less)
    exact GrantList.problem?_eq_none.mp (Option.map_eq_none_iff.mp earlier)
  · rintro ⟨list, offends, within, rfl⟩
    obtain ⟨before, after, split⟩ := List.append_of_mem (GrantList.mem_order list)
    refine ⟨before, list, after, split, ?_, ?_⟩
    · rw [GrantList.problem?_eq_some.mpr ⟨offends, rfl⟩]
      rfl
    · intro other earlier
      have sound := within other ((GrantList.mem_before split).mp earlier)
      rw [GrantList.problem?_eq_none.mpr sound]
      rfl

def offence (role : String) (index : Nat) : String × String → Error
  | (field, problem) =>
    .invalidConfiguration ("role/" ++ role ++ ".rules[" ++ toString index ++ "]." ++ field) problem

theorem checkRules_eq_scan (role : String) (index : Nat) (rules : List PolicyRule) :
    checkRules role index rules = Outcome.scan ruleProblem? (offence role) index rules := by
  induction rules generalizing index with
  | nil => rfl
  | cons rule rest ih =>
    rw [checkRules, Outcome.scan, ih]
    cases ruleProblem? rule <;> rfl

theorem firstProblem_iff {index : Nat} :
    Outcome.FirstProblem ruleProblem? rules index rule problem ↔
      ∃ list : GrantList, FirstOffence rules index rule list ∧
        problem = (list.field, list.complaint rule) := by
  constructor
  · rintro ⟨here, told, before⟩
    obtain ⟨list, offends, within, rfl⟩ := ruleProblem?_eq_some.mp told
    refine ⟨list, ⟨here, offends, within, ?_⟩, rfl⟩
    intro earlier less former held
    exact ruleProblem?_eq_none.mp (before earlier less former held)
  · rintro ⟨list, first, rfl⟩
    refine ⟨first.here, ruleProblem?_eq_some.mpr ⟨list, first.offends, first.within, rfl⟩, ?_⟩
    intro earlier less former held
    exact ruleProblem?_eq_none.mpr (first.before earlier less former held)

theorem checkedRole_eq_ok {metadata : Metadata} {role : Manifest Role} :
    checkedRole metadata rules = .ok role ↔
      (∀ rule ∈ rules, Explicit rule) ∧ .ofBody metadata ⟨rules⟩ = role := by
  have sound : checkRules metadata.name 0 rules = .ok () ↔ ∀ rule ∈ rules, Explicit rule := by
    simp only [checkRules_eq_scan, Outcome.scan_eq_ok, ruleProblem?_eq_none, explicit_iff]
  rw [checkedRole, Outcome.bind_eq_ok, ← sound]
  simp

theorem checkedRole_eq_error {metadata : Metadata} {error : Error} :
    checkedRole metadata rules = .error error ↔
      ∃ index rule list, FirstOffence rules index rule list ∧
        error = offence metadata.name index (list.field, list.complaint rule) := by
  rw [checkedRole, Outcome.bind_eq_error, checkRules_eq_scan, Outcome.scan_eq_error]
  constructor
  · rintro (⟨index, rule, problem, found, rfl⟩ | ⟨_, _, ⟨⟩⟩)
    obtain ⟨list, first, rfl⟩ := firstProblem_iff.mp found
    refine ⟨index, rule, list, first, ?_⟩
    rw [Nat.zero_add]
  · rintro ⟨index, rule, list, first, rfl⟩
    refine .inl ⟨index, rule, _, firstProblem_iff.mpr ⟨list, first, rfl⟩, ?_⟩
    rw [Nat.zero_add]

/-- A role is made exactly of explicit rules, and holds them as they were given. Any other is
refused where the first list is at fault, for a wildcard in it if there is one. -/
theorem checkedRole_exact (metadata : Metadata) (rules : List PolicyRule) :
    ((∃ role, checkedRole metadata rules = .ok role) ↔ ∀ rule ∈ rules, Explicit rule) ∧
    (∀ role, checkedRole metadata rules = .ok role →
      role.metadata = metadata ∧ role.body.rules = rules) ∧
    ∀ error, checkedRole metadata rules = .error error ↔
      ∃ index rule list, FirstOffence rules index rule list ∧
        error = .invalidConfiguration
          ("role/" ++ metadata.name ++ ".rules[" ++ toString index ++ "]." ++ list.field)
          (list.complaint rule) := by
  refine ⟨?_, ?_, ?_⟩
  · simp only [checkedRole_eq_ok, exists_and_left, exists_eq', and_true]
  · intro role made
    obtain ⟨_, rfl⟩ := checkedRole_eq_ok.mp made
    exact ⟨rfl, rfl⟩
  · intro error
    exact checkedRole_eq_error

/-- A star inside a name counts, and comes before an empty list behind it. -/
example : ruleProblem? ⟨[], ["config*"], []⟩ =
    some ("resources", "wildcards are not allowed, list each entry explicitly") := by
  decide +kernel

end PlatformManifests.InitJob
