import PlatformManifests.Component.Basic
import PlatformManifests.Proofs.Descriptor

/-!
Routes. A route is made exactly when it has a host and rules and no rule has a problem; then it has
one rule for the host, with the paths in the order of the rules.
-/
namespace PlatformManifests

theorem PathRule.problem?_eq_none {rule : PathRule} :
    rule.problem? = none ↔
      rule.pattern.toList.head? = some '/' ∧ rule.service.isEmpty = false ∧ rule.port ≠ 0 := by
  unfold problem?
  split
  · simp_all
  · split
    · simp_all
    · split <;> simp_all

namespace Route

def ruleError (name : String) (index : Nat) (problem : String) : Error :=
  .invalidRoute name ("rule " ++ toString index ++ ": " ++ problem)

theorem checkRules_eq_scan (name : String) (index : Nat) (rules : List PathRule) :
    checkRules name index rules =
      Outcome.scan PathRule.problem? (ruleError name) index rules := by
  induction rules generalizing index with
  | nil => rfl
  | cons rule rest ih =>
    rw [checkRules, Outcome.scan, ih]
    cases rule.problem? <;> rfl

theorem checkRules_eq_ok {name : String} {index : Nat} {rules : List PathRule} :
    checkRules name index rules = .ok () ↔ ∀ rule ∈ rules, rule.problem? = none := by
  rw [checkRules_eq_scan, Outcome.scan_eq_ok]

theorem check_eq_ok {name host : String} {rules : List PathRule} :
    check name host rules = .ok () ↔
      host.isEmpty = false ∧ rules ≠ [] ∧ ∀ rule ∈ rules, rule.problem? = none := by
  unfold check
  split
  · simp_all
  · split
    · simp_all
    · simp_all [checkRules_eq_ok]

end Route

/-- The resource of a route whose rules have been checked. -/
def Owner.routed (owner : Owner) (model : Model) (config : Configuration) (name : String)
    (annotations : Dict String) (host : String) (rules : List PathRule) : Resource :=
  .ingress (.ofBody (owner.label (Route.metadata config name annotations))
    ⟨model.ingressClass, Route.tls config host, [⟨host, ⟨rules.map PathRule.toPath⟩⟩]⟩)

theorem Route.metadata_name (config : Configuration) (name : String)
    (annotations : Dict String) : (metadata config name annotations).name = name := by
  unfold metadata
  split <;> rfl

theorem Owner.identity_routed {owner : Owner} {model : Model} {config : Configuration}
    {name host : String} {annotations : Dict String} {rules : List PathRule} :
    (owner.routed model config name annotations host rules).identity = (.ingress, name) := by
  exact congrArg (Prod.mk Kind.ingress) (Route.metadata_name config name annotations)

theorem Owner.route_eq_ok {owner : Owner} {model : Model} {config : Configuration}
    {name host : String} {annotations : Dict String} {rules : List PathRule}
    {resource : Resource} :
    owner.route model config name annotations host rules = .ok resource ↔
      Route.check name host rules = .ok () ∧
        owner.routed model config name annotations host rules = resource := by
  simp [Owner.route, Route.build, Owner.routed, Manifest.ofBody]

end PlatformManifests
