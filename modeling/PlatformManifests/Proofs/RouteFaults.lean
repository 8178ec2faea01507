import PlatformManifests.Proofs.Route

/-!
Routes, and why they are refused. A route that has no fault is made, and holds the rules in their
order as they were given; any other is refused for its first fault, where the host comes first, then
the list of rules, and then one rule after the other.
-/
namespace PlatformManifests

namespace PathRule

def Rooted (pattern : String) : Prop := ∃ rest, pattern = "/" ++ rest

/-- What makes a rule usable. -/
structure Sound (rule : PathRule) : Prop where
  rooted : Rooted rule.pattern
  named : rule.service ≠ ""
  nonzero : rule.port ≠ 0

/-- The first fault of a rule, in words. -/
inductive Fault (rule : PathRule) : String → Prop
  | pattern (bare : ¬ Rooted rule.pattern) :
      Fault rule ("pattern '" ++ rule.pattern ++ "' must start with '/'")
  | service (rooted : Rooted rule.pattern) (nameless : rule.service = "") :
      Fault rule "empty target service"
  | port (rooted : Rooted rule.pattern) (named : rule.service ≠ "") (zero : rule.port = 0) :
      Fault rule "target port must be non-zero"

variable {rule : PathRule} {problem : String}

theorem rooted_iff {pattern : String} : Rooted pattern ↔ pattern.toList.head? = some '/' := by
  have slash : "/".toList = ['/'] := by decide
  rw [List.head?_eq_some_iff]
  constructor
  · rintro ⟨rest, rfl⟩
    refine ⟨rest.toList, ?_⟩
    rw [String.toList_append, slash, List.singleton_append]
  · rintro ⟨rest, split⟩
    refine ⟨String.ofList rest, ?_⟩
    rw [← String.toList_inj, String.toList_append, slash, split, String.toList_ofList,
      List.singleton_append]

theorem sound_iff : rule.Sound ↔ rule.problem? = none := by
  rw [problem?_eq_none, ← rooted_iff]
  constructor
  · intro sound
    exact ⟨sound.rooted, by simpa using sound.named, sound.nonzero⟩
  · rintro ⟨rooted, named, nonzero⟩
    exact ⟨rooted, by simpa using named, nonzero⟩

theorem fault_iff : rule.Fault problem ↔ rule.problem? = some problem := by
  rw [problem?]
  constructor
  · intro fault
    cases fault with
    | pattern bare => rw [if_pos (rooted_iff.not.mp bare)]
    | service rooted nameless =>
      rw [if_neg (not_not.mpr (rooted_iff.mp rooted)), if_pos (by simpa using nameless)]
    | port rooted named zero =>
      rw [if_neg (not_not.mpr (rooted_iff.mp rooted)), if_neg (by simpa using named),
        if_pos zero]
  · intro found
    split at found
    · rename_i bare
      cases found
      exact .pattern (rooted_iff.not.mpr bare)
    · rename_i slashed
      have rooted := rooted_iff.mpr (not_not.mp slashed)
      split at found
      · rename_i nameless
        cases found
        exact .service rooted (by simpa using nameless)
      · rename_i named
        split at found
        · rename_i zero
          cases found
          exact .port rooted (by simpa using named) zero
        · cases found

end PathRule

namespace Route

variable {model : Model} {config : Configuration} {name host : String}
  {annotations : Dict String} {rules : List PathRule}

/-- The first fault of a route, in words. -/
inductive Fault (host : String) (rules : List PathRule) : String → Prop
  | host (missing : host = "") : Fault host rules "empty host"
  | rules (given : host ≠ "") (none : rules = []) : Fault host rules "no path rules"
  | rule (given : host ≠ "") {index : Nat} {rule : PathRule} {problem : String}
      (here : rules[index]? = some rule)
      (before : ∀ earlier < index, ∀ former, rules[earlier]? = some former → former.Sound)
      (fault : rule.Fault problem) :
      Fault host rules ("rule " ++ toString index ++ ": " ++ problem)

theorem checkRules_eq_error {error : Error} :
    checkRules name 0 rules = .error error ↔
      ∃ index rule problem, Outcome.FirstProblem PathRule.problem? rules index rule problem ∧
        error = ruleError name index problem := by
  rw [checkRules_eq_scan, Outcome.scan_eq_error]
  simp only [Nat.zero_add]

theorem check_eq_error {error : Error} :
    check name host rules = .error error ↔
      ∃ message, Fault host rules message ∧ error = .invalidRoute name message := by
  rw [check]
  constructor
  · intro refused
    split at refused
    · rename_i missing
      cases refused
      exact ⟨_, .host (by simpa using missing), rfl⟩
    · rename_i given
      have given : host ≠ "" := by simpa using given
      split at refused
      · rename_i none
        cases refused
        exact ⟨_, .rules given (by simpa using none), rfl⟩
      · obtain ⟨index, rule, problem, first, rfl⟩ := checkRules_eq_error.mp refused
        refine ⟨_, .rule given first.here ?_ (PathRule.fault_iff.mpr first.told), rfl⟩
        intro earlier less former held
        exact PathRule.sound_iff.mpr (first.before earlier less former held)
  · rintro ⟨message, fault, rfl⟩
    cases fault with
    | host missing => rw [if_pos (by simpa using missing)]
    | rules given none => rw [if_neg (by simpa using given), if_pos (by simpa using none)]
    | @rule given index rule problem here before fault =>
      have several : rules ≠ [] := by
        rintro rfl
        cases here
      rw [if_neg (by simpa using given), if_neg (by simpa using several)]
      apply checkRules_eq_error.mpr
      refine ⟨index, rule, problem, ⟨here, PathRule.fault_iff.mp fault, ?_⟩, rfl⟩
      intro earlier less former held
      exact PathRule.sound_iff.mp (before earlier less former held)

/-! ### What a route holds -/

end Route

/-- The path says all that the rule says. -/
structure PathRule.Written (rule : PathRule) (path : IngressPath) : Prop where
  pattern : path.path = rule.pattern
  matching : path.pathType = rule.matching.name
  service : path.backend.service.name = rule.service
  port : path.backend.service.port.number = rule.port

/-- The rule that a path says, if its way of matching is a known one. -/
def PathRule.ofPath? (path : IngressPath) : Option PathRule :=
  (PathMatch.ofName? path.pathType).map fun matching =>
    ⟨path.path, matching, path.backend.service.name, path.backend.service.port.number⟩

theorem PathMatch.ofName?_name (matching : PathMatch) : ofName? matching.name = some matching := by
  cases matching <;> decide

theorem PathRule.Written.ofPath? {rule : PathRule} {path : IngressPath}
    (written : rule.Written path) : PathRule.ofPath? path = some rule := by
  rw [PathRule.ofPath?, written.pattern, written.matching, written.service, written.port,
    PathMatch.ofName?_name]
  rfl

theorem PathRule.written_toPath (rule : PathRule) : rule.Written rule.toPath := ⟨rfl, rfl, rfl, rfl⟩

namespace Route

variable {model : Model} {config : Configuration} {name host : String}
  {annotations : Dict String} {rules : List PathRule}

/-- The annotations that send plain requests to https. -/
def redirects : List String := [AnnotationKey.sslRedirect, AnnotationKey.forceSslRedirect]

/-- What the route for a host holds of what it was made from. -/
structure Faithful (model : Model) (config : Configuration) (name host : String)
    (annotations : Dict String) (rules : List PathRule) (route : Manifest Ingress) : Prop where
  named : route.metadata.name = name
  space : route.metadata.space = config.space
  ingressClass : route.body.ingressClassName = model.ingressClass
  paths : ∃ paths, route.body.rules = [⟨host, ⟨paths⟩⟩] ∧
    List.Forall₂ PathRule.Written rules paths ∧ paths.map PathRule.ofPath? = rules.map some
  plain : config.scheme = .http → route.metadata.annotations = annotations
  secure : config.scheme = .https → ∀ key, route.metadata.annotations.get? key =
    if key ∈ redirects then some "true" else annotations.get? key

theorem get?_annotations (secure : config.scheme = .https) (key : String) :
    (metadata config name annotations).annotations.get? key =
      if key ∈ redirects then some "true" else annotations.get? key := by
  have redirected : (metadata config name annotations).annotations =
      (annotations.insert AnnotationKey.sslRedirect "true").insert
        AnnotationKey.forceSslRedirect "true" := by
    rw [metadata, secure]
    rfl
  rw [redirected, Dict.get?_insert, Dict.get?_insert]
  simp only [redirects, List.mem_cons, List.not_mem_nil, or_false]
  by_cases first : key = AnnotationKey.sslRedirect
  · simp [first]
  · simp [first]

theorem written_map_toPath (rules : List PathRule) :
    List.Forall₂ PathRule.Written rules (rules.map PathRule.toPath) := by
  induction rules with
  | nil => exact .nil
  | cons rule rest ih => exact .cons rule.written_toPath ih

theorem map_ofPath? {paths : List IngressPath}
    (written : List.Forall₂ PathRule.Written rules paths) :
    paths.map PathRule.ofPath? = rules.map some := by
  induction written with
  | nil => rfl
  | cons head _ ih => rw [List.map_cons, List.map_cons, head.ofPath?, ih]

theorem build_eq_ok {route : Manifest Ingress} :
    build model config name annotations host rules = .ok route ↔
      check name host rules = .ok () ∧
        Manifest.ofBody (metadata config name annotations)
          ⟨model.ingressClass, tls config host, [⟨host, ⟨rules.map PathRule.toPath⟩⟩]⟩ = route := by
  simp [build]

theorem faithful_build {route : Manifest Ingress}
    (made : build model config name annotations host rules = .ok route) :
    Faithful model config name host annotations rules route := by
  obtain ⟨_, rfl⟩ := build_eq_ok.mp made
  have written := written_map_toPath rules
  constructor
  · exact metadata_name config name annotations
  · rw [Manifest.ofBody, metadata]
    split <;> rfl
  · rfl
  · exact ⟨_, rfl, written, map_ofPath? written⟩
  · intro plain
    rw [Manifest.ofBody, metadata, plain]
    rfl
  · intro secure
    exact get?_annotations secure

/-- A route is made exactly if it has a host and rules that are all usable, and then it holds what
it was made from. Any other is refused for its first fault. -/
theorem build_exact (model : Model) (config : Configuration) (name : String)
    (annotations : Dict String) (host : String) (rules : List PathRule) :
    ((∃ route, build model config name annotations host rules = .ok route) ↔
      host ≠ "" ∧ rules ≠ [] ∧ ∀ rule ∈ rules, rule.Sound) ∧
    (∀ error, build model config name annotations host rules = .error error ↔
      ∃ message, Fault host rules message ∧ error = .invalidRoute name message) ∧
    ∀ route, build model config name annotations host rules = .ok route →
      Faithful model config name host annotations rules route := by
  refine ⟨?_, ?_, fun route => faithful_build⟩
  · have given : host.isEmpty = false ↔ host ≠ "" := by simp
    simp only [build_eq_ok, exists_and_left, exists_eq', and_true, check_eq_ok, given,
      PathRule.sound_iff]
  · intro error
    rw [← check_eq_error, build, Outcome.bind_eq_error]
    simp

/-- Of two rules at fault the first is told, and of its faults the first. -/
example : check "platform" "demo.example.org" [.ofPrefix "/api" "catalog-api" 8000,
      .ofPrefix "public" "" 0, .ofPrefix "/" "minio" 0] =
    .error (.invalidRoute "platform" "rule 1: pattern 'public' must start with '/'") := by
  decide +kernel

end Route

end PlatformManifests
