import PlatformManifests.Proofs.Catalogue
import PlatformManifests.Proofs.Endpoint
import PlatformManifests.Proofs.Requirements

/-!
What is written of a readiness check. The container that waits tells the step that it was made for:
all of it if the check is made over the network, and all but the time if it is a command. A probe
tells the check but for the host, which it does not need.
-/
namespace PlatformManifests

/-! ### Addresses -/

/-- The port ends at the first slash and starts after the last colon before it. So the host may
have colons in it, but no slash. -/
theorem Endpoint.address_inj {host other path otherPath : String} {port otherPort : UInt16}
    (plain : '/' ∉ host.toList) (otherPlain : '/' ∉ other.toList)
    (rooted : path.toList.head? = some '/') (otherRooted : otherPath.toList.head? = some '/')
    (same : "http://" ++ host ++ ":" ++ toString port ++ path =
      "http://" ++ other ++ ":" ++ toString otherPort ++ otherPath) :
    host = other ∧ port = otherPort ∧ path = otherPath := by
  obtain ⟨rest, split⟩ := List.head?_eq_some_iff.mp rooted
  obtain ⟨otherRest, otherSplit⟩ := List.head?_eq_some_iff.mp otherRooted
  have colon : ":".toList = [':'] := by decide
  have digits (number : UInt16) : ':' ∉ (toString number).toList := fun member =>
    absurd (isDigit_of_mem_port member) (by decide)
  have texts := congrArg String.toList same
  simp only [String.toList_append, colon, split, otherSplit, List.append_assoc,
    List.append_cancel_left_eq, List.singleton_append] at texts
  rw [← List.append_assoc, ← List.append_assoc] at texts
  obtain ⟨authorities, rests⟩ := (append_cons_inj (slash_not_mem_authority plain port)
    (slash_not_mem_authority otherPlain otherPort)).mp texts
  obtain ⟨hosts, ports⟩ :=
    (append_cons_inj_right (digits port) (digits otherPort)).mp authorities
  refine ⟨String.toList_inj.mp hosts, ?_, ?_⟩
  · exact port_injective (String.toList_inj.mp ports)
  · rw [← String.toList_inj, split, otherSplit, rests]

/-! ### Containers that wait -/

/-- The address of a check over http can be taken apart again. -/
def ReadinessCheck.Plain : ReadinessCheck → Prop
  | tcp _ _ => True
  | http host _ path => '/' ∉ host.toList ∧ path.toList.head? = some '/'
  | exec _ => True

namespace WaitStep

variable {first second : WaitStep}

theorem container_inj :
    first.container = second.container ↔
      first.target = second.target ∧ first.image = second.image ∧
        first.command = second.command := by
  simp [container, Container.ofImage, Container.withCommand, String.append_right_inj]

theorem timeout_inj {time other : UInt32} : toString time = toString other ↔ time = other := by
  constructor
  · intro same
    exact UInt32.toNat_inj.mp (Endpoint.repr_injective same)
  · rintro rfl
    rfl

/-- Of steps of one kind, the command tells the check and, but for a command of one's own, the time
that an attempt may take. -/
theorem command_inj (kinds : first.kind = second.kind) (plain : first.check.Plain)
    (otherPlain : second.check.Plain) (same : first.command = second.command) :
    first.check = second.check ∧
      (first.kind ≠ .exec → first.timeoutSeconds = second.timeoutSeconds) := by
  obtain ⟨_, check, _, time⟩ := first
  obtain ⟨_, other, _, otherTime⟩ := second
  cases check with
  | tcp host port =>
    cases other with
    | tcp otherHost otherPort =>
      simp only [command, List.cons.injEq, true_and, and_true] at same
      obtain ⟨times, rfl, ports⟩ := same
      obtain rfl := Endpoint.port_injective ports
      exact ⟨rfl, fun _ => timeout_inj.mp times⟩
    | http _ _ _ => cases kinds
    | exec _ => cases kinds
  | http host port path =>
    cases other with
    | tcp _ _ => cases kinds
    | http otherHost otherPort otherPath =>
      simp only [command, List.cons.injEq, true_and, and_true] at same
      obtain ⟨times, addresses⟩ := same
      obtain ⟨rfl, rfl, rfl⟩ :=
        Endpoint.address_inj plain.1 otherPlain.1 plain.2 otherPlain.2 addresses
      exact ⟨rfl, fun _ => timeout_inj.mp times⟩
    | exec _ => cases kinds
  | exec words =>
    cases other with
    | tcp _ _ => cases kinds
    | http _ _ _ => cases kinds
    | exec otherWords => exact ⟨congrArg ReadinessCheck.exec same, fun differ => absurd rfl differ⟩

end WaitStep

/-! ### Probes -/

/-- The kinds of the actions that a probe has. -/
def Probe.kinds (probe : Probe) : List CheckKind :=
  (probe.tcpSocket.map fun _ => CheckKind.tcp).toList ++
    (probe.httpGet.map fun _ => CheckKind.http).toList ++
    (probe.exec.map fun _ => CheckKind.exec).toList

/-- The probe makes the check at the times, and does nothing else. -/
structure ReadinessCheck.Probed (check : ReadinessCheck) (timing : ProbeTiming) (probe : Probe) :
    Prop where
  sole : probe.kinds = [check.kind]
  tcp : ∀ host port, check = .tcp host port → probe.tcpSocket = some ⟨port⟩
  http : ∀ host port path, check = .http host port path → probe.httpGet = some ⟨path, port⟩
  exec : ∀ command, check = .exec command → probe.exec = some ⟨command⟩
  initialDelay : probe.initialDelaySeconds = some timing.initialDelaySeconds
  period : probe.periodSeconds = some timing.periodSeconds
  timeout : probe.timeoutSeconds = some timing.timeoutSeconds
  failures : probe.failureThreshold = some timing.failureThreshold

theorem ReadinessCheck.probed_probe (check : ReadinessCheck) (timing : ProbeTiming) :
    check.Probed timing (check.probe timing) := by
  cases check with
  | tcp host port =>
    refine ⟨rfl, ?_, nofun, nofun, rfl, rfl, rfl, rfl⟩
    intro other number same
    cases same
    rfl
  | http host port path =>
    refine ⟨rfl, nofun, ?_, nofun, rfl, rfl, rfl, rfl⟩
    intro other number words same
    cases same
    rfl
  | exec command =>
    refine ⟨rfl, nofun, nofun, ?_, rfl, rfl, rfl, rfl⟩
    intro words same
    cases same
    rfl

/-! ### Workloads that wait -/

/-- If the resource runs containers, then those before the others wait for plain checks. -/
def Resource.Waits (resource : Resource) : Prop :=
  ∀ template, resource.template? = some template →
    ∃ steps, template.spec.initContainers = initContainers steps ∧
      ∀ step ∈ steps, step.check.Plain

variable {model : Model} {config : Configuration} {descriptor : Descriptor} {resource : Resource}

theorem Resource.waits_of_idle (idle : resource.template? = none) : resource.Waits := by
  intro template running
  rw [idle] at running
  cases running

theorem Resource.waits_of_steps {template : PodTemplate} {steps : List WaitStep}
    (running : resource.template? = some template)
    (first : template.spec.initContainers = initContainers steps)
    (plain : ∀ step ∈ steps, step.check.Plain) : resource.Waits := by
  intro other found
  obtain rfl := Option.some.inj (running.symm.trans found)
  exact ⟨steps, first, plain⟩

theorem Resource.waits_of_none {template : PodTemplate}
    (running : resource.template? = some template) (bare : template.spec.initContainers = []) :
    resource.Waits :=
  @waits_of_steps _ _ [] running bare (List.forall_mem_nil _)

def Descriptor.Waits (descriptor : Descriptor) : Prop :=
  ∀ key resource, descriptor.get? key = some resource → resource.Waits

theorem Descriptor.waits_of_listed {component : String} {resources : List Resource}
    (listed : ofResources component resources = .ok descriptor)
    (each : ∀ resource ∈ resources, resource.Waits) : descriptor.Waits :=
  forall_of_listed listed each

theorem Database.plain_waitStep {step : WaitStep} (made : waitStep model = .ok step) :
    step.check.Plain := by
  simp only [waitStep, readiness, Outcome.bind_eq_ok, Except.ok.injEq] at made
  obtain ⟨_, ⟨port, _, rfl⟩, image, _, rfl⟩ := made
  exact trivial

theorem IdentityProvider.plain_healthCheck {check : ReadinessCheck}
    (made : healthCheck model = .ok check) : check.Plain := by
  simp only [healthCheck, Outcome.bind_eq_ok, Except.ok.injEq] at made
  obtain ⟨port, _, rfl⟩ := made
  exact ⟨by decide, by decide⟩

theorem CatalogApi.plain_waitSteps {image : String} {steps : List WaitStep}
    (made : waitSteps model image = .ok steps) : ∀ step ∈ steps, step.check.Plain := by
  simp only [waitSteps, Outcome.bind_eq_ok, Except.ok.injEq] at made
  obtain ⟨port, _, check, checks, rfl⟩ := made
  exact List.forall_mem_cons.mpr ⟨trivial,
    List.forall_mem_singleton.mpr (IdentityProvider.plain_healthCheck checks)⟩

theorem InitJob.plain_waitSteps {steps : List WaitStep} (made : waitSteps model = .ok steps) :
    ∀ step ∈ steps, step.check.Plain := by
  simp only [waitSteps, Outcome.bind_eq_ok, Except.ok.injEq] at made
  obtain ⟨database, databases, check, checks, image, _, rfl⟩ := made
  exact List.forall_mem_cons.mpr ⟨Database.plain_waitStep databases,
    List.forall_mem_singleton.mpr (IdentityProvider.plain_healthCheck checks)⟩

theorem Database.waits (made : generate model config = .ok descriptor) : descriptor.Waits := by
  obtain ⟨port, env, check, image, size, _, _, _, _, _, listed⟩ := generate_ok made
  apply Descriptor.waits_of_listed listed
  simp only [List.forall_mem_cons]
  exact ⟨Resource.waits_of_none rfl rfl, Resource.waits_of_idle rfl, Resource.waits_of_idle rfl,
    Resource.waits_of_idle rfl, List.forall_mem_nil _⟩

theorem Cache.waits (made : generate model config = .ok descriptor) : descriptor.Waits := by
  obtain ⟨port, image, password, _, _, _, listed⟩ := generate_ok made
  apply Descriptor.waits_of_listed listed
  simp only [List.forall_mem_cons]
  exact ⟨Resource.waits_of_none rfl rfl, Resource.waits_of_idle rfl, List.forall_mem_nil _⟩

theorem SearchIndex.waits (made : generate model config = .ok descriptor) : descriptor.Waits := by
  obtain ⟨port, env, image, size, _, _, _, _, listed⟩ := generate_ok made
  apply Descriptor.waits_of_listed listed
  simp only [List.forall_mem_cons]
  exact ⟨Resource.waits_of_none rfl rfl, Resource.waits_of_idle rfl, Resource.waits_of_idle rfl,
    Resource.waits_of_idle rfl, List.forall_mem_nil _⟩

theorem ObjectStore.waits (made : generate model config = .ok descriptor) : descriptor.Waits := by
  obtain ⟨apiPort, consolePort, env, image, size, _, _, _, _, _, listed⟩ := generate_ok made
  apply Descriptor.waits_of_listed listed
  simp only [List.forall_mem_cons]
  exact ⟨Resource.waits_of_none rfl rfl, Resource.waits_of_idle rfl, Resource.waits_of_idle rfl,
    Resource.waits_of_idle rfl, Resource.waits_of_idle rfl, List.forall_mem_nil _⟩

theorem IdentityProvider.waits (made : generate model config = .ok descriptor) :
    descriptor.Waits := by
  obtain ⟨httpPort, managementPort, databasePort, env, image, check, database, replicas, _, _, _, _,
    _, _, databases, _, listed⟩ := generate_ok made
  have plain : ∀ step ∈ [database], step.check.Plain :=
    List.forall_mem_singleton.mpr (Database.plain_waitStep databases)
  apply Descriptor.waits_of_listed listed
  simp only [List.forall_mem_cons]
  exact ⟨Resource.waits_of_steps rfl rfl plain, Resource.waits_of_idle rfl,
    Resource.waits_of_idle rfl, List.forall_mem_nil _⟩

theorem CatalogApi.waits (made : generate model config = .ok descriptor) : descriptor.Waits := by
  obtain ⟨port, waitImage, steps, image, env, replicas, _, _, waited, _, _, _, listed⟩ :=
    generate_ok made
  apply Descriptor.waits_of_listed listed
  simp only [List.forall_mem_cons]
  exact ⟨Resource.waits_of_steps rfl rfl (plain_waitSteps waited), Resource.waits_of_idle rfl,
    List.forall_mem_nil _⟩

theorem IngressRouter.waits (made : generate model config = .ok descriptor) :
    descriptor.Waits := by
  obtain ⟨routes, _, listed⟩ := generate_ok made
  apply Descriptor.waits_of_listed listed
  refine List.forall_mem_cons.mpr ⟨Resource.waits_of_idle rfl, ?_⟩
  unfold certificates
  split
  · exact List.forall_mem_singleton.mpr (Resource.waits_of_idle rfl)
  · exact List.forall_mem_nil _

theorem InitJob.waits (made : generate model config = .ok descriptor) : descriptor.Waits := by
  obtain ⟨steps, image, env, waited, _, _, listed⟩ := generate_ok made
  apply Descriptor.waits_of_listed listed
  simp only [List.forall_mem_cons]
  exact ⟨Resource.waits_of_idle rfl, Resource.waits_of_idle rfl, Resource.waits_of_idle rfl,
    Resource.waits_of_steps rfl rfl (plain_waitSteps waited), List.forall_mem_nil _⟩

theorem all_wait : ∀ generator ∈ Generator.all, ∀ descriptor,
    generator.generate model config = .ok descriptor → descriptor.Waits := by
  simp only [Generator.all, List.forall_mem_cons]
  exact ⟨fun _ => Database.waits, fun _ => Cache.waits, fun _ => SearchIndex.waits,
    fun _ => ObjectStore.waits, fun _ => IdentityProvider.waits, fun _ => CatalogApi.waits,
    fun _ => IngressRouter.waits, fun _ => InitJob.waits, List.forall_mem_nil _⟩

/-! ### Both renderings -/

/-- The containers stand for the steps one by one, and each tells its step if the check is plain, as
those of the components are. A probe makes the check that it was made of. -/
theorem checks_render_faithfully :
    (∀ steps, (initContainers steps).length = steps.length ∧
      ∀ index : Nat, (initContainers steps)[index]? = steps[index]?.map WaitStep.container) ∧
    (∀ first second : WaitStep, first.kind = second.kind → first.container = second.container →
      first.check.Plain → second.check.Plain →
        first.target = second.target ∧ first.image = second.image ∧ first.check = second.check ∧
          (first.kind ≠ .exec → first.timeoutSeconds = second.timeoutSeconds)) ∧
    (∀ generator ∈ Generator.all, ∀ model config descriptor,
      generator.generate model config = .ok descriptor → descriptor.Waits) ∧
    ∀ check timing, ReadinessCheck.Probed check timing (check.probe timing) := by
  refine ⟨?_, ?_, ?_, ReadinessCheck.probed_probe⟩
  · intro steps
    exact ⟨List.length_map _, fun index => List.getElem?_map⟩
  · intro first second kinds same plain otherPlain
    obtain ⟨target, image, command⟩ := WaitStep.container_inj.mp same
    obtain ⟨check, times⟩ := WaitStep.command_inj kinds plain otherPlain command
    exact ⟨target, image, check, times⟩
  · intro generator listed model config descriptor made
    exact all_wait generator listed descriptor made

/-- The job of a platform waits for plain checks. Containers that ask for different paths differ. -/
theorem demonstration_checks_told :
    (∃ descriptor, InitJob.generate Model.standard Configuration.demonstration = .ok descriptor ∧
      descriptor.Waits) ∧
    (WaitStep.ofCheck "keycloak" (.http "keycloak" 9000 "/health/ready") "busybox").container ≠
      (WaitStep.ofCheck "keycloak" (.http "keycloak" 9000 "/health/live") "busybox").container := by
  obtain ⟨_, recovered, waits, _⟩ := checks_render_faithfully
  constructor
  · obtain ⟨set, composed⟩ := exists_compose_demonstration
    obtain ⟨descriptor, made, _⟩ := exists_made composed InitJob.generator_mem_all
    exact ⟨descriptor, made, waits _ InitJob.generator_mem_all _ _ _ made⟩
  · intro same
    have plain : (ReadinessCheck.http "keycloak" 9000 "/health/ready").Plain :=
      ⟨by decide, by decide⟩
    have otherPlain : (ReadinessCheck.http "keycloak" 9000 "/health/live").Plain :=
      ⟨by decide, by decide⟩
    obtain ⟨_, _, checks, _⟩ := recovered _ _ (by rfl) same plain otherPlain
    exact absurd checks (by decide)

/-- A host with a slash in it can be taken for a host and a path. -/
example : (WaitStep.ofCheck "api" (.http "a" 80 "/b:80/c") "busybox").container =
    (WaitStep.ofCheck "api" (.http "a:80/b" 80 "/c") "busybox").container := by
  decide +kernel

end PlatformManifests
