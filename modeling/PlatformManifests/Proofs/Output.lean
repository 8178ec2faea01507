import PlatformManifests.Proofs.Arguments
import PlatformManifests.Proofs.Commands

/-!
Rendering to a file. Either the file holds what would have been printed, or no file is changed.
-/
namespace PlatformManifests.CommandLine

/-- For all contents of the files, and for each line that names an output: the line without the
output names the same rendering, which is printed. If that fails, then so does the line with the
output, with the same report, and nothing is changed. Otherwise what is left is what a single write
of the printed text leaves, and the line succeeds exactly if that write does. Then the output holds
what is printed without it, and no other file is changed. In no case is anything printed. -/
theorem rendering_writes_all_or_nothing {σ : Type} {store : Store σ} {view : View σ}
    (lawful : store.Lawful view) (state : σ) {arguments : List String} {fallback : Option String}
    {config : String} {model : Option String} {only : List String} {format : Format}
    {path : String}
    (named : Command.ofArguments ("render" :: arguments) fallback =
      .ok (.render config model only format (some path))) :
    Command.ofArguments ("render" :: withoutOutput arguments) fallback =
      .ok (.render config model only format none) ∧
    ∃ shown report after,
      store.run state ("render" :: withoutOutput arguments) fallback = (shown, state) ∧
      store.run state ("render" :: arguments) fallback = (report, after) ∧
      report.output = "" ∧
      (shown.exitCode ≠ 0 → report = shown ∧ after = state) ∧
      (shown.exitCode = 0 → ∃ outcome, store.write state path shown.output = (outcome, after) ∧
        (report.exitCode = 0 ↔ outcome = .ok ())) ∧
      (report.exitCode = 0 → shown.exitCode = 0 ∧ view.Replaced state after path shown.output ∧
        ∀ text, store.read after path = .ok text → text = shown.output) := by
  have plain := ofArguments_withoutOutput named
  have yields := store.run_render state config model only format
  have printed := store.run_of_yields state plain yields
  have ran := store.run_of_render_to state named
  refine ⟨plain, ?_⟩
  cases outcome : (store.composed state config model only).map (rendered format) with
  | error failure =>
    rw [outcome] at printed ran
    exact ⟨_, _, _, printed, ran, rfl, fun _ => ⟨rfl, rfl⟩, nofun, nofun⟩
  | ok text =>
    rw [outcome] at printed ran
    cases written : store.write state path text with
    | mk result after =>
      simp only [written] at ran
      cases result with
      | error error =>
        refine ⟨_, _, _, printed, ran, rfl, fun failed => absurd rfl failed, ?_, nofun⟩
        intro _
        exact ⟨_, written, iff_of_false nofun nofun⟩
      | ok done =>
        have replaced := lawful.writes state path text after written
        refine ⟨_, _, _, printed, ran, rfl, fun failed => absurd rfl failed, ?_, ?_⟩
        · intro _
          exact ⟨_, written, iff_of_true rfl rfl⟩
        · intro _
          refine ⟨rfl, replaced, ?_⟩
          intro held given
          exact (lawful.reads after path held given).unique replaced.holds

namespace FileTree

/-- In a tree of files no failure leaves a trace, not even one of writing. -/
theorem eq_of_rendering_failed {tree after : FileTree} {arguments : List String}
    {fallback : Option String} {config : String} {model : Option String} {only : List String}
    {format : Format} {path : String} {report : Report}
    (named : Command.ofArguments arguments fallback =
      .ok (.render config model only format (some path)))
    (ran : store.run tree arguments fallback = (report, after)) (failed : report.exitCode ≠ 0) :
    after = tree := by
  rw [store.run_of_render_to tree named] at ran
  cases outcome : (store.composed tree config model only).map (rendered format) with
  | error failure =>
    rw [outcome] at ran
    exact (congrArg Prod.snd ran).symm
  | ok text =>
    cases written : store.write tree path text with
    | mk result changed =>
      simp only [outcome, written] at ran
      cases result with
      | error error =>
        obtain rfl : changed = after := congrArg Prod.snd ran
        exact eq_of_write_error written
      | ok done =>
        obtain rfl : Report.success "" = report := congrArg Prod.fst ran
        exact absurd rfl failed

/-- The demonstration is rendered to the path, which then holds what is printed without it. -/
def RenderedTo (path : String) : Prop :=
  Command.ofArguments ["render", "-c", "deployment.yaml", "-o", path] none =
    .ok (.render "deployment.yaml" none [] .yaml (some path)) ∧
  ∃ shown report after,
    store.run demonstration ["render", "-c", "deployment.yaml"] none = (shown, demonstration) ∧
    store.run demonstration ["render", "-c", "deployment.yaml", "-o", path] none =
      (report, after) ∧
    report.exitCode = 0 ∧ after.read path = .ok shown.output ∧
    view.Replaced demonstration after path shown.output

/-- The path may be that of the configuration, in two ways, or be in an empty directory. -/
theorem demonstration_rendered :
    store.Lawful view ∧ RenderedTo "deployment.yaml" ∧ RenderedTo "/work/deployment.yaml" ∧
      RenderedTo "/srv/manifests.yaml" := by
  have each : ∀ output path place, Command.ofArguments
        ["render", "-c", "deployment.yaml", "-o", output] none =
          .ok (.render "deployment.yaml" none [] .yaml (some output)) →
      withoutOutput ["-c", "deployment.yaml", "-o", output] = ["-c", "deployment.yaml"] →
      FilePath.read output = .ok path → demonstration.target path = .ok place →
        RenderedTo output := by
    intro output path place named line read free
    obtain ⟨_, shown, report, after, printed, ran, _, _, last, stored⟩ :=
      rendering_writes_all_or_nothing store_lawful demonstration named
    have done : report.exitCode = 0 := by
      obtain ⟨set, composed⟩ := exists_composed_demonstration
      have written : store.write demonstration output (rendered .yaml set) =
          (.ok (), demonstration.put place (rendered .yaml set)) :=
        write_of_target read free
      rw [store.run_of_render_to _ named, composed] at ran
      simp only [Except.map, written, Prod.mk.injEq] at ran
      rw [← ran.1]
      rfl
    obtain ⟨_, replaced, _⟩ := stored done
    rw [line] at printed
    exact ⟨named, shown, report, after, printed, ran, done, read_of_holds replaced.holds, replaced⟩
  refine ⟨store_lawful, ?_, ?_, ?_⟩
  · exact each _ ⟨false, ["deployment.yaml"], false⟩ ["work", "deployment.yaml"]
      (by decide +kernel) (by decide +kernel) (by decide +kernel) (by decide +kernel)
  · exact each _ ⟨true, ["work", "deployment.yaml"], false⟩ ["work", "deployment.yaml"]
      (by decide +kernel) (by decide +kernel) (by decide +kernel) (by decide +kernel)
  · exact each _ ⟨true, ["srv", "manifests.yaml"], false⟩ ["srv", "manifests.yaml"]
      (by decide +kernel) (by decide +kernel) (by decide +kernel) (by decide +kernel)

end FileTree

end PlatformManifests.CommandLine
