import PlatformManifests.CommandLine.Files
import PlatformManifests.Proofs.Outcome

/-!
What a successful write does to the files of a store: the path that was written to leads to a file
with the written content, and all other files, and the paths that lead to them, are what they were.
This is shown for trees of files.
-/
namespace PlatformManifests.CommandLine

/-- The files of a store: which of them a path leads to, and what they hold. Several paths may lead
to one file. -/
structure View (σ : Type) where
  File : Type
  file? : σ → String → Option File
  content? : σ → File → Option String

section

variable {σ : Type}

def View.Holds (view : View σ) (state : σ) (path content : String) : Prop :=
  ∃ file, view.file? state path = some file ∧ view.content? state file = some content

/-- The states differ in one file, which may be new: the path leads to it, and it has the
content. -/
def View.Replaced (view : View σ) (state after : σ) (path content : String) : Prop :=
  ∃ file, view.file? after path = some file ∧ view.content? after file = some content ∧
    ∀ other, other ≠ file →
      view.content? after other = view.content? state other ∧
      ∀ name, view.file? after name = some other ↔ view.file? state name = some other

/-- What can be relied on for regular files: what is read is what the file at the path holds, and a
write that succeeds makes that file, or replaces all that it held. -/
structure Store.Lawful (store : Store σ) (view : View σ) : Prop where
  reads : ∀ state path content, store.read state path = .ok content →
    view.Holds state path content
  writes : ∀ state path content after, store.write state path content = (.ok (), after) →
    view.Replaced state after path content

theorem View.Replaced.holds {view : View σ} {state after : σ} {path content : String}
    (replaced : view.Replaced state after path content) : view.Holds after path content := by
  obtain ⟨file, leads, held, _⟩ := replaced
  exact ⟨file, leads, held⟩

theorem View.Holds.unique {view : View σ} {state : σ} {path first second : String}
    (holds : view.Holds state path first) (again : view.Holds state path second) :
    first = second := by
  obtain ⟨file, leads, held⟩ := holds
  obtain ⟨other, otherLeads, otherHeld⟩ := again
  obtain rfl := Option.some.inj (leads.symm.trans otherLeads)
  exact Option.some.inj (held.symm.trans otherHeld)

end

def Node.content? : Node → Option String
  | .file content => some content
  | .directory => none

namespace FileTree

variable {tree after : FileTree} {place other there : List String} {content : String}

/-- The root is a directory, so that a file is somewhere below it. -/
theorem at?_put_same (free : tree.at? place ≠ some .directory) :
    (tree.put place content).at? place = some (.file content) := by
  have below : ¬ place.isEmpty = true := by
    intro root
    rw [at?, if_pos root] at free
    exact free rfl
  rw [at?, if_neg below, put, List.lookup_cons_self]

theorem at?_put_of_ne (differ : other ≠ place) :
    (tree.put place content).at? other = tree.at? other := by
  rw [at?, at?, put, List.lookup_cons, beq_eq_false_iff_ne.mpr differ]

/-- A file is written where no directory is, so that the directories stay. -/
theorem directory_put_iff (free : tree.at? place ≠ some .directory) :
    (tree.put place content).at? other = some .directory ↔ tree.at? other = some .directory := by
  by_cases same : other = place
  · subst same
    rw [at?_put_same free]
    exact iff_of_false nofun free
  · rw [at?_put_of_ne same]

/-- The way is open where the directories are. -/
theorem follow_of_directories
    (kept : ∀ place, tree.at? place = some .directory → after.at? place = some .directory)
    {steps : List String} (found : tree.follow place steps = .ok there) :
    after.follow place steps = .ok there := by
  induction steps generalizing place with
  | nil => exact found
  | cons step rest ih =>
    rw [follow] at found ⊢
    by_cases stays : step = "."
    · rw [if_pos stays] at found ⊢
      exact ih found
    by_cases ascends : step = ".."
    · rw [if_neg stays, if_pos ascends] at found ⊢
      exact ih found
    by_cases long : FilePath.longestStep < step.utf8ByteSize
    · rw [if_neg stays, if_neg ascends, if_pos long] at found
      cases found
    rw [if_neg stays, if_neg ascends, if_neg long] at found ⊢
    by_cases last : rest.isEmpty
    · rw [if_pos last] at found ⊢
      exact found
    rw [if_neg last] at found ⊢
    cases listed : tree.at? (place ++ [step]) with
    | none =>
      rw [listed] at found
      cases found
    | some node =>
      rw [listed] at found
      cases node with
      | file _ => cases found
      | directory =>
        rw [kept _ listed]
        exact ih found

theorem locate_put_iff (free : tree.at? place ≠ some .directory) {path : FilePath} :
    (tree.put place content).locate path = .ok there ↔ tree.locate path = .ok there := by
  constructor
  · exact follow_of_directories fun _ => (directory_put_iff free).mp
  · exact follow_of_directories fun _ => (directory_put_iff free).mpr

/-! ### Files -/

theorem find_eq_ok {path : FilePath} :
    tree.find path = .ok (place, content) ↔
      path.slashed = false ∧ tree.locate path = .ok place ∧
        tree.at? place = some (.file content) := by
  rw [find, Outcome.bind_eq_ok]
  constructor
  · rintro ⟨there, located, found⟩
    split at found
    · rename_i held listed
      split at found
      · cases found
      · rename_i plain
        cases found
        exact ⟨Bool.eq_false_iff.mpr plain, located, listed⟩
    · cases found
    · cases found
  · rintro ⟨plain, located, listed⟩
    refine ⟨place, located, ?_⟩
    rw [listed, plain]
    rfl

theorem of_target_eq_ok {path : FilePath} (found : tree.target path = .ok place) :
    path.slashed = false ∧ tree.locate path = .ok place ∧ tree.at? place ≠ some .directory := by
  obtain ⟨there, located, free⟩ := Outcome.bind_eq_ok.mp found
  cases slashed : path.slashed with
  | true =>
    rw [slashed] at free
    split at free <;> cases free
  | false =>
    rw [slashed] at located free
    split at free
    · cases free
    · rename_i held listed
      cases free
      exact ⟨rfl, located, by simp [listed]⟩
    · rename_i listed
      cases free
      exact ⟨rfl, located, by simp [listed]⟩

/-- Files are told apart by their places. -/
def view : View FileTree where
  File := List String
  file? tree path := ((FilePath.read path >>= tree.find).map Prod.fst).toOption
  content? tree place := (tree.at? place).bind Node.content?

theorem content?_eq_some :
    view.content? tree place = some content ↔ tree.at? place = some (.file content) := by
  change (tree.at? place).bind Node.content? = some content ↔ _
  rw [Option.bind_eq_some_iff]
  constructor
  · rintro ⟨node, listed, held⟩
    cases node with
    | file _ =>
      cases held
      exact listed
    | directory => cases held
  · intro listed
    exact ⟨.file content, listed, rfl⟩

theorem file?_eq_some {text : String} :
    view.file? tree text = some place ↔
      ∃ path content, FilePath.read text = .ok path ∧ path.slashed = false ∧
        tree.locate path = .ok place ∧ tree.at? place = some (.file content) := by
  change ((FilePath.read text >>= tree.find).map Prod.fst).toOption = some place ↔ _
  rw [Outcome.toOption_eq_some, Outcome.map_eq_ok]
  simp only [Outcome.bind_eq_ok]
  constructor
  · rintro ⟨⟨there, content⟩, ⟨path, named, found⟩, rfl⟩
    exact ⟨path, content, named, find_eq_ok.mp found⟩
  · rintro ⟨path, content, named, found⟩
    exact ⟨(place, content), ⟨path, named, find_eq_ok.mpr found⟩, rfl⟩

theorem content?_put_of_ne (differ : other ≠ place) :
    view.content? (tree.put place content) other = view.content? tree other :=
  congrArg (Option.bind · Node.content?) (at?_put_of_ne differ)

theorem file?_put_iff (free : tree.at? place ≠ some .directory) (differ : other ≠ place)
    {text : String} :
    view.file? (tree.put place content) text = some other ↔ view.file? tree text = some other := by
  rw [file?_eq_some, file?_eq_some, at?_put_of_ne differ]
  simp only [locate_put_iff free]

/-! ### Reading and writing -/

theorem holds_of_read {text : String} (given : tree.read text = .ok content) :
    view.Holds tree text content := by
  obtain ⟨path, named, given⟩ := Outcome.bind_eq_ok.mp given
  obtain ⟨⟨place, held⟩, found, given⟩ := Outcome.bind_eq_ok.mp given
  obtain rfl : held = content := Except.ok.inj given
  obtain ⟨_, _, listed⟩ := find_eq_ok.mp found
  refine ⟨place, ?_, content?_eq_some.mpr listed⟩
  exact file?_eq_some.mpr ⟨path, held, named, find_eq_ok.mp found⟩

theorem read_of_holds {text : String} (holds : view.Holds tree text content) :
    tree.read text = .ok content := by
  obtain ⟨place, leads, held⟩ := holds
  obtain ⟨path, _, named, plain, located, _⟩ := file?_eq_some.mp leads
  have found := find_eq_ok.mpr ⟨plain, located, content?_eq_some.mp held⟩
  exact Outcome.bind_eq_ok.mpr ⟨path, named, Outcome.bind_eq_ok.mpr ⟨_, found, rfl⟩⟩

theorem write_of_target {text : String} {path : FilePath} (named : FilePath.read text = .ok path)
    (found : tree.target path = .ok place) :
    tree.write text content = (.ok (), tree.put place content) := by
  rw [write, Outcome.bind_eq_ok.mpr ⟨path, named, found⟩]

theorem exists_target_of_write {text : String}
    (written : tree.write text content = (.ok (), after)) :
    ∃ path place, FilePath.read text = .ok path ∧ tree.target path = .ok place ∧
      after = tree.put place content := by
  rw [write] at written
  split at written
  · rename_i place reached
    obtain ⟨path, named, found⟩ := Outcome.bind_eq_ok.mp reached
    cases written
    exact ⟨path, place, named, found, rfl⟩
  · cases written

theorem eq_of_write_error {text : String} {error : FileError}
    (failed : tree.write text content = (.error error, after)) : after = tree := by
  rw [write] at failed
  split at failed
  · cases failed
  · cases failed
    rfl

theorem replaced_of_write {text : String} (written : tree.write text content = (.ok (), after)) :
    view.Replaced tree after text content := by
  obtain ⟨path, place, named, found, rfl⟩ := exists_target_of_write written
  obtain ⟨plain, located, free⟩ := of_target_eq_ok found
  have stored : (tree.put place content).at? place = some (.file content) := at?_put_same free
  refine ⟨place, ?_, content?_eq_some.mpr stored, ?_⟩
  · exact file?_eq_some.mpr ⟨path, content, named, plain, (locate_put_iff free).mpr located, stored⟩
  intro other differ
  exact ⟨content?_put_of_ne differ, fun name => file?_put_iff free differ⟩

theorem store_lawful : store.Lawful view where
  reads := fun _ _ _ => holds_of_read
  writes := fun _ _ _ _ => replaced_of_write

end FileTree

end PlatformManifests.CommandLine
