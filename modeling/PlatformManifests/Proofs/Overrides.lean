import Mathlib.Data.List.Induction
import PlatformManifests.Model.Standard
import PlatformManifests.Proofs.Dictionary

/-!
Models derived from others by overrides of single values. However many there are, each key has the
value that was set last, and only images, ports and replica counts change. An override of a key that
the model does not have adds the key, so the keys stay as they are exactly if no override does so.
-/
namespace PlatformManifests

namespace Dict

variable {α β : Type}

/-- Dictionaries with the same keys list them alike. -/
theorem keys_eq_iff {first : Dict α} {second : Dict β} :
    first.keys = second.keys ↔ ∀ key, key ∈ first.keys ↔ key ∈ second.keys := by
  constructor
  · intro same key
    rw [same]
  · intro same
    have bare : first.map (fun _ => ()) = second.map fun _ => () := by
      refine ext_get? fun key => ?_
      have member := same key
      rw [mem_keys, mem_keys] at member
      rw [get?_map, get?_map]
      cases held : first.get? key <;> cases other : second.get? key <;> simp_all
    rw [← keys_map (fun _ => ()) first, bare, keys_map]

def insertAll (dict : Dict α) (entries : List (String × α)) : Dict α :=
  entries.foldl (fun held entry => held.insert entry.1 entry.2) dict

/-- The value of the last entry of a key. -/
def lastValue (entries : List (String × α)) (key : String) : Option α :=
  (entries.filter fun entry => entry.1 = key).getLast?.map Prod.snd

theorem lastValue_append_singleton (entries : List (String × α)) (entry : String × α)
    (key : String) : lastValue (entries ++ [entry]) key =
      if key = entry.1 then some entry.2 else lastValue entries key := by
  unfold lastValue
  rw [List.filter_append]
  split
  · rename_i same
    rw [List.filter_cons_of_pos (by simpa using same.symm), List.filter_nil,
      List.getLast?_concat, Option.map_some]
  · rename_i differ
    rw [List.filter_cons_of_neg (by simpa using Ne.symm differ), List.filter_nil, List.append_nil]

/-- The value that was put in last is found, and where there is none the one from before. -/
theorem get?_insertAll (dict : Dict α) (entries : List (String × α)) (key : String) :
    (dict.insertAll entries).get? key = (lastValue entries key).or (dict.get? key) := by
  induction entries using List.reverseRecOn with
  | nil => rfl
  | append_singleton entries entry ih =>
    have step : dict.insertAll (entries ++ [entry]) =
        (dict.insertAll entries).insert entry.1 entry.2 := by
      rw [insertAll, List.foldl_append]
      rfl
    rw [step, get?_insert, lastValue_append_singleton]
    split
    · rfl
    · exact ih

theorem lastValue_eq_none_iff {entries : List (String × α)} {key : String} :
    lastValue entries key = none ↔ key ∉ entries.map Prod.fst := by
  rw [lastValue, Option.map_eq_none_iff, List.getLast?_eq_none_iff, List.filter_eq_nil_iff,
    List.mem_map, not_exists]
  constructor
  · rintro others entry ⟨member, same⟩
    exact others entry member (decide_eq_true same)
  · intro absent entry member same
    exact absent entry ⟨member, of_decide_eq_true same⟩

theorem mem_keys_insertAll {dict : Dict α} {entries : List (String × α)} {key : String} :
    key ∈ (dict.insertAll entries).keys ↔ key ∈ dict.keys ∨ key ∈ entries.map Prod.fst := by
  rw [← not_iff_not, not_or, not_mem_keys, not_mem_keys, get?_insertAll, Option.or_eq_none_iff,
    lastValue_eq_none_iff, and_comm]

theorem keys_insertAll_eq_iff {dict : Dict α} {entries : List (String × α)} :
    (dict.insertAll entries).keys = dict.keys ↔ ∀ entry ∈ entries, entry.1 ∈ dict.keys := by
  simp only [keys_eq_iff, mem_keys_insertAll, or_iff_left_iff_imp, List.mem_map]
  constructor
  · intro known entry member
    exact known entry.1 ⟨entry, member, rfl⟩
  · rintro known _ ⟨entry, member, rfl⟩
    exact known entry member

end Dict

/-! ### Overrides -/

/-- One value of a model that is replaced. -/
inductive Override where
  | port (key : String) (number : UInt16)
  | image (key name : String)
  | replicas (key : String) (count : UInt32)
deriving DecidableEq

namespace Override

variable {model : Model} {overrides : List Override}

def apply (model : Model) : Override → Model
  | port key number => model.withPort key number
  | image key name => model.withImage key name
  | replicas key count => model.withReplicas key count

/-- The model after one override has followed the other. -/
def run (model : Model) (overrides : List Override) : Model := overrides.foldl apply model

def port? : Override → Option (String × UInt16)
  | port key number => some (key, number)
  | _ => none

def image? : Override → Option (String × String)
  | image key name => some (key, name)
  | _ => none

def replicas? : Override → Option (String × UInt32)
  | replicas key count => some (key, count)
  | _ => none

/-- The model has the key, in the section that is meant. -/
def Known (model : Model) : Override → Prop
  | port key _ => key ∈ model.ports.keys
  | image key _ => key ∈ model.images.keys
  | replicas key _ => key ∈ model.replicas.keys

/-- One override puts one entry into one section. -/
theorem apply_eq (model : Model) (override : Override) :
    override.apply model =
      { model with
        images := model.images.insertAll override.image?.toList
        ports := model.ports.insertAll override.port?.toList
        replicas := model.replicas.insertAll override.replicas?.toList } := by
  cases override <;> rfl

theorem run_eq (model : Model) (overrides : List Override) :
    run model overrides =
      { model with
        images := model.images.insertAll (overrides.filterMap image?)
        ports := model.ports.insertAll (overrides.filterMap port?)
        replicas := model.replicas.insertAll (overrides.filterMap replicas?) } := by
  induction overrides generalizing model with
  | nil => rfl
  | cons override rest ih =>
    have step : run model (override :: rest) = run (override.apply model) rest := rfl
    rw [step, ih, apply_eq]
    cases override <;> rfl

theorem port?_eq_some {override : Override} {entry : String × UInt16} :
    override.port? = some entry ↔ override = port entry.1 entry.2 := by
  cases override <;> simp [port?, Prod.ext_iff]

theorem image?_eq_some {override : Override} {entry : String × String} :
    override.image? = some entry ↔ override = image entry.1 entry.2 := by
  cases override <;> simp [image?, Prod.ext_iff]

theorem replicas?_eq_some {override : Override} {entry : String × UInt32} :
    override.replicas? = some entry ↔ override = replicas entry.1 entry.2 := by
  cases override <;> simp [replicas?, Prod.ext_iff]

theorem forall_known_iff :
    (∀ override ∈ overrides, override.Known model) ↔
      (∀ entry ∈ overrides.filterMap image?, entry.1 ∈ model.images.keys) ∧
      (∀ entry ∈ overrides.filterMap port?, entry.1 ∈ model.ports.keys) ∧
      ∀ entry ∈ overrides.filterMap replicas?, entry.1 ∈ model.replicas.keys := by
  simp only [List.mem_filterMap, image?_eq_some, port?_eq_some, replicas?_eq_some,
    exists_eq_right]
  constructor
  · intro known
    exact ⟨fun _ member => known _ member, fun _ member => known _ member,
      fun _ member => known _ member⟩
  · rintro ⟨images, ports, counts⟩ override member
    cases override with
    | port key number => exact ports (key, number) member
    | image key name => exact images (key, name) member
    | replicas key count => exact counts (key, count) member

/-- The keys of a model stay as they are exactly if no override brings a new one. -/
theorem keys_run_eq_iff (model : Model) (overrides : List Override) :
    ((run model overrides).images.keys = model.images.keys ∧
      (run model overrides).ports.keys = model.ports.keys ∧
      (run model overrides).replicas.keys = model.replicas.keys) ↔
    ∀ override ∈ overrides, override.Known model := by
  rw [run_eq, forall_known_iff, Dict.keys_insertAll_eq_iff, Dict.keys_insertAll_eq_iff,
    Dict.keys_insertAll_eq_iff]

/-- What is found in a section is the value that was set last, and else that of the model. -/
theorem entry_insertAll {α : Type} (dict : Dict α) (entries : List (String × α))
    (path key : String) :
    Model.entry (dict.insertAll entries) path key =
      (Dict.lastValue entries key).elim (Model.entry dict path key) Except.ok := by
  unfold Model.entry
  rw [Dict.get?_insertAll]
  cases Dict.lastValue entries key <;> rfl

/-- Overrides of the standard model change no section but images, ports and replica counts, and in
these each key has the value that was set last, or its own. The keys of these sections stay as they
are exactly if all overrides are of keys that the standard model has. -/
theorem standard_run (overrides : List Override) :
    (∃ images ports replicas, run Model.standard overrides =
      { Model.standard with images := images, ports := ports, replicas := replicas }) ∧
    (∀ key, (run Model.standard overrides).port key =
      (Dict.lastValue (overrides.filterMap port?) key).elim (Model.standard.port key) .ok) ∧
    (∀ key, (run Model.standard overrides).image key =
      (Dict.lastValue (overrides.filterMap image?) key).elim (Model.standard.image key) .ok) ∧
    (∀ key, (run Model.standard overrides).replicaCount key =
      (Dict.lastValue (overrides.filterMap replicas?) key).elim (Model.standard.replicaCount key)
        .ok) ∧
    (((run Model.standard overrides).images.keys = Model.standard.images.keys ∧
        (run Model.standard overrides).ports.keys = Model.standard.ports.keys ∧
        (run Model.standard overrides).replicas.keys = Model.standard.replicas.keys) ↔
      ∀ override ∈ overrides, override.Known Model.standard) := by
  refine ⟨⟨_, _, _, run_eq _ _⟩, ?_, ?_, ?_, keys_run_eq_iff _ _⟩ <;> intro key <;> rw [run_eq]
  · exact entry_insertAll _ _ _ key
  · exact entry_insertAll _ _ _ key
  · exact entry_insertAll _ _ _ key

/-- A misspelt key is taken in as a new one, and the key that was meant keeps its value. -/
theorem misspelt_port_added :
    (run Model.standard [.port "postgresql" 6543]).ports.keys ≠ Model.standard.ports.keys ∧
      (run Model.standard [.port "postgresql" 6543]).port "postgresql" = .ok 6543 ∧
      (run Model.standard [.port "postgresql" 6543]).port PortKey.postgres = .ok 5432 := by
  decide +kernel

end Override

end PlatformManifests
