import PlatformManifests.Proofs.Composition
import PlatformManifests.Proofs.Network

/-!
Catalogues: all objects of one sort that a descriptor or a set holds, each under its key with what
is known of it. The catalogue of a set is put together from those of the components.
-/
namespace PlatformManifests

variable {α β : Type} {view : Resource → Option β} {fits : α → β → Prop}

/-- The objects that are seen through a view are those of the entries, and fit them. -/
structure Catalogued (get? : String → Option Resource) (view : Resource → Option β)
    (fits : α → β → Prop) (entries : List (String × α)) : Prop where
  only : ∀ {key resource object}, get? key = some resource → view resource = some object →
    ∃ known, (key, known) ∈ entries ∧ fits known object
  all : ∀ {key known}, (key, known) ∈ entries → ∃ resource object,
    get? key = some resource ∧ view resource = some object ∧ fits known object

/-- The entries of a list of resources, in order; resources that are not seen have none. -/
inductive Tabulated (view : Resource → Option β) (fits : α → β → Prop) :
    List Resource → List (String × α) → Prop
  | nil : Tabulated view fits [] []
  | skip {resource : Resource} {resources : List Resource} {entries : List (String × α)}
      (unseen : view resource = none) (rest : Tabulated view fits resources entries) :
      Tabulated view fits (resource :: resources) entries
  | entry {resource : Resource} {resources : List Resource} {entries : List (String × α)}
      {key : String} {object : β} {known : α} (named : resource.key = key)
      (seen : view resource = some object) (fit : fits known object)
      (rest : Tabulated view fits resources entries) :
      Tabulated view fits (resource :: resources) ((key, known) :: entries)

namespace Tabulated

variable {resources : List Resource} {entries : List (String × α)}

theorem exists_known (table : Tabulated view fits resources entries) {resource : Resource}
    (member : resource ∈ resources) {object : β} (seen : view resource = some object) :
    ∃ known, (resource.key, known) ∈ entries ∧ fits known object := by
  induction table with
  | nil => cases member
  | skip unseen _ ih =>
    rcases List.mem_cons.mp member with rfl | later
    · rw [unseen] at seen
      cases seen
    · exact ih later
  | @entry _ _ _ _ _ known named here fit _ ih =>
    rcases List.mem_cons.mp member with rfl | later
    · rw [here] at seen
      cases seen
      exact ⟨known, named ▸ List.mem_cons_self, fit⟩
    · obtain ⟨other, inside, otherFit⟩ := ih later
      exact ⟨other, List.mem_cons_of_mem _ inside, otherFit⟩

theorem exists_resource (table : Tabulated view fits resources entries) {key : String}
    {known : α} (listed : (key, known) ∈ entries) :
    ∃ resource ∈ resources, resource.key = key ∧
      ∃ object, view resource = some object ∧ fits known object := by
  induction table with
  | nil => cases listed
  | skip _ _ ih =>
    obtain ⟨resource, member, rest⟩ := ih listed
    exact ⟨resource, List.mem_cons_of_mem _ member, rest⟩
  | @entry resource _ _ _ object _ named seen fit _ ih =>
    rcases List.mem_cons.mp listed with same | later
    · cases same
      exact ⟨resource, List.mem_cons_self, named, object, seen, fit⟩
    · obtain ⟨other, member, rest⟩ := ih later
      exact ⟨other, List.mem_cons_of_mem _ member, rest⟩

theorem catalogued (table : Tabulated view fits resources entries) {descriptor : Descriptor}
    (lists : descriptor.Lists resources) : Catalogued descriptor.get? view fits entries := by
  constructor
  · intro key resource object held seen
    obtain ⟨member, rfl⟩ := (lists key resource).mp held
    exact table.exists_known member seen
  · intro key known listed
    obtain ⟨resource, member, rfl, object, seen, fit⟩ := table.exists_resource listed
    exact ⟨resource, object, (lists _ _).mpr ⟨member, rfl⟩, seen, fit⟩

end Tabulated

/-- Where no certificate is seen, the router has no entries but for its route. -/
theorem IngressRouter.tabulated_certificates {config : Configuration}
    (unseen : view (certificate config) = none) :
    Tabulated view fits (certificates config) [] := by
  unfold certificates
  split
  · exact .skip unseen .nil
  · exact .nil

theorem catalogued_of_composed {model : Model} {config : Configuration} {set : ResourceSet}
    {rosters : List (Generator × List (String × α))}
    (composed : compose model config (rosters.map Prod.fst) = .ok set)
    (each : ∀ roster ∈ rosters, ∀ descriptor, roster.1.generate model config = .ok descriptor →
      Catalogued descriptor.get? view fits roster.2) :
    Catalogued set.get? view fits (rosters.flatMap Prod.snd) := by
  obtain ⟨_, _, descriptors, generated, union⟩ := compose_eq_ok.mp composed
  constructor
  · intro key resource object held seen
    obtain ⟨descriptor, member, found⟩ := union.get?_eq_some_iff.mp held
    obtain ⟨generator, listed, made⟩ := generated.exists_generator member
    obtain ⟨roster, rosterMember, rfl⟩ := List.mem_map.mp listed
    obtain ⟨known, inside, fit⟩ := (each roster rosterMember descriptor made).only found seen
    exact ⟨known, List.mem_flatMap.mpr ⟨roster, rosterMember, inside⟩, fit⟩
  · intro key known listed
    obtain ⟨roster, rosterMember, inside⟩ := List.mem_flatMap.mp listed
    obtain ⟨descriptor, member, made⟩ :=
      generated.exists_descriptor (List.mem_map_of_mem rosterMember)
    obtain ⟨resource, object, found, seen, fit⟩ :=
      (each roster rosterMember descriptor made).all inside
    exact ⟨resource, object, union.get?_eq_some_iff.mpr ⟨descriptor, member, found⟩, seen, fit⟩

/-- A resource of a composition was made by one of the generators, and all else that this one made
is there, too, under its name. -/
theorem exists_maker {model : Model} {config : Configuration} {generators : List Generator}
    {set : ResourceSet} (composed : compose model config generators = .ok set) {key : String}
    {resource : Resource} (held : set.get? key = some resource) :
    ∃ generator ∈ generators, ∃ descriptor,
      generator.generate model config = .ok descriptor ∧ descriptor.get? key = some resource ∧
      ∀ {other found}, descriptor.get? other = some found →
        set.entries.get? other = some ⟨descriptor.component, found⟩ := by
  obtain ⟨_, _, descriptors, generated, union⟩ := compose_eq_ok.mp composed
  obtain ⟨descriptor, member, found⟩ := union.get?_eq_some_iff.mp held
  obtain ⟨generator, listed, made⟩ := generated.exists_generator member
  refine ⟨generator, listed, descriptor, made, found, ?_⟩
  intro other neighbour given
  exact (union other ⟨descriptor.component, neighbour⟩).mpr ⟨descriptor, member, rfl, given⟩

theorem exists_made {model : Model} {config : Configuration} {generators : List Generator}
    {set : ResourceSet} (composed : compose model config generators = .ok set)
    {generator : Generator} (listed : generator ∈ generators) :
    ∃ descriptor, generator.generate model config = .ok descriptor ∧
      ∀ {key resource}, descriptor.get? key = some resource → set.get? key = some resource := by
  obtain ⟨_, _, descriptors, generated, union⟩ := compose_eq_ok.mp composed
  obtain ⟨descriptor, member, made⟩ := generated.exists_descriptor listed
  exact ⟨descriptor, made, fun held => union.get?_eq_some_iff.mpr ⟨descriptor, member, held⟩⟩

end PlatformManifests
