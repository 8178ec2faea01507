import Mathlib.Data.List.Forall2
import PlatformManifests.Manifest.Metadata
import PlatformManifests.Proofs.Dictionary
import PlatformManifests.Proofs.Outcome

/-!
Readers that undo writers. What a value is written as is a JSON value, and a source shows a JSON
value if it has the same shape in a form of its own. A reader undoes a writer if it reads what was
written back from every source that shows it.
-/
namespace PlatformManifests

namespace Reading

/-! ### Sources that show JSON values -/

/-- Sources with a relation to the JSON values that they show, such that every question to a source
is answered from the value that it shows. -/
class Faithful (σ : Type) [Source σ] where
  Shows : σ → Json → Prop
  text {source : σ} {value : String} (shown : Shows source (.str value)) :
    Source.text source = .ok value
  whole {source : σ} {value low high : Int} (shown : Shows source (.int value))
    (above : low ≤ value) (below : value ≤ high) (expected : String) :
    Source.whole source low high expected = .ok value
  boolean {source : σ} {value : Bool} (shown : Shows source (.bool value)) :
    Source.boolean source = .ok value
  present {source : σ} {json : Json} (shown : Shows source json) (solid : json ≠ .null) :
    Source.isAbsent source = false
  items {source : σ} {values : List Json} (shown : Shows source (.array values)) :
    ∃ items, Source.items source = .ok items ∧ List.Forall₂ Shows items values
  pairs {source : σ} {entries : List (String × Json)} (shown : Shows source (.object entries)) :
    ∃ pairs, Source.pairs source = .ok pairs ∧ List.Forall₂ (fun pair entry =>
      pair.1 = .ok entry.1 ∧ Shows pair.2 entry.2) pairs entries
  members {source : σ} {entries : List (String × Json)} (shown : Shows source (.object entries))
    {shape : Shape} (distinct : (entries.map Prod.fst).Nodup)
    (known : ∀ name ∈ entries.map Prod.fst, name ∈ shape.fields) :
    ∃ members, Source.members shape source = .ok members ∧ members.trouble = none ∧
      ∀ name, Option.Rel Shows ((members.find? name).map fun entry => entry.2.2)
        (entries.lookup name)

/-- The reader reads back what the writer has written, which is never null. -/
structure ReadsBack {σ α : Type} [Source σ] [Faithful σ] (read : σ → Except Fault α)
    (write : α → Json) : Prop where
  back {source : σ} {value : α} (shown : Faithful.Shows source (write value)) :
    read source = .ok value
  solid (value : α) : write value ≠ .null

/-! ### Values that are no records -/

section Values

variable {σ α : Type} [Source σ] [Faithful σ] {read : σ → Except Fault α} {write : α → Json}

theorem text_readsBack : ReadsBack (σ := σ) readText Json.str where
  back shown := Faithful.text shown
  solid _ := nofun

theorem boolean_readsBack : ReadsBack (σ := σ) readBoolean Json.bool where
  back shown := Faithful.boolean shown
  solid _ := nofun

theorem port_readsBack :
    ReadsBack (σ := σ) readPort fun port : UInt16 => Json.int port.toNat where
  back {source port} shown := by
    have bound := port.toNat_lt
    rw [readPort, Faithful.whole shown (by omega) (by omega), Except.map,
      Int.toNat_natCast, UInt16.ofNat_toNat]
  solid _ := nofun

theorem count_readsBack :
    ReadsBack (σ := σ) readCount fun count : UInt32 => Json.int count.toNat where
  back {source count} shown := by
    have bound := count.toNat_lt
    rw [readCount, Faithful.whole shown (by omega) (by omega), Except.map,
      Int.toNat_natCast, UInt32.ofNat_toNat]
  solid _ := nofun

theorem wide_readsBack :
    ReadsBack (σ := σ) readWide fun wide : Int64 => Json.int wide.toInt where
  back {source wide} shown := by
    have above := wide.le_toInt
    have below := wide.toInt_lt
    rw [readWide, Faithful.whole shown (by omega) (by omega), Except.map,
      Int64.ofInt_toInt]
  solid _ := nofun

theorem mapM_eq_ok (reads : ReadsBack read write) {items : List σ} {values : List α}
    (shown : List.Forall₂ Faithful.Shows items (values.map write)) :
    items.mapM read = .ok values := by
  induction values generalizing items with
  | nil =>
    cases shown
    rfl
  | cons value rest ih =>
    cases shown with
    | cons first later =>
      rw [List.mapM_cons, reads.back first, ih later]
      rfl

theorem list_readsBack (reads : ReadsBack read write) :
    ReadsBack (readList read) fun values => .array (values.map write) where
  back shown := by
    obtain ⟨items, given, each⟩ := Faithful.items shown
    rw [readList, given]
    exact mapM_eq_ok reads each
  solid _ := nofun

theorem texts_readsBack : ReadsBack (σ := σ) readTexts Json.texts :=
  list_readsBack text_readsBack

theorem readEntries_eq_ok (reads : ReadsBack read write) {entries : List (String × α)}
    {pairs : List (Except Fault String × σ)}
    (shown : List.Forall₂ (fun pair entry => pair.1 = .ok entry.1 ∧ Faithful.Shows pair.2 entry.2)
      pairs (entries.map fun entry => (entry.1, write entry.2))) (start : Dict α) :
    readEntries read pairs start =
      .ok (entries.foldl (fun dict entry => dict.insert entry.1 entry.2) start) := by
  induction entries generalizing pairs start with
  | nil =>
    cases shown
    rfl
  | cons entry rest ih =>
    obtain ⟨⟨key, source⟩, later, ⟨named, first⟩, restShown, rfl⟩ :=
      List.forall₂_cons_right_iff.mp shown
    obtain rfl : key = .ok entry.1 := named
    rw [readEntries, List.foldl_cons]
    change read source >>= _ = _
    rw [reads.back first]
    exact ih restShown _

theorem dict_readsBack (reads : ReadsBack read write) :
    ReadsBack (readDict read) fun dict => .object (dict.map write).entries where
  back {source dict} shown := by
    obtain ⟨pairs, given, each⟩ := Faithful.pairs shown
    have rebuilt := readEntries_eq_ok reads each ∅
    rw [readDict, given]
    exact rebuilt.trans (congrArg Except.ok dict.ofList_entries)
  solid _ := nofun

theorem textDict_readsBack : ReadsBack (σ := σ) readTextDict Json.textDict :=
  dict_readsBack text_readsBack

end Values

/-! ### Records -/

/-- A part of a record that was read without trouble. -/
def RecordPart.Gives {α : Type} (part : RecordPart α) (value : α) : Prop := part = .value value

namespace RecordPart.Gives

variable {α β : Type}

theorem map {part : RecordPart α} {value : α} (given : part.Gives value) {change : α → β} :
    (change <$> part).Gives (change value) := by
  obtain rfl := given
  rfl

theorem seq {first : RecordPart (α → β)} {change : α → β} {second : RecordPart α} {value : α}
    (firstGiven : first.Gives change) (secondGiven : second.Gives value) :
    (first <*> second).Gives (change value) := by
  obtain rfl := firstGiven
  obtain rfl := secondGiven
  rfl

end RecordPart.Gives

/-- The members of a record are those of the fields that are written, and they show what is
written. -/
structure Members.Holds {σ : Type} [Source σ] [Faithful σ] (members : Members σ)
    (fields : List (String × Option Json)) : Prop where
  distinct : (fields.map Prod.fst).Nodup
  sound : members.trouble = none
  found (name : String) : Option.Rel Faithful.Shows
    ((members.find? name).map fun entry => entry.2.2) ((Json.present fields).lookup name)

section Fields

variable {fields : List (String × Option Json)}

theorem mem_present {name : String} {json : Json} :
    (name, json) ∈ Json.present fields ↔ (name, some json) ∈ fields := by
  simp only [Json.present, List.mem_filterMap, Option.map_eq_some_iff, Prod.mk.injEq]
  constructor
  · rintro ⟨⟨_, _⟩, listed, _, rfl, rfl, rfl⟩
    exact listed
  · intro listed
    exact ⟨_, listed, json, rfl, rfl, rfl⟩

theorem present_sublist : ((Json.present fields).map Prod.fst).Sublist (fields.map Prod.fst) := by
  induction fields with
  | nil => exact .slnil
  | cons field rest ih =>
    obtain ⟨name, written⟩ := field
    cases written with
    | none => exact ih.cons name
    | some json => exact ih.cons_cons name

theorem lookup_present_some (distinct : (fields.map Prod.fst).Nodup) {name : String} {json : Json}
    (listed : (name, some json) ∈ fields) : (Json.present fields).lookup name = some json :=
  (lookup_eq_some_iff_mem (distinct.sublist present_sublist)).mpr (mem_present.mpr listed)

theorem lookup_present_none (distinct : (fields.map Prod.fst).Nodup) {name : String}
    (listed : (name, none) ∈ fields) : (Json.present fields).lookup name = none := by
  cases found : (Json.present fields).lookup name with
  | none => rfl
  | some json =>
    have inside := (lookup_eq_some_iff_mem (distinct.sublist present_sublist)).mp found
    have given := (lookup_eq_some_iff_mem distinct).mpr (mem_present.mp inside)
    rw [(lookup_eq_some_iff_mem distinct).mpr listed] at given
    cases given

end Fields

namespace Members.Holds

variable {σ α : Type} [Source σ] [Faithful σ] {members : Members σ}
  {fields : List (String × Option Json)} {read : σ → Except Fault α} {write : α → Json}
  {name : String}

theorem find_some (held : members.Holds fields) {json : Json}
    (listed : (name, some json) ∈ fields) :
    ∃ order label source, members.find? name = some (order, label, source) ∧
      Faithful.Shows source json := by
  have related := held.found name
  rw [lookup_present_some held.distinct listed] at related
  cases found : members.find? name with
  | none =>
    rw [found] at related
    cases related
  | some entry =>
    obtain ⟨order, label, source⟩ := entry
    rw [found] at related
    cases related with
    | some shown => exact ⟨order, label, source, rfl, shown⟩

theorem find_none (held : members.Holds fields) (listed : (name, none) ∈ fields) :
    members.find? name = none := by
  have related := held.found name
  rw [lookup_present_none held.distinct listed] at related
  cases found : members.find? name with
  | none => rfl
  | some entry =>
    rw [found] at related
    cases related

theorem field_some (held : members.Holds fields) {json : Json}
    (listed : (name, some json) ∈ fields) {value : α}
    (back : ∀ {source}, Faithful.Shows source json → read source = .ok value)
    (absent : RecordPart α) : (members.field name read absent).Gives value := by
  obtain ⟨_, _, _, found, shown⟩ := held.find_some listed
  rw [RecordPart.Gives, Members.field, found]
  simp only [back shown]

theorem field_none (held : members.Holds fields) (listed : (name, none) ∈ fields)
    (absent : RecordPart α) : members.field name read absent = absent := by
  rw [Members.field, held.find_none listed]

theorem required (held : members.Holds fields) (reads : ReadsBack read write) {value : α}
    (listed : (name, some (write value)) ∈ fields) : (members.required name read).Gives value :=
  held.field_some listed reads.back _

theorem withDefault (held : members.Holds fields) (reads : ReadsBack read write)
    {value default : α} (listed : (name, some (write value)) ∈ fields) :
    (members.withDefault name read default).Gives value :=
  held.field_some listed reads.back _

theorem optional (held : members.Holds fields) (reads : ReadsBack read write) {value : Option α}
    (listed : (name, value.map write) ∈ fields) :
    (members.optional name read).Gives value := by
  cases value with
  | none => exact held.field_none listed _
  | some value =>
    refine held.field_some listed (fun shown => ?_) _
    rw [readOption, Faithful.present shown (reads.solid value), reads.back shown]
    rfl

/-- A list that is left out when it is empty. -/
theorem list (held : members.Holds fields) (reads : ReadsBack read write) {values : List α}
    (listed : (name, writtenList write values) ∈ fields) :
    (members.withDefault name (readList read) []).Gives values := by
  cases values with
  | nil => exact held.field_none listed _
  | cons value rest => exact held.withDefault (list_readsBack reads) listed

/-- A dictionary that is left out when it is empty. -/
theorem dict (held : members.Holds fields) {texts : Dict String}
    (listed : (name, writtenDict texts) ∈ fields) :
    (members.withDefault name readTextDict ∅).Gives texts := by
  rw [writtenDict] at listed
  split at listed
  · rename_i blank
    have nothing : texts = ∅ := by
      cases texts
      cases List.isEmpty_iff.mp blank
      rfl
    rw [nothing]
    exact held.field_none listed _
  · exact held.withDefault textDict_readsBack listed

end Members.Holds

section Records

variable {σ α : Type} [Source σ] [Faithful σ] {shape : Shape} {read : σ → Except Fault α}
  {parts : Members σ → RecordPart α} {write : α → Json}
  {fields : α → List (String × Option Json)}

omit [Source σ] [Faithful σ] in
theorem finish_eq_ok {members : Members σ} {part : RecordPart α} {value : α}
    (given : part.Gives value) (sound : members.trouble = none) :
    members.finish part = .ok value := by
  obtain rfl := given
  unfold Members.finish
  rw [sound]

theorem exists_holds {source : σ} {written : List (String × Option Json)}
    (names : written.map Prod.fst = shape.fields) (distinct : shape.fields.Nodup)
    {entries : List (String × Json)} (unique : (entries.map Prod.fst).Nodup)
    (same : ∀ name, entries.lookup name = (Json.present written).lookup name)
    (shown : Faithful.Shows source (.object entries)) :
    ∃ members, Source.members shape source = .ok members ∧ members.Holds written := by
  have known : ∀ name ∈ entries.map Prod.fst, name ∈ shape.fields := by
    intro name listed
    rw [← names]
    refine present_sublist.subset ?_
    by_contra absent
    rw [← lookup_eq_none_iff_not_mem, ← same, lookup_eq_none_iff_not_mem] at absent
    exact absent listed
  obtain ⟨members, given, sound, found⟩ := Faithful.members shown unique known
  refine ⟨members, given, names ▸ distinct, sound, fun name => ?_⟩
  rw [← same]
  exact found name

/-- A record is read back if each of its parts is, whether its members are listed by ascending
name or in the order of their declaration. -/
theorem record_readsBack (names : ∀ value, (fields value).map Prod.fst = shape.fields)
    (distinct : shape.fields.Nodup)
    (gives : ∀ value members, Members.Holds members (fields value) → (parts members).Gives value) :
    ReadsBack (readRecord shape parts) (fun value => .record (fields value)) where
  back {source value} shown := by
    have unique : ((fields value).map Prod.fst).Nodup := names value ▸ distinct
    have apart := unique.sublist present_sublist
    obtain ⟨members, given, held⟩ := exists_holds (names value) distinct
      (Dict.keys_nodup _) (Dict.get?_ofList apart) shown
    rw [readRecord, given]
    exact finish_eq_ok (gives value members held) held.sound
  solid _ := nofun

theorem listed_readsBack (names : ∀ value, (fields value).map Prod.fst = shape.fields)
    (distinct : shape.fields.Nodup)
    (gives : ∀ value members, Members.Holds members (fields value) → (parts members).Gives value) :
    ReadsBack (readRecord shape parts) (fun value => .listed (fields value)) where
  back {source value} shown := by
    have unique : ((fields value).map Prod.fst).Nodup := names value ▸ distinct
    obtain ⟨members, given, held⟩ := exists_holds (names value) distinct
      (unique.sublist present_sublist) (fun _ => rfl) shown
    rw [readRecord, given]
    exact finish_eq_ok (gives value members held) held.sound
  solid _ := nofun

end Records

/-! ### JSON values show themselves -/

theorem find?_numbered {α : Type} (entries : List (String × α)) (name : String) :
    ((Json.numbered entries).find? fun entry => entry.2.1 = name).map (fun entry => entry.2.2) =
      entries.lookup name := by
  have placed : ∀ start, ((entries.zipIdx start).find? fun entry => entry.1.1 = name).map
      (fun entry => entry.1.2) = entries.lookup name := by
    intro start
    induction entries generalizing start with
    | nil => rfl
    | cons head rest ih =>
      obtain ⟨other, held⟩ := head
      rw [lookup_entry, List.zipIdx_cons, List.find?_cons]
      by_cases same : name = other
      · simp [same]
      · simpa [same, Ne.symm same] using ih (start + 1)
  rw [Json.numbered, List.find?_map, Option.map_map]
  exact placed 0

theorem unknownMember?_eq_none {shape : Shape} {entries : List (String × Json)}
    (known : ∀ name ∈ entries.map Prod.fst, name ∈ shape.fields) :
    Json.unknownMember? shape entries = none := by
  have all : (Json.numbered entries).find?
      (fun entry => !shape.fields.contains entry.2.1) = none := by
    rw [List.find?_eq_none]
    intro entry listed
    obtain ⟨⟨member, place⟩, inside, rfl⟩ := List.mem_map.mp listed
    have name := known member.1 (List.mem_map_of_mem (List.fst_mem_of_mem_zipIdx inside))
    simpa using name
  rw [Json.unknownMember?, all]
  exact ite_self none

instance : Faithful Json where
  Shows source json := source = json
  text shown := by
    subst shown
    rfl
  whole shown above below expected := by
    subst shown
    exact if_pos ⟨above, below⟩
  boolean shown := by
    subst shown
    rfl
  present {source _} shown solid := by
    subst shown
    cases source with
    | null => exact absurd rfl solid
    | _ => rfl
  items shown := by
    subst shown
    exact ⟨_, rfl, List.forall₂_same.mpr fun _ _ => rfl⟩
  pairs shown := by
    subst shown
    exact ⟨_, rfl, by simp [List.forall₂_map_left_iff, List.forall₂_same]⟩
  members {source entries} shown {shape} distinct known := by
    subst shown
    refine ⟨Json.objectMembers shape entries, rfl, unknownMember?_eq_none known, fun name => ?_⟩
    rw [Members.find?, Json.objectMembers, find?_numbered entries name]
    cases entries.lookup name with
    | none => exact .none
    | some json => exact .some rfl

end Reading

end PlatformManifests
