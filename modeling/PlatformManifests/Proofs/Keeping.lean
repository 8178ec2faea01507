import PlatformManifests.Proofs.JsonTree
import PlatformManifests.Proofs.ReadBack

/-!
Readers that lose nothing. What was read from a JSON tree without nulls, with objects where records
are expected, is written as a tree that keeps it: unknown members are no part of a closed record,
and a member that was missing is written only if it has a default.
-/
namespace PlatformManifests.Reading

/-- What was read is written as a tree that keeps what it was read from. -/
structure Keeps {α : Type} (places : List String → Prop) (added : List String → Json → Prop)
    (read : Json → Except Fault α) (write : α → Json) : Prop where
  keep {json : Json} {value : α} (keyed : json.Keyed) (solid : json.NullFree)
    (mapped : json.Mapped places) (given : read json = .ok value) : json.Kept added (write value)

section Values

variable {α : Type} {read : Json → Except Fault α} {write : α → Json}
  {places : List String → Prop} {added : List String → Json → Prop}

theorem keeps_of_eq (same : ∀ json value, read json = .ok value → json = write value) :
    Keeps places added read write where
  keep {json value} _ _ _ given := same json value given ▸ Json.Kept.refl json

theorem eq_str_of_readText {json : Json} {value : String} (given : readText json = .ok value) :
    json = .str value := by
  cases json with
  | str held =>
    cases given
    rfl
  | _ => cases given

theorem keeps_text : Keeps places added readText Json.str :=
  keeps_of_eq fun _ _ => eq_str_of_readText

theorem keeps_boolean : Keeps places added readBoolean Json.bool := by
  refine keeps_of_eq fun json value given => ?_
  cases json with
  | bool held =>
    cases given
    rfl
  | _ => cases given

theorem eq_int_of_whole {json : Json} {low high value : Int} {expected : String}
    (given : Source.whole json low high expected = .ok value) :
    json = .int value ∧ low ≤ value ∧ value ≤ high := by
  cases json with
  | int held =>
    change (if low ≤ held ∧ held ≤ high then _ else _) = _ at given
    split at given
    · rename_i bounds
      cases given
      exact ⟨rfl, bounds⟩
    · cases given
  | _ => cases given

theorem keeps_port : Keeps places added readPort fun port : UInt16 => .int port.toNat := by
  refine keeps_of_eq fun json value given => ?_
  obtain ⟨whole, read, rfl⟩ := Outcome.map_eq_ok.mp given
  obtain ⟨rfl, above, below⟩ := eq_int_of_whole read
  have bound : whole.toNat < UInt16.size := by
    change whole.toNat < 65536
    omega
  rw [UInt16.toNat_ofNat_of_lt' bound, Int.toNat_of_nonneg above]

theorem keeps_count : Keeps places added readCount fun count : UInt32 => .int count.toNat := by
  refine keeps_of_eq fun json value given => ?_
  obtain ⟨whole, read, rfl⟩ := Outcome.map_eq_ok.mp given
  obtain ⟨rfl, above, below⟩ := eq_int_of_whole read
  have bound : whole.toNat < UInt32.size := by
    change whole.toNat < 4294967296
    omega
  rw [UInt32.toNat_ofNat_of_lt' bound, Int.toNat_of_nonneg above]

theorem eq_map_of_mapM {items : List Json} {values : List α}
    (same : ∀ json value, read json = .ok value → json = write value)
    (given : items.mapM read = .ok values) : items = values.map write := by
  induction items generalizing values with
  | nil =>
    cases given
    rfl
  | cons item rest ih =>
    rw [List.mapM_cons] at given
    simp only [Outcome.bind_eq_ok] at given
    obtain ⟨value, first, others, later, made⟩ := given
    cases made
    rw [List.map_cons, ← ih later, ← same item value first]

theorem keeps_texts : Keeps places added readTexts Json.texts := by
  refine keeps_of_eq fun json values given => ?_
  obtain ⟨items, listed, read⟩ := Outcome.bind_eq_ok.mp given
  cases json with
  | array held =>
    cases listed
    exact congrArg Json.array (eq_map_of_mapM (fun _ _ => eq_str_of_readText) read)
  | _ => cases listed

/-! ### Dictionaries -/

/-- What becomes of the entries of a mapping under each key. -/
theorem get?_of_readEntries {entries : List (String × Json)}
    (distinct : (entries.map Prod.fst).Nodup) {start dict : Dict α}
    (given : readEntries read (entries.map fun entry => (.ok entry.1, entry.2)) start = .ok dict)
    (name : String) :
    (∃ json value, entries.lookup name = some json ∧ read json = .ok value ∧
      dict.get? name = some value) ∨
      entries.lookup name = none ∧ dict.get? name = start.get? name := by
  induction entries generalizing start with
  | nil =>
    cases given
    exact .inr ⟨rfl, rfl⟩
  | cons entry rest ih =>
    obtain ⟨key, json⟩ := entry
    obtain ⟨alone, restDistinct⟩ := List.nodup_cons.mp distinct
    obtain ⟨_, named, further⟩ := Outcome.bind_eq_ok.mp given
    cases named
    obtain ⟨value, first, later⟩ := Outcome.bind_eq_ok.mp further
    have others := ih restDistinct later
    rw [Dict.get?_insert] at others
    rw [lookup_entry]
    by_cases same : name = key
    · subst same
      rw [lookup_eq_none_iff_not_mem.mpr alone, if_pos rfl] at others
      rw [if_pos rfl]
      rcases others with ⟨_, _, impossible, _⟩ | ⟨_, held⟩
      · cases impossible
      · exact .inl ⟨json, value, rfl, first, held⟩
    · rw [if_neg same] at others ⊢
      exact others

theorem keeps_dict
    (keeps : ∀ name, Keeps (fun path => places (name :: path)) (fun path => added (name :: path))
      read write) :
    Keeps places added (readDict read) fun dict => .object (dict.map write).entries where
  keep {json dict} keyed solid mapped given := by
    obtain ⟨pairs, listed, entries⟩ := Outcome.bind_eq_ok.mp given
    cases json with
    | object members =>
      cases listed
      refine Json.Kept.object fun name => ?_
      rw [show (dict.map write).entries.lookup name = (dict.get? name).map write from
        Dict.get?_map write dict name]
      rcases get?_of_readEntries keyed.distinct entries name with
        ⟨held, value, found, made, here⟩ | ⟨missing, nothing⟩
      · rw [found, here]
        exact .both ((keeps name).keep (keyed.member found) (solid.member found)
          (mapped.member found) made)
      · rw [missing, nothing]
        exact .neither
    | _ => cases listed

theorem keeps_textDict : Keeps places added readTextDict Json.textDict :=
  keeps_dict fun _ => keeps_text

end Values

/-! ### Records -/

namespace RecordPart.Gives

variable {α β : Type}

theorem of_map {part : RecordPart α} {change : α → β} {result : β}
    (given : (change <$> part).Gives result) :
    ∃ value, change value = result ∧ part.Gives value := by
  cases part with
  | value held =>
    cases given
    exact ⟨held, rfl, rfl⟩
  | trouble first => cases given

theorem of_seq {first : RecordPart (α → β)} {second : RecordPart α} {result : β}
    (given : (first <*> second).Gives result) :
    ∃ change value, change value = result ∧ first.Gives change ∧ second.Gives value := by
  cases first with
  | value change =>
    cases second with
    | value held =>
      cases given
      exact ⟨change, held, rfl, rfl, rfl⟩
    | trouble fault => cases given
  | trouble fault =>
    cases second with
    | value held => cases given
    | trouble other =>
      change (if _ then _ else _) = _ at given
      split at given <;> cases given

end RecordPart.Gives

/-- An object that is read as a record. -/
structure Sound (places : List String → Prop) (entries : List (String × Json)) : Prop where
  keyed : (Json.object entries).Keyed
  solid : (Json.object entries).NullFree
  mapped : (Json.object entries).Mapped places

section Fields

variable {α : Type} {read : Json → Except Fault α} {write : α → Json} {shape : Shape}
  {entries : List (String × Json)} {name : String}

theorem cases_of_field {value : α} {absent : RecordPart α}
    (given : ((Json.objectMembers shape entries).field name read absent).Gives value) :
    (∃ json, entries.lookup name = some json ∧ read json = .ok value) ∨
      entries.lookup name = none ∧ absent.Gives value := by
  have looked := find?_numbered entries name
  rw [RecordPart.Gives, Members.field] at given
  change ((Json.objectMembers shape entries).find? name).map _ = _ at looked
  cases found : (Json.objectMembers shape entries).find? name with
  | none =>
    rw [found] at given looked
    exact .inr ⟨looked.symm, given⟩
  | some entry =>
    obtain ⟨order, label, json⟩ := entry
    rw [found] at given looked
    refine .inl ⟨json, looked.symm, ?_⟩
    cases outcome : read json with
    | ok held =>
      simp only [outcome] at given
      cases given
      rfl
    | error fault =>
      simp only [outcome] at given
      cases given

namespace Sound

variable {places : List String → Prop} {added : List String → Json → Prop}
  (sound : Sound places entries)
  (keeps : Keeps (fun path => places (name :: path)) (fun path => added (name :: path)) read
    write)
include sound keeps

theorem both {json : Json} {value : α}
    (found : entries.lookup name = some json) (given : read json = .ok value) :
    Json.MemberKept (fun path => added (name :: path)) (entries.lookup name)
      (some (write value)) := by
  rw [found]
  exact .both (keeps.keep (sound.keyed.member found) (sound.solid.member found)
    (sound.mapped.member found) given)

theorem required {value : α}
    (given : ((Json.objectMembers shape entries).required name read).Gives value) :
    Json.MemberKept (fun path => added (name :: path)) (entries.lookup name)
      (some (write value)) := by
  rcases cases_of_field given with ⟨json, found, made⟩ | ⟨_, impossible⟩
  · exact sound.both keeps found made
  · cases impossible

theorem withDefault {value default : α}
    (given : ((Json.objectMembers shape entries).withDefault name read default).Gives value)
    (permitted : added [name] (write default)) :
    Json.MemberKept (fun path => added (name :: path)) (entries.lookup name)
      (some (write value)) := by
  rcases cases_of_field given with ⟨json, found, made⟩ | ⟨missing, same⟩
  · exact sound.both keeps found made
  · cases same
    rw [missing]
    exact .extra permitted

theorem optional {value : Option α}
    (given : ((Json.objectMembers shape entries).optional name read).Gives value) :
    Json.MemberKept (fun path => added (name :: path)) (entries.lookup name)
      (value.map write) := by
  rcases cases_of_field given with ⟨json, found, made⟩ | ⟨missing, same⟩
  · have solid : Source.isAbsent json = false := by
      cases json with
      | null => exact absurd rfl (sound.solid.member found [])
      | _ => rfl
    rw [readOption, solid] at made
    obtain ⟨held, read, rfl⟩ := Outcome.map_eq_ok.mp made
    exact sound.both keeps found read
  · cases same
    rw [missing]
    exact .neither

end Sound

end Fields

section Record

variable {α : Type} {shape : Shape} {parts : Members Json → RecordPart α}
  {fields : α → List (String × Option Json)} {places : List String → Prop}
  {added : List String → Json → Prop}

theorem of_finish {members : Members Json} {part : RecordPart α} {value : α}
    (given : members.finish part = .ok value) : part.Gives value ∧ members.trouble = none := by
  unfold Members.finish at given
  split at given
  · rename_i sound
    cases given
    exact ⟨rfl, sound⟩
  · cases given
  · cases given
  · cases given

/-- Every member of a closed record is one of its fields. -/
theorem mem_fields_of_known {entries : List (String × Json)} (closed : shape.closed = true)
    (known : Json.unknownMember? shape entries = none) {name : String}
    (listed : name ∈ entries.map Prod.fst) : name ∈ shape.fields := by
  rw [Json.unknownMember?, if_pos closed, Option.map_eq_none_iff, List.find?_eq_none] at known
  obtain ⟨entry, inside, rfl⟩ := List.mem_map.mp listed
  obtain ⟨place, there⟩ := List.mem_iff_getElem?.mp inside
  have found : (place, entry) ∈ Json.numbered entries :=
    List.mem_map.mpr ⟨(entry, place), List.mk_mem_zipIdx_iff_getElem?.mpr there, rfl⟩
  simpa using known _ found

/-- A closed record loses nothing if none of its fields does. -/
theorem keeps_record (root : places []) (closed : shape.closed = true)
    (names : ∀ value, (fields value).map Prod.fst = shape.fields) (distinct : shape.fields.Nodup)
    (each : ∀ entries value, Sound places entries →
      (parts (Json.objectMembers shape entries)).Gives value → ∀ field ∈ fields value,
        Json.MemberKept (fun path => added (field.1 :: path)) (entries.lookup field.1) field.2) :
    Keeps places added (readRecord shape parts) fun value => .listed (fields value) where
  keep {json value} keyed solid mapped given := by
    obtain ⟨entries, rfl⟩ := mapped [] root json rfl
    obtain ⟨members, listed, finished⟩ := Outcome.bind_eq_ok.mp given
    cases listed
    obtain ⟨made, sound⟩ := of_finish finished
    have unique : ((fields value).map Prod.fst).Nodup := names value ▸ distinct
    refine Json.Kept.object fun name => ?_
    by_cases known : name ∈ shape.fields
    · obtain ⟨⟨_, written⟩, inside, rfl⟩ := List.mem_map.mp (names value ▸ known)
      have here := each entries value ⟨keyed, solid, mapped⟩ made _ inside
      cases written with
      | some json =>
        rw [lookup_present_some unique inside]
        exact here
      | none =>
        rw [lookup_present_none unique inside]
        exact here
    · have noMember : entries.lookup name = none :=
        lookup_eq_none_iff_not_mem.mpr fun listed => known (mem_fields_of_known closed sound listed)
      have noField : (Json.present (fields value)).lookup name = none :=
        lookup_eq_none_iff_not_mem.mpr fun listed =>
          known (names value ▸ present_sublist.subset listed)
      rw [noMember, noField]
      exact .neither

end Record

/-! ### Names of written members -/

/-- What is written for a field, if anything, has different names for its members. -/
def KeyedField (written : Option Json) : Prop := ∀ json, written = some json → json.Keyed

theorem KeyedField.some {json : Json} (keyed : json.Keyed) : KeyedField (some json) := by
  rintro _ ⟨⟩
  exact keyed

theorem KeyedField.map {α : Type} {write : α → Json} (keyed : ∀ value, (write value).Keyed)
    (value : Option α) : KeyedField (value.map write) := by
  intro json written
  obtain ⟨held, _, rfl⟩ := Option.map_eq_some_iff.mp written
  exact keyed held

theorem keyed_listed (shape : Shape) {fields : List (String × Option Json)}
    (names : fields.map Prod.fst = shape.fields) (distinct : shape.fields.Nodup)
    (each : ∀ field ∈ fields, KeyedField field.2) : (Json.listed fields).Keyed := by
  have unique : (fields.map Prod.fst).Nodup := names ▸ distinct
  refine .object _ (unique.sublist present_sublist) fun member listed => ?_
  exact each (member.1, some member.2) (mem_present.mp listed) member.2 rfl

theorem keyed_dict {α : Type} {write : α → Json} (keyed : ∀ value, (write value).Keyed)
    (dict : Dict α) : (Json.object (dict.map write).entries).Keyed := by
  refine .object _ (Dict.keys_nodup _) fun member listed => ?_
  obtain ⟨entry, _, rfl⟩ := List.mem_map.mp listed
  exact keyed entry.2

theorem keyed_texts (texts : List String) : (Json.texts texts).Keyed := by
  refine .array _ fun item listed => ?_
  obtain ⟨text, _, rfl⟩ := List.mem_map.mp listed
  exact .str text

end PlatformManifests.Reading
