import PlatformManifests.Proofs.Inputs

/-!
Flaws of documents. An outline tells the records of a document with their fields, the fields that
must be there, and the places of port numbers. A document that breaks it is not read: nothing is
dropped, filled in or cut short.
-/
namespace PlatformManifests

open Reading

namespace Json

theorem at?_append (json : Json) (path rest : List String) :
    json.at? (path ++ rest) = (json.at? path).bind (·.at? rest) := by
  induction path generalizing json with
  | nil => rfl
  | cons name further ih =>
    change (json.member? name).bind (·.at? (further ++ rest)) = _
    simp only [ih]
    exact (Option.bind_assoc _ _ _).symm

theorem at?_singleton (members : List (String × Json)) (name : String) :
    (Json.object members).at? [name] = members.lookup name :=
  Option.bind_fun_some _

theorem at?_snoc {json : Json} {path : List String} {members : List (String × Json)}
    (found : json.at? path = some (.object members)) (name : String) :
    json.at? (path ++ [name]) = members.lookup name := by
  rw [at?_append, found, Option.bind_some, at?_singleton]

section Listed

variable {fields : List (String × Option Json)} {name : String}

theorem at?_listed_some (shape : Shape) {json : Json} (rest : List String)
    (names : fields.map Prod.fst = shape.fields) (distinct : shape.fields.Nodup)
    (listed : (name, some json) ∈ fields) :
    (Json.listed fields).at? (name :: rest) = json.at? rest := by
  rw [Json.listed, at?_cons, lookup_present_some (names ▸ distinct) listed]
  rfl

theorem exists_of_at?_listed (shape : Shape) (json : Option Json) {rest : List String}
    {held : Json} (found : (Json.listed fields).at? (name :: rest) = some held)
    (names : fields.map Prod.fst = shape.fields) (distinct : shape.fields.Nodup)
    (listed : (name, json) ∈ fields) :
    ∃ written, json = some written ∧ written.at? rest = some held := by
  cases json with
  | none =>
    rw [Json.listed, at?_cons, lookup_present_none (names ▸ distinct) listed] at found
    cases found
  | some written => exact ⟨written, rfl, at?_listed_some shape rest names distinct listed ▸ found⟩

theorem mem_names_of_at?_listed {held : Json}
    (found : (Json.listed fields).at? [name] = some held) : name ∈ fields.map Prod.fst := by
  rw [Json.listed, at?_cons] at found
  obtain ⟨json, there, _⟩ := Option.bind_eq_some_iff.mp found
  refine present_sublist.subset ?_
  by_contra absent
  rw [lookup_eq_none_iff_not_mem.mpr absent] at there
  cases there

theorem at?_listed_ne_none (complete : ∀ field ∈ fields, field.2.isSome)
    (listed : name ∈ fields.map Prod.fst) : (Json.listed fields).at? [name] ≠ none := by
  obtain ⟨⟨_, json⟩, inside, rfl⟩ := List.mem_map.mp listed
  obtain ⟨written, rfl⟩ := Option.isSome_iff_exists.mp (complete _ inside)
  rw [Json.listed, at?_singleton, Ne, lookup_eq_none_iff_not_mem, not_not]
  exact List.mem_map.mpr ⟨_, mem_present.mpr inside, rfl⟩

end Listed

end Json

/-- The records of a document with their fields, the fields without which it is not read, and
where it has port numbers. -/
structure Outline where
  records : List (List String × List String)
  required : List (List String × String)
  isPort : List String → Prop

namespace Outline

/-- A tree without nulls, and with objects in the places of records. -/
structure Fits (outline : Outline) (json : Json) : Prop where
  keyed : json.Keyed
  solid : json.NullFree
  mapped : json.Mapped fun path => path ∈ outline.records.map Prod.fst

theorem fits_of_isClean {outline : Outline} {json : Json} (clean : json.isClean)
    (mapped : ∀ record ∈ outline.records, ∀ held ∈ json.at? record.1, held.IsObject) :
    outline.Fits json where
  keyed := Json.keyed_of_isClean clean
  solid := Json.nullFree_of_isClean clean
  mapped path place held found := by
    obtain ⟨record, listed, rfl⟩ := List.mem_map.mp place
    exact mapped record listed held found

/-- A member that no record has, a field that is missing, or a number that is no port. -/
inductive Flawed (outline : Outline) (json : Json) : Prop
  | unknown (path fields : List String) (members : List (String × Json)) (name : String)
      (record : (path, fields) ∈ outline.records) (found : json.at? path = some (.object members))
      (listed : name ∈ members.map Prod.fst) (alone : name ∉ fields)
  | missing (path : List String) (members : List (String × Json)) (name : String)
      (required : (path, name) ∈ outline.required)
      (found : json.at? path = some (.object members)) (absent : name ∉ members.map Prod.fst)
  | port (path : List String) (number : Int) (isPort : outline.isPort path)
      (found : json.at? path = some (.int number)) (outside : number < 0 ∨ 65535 < number)

/-- The written document has no flaw, and none of its required fields may be added. -/
structure Describes (outline : Outline) (added : List String → Json → Prop) (json : Json) :
    Prop where
  named (path fields : List String) (record : (path, fields) ∈ outline.records) (name : String)
    (held : Json) (found : json.at? (path ++ [name]) = some held) : name ∈ fields
  complete (path : List String) (name : String) (required : (path, name) ∈ outline.required)
    (members : List (String × Json)) (found : json.at? path = some (.object members)) :
    json.at? (path ++ [name]) ≠ none
  lasting (path : List String) (name : String) (required : (path, name) ∈ outline.required)
    (place rest : List String) (value : Json) (permitted : added place value) :
    path ++ [name] ≠ place ++ rest
  bounded (path : List String) (isPort : outline.isPort path) (number : Int)
    (found : json.at? path = some (.int number)) : 0 ≤ number ∧ number ≤ 65535

/-- What is kept by a document without a flaw has none. -/
theorem Describes.not_flawed {outline : Outline} {added : List String → Json → Prop}
    {json other : Json} (describes : outline.Describes added other)
    (kept : json.Kept added other) : ¬ outline.Flawed json := by
  rintro (⟨path, fields, members, name, record, found, listed, alone⟩ |
    ⟨path, members, name, required, found, absent⟩ | ⟨path, number, isPort, found, outside⟩)
  · obtain ⟨held, there⟩ := Option.ne_none_iff_exists'.mp
      (mt lookup_eq_none_iff_not_mem.mp (not_not.mpr listed))
    have deeper : json.at? (path ++ [name]) = some held := (Json.at?_snoc found name).trans there
    obtain ⟨counterpart, otherFound, _⟩ := kept.kept deeper
    exact alone (describes.named path fields record name counterpart otherFound)
  · obtain ⟨counterpart, otherFound, same⟩ := kept.kept found
    have object : counterpart.IsObject := by
      rcases same with rfl | ⟨_, object⟩
      · exact ⟨members, rfl⟩
      · exact object
    obtain ⟨others, rfl⟩ := object
    obtain ⟨held, written⟩ :=
      Option.ne_none_iff_exists'.mp (describes.complete path name required others otherFound)
    have lacking : json.at? (path ++ [name]) = none :=
      (Json.at?_snoc found name).trans (lookup_eq_none_iff_not_mem.mpr absent)
    obtain ⟨place, value, rest, permitted, split, _⟩ := kept.added written lacking
    exact describes.lasting path name required place rest value permitted split
  · obtain ⟨counterpart, otherFound, rfl | ⟨⟨_, impossible⟩, _⟩⟩ := kept.kept found
    · have bounds := describes.bounded path isPort number otherFound
      omega
    · cases impossible

end Outline

/-! ### Models -/

namespace Model

/-- Nothing may be left out of a model, and all its ports are in one section. -/
def outline : Outline where
  records := records
  required := records.flatMap fun record => record.2.map fun field => (record.1, field)
  isPort path := ∃ key, path = ["ports", key]

theorem exists_record (model : Model) {path fields : List String}
    (record : (path, fields) ∈ records) :
    ∃ written, model.toJson.at? path = some (.listed written) ∧ written.map Prod.fst = fields ∧
      ∀ field ∈ written, field.2.isSome := by
  simp only [records, List.mem_cons, Prod.mk.injEq, List.not_mem_nil, or_false] at record
  rcases record with ⟨rfl, rfl⟩ | ⟨rfl, rfl⟩ | ⟨rfl, rfl⟩ | ⟨rfl, rfl⟩ | ⟨rfl, rfl⟩ | ⟨rfl, rfl⟩ |
    ⟨rfl, rfl⟩ <;>
  exact ⟨_, rfl, rfl, by simp⟩

theorem describes (model : Model) : outline.Describes (fun _ _ => False) model.toJson where
  named path fields record name held found := by
    obtain ⟨written, there, names, _⟩ := exists_record model record
    rw [Json.at?_append, there] at found
    exact names ▸ Json.mem_names_of_at?_listed found
  complete path name required members found := by
    obtain ⟨⟨place, fields⟩, record, inside⟩ := List.mem_flatMap.mp required
    obtain ⟨field, listed, same⟩ := List.mem_map.mp inside
    cases same
    obtain ⟨written, there, names, complete⟩ := exists_record model record
    rw [Json.at?_append, there]
    exact Json.at?_listed_ne_none complete (names ▸ listed)
  lasting _ _ _ _ _ _ nothing := nothing.elim
  bounded path isPort number found := by
    obtain ⟨key, rfl⟩ := isPort
    have port : (portsToJson model.ports).at? [key] = some (.int number) := found
    rw [portsToJson, Json.at?_singleton] at port
    have given := (Dict.get?_map _ model.ports key).symm.trans port
    obtain ⟨held, _, same⟩ := Option.map_eq_some_iff.mp given
    cases same
    have bound := held.toNat_lt
    omega

end Model

/-! ### Configurations -/

namespace Configuration

def outline : Outline where
  records := records
  required := [([], "namespace"), ([], "scheme"), ([], "domain"), ([], "secrets"), ([], "admin"),
    (["admin"], "email"), (["smtp"], "host"), (["smtp"], "from")]
  isPort path := path = ["smtp", "port"]

section Members

variable (config : Configuration) (rest : List String)

theorem at?_subdomains :
    config.toJson.at? ("subdomains" :: rest) = config.subdomains.toJson.at? rest :=
  Json.at?_listed_some shape rest rfl (by decide) (by simp)

theorem at?_admin : config.toJson.at? ("admin" :: rest) = config.admin.toJson.at? rest :=
  Json.at?_listed_some shape rest rfl (by decide) (by simp)

theorem exists_mail {config : Configuration} {rest : List String} {held : Json}
    (found : config.toJson.at? ("smtp" :: rest) = some held) :
    ∃ mail : MailRelay, mail.toJson.at? rest = some held := by
  obtain ⟨written, given, there⟩ := Json.exists_of_at?_listed shape
    (config.mail.map MailRelay.toJson) found rfl (by decide) (by simp)
  obtain ⟨mail, _, rfl⟩ := Option.map_eq_some_iff.mp given
  exact ⟨mail, there⟩

end Members

theorem describes (config : Configuration) : outline.Describes HasDefault config.toJson where
  named path fields record name held found := by
    simp only [outline, records, List.mem_cons, Prod.mk.injEq, List.not_mem_nil, or_false] at record
    rcases record with ⟨rfl, rfl⟩ | ⟨rfl, rfl⟩ | ⟨rfl, rfl⟩ | ⟨rfl, rfl⟩
    · exact Json.mem_names_of_at?_listed found
    · exact Json.mem_names_of_at?_listed ((at?_subdomains config [name]).symm.trans found)
    · exact Json.mem_names_of_at?_listed ((at?_admin config [name]).symm.trans found)
    · obtain ⟨mail, there⟩ := exists_mail found
      exact Json.mem_names_of_at?_listed there
  complete path name required members found := by
    simp only [outline, List.mem_cons, Prod.mk.injEq, List.not_mem_nil, or_false] at required
    rcases required with ⟨rfl, rfl⟩ | ⟨rfl, rfl⟩ | ⟨rfl, rfl⟩ | ⟨rfl, rfl⟩ | ⟨rfl, rfl⟩ |
      ⟨rfl, rfl⟩ | relay
    iterate 6 exact Option.some_ne_none _
    · have place : path = ["smtp"] := relay.elim And.left And.left
      subst place
      obtain ⟨mail, there⟩ := exists_mail found
      rw [Json.at?_append, found, ← there]
      rcases relay with ⟨_, rfl⟩ | ⟨_, rfl⟩
      · exact Option.some_ne_none _
      · exact Option.some_ne_none _
  lasting path name required place rest value permitted := by
    have apart : ∀ field ∈ outline.required, ∀ place ∈ defaults.map Prod.fst,
        ¬ place <+: field.1 ++ [field.2] := by decide
    intro split
    exact apart (path, name) required place (List.mem_map_of_mem permitted) ⟨rest, split.symm⟩
  bounded path isPort number found := by
    obtain rfl : path = ["smtp", "port"] := isPort
    obtain ⟨mail, there⟩ := exists_mail found
    have port : mail.toJson.at? ["port"] = some (.int mail.port.toNat) := rfl
    rw [port] at there
    cases there
    have bound := mail.port.toNat_lt
    omega

end Configuration

end PlatformManifests
