import PlatformManifests.Proofs.Outline
import PlatformManifests.Proofs.YamlSources
import PlatformManifests.Yaml.Printer

/-!
Models and configurations are read without loss. A tree that is read as a model is the tree of that
model, one that is read as a configuration lacks nothing but defaults, and what was written as YAML
is read back, provided that the text shows the tree that was printed.
-/
namespace PlatformManifests

open Reading Yaml

namespace Model

variable {json : Json} {model : Model}

theorem canonical_eq_of_read (fits : outline.Fits json) (given : Model.read json = .ok model) :
    model.toJson.canonical = json.canonical :=
  (keeps.keep fits.keyed fits.solid fits.mapped given).canonical_eq fits.keyed model.keyed

theorem read_eq_error_of_flawed (fits : outline.Fits json) (flawed : outline.Flawed json) :
    ∃ fault, Model.read json = .error fault := by
  cases given : Model.read json with
  | error fault => exact ⟨fault, rfl⟩
  | ok model =>
    exact absurd flawed
      (model.describes.not_flawed (keeps.keep fits.keyed fits.solid fits.mapped given))

theorem ofYaml_eq_ok {document : Document} (valid : model.validate = .ok ())
    (shown : document.Shows model.toJson) : Model.ofYaml document = .ok model := by
  rw [ofYaml, shown.readDocument_eq_ok readsBack]
  exact Outcome.bind_eq_ok.mpr ⟨_, rfl, Outcome.bind_eq_ok.mpr ⟨_, valid, rfl⟩⟩

end Model

namespace Configuration

variable {json : Json} {config : Configuration}

theorem kept_of_read (fits : outline.Fits json) (given : Configuration.read json = .ok config) :
    json.Kept HasDefault config.toJson :=
  keeps.keep fits.keyed fits.solid fits.mapped given

theorem read_eq_error_of_flawed (fits : outline.Fits json) (flawed : outline.Flawed json) :
    ∃ fault, Configuration.read json = .error fault := by
  cases given : Configuration.read json with
  | error fault => exact ⟨fault, rfl⟩
  | ok config => exact absurd flawed (config.describes.not_flawed (kept_of_read fits given))

theorem checkScheme_ofJson (config : Configuration) :
    checkScheme (Value.ofJson config.toJson) = .ok () := by
  have named : ((Value.ofJson config.toJson).member? "scheme").bind Value.text? =
      some config.scheme.name := by
    rfl
  rw [checkScheme, named]
  change (Scheme.ofName config.scheme.name).map _ = _
  rw [Scheme.ofName_name]
  rfl

theorem ofYaml_eq_ok {document : Document} (valid : config.validate = .ok ())
    (shown : document.Shows config.toJson) : Configuration.ofYaml document = .ok config := by
  have back : Configuration.read (Value.ofJson config.toJson) = .ok config := readsBack.back rfl
  rw [ofYaml, shown.ofDocument_eq_ok config.keyed]
  refine Outcome.bind_eq_ok.mpr ⟨_, rfl, Outcome.bind_eq_ok.mpr ⟨_, config.checkScheme_ofJson, ?_⟩⟩
  rw [back]
  exact Outcome.bind_eq_ok.mpr ⟨_, rfl, Outcome.bind_eq_ok.mpr ⟨_, valid, rfl⟩⟩

end Configuration

/-! ### Small inputs -/

/-- A model with one port and one bucket. -/
def Model.smallest : Model where
  images := ∅
  ports := .ofList [("web", 80)]
  volumes := ∅
  replicas := ∅
  identity := ⟨"r", ∅⟩
  database := ⟨⟨"a", "a"⟩, ⟨"b", "b"⟩, ⟨"c", "c"⟩⟩
  storage := ⟨["p"], "p"⟩
  brokers := ∅
  ingressClass := "n"

/-- The smallest model with its members in the opposite order. -/
def Model.reversed : Json :=
  match smallest.toJson with
  | .object members => .object members.reverse
  | other => other

def Configuration.smallest : Configuration where
  space := "demo"
  scheme := .http
  domain := "a.org"
  subdomains := .standard
  secrets := ∅
  admin := ⟨"a@a.org", none⟩
  mail := none
  storageClass := none
  clusterIssuer := standardIssuer

/-- The smallest configuration without its defaults, in another order. -/
def Configuration.shortest : Json :=
  .object [("scheme", .str "http"), ("namespace", .str "demo"), ("domain", .str "a.org"),
    ("admin", .object [("email", .str "a@a.org")]), ("secrets", .object [])]

theorem Model.smallest_shown :
    (Document.read (print smallest.toJson)).Shows smallest.toJson :=
  Document.shows_ofList (by decide +kernel) (by decide +kernel)

theorem Configuration.smallest_shown :
    (Document.read (print smallest.toJson)).Shows smallest.toJson :=
  Document.shows_ofList (by decide +kernel) (by decide +kernel)

/-! ### All inputs -/

/-- A model is read from nothing but its own tree, and a configuration from its own tree up to
defaults. Unknown members, missing fields and numbers that are no ports are never passed over. What
is valid comes back from its own YAML. -/
theorem inputs_read_without_loss :
    (∀ json model, Model.outline.Fits json → Model.read json = .ok model →
      model.toJson.canonical = json.canonical) ∧
    (∀ json config, Configuration.outline.Fits json → Configuration.read json = .ok config →
      json.Kept Configuration.HasDefault config.toJson) ∧
    (∀ json, Model.outline.Fits json → Model.outline.Flawed json →
      ∃ fault, Model.read json = .error fault) ∧
    (∀ json, Configuration.outline.Fits json → Configuration.outline.Flawed json →
      ∃ fault, Configuration.read json = .error fault) ∧
    (∀ model : Model, model.validate = .ok () →
      (Document.read (print model.toJson)).Shows model.toJson →
      Model.ofYaml (Document.read (print model.toJson)) = .ok model) ∧
    (∀ config : Configuration, config.validate = .ok () →
      (Document.read (print config.toJson)).Shows config.toJson →
      Configuration.ofYaml (Document.read (print config.toJson)) = .ok config) :=
  ⟨fun _ _ => Model.canonical_eq_of_read, fun _ _ => Configuration.kept_of_read,
    fun _ => Model.read_eq_error_of_flawed, fun _ => Configuration.read_eq_error_of_flawed,
    fun _ => Model.ofYaml_eq_ok, fun _ => Configuration.ofYaml_eq_ok⟩

theorem smallest_inputs_read_without_loss :
    Model.smallest.toJson.canonical = Model.reversed.canonical ∧
    Configuration.shortest.Kept Configuration.HasDefault Configuration.smallest.toJson ∧
    (∃ fault, Model.read (.object [] : Json) = .error fault) ∧
    (∃ fault, Configuration.read (.object [("smtp", .object [("port", .int 70000)])] : Json) =
      .error fault) ∧
    Model.ofYaml (Document.read (print Model.smallest.toJson)) = .ok Model.smallest ∧
    Configuration.ofYaml (Document.read (print Configuration.smallest.toJson)) =
      .ok Configuration.smallest := by
  obtain ⟨model, config, flawedModel, flawedConfig, modelBack, configBack⟩ :=
    inputs_read_without_loss
  exact ⟨model _ _ (Outline.fits_of_isClean (by decide) (by decide)) (by decide +kernel),
    config _ _ (Outline.fits_of_isClean (by decide) (by decide)) (by decide +kernel),
    flawedModel _ (Outline.fits_of_isClean (by decide) (by decide))
      (.missing [] [] "images" (by decide) rfl (by decide)),
    flawedConfig _ (Outline.fits_of_isClean (by decide) (by decide))
      (.port ["smtp", "port"] 70000 rfl rfl (by decide)),
    modelBack _ (by decide +kernel) Model.smallest_shown,
    configBack _ (by decide +kernel) Configuration.smallest_shown⟩

end PlatformManifests
