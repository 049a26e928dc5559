import BatteryPack.Toml.Serde

set_option autoImplicit false

/-! # Choosing the template of a new project

`cargo bp new` reads the battery pack's manifest into `CargoManifest` with serde
(`parse_template_metadata`), takes the templates of
`[package.metadata.battery.templates]`, and picks one (`resolve_template`): the one named
by `--template`, or without it the only template, or else the one named `default`.
Otherwise it prints the templates and fails. Both steps are shared by the download path,
`new_from_battery_pack`, and the local one, `generate_from_local`; `templatePath` is the
two in sequence.

serde's derived code reads a struct from a table, field by field by name, or from an
array, field by field by position; the model reads both (`Value.field`). The deserializers
keep track of where each value came from (`*_deserialize_*` lemmas), so the path
`cargo bp new` generates from is the `path` field, by name or by position, of a template
entry of the manifest's own templates table (`templatePath_ok`). Without `--template` it fails exactly when there
are several templates and none is named `default` (`templatePath_none_error_iff`).
-/

namespace BatteryPack

/-! ## The manifest, as `parse_template_metadata` reads it -/

/-- `TemplateConfig`. -/
structure TemplateConfig where
  path : String
  description : Option String

/-- `BatteryMetadata`. -/
structure BatteryMetadata where
  templates : StrMap TemplateConfig

/-- `PackageMetadata`. -/
structure PackageMetadata where
  battery : Option BatteryMetadata

/-- `PackageSection`. -/
structure PackageSection where
  description : Option String
  metadata : Option PackageMetadata

/-- `CargoManifest`. -/
structure CargoManifest where
  package : Option PackageSection
  dependencies : StrMap Value

/-- The derived `Deserialize for TemplateConfig`: `path` is required, `description` has
`#[serde(default)]`. -/
def TemplateConfig.deserialize (v : Value) : Option TemplateConfig :=
  if v.isStruct then do
    let path ← (v.field "path" 0).bind deString
    let description ← deOption deString (v.field "description" 1)
    pure ⟨path, description⟩
  else none

/-- The derived `Deserialize for BatteryMetadata`: `templates` defaults to the empty map. -/
def BatteryMetadata.deserialize (v : Value) : Option BatteryMetadata :=
  if v.isStruct then do
    let templates ← deDefault StrMap.empty (deMap TemplateConfig.deserialize) (v.field "templates" 0)
    pure ⟨templates⟩
  else none

/-- The derived `Deserialize for PackageMetadata`. -/
def PackageMetadata.deserialize (v : Value) : Option PackageMetadata :=
  if v.isStruct then do
    let battery ← deOptionField BatteryMetadata.deserialize v "battery" 0
    pure ⟨battery⟩
  else none

/-- The derived `Deserialize for PackageSection`. -/
def PackageSection.deserialize (v : Value) : Option PackageSection :=
  if v.isStruct then do
    let description ← deOptionField deString v "description" 0
    let metadata ← deOptionField PackageMetadata.deserialize v "metadata" 1
    pure ⟨description, metadata⟩
  else none

/-- The derived `Deserialize for CargoManifest`: `dependencies` defaults to the empty map
and holds any values. `toml::from_str` reads it from the document, which is a table. -/
def CargoManifest.deserialize : Value → Option CargoManifest
  | v@(.table _) => do
    let package ← deOption PackageSection.deserialize (v.get "package")
    let dependencies ← deDefault StrMap.empty (deMap some) (v.get "dependencies")
    pure ⟨package, dependencies⟩
  | _ => none

/-! ## Where a deserialized value came from -/

theorem TemplateConfig.deserialize_path {v : Value} {c : TemplateConfig}
    (h : TemplateConfig.deserialize v = some c) : v.field "path" 0 = some (.string c.path) := by
  unfold TemplateConfig.deserialize at h
  split_ifs at h
  simp only [bind, Option.bind_eq_some, pure, Option.some.injEq] at h
  obtain ⟨path, ⟨w, hw, hdw⟩, description, -, rfl⟩ := h
  rw [hw, deString_eq_some hdw]

theorem BatteryMetadata.deserialize_templates {v : Value} {b : BatteryMetadata}
    (h : BatteryMetadata.deserialize v = some b) (hne : b.templates.entries ≠ []) :
    ∃ w, v.field "templates" 0 = some w ∧ deMap TemplateConfig.deserialize w = some b.templates := by
  unfold BatteryMetadata.deserialize at h
  split_ifs at h
  simp only [bind, Option.bind_eq_some, pure, Option.some.injEq] at h
  obtain ⟨templates, ht, rfl⟩ := h
  cases hv : v.field "templates" 0 with
  | none =>
    rw [hv] at ht
    cases ht
    exact absurd rfl hne
  | some w =>
    rw [hv] at ht
    exact ⟨w, rfl, ht⟩

theorem PackageMetadata.deserialize_battery {v : Value} {p : PackageMetadata}
    {b : BatteryMetadata} (h : PackageMetadata.deserialize v = some p) (hb : p.battery = some b) :
    ∃ w, v.field "battery" 0 = some w ∧ BatteryMetadata.deserialize w = some b := by
  unfold PackageMetadata.deserialize at h
  split_ifs at h
  simp only [bind, Option.bind_eq_some, pure, Option.some.injEq] at h
  obtain ⟨battery, hbat, rfl⟩ := h
  exact deOptionField_eq_some (hb ▸ hbat)

theorem PackageSection.deserialize_metadata {v : Value} {s : PackageSection}
    {p : PackageMetadata} (h : PackageSection.deserialize v = some s) (hp : s.metadata = some p) :
    ∃ w, v.field "metadata" 1 = some w ∧ PackageMetadata.deserialize w = some p := by
  unfold PackageSection.deserialize at h
  split_ifs at h
  simp only [bind, Option.bind_eq_some, pure, Option.some.injEq] at h
  obtain ⟨description, -, metadata, hmeta, rfl⟩ := h
  exact deOptionField_eq_some (hp ▸ hmeta)

theorem CargoManifest.deserialize_package {v : Value} {m : CargoManifest} {s : PackageSection}
    (h : CargoManifest.deserialize v = some m) (hs : m.package = some s) :
    ∃ w, v.get "package" = some w ∧ PackageSection.deserialize w = some s := by
  cases v with
  | table kvs =>
    simp only [CargoManifest.deserialize, bind, Option.bind_eq_some, pure,
      Option.some.injEq] at h
    obtain ⟨package, hpkg, dependencies, -, rfl⟩ := h
    exact deOption_eq_some (hs ▸ hpkg)
  | _ => cases h

/-! ## `parse_template_metadata` -/

/-- The error of `parse_template_metadata` for a manifest serde cannot read. -/
def parseError : String := "Failed to parse Cargo.toml"

/-- The error of `parse_template_metadata` for a battery pack without templates. -/
def noTemplatesError (crateName : String) : String :=
  "Battery pack '" ++ crateName ++ "' has no templates defined in [package.metadata.battery.templates]"

/-- `parse_template_metadata`: the templates of the manifest, of which there is one at
least. -/
def parseTemplateMetadata (manifestContent : Value) (crateName : String) :
    Except String (StrMap TemplateConfig) :=
  match CargoManifest.deserialize manifestContent with
  | none => .error parseError
  | some manifest =>
    let templates :=
      (((manifest.package.bind (·.metadata)).bind (·.battery)).map (·.templates)).getD
        StrMap.empty
    if templates.entries.isEmpty then .error (noTemplatesError crateName) else .ok templates

/-- `package.metadata.battery.templates` of a manifest, read as a plain value: each struct
level by its field's name from a table or its position from an array. -/
def templatesValue (manifest : Value) : Option Value :=
  (((manifest.get "package").bind (·.field "metadata" 1)).bind (·.field "battery" 0)).bind
    (·.field "templates" 0)

theorem parseTemplateMetadata_ok {manifest : Value} {crateName : String}
    {templates : StrMap TemplateConfig} (h : parseTemplateMetadata manifest crateName = .ok templates) :
    ∃ m b, CargoManifest.deserialize manifest = some m ∧
      (m.package.bind (·.metadata)).bind (·.battery) = some b ∧ b.templates = templates ∧
      templates.entries ≠ [] := by
  unfold parseTemplateMetadata at h
  split at h
  · cases h
  · rename_i m hm
    dsimp only at h
    split at h
    · cases h
    · rename_i hne
      cases h
      cases hb : (m.package.bind (·.metadata)).bind (·.battery) with
      | none => simp [hb, StrMap.empty] at hne
      | some b =>
        simp only [hb, Option.map_some', Option.getD_some, List.isEmpty_iff] at hne ⊢
        exact ⟨m, b, hm, hb, rfl, hne⟩

/-- The templates `parse_template_metadata` returns are the manifest's
`package.metadata.battery.templates` table, deserialized. -/
theorem parseTemplateMetadata_source {manifest : Value} {crateName : String}
    {templates : StrMap TemplateConfig} (h : parseTemplateMetadata manifest crateName = .ok templates) :
    ∃ w, templatesValue manifest = some w ∧ deMap TemplateConfig.deserialize w = some templates := by
  obtain ⟨m, b, hm, hb, rfl, hne⟩ := parseTemplateMetadata_ok h
  simp only [Option.bind_eq_some] at hb
  obtain ⟨p, ⟨s, hs, hp⟩, hbp⟩ := hb
  obtain ⟨w₁, h₁, hs₁⟩ := CargoManifest.deserialize_package hm hs
  obtain ⟨w₂, h₂, hp₂⟩ := PackageSection.deserialize_metadata hs₁ hp
  obtain ⟨w₃, h₃, hb₃⟩ := PackageMetadata.deserialize_battery hp₂ hbp
  obtain ⟨w, h₄, hde⟩ := BatteryMetadata.deserialize_templates hb₃ hne
  exact ⟨w, by simp [templatesValue, h₁, h₂, h₃, h₄], hde⟩

/-! ## `resolve_template` -/

/-- The error of `resolve_template` for a template that is not there. -/
def templateNotFoundError (name : String) (available : List String) : String :=
  "Template '" ++ name ++ "' not found. Available templates: " ++ ", ".intercalate available

/-- The error of `resolve_template` when it cannot choose. -/
def multipleTemplatesError : String :=
  "Multiple templates available. Please specify one with --template <name>"

/-- A line of the listing `resolve_template` prints when it cannot choose. -/
def templateLine (name : String) (config : TemplateConfig) : String :=
  match config.description with
  | some desc => "  " ++ name ++ " - " ++ desc
  | none => "  " ++ name

/-- What `resolve_template` prints when it cannot choose. -/
def templateListing (templates : StrMap TemplateConfig) : List String :=
  "Available templates:" :: templates.entries.map fun e => templateLine e.1 e.2

/-- `resolve_template`: the lines it prints, and the path of the template or the error.
The branch `len() == 1` takes the first entry of the map, its only one. -/
def resolveTemplate (templates : StrMap TemplateConfig) (requested : Option String) :
    List String × Except String String :=
  match requested with
  | some name =>
    match templates.get name with
    | some config => ([], .ok config.path)
    | none => ([], .error (templateNotFoundError name templates.keys))
  | none =>
    match templates.entries with
    | [(_, config)] => ([], .ok config.path)
    | _ =>
      match templates.get "default" with
      | some config => ([], .ok config.path)
      | none => (templateListing templates, .error multipleTemplatesError)

theorem resolveTemplate_none_of_len {templates : StrMap TemplateConfig} (hlen : templates.len ≠ 1) :
    resolveTemplate templates none = match templates.get "default" with
      | some config => ([], .ok config.path)
      | none => (templateListing templates, .error multipleTemplatesError) := by
  rcases he : templates.entries with _ | ⟨e, _ | ⟨e', es⟩⟩
  · simp [resolveTemplate, he]
  · simp [StrMap.len, he] at hlen
  · simp [resolveTemplate, he]

/-- Everything `resolve_template` can do: the requested template or the error naming it and
the available ones; without a request the only template, or `default`, or the listing and
the error. -/
theorem resolveTemplate_cases (templates : StrMap TemplateConfig) (requested : Option String) :
    (∃ name c, requested = some name ∧ templates.get name = some c ∧
        resolveTemplate templates requested = ([], .ok c.path)) ∨
      (∃ name, requested = some name ∧ templates.get name = none ∧
        resolveTemplate templates requested =
          ([], .error (templateNotFoundError name templates.keys))) ∨
      (∃ name c, requested = none ∧ templates.entries = [(name, c)] ∧
        resolveTemplate templates requested = ([], .ok c.path)) ∨
      (∃ c, requested = none ∧ templates.len ≠ 1 ∧ templates.get "default" = some c ∧
        resolveTemplate templates requested = ([], .ok c.path)) ∨
      (requested = none ∧ templates.len ≠ 1 ∧ templates.get "default" = none ∧
        resolveTemplate templates requested = (templateListing templates, .error multipleTemplatesError)) := by
  cases requested with
  | some name =>
    cases hg : templates.get name with
    | some c => exact .inl ⟨name, c, rfl, hg, by simp [resolveTemplate, hg]⟩
    | none => exact .inr (.inl ⟨name, rfl, hg, by simp [resolveTemplate, hg]⟩)
  | none =>
    refine .inr (.inr ?_)
    by_cases hlen : templates.len = 1
    · obtain ⟨⟨name, c⟩, he⟩ := List.length_eq_one.mp hlen
      exact .inl ⟨name, c, rfl, he, by simp [resolveTemplate, he]⟩
    · have hres := resolveTemplate_none_of_len hlen
      cases hg : templates.get "default" with
      | some c => exact .inr (.inl ⟨c, rfl, hlen, rfl, by rw [hres, hg]⟩)
      | none => exact .inr (.inr ⟨rfl, hlen, rfl, by rw [hres, hg]⟩)

/-! ## The template of a new project -/

/-- `template_path` of `new_from_battery_pack` and `generate_from_local`: the battery
pack's templates, then the one chosen; with what was printed on the way. -/
def templatePath (manifestContent : Value) (crateName : String) (template : Option String) :
    List String × Except String String :=
  match parseTemplateMetadata manifestContent crateName with
  | .error e => ([], .error e)
  | .ok templates => resolveTemplate templates template

theorem templatePath_of_ok {manifest : Value} {crateName : String} {template : Option String}
    {templates : StrMap TemplateConfig} (h : parseTemplateMetadata manifest crateName = .ok templates) :
    templatePath manifest crateName template = resolveTemplate templates template := by
  simp [templatePath, h]

/-- **The template comes from the manifest.** When `cargo bp new` finds a template, its
path is the `path` string of an entry of the manifest's
`package.metadata.battery.templates` table, each struct on the way written as a table or
as an array: the entry `--template` names, or without it the one named `default` or the
table's only key. -/
theorem templatePath_ok {manifest : Value} {crateName : String} {template : Option String}
    {path : String} (h : (templatePath manifest crateName template).2 = .ok path) :
    ∃ name kvs tv, templatesValue manifest = some (.table kvs) ∧ (name, tv) ∈ kvs ∧
      tv.field "path" 0 = some (.string path) ∧
      (template = some name ∨ template = none ∧ (name = "default" ∨ ∀ e ∈ kvs, e.1 = name)) := by
  unfold templatePath at h
  split at h
  · cases h
  · rename_i templates ht
    obtain ⟨w, hw, hde⟩ := parseTemplateMetadata_source ht
    obtain ⟨name, c, hc, rfl, hchoice⟩ : ∃ name c, templates.get name = some c ∧ c.path = path ∧
        (template = some name ∨ template = none ∧ (name = "default" ∨ templates.keys = [name])) := by
      rcases resolveTemplate_cases templates template with
        ⟨name, c, rfl, hc, hr⟩ | ⟨name, rfl, -, hr⟩ | ⟨name, c, rfl, he, hr⟩ | ⟨c, rfl, -, hc, hr⟩ |
          ⟨rfl, -, -, hr⟩ <;> rw [hr] at h <;> cases h
      · exact ⟨name, c, hc, rfl, .inl rfl⟩
      · exact ⟨name, c, by simp [StrMap.get, he], rfl, .inr ⟨rfl, .inr (by simp [StrMap.keys, he])⟩⟩
      · exact ⟨"default", c, hc, rfl, .inr ⟨rfl, .inl rfl⟩⟩
    obtain ⟨kvs, tv, rfl, hmem, htv⟩ := deMap_get hde hc
    refine ⟨name, kvs, tv, hw, hmem, TemplateConfig.deserialize_path htv, ?_⟩
    refine hchoice.imp_right (And.imp_right (Or.imp_right fun hkeys e he => ?_))
    simpa [hkeys] using StrMap.mem_keys_of_isSome (deMap_isSome hde he)

/-- A manifest with the templates `simple` and `default`. -/
def twoTemplatesManifest : Value :=
  .table [("package", .table [("name", .string "cli-battery-pack"), ("metadata", .table
    [("battery", .table [("templates", .table
      [("simple", .table [("path", .string "templates/simple")]),
       ("default", .table [("path", .string "templates/subcmds")])])])])])]

/-- The same two templates with the structs written as arrays, which serde reads field by
field in order: `package = ["CLI tools", { battery = [{ simple = ["templates/simple"],
default = ["templates/subcmds", "Subcommands"] }] }]`. -/
def seqTemplatesManifest : Value :=
  .table [("package", .array [.string "CLI tools", .table [("battery", .array [.table
    [("simple", .array [.string "templates/simple"]),
     ("default", .array [.string "templates/subcmds", .string "Subcommands"])]])]])]

/-- Without `--template`, the template `default` of two is taken, from the array form. -/
theorem templatePath_ok_default :
    (templatePath seqTemplatesManifest "cli-battery-pack" none).2 = .ok "templates/subcmds" ∧
      ∃ name kvs tv, templatesValue seqTemplatesManifest = some (.table kvs) ∧ (name, tv) ∈ kvs ∧
        tv.field "path" 0 = some (.string "templates/subcmds") ∧
        ((none : Option String) = some name ∨
          (none : Option String) = none ∧ (name = "default" ∨ ∀ e ∈ kvs, e.1 = name)) :=
  ⟨by rfl, @templatePath_ok _ "cli-battery-pack" _ _ (by rfl)⟩

example : (templatePath twoTemplatesManifest "cli-battery-pack" (some "simple")).2 =
    .ok "templates/simple" := by
  rfl

/-- `parse_template_metadata` fails only because serde cannot read the manifest or because
it has no templates; its second error names the battery pack. -/
theorem parseTemplateMetadata_error {manifest : Value} {crateName e : String}
    (h : parseTemplateMetadata manifest crateName = .error e) :
    e = parseError ∨ e = noTemplatesError crateName := by
  unfold parseTemplateMetadata at h
  split at h
  · cases h
    exact .inl rfl
  · dsimp only at h
    split at h
    · cases h
      exact .inr rfl
    · cases h

theorem noTemplatesError_ne (crateName : String) : noTemplatesError crateName ≠ multipleTemplatesError := by
  intro h
  have := congrArg (fun s : String => s.data.head?) h
  simp [noTemplatesError, multipleTemplatesError, String.data_append] at this

/-- **Without `--template`, several templates need a `default`.** `cargo bp new` without
`--template` fails with the error asking for one exactly when the battery pack's manifest
has two templates or more and none is named `default`. -/
theorem templatePath_none_error_iff (manifest : Value) (crateName : String) :
    (templatePath manifest crateName none).2 = .error multipleTemplatesError ↔
      ∃ templates, parseTemplateMetadata manifest crateName = .ok templates ∧
        2 ≤ templates.len ∧ templates.get "default" = none := by
  constructor
  · intro h
    unfold templatePath at h
    split at h
    · rename_i e he
      cases h
      rcases parseTemplateMetadata_error he with h | h
      · exact absurd h (by decide)
      · exact absurd h.symm (noTemplatesError_ne crateName)
    · rename_i templates ht
      obtain ⟨-, -, -, -, -, hne⟩ := parseTemplateMetadata_ok ht
      have hpos : 0 < templates.len := List.length_pos.mpr hne
      rcases resolveTemplate_cases templates none with
        ⟨_, _, h', -⟩ | ⟨_, h', -⟩ | ⟨_, _, -, -, hr⟩ | ⟨_, -, -, -, hr⟩ | ⟨-, hlen, hg, -⟩
      · cases h'
      · cases h'
      · rw [hr] at h; cases h
      · rw [hr] at h; cases h
      · exact ⟨templates, ht, by omega, hg⟩
  · rintro ⟨templates, ht, hlen, hg⟩
    rw [templatePath_of_ok ht, resolveTemplate_none_of_len (by omega), hg]

-- Two templates and no `default`: the listing is printed, then the error.
example : templatePath (.table [("package", .table [("metadata", .table [("battery", .table
    [("templates", .table
      [("simple", .table [("path", .string "templates/simple"), ("description", .string "CLI")]),
       ("subcmds", .table [("path", .string "templates/subcmds")])])])])])]) "cli-battery-pack" none
    = (["Available templates:", "  simple - CLI", "  subcmds"], .error multipleTemplatesError) := by
  rfl

end BatteryPack
