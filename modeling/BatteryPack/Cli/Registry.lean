import BatteryPack.Cli.Commands
import BatteryPack.Cli.RustString

set_option autoImplicit false

/-! # What the command line reads from crates.io

`lookup_crate` asks crates.io for the versions of a crate and takes the first one that is
not yanked; `cargo bp add`, `new` and `show` all start with it. The request itself, its
status and its JSON are outside the model: a registry is what each request returns, the
versions or the error. `cargo bp add` therefore fails exactly when the request fails or
every version is yanked (`addBatteryPack_lookupCrate`).

`search_battery_packs` keeps the crates of a search whose name ends with `-battery-pack`
and prints a row for each: the short name and the version, each padded to the longest of
its column, then the first line of the description. The widths are taken in bytes
(`str::len`), while the padding of `format!` counts characters. A character is at least one
byte, so every padded field has exactly the width of its column and the columns line up
(`searchRow_aligned`). The text is modelled without the colours `console::style` adds.

`show_battery_pack` looks the crate up, downloads it, reads its manifest and asks for its
owners, and prints nothing until all of these have succeeded (`showBatteryPack_eq_ok`).
Its report has a section for the owners, the crates, the battery packs it extends and the
templates, each left out when it would be empty. The templates it lists are exactly the
ones `cargo bp new --template` accepts (`templatePath_some_iff_showTemplates`).
-/

namespace BatteryPack

/-! ## `lookup_crate` -/

/-- `VersionInfo`. -/
structure VersionInfo where
  num : String
  yanked : Bool
  deriving DecidableEq, Repr

/-- The error of `lookup_crate` when every version is yanked. -/
def noVersionError (crateName : String) : String :=
  "No non-yanked versions found for '" ++ crateName ++ "'"

/-- `lookup_crate`: the first version that is not yanked. `registry` is the outcome of the
request for a crate: its versions, or the error of the query, of the status or of the
JSON. -/
def lookupCrate (registry : String → Except String (List VersionInfo)) (crateName : String) :
    Except String String :=
  match registry crateName with
  | .error e => .error e
  | .ok versions =>
    match versions.find? fun v => !v.yanked with
    | some v => .ok v.num
    | none => .error (noVersionError crateName)

/-- **`cargo bp add` needs a version that is not yanked.** When crates.io answers for the
crate, `cargo bp add` runs cargo if some version is not yanked, and fails with
`No non-yanked versions found` otherwise; a failed request fails with its error. -/
theorem addBatteryPack_lookupCrate (registry : String → Except String (List VersionInfo))
    (name : String) (features : List String) :
    addBatteryPack (lookupCrate registry) name features =
      match registry (resolveCrateName name) with
      | .error e => .error e
      | .ok versions =>
        if versions.any fun v => !v.yanked then
          .ok (["add", resolveCrateName name, "--rename", shortName (resolveCrateName name)] ++
            features.flatMap fun feature => ["--features", feature])
        else .error (noVersionError (resolveCrateName name)) := by
  unfold addBatteryPack lookupCrate
  dsimp only
  cases registry (resolveCrateName name) with
  | error e => rfl
  | ok versions =>
    dsimp only
    cases hv : versions.find? fun v => !v.yanked with
    | none =>
      rw [List.find?_eq_none] at hv
      rw [if_neg (by simpa using hv)]
    | some v =>
      have hany : versions.any (fun v => !v.yanked) = true :=
        List.any_eq_true.mpr ⟨v, List.mem_of_find?_eq_some hv, @List.find?_some _ (fun v : VersionInfo => !v.yanked) _ _ hv⟩
      rw [if_pos hany]

/-- A registry whose newest version, 0.2.0, is yanked, and 0.1.0 is not: `cargo bp add`
still runs. -/
def yankedRegistry : String → Except String (List VersionInfo) :=
  fun _ => .ok [⟨"0.2.0", true⟩, ⟨"0.1.0", false⟩]

example : addBatteryPack (lookupCrate yankedRegistry) "cli" [] =
    .ok ["add", "cli-battery-pack", "--rename", "cli"] := by
  rfl

/-! ## `search_battery_packs` -/

/-- `SearchCrate`. -/
structure SearchCrate where
  name : String
  maxVersion : String
  description : Option String
  deriving DecidableEq, Repr

/-- `format!("{:<width$}", s)`: `s`, then spaces up to `width` characters. -/
def padRight (s : String) (width : Nat) : String :=
  s ++ ⟨List.replicate (width - s.length) ' '⟩

/-- `s.lines().next().unwrap_or("")`: the text before the first line feed, without the
carriage return of a CRLF. -/
def firstLine (s : String) : String :=
  match s.data.span (· ≠ '\n') with
  | (line, []) => ⟨line⟩
  | (line, _) => if line.getLast? = some '\r' then ⟨line.dropLast⟩ else ⟨line⟩

/-- `battery_packs`: the crates of the response whose name ends with `-battery-pack`. -/
def batteryPacks (crates : List SearchCrate) : List SearchCrate :=
  crates.filter fun c => endsWith c.name batteryPackSuffix

/-- `max_name_len`: the longest short name, in bytes. -/
def maxNameLen (crates : List SearchCrate) : Nat :=
  ((batteryPacks crates).map fun c => RustString.len (shortName c.name)).max?.getD 0

/-- `max_version_len`: the longest version, in bytes. -/
def maxVersionLen (crates : List SearchCrate) : Nat :=
  ((batteryPacks crates).map fun c => RustString.len c.maxVersion).max?.getD 0

/-- The row of one battery pack. -/
def searchRow (maxNameLen maxVersionLen : Nat) (krate : SearchCrate) : String :=
  "  " ++ padRight (shortName krate.name) maxNameLen ++ "  " ++
    padRight krate.maxVersion maxVersionLen ++ "  " ++ firstLine (krate.description.getD "")

/-- The lines `search_battery_packs` prints for the crates of a search response. -/
def searchBatteryPacks (query : Option String) (crates : List SearchCrate) : List String :=
  if (batteryPacks crates).isEmpty then
    [match query with
      | some q => "No battery packs found matching '" ++ q ++ "'"
      | none => "No battery packs found"]
  else
    [""] ++ (batteryPacks crates).map (searchRow (maxNameLen crates) (maxVersionLen crates)) ++
      ["", "Found " ++ toString (batteryPacks crates).length ++ " battery pack(s)"]

/-- Padding gives the greater of the length and the width, in characters. -/
theorem length_padRight (s : String) (width : Nat) :
    (padRight s width).length = max s.length width := by
  rw [padRight, String.length_append]
  simp only [String.length_mk, List.length_replicate]
  omega

/-- A field padded to a width in bytes at least its own has exactly that many characters. -/
theorem length_padRight_of_len_le {s : String} {width : Nat} (h : RustString.len s ≤ width) :
    (padRight s width).length = width := by
  have := RustString.length_le_len s
  rw [length_padRight]
  omega

/-- **The columns of the search listing line up.** For every battery pack of the listing,
the padded short name has `max_name_len` characters and the padded version
`max_version_len`, so versions and descriptions start at the same column in every row. -/
theorem searchRow_aligned (crates : List SearchCrate) {c : SearchCrate} (hc : c ∈ batteryPacks crates) :
    (padRight (shortName c.name) (maxNameLen crates)).length = maxNameLen crates ∧
      (padRight c.maxVersion (maxVersionLen crates)).length = maxVersionLen crates :=
  ⟨length_padRight_of_len_le (List.le_max?_getD_of_mem (List.mem_map_of_mem _ hc)),
    length_padRight_of_len_le (List.le_max?_getD_of_mem (List.mem_map_of_mem _ hc))⟩

/-- A search that finds `cli-battery-pack`, `error-battery-pack` and `serde`. -/
def searchResponse : List SearchCrate :=
  [⟨"cli-battery-pack", "0.3.0", some "Build command line tools.\nWith clap."⟩,
    ⟨"serde", "1.0.0", none⟩, ⟨"error-battery-pack", "0.10.1", none⟩]

/-- In the listing of `searchResponse`, `cli` is padded to the width of `error`. -/
theorem searchRow_aligned_cli :
    ⟨"cli-battery-pack", "0.3.0", some "Build command line tools.\nWith clap."⟩ ∈
        batteryPacks searchResponse ∧
      (padRight (shortName "cli-battery-pack") (maxNameLen searchResponse)).length =
        maxNameLen searchResponse ∧
      (padRight "0.3.0" (maxVersionLen searchResponse)).length = maxVersionLen searchResponse :=
  have hc : (⟨"cli-battery-pack", "0.3.0", some "Build command line tools.\nWith clap."⟩ : SearchCrate) ∈
      batteryPacks searchResponse := List.mem_filter.mpr ⟨List.mem_cons_self _ _, by decide⟩
  ⟨hc, searchRow_aligned searchResponse hc⟩

example : searchBatteryPacks none searchResponse =
    ["", "  cli    0.3.0   Build command line tools.", "  error  0.10.1  ", "",
      "Found 2 battery pack(s)"] := by
  decide

/-! ## `show_battery_pack` -/

/-- `Owner`: the fields of a crate owner that `show_battery_pack` prints. -/
structure Owner where
  login : String
  name : Option String
  deriving DecidableEq, Repr

/-- The line of an owner under `Authors:`. -/
def ownerLine (owner : Owner) : String :=
  match owner.name with
  | some name => "  " ++ name ++ " (" ++ owner.login ++ ")"
  | none => "  " ++ owner.login

/-- A section of the report: a blank line, the heading and a line for each item; nothing
when there is no item. -/
def reportSection {α : Type} (heading : String) (items : List α) (line : α → String) :
    List String :=
  if items.isEmpty then [] else "" :: heading :: items.map line

/-- `package.metadata.battery` of the manifest, or the default one, without templates. -/
def showTemplates (manifest : CargoManifest) : StrMap TemplateConfig :=
  (((manifest.package.bind (·.metadata)).bind (·.battery)).map (·.templates)).getD StrMap.empty

/-- `max_name_len` of the templates: the longest name, in bytes. -/
def maxTemplateNameLen (templates : StrMap TemplateConfig) : Nat :=
  (templates.keys.map RustString.len).max?.getD 0

/-- The row of one template: its name padded to `max_name_len`, then its description. -/
def templateRow (maxNameLen : Nat) (name : String) (config : TemplateConfig) : String :=
  match config.description with
  | some desc => "  " ++ padRight name maxNameLen ++ "  " ++ desc
  | none => "  " ++ padRight name maxNameLen

/-- What `show_battery_pack` prints for the crate `crateName` at `version`, once its manifest
is read and its owners fetched. -/
def showReport (crateName version : String) (manifest : CargoManifest) (owners : List Owner) :
    List String :=
  let short := shortName crateName
  let description := (manifest.package.bind (·.description)).getD ""
  let templates := showTemplates manifest
  let (extended, crates) := splitDependencies manifest.dependencies.keys
  ["", crateName ++ " " ++ version] ++ (if description.isEmpty then [] else [description]) ++
    reportSection "Authors:" owners ownerLine ++
    reportSection "Crates:" crates (fun dep => "  " ++ dep) ++
    reportSection "Extends:" extended (fun dep => "  " ++ shortName dep) ++
    reportSection "Templates:" templates.entries
      (fun e => templateRow (maxTemplateNameLen templates) e.1 e.2) ++
    ["", "Install:", "  cargo bp add " ++ short, "  cargo bp new " ++ short, ""]

/-- `show_battery_pack`: the report, printed only once every request has succeeded.
`fetchManifest` downloads the crate at a version and reads its `Cargo.toml` (the error is
theirs), `toml` parses it, and `fetchOwners` asks crates.io for the owners. -/
def showBatteryPack (registry : String → Except String (List VersionInfo))
    (fetchManifest : String → String → Except String String) (toml : String → Option Value)
    (fetchOwners : String → Except String (List Owner)) (name : String) :
    Except String (List String) := do
  let crateName := resolveCrateName name
  let version ← lookupCrate registry crateName
  let manifestContent ← fetchManifest crateName version
  let some manifest := (toml manifestContent).bind CargoManifest.deserialize | throw parseError
  let owners ← fetchOwners crateName
  pure (showReport crateName version manifest owners)

/-- `show_battery_pack` prints exactly when every step succeeds, and then the report of the
resolved crate, at the version `lookup_crate` found, with the manifest and owners fetched. -/
theorem showBatteryPack_eq_ok {registry : String → Except String (List VersionInfo)}
    {fetchManifest : String → String → Except String String} {toml : String → Option Value}
    {fetchOwners : String → Except String (List Owner)} {name : String} {lines : List String} :
    showBatteryPack registry fetchManifest toml fetchOwners name = .ok lines ↔
      ∃ version content manifest m owners,
        lookupCrate registry (resolveCrateName name) = .ok version ∧
        fetchManifest (resolveCrateName name) version = .ok content ∧
        toml content = some manifest ∧ CargoManifest.deserialize manifest = some m ∧
        fetchOwners (resolveCrateName name) = .ok owners ∧
        lines = showReport (resolveCrateName name) version m owners := by
  simp only [showBatteryPack, bind_eq_ok]
  constructor
  · rintro ⟨version, hv, content, hc, h⟩
    split at h
    · rename_i m hm
      obtain ⟨manifest, ht, hd⟩ := Option.bind_eq_some.mp hm
      obtain ⟨owners, ho, ⟨⟩⟩ := bind_eq_ok.mp h
      exact ⟨version, content, manifest, m, owners, hv, hc, ht, hd, ho, rfl⟩
    · cases h
  · rintro ⟨version, content, manifest, m, owners, hv, hc, ht, hd, ho, rfl⟩
    refine ⟨version, hv, content, hc, ?_⟩
    rw [ht, Option.some_bind, hd]
    exact bind_eq_ok.mpr ⟨owners, ho, rfl⟩

/-- The templates `parse_template_metadata` returns are those `show` lists, when it lists
any. -/
theorem parseTemplateMetadata_of_deserialize {manifest : Value} {m : CargoManifest}
    (hm : CargoManifest.deserialize manifest = some m) (crateName : String) :
    parseTemplateMetadata manifest crateName =
      if (showTemplates m).entries.isEmpty then .error (noTemplatesError crateName)
      else .ok (showTemplates m) := by
  simp only [parseTemplateMetadata, hm, showTemplates]

/-- **`cargo bp new --template` accepts exactly the templates `cargo bp show` lists.** For
every manifest serde reads, `new` with `--template name` finds a template path exactly when
`show` prints a row for a template `name` under `Templates:`, and the path is that
template's. -/
theorem templatePath_some_iff_showTemplates {manifest : Value} {m : CargoManifest}
    (hm : CargoManifest.deserialize manifest = some m) (crateName name path : String) :
    (templatePath manifest crateName (some name)).2 = .ok path ↔
      ∃ c, (name, c) ∈ (showTemplates m).entries ∧ c.path = path := by
  unfold templatePath
  rw [parseTemplateMetadata_of_deserialize hm]
  split_ifs with he
  · simp [List.isEmpty_iff.mp he]
  · simp only [resolveTemplate, ← StrMap.get_eq_some_iff]
    cases (showTemplates m).get name <;> simp

/-- `new --template simple` on the manifest with the templates `simple` and `default`. -/
theorem templatePath_some_iff_showTemplates_simple :
    ∃ m, CargoManifest.deserialize twoTemplatesManifest = some m ∧
      ((templatePath twoTemplatesManifest "cli-battery-pack" (some "simple")).2 =
          .ok "templates/simple" ↔
        ∃ c, ("simple", c) ∈ (showTemplates m).entries ∧ c.path = "templates/simple") :=
  ⟨_, rfl, templatePath_some_iff_showTemplates (by rfl) "cli-battery-pack" "simple" "templates/simple"⟩

/-- `cargo bp show cli` on a manifest with dependencies and no templates, and on the
manifest with the templates `simple` and `default`, whose names are padded to seven
characters. -/
example : showBatteryPack (fun _ => .ok [⟨"0.3.0", false⟩]) (fun _ _ => .ok "")
      (fun _ => some showManifest) (fun _ => .ok [⟨"bp-owner", none⟩]) "cli" =
    .ok ["", "cli-battery-pack 0.3.0", "", "Authors:", "  bp-owner", "", "Crates:", "  anyhow",
      "  clap", "", "Extends:", "  error", "", "Install:", "  cargo bp add cli",
      "  cargo bp new cli", ""] ∧
    showBatteryPack (fun _ => .ok [⟨"0.3.0", false⟩]) (fun _ _ => .ok "")
      (fun _ => some twoTemplatesManifest) (fun _ => .ok []) "cli" =
    .ok ["", "cli-battery-pack 0.3.0", "", "Templates:", "  default", "  simple ", "",
      "Install:", "  cargo bp add cli", "  cargo bp new cli", ""] :=
  ⟨rfl, rfl⟩

end BatteryPack
