import BatteryPack.Build.Facade

set_option autoImplicit false

/-! # Finding the battery packs among the dependencies

`generate_facade` asks `cargo metadata` for the packages of the workspace and keeps, in
`find_battery_pack_manifests`, the path of the manifest of each package that is a direct
dependency and has a `battery` key in its metadata. `FileSystemResolver` answers
`generate_dep_export`'s question about a crate by looking its name up in that map and
reading the manifest at the path; reading and parsing a file is a parameter of the model.

The map is keyed by package name, and a package is taken to be a dependency when its
name is a key of the dependency table (`mapGet_findBatteryPackManifests`). The generator
asks by dependency key. The two differ for a renamed dependency, `cli = { package =
"cli-battery-pack" }`, which is how `cargo bp add` adds a battery pack.
-/

namespace BatteryPack

/-! ## Maps -/

/-- `BTreeMap::insert` on an association list: the new entry replaces an old one. -/
def mapInsert {α : Type} (m : List (String × α)) (key : String) (value : α) : List (String × α) :=
  (key, value) :: m.filter (·.1 ≠ key)

/-- `BTreeMap::get`. -/
def mapGet {α : Type} (m : List (String × α)) (key : String) : Option α :=
  (m.find? (·.1 = key)).map (·.2)

theorem mapGet_mapInsert {α : Type} (m : List (String × α)) (key k : String) (value : α) :
    mapGet (mapInsert m key value) k = if key = k then some value else mapGet m k := by
  by_cases h : key = k
  · simp [mapGet, mapInsert, h]
  · simp only [mapGet, mapInsert, List.find?_cons, h, decide_False, if_false, List.find?_filter]
    congr 2
    funext e
    by_cases he : e.1 = k
    · simp [he, Ne.symm h]
    · simp [he]

/-! ## `cargo metadata` -/

/-- A package of `cargo metadata`, with the fields the build script reads. -/
structure Package where
  name : String
  manifestPath : String
  metadata : Option Value

/-- The output of `cargo metadata --no-deps`, as far as it is read. -/
structure CargoMetadata where
  packages : List Package

/-- The body of the loop of `find_battery_pack_manifests`, for one package. -/
def recordBatteryPack (deps : List String) (batteryPacks : List (String × String))
    (package : Package) : List (String × String) :=
  if package.name ∈ deps then
    match package.metadata with
    | some pkgMetadata =>
      if (pkgMetadata.get "battery").isSome then
        mapInsert batteryPacks package.name package.manifestPath
      else batteryPacks
    | none => batteryPacks
  else batteryPacks

/-- `find_battery_pack_manifests`: package name to manifest path, for every package
whose name is a dependency key and whose metadata has a `battery` key. -/
def findBatteryPackManifests (manifest : Value) (metadata : CargoMetadata) :
    List (String × String) :=
  metadata.packages.foldl (recordBatteryPack (dependencyKeys manifest)) []

/-- `FileSystemResolver`: the manifest at the path the map gives, if it can be read and
parsed (`readManifest`). -/
def fileSystemResolver (batteryPackPaths : List (String × String))
    (readManifest : String → Option Value) : BatteryPackResolver :=
  ⟨fun crateName => (mapGet batteryPackPaths crateName).bind readManifest⟩

/-- `FacadeGenerator::new`: the generator with the file system resolver. -/
def FacadeGenerator.new (manifest : Value) (batteryPackPaths : List (String × String))
    (readManifest : String → Option Value) : FacadeGenerator :=
  ⟨manifest, fileSystemResolver batteryPackPaths readManifest⟩

/-- The package a dependency entry names, as Cargo reads it: the entry's `package` field,
and otherwise its key. -/
def packageName (key : String) (entry : Value) : String :=
  ((entry.get "package").bind Value.asStr).getD key

/-! ## What discovery finds -/

/-- A package `find_battery_pack_manifests` records under `key`. -/
def IsBatteryPackDep (deps : List String) (key : String) (package : Package) : Prop :=
  package.name = key ∧ key ∈ deps ∧ ((package.metadata.bind (·.get "battery")).isSome)

instance (deps : List String) (key : String) : DecidablePred (IsBatteryPackDep deps key) :=
  fun _ => inferInstanceAs (Decidable (_ ∧ _ ∧ _))

theorem mapGet_recordBatteryPack (deps : List String) (batteryPacks : List (String × String))
    (package : Package) (key : String) :
    mapGet (recordBatteryPack deps batteryPacks package) key
      = if IsBatteryPackDep deps key package then some package.manifestPath
        else mapGet batteryPacks key := by
  obtain ⟨name, path, md⟩ := package
  unfold recordBatteryPack IsBatteryPackDep
  by_cases hdep : name ∈ deps
  · cases md with
    | none => simp [hdep]
    | some m =>
      by_cases hb : (m.get "battery").isSome
      · by_cases hk : name = key
        · subst hk; simp [hdep, hb, mapGet_mapInsert]
        · simp [hdep, hb, hk, mapGet_mapInsert]
      · simp [hdep, hb]
  · by_cases hk : name = key
    · subst hk; simp [hdep]
    · simp [hdep, hk]

theorem mapGet_foldr_recordBatteryPack (deps : List String) (acc : List (String × String))
    (packages : List Package) (key : String) :
    mapGet (packages.foldr (fun package bps => recordBatteryPack deps bps package) acc) key
      = ((packages.find? (IsBatteryPackDep deps key ·)).map (·.manifestPath)).or
          (mapGet acc key) := by
  induction packages with
  | nil => rfl
  | cons package packages ih =>
    rw [List.foldr_cons, mapGet_recordBatteryPack, ih]
    by_cases h : IsBatteryPackDep deps key package <;> simp [List.find?_cons, h]

/-- **What discovery finds.** The map records `key` exactly when a package named `key`
with a `battery` key in its metadata is listed and `key` is a dependency key; it records
the manifest path of the last such package. -/
theorem mapGet_findBatteryPackManifests (manifest : Value) (metadata : CargoMetadata)
    (key : String) :
    mapGet (findBatteryPackManifests manifest metadata) key
      = (metadata.packages.reverse.find? (IsBatteryPackDep (dependencyKeys manifest) key ·)).map
          (·.manifestPath) := by
  rw [findBatteryPackManifests, ← List.foldr_reverse, mapGet_foldr_recordBatteryPack]
  simp [mapGet]

/-- The renamed dependency `cli = { package = "cli-battery-pack" }`, with the package
`cli-battery-pack` a battery pack: discovery records nothing, so the generator does not
flatten `cli`, whatever the manifest files hold, and writes `pub use cli;`. -/
theorem findBatteryPackManifests_renamed :
    let manifest : Value := .table [("dependencies", .table [("cli", .table
      [("package", .string "cli-battery-pack"), ("version", .string "0.1")])])]
    let metadata : CargoMetadata := ⟨[⟨"cli-battery-pack", "/registry/cli-battery-pack/Cargo.toml",
      some (.table [("battery", .table [])])⟩]⟩
    packageName "cli" (.table [("package", .string "cli-battery-pack"), ("version", .string "0.1")])
        = "cli-battery-pack" ∧
      findBatteryPackManifests manifest metadata = [] ∧
      ∀ readManifest : String → Option Value,
        (FacadeGenerator.new manifest (findBatteryPackManifests manifest metadata)
          readManifest).generate = "// Auto-generated by battery-pack. Do not edit.\n\npub use cli;\n" := by
  intro manifest metadata
  have hfind : findBatteryPackManifests manifest metadata = [] := by decide
  refine ⟨by decide, hfind, fun readManifest => ?_⟩
  rw [hfind]
  rfl

end BatteryPack
