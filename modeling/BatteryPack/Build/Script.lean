import BatteryPack.Build.Discovery

set_option autoImplicit false

/-! # The build script

`generate_facade` is the function a battery pack's `build.rs` calls. It reads the package
manifest, asks `cargo metadata` for the packages of the workspace, writes the facade to
`OUT_DIR/facade.rs` and prints a `cargo:rerun-if-changed` line for the manifest and for
the manifest of every battery pack discovery found. What it reads from outside the program
(environment variables, files, the `cargo` process) is a `BuildEnv`, the parsers it links
are `Parsers`, and what it does is its result: the file it writes and the lines it prints,
or the error it returns.

Cargo runs a build script again when a file it printed changes, so the facade of an
earlier run stays right only if every file `generate_facade` reads is one it printed
(`generateFacade_watched`). `cargo metadata` reads the workspace's manifests on its own
account; its answer is part of the environment, and the theorem keeps it fixed.
-/

namespace BatteryPack

/-! ## Errors and the environment -/

/-- `build::Error`. `Io`, `Toml` and `Json` carry the message of the error they wrap. -/
inductive Error where
  | io (e : String)
  | toml (e : String)
  | json (e : String)
  | missingManifest
  | cargoMetadataFailed (stderr : String)
  deriving DecidableEq, Repr

/-- `impl Display for Error`. -/
def Error.toString : Error → String
  | .io e => "IO error: " ++ e
  | .toml e => "TOML parse error: " ++ e
  | .json e => "JSON parse error: " ++ e
  | .missingManifest => "Could not find Cargo.toml"
  | .cargoMetadataFailed e => "cargo metadata failed: " ++ e

/-- What `Command::output` gives back: whether the process succeeded, its standard output,
and its standard error after `String::from_utf8_lossy`. -/
structure CommandOutput where
  success : Bool
  stdout : String
  stderr : String
  deriving DecidableEq, Repr

/-- What `generate_facade` reads from outside the program; an I/O failure is the message of
its error. -/
structure BuildEnv where
  /-- `env::var`: `none` when the variable is unset or not Unicode. -/
  var : String → Option String
  /-- `fs::read_to_string`. -/
  readToString : String → Except String String
  /-- `cargo metadata --format-version=1 --no-deps`, run in the given directory. -/
  cargoMetadata : String → Except String CommandOutput
  /-- `fs::write` of the contents to the path. -/
  write : String → String → Except String Unit

/-- The parsers the build script links: `toml::from_str::<toml::Value>` and
`serde_json::from_slice::<CargoMetadata>`, with the messages of their errors. -/
structure Parsers where
  toml : String → Except String Value
  json : String → Except String CargoMetadata

/-- `Path::join` of a relative name, as on Unix: a separator goes between the two unless
the path is empty or already ends with one. -/
def joinPath (path name : String) : String :=
  if (path.data.getLast?.map (· != '/')).getD false then path ++ "/" ++ name else path ++ name

/-- `get_cargo_metadata`. -/
def getCargoMetadata (parsers : Parsers) (env : BuildEnv) (manifestDir : String) :
    Except Error CargoMetadata := do
  let output ← (env.cargoMetadata manifestDir).mapError .io
  if !output.success then
    throw (.cargoMetadataFailed output.stderr)
  (parsers.json output.stdout).mapError .json

/-- What `FileSystemResolver::resolve` does with the path the map gives:
`fs::read_to_string(path).ok()?`, then `toml::from_str(&content).ok()`. -/
def readManifest (parsers : Parsers) (env : BuildEnv) (path : String) : Option Value :=
  (env.readToString path).toOption.bind fun content => (parsers.toml content).toOption

/-- Iterating a `BTreeMap`: its entries in the order of their keys. -/
def mapIter {α : Type} (m : List (String × α)) : List (String × α) := m.insertionSort keyLe

/-- `println!("cargo:rerun-if-changed={}", path)`. -/
def rerunIfChanged (path : String) : String := "cargo:rerun-if-changed=" ++ path

/-- What a successful `generate_facade` leaves behind: the file it writes and the lines it
prints. -/
structure BuildOutput where
  outPath : String
  code : String
  printed : List String
  deriving DecidableEq, Repr

/-- `generate_facade`. -/
def generateFacade (parsers : Parsers) (env : BuildEnv) : Except Error BuildOutput := do
  let some manifestDir := env.var "CARGO_MANIFEST_DIR" | throw .missingManifest
  let manifestPath := joinPath manifestDir "Cargo.toml"
  let some outDir := env.var "OUT_DIR" | throw .missingManifest
  let outPath := joinPath outDir "facade.rs"
  let manifestContent ← (env.readToString manifestPath).mapError .io
  let manifest ← (parsers.toml manifestContent).mapError .toml
  let cargoMetadata ← getCargoMetadata parsers env manifestDir
  let batteryPackManifests := findBatteryPackManifests manifest cargoMetadata
  let code := (FacadeGenerator.new manifest batteryPackManifests (readManifest parsers env)).generate
  (env.write outPath code).mapError .io
  return ⟨outPath, code, rerunIfChanged manifestPath ::
    (mapIter batteryPackManifests).map fun (_, bpManifestPath) => rerunIfChanged bpManifestPath⟩

/-! ## A successful run -/

/-- What a successful run read, wrote and printed. -/
theorem generateFacade_eq_ok {parsers : Parsers} {env : BuildEnv} {out : BuildOutput} :
    generateFacade parsers env = .ok out ↔
      ∃ manifestDir outDir content manifest metadata,
        env.var "CARGO_MANIFEST_DIR" = some manifestDir ∧ env.var "OUT_DIR" = some outDir ∧
        env.readToString (joinPath manifestDir "Cargo.toml") = .ok content ∧
        parsers.toml content = .ok manifest ∧
        getCargoMetadata parsers env manifestDir = .ok metadata ∧
        env.write out.outPath out.code = .ok () ∧
        out = ⟨joinPath outDir "facade.rs",
          (FacadeGenerator.new manifest (findBatteryPackManifests manifest metadata)
            (readManifest parsers env)).generate,
          rerunIfChanged (joinPath manifestDir "Cargo.toml") ::
            (mapIter (findBatteryPackManifests manifest metadata)).map fun e => rerunIfChanged e.2⟩ := by
  unfold generateFacade
  cases env.var "CARGO_MANIFEST_DIR" <;> cases env.var "OUT_DIR" <;>
    simp only [bind_eq_ok, mapError_eq_ok, pure, Except.pure, throw, throwThe, MonadExceptOf.throw,
      Except.ok.injEq, reduceCtorEq, false_and, exists_false, exists_const, Option.some.injEq,
      exists_and_left, exists_eq_left', and_false, iff_self]
  constructor
  · rintro ⟨c, hc, m, hm, md, hmd, ⟨⟩, hw, rfl⟩
    exact ⟨c, hc, m, hm, md, hmd, hw, rfl⟩
  · rintro ⟨c, hc, m, hm, md, hmd, hw, rfl⟩
    exact ⟨c, hc, m, hm, md, hmd, (), hw, rfl⟩

theorem mem_map_snd_of_mapGet {α : Type} {m : List (String × α)} {k : String} {v : α}
    (h : mapGet m k = some v) : v ∈ m.map Prod.snd := by
  obtain ⟨e, he, rfl⟩ := Option.map_eq_some'.mp h
  exact List.mem_map_of_mem _ (List.mem_of_find?_eq_some he)

/-- Readers that agree on the paths of the map make the same resolver. -/
theorem fileSystemResolver_congr {paths : List (String × String)} {read read' : String → Option Value}
    (h : ∀ path ∈ paths.map Prod.snd, read' path = read path) :
    fileSystemResolver paths read' = fileSystemResolver paths read := by
  unfold fileSystemResolver
  congr 1
  funext name
  cases hp : mapGet paths name with
  | none => rfl
  | some path => exact h path (mem_map_snd_of_mapGet hp)

/-! ## What Cargo may skip -/

/-- **Every file the build script reads, it watches.** If `generate_facade` succeeds and
later every file it printed a `cargo:rerun-if-changed` line for is unchanged, then a second
run, whatever the other files hold, writes the same facade to the same path and prints the
same lines: Cargo may skip it. -/
theorem generateFacade_watched {parsers : Parsers} {env : BuildEnv} {out : BuildOutput}
    (readToString : String → Except String String) (h : generateFacade parsers env = .ok out)
    (hread : ∀ path, rerunIfChanged path ∈ out.printed → readToString path = env.readToString path) :
    generateFacade parsers { env with readToString } = .ok out := by
  obtain ⟨dir, outDir, content, manifest, metadata, hd, ho, hc, hm, hmd, hw, rfl⟩ :=
    generateFacade_eq_ok.mp h
  have hbp : ∀ path ∈ (findBatteryPackManifests manifest metadata).map Prod.snd,
      readManifest parsers { env with readToString } path = readManifest parsers env path := by
    intro path hp
    obtain ⟨e, he, rfl⟩ := List.mem_map.mp (((List.perm_insertionSort (@keyLe String) _).map _).mem_iff.mpr hp)
    simp only [readManifest, hread e.2 (List.mem_cons_of_mem _ (List.mem_map_of_mem _ he))]
  refine generateFacade_eq_ok.mpr ⟨dir, outDir, content, manifest, metadata, hd, ho, ?_, hm, hmd, hw, ?_⟩
  · exact (hread _ (List.mem_cons_self _ _)).trans hc
  · simp only [FacadeGenerator.new, fileSystemResolver_congr hbp]

/-- A package `app` that depends on `cli-battery-pack` and `anyhow`; the battery pack
depends on `clap`. -/
def appManifest : Value := .table [("package", .table [("name", .string "app")]),
  ("dependencies", .table [("cli-battery-pack", .string "0.1"), ("anyhow", .string "1")])]

/-- The parsers, on the texts of the files of `appEnv`. -/
def appParsers : Parsers :=
  ⟨fun content => if content = "app" then .ok appManifest
      else if content = "cli" then .ok (.table [("dependencies", .table [("clap", .string "4")])])
      else .error "expected a table",
    fun stdout => if stdout = "metadata" then .ok ⟨[⟨"cli-battery-pack", "/registry/cli/Cargo.toml",
      some (.table [("battery", .table [])])⟩]⟩ else .error "EOF while parsing"⟩

/-- The build of `app` in `/app`. -/
def appEnv : BuildEnv :=
  ⟨fun var => if var = "CARGO_MANIFEST_DIR" then some "/app"
      else if var = "OUT_DIR" then some "/app/out" else none,
    fun path => if path = "/app/Cargo.toml" then .ok "app"
      else if path = "/registry/cli/Cargo.toml" then .ok "cli" else .error "No such file or directory",
    fun _ => .ok ⟨true, "metadata", ""⟩, fun _ _ => .ok ()⟩

/-- The facade of `app` and the two files it watches. -/
def appBuild : BuildOutput :=
  ⟨"/app/out/facade.rs",
    "// Auto-generated by battery-pack. Do not edit.\n\npub use anyhow;\npub use cli_battery_pack::clap;\n",
    ["cargo:rerun-if-changed=/app/Cargo.toml", "cargo:rerun-if-changed=/registry/cli/Cargo.toml"]⟩

/-- The files of `appEnv` after an edit of `src/lib.rs`. -/
def appEdited (path : String) : Except String String :=
  if path = "/app/src/lib.rs" then .ok "pub mod facade;" else appEnv.readToString path

/-- After an edit of `src/lib.rs`, the build of `app` need not run again. -/
theorem generateFacade_watched_app :
    generateFacade appParsers appEnv = .ok appBuild ∧
      (∀ path, rerunIfChanged path ∈ appBuild.printed → appEdited path = appEnv.readToString path) ∧
      generateFacade appParsers { appEnv with readToString := appEdited } = .ok appBuild :=
  have h : generateFacade appParsers appEnv = .ok appBuild := rfl
  have hread : ∀ path, rerunIfChanged path ∈ appBuild.printed →
      appEdited path = appEnv.readToString path := by
    intro path hp
    have : path = "/app/Cargo.toml" ∨ path = "/registry/cli/Cargo.toml" := by
      simpa [appBuild, rerunIfChanged, String.ext_iff] using hp
    rcases this with rfl | rfl <;> rfl
  ⟨h, hread, generateFacade_watched appEdited h hread⟩

end BatteryPack
