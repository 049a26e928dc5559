import BatteryPack.Cli.Names
import BatteryPack.Cli.Template
import BatteryPack.Build.Facade

set_option autoImplicit false

/-! # `cargo bp add` and `cargo bp show`

`add_battery_pack` checks with `lookup_crate` that the battery pack is on crates.io, then
runs `cargo add <crate> --rename <short> --features <f> …`. The dependency's key is the short
name and its package the crate, which is the short name followed by `-battery-pack`
(`addBatteryPack_ok`).

`show_battery_pack` reads the battery pack's manifest with serde and lists the
dependencies: those ending with `-battery-pack` under "Extends:", the others but
`battery-pack` under "Crates:". Serde's dependency map is a `BTreeMap`, in key order; the
build script sorts the keys of the same table (`get_dependencies`). On a manifest whose
dependency keys are distinct, as those of every parsed TOML table are, the two crates read
the same list: `show` lists exactly the dependencies the build script works through, split
by the suffix (`splitDependencies_dependencyNames`).
-/

namespace BatteryPack

/-! ## `cargo bp add` -/

/-- `add_battery_pack`: the arguments it passes to `cargo`, once `lookup_crate` has found
the crate. -/
def addBatteryPack (lookupCrate : String → Except String String) (name : String)
    (features : List String) : Except String (List String) :=
  let crateName := resolveCrateName name
  let short := shortName crateName
  match lookupCrate crateName with
  | .error e => .error e
  | .ok _ =>
    .ok (["add", crateName, "--rename", short] ++ features.flatMap fun feature => ["--features", feature])

/-- The crate `cargo bp add` asks for is its short name followed by the suffix. -/
theorem resolveCrateName_eq_shortName_append (name : String) :
    resolveCrateName name = shortName (resolveCrateName name) ++ batteryPackSuffix := by
  unfold resolveCrateName
  split
  · obtain ⟨t, rfl⟩ := eq_append_of_endsWith ‹_›
    rw [shortName_append]
  · rw [shortName_append]

theorem shortName_resolveCrateName {name : String} (h : ¬ endsWith name batteryPackSuffix) :
    shortName (resolveCrateName name) = name := by
  simp [resolveCrateName, h, shortName_append]

/-- **`cargo bp add` keys the battery pack by its short name.** When the lookup succeeds,
`cargo bp add name` asks cargo for the crate `short-battery-pack` under the key `short`,
each feature after its own `--features`; `short` is the name typed, unless that already
ends with `-battery-pack`. -/
theorem addBatteryPack_ok {lookupCrate : String → Except String String} {name : String}
    {features args : List String} (h : addBatteryPack lookupCrate name features = .ok args) :
    ∃ short, args = ["add", short ++ batteryPackSuffix, "--rename", short] ++
        features.flatMap (fun feature => ["--features", feature]) ∧
      (∃ version, lookupCrate (short ++ batteryPackSuffix) = .ok version) ∧
      (¬ endsWith name batteryPackSuffix → short = name) := by
  unfold addBatteryPack at h
  dsimp only at h
  have hcrate := resolveCrateName_eq_shortName_append name
  split at h
  · cases h
  · rename_i version hlookup
    cases h
    exact ⟨_, by rw [← hcrate], ⟨version, hcrate ▸ hlookup⟩, shortName_resolveCrateName⟩

/-- `cargo bp add cli -F derive`. -/
theorem addBatteryPack_ok_cli :
    addBatteryPack (fun _ => .ok "0.1.0") "cli" ["derive"] =
        .ok ["add", "cli-battery-pack", "--rename", "cli", "--features", "derive"] ∧
      ∃ short, ["add", "cli-battery-pack", "--rename", "cli", "--features", "derive"] =
          ["add", short ++ batteryPackSuffix, "--rename", short] ++
            ["derive"].flatMap (fun feature => ["--features", feature]) ∧
        (∃ version, (fun _ => .ok "0.1.0" : String → Except String String)
          (short ++ batteryPackSuffix) = .ok version) ∧
        (¬ endsWith "cli" batteryPackSuffix → short = "cli") :=
  have h : addBatteryPack (fun _ => .ok "0.1.0") "cli" ["derive"] =
      .ok ["add", "cli-battery-pack", "--rename", "cli", "--features", "derive"] := by rfl
  ⟨h, addBatteryPack_ok h⟩

/-! ## The dependencies of `cargo bp show` -/

/-- The loop of `show_battery_pack` over the dependency names: the battery packs it extends,
then the other crates but `battery-pack`. -/
def splitDependencies (depNames : List String) : List String × List String :=
  depNames.foldl (fun (acc : List String × List String) depName =>
    if endsWith depName batteryPackSuffix then (acc.1 ++ [depName], acc.2)
    else if depName ≠ "battery-pack" then (acc.1, acc.2 ++ [depName])
    else acc) ([], [])

/-- One turn of the loop appends the name to the list it belongs to. -/
theorem foldl_splitDependencies (depNames : List String) (acc : List String × List String) :
    depNames.foldl (fun (acc : List String × List String) depName =>
        if endsWith depName batteryPackSuffix then (acc.1 ++ [depName], acc.2)
        else if depName ≠ "battery-pack" then (acc.1, acc.2 ++ [depName])
        else acc) acc =
      (acc.1 ++ depNames.filter (endsWith · batteryPackSuffix),
        acc.2 ++ depNames.filter fun d => !endsWith d batteryPackSuffix && d ≠ "battery-pack") := by
  induction depNames generalizing acc with
  | nil => simp
  | cons d ds ih =>
    rw [List.foldl_cons, ih]
    by_cases hbp : endsWith d batteryPackSuffix
    · simp [hbp]
    · by_cases hd : d = "battery-pack"
      · subst hd
        simp [hbp]
      · simp [hbp, hd]

theorem splitDependencies_eq (depNames : List String) :
    splitDependencies depNames =
      (depNames.filter (endsWith · batteryPackSuffix),
        depNames.filter fun d => !endsWith d batteryPackSuffix && d ≠ "battery-pack") :=
  foldl_splitDependencies depNames ([], [])

/-! ## The two crates read the same dependencies -/

theorem CargoManifest.deserialize_dependencies {v : Value} {m : CargoManifest}
    (h : CargoManifest.deserialize v = some m) :
    deDefault StrMap.empty (deMap some) (v.get "dependencies") = some m.dependencies := by
  cases v with
  | table kvs =>
    simp only [CargoManifest.deserialize, bind, Option.bind_eq_some, pure,
      Option.some.injEq] at h
    obtain ⟨package, -, dependencies, hdeps, rfl⟩ := h
    exact hdeps
  | _ => cases h

/-- **The dependency map of `cargo bp show` is the sorted list of the build script.** On a
manifest with distinct dependency keys, the keys of serde's `BTreeMap` are the keys
`get_dependencies` sorts. -/
theorem CargoManifest.keys_dependencies {manifest : Value} {m : CargoManifest}
    (h : CargoManifest.deserialize manifest = some m) (hkeys : (dependencyKeys manifest).Nodup) :
    m.dependencies.keys = dependencyNames manifest := by
  have hdeps := CargoManifest.deserialize_dependencies h
  unfold dependencyNames
  cases hd : manifest.get "dependencies" with
  | none =>
    rw [hd] at hdeps
    rw [← Option.some.inj hdeps]
    simp [dependencyKeys, hd, StrMap.keys, StrMap.empty]
  | some w =>
    rw [hd] at hdeps
    cases w with
    | table kvs =>
      have hk : dependencyKeys manifest = kvs.map Prod.fst := by simp [dependencyKeys, hd]
      rw [hk] at hkeys ⊢
      refine List.eq_of_perm_of_sorted ?_ ?_ (List.sorted_insertionSort _ _)
      · exact ((List.perm_ext_iff_of_nodup m.dependencies.nodup_keys hkeys).mpr
          (deMap_mem_keys hdeps)).trans (List.perm_insertionSort _ _).symm
      · exact m.dependencies.keys_pairwise.imp fun h => strLe_iff.mpr (le_of_lt (strLt_iff.mp h))
    | _ => cases hdeps

/-- **`cargo bp show` lists the dependencies the build script reads.** On a manifest with
distinct dependency keys, "Extends:" lists the dependencies of `get_dependencies` that end
with `-battery-pack` and "Crates:" the others but `battery-pack`, each in the order the
build script works through them. -/
theorem splitDependencies_dependencyNames {manifest : Value} {m : CargoManifest}
    (h : CargoManifest.deserialize manifest = some m) (hkeys : (dependencyKeys manifest).Nodup) :
    splitDependencies m.dependencies.keys =
      ((dependencyNames manifest).filter (endsWith · batteryPackSuffix),
        (dependencyNames manifest).filter fun d =>
          !endsWith d batteryPackSuffix && d ≠ "battery-pack") := by
  rw [CargoManifest.keys_dependencies h hkeys, splitDependencies_eq]

/-- A manifest whose dependency table is not in key order. -/
def showManifest : Value :=
  .table [("package", .table [("name", .string "cli-battery-pack")]),
    ("dependencies", .table [("clap", .string "4"), ("error-battery-pack", .string "0.1"),
      ("battery-pack", .string "0.1"), ("anyhow", .string "1")])]

/-- `show` on `showManifest`. -/
theorem splitDependencies_showManifest :
    ∃ m, CargoManifest.deserialize showManifest = some m ∧ (dependencyKeys showManifest).Nodup ∧
      splitDependencies m.dependencies.keys =
        ((dependencyNames showManifest).filter (endsWith · batteryPackSuffix),
          (dependencyNames showManifest).filter fun d =>
            !endsWith d batteryPackSuffix && d ≠ "battery-pack") :=
  ⟨_, rfl, by decide, splitDependencies_dependencyNames rfl (by decide)⟩

end BatteryPack
