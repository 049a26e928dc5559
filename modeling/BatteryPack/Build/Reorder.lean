import BatteryPack.Build.Calls

set_option autoImplicit false

/-! # Table order does not reach the output

A table's iteration order is sorted for the default `toml` map and insertion order under
`preserve_order`. The generator sorts at every place it iterates over a table (the
dependency keys, the root table, the modules table and each module's table, the
dependency keys of a flattened pack) and otherwise only looks keys up, so its output is
the same for any two manifests that are equal up to the order of table entries.

The proof goes through the canonical form: each read of the generator gives the same
answer on `v.norm` as on `v` (`facade_norm`), and equal-up-to-order values have one
canonical form.
-/

namespace BatteryPack

/-- The resolver that returns the canonical form of each manifest `R` returns. -/
def BatteryPackResolver.norm (R : BatteryPackResolver) : BatteryPackResolver :=
  ⟨fun crateName => (R.resolve crateName).map Value.norm⟩

/-! ## Every read of the generator sees through the canonical form -/

theorem batteryOf_norm (M : Value) : batteryOf M.norm = (batteryOf M).map Value.norm := by
  simp only [batteryOf, Value.get_norm]
  rcases M.get "package" with _ | p
  · rfl
  · rcases hm : p.get "metadata" with _ | m <;> simp [hm]

theorem getExcludeSet_norm (battery : Option Value) :
    getExcludeSet (battery.map Value.norm) = getExcludeSet battery := by
  cases battery with
  | none => rfl
  | some b =>
    simp only [getExcludeSet, Option.map_some', Option.some_bind, Value.get_norm]
    rcases b.get "exclude" with _ | e
    · rfl
    · simp [List.filterMap_map, Function.comp_def]

theorem dependencyNames_norm (M : Value) : dependencyNames M.norm = dependencyNames M := by
  simp only [dependencyNames, dependencyKeys, Value.get_norm]
  rcases M.get "dependencies" with _ | d
  · rfl
  · rcases hd : d.asTable with _ | kvs
    · simp [hd]
    · simp only [Option.map_some', Option.some_bind, Value.asTable_norm, hd, List.map_map,
        Option.getD_some]
      rw [show Prod.fst ∘ (fun e : String × Value => (e.1, e.2.norm)) = Prod.fst from rfl,
        map_fst_insertionSort, (List.sorted_insertionSort strLe _).insertionSort_eq]

namespace FacadeGenerator

variable (g : FacadeGenerator)

theorem tableEntryExport_norm (indent crateName : String) (config : Value) :
    tableEntryExport indent crateName config.norm = tableEntryExport indent crateName config := by
  cases config <;> simp [tableEntryExport, Value.norm, Value.normList_eq_map,
    List.filterMap_map, Function.comp_def]

theorem exportSpec_norm (spec : Value) (exclude : List String) (indent : String) :
    g.exportSpec spec.norm exclude indent = g.exportSpec spec exclude indent := by
  cases spec with
  | array xs =>
    simp only [Value.norm_array, exportSpec, arrayExports, List.flatMap_map, Value.asStr_norm]
  | table kvs =>
    have hsorted : ((kvs.insertionSort keyLe).map fun e => (e.1, e.2.norm)).Sorted keyLe :=
      (List.pairwise_map.mpr ((List.sorted_insertionSort keyLe kvs).imp id))
    simp only [Value.norm_table, exportSpec, tableExports, hsorted.insertionSort_eq,
      List.flatMap_map, tableEntryExport_norm]
  | _ => simp [Value.norm, exportSpec]

theorem generateModuleExports_norm (modules : Value) (exclude : List String) :
    g.generateModuleExports modules.norm exclude = g.generateModuleExports modules exclude := by
  simp only [generateModuleExports, Value.asTable_norm]
  rcases modules.asTable with _ | kvs
  · rfl
  · have hsorted : ((kvs.insertionSort keyLe).map fun e => (e.1, e.2.norm)).Sorted keyLe :=
      (List.pairwise_map.mpr ((List.sorted_insertionSort keyLe kvs).imp id))
    simp only [Option.map_some', hsorted.insertionSort_eq, List.map_map, Function.comp_def,
      exportSpec_norm]

theorem generateBatteryPackReexport_norm (bpIdent : String) (B : Value) (indent : String) :
    generateBatteryPackReexport bpIdent B.norm indent = generateBatteryPackReexport bpIdent B indent := by
  simp only [generateBatteryPackReexport, dependencyNames_norm, batteryOf_norm, getExcludeSet_norm]

theorem generateDepExport_norm (M : Value) (R : BatteryPackResolver) (crateName indent : String) :
    (⟨M, R.norm⟩ : FacadeGenerator).generateDepExport crateName indent
      = (⟨M, R⟩ : FacadeGenerator).generateDepExport crateName indent := by
  simp only [generateDepExport, BatteryPackResolver.norm]
  cases R.resolve crateName <;> simp [generateBatteryPackReexport_norm]

theorem generateRootExports_norm (root : Value) (exclude : List String) :
    g.generateRootExports root.norm exclude = g.generateRootExports root exclude :=
  exportSpec_norm g root exclude ""

/-- The generator gives the same facade for a manifest and a resolver as for their
canonical forms. -/
theorem facade_norm (M : Value) (R : BatteryPackResolver) :
    (⟨M.norm, R.norm⟩ : FacadeGenerator).facade = (⟨M, R⟩ : FacadeGenerator).facade := by
  rw [← facade_congr M R.norm R fun p _ => generateDepExport_norm M R p.1 p.2]
  simp only [facade, getDependencies, batteryOf_norm, getExcludeSet_norm, dependencyNames_norm,
    generateRootExports_mk M.norm M, generateModuleExports_mk M.norm M,
    generateDepExport_mk M.norm M]
  rcases batteryOf M with _ | b
  · rfl
  · simp only [Option.map_some', Option.some_bind, Value.get_norm, Option.map_map,
      Function.comp_def, Option.isSome_map', generateRootExports_norm, generateModuleExports_norm]

/-- **Table order independence.** Two manifests equal up to the order of the entries
within their tables, and two resolvers whose answers are equal up to the same
reordering, generate the same text. -/
theorem generate_eq_of_sameUpToOrder (M M' : Value) (R R' : BatteryPackResolver)
    (hM : M.SameUpToOrder M')
    (hR : ∀ crateName, Option.Rel Value.SameUpToOrder (R.resolve crateName) (R'.resolve crateName)) :
    (withResolver M R).generate = (withResolver M' R').generate := by
  have hnorm : R.norm = R'.norm := by
    simp only [BatteryPackResolver.norm, BatteryPackResolver.mk.injEq]
    funext crateName
    have h := hR crateName
    generalize R.resolve crateName = a at h ⊢
    generalize R'.resolve crateName = b at h ⊢
    cases h with
    | none => rfl
    | some h => exact congrArg some h
  simp only [withResolver, generate, ← facade_norm M R, ← facade_norm M' R', hnorm,
    show M.norm = M'.norm from hM]

/-- A zero-configuration battery pack with its dependency table, and the dependency table
of the battery pack it flattens, in another order gives the same facade. -/
theorem generate_eq_of_sameUpToOrder_reordered :
    (withResolver (.table [("dependencies", .table [("error-bp", .string "0.1"),
        ("clap", .string "4"), ("anyhow", .string "1")])])
      ⟨fun d => if d = "error-bp" then some (.table [("dependencies",
        .table [("thiserror", .string "2"), ("anyhow", .string "1")])]) else none⟩).generate
    = (withResolver (.table [("dependencies", .table [("anyhow", .string "1"),
        ("clap", .string "4"), ("error-bp", .string "0.1")])])
      ⟨fun d => if d = "error-bp" then some (.table [("dependencies",
        .table [("anyhow", .string "1"), ("thiserror", .string "2")])]) else none⟩).generate :=
  generate_eq_of_sameUpToOrder _ _ _ _ rfl fun d => by
    by_cases h : d = "error-bp"
    · simp only [h, if_true]; exact .some rfl
    · simp only [h, if_false]; exact .none

/-- Both give the names in sorted order. -/
example : (withResolver (.table [("dependencies", .table [("error-bp", .string "0.1"),
        ("clap", .string "4"), ("anyhow", .string "1")])])
      ⟨fun d => if d = "error-bp" then some (.table [("dependencies",
        .table [("thiserror", .string "2"), ("anyhow", .string "1")])]) else none⟩).generate =
    "// Auto-generated by battery-pack. Do not edit.\n\npub use anyhow;\npub use clap;\n" ++
      "pub use error_bp::anyhow;\npub use error_bp::thiserror;\n" := by
  rfl

end FacadeGenerator

end BatteryPack
