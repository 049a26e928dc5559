import BatteryPack.Build.Calls

set_option autoImplicit false

/-! # Excluded names are irrelevant

The generator checks its exclude set at six sites: the zero-configuration loop, the root
array, the root table, a module's array, a module's table, and the loop over a flattened
battery pack's dependencies (against that pack's own exclude set). `battery-pack` is
always in both sets. The result of this file says that every one of these checks is
there: deleting an excluded name from every place it can be configured changes nothing.

Deleting is modelled by the edits below on the TOML value; `eraseFromManifest n M` is
`M - n`.
-/

namespace BatteryPack

namespace Value

/-- Applies `f` to the value of `key` in a table; any other value is left alone. -/
def modify (key : String) (f : Value → Value) : Value → Value
  | table kvs => table (kvs.map fun e => if e.1 = key then (e.1, f e.2) else e)
  | v => v

/-- Deletes `key` from a table. -/
def eraseKey (key : String) : Value → Value
  | table kvs => table (kvs.filter (·.1 ≠ key))
  | v => v

/-- Deletes a name from an export spec: the string from an array, the key from a table. -/
def eraseName (name : String) : Value → Value
  | array xs => array (xs.filter (·.asStr ≠ some name))
  | table kvs => table (kvs.filter (·.1 ≠ name))
  | v => v

/-- Applies `f` to every value of a table. -/
def mapValues (f : Value → Value) : Value → Value
  | table kvs => table (kvs.map fun e => (e.1, f e.2))
  | v => v

theorem get_modify (v : Value) (key k : String) (f : Value → Value) :
    (v.modify key f).get k = if k = key then (v.get k).map f else v.get k := by
  cases v with
  | table kvs =>
    induction kvs with
    | nil => split <;> rfl
    | cons e kvs ih =>
      simp only [modify, get_table, List.map_cons, List.find?_cons] at ih ⊢
      by_cases he' : e.1 = k
      · subst he'
        by_cases he : e.1 = key <;> simp [he]
      · have hfst : (if e.1 = key then (e.1, f e.2) else e).1 = e.1 := by split <;> rfl
        simp only [hfst, decide_eq_false he', ih]
  | _ => split <;> rfl

@[simp] theorem asTable_eraseKey (v : Value) (key : String) :
    (v.eraseKey key).asTable = v.asTable.map (·.filter (·.1 ≠ key)) := by
  cases v <;> rfl

@[simp] theorem asTable_mapValues (v : Value) (f : Value → Value) :
    (v.mapValues f).asTable = v.asTable.map (·.map fun e => (e.1, f e.2)) := by
  cases v <;> rfl

end Value

/-- Deletes `n` from the dependency table of a manifest. -/
def eraseDependency (n : String) (M : Value) : Value :=
  M.modify "dependencies" (Value.eraseKey n)

/-- Deletes `n` from `root` and from every module of `package.metadata.battery`. -/
def eraseFromBattery (n : String) (battery : Value) : Value :=
  (battery.modify "root" (Value.eraseName n)).modify "modules" (Value.mapValues (Value.eraseName n))

/-- `M - n`: `n` deleted from the dependency table, from `root` (an array element or a
table key) and from every module (an array element or a table key). -/
def eraseFromManifest (n : String) (M : Value) : Value :=
  (eraseDependency n M).modify "package" <| Value.modify "metadata" <|
    Value.modify "battery" (eraseFromBattery n)

/-! ## What the edits do to the generator's reads -/

theorem batteryOf_eraseDependency (n : String) (M : Value) :
    batteryOf (eraseDependency n M) = batteryOf M := by
  simp [batteryOf, eraseDependency, Value.get_modify]

theorem dependencyNames_eraseDependency (n : String) (M : Value) :
    dependencyNames (eraseDependency n M) = (dependencyNames M).filter (· ≠ n) := by
  rw [dependencyNames, dependencyNames, ← insertionSort_filter_str]
  congr 1
  simp only [dependencyKeys, eraseDependency, Value.get_modify, if_true]
  cases (M.get "dependencies") with
  | none => rfl
  | some deps => cases h : deps.asTable <;> simp [h, List.filter_map, Function.comp_def]

theorem batteryOf_eraseFromManifest (n : String) (M : Value) :
    batteryOf (eraseFromManifest n M) = (batteryOf M).map (eraseFromBattery n) := by
  simp only [batteryOf, eraseFromManifest, eraseDependency, Value.get_modify]
  rcases M.get "package" with _ | p
  · rfl
  · rcases hm : p.get "metadata" with _ | m <;> simp [hm, Value.get_modify]

theorem dependencyNames_eraseFromManifest (n : String) (M : Value) :
    dependencyNames (eraseFromManifest n M) = (dependencyNames M).filter (· ≠ n) := by
  rw [← dependencyNames_eraseDependency]
  simp [dependencyNames, dependencyKeys, eraseFromManifest, Value.get_modify]

theorem getExcludeSet_eraseFromBattery (n : String) (battery : Option Value) :
    getExcludeSet (battery.map (eraseFromBattery n)) = getExcludeSet battery := by
  cases battery <;> simp [getExcludeSet, eraseFromBattery, Value.get_modify]

theorem root_eraseFromBattery (n : String) (battery : Option Value) :
    (battery.map (eraseFromBattery n)).bind (·.get "root")
      = (battery.bind (·.get "root")).map (Value.eraseName n) := by
  cases battery <;> simp [eraseFromBattery, Value.get_modify]

theorem modules_eraseFromBattery (n : String) (battery : Option Value) :
    (battery.map (eraseFromBattery n)).bind (·.get "modules")
      = (battery.bind (·.get "modules")).map (Value.mapValues (Value.eraseName n)) := by
  cases battery <;> simp [eraseFromBattery, Value.get_modify]

/-! ## Each exclusion check -/

/-- Dropping entries that contribute nothing does not change a concatenation. -/
theorem flatMap_filter_eq {α β : Type} {l : List α} {p : α → Bool} {f : α → List β}
    (h : ∀ a ∈ l, p a = false → f a = []) : (l.filter p).flatMap f = l.flatMap f := by
  induction l with
  | nil => rfl
  | cons a l ih =>
    simp only [List.forall_mem_cons] at h
    by_cases hp : p a <;> simp [List.filter_cons, hp, ih h.2, h.1]

namespace FacadeGenerator

variable (g : FacadeGenerator) {n : String} {exclude : List String}

/-- The checks of the root array, the root table, a module array and a module table. -/
theorem exportSpec_eraseName (hn : n ∈ exclude) (spec : Value) (indent : String) :
    g.exportSpec (spec.eraseName n) exclude indent = g.exportSpec spec exclude indent := by
  cases spec with
  | array arr =>
    refine flatMap_filter_eq fun item _ hitem => ?_
    simp only [decide_eq_false_iff_not, not_not] at hitem
    simp [hitem, hn]
  | table t =>
    simp only [Value.eraseName, exportSpec, tableExports, insertionSort_filter]
    refine flatMap_filter_eq fun e _ he => ?_
    simp only [decide_eq_false_iff_not, not_not] at he
    simp [he, hn]
  | _ => rfl

theorem generateRootExports_eraseName (hn : n ∈ exclude) (root : Value) :
    g.generateRootExports (root.eraseName n) exclude = g.generateRootExports root exclude :=
  exportSpec_eraseName g hn root ""

theorem generateModuleExports_eraseName (hn : n ∈ exclude) (modules : Value) :
    g.generateModuleExports (modules.mapValues (Value.eraseName n)) exclude
      = g.generateModuleExports modules exclude := by
  simp only [generateModuleExports, Value.asTable_mapValues]
  cases modules.asTable with
  | none => rfl
  | some t =>
    simp only [Option.map_some', insertionSort_map_snd, List.map_map]
    exact List.map_congr_left fun e _ => by simp [exportSpec_eraseName g hn]

/-- The check of a flattened battery pack's loop, against the pack's own exclude set. -/
theorem generateBatteryPackReexport_eraseDependency (bpIdent : String) (B : Value)
    (hn : n ∈ getExcludeSet (batteryOf B)) (indent : String) :
    generateBatteryPackReexport bpIdent (eraseDependency n B) indent
      = generateBatteryPackReexport bpIdent B indent := by
  simp only [generateBatteryPackReexport, batteryOf_eraseDependency, dependencyNames_eraseDependency]
  refine flatMap_filter_eq fun dep _ hdep => ?_
  simp only [decide_eq_false_iff_not, not_not] at hdep
  simp [hdep, hn]

/-- **Excluded names are irrelevant.** Deleting a name of the exclude set from the
dependency table, from `root` and from every module leaves the output unchanged. So does
deleting, from any battery pack the resolver returns, a name in that pack's own exclude
set, wherever the resolver returns it. -/
theorem generate_erase_excluded (M : Value) (R : BatteryPackResolver) :
    (∀ n ∈ getExcludeSet (batteryOf M),
      (withResolver (eraseFromManifest n M) R).generate = (withResolver M R).generate) ∧
    (∀ R' : BatteryPackResolver, (∀ d, R'.resolve d = R.resolve d ∨
        ∃ B n, n ∈ getExcludeSet (batteryOf B) ∧ R.resolve d = some B ∧
          R'.resolve d = some (eraseDependency n B)) →
      (withResolver M R').generate = (withResolver M R).generate) := by
  refine ⟨fun n hn => ?_, fun R' hR' => ?_⟩
  · have hdefault : ∀ deps : List String,
        ((deps.filter (· ≠ n)).flatMap fun dep => if dep ∈ getExcludeSet (batteryOf M) then []
          else ((⟨M, R⟩ : FacadeGenerator).generateDepExport dep "").map Item.use)
        = deps.flatMap fun dep => if dep ∈ getExcludeSet (batteryOf M) then []
          else ((⟨M, R⟩ : FacadeGenerator).generateDepExport dep "").map Item.use :=
      fun deps => flatMap_filter_eq fun dep _ hdep => by
        simp only [decide_eq_false_iff_not, not_not] at hdep
        simp [hdep, hn]
    simp only [withResolver, generate, facade, getDependencies, batteryOf_eraseFromManifest,
      getExcludeSet_eraseFromBattery, root_eraseFromBattery, modules_eraseFromBattery,
      dependencyNames_eraseFromManifest, generateRootExports_mk (eraseFromManifest n M) M R,
      generateModuleExports_mk (eraseFromManifest n M) M R,
      generateDepExport_mk (eraseFromManifest n M) M R, hdefault, Option.map_map,
      Option.isSome_map', Function.comp_def, generateRootExports_eraseName _ hn,
      generateModuleExports_eraseName _ hn]
  · have hcall : ∀ p : String × String,
        (⟨M, R'⟩ : FacadeGenerator).generateDepExport p.1 p.2
          = (⟨M, R⟩ : FacadeGenerator).generateDepExport p.1 p.2 := fun p => by
      rcases hR' p.1 with h | ⟨B, n, hn, hB, hB'⟩
      · simp only [generateDepExport, h]
      · simp only [generateDepExport, hB, hB', generateBatteryPackReexport_eraseDependency _ _ hn]
    simp only [withResolver, generate, facade_congr M R' R fun p _ => hcall p]

/-- `battery-pack` is deleted from a manifest's dependencies, and from those of a
flattened pack, without effect. -/
theorem generate_erase_excluded_battery_pack :
    (withResolver (eraseFromManifest "battery-pack"
        (.table [("dependencies", .table [("battery-pack", .string "0.1"), ("cli-bp", .string "1")])]))
      ⟨fun d => if d = "cli-bp" then some (.table [("dependencies",
        .table [("anyhow", .string "1"), ("battery-pack", .string "0.1")])]) else none⟩).generate
      = (withResolver
        (.table [("dependencies", .table [("battery-pack", .string "0.1"), ("cli-bp", .string "1")])])
      ⟨fun d => if d = "cli-bp" then some (.table [("dependencies",
        .table [("anyhow", .string "1"), ("battery-pack", .string "0.1")])]) else none⟩).generate ∧
    (withResolver
        (.table [("dependencies", .table [("battery-pack", .string "0.1"), ("cli-bp", .string "1")])])
      ⟨fun d => if d = "cli-bp" then some (eraseDependency "battery-pack" (.table [("dependencies",
        .table [("anyhow", .string "1"), ("battery-pack", .string "0.1")])])) else none⟩).generate
      = (withResolver
        (.table [("dependencies", .table [("battery-pack", .string "0.1"), ("cli-bp", .string "1")])])
      ⟨fun d => if d = "cli-bp" then some (.table [("dependencies",
        .table [("anyhow", .string "1"), ("battery-pack", .string "0.1")])]) else none⟩).generate :=
  ⟨(generate_erase_excluded _ _).1 "battery-pack" (by simp [getExcludeSet]),
    (generate_erase_excluded _ _).2 _ fun d => by
      by_cases h : d = "cli-bp"
      · exact .inr ⟨.table [("dependencies", .table [("anyhow", .string "1"),
          ("battery-pack", .string "0.1")])], "battery-pack", by simp [getExcludeSet],
          by simp [h], by simp [h]⟩
      · exact .inl (by simp [h])⟩

end FacadeGenerator

end BatteryPack
