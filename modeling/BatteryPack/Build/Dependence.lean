import BatteryPack.Build.Calls

set_option autoImplicit false

/-! # What the facade depends on

The output of `generate` is a function of three things: the value of
`package.metadata.battery`; the set of dependency keys, and only when that value has
neither `root` nor `modules`; and the resolver's answers for the names `generate` passes
to `generate_dep_export`. Under explicit configuration the dependency table is never
read, no dependency's value is ever read, and the resolver is not asked about table
entries or about the dependencies of a flattened battery pack.
-/

namespace BatteryPack

namespace FacadeGenerator

/-- The facade reads the manifest through `package.metadata.battery` and, without
explicit configuration, the sorted dependency keys. -/
theorem facade_eq_of_battery {M M' : Value} (R : BatteryPackResolver)
    (hb : batteryOf M = batteryOf M')
    (hdeps : (batteryOf M).bind (·.get "root") = none →
      (batteryOf M).bind (·.get "modules") = none → dependencyNames M = dependencyNames M') :
    (⟨M, R⟩ : FacadeGenerator).facade = (⟨M', R⟩ : FacadeGenerator).facade := by
  simp only [facade, getDependencies, generateRootExports_mk M M' R,
    generateModuleExports_mk M M' R, generateDepExport_mk M M' R, ← hb]
  cases hr : (batteryOf M).bind (·.get "root") <;>
    cases hm : (batteryOf M).bind (·.get "modules")
  · simp [hdeps hr hm]
  all_goals simp

/-- The calls of `generate_dep_export` are read off the same parts of the manifest. -/
theorem depExportCalls_eq_of_battery {M M' : Value} (hb : batteryOf M = batteryOf M')
    (hdeps : (batteryOf M).bind (·.get "root") = none →
      (batteryOf M).bind (·.get "modules") = none → dependencyNames M = dependencyNames M') :
    depExportCalls M = depExportCalls M' := by
  simp only [depExportCalls, ← hb]
  cases hr : (batteryOf M).bind (·.get "root") <;>
    cases hm : (batteryOf M).bind (·.get "modules")
  · simp [hdeps hr hm]
  all_goals simp

/-- **Noninterference of the generator.** Two manifests with the same
`package.metadata.battery` value, and the same set of dependency keys when that value
configures neither `root` nor `modules`, generate the same facade under any two resolvers
that agree on the names `generate` passes to `generate_dep_export`. A parsed table has
distinct keys, so the dependency keys of each manifest are duplicate-free. -/
theorem generate_eq_of_agree (M M' : Value) (R R' : BatteryPackResolver)
    (hb : batteryOf M = batteryOf M')
    (hkeys : (batteryOf M).bind (·.get "root") = none →
      (batteryOf M).bind (·.get "modules") = none →
        (dependencyKeys M).Nodup ∧ (dependencyKeys M').Nodup ∧
          ∀ k, k ∈ dependencyKeys M ↔ k ∈ dependencyKeys M')
    (hR : ∀ n ∈ (depExportCalls M).map Prod.fst, R.resolve n = R'.resolve n) :
    (withResolver M R).generate = (withResolver M' R').generate := by
  have hdeps : (batteryOf M).bind (·.get "root") = none →
      (batteryOf M).bind (·.get "modules") = none → dependencyNames M = dependencyNames M' :=
    fun hr hm =>
      let ⟨hnd, hnd', hset⟩ := hkeys hr hm
      insertionSort_str_eq_of_perm ((List.perm_ext_iff_of_nodup hnd hnd').mpr hset)
  have hcalls : (⟨M, R⟩ : FacadeGenerator).facade = (⟨M, R'⟩ : FacadeGenerator).facade :=
    facade_congr M R R' fun p hp => by
      simp only [generateDepExport, hR p.1 (List.mem_map_of_mem _ hp)]
  simp only [withResolver, generate, hcalls, facade_eq_of_battery R' hb hdeps]

/-- Under `root = ["tokio"]` neither the dependency table nor what the resolver says about
`serde` reaches the facade. -/
theorem generate_eq_of_agree_root_list :
    (withResolver (.table [("package", .table [("metadata", .table [("battery",
        .table [("root", .array [.string "tokio"])])])]),
      ("dependencies", .table [("tokio", .string "1"), ("serde", .string "1")])])
      ⟨fun _ => none⟩).generate
    = (withResolver (.table [("package", .table [("metadata", .table [("battery",
        .table [("root", .array [.string "tokio"])])])]),
      ("dependencies", .table [("anyhow", .string "1")])])
      ⟨fun n => if n = "serde" then some (.table []) else none⟩).generate :=
  generate_eq_of_agree _ _ _ _ rfl (fun h => by simp [batteryOf] at h) fun n hn => by
    simp [depExportCalls, batteryOf, specCalls, arrayCalls, getExcludeSet] at hn
    simp [hn]

end FacadeGenerator

end BatteryPack
