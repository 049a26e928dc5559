import Mathlib.Data.List.Pairwise
import BatteryPack.Build.Flatten

set_option autoImplicit false

/-! # The facade in two configurations

Without `root` and `modules`, and with no dependency that is a battery pack, the facade
is one `pub use` line per dependency that is not excluded, in the order of the names
(`generate_zeroConfig`).

`generate` turns the zero-configuration default off as soon as `root` or `modules` is
present, whatever its shape, while the export loops read only an array or a table. A `root`
of another shape, such as `root = "*"`, or a `modules` that is not a table, therefore
exports nothing at all: the facade is the banner alone (`generate_eq_banner_of_unread`).

Nor does `generate` look at what its other lines bind. When two dependencies contribute
the same name, directly or through a battery pack they flatten, the zero-configuration
facade binds it twice (`two_le_count_boundNames`), and rustc rejects a module that defines a
name twice (E0252): a battery pack that depends on `error-bp` and also, directly, on
`anyhow`, which `error-bp` depends on, gets `pub use anyhow;` and `pub use error_bp::anyhow;`.
-/

namespace BatteryPack

namespace FacadeGenerator

/-- Keeping an entry's single item or nothing is filtering, then mapping. -/
theorem flatMap_ite_nil {α β : Type} (l : List α) (p : α → Prop) [DecidablePred p]
    (f : α → β) : l.flatMap (fun a => if p a then [] else [f a]) = (l.filter fun a => ¬ p a).map f := by
  induction l with
  | nil => rfl
  | cons a l ih => by_cases h : p a <;> simp [h, ih, List.filter_cons]

/-- **The zero-configuration facade.** Without `root` and `modules`, and when no
dependency is a battery pack, the output is the banner, then `pub use <ident>;` for each
dependency that is not excluded, in the order of the names. -/
theorem generate_zeroConfig (M : Value) (R : BatteryPackResolver)
    (hroot : (batteryOf M).bind (·.get "root") = none)
    (hmod : (batteryOf M).bind (·.get "modules") = none)
    (hplain : ∀ d ∈ dependencyNames M, R.resolve d = none) :
    (withResolver M R).generate = "// Auto-generated by battery-pack. Do not edit.\n\n" ++
      String.join (((dependencyNames M).filter fun d => d ∉ getExcludeSet (batteryOf M)).map
        fun d => "pub use " ++ replaceHyphens d ++ ";\n") := by
  have hdep : ∀ d ∈ dependencyNames M,
      ((withResolver M R).generateDepExport d "").map Item.use = [.use (.crate "" (replaceHyphens d))] :=
    fun d hd => by simp [generateDepExport, withResolver, hplain d hd]
  have hfacade : (withResolver M R).facade =
      ((dependencyNames M).filter fun d => d ∉ getExcludeSet (batteryOf M)).map
        fun d => .use (.crate "" (replaceHyphens d)) := by
    rw [facade_of_default _ hroot hmod, ← flatMap_ite_nil]
    exact List.flatMap_congr fun d hd => by rw [hdep d hd]; rfl
  rw [generate, hfacade, List.map_map]
  simp [Function.comp_def, Item.render, Stmt.render]

/-- A battery pack with three dependencies and no configuration. -/
def zeroConfigManifest : Value :=
  .table [("dependencies", .table [("tracing-subscriber", .string "0.3"),
    ("anyhow", .string "1"), ("battery-pack", .string "0.1")])]

/-- Its facade re-exports `anyhow` and `tracing_subscriber`. -/
example : (withResolver zeroConfigManifest InMemoryResolver.new.toResolver).generate =
    "// Auto-generated by battery-pack. Do not edit.\n\npub use anyhow;\npub use tracing_subscriber;\n" := by
  rfl

theorem exportSpec_of_unread {g : FacadeGenerator} {spec : Value}
    (h : spec.asArray = none ∧ spec.asTable = none) (exclude : List String) (indent : String) :
    g.exportSpec spec exclude indent = [] := by
  cases spec with
  | array xs => cases h.1
  | table kvs => cases h.2
  | _ => rfl

/-- **A `root` or `modules` the loops cannot read exports nothing.** When `root` or
`modules` is present, `root` is neither an array nor a table and `modules` is not a table,
the output is the banner alone: the zero-configuration default is off, and nothing else
is exported. -/
theorem generate_eq_banner_of_unread (M : Value) (R : BatteryPackResolver)
    (hroot : ∀ root, (batteryOf M).bind (·.get "root") = some root →
      root.asArray = none ∧ root.asTable = none)
    (hmod : ∀ modules, (batteryOf M).bind (·.get "modules") = some modules → modules.asTable = none)
    (hsome : ((batteryOf M).bind (·.get "root")).isSome ∨ ((batteryOf M).bind (·.get "modules")).isSome) :
    (withResolver M R).generate = "// Auto-generated by battery-pack. Do not edit.\n\n" := by
  have hrootExports : (((batteryOf M).bind (·.get "root")).map fun root =>
      ((withResolver M R).generateRootExports root (getExcludeSet (batteryOf M))).map Item.use).getD [] = [] := by
    cases hr : (batteryOf M).bind (·.get "root") with
    | none => rfl
    | some root => simp [generateRootExports, exportSpec_of_unread (hroot root hr)]
  have hmoduleExports : (((batteryOf M).bind (·.get "modules")).map fun modules =>
      (withResolver M R).generateModuleExports modules (getExcludeSet (batteryOf M))).getD [] = [] := by
    cases hm : (batteryOf M).bind (·.get "modules") with
    | none => rfl
    | some modules => simp [generateModuleExports, hmod modules hm]
  have hfacade : (withResolver M R).facade = [] := by
    simp only [facade, withResolver] at hrootExports hmoduleExports ⊢
    rw [hrootExports, hmoduleExports]
    rcases hsome with h | h <;> simp [h]
  rw [generate, hfacade]
  exact String.append_empty _

/-- A battery pack that asks for `root = "*"`. -/
def starRootManifest : Value :=
  .table [("package", .table [("metadata", .table [("battery", .table [("root", .string "*")])])]),
    ("dependencies", .table [("serde", .string "1"), ("tokio", .string "1")])]

/-- `root = "*"` exports neither `serde` nor `tokio`. -/
example : (withResolver starRootManifest InMemoryResolver.new.toResolver).generate =
    "// Auto-generated by battery-pack. Do not edit.\n\n" :=
  generate_eq_banner_of_unread _ _ (fun _ h => by cases h; exact ⟨rfl, rfl⟩) (fun _ h => by cases h)
    (.inl rfl)

/-! ## Names bound twice -/

/-- The names the lines `generate_dep_export` writes for a crate bind at the top level. -/
def depBinds (g : FacadeGenerator) (crateName : String) : List String :=
  (g.generateDepExport crateName "").flatMap Stmt.binds

/-- A name that two different elements of a list contribute occurs twice in the list's
`flatMap`. -/
theorem two_le_count_flatMap {α : Type} [DecidableEq α] (f : α → List String) {name : String} :
    ∀ {l : List α} {d e : α}, d ∈ l → e ∈ l → d ≠ e → name ∈ f d → name ∈ f e →
      2 ≤ (l.flatMap f).count name
  | [], _, _, hd, _, _, _, _ => absurd hd (List.not_mem_nil _)
  | c :: l, d, e, hd, he, hde, hnd, hne => by
    rw [List.flatMap_cons, List.count_append]
    have hmem : ∀ {a}, a ∈ l → name ∈ f a → 1 ≤ (l.flatMap f).count name := fun ha hna =>
      List.count_pos_iff.mpr (List.mem_flatMap.mpr ⟨_, ha, hna⟩)
    rcases List.mem_cons.mp hd with rfl | hdl <;> rcases List.mem_cons.mp he with rfl | hel
    · exact absurd rfl hde
    · have := List.count_pos_iff.mpr hnd; have := hmem hel hne; omega
    · have := List.count_pos_iff.mpr hne; have := hmem hdl hnd; omega
    · have := two_le_count_flatMap f hdl hel hde hnd hne; omega

/-- **Nothing removes a name bound twice.** Without `root` and `modules`, two different
dependencies that are not excluded and whose `generate_dep_export` lines bind a common
name, as a plain crate or through a battery pack they flatten, make the facade bind that
name twice. -/
theorem two_le_count_boundNames (g : FacadeGenerator)
    (hroot : (batteryOf g.manifest).bind (·.get "root") = none)
    (hmod : (batteryOf g.manifest).bind (·.get "modules") = none)
    {d e : String} (hd : d ∈ dependencyNames g.manifest) (he : e ∈ dependencyNames g.manifest)
    (hde : d ≠ e) (hdx : d ∉ getExcludeSet (batteryOf g.manifest))
    (hex : e ∉ getExcludeSet (batteryOf g.manifest)) {name : String} (hnd : name ∈ g.depBinds d)
    (hne : name ∈ g.depBinds e) : 2 ≤ (boundNames g.facade).count name := by
  rw [facade_of_default g hroot hmod, boundNames, List.flatMap_assoc]
  refine two_le_count_flatMap _ hd he hde ?_ ?_
  · simpa [if_neg hdx, List.flatMap_map, depBinds, Item.binds] using hnd
  · simpa [if_neg hex, List.flatMap_map, depBinds, Item.binds] using hne

/-- A battery pack that depends on `anyhow` and on `error-bp`, which depends on `anyhow`
and `thiserror`. -/
def sharedDepManifest : Value :=
  .table [("dependencies", .table [("error-bp", .string "0.1"), ("anyhow", .string "1")])]

/-- The resolver that knows `error-bp`. -/
def errorBpResolver : BatteryPackResolver :=
  (InMemoryResolver.new.add "error-bp"
    (.table [("dependencies", .table [("anyhow", .string "1"), ("thiserror", .string "2")])])).toResolver

/-- `anyhow` comes both directly and through `error-bp`. -/
theorem two_le_count_boundNames_anyhow :
    (batteryOf sharedDepManifest).bind (·.get "root") = none ∧
      (batteryOf sharedDepManifest).bind (·.get "modules") = none ∧
      "error-bp" ∈ dependencyNames sharedDepManifest ∧ "anyhow" ∈ dependencyNames sharedDepManifest ∧
      "error-bp" ≠ "anyhow" ∧ "error-bp" ∉ getExcludeSet (batteryOf sharedDepManifest) ∧
      "anyhow" ∉ getExcludeSet (batteryOf sharedDepManifest) ∧
      "anyhow" ∈ (withResolver sharedDepManifest errorBpResolver).depBinds "error-bp" ∧
      "anyhow" ∈ (withResolver sharedDepManifest errorBpResolver).depBinds "anyhow" ∧
      2 ≤ (boundNames (withResolver sharedDepManifest errorBpResolver).facade).count "anyhow" :=
  ⟨rfl, rfl, by decide, by decide, by decide, by decide, by decide, by decide, by decide,
    @two_le_count_boundNames (withResolver sharedDepManifest errorBpResolver) rfl rfl "error-bp" "anyhow"
      (by decide) (by decide) (by decide) (by decide) (by decide) "anyhow" (by decide) (by decide)⟩

example : (withResolver sharedDepManifest errorBpResolver).generate =
    "// Auto-generated by battery-pack. Do not edit.\n\npub use anyhow;\npub use error_bp::anyhow;\npub use error_bp::thiserror;\n" := by
  rfl

end FacadeGenerator

end BatteryPack
