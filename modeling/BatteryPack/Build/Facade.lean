import BatteryPack.Toml.Order

set_option autoImplicit false

/-! # The facade generator

`FacadeGenerator::generate` (`battery-pack/src/build.rs`) reads the package manifest and
writes `facade.rs`, the file a battery pack includes as its crate root. The model keeps
the source's functions one for one. Each returns the statements it pushes onto the output
rather than their text: `Stmt.render` and `Item.render` spell every `format!` of the
source and are the only place statements become text, so `generate` is exactly the
string the build script writes.

The generator reads `package.metadata.battery` (`root`, `modules`, `exclude`) and the
dependency table, and asks a `BatteryPackResolver` whether a dependency is itself a
battery pack. If it is, the dependency is flattened: its own non-excluded dependencies
are re-exported through it, one level deep.
-/

namespace BatteryPack

/-! ## Generated statements -/

/-- One `pub use` line of the facade, with its indentation. -/
inductive Stmt where
  /-- `{indent}pub use {ident};` -/
  | crate (indent ident : String)
  /-- `{indent}pub use {ident}::*;` -/
  | glob (indent ident : String)
  /-- `{indent}pub use {ident}::{i₁, …, iₖ};` -/
  | items (indent ident : String) (items : List String)
  /-- `{indent}pub use {bp}::{dep};`: a dependency of a flattened battery pack. -/
  | path (indent bp dep : String)
  deriving DecidableEq, Repr

/-- A top-level item of the facade: a `pub use` line or a `pub mod` block. -/
inductive Item where
  | use (s : Stmt)
  | mod (ident : String) (body : List Stmt)
  deriving DecidableEq, Repr

/-- The text of a statement, as the source formats it. -/
def Stmt.render : Stmt → String
  | .crate indent ident => indent ++ "pub use " ++ ident ++ ";\n"
  | .glob indent ident => indent ++ "pub use " ++ ident ++ "::*;\n"
  | .items indent ident names =>
    indent ++ "pub use " ++ ident ++ "::\x7b" ++ ", ".intercalate names ++ "\x7d;\n"
  | .path indent bp dep => indent ++ "pub use " ++ bp ++ "::" ++ dep ++ ";\n"

/-- The text of an item; a module is opened on a line of its own after a blank line. -/
def Item.render : Item → String
  | .use s => s.render
  | .mod ident body =>
    "\npub mod " ++ ident ++ " \x7b\n" ++ String.join (body.map Stmt.render) ++ "\x7d\n"

/-- The line a statement is written on, without its line feed. -/
def Stmt.line : Stmt → String
  | .crate indent ident => indent ++ "pub use " ++ ident ++ ";"
  | .glob indent ident => indent ++ "pub use " ++ ident ++ "::*;"
  | .items indent ident names =>
    indent ++ "pub use " ++ ident ++ "::\x7b" ++ ", ".intercalate names ++ "\x7d;"
  | .path indent bp dep => indent ++ "pub use " ++ bp ++ "::" ++ dep ++ ";"

/-- The lines an item is written on: a statement's line; for a module a blank line, the
`pub mod` line, the lines of its body and the closing brace. -/
def Item.lines : Item → List String
  | .use s => [s.line]
  | .mod ident body => "" :: ("pub mod " ++ ident ++ " \x7b") :: body.map Stmt.line ++ ["\x7d"]

theorem Stmt.render_eq_line (s : Stmt) : s.render = s.line ++ "\n" := by
  cases s <;> simp only [render, line, String.append_assoc] <;> rfl

theorem Item.render_eq_lines (i : Item) : i.render = String.join (i.lines.map (· ++ "\n")) := by
  refine String.ext ?_
  cases i <;> simp [render, lines, Stmt.render_eq_line, String.data_append, Function.comp_def]

/-! ## Resolvers -/

/-- `BatteryPackResolver`: if the crate is a battery pack, its parsed manifest. -/
structure BatteryPackResolver where
  resolve : String → Option Value

/-- `InMemoryResolver`: manifests supplied up front, keyed by crate name. -/
structure InMemoryResolver where
  manifests : List (String × Value)

namespace InMemoryResolver

/-- `InMemoryResolver::new`. -/
def new : InMemoryResolver := ⟨[]⟩

/-- `InMemoryResolver::add`, with the manifest already parsed: `BTreeMap::insert`
replaces an earlier manifest of the same crate. -/
def add (self : InMemoryResolver) (crateName : String) (manifest : Value) : InMemoryResolver :=
  ⟨(crateName, manifest) :: self.manifests.filter (·.1 ≠ crateName)⟩

/-- `BatteryPackResolver for InMemoryResolver`. -/
def toResolver (self : InMemoryResolver) : BatteryPackResolver :=
  ⟨fun crateName => (self.manifests.find? (·.1 = crateName)).map (·.2)⟩

end InMemoryResolver

/-! ## Reading the manifest -/

/-- `package.metadata.battery`, as `generate` reads it for the package and
`generate_battery_pack_reexport` for a battery pack dependency. -/
def batteryOf (manifest : Value) : Option Value :=
  ((manifest.get "package").bind (·.get "metadata")).bind (·.get "battery")

/-- `get_exclude_set`: the strings of `battery.exclude`, and always `battery-pack`. The
flattening loop builds the same set from a battery pack's own metadata. -/
def getExcludeSet (battery : Option Value) : List String :=
  (((battery.bind (·.get "exclude")).bind Value.asArray).map (·.filterMap Value.asStr)).getD []
    ++ ["battery-pack"]

/-- The keys of the `dependencies` table, in table order; none if it is not a table. -/
def dependencyKeys (manifest : Value) : List String :=
  (((manifest.get "dependencies").bind Value.asTable).map (·.map Prod.fst)).getD []

/-- The dependency keys, sorted (`get_dependencies`; `generate_battery_pack_reexport`
computes the same from a battery pack's manifest). -/
def dependencyNames (manifest : Value) : List String :=
  (dependencyKeys manifest).insertionSort strLe

/-- `crate_name.replace('-', "_")`. -/
def replaceHyphens (name : String) : String :=
  ⟨name.data.map fun c => if c = '-' then '_' else c⟩

/-- The words the pattern of `is_rust_keyword` lists. -/
def rustKeywordPatterns : List String :=
  ["as", "async", "await", "break", "const", "continue", "crate", "dyn", "else", "enum",
    "extern", "false", "fn", "for", "if", "impl", "in", "let", "loop", "match", "mod", "move",
    "mut", "pub", "ref", "return", "self", "Self", "static", "struct", "super", "trait",
    "true", "type", "unsafe", "use", "where", "while"]

/-- `is_rust_keyword`. -/
def isRustKeyword (s : String) : Bool := s ∈ rustKeywordPatterns

/-- `mod_ident` in `generate_module_exports`. -/
def modIdent (moduleName : String) : String :=
  if isRustKeyword moduleName then "r#" ++ moduleName else moduleName

/-! ## Generation -/

/-- Facade code generator: the manifest and the resolver. -/
structure FacadeGenerator where
  manifest : Value
  resolver : BatteryPackResolver

namespace FacadeGenerator

/-- `FacadeGenerator::with_resolver`. -/
def withResolver (manifest : Value) (resolver : BatteryPackResolver) : FacadeGenerator :=
  ⟨manifest, resolver⟩

/-- `get_dependencies`. -/
def getDependencies (self : FacadeGenerator) : List String := dependencyNames self.manifest

/-- `generate_battery_pack_reexport`: each dependency of the battery pack that its own
exclude set does not name, re-exported through the battery pack. -/
def generateBatteryPackReexport (bpIdent : String) (bpManifest : Value) (indent : String) :
    List Stmt :=
  let bpDeps := dependencyNames bpManifest
  let bpExclude := getExcludeSet (batteryOf bpManifest)
  bpDeps.flatMap fun dep =>
    if dep ∈ bpExclude then [] else [.path indent bpIdent (replaceHyphens dep)]

/-- `generate_dep_export`: a battery pack is flattened, any other crate re-exported. -/
def generateDepExport (self : FacadeGenerator) (crateName indent : String) : List Stmt :=
  match self.resolver.resolve crateName with
  | some bpManifest => generateBatteryPackReexport (replaceHyphens crateName) bpManifest indent
  | none => [.crate indent (replaceHyphens crateName)]

/-- The loop over an array export spec (`root = ["tokio"]`, `modules.http = ["reqwest"]`):
each string that is not excluded goes through `generate_dep_export`, other entries are
skipped. -/
def arrayExports (self : FacadeGenerator) (arr : List Value) (exclude : List String)
    (indent : String) : List Stmt :=
  arr.flatMap fun item =>
    match item.asStr with
    | some crateName => if crateName ∈ exclude then [] else self.generateDepExport crateName indent
    | none => []

/-- One entry of a table export spec: `"*"` is a glob re-export, an array the listed
items (if it holds a string), anything else nothing. -/
def tableEntryExport (indent crateName : String) (config : Value) : List Stmt :=
  match config with
  | .string s => if s = "*" then [.glob indent (replaceHyphens crateName)] else []
  | .array items =>
    let itemStrs := items.filterMap Value.asStr
    if itemStrs.isEmpty then [] else [.items indent (replaceHyphens crateName) itemStrs]
  | _ => []

/-- The loop over a table export spec, in key order, skipping excluded keys. -/
def tableExports (table : List (String × Value)) (exclude : List String) (indent : String) :
    List Stmt :=
  (table.insertionSort keyLe).flatMap fun e =>
    if e.1 ∈ exclude then [] else tableEntryExport indent e.1 e.2

/-- An export spec at an indentation: the shared body of `generate_root_exports` and of
each module of `generate_module_exports`. -/
def exportSpec (self : FacadeGenerator) (spec : Value) (exclude : List String)
    (indent : String) : List Stmt :=
  match spec with
  | .array arr => self.arrayExports arr exclude indent
  | .table table => tableExports table exclude indent
  | _ => []

/-- `generate_root_exports`. -/
def generateRootExports (self : FacadeGenerator) (root : Value) (exclude : List String) :
    List Stmt :=
  self.exportSpec root exclude ""

/-- `generate_module_exports`: one `pub mod` per key of the modules table, in key order. -/
def generateModuleExports (self : FacadeGenerator) (modules : Value) (exclude : List String) :
    List Item :=
  match modules.asTable with
  | some modulesTable =>
    (modulesTable.insertionSort keyLe).map fun e =>
      .mod (modIdent e.1) (self.exportSpec e.2 exclude "    ")
  | none => []

/-- The items `generate` pushes after the banner: the root exports, the modules, and when
neither `root` nor `modules` is configured, every non-excluded dependency. -/
def facade (self : FacadeGenerator) : List Item :=
  let battery := batteryOf self.manifest
  let exclude := getExcludeSet battery
  let deps := self.getDependencies
  let rootConfig := battery.bind (·.get "root")
  let modulesConfig := battery.bind (·.get "modules")
  ((rootConfig.map fun root => (self.generateRootExports root exclude).map Item.use).getD [])
    ++ ((modulesConfig.map fun modules => self.generateModuleExports modules exclude).getD [])
    ++ (if rootConfig.isSome || modulesConfig.isSome then [] else
      deps.flatMap fun dep =>
        if dep ∈ exclude then [] else (self.generateDepExport dep "").map Item.use)

/-- `FacadeGenerator::generate`. -/
def generate (self : FacadeGenerator) : String :=
  "// Auto-generated by battery-pack. Do not edit.\n\n" ++ String.join (self.facade.map Item.render)

/-- The lines of `generate`'s text: the banner, a blank line, then the lines of the items. -/
def outputLines (self : FacadeGenerator) : List String :=
  "// Auto-generated by battery-pack. Do not edit." :: "" :: self.facade.flatMap Item.lines

/-- `generate` writes each of its lines followed by a line feed. -/
theorem generate_eq_outputLines (self : FacadeGenerator) :
    self.generate = String.join (self.outputLines.map (· ++ "\n")) := by
  refine String.ext ?_
  simp [generate, outputLines, Item.render_eq_lines, String.data_append, List.flatMap_def,
    List.flatten_flatten, Function.comp_def]

/-! Of the methods, only `generate` and `get_dependencies` read the manifest; the others
see the generator through its resolver alone. -/

theorem generateDepExport_mk (M M' : Value) (R : BatteryPackResolver) :
    (⟨M, R⟩ : FacadeGenerator).generateDepExport = (⟨M', R⟩ : FacadeGenerator).generateDepExport :=
  rfl

theorem generateRootExports_mk (M M' : Value) (R : BatteryPackResolver) :
    (⟨M, R⟩ : FacadeGenerator).generateRootExports
      = (⟨M', R⟩ : FacadeGenerator).generateRootExports :=
  rfl

theorem generateModuleExports_mk (M M' : Value) (R : BatteryPackResolver) :
    (⟨M, R⟩ : FacadeGenerator).generateModuleExports
      = (⟨M', R⟩ : FacadeGenerator).generateModuleExports :=
  rfl

end FacadeGenerator

end BatteryPack
