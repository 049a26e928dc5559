import Mathlib.Data.List.Infix

set_option autoImplicit false

/-! # Short names of battery packs

The command line tool names a battery pack by its crate name with the suffix
`-battery-pack` dropped (`short_name`), and accepts either form from the user, adding the
suffix when it is missing (`resolve_crate_name`). Both are string operations on the
suffix; `str::ends_with` and `str::strip_suffix` work on bytes, and since the suffix is
ASCII they agree with the same operations on characters.

`resolve_crate_name` adds the suffix only when it is missing, so the round trip from a
crate name through its short name is the identity exactly when the short name does not
itself end with the suffix (`resolveCrateName_shortName_iff`).
-/

namespace BatteryPack

/-- `str::ends_with`. -/
def endsWith (s p : String) : Bool := p.data.isSuffixOf s.data

/-- `str::strip_suffix`. -/
def stripSuffix (s p : String) : Option String :=
  if endsWith s p then some ⟨s.data.take (s.data.length - p.data.length)⟩ else none

/-- The suffix of a battery pack's crate name. -/
def batteryPackSuffix : String := "-battery-pack"

/-- `short_name`: `cli-battery-pack` is shown as `cli`. -/
def shortName (crateName : String) : String :=
  (stripSuffix crateName batteryPackSuffix).getD crateName

/-- `resolve_crate_name`: `cli` is the crate `cli-battery-pack`. -/
def resolveCrateName (name : String) : String :=
  if endsWith name batteryPackSuffix then name else name ++ batteryPackSuffix

theorem endsWith_iff (s p : String) : endsWith s p ↔ p.data <:+ s.data := by
  simp [endsWith]

theorem endsWith_append (t p : String) : endsWith (t ++ p) p :=
  (endsWith_iff _ _).mpr (List.suffix_append _ _)

theorem eq_append_of_endsWith {s p : String} (h : endsWith s p) : ∃ t, s = t ++ p := by
  obtain ⟨t, ht⟩ := (endsWith_iff _ _).mp h
  exact ⟨⟨t⟩, String.ext (by simp [← ht, String.data_append])⟩

/-- Stripping a suffix the string has leaves the part before it. -/
theorem stripSuffix_append (t p : String) : stripSuffix (t ++ p) p = some t := by
  simp only [stripSuffix, endsWith_append, if_true, Option.some.injEq, String.ext_iff]
  exact List.take_left' (by simp [String.data_append])

theorem shortName_append (t : String) : shortName (t ++ batteryPackSuffix) = t := by
  simp [shortName, stripSuffix_append]

/-- **Every resolved name ends with the suffix.** -/
theorem endsWith_resolveCrateName (name : String) :
    endsWith (resolveCrateName name) batteryPackSuffix := by
  unfold resolveCrateName
  split
  · assumption
  · exact endsWith_append _ _

/-- A string ends with `p ++ p` when the part before the last `p` ends with `p`. -/
theorem suffix_append_self_iff {α : Type} (t p : List α) : p ++ p <:+ t ++ p ↔ p <:+ t :=
  exists_congr fun r => by rw [← List.append_assoc, List.append_left_inj]

/-- **Short names round-trip exactly when they do not end with the suffix.** For a crate
name ending with `-battery-pack`, resolving its short name gives the crate name back
exactly when it does not end with `-battery-pack-battery-pack`. -/
theorem resolveCrateName_shortName_iff {crateName : String}
    (h : endsWith crateName batteryPackSuffix) :
    resolveCrateName (shortName crateName) = crateName
      ↔ ¬ endsWith crateName (batteryPackSuffix ++ batteryPackSuffix) := by
  obtain ⟨t, rfl⟩ := eq_append_of_endsWith h
  have hiff : endsWith (t ++ batteryPackSuffix) (batteryPackSuffix ++ batteryPackSuffix)
      ↔ endsWith t batteryPackSuffix := by
    simp only [endsWith_iff, String.data_append, suffix_append_self_iff]
  rw [shortName_append, resolveCrateName, hiff]
  split
  · rename_i hs
    simp only [hs, not_true_eq_false, iff_false]
    intro heq
    have hlen := congrArg String.length heq
    have : batteryPackSuffix.length = 13 := by decide
    simp only [String.length_append] at hlen
    omega
  · rename_i hs
    simp [hs]

/-- `cli-battery-pack` comes back from `cli`. -/
theorem resolveCrateName_shortName_cli :
    endsWith "cli-battery-pack" batteryPackSuffix ∧
      (resolveCrateName (shortName "cli-battery-pack") = "cli-battery-pack"
        ↔ ¬ endsWith "cli-battery-pack" (batteryPackSuffix ++ batteryPackSuffix)) :=
  ⟨by decide, resolveCrateName_shortName_iff (by decide)⟩

/-- `x-battery-pack-battery-pack` is shown as `x-battery-pack`, which resolves to itself. -/
theorem resolveCrateName_shortName_ne :
    endsWith "x-battery-pack-battery-pack" batteryPackSuffix ∧
      resolveCrateName (shortName "x-battery-pack-battery-pack") = "x-battery-pack" := by
  decide

end BatteryPack
