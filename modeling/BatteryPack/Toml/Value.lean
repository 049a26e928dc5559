import Mathlib.Data.List.Sort
import Mathlib.Data.String.Basic

set_option autoImplicit false

/-! # TOML values

The build script reads `Cargo.toml` as an untyped `toml::Value` and looks things up by
path, treating a missing key or a value of the wrong shape as "no configuration". This
file models that value and the four accessors the script uses: `get` with a string key,
`as_str`, `as_array` and `as_table`.

A table is the list of its entries in iteration order. For the default `BTreeMap`-backed
`toml::map::Map` that order is sorted by key; with the `preserve_order` feature (which
Cargo feature unification can switch on) it is insertion order. Nothing below assumes
either order, so the generator is modelled for both. A parsed table has distinct keys;
`get` returns the first entry with the key, which is the only one in a parsed table.
-/

namespace BatteryPack

/-- `toml::Value`. The scalars other than strings are never inspected by the generator,
which only asks whether a value is a string, an array or a table. -/
inductive Value where
  | string (s : String)
  | integer (i : Int)
  | float (f : Float)
  | boolean (b : Bool)
  | datetime (text : String)
  | array (xs : List Value)
  | table (kvs : List (String × Value))

namespace Value

/-- `Value::get` with a `&str` index: the value of the key in a table, `None` for any
other value. -/
def get : Value → String → Option Value
  | table kvs, key => (kvs.find? (·.1 = key)).map (·.2)
  | _, _ => none

/-- `Value::as_str`. -/
def asStr : Value → Option String
  | string s => some s
  | _ => none

/-- `Value::as_array`. -/
def asArray : Value → Option (List Value)
  | array xs => some xs
  | _ => none

/-- `Value::as_table`. -/
def asTable : Value → Option (List (String × Value))
  | table kvs => some kvs
  | _ => none

@[simp] theorem get_table (kvs : List (String × Value)) (key : String) :
    (table kvs).get key = (kvs.find? (·.1 = key)).map (·.2) := rfl

@[simp] theorem asStr_string (s : String) : (string s).asStr = some s := rfl
@[simp] theorem asArray_array (xs : List Value) : (array xs).asArray = some xs := rfl
@[simp] theorem asTable_table (kvs : List (String × Value)) : (table kvs).asTable = some kvs :=
  rfl

end Value

/-! ## Fallible code

The model writes the program's fallible functions in `Except`; a run of several steps
succeeds exactly when each step does. -/

theorem mapError_eq_ok {ε ε' α : Type} {f : ε → ε'} {x : Except ε α} {a : α} :
    x.mapError f = .ok a ↔ x = .ok a := by
  cases x <;> simp [Except.mapError]

theorem bind_eq_ok {ε α β : Type} {x : Except ε α} {f : α → Except ε β} {b : β} :
    x >>= f = .ok b ↔ ∃ a, x = .ok a ∧ f a = .ok b := by
  cases x <;> simp [bind, Except.bind]

end BatteryPack
