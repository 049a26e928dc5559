import BatteryPack.Toml.Order

set_option autoImplicit false

/-! # Deserializing TOML into maps and structs

The command line tool reads a manifest with serde: `toml::from_str` into structs derived
with `Deserialize`, whose tables become `BTreeMap<String, V>`. This module models what that
derived code does with a parsed value, as functions `Value → Option β` whose `none` is a
deserialization error:

* a struct is read from a table, each field by its name, ignoring the keys it does not
  know, or from an array, each field by its position (`Value.field`);
* an `Option<T>` field that a table lacks is `None`, and a `#[serde(default)]` field that
  is absent is its default; an array must hold every other field; a field that is present
  must deserialize as its type;
* a `BTreeMap<String, V>` is filled by inserting the entries of the table one after
  another, each value deserialized first.

`StrMap` is a `BTreeMap<String, V>` as its list of entries with the key order as a field:
every key is smaller than the keys after it, so iteration, `keys` and `len` are those of
the list, and an insertion keeps the order (`pairwise_insertEntry`).
-/

namespace BatteryPack

/-! ## The strict order on keys -/

/-- `<` of `Ord for String`, on the character lists so that the kernel can evaluate it. -/
def strLt (a b : String) : Prop := a.data < b.data

instance : DecidableRel strLt := fun a b => inferInstanceAs (Decidable (a.data < b.data))

theorem strLt_iff {a b : String} : strLt a b ↔ a < b := String.lt_iff_toList_lt.symm

theorem strLt_irrefl (a : String) : ¬ strLt a a := fun h => lt_irrefl a (strLt_iff.mp h)

theorem strLt_trans {a b c : String} (hab : strLt a b) (hbc : strLt b c) : strLt a c :=
  strLt_iff.mpr ((strLt_iff.mp hab).trans (strLt_iff.mp hbc))

theorem strLt_of_not_lt {a b : String} (h : ¬ strLt a b) (hne : a ≠ b) : strLt b a :=
  strLt_iff.mpr (lt_of_le_of_ne (not_lt.mp (mt strLt_iff.mpr h)) (Ne.symm hne))

/-! ## `BTreeMap<String, V>` -/

/-- `BTreeMap<String, V>`: its entries in strictly increasing key order. -/
structure StrMap (α : Type) where
  entries : List (String × α)
  sorted : entries.Pairwise fun a b => strLt a.1 b.1

namespace StrMap

variable {α : Type}

/-- `BTreeMap::new`. -/
def empty : StrMap α := ⟨[], .nil⟩

/-- `BTreeMap::insert` on the entries: the new entry goes before the first larger key, and
replaces an entry of the same key. -/
def insertEntry (k : String) (v : α) : List (String × α) → List (String × α)
  | [] => [(k, v)]
  | e :: es =>
    if strLt k e.1 then (k, v) :: e :: es
    else if k = e.1 then (k, v) :: es
    else e :: insertEntry k v es

theorem mem_insertEntry {k : String} {v : α} {e : String × α} :
    ∀ {es : List (String × α)}, e ∈ insertEntry k v es → e = (k, v) ∨ e ∈ es
  | [], h => .inl (List.mem_singleton.mp h)
  | e' :: es, h => by
    unfold insertEntry at h
    split at h
    · exact List.mem_cons.mp h
    · split at h
      · rcases List.mem_cons.mp h with rfl | h
        · exact .inl rfl
        · exact .inr (List.mem_cons_of_mem _ h)
      · rcases List.mem_cons.mp h with rfl | h
        · exact .inr (List.mem_cons_self _ _)
        · exact (mem_insertEntry h).imp_right (List.mem_cons_of_mem _)

/-- An insertion keeps the entries in strictly increasing key order. -/
theorem pairwise_insertEntry (k : String) (v : α) :
    ∀ {es : List (String × α)}, es.Pairwise (fun a b => strLt a.1 b.1) →
      (insertEntry k v es).Pairwise fun a b => strLt a.1 b.1
  | [], _ => List.pairwise_singleton _ _
  | e :: es, h => by
    rw [List.pairwise_cons] at h
    unfold insertEntry
    split
    · rename_i hlt
      refine List.Pairwise.cons (fun a ha => ?_) (List.Pairwise.cons h.1 h.2)
      rcases List.mem_cons.mp ha with rfl | ha
      · exact hlt
      · exact strLt_trans hlt (h.1 a ha)
    · split
      · rename_i heq
        exact List.Pairwise.cons (fun a ha => heq ▸ h.1 a ha) h.2
      · rename_i hlt hne
        refine List.Pairwise.cons (fun a ha => ?_) (pairwise_insertEntry k v h.2)
        rcases mem_insertEntry ha with rfl | ha
        · exact strLt_of_not_lt hlt hne
        · exact h.1 a ha

/-- `BTreeMap::insert`. -/
def insert (m : StrMap α) (k : String) (v : α) : StrMap α :=
  ⟨insertEntry k v m.entries, pairwise_insertEntry k v m.sorted⟩

/-- `BTreeMap::get`. -/
def get (m : StrMap α) (k : String) : Option α :=
  (m.entries.find? (·.1 = k)).map (·.2)

/-- `BTreeMap::keys`, in increasing order. -/
def keys (m : StrMap α) : List String := m.entries.map (·.1)

/-- `BTreeMap::len`. -/
def len (m : StrMap α) : Nat := m.entries.length

@[simp] theorem get_empty (k : String) : (empty : StrMap α).get k = none := rfl

theorem find?_insertEntry (k k' : String) (v : α) :
    ∀ es : List (String × α), ((insertEntry k v es).find? (·.1 = k')).map (·.2)
      = if k = k' then some v else (es.find? (·.1 = k')).map (·.2)
  | [] => by by_cases h : k = k' <;> simp [insertEntry, h]
  | e :: es => by
    unfold insertEntry
    split
    · by_cases h : k = k' <;> simp [h]
    · split
      · rename_i he
        subst he
        by_cases h : e.1 = k' <;> simp [h]
      · rename_i hne
        by_cases he : e.1 = k'
        · have hk : k ≠ k' := fun h => hne (h.trans he.symm)
          simp [he, hk]
        · simp [he, find?_insertEntry k k' v es]

/-- What `get` finds after an insertion. -/
@[simp] theorem get_insert (m : StrMap α) (k k' : String) (v : α) :
    (m.insert k v).get k' = if k = k' then some v else m.get k' :=
  find?_insertEntry k k' v m.entries

/-- The keys, in strictly increasing order. -/
theorem keys_pairwise (m : StrMap α) : m.keys.Pairwise strLt :=
  List.pairwise_map.mpr m.sorted

theorem nodup_keys (m : StrMap α) : m.keys.Nodup :=
  m.keys_pairwise.imp fun {a b} (h : strLt a b) (he : a = b) => strLt_irrefl b (he ▸ h)

theorem isSome_get_of_mem_keys {m : StrMap α} {k : String} (h : k ∈ m.keys) : (m.get k).isSome := by
  obtain ⟨e, he, rfl⟩ := List.mem_map.mp h
  simp only [get, Option.isSome_map']
  exact List.find?_isSome.mpr ⟨e, he, decide_eq_true rfl⟩

theorem mem_keys_of_isSome {m : StrMap α} {k : String} (h : (m.get k).isSome) : k ∈ m.keys := by
  obtain ⟨e, he⟩ := Option.isSome_iff_exists.mp (Option.isSome_map'.symm.trans h)
  have hk : e.1 = k := of_decide_eq_true (List.find?_some he :)
  exact hk ▸ List.mem_map_of_mem _ (List.mem_of_find?_eq_some he)

/-- `get` finds exactly the entries of the map: its keys are distinct. -/
theorem get_eq_some_iff {m : StrMap α} {k : String} {v : α} : m.get k = some v ↔ (k, v) ∈ m.entries := by
  constructor
  · intro h
    obtain ⟨e, he, rfl⟩ := Option.map_eq_some'.mp h
    have hk : e.1 = k := of_decide_eq_true (List.find?_some he :)
    exact hk ▸ List.mem_of_find?_eq_some he
  · intro h
    obtain ⟨e, he⟩ := Option.isSome_iff_exists.mp
      (List.find?_isSome.mpr ⟨_, h, decide_eq_true rfl⟩ : (m.entries.find? (·.1 = k)).isSome)
    have hk : e.1 = k := of_decide_eq_true (List.find?_some he :)
    have hev : e = (k, v) :=
      List.inj_on_of_nodup_map m.nodup_keys (List.mem_of_find?_eq_some he) h hk
    simp only [get, he, hev, Option.map_some']

end StrMap

/-! ## Serde's derived `Deserialize` -/

section Deserialize

variable {β : Type}

/-- `String`: a TOML string. -/
def deString : Value → Option String
  | .string s => some s
  | _ => none

theorem deString_eq_some {v : Value} {s : String} (h : deString v = some s) : v = .string s := by
  cases v <;> cases h
  rfl

/-- A field of type `Option<T>`: absent is `None`, present must deserialize. -/
def deOption (de : Value → Option β) : Option Value → Option (Option β)
  | none => some none
  | some v => (de v).map some

/-- A field with `#[serde(default)]`: absent is the default, present must deserialize. -/
def deDefault (default : β) (de : Value → Option β) : Option Value → Option β
  | none => some default
  | some v => de v

/-- `BTreeMap<String, V>`: a table, each value deserialized and inserted in turn; the
first value that does not deserialize fails the whole map. -/
def deMap (de : Value → Option β) : Value → Option (StrMap β)
  | .table kvs => kvs.foldlM (fun m e => (de e.2).map (m.insert e.1)) StrMap.empty
  | _ => none

/-! ### Structs

serde's derived visitor reads a struct from a table, each field by its name
(`visit_map`, which skips keys it does not know), or from an array, each field by its
position (`visit_seq`, which asks for as many elements as the struct has fields and leaves
the rest). A field missing from an array is an error (`invalid_length`) unless it has
`#[serde(default)]`; a field of type `Option<T>` missing from a table is `None`. -/

/-- A value the derived visitor reads a struct from: a table or an array. -/
def Value.isStruct : Value → Bool
  | .table _ | .array _ => true
  | _ => false

/-- A field of a struct: from a table by its name, from an array by its position. -/
def Value.field (v : Value) (name : String) (index : Nat) : Option Value :=
  match v with
  | .array xs => xs[index]?
  | _ => v.get name

/-- A field of type `Option<T>` without `#[serde(default)]`: `None` when a table lacks
it, an error when an array does. -/
def deOptionField (de : Value → Option β) (v : Value) (name : String) (index : Nat) :
    Option (Option β) :=
  match v with
  | .array xs => xs[index]?.bind fun w => (de w).map some
  | _ => deOption de (v.get name)

theorem deOption_eq_some {de : Value → Option β} {v : Option Value} {x : β}
    (h : deOption de v = some (some x)) : ∃ w, v = some w ∧ de w = some x := by
  cases v with
  | none => cases h
  | some w =>
    obtain ⟨y, hy, hyx⟩ := Option.map_eq_some'.mp h
    exact ⟨w, rfl, (Option.some.inj hyx) ▸ hy⟩

/-- A present `Option<T>` field came from the field of that name or position. -/
theorem deOptionField_eq_some {de : Value → Option β} {v : Value} {name : String} {index : Nat}
    {x : β} (h : deOptionField de v name index = some (some x)) :
    ∃ w, v.field name index = some w ∧ de w = some x := by
  cases v with
  | array xs =>
    obtain ⟨w, hw, hx⟩ := Option.bind_eq_some.mp h
    obtain ⟨y, hy, hyx⟩ := Option.map_eq_some'.mp hx
    exact ⟨w, hw, (Option.some.inj hyx) ▸ hy⟩
  | _ => exact deOption_eq_some h

/-- Every entry of a deserialized map comes from an entry of the table, whose value
deserializes to it. -/
theorem foldlM_insert_get {de : Value → Option β} {k : String} {x : β} :
    ∀ {kvs : List (String × Value)} {m₀ m : StrMap β},
      kvs.foldlM (fun m e => (de e.2).map (m.insert e.1)) m₀ = some m → m.get k = some x →
        m₀.get k = some x ∨ ∃ v, (k, v) ∈ kvs ∧ de v = some x
  | [], m₀, m, h, hx => .inl (Option.some.inj h ▸ hx)
  | e :: kvs, m₀, m, h, hx => by
    rw [List.foldlM_cons] at h
    obtain ⟨m₁, hm₁, h⟩ := Option.bind_eq_some.mp h
    obtain ⟨y, hy, rfl⟩ := Option.map_eq_some'.mp hm₁
    rcases foldlM_insert_get h hx with hx | ⟨v, hv, hdv⟩
    · rw [StrMap.get_insert] at hx
      by_cases hk : e.1 = k
      · subst hk
        rw [if_pos rfl] at hx
        exact .inr ⟨e.2, List.mem_cons_self _ _, Option.some.inj hx ▸ hy⟩
      · rw [if_neg hk] at hx
        exact .inl hx
    · exact .inr ⟨v, List.mem_cons_of_mem _ hv, hdv⟩

/-- Every key of the table is a key of the deserialized map. -/
theorem foldlM_insert_isSome {de : Value → Option β} {k : String} :
    ∀ {kvs : List (String × Value)} {m₀ m : StrMap β},
      kvs.foldlM (fun m e => (de e.2).map (m.insert e.1)) m₀ = some m →
        (k ∈ kvs.map Prod.fst ∨ (m₀.get k).isSome) → (m.get k).isSome
  | [], m₀, m, h, hk => by
    cases Option.some.inj h
    simpa using hk
  | e :: kvs, m₀, m, h, hk => by
    rw [List.foldlM_cons] at h
    obtain ⟨m₁, hm₁, h⟩ := Option.bind_eq_some.mp h
    obtain ⟨y, -, rfl⟩ := Option.map_eq_some'.mp hm₁
    refine foldlM_insert_isSome h ?_
    by_cases he : e.1 = k
    · simp [he]
    · simp only [List.map_cons, List.mem_cons, StrMap.get_insert, he, if_false] at hk ⊢
      exact hk.imp_left (·.resolve_left (Ne.symm he))

theorem deMap_isSome {de : Value → Option β} {kvs : List (String × Value)} {m : StrMap β}
    {k : String} {v : Value} (h : deMap de (.table kvs) = some m) (hkv : (k, v) ∈ kvs) :
    (m.get k).isSome :=
  foldlM_insert_isSome h (.inl (List.mem_map_of_mem Prod.fst hkv))

/-- The keys of a deserialized map are the keys of the table. -/
theorem deMap_mem_keys {de : Value → Option β} {kvs : List (String × Value)} {m : StrMap β}
    (h : deMap de (.table kvs) = some m) (k : String) : k ∈ m.keys ↔ k ∈ kvs.map Prod.fst := by
  constructor
  · intro hk
    obtain ⟨x, hx⟩ := Option.isSome_iff_exists.mp (StrMap.isSome_get_of_mem_keys hk)
    rcases foldlM_insert_get h hx with hx | ⟨v, hv, -⟩
    · cases hx
    · exact List.mem_map_of_mem Prod.fst hv
  · intro hk
    exact StrMap.mem_keys_of_isSome (foldlM_insert_isSome h (.inl hk))

theorem deMap_get {de : Value → Option β} {t : Value} {m : StrMap β} {k : String} {x : β}
    (h : deMap de t = some m) (hx : m.get k = some x) :
    ∃ kvs v, t = .table kvs ∧ (k, v) ∈ kvs ∧ de v = some x := by
  cases t with
  | table kvs =>
    rcases foldlM_insert_get h hx with hx | ⟨v, hv, hdv⟩
    · cases hx
    · exact ⟨kvs, v, rfl, hv, hdv⟩
  | _ => cases h

end Deserialize

end BatteryPack
