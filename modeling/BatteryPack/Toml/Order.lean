import BatteryPack.Toml.Value

set_option autoImplicit false

/-! # Key order, stable sorting and the canonical form of a value

`get_dependencies` sorts a `Vec<String>`, and the export loops sort table entries with
`sort_by_key(|(k, _)| *k)`. Both are Rust's stable sort under `Ord for String`, which
compares UTF-8 bytes; on valid UTF-8 that is the lexicographic order of the characters,
`strLe`. The result of a stable sort is fixed by the comparison alone
(`eq_of_sorted_of_filter_key`), so the model sorts with Mathlib's `List.insertionSort`,
which is stable and which the kernel can evaluate.

`Value.norm` sorts every table of a value by key. Two parsed TOML values are equal up to
the order of entries within their tables exactly when their canonical forms are equal;
`norm_table_perm` is the one-table step of that.
-/

namespace BatteryPack

/-! ## The order on keys -/

/-- `Ord for String`: lexicographic on characters, decided on the character lists so
that the kernel can evaluate it. -/
def strLe (a b : String) : Prop := a.data ≤ b.data

instance : DecidableRel strLe := fun a b => inferInstanceAs (Decidable (a.data ≤ b.data))

theorem strLe_iff {a b : String} : strLe a b ↔ a ≤ b :=
  String.le_iff_toList_le.symm

theorem strLe_total (a b : String) : strLe a b ∨ strLe b a :=
  (le_total a b).imp strLe_iff.mpr strLe_iff.mpr

theorem strLe_trans {a b c : String} (hab : strLe a b) (hbc : strLe b c) : strLe a c :=
  strLe_iff.mpr ((strLe_iff.mp hab).trans (strLe_iff.mp hbc))

theorem strLe_antisymm {a b : String} (hab : strLe a b) (hba : strLe b a) : a = b :=
  le_antisymm (strLe_iff.mp hab) (strLe_iff.mp hba)

theorem strLe_refl (a : String) : strLe a a := strLe_iff.mpr le_rfl

instance : IsTotal String strLe := ⟨strLe_total⟩
instance : IsTrans String strLe := ⟨fun _ _ _ => strLe_trans⟩
instance : IsAntisymm String strLe := ⟨fun _ _ => strLe_antisymm⟩
instance : IsRefl String strLe := ⟨strLe_refl⟩

/-- The comparison of `sort_by_key(|(k, _)| *k)`: entries compared by key alone. -/
def keyLe {α : Type} (a b : String × α) : Prop := strLe a.1 b.1

instance {α : Type} : DecidableRel (@keyLe α) :=
  fun a b => inferInstanceAs (Decidable (strLe a.1 b.1))
instance {α : Type} : IsTotal (String × α) keyLe := ⟨fun a b => total_of strLe a.1 b.1⟩
instance {α : Type} : IsTrans (String × α) keyLe := ⟨fun _ _ _ => trans_of strLe⟩

/-! ## Stable sorting by key -/

section Stable

variable {α : Type}

/-- Stability: sorting keeps the entries of each key, in their order. -/
theorem filter_key_insertionSort (l : List (String × α)) (k : String) :
    (l.insertionSort keyLe).filter (·.1 = k) = l.filter (·.1 = k) := by
  have hc : (l.filter (·.1 = k)).Pairwise keyLe :=
    List.pairwise_of_forall_mem_list fun a ha b hb => by
      simp only [List.mem_filter, decide_eq_true_eq] at ha hb
      simp only [keyLe, ha.2, hb.2]
      exact refl_of strLe k
  have hsub := (List.sublist_insertionSort hc (List.filter_sublist l)).filter (·.1 = k)
  simp only [List.filter_filter, Bool.and_self] at hsub
  exact (hsub.eq_of_length ((List.perm_insertionSort keyLe l).filter _).length_eq.symm).symm

/-- Sorting does not change which entry a key lookup finds. -/
theorem find?_key_insertionSort (l : List (String × α)) (k : String) :
    (l.insertionSort keyLe).find? (·.1 = k) = l.find? (·.1 = k) := by
  rw [← List.filter_head?, ← List.filter_head?, filter_key_insertionSort]

/-- Two key-sorted lists with the same entries for every key are equal: a stable sort
has exactly one possible result. -/
theorem eq_of_sorted_of_filter_key :
    ∀ {l₁ l₂ : List (String × α)}, l₁.Sorted keyLe → l₂.Sorted keyLe →
      (∀ k, l₁.filter (·.1 = k) = l₂.filter (·.1 = k)) → l₁ = l₂
  | [], [], _, _, _ => rfl
  | [], b :: _, _, _, h =>
    (List.cons_ne_nil _ _ ((h b.1).trans (List.filter_cons_of_pos (decide_eq_true rfl))).symm).elim
  | a :: _, [], _, _, h =>
    (List.cons_ne_nil _ _ ((h a.1).symm.trans (List.filter_cons_of_pos (decide_eq_true rfl))).symm).elim
  | a :: t₁, b :: t₂, h₁, h₂, h => by
    have mem_of : ∀ {l₁ l₂ : List (String × α)} {x : String × α},
        (∀ k, l₁.filter (·.1 = k) = l₂.filter (·.1 = k)) → x ∈ l₂ → x ∈ l₁ := by
      intro l₁ l₂ x h hx
      have : x ∈ l₂.filter (·.1 = x.1) := List.mem_filter.mpr ⟨hx, decide_eq_true rfl⟩
      exact List.mem_of_mem_filter ((h x.1).symm ▸ this)
    have hab : keyLe a b := by
      rcases List.mem_cons.mp (mem_of h (List.mem_cons_self b t₂)) with hb | hb
      · exact hb ▸ refl_of strLe a.1
      · exact List.rel_of_sorted_cons h₁ b hb
    have hba : keyLe b a := by
      rcases List.mem_cons.mp (mem_of (fun k => (h k).symm) (List.mem_cons_self a t₁))
        with ha | ha
      · exact ha ▸ refl_of strLe b.1
      · exact List.rel_of_sorted_cons h₂ a ha
    have hkey : a.1 = b.1 := antisymm_of strLe hab hba
    have hhead := h a.1
    simp only [List.filter_cons, hkey, decide_True, ite_true, List.cons.injEq] at hhead
    obtain ⟨rfl, -⟩ := hhead
    refine congrArg _ (eq_of_sorted_of_filter_key h₁.of_cons h₂.of_cons fun k => ?_)
    have := h k
    by_cases hk : a.1 = k
    · simpa only [List.filter_cons, hk, decide_True, ite_true, List.cons.injEq, true_and] using this
    · simpa only [List.filter_cons, hk, decide_False, ite_false] using this

/-- Sorting commutes with filtering. -/
theorem insertionSort_filter (l : List (String × α)) (p : String × α → Bool) :
    (l.filter p).insertionSort keyLe = (l.insertionSort keyLe).filter p := by
  refine eq_of_sorted_of_filter_key (List.sorted_insertionSort _ _)
    ((List.sorted_insertionSort _ _).filter p) fun k => ?_
  calc ((l.filter p).insertionSort keyLe).filter (·.1 = k)
      = (l.filter (·.1 = k)).filter p := by rw [filter_key_insertionSort, List.filter_comm]
    _ = ((l.insertionSort keyLe).filter p).filter (·.1 = k) := by
      rw [← filter_key_insertionSort l k, List.filter_comm]

/-- Sorting commutes with a map that keeps the keys. -/
theorem insertionSort_map_snd {β : Type} (l : List (String × α)) (f : String × α → β) :
    (l.map fun e => (e.1, f e)).insertionSort keyLe
      = (l.insertionSort keyLe).map fun e => (e.1, f e) :=
  (List.map_insertionSort keyLe keyLe (fun e : String × α => (e.1, f e)) l
    fun _ _ _ _ => Iff.rfl).symm

/-- The keys of the sorted entries are the sorted keys. -/
theorem map_fst_insertionSort (l : List (String × α)) :
    (l.insertionSort keyLe).map Prod.fst = (l.map Prod.fst).insertionSort strLe :=
  List.map_insertionSort keyLe strLe _ l fun _ _ _ _ => Iff.rfl

end Stable

/-- Sorting strings commutes with filtering. -/
theorem insertionSort_filter_str (l : List String) (p : String → Bool) :
    (l.filter p).insertionSort strLe = (l.insertionSort strLe).filter p :=
  List.eq_of_perm_of_sorted
    (((List.perm_insertionSort _ _).trans ((List.perm_insertionSort _ _).filter p).symm))
    (List.sorted_insertionSort _ _) ((List.sorted_insertionSort _ _).filter p)

/-- Sorting strings forgets their order. -/
theorem insertionSort_str_eq_of_perm {l l' : List String} (h : l.Perm l') :
    l.insertionSort strLe = l'.insertionSort strLe :=
  List.eq_of_perm_of_sorted
    ((List.perm_insertionSort _ _).trans (h.trans (List.perm_insertionSort _ _).symm))
    (List.sorted_insertionSort _ _) (List.sorted_insertionSort _ _)

/-! ## The canonical form of a value -/

mutual

/-- The canonical form of a value: every table sorted by key, recursively; arrays keep
their order. -/
def Value.norm : Value → Value
  | .array xs => .array (Value.normList xs)
  | .table kvs => .table ((Value.normEntries kvs).insertionSort keyLe)
  | v => v

/-- `Value.norm` on every element of an array. -/
def Value.normList : List Value → List Value
  | [] => []
  | v :: vs => v.norm :: Value.normList vs

/-- `Value.norm` on every value of a table. -/
def Value.normEntries : List (String × Value) → List (String × Value)
  | [] => []
  | (k, v) :: kvs => (k, v.norm) :: Value.normEntries kvs

end

/-- Two values are equal up to the order of the entries within their tables. -/
def Value.SameUpToOrder (v w : Value) : Prop := v.norm = w.norm

namespace Value

theorem normList_eq_map (xs : List Value) : normList xs = xs.map norm := by
  induction xs with
  | nil => rfl
  | cons v vs ih => simp [normList, ih]

theorem normEntries_eq_map (kvs : List (String × Value)) :
    normEntries kvs = kvs.map fun e => (e.1, e.2.norm) := by
  induction kvs with
  | nil => rfl
  | cons e es ih => simp [normEntries, ih]

@[simp] theorem norm_array (xs : List Value) : (array xs).norm = array (xs.map norm) := by
  simp [norm, normList_eq_map]

@[simp] theorem norm_table (kvs : List (String × Value)) :
    (table kvs).norm = table ((kvs.insertionSort keyLe).map fun e => (e.1, e.2.norm)) := by
  simp only [norm, normEntries_eq_map, insertionSort_map_snd]

@[simp] theorem asStr_norm (v : Value) : v.norm.asStr = v.asStr := by
  cases v <;> rfl

@[simp] theorem asArray_norm (v : Value) : v.norm.asArray = v.asArray.map (·.map norm) := by
  cases v with
  | array xs => simp only [norm_array, asArray_array, Option.map_some']
  | _ => rfl

@[simp] theorem asTable_norm (v : Value) :
    v.norm.asTable = v.asTable.map fun kvs => (kvs.insertionSort keyLe).map fun e => (e.1, e.2.norm) := by
  cases v with
  | table kvs => simp only [norm_table, asTable_table, Option.map_some']
  | _ => rfl

/-- A key lookup in the canonical form finds the canonical form of what it found before. -/
@[simp] theorem get_norm (v : Value) (key : String) : v.norm.get key = (v.get key).map norm := by
  cases v with
  | table kvs => simp [find?_key_insertionSort, List.find?_map, Function.comp_def]
  | _ => rfl

/-- For a table with distinct keys, any reordering of its entries has the same canonical
form: on parsed TOML, `SameUpToOrder` is "equal up to the order of table entries". -/
theorem norm_table_perm {kvs kvs' : List (String × Value)} (h : kvs.Perm kvs')
    (hkeys : (kvs.map Prod.fst).Nodup) : (table kvs).norm = (table kvs').norm := by
  have : IsAntisymm (String × Value) (fun a b => a.1 < b.1) :=
    ⟨fun _ _ hab hba => absurd hab (not_lt.mpr hba.le)⟩
  have strict : ∀ {l : List (String × Value)}, (l.map Prod.fst).Nodup →
      (l.insertionSort keyLe).Sorted (fun a b => a.1 < b.1) := fun {l} hl =>
    ((List.sorted_insertionSort keyLe l).and (List.pairwise_map.mp
      (((List.perm_insertionSort keyLe l).map Prod.fst).nodup_iff.mpr hl))).imp
      fun ⟨hle, hne⟩ => lt_of_le_of_ne (strLe_iff.mp hle) hne
  simp only [norm_table, List.eq_of_perm_of_sorted ((List.perm_insertionSort keyLe kvs).trans
    (h.trans (List.perm_insertionSort keyLe kvs').symm)) (strict hkeys)
    (strict ((h.map Prod.fst).nodup_iff.mp hkeys))]

end Value

end BatteryPack
