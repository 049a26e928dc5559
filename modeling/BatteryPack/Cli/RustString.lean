import Mathlib.Data.String.Basic

set_option autoImplicit false

/-! # Byte offsets into strings

A Rust `String` holds UTF-8 and is indexed by byte offsets. `str::len` is the number of
bytes, and `String::insert` and `String::remove` panic unless the offset is a character
boundary (`remove` also at the end of the string). The model works on the characters of
a string, each `Char.utf8Size` bytes long, and returns `none` where Rust panics.

`insertAt_isSome` and `removeAt_isSome` say when the operations succeed; `len_insert` and
`len_remove` what they do to the length. For a string of ASCII characters every offset
up to the length is a boundary (`isCharBoundary_of_ascii`).
-/

namespace BatteryPack

namespace RustString

/-- `str::len`: the length in bytes. -/
def len (s : String) : Nat := s.utf8ByteSize

/-- `str::is_char_boundary`, over the characters of a string. -/
def isCharBoundary : List Char → Nat → Bool
  | [], i => i = 0
  | c :: cs, i => i = 0 || (c.utf8Size ≤ i && isCharBoundary cs (i - c.utf8Size))

/-- The characters after inserting `ch` at the byte offset `idx`, if it is a boundary. -/
def insertAt : List Char → Nat → Char → Option (List Char)
  | cs, 0, ch => some (ch :: cs)
  | [], _ + 1, _ => none
  | c :: cs, i + 1, ch =>
    if c.utf8Size ≤ i + 1 then (insertAt cs (i + 1 - c.utf8Size) ch).map (c :: ·) else none

/-- The characters after removing the one that starts at the byte offset `idx`, if one
does. -/
def removeAt : List Char → Nat → Option (List Char)
  | [], _ => none
  | _ :: cs, 0 => some cs
  | c :: cs, i + 1 =>
    if c.utf8Size ≤ i + 1 then (removeAt cs (i + 1 - c.utf8Size)).map (c :: ·) else none

/-- `String::insert`: `none` where it panics. -/
def insert (s : String) (idx : Nat) (ch : Char) : Option String :=
  (insertAt s.data idx ch).map String.mk

/-- `String::remove` (the string it leaves): `none` where it panics. -/
def remove (s : String) (idx : Nat) : Option String :=
  (removeAt s.data idx).map String.mk

/-- A string of ASCII characters. -/
def IsAscii (s : String) : Prop := ∀ c ∈ s.data, c.toNat < 128

instance (s : String) : Decidable (IsAscii s) := inferInstanceAs (Decidable (∀ _ ∈ _, _))

theorem len_eq (s : String) : len s = String.utf8Len s.data := rfl

/-- A character is at least one byte. -/
theorem length_le_len (s : String) : s.length ≤ len s := by
  obtain ⟨cs⟩ := s
  rw [len_eq]
  induction cs with
  | nil => exact Nat.le_refl 0
  | cons c cs ih =>
    have := c.utf8Size_pos
    simp only [String.length, List.length_cons, String.utf8Len_cons] at ih ⊢
    omega

/-! ## When the operations succeed -/

theorem isCharBoundary_le : ∀ (cs : List Char) (i : Nat),
    isCharBoundary cs i → i ≤ String.utf8Len cs
  | [], i, h => by simp_all [isCharBoundary]
  | c :: cs, i, h => by
    simp only [isCharBoundary, Bool.or_eq_true, decide_eq_true_eq, Bool.and_eq_true] at h
    rcases h with rfl | ⟨hc, h⟩
    · exact Nat.zero_le _
    · have := isCharBoundary_le cs _ h
      simp only [String.utf8Len_cons]
      omega

theorem insertAt_isSome : ∀ (cs : List Char) (i : Nat) (ch : Char),
    (insertAt cs i ch).isSome = isCharBoundary cs i
  | cs, 0, ch => by cases cs <;> rfl
  | [], _ + 1, _ => rfl
  | c :: cs, i + 1, ch => by
    simp only [insertAt, isCharBoundary, Nat.add_one_ne_zero, decide_False, Bool.false_or]
    by_cases hc : c.utf8Size ≤ i + 1
    · simp only [hc, if_true, Option.isSome_map', insertAt_isSome cs, decide_True, Bool.true_and]
    · simp only [hc, if_false, Option.isSome_none, decide_False, Bool.false_and]

theorem removeAt_isSome : ∀ (cs : List Char) (i : Nat),
    (removeAt cs i).isSome = (isCharBoundary cs i && decide (i < String.utf8Len cs))
  | [], i => by simp [removeAt, isCharBoundary]
  | c :: cs, 0 => by simp [removeAt, isCharBoundary, c.utf8Size_pos]
  | c :: cs, i + 1 => by
    simp only [removeAt, isCharBoundary, Nat.add_one_ne_zero, decide_False, Bool.false_or,
      String.utf8Len_cons]
    by_cases hc : c.utf8Size ≤ i + 1
    · simp only [hc, if_true, Option.isSome_map', removeAt_isSome cs, decide_True, Bool.true_and]
      congr 1
      exact decide_eq_decide.mpr (by omega)
    · simp only [hc, if_false, Option.isSome_none, decide_False, Bool.false_and]

theorem utf8Len_insertAt : ∀ {cs cs' : List Char} {i : Nat} {ch : Char},
    insertAt cs i ch = some cs' → String.utf8Len cs' = String.utf8Len cs + ch.utf8Size
  | cs, _, 0, ch, h => by
    cases cs <;> (simp only [insertAt, Option.some.injEq] at h; subst h; simp; try omega)
  | [], _, _ + 1, _, h => by cases h
  | c :: cs, cs', i + 1, ch, h => by
    simp only [insertAt] at h
    split at h
    · obtain ⟨cs'', hcs, rfl⟩ := Option.map_eq_some'.mp h
      simp only [String.utf8Len_cons, utf8Len_insertAt hcs]
      omega
    · cases h

/-- What `remove` takes away: one character, of some size, that fits after the offset. -/
theorem utf8Len_removeAt : ∀ {cs cs' : List Char} {i : Nat}, removeAt cs i = some cs' →
    ∃ c : Char, String.utf8Len cs = String.utf8Len cs' + c.utf8Size ∧
      i + c.utf8Size ≤ String.utf8Len cs
  | [], _, _, h => by cases h
  | c :: cs, cs', 0, h => by
    simp only [removeAt, Option.some.injEq] at h
    subst h
    exact ⟨c, by simp, by simp⟩
  | c :: cs, cs', i + 1, h => by
    simp only [removeAt] at h
    split at h
    · obtain ⟨cs'', hcs, rfl⟩ := Option.map_eq_some'.mp h
      obtain ⟨d, hlen, hle⟩ := utf8Len_removeAt hcs
      exact ⟨d, by simp only [String.utf8Len_cons]; omega, by simp only [String.utf8Len_cons]; omega⟩
    · cases h

/-- One byte after a character of several bytes that was inserted is inside it. -/
theorem isCharBoundary_insertAt_add_one : ∀ {cs cs' : List Char} {i : Nat} {ch : Char},
    insertAt cs i ch = some cs' → 1 < ch.utf8Size → isCharBoundary cs' (i + 1) = false
  | cs, _, 0, ch, h, hch => by
    have : ¬ ch.utf8Size ≤ 1 := Nat.not_le.mpr hch
    cases cs <;> simp only [insertAt, Option.some.injEq] at h <;> subst h <;>
      simp only [isCharBoundary, Nat.add_one_ne_zero, decide_False, Bool.false_or, this, Bool.false_and]
  | [], _, _ + 1, _, h, _ => by cases h
  | c :: cs, cs', i + 1, ch, h, hch => by
    simp only [insertAt] at h
    split at h
    · rename_i hc
      obtain ⟨cs'', hcs, rfl⟩ := Option.map_eq_some'.mp h
      have hidx : i + 1 + 1 - c.utf8Size = i + 1 - c.utf8Size + 1 := by omega
      simp only [isCharBoundary, hidx, isCharBoundary_insertAt_add_one hcs hch, Nat.add_one_ne_zero,
        decide_False, Bool.false_or, Bool.and_false]
    · cases h

/-- Removing at the offset of an insert takes the inserted character out again. -/
theorem removeAt_insertAt : ∀ {cs cs' : List Char} {i : Nat} {ch : Char},
    insertAt cs i ch = some cs' → removeAt cs' i = some cs
  | cs, _, 0, ch, h => by
    cases cs <;> (simp only [insertAt, Option.some.injEq] at h; subst h; rfl)
  | [], _, _ + 1, _, h => by cases h
  | c :: cs, cs', i + 1, ch, h => by
    simp only [insertAt] at h
    split at h
    · rename_i hle
      obtain ⟨cs'', hcs, rfl⟩ := Option.map_eq_some'.mp h
      simp only [removeAt, removeAt_insertAt hcs, Option.map_some', if_pos hle]
    · cases h

theorem remove_insert {s s' : String} {idx : Nat} {ch : Char} (h : insert s idx ch = some s') :
    remove s' idx = some s := by
  obtain ⟨cs, hcs, rfl⟩ := Option.map_eq_some'.mp h
  simp only [remove, removeAt_insertAt hcs, Option.map_some']

theorem len_insert {s s' : String} {idx : Nat} {ch : Char} (h : insert s idx ch = some s') :
    len s' = len s + ch.utf8Size := by
  obtain ⟨cs, hcs, rfl⟩ := Option.map_eq_some'.mp h
  exact utf8Len_insertAt hcs

theorem len_remove {s s' : String} {idx : Nat} (h : remove s idx = some s') :
    ∃ c : Char, len s = len s' + c.utf8Size ∧ idx + c.utf8Size ≤ len s := by
  obtain ⟨cs, hcs, rfl⟩ := Option.map_eq_some'.mp h
  exact utf8Len_removeAt hcs

/-! ## ASCII strings -/

theorem utf8Size_of_lt {c : Char} (h : c.toNat < 128) : c.utf8Size = 1 := by
  have : c.val ≤ 0x7F := show c.toNat ≤ 127 by omega
  simp [Char.utf8Size, this]

theorem isCharBoundary_of_ascii : ∀ {cs : List Char}, (∀ c ∈ cs, c.toNat < 128) →
    ∀ i, (isCharBoundary cs i ↔ i ≤ cs.length)
  | [], _, i => by simp [isCharBoundary]
  | c :: cs, h, i => by
    simp only [List.forall_mem_cons] at h
    simp only [isCharBoundary, utf8Size_of_lt h.1, Bool.or_eq_true, decide_eq_true_eq,
      Bool.and_eq_true, isCharBoundary_of_ascii h.2, List.length_cons]
    omega

theorem utf8Len_of_ascii : ∀ {cs : List Char}, (∀ c ∈ cs, c.toNat < 128) →
    String.utf8Len cs = cs.length
  | [], _ => rfl
  | c :: cs, h => by
    simp only [List.forall_mem_cons] at h
    simp [utf8Size_of_lt h.1, utf8Len_of_ascii h.2]

theorem mem_insertAt : ∀ {cs cs' : List Char} {i : Nat} {ch : Char},
    insertAt cs i ch = some cs' → ∀ d ∈ cs', d = ch ∨ d ∈ cs
  | cs, _, 0, ch, h => by
    cases cs <;> (simp only [insertAt, Option.some.injEq] at h; subst h; simp)
  | [], _, _ + 1, _, h => by cases h
  | c :: cs, cs', i + 1, ch, h => by
    simp only [insertAt] at h
    split at h
    · obtain ⟨cs'', hcs, rfl⟩ := Option.map_eq_some'.mp h
      intro d hd
      rcases List.mem_cons.mp hd with rfl | hd
      · exact .inr (List.mem_cons_self _ _)
      · exact (mem_insertAt hcs d hd).imp_right (List.mem_cons_of_mem _)
    · cases h

theorem mem_removeAt : ∀ {cs cs' : List Char} {i : Nat},
    removeAt cs i = some cs' → ∀ d ∈ cs', d ∈ cs
  | [], _, _, h => by cases h
  | c :: cs, cs', 0, h => by
    simp only [removeAt, Option.some.injEq] at h
    subst h
    exact fun d hd => List.mem_cons_of_mem _ hd
  | c :: cs, cs', i + 1, h => by
    simp only [removeAt] at h
    split at h
    · obtain ⟨cs'', hcs, rfl⟩ := Option.map_eq_some'.mp h
      intro d hd
      rcases List.mem_cons.mp hd with rfl | hd
      · exact List.mem_cons_self _ _
      · exact List.mem_cons_of_mem _ (mem_removeAt hcs d hd)
    · cases h

theorem isAscii_insert {s s' : String} {idx : Nat} {ch : Char} (hs : IsAscii s)
    (hch : ch.toNat < 128) (h : insert s idx ch = some s') : IsAscii s' := by
  obtain ⟨cs, hcs, rfl⟩ := Option.map_eq_some'.mp h
  intro d hd
  rcases mem_insertAt hcs d hd with rfl | hd
  · exact hch
  · exact hs d hd

theorem isAscii_remove {s s' : String} {idx : Nat} (hs : IsAscii s)
    (h : remove s idx = some s') : IsAscii s' := by
  obtain ⟨cs, hcs, rfl⟩ := Option.map_eq_some'.mp h
  exact fun d hd => hs d (mem_removeAt hcs d hd)

/-- In ASCII text a byte offset counts characters: `insert` puts the character after the
first `i` of them. -/
theorem insertAt_of_ascii : ∀ {cs : List Char}, (∀ c ∈ cs, c.toNat < 128) → ∀ {i : Nat},
    i ≤ cs.length → ∀ ch, insertAt cs i ch = some (cs.take i ++ ch :: cs.drop i)
  | cs, _, 0, _, ch => by cases cs <;> rfl
  | [], _, _ + 1, h, _ => absurd h (by simp)
  | c :: cs, hc, i + 1, h, ch => by
    simp only [List.forall_mem_cons] at hc
    simp only [insertAt, utf8Size_of_lt hc.1, Nat.add_sub_cancel, List.length_cons] at h ⊢
    rw [if_pos (by omega), insertAt_of_ascii hc.2 (by omega)]
    rfl

/-- In ASCII text `remove` at byte offset `i` removes the character after the first `i`. -/
theorem removeAt_of_ascii : ∀ {cs : List Char}, (∀ c ∈ cs, c.toNat < 128) → ∀ {i : Nat},
    i < cs.length → removeAt cs i = some (cs.take i ++ cs.drop (i + 1))
  | [], _, _, h => absurd h (by simp)
  | _ :: _, _, 0, _ => rfl
  | c :: cs, hc, i + 1, h => by
    simp only [List.forall_mem_cons] at hc
    simp only [removeAt, utf8Size_of_lt hc.1, Nat.add_sub_cancel, List.length_cons] at h ⊢
    rw [if_pos (by omega), removeAt_of_ascii hc.2 (by omega)]
    rfl

/-- In an ASCII string `insert` succeeds at every offset up to the length. -/
theorem insert_isSome_of_ascii {s : String} (hs : IsAscii s) {idx : Nat} (h : idx ≤ len s)
    (ch : Char) : (insert s idx ch).isSome := by
  rw [len_eq, utf8Len_of_ascii hs] at h
  simp [insert, insertAt_isSome, (isCharBoundary_of_ascii hs idx).mpr h]

/-- In an ASCII string `remove` succeeds at every offset before the length. -/
theorem remove_isSome_of_ascii {s : String} (hs : IsAscii s) {idx : Nat} (h : idx < len s) :
    (remove s idx).isSome := by
  rw [len_eq, utf8Len_of_ascii hs] at h
  simp only [remove, Option.isSome_map', removeAt_isSome, (isCharBoundary_of_ascii hs idx).mpr h.le,
    utf8Len_of_ascii hs, h, decide_True, Bool.and_self]

end RustString

end BatteryPack
