import BatteryPack.Build.Facade

set_option autoImplicit false

/-! # Identifiers in the facade

The facade spells two kinds of identifier from names of the manifest: the identifier of a
dependency, `crate_name.replace('-', "_")`, in every `pub use` path, and the identifier of
a module, `mod_ident`, in `pub mod <id> {`. `mod_ident` writes `r#name` for the words
`is_rust_keyword` lists and the name itself otherwise; it does not replace hyphens.

Against the ASCII part of Rust 2021's identifier grammar (`isLegalIdent`), for names of
ASCII letters, digits, `-` and `_` that start with a letter:

* a dependency identifier is legal exactly when it is not a keyword
  (`isLegalIdent_replaceHyphens`);
* a module identifier is legal exactly when the name has no hyphen, is not `crate`,
  `self`, `super` or `Self` (which have no raw form), and is not one of the reserved
  keywords `is_rust_keyword` leaves out (`isLegalIdent_modIdent`).
-/

namespace BatteryPack

/-! ## Rust 2021 identifiers -/

/-- The strict and reserved keywords of Rust 2021. -/
def rust2021Keywords : List String :=
  ["as", "break", "const", "continue", "crate", "else", "enum", "extern", "false", "fn", "for",
    "if", "impl", "in", "let", "loop", "match", "mod", "move", "mut", "pub", "ref", "return",
    "self", "Self", "static", "struct", "super", "trait", "true", "type", "unsafe", "use",
    "where", "while", "async", "await", "dyn", "abstract", "become", "box", "do", "final",
    "macro", "override", "priv", "typeof", "unsized", "virtual", "yield", "try"]

/-- The keywords that have no raw form. -/
def unrawableKeywords : List String := ["crate", "self", "super", "Self"]

/-- May start an identifier. -/
def isIdentStart (c : Char) : Bool := c.isAlpha || c = '_'

/-- May continue an identifier. -/
def isIdentContinue (c : Char) : Bool := c.isAlphanum || c = '_'

/-- `IDENTIFIER_OR_KEYWORD`, ASCII part: a start character, then continue characters,
and not `_` alone. -/
def isIdentOrKeyword : List Char → Bool
  | [] => false
  | c :: cs => isIdentStart c && cs.all isIdentContinue && !(c = '_' && cs.isEmpty)

/-- **A legal identifier**: a raw identifier `r#x` whose `x` has a raw form, or an
identifier that is not a keyword. -/
def isLegalIdent (s : String) : Bool :=
  match s.data with
  | 'r' :: '#' :: rest => isIdentOrKeyword rest && String.mk rest ∉ unrawableKeywords
  | _ => isIdentOrKeyword s.data && s ∉ rust2021Keywords

/-- Names of ASCII letters, digits, `-` and `_`, starting with a letter. -/
def isPlainName (name : String) : Bool :=
  match name.data with
  | [] => false
  | c :: cs => c.isAlpha && cs.all fun d => d.isAlphanum || d = '-' || d = '_'

theorem isLegalIdent_of_not_raw {s : String} (h : '#' ∉ s.data) :
    isLegalIdent s = (isIdentOrKeyword s.data && s ∉ rust2021Keywords) := by
  unfold isLegalIdent
  split
  · rename_i rest hs
    simp [hs] at h
  · rfl

theorem isLegalIdent_raw (x : String) :
    isLegalIdent ("r#" ++ x) = (isIdentOrKeyword x.data && x ∉ unrawableKeywords) := by
  rfl

section Plain

variable {name : String}

theorem isPlainName_cons (h : isPlainName name) :
    ∃ c cs, name.data = c :: cs ∧ c.isAlpha ∧ ∀ d ∈ cs, d.isAlphanum ∨ d = '-' ∨ d = '_' := by
  unfold isPlainName at h
  split at h
  · cases h
  · rename_i c cs hdata
    simp only [Bool.and_eq_true, List.all_eq_true, Bool.or_eq_true, decide_eq_true_eq] at h
    exact ⟨c, cs, hdata, h.1, fun d hd => (h.2 d hd).elim (·.elim .inl (.inr ∘ .inl)) (.inr ∘ .inr)⟩

theorem not_isAlpha_of_eq {c d : Char} (hc : c.isAlpha) (hd : d.isAlpha = false) : c ≠ d := by
  rintro rfl; simp_all

theorem isIdentOrKeyword_iff_of_isPlainName (h : isPlainName name) :
    isIdentOrKeyword name.data ↔ '-' ∉ name.data := by
  obtain ⟨c, cs, hdata, hc, hcs⟩ := isPlainName_cons h
  have hc_ne : c ≠ '-' := not_isAlpha_of_eq hc (by decide)
  have hc_ne' : c ≠ '_' := not_isAlpha_of_eq hc (by decide)
  have hcont : ∀ d ∈ cs, isIdentContinue d ↔ d ≠ '-' := fun d hd => by
    rcases hcs d hd with h | rfl | rfl
    · simp [isIdentContinue, h]; rintro rfl; simp at h
    · decide
    · decide
  simp only [hdata, isIdentOrKeyword, isIdentStart, hc, Bool.true_or, hc_ne', decide_False,
    Bool.false_and, Bool.not_false, Bool.and_true, Bool.true_and, List.all_eq_true,
    List.mem_cons, not_or]
  exact ⟨fun hall => ⟨hc_ne.symm, fun hm => absurd (hall _ hm) (by simp [isIdentContinue])⟩,
    fun ⟨_, hm⟩ d hd => (hcont d hd).mpr fun h => hm (h ▸ hd)⟩

theorem not_sharp_of_isPlainName (h : isPlainName name) : '#' ∉ name.data := by
  obtain ⟨c, cs, hdata, hc, hcs⟩ := isPlainName_cons h
  rw [hdata, List.mem_cons, not_or]
  refine ⟨(not_isAlpha_of_eq hc (by decide)).symm, fun hm => ?_⟩
  rcases hcs _ hm with h | h | h <;> simp_all

theorem replaceHyphens_data (name : String) :
    (replaceHyphens name).data = name.data.map fun c => if c = '-' then '_' else c := rfl

theorem isPlainName_replaceHyphens (h : isPlainName name) : isPlainName (replaceHyphens name) := by
  obtain ⟨c, cs, hdata, hc, hcs⟩ := isPlainName_cons h
  have hc_ne : c ≠ '-' := not_isAlpha_of_eq hc (by decide)
  simp only [isPlainName, replaceHyphens_data, hdata, List.map_cons, if_neg hc_ne, hc,
    Bool.true_and, List.all_map, List.all_eq_true, Function.comp_apply]
  intro d hd
  rcases hcs d hd with h | rfl | rfl
  · have : d ≠ '-' := by rintro rfl; simp at h
    simp [this, h]
  · decide
  · decide

theorem not_hyphen_replaceHyphens : '-' ∉ (replaceHyphens name).data := by
  simp only [replaceHyphens_data, List.mem_map, not_exists, not_and]
  intro c _
  split
  · decide
  · assumption

end Plain

/-! ## The identifiers the facade spells -/

theorem isRustKeyword_ident : ∀ k ∈ rustKeywordPatterns, isIdentOrKeyword k.data ∧ '-' ∉ k.data := by
  decide

theorem unrawableKeywords_isRustKeyword : ∀ k ∈ unrawableKeywords, isRustKeyword k := by
  decide

/-- **Dependency identifiers.** The identifier `generate_dep_export` and the table form of
an export spec write for a dependency is legal exactly when it is not a keyword. -/
theorem isLegalIdent_replaceHyphens {name : String} (h : isPlainName name) :
    isLegalIdent (replaceHyphens name) ↔ replaceHyphens name ∉ rust2021Keywords := by
  have h' := isPlainName_replaceHyphens h
  rw [isLegalIdent_of_not_raw (not_sharp_of_isPlainName h'),
    Bool.and_eq_true, (isIdentOrKeyword_iff_of_isPlainName h').trans
      (iff_true_intro not_hyphen_replaceHyphens)]
  simp

/-- `serde-json` is written `serde_json`, which is not a keyword. -/
theorem isLegalIdent_replaceHyphens_serde_json :
    isPlainName "serde-json" ∧
      (isLegalIdent (replaceHyphens "serde-json") ↔ replaceHyphens "serde-json" ∉ rust2021Keywords) :=
  ⟨by decide, isLegalIdent_replaceHyphens (by decide)⟩

/-- **Module identifiers.** `mod_ident` gives a legal identifier exactly when the module
name has no hyphen, has a raw form, and is escaped whenever it is a keyword. -/
theorem isLegalIdent_modIdent {name : String} (h : isPlainName name) :
    isLegalIdent (modIdent name) ↔ '-' ∉ name.data ∧ name ∉ unrawableKeywords ∧
      (name ∈ rust2021Keywords → isRustKeyword name) := by
  unfold modIdent
  split
  · rename_i hk
    obtain ⟨hid, hhy⟩ := isRustKeyword_ident name (of_decide_eq_true hk)
    simp [isLegalIdent_raw, hid, hhy, hk]
  · rename_i hk
    have hraw : name ∉ unrawableKeywords := fun hm => hk (unrawableKeywords_isRustKeyword _ hm)
    rw [isLegalIdent_of_not_raw (not_sharp_of_isPlainName h), Bool.and_eq_true,
      isIdentOrKeyword_iff_of_isPlainName h]
    simp [hraw, hk]

/-- `async` is escaped as `r#async`, which is legal. -/
theorem isLegalIdent_modIdent_async :
    isPlainName "async" ∧ (isLegalIdent (modIdent "async") ↔ '-' ∉ "async".data ∧
      "async" ∉ unrawableKeywords ∧ ("async" ∈ rust2021Keywords → isRustKeyword "async")) :=
  ⟨by decide, isLegalIdent_modIdent (by decide)⟩

/-- Modules `my-mod`, `self` and `try`: the facade opens `pub mod my-mod {`,
`pub mod r#self {` and `pub mod try {`, and none of the three is a legal identifier. -/
theorem generate_illegal_module_idents :
    (FacadeGenerator.withResolver (.table [("package", .table [("metadata", .table [("battery", .table
        [("modules", .table [("try", .array [.string "serde"]),
          ("my-mod", .array [.string "tokio"]), ("self", .array [.string "anyhow"])])])])])])
        ⟨fun _ => none⟩).generate
      = "// Auto-generated by battery-pack. Do not edit.\n\n\npub mod my-mod \x7b\n    pub use tokio;\n\x7d\n\npub mod r#self \x7b\n    pub use anyhow;\n\x7d\n\npub mod try \x7b\n    pub use serde;\n\x7d\n"
      ∧ isLegalIdent "my-mod" = false ∧ isLegalIdent "r#self" = false
      ∧ isLegalIdent "try" = false :=
  ⟨rfl, by decide, by decide, by decide⟩

end BatteryPack
