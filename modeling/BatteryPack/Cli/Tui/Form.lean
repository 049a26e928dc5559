import BatteryPack.Cli.Tui.App

set_option autoImplicit false

/-! # The cursor of the new-project form

`cursor_position` is a byte offset into the field with the focus. What an action can do to
the form is said once (`applyAction_form`): leave the screen as it was, open the form
empty, or make one of the edits `FormEdit` lists. Every invariant of the form follows from
that by a case on the edit.

Every edit keeps the cursor at most the length of its field (`Reachable.formCursorInRange`).
No edit keeps it on a character boundary: `FormChar` moves it one byte whatever the size
of the character it inserted (`FormScreen.typeChar_not_isCharBoundary`), and the next
insert or remove there panics. With ASCII keys and an ASCII working directory every offset
up to the length is a boundary and no key panics (`Reachable.handleKey_isSome_of_ascii`).
-/

namespace BatteryPack

namespace Tui

open RustString

/-! ## What an action does to the form -/

/-- The edits of the form, one per action that changes it. -/
inductive FormEdit : Action → FormScreen → FormScreen → Prop
  | toggleField (s : FormScreen) : FormEdit .formToggleField s s.toggleField
  | typeChar (c : Char) {s s' : FormScreen} : s.typeChar c = some s' → FormEdit (.formChar c) s s'
  | backspace {s s' : FormScreen} : s.backspace = some s' → FormEdit .formBackspace s s'
  | delete {s s' : FormScreen} : s.delete = some s' → FormEdit .formDelete s s'
  | left (s : FormScreen) : FormEdit .formLeft s s.left
  | right (s : FormScreen) : FormEdit .formRight s s.right
  | home (s : FormScreen) : FormEdit .formHome s s.home
  | toEnd (s : FormScreen) : FormEdit .formEnd s s.toEnd

/-- No edit changes the battery pack, the detail or the origin of the form. -/
theorem FormEdit.keeps {a : Action} {s s' : FormScreen} (h : FormEdit a s s') :
    s'.batteryPack = s.batteryPack ∧ s'.detail = s.detail ∧ s'.cameFromList = s.cameFromList := by
  have setField : ∀ {f : String}, (s.setField f).batteryPack = s.batteryPack ∧
      (s.setField f).detail = s.detail ∧ (s.setField f).cameFromList = s.cameFromList := by
    intro f
    unfold FormScreen.setField
    split <;> exact ⟨rfl, rfl, rfl⟩
  cases h with
  | toggleField | left | home | toEnd => exact ⟨rfl, rfl, rfl⟩
  | right => unfold FormScreen.right; split <;> exact ⟨rfl, rfl, rfl⟩
  | typeChar c h =>
    obtain ⟨f, -, rfl⟩ := Option.map_eq_some'.mp h
    exact setField
  | backspace h | delete h =>
    first | unfold FormScreen.backspace at h | unfold FormScreen.delete at h
    split at h
    · obtain ⟨f, -, rfl⟩ := Option.map_eq_some'.mp h
      exact setField
    · cases h
      exact ⟨rfl, rfl, rfl⟩

namespace App

theorem updateList_form {app : App} {f : ListScreen → ListScreen} {s : FormScreen}
    (h : (app.updateList f).screen = .newProjectForm s) : app.screen = .newProjectForm s := by
  unfold updateList at h
  split at h <;> simp_all

theorem updateDetail_form {app : App} {f : DetailScreen → DetailScreen} {s : FormScreen}
    (h : (app.updateDetail f).screen = .newProjectForm s) : app.screen = .newProjectForm s := by
  unfold updateDetail at h
  split at h <;> simp_all

theorem updateForm_form {app app' : App} {f : FormScreen → Option FormScreen} {s' : FormScreen}
    (h : app.updateForm f = some app') (hs' : app'.screen = .newProjectForm s') :
    app.screen = .newProjectForm s' ∨ ∃ s, app.screen = .newProjectForm s ∧ f s = some s' := by
  rcases updateForm_cases h with rfl | ⟨s, _, hs, hf, rfl⟩
  · exact .inl hs'
  · cases hs'
    exact .inr ⟨s, hs, hf⟩

/-- **What an action can do to the form**: leave the screen as it was, open the form, or
make one edit. -/
theorem applyAction_form {env : Env} {app app' : App} {a : Action} {s' : FormScreen}
    (h : app.applyAction env a = some app') (hs' : app'.screen = .newProjectForm s') :
    app.screen = .newProjectForm s' ∨
      (∃ detail cameFromList, a = .detailNewProject detail cameFromList ∧
        s' = .ofDetail (env.currentDir.getD ".") detail cameFromList) ∨
      ∃ s, app.screen = .newProjectForm s ∧ FormEdit a s s' := by
  have edit : ∀ {f : FormScreen → Option FormScreen}, app.updateForm f = some app' →
      (∀ s, f s = some s' → FormEdit a s s') →
      app.screen = .newProjectForm s' ∨ ∃ s, app.screen = .newProjectForm s ∧ FormEdit a s s' :=
    fun hu hf => (updateForm_form hu hs').imp_right fun ⟨s, hs, he⟩ => ⟨s, hs, hf s he⟩
  cases a <;> simp only [applyAction, Option.some.injEq] at h
  case none | quit | detailOpenCratesIo | detailAdd => subst h; exact .inl hs'
  case listUp | listDown => subst h; exact .inl (updateList_form hs')
  case detailNextAction | detailPrevAction => subst h; exact .inl (updateDetail_form hs')
  case listSelect selected =>
    subst h
    refine .inl ?_
    revert hs'
    split
    · split
      · exact fun hs' => absurd hs' (processLoadingOrStay_ne_form env (by rfl) s')
      · exact id
    · exact id
  case detailBack cameFromList =>
    subst h
    split at hs'
    · exact absurd hs' (processLoadingOrStay_ne_form env (by rfl) s')
    · exact .inl hs'
  case detailNewProject detail cameFromList =>
    subst h
    cases hs'
    exact .inr (.inl ⟨detail, cameFromList, rfl, rfl⟩)
  case formSubmit | formCancel => subst h; cases hs'
  case formToggleField => exact (edit h fun s hf => Option.some.inj hf ▸ .toggleField s).imp_right .inr
  case formChar c => exact (edit h fun _ hf => .typeChar c hf).imp_right .inr
  case formBackspace => exact (edit h fun _ hf => .backspace hf).imp_right .inr
  case formDelete => exact (edit h fun _ hf => .delete hf).imp_right .inr
  case formLeft => exact (edit h fun s hf => Option.some.inj hf ▸ .left s).imp_right .inr
  case formRight => exact (edit h fun s hf => Option.some.inj hf ▸ .right s).imp_right .inr
  case formHome => exact (edit h fun s hf => Option.some.inj hf ▸ .home s).imp_right .inr
  case formEnd => exact (edit h fun s hf => Option.some.inj hf ▸ .toEnd s).imp_right .inr

/-- A property of the form that the opened form has and every edit keeps holds after
every action. -/
theorem applyAction_formInv (P : FormScreen → Prop) {env : Env} {app app' : App} {a : Action}
    (hopen : ∀ detail cameFromList, P (.ofDetail (env.currentDir.getD ".") detail cameFromList))
    (hedit : ∀ s s', app.screen = .newProjectForm s → FormEdit a s s' → P s → P s')
    (h : app.applyAction env a = some app') (hinv : ∀ s, app.screen = .newProjectForm s → P s) :
    ∀ s', app'.screen = .newProjectForm s' → P s' := by
  intro s' hs'
  rcases applyAction_form h hs' with hs | ⟨d, c, -, rfl⟩ | ⟨s, hs, he⟩
  · exact hinv _ hs
  · exact hopen d c
  · exact hedit _ _ hs he (hinv _ hs)

/-- On the form, the action `FormChar c` comes from the key `c`. -/
theorem keyAction_formChar {s : FormScreen} {key : KeyCode} {c : Char}
    (h : (Screen.newProjectForm s).keyAction key = .formChar c) : key = .char c := by
  cases key
  case char d => cases h; rfl
  case enter =>
    change (if s.projectName.isEmpty then Action.none else .formSubmit _ _ _ _ _) = _ at h
    split at h <;> cases h
  all_goals cases h

end App

/-! ## The cursor stays within the field -/

namespace FormScreen

/-- The cursor is at most the length, in bytes, of the field with the focus. -/
def CursorInRange (s : FormScreen) : Prop := s.cursorPosition ≤ len s.field

theorem cursorInRange_ofDetail (directory : String) (detail : BatteryPackDetail)
    (cameFromList : Bool) : (ofDetail directory detail cameFromList).CursorInRange :=
  Nat.zero_le _

/-- `FormChar` with a character of several bytes leaves the cursor inside it. -/
theorem typeChar_not_isCharBoundary {s s' : FormScreen} {c : Char} (h : s.typeChar c = some s')
    (hc : 1 < c.utf8Size) : isCharBoundary s'.field.data s'.cursorPosition = false := by
  obtain ⟨f, hf, rfl⟩ := Option.map_eq_some'.mp h
  obtain ⟨cs, hcs, rfl⟩ := Option.map_eq_some'.mp hf
  simpa only [field_cursor, field_setField] using isCharBoundary_insertAt_add_one hcs hc

end FormScreen

open FormScreen in
/-- Each edit keeps the cursor in range. -/
theorem FormEdit.cursorInRange {a : Action} {s s' : FormScreen} (he : FormEdit a s s')
    (hs : s.CursorInRange) : s'.CursorInRange := by
  unfold CursorInRange at hs ⊢
  cases he with
  | toggleField => exact Nat.le_refl _
  | typeChar c h =>
    obtain ⟨f, hf, rfl⟩ := Option.map_eq_some'.mp h
    have := len_insert hf
    have := c.utf8Size_pos
    simp only [field_cursor, field_setField]
    omega
  | backspace h =>
    unfold FormScreen.backspace at h
    split at h
    · obtain ⟨f, hf, rfl⟩ := Option.map_eq_some'.mp h
      obtain ⟨c, hlen, hle⟩ := len_remove hf
      simp only [field_cursor, field_setField]
      omega
    · cases h; exact hs
  | delete h =>
    unfold FormScreen.delete at h
    split at h
    · obtain ⟨f, hf, rfl⟩ := Option.map_eq_some'.mp h
      obtain ⟨c, hlen, hle⟩ := len_remove hf
      simp only [field_setField, cursorPosition_setField]
      omega
    · cases h; exact hs
  | left => exact Nat.le_trans (Nat.sub_le _ _) hs
  | right =>
    unfold FormScreen.right
    split
    · exact ‹_›
    · exact hs
  | home => exact Nat.zero_le _
  | toEnd => exact Nat.le_refl _

/-- The form, when it is open, has its cursor in range. -/
def App.FormCursorInRange (app : App) : Prop :=
  ∀ s, app.screen = .newProjectForm s → s.CursorInRange

section Runs

variable {allowed : Env → KeyCode → Prop}

/-- A property of the form that every step keeps holds of the form in every reachable
state: no start shows the form. -/
theorem Reachable.formInv {P : FormScreen → Prop} {app : App}
    (hstep : ∀ app app', (∀ s, app.screen = .newProjectForm s → P s) → Step allowed app app' →
      ∀ s, app'.screen = .newProjectForm s → P s)
    (h : Reachable allowed app) : ∀ s, app.screen = .newProjectForm s → P s :=
  Reachable.induction allowed (fun _ hs s h => absurd h ((Start.spec hs).2.1 s)) hstep h

theorem Step.keepsFormCursorInRange {app app' : App} (h : Step allowed app app')
    (hinv : app.FormCursorInRange) : app'.FormCursorInRange := by
  cases h with
  | key env key _ _ _ h =>
    exact App.applyAction_formInv _ (fun _ _ => FormScreen.cursorInRange_ofDetail _ _ _)
      (fun _ _ _ he hs => he.cursorInRange hs) h hinv
  | execute => exact hinv

/-- **The cursor stays within the field.** In every reachable state, the cursor of the
open form is at most the length in bytes of the field with the focus. -/
theorem Reachable.formCursorInRange {app : App} (h : Reachable allowed app) :
    app.FormCursorInRange :=
  Reachable.formInv (fun _ _ hinv hs => hs.keepsFormCursorInRange hinv) h

end Runs

/-! ## ASCII input -/

/-- Keys that type ASCII characters, in a working directory of ASCII characters. -/
def asciiStep (env : Env) (key : KeyCode) : Prop :=
  (∀ c, key = .char c → c.toNat < 128) ∧ ∀ d, env.currentDir = some d → IsAscii d

namespace FormScreen

/-- Both fields of the form are ASCII. -/
def AsciiFields (s : FormScreen) : Prop := IsAscii s.directory ∧ IsAscii s.projectName

theorem isAscii_field {s : FormScreen} (h : s.AsciiFields) : IsAscii s.field := by
  unfold field
  split
  · exact h.1
  · exact h.2

theorem asciiFields_setField {s : FormScreen} {f : String} (h : s.AsciiFields) (hf : IsAscii f) :
    (s.setField f).AsciiFields := by
  unfold setField
  split
  · exact ⟨hf, h.2⟩
  · exact ⟨h.1, hf⟩

theorem asciiFields_ofDetail {directory : String} (h : IsAscii directory)
    (detail : BatteryPackDetail) (cameFromList : Bool) :
    (ofDetail directory detail cameFromList).AsciiFields :=
  ⟨h, fun c hc => (List.not_mem_nil c hc).elim⟩

end FormScreen

open FormScreen in
/-- Each edit that types an ASCII character keeps both fields ASCII. -/
theorem FormEdit.asciiFields {a : Action} {s s' : FormScreen} (he : FormEdit a s s')
    (hchar : ∀ c, a = .formChar c → c.toNat < 128) (hs : s.AsciiFields) : s'.AsciiFields := by
  cases he with
  | typeChar c h =>
    obtain ⟨f, hf, rfl⟩ := Option.map_eq_some'.mp h
    exact asciiFields_setField hs (isAscii_insert (isAscii_field hs) (hchar c rfl) hf)
  | backspace h =>
    unfold FormScreen.backspace at h
    split at h
    · obtain ⟨f, hf, rfl⟩ := Option.map_eq_some'.mp h
      exact asciiFields_setField hs (isAscii_remove (isAscii_field hs) hf)
    · cases h; exact hs
  | delete h =>
    unfold FormScreen.delete at h
    split at h
    · obtain ⟨f, hf, rfl⟩ := Option.map_eq_some'.mp h
      exact asciiFields_setField hs (isAscii_remove (isAscii_field hs) hf)
    · cases h; exact hs
  | right => unfold FormScreen.right; split <;> exact hs
  | toggleField | left | home | toEnd => exact hs

/-- On an ASCII field with the cursor in range, `FormChar`, `FormBackspace` and
`FormDelete` do not panic. -/
theorem FormScreen.edits_isSome {s : FormScreen} (hs : s.AsciiFields) (hc : s.CursorInRange) :
    (∀ c, (s.typeChar c).isSome) ∧ s.backspace.isSome ∧ s.delete.isSome := by
  have ha := isAscii_field hs
  refine ⟨fun c => ?_, ?_, ?_⟩
  · simpa [typeChar] using insert_isSome_of_ascii ha hc c
  · unfold backspace
    split
    · simpa using remove_isSome_of_ascii ha (show s.cursorPosition - 1 < len s.field by
        unfold CursorInRange at hc; omega)
    · rfl
  · unfold delete
    split
    · simpa using remove_isSome_of_ascii ha ‹_›
    · rfl

namespace App

/-- `handle_key` panics only inside an edit of the form. -/
theorem applyAction_isSome {env : Env} {app : App}
    (h : ∀ s, app.screen = .newProjectForm s →
      (∀ c, (s.typeChar c).isSome) ∧ s.backspace.isSome ∧ s.delete.isSome) (a : Action) :
    (app.applyAction env a).isSome := by
  have form : ∀ f : FormScreen → Option FormScreen, (∀ s, app.screen = .newProjectForm s →
      (f s).isSome) → (app.updateForm f).isSome := fun f hf => by
    unfold updateForm
    split
    · simpa using hf _ ‹_›
    · rfl
  cases a <;> simp only [applyAction, Option.isSome_some]
  case formToggleField | formLeft | formRight | formHome | formEnd =>
    exact form _ fun _ _ => rfl
  case formChar c => exact form _ fun s hs => (h s hs).1 c
  case formBackspace => exact form _ fun s hs => (h s hs).2.1
  case formDelete => exact form _ fun s hs => (h s hs).2.2

end App

/-- Both fields of the open form are ASCII. -/
def App.FormAscii (app : App) : Prop := ∀ s, app.screen = .newProjectForm s → s.AsciiFields

theorem Step.keepsFormAscii {app app' : App} (h : Step asciiStep app app') (hinv : app.FormAscii) :
    app'.FormAscii := by
  cases h with
  | key env key hkey _ _ h =>
    have hdir : IsAscii (env.currentDir.getD ".") := by
      cases hd : env.currentDir
      · decide
      · exact hkey.2 _ hd
    exact App.applyAction_formInv _ (FormScreen.asciiFields_ofDetail hdir)
      (fun _ _ hs he h => he.asciiFields
        (fun c hc => hkey.1 c (App.keyAction_formChar (hs ▸ hc))) h) h hinv
  | execute => exact hinv

/-- **ASCII input never panics.** In every state reachable with keys that type ASCII
characters and an ASCII working directory, the cursor of the open form is on a character
boundary of its field, and no key makes `handle_key` panic. -/
theorem Reachable.handleKey_isSome_of_ascii {app : App} (h : Reachable asciiStep app) :
    (∀ s, app.screen = .newProjectForm s → isCharBoundary s.field.data s.cursorPosition) ∧
      ∀ env key, (app.handleKey env key).isSome := by
  have hascii : app.FormAscii := Reachable.formInv (fun _ _ hinv hs => hs.keepsFormAscii hinv) h
  have hrange : app.FormCursorInRange :=
    Reachable.formInv (fun _ _ hinv hs => hs.keepsFormCursorInRange hinv) h
  refine ⟨fun s hs => ?_, fun env key => App.applyAction_isSome (fun s hs =>
    FormScreen.edits_isSome (hascii s hs) (hrange s hs)) _⟩
  have ha := FormScreen.isAscii_field (hascii s hs)
  have hc := hrange s hs
  unfold FormScreen.CursorInRange at hc
  rw [len_eq, utf8Len_of_ascii ha] at hc
  exact (isCharBoundary_of_ascii ha _).mpr hc

/-! ## Runs into the form -/

/-- The registry knows every battery pack; the working directory is `/home/user`. -/
def registryUp : Env := ⟨fun _ => .ok [], fun name => .ok ⟨name, "cli"⟩, some "/home/user"⟩

/-- `run_show("cli-battery-pack")`, then Tab, Tab, Enter opens the form, and `c` is
typed into the project name. -/
theorem reachable_form_typed (c : Char) :
    Reachable (fun env key => env = registryUp ∧ key ∈ [.tab, .enter, .char c])
      ⟨.newProjectForm ⟨"cli", "/home/user", ⟨[c]⟩, .projectName, 1,
        ⟨"cli-battery-pack", "cli"⟩, false⟩, false, none⟩ :=
  ⟨_, .newShow registryUp "cli-battery-pack" rfl,
    .head (.key registryUp .tab ⟨rfl, by simp⟩ rfl rfl rfl) <|
    .head (.key registryUp .tab ⟨rfl, by simp⟩ rfl rfl rfl) <|
    .head (.key registryUp .enter ⟨rfl, by simp⟩ rfl rfl rfl) <|
    .head (.key registryUp (.char c) ⟨rfl, by simp⟩ rfl rfl rfl) .refl⟩

theorem Reachable.mono {allowed allowed' : Env → KeyCode → Prop}
    (h : ∀ env key, allowed env key → allowed' env key) {app : App}
    (happ : Reachable allowed app) : Reachable allowed' app := by
  obtain ⟨app₀, h₀, hrun⟩ := happ
  refine ⟨app₀, h₀, hrun.mono fun a b hs => ?_⟩
  cases hs with
  | key env key hk hp hq hk' => exact .key env key (h env key hk) hp hq hk'
  | execute action hp hq => exact .execute action hp hq

/-- Typing `é` into the empty project name puts the cursor at byte 1, inside the two
bytes of `é`, and the next character typed makes `String::insert` panic, in every
environment. -/
theorem handleKey_panics_after_multibyte :
    Reachable anyStep ⟨.newProjectForm ⟨"cli", "/home/user", "é", .projectName, 1,
        ⟨"cli-battery-pack", "cli"⟩, false⟩, false, none⟩ ∧
      isCharBoundary "é".data 1 = false ∧
      ∀ env : Env, App.handleKey env ⟨.newProjectForm ⟨"cli", "/home/user", "é", .projectName, 1,
        ⟨"cli-battery-pack", "cli"⟩, false⟩, false, none⟩ (.char 'x') = none :=
  ⟨(reachable_form_typed 'é').mono fun _ _ _ => trivial, by decide, fun _ => rfl⟩

/-- The cursor stays in range after `é` is typed. -/
theorem formCursorInRange_typed :
    Reachable anyStep ⟨.newProjectForm ⟨"cli", "/home/user", "é", .projectName, 1,
        ⟨"cli-battery-pack", "cli"⟩, false⟩, false, none⟩ ∧
      App.FormCursorInRange ⟨.newProjectForm ⟨"cli", "/home/user", "é", .projectName, 1,
        ⟨"cli-battery-pack", "cli"⟩, false⟩, false, none⟩ :=
  have h := (reachable_form_typed 'é').mono fun _ _ _ => trivial
  ⟨h, Reachable.formCursorInRange h⟩

/-- Typing `a` keeps the cursor on a boundary, and no key panics. -/
theorem handleKey_isSome_of_ascii_typed :
    Reachable asciiStep ⟨.newProjectForm ⟨"cli", "/home/user", "a", .projectName, 1,
        ⟨"cli-battery-pack", "cli"⟩, false⟩, false, none⟩ ∧
      ((∀ s, Screen.newProjectForm ⟨"cli", "/home/user", "a", .projectName, 1,
          ⟨"cli-battery-pack", "cli"⟩, false⟩ = .newProjectForm s →
          isCharBoundary s.field.data s.cursorPosition) ∧
        ∀ env key, (App.handleKey env ⟨.newProjectForm ⟨"cli", "/home/user", "a", .projectName, 1,
          ⟨"cli-battery-pack", "cli"⟩, false⟩, false, none⟩ key).isSome) :=
  have h : Reachable asciiStep _ := (reachable_form_typed 'a').mono fun env key ⟨henv, hkey⟩ =>
    ⟨fun c hc => by simp_all, fun d hd => by subst henv; cases hd; decide⟩
  ⟨h, Reachable.handleKey_isSome_of_ascii h⟩

/-- `é` typed into an empty field. -/
theorem typeChar_not_isCharBoundary_eAcute :
    (FormScreen.ofDetail "/" ⟨"cli-battery-pack", "cli"⟩ false).typeChar 'é'
        = some ⟨"cli", "/", "é", .projectName, 1, ⟨"cli-battery-pack", "cli"⟩, false⟩ ∧
      1 < 'é'.utf8Size ∧
      isCharBoundary (FormScreen.field ⟨"cli", "/", "é", .projectName, 1,
        ⟨"cli-battery-pack", "cli"⟩, false⟩).data 1 = false :=
  ⟨rfl, by decide, FormScreen.typeChar_not_isCharBoundary
    (s := FormScreen.ofDetail "/" ⟨"cli-battery-pack", "cli"⟩ false) (c := 'é') rfl (by decide)⟩

end Tui

end BatteryPack
