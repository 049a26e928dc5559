import BatteryPack.Cli.RustString
import Mathlib.Logic.Relation

set_option autoImplicit false

/-! # The interactive browser

`bphelper-cli/src/tui.rs` is a terminal browser: a list of battery packs, the detail of
one, and a form that creates a project from it, entered through `run_list` and `run_show`.
It is not wired into the command line in this snapshot: `lib.rs` declares no `mod tui`,
and its `Cli` requires a subcommand. The model follows `tui.rs` as it stands. `App` is its
state. `App::run` fetches what the first screen shows (`process_loading`),
then loops: it executes a pending action, or hands a key to `handle_key`, until
`should_quit` is set.

`handle_key` works in two halves, and so does the model: `Screen.keyAction` reads the
action a key means on the current screen, `App.applyAction` carries it out. Two of the
actions load a new screen and discard the error of a failed fetch. `String::insert` and
`String::remove` on the form's fields panic at a byte offset that is not a character
boundary; `handleKey` returns `none` there.

The registry fetches, `BatteryPackSummary` and `BatteryPackDetail`, which `tui.rs` imports
from the crate root, are not defined in this snapshot's `lib.rs`: the fetches and the
current directory are an `Env`, and the two records keep the fields the browser reads. A run (`Step`) may use another `Env` at every
step, so each fetch may succeed or fail independently.
-/

namespace BatteryPack

namespace Tui

/-! ## Keys and what the browser gets from outside -/

/-- `crossterm::event::KeyCode`, with the keys the browser tells apart. -/
inductive KeyCode where
  | backspace | enter | left | right | up | down | home | endKey | tab | backTab | delete | esc
  | char (c : Char)
  /-- Any other key: page and function keys, `Insert`, media and modifier keys. -/
  | other (code : Nat)
  deriving DecidableEq, Repr

/-- `BatteryPackSummary`, with the fields the browser reads. -/
structure BatteryPackSummary where
  name : String
  shortName : String
  deriving DecidableEq, Repr

/-- `BatteryPackDetail`, with the fields the browser reads. -/
structure BatteryPackDetail where
  name : String
  shortName : String
  deriving DecidableEq, Repr

/-- `fetch_battery_pack_list`, `fetch_battery_pack_detail` and `std::env::current_dir`. -/
structure Env where
  fetchBatteryPackList : Option String → Except String (List BatteryPackSummary)
  fetchBatteryPackDetail : String → Except String BatteryPackDetail
  currentDir : Option String

/-! ## State -/

/-- `LoadingTarget`: what a loading screen fetches. -/
inductive LoadingTarget where
  | list (filter : Option String)
  | detail (name : String) (cameFromList : Bool)
  deriving DecidableEq, Repr

/-- `ListScreen`; `selected` is `list_state.selected()`. -/
structure ListScreen where
  items : List BatteryPackSummary
  selected : Option Nat
  deriving DecidableEq, Repr

/-- `ActionSelection`: the action the detail screen offers. -/
inductive ActionSelection where
  | openCratesIo | addToProject | newProject
  deriving DecidableEq, Repr

/-- `ActionSelection::next`. -/
def ActionSelection.next : ActionSelection → ActionSelection
  | .openCratesIo => .addToProject
  | .addToProject => .newProject
  | .newProject => .openCratesIo

/-- `ActionSelection::prev`. -/
def ActionSelection.prev : ActionSelection → ActionSelection
  | .openCratesIo => .newProject
  | .addToProject => .openCratesIo
  | .newProject => .addToProject

/-- `DetailScreen`. -/
structure DetailScreen where
  detail : BatteryPackDetail
  selectedAction : ActionSelection
  cameFromList : Bool
  deriving DecidableEq, Repr

/-- `FormField`. -/
inductive FormField where
  | directory | projectName
  deriving DecidableEq, Repr

/-- `FormScreen`: the new-project form. `cursorPosition` is a byte offset into the field
with the focus. -/
structure FormScreen where
  batteryPack : String
  directory : String
  projectName : String
  focusedField : FormField
  cursorPosition : Nat
  detail : BatteryPackDetail
  cameFromList : Bool
  deriving DecidableEq, Repr

/-- `Screen`; a loading screen is its `LoadingTarget`. -/
inductive Screen where
  | loading (target : LoadingTarget)
  | list (state : ListScreen)
  | detail (state : DetailScreen)
  | newProjectForm (state : FormScreen)
  deriving DecidableEq, Repr

/-- A loading screen. -/
def Screen.isLoading : Screen → Bool
  | .loading _ => true
  | _ => false

/-- `PendingAction`: what the loop runs outside the browser before the next key. -/
inductive PendingAction where
  | openCratesIo (crateName : String)
  | addToProject (batteryPack : String)
  | newProject (batteryPack directory name : String)
  deriving DecidableEq, Repr

/-- `App`. -/
structure App where
  screen : Screen
  shouldQuit : Bool
  pendingAction : Option PendingAction
  deriving DecidableEq, Repr

namespace App

/-- `App::new_list`. -/
def newList (filter : Option String) : App := ⟨.loading (.list filter), false, none⟩

/-- `App::new_show`. -/
def newShow (name : String) : App := ⟨.loading (.detail name false), false, none⟩

/-- `App::process_loading`: a loading screen fetches and shows what it loads; a failed
fetch is returned as an error, with the app left as it was. -/
def processLoading (env : Env) (app : App) : Except String App :=
  match app.screen with
  | .loading (.list filter) => do
    let items ← env.fetchBatteryPackList filter
    return { app with screen := .list ⟨items, if items.isEmpty then none else some 0⟩ }
  | .loading (.detail name cameFromList) => do
    let detail ← env.fetchBatteryPackDetail name
    return { app with screen := .detail ⟨detail, .openCratesIo, cameFromList⟩ }
  | _ => return app

/-- `let _ = self.process_loading();`: after a failed fetch the app keeps its state. -/
def processLoadingOrStay (env : Env) (app : App) : App :=
  match app.processLoading env with
  | .ok app' => app'
  | .error _ => app

end App

/-! ## The actions of `handle_key` -/

/-- `Action`, the enum inside `handle_key`. -/
inductive Action where
  | none | quit | listSelect (selected : Nat) | listUp | listDown
  | detailNextAction | detailPrevAction
  | detailOpenCratesIo (crateName : String)
  | detailAdd (batteryPack : String)
  | detailNewProject (detail : BatteryPackDetail) (cameFromList : Bool)
  | detailBack (cameFromList : Bool)
  | formToggleField
  | formSubmit (batteryPack directory name : String) (detail : BatteryPackDetail) (cameFromList : Bool)
  | formCancel (detail : BatteryPackDetail) (cameFromList : Bool)
  | formChar (c : Char) | formBackspace | formDelete | formLeft | formRight | formHome | formEnd

/-- The first half of `handle_key`: the action a key means on a screen. -/
def Screen.keyAction : Screen → KeyCode → Action
  | .loading _, _ => .none
  | .list state, key =>
    match key with
    | .up | .char 'k' => .listUp
    | .down | .char 'j' => .listDown
    | .enter =>
      match state.selected with
      | some selected => .listSelect selected
      | none => .none
    | .char 'q' | .esc => .quit
    | _ => .none
  | .detail state, key =>
    match key with
    | .tab | .down | .char 'j' => .detailNextAction
    | .backTab | .up | .char 'k' => .detailPrevAction
    | .enter =>
      match state.selectedAction with
      | .openCratesIo => .detailOpenCratesIo state.detail.name
      | .addToProject => .detailAdd state.detail.shortName
      | .newProject => .detailNewProject state.detail state.cameFromList
    | .esc => .detailBack state.cameFromList
    | .char 'q' => .quit
    | _ => .none
  | .newProjectForm state, key =>
    match key with
    | .tab => .formToggleField
    | .enter =>
      if state.projectName.isEmpty then .none
      else .formSubmit state.batteryPack state.directory state.projectName state.detail
        state.cameFromList
    | .esc => .formCancel state.detail state.cameFromList
    | .char c => .formChar c
    | .backspace => .formBackspace
    | .delete => .formDelete
    | .left => .formLeft
    | .right => .formRight
    | .home => .formHome
    | .endKey => .formEnd
    | _ => .none

/-! The letters of a key match are tested one after the other, as an `if` on the
character; the two lemmas below say so once, so that no proof splits on the match. -/

/-- The letters of the list screen: `k` up, `j` down, `q` quit. -/
theorem Screen.keyAction_list_char (s : ListScreen) (c : Char) :
    (Screen.list s).keyAction (.char c) =
      if c = 'k' then .listUp else if c = 'j' then .listDown else if c = 'q' then .quit else .none := by
  by_cases hk : c = 'k'
  · subst hk; rfl
  by_cases hj : c = 'j'
  · subst hj; rfl
  by_cases hq : c = 'q'
  · subst hq; rfl
  rw [if_neg hk, if_neg hj, if_neg hq]
  delta Screen.keyAction Screen.keyAction.match_2
  dsimp only
  rw [dif_neg hk, dif_neg hj, dif_neg hq]

/-- The letters of the detail screen: `j` next, `k` previous, `q` quit. -/
theorem Screen.keyAction_detail_char (s : DetailScreen) (c : Char) :
    (Screen.detail s).keyAction (.char c) =
      if c = 'j' then .detailNextAction else if c = 'k' then .detailPrevAction
      else if c = 'q' then .quit else .none := by
  by_cases hj : c = 'j'
  · subst hj; rfl
  by_cases hk : c = 'k'
  · subst hk; rfl
  by_cases hq : c = 'q'
  · subst hq; rfl
  rw [if_neg hj, if_neg hk, if_neg hq]
  delta Screen.keyAction Screen.keyAction.match_3
  dsimp only
  rw [dif_neg hj, dif_neg hk, dif_neg hq]

namespace ListScreen

/-- `ListUp`. -/
def up (s : ListScreen) : ListScreen :=
  match s.selected with
  | some selected => if selected > 0 then { s with selected := some (selected - 1) } else s
  | none => s

/-- `ListDown`; `saturating_sub` is subtraction on `Nat`. -/
def down (s : ListScreen) : ListScreen :=
  match s.selected with
  | some selected =>
    if selected < s.items.length - 1 then { s with selected := some (selected + 1) } else s
  | none => s

end ListScreen

namespace FormScreen

/-- The field with the focus. -/
def field (s : FormScreen) : String :=
  match s.focusedField with
  | .directory => s.directory
  | .projectName => s.projectName

/-- The form `DetailNewProject` opens: the name empty and focused, the cursor at its
start. -/
def ofDetail (directory : String) (detail : BatteryPackDetail) (cameFromList : Bool) :
    FormScreen :=
  ⟨detail.shortName, directory, "", .projectName, 0, detail, cameFromList⟩

/-- Replaces the field with the focus. -/
def setField (s : FormScreen) (value : String) : FormScreen :=
  match s.focusedField with
  | .directory => { s with directory := value }
  | .projectName => { s with projectName := value }

/-- `FormToggleField`: the other field, with the cursor at its end. -/
def toggleField (s : FormScreen) : FormScreen :=
  let s := { s with
    focusedField := match s.focusedField with
      | .directory => .projectName
      | .projectName => .directory }
  { s with cursorPosition := RustString.len s.field }

/-- `FormChar`: `field.insert(cursor_position, c)`, then one byte to the right. -/
def typeChar (s : FormScreen) (c : Char) : Option FormScreen :=
  (RustString.insert s.field s.cursorPosition c).map fun f =>
    { s.setField f with cursorPosition := s.cursorPosition + 1 }

/-- `FormBackspace`: `field.remove(cursor_position - 1)`, then one byte to the left. -/
def backspace (s : FormScreen) : Option FormScreen :=
  if s.cursorPosition > 0 then
    (RustString.remove s.field (s.cursorPosition - 1)).map fun f =>
      { s.setField f with cursorPosition := s.cursorPosition - 1 }
  else some s

/-- `FormDelete`: `field.remove(cursor_position)` before the end of the field. -/
def delete (s : FormScreen) : Option FormScreen :=
  if s.cursorPosition < RustString.len s.field then
    (RustString.remove s.field s.cursorPosition).map s.setField
  else some s

/-- `FormLeft`: one byte to the left, `saturating_sub`. -/
def left (s : FormScreen) : FormScreen := { s with cursorPosition := s.cursorPosition - 1 }

/-- `FormRight`: one byte to the right, up to the end of the field. -/
def right (s : FormScreen) : FormScreen :=
  if s.cursorPosition < RustString.len s.field then
    { s with cursorPosition := s.cursorPosition + 1 }
  else s

/-- `FormHome`. -/
def home (s : FormScreen) : FormScreen := { s with cursorPosition := 0 }

/-- `FormEnd`. -/
def toEnd (s : FormScreen) : FormScreen := { s with cursorPosition := RustString.len s.field }

@[simp] theorem field_cursor (s : FormScreen) (n : Nat) :
    ({ s with cursorPosition := n } : FormScreen).field = s.field := rfl

@[simp] theorem field_setField (s : FormScreen) (value : String) : (s.setField value).field = value := by
  cases h : s.focusedField <;> simp [setField, field, h]

@[simp] theorem focusedField_setField (s : FormScreen) (value : String) :
    (s.setField value).focusedField = s.focusedField := by
  cases h : s.focusedField <;> simp [setField, h]

@[simp] theorem cursorPosition_setField (s : FormScreen) (value : String) :
    (s.setField value).cursorPosition = s.cursorPosition := by
  cases h : s.focusedField <;> simp [setField, h]

end FormScreen

namespace App

/-- `if let Screen::List(state) = &mut self.screen { … }`. -/
def updateList (app : App) (f : ListScreen → ListScreen) : App :=
  match app.screen with
  | .list s => { app with screen := .list (f s) }
  | _ => app

/-- `if let Screen::Detail(state) = &mut self.screen { … }`. -/
def updateDetail (app : App) (f : DetailScreen → DetailScreen) : App :=
  match app.screen with
  | .detail s => { app with screen := .detail (f s) }
  | _ => app

/-- `if let Screen::NewProjectForm(state) = &mut self.screen { … }`, for an edit that may
panic. -/
def updateForm (app : App) (f : FormScreen → Option FormScreen) : Option App :=
  match app.screen with
  | .newProjectForm s => (f s).map fun s' => { app with screen := .newProjectForm s' }
  | _ => some app

/-- The second half of `handle_key`: carry out an action; `none` where it panics. -/
def applyAction (env : Env) (app : App) : Action → Option App
  | .none => some app
  | .quit => some { app with shouldQuit := true }
  | .listUp => some (app.updateList ListScreen.up)
  | .listDown => some (app.updateList ListScreen.down)
  | .listSelect selected => some <|
    match app.screen with
    | .list state =>
      match state.items[selected]? with
      | some bp => processLoadingOrStay env { app with screen := .loading (.detail bp.name true) }
      | none => app
    | _ => app
  | .detailNextAction =>
    some (app.updateDetail fun s => { s with selectedAction := s.selectedAction.next })
  | .detailPrevAction =>
    some (app.updateDetail fun s => { s with selectedAction := s.selectedAction.prev })
  | .detailOpenCratesIo crateName => some { app with pendingAction := some (.openCratesIo crateName) }
  | .detailAdd batteryPack => some { app with pendingAction := some (.addToProject batteryPack) }
  | .detailNewProject detail cameFromList => some { app with
      screen := .newProjectForm (.ofDetail (env.currentDir.getD ".") detail cameFromList) }
  | .detailBack cameFromList => some <|
    if cameFromList then processLoadingOrStay env { app with screen := .loading (.list none) }
    else { app with shouldQuit := true }
  | .formToggleField => app.updateForm fun s => some s.toggleField
  | .formSubmit batteryPack directory name detail cameFromList => some { app with
      pendingAction := some (.newProject batteryPack directory name),
      screen := .detail ⟨detail, .newProject, cameFromList⟩ }
  | .formCancel detail cameFromList => some { app with
      screen := .detail ⟨detail, .newProject, cameFromList⟩ }
  | .formChar c => app.updateForm (·.typeChar c)
  | .formBackspace => app.updateForm FormScreen.backspace
  | .formDelete => app.updateForm FormScreen.delete
  | .formLeft => app.updateForm fun s => some s.left
  | .formRight => app.updateForm fun s => some s.right
  | .formHome => app.updateForm fun s => some s.home
  | .formEnd => app.updateForm fun s => some s.toEnd

/-- `App::handle_key`: `none` where it panics. -/
def handleKey (env : Env) (app : App) (key : KeyCode) : Option App :=
  app.applyAction env (app.screen.keyAction key)

/-! ## Facts every run uses -/

theorem processLoading_error {env : Env} {app : App} {e : String}
    (h : app.processLoading env = .error e) : processLoadingOrStay env app = app := by
  simp [processLoadingOrStay, h]

/-- A successful `process_loading` leaves the loading screen and touches nothing else. -/
theorem processLoading_ok {env : Env} {app app' : App} (h : app.processLoading env = .ok app')
    (hl : app.screen.isLoading) :
    ((∃ l, app'.screen = .list l) ∨ ∃ d, app'.screen = .detail d) ∧
      app'.shouldQuit = app.shouldQuit ∧ app'.pendingAction = app.pendingAction := by
  obtain ⟨screen, shouldQuit, pendingAction⟩ := app
  cases screen with
  | loading target =>
    cases target with
    | list filter =>
      cases hf : env.fetchBatteryPackList filter <;>
        simp [processLoading, hf, bind, Except.bind, pure, Except.pure] at h
      subst h; exact ⟨.inl ⟨_, rfl⟩, rfl, rfl⟩
    | detail name cameFromList =>
      cases hf : env.fetchBatteryPackDetail name <;>
        simp [processLoading, hf, bind, Except.bind, pure, Except.pure] at h
      subst h; exact ⟨.inr ⟨_, rfl⟩, rfl, rfl⟩
  | _ => simp [Screen.isLoading] at hl

/-- Loading a screen never opens the form. -/
theorem processLoadingOrStay_ne_form (env : Env) {app : App} (h : app.screen.isLoading)
    (s : FormScreen) : (processLoadingOrStay env app).screen ≠ .newProjectForm s := by
  unfold processLoadingOrStay
  split
  · rename_i app' h'
    rcases (processLoading_ok h' h).1 with ⟨l, hl⟩ | ⟨d, hd⟩ <;> simp [*]
  · intro hs; simp [hs, Screen.isLoading] at h

/-- `updateForm` makes its edit on the form, or leaves the app as it was. -/
theorem updateForm_cases {app app' : App} {f : FormScreen → Option FormScreen}
    (h : app.updateForm f = some app') :
    app' = app ∨ ∃ s s', app.screen = .newProjectForm s ∧ f s = some s' ∧
      app' = { app with screen := .newProjectForm s' } := by
  unfold updateForm at h
  split at h
  · rename_i s hs
    obtain ⟨s', hf, rfl⟩ := Option.map_eq_some'.mp h
    exact .inr ⟨s, s', hs, hf, rfl⟩
  · exact .inl (Option.some.inj h).symm

/-- A loading screen ignores every key. -/
theorem handleKey_loading (env : Env) {app : App} (h : app.screen.isLoading) (key : KeyCode) :
    app.handleKey env key = some app := by
  obtain ⟨screen, shouldQuit, pendingAction⟩ := app
  cases screen with
  | loading => rfl
  | _ => cases h

end App

/-! ## Runs -/

section Runs

variable (allowed : Env → KeyCode → Prop)

/-- One turn of the loop of `App::run`: a key `handle_key` handles without a panic, in an
environment `allowed` admits, or the pending action executed. The loop stops once
`should_quit` is set. -/
inductive Step : App → App → Prop
  | key {app app' : App} (env : Env) (key : KeyCode) : allowed env key →
      app.pendingAction = none → app.shouldQuit = false → app.handleKey env key = some app' →
      Step app app'
  | execute {app : App} (action : PendingAction) : app.pendingAction = some action →
      app.shouldQuit = false → Step app { app with pendingAction := none }

/-- The states `App::run` enters its loop with: `new_list` or `new_show` after the first
`process_loading` succeeded (when it fails, `run` returns the error). -/
inductive Start : App → Prop
  | newList (env : Env) (filter : Option String) {app : App} :
      (App.newList filter).processLoading env = .ok app → Start app
  | newShow (env : Env) (name : String) {app : App} :
      (App.newShow name).processLoading env = .ok app → Start app

/-- **The reachable states**: a start, then any number of steps. -/
def Reachable (app : App) : Prop :=
  ∃ app₀, Start app₀ ∧ Relation.ReflTransGen (Step allowed) app₀ app

/-- Every key in every environment: each fetch may succeed or fail. -/
def anyStep : Env → KeyCode → Prop := fun _ _ => True

/-- A start is neither a loading screen nor a form, and nothing is pending. -/
theorem Start.spec {app : App} (h : Start app) :
    app.screen.isLoading = false ∧ (∀ s, app.screen ≠ .newProjectForm s) ∧
      app.shouldQuit = false ∧ app.pendingAction = none := by
  cases h with
  | newList env filter h =>
    cases hf : env.fetchBatteryPackList filter <;>
      simp [App.processLoading, App.newList, hf, bind, Except.bind, pure, Except.pure] at h
    subst h; simp [Screen.isLoading]
  | newShow env name h =>
    cases hf : env.fetchBatteryPackDetail name <;>
      simp [App.processLoading, App.newShow, hf, bind, Except.bind, pure, Except.pure] at h
    subst h; simp [Screen.isLoading]

/-- An invariant that holds at the start and that every step keeps holds in every
reachable state. -/
theorem Reachable.induction {inv : App → Prop} (hstart : ∀ app, Start app → inv app)
    (hstep : ∀ app app', inv app → Step allowed app app' → inv app') {app : App}
    (h : Reachable allowed app) : inv app := by
  obtain ⟨app₀, h₀, hrun⟩ := h
  induction hrun with
  | refl => exact hstart _ h₀
  | tail _ hs ih => exact hstep _ _ ih hs

end Runs

end Tui

end BatteryPack
