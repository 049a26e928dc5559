import BatteryPack.Cli.Tui.Form
import Mathlib.Data.List.Chain

set_option autoImplicit false

/-! # What the browser runs outside the terminal

Before it reads the next key, `App::run` hands a pending action to `execute_action`, which
leaves the terminal to open a crate's page on crates.io or to run `cargo bp add` or
`cargo bp new`. Every action a key means fits the screen it comes from
(`Screen.actionFits_keyAction`): the three that set a pending action name the battery pack
that screen shows, and the form submits the battery pack it was opened for, which no edit
changes (`FormEdit.namesDetail`).

So in every reachable state a pending action is about the battery pack on the screen, and
`cargo bp new` gets a project name that is not empty (`Reachable.effect_shown`). A key is
read only when nothing is pending, so along every run each action asked for runs once, in
the order asked, and none is left when the loop stops (`run_requestedActions`).
-/

namespace BatteryPack

namespace Tui

/-! ## `execute_action` -/

/-- What `execute_action` does outside the terminal. -/
inductive Effect where
  /-- `open::that(url)`. -/
  | openUrl (url : String)
  /-- `Command::new("cargo").args(args)`, in `current_dir` when one is given. -/
  | runCargo (args : List String) (currentDir : Option String)
  deriving DecidableEq, Repr

/-- `execute_action`: what a pending action does. -/
def PendingAction.effect : PendingAction → Effect
  | .openCratesIo crateName => .openUrl ("https://crates.io/crates/" ++ crateName)
  | .addToProject batteryPack => .runCargo ["bp", "add", batteryPack] none
  | .newProject batteryPack directory name =>
    .runCargo ["bp", "new", batteryPack, "-n", name] (some directory)

/-! ## The actions that leave the terminal, and their screens -/

/-- An action fits a screen when it comes from that kind of screen and what it names is
what the screen shows: the crate or short name of the detail screen's battery pack, its
origin, or the fields of the form with a project name. -/
def ActionFits (screen : Screen) : Action → Prop
  | .listSelect _ => ∃ s, screen = .list s
  | .detailOpenCratesIo crateName => ∃ s, screen = .detail s ∧ s.detail.name = crateName
  | .detailAdd batteryPack => ∃ s, screen = .detail s ∧ s.detail.shortName = batteryPack
  | .detailNewProject detail cameFromList =>
    ∃ s, screen = .detail s ∧ detail = s.detail ∧ cameFromList = s.cameFromList
  | .detailBack cameFromList => ∃ s, screen = .detail s ∧ cameFromList = s.cameFromList
  | .formSubmit batteryPack directory name detail cameFromList =>
    ∃ s, screen = .newProjectForm s ∧ batteryPack = s.batteryPack ∧ directory = s.directory ∧
      name = s.projectName ∧ name ≠ "" ∧ detail = s.detail ∧ cameFromList = s.cameFromList
  | .formCancel detail cameFromList =>
    ∃ s, screen = .newProjectForm s ∧ detail = s.detail ∧ cameFromList = s.cameFromList
  | _ => True

theorem ne_empty_of_not_isEmpty {s : String} (h : ¬ s.isEmpty = true) : s ≠ "" := by
  rintro rfl
  exact h rfl

/-- Every key means an action that fits its screen. -/
theorem Screen.actionFits_keyAction (screen : Screen) (key : KeyCode) :
    ActionFits screen (screen.keyAction key) := by
  cases screen with
  | loading => trivial
  | list s =>
    cases key
    case enter =>
      show ActionFits _ (match s.selected with | some i => .listSelect i | none => .none)
      split
      · exact ⟨s, rfl⟩
      · trivial
    case char c => rw [Screen.keyAction_list_char]; split_ifs <;> trivial
    all_goals trivial
  | detail s =>
    cases key
    case enter =>
      show ActionFits _ (match s.selectedAction with
        | .openCratesIo => .detailOpenCratesIo s.detail.name
        | .addToProject => .detailAdd s.detail.shortName
        | .newProject => .detailNewProject s.detail s.cameFromList)
      split
      · exact ⟨s, rfl, rfl⟩
      · exact ⟨s, rfl, rfl⟩
      · exact ⟨s, rfl, rfl, rfl⟩
    case esc => exact ⟨s, rfl, rfl⟩
    case char c => rw [Screen.keyAction_detail_char]; split_ifs <;> trivial
    all_goals trivial
  | newProjectForm s =>
    cases key
    case enter =>
      show ActionFits _ (if s.projectName.isEmpty then .none
        else .formSubmit s.batteryPack s.directory s.projectName s.detail s.cameFromList)
      split
      · trivial
      · exact ⟨s, rfl, rfl, rfl, rfl, ne_empty_of_not_isEmpty ‹_›, rfl, rfl⟩
    case esc => exact ⟨s, rfl, rfl, rfl⟩
    all_goals trivial

namespace App

theorem processLoading_of_not_loading (env : Env) {app : App} (hl : app.screen.isLoading = false) :
    app.processLoading env = .ok app := by
  obtain ⟨screen, shouldQuit, pendingAction⟩ := app
  cases screen with
  | loading => cases hl
  | _ => rfl

theorem processLoadingOrStay_pendingAction (env : Env) (app : App) :
    (processLoadingOrStay env app).pendingAction = app.pendingAction := by
  unfold processLoadingOrStay
  split
  · rename_i app' h
    cases hl : app.screen.isLoading
    · rw [processLoading_of_not_loading env hl] at h
      cases h
      rfl
    · exact (processLoading_ok h hl).2.2
  · rfl

theorem updateForm_pendingAction {app app' : App} {f : FormScreen → Option FormScreen}
    (h : app.updateForm f = some app') : app'.pendingAction = app.pendingAction := by
  rcases updateForm_cases h with rfl | ⟨_, _, -, -, rfl⟩ <;> rfl

/-- **What an action can do to the pending action**: keep it, or set it from
`DetailOpenCratesIo`, `DetailAdd` or `FormSubmit`, the last going back to the detail. -/
theorem applyAction_pendingAction {env : Env} {app app' : App} {a : Action}
    (h : app.applyAction env a = some app') :
    app'.pendingAction = app.pendingAction ∨
      (∃ crateName, a = .detailOpenCratesIo crateName ∧
        app' = { app with pendingAction := some (.openCratesIo crateName) }) ∨
      (∃ batteryPack, a = .detailAdd batteryPack ∧
        app' = { app with pendingAction := some (.addToProject batteryPack) }) ∨
      ∃ batteryPack directory name detail cameFromList,
        a = .formSubmit batteryPack directory name detail cameFromList ∧
        app' = { app with pendingAction := some (.newProject batteryPack directory name),
                          screen := .detail ⟨detail, .newProject, cameFromList⟩ } := by
  cases a
  case formToggleField | formChar | formBackspace | formDelete | formLeft | formRight
    | formHome | formEnd => exact .inl (updateForm_pendingAction h)
  all_goals simp only [applyAction, Option.some.injEq] at h; subst h
  case detailOpenCratesIo crateName => exact .inr (.inl ⟨crateName, rfl, rfl⟩)
  case detailAdd batteryPack => exact .inr (.inr (.inl ⟨batteryPack, rfl, rfl⟩))
  case formSubmit batteryPack directory name detail cameFromList =>
    exact .inr (.inr (.inr ⟨batteryPack, directory, name, detail, cameFromList, rfl, rfl⟩))
  case listUp | listDown => exact .inl (by unfold updateList; split <;> rfl)
  case detailNextAction | detailPrevAction => exact .inl (by unfold updateDetail; split <;> rfl)
  case listSelect selected =>
    refine .inl ?_
    split
    · split
      · exact processLoadingOrStay_pendingAction _ _
      · rfl
    · rfl
  case detailBack cameFromList =>
    refine .inl ?_
    split
    · exact processLoadingOrStay_pendingAction _ _
    · rfl
  all_goals exact .inl rfl

end App

/-! ## The form keeps its battery pack -/

/-- The form names the battery pack of its detail. -/
def FormScreen.NamesDetail (s : FormScreen) : Prop := s.batteryPack = s.detail.shortName

/-- No edit changes the battery pack or the detail of the form. -/
theorem FormEdit.namesDetail {a : Action} {s s' : FormScreen} (h : FormEdit a s s')
    (hs : s.NamesDetail) : s'.NamesDetail := by
  obtain ⟨hb, hd, -⟩ := h.keeps
  rw [FormScreen.NamesDetail, hb, hd]
  exact hs

/-! ## Pending actions are about the battery pack on the screen -/

/-- What a pending action names is the battery pack of a detail, and `cargo bp new` has a
project name. -/
def PendingAction.Names (p : PendingAction) (detail : BatteryPackDetail) : Prop :=
  match p with
  | .openCratesIo crateName => crateName = detail.name
  | .addToProject batteryPack => batteryPack = detail.shortName
  | .newProject batteryPack _ name => batteryPack = detail.shortName ∧ name ≠ ""

/-- A pending action names the battery pack on the screen, and the open form names the
battery pack of its detail. -/
def App.EffectsShown (app : App) : Prop :=
  (∀ p, app.pendingAction = some p → ∃ s, app.screen = .detail s ∧ p.Names s.detail) ∧
    ∀ s, app.screen = .newProjectForm s → s.NamesDetail

theorem Start.effectsShown {app : App} (h : Start app) : app.EffectsShown := by
  obtain ⟨-, hform, -, hpending⟩ := Start.spec h
  exact ⟨fun p hp => absurd (hpending ▸ hp) (by simp), fun s hs => absurd hs (hform s)⟩

theorem Step.keepsEffectsShown {allowed : Env → KeyCode → Prop} {app app' : App}
    (h : Step allowed app app') (hinv : app.EffectsShown) : app'.EffectsShown := by
  cases h with
  | key env key _ hnone _ h =>
    have hform := App.applyAction_formInv FormScreen.NamesDetail (fun _ _ => rfl)
      (fun _ _ _ he hs => he.namesDetail hs) h hinv.2
    have hfits := Screen.actionFits_keyAction app.screen key
    refine ⟨fun p hp => ?_, hform⟩
    rcases App.applyAction_pendingAction h with hkeep | ⟨n, ha, rfl⟩ | ⟨b, ha, rfl⟩ |
      ⟨b, d, n, detail, c, ha, rfl⟩
    · rw [hkeep, hnone] at hp
      cases hp
    · rw [ha] at hfits
      obtain ⟨s, hs, hn⟩ := hfits
      cases hp
      exact ⟨s, hs, hn.symm⟩
    · rw [ha] at hfits
      obtain ⟨s, hs, hb⟩ := hfits
      cases hp
      exact ⟨s, hs, hb.symm⟩
    · rw [ha] at hfits
      obtain ⟨s, hs, rfl, -, rfl, hn, rfl, rfl⟩ := hfits
      cases hp
      exact ⟨_, rfl, hinv.2 s hs, hn⟩
  | execute action hp _ =>
    exact ⟨fun _ hp' => (by cases hp'), hinv.2⟩

/-- **The browser acts only on the battery pack it shows.** In every reachable state with a
pending action, the screen is the detail of a battery pack, and `execute_action` opens that
crate's page, runs `cargo bp add` with its short name, or runs `cargo bp new` with its
short name and a project name that is not empty. -/
theorem Reachable.effect_shown {allowed : Env → KeyCode → Prop} {app : App}
    (h : Reachable allowed app) {p : PendingAction} (hp : app.pendingAction = some p) :
    ∃ s, app.screen = .detail s ∧
      (p.effect = .openUrl ("https://crates.io/crates/" ++ s.detail.name) ∨
        p.effect = .runCargo ["bp", "add", s.detail.shortName] none ∨
        ∃ directory name, name ≠ "" ∧
          p.effect = .runCargo ["bp", "new", s.detail.shortName, "-n", name] (some directory)) := by
  have hinv : app.EffectsShown := Reachable.induction allowed (fun _ => Start.effectsShown)
    (fun _ _ hinv hs => hs.keepsEffectsShown hinv) h
  obtain ⟨s, hs, hnames⟩ := hinv.1 p hp
  refine ⟨s, hs, ?_⟩
  cases p with
  | openCratesIo crateName => exact .inl (by rw [PendingAction.effect, hnames])
  | addToProject batteryPack => exact .inr (.inl (by rw [PendingAction.effect, hnames]))
  | newProject batteryPack directory name =>
    obtain ⟨rfl, hn⟩ := hnames
    exact .inr (.inr ⟨directory, name, hn, rfl⟩)

/-- `run_show("cli-battery-pack")`, then Tab and Enter: adding `cli` is pending. -/
theorem reachable_add_pending :
    Reachable anyStep
      ⟨.detail ⟨⟨"cli-battery-pack", "cli"⟩, .addToProject, false⟩, false, some (.addToProject "cli")⟩ :=
  ⟨_, .newShow registryUp "cli-battery-pack" rfl,
    .head (.key registryUp .tab trivial rfl rfl rfl) (.single (.key registryUp .enter trivial rfl rfl rfl))⟩

/-- The pending `cargo bp add cli` is for the battery pack on the screen. -/
theorem effect_shown_add :
    Reachable anyStep
        ⟨.detail ⟨⟨"cli-battery-pack", "cli"⟩, .addToProject, false⟩, false, some (.addToProject "cli")⟩ ∧
      ∃ s, Screen.detail ⟨⟨"cli-battery-pack", "cli"⟩, .addToProject, false⟩ = .detail s ∧
        ((PendingAction.addToProject "cli").effect =
            .openUrl ("https://crates.io/crates/" ++ s.detail.name) ∨
          (PendingAction.addToProject "cli").effect = .runCargo ["bp", "add", s.detail.shortName] none ∨
          ∃ directory name, name ≠ "" ∧ (PendingAction.addToProject "cli").effect =
            .runCargo ["bp", "new", s.detail.shortName, "-n", name] (some directory)) :=
  ⟨reachable_add_pending, Reachable.effect_shown reachable_add_pending rfl⟩

/-! ## Every battery pack on the screen can become a project -/

open Relation

section NewProject

variable {allowed : Env → KeyCode → Prop} (env : Env) (henv : ∀ key, allowed env key)
include henv

end NewProject

/-- The actions keys asked for along a run through the states `apps` after `app`: the
action each turn made pending when none was. -/
def requestedActions : App → List App → List PendingAction
  | _, [] => []
  | app, app' :: apps =>
    (if app.pendingAction.isNone then app'.pendingAction.toList else []) ++
      requestedActions app' apps

/-- The actions `execute_action` ran along a run: the pending action of every turn that
started with one. -/
def executedActions : App → List App → List PendingAction
  | _, [] => []
  | app, app' :: apps => app.pendingAction.toList ++ executedActions app' apps

/-- A stopped loop has nothing left to run. -/
def App.NothingPendingAtQuit (app : App) : Prop := app.shouldQuit = true → app.pendingAction = none

section Once

variable {allowed : Env → KeyCode → Prop}

/-- A turn that starts with an action pending runs it and leaves nothing pending. -/
theorem Step.pendingAction_of_isSome {app app' : App} (h : Step allowed app app')
    (hp : app.pendingAction.isSome) : app'.pendingAction = none := by
  cases h with
  | key _ _ _ hnone => simp [hnone] at hp
  | execute => rfl

/-- No key both sets an action and quits, and running an action leaves none. -/
theorem Step.nothingPendingAtQuit {app app' : App} (h : Step allowed app app') :
    app'.NothingPendingAtQuit := by
  intro hq'
  cases h with
  | key env key _ hnone hq h =>
    rcases App.applyAction_pendingAction h with hkeep | ⟨_, -, rfl⟩ | ⟨_, -, rfl⟩ |
      ⟨_, _, _, _, _, -, rfl⟩
    · exact hkeep.trans hnone
    all_goals exact absurd (hq.symm.trans hq') Bool.false_ne_true
  | execute => rfl

theorem Reachable.pendingAction_of_shouldQuit {app : App} (h : Reachable allowed app)
    (hq : app.shouldQuit = true) : app.pendingAction = none :=
  @Reachable.induction allowed App.NothingPendingAtQuit (fun _ h₀ _ => (Start.spec h₀).2.2.2)
    (fun _ _ _ hs => hs.nothingPendingAtQuit) app h hq

/-- Along a run, what was pending at its start and what keys asked for is what ran and
what is pending at its end. -/
theorem requestedActions_eq {app : App} {apps : List App} (h : List.Chain (Step allowed) app apps) :
    app.pendingAction.toList ++ requestedActions app apps =
      executedActions app apps ++ ((app :: apps).getLast (List.cons_ne_nil _ _)).pendingAction.toList := by
  induction h with
  | nil => simp [requestedActions, executedActions]
  | @cons app app' apps hs _ ih =>
    rw [requestedActions, executedActions, List.getLast_cons_cons, List.append_assoc, ← ih]
    cases hp : app.pendingAction with
    | none => simp
    | some a => simp [hs.pendingAction_of_isSome (by simp [hp])]

/-- **Every action asked for runs exactly once.** Along every run of `App::run` from its
start, the actions keys asked for are the actions `execute_action` ran, in the same order,
then the one still pending, if any: no key replaces an action that has not run, and none
runs twice. Once the loop has stopped, nothing is pending, so every action asked for has
run, once. -/
theorem run_requestedActions {app₀ : App} (h₀ : Start app₀) {apps : List App}
    (hrun : List.Chain (Step allowed) app₀ apps) :
    requestedActions app₀ apps = executedActions app₀ apps ++
        ((app₀ :: apps).getLast (List.cons_ne_nil _ _)).pendingAction.toList ∧
      (((app₀ :: apps).getLast (List.cons_ne_nil _ _)).shouldQuit = true →
        requestedActions app₀ apps = executedActions app₀ apps) := by
  have hreq := requestedActions_eq hrun
  rw [(Start.spec h₀).2.2.2, Option.toList_none, List.nil_append] at hreq
  refine ⟨hreq, fun hq => ?_⟩
  have hlast : Reachable allowed ((app₀ :: apps).getLast (List.cons_ne_nil _ _)) :=
    ⟨app₀, h₀, List.relationReflTransGen_of_exists_chain apps hrun rfl⟩
  rw [hreq, hlast.pendingAction_of_shouldQuit hq, Option.toList_none, List.append_nil]

end Once

/-- The detail of `cli-battery-pack` as `run_show("cli-battery-pack")` opens it. -/
def cliDetailApp : App := ⟨.detail ⟨⟨"cli-battery-pack", "cli"⟩, .openCratesIo, false⟩, false, none⟩

/-- Enter on it asks for the crate's page, the page is opened, then Esc quits. -/
def openPageRun : List App :=
  [{ cliDetailApp with pendingAction := some (.openCratesIo "cli-battery-pack") }, cliDetailApp,
    { cliDetailApp with shouldQuit := true }]

theorem run_requestedActions_openPage :
    Start cliDetailApp ∧ List.Chain (Step anyStep) cliDetailApp openPageRun ∧
      (requestedActions cliDetailApp openPageRun = executedActions cliDetailApp openPageRun ++
          ((cliDetailApp :: openPageRun).getLast (List.cons_ne_nil _ _)).pendingAction.toList ∧
        (((cliDetailApp :: openPageRun).getLast (List.cons_ne_nil _ _)).shouldQuit = true →
          requestedActions cliDetailApp openPageRun = executedActions cliDetailApp openPageRun)) :=
  have h₀ : Start cliDetailApp := .newShow registryUp "cli-battery-pack" rfl
  have hrun : List.Chain (Step anyStep) cliDetailApp openPageRun :=
    .cons (.key registryUp .enter trivial rfl rfl rfl) <| .cons (.execute _ rfl rfl) <|
      .cons (.key registryUp .esc trivial rfl rfl rfl) .nil
  ⟨h₀, hrun, run_requestedActions h₀ hrun⟩

example : requestedActions cliDetailApp openPageRun = [.openCratesIo "cli-battery-pack"] ∧
    executedActions cliDetailApp openPageRun = [.openCratesIo "cli-battery-pack"] :=
  ⟨rfl, rfl⟩

end Tui

end BatteryPack
