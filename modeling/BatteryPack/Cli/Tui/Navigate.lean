import BatteryPack.Cli.Tui.Effects
import BatteryPack.Cli.Tui.List

set_option autoImplicit false

/-! # Going back

`run_list` opens the browser on the list of battery packs, `run_show` on the detail of one.
The screens are the places of a small navigation graph (`NavStep`): Enter on the list opens
a detail, Enter on "New project" its form, Enter or Esc on the form goes back to the detail,
and Esc on a detail opened from the list goes back to the list. Every run of `App::run` is
a path in that graph (`run_nav`); a fetch that fails leaves the browser on the loading
screen of the place the edge leads to.

A detail and the form carry `came_from_list`, which every edge hands on. So a run of
`run_show` never reaches the list, and Esc on its detail always quits (`run_newShow`). A
run of `run_list` goes back to a list loaded without the filter it was started with:
`DetailBack` asks for `LoadingTarget::List { filter: None }`, and Esc shows the list
`fetch_battery_pack_list(None)` returns, whatever the filter (`run_newList_esc`).
-/

namespace BatteryPack

namespace Tui

open Relation

/-! ## The navigation graph -/

/-- Where the browser is: a screen without its contents, with the origin of a detail and of
the form, and the filter a list is loaded with. -/
inductive Nav where
  | loadingList (filter : Option String)
  | list
  | loadingDetail (cameFromList : Bool)
  | detail (cameFromList : Bool)
  | form (cameFromList : Bool)
  deriving DecidableEq, Repr

/-- The place of a screen. -/
def Screen.nav : Screen → Nav
  | .loading (.list filter) => .loadingList filter
  | .loading (.detail _ cameFromList) => .loadingDetail cameFromList
  | .list _ => .list
  | .detail s => .detail s.cameFromList
  | .newProjectForm s => .form s.cameFromList

/-- The edges of the graph: the moves between screens the browser is made to offer. -/
inductive NavStep : Nav → Nav → Prop
  /-- Enter on a row of the list: its detail, or its loading screen when the fetch fails. -/
  | select : NavStep .list (.detail true)
  | selectFailed : NavStep .list (.loadingDetail true)
  /-- Enter on "New project". -/
  | openForm (cameFromList : Bool) : NavStep (.detail cameFromList) (.form cameFromList)
  /-- Enter or Esc on the form. -/
  | closeForm (cameFromList : Bool) : NavStep (.form cameFromList) (.detail cameFromList)
  /-- Esc on a detail opened from the list: the list loaded with no filter. -/
  | back : NavStep (.detail true) .list
  | backFailed : NavStep (.detail true) (.loadingList none)

/-- The places of a run that started on the list (`fromList = true`) or on a detail: the
detail and the form remember the start, the list is only on a run from the list, and it
is loaded again only with no filter. -/
def Nav.From (fromList : Bool) : Nav → Prop
  | .loadingList filter => fromList = true ∧ filter = none
  | .list => fromList = true
  | .loadingDetail cameFromList | .detail cameFromList | .form cameFromList =>
    cameFromList = fromList

/-- Every edge keeps where the run started. -/
theorem NavStep.keepsFrom {n n' : Nav} {b : Bool} (h : NavStep n n') (hn : n.From b) :
    n'.From b := by
  cases h with
  | select | selectFailed | back => exact hn.symm
  | openForm | closeForm => exact hn
  | backFailed => exact ⟨hn.symm, rfl⟩

/-! ## Every action stays or takes an edge -/

namespace App

/-- `DetailBack` loads the list it asks for, or stays on the loading screen. -/
theorem processLoadingOrStay_loadingList (env : Env) (app : App) (filter : Option String) :
    processLoadingOrStay env { app with screen := .loading (.list filter) } =
      match env.fetchBatteryPackList filter with
      | .ok items => { app with screen := .list (.fetched items) }
      | .error _ => { app with screen := .loading (.list filter) } := by
  dsimp only [processLoadingOrStay, processLoading]
  cases env.fetchBatteryPackList filter <;> rfl

/-- A load ends where it was going, or stays on its loading screen. -/
theorem processLoadingOrStay_nav (env : Env) (app : App) :
    (processLoadingOrStay env app).screen.nav = app.screen.nav ∨
      (∃ filter, app.screen = .loading (.list filter) ∧
        (processLoadingOrStay env app).screen.nav = .list) ∨
      ∃ name c, app.screen = .loading (.detail name c) ∧
        (processLoadingOrStay env app).screen.nav = .detail c := by
  unfold processLoadingOrStay
  split
  · rename_i app' hl
    rcases processLoading_spec hl with ⟨filter, _, hs, rfl⟩ | ⟨name, c, _, hs, rfl⟩ | ⟨-, rfl⟩
    · exact .inr (.inl ⟨filter, hs, rfl⟩)
    · exact .inr (.inr ⟨name, c, hs, rfl⟩)
    · exact .inl rfl
  · exact .inl rfl

theorem updateList_nav (app : App) (f : ListScreen → ListScreen) :
    (app.updateList f).screen.nav = app.screen.nav := by
  unfold updateList
  split
  · rename_i s hs
    rw [hs]
    rfl
  · rfl

theorem updateDetail_nav (app : App) {f : DetailScreen → DetailScreen}
    (hf : ∀ s, (f s).cameFromList = s.cameFromList) :
    (app.updateDetail f).screen.nav = app.screen.nav := by
  unfold updateDetail
  split
  · rename_i s hs
    rw [hs]
    exact congrArg Nav.detail (hf s)
  · rfl

/-- **Every action stays or takes an edge.** An action that fits its screen leaves the
browser where it is or moves it along one edge of the navigation graph. -/
theorem applyAction_nav {env : Env} {app app' : App} {a : Action}
    (hfits : ActionFits app.screen a) (h : app.applyAction env a = some app') :
    app'.screen.nav = app.screen.nav ∨ NavStep app.screen.nav app'.screen.nav := by
  cases a
  case formToggleField | formChar | formBackspace | formDelete | formLeft | formRight
    | formHome | formEnd =>
    refine .inl ?_
    rcases updateForm_cases h with rfl | ⟨s, s', -, -, rfl⟩
    · rfl
    · rcases applyAction_form h rfl with hs | ⟨_, _, ha, -⟩ | ⟨s'', hs, he⟩
      · rw [hs]
      · cases ha
      · rw [hs]
        exact congrArg Nav.form he.keeps.2.2
  all_goals simp only [applyAction, Option.some.injEq] at h; subst h
  case none | quit | detailOpenCratesIo | detailAdd => exact .inl rfl
  case listUp | listDown => exact .inl (updateList_nav _ _)
  case detailNextAction | detailPrevAction => exact .inl (updateDetail_nav _ fun _ => rfl)
  case listSelect selected =>
    obtain ⟨s, hs⟩ := hfits
    rw [hs]
    dsimp only
    split
    · rename_i bp _
      refine .inr ?_
      rcases processLoadingOrStay_nav env { app with screen := .loading (.detail bp.name true) } with
        hn | ⟨_, hl, -⟩ | ⟨_, _, hl, hn⟩
      · rw [hn]
        exact .selectFailed
      · cases hl
      · cases hl
        rw [hn]
        exact .select
    · exact .inl (by rw [hs])
  case detailBack cameFromList =>
    obtain ⟨s, hs, rfl⟩ := hfits
    split
    · rename_i hc
      refine .inr ?_
      rw [hs]
      show NavStep (.detail s.cameFromList) _
      rw [hc]
      rcases processLoadingOrStay_nav env { app with screen := .loading (.list none) } with
        hn | ⟨_, -, hn⟩ | ⟨_, _, hl, -⟩
      · rw [hn]
        exact .backFailed
      · rw [hn]
        exact .back
      · cases hl
    · exact .inl rfl
  case detailNewProject =>
    obtain ⟨s, hs, -, rfl⟩ := hfits
    rw [hs]
    exact .inr (.openForm _)
  case formSubmit =>
    obtain ⟨s, hs, -, -, -, -, -, rfl⟩ := hfits
    rw [hs]
    exact .inr (.closeForm _)
  case formCancel =>
    obtain ⟨s, hs, -, rfl⟩ := hfits
    rw [hs]
    exact .inr (.closeForm _)

/-- Esc on a detail goes back as the detail says. -/
theorem handleKey_detail_esc (env : Env) {app : App} {s : DetailScreen}
    (hs : app.screen = .detail s) :
    app.handleKey env .esc = app.applyAction env (.detailBack s.cameFromList) := by
  obtain ⟨screen, shouldQuit, pendingAction⟩ := app
  cases hs
  rfl

end App

/-! ## Runs from `new_list` and `new_show` -/

section Runs

variable {allowed : Env → KeyCode → Prop} {b : Bool}

theorem Step.nav_step {app app' : App} (h : Step allowed app app') :
    app'.screen.nav = app.screen.nav ∨ NavStep app.screen.nav app'.screen.nav := by
  cases h with
  | key env key _ _ _ h => exact App.applyAction_nav (Screen.actionFits_keyAction _ key) h
  | execute => exact .inl rfl

/-- **Every run is a path in the navigation graph.** Along a run of `App::run`, each step
stays where it is or takes one edge of `NavStep`. -/
theorem run_nav {app : App} {apps : List App} (h : List.Chain (Step allowed) app apps) :
    List.Chain (fun n n' => n' = n ∨ NavStep n n') app.screen.nav (apps.map (·.screen.nav)) :=
  (List.chain_map fun a : App => a.screen.nav).mpr (h.imp fun _ _ => Step.nav_step)

theorem run_from {app app' : App} (h : ReflTransGen (Step allowed) app app')
    (hinv : app.screen.nav.From b) : app'.screen.nav.From b := by
  induction h with
  | refl => exact hinv
  | tail _ hs ih =>
    rcases hs.nav_step with heq | hedge
    · rwa [heq]
    · exact hedge.keepsFrom ih

theorem from_newList {env : Env} {filter : Option String} {app : App}
    (h : (App.newList filter).processLoading env = .ok app) : app.screen.nav.From true := by
  rcases App.processLoading_spec h with ⟨_, _, -, rfl⟩ | ⟨_, _, _, hs, -⟩ | ⟨hl, -⟩
  · rfl
  · cases hs
  · cases hl

theorem from_newShow {env : Env} {name : String} {app : App}
    (h : (App.newShow name).processLoading env = .ok app) : app.screen.nav.From false := by
  rcases App.processLoading_spec h with ⟨_, _, hs, -⟩ | ⟨_, _, _, hs, rfl⟩ | ⟨hl, -⟩
  · cases hs
  · cases hs
    rfl
  · cases hl

/-- **`run_show` never reaches the list.** In a run from `new_show`, no screen is the list
or loads it, and Esc on the detail quits. -/
theorem run_newShow {env : Env} {name : String} {app₀ app : App}
    (h₀ : (App.newShow name).processLoading env = .ok app₀)
    (hrun : ReflTransGen (Step allowed) app₀ app) :
    (∀ s, app.screen ≠ .list s) ∧ (∀ filter, app.screen ≠ .loading (.list filter)) ∧
      ∀ s, app.screen = .detail s → ∀ env', app.handleKey env' .esc = some { app with shouldQuit := true } := by
  have hfrom := run_from hrun (from_newShow h₀)
  refine ⟨fun s hs => ?_, fun filter hs => ?_, fun s hs env' => ?_⟩
  · rw [hs] at hfrom
    cases hfrom
  · rw [hs] at hfrom
    cases hfrom.1
  · rw [hs] at hfrom
    rw [App.handleKey_detail_esc env' hs, show s.cameFromList = false from hfrom]
    rfl

/-- `run_show("cli-battery-pack")`: Esc on the detail quits. -/
theorem run_newShow_cli :
    (App.newShow "cli-battery-pack").processLoading registryUp =
        .ok ⟨.detail ⟨⟨"cli-battery-pack", "cli"⟩, .openCratesIo, false⟩, false, none⟩ ∧
      ReflTransGen (Step anyStep) ⟨.detail ⟨⟨"cli-battery-pack", "cli"⟩, .openCratesIo, false⟩, false, none⟩
        ⟨.detail ⟨⟨"cli-battery-pack", "cli"⟩, .addToProject, false⟩, false, none⟩ ∧
      (∀ s, Screen.detail ⟨⟨"cli-battery-pack", "cli"⟩, .addToProject, false⟩ ≠ .list s) ∧
      (∀ filter, Screen.detail ⟨⟨"cli-battery-pack", "cli"⟩, .addToProject, false⟩ ≠
        .loading (.list filter)) ∧
      ∀ s, Screen.detail ⟨⟨"cli-battery-pack", "cli"⟩, .addToProject, false⟩ = .detail s → ∀ env',
        App.handleKey env' ⟨.detail ⟨⟨"cli-battery-pack", "cli"⟩, .addToProject, false⟩, false, none⟩ .esc =
          some ⟨.detail ⟨⟨"cli-battery-pack", "cli"⟩, .addToProject, false⟩, true, none⟩ :=
  have h₀ : (App.newShow "cli-battery-pack").processLoading registryUp =
      .ok ⟨.detail ⟨⟨"cli-battery-pack", "cli"⟩, .openCratesIo, false⟩, false, none⟩ := rfl
  have hrun : ReflTransGen (Step anyStep) ⟨.detail ⟨⟨"cli-battery-pack", "cli"⟩, .openCratesIo, false⟩, false, none⟩
      ⟨.detail ⟨⟨"cli-battery-pack", "cli"⟩, .addToProject, false⟩, false, none⟩ :=
    .single (.key registryUp .tab trivial rfl rfl rfl)
  ⟨h₀, hrun, run_newShow h₀ hrun⟩

/-- **Esc goes back to the list without its filter.** In a run from `new_list filter`, every
loading screen of the list asks for no filter, and Esc on a detail shows the list
`fetch_battery_pack_list(None)` returns, or stays on its loading screen when that fetch
fails. -/
theorem run_newList_esc {env : Env} {filter : Option String} {app₀ app : App}
    (h₀ : (App.newList filter).processLoading env = .ok app₀)
    (hrun : ReflTransGen (Step allowed) app₀ app) :
    (∀ filter', app.screen = .loading (.list filter') → filter' = none) ∧
      ∀ s, app.screen = .detail s → ∀ env', app.handleKey env' .esc =
        some (match env'.fetchBatteryPackList none with
          | .ok items => { app with screen := .list (.fetched items) }
          | .error _ => { app with screen := .loading (.list none) }) := by
  have hfrom := run_from hrun (from_newList h₀)
  refine ⟨fun filter' hs => ?_, fun s hs env' => ?_⟩
  · rw [hs] at hfrom
    exact hfrom.2
  · rw [hs] at hfrom
    rw [App.handleKey_detail_esc env' hs, show s.cameFromList = true from hfrom]
    exact congrArg some (App.processLoadingOrStay_loadingList env' app none)

/-- The detail `cli-battery-pack`, opened from the list. -/
def cliFromList : App :=
  ⟨.detail ⟨⟨"cli-battery-pack", "cli-battery-pack"⟩, .openCratesIo, true⟩, false, none⟩

/-- Enter on the first row of the list opens `cli-battery-pack`. -/
theorem enter_cliFromList :
    ReflTransGen (Step anyStep) ⟨.list ⟨twoPacks, some 0⟩, false, none⟩ cliFromList :=
  .single (.key listsTwoPacks .enter trivial rfl rfl rfl)

/-- Enter on the list, as a run of one step, and its path in the navigation graph. -/
theorem run_nav_select :
    List.Chain (Step anyStep) ⟨.list ⟨twoPacks, some 0⟩, false, none⟩ [cliFromList] ∧
      List.Chain (fun n n' => n' = n ∨ NavStep n n') (Screen.list ⟨twoPacks, some 0⟩).nav
        ([cliFromList].map (·.screen.nav)) :=
  have h : List.Chain (Step anyStep) ⟨.list ⟨twoPacks, some 0⟩, false, none⟩ [cliFromList] :=
    .cons (.key listsTwoPacks .enter trivial rfl rfl rfl) .nil
  ⟨h, run_nav h⟩

/-- `run_list(Some("cli"))`, then Enter: Esc lists both battery packs again. -/
theorem run_newList_esc_cli :
    (App.newList (some "cli")).processLoading listsTwoPacks = .ok ⟨.list ⟨twoPacks, some 0⟩, false, none⟩ ∧
      ReflTransGen (Step anyStep) ⟨.list ⟨twoPacks, some 0⟩, false, none⟩ cliFromList ∧
      (∀ filter', cliFromList.screen = .loading (.list filter') → filter' = none) ∧
      ∀ s, cliFromList.screen = .detail s → ∀ env', cliFromList.handleKey env' .esc =
        some (match env'.fetchBatteryPackList none with
          | .ok items => { cliFromList with screen := .list (.fetched items) }
          | .error _ => { cliFromList with screen := .loading (.list none) }) :=
  have h₀ : (App.newList (some "cli")).processLoading listsTwoPacks =
      .ok ⟨.list ⟨twoPacks, some 0⟩, false, none⟩ := rfl
  ⟨h₀, enter_cliFromList, run_newList_esc h₀ enter_cliFromList⟩

example : cliFromList.handleKey listsTwoPacks .esc = some ⟨.list ⟨twoPacks, some 0⟩, false, none⟩ := by
  rfl

end Runs

end Tui

end BatteryPack
