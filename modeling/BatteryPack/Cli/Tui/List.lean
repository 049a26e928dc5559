import BatteryPack.Cli.Tui.App

set_option autoImplicit false

/-! # The selection of the list screen

`list_state.selected()` is the row the list screen highlights, and Enter asks for the
detail of `items.get(selected)`. What an action can do to a list screen is said once
(`App.applyAction_list`): leave it as it was, move the selection up or down, or show a
list just fetched, whose first row `process_loading` selects when there is one.

So in every reachable state the selection is a row of the list, and there is one exactly
when the list is not empty (`Reachable.selectionValid`). Enter on a list that is not empty
therefore always fetches the detail of the highlighted battery pack: the lookup
`items.get(selected)` never misses (`Reachable.handleKey_enter_list`).
-/

namespace BatteryPack

namespace Tui

/-! ## What an action does to the list -/

namespace ListScreen

/-- The list screen `process_loading` shows for the items it fetched. -/
def fetched (items : List BatteryPackSummary) : ListScreen :=
  ⟨items, if items.isEmpty then none else some 0⟩

/-- The selection is a row of the list, and there is one exactly when the list has rows. -/
def SelectionValid (s : ListScreen) : Prop :=
  match s.selected with
  | none => s.items = []
  | some i => i < s.items.length

theorem selectionValid_fetched (items : List BatteryPackSummary) : (fetched items).SelectionValid := by
  cases items with
  | nil => rfl
  | cons item items => exact Nat.succ_pos _

theorem SelectionValid.up {s : ListScreen} (h : s.SelectionValid) : s.up.SelectionValid := by
  unfold ListScreen.up
  split
  · split
    · rename_i i hi _
      show i - 1 < s.items.length
      simp only [SelectionValid, hi] at h
      omega
    · exact h
  · exact h

theorem SelectionValid.down {s : ListScreen} (h : s.SelectionValid) : s.down.SelectionValid := by
  unfold ListScreen.down
  split
  · rename_i i hi
    split
    · show i + 1 < s.items.length
      omega
    · exact h
  · exact h

end ListScreen

namespace App

theorem processLoadingOrStay_of_ok {env : Env} {app app' : App}
    (h : app.processLoading env = .ok app') : processLoadingOrStay env app = app' := by
  simp [processLoadingOrStay, h]

/-- **What `process_loading` does**: show the list or the detail it fetched, or leave a
screen that is not loading as it was. -/
theorem processLoading_spec {env : Env} {app app' : App} (h : app.processLoading env = .ok app') :
    (∃ filter items, app.screen = .loading (.list filter) ∧
        app' = { app with screen := .list (.fetched items) }) ∨
      (∃ name cameFromList detail, app.screen = .loading (.detail name cameFromList) ∧
        app' = { app with screen := .detail ⟨detail, .openCratesIo, cameFromList⟩ }) ∨
      (app.screen.isLoading = false ∧ app' = app) := by
  obtain ⟨screen, shouldQuit, pendingAction⟩ := app
  cases screen with
  | loading target =>
    cases target with
    | list filter =>
      dsimp only [processLoading] at h
      cases hf : env.fetchBatteryPackList filter <;> rw [hf] at h <;> cases h
      exact .inl ⟨filter, _, rfl, rfl⟩
    | detail name cameFromList =>
      dsimp only [processLoading] at h
      cases hf : env.fetchBatteryPackDetail name <;> rw [hf] at h <;> cases h
      exact .inr (.inl ⟨name, cameFromList, _, rfl, rfl⟩)
  | _ => cases h; exact .inr (.inr ⟨rfl, rfl⟩)

/-- A list screen after `process_loading` is the one before, or one just fetched. -/
theorem processLoadingOrStay_list {env : Env} {app : App} {s : ListScreen}
    (h : (processLoadingOrStay env app).screen = .list s) :
    app.screen = .list s ∨ ∃ items, s = .fetched items := by
  unfold processLoadingOrStay at h
  split at h
  · rename_i app' hl
    rcases processLoading_spec hl with ⟨_, items, -, rfl⟩ | ⟨_, _, _, -, rfl⟩ | ⟨-, rfl⟩
    · cases h
      exact .inr ⟨items, rfl⟩
    · cases h
    · exact .inl h
  · exact .inl h

theorem updateList_list {app : App} {f : ListScreen → ListScreen} {s' : ListScreen}
    (h : (app.updateList f).screen = .list s') :
    ∃ s, app.screen = .list s ∧ s' = f s := by
  unfold updateList at h
  split at h
  · rename_i s hs
    cases h
    exact ⟨s, hs, rfl⟩
  · rename_i hne
    exact absurd h (hne s')

theorem updateDetail_list {app : App} {f : DetailScreen → DetailScreen} {s : ListScreen}
    (h : (app.updateDetail f).screen = .list s) : app.screen = .list s := by
  unfold updateDetail at h
  split at h <;> simp_all

theorem updateForm_list {app app' : App} {f : FormScreen → Option FormScreen} {s : ListScreen}
    (h : app.updateForm f = some app') (hs : app'.screen = .list s) : app.screen = .list s := by
  rcases updateForm_cases h with rfl | ⟨_, _, -, -, rfl⟩
  · exact hs
  · cases hs

/-- **What an action can do to the list**: leave the screen as it was, move the selection
up or down, or show a list just fetched. -/
theorem applyAction_list {env : Env} {app app' : App} {a : Action} {s' : ListScreen}
    (h : app.applyAction env a = some app') (hs' : app'.screen = .list s') :
    app.screen = .list s' ∨ (∃ s, app.screen = .list s ∧ (s' = s.up ∨ s' = s.down)) ∨
      ∃ items, s' = .fetched items := by
  cases a
  case formToggleField | formChar | formBackspace | formDelete | formLeft | formRight
    | formHome | formEnd => exact .inl (updateForm_list h hs')
  all_goals simp only [applyAction, Option.some.injEq] at h; subst h
  case none | quit | detailOpenCratesIo | detailAdd => exact .inl hs'
  case listUp =>
    obtain ⟨s, hs, rfl⟩ := updateList_list hs'
    exact .inr (.inl ⟨s, hs, .inl rfl⟩)
  case listDown =>
    obtain ⟨s, hs, rfl⟩ := updateList_list hs'
    exact .inr (.inl ⟨s, hs, .inr rfl⟩)
  case detailNextAction | detailPrevAction => exact .inl (updateDetail_list hs')
  case listSelect selected =>
    revert hs'
    split
    · split
      · intro hs'
        rcases processLoadingOrStay_list hs' with hs' | hfetched
        · cases hs'
        · exact .inr (.inr hfetched)
      · exact .inl
    · exact .inl
  case detailBack cameFromList =>
    split at hs'
    · rcases processLoadingOrStay_list hs' with hs' | hfetched
      · cases hs'
      · exact .inr (.inr hfetched)
    · exact .inl hs'
  case detailNewProject | formSubmit | formCancel => cases hs'

/-- Enter on a list screen with a selection looks the selected row up. -/
theorem handleKey_list_enter (env : Env) {app : App} {s : ListScreen} (hs : app.screen = .list s)
    {i : Nat} (hi : s.selected = some i) :
    app.handleKey env .enter = some (match s.items[i]? with
      | some bp => processLoadingOrStay env { app with screen := .loading (.detail bp.name true) }
      | none => app) := by
  obtain ⟨screen, shouldQuit, pendingAction⟩ := app
  obtain ⟨items, selected⟩ := s
  cases hs
  cases hi
  rfl

end App

/-! ## The selection is always a row -/

/-- Every list screen of the app has a valid selection. -/
def App.ListSelectionValid (app : App) : Prop :=
  ∀ s, app.screen = .list s → s.SelectionValid

theorem Start.listSelectionValid {app : App} (h : Start app) : app.ListSelectionValid := by
  intro s hs
  cases h with
  | newList env _ h | newShow env _ h =>
    rw [← App.processLoadingOrStay_of_ok h] at hs
    rcases App.processLoadingOrStay_list hs with hs | ⟨items, rfl⟩
    · cases hs
    · exact ListScreen.selectionValid_fetched items

theorem Step.keepsListSelectionValid {allowed : Env → KeyCode → Prop} {app app' : App}
    (h : Step allowed app app') (hinv : app.ListSelectionValid) : app'.ListSelectionValid := by
  intro s' hs'
  cases h with
  | key env key _ _ _ h =>
    rcases App.applyAction_list h hs' with hs | ⟨s, hs, rfl | rfl⟩ | ⟨items, rfl⟩
    · exact hinv _ hs
    · exact (hinv _ hs).up
    · exact (hinv _ hs).down
    · exact ListScreen.selectionValid_fetched items
  | execute => exact hinv _ hs'

/-- **The highlighted row always exists.** In every reachable state a list screen selects
one of its rows, and selects none only when it has none. -/
theorem Reachable.selectionValid {allowed : Env → KeyCode → Prop} {app : App}
    (h : Reachable allowed app) {s : ListScreen} (hs : app.screen = .list s) :
    s.SelectionValid :=
  Reachable.induction allowed (fun _ => Start.listSelectionValid)
    (fun _ _ hinv hstep => hstep.keepsListSelectionValid hinv) h s hs

/-- A registry listing two battery packs. -/
def twoPacks : List BatteryPackSummary :=
  [⟨"cli-battery-pack", "cli"⟩, ⟨"error-battery-pack", "error"⟩]

/-- The registry of `twoPacks`, answering every detail request. -/
def listsTwoPacks : Env := ⟨fun _ => .ok twoPacks, fun name => .ok ⟨name, name⟩, none⟩

/-- `run_list(None)` lists the two battery packs, and Down highlights the second. -/
theorem reachable_twoPacks_down : Reachable anyStep ⟨.list ⟨twoPacks, some 1⟩, false, none⟩ :=
  ⟨_, .newList listsTwoPacks none rfl, .single (.key listsTwoPacks .down trivial rfl rfl rfl)⟩

/-- The second row is highlighted, and it is a row. -/
theorem selectionValid_twoPacks_down :
    Reachable anyStep ⟨.list ⟨twoPacks, some 1⟩, false, none⟩ ∧
      (ListScreen.mk twoPacks (some 1)).SelectionValid :=
  ⟨reachable_twoPacks_down, Reachable.selectionValid reachable_twoPacks_down rfl⟩

/-- **Enter always opens the highlighted battery pack.** On a reachable list screen that is
not empty, Enter fetches the detail of the highlighted row. -/
theorem Reachable.handleKey_enter_list {allowed : Env → KeyCode → Prop} {app : App}
    (h : Reachable allowed app) {s : ListScreen} (hs : app.screen = .list s)
    (hne : s.items ≠ []) (env : Env) :
    ∃ i bp, s.selected = some i ∧ s.items[i]? = some bp ∧
      app.handleKey env .enter =
        some (App.processLoadingOrStay env { app with screen := .loading (.detail bp.name true) }) := by
  have hvalid : s.SelectionValid := Reachable.induction allowed (fun _ => Start.listSelectionValid)
    (fun _ _ hinv hstep => hstep.keepsListSelectionValid hinv) h s hs
  unfold ListScreen.SelectionValid at hvalid
  cases hsel : s.selected with
  | none => rw [hsel] at hvalid; exact absurd hvalid hne
  | some i =>
    rw [hsel] at hvalid
    have hbp := List.getElem?_eq_getElem hvalid
    exact ⟨i, _, rfl, hbp, by rw [App.handleKey_list_enter env hs hsel, hbp]⟩

/-- Enter on the second row fetches `error-battery-pack`. -/
theorem handleKey_enter_list_twoPacks :
    Reachable anyStep ⟨.list ⟨twoPacks, some 1⟩, false, none⟩ ∧ twoPacks ≠ [] ∧
      ∃ i bp, (some 1 : Option Nat) = some i ∧ twoPacks[i]? = some bp ∧
        App.handleKey listsTwoPacks ⟨.list ⟨twoPacks, some 1⟩, false, none⟩ .enter =
          some (App.processLoadingOrStay listsTwoPacks
            ⟨.loading (.detail bp.name true), false, none⟩) :=
  ⟨reachable_twoPacks_down, by decide,
    Reachable.handleKey_enter_list reachable_twoPacks_down rfl (by decide) listsTwoPacks⟩

end Tui

end BatteryPack
