import BatteryPack.Cli.Tui.Form

set_option autoImplicit false

/-! # The form as a text editor

What the new-project form is for: two lines of text, one of them with a cursor, edited the
way a text field is. `TextField` is such a line as a zipper, the characters before the
cursor (nearest first) and those after it; `FormView` is the form as its user sees it, the
field with the focus as a `TextField` and the text of the other one; `FormView.key` is what
each key is meant to do.

`FormScreen.view` reads a `FormScreen` this way, taking the byte offset `cursor_position`
for a count of characters. The two agree on ASCII text: then every edit of `handle_key` is
the edit of the text field it is meant to be, one lemma per edit (`view_typeChar` and the
lemmas after it), and a whole sequence of keys typed into the form is the same sequence of
edits of the view (`handleKeys_view`). A character of several bytes is where they part: see
`FormScreen.typeChar_not_isCharBoundary`. Even then Backspace right after a character undoes
it, on any field (`App.handleKey_backspace_char`).
-/

namespace BatteryPack

namespace Tui

/-! ## A line of text with a cursor -/

/-- A line of text with a cursor: the characters before it, nearest first, and the
characters after it. -/
structure TextField where
  before : List Char
  after : List Char
  deriving DecidableEq, Repr

namespace TextField

/-- The text of the line. -/
def text (f : TextField) : List Char := f.before.reverse ++ f.after

/-- The line `cs` with the cursor after its first `i` characters. -/
def zipAt (i : Nat) (cs : List Char) : TextField := ⟨(cs.take i).reverse, cs.drop i⟩

/-- The line `cs` with the cursor at its end. -/
def atEnd (cs : List Char) : TextField := ⟨cs.reverse, []⟩

/-- Typing a character: it goes before the cursor. -/
def insert (f : TextField) (c : Char) : TextField := ⟨c :: f.before, f.after⟩

/-- Backspace: the character before the cursor goes. -/
def backspace (f : TextField) : TextField := ⟨f.before.tail, f.after⟩

/-- Delete: the character after the cursor goes. -/
def delete (f : TextField) : TextField := ⟨f.before, f.after.tail⟩

/-- Left: the cursor moves back over one character, unless it is at the start. -/
def left (f : TextField) : TextField :=
  match f.before with
  | [] => f
  | c :: cs => ⟨cs, c :: f.after⟩

/-- Right: the cursor moves over one character, unless it is at the end. -/
def right (f : TextField) : TextField :=
  match f.after with
  | [] => f
  | c :: cs => ⟨c :: f.before, cs⟩

/-- Home: the cursor to the start. -/
def home (f : TextField) : TextField := ⟨[], f.text⟩

/-- End: the cursor to the end. -/
def toEnd (f : TextField) : TextField := atEnd f.text

@[simp] theorem text_zipAt (i : Nat) (cs : List Char) : (zipAt i cs).text = cs := by
  simp [text, zipAt]

theorem zipAt_append {i : Nat} {xs ys : List Char} (h : xs.length = i) :
    zipAt i (xs ++ ys) = ⟨xs.reverse, ys⟩ := by
  simp [zipAt, List.take_left' h, List.drop_left' h]

theorem zipAt_of_length_le {i : Nat} {cs : List Char} (h : cs.length ≤ i) :
    zipAt i cs = atEnd cs := by
  simp [zipAt, atEnd, List.take_of_length_le h, List.drop_of_length_le h]

/-- Before the end, the cursor one character further on has that character before it. -/
theorem zipAt_succ {i : Nat} {cs : List Char} (h : i < cs.length) :
    zipAt (i + 1) cs = ⟨cs[i] :: (zipAt i cs).before, cs.drop (i + 1)⟩ ∧
      (zipAt i cs).after = cs[i] :: cs.drop (i + 1) := by
  refine ⟨?_, List.drop_eq_getElem_cons h⟩
  rw [zipAt, List.take_succ, List.getElem?_eq_getElem h]
  simp only [Option.toList, List.reverse_append, List.reverse_cons, List.reverse_nil, List.nil_append]
  rfl

end TextField

/-! ## The form as its user sees it -/

/-- The form as its user sees it: which field has the focus, that field with its cursor,
and the text of the other field. -/
structure FormView where
  focusedField : FormField
  focused : TextField
  other : List Char
  deriving DecidableEq, Repr

namespace FormView

/-- An edit of the field with the focus. -/
def edit (v : FormView) (f : TextField → TextField) : FormView := { v with focused := f v.focused }

theorem edit_const {v : FormView} {t : TextField} {g : TextField → TextField}
    (h : t = g v.focused) : v.edit (fun _ => t) = v.edit g := by
  simp only [edit, h]

/-- Tab: the focus moves to the other field, with the cursor at its end. -/
def toggle (v : FormView) : FormView :=
  ⟨match v.focusedField with
    | .directory => .projectName
    | .projectName => .directory,
    TextField.atEnd v.other, v.focused.text⟩

/-- What a key that stays in the form is meant to do. -/
def key (v : FormView) : KeyCode → FormView
  | .tab => v.toggle
  | .char c => v.edit (·.insert c)
  | .backspace => v.edit TextField.backspace
  | .delete => v.edit TextField.delete
  | .left => v.edit TextField.left
  | .right => v.edit TextField.right
  | .home => v.edit TextField.home
  | .endKey => v.edit TextField.toEnd
  | _ => v

end FormView

/-- Keys that leave the user in the form (neither Enter nor Esc), and type ASCII if they
type. -/
def isFormKey : KeyCode → Bool
  | .enter | .esc => false
  | .char c => c.toNat < 128
  | _ => true

namespace FormScreen

open RustString TextField

/-- The field without the focus. -/
def otherField (s : FormScreen) : String :=
  match s.focusedField with
  | .directory => s.projectName
  | .projectName => s.directory

/-- The form as its user sees it, reading the byte offset as a count of characters. -/
def view (s : FormScreen) : FormView :=
  ⟨s.focusedField, zipAt s.cursorPosition s.field.data, s.otherField.data⟩

@[simp] theorem otherField_setField (s : FormScreen) (value : String) :
    (s.setField value).otherField = s.otherField := by
  cases h : s.focusedField <;> simp [setField, otherField, h]

@[simp] theorem otherField_cursor (s : FormScreen) (n : Nat) :
    ({ s with cursorPosition := n } : FormScreen).otherField = s.otherField := rfl

@[simp] theorem view_focused (s : FormScreen) : s.view.focused = zipAt s.cursorPosition s.field.data :=
  rfl

/-- An edit that replaces the field and moves the cursor is an edit of the view. -/
theorem view_setField (s : FormScreen) (value : String) (n : Nat) :
    ({ s.setField value with cursorPosition := n } : FormScreen).view =
      s.view.edit fun _ => zipAt n value.data := by
  rw [view, field_cursor, field_setField, otherField_cursor, otherField_setField]
  simp [view, FormView.edit]

theorem view_setField_self (s : FormScreen) (value : String) :
    (s.setField value).view = s.view.edit fun _ => zipAt s.cursorPosition value.data := by
  simp [view, FormView.edit]

theorem view_cursor (s : FormScreen) (n : Nat) :
    ({ s with cursorPosition := n } : FormScreen).view = s.view.edit fun _ => zipAt n s.field.data :=
  rfl

/-! ### One lemma per edit

An ASCII field with the cursor in range is where a byte offset counts characters;
`toggleField`, `home` and `toEnd` agree with the view on every field. -/

section Edits

variable {s : FormScreen}

theorem view_toggleField (s : FormScreen) : s.toggleField.view = s.view.toggle := by
  have hlen := length_le_len s.otherField
  cases h : s.focusedField <;>
    simp only [toggleField, view, field, otherField, FormView.toggle, text_zipAt, h] <;>
    rw [zipAt_of_length_le] <;> simpa [otherField, h] using hlen

theorem view_home (s : FormScreen) : s.home.view = s.view.edit TextField.home :=
  (view_cursor s 0).trans (FormView.edit_const (by simp [TextField.home, TextField.text, zipAt]))

theorem view_toEnd (s : FormScreen) : s.toEnd.view = s.view.edit TextField.toEnd :=
  (view_cursor s _).trans (FormView.edit_const (by
    rw [view_focused, TextField.toEnd, text_zipAt]
    exact zipAt_of_length_le (length_le_len s.field)))

variable (ha : IsAscii s.field) (hc : s.CursorInRange)
include ha hc

omit hc in
theorem length_field : s.field.length = len s.field := (utf8Len_of_ascii ha).symm

theorem cursor_le_length : s.cursorPosition ≤ s.field.length := length_field ha ▸ hc

theorem view_typeChar {s' : FormScreen} {c : Char} (h : s.typeChar c = some s') :
    s'.view = s.view.edit (·.insert c) := by
  have hi := cursor_le_length ha hc
  rw [typeChar, RustString.insert, insertAt_of_ascii ha hi] at h
  cases h
  rw [view_setField]
  refine FormView.edit_const ?_
  rw [List.append_cons, zipAt_append (by simp [hi])]
  simp [TextField.insert, zipAt]

theorem view_backspace {s' : FormScreen} (h : s.backspace = some s') :
    s'.view = s.view.edit TextField.backspace := by
  have hi := cursor_le_length ha hc
  unfold backspace at h
  split at h
  · obtain ⟨j, hj⟩ : ∃ j, s.cursorPosition = j + 1 := ⟨_, (Nat.succ_pred_eq_of_pos ‹_›).symm⟩
    have hj' : j < s.field.length := by omega
    rw [hj, Nat.add_sub_cancel, remove, removeAt_of_ascii ha hj'] at h
    cases h
    rw [view_setField]
    refine FormView.edit_const ?_
    rw [zipAt_append (by simp; omega), view_focused, hj, (@zipAt_succ j s.field.data hj').1]
    rfl
  · cases h
    exact (view_cursor s _).trans (FormView.edit_const (by
      simp [TextField.backspace, zipAt, show s.cursorPosition = 0 by omega]))

omit hc in
theorem view_delete {s' : FormScreen} (h : s.delete = some s') :
    s'.view = s.view.edit TextField.delete := by
  have hlen := length_field ha
  unfold delete at h
  split at h
  · have hi : s.cursorPosition < s.field.length := by omega
    rw [remove, removeAt_of_ascii ha hi] at h
    cases h
    rw [view_setField_self]
    refine FormView.edit_const ?_
    rw [zipAt_append (by simp; omega)]
    simp [TextField.delete, zipAt, List.tail_drop]
  · cases h
    have hend : s.field.data.drop s.cursorPosition = [] := List.drop_of_length_le (by simp; omega)
    exact (view_cursor s _).trans (FormView.edit_const (by simp [TextField.delete, zipAt, hend]))

theorem view_left : s.left.view = s.view.edit TextField.left := by
  have hi := cursor_le_length ha hc
  refine (view_cursor s _).trans (FormView.edit_const ?_)
  cases hj : s.cursorPosition with
  | zero => simp [TextField.left, hj, zipAt]
  | succ j =>
    have hz := @zipAt_succ j s.field.data (by simp; omega)
    rw [view_focused, hj, hz.1, Nat.add_sub_cancel]
    exact congrArg (TextField.mk (zipAt j s.field.data).before) hz.2

omit hc in
theorem view_right : s.right.view = s.view.edit TextField.right := by
  have hlen := length_field ha
  unfold right
  split
  · have hz := @zipAt_succ s.cursorPosition s.field.data (by simp; omega)
    refine (view_cursor s _).trans (FormView.edit_const ?_)
    rw [view_focused, TextField.right, hz.2, hz.1]
  · have hend : s.field.data.drop s.cursorPosition = [] := List.drop_of_length_le (by simp; omega)
    exact (view_cursor s _).trans (FormView.edit_const (by simp [TextField.right, zipAt, hend]))

end Edits

/-! ### Backspace undoes a typed character

On any field, ASCII or not: `String::remove` at the offset of an insert takes the inserted
character out again (`RustString.remove_insert`). -/

theorem setField_field_cursor (s : FormScreen) (f : String) (n : Nat) :
    { ({ s.setField f with cursorPosition := n } : FormScreen).setField s.field with
      cursorPosition := s.cursorPosition } = s := by
  obtain ⟨batteryPack, directory, projectName, focusedField, cursorPosition, detail, cameFromList⟩ := s
  cases focusedField <;> rfl

theorem backspace_typeChar {s s' : FormScreen} {c : Char} (h : s.typeChar c = some s') :
    s'.backspace = some s := by
  obtain ⟨f, hf, rfl⟩ := Option.map_eq_some'.mp h
  unfold backspace
  rw [if_pos (Nat.succ_pos _)]
  simp only [field_cursor, field_setField, Nat.add_sub_cancel, remove_insert hf, Option.map_some',
    setField_field_cursor]

end FormScreen

/-! ## Keys typed into the form -/

namespace App

/-- `handle_key` for each key in turn, in one environment; `none` where one panics. -/
def handleKeys (env : Env) (app : App) : List KeyCode → Option App
  | [] => some app
  | key :: keys => (app.handleKey env key).bind fun app => app.handleKeys env keys

theorem updateForm_of_form {app : App} {s s' : FormScreen} {f : FormScreen → Option FormScreen}
    (hs : app.screen = .newProjectForm s) (h : f s = some s') :
    app.updateForm f = some { app with screen := .newProjectForm s' } := by
  simp [updateForm, hs, h]

/-- An edit of the form that succeeds leaves it ASCII, with the cursor in range, showing the
same battery pack. -/
theorem exists_of_formEdit {env : Env} {app : App} {s s' : FormScreen} {a : Action}
    {f : FormScreen → Option FormScreen} {v : FormView} (hs : app.screen = .newProjectForm s)
    (ha : s.AsciiFields) (hc : s.CursorInRange) (he : FormEdit a s s')
    (hchar : ∀ c, a = .formChar c → c.toNat < 128) (happ : app.applyAction env a = app.updateForm f)
    (hf : f s = some s') (hv : s'.view = v) :
    ∃ s', app.applyAction env a = some { app with screen := .newProjectForm s' } ∧ s'.view = v ∧
      s'.AsciiFields ∧ s'.CursorInRange ∧
      s'.batteryPack = s.batteryPack ∧ s'.detail = s.detail ∧ s'.cameFromList = s.cameFromList :=
  ⟨s', happ.trans (updateForm_of_form hs hf), hv, he.asciiFields hchar ha, he.cursorInRange hc, he.keeps⟩

open FormScreen in
/-- One key typed into an ASCII form with the cursor in range is the edit of the view it is
meant to be; the form stays ASCII, with the cursor in range, showing the same battery pack. -/
theorem handleKey_view {env : Env} {app : App} {s : FormScreen} (hs : app.screen = .newProjectForm s)
    (ha : s.AsciiFields) (hc : s.CursorInRange) {key : KeyCode} (hkey : isFormKey key) :
    ∃ s', app.handleKey env key = some { app with screen := .newProjectForm s' } ∧
      s'.view = s.view.key key ∧ s'.AsciiFields ∧ s'.CursorInRange ∧
      s'.batteryPack = s.batteryPack ∧ s'.detail = s.detail ∧ s'.cameFromList = s.cameFromList := by
  have hf := isAscii_field ha
  obtain ⟨htype, hback, hdel⟩ := edits_isSome ha hc
  rw [handleKey, hs]
  cases key with
  | enter | esc => cases hkey
  | up | down | backTab | other =>
    obtain ⟨screen, shouldQuit, pendingAction⟩ := app
    cases hs
    exact ⟨s, rfl, rfl, ha, hc, rfl, rfl, rfl⟩
  | tab =>
    exact exists_of_formEdit hs ha hc (.toggleField s) (fun _ h => by cases h) (by rfl) rfl
      (view_toggleField s)
  | char c =>
    obtain ⟨s', h⟩ := Option.isSome_iff_exists.mp (htype c)
    exact exists_of_formEdit hs ha hc (.typeChar c h)
      (fun _ h => by cases h; simpa [isFormKey] using hkey) (by rfl) h (view_typeChar hf hc h)
  | backspace =>
    obtain ⟨s', h⟩ := Option.isSome_iff_exists.mp hback
    exact exists_of_formEdit hs ha hc (.backspace h) (fun _ h => by cases h) (by rfl) h
      (view_backspace hf hc h)
  | delete =>
    obtain ⟨s', h⟩ := Option.isSome_iff_exists.mp hdel
    exact exists_of_formEdit hs ha hc (.delete h) (fun _ h => by cases h) (by rfl) h
      (view_delete hf h)
  | left =>
    exact exists_of_formEdit hs ha hc (.left s) (fun _ h => by cases h) (by rfl) rfl (view_left hf hc)
  | right =>
    exact exists_of_formEdit hs ha hc (.right s) (fun _ h => by cases h) (by rfl) rfl (view_right hf)
  | home =>
    exact exists_of_formEdit hs ha hc (.home s) (fun _ h => by cases h) (by rfl) rfl (view_home s)
  | endKey =>
    exact exists_of_formEdit hs ha hc (.toEnd s) (fun _ h => by cases h) (by rfl) rfl (view_toEnd s)

/-- A run of keys typed into an ASCII form with the cursor in range is the same run of
edits of the view. -/
theorem handleKeys_view_of_ascii {env : Env} {app : App} {s : FormScreen}
    (hs : app.screen = .newProjectForm s) (ha : s.AsciiFields) (hc : s.CursorInRange)
    {keys : List KeyCode} (hkeys : ∀ key ∈ keys, isFormKey key) :
    ∃ s', app.handleKeys env keys = some { app with screen := .newProjectForm s' } ∧
      s'.view = keys.foldl FormView.key s.view ∧
      s'.batteryPack = s.batteryPack ∧ s'.detail = s.detail ∧ s'.cameFromList = s.cameFromList := by
  induction keys generalizing app s with
  | nil =>
    obtain ⟨screen, shouldQuit, pendingAction⟩ := app
    cases hs
    exact ⟨s, rfl, rfl, rfl, rfl, rfl⟩
  | cons key keys ih =>
    obtain ⟨s₁, h₁, hv₁, ha₁, hc₁, hb₁, hd₁, hl₁⟩ :=
      handleKey_view hs ha hc (hkeys key (List.mem_cons_self _ _))
    obtain ⟨s', h', hv', hb', hd', hl'⟩ :=
      @ih { app with screen := .newProjectForm s₁ } s₁ rfl ha₁ hc₁
        fun k hk => hkeys k (List.mem_cons_of_mem _ hk)
    refine ⟨s', ?_, ?_, hb'.trans hb₁, hd'.trans hd₁, hl'.trans hl₁⟩
    · rw [handleKeys, h₁, Option.some_bind, h']
    · rw [hv', hv₁, List.foldl_cons]

end App

section Runs

/-- **Backspace undoes a typed character.** On the new-project form, whatever the character,
of one byte or several, and wherever the cursor, when typing it does not panic, Backspace
right after it does not panic either and gives back the state from before it. -/
theorem App.handleKey_backspace_char {env : Env} {app app' : App} {s : FormScreen} {c : Char}
    (hs : app.screen = .newProjectForm s) (h : app.handleKey env (.char c) = some app') :
    app'.handleKey env .backspace = some app := by
  obtain ⟨screen, shouldQuit, pendingAction⟩ := app
  cases hs
  change Option.map _ (s.typeChar c) = _ at h
  obtain ⟨s', hs', rfl⟩ := Option.map_eq_some'.mp h
  show Option.map _ s'.backspace = _
  rw [FormScreen.backspace_typeChar hs']
  rfl

/-- `é` typed after `x` in the project name, then Backspace. -/
theorem handleKey_backspace_eAcute :
    (⟨.newProjectForm ⟨"cli", "/home/user", "x", .projectName, 1, ⟨"cli-battery-pack", "cli"⟩,
        false⟩, false, none⟩ : App).screen =
      .newProjectForm ⟨"cli", "/home/user", "x", .projectName, 1, ⟨"cli-battery-pack", "cli"⟩, false⟩ ∧
      App.handleKey registryUp ⟨.newProjectForm ⟨"cli", "/home/user", "x", .projectName, 1,
        ⟨"cli-battery-pack", "cli"⟩, false⟩, false, none⟩ (.char 'é') =
        some ⟨.newProjectForm ⟨"cli", "/home/user", "xé", .projectName, 2, ⟨"cli-battery-pack", "cli"⟩,
          false⟩, false, none⟩ ∧
      App.handleKey registryUp ⟨.newProjectForm ⟨"cli", "/home/user", "xé", .projectName, 2,
        ⟨"cli-battery-pack", "cli"⟩, false⟩, false, none⟩ .backspace =
        some ⟨.newProjectForm ⟨"cli", "/home/user", "x", .projectName, 1, ⟨"cli-battery-pack", "cli"⟩,
          false⟩, false, none⟩ :=
  have h : App.handleKey registryUp ⟨.newProjectForm ⟨"cli", "/home/user", "x", .projectName, 1,
      ⟨"cli-battery-pack", "cli"⟩, false⟩, false, none⟩ (.char 'é') =
      some ⟨.newProjectForm ⟨"cli", "/home/user", "xé", .projectName, 2, ⟨"cli-battery-pack", "cli"⟩,
        false⟩, false, none⟩ := by decide
  ⟨rfl, h, App.handleKey_backspace_char rfl h⟩

/-- **The form is a text editor.** In every state reachable with keys that type ASCII and
an ASCII working directory, with the new-project form open, keys other than Enter and Esc
that type ASCII never panic and keep the form open, and what they do to the form as its user
sees it is what the same keys do to two text fields: a character goes in before the cursor,
Backspace and Delete remove the character before and after it, Left, Right, Home and End
move the cursor by characters, and Tab moves it to the end of the other field. The battery
pack, the detail and the origin of the form do not change. -/
theorem Reachable.handleKeys_view {app : App} (h : Reachable asciiStep app) {s : FormScreen}
    (hs : app.screen = .newProjectForm s) (env : Env) {keys : List KeyCode}
    (hkeys : ∀ key ∈ keys, isFormKey key) :
    ∃ s', app.handleKeys env keys = some { app with screen := .newProjectForm s' } ∧
      s'.view = keys.foldl FormView.key s.view ∧
      s'.batteryPack = s.batteryPack ∧ s'.detail = s.detail ∧ s'.cameFromList = s.cameFromList :=
  App.handleKeys_view_of_ascii hs
    (Reachable.formInv (fun _ _ hinv hs => hs.keepsFormAscii hinv) h s hs)
    (Reachable.formInv (fun _ _ hinv hs => hs.keepsFormCursorInRange hinv) h s hs) hkeys

/-- The form of `cli` after `a` is typed into the project name. -/
def typedForm : FormScreen :=
  ⟨"cli", "/home/user", "a", .projectName, 1, ⟨"cli-battery-pack", "cli"⟩, false⟩

/-- After `a`, the keys `b`, Left, `c`, Tab, Home. -/
theorem handleKeys_view_typed :
    Reachable asciiStep ⟨.newProjectForm typedForm, false, none⟩ ∧
      (∀ key ∈ [.char 'b', .left, .char 'c', .tab, .home], isFormKey key) ∧
      ∃ s', App.handleKeys registryUp ⟨.newProjectForm typedForm, false, none⟩
          [.char 'b', .left, .char 'c', .tab, .home] = some ⟨.newProjectForm s', false, none⟩ ∧
        s'.view = [.char 'b', .left, .char 'c', .tab, .home].foldl FormView.key typedForm.view ∧
        s'.batteryPack = typedForm.batteryPack ∧ s'.detail = typedForm.detail ∧
        s'.cameFromList = typedForm.cameFromList :=
  have h : Reachable asciiStep ⟨.newProjectForm typedForm, false, none⟩ :=
    (reachable_form_typed 'a').mono fun env key ⟨henv, hkey⟩ =>
      ⟨fun c hc => by simp_all, fun d hd => by subst henv; cases hd; decide⟩
  have hkeys : ∀ key ∈ [KeyCode.char 'b', .left, .char 'c', .tab, .home], isFormKey key := by decide
  ⟨h, hkeys, Reachable.handleKeys_view h rfl registryUp hkeys⟩

example : App.handleKeys registryUp ⟨.newProjectForm typedForm, false, none⟩
      [.char 'b', .left, .char 'c', .tab, .home] =
    some ⟨.newProjectForm ⟨"cli", "/home/user", "acb", .directory, 0, ⟨"cli-battery-pack", "cli"⟩,
      false⟩, false, none⟩ ∧
    [.char 'b', .left, .char 'c', .tab, .home].foldl FormView.key typedForm.view =
      ⟨.directory, ⟨[], "/home/user".data⟩, "acb".data⟩ := by
  decide

end Runs

end Tui

end BatteryPack
