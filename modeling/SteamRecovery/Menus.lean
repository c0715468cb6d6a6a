import Mathlib.Data.List.Induction
import SteamRecovery.Cursor
import SteamRecovery.Fifo

/-!
Menus (`ui.c`). The loop of the main thread over the keys and the handler of the touch
events move the same selection, in any order, and so does nothing else. The selection
never leaves the list, it rests on no header, and what is chosen was highlighted when
the key that confirmed it was handled (`menu_choice_highlighted`).
-/
namespace SteamRecovery.Menus

def NO_ACTION : Int := -1
def HIGHLIGHT_UP : Int := -2
def HIGHLIGHT_DOWN : Int := -3
def SELECT_ITEM : Int := -4
def GO_BACK : Int := -5
def SELECT_ITEM_MOUSE : Int := -6

def CHAR_HEIGHT : Int := 18
def MENU_ELEMENT_HEIGHT : Int := CHAR_HEIGHT * 4
def menu_max_height : Int := 480
def INT_MAX : Int := 2147483647

inductive MenuType where
  | MENU_TYPE_GLOBAL_HEADER
  | MENU_TYPE_ELEMENT
  | MENU_TYPE_GROUP_HEADER
  | MENU_TYPE_CHECKBOX
  | MENU_TYPE_RADIOBOX
  deriving DecidableEq, Repr

/-- `struct menuElement`; a NULL pointer is `none`. -/
structure MenuElement where
  id : Int
  group_id : Int
  type : MenuType
  text : Option (List Char)
  help : Option (List Char)
  deriving DecidableEq

/-- The variables of the menu. `menu_items` is the length of the list behind `menu_first`. -/
structure Ui where
  menu : List MenuElement
  menu_sel : Nat
  show_menu : Bool
  show_text : Bool
  menu_pos : Int
  menu_start_pos : Int
  menu_sel_mouse_valid : Bool
  /-- `gr_fb_width()` -/
  fb_width : Int

def is_header (el : MenuElement) : Bool := el.type = .MENU_TYPE_GLOBAL_HEADER || el.type = .MENU_TYPE_GROUP_HEADER

/-! ### Building menus -/

/-- The headers are one element, with the lines that are not empty behind the first. -/
def header_text : List (List Char) → List Char
  | [] => []
  | first :: rest => rest.foldl (fun text line => if line ≠ [] then text ++ '\n' :: line else text) first

/-- An item with its help behind the last `\001`, which stays at the end of the text. -/
def item_element (id : Nat) (item : List Char) : MenuElement :=
  let before := (item.reverse.dropWhile (· ≠ '\x01')).reverse
  if before = [] then ⟨id, 0, .MENU_TYPE_ELEMENT, some item, none⟩
  else ⟨id, 0, .MENU_TYPE_ELEMENT, some before, some (item.drop before.length)⟩

def ui_start_menu (headers items : List (List Char)) (ui : Ui) : Ui :=
  let top := if headers = [] then [] else [⟨-1, 0, .MENU_TYPE_GLOBAL_HEADER, some (header_text headers), none⟩]
  { ui with
    menu := top ++ items.mapIdx item_element
    menu_sel := top.length
    show_menu := true
    menu_pos := 0 }

def ui_start_menu_ext (ui : Ui) : Ui := { ui with menu := [], menu_sel := 0, menu_pos := 0 }

def ui_add_menu_ext (ui : Ui) (el : MenuElement) : Ui := { ui with menu := ui.menu ++ [el] }

/-- A menu of elements added one by one. -/
def build_menu (added : List MenuElement) (ui : Ui) : Ui := added.foldl ui_add_menu_ext (ui_start_menu_ext ui)

/-! ### Moving the selection -/

/-- Where the selection may rest. -/
def rows (menu : List MenuElement) : List Bool := menu.map fun el => !is_header el

/-- The scroll position that has the selection in the middle, as far as that goes. -/
def centered (menu_items sel : Nat) : Int :=
  let menu_all_height := menu_items * MENU_ELEMENT_HEIGHT
  let menu_height := min menu_all_height menu_max_height
  let menu_pos := -(sel * MENU_ELEMENT_HEIGHT - menu_height / 2 + MENU_ELEMENT_HEIGHT / 2)
  max (min menu_pos 0) (-menu_all_height + menu_height)

/-- The selection behind it is what is returned. Without a row to rest on the loop goes on
    for ever. -/
def ui_menu_select (ui : Ui) (sel : Int) : Option Ui :=
  (Cursor.settle (rows ui.menu) (decide ((ui.menu_sel : Int) ≤ sel)) ui.menu.length sel).map fun menu_sel =>
    { ui with
      show_text := true
      show_menu := true
      menu_sel := menu_sel
      menu_pos := centered ui.menu.length menu_sel }

/-- The number and the element, unless the selection is behind the end of the list. -/
def ui_get_selected_ext (ui : Ui) : Option (Nat × MenuElement) := ui.menu[ui.menu_sel]?.map fun el => (ui.menu_sel, el)

def ui_valid_mouse_select (ui : Ui) : Bool := ui.menu_sel_mouse_valid && ui.show_text

def BTN_MOUSE : Nat := 0x110
def BTN_GEAR_UP : Nat := 0x151

/-- A touch event: whether and where a finger went down, where the first one is, and the
    code of the fake key. -/
structure Touch where
  grab_pressure : Bool
  grab_y : Int
  x : Int
  y : Int
  code : Nat

/-- The part of `ui_handle_mouse_input` for a finger on the screen. -/
def grab (ui : Ui) (touch : Touch) : Option Ui :=
  if touch.grab_y < menu_max_height then
    if ui.menu_start_pos = INT_MAX then
      let opos := ui.menu_pos
      let ui := { ui with menu_start_pos := ui.menu_pos }
      let nsel := (-ui.menu_pos + touch.grab_y).tdiv MENU_ELEMENT_HEIGHT
      if 0 ≤ nsel ∧ nsel < ui.menu.length then
        (ui_menu_select ui nsel).map fun ui =>
          { ui with
            menu_pos := opos
            -- a touch on a header leaves it as it was
            menu_sel_mouse_valid := if (ui.menu_sel : Int) = nsel then true else ui.menu_sel_mouse_valid }
      else some { ui with menu_sel_mouse_valid := false }
    else some { ui with menu_pos := ui.menu_start_pos - (touch.grab_y - touch.y) }
  else some { ui with menu_sel_mouse_valid := false }

/-- The menu's part of the handler, and the code that the key queue gets. -/
def ui_handle_mouse_input (ui : Ui) (touch : Touch) : Option (Ui × Nat) :=
  if ui.show_menu ∧ ui.show_text then
    match if touch.grab_pressure then grab ui touch else some ui with
    | none => none
    | some ui =>
      if touch.code = BTN_MOUSE ∧ touch.x > ui.fb_width - 60 then
        (ui_get_selected_ext ui).map fun (_, el) => (ui, if el.help.isSome then BTN_GEAR_UP else touch.code)
      else some (ui, touch.code)
  else some (ui, if !ui.show_text ∧ touch.code = BTN_MOUSE then BTN_GEAR_UP else touch.code)

def KEY_DEVICE_VOLUP : Nat := 58
def KEY_DEVICE_VOLDOWN : Nat := 42
def KEY_DEVICE_POWER : Nat := 26
def KEY_DEVICE_HOME : Nat := 50
def KEY_DEVICE_BACK : Nat := 28

def device_handle_key (key_code : Nat) (visible : Bool) : Int :=
  if visible then
    if key_code = KEY_DEVICE_VOLUP then HIGHLIGHT_DOWN
    else if key_code = KEY_DEVICE_VOLDOWN then HIGHLIGHT_UP
    else if key_code = KEY_DEVICE_POWER then NO_ACTION
    else if key_code = KEY_DEVICE_HOME then SELECT_ITEM
    else if key_code = BTN_MOUSE then SELECT_ITEM_MOUSE
    else if key_code = KEY_DEVICE_BACK then GO_BACK
    else NO_ACTION
  else NO_ACTION

/-! ### The loop over the keys -/

/-- What the two loops differ in. -/
structure Kind where
  initial_selection : Int
  /-- The element is copied out when the selection is read. -/
  copies : Bool
  /-- What is taken off the selection for the header. -/
  header : Int
  /-- An action that is a number is a choice. -/
  takes_actions : Bool

def get_menu_selection (menu_only : Bool) : Kind := ⟨1, false, 1, !menu_only⟩

def get_menu_selection_ext (initial_selection : Int) : Kind := ⟨initial_selection, true, 0, true⟩

/-- Where the main thread stands: before the first `ui_menu_select`, at `ui_wait_key`, at
    `ui_text_visible`, before the selection is read, and before the `switch`. -/
inductive Line where
  | start
  | wait
  | visible (key : Nat)
  | get (action : Int)
  | switch (action : Int)
  | done
  deriving DecidableEq

structure State where
  ui : Ui
  line : Line
  selected : Int
  el : Option MenuElement
  chosen_item : Int

/-- The condition of the loop. -/
def again (s : State) : State :=
  { s with line := if s.chosen_item < 0 ∧ s.chosen_item ≠ GO_BACK then .wait else .done }

def switch (k : Kind) (action : Int) (s : State) : Option State :=
  if action = HIGHLIGHT_UP then
    (ui_menu_select s.ui (s.selected - 1)).map fun ui => again { s with ui := ui, selected := ui.menu_sel }
  else if action = HIGHLIGHT_DOWN then
    (ui_menu_select s.ui (s.selected + 1)).map fun ui => again { s with ui := ui, selected := ui.menu_sel }
  else if action = SELECT_ITEM_MOUSE then
    some (again (if ui_valid_mouse_select s.ui then { s with chosen_item := s.selected - k.header } else s))
  else if action = SELECT_ITEM then some (again { s with chosen_item := s.selected - k.header })
  else if action = GO_BACK then some (again { s with chosen_item := GO_BACK })
  else some (again s)

/-- One step of the main thread, where it does not wait for a key. -/
def main_step (k : Kind) (s : State) : Option State :=
  match s.line with
  | .start => (ui_menu_select s.ui k.initial_selection).map fun ui => { s with ui := ui, line := .wait }
  | .wait => none
  | .visible key =>
    let action := device_handle_key key s.ui.show_text
    if action < 0 then some { s with line := .get action }
    else some (again (if k.takes_actions then { s with chosen_item := action } else s))
  | .get action =>
    if k.copies then
      (ui_get_selected_ext s.ui).map fun (selected, el) =>
        { s with selected := selected, el := some el, line := .switch action }
    else some { s with selected := s.ui.menu_sel, line := .switch action }
  | .switch action => switch k action s
  | .done => none

/-- What happens next: a key comes out of the queue, the main thread takes a step, the
    power key toggles the display, a touch is handled, or the screen is drawn, which may
    scroll the menu. -/
inductive Event where
  | key (code : Nat)
  | main
  | power
  | touch (touch : Touch)
  | draw (menu_pos menu_start_pos : Int)

def step (k : Kind) (s : State) : Event → Option State
  | .key code => if s.line = .wait then some { s with line := .visible code } else none
  | .main => main_step k s
  | .power => some { s with ui := { s.ui with show_text := !s.ui.show_text } }
  | .touch touch => (ui_handle_mouse_input s.ui touch).map fun (ui, _) => { s with ui := ui }
  | .draw menu_pos menu_start_pos =>
    some { s with ui := { s.ui with menu_pos := menu_pos, menu_start_pos := menu_start_pos } }

/-- The loop before its first step, over a menu that was built. -/
def enter (ui : Ui) (selected : Int) : State := ⟨ui, .start, selected, none, -1⟩

/-! ### Where the selection rests -/

/-- A row that is no header. -/
def Selectable (menu : List MenuElement) (row : Nat) : Prop := ∃ el, menu[row]? = some el ∧ is_header el = false

theorem rows_iff {menu : List MenuElement} {row : Nat} : (rows menu)[row]? = some true ↔ Selectable menu row := by
  simp [rows, Selectable, List.getElem?_map, Option.map_eq_some_iff]

theorem selectable_inside {menu : List MenuElement} {row : Nat} (selectable : Selectable menu row) :
    row < menu.length := by
  obtain ⟨el, here, _⟩ := selectable
  exact (List.getElem?_eq_some_iff.mp here).1

theorem ui_menu_select_spec {ui ui' : Ui} {sel : Int} (moved : ui_menu_select ui sel = some ui') :
    ui'.menu = ui.menu ∧ Selectable ui.menu ui'.menu_sel := by
  obtain ⟨row, settled, rfl⟩ := Option.map_eq_some_iff.mp moved
  exact ⟨rfl, rows_iff.mp (Cursor.settle_allowed settled)⟩

theorem ui_menu_select_total {ui : Ui} {row : Nat} (selectable : Selectable ui.menu row) {sel : Int}
    (near : Cursor.Near ui.menu.length sel) : ∃ ui', ui_menu_select ui sel = some ui' := by
  have same : (rows ui.menu).length = ui.menu.length := List.length_map _
  obtain ⟨rest, settled⟩ := Cursor.settle_total (rows_iff.mpr selectable) (decide ((ui.menu_sel : Int) ≤ sel))
    (same.symm ▸ near)
  rw [same] at settled
  exact ⟨_, by rw [ui_menu_select, settled]; rfl⟩

theorem grab_spec {ui ui' : Ui} {touch : Touch} (grabbed : grab ui touch = some ui') :
    ui'.menu = ui.menu ∧ (ui'.menu_sel = ui.menu_sel ∨ Selectable ui.menu ui'.menu_sel) := by
  unfold grab at grabbed
  split at grabbed
  · split at grabbed
    · dsimp only at grabbed
      split at grabbed
      · obtain ⟨moved, selected, rfl⟩ := Option.map_eq_some_iff.mp grabbed
        obtain ⟨menu, rests⟩ := ui_menu_select_spec selected
        exact ⟨menu, .inr rests⟩
      · cases grabbed
        exact ⟨rfl, .inl rfl⟩
    · cases grabbed
      exact ⟨rfl, .inl rfl⟩
  · cases grabbed
    exact ⟨rfl, .inl rfl⟩

theorem ui_handle_mouse_input_spec {ui ui' : Ui} {touch : Touch} {code : Nat}
    (handled : ui_handle_mouse_input ui touch = some (ui', code)) :
    ui'.menu = ui.menu ∧ (ui'.menu_sel = ui.menu_sel ∨ Selectable ui.menu ui'.menu_sel) := by
  have pressed : ∀ next, (if touch.grab_pressure then grab ui touch else some ui) = some next →
      next.menu = ui.menu ∧ (next.menu_sel = ui.menu_sel ∨ Selectable ui.menu next.menu_sel) := by
    intro next after
    split at after
    · exact grab_spec after
    · cases after
      exact ⟨rfl, .inl rfl⟩
  unfold ui_handle_mouse_input at handled
  split at handled
  · split at handled
    · cases handled
    · rename_i next after
      split at handled
      · obtain ⟨_, _, same⟩ := Option.map_eq_some_iff.mp handled
        cases same
        exact pressed _ after
      · cases handled
        exact pressed _ after
  · cases handled
    exact ⟨rfl, .inl rfl⟩

theorem device_handle_key_negative (key_code : Nat) (visible : Bool) : device_handle_key key_code visible < 0 := by
  unfold device_handle_key
  split_ifs <;> decide

/-! ### What every step keeps -/

section Loop
variable (k : Kind) (start : State)

/-- The selection was at the row when the main thread read it for the action, and since
    then no key was handled. It still is, unless a touch moved it. -/
def ReadAt (events : List Event) (action : Int) (row : Nat) (s : State) : Prop :=
  ∃ before after s₀, events = before ++ .main :: after ∧ Fifo.run (step k) start before = some s₀ ∧
    s₀.line = .get action ∧ s₀.ui.menu_sel = row ∧ (∀ code, .key code ∉ after) ∧
    ((∀ touch, .touch touch ∉ after) → s.ui.menu_sel = row)

/-- The number of a row that is no header, and the element there, as they were read. -/
structure Reading (events : List Event) (action : Int) (s : State) (row : Nat) (el : MenuElement) : Prop where
  here : start.ui.menu[row]? = some el
  rests : is_header el = false
  copied : k.copies = true → s.el = some el
  read : ReadAt k start events action row s

/-- What is known when the events have led to the state. -/
structure Known (events : List Event) (s : State) : Prop where
  menu : s.ui.menu = start.ui.menu
  inside : s.ui.menu_sel < start.ui.menu.length
  rests : s.line ≠ .start → Selectable start.ui.menu s.ui.menu_sel
  open_choice : s.line ≠ .done → s.chosen_item = -1
  reading : ∀ action, s.line = .switch action → ∃ (row : Nat) (el : MenuElement), s.selected = row ∧
    Reading k start events action s row el
  chosen : s.line = .done → ∃ (row : Nat) (el : MenuElement) (action : Int), Reading k start events action s row el ∧
    (s.chosen_item = GO_BACK ∨
      (action = SELECT_ITEM ∨ action = SELECT_ITEM_MOUSE) ∧ s.chosen_item = row - k.header)

variable {k start}

/-- A step that is not the main thread's leaves what was read as it was read. -/
theorem reading_later {events : List Event} {action : Int} {s s' : State} {row : Nat} {el : MenuElement}
    (reading : Reading k start events action s row el) {e : Event} (no_key : ∀ code, e ≠ .key code)
    (copied : s'.el = s.el) (still : (∀ touch, e ≠ .touch touch) → s'.ui.menu_sel = s.ui.menu_sel) :
    Reading k start (events ++ [e]) action s' row el := by
  obtain ⟨before, after, s₀, split, ran, line, at_row, keys, touches⟩ := reading.read
  refine ⟨reading.here, reading.rests, fun copies => copied ▸ reading.copied copies, before, after ++ [e], s₀, ?_, ran,
    line, at_row, ?_, ?_⟩
  · rw [split, List.append_assoc, List.cons_append]
  · intro code member
    rcases List.mem_append.mp member with earlier | last
    · exact keys code earlier
    · exact no_key code (List.mem_singleton.mp last).symm
  · intro untouched
    rw [still fun touch same => untouched touch (by simp [same]),
      touches fun touch member => untouched touch (List.mem_append_left _ member)]

/-- A step of another thread. -/
theorem known_ui {events : List Event} {s : State} (known : Known k start events s) {e : Event} {ui : Ui}
    (menu : ui.menu = s.ui.menu) (rests : ui.menu_sel = s.ui.menu_sel ∨ Selectable s.ui.menu ui.menu_sel)
    (no_key : ∀ code, e ≠ .key code) (still : (∀ touch, e ≠ .touch touch) → ui.menu_sel = s.ui.menu_sel) :
    Known k start (events ++ [e]) { s with ui := ui } where
  menu := menu.trans known.menu
  inside := by
    rcases rests with same | selectable
    · exact same ▸ known.inside
    · exact known.menu ▸ selectable_inside selectable
  rests := by
    intro started
    rcases rests with same | selectable
    · exact same ▸ known.rests started
    · exact known.menu ▸ selectable
  open_choice := known.open_choice
  reading := by
    intro action line
    obtain ⟨row, el, selected, reading⟩ := known.reading action line
    exact ⟨row, el, selected, reading_later reading no_key rfl still⟩
  chosen := by
    intro line
    obtain ⟨row, el, action, reading, choice⟩ := known.chosen line
    exact ⟨row, el, action, reading_later reading no_key rfl still, choice⟩

theorem known_key {events : List Event} {s : State} (known : Known k start events s) (waits : s.line = .wait)
    (code : Nat) : Known k start (events ++ [.key code]) { s with line := .visible code } where
  menu := known.menu
  inside := known.inside
  rests := fun _ => known.rests (by simp [waits])
  open_choice := fun _ => known.open_choice (by simp [waits])
  reading := fun _ line => by cases line
  chosen := fun line => by cases line

/-- The loop goes on, with the selection where it may rest. -/
theorem known_again {events : List Event} {s : State} (menu : s.ui.menu = start.ui.menu)
    (rests : Selectable start.ui.menu s.ui.menu_sel) (none_chosen : s.chosen_item = -1) (later : List Event) :
    Known k start (events ++ later) (again s) := by
  have waits : (again s).line = .wait := by simp [again, none_chosen, GO_BACK]
  exact ⟨menu, selectable_inside rests, fun _ => rests, fun _ => none_chosen, fun _ line => by simp [waits] at line,
    fun line => by simp [waits] at line⟩

/-- The loop ends with the row that was read. -/
theorem known_confirm {events : List Event} {s : State} (known : Known k start events s) {action : Int}
    (line : s.line = .switch action) (confirms : action = SELECT_ITEM ∨ action = SELECT_ITEM_MOUSE)
    (above : ∀ row, Selectable start.ui.menu row → k.header ≤ row) :
    Known k start (events ++ [.main]) (again { s with chosen_item := s.selected - k.header }) := by
  obtain ⟨row, el, selected, reading⟩ := known.reading action line
  have number : 0 ≤ s.selected - k.header := by
    have := above row ⟨el, reading.here, reading.rests⟩
    omega
  have ends : (again { s with chosen_item := s.selected - k.header }).line = .done := by
    simp [again, not_lt.mpr number]
  refine ⟨known.menu, known.inside, fun _ => known.rests (by simp [line]), fun open_ => absurd ends open_,
    fun _ switches => by simp [ends] at switches, fun _ => ⟨row, el, action, ?_, .inr ⟨confirms, ?_⟩⟩⟩
  · exact reading_later reading (fun _ same => by cases same) rfl fun _ => rfl
  · show s.selected - k.header = row - k.header
    rw [selected]

theorem known_switch {events : List Event} {s s' : State} (known : Known k start events s) {action : Int}
    (line : s.line = .switch action) (above : ∀ row, Selectable start.ui.menu row → k.header ≤ row)
    (steps : switch k action s = some s') : Known k start (events ++ [.main]) s' := by
  have rests := known.rests (by simp [line])
  have none_chosen := known.open_choice (by simp [line])
  have moved : ∀ sel ui, ui_menu_select s.ui sel = some ui →
      Known k start (events ++ [.main]) (again { s with ui := ui, selected := ui.menu_sel }) := by
    intro sel ui selects
    obtain ⟨menu, selectable⟩ := ui_menu_select_spec selects
    have selectable : Selectable start.ui.menu ui.menu_sel := known.menu ▸ selectable
    refine known_again ?_ ?_ ?_ [.main]
    · exact menu.trans known.menu
    · exact selectable
    · exact none_chosen
  unfold switch at steps
  split at steps
  · obtain ⟨ui, selects, rfl⟩ := Option.map_eq_some_iff.mp steps
    exact moved _ ui selects
  split at steps
  · obtain ⟨ui, selects, rfl⟩ := Option.map_eq_some_iff.mp steps
    exact moved _ ui selects
  split at steps
  · rename_i mouse
    cases steps
    split
    · exact known_confirm known line (.inr mouse) above
    · exact known_again known.menu rests none_chosen [.main]
  split at steps
  · rename_i select
    cases steps
    exact known_confirm known line (.inl select) above
  split at steps
  · obtain ⟨row, el, _, reading⟩ := known.reading action line
    cases steps
    exact ⟨known.menu, known.inside, fun _ => rests, fun open_ => absurd rfl open_, fun _ line => (by cases line),
      fun _ => ⟨row, el, action, reading_later reading (fun _ same => by cases same) rfl fun _ => rfl, .inl rfl⟩⟩
  · cases steps
    exact known_again known.menu rests none_chosen [.main]

theorem known_main {events : List Event} {s s' : State} (known : Known k start events s)
    (ran : Fifo.run (step k) start events = some s) (above : ∀ row, Selectable start.ui.menu row → k.header ≤ row)
    (steps : main_step k s = some s') : Known k start (events ++ [.main]) s' := by
  unfold main_step at steps
  split at steps
  · rename_i line
    obtain ⟨ui, selects, rfl⟩ := Option.map_eq_some_iff.mp steps
    obtain ⟨menu, selectable⟩ := ui_menu_select_spec selects
    have selectable : Selectable start.ui.menu ui.menu_sel := known.menu ▸ selectable
    exact ⟨menu.trans known.menu, selectable_inside selectable, fun _ => selectable,
      fun _ => known.open_choice (by simp [line]), fun _ line => (by cases line), fun line => (by cases line)⟩
  · cases steps
  · rename_i key line
    rw [if_pos (device_handle_key_negative key s.ui.show_text)] at steps
    cases steps
    exact ⟨known.menu, known.inside, fun _ => known.rests (by simp [line]),
      fun _ => known.open_choice (by simp [line]), fun _ line => (by cases line), fun line => (by cases line)⟩
  · rename_i action line
    have rests := known.rests (by simp [line])
    obtain ⟨el, here, no_header⟩ := rests
    have selected_el : ui_get_selected_ext s.ui = some (s.ui.menu_sel, el) := by
      rw [ui_get_selected_ext, known.menu, here]
      rfl
    have read : ∀ read_el, ReadAt k start (events ++ [.main]) action s.ui.menu_sel
        { s with selected := s.ui.menu_sel, el := read_el, line := .switch action } :=
      fun read_el => ⟨events, [], s, rfl, ran, line, rfl, fun _ member => (List.not_mem_nil member).elim, fun _ => rfl⟩
    cases copies : k.copies with
    | true =>
      rw [if_pos copies, selected_el] at steps
      cases steps
      refine ⟨known.menu, known.inside, fun _ => ⟨el, here, no_header⟩, fun _ => known.open_choice (by simp [line]),
        fun switched same => ?_, fun line => (by cases line)⟩
      cases same
      exact ⟨_, el, rfl, here, no_header, fun _ => rfl, read _⟩
    | false =>
      rw [if_neg (by simp [copies])] at steps
      cases steps
      refine ⟨known.menu, known.inside, fun _ => ⟨el, here, no_header⟩, fun _ => known.open_choice (by simp [line]),
        fun switched same => ?_, fun line => (by cases line)⟩
      cases same
      exact ⟨_, el, rfl, here, no_header, fun copied => by simp [copies] at copied, read _⟩
  · rename_i action line
    exact known_switch known line above steps
  · cases steps

theorem known_step {events : List Event} {s s' : State} (known : Known k start events s)
    (ran : Fifo.run (step k) start events = some s) (above : ∀ row, Selectable start.ui.menu row → k.header ≤ row)
    {e : Event} (steps : step k s e = some s') : Known k start (events ++ [e]) s' := by
  cases e with
  | key code =>
    simp only [step] at steps
    split at steps
    · rename_i waits
      cases steps
      exact known_key known waits code
    · cases steps
  | main => exact known_main known ran above steps
  | power =>
    cases steps
    exact known_ui known rfl (.inl rfl) (fun _ same => by cases same) fun _ => rfl
  | touch touch =>
    obtain ⟨⟨ui, code⟩, handled, rfl⟩ := Option.map_eq_some_iff.mp steps
    obtain ⟨menu, rests⟩ := ui_handle_mouse_input_spec handled
    exact known_ui known menu rests (fun _ same => by cases same) fun untouched => absurd rfl (untouched touch)
  | draw menu_pos menu_start_pos =>
    cases steps
    exact known_ui known rfl (.inl rfl) (fun _ same => by cases same) fun _ => rfl

/-- The loop has a selection inside its list, and nothing is chosen yet. -/
structure Entered (start : State) : Prop where
  line : start.line = .start
  inside : start.ui.menu_sel < start.ui.menu.length
  open_choice : start.chosen_item = -1

theorem known_run (entered : Entered start) (above : ∀ row, Selectable start.ui.menu row → k.header ≤ row)
    {events : List Event} {s : State} (ran : Fifo.run (step k) start events = some s) : Known k start events s := by
  induction events using List.reverseRecOn generalizing s with
  | nil =>
    cases ran
    exact ⟨rfl, entered.inside, fun moved => absurd entered.line moved, fun _ => entered.open_choice,
      fun _ line => by simp [entered.line] at line, fun line => by simp [entered.line] at line⟩
  | append_singleton events e ih =>
    obtain ⟨middle, earlier, last⟩ := Fifo.run_append.mp ran
    obtain ⟨after, steps, rest⟩ := Fifo.run_cons.mp last
    cases rest
    exact known_step (ih earlier) earlier above steps

/-! ### Nothing hangs or crashes -/

theorem grab_total {ui : Ui} {row : Nat} (selectable : Selectable ui.menu row) (touch : Touch) :
    ∃ ui', grab ui touch = some ui' := by
  unfold grab
  split
  · split
    · dsimp only
      split
      · rename_i inside
        have near : Cursor.Near ui.menu.length ((-ui.menu_pos + touch.grab_y).tdiv MENU_ELEMENT_HEIGHT) :=
          ⟨by omega, inside.2.le⟩
        have grabbed : Selectable { ui with menu_start_pos := ui.menu_pos }.menu row := selectable
        obtain ⟨ui', selects⟩ := ui_menu_select_total grabbed near
        exact ⟨_, by rw [selects]; rfl⟩
      · exact ⟨_, rfl⟩
    · exact ⟨_, rfl⟩
  · exact ⟨_, rfl⟩

theorem ui_handle_mouse_input_total {ui : Ui} {row : Nat} (selectable : Selectable ui.menu row)
    (inside : ui.menu_sel < ui.menu.length) (touch : Touch) : ∃ handled, ui_handle_mouse_input ui touch = some handled := by
  unfold ui_handle_mouse_input
  split
  · have pressed : ∃ next, (if touch.grab_pressure then grab ui touch else some ui) = some next := by
      split
      · exact grab_total selectable touch
      · exact ⟨ui, rfl⟩
    obtain ⟨next, after⟩ := pressed
    have still_inside : next.menu_sel < next.menu.length := by
      split at after
      · obtain ⟨menu, same | moved⟩ := grab_spec after
        · rw [menu, same]
          exact inside
        · rw [menu]
          exact selectable_inside moved
      · cases after
        exact inside
    rw [after]
    dsimp only
    split
    · rw [ui_get_selected_ext, List.getElem?_eq_getElem still_inside]
      exact ⟨_, rfl⟩
    · exact ⟨_, rfl⟩
  · exact ⟨_, rfl⟩

/-- A touch is handled whenever it comes, and the main thread stops only to wait for a key
    or when it is done. -/
theorem known_goes_on {events : List Event} {s : State} (known : Known k start events s) {row : Nat}
    (selectable : Selectable start.ui.menu row) (near : Cursor.Near start.ui.menu.length k.initial_selection) :
    (∀ touch, (step k s (.touch touch)).isSome) ∧ (s.line ≠ .wait → s.line ≠ .done → (step k s .main).isSome) := by
  have inside : s.ui.menu_sel < s.ui.menu.length := known.menu ▸ known.inside
  have somewhere : Selectable s.ui.menu row := known.menu ▸ selectable
  refine ⟨fun touch => ?_, fun not_waiting not_done => ?_⟩
  · obtain ⟨handled, handles⟩ := ui_handle_mouse_input_total somewhere inside touch
    simp [step, handles]
  · have selects : ∀ sel, Cursor.Near start.ui.menu.length sel → ∃ ui', ui_menu_select s.ui sel = some ui' :=
      fun sel close => ui_menu_select_total somewhere (known.menu.symm ▸ close)
    cases line : s.line with
    | start =>
      obtain ⟨ui', moved⟩ := selects _ near
      simp [step, main_step, line, moved]
    | wait => exact absurd line not_waiting
    | visible key => simp [step, main_step, line, device_handle_key_negative]
    | get action =>
      simp only [step, main_step, line]
      split
      · simp [ui_get_selected_ext, inside]
      · rfl
    | switch action =>
      obtain ⟨read_row, el, selected, reading⟩ := known.reading action line
      have read_inside := selectable_inside ⟨el, reading.here, reading.rests⟩
      obtain ⟨above, up⟩ := selects (s.selected - 1) ⟨by omega, by omega⟩
      obtain ⟨below, down⟩ := selects (s.selected + 1) ⟨by omega, by omega⟩
      simp only [step, main_step, line, switch, up, down]
      split_ifs <;> rfl
    | done => exact absurd line not_done

end Loop

/-! ### Both functions -/

theorem build_menu_spec (added : List MenuElement) (ui : Ui) :
    (build_menu added ui).menu = added ∧ (build_menu added ui).menu_sel = 0 := by
  have appended : ∀ (rest : List MenuElement) (built : Ui),
      (rest.foldl ui_add_menu_ext built).menu = built.menu ++ rest ∧
        (rest.foldl ui_add_menu_ext built).menu_sel = built.menu_sel := by
    intro rest
    induction rest with
    | nil => exact fun built => ⟨(List.append_nil _).symm, rfl⟩
    | cons el rest ih =>
      intro built
      obtain ⟨menu, sel⟩ := ih (ui_add_menu_ext built el)
      rw [List.foldl_cons]
      exact ⟨menu.trans (List.append_assoc ..), sel⟩
  obtain ⟨menu, sel⟩ := appended added (ui_start_menu_ext ui)
  exact ⟨menu, sel⟩

theorem item_element_selectable (id : Nat) (item : List Char) : is_header (item_element id item) = false := by
  unfold item_element
  dsimp only
  split <;> rfl

theorem start_menu_eq {headers : List (List Char)} (some_header : headers ≠ []) (items : List (List Char)) (ui : Ui) :
    (ui_start_menu headers items ui).menu =
        ⟨-1, 0, .MENU_TYPE_GLOBAL_HEADER, some (header_text headers), none⟩ :: items.mapIdx item_element ∧
      (ui_start_menu headers items ui).menu_sel = 1 := by
  simp [ui_start_menu, some_header]

/-- The rows below the header are the items. -/
theorem start_menu_row {headers : List (List Char)} (some_header : headers ≠ []) {items : List (List Char)} {ui : Ui}
    {row : Nat} {el : MenuElement} (here : (ui_start_menu headers items ui).menu[row]? = some el)
    (rests : is_header el = false) :
    ∃ n item, row = n + 1 ∧ items[n]? = some item ∧ el = item_element n item := by
  rw [(start_menu_eq some_header items ui).1] at here
  cases row with
  | zero =>
    cases here
    cases rests
  | succ n =>
    rw [List.getElem?_cons_succ, List.getElem?_mapIdx, Option.map_eq_some_iff] at here
    obtain ⟨item, there, rfl⟩ := here
    exact ⟨n, item, rfl, there, rfl⟩

theorem start_menu_entered {headers items : List (List Char)} (some_header : headers ≠ []) (some_item : items ≠ [])
    (ui : Ui) : Entered (enter (ui_start_menu headers items ui) 0) where
  line := rfl
  inside := by
    obtain ⟨menu, sel⟩ := start_menu_eq some_header items ui
    have item_count : 0 < items.length := List.length_pos_iff.mpr some_item
    show (ui_start_menu headers items ui).menu_sel < (ui_start_menu headers items ui).menu.length
    rw [sel, menu, List.length_cons, List.length_mapIdx]
    omega
  open_choice := rfl

/-- The first item can be selected. -/
theorem start_menu_first {headers items : List (List Char)} (some_header : headers ≠ []) (some_item : items ≠ [])
    (ui : Ui) : Selectable (ui_start_menu headers items ui).menu 1 := by
  obtain ⟨item, rest, rfl⟩ := List.exists_cons_of_ne_nil some_item
  rw [(start_menu_eq some_header (item :: rest) ui).1]
  exact ⟨item_element 0 item, by simp, item_element_selectable 0 item⟩

theorem build_menu_entered {added : List MenuElement} (some_row : ∃ el ∈ added, is_header el = false) (ui : Ui)
    (initial_selection : Int) : Entered (enter (build_menu added ui) initial_selection) where
  line := rfl
  inside := by
    obtain ⟨menu, sel⟩ := build_menu_spec added ui
    obtain ⟨el, member, _⟩ := some_row
    show (build_menu added ui).menu_sel < (build_menu added ui).menu.length
    rw [menu, sel]
    exact List.length_pos_of_mem member
  open_choice := rfl

theorem build_menu_selectable {added : List MenuElement} (some_row : ∃ el ∈ added, is_header el = false) (ui : Ui) :
    ∃ row, Selectable (build_menu added ui).menu row := by
  obtain ⟨el, member, rests⟩ := some_row
  obtain ⟨row, here⟩ := List.mem_iff_getElem?.mp member
  rw [(build_menu_spec added ui).1]
  exact ⟨row, el, here, rests⟩

/-- In any order of keys, toggles of the display, touches and redraws the selection stays
    inside the list, and nothing hangs or crashes. When `get_menu_selection` returns it
    is with GO_BACK, or with the number of an item that was highlighted when the selection
    was read for the key that confirmed it; and `get_menu_selection_ext` returns with
    GO_BACK, or with the number of an element that is no header and was copied out. -/
theorem menu_choice_highlighted :
    (∀ (headers items : List (List Char)) (menu_only : Bool) (ui : Ui) (events : List Event) (s : State),
      headers ≠ [] → items ≠ [] →
      Fifo.run (step (get_menu_selection menu_only)) (enter (ui_start_menu headers items ui) 0) events = some s →
      s.ui.menu_sel < s.ui.menu.length ∧
      ((∀ touch, (step (get_menu_selection menu_only) s (.touch touch)).isSome) ∧
        (s.line ≠ .wait → s.line ≠ .done → (step (get_menu_selection menu_only) s .main).isSome)) ∧
      (s.line = .done → s.chosen_item = GO_BACK ∨
        ∃ (n : Nat) (item : List Char) (action : Int), s.chosen_item = n ∧ items[n]? = some item ∧
          s.ui.menu[n + 1]? = some (item_element n item) ∧ (action = SELECT_ITEM ∨ action = SELECT_ITEM_MOUSE) ∧
          ReadAt (get_menu_selection menu_only) (enter (ui_start_menu headers items ui) 0) events action (n + 1) s)) ∧
    (∀ (added : List MenuElement) (initial_selection : Int) (ui : Ui) (events : List Event) (s : State),
      (∃ el ∈ added, is_header el = false) → 0 ≤ initial_selection → initial_selection < added.length →
      Fifo.run (step (get_menu_selection_ext initial_selection)) (enter (build_menu added ui) initial_selection)
        events = some s →
      s.ui.menu_sel < s.ui.menu.length ∧
      ((∀ touch, (step (get_menu_selection_ext initial_selection) s (.touch touch)).isSome) ∧
        (s.line ≠ .wait → s.line ≠ .done → (step (get_menu_selection_ext initial_selection) s .main).isSome)) ∧
      (s.line = .done → s.chosen_item = GO_BACK ∨
        ∃ (row : Nat) (el : MenuElement) (action : Int), s.chosen_item = row ∧ added[row]? = some el ∧
          is_header el = false ∧ s.el = some el ∧ (action = SELECT_ITEM ∨ action = SELECT_ITEM_MOUSE) ∧
          ReadAt (get_menu_selection_ext initial_selection) (enter (build_menu added ui) initial_selection) events
            action row s)) := by
  constructor
  · intro headers items menu_only ui events s some_header some_item ran
    have above : ∀ row, Selectable (ui_start_menu headers items ui).menu row → (1 : Int) ≤ row := by
      rintro row ⟨el, here, rests⟩
      obtain ⟨n, item, rfl, _⟩ := start_menu_row some_header here rests
      omega
    have first := start_menu_first some_header some_item ui
    have known := known_run (k := get_menu_selection menu_only) (start_menu_entered some_header some_item ui) above ran
    refine ⟨known.menu ▸ known.inside, known_goes_on known first ⟨?_, ?_⟩, fun line => ?_⟩
    · exact (by decide : (-1 : Int) ≤ 1)
    · exact Int.ofNat_le.mpr (selectable_inside first).le
    · obtain ⟨row, el, action, reading, back | ⟨confirms, number⟩⟩ := known.chosen line
      · exact .inl back
      · obtain ⟨n, item, rfl, there, rfl⟩ := start_menu_row some_header reading.here reading.rests
        refine .inr ⟨n, item, action, ?_, there, known.menu ▸ reading.here, confirms, reading.read⟩
        rw [number]
        show ((n + 1 : Nat) : Int) - 1 = n
        omega
  · intro added initial_selection ui events s some_row low high ran
    have menu := (build_menu_spec added ui).1
    obtain ⟨row, somewhere⟩ := build_menu_selectable some_row ui
    have known := known_run (k := get_menu_selection_ext initial_selection)
      (build_menu_entered some_row ui initial_selection) (fun row _ => Int.natCast_nonneg row) ran
    refine ⟨known.menu ▸ known.inside, known_goes_on known somewhere ⟨?_, ?_⟩, fun line => ?_⟩
    · show -1 ≤ initial_selection
      omega
    · show initial_selection ≤ (build_menu added ui).menu.length
      rw [menu]
      omega
    · obtain ⟨row, el, action, reading, back | ⟨confirms, number⟩⟩ := known.chosen line
      · exact .inl back
      · refine .inr ⟨row, el, action, ?_, ?_, reading.rests, reading.copied rfl, confirms, reading.read⟩
        · rw [number]
          exact Int.sub_zero _
        · rw [← menu]
          exact reading.here

/-- A screen without a menu. -/
def no_menu : Ui := ⟨[], 0, false, true, 0, INT_MAX, false, 480⟩

/-- The keys for one row down and for the choice, and the steps that handle them. -/
def down_and_home : List Event :=
  [.main, .key KEY_DEVICE_VOLUP, .main, .main, .main, .power, .power, .key KEY_DEVICE_HOME, .main, .main, .main]

theorem one_down_chosen :
    (∃ s, Fifo.run (step (get_menu_selection true)) (enter (ui_start_menu [['M']] [['a'], ['b']] no_menu) 0)
        down_and_home = some s ∧ s.line = .done ∧ s.chosen_item = 1 ∧ s.ui.menu_sel < s.ui.menu.length) ∧
    ∃ s, Fifo.run (step (get_menu_selection_ext 0)) (enter (build_menu [item_element 0 ['a'], item_element 1 ['b']]
        no_menu) 0) down_and_home = some s ∧ s.line = .done ∧ s.chosen_item = 1 ∧ s.ui.menu_sel < s.ui.menu.length := by
  obtain ⟨from_lists, from_elements⟩ := menu_choice_highlighted
  constructor
  · refine ⟨_, rfl, rfl, rfl, ?_⟩
    exact (from_lists [['M']] [['a'], ['b']] true no_menu down_and_home _ (by decide) (by decide) rfl).1
  · refine ⟨_, rfl, rfl, rfl, ?_⟩
    exact (from_elements [item_element 0 ['a'], item_element 1 ['b']] 0 no_menu down_and_home _
      ⟨_, List.mem_cons_self, by decide⟩ (by decide) (by decide) rfl).1

end SteamRecovery.Menus
