import SteamRecovery.Menus

/-!
The rows of a menu (`ui.c`). `ui_menu_select` comes to rest on the first row that is no
header (`menu_select_first`), and puts the list where that row is on the screen and a
touch hits the row that is drawn there (`rows_agree`).
-/
namespace SteamRecovery.MenuRows
open SteamRecovery.Menus
open SteamRecovery.Menus (MenuType)

/-! ### Where the selection comes to rest -/

/-- The row is the first one that is no header, from the requested one on in this direction. -/
structure FirstRow (menu : List MenuElement) (down : Bool) (sel : Int) (row : Nat) : Prop where
  inside : row < menu.length
  rests : Selectable menu row
  first : ∃ moves < menu.length, row = Cursor.ring menu.length down sel moves ∧
    ∀ fewer < moves, ∃ el, menu[Cursor.ring menu.length down sel fewer]? = some el ∧ is_header el = true

theorem rows_header {menu : List MenuElement} {row : Nat} (header : (rows menu)[row]? = some false) :
    ∃ el, menu[row]? = some el ∧ is_header el = true := by
  rw [rows, List.getElem?_map] at header
  obtain ⟨el, here, same⟩ := Option.map_eq_some_iff.mp header
  exact ⟨el, here, by simpa using same⟩

theorem settled_first {menu : List MenuElement} {down : Bool} {sel : Int} {row : Nat}
    (settled : Cursor.settle (rows menu) down menu.length sel = some row) : FirstRow menu down sel row := by
  have same : (rows menu).length = menu.length := List.length_map _
  have rests := rows_iff.mp (Cursor.settle_allowed settled)
  obtain ⟨moves, few, found, skipped⟩ := Cursor.settle_first settled
  rw [same] at found skipped
  exact ⟨selectable_inside rests, rests, moves, few, found, fun fewer less => rows_header (skipped fewer less)⟩

/-- The loop ends within a round, on the first row that is no header, and the selection is
    put on it. -/
theorem menu_select_first (ui : Ui) {row : Nat} (selectable : Selectable ui.menu row) {sel : Int}
    (turn : Cursor.OneTurn ui.menu.length sel) :
    ∃ ui', ui_menu_select ui sel = some ui' ∧ ui'.menu = ui.menu ∧
      FirstRow ui.menu (decide ((ui.menu_sel : Int) ≤ sel)) sel ui'.menu_sel := by
  have same : (rows ui.menu).length = ui.menu.length := List.length_map _
  obtain ⟨found, settled⟩ :=
    Cursor.settle_turn (rows_iff.mpr selectable) (decide ((ui.menu_sel : Int) ≤ sel)) (same.symm ▸ turn)
  rw [same] at settled
  cases selected : ui_menu_select ui sel with
  | none =>
    rw [ui_menu_select, settled] at selected
    cases selected
  | some ui' =>
    obtain ⟨_, here, rfl⟩ := Option.map_eq_some_iff.mp selected
    exact ⟨_, rfl, rfl, settled_first here⟩

/-- A menu whose only row is between two headers. -/
def one_row : Ui where
  menu := [⟨0, 0, .MENU_TYPE_GLOBAL_HEADER, none, none⟩, ⟨0, 0, .MENU_TYPE_ELEMENT, none, none⟩,
    ⟨0, 0, .MENU_TYPE_GROUP_HEADER, none, none⟩]
  menu_sel := 1
  show_menu := true
  show_text := true
  menu_pos := 0
  menu_start_pos := INT_MAX
  menu_sel_mouse_valid := false
  fb_width := 480

theorem select_behind_end : ∃ ui', ui_menu_select one_row 5 = some ui' ∧ ui'.menu = one_row.menu ∧
    FirstRow one_row.menu (decide ((one_row.menu_sel : Int) ≤ 5)) 5 ui'.menu_sel :=
  menu_select_first one_row (show Selectable one_row.menu 1 from ⟨⟨0, 0, .MENU_TYPE_ELEMENT, none, none⟩, rfl, rfl⟩) ⟨by decide, by decide⟩

/-! ### Where the rows are -/

/-- The tops of the rows that `draw_menu` draws, where `top` is that of the first. -/
def draw_tops (top : Int) : List MenuElement → List Int
  | [] => []
  | _ :: curr => top :: draw_tops (top + MENU_ELEMENT_HEIGHT) curr

/-- The height of the part of the screen that the menu is on. -/
def menu_height (ui : Ui) : Int := min (ui.menu.length * MENU_ELEMENT_HEIGHT) menu_max_height

/-- The row that the handler works out where a finger goes down. -/
def hit_row (ui : Ui) (grab_y : Int) : Int := (-ui.menu_pos + grab_y).tdiv MENU_ELEMENT_HEIGHT

/-- The list fills the screen, as far as it goes. -/
def Placed (ui : Ui) : Prop := -(ui.menu.length * MENU_ELEMENT_HEIGHT) + menu_height ui ≤ ui.menu_pos ∧ ui.menu_pos ≤ 0

theorem element_height : MENU_ELEMENT_HEIGHT = 72 := rfl

/-- The row is drawn with this top. -/
def DrawnAt (ui : Ui) (row : Nat) (top : Int) : Prop := (draw_tops ui.menu_pos ui.menu)[row]? = some top

theorem draw_tops_get (menu : List MenuElement) (top : Int) (row : Nat) :
    (draw_tops top menu)[row]? = if row < menu.length then some (top + row * MENU_ELEMENT_HEIGHT) else none := by
  induction menu generalizing top row with
  | nil => rfl
  | cons el curr ih =>
    cases row with
    | zero => simp [draw_tops]
    | succ row =>
      rw [draw_tops, List.getElem?_cons_succ, ih, List.length_cons]
      simp only [Nat.add_lt_add_iff_right]
      congr 2
      rw [element_height]
      push_cast
      omega

theorem drawn_at {ui : Ui} {row : Nat} (inside : row < ui.menu.length) :
    DrawnAt ui row (ui.menu_pos + row * MENU_ELEMENT_HEIGHT) := by
  rw [DrawnAt, draw_tops_get, if_pos inside]

/-- What is centred fills the screen. -/
theorem centered_placed {ui : Ui} {sel : Nat} (centred : ui.menu_pos = centered ui.menu.length sel) : Placed ui := by
  unfold Placed menu_height
  rw [centred, centered]
  omega

/-- A row that is centred, as far as that goes, is on the screen. -/
theorem centered_row {ui : Ui} {sel : Nat} (centred : ui.menu_pos = centered ui.menu.length sel)
    (inside : sel < ui.menu.length) :
    0 ≤ ui.menu_pos + sel * MENU_ELEMENT_HEIGHT ∧
      ui.menu_pos + sel * MENU_ELEMENT_HEIGHT + MENU_ELEMENT_HEIGHT ≤ menu_height ui := by
  rw [centred, centered, menu_height]
  simp only [element_height, menu_max_height]
  omega

/-- Wherever the list fills the screen, a touch hits the row that is drawn there. -/
theorem hit_drawn {ui : Ui} (placed : Placed ui) {y : Int} (low : 0 ≤ y) (high : y < menu_height ui) :
    ∃ row : Nat, hit_row ui y = row ∧ row < ui.menu.length ∧
      ∃ top, DrawnAt ui row top ∧ top ≤ y ∧ y < top + MENU_ELEMENT_HEIGHT := by
  obtain ⟨bottom, top⟩ := placed
  have nonneg : 0 ≤ -ui.menu_pos + y := by omega
  have floor : hit_row ui y = (-ui.menu_pos + y) / 72 := Int.tdiv_eq_ediv_of_nonneg nonneg
  rw [element_height] at bottom
  have inside : ((-ui.menu_pos + y) / 72).toNat < ui.menu.length := by omega
  refine ⟨((-ui.menu_pos + y) / 72).toNat, ?_, inside, _, drawn_at inside, ?_, ?_⟩
  · rw [floor, Int.toNat_of_nonneg (by omega)]
  · rw [element_height]
    omega
  · rw [element_height]
    omega

/-- With a row in the middle, that row is on the screen as a whole, the list fills the
    screen, and a touch hits the row that is drawn there. -/
theorem rows_agree {ui : Ui} {s : Nat} (inside : s < ui.menu.length) (centred : ui.menu_pos = centered ui.menu.length s) :
    (∃ top, DrawnAt ui s top ∧ 0 ≤ top ∧ top + MENU_ELEMENT_HEIGHT ≤ menu_height ui) ∧ Placed ui ∧
      ∀ y, 0 ≤ y → y < menu_height ui → ∃ row : Nat, hit_row ui y = row ∧
        ∃ top, DrawnAt ui row top ∧ top ≤ y ∧ y < top + MENU_ELEMENT_HEIGHT := by
  have placed := centered_placed centred
  refine ⟨⟨_, drawn_at inside, centered_row centred inside⟩, placed, ?_⟩
  intro y low high
  obtain ⟨row, hit, _, drawn⟩ := hit_drawn placed low high
  exact ⟨row, hit, drawn⟩

/-- A menu that is longer than the screen, with a row in its middle selected. -/
def long_menu : Ui :=
  { one_row with menu := List.replicate 30 ⟨0, 0, .MENU_TYPE_ELEMENT, none, none⟩, menu_sel := 15, menu_pos := -876 }

theorem long_menu_agrees :
    (∃ top, DrawnAt long_menu 15 top ∧ 0 ≤ top ∧ top + MENU_ELEMENT_HEIGHT ≤ menu_height long_menu) ∧ Placed long_menu ∧
      ∀ y, 0 ≤ y → y < menu_height long_menu → ∃ row : Nat, hit_row long_menu y = row ∧
        ∃ top, DrawnAt long_menu row top ∧ top ≤ y ∧ y < top + MENU_ELEMENT_HEIGHT :=
  rows_agree (s := 15) (by decide) (by decide)

/-- `ui_menu_select` has the selected row in the middle. -/
theorem menu_select_centred {ui ui' : Ui} {sel : Int} (selected : ui_menu_select ui sel = some ui') :
    ui'.menu_sel < ui'.menu.length ∧ ui'.menu_pos = centered ui'.menu.length ui'.menu_sel := by
  obtain ⟨menu, rests⟩ := ui_menu_select_spec selected
  refine ⟨menu ▸ selectable_inside rests, ?_⟩
  obtain ⟨_, _, rfl⟩ := Option.map_eq_some_iff.mp selected
  rfl

/-- A finger that goes down on a row that is no header selects it, and the list stays
    where it is. -/
theorem grab_selects {ui : Ui} {touch : Touch} (starts : ui.menu_start_pos = INT_MAX)
    (high : touch.grab_y < menu_height ui) {row : Nat} (hit : hit_row ui touch.grab_y = row)
    (rests : Selectable ui.menu row) :
    ∃ ui', grab ui touch = some ui' ∧ ui'.menu_sel = row ∧ ui'.menu_pos = ui.menu_pos ∧ ui'.menu_sel_mouse_valid = true := by
  have inside := selectable_inside rests
  have turn : Cursor.OneTurn ui.menu.length row := ⟨by omega, by omega⟩
  obtain ⟨ui', selected, _, first⟩ := menu_select_first { ui with menu_start_pos := ui.menu_pos } rests turn
  have here : ui'.menu_sel = row := by
    obtain ⟨moves, _, found, skipped⟩ := first.first
    have stays : Cursor.ring ui.menu.length (decide ((ui.menu_sel : Int) ≤ row)) row 0 = row := by
      have on_ring : (0 : Int) ≤ row ∧ (row : Int) < ui.menu.length := ⟨by omega, by omega⟩
      rw [Cursor.ring_zero (by rwa [Cursor.wrap_self on_ring]), Cursor.wrap_self on_ring, Int.toNat_natCast]
    cases moves with
    | zero => exact found.trans stays
    | succ moves =>
      obtain ⟨el, there, header⟩ := skipped 0 (Nat.succ_pos moves)
      obtain ⟨el', here, no_header⟩ := rests
      obtain rfl : el = el' := Option.some_inj.mp (there.symm.trans (stays.symm ▸ here))
      rw [header] at no_header
      cases no_header
  have above : touch.grab_y < menu_max_height := by
    unfold menu_height at high
    omega
  have on_list : 0 ≤ hit_row ui touch.grab_y ∧ hit_row ui touch.grab_y < ui.menu.length := by
    rw [hit]
    omega
  refine ⟨{ ui' with menu_pos := ui.menu_pos, menu_sel_mouse_valid := true }, ?_, here, rfl, rfl⟩
  rw [grab, if_pos above, if_pos starts]
  dsimp only
  rw [← hit_row, if_pos on_list, hit, selected, Option.map_some, here, if_pos rfl]

end SteamRecovery.MenuRows
