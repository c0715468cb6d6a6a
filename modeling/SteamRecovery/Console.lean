import Mathlib.Tactic.Linarith
import SteamRecovery.CStrings
import SteamRecovery.Fifo
import SteamRecovery.Menus

/-!
The keyboard on the screen (`ui.c`). The characters typed stand in `console_cmd`, and
their number in `console_length` beside it. A tap hits at most one key (`touch_key`),
and with room for another character it adds or deletes at most one and keeps the two
together (`press_kept`). Nothing but the user sees to it that there is room: the 256th
character is stored without asking, and the nul behind it where the array has ended
(`press_full`).
-/
namespace SteamRecovery.Console
open SteamRecovery.CStrings
open SteamRecovery.Fifo (run run_cons run_found run_reaches)
open SteamRecovery.Menus (Touch CHAR_HEIGHT BTN_MOUSE BTN_GEAR_UP)

abbrev NUM_KEYBOARD_PAGES : Nat := 4

abbrev Page := Fin NUM_KEYBOARD_PAGES

def KEYBOARD_PAGE_qwe : Page := ⟨0, by decide⟩
def KEYBOARD_PAGE_QWE : Page := ⟨1, by decide⟩
def KEYBOARD_PAGE_sym : Page := ⟨2, by decide⟩
def KEYBOARD_PAGE_123 : Page := ⟨3, by decide⟩

def KEYBOARD_CHAR_SHIFT : Char := '\x01'
def KEYBOARD_CHAR_DEL : Char := '\x02'
def KEYBOARD_CHAR_SWITCH : Char := '\x03'

def keyboard_line (page : Page) : List String :=
  match page with
  | 0 => ["qwertyuiop", "asdfghjkl", "\x01zxcvbnm\x02", "\x03/.,    \n\n"]
  | 1 => ["QWERTYUIOP", "ASDFGHJKL", "\x01ZXCVBNM\x02", "\x03/.,    \n\n"]
  | 2 => ["1234567890", "!@#$%^&*()", "_+\x7b\x7d:\"|<>?", "\x03-=[];'\\~`"]
  | 3 => ["123.", "456-", "789\x02", "\x030 \n"]

/-- `char console_cmd[256]`. -/
structure Buffer where
  chars : List Char
  size : chars.length = 256
  deriving DecidableEq

def Buffer.text (b : Buffer) : List Char := c_string '\x00' b.chars

/-- `console_cmd[n] = c`, unless that is outside the array. -/
def Buffer.store (b : Buffer) (n : Nat) (c : Char) : Option Buffer :=
  if n < 256 then some ⟨b.chars.set n c, by rw [List.length_set, b.size]⟩ else none

structure State where
  console_cmd : Buffer
  console_length : Nat
  keyboard_page : Page
  deriving DecidableEq

/-- The size of the screen, and what is shown on it. -/
structure Screen where
  gr_fb_width : Int
  gr_fb_height : Int
  enable_secret_screen : Bool
  enable_console_screen : Bool

/-- `console_cmd[n] = c; console_cmd[n+1] = '\0';` -/
def Buffer.put (b : Buffer) (n : Nat) (c : Char) : Option Buffer := (b.store n c).bind fun b => b.store (n + 1) '\x00'

/-- `strcpy(console_cmd,str)`, unless the text has no room in the array. -/
def Buffer.strcpy (b : Buffer) (str : List Char) : Option Buffer :=
  if fits : str.length < 256 then
    some ⟨str ++ '\x00' :: b.chars.drop (str.length + 1), by simp [b.size]; omega⟩
  else none

def set_console_cmd (s : State) (str : List Char) : Option State :=
  (s.console_cmd.strcpy str).map fun console_cmd => { s with console_cmd, console_length := str.length }

/-! ### The keyboard -/

def next_page (keyboard_page : Page) : Page :=
  let page := keyboard_page.val + 1
  let page := if page = KEYBOARD_PAGE_QWE.val then page + 1 else page
  if inside : page < NUM_KEYBOARD_PAGES then ⟨page, inside⟩ else KEYBOARD_PAGE_qwe

/-- The `switch` on the key that was hit. -/
def press (s : State) (key : Char) : Option State :=
  if key = KEYBOARD_CHAR_SHIFT then
    if s.keyboard_page = KEYBOARD_PAGE_QWE then some { s with keyboard_page := KEYBOARD_PAGE_qwe }
    else if s.keyboard_page = KEYBOARD_PAGE_qwe then some { s with keyboard_page := KEYBOARD_PAGE_QWE }
    else some s
  else if key = KEYBOARD_CHAR_DEL then
    let console_length := if s.console_length > 0 then s.console_length - 1 else s.console_length
    (s.console_cmd.store console_length '\x00').map fun console_cmd => { s with console_cmd, console_length }
  else if key = KEYBOARD_CHAR_SWITCH then some { s with keyboard_page := next_page s.keyboard_page }
  else
    let keyboard_page := if s.keyboard_page ≠ KEYBOARD_PAGE_123 then KEYBOARD_PAGE_qwe else s.keyboard_page
    (s.console_cmd.put s.console_length key).map fun console_cmd => ⟨console_cmd, s.console_length + 1, keyboard_page⟩

/-- The touch is on key `i2` of the `sl` keys of row `i`. -/
def over_key (screen : Screen) (touch : Touch) (i sl i2 : Nat) : Bool :=
  let height := screen.gr_fb_height - CHAR_HEIGHT * 14 + CHAR_HEIGHT * 4 * i
  let width := screen.gr_fb_width.tdiv sl
  touch.x > i2 * width && touch.x < (i2 + 1) * width && touch.y > height - CHAR_HEIGHT * 2 &&
    touch.y < height + CHAR_HEIGHT * 2

/-- The keys of a row with their columns. -/
def keys (page : Page) (i : Nat) : List (Char × Nat) := ((keyboard_line page).getD i "").toList.zipIdx

/-- The loop over the keys of a row, which are those of the page that was shown before. -/
def keyboard_row (screen : Screen) (touch : Touch) (s : State) (i : Nat) : Option State :=
  let str := keys s.keyboard_page i
  str.foldlM (fun s (key, i2) => if over_key screen touch i str.length i2 then press s key else some s) s

/-- The part of `ui_handle_mouse_input` for the console. -/
def console_input (screen : Screen) (touch : Touch) (s : State) : Option State :=
  if screen.enable_console_screen then
    if touch.code = BTN_MOUSE then [0, 1, 2, 3].foldlM (keyboard_row screen touch) s else some s
  else some s

/-! ### The secret screen -/

/-- Where the text behind the last `_` begins. -/
def behind_last (text : List Char) : Nat := text.length - (text.reverse.takeWhile (· ≠ '_')).length

/-- `s = 65+(y*4)+x` -/
def letter (x y : Nat) : Char := Char.ofNat (65 + y * 4 + x)

/-- The touch is in the circle of a letter. -/
def over_letter (screen : Screen) (touch : Touch) (x y : Nat) : Bool :=
  let width := screen.gr_fb_width.tdiv 4
  let height := (screen.gr_fb_height - 50).tdiv 6
  (touch.x - (x * width + width.tdiv 2)).natAbs < 30 && (touch.y - (y * height + height.tdiv 2)).natAbs < 30

/-- What the loop does with a letter whose circle is touched, unless `strrchr(c,s)` finds it. -/
def append_letter (c : Nat) (b : Buffer) (s : Char) : Option Buffer :=
  if s ∈ b.text.drop c then some b
  else
    let len := b.text.length
    if len < 255 then b.put len s else some b

/-- The order in which the loops go through the circles. -/
def circles : List (Nat × Nat) := (List.range 4).flatMap fun x => (List.range 6).map fun y => (x, y)

/-- The body of the loops. -/
def over_circle (screen : Screen) (touch : Touch) (c : Nat) (b : Buffer) (circle : Nat × Nat) : Option Buffer :=
  if over_letter screen touch circle.1 circle.2 then append_letter c b (letter circle.1 circle.2) else some b

def swipe (screen : Screen) (touch : Touch) (c : Nat) (b : Buffer) : Option Buffer :=
  circles.foldlM (over_circle screen touch c) b

/-- The part of `ui_handle_mouse_input` for the secret screen. -/
def secret_input (screen : Screen) (touch : Touch) (s : State) : Option State :=
  if screen.enable_secret_screen then
    if touch.grab_pressure then
      let c := behind_last s.console_cmd.text
      (swipe screen touch c s.console_cmd).map fun console_cmd => { s with console_cmd }
    else if touch.code = BTN_GEAR_UP ∨ touch.code = BTN_MOUSE then
      let len := s.console_cmd.text.length
      if len < 255 ∧ len > 0 ∧ s.console_cmd.chars.getD (len - 1) '\x00' ≠ '_' then
        (s.console_cmd.put len '_').map fun console_cmd => { s with console_cmd }
      else some s
    else some s
  else some s

/-- What the handler does on these screens, given the code that the menu has left. -/
def ui_handle_mouse_input (screen : Screen) (touch : Touch) (s : State) : Option State :=
  (secret_input screen touch s).bind (console_input screen touch)

/-- A touch is handled, or `set_console_cmd("")` is called. -/
inductive Event where
  | touch (touch : Touch)
  | clear

def step (screen : Screen) (s : State) : Event → Option State
  | .touch touch => ui_handle_mouse_input screen touch s
  | .clear => set_console_cmd s []

/-! ### The array -/

theorem put_text {b : Buffer} (room : b.text.length < 255) {c : Char} (other : c ≠ '\x00') :
    ∃ b', b.put b.text.length c = some b' ∧ b'.text = b.text ++ [c] := by
  have first : b.text.length < 256 := by omega
  have second : b.text.length + 1 < 256 := by omega
  refine ⟨⟨(b.chars.set b.text.length c).set (b.text.length + 1) '\x00', by simp [b.size]⟩, ?_, ?_⟩
  · simp [Buffer.put, Buffer.store, first, second]
  · exact c_string_push other (by rw [b.size]; exact second)

/-- The nul behind the 256th character is outside the array. -/
theorem put_full (b : Buffer) (c : Char) : b.put 255 c = none := by
  simp [Buffer.put, Buffer.store]

theorem cut_text {b : Buffer} {n : Nat} (within : n ≤ b.text.length) (inside : n < 256) :
    ∃ b', b.store n '\x00' = some b' ∧ b'.text = b.text.take n :=
  ⟨⟨b.chars.set n '\x00', by rw [List.length_set, b.size]⟩, by rw [Buffer.store, if_pos inside],
    c_string_cut within (b.size.symm ▸ inside)⟩

theorem strcpy_text {str : List Char} (fits : str.length < 256) (clean : '\x00' ∉ str) (b : Buffer) :
    ∃ b', b.strcpy str = some b' ∧ b'.text = str :=
  ⟨_, dif_pos fits, c_string_append clean _⟩

/-! ### One tap -/

/-- The length is that of the text, and there is room for both in the array. -/
structure Kept (s : State) : Prop where
  length : s.console_length = s.console_cmd.text.length
  bounded : s.console_length ≤ 255

/-- At most one character was added or deleted, at the end. -/
def OneCharacter (before after : List Char) : Prop :=
  after = before ∨ (∃ c, after = before ++ [c]) ∨ after = before.dropLast

/-- The key stands for a character. -/
def Types (key : Char) : Prop := key ≠ KEYBOARD_CHAR_SHIFT ∧ key ≠ KEYBOARD_CHAR_DEL ∧ key ≠ KEYBOARD_CHAR_SWITCH

theorem press_types {key : Char} (types : Types key) (s : State) :
    press s key = (s.console_cmd.put s.console_length key).map fun console_cmd =>
      ⟨console_cmd, s.console_length + 1, if s.keyboard_page ≠ KEYBOARD_PAGE_123 then KEYBOARD_PAGE_qwe else s.keyboard_page⟩ := by
  rw [press, if_neg types.1, if_neg types.2.1, if_neg types.2.2]

theorem press_kept {s : State} (kept : Kept s) {key : Char} (other : key ≠ '\x00')
    (room : Types key → s.console_length ≠ 255) :
    ∃ s', press s key = some s' ∧ Kept s' ∧ OneCharacter s.console_cmd.text s'.console_cmd.text := by
  obtain ⟨length, bounded⟩ := kept
  by_cases shift : key = KEYBOARD_CHAR_SHIFT
  · rw [press, if_pos shift]
    split
    · exact ⟨_, rfl, ⟨length, bounded⟩, .inl rfl⟩
    · split
      · exact ⟨_, rfl, ⟨length, bounded⟩, .inl rfl⟩
      · exact ⟨_, rfl, ⟨length, bounded⟩, .inl rfl⟩
  by_cases del : key = KEYBOARD_CHAR_DEL
  · obtain ⟨console_cmd, stored, text⟩ :=
      cut_text (b := s.console_cmd) (n := s.console_length - 1) (by omega) (by omega)
    have shorter : (if s.console_length > 0 then s.console_length - 1 else s.console_length) = s.console_length - 1 := by
      split <;> omega
    rw [press, if_neg shift, if_pos del]
    dsimp only
    rw [shorter, stored]
    have fewer : console_cmd.text = s.console_cmd.text.dropLast := by
      rw [text, length, List.dropLast_eq_take]
    refine ⟨_, rfl, ⟨?_, Nat.le_trans (Nat.sub_le _ _) bounded⟩, .inr (.inr fewer)⟩
    simp only [fewer, List.length_dropLast, length]
  by_cases switch : key = KEYBOARD_CHAR_SWITCH
  · rw [press, if_neg shift, if_neg del, if_pos switch]
    exact ⟨_, rfl, ⟨length, bounded⟩, .inl rfl⟩
  · have types : Types key := ⟨shift, del, switch⟩
    have free := room types
    obtain ⟨console_cmd, stored, text⟩ := put_text (b := s.console_cmd) (c := key) (by omega) other
    rw [press_types types, length, stored]
    refine ⟨_, rfl, ⟨?_, ?_⟩, .inr (.inl ⟨key, text⟩)⟩
    · simp only [text, List.length_append, List.length_singleton]
    · dsimp only
      omega

theorem press_full {s : State} (full : s.console_length = 255) {key : Char} (types : Types key) : press s key = none := by
  rw [press_types types, full, put_full]
  rfl

/-! ### The key that a tap hits -/

/-- The touch is in the band of row `i`. -/
def on_row (screen : Screen) (touch : Touch) (i : Nat) : Bool :=
  let height := screen.gr_fb_height - CHAR_HEIGHT * 14 + CHAR_HEIGHT * 4 * i
  touch.y > height - CHAR_HEIGHT * 2 && touch.y < height + CHAR_HEIGHT * 2

/-- The key of a page that the touch is on. -/
def touched_key (screen : Screen) (page : Page) (touch : Touch) : Option Char :=
  ([0, 1, 2, 3].find? (on_row screen touch)).bind fun i =>
    ((keys page i).find? fun key => over_key screen touch i (keys page i).length key.2).map Prod.fst

theorem columns_apart {x width : Int} {left right : Nat} (apart : left < right) (inside : x < (left + 1) * width)
    (behind : x > right * width) (positive : x > left * width) : False := by
  have wide : 0 < width := by linarith
  have next : (left + 1 : Int) ≤ right := by exact_mod_cast apart
  have := mul_le_mul_of_nonneg_right next (le_of_lt wide)
  linarith

theorem over_key_row {screen : Screen} {touch : Touch} {i sl i2 : Nat} (hit : over_key screen touch i sl i2 = true) :
    on_row screen touch i = true := by
  simp only [over_key, on_row, Bool.and_eq_true, decide_eq_true_eq] at hit ⊢
  exact ⟨hit.1.2, hit.2⟩

theorem keys_apart (screen : Screen) (touch : Touch) (page : Page) (i : Nat) :
    (keys page i).Pairwise fun a b => over_key screen touch i (keys page i).length a.2 = true →
      over_key screen touch i (keys page i).length b.2 = false := by
  generalize (keys page i).length = sl
  have columns : (keys page i).Pairwise fun a b => a.2 < b.2 := by
    have ordered := List.pairwise_lt_range' (s := 0) (n := ((keyboard_line page).getD i "").toList.length)
    rw [← List.zipIdx_map_snd, List.pairwise_map] at ordered
    exact ordered
  refine columns.imp fun {a b} apart hit => Bool.eq_false_iff.mpr fun also => ?_
  simp only [over_key, Bool.and_eq_true, decide_eq_true_eq] at hit also
  exact columns_apart apart hit.1.1.2 also.1.1.1 hit.1.1.1

theorem rows_apart (screen : Screen) (touch : Touch) :
    [0, 1, 2, 3].Pairwise fun a b => on_row screen touch a = true → on_row screen touch b = false := by
  have ordered : [0, 1, 2, 3].Pairwise fun a b : Nat => a < b := by decide
  refine ordered.imp fun {a b} apart hit => Bool.eq_false_iff.mpr fun also => ?_
  simp only [on_row, Bool.and_eq_true, decide_eq_true_eq] at hit also
  rw [CHAR_HEIGHT] at hit also
  omega

theorem keyboard_row_key (screen : Screen) (touch : Touch) (s : State) (i : Nat) :
    keyboard_row screen touch s i = (((keys s.keyboard_page i).find? fun key =>
      over_key screen touch i (keys s.keyboard_page i).length key.2).map Prod.fst).elim (some s) (press s) := by
  rw [keyboard_row]
  refine (run_found (fun key _ missed s => ?_) (keys_apart screen touch s.keyboard_page i)).trans ?_
  · simp only [missed, Bool.false_eq_true, ↓reduceIte]
  · cases found : (keys s.keyboard_page i).find? fun key =>
        over_key screen touch i (keys s.keyboard_page i).length key.2 with
    | none => rfl
    | some key =>
      have hit := List.find?_some found
      simp only [Option.elim_some, Option.map_some, hit, ↓reduceIte]

/-- A tap does what the key does that it hits, and nothing where it hits none. -/
theorem console_input_key {screen : Screen} (shown : screen.enable_console_screen = true) {touch : Touch}
    (tap : touch.code = BTN_MOUSE) (s : State) :
    console_input screen touch s = (touched_key screen s.keyboard_page touch).elim (some s) (press s) := by
  have idle : ∀ i ∈ [0, 1, 2, 3], on_row screen touch i = false → ∀ s, keyboard_row screen touch s i = some s := by
    intro i _ missed s
    have none_hit : ((keys s.keyboard_page i).find? fun key =>
        over_key screen touch i (keys s.keyboard_page i).length key.2) = none :=
      List.find?_eq_none.mpr fun key _ hit => by simp [over_key_row hit] at missed
    rw [keyboard_row_key, none_hit]
    rfl
  rw [console_input, if_pos shown, if_pos tap]
  refine (run_found idle (rows_apart screen touch)).trans ?_
  rw [touched_key]
  cases [0, 1, 2, 3].find? (on_row screen touch) with
  | none => rfl
  | some i => exact keyboard_row_key screen touch s i

theorem touched_key_nonzero {screen : Screen} {page : Page} {touch : Touch} {key : Char}
    (touched : touched_key screen page touch = some key) : key ≠ '\x00' := by
  have clean : ∀ page : Page, ∀ row ∈ keyboard_line page, '\x00' ∉ row.toList := by decide
  obtain ⟨i, _, found⟩ := Option.bind_eq_some_iff.mp touched
  obtain ⟨⟨c, column⟩, hit, rfl⟩ := Option.map_eq_some_iff.mp found
  have member : c ∈ ((keyboard_line page).getD i "").toList :=
    (List.mem_zipIdx' (List.mem_of_find?_eq_some hit)).2 ▸ List.getElem_mem _
  rintro rfl
  cases row : (keyboard_line page)[i]? with
  | none => simp [row] at member
  | some keys =>
    rw [List.getD_eq_getElem?_getD, row] at member
    exact clean page keys (List.mem_of_getElem? row) member

/-! ### Typing -/

/-- The tap types a character where `console_cmd` is full. -/
def Overflows (screen : Screen) (s : State) (touch : Touch) : Prop :=
  s.console_length = 255 ∧ touch.code = BTN_MOUSE ∧
    ∃ key, touched_key screen s.keyboard_page touch = some key ∧ Types key

/-- Behind every step the length is that of the text and there is room for both, and every
    touch adds or deletes at most one character. -/
def StaysInBuffer (screen : Screen) (s : State) (events : List Event) : Prop :=
  ∀ earlier e later, events = earlier ++ e :: later → ∃ before after, run (step screen) s earlier = some before ∧
    step screen before e = some after ∧ Kept after ∧
    ∀ touch, e = .touch touch → OneCharacter before.console_cmd.text after.console_cmd.text

/-- The screen of `run_console`. -/
def console_screen (gr_fb_width gr_fb_height : Int) : Screen := ⟨gr_fb_width, gr_fb_height, false, true⟩

theorem clear_text (screen : Screen) (s : State) :
    ∃ console_cmd : Buffer, step screen s .clear = some ⟨console_cmd, 0, s.keyboard_page⟩ ∧ console_cmd.text = [] := by
  obtain ⟨console_cmd, copied, text⟩ := strcpy_text (show ([] : List Char).length < 256 by decide) (by simp) s.console_cmd
  refine ⟨console_cmd, ?_, text⟩
  rw [step, set_console_cmd, copied]
  rfl

theorem clear_kept (screen : Screen) (s : State) : ∃ s', step screen s .clear = some s' ∧ Kept s' := by
  obtain ⟨console_cmd, cleared, text⟩ := clear_text screen s
  exact ⟨_, cleared, by rw [text]; rfl, Nat.zero_le _⟩

theorem console_touch (width height : Int) (touch : Touch) (s : State) :
    step (console_screen width height) s (.touch touch) = console_input (console_screen width height) touch s := rfl

theorem touch_kept {width height : Int} {s : State} (kept : Kept s) {touch : Touch}
    (room : ¬ Overflows (console_screen width height) s touch) :
    ∃ s', step (console_screen width height) s (.touch touch) = some s' ∧ Kept s' ∧
      OneCharacter s.console_cmd.text s'.console_cmd.text := by
  rw [console_touch]
  by_cases tap : touch.code = BTN_MOUSE
  · rw [console_input_key rfl tap]
    cases touched : touched_key (console_screen width height) s.keyboard_page touch with
    | none => exact ⟨s, rfl, kept, .inl rfl⟩
    | some key => exact press_kept kept (touched_key_nonzero touched) fun types full => room ⟨full, tap, key, touched, types⟩
  · exact ⟨s, (if_pos rfl).trans (if_neg tap), kept, .inl rfl⟩

theorem touch_overflows {width height : Int} {s : State} {touch : Touch}
    (overflows : Overflows (console_screen width height) s touch) :
    step (console_screen width height) s (.touch touch) = none := by
  obtain ⟨full, tap, key, touched, types⟩ := overflows
  rw [console_touch, console_input_key rfl tap, touched]
  exact press_full full types

/-- There is room for what the event types. -/
def Fits (screen : Screen) (s : State) (e : Event) : Prop := ∀ touch, e = .touch touch → ¬ Overflows screen s touch

theorem event_kept {width height : Int} {s : State} {e : Event} (kept : Kept s)
    (fits : Fits (console_screen width height) s e) :
    ∃ s', step (console_screen width height) s e = some s' ∧ Kept s' ∧
      ∀ touch, e = .touch touch → OneCharacter s.console_cmd.text s'.console_cmd.text := by
  cases e with
  | touch touch =>
    obtain ⟨s', stepped, kept, one⟩ := touch_kept kept (fits touch rfl)
    exact ⟨s', stepped, kept, fun _ _ => one⟩
  | clear =>
    obtain ⟨s', stepped, kept⟩ := clear_kept (console_screen width height) s
    exact ⟨s', stepped, kept, fun _ other => by cases other⟩

/-- What is typed stays in its buffer, with its length beside it, exactly as long as no
    character is typed behind the 255th. -/
theorem console_buffer_iff (width height : Int) (s : State) (events : List Event) :
    StaysInBuffer (console_screen width height) s (.clear :: events) ↔
      ∀ earlier touch later before, events = earlier ++ .touch touch :: later →
        run (step (console_screen width height)) s (.clear :: earlier) = some before →
        ¬ Overflows (console_screen width height) before touch := by
  constructor
  · intro stays earlier touch later before split ran overflows
    obtain ⟨same, after, again, stepped, _⟩ :=
      stays (.clear :: earlier) (.touch touch) later (by rw [split, List.cons_append])
    obtain rfl := Option.some.inj (ran.symm.trans again)
    rw [touch_overflows overflows] at stepped
    cases stepped
  · intro room earlier e later split
    obtain ⟨start, cleared, kept⟩ := clear_kept (console_screen width height) s
    cases earlier with
    | nil =>
      obtain ⟨rfl, _⟩ := List.cons.inj split
      exact ⟨s, start, rfl, cleared, kept, fun _ other => by cases other⟩
    | cons first earlier =>
      obtain ⟨rfl, behind⟩ := List.cons.inj split
      have goes s' e (kept : Kept s') (fits : Fits (console_screen width height) s' e) :
          ∃ next, step (console_screen width height) s' e = some next ∧ Kept next := by
        obtain ⟨next, stepped, kept, _⟩ := event_kept kept fits
        exact ⟨next, stepped, kept⟩
      have all : ∀ earlier e later middle, events = earlier ++ e :: later →
          run (step (console_screen width height)) start earlier = some middle →
          Fits (console_screen width height) middle e := by
        rintro earlier _ later middle split ran touch rfl
        exact room earlier touch later middle split (run_cons.mpr ⟨start, cleared, ran⟩)
      obtain ⟨before, ran, kept, fits⟩ := run_reaches goes all kept behind
      obtain ⟨after, stepped, kept, one⟩ := event_kept kept fits
      exact ⟨before, after, run_cons.mpr ⟨start, cleared, ran⟩, stepped, kept, one⟩

/-- The middle of the key `q` on a screen of 480 to 800. -/
def tap_q : Touch := ⟨false, 0, 24, 548, BTN_MOUSE⟩

theorem q_touched : touched_key (console_screen 480 800) KEYBOARD_PAGE_qwe tap_q = some 'q' := by decide

theorem q_types : Types 'q' := ⟨by decide, by decide, by decide⟩

/-- As long as there is room, every tap on `q` adds one. -/
theorem q_typed {s : State} (kept : Kept s) (page : s.keyboard_page = KEYBOARD_PAGE_qwe) {n : Nat}
    (room : s.console_length + n ≤ 255) :
    ∃ s', run (step (console_screen 480 800)) s (List.replicate n (.touch tap_q)) = some s' ∧ Kept s' ∧
      s'.keyboard_page = KEYBOARD_PAGE_qwe ∧ s'.console_length = s.console_length + n := by
  induction n generalizing s with
  | zero => exact ⟨s, rfl, kept, page, rfl⟩
  | succ n ih =>
    have free : s.console_cmd.text.length < 255 := by rw [← kept.length]; omega
    obtain ⟨console_cmd, stored, text⟩ := put_text free (show 'q' ≠ '\x00' by decide)
    have stepped : step (console_screen 480 800) s (.touch tap_q) =
        some ⟨console_cmd, s.console_length + 1, KEYBOARD_PAGE_qwe⟩ := by
      rw [console_touch, console_input_key rfl rfl, page, q_touched, Option.elim_some, press_types q_types, kept.length,
        stored, page]
      rfl
    have longer : Kept ⟨console_cmd, s.console_length + 1, KEYBOARD_PAGE_qwe⟩ :=
      ⟨by simp only [text, List.length_append, List.length_singleton, kept.length], by dsimp only; omega⟩
    obtain ⟨s', ran, kept', page', length⟩ := ih longer rfl (by dsimp only; omega)
    exact ⟨s', run_cons.mpr ⟨_, stepped, ran⟩, kept', page', by rw [length]; dsimp only; omega⟩

/-- The console before anything was typed. -/
def no_input : State := ⟨⟨List.replicate 256 '\x00', List.length_replicate⟩, 0, KEYBOARD_PAGE_qwe⟩

/-- The 256th `q` is stored behind the 255 characters there is room for, and the nul
    behind it outside the array. -/
theorem q_overflows : ¬ StaysInBuffer (console_screen 480 800) no_input (.clear :: List.replicate 256 (.touch tap_q)) := by
  intro stays
  obtain ⟨before, after, ran, stepped, _⟩ :=
    stays (.clear :: List.replicate 255 (.touch tap_q)) (.touch tap_q) [] (by rw [List.cons_append, ← List.replicate_succ'])
  obtain ⟨start, cleared, ran⟩ := run_cons.mp ran
  obtain rfl : start = no_input := by
    rw [step, set_console_cmd] at cleared
    exact (Option.some.inj cleared).symm.trans rfl
  have empty : Kept no_input := ⟨by decide, by decide⟩
  obtain ⟨s', typed, _, page, length⟩ := q_typed empty rfl (n := 255) (by decide)
  obtain rfl := Option.some.inj (ran.symm.trans typed)
  have overflows : Overflows (console_screen 480 800) before tap_q := ⟨length, rfl, 'q', page ▸ q_touched, q_types⟩
  rw [touch_overflows overflows] at stepped
  cases stepped

end SteamRecovery.Console
