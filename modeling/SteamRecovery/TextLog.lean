import Mathlib.Data.List.Basic
import Mathlib.Logic.Function.Basic
import SteamRecovery.CStrings
import SteamRecovery.Wrapping

/-!
The text logs on the screen (`ui.c`). The rows of a container are used again and
again, and what stands in a row is only ended when the next row begins or the call
does. Read from `text_top` on, they are the last lines of all that was printed
(`text_log_window`). A write outside `text` is `none`.
-/
namespace SteamRecovery.TextLog
open SteamRecovery.CStrings
open SteamRecovery.Wrapping

def MAX_COLS : Nat := 64
def MAX_ROWS : Nat := 45
def CHAR_WIDTH : Nat := 10
def CHAR_HEIGHT : Nat := 18

structure TextContainer where
  /-- The rows of `text`, each `MAX_COLS` long. -/
  text : Nat → List Char
  text_cols : Nat
  text_rows : Nat
  text_col : Nat
  text_row : Nat
  text_top : Nat

/-- The container behind `ui_init` and `ui_clear_screen`, for a screen of this size. -/
def ui_clear_screen (gr_fb_width gr_fb_height : Nat) : TextContainer where
  text := fun _ => List.replicate MAX_COLS '\x00'
  text_cols := min (gr_fb_width / CHAR_WIDTH) (MAX_COLS - 1)
  text_rows := min (gr_fb_height / CHAR_HEIGHT) MAX_ROWS
  text_col := 0
  text_row := 0
  text_top := 1

/-- `tc->text[row][col] = c`. -/
def set_text (tc : TextContainer) (row col : Nat) (c : Char) : Option TextContainer :=
  if row < MAX_ROWS ∧ col < MAX_COLS then
    some { tc with text := Function.update tc.text row ((tc.text row).set col c) }
  else none

/-- The row is ended and the next one begins. The top is pushed on in front of it. -/
def next_row (tc : TextContainer) : Option TextContainer :=
  (set_text tc tc.text_row tc.text_col '\x00').map fun tc =>
    let text_row := (tc.text_row + 1) % tc.text_rows
    { tc with
      text_col := 0
      text_row := text_row
      text_top := if text_row = tc.text_top then (tc.text_top + 1) % tc.text_rows else tc.text_top }

def put_char (tc : TextContainer) (c : Char) : Option TextContainer :=
  (set_text tc tc.text_row tc.text_col c).map fun tc => { tc with text_col := tc.text_col + 1 }

def print_char (tc : TextContainer) (c : Char) : Option TextContainer :=
  (if c = '\n' ∨ tc.text_col ≥ tc.text_cols then next_row tc else some tc).bind fun tc =>
    if c ≠ '\n' then put_char tc c else some tc

/-- `vui_print_to`, where `vsnprintf` would make this text with a larger buffer. -/
def vui_print_to (tc : TextContainer) (formatted : List Char) : Option TextContainer :=
  let buf := formatted.take 512
  if tc.text_rows > 0 ∧ tc.text_cols > 0 then
    (buf.foldlM print_char tc).bind fun tc => set_text tc tc.text_row tc.text_col '\x00'
  else some tc

/-- The string in a row, which has to end inside it. -/
def text_line (tc : TextContainer) (row : Nat) : Option (List Char) :=
  if row < MAX_ROWS ∧ '\x00' ∈ tc.text row then some (c_string '\x00' (tc.text row)) else none

/-- The lines that `draw_logs` draws, from the top of the screen. -/
def draw_logs (tc : TextContainer) : List (Option (List Char)) :=
  (List.range tc.text_rows).map fun row => text_line tc ((row + tc.text_top) % tc.text_rows)

/-! ### What the rows hold -/

/-- The string stands at the start of the row. -/
def Holds (row line : List Char) : Prop := '\x00' ∉ line ∧ ∃ rest, row = line ++ '\x00' :: rest

/-- The container shows a text whose last line is `cur`, with `past` before it, the
    last one first. The row in use need not be ended. -/
structure Shows (tc : TextContainer) (cur : List Char) (past : List (List Char)) : Prop where
  rows : 2 ≤ tc.text_rows ∧ tc.text_rows ≤ MAX_ROWS
  cols : 0 < tc.text_cols ∧ tc.text_cols < MAX_COLS
  row : tc.text_row < tc.text_rows
  top : tc.text_top = (tc.text_row + 1) % tc.text_rows
  col : tc.text_col = cur.length
  fits : cur.length ≤ tc.text_cols
  clean : '\x00' ∉ cur
  size : ∀ row, (tc.text row).length = MAX_COLS
  current : cur <+: tc.text tc.text_row
  before : ∀ d, d + 1 < tc.text_rows →
    Holds (tc.text ((tc.text_row + tc.text_rows - (d + 1)) % tc.text_rows)) (past.getD d [])

variable {tc : TextContainer} {cur : List Char} {past : List (List Char)}

theorem holds_string {row line : List Char} (holds : Holds row line) : c_string '\x00' row = line ∧ '\x00' ∈ row := by
  obtain ⟨clean, rest, rfl⟩ := holds
  exact ⟨c_string_append clean rest, by simp⟩

/-- A prefix of a row, and the character that is written behind it. -/
theorem set_behind {row line : List Char} (begins : line <+: row) (room : line.length < row.length) (c : Char) :
    ∃ rest, row.set line.length c = line ++ c :: rest := by
  obtain ⟨behind, rfl⟩ := begins
  cases behind with
  | nil => simp at room
  | cons old rest => exact ⟨rest, by simp⟩

/-- The rows behind the one in use are other rows. -/
theorem row_apart {row rows d : Nat} (inside : row < rows) (near : d + 1 < rows) : (row + rows - (d + 1)) % rows ≠ row := by
  by_cases wraps : d + 1 ≤ row
  · have same : row + rows - (d + 1) = row - (d + 1) + rows := by omega
    rw [same, Nat.add_mod_right, Nat.mod_eq_of_lt (by omega)]
    omega
  · rw [Nat.mod_eq_of_lt (by omega)]
    omega

/-- Seen from the next row, every row is one further back. -/
theorem row_behind {row rows d : Nat} (inside : row < rows) (near : d < rows) :
    ((row + 1) % rows + rows - (d + 1)) % rows = (row + rows - d) % rows := by
  by_cases last : row + 1 = rows
  · have same : row + rows - d = rows - (d + 1) + rows := by omega
    rw [last, Nat.mod_self, Nat.zero_add, same, Nat.add_mod_right]
  · have same : row + 1 + rows - (d + 1) = row + rows - d := by omega
    rw [Nat.mod_eq_of_lt (show row + 1 < rows by omega), same]

/-! ### Steps -/

/-- The character stands behind the current line. -/
def written (tc : TextContainer) (c : Char) : TextContainer :=
  { tc with text := Function.update tc.text tc.text_row ((tc.text tc.text_row).set tc.text_col c) }

theorem set_text_written (shows : Shows tc cur past) (c : Char) :
    set_text tc tc.text_row tc.text_col c = some (written tc c) := by
  obtain ⟨⟨_, few_rows⟩, ⟨_, few_cols⟩, row, _, col, fits⟩ := shows
  exact if_pos ⟨by omega, by omega⟩

theorem written_self (tc : TextContainer) (c : Char) :
    (written tc c).text tc.text_row = (tc.text tc.text_row).set tc.text_col c :=
  Function.update_self _ _ _

theorem written_current (shows : Shows tc cur past) (c : Char) :
    ∃ rest, (written tc c).text tc.text_row = cur ++ c :: rest := by
  have room : cur.length < (tc.text tc.text_row).length := by
    rw [shows.size]
    exact Nat.lt_of_le_of_lt shows.fits shows.cols.2
  obtain ⟨rest, set⟩ := set_behind shows.current room c
  exact ⟨rest, by rw [written_self, shows.col, set]⟩

theorem written_other {row : Nat} (apart : row ≠ tc.text_row) (c : Char) : (written tc c).text row = tc.text row :=
  Function.update_of_ne apart _ _

theorem written_size (shows : Shows tc cur past) (c : Char) (row : Nat) : ((written tc c).text row).length = MAX_COLS := by
  by_cases here : row = tc.text_row
  · rw [here, written_self, List.length_set, shows.size]
  · rw [written_other here, shows.size]

theorem written_before (shows : Shows tc cur past) (c : Char) {d : Nat} (near : d + 1 < tc.text_rows) :
    Holds ((written tc c).text ((tc.text_row + tc.text_rows - (d + 1)) % tc.text_rows)) (past.getD d []) := by
  rw [written_other (row_apart shows.row near)]
  exact shows.before d near

/-- The terminator behind the current line leaves everything as it is shown. -/
theorem shows_ended (shows : Shows tc cur past) :
    Shows (written tc '\x00') cur past ∧ Holds ((written tc '\x00').text tc.text_row) cur := by
  obtain ⟨rest, ended⟩ := written_current shows '\x00'
  refine ⟨?_, shows.clean, rest, ended⟩
  exact {
    rows := shows.rows
    cols := shows.cols
    row := shows.row
    top := shows.top
    col := shows.col
    fits := shows.fits
    clean := shows.clean
    size := written_size shows '\x00'
    current := ⟨'\x00' :: rest, ended.symm⟩
    before := fun d => written_before shows '\x00' }

/-- The container behind a row that is ended. -/
def turned (tc : TextContainer) : TextContainer :=
  { written tc '\x00' with
    text_col := 0
    text_row := (tc.text_row + 1) % tc.text_rows
    text_top := ((tc.text_row + 1) % tc.text_rows + 1) % tc.text_rows }

theorem next_row_turned (shows : Shows tc cur past) : next_row tc = some (turned tc) := by
  simp only [next_row, set_text_written shows, Option.map_some, turned, written, shows.top, ↓reduceIte]

theorem shows_turned (shows : Shows tc cur past) : Shows (turned tc) [] (cur :: past) where
  rows := shows.rows
  cols := shows.cols
  row := Nat.mod_lt _ (Nat.lt_of_lt_of_le Nat.zero_lt_two shows.rows.1)
  top := rfl
  col := rfl
  fits := Nat.zero_le _
  clean := List.not_mem_nil
  size := written_size shows '\x00'
  current := List.nil_prefix
  before := by
    intro d near
    have same : ((tc.text_row + 1) % tc.text_rows + tc.text_rows - (d + 1)) % tc.text_rows =
        (tc.text_row + tc.text_rows - d) % tc.text_rows := row_behind shows.row (Nat.lt_of_succ_lt near)
    show Holds ((written tc '\x00').text (((tc.text_row + 1) % tc.text_rows + tc.text_rows - (d + 1)) % tc.text_rows)) _
    rw [same]
    cases d with
    | zero =>
      rw [Nat.sub_zero, Nat.add_mod_right, Nat.mod_eq_of_lt shows.row]
      exact (shows_ended shows).2
    | succ d => exact written_before shows '\x00' (Nat.lt_of_succ_lt near)

/-- The container behind a character that fits into the row. -/
def longer (tc : TextContainer) (c : Char) : TextContainer := { written tc c with text_col := tc.text_col + 1 }

theorem put_char_longer (shows : Shows tc cur past) (c : Char) : put_char tc c = some (longer tc c) := by
  rw [put_char, set_text_written shows]
  rfl

theorem shows_longer (shows : Shows tc cur past) {c : Char} (room : cur.length < tc.text_cols) (some_char : c ≠ '\x00') :
    Shows (longer tc c) (cur ++ [c]) past where
  rows := shows.rows
  cols := shows.cols
  row := shows.row
  top := shows.top
  col := by
    show tc.text_col + 1 = (cur ++ [c]).length
    rw [shows.col, List.length_append]
    rfl
  fits := by
    rw [List.length_append]
    exact Nat.succ_le_of_lt room
  clean := by
    rw [List.mem_append, not_or]
    exact ⟨shows.clean, by simpa using some_char.symm⟩
  size := written_size shows c
  current := by
    obtain ⟨rest, behind⟩ := written_current shows c
    exact ⟨rest, by rw [List.append_assoc]; exact behind.symm⟩
  before := fun d => written_before shows c

/-- What a container shows, the last line first. -/
def ShowsLines (rows cols : Nat) (tc : TextContainer) (lines : List (List Char)) : Prop :=
  tc.text_rows = rows ∧ tc.text_cols = cols ∧ ∃ cur past, lines = cur :: past ∧ Shows tc cur past

variable {rows cols : Nat} {lines : List (List Char)}

/-- A character goes where the wrapped text has it. -/
theorem print_char_shows (shown : ShowsLines rows cols tc lines) {c : Char} (some_char : c ≠ '\x00') :
    ∃ next, print_char tc c = some next ∧ ShowsLines rows cols next (add '\n' cols lines c) := by
  obtain ⟨rfl, rfl, cur, past, rfl, shows⟩ := shown
  have col := shows.col
  by_cases newline : c = '\n'
  · refine ⟨turned tc, ?_, rfl, rfl, [], cur :: past, ?_, shows_turned shows⟩
    · simp [print_char, newline, next_row_turned shows]
    · rw [add, if_pos newline]
  by_cases room : cur.length < tc.text_cols
  · refine ⟨longer tc c, ?_, rfl, rfl, cur ++ [c], past, ?_, shows_longer shows room some_char⟩
    · have free : ¬ (c = '\n' ∨ tc.text_col ≥ tc.text_cols) := by
        rintro (same | full)
        · exact newline same
        · omega
      rw [print_char, if_neg free, Option.bind_some, if_pos newline, put_char_longer shows]
    · rw [add, if_neg newline, extend, if_pos room]
  · have turn := shows_turned shows
    refine ⟨longer (turned tc) c, ?_, rfl, rfl, [] ++ [c], cur :: past, ?_, shows_longer turn shows.cols.1 some_char⟩
    · have full : c = '\n' ∨ tc.text_col ≥ tc.text_cols := .inr (by omega)
      rw [print_char, if_pos full, next_row_turned shows, Option.bind_some, if_pos newline, put_char_longer turn]
    · rw [add, if_neg newline, extend, if_neg room]
      rfl

theorem print_chars_show (shown : ShowsLines rows cols tc lines) {text : List Char} (clean : '\x00' ∉ text) :
    ∃ next, text.foldlM print_char tc = some next ∧ ShowsLines rows cols next (text.foldl (add '\n' cols) lines) := by
  induction text generalizing tc lines with
  | nil => exact ⟨tc, rfl, shown⟩
  | cons c text ih =>
    obtain ⟨other, clean⟩ := not_or.mp (mt List.mem_cons.mpr clean)
    obtain ⟨next, printed, shown_next⟩ := print_char_shows shown (Ne.symm other)
    obtain ⟨last, rest_printed, shown_last⟩ := ih shown_next clean
    exact ⟨last, by rw [List.foldlM_cons, printed]; exact rest_printed, shown_last⟩

/-! ### Calls -/

/-- What a container shows between two calls, where the row in use is ended as well. -/
def Showing (rows cols : Nat) (tc : TextContainer) (lines : List (List Char)) : Prop :=
  ShowsLines rows cols tc lines ∧ Holds (tc.text tc.text_row) (lines.headD [])

theorem vui_print_to_showing (showing : Showing rows cols tc lines) {text : List Char} (clean : '\x00' ∉ text)
    (short : text.length ≤ 512) : ∃ next, vui_print_to tc text = some next ∧
      Showing rows cols next (text.foldl (add '\n' cols) lines) := by
  obtain ⟨next, printed, same_rows, same_cols, cur, past, shown, shows⟩ := print_chars_show showing.1 clean
  obtain ⟨ended, holds⟩ := shows_ended shows
  refine ⟨written next '\x00', ?_, ⟨same_rows, same_cols, cur, past, shown, ended⟩, ?_⟩
  · obtain ⟨rfl, rfl, before, earlier, _, shows_before⟩ := showing.1
    have initialised : tc.text_rows > 0 ∧ tc.text_cols > 0 :=
      ⟨Nat.lt_of_lt_of_le Nat.zero_lt_two shows_before.rows.1, shows_before.cols.1⟩
    simp only [vui_print_to, List.take_of_length_le short, if_pos initialised, printed, Option.bind_some]
    exact set_text_written shows '\x00'
  · rw [shown]
    exact holds

/-- A text that `vsnprintf` does not cut short. -/
structure Printed where
  text : List Char
  clean : '\x00' ∉ text
  short : text.length ≤ 512

def print_all (tc : TextContainer) (calls : List Printed) : Option TextContainer :=
  calls.foldlM (fun tc call => vui_print_to tc call.text) tc

theorem print_all_showing (showing : Showing rows cols tc lines) (calls : List Printed) :
    ∃ next, print_all tc calls = some next ∧
      Showing rows cols next ((calls.flatMap Printed.text).foldl (add '\n' cols) lines) := by
  induction calls generalizing tc lines with
  | nil => exact ⟨tc, rfl, showing⟩
  | cons call calls ih =>
    obtain ⟨next, printed, showing_next⟩ := vui_print_to_showing showing call.clean call.short
    obtain ⟨last, rest_printed, showing_last⟩ := ih showing_next
    refine ⟨last, ?_, ?_⟩
    · rw [print_all, List.foldlM_cons, printed]
      exact rest_printed
    · rwa [List.flatMap_cons, List.foldl_append]

theorem clear_screen_showing {width height : Nat} (tall : 2 ≤ (ui_clear_screen width height).text_rows)
    (wide : 1 ≤ (ui_clear_screen width height).text_cols) :
    Showing (ui_clear_screen width height).text_rows (ui_clear_screen width height).text_cols
      (ui_clear_screen width height) [[]] := by
  have blank : Holds (List.replicate MAX_COLS '\x00') [] := ⟨List.not_mem_nil, List.replicate (MAX_COLS - 1) '\x00', rfl⟩
  refine ⟨⟨rfl, rfl, [], [], rfl, ?_⟩, blank⟩
  exact {
    rows := ⟨tall, Nat.min_le_right _ _⟩
    cols := ⟨wide, Nat.lt_of_le_of_lt (Nat.min_le_right _ _) (by decide)⟩
    row := Nat.lt_of_lt_of_le Nat.zero_lt_two tall
    top := (Nat.mod_eq_of_lt tall).symm
    col := rfl
    fits := Nat.zero_le _
    clean := List.not_mem_nil
    size := fun _ => List.length_replicate
    current := List.nil_prefix
    before := fun _ _ => blank }

/-- The rows from the top on are the last lines of the text. -/
theorem draw_logs_showing (showing : Showing rows cols tc lines) :
    draw_logs tc = (last_lines rows lines.reverse).map some := by
  obtain ⟨⟨rfl, rfl, cur, past, rfl, shows⟩, holds⟩ := showing
  have row := shows.row
  refine List.ext_getElem? fun i => ?_
  by_cases inside : i < tc.text_rows
  · have back : ∀ d, d < tc.text_rows →
        text_line tc ((tc.text_row + tc.text_rows - d) % tc.text_rows) = some ((cur :: past).getD d []) := by
      intro d near
      have holds_row : Holds (tc.text ((tc.text_row + tc.text_rows - d) % tc.text_rows)) ((cur :: past).getD d []) := by
        cases d with
        | zero =>
          rw [Nat.sub_zero, Nat.add_mod_right, Nat.mod_eq_of_lt row]
          exact holds
        | succ d => exact shows.before d near
      obtain ⟨text, ends⟩ := holds_string holds_row
      have few : (tc.text_row + tc.text_rows - d) % tc.text_rows < MAX_ROWS :=
        Nat.lt_of_lt_of_le (Nat.mod_lt _ (Nat.zero_lt_of_lt row)) shows.rows.2
      rw [text_line, if_pos ⟨few, ends⟩, text]
    have index : (i + tc.text_top) % tc.text_rows =
        (tc.text_row + tc.text_rows - (tc.text_rows - 1 - i)) % tc.text_rows := by
      rw [shows.top, Nat.add_mod_mod]
      refine congrArg (· % tc.text_rows) ?_
      omega
    rw [draw_logs, List.getElem?_map, List.getElem?_map, List.getElem?_range inside, last_lines_get inside,
      Option.map_some, Option.map_some, index, back _ (by omega), List.reverse_reverse]
  · have outside : (last_lines tc.text_rows (cur :: past).reverse)[i]? = none := by
      rw [List.getElem?_eq_none_iff, last_lines_length]
      omega
    rw [List.getElem?_map, outside, draw_logs, List.getElem?_eq_none_iff.mpr]
    · rfl
    · rw [List.length_map, List.length_range]
      omega

/-- After any calls on a cleared container, no index was out of range, and what is
    drawn is the end of all that was printed. -/
theorem text_log_window {width height : Nat} (tall : 2 ≤ (ui_clear_screen width height).text_rows)
    (wide : 1 ≤ (ui_clear_screen width height).text_cols) (calls : List Printed) :
    ∃ tc, print_all (ui_clear_screen width height) calls = some tc ∧
      tc.text_top = (tc.text_row + 1) % tc.text_rows ∧
      draw_logs tc = (last_lines (ui_clear_screen width height).text_rows
        (wrap '\n' (ui_clear_screen width height).text_cols (calls.flatMap Printed.text))).map some := by
  obtain ⟨tc, printed, showing⟩ := print_all_showing (clear_screen_showing tall wide) calls
  refine ⟨tc, printed, ?_, ?_⟩
  · obtain ⟨⟨_, _, cur, past, _, shows⟩, _⟩ := showing
    exact shows.top
  · have folded := wrap_fold '\n' wide [] (calls.flatMap Printed.text)
    rw [wrap_nil, List.reverse_singleton, List.nil_append] at folded
    rw [draw_logs_showing showing, ← folded, List.reverse_reverse]

/-- What `erase_root` prints. -/
def formatting : Printed where
  text := "Formatting DATA:...\n".toList
  clean := by decide
  short := by decide

theorem formatting_shown : ∃ tc, print_all (ui_clear_screen 480 800) [formatting] = some tc ∧
    tc.text_top = (tc.text_row + 1) % tc.text_rows ∧
    draw_logs tc = (last_lines 44 (wrap '\n' 48 ([formatting].flatMap Printed.text))).map some :=
  text_log_window (by decide) (by decide) [formatting]

end SteamRecovery.TextLog
