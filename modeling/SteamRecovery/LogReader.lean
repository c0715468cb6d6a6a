import SteamRecovery.Compaction
import SteamRecovery.TextLog

/-!
The threads that follow a log (`log_reader` in `ui.c`). Each `read` fills a buffer,
the characters that cannot be drawn are taken out of it in place, and what is left
goes to the container. The screen shows the end of the characters that were kept,
and neither how `read` cuts the log nor what an earlier `read` left in the buffer
makes a difference (`log_reader_bytes`).
-/
namespace SteamRecovery.LogReader
open SteamRecovery.CStrings
open SteamRecovery.Compaction
open SteamRecovery.TextLog
open SteamRecovery.Wrapping

/-- What one `read(fd, buf, sizeof(buf)-1)` returned. -/
structure Read where
  bytes : List Char
  short : bytes.length ≤ 256

/-- `buf`, and the container the thread prints to. -/
structure Reader where
  buf : List Char
  log : TextContainer

/-- `(buf[i]=='\n') || ((buf[i]>=' ') && (buf[i]<='~'))` -/
def drawn (c : Char) : Bool := c = '\n' || (' ' ≤ c && c ≤ '~')

/-- `read` fills the front of the buffer, where it is long enough. -/
def filled (buf bytes : List Char) : Option (List Char) :=
  if bytes.length ≤ buf.length then some (bytes ++ buf.drop bytes.length) else none

/-- The buffer behind a `read` and the loop over it, or none where an index is outside of it. -/
def strip (buf : List Char) (read : Read) : Option (List Char) := do
  let rbytes := read.bytes.length
  let buf ← filled buf read.bytes
  let buf ← store buf rbytes '\x00'
  let compacted ← compact drawn buf rbytes
  store compacted.buf (rbytes - compacted.move) '\x00'

/-- What is done where `poll` found something. A `read` of nothing ends the inner loop. -/
def read_log (r : Reader) (read : Read) : Option Reader :=
  if read.bytes = [] then some r
  else do
    let buf ← strip r.buf read
    -- Without a NUL the printing would read on behind the buffer.
    if '\x00' ∈ buf then (vui_print_to r.log (c_string '\x00' buf)).map fun log => ⟨buf, log⟩ else none

/-- The reads of a `log_reader`, in all its rounds. -/
def log_reader (r : Reader) (reads : List Read) : Option Reader := reads.foldlM read_log r

/-! ### One read -/

theorem drawn_clean (text : List Char) : '\x00' ∉ text.filter drawn := by
  intro member
  have kept := (List.mem_filter.mp member).2
  exact absurd kept (by decide)

/-- The buffer holds the characters that are kept, whatever it held before. -/
theorem strip_text {buf : List Char} (size : buf.length = 257) (read : Read) :
    ∃ rest, strip buf read = some (read.bytes.filter drawn ++ '\x00' :: rest) ∧
      (read.bytes.filter drawn ++ '\x00' :: rest).length = 257 := by
  have short := read.short
  have fits : read.bytes.length ≤ buf.length := by omega
  obtain ⟨c, rest, split_at⟩ : ∃ c rest, buf.drop read.bytes.length = c :: rest :=
    ⟨_, _, List.drop_eq_getElem_cons (by omega)⟩
  have whole : read.bytes.length + (rest.length + 1) = 257 := by
    have dropped := congrArg List.length split_at
    simp only [List.length_drop, List.length_cons] at dropped
    omega
  have inside : read.bytes.length ≤ (read.bytes ++ '\x00' :: rest).length := by simp
  obtain ⟨s, compacted, gap, dropped, count, contents⟩ := compact_filter drawn inside
  rw [List.take_left, List.drop_left] at contents
  rw [List.take_left] at count
  have place : (read.bytes.length : Int) - s.move = (read.bytes.filter drawn).length := by omega
  have ran : strip buf read = store s.buf (read.bytes.length - s.move) '\x00' := by
    simp only [strip, filled, if_pos fits, split_at, Option.bind_eq_bind, Option.bind_some, store_append, compacted]
  rw [ran, place, contents]
  cases gap with
  | nil =>
    refine ⟨rest, store_append _ _ _ _, ?_⟩
    simp only [List.length_nil] at dropped
    simp only [List.length_append, List.length_cons]
    omega
  | cons first others =>
    refine ⟨others ++ '\x00' :: rest, store_append _ _ _ _, ?_⟩
    simp only [List.length_cons] at dropped
    simp only [List.length_append, List.length_cons]
    omega

variable {rows cols : Nat} {lines : List (List Char)} {r : Reader}

theorem read_log_showing (size : r.buf.length = 257) (showing : Showing rows cols r.log lines) (read : Read) :
    ∃ next, read_log r read = some next ∧ next.buf.length = 257 ∧
      Showing rows cols next.log ((read.bytes.filter drawn).foldl (add '\n' cols) lines) := by
  by_cases nothing : read.bytes = []
  · refine ⟨r, if_pos nothing, size, ?_⟩
    rw [nothing]
    exact showing
  · obtain ⟨rest, kept, kept_size⟩ := strip_text size read
    have few : (read.bytes.filter drawn).length ≤ 512 :=
      Nat.le_trans (List.length_filter_le _ _) (Nat.le_trans read.short (by decide))
    obtain ⟨log, printed, shown⟩ := vui_print_to_showing showing (drawn_clean read.bytes) few
    refine ⟨⟨_, log⟩, ?_, kept_size, shown⟩
    have ended : '\x00' ∈ read.bytes.filter drawn ++ '\x00' :: rest := by simp
    rw [read_log, if_neg nothing, kept]
    simp only [Option.bind_eq_bind, Option.bind_some, if_pos ended, c_string_append (drawn_clean _), printed,
      Option.map_some]

/-! ### All reads -/

theorem log_reader_showing (size : r.buf.length = 257) (showing : Showing rows cols r.log lines) (reads : List Read) :
    ∃ last, log_reader r reads = some last ∧
      Showing rows cols last.log (((reads.flatMap Read.bytes).filter drawn).foldl (add '\n' cols) lines) := by
  induction reads generalizing r lines with
  | nil => exact ⟨r, rfl, showing⟩
  | cons read reads ih =>
    obtain ⟨next, ran, next_size, showing_next⟩ := read_log_showing size showing read
    obtain ⟨last, rest_ran, showing_last⟩ := ih next_size showing_next
    refine ⟨last, ?_, ?_⟩
    · rw [log_reader, List.foldlM_cons, ran]
      exact rest_ran
    · rwa [List.flatMap_cons, List.filter_append, List.foldl_append]

/-- However the log is cut, no index is outside of the buffer or of the container, and what
    is drawn is the end of the characters that are kept of it. -/
theorem log_reader_bytes {width height : Nat} (tall : 2 ≤ (ui_clear_screen width height).text_rows)
    (wide : 1 ≤ (ui_clear_screen width height).text_cols) {buf : List Char} (size : buf.length = 257) (reads : List Read) :
    ∃ r, log_reader ⟨buf, ui_clear_screen width height⟩ reads = some r ∧
      draw_logs r.log = (last_lines (ui_clear_screen width height).text_rows
        (wrap '\n' (ui_clear_screen width height).text_cols ((reads.flatMap Read.bytes).filter drawn))).map some := by
  obtain ⟨r, ran, showing⟩ := log_reader_showing (r := ⟨buf, ui_clear_screen width height⟩) size
    (clear_screen_showing tall wide) reads
  refine ⟨r, ran, ?_⟩
  have folded := wrap_fold '\n' wide [] ((reads.flatMap Read.bytes).filter drawn)
  rw [wrap_nil, List.reverse_singleton, List.nil_append] at folded
  rw [draw_logs_showing showing, ← folded, List.reverse_reverse]

/-- A coloured line of `logcat`, cut inside the escape sequence. -/
def coloured : List Read := [⟨"\x1b[3".toList, by decide⟩, ⟨"2mboot\n".toList, by decide⟩]

theorem coloured_drawn : ∃ r, log_reader ⟨List.replicate 257 'x', ui_clear_screen 480 800⟩ coloured = some r ∧
    draw_logs r.log = (last_lines 44 (wrap '\n' 48 ((coloured.flatMap Read.bytes).filter drawn))).map some :=
  log_reader_bytes (by decide) (by decide) List.length_replicate coloured

end SteamRecovery.LogReader
