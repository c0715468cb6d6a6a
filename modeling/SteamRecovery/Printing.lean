import SteamRecovery.FormatStrings
import SteamRecovery.TextLog

/-!
What commands print on the screen (`ui_print` in `ui.c`, `cmd_print` in `commands.c`). A
text is used as the format, and that of a script is put together in a buffer of a fixed
size before (`cmd_print_iff`).
-/
namespace SteamRecovery.Printing
open SteamRecovery.CStrings SteamRecovery.FormatStrings
open SteamRecovery.TextLog (Printed)

/-- The part of a formatted text for which there is room in `buf`. -/
def buf (formatted : List Char) : Printed where
  text := (c_string '\x00' formatted).take 512
  clean := fun member => c_string_clean formatted (List.mem_of_mem_take member)
  short := List.length_take_le _ _

/-- The text that `ui_print(fmt)` passes on to the main log, unless a conversion takes an
    argument. -/
def ui_print (fmt : List Char) : Option Printed := (format '%' (c_string '\x00' fmt)).map buf

/-- `LOGE` with arguments, where `vsnprintf` makes this text. -/
def LOGE (formatted : List Char) : Printed := buf ("E:".toList ++ formatted)

/-- What is returned, and the texts in the main log, with what `message` held before. It is
    `none` where a write is outside `message`. -/
def cmd_print (stale : Fin 1023 → Char) (argv : List (List Char)) (log : List Printed) : Option (Int × List Printed) :=
  let message : Block Char := ⟨'\x00' :: List.ofFn stale, 1⟩
  let words := argv.flatMap fun arg => [arg, [' ']]
  match (words ++ [['\n']]).foldlM (strcat '\x00') message with
  | none => none
  | some message => (ui_print message.bytes).map fun text => (0, log ++ [text])

/-! ### Printing texts as they are -/

theorem buf_text {formatted : List Char} (clean : '\x00' ∉ formatted) : (buf formatted).text = formatted.take 512 :=
  congrArg (List.take 512) (c_string_of_clean clean)

theorem ui_print_string (fmt : List Char) : ui_print (c_string '\x00' fmt) = ui_print fmt := by
  rw [ui_print, ui_print, c_string_of_clean (c_string_clean fmt)]

theorem ui_print_defined (fmt : List Char) : ui_print fmt ≠ none ↔ Paired '%' (c_string '\x00' fmt) := by
  rw [ui_print]
  constructor
  · intro printed
    have defined : format '%' (c_string '\x00' fmt) ≠ none := fun absent => printed (by rw [absent, Option.map_none])
    obtain ⟨out, formatted⟩ := Option.ne_none_iff_exists'.mp defined
    exact format_some formatted
  · intro paired
    obtain ⟨out, formatted⟩ := format_paired paired
    rw [formatted]
    exact Option.some_ne_none _

/-- What is printed is the text itself, as far as there is room for it. -/
theorem ui_print_iff {text : List Char} (clean : '\x00' ∉ text) :
    (∃ call, ui_print text = some call ∧ call.text = text.take 512) ↔ Paired '%' text ∧ Kept '%' 512 text := by
  have out_clean {out : List Char} (printed : format '%' text = some out) : '\x00' ∉ out :=
    fun member => clean (format_subset printed member)
  rw [← format_kept_iff, ui_print, c_string_of_clean clean]
  constructor
  · rintro ⟨call, printed, same⟩
    obtain ⟨out, formatted, rfl⟩ := Option.map_eq_some_iff.mp printed
    exact ⟨out, formatted, by rw [← same, buf_text (out_clean formatted)]⟩
  · rintro ⟨out, formatted, same⟩
    exact ⟨buf out, by rw [formatted, Option.map_some], by rw [← same, buf_text (out_clean formatted)]⟩

/-! ### The command -/

/-- What `print` is to show: every argument with a space, and a newline. -/
def message (argv : List (List Char)) : List Char := (argv.flatMap fun arg => arg ++ [' ']) ++ ['\n']

theorem message_clean {argv : List (List Char)} (clean : ∀ arg ∈ argv, '\x00' ∉ arg) : '\x00' ∉ message argv := by
  simp only [message, List.mem_append, List.mem_flatMap, List.mem_singleton]
  rintro (⟨arg, member, here | blank⟩ | newline)
  · exact clean arg member here
  · cases blank
  · cases newline

theorem words_joined (argv : List (List Char)) :
    ((argv.flatMap fun arg => [arg, [' ']]) ++ [['\n']]).flatten = message argv := by
  rw [List.flatten_append, message]
  congr 1
  induction argv with
  | nil => rfl
  | cons arg rest ih => simp [ih]

theorem cmd_print_eq (stale : Fin 1023 → Char) {argv : List (List Char)} (clean : ∀ arg ∈ argv, '\x00' ∉ arg)
    (log : List Printed) :
    cmd_print stale argv log =
      if (message argv).length < 1024 then (ui_print (message argv)).map fun text => (0, log ++ [text]) else none := by
  have words_clean : ∀ word ∈ (argv.flatMap fun arg => [arg, [' ']]) ++ [['\n']], '\x00' ∉ word := by
    intro word member
    simp only [List.mem_append, List.mem_flatMap, List.mem_cons, List.not_mem_nil, or_false] at member
    rcases member with ⟨arg, there, rfl | rfl⟩ | rfl
    · exact clean word there
    · decide
    · decide
  have text_clean := message_clean clean
  unfold cmd_print
  dsimp only
  rw [strcat_all words_clean (by simp), words_joined]
  have empty : c_string '\x00' ('\x00' :: List.ofFn stale) = [] := 
    c_string_append (show '\x00' ∉ ([] : List Char) from List.not_mem_nil) _
  simp only [strcat, empty, List.length_nil, Nat.zero_add, List.nil_append, List.length_cons, List.length_ofFn]
  by_cases fits : (message argv).length < 1024
  · rw [if_pos (by omega), if_pos fits]
    dsimp only
    rw [← ui_print_string, c_string_append text_clean]
  · rw [if_neg (by omega), if_neg fits]

/-- The arguments are shown as they are if there is room for all of them, and every percent
    sign is one of a pair, and behind the first one only pairs are shown. -/
theorem cmd_print_iff (stale : Fin 1023 → Char) {argv : List (List Char)} (clean : ∀ arg ∈ argv, '\x00' ∉ arg)
    (log : List Printed) :
    (∃ call, cmd_print stale argv log = some (0, log ++ [call]) ∧ call.text = (message argv).take 512) ↔
      (message argv).length < 1024 ∧ Paired '%' (message argv) ∧ Kept '%' 512 (message argv) := by
  rw [← ui_print_iff (message_clean clean), cmd_print_eq stale clean]
  split
  · rename_i fits
    rw [and_iff_right fits]
    refine exists_congr fun call => and_congr_left fun _ => ?_
    cases ui_print (message argv) <;> simp
  · rename_i long
    simp [long]

theorem hello_shown :
    (∃ call, cmd_print (fun _ => 'x') ["Hello".toList, "world".toList] [] = some (0, [] ++ [call]) ∧
        call.text = (message ["Hello".toList, "world".toList]).take 512) ↔
      (message ["Hello".toList, "world".toList]).length < 1024 ∧ Paired '%' (message ["Hello".toList, "world".toList]) ∧
        Kept '%' 512 (message ["Hello".toList, "world".toList]) :=
  cmd_print_iff _ (by decide) []

/-- What is left of a download, where the percent sign is taken for a conversion. -/
theorem percent_not_shown :
    ¬∃ call, cmd_print (fun _ => 'x') ["50%".toList, "done".toList] [] = some (0, [] ++ [call]) ∧
      call.text = (message ["50%".toList, "done".toList]).take 512 := by
  rintro ⟨call, printed, _⟩
  rw [cmd_print_eq _ (by decide), if_pos (by decide)] at printed
  have no_text : ui_print (message ["50%".toList, "done".toList]) = none := by decide
  rw [no_text] at printed
  cases printed

end SteamRecovery.Printing
