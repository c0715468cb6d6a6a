import SteamRecovery.Printing

/-!
The commands of the updater (`try_update_binary` in `install.c`). The updater writes lines
to a pipe, and each is one command. Operands that a line does not have are read all the
same, and what it prints is taken for a format (`interpreted_iff`).
-/
namespace SteamRecovery.UpdateBinary
open SteamRecovery.CStrings SteamRecovery.FormatStrings SteamRecovery.Printing
open SteamRecovery.TextLog (Printed)

/-- What a command does: a call with the operands as they are read by `strtof` and `strtol`,
    or a text in the main log. -/
inductive Effect where
  | ui_show_progress (fraction_s seconds_s : List Char)
  | ui_set_progress (fraction_s : List Char)
  | ui_print (text : Printed)

/-- The delimiters of commands and their operands. -/
def separates (c : Char) : Bool := c = ' ' || c = '\n'

def ends_line (c : Char) : Bool := c = '\n'

/-- One round of the loop, with what `fgets` read. It is `none` where `NULL` is read as a
    number, or where a conversion of the format takes an argument. -/
def command (piece : List Char) : Option (List Effect) :=
  let buffer := piece ++ ['\x00']
  let (command, _, rest) := strtok '\x00' separates buffer
  match command with
  | none => some []
  | some command =>
    if command = "progress".toList then
      let (fraction_s, _, rest) := strtok '\x00' separates rest
      let (seconds_s, _, _) := strtok '\x00' separates rest
      match fraction_s, seconds_s with
      | some fraction_s, some seconds_s => some [.ui_show_progress fraction_s seconds_s]
      | _, _ => none
    else if command = "set_progress".toList then
      let (fraction_s, _, _) := strtok '\x00' separates rest
      fraction_s.map fun fraction_s => [.ui_set_progress fraction_s]
    else if command = "ui_print".toList then
      let (str, _, _) := strtok '\x00' ends_line rest
      (ui_print (str.getD ['\n'])).map fun text => [.ui_print text]
    else some [.ui_print (LOGE ("unknown command [".toList ++ command ++ "]\n".toList))]

/-- `while (fgets(buffer, sizeof(buffer), from_child) != NULL)`. -/
def command_loop (stream : List Char) : Option (List Effect) :=
  ((pieces '\n' 1023 [] stream).mapM command).map List.flatten

/-! ### What lines say -/

def line_words (line : List Char) : List (List Char) := words separates (c_string '\x00' line)

/-- What `ui_print` is to print. -/
def print_text (line : List Char) : List Char :=
  ((words ends_line (behind_word separates (c_string '\x00' line))).head?).getD ['\n']

/-- A line is one command. Operands that are missing change nothing, and a text of up to 512
    characters is printed as it is. -/
def Done (line : List Char) (effects : List Effect) : Prop :=
  match line_words line with
  | [] => effects = []
  | command :: operands =>
    if command = "progress".toList then
      effects = if 2 ≤ operands.length then [.ui_show_progress (operands.getD 0 []) (operands.getD 1 [])] else []
    else if command = "set_progress".toList then
      effects = if 1 ≤ operands.length then [.ui_set_progress (operands.getD 0 [])] else []
    else if command = "ui_print".toList then
      ∃ text, effects = [.ui_print text] ∧
        ∀ s, line = "ui_print ".toList ++ s → 1 ≤ s.length → s.length ≤ 512 → text.text = s
    else effects = [.ui_print (LOGE ("unknown command [".toList ++ command ++ "]\n".toList))]

/-- All is read, and each line has its own effects, as if it were written alone. Those for
    which there is room in the buffer are one command each. -/
def Interpreted (stream : List Char) : Prop :=
  ∃ told last, command_loop stream = some (told.flatten ++ last) ∧
    List.Forall₂ (fun line effects => command_loop (line ++ ['\n']) = some effects ∧
      (line.length ≤ 1023 → Done line effects)) (ended_lines '\n' stream) told

/-- No operand is missing, and the percent signs of what is printed are in pairs. -/
structure Safe (piece : List Char) : Prop where
  progress : (line_words piece).head? = some "progress".toList → 3 ≤ (line_words piece).length
  set_progress : (line_words piece).head? = some "set_progress".toList → 2 ≤ (line_words piece).length
  ui_print : (line_words piece).head? = some "ui_print".toList → Paired '%' (print_text piece)

/-- A text that is to be printed as it is has no percent sign and no `NUL`. -/
def Plain (line : List Char) : Prop :=
  ∀ s, line = "ui_print ".toList ++ s → 1 ≤ s.length → s.length ≤ 512 → '%' ∉ s ∧ '\x00' ∉ s

/-! ### Rounds of the loop -/

/-- What a round does depends on the words of the line, and on what stands behind the first. -/
theorem command_eq (piece : List Char) :
    command piece =
      if line_words piece = [] then some []
      else if (line_words piece).head? = some "progress".toList then
        if 3 ≤ (line_words piece).length then
          some [.ui_show_progress ((line_words piece).getD 1 []) ((line_words piece).getD 2 [])]
        else none
      else if (line_words piece).head? = some "set_progress".toList then
        if 2 ≤ (line_words piece).length then some [.ui_set_progress ((line_words piece).getD 1 [])] else none
      else if (line_words piece).head? = some "ui_print".toList then
        (ui_print (print_text piece)).map fun text => [.ui_print text]
      else some [.ui_print (LOGE ("unknown command [".toList ++ (line_words piece).headD [] ++ "]\n".toList))] := by
  obtain ⟨first, behind⟩ := strtok_word (show separates '\x00' = false from rfl) (piece ++ ['\x00'])
  rw [c_string_ended] at first behind
  unfold command
  dsimp only
  generalize strtok '\x00' separates (piece ++ ['\x00']) = found at first behind ⊢
  obtain ⟨token, passed, rest⟩ := found
  dsimp only at first behind ⊢
  obtain ⟨second, later⟩ := strtok_word (show separates '\x00' = false from rfl) rest
  have text := (strtok_word (show ends_line '\x00' = false from rfl) rest).1
  rw [behind, (words_behind rfl).2] at second
  rw [behind] at later text
  have third := (strtok_word (show separates '\x00' = false from rfl) (strtok '\x00' separates rest).2.2).1
  rw [later, (words_behind rfl).2, (words_behind rfl).2] at third
  rw [← line_words] at first second third
  rw [first]
  cases words : line_words piece with
  | nil => rfl
  | cons command operands =>
    rw [words] at second third
    simp only [List.head?_cons, Option.some.injEq, reduceCtorEq, if_false, List.headD_cons]
    rw [print_text, ← text, second, third]
    simp only [List.tail_cons]
    by_cases progress : command = "progress".toList
    · rw [if_pos progress, if_pos progress]
      match operands with
      | [] => rfl
      | [fraction] => rfl
      | fraction :: seconds :: others => simp
    rw [if_neg progress, if_neg progress]
    by_cases set_progress : command = "set_progress".toList
    · rw [if_pos set_progress, if_pos set_progress]
      cases operands with
      | nil => rfl
      | cons fraction others => simp
    rw [if_neg set_progress, if_neg set_progress]

theorem print_text_clean (piece : List Char) : '\x00' ∉ print_text piece := by
  have first : (words ends_line (behind_word separates (c_string '\x00' piece))).head? = _ := (words_behind rfl).1
  rw [print_text, first]
  split
  · decide
  · intro member
    have inside := (List.takeWhile_prefix _).subset member
    have behind := (List.dropWhile_suffix _).subset inside
    rw [behind_word] at behind
    exact c_string_clean piece ((List.dropWhile_suffix _).subset ((List.dropWhile_suffix _).subset (List.mem_of_mem_drop behind)))

theorem command_defined (piece : List Char) : command piece ≠ none ↔ Safe piece := by
  rw [command_eq]
  have text := ui_print_defined (print_text piece)
  rw [c_string_of_clean (print_text_clean piece)] at text
  constructor
  · intro defined
    constructor
    all_goals
      intro head
      have some_word : line_words piece ≠ [] := by
        intro empty
        rw [empty] at head
        cases head
      rw [if_neg some_word, head] at defined
    · by_contra short
      rw [if_pos rfl, if_neg short] at defined
      exact defined rfl
    · by_contra short
      rw [if_neg (by decide), if_pos rfl, if_neg short] at defined
      exact defined rfl
    · rw [if_neg (by decide), if_neg (by decide), if_pos rfl] at defined
      exact text.mp fun absent => defined (by rw [absent, Option.map_none])
  · intro safe
    split
    · exact Option.some_ne_none _
    split
    · rename_i head
      rw [if_pos (safe.progress head)]
      exact Option.some_ne_none _
    split
    · rename_i head
      rw [if_pos (safe.set_progress head)]
      exact Option.some_ne_none _
    split
    · rename_i head
      obtain ⟨call, printed⟩ := Option.ne_none_iff_exists'.mp (text.mpr (safe.ui_print head))
      rw [printed]
      exact Option.some_ne_none _
    · exact Option.some_ne_none _

/-! ### Lines -/

/-- What `fgets` reads of a line, where there is room for it, with its newline or without. -/
def Piece (line piece : List Char) : Prop := piece = line ∨ piece = line ++ ['\n']

variable {line piece : List Char}

theorem line_words_piece (read : Piece line piece) : line_words piece = line_words line := by
  rcases read with rfl | rfl
  · rfl
  · by_cases ended : '\x00' ∈ line
    · rw [line_words, c_string_of_nul ended, line_words]
    · rw [line_words, c_string_prefix ended, line_words, c_string_of_clean ended]
      exact words_ended line rfl

theorem ui_print_words (s : List Char) :
    line_words ("ui_print ".toList ++ s) = "ui_print".toList :: words separates (c_string '\x00' s) := by
  rw [line_words, c_string_prefix (by decide)]
  have plain : ∀ c ∈ "ui_print".toList, separates c = false := by simp [separates]
  exact words_word plain (by decide) (show separates ' ' from rfl)

theorem ui_print_text {s : List Char} (clean : '\x00' ∉ s) (one_line : '\n' ∉ s) (some_char : s ≠ [])
    (read : Piece ("ui_print ".toList ++ s) piece) : print_text piece = s := by
  have plain : ∀ c ∈ s, ends_line c = false := fun c member => by
    have other : c ≠ '\n' := ne_of_mem_of_not_mem member one_line
    simpa [ends_line] using other
  have behind (rest : List Char) : behind_word separates ("ui_print ".toList ++ rest) = rest := rfl
  rcases read with rfl | rfl
  · rw [print_text, c_string_prefix (by decide), behind, c_string_of_clean clean, words_last plain some_char]
    rfl
  · rw [print_text, List.append_assoc, c_string_prefix (by decide), behind, c_string_prefix clean]
    rw [show c_string '\x00' ['\n'] = ['\n'] from rfl, words_ended s rfl, words_last plain some_char]
    rfl

/-- A text is shown as it is if it can be printed. -/
theorem shown_iff (one_line : '\n' ∉ line) (read : Piece line piece) {text : Printed}
    (printed : ui_print (print_text piece) = some text) :
    (∀ s, line = "ui_print ".toList ++ s → 1 ≤ s.length → s.length ≤ 512 → text.text = s) ↔ Plain line := by
  have prints {s : List Char} (is_line : line = "ui_print ".toList ++ s) (some_char : 1 ≤ s.length)
      (clean : '\x00' ∉ s) : ui_print s = some text := by
    subst is_line
    rw [← printed, ui_print_text clean (fun member => one_line (List.mem_append_right _ member)) ?_ read]
    rintro rfl
    cases some_char
  constructor
  · intro whole s is_line some_char short
    have is_text := whole s is_line some_char short
    have clean : '\x00' ∉ s := is_text ▸ text.clean
    have kept := ((ui_print_iff clean).mp
      ⟨text, prints is_line some_char clean, by rw [is_text, List.take_of_length_le short]⟩).2
    exact ⟨(kept_short_iff short).mp kept, clean⟩
  · intro plain s is_line some_char short
    obtain ⟨no_percent, clean⟩ := plain s is_line some_char short
    obtain ⟨call, printed_call, is_text⟩ := (ui_print_iff clean).mpr ⟨paired_plain no_percent,
      (kept_short_iff short).mpr no_percent⟩
    rw [prints is_line some_char clean, Option.some.injEq] at printed_call
    rw [printed_call, is_text, List.take_of_length_le short]

/-- A line that is read whole is done as it should be if its text can be printed. -/
theorem done_iff (one_line : '\n' ∉ line) (read : Piece line piece) {effects : List Effect}
    (ran : command piece = some effects) : Done line effects ↔ Plain line := by
  rw [command_eq, line_words_piece read] at ran
  unfold Done
  have not_print (other : (line_words line).head? ≠ some "ui_print".toList) : Plain line := by
    rintro s rfl
    rw [ui_print_words] at other
    exact absurd rfl other
  cases words : line_words line with
  | nil =>
    rw [words, if_pos rfl, Option.some.injEq] at ran
    exact iff_of_true ran.symm (not_print (by rw [words]; exact nofun))
  | cons first operands =>
    rw [words] at ran not_print
    simp only [List.head?_cons, Option.some.injEq, reduceCtorEq, if_false, List.headD_cons, List.length_cons] at ran
    dsimp only
    by_cases progress : first = "progress".toList
    · rw [if_pos progress] at ran ⊢
      have other := not_print (by simp [progress])
      split at ran
      · cases ran
        refine iff_of_true ?_ other
        rw [if_pos (by omega)]
        rfl
      · cases ran
    rw [if_neg progress] at ran ⊢
    by_cases set_progress : first = "set_progress".toList
    · rw [if_pos set_progress] at ran ⊢
      have other := not_print (by simp [set_progress])
      split at ran
      · cases ran
        refine iff_of_true ?_ other
        rw [if_pos (by omega)]
        rfl
      · cases ran
    rw [if_neg set_progress] at ran ⊢
    by_cases prints : first = "ui_print".toList
    · rw [if_pos prints] at ran ⊢
      obtain ⟨text, printed, rfl⟩ := Option.map_eq_some_iff.mp ran
      rw [← shown_iff one_line read printed]
      constructor
      · rintro ⟨_, same, whole⟩
        cases same
        exact whole
      · exact fun whole => ⟨text, rfl, whole⟩
    · rw [if_neg prints] at ran ⊢
      cases ran
      exact iff_of_true rfl (not_print (by simpa using prints))

/-! ### Streams -/

theorem mapM_defined {α β : Type} (f : α → Option β) (l : List α) : l.mapM f ≠ none ↔ ∀ a ∈ l, f a ≠ none := by
  induction l with
  | nil => simp
  | cons a rest ih =>
    rw [List.mapM_cons, List.forall_mem_cons, ← ih]
    cases f a with
    | none => simp
    | some b => cases rest.mapM f <;> simp

theorem loop_defined (stream : List Char) : command_loop stream ≠ none ↔ ∀ piece ∈ pieces '\n' 1023 [] stream, Safe piece := by
  simp only [← command_defined]
  rw [← mapM_defined, command_loop]
  cases (pieces '\n' 1023 [] stream).mapM command <;> simp

theorem loop_append (line rest : List Char) :
    command_loop (line ++ '\n' :: rest) =
      (command_loop (line ++ ['\n'])).bind fun first => (command_loop rest).map (first ++ ·) := by
  rw [command_loop, command_loop, command_loop, pieces_append, List.mapM_append]
  cases (pieces '\n' 1023 [] (line ++ ['\n'])).mapM command with
  | none => rfl
  | some first => cases (pieces '\n' 1023 [] rest).mapM command <;> simp

/-- A line for which there is room is read in one piece that says something. -/
theorem loop_line (one_line : '\n' ∉ line) (short : line.length ≤ 1023) :
    ∃ piece, Piece line piece ∧ command_loop (line ++ ['\n']) = command piece := by
  by_cases full : line.length = 1023
  · refine ⟨line, .inl rfl, ?_⟩
    have some_char : line ≠ [] := by
      rintro rfl
      cases full
    have read : pieces '\n' 1023 [] (line ++ ['\n']) = [line, ['\n']] := by
      rw [pieces_full one_line ['\n'] [] some_char (by simpa using full)]
      rfl
    have nothing : command ['\n'] = some [] := rfl
    rw [command_loop, read]
    cases ran : command line <;> simp [ran, nothing]
  · refine ⟨line ++ ['\n'], .inr rfl, ?_⟩
    have read : pieces '\n' 1023 [] (line ++ ['\n']) = [line ++ ['\n']] := by
      rw [pieces_line one_line [] [] (by simp only [List.length_nil]; omega)]
      rfl
    rw [command_loop, read]
    cases ran : command (line ++ ['\n']) <;> simp [ran]

/-- What `Interpreted` says of one line. -/
theorem line_iff (one_line : '\n' ∉ line) :
    (∃ effects, command_loop (line ++ ['\n']) = some effects ∧ (line.length ≤ 1023 → Done line effects)) ↔
      (∀ piece ∈ pieces '\n' 1023 [] (line ++ ['\n']), Safe piece) ∧ (line.length ≤ 1023 → Plain line) := by
  rw [← loop_defined]
  constructor
  · rintro ⟨effects, ran, done⟩
    refine ⟨by rw [ran]; exact Option.some_ne_none _, fun short => ?_⟩
    obtain ⟨piece, read, same⟩ := loop_line one_line short
    exact (done_iff one_line read (same ▸ ran)).mp (done short)
  · rintro ⟨defined, plain⟩
    obtain ⟨effects, ran⟩ := Option.ne_none_iff_exists'.mp defined
    refine ⟨effects, ran, fun short => ?_⟩
    obtain ⟨piece, read, same⟩ := loop_line one_line short
    exact (done_iff one_line read (same ▸ ran)).mpr (plain short)

theorem interpreted_cons (one_line : '\n' ∉ line) (rest : List Char) :
    Interpreted (line ++ '\n' :: rest) ↔
      (∃ effects, command_loop (line ++ ['\n']) = some effects ∧ (line.length ≤ 1023 → Done line effects)) ∧ Interpreted rest := by
  unfold Interpreted
  rw [loop_append, ended_lines_cons one_line]
  constructor
  · rintro ⟨told, last, ran, each⟩
    obtain _ | ⟨⟨first_ran, done⟩, each⟩ := each
    rename_i first told
    rw [first_ran, Option.bind_some, List.flatten_cons, List.append_assoc] at ran
    obtain ⟨later, rest_ran, same⟩ := Option.map_eq_some_iff.mp ran
    rw [List.append_cancel_left same] at rest_ran
    exact ⟨⟨first, first_ran, done⟩, told, last, rest_ran, each⟩
  · rintro ⟨⟨first, first_ran, done⟩, told, last, ran, each⟩
    refine ⟨first :: told, last, ?_, .cons ⟨first_ran, done⟩ each⟩
    rw [first_ran, Option.bind_some, ran, Option.map_some, List.flatten_cons, List.append_assoc]

/-- The commands are interpreted if no operand is missing, what is printed has percent signs
    only in pairs, and none where the text of a line is to be shown as it is. -/
theorem interpreted_iff (stream : List Char) :
    Interpreted stream ↔
      (∀ piece ∈ pieces '\n' 1023 [] stream, Safe piece) ∧ ∀ line ∈ ended_lines '\n' stream, line.length ≤ 1023 → Plain line := by
  induction stream using line_induction '\n' with
  | one stream one_line =>
    have no_lines : ended_lines '\n' stream = [] := ended_lines_one one_line
    rw [← loop_defined, no_lines, and_iff_left (by simp), Interpreted, no_lines]
    constructor
    · rintro ⟨told, last, ran, _⟩
      rw [ran]
      exact Option.some_ne_none _
    · intro defined
      obtain ⟨effects, ran⟩ := Option.ne_none_iff_exists'.mp defined
      exact ⟨[], effects, ran, .nil⟩
  | more line rest one_line ih =>
    rw [interpreted_cons one_line, line_iff one_line, ih, pieces_append line rest, ended_lines_cons one_line,
      List.forall_mem_append, List.forall_mem_cons]
    tauto

/-- A bar that is to be filled, without the time it is to take. -/
theorem operand_missing : ¬Interpreted "progress 0.5\n".toList := by
  rintro ⟨told, last, ran, _⟩
  have undefined : command_loop "progress 0.5\n".toList = none := rfl
  rw [undefined] at ran
  cases ran

end SteamRecovery.UpdateBinary
