import SteamRecovery.BootMessages

/-!
The command file (`get_args` in `recovery.c`). Its arguments are the lines of the file
that are not empty, unless `strtok` finds no token in one of the pieces that are read, or
not all of it (`get_args_command_iff`).
-/
namespace SteamRecovery.CommandFile
open SteamRecovery.CStrings SteamRecovery.BootMessages

/-- The delimiters `"\r\n"`. -/
def ends_line (c : Char) : Bool := c = '\r' || c = '\n'

/-- What `strtok` finds in the buffer that a piece was read into. -/
def token (piece : List Char) : Option (List Char) := (strtok '\x00' ends_line (piece ++ ['\x00'])).1

/-- What is read with `fgets`, until there is no more room in `argv`. -/
def read_pieces (text : List Char) : List (List Char) :=
  (pieces '\n' (MAX_ARG_LENGTH - 1) [] text).take (MAX_ARGS - 1)

/-- The lines of the file that are not empty, at most 99, without CR and LF. A line of
    more than 4095 characters is cut behind each 4095. -/
def file_lines (text : List Char) : List (List Char) :=
  (stripped ends_line ((text.splitOn '\n').flatMap (chunks 4095))).take 99

/-- A piece is one token between characters that end a line. -/
def OneToken (piece : List Char) : Prop :=
  ∃ front token back, piece = front ++ token ++ back ∧ (∀ c ∈ front ++ back, ends_line c = true) ∧
    Token '\x00' ends_line token

theorem command_args_eq (text : List Char) : command_args text = (read_pieces text).mapM token := rfl

/-- A character of a token. -/
def inside (c : Char) : Bool := c ≠ '\x00' && !ends_line c

theorem token_found (piece : List Char) :
    token piece =
      if (piece.dropWhile ends_line).takeWhile inside = [] then none
      else some ((piece.dropWhile ends_line).takeWhile inside) := by
  have skipped : (piece ++ ['\x00']).dropWhile ends_line = piece.dropWhile ends_line ++ ['\x00'] := by
    rw [List.dropWhile_append]
    split
    · rename_i empty
      rw [List.isEmpty_iff.mp empty]
      rfl
    · rfl
  have found : (piece.dropWhile ends_line ++ ['\x00']).takeWhile inside = (piece.dropWhile ends_line).takeWhile inside := by
    rw [List.takeWhile_append]
    split
    · rename_i all
      rw [List.takeWhile_cons_of_neg (by decide), List.append_nil, List.IsPrefix.eq_of_length (List.takeWhile_prefix _) all]
    · rfl
  exact strtok_found ((congrArg _ skipped).trans found)

theorem filter_ends {around : List Char} (ends : ∀ c ∈ around, ends_line c = true) :
    around.filter (fun c => !ends_line c) = [] :=
  List.filter_eq_nil_iff.mpr fun c member => by simp [ends c member]

theorem filter_token {tok : List Char} (plain : ∀ c ∈ tok, c ≠ '\x00' ∧ ends_line c = false) :
    tok.filter (fun c => !ends_line c) = tok :=
  List.filter_eq_self.mpr fun c member => by simp [(plain c member).2]

/-- `strtok` finds the whole piece exactly where it is one token. -/
theorem token_eq_iff (piece : List Char) :
    token piece = some (piece.filter fun c => !ends_line c) ↔ OneToken piece := by
  rw [token_found]
  constructor
  · intro whole
    split at whole
    · cases whole
    · rename_i some_char
      generalize found : (piece.dropWhile ends_line).takeWhile inside = tok at whole some_char
      obtain ⟨back, rest⟩ : tok <+: piece.dropWhile ends_line := found ▸ List.takeWhile_prefix _
      have plain : ∀ c ∈ tok, c ≠ '\x00' ∧ ends_line c = false := by
        intro c member
        have := List.mem_takeWhile_imp (found ▸ member)
        simpa [inside] using this
      have front := @filter_ends (piece.takeWhile ends_line) fun c member => List.mem_takeWhile_imp member
      have split_piece : piece = piece.takeWhile ends_line ++ tok ++ back := by
        rw [List.append_assoc, rest, List.takeWhile_append_dropWhile]
      have all : back.filter (fun c => !ends_line c) = [] := by
        rw [split_piece, List.filter_append, List.filter_append, front, filter_token plain, List.nil_append] at whole
        exact List.self_eq_append_right.mp (Option.some_inj.mp whole)
      refine ⟨_, tok, back, split_piece, ?_, some_char, plain⟩
      intro c member
      rcases List.mem_append.mp member with first | last
      · exact List.mem_takeWhile_imp first
      · simpa using List.filter_eq_nil_iff.mp all c last
  · rintro ⟨front, tok, back, rfl, around, some_char, plain⟩
    obtain ⟨first, last⟩ := List.forall_mem_append.mp around
    have skipped : (front ++ tok ++ back).dropWhile ends_line = tok ++ back := by
      obtain ⟨c, others, rfl⟩ := List.exists_cons_of_ne_nil some_char
      rw [List.append_assoc, List.dropWhile_append_of_pos first]
      exact List.dropWhile_cons_of_neg (by simp [(plain c List.mem_cons_self).2])
    have found : (tok ++ back).takeWhile inside = tok := by
      have none_left : back.takeWhile inside = [] := by
        cases back with
        | nil => rfl
        | cons c _ => exact List.takeWhile_cons_of_neg (by simp [inside, last c List.mem_cons_self])
      rw [List.takeWhile_append_of_pos fun c member => by simp [inside, plain c member], none_left, List.append_nil]
    have kept : (front ++ tok ++ back).filter (fun c => !ends_line c) = tok := by
      rw [List.filter_append, List.filter_append, filter_ends first, filter_ends last, filter_token plain,
        List.nil_append, List.append_nil]
    rw [skipped, found, kept, if_neg some_char]

/-- What `strtok` finds is not empty. -/
theorem token_some {piece found : List Char} (read : token piece = some found) :
    (piece.filter fun c => !ends_line c) ≠ [] := by
  rw [token_found] at read
  split at read
  · cases read
  · rename_i some_char
    obtain ⟨c, member⟩ := List.exists_mem_of_ne_nil _ some_char
    have kept := List.mem_takeWhile_imp member
    have here : c ∈ piece := List.dropWhile_subset _ (List.takeWhile_subset _ member)
    refine List.ne_nil_of_mem (List.mem_filter.mpr ⟨here, ?_⟩)
    simp only [inside, Bool.and_eq_true] at kept
    exact kept.2

theorem mapM_eq_some_map {α β : Type} {l : List α} {f : α → Option β} {g : α → β} :
    l.mapM f = some (l.map g) ↔ ∀ a ∈ l, f a = some (g a) := by
  induction l with
  | nil => simp
  | cons a l ih =>
    rw [List.mapM_cons, List.map_cons, List.forall_mem_cons, ← ih]
    cases f a <;> cases l.mapM f <;> simp

theorem mapM_some {α β : Type} {l : List α} {f : α → Option β} {all : List β} (ran : l.mapM f = some all) :
    ∀ a ∈ l, ∃ b, f a = some b := by
  induction l generalizing all with
  | nil => simp
  | cons a l ih =>
    rw [List.mapM_cons] at ran
    obtain ⟨b, first, ran⟩ := Option.bind_eq_some_iff.mp ran
    obtain ⟨others, later, -⟩ := Option.bind_eq_some_iff.mp ran
    exact List.forall_mem_cons.mpr ⟨⟨b, first⟩, ih later⟩

/-- Where something is left of each of the first lines, these are all that count. -/
theorem stripped_take {ends : Char → Bool} {lines : List (List Char)} {n : Nat}
    (left : ∀ line ∈ lines.take n, (line.filter fun c => !ends c) ≠ []) :
    (stripped ends lines).take n = (lines.take n).map fun line => line.filter fun c => !ends c := by
  induction lines generalizing n with
  | nil => simp [stripped]
  | cons line rest ih =>
    cases n with
    | zero => rfl
    | succ n =>
      rw [List.take_succ_cons, List.forall_mem_cons] at left
      have kept : stripped ends (line :: rest) = (line.filter fun c => !ends c) :: stripped ends rest := by
        simp only [stripped, List.map_cons]
        exact List.filter_cons_of_pos (by simpa using left.1)
      rw [kept, List.take_succ_cons, List.take_succ_cons, List.map_cons, ih left.2]

/-- The lines of the file are the pieces, where each of these has something but CR and LF. -/
theorem file_lines_eq {text : List Char}
    (left : ∀ piece ∈ read_pieces text, (piece.filter fun c => !ends_line c) ≠ []) :
    file_lines text = (read_pieces text).map fun piece => piece.filter fun c => !ends_line c := by
  rw [file_lines, ← pieces_lines rfl (by decide) text]
  exact stripped_take left

/-- The arguments are the lines of the file exactly where every piece is one token. -/
theorem command_args_iff (text : List Char) :
    command_args text = some (file_lines text) ↔ ∀ piece ∈ read_pieces text, OneToken piece := by
  rw [command_args_eq]
  constructor
  · intro ran
    have left : ∀ piece ∈ read_pieces text, (piece.filter fun c => !ends_line c) ≠ [] := by
      intro piece read
      obtain ⟨found, here⟩ := mapM_some ran piece read
      exact token_some here
    rw [file_lines_eq left, mapM_eq_some_map] at ran
    exact fun piece read => (token_eq_iff piece).mp (ran piece read)
  · intro tokens
    have found : ∀ piece ∈ read_pieces text, token piece = some (piece.filter fun c => !ends_line c) :=
      fun piece read => (token_eq_iff piece).mpr (tokens piece read)
    rw [file_lines_eq fun piece read => token_some (found piece read)]
    exact mapM_eq_some_map.mpr found

/-- `get_args` returns the lines of the command file as arguments exactly where each of
    the first 99 pieces that are read is one token between characters that end a line. -/
theorem get_args_command_iff {s : Start} {text : List Char} (none_earlier : (found_args s).2.1 = [])
    (opened : s.command_file = some text) :
    (∃ a, get_args s = some a ∧ a.program :: a.args = (found_args s).1 :: file_lines text) ↔
      ∀ piece ∈ read_pieces text, OneToken piece := by
  rw [← command_args_iff]
  simp only [get_args, none_earlier, if_true, opened, Option.map_eq_some_iff]
  constructor
  · rintro ⟨_, ⟨args, found, rfl⟩, same⟩
    exact found.trans (congrArg some (List.cons.inj same).2)
  · intro found
    exact ⟨_, ⟨_, found, rfl⟩, rfl⟩

/-- A start that reads the command file only. -/
def with_file (text : List Char) : Start :=
  { program := "recovery".toList, args := [], boot := zero_message, ignore := true, command_file := some text }

theorem one_command : ∃ a, get_args (with_file "--wipe_data\n".toList) = some a ∧
    a.program :: a.args = "recovery".toList :: file_lines "--wipe_data\n".toList :=
  (get_args_command_iff (s := with_file "--wipe_data\n".toList) rfl rfl).mpr fun piece read => by
    have only : read_pieces "--wipe_data\n".toList = ["--wipe_data\n".toList] := by decide
    obtain rfl : piece = "--wipe_data\n".toList := List.mem_singleton.mp (only ▸ read)
    exact ⟨[], "--wipe_data".toList, ['\n'], rfl, by simp [ends_line], by simp, by simp [ends_line]⟩

/-- A blank line between two arguments. -/
theorem blank_line : ¬ ∃ a, get_args (with_file "a\n\nb\n".toList) = some a ∧
    a.program :: a.args = "recovery".toList :: file_lines "a\n\nb\n".toList := by
  intro right
  have tokens := (get_args_command_iff (s := with_file "a\n\nb\n".toList) rfl rfl).mp right
  have blank : token ['\n'] = some [] := (token_eq_iff _).mpr (tokens ['\n'] (by decide))
  exact absurd blank (by decide)

end SteamRecovery.CommandFile
