import Mathlib.Data.List.Induction
import SteamRecovery.CStrings

/-!
The bootloader message (`bootloader.h`) and the arguments in it (`get_args` in
`recovery.c`). A character stands for a byte. The arguments are written one a line
behind `recovery`, as far as the field has room, and a later start reads the lines
that are left (`get_args_restartable`).
-/
namespace SteamRecovery.BootMessages
open SteamRecovery.CStrings

/-- `struct bootloader_message`. -/
structure BootloaderMessage where
  command : List Char
  status : List Char
  recovery : List Char
  command_size : command.length = 32
  status_size : status.length = 32
  recovery_size : recovery.length = 1024

/-- `memset(&boot, 0, sizeof(boot));` -/
def zero_message : BootloaderMessage where
  command := List.replicate 32 '\x00'
  status := List.replicate 32 '\x00'
  recovery := List.replicate 1024 '\x00'
  command_size := List.length_replicate
  status_size := List.length_replicate
  recovery_size := List.length_replicate

def MAX_ARG_LENGTH : Nat := 4096
def MAX_ARGS : Nat := 100

def is_newline (c : Char) : Bool := decide (c = '\n')

/-- What `get_args` is started with, and what it finds. -/
structure Start where
  /-- `argv[0]`. -/
  program : List Char
  /-- The rest of `argv`. -/
  args : List (List Char)
  /-- What `get_bootloader_message` leaves in `boot`. -/
  boot : BootloaderMessage
  /-- `/tmp/.ignorebootmessage` exists. -/
  ignore : Bool
  /-- The text of `COMMAND_FILE`, where it can be opened. -/
  command_file : Option (List Char)

/-- What `get_args` leads to, where it does not run into `strdup(NULL)`. -/
structure Args where
  program : List Char
  args : List (List Char)
  /-- The message that is handed to `set_bootloader_message`. -/
  boot : BootloaderMessage
  use_command : Bool

/-- `recovery[sizeof(recovery) - 1] = '\0';` -/
def terminate (recovery : List Char) : List Char := recovery.dropLast ++ ['\x00']

/-- The program and its arguments in the bootloader message, and the field as `strtok`
    leaves it. -/
def boot_args (program : List Char) (recovery : List Char) : List Char × List (List Char) × List Char :=
  match strtok '\x00' is_newline (terminate recovery) with
  | (none, passed, rest) => (program, [], passed ++ rest)
  | (some arg, passed, rest) =>
    if arg = "recovery".toList then
      let later := strtok_loop '\x00' is_newline (MAX_ARGS - 1) rest
      (arg, later.1, passed ++ later.2)
    else (program, [], passed ++ rest)

/-- The arguments in the command file, unless a line of it has no token. -/
def command_args (text : List Char) : Option (List (List Char)) :=
  ((pieces '\n' (MAX_ARG_LENGTH - 1) [] text).take (MAX_ARGS - 1)).mapM fun buf =>
    (strtok '\x00' (fun c => c = '\r' || c = '\n') (buf ++ ['\x00'])).1

/-- The field with the arguments that are written back into it. -/
def args_field (recovery : List Char) (args : List (List Char)) : List Char :=
  args.foldl (fun field arg => strlcat '\x00' (strlcat '\x00' field arg 1024) ['\n'] 1024)
    (strlcpy '\x00' recovery "recovery\n".toList 1024)

theorem terminate_size {recovery : List Char} (size : recovery.length = 1024) :
    (terminate recovery).length = 1024 := by
  simp [terminate, size]

theorem boot_args_size (program : List Char) {recovery : List Char} (size : recovery.length = 1024) :
    (boot_args program recovery).2.2.length = 1024 := by
  have passed_size : (strtok '\x00' is_newline (terminate recovery)).2.1.length +
      (strtok '\x00' is_newline (terminate recovery)).2.2.length = 1024 :=
    (strtok_length _).trans (terminate_size size)
  unfold boot_args
  split
  · rename_i passed rest found
    rw [found] at passed_size
    rw [List.length_append]
    exact passed_size
  · rename_i arg passed rest found
    rw [found] at passed_size
    split
    · rw [List.length_append, strtok_loop_length]
      exact passed_size
    · rw [List.length_append]
      exact passed_size

theorem args_field_size {recovery : List Char} (size : recovery.length = 1024) (args : List (List Char)) :
    (args_field recovery args).length = 1024 := by
  unfold args_field
  refine List.foldlRecOn (motive := fun field : List Char => field.length = 1024) args _ ?_ ?_
  · rw [strlcpy_length (Nat.le_of_eq size.symm), size]
  · intro field size arg _
    exact strlcat_size (strlcat_size size arg) ['\n']

/-- The message that is written back, over the field as it was left. -/
def write_args (boot : BootloaderMessage) (recovery : List Char) (size : recovery.length = 1024)
    (args : List (List Char)) : BootloaderMessage where
  command := strlcpy '\x00' boot.command "boot-recovery".toList 32
  status := boot.status
  recovery := args_field recovery args
  command_size := by rw [strlcpy_length (Nat.le_of_eq boot.command_size.symm), boot.command_size]
  status_size := boot.status_size
  recovery_size := args_field_size size args

/-- The program and its arguments on the command line or else in the bootloader message,
    and the field of the message. -/
def found_args (s : Start) : List Char × List (List Char) × List Char :=
  if s.args = [] ∧ s.ignore = false then boot_args s.program s.boot.recovery
  else (s.program, s.args, s.boot.recovery)

theorem found_args_size (s : Start) : (found_args s).2.2.length = 1024 := by
  unfold found_args
  split
  · exact boot_args_size s.program s.boot.recovery_size
  · exact s.boot.recovery_size

def get_args (s : Start) : Option Args :=
  let found := found_args s
  let boot := write_args s.boot found.2.2 (found_args_size s)
  if found.2.1 = [] then
    match s.command_file with
    | some text => (command_args text).map fun args => ⟨found.1, args, boot args, true⟩
    | none => some ⟨found.1, [], boot [], false⟩
  else some ⟨found.1, found.2.1, boot found.2.1, false⟩

/-! ### What is written -/

/-- An argument that has a line of its own. -/
structure PlainArg (arg : List Char) : Prop where
  some_char : arg ≠ []
  one_line : '\n' ∉ arg
  clean : '\x00' ∉ arg

theorem PlainArg.token {arg : List Char} (plain : PlainArg arg) : Token '\x00' is_newline arg := by
  refine ⟨plain.some_char, fun c member => ⟨?_, ?_⟩⟩
  · exact ne_of_mem_of_not_mem member plain.clean
  · exact decide_eq_false (ne_of_mem_of_not_mem member plain.one_line)

theorem text_of_clean {args : List (List Char)} (plain : ∀ arg ∈ args, PlainArg arg) :
    '\x00' ∉ text_of '\n' args := by
  intro member
  obtain ⟨arg, listed, inside⟩ := List.mem_flatMap.mp member
  rcases List.mem_append.mp inside with here | last
  · exact (plain arg listed).clean here
  · exact absurd (List.mem_singleton.mp last) (by decide)

theorem recovery_plain : PlainArg "recovery".toList := ⟨by decide, by decide, by decide⟩

theorem text_of_append (first second : List (List Char)) :
    text_of '\n' (first ++ second) = text_of '\n' first ++ text_of '\n' second :=
  List.flatMap_append

/-- The field holds the lines, as far as it has room. -/
theorem args_field_eq {recovery : List Char} (size : recovery.length = 1024) {args : List (List Char)}
    (plain : ∀ arg ∈ args, PlainArg arg) :
    args_field recovery args = strlcpy '\x00' recovery (text_of '\n' ("recovery".toList :: args)) 1024 := by
  induction args using List.reverseRecOn with
  | nil => rfl
  | append_singleton args arg ih =>
    have earlier : ∀ a ∈ args, PlainArg a := fun a member => plain a (List.mem_append_left [arg] member)
    have last : PlainArg arg := plain arg (by simp)
    have before : '\x00' ∉ text_of '\n' ("recovery".toList :: args) :=
      text_of_clean (List.forall_mem_cons.mpr ⟨recovery_plain, earlier⟩)
    have with_arg : '\x00' ∉ text_of '\n' ("recovery".toList :: args) ++ arg := by
      simp only [List.mem_append, not_or]
      exact ⟨before, last.clean⟩
    have unfolded : args_field recovery (args ++ [arg]) =
        strlcat '\x00' (strlcat '\x00' (args_field recovery args) arg 1024) ['\n'] 1024 := by
      simp [args_field]
    rw [unfolded, ih earlier, strlcat_strlcpy before last.clean size, strlcat_strlcpy with_arg (by decide) size,
      ← List.cons_append, text_of_append, List.append_assoc, text_of_cons '\n' arg]
    rfl

/-- The last byte stays where the lines do not reach it. -/
theorem args_field_last {recovery : List Char} (size : recovery.length = 1024) {args : List (List Char)}
    (plain : ∀ arg ∈ args, PlainArg arg) (short : (text_of '\n' ("recovery".toList :: args)).length < 1023) :
    (args_field recovery args).getLast? = recovery.getLast? := by
  have clean : '\x00' ∉ text_of '\n' ("recovery".toList :: args) :=
    text_of_clean (List.forall_mem_cons.mpr ⟨recovery_plain, plain⟩)
  rw [args_field_eq size plain, strlcpy_clean clean, List.take_of_length_le (Nat.le_of_lt short)]
  generalize (text_of '\n' ("recovery".toList :: args)) = text at short
  obtain ⟨before, last, rfl⟩ : ∃ before last, recovery = before ++ [last] :=
    (List.eq_nil_or_concat' recovery).resolve_left fun none => by simp [none] at size
  rw [List.length_append, List.length_singleton] at size
  rw [List.drop_append_of_le_length (by omega), List.getLast?_concat, ← List.cons_append, ← List.append_assoc,
    List.getLast?_concat]

theorem get_args_written {s : Start} {a : Args} (ran : get_args s = some a) :
    ∃ field, field.length = 1024 ∧ a.boot.recovery = args_field field a.args := by
  refine ⟨(found_args s).2.2, found_args_size s, ?_⟩
  simp only [get_args] at ran
  split at ran
  · split at ran
    · obtain ⟨args, _, rfl⟩ := Option.map_eq_some_iff.mp ran
      rfl
    · cases ran
      rfl
  · cases ran
    rfl

/-! ### What is read back -/

theorem terminate_stale (text stale : List Char) :
    ∃ rest, rest.length = stale.length ∧ terminate (text ++ '\x00' :: stale) = text ++ '\x00' :: rest := by
  cases stale with
  | nil => exact ⟨[], rfl, by simp [terminate]⟩
  | cons c stale =>
    refine ⟨(c :: stale).dropLast ++ ['\x00'], by simp, ?_⟩
    simp [terminate]

/-- A later start finds the lines that are left, and leaves what stands behind them. -/
theorem boot_args_written {args : List (List Char)} (plain : ∀ arg ∈ args, PlainArg arg) (few : args.length ≤ 99)
    (program stale : List Char) :
    ∃ left rest, left.length = ((text_of '\n' ("recovery".toList :: args)).take 1023).length ∧
      terminate ((text_of '\n' ("recovery".toList :: args)).take 1023 ++ '\x00' :: stale) =
        (text_of '\n' ("recovery".toList :: args)).take 1023 ++ '\x00' :: rest ∧
      boot_args program ((text_of '\n' ("recovery".toList :: args)).take 1023 ++ '\x00' :: stale) =
        ("recovery".toList, cut_lines 1014 args, left ++ '\x00' :: rest) := by
  obtain ⟨rest, same, terminated⟩ := terminate_stale ((text_of '\n' ("recovery".toList :: args)).take 1023) stale
  have tokens : ∀ arg ∈ args, Token '\x00' is_newline arg := fun arg member => (plain arg member).token
  obtain ⟨left, length, found⟩ := strtok_loop_cut (by decide) tokens 99 1014 rest
  have taken : (text_of '\n' ("recovery".toList :: args)).take 1023 =
      "recovery".toList ++ '\n' :: (text_of '\n' args).take 1014 := by
    rw [text_of_cons]
    rfl
  refine ⟨"recovery".toList ++ '\x00' :: left, rest, ?_, terminated, ?_⟩
  · rw [taken]
    simp [length]
  · have first : strtok '\x00' is_newline
        ("recovery".toList ++ '\n' :: ((text_of '\n' args).take 1014 ++ '\x00' :: rest)) =
        (some "recovery".toList, "recovery".toList ++ ['\x00'], (text_of '\n' args).take 1014 ++ '\x00' :: rest) :=
      strtok_token recovery_plain.token (.inr rfl)
    have later : strtok_loop '\x00' is_newline 99 ((text_of '\n' args).take 1014 ++ '\x00' :: rest) =
        ((cut_lines 1014 args).take 99, left ++ '\x00' :: rest) := found
    have all : (cut_lines 1014 args).take 99 = cut_lines 1014 args :=
      List.take_of_length_le (Nat.le_trans (cut_lines_length 1014 args) few)
    rw [boot_args, terminated, taken, List.append_assoc, List.cons_append, first]
    simp only [↓reduceIte, MAX_ARGS, later, all, List.append_assoc, List.cons_append, List.nil_append]

theorem get_args_boot {s : Start} (no_args : s.args = []) (read : s.ignore = false)
    (some_arg : (boot_args s.program s.boot.recovery).2.1 ≠ []) :
    ∃ a, get_args s = some a ∧ a.args = (boot_args s.program s.boot.recovery).2.1 ∧
      a.boot.recovery = args_field (boot_args s.program s.boot.recovery).2.2 a.args := by
  have found : found_args s = boot_args s.program s.boot.recovery := if_pos ⟨no_args, read⟩
  have some_found : (found_args s).2.1 ≠ [] := found ▸ some_arg
  have ran : get_args s = some ⟨(found_args s).1, (found_args s).2.1,
      write_args s.boot (found_args s).2.2 (found_args_size s) (found_args s).2.1, false⟩ := if_neg some_found
  rw [← found]
  exact ⟨_, ran, rfl, rfl⟩

/-- A later start has the arguments that are left, and where these are all, it writes the
    same field, but for its last byte. -/
theorem get_args_again {start again : Start} {first : Args} (ran : get_args start = some first)
    (some_arg : first.args ≠ []) (few : first.args.length ≤ 99) (plain : ∀ arg ∈ first.args, PlainArg arg)
    (no_args : again.args = []) (read : again.ignore = false) (message : again.boot = first.boot) :
    ∃ second, get_args again = some second ∧ second.args = cut_lines 1014 first.args ∧
      (second.args = first.args → second.boot.recovery = terminate first.boot.recovery) := by
  obtain ⟨field, size, written⟩ := get_args_written ran
  have clean : '\x00' ∉ text_of '\n' ("recovery".toList :: first.args) :=
    text_of_clean (List.forall_mem_cons.mpr ⟨recovery_plain, plain⟩)
  rw [args_field_eq size plain, strlcpy_clean clean] at written
  generalize field.drop _ = stale at written
  obtain ⟨left, rest, length, terminated, found⟩ := boot_args_written plain few again.program stale
  rw [← written, ← message] at found terminated
  have some_left : cut_lines 1014 first.args ≠ [] := cut_lines_nonempty (by decide) some_arg
  obtain ⟨second, reran, args, rewritten⟩ := get_args_boot no_args read (by rw [found]; exact some_left)
  rw [found] at args rewritten
  refine ⟨second, reran, args, ?_⟩
  intro same
  have again_size : (left ++ '\x00' :: rest).length = 1024 := by
    have read_size := boot_args_size again.program again.boot.recovery_size
    rwa [found] at read_size
  rw [rewritten, same, args_field_eq again_size plain, strlcpy_clean clean, ← message, terminated, ← length,
    ← List.drop_drop, List.drop_left, List.drop_one, List.tail_cons]

/-- A message restarts recovery with the same arguments exactly where they fit. Where they
    do not, a beginning of them is left, and where they do, a later start writes the same
    field with a `nul` as its last byte. -/
theorem get_args_restartable {start again : Start} {first : Args} (ran : get_args start = some first)
    (some_arg : first.args ≠ []) (few : first.args.length ≤ 99) (plain : ∀ arg ∈ first.args, PlainArg arg)
    (no_args : again.args = []) (read : again.ignore = false) (message : again.boot = first.boot) :
    ∃ second, get_args again = some second ∧
      (second.args = first.args ↔ 9 + (first.args.map fun arg => arg.length + 1).sum ≤ 1024) ∧
      (1024 < 9 + (first.args.map fun arg => arg.length + 1).sum → CutPrefix second.args first.args) ∧
      (9 + (first.args.map fun arg => arg.length + 1).sum ≤ 1024 →
        second.boot.recovery = terminate first.boot.recovery) := by
  have nonempty : ∀ arg ∈ first.args, arg ≠ [] := fun arg member => (plain arg member).some_char
  obtain ⟨second, reran, args, rewritten⟩ := get_args_again ran some_arg few plain no_args read message
  have same : second.args = first.args ↔ 9 + (first.args.map fun arg => arg.length + 1).sum ≤ 1024 := by
    rw [args, cut_lines_all nonempty]
    omega
  refine ⟨second, reran, same, ?_, ?_⟩
  · intro _
    rw [args]
    exact cut_lines_prefix nonempty (cut_lines_nonempty (by decide) some_arg)
  · intro fits
    exact rewritten (same.mpr fits)

/-- The program is started with arguments. -/
theorem get_args_line {s : Start} (some_arg : s.args ≠ []) :
    get_args s = some ⟨s.program, s.args, write_args s.boot s.boot.recovery s.boot.recovery_size s.args, false⟩ := by
  have given : found_args s = (s.program, s.args, s.boot.recovery) := if_neg fun none => some_arg none.1
  simp only [get_args, given, if_neg some_arg]

/-- The message in a block of flash that was erased. -/
def erased_message : BootloaderMessage where
  command := List.replicate 32 '\xff'
  status := List.replicate 32 '\xff'
  recovery := List.replicate 1024 '\xff'
  command_size := List.length_replicate
  status_size := List.length_replicate
  recovery_size := List.length_replicate

theorem erased_last : erased_message.recovery.getLast? = some '\xff' := by
  rw [erased_message, List.getLast?_replicate]
  rfl

def wipe_data : List Char := "--wipe_data".toList

theorem wipe_data_plain : PlainArg wipe_data := ⟨by decide, by decide, by decide⟩

def wipe_message : BootloaderMessage :=
  write_args erased_message erased_message.recovery erased_message.recovery_size [wipe_data]

def wipe_start : Start := ⟨"recovery".toList, [wipe_data], erased_message, false, none⟩

def wipe_again : Start := ⟨"recovery".toList, [], wipe_message, false, none⟩

theorem wipe_data_restarts : ∃ second, get_args wipe_again = some second ∧
    (second.args = [wipe_data] ↔ 9 + ([wipe_data].map fun arg => arg.length + 1).sum ≤ 1024) ∧
    (1024 < 9 + ([wipe_data].map fun arg => arg.length + 1).sum → CutPrefix second.args [wipe_data]) ∧
    (9 + ([wipe_data].map fun arg => arg.length + 1).sum ≤ 1024 →
      second.boot.recovery = terminate wipe_message.recovery) :=
  get_args_restartable (get_args_line (s := wipe_start) (List.cons_ne_nil _ _)) (List.cons_ne_nil _ _)
    (by decide) (List.forall_mem_singleton.mpr wipe_data_plain) rfl rfl rfl

/-- Over an erased block, a later start does not write the same field back. -/
theorem wipe_data_field_changes : ∃ first second, get_args wipe_start = some first ∧ first.args = [wipe_data] ∧
    9 + (first.args.map fun arg => arg.length + 1).sum ≤ 1024 ∧ wipe_again.boot = first.boot ∧
    get_args wipe_again = some second ∧ second.boot.recovery ≠ first.boot.recovery := by
  have started := get_args_line (s := wipe_start) (List.cons_ne_nil _ _)
  obtain ⟨second, reran, args, rewritten⟩ := get_args_again started (List.cons_ne_nil _ _) (by decide)
    (List.forall_mem_singleton.mpr wipe_data_plain) (show wipe_again.args = [] from rfl) rfl rfl
  refine ⟨_, second, started, rfl, by decide, rfl, reran, ?_⟩
  rw [rewritten (args.trans rfl)]
  have last : wipe_message.recovery.getLast? = some '\xff' :=
    (args_field_last erased_message.recovery_size (List.forall_mem_singleton.mpr wipe_data_plain)
      (by decide)).trans erased_last
  intro same
  have ends : (terminate wipe_message.recovery).getLast? = some '\x00' := by
    simp [terminate]
  rw [show terminate wipe_message.recovery = wipe_message.recovery from same, last] at ends
  exact absurd ends (by decide)

end SteamRecovery.BootMessages
