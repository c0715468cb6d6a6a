import SteamRecovery.FileManager
import SteamRecovery.Formatting
import SteamRecovery.ShellWords

/-!
The commands of the file manager (`file_manager` in `steamext.c`) and what the shell that
`__system` runs makes of them. The paths are put into the line as they are: the shell gets
them back exactly where they are literal (`exact_iff`).
-/
namespace SteamRecovery.Clipboard

open SteamRecovery.FileManager
open SteamRecovery.Menus (MenuElement)
open SteamRecovery.Formatting (PATH_MAX)
open SteamRecovery.ShellWords

/-- What `realpath` leaves in a buffer. -/
structure RealPath where
  text : String
  absolute : text.toList.head? = some '/'
  clean : '\x00' ∉ text.toList
  fits : text.toList.length < PATH_MAX

/-- The commands on the clipboard, and the one in the menu of a file. -/
inductive Command where
  | move
  | copy
  | delete
  | delete_file
  deriving DecidableEq, Repr

/-- The formats of the command lines. -/
def Command.format (name path : String) : Command → String
  | .move => "mv " ++ name ++ " " ++ path
  | .copy => "cp -R " ++ name ++ " " ++ path
  | .delete => "rm -rf " ++ name
  | .delete_file => "rm " ++ name

/-- The buffers that they are written to: `sys`, or `npath` where a file is deleted. -/
def Command.room : Command → Nat
  | .delete_file => PATH_MAX
  | _ => PATH_MAX * 2 + 10

/-- The line that `__system` is given. `none` is one that is longer than its buffer. -/
def Command.line (command : Command) (name path : RealPath) : Option String :=
  let sys := command.format name.text path.text
  if sys.toList.length < command.room then some sys else none

def Command.uses_path : Command → Bool
  | .move | .copy => true
  | .delete | .delete_file => false

/-- The command with exactly the operands that are meant. -/
def Command.words (name path : List Char) : Command → List (List Char)
  | .move => ["mv".toList, name, path]
  | .copy => ["cp".toList, "-R".toList, name, path]
  | .delete => ["rm".toList, "-rf".toList, name]
  | .delete_file => ["rm".toList, name]

/-- Each path is one operand, whatever the variables of the shell and the files are. -/
def Exact (command : Command) (names : List RealPath) (path : RealPath) : Prop :=
  ∀ name ∈ names, ∃ sys, command.line name path = some sys ∧
    ∀ env files, argv env files sys.toList = some (command.words name.text.toList path.text.toList)

/-! ### The lines -/

/-- The rows of the menu over the clipboard. -/
def Command.id : Command → Nat
  | .move => 1
  | .copy => 2
  | _ => 3

/-- The file manager gives the shell one line for each entry of the clipboard. -/
theorem dispatch_shell {command : Command} (clipped : command ≠ .delete_file) {o : Outcomes} {chosen_item : Int}
    {me : MenuElement} (group : me.group_id = 5) (row : me.id = command.id) (s : State) :
    (dispatch o chosen_item me s).shell = s.shell ++ s.clipboard.map fun name => command.format name s.path := by
  cases command with
  | delete_file => exact absurd rfl clipped
  | _ => simp [dispatch, group, row, Command.id, use_clipboard, Command.format]

/-- For a file that is deleted, the line has its real path. -/
theorem open_entry_shell {o : Outcomes} {me : MenuElement} {s : State} {xpath : String} (deletes : o.sel2 = 3)
    (file : o.stat (s.path ++ "/" ++ text me) = some false) (real : o.realpath (s.path ++ "/" ++ text me) = some xpath) :
    (open_entry o me s).shell = s.shell ++ [Command.delete_file.format xpath s.path] := by
  simp [open_entry, deletes, file, real, Command.format]

theorem format_joined (command : Command) (name path : String) :
    (command.format name path).toList = joined (command.words name.toList path.toList) := by
  cases command <;> simp [Command.format, Command.words, joined]

/-- Only the buffer for the deletion of a file is too small for some paths. -/
theorem line_some (command : Command) (name path : RealPath) :
    (∃ sys, command.line name path = some sys) ↔ (command = .delete_file → name.text.toList.length + 4 ≤ PATH_MAX) := by
  have name_fits := name.fits
  have path_fits := path.fits
  have written : (∃ sys, command.line name path = some sys) ↔
      (command.format name.text path.text).toList.length < command.room := by
    simp [Command.line]
  rw [written]
  cases command <;> simp [Command.format, Command.room] <;> omega

theorem line_format {command : Command} {name path : RealPath} {sys : String} (written : command.line name path = some sys) :
    sys = command.format name.text path.text := by
  simp only [Command.line, Option.ite_none_right_eq_some] at written
  exact (Option.some_inj.mp written.2).symm

/-! ### The words -/

theorem path_starts (path : RealPath) : Starts path.text.toList := by
  have absolute := path.absolute
  refine ⟨?_, ?_, ?_⟩
  · intro empty
    rw [empty] at absolute
    cases absolute
  · rw [absolute]
    decide
  · rw [absolute]
    decide

theorem words_start (command : Command) (name path : RealPath) :
    ∀ op ∈ command.words name.text.toList path.text.toList, Starts op := by
  have name_starts := path_starts name
  have path_starts := path_starts path
  cases command <;> simp [Command.words, name_starts, path_starts] <;> decide

/-- The names of the commands and their options are literal. -/
theorem words_literal (command : Command) (name path : List Char) :
    (∀ op ∈ command.words name path, Literal op) ↔ Literal name ∧ (command.uses_path = true → Literal path) := by
  have mv : Literal "mv".toList := literal_of_ordinary (by decide)
  have cp : Literal "cp".toList := literal_of_ordinary (by decide)
  have rm : Literal "rm".toList := literal_of_ordinary (by decide)
  have recursive : Literal "-R".toList := literal_of_ordinary (by decide)
  have forced : Literal "-rf".toList := literal_of_ordinary (by decide)
  cases command <;>
    simp only [Command.words, Command.uses_path, List.forall_mem_cons, mv, cp, rm, recursive, forced] <;>
    simp

/-- The shell acts on exactly the listed paths where they are literal, and so is the current
    directory if it is an operand, and the path of a file that is deleted fits. -/
theorem exact_iff (command : Command) (names : List RealPath) (path : RealPath) :
    Exact command names path ↔ ∀ name ∈ names,
      Literal name.text.toList ∧ (command.uses_path = true → Literal path.text.toList) ∧
        (command = .delete_file → name.text.toList.length + 4 ≤ PATH_MAX) := by
  have each : ∀ name : RealPath,
      (∀ env files, argv env files (command.format name.text path.text).toList =
        some (command.words name.text.toList path.text.toList)) ↔
      Literal name.text.toList ∧ (command.uses_path = true → Literal path.text.toList) := by
    intro name
    have some_op : command.words name.text.toList path.text.toList ≠ [] := by cases command <;> simp [Command.words]
    rw [← words_literal, format_joined]
    exact argv_exact_iff some_op (words_start command name path)
  refine forall₂_congr fun name _ => ?_
  rw [← and_assoc, ← each name, ← line_some command name path]
  constructor
  · rintro ⟨sys, written, split⟩
    obtain rfl := line_format written
    exact ⟨split, _, written⟩
  · rintro ⟨split, sys, written⟩
    obtain rfl := line_format written
    exact ⟨_, written, split⟩

/-! ### A file with a blank in its name -/

def root : RealPath := ⟨"/", by decide, by decide, by decide⟩

def holiday : RealPath := ⟨"/sdcard/my data", by decide, by decide, by decide⟩

/-- The file is not deleted, but two others are. -/
theorem blank_splits :
    Command.delete.line holiday root = some "rm -rf /sdcard/my data" ∧
      argv (fun _ => []) no_files "rm -rf /sdcard/my data".toList =
        some ["rm".toList, "-rf".toList, "/sdcard/my".toList, "data".toList] ∧
      ¬ Exact .delete [holiday] root := by
  have split : argv (fun _ => []) no_files "rm -rf /sdcard/my data".toList =
      some ["rm".toList, "-rf".toList, "/sdcard/my".toList, "data".toList] := by decide
  refine ⟨by decide, split, ?_⟩
  intro exact_split
  obtain ⟨sys, written, same⟩ := exact_split holiday (List.mem_singleton_self _)
  obtain rfl := line_format written
  have two := (same (fun _ => []) no_files).symm.trans split
  revert two
  decide

end SteamRecovery.Clipboard
