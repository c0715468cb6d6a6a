import SteamRecovery.Amend
import SteamRecovery.Devices

/-!
Update packages and their scripts (`install.c`, `legacy.c`, and `install_zip`). The
root `PACKAGE:` means the archive in the global `g_package`. A script may install a
further package, which ends with `g_package` unregistered: the script's own archive
stays registered exactly where no such package is opened (`own_package_iff`).
-/
namespace SteamRecovery.Packages
open SteamRecovery.Amend SteamRecovery.Devices
variable {Archive : Type}

inductive Status where
  | INSTALL_SUCCESS
  | INSTALL_ERROR
  | INSTALL_CORRUPT
  | INSTALL_UPDATE_SCRIPT_MISSING
  | INSTALL_UPDATE_BINARY_MISSING
  deriving DecidableEq, Repr

/-- How `install_package` gets to the archive. -/
structure Opening where
  /-- `ensure_root_path_mounted` and `translate_root_path` succeed. -/
  mounted : Bool
  translated : Bool
  signature_check_enabled : Bool
  /-- `load_keys` finds keys, and `verify_file` accepts the package. -/
  keys : Bool
  verified : Bool
  /-- `mzOpenZipArchive` succeeds. -/
  opens : Bool

/-- `install_package` comes to `handle_update_package`. -/
def Opening.opened (opening : Opening) : Bool :=
  opening.mounted && opening.translated && (!opening.signature_check_enabled || (opening.keys && opening.verified)) &&
    opening.opens

mutual
/-- A package, as it is found when it is installed. -/
inductive Package (Archive : Type) where
  | package (opening : Opening) (archive : Archive) (contents : Contents Archive)

/-- What is in a package. -/
inductive Contents (Archive : Type) where
  /-- An update-binary, and what `try_update_binary` returns. -/
  | binary (result : Status)
  /-- A script, whether `strdup` succeeds before it is read, and its commands, unless it cannot
      be read or parsed. -/
  | script (strdup readable parses : Bool) (commands : Commands Archive)

/-- The commands of a script. -/
inductive Commands (Archive : Type) where
  | nil
  | cons (command : Command Archive) (rest : Commands Archive)

/-- A command, with the code that it returns unless it is `install_zip`. -/
inductive Command (Archive : Type) where
  | other (code : Int)
  | install_zip (package : Package Archive)
end

/-- A command was run: the archive of its script, and `g_package` before and after. -/
structure Moment (Archive : Type) where
  script : Archive
  before : Option Archive
  after : Option Archive

/-- The code that `register_package_root` returns, and `g_package`. -/
def register_package_root (package : Option Archive) (strdup : Bool) (g_package : Option Archive) :
    Int × Option Archive :=
  match package with
  | some package => if strdup then (0, some package) else (-1, g_package)
  | none => (0, none)

def is_package_root_path (root_path : String) : Bool :=
  match get_root_info_for_path root_path with
  | some info => info.filesystem = some .g_package_file
  | none => false

/-- The path in the archive, and the archive. -/
def translate_package_root_path (root_path : String) (g_package : Option Archive) :
    Option (String × Option Archive) :=
  match get_root_info_for_path root_path with
  | some info =>
    if info.filesystem = some .g_package_file then
      some (String.ofList (root_path.toList.drop info.name.length), g_package)
    else none
  | none => none

/-- `g_package`, and the commands that were run so far. -/
structure Tracked (Archive : Type) where
  g_package : Option Archive
  moments : List (Moment Archive)

/-- A command of a script, and the moments before and behind it. -/
def watched (script : Archive) (command : Runs (Tracked Archive)) : Runs (Tracked Archive) := fun state =>
  (command state).map fun (code, next) =>
    (code, { next with moments := next.moments ++ [⟨script, state.g_package, next.g_package⟩] })

variable (amend : Interpreter (Tracked Archive))

mutual
def install_package : Package Archive → Tracked Archive → Option (Status × Tracked Archive)
  | .package opening archive contents, state =>
    if opening.opened then handle_update_package archive contents state
    else some (.INSTALL_CORRUPT, state)

/-- Whatever `g_package` was, it is unregistered at the end, or before. -/
def handle_update_package (archive : Archive) : Contents Archive → Tracked Archive → Option (Status × Tracked Archive)
  | .binary result, state =>
    some (result, { state with g_package := (register_package_root none true state.g_package).2 })
  | .script strdup readable parses commands, state =>
    let unregistered := (register_package_root none true state.g_package).2
    let (code, g_package) := register_package_root (some archive) strdup unregistered
    let done := (register_package_root none true g_package).2
    if code < 0 then some (.INSTALL_ERROR, { state with g_package := g_package })
    else if !readable then some (.INSTALL_ERROR, { state with g_package := done })
    else if !parses then some (.INSTALL_ERROR, { state with g_package := done })
    else
      (amend.execCommandList (exec_commands archive commands) { state with g_package := g_package }).map fun (ret, behind) =>
        (if ret = 0 then .INSTALL_SUCCESS else .INSTALL_ERROR,
          { behind with g_package := (register_package_root none true behind.g_package).2 })

/-- What amend is given for a script. -/
def exec_commands (script : Archive) : Commands Archive → List (Runs (Tracked Archive))
  | .nil => []
  | .cons command rest => watched script (exec_command command) :: exec_commands script rest

def exec_command : Command Archive → Runs (Tracked Archive)
  | .other code, state => some (code, state)
  | .install_zip package, state =>
    (install_package package state).map fun (status, next) => (if status = .INSTALL_SUCCESS then 0 else 1, next)
end

/-! ### What is registered -/

/-- The path in a package root is taken from the registered archive. -/
theorem translate_package_root_path_archive {root_path : String} {g_package : Option Archive}
    {found : String × Option Archive} (translated : translate_package_root_path root_path g_package = some found) :
    found.2 = g_package := by
  unfold translate_package_root_path at translated
  split at translated
  · split at translated
    · cases translated
      rfl
    · cases translated
  · cases translated

/-- Commands are only added to those that were run. -/
def Grows (state next : Tracked Archive) : Prop := state.moments <+: next.moments

instance : IsPreorder (Tracked Archive) Grows where
  refl _ := List.prefix_rfl
  trans _ _ _ := List.IsPrefix.trans

theorem watched_grows (script : Archive) {command : Runs (Tracked Archive)} (grows : Keeps Grows command) :
    Keeps Grows (watched script command) := by
  intro state
  obtain ⟨code, next, ran, more⟩ := grows state
  refine ⟨code, _, by rw [watched, ran, Option.map_some], ?_⟩
  exact more.trans (List.prefix_append _ _)

/-- It returns, and no package is registered behind it. -/
def Unregisters (package : Tracked Archive → Option (Status × Tracked Archive)) : Prop :=
  ∀ state, ∃ status next, package state = some (status, next) ∧ Grows state next ∧ next.g_package = none

theorem script_runs {archive : Archive} {commands : Commands Archive} {state behind : Tracked Archive} {ret : Int}
    (ran : amend.execCommandList (exec_commands amend archive commands) { state with g_package := some archive } =
      some (ret, behind)) :
    handle_update_package amend archive (.script true true true commands) state =
      some (if ret = 0 then .INSTALL_SUCCESS else .INSTALL_ERROR, { behind with g_package := none }) := by
  simp [handle_update_package, register_package_root, ran]

theorem script_fails {strdup readable parses : Bool} (fails : ¬(strdup = true ∧ readable = true ∧ parses = true))
    (archive : Archive) (commands : Commands Archive) (state : Tracked Archive) :
    handle_update_package amend archive (.script strdup readable parses commands) state =
      some (.INSTALL_ERROR, { state with g_package := none }) := by
  cases strdup with
  | false => simp [handle_update_package, register_package_root]
  | true =>
    cases readable with
    | false => simp [handle_update_package, register_package_root]
    | true =>
      have unparsed : parses = false := by simpa using fails
      simp [handle_update_package, register_package_root, unparsed]

theorem script_unregisters {archive : Archive} {commands : Commands Archive}
    (grows : Keeps Grows (amend.execCommandList (exec_commands amend archive commands))) (strdup readable parses : Bool) :
    Unregisters (handle_update_package amend archive (.script strdup readable parses commands)) := by
  intro state
  by_cases runs : strdup = true ∧ readable = true ∧ parses = true
  · obtain ⟨rfl, rfl, rfl⟩ := runs
    obtain ⟨ret, behind, ran, more⟩ := grows { state with g_package := some archive }
    exact ⟨_, _, script_runs amend ran, more, rfl⟩
  · exact ⟨_, _, script_fails amend runs archive commands state, refl_of Grows state, rfl⟩

theorem install_package_corrupt {opening : Opening} (closed : opening.opened = false) (archive : Archive)
    (contents : Contents Archive) (state : Tracked Archive) :
    install_package amend (.package opening archive contents) state = some (.INSTALL_CORRUPT, state) := by
  rw [install_package, if_neg (by simp [closed])]

theorem install_package_grows (opening : Opening) {archive : Archive} {contents : Contents Archive}
    (unregisters : Unregisters (handle_update_package amend archive contents)) (state : Tracked Archive) :
    ∃ status next, install_package amend (.package opening archive contents) state = some (status, next) ∧
      Grows state next := by
  cases reached : opening.opened with
  | false => exact ⟨.INSTALL_CORRUPT, state, install_package_corrupt amend reached archive contents state, refl_of Grows state⟩
  | true =>
    obtain ⟨status, next, ran, more, _⟩ := unregisters state
    exact ⟨status, next, by rw [install_package, if_pos reached, ran], more⟩

mutual
theorem handle_update_package_unregisters (archive : Archive) : ∀ contents : Contents Archive,
    Unregisters (handle_update_package amend archive contents)
  | .binary result => by
    intro state
    exact ⟨result, { state with g_package := none }, rfl, refl_of Grows state, rfl⟩
  | .script strdup readable parses commands =>
    script_unregisters amend (execCommandList_keeps amend Grows (exec_commands_grow archive commands)) strdup readable parses

theorem exec_commands_grow (script : Archive) : ∀ commands : Commands Archive,
    ∀ command ∈ exec_commands amend script commands, Keeps Grows command
  | .nil => by
    rw [exec_commands]
    exact List.forall_mem_nil _
  | .cons command rest => by
    rw [exec_commands, List.forall_mem_cons]
    exact ⟨watched_grows script (exec_command_grows command), exec_commands_grow script rest⟩

theorem exec_command_grows : ∀ command : Command Archive, Keeps Grows (exec_command amend command)
  | .other code => by
    intro state
    exact ⟨code, state, by rw [exec_command], refl_of Grows state⟩
  | .install_zip (.package opening archive contents) => by
    intro state
    obtain ⟨status, next, ran, more⟩ :=
      install_package_grows amend opening (handle_update_package_unregisters archive contents) state
    exact ⟨if status = .INSTALL_SUCCESS then 0 else 1, next, by rw [exec_command, ran, Option.map_some], more⟩
end

/-- Before and after every command, the archive of its script is registered. -/
def OwnPackage (moments : List (Moment Archive)) : Prop :=
  ∀ m ∈ moments, m.before = some m.script ∧ m.after = some m.script

/-- None of the commands that are run opens a package. An `install_zip` that opens none
    fails, and ends the script. -/
def NoneOpened : Commands Archive → Prop
  | .nil => True
  | .cons (.other code) rest => code = 0 → NoneOpened rest
  | .cons (.install_zip (.package opening _ _)) _ => opening.opened = false

theorem ownPackage_append (first second : List (Moment Archive)) :
    OwnPackage (first ++ second) ↔ OwnPackage first ∧ OwnPackage second :=
  List.forall_mem_append

theorem ownPackage_moment (m : Moment Archive) :
    OwnPackage [m] ↔ m.before = some m.script ∧ m.after = some m.script :=
  List.forall_mem_singleton

theorem watched_ran {script : Archive} {command : Runs (Tracked Archive)} {state next : Tracked Archive} {code : Int}
    (ran : command state = some (code, next)) :
    watched script command state =
      some (code, { next with moments := next.moments ++ [⟨script, state.g_package, next.g_package⟩] }) := by
  rw [watched, ran, Option.map_some]

/-- A command that leaves the archive registered. -/
theorem watched_own {script : Archive} {state : Tracked Archive} (registered : state.g_package = some script)
    (own : OwnPackage state.moments) :
    OwnPackage (state.moments ++ [⟨script, state.g_package, state.g_package⟩]) := by
  rw [ownPackage_append, ownPackage_moment]
  exact ⟨own, registered, registered⟩

/-- Behind a command that unregisters the archive, the script has not kept it. -/
theorem unregistered_not_own {script : Archive} {command : Runs (Tracked Archive)} (rest : Commands Archive)
    {state next : Tracked Archive} {code : Int} (ran : command state = some (code, next)) (unregistered : next.g_package = none) :
    ∃ ret behind,
      amend.execCommandList (watched script command :: exec_commands amend script rest) state = some (ret, behind) ∧
        ¬OwnPackage behind.moments := by
  have lost : ¬OwnPackage (next.moments ++ [⟨script, state.g_package, next.g_package⟩]) := by
    rw [ownPackage_append, ownPackage_moment, unregistered]
    rintro ⟨_, _, still⟩
    cases still
  by_cases zero : code = 0
  · subst code
    obtain ⟨ret, behind, rest_ran, more⟩ :=
      execCommandList_keeps amend Grows (exec_commands_grow amend script rest)
        { next with moments := next.moments ++ [⟨script, state.g_package, next.g_package⟩] }
    obtain ⟨line, all_ran, _⟩ := amend.passes (watched_ran ran) rest_ran
    exact ⟨line, behind, all_ran, fun own => lost fun m member => own m (more.subset member)⟩
  · obtain ⟨line, failed, _⟩ := amend.fails (exec_commands amend script rest) (watched_ran ran) zero
    exact ⟨line, _, failed, lost⟩

/-- The commands of a script, while its archive is registered. -/
theorem exec_commands_own (script : Archive) : ∀ (commands : Commands Archive) (state : Tracked Archive),
    state.g_package = some script → OwnPackage state.moments →
    ∃ ret behind, amend.execCommandList (exec_commands amend script commands) state = some (ret, behind) ∧
      (OwnPackage behind.moments ↔ NoneOpened commands)
  | .nil, state, _, own => by
    rw [exec_commands]
    exact ⟨0, state, amend.ends state, iff_of_true own trivial⟩
  | .cons (.other code) rest, state, registered, own => by
    have ran : exec_command amend (.other code) state = some (code, state) := by rw [exec_command]
    rw [exec_commands, NoneOpened]
    by_cases zero : code = 0
    · subst code
      obtain ⟨ret, behind, rest_ran, own_iff⟩ := exec_commands_own script rest
        { state with moments := state.moments ++ [⟨script, state.g_package, state.g_package⟩] } registered
        (watched_own registered own)
      obtain ⟨line, all_ran, _⟩ := amend.passes (watched_ran ran) rest_ran
      exact ⟨line, behind, all_ran, own_iff.trans ⟨fun none_opened _ => none_opened, fun none_opened => none_opened rfl⟩⟩
    · obtain ⟨line, failed, _⟩ := amend.fails (exec_commands amend script rest) (watched_ran ran) zero
      exact ⟨line, _, failed, iff_of_true (watched_own registered own) fun passed => absurd passed zero⟩
  | .cons (.install_zip (.package opening archive contents)) rest, state, registered, own => by
    rw [exec_commands, NoneOpened]
    cases reached : opening.opened with
    | false =>
      have ran : exec_command amend (.install_zip (.package opening archive contents)) state = some (1, state) := by
        rw [exec_command, install_package_corrupt amend reached]
        rfl
      obtain ⟨line, failed, _⟩ := amend.fails (exec_commands amend script rest) (watched_ran ran) Int.one_ne_zero
      exact ⟨line, _, failed, iff_of_true (watched_own registered own) rfl⟩
    | true =>
      obtain ⟨status, next, installed, _, unregistered⟩ := handle_update_package_unregisters amend archive contents state
      have ran : exec_command amend (.install_zip (.package opening archive contents)) state =
          some (if status = .INSTALL_SUCCESS then 0 else 1, next) := by
        rw [exec_command, install_package, if_pos reached, installed, Option.map_some]
      obtain ⟨ret, behind, all_ran, lost⟩ := unregistered_not_own amend rest ran unregistered
      exact ⟨ret, behind, all_ran, iff_of_false lost Bool.noConfusion⟩

/-- While a script runs, its own archive stays registered exactly where none of its
    commands opens a package. -/
theorem own_package_iff (g_package : Option Archive) (archive : Archive) (commands : Commands Archive) :
    ∃ result behind,
      handle_update_package amend archive (.script true true true commands) ⟨g_package, []⟩ = some (result, behind) ∧
        (OwnPackage behind.moments ↔ NoneOpened commands) := by
  obtain ⟨ret, behind, ran, own_iff⟩ := exec_commands_own amend archive commands ⟨some archive, []⟩ rfl
    (List.forall_mem_nil _)
  exact ⟨_, _, script_runs amend ran, own_iff⟩

def readable_package : Opening := ⟨true, true, false, false, false, true⟩

/-- A script that installs a package with an update-binary, and goes on. -/
def nested_install : Commands String :=
  .cons (.install_zip (.package readable_package "/mnt/sdcard/kernel.zip" (.binary .INSTALL_SUCCESS)))
    (.cons (.other 0) .nil)

/-- Behind a nested package that succeeds, `PACKAGE:` means no archive. -/
theorem nested_install_unregisters :
    ∃ behind, handle_update_package numbered "/mnt/sdcard/update.zip" (.script true true true nested_install) ⟨none, []⟩ =
        some (.INSTALL_SUCCESS, behind) ∧ ¬OwnPackage behind.moments := by
  refine ⟨⟨none, [⟨"/mnt/sdcard/update.zip", some "/mnt/sdcard/update.zip", none⟩, ⟨"/mnt/sdcard/update.zip", none, none⟩]⟩, ?_, ?_⟩
  · simp [handle_update_package, register_package_root, nested_install, exec_commands, exec_command, install_package, numbered,
      run_lines, watched, Opening.opened, readable_package]
  · intro own
    cases (own ⟨"/mnt/sdcard/update.zip", none, none⟩ (by simp)).1

end SteamRecovery.Packages
