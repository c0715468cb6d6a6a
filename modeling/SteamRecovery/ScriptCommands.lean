import SteamRecovery.Config
import SteamRecovery.Formatting
import SteamRecovery.Numerals
import SteamRecovery.Packages

/-!
Commands of update scripts (`commands.c`). `restore_rom` selects what is not excluded
unless `nosd-ext` is given (`restore_rom_selects_iff`), `set_perm` comes to its first
path only (`set_perm_honest_iff`), and `run_program` unlinks the file that an earlier
command named (`run_program_independent_iff`).
-/
namespace SteamRecovery.ScriptCommands
open SteamRecovery.Devices (CInt has has_or)
open SteamRecovery.Numerals (isspace scan)
open SteamRecovery.CStrings (c_string)
open SteamRecovery.Formatting (PATH_MAX)
open SteamRecovery.Nandroid
open SteamRecovery.Packages (is_package_root_path translate_package_root_path)
open SteamRecovery.Routines (Routine)

/-! ### restore_rom -/

/-- The variables of `cmd_restore_rom`. -/
structure RestoreSwitches where
  restoreboot : Bool
  restoresystem : Bool
  restoredata : Bool
  restorecache : Bool
  restoresdext : Bool
  deriving DecidableEq

/-- The body of the loop over the arguments. -/
def restore_switch (s : RestoreSwitches) (arg : String) : RestoreSwitches :=
  if arg = "noboot" then { s with restoreboot := false }
  else if arg = "nosystem" then { s with restoresystem := false }
  else if arg = "nodata" then { s with restoredata := false }
  else if arg = "nocache" then { s with restorecache := false }
  else if arg = "nosd-ext" then { s with restorecache := false }
  else s

def restore_switches (argv : List String) : RestoreSwitches := argv.foldl restore_switch ⟨true, true, true, true, true⟩

/-- `cmd_restore_rom`, where the outcomes are those of a restore from `argv[0]`. -/
def cmd_restore_rom {Tree : Type} (build : Build) (o : Outcomes) (argv : List String) : Routine (Flash Tree) :=
  let s := restore_switches argv
  nandroid_restore build o s.restoreboot s.restoresystem s.restoredata s.restorecache s.restoresdext

/-- The flag word that `nandroid_restore` makes of the switches. -/
def flag_word (s : RestoreSwitches) : CInt :=
  (if s.restoreboot then BACKUP_BOOTABLES else 0) ||| (if s.restoresystem then BACKUP_SYSTEM else 0) |||
    (if s.restoredata then BACKUP_DATA ||| BACKUP_DATADATA ||| BACKUP_OTHERS else 0) |||
    (if s.restorecache then BACKUP_CACHE else 0) ||| (if s.restoresdext then BACKUP_SDEXT else 0) ||| BACKUP_NOFORMAT

/-- A flag word selects exactly what is not excluded. -/
structure SelectsNamed (flags : CInt) (argv : List String) : Prop where
  bootables : has flags BACKUP_BOOTABLES = true ↔ "noboot" ∉ argv
  system : has flags BACKUP_SYSTEM = true ↔ "nosystem" ∉ argv
  data : ∀ flag ∈ [BACKUP_DATA, BACKUP_DATADATA, BACKUP_OTHERS], has flags flag = true ↔ "nodata" ∉ argv
  cache : has flags BACKUP_CACHE = true ↔ "nocache" ∉ argv
  sdext : has flags BACKUP_SDEXT = true ↔ "nosd-ext" ∉ argv

/-- What the switches say: `nosd-ext` counts as `nocache`. -/
theorem restore_switches_eq (argv : List String) :
    restore_switches argv =
      ⟨"noboot" ∉ argv, "nosystem" ∉ argv, "nodata" ∉ argv, "nocache" ∉ argv ∧ "nosd-ext" ∉ argv, true⟩ := by
  unfold restore_switches
  induction argv using List.reverseRecOn with
  | nil => rfl
  | append_singleton argv arg ih =>
    rw [List.foldl_append, ih, List.foldl_cons, List.foldl_nil, restore_switch]
    split_ifs <;> simp_all [eq_comm]

theorem has_if (b : Bool) (flag mask : CInt) : has (if b then flag else 0) mask = (b && has flag mask) := by
  cases b with
  | false => exact Bool.eq_false_iff.mpr (by simp [has])
  | true => rfl

/-- The flags are the bits of their switches. -/
theorem flag_word_bits (s : RestoreSwitches) :
    has (flag_word s) BACKUP_BOOTABLES = s.restoreboot ∧ has (flag_word s) BACKUP_SYSTEM = s.restoresystem ∧
      (∀ flag ∈ [BACKUP_DATA, BACKUP_DATADATA, BACKUP_OTHERS], has (flag_word s) flag = s.restoredata) ∧
      has (flag_word s) BACKUP_CACHE = s.restorecache ∧ has (flag_word s) BACKUP_SDEXT = s.restoresdext := by
  simp only [flag_word, has_or, has_if, List.forall_mem_cons, List.not_mem_nil, false_imp_iff, implies_true, and_true]
  simp [has, BACKUP_BOOTABLES, BACKUP_SYSTEM, BACKUP_DATA, BACKUP_DATADATA, BACKUP_OTHERS, BACKUP_CACHE, BACKUP_SDEXT,
    BACKUP_NOFORMAT]

/-- The flag word of `cmd_restore_rom` selects what is not excluded exactly where
    `nosd-ext` is not among the arguments. -/
theorem restore_rom_selects_iff {Tree : Type} (build : Build) (o : Outcomes) (argv : List String) :
    (cmd_restore_rom build o argv : Routine (Flash Tree)) = nandroid_restore_flags build o (flag_word (restore_switches argv)) ∧
      (SelectsNamed (flag_word (restore_switches argv)) argv ↔ "nosd-ext" ∉ argv) := by
  refine ⟨rfl, ?_⟩
  obtain ⟨boot, system, data, cache, sdext⟩ := flag_word_bits (restore_switches argv)
  simp only [restore_switches_eq] at boot system data cache sdext ⊢
  constructor
  · intro selects
    exact selects.sdext.mp sdext
  · intro absent
    refine ⟨?_, ?_, ?_, ?_, ?_⟩
    · rw [boot, decide_eq_true_eq]
    · rw [system, decide_eq_true_eq]
    · intro flag listed
      rw [data flag listed, decide_eq_true_eq]
    · rw [cache, decide_eq_true_eq]
      exact and_iff_left absent
    · exact iff_of_true sdext absent

/-- Without the cache but with the extension: `nosd-ext` alone. -/
theorem sdext_restored : ¬ SelectsNamed (flag_word (restore_switches ["/sdcard/b", "nosd-ext"])) ["/sdcard/b", "nosd-ext"] := by
  intro selects
  exact absurd selects.sdext (by decide)

/-! ### set_perm and set_perm_recursive -/

/-- `strtoul(text,&end,0)` as a C `int`, and the text at `end`. -/
def strtoul (text : List Char) : CInt × List Char :=
  match scan .i (text.dropWhile isspace) with
  | none => (0, text)
  | some (n, rest) => (if 2 ^ 32 ≤ n.magnitude .i then -1 else BitVec.ofInt 32 (n.value .i), rest)

/-- What is done to a path. -/
inductive PermCall where
  | ensure_root_path_mounted (root_path : String)
  | chown (path : List Char) (uid gid : CInt)
  | chmod (path : List Char) (mode : CInt)
  | dirSetHierarchyPermissions (path : List Char) (uid gid dir_mode file_mode : CInt)
  deriving DecidableEq

/-- What the calls return, and what is on the stack where `path` will be. -/
structure PermOutcomes where
  code : PermCall → Int
  stack : List Char

/-- The path that a root path is translated to. -/
def translated (o : PermOutcomes) (root_path : String) : Option (List Char) :=
  (RootPaths.translate_root_path Devices.g_roots root_path.toList o.stack PATH_MAX).map (c_string '\x00')

/-- The calls that set the ownership and the mode of a path. -/
def perm_calls (recurse : Bool) (n : List CInt) (path : List Char) : List PermCall :=
  if recurse then [.dirSetHierarchyPermissions path (n.getD 0 0) (n.getD 1 0) (n.getD 2 0) (n.getD 3 0)]
  else [.chown path (n.getD 0 0) (n.getD 1 0), .chmod path (n.getD 2 0)]

/-- The code of the first call that fails, or of the last, and the calls made. -/
def first_failure (o : PermOutcomes) : List PermCall → Int × List PermCall
  | [] => (0, [])
  | call :: rest =>
    if o.code call ≠ 0 then (o.code call, [call])
    else ((first_failure o rest).1, call :: (first_failure o rest).2)

/-- The body of the loop over the paths. -/
def set_path (o : PermOutcomes) (recurse : Bool) (n : List CInt) (root_path : String) : Int × List PermCall :=
  match translated o root_path with
  | none => (1, [])
  | some path =>
    let made := first_failure o (.ensure_root_path_mounted root_path :: perm_calls recurse n path)
    (if made.1 ≠ 0 then 1 else 0, made.2)

/-- The loop, until the first path that fails. -/
def set_paths (o : PermOutcomes) (recurse : Bool) (n : List CInt) : List String → Int × List PermCall
  | [] => (0, [])
  | root_path :: rest =>
    let made := set_path o recurse n root_path
    if made.1 ≠ 0 then made else ((set_paths o recurse n rest).1, made.2 ++ (set_paths o recurse n rest).2)

/-- `end[0] != '\0' || argv[i][0] == '\0'` does not hold. -/
def numeric (arg : String) : Bool := (strtoul arg.toList).2 = [] ∧ arg ≠ ""

def min_args (name : String) : Nat := 4 + (if name = "set_perm_recursive" then 1 else 0)

/-- The loop over the paths goes from `min_args - 1` up to below `min_args`. -/
def cmd_set_perm (o : PermOutcomes) (name : String) (argv : List String) : Int × List PermCall :=
  let recurse := decide (name = "set_perm_recursive")
  let min_args := min_args name
  if argv.length < min_args then (1, [])
  else
    let numbers := argv.take (min_args - 1)
    if numbers.all numeric then
      set_paths o recurse (numbers.map fun arg => (strtoul arg.toList).1) ((argv.take min_args).drop (min_args - 1))
    else (1, [])

/-- The values of the arguments in front of the paths. -/
def numbers (name : String) (argv : List String) : List CInt :=
  (argv.take (min_args name - 1)).map fun arg => (strtoul arg.toList).1

/-- The arguments behind the numbers. -/
def given_paths (name : String) (argv : List String) : List String := argv.drop (min_args name - 1)

section SetPerm
variable (o : PermOutcomes) (recurse : Bool) (n : List CInt)

/-- The ownership and the mode were set on what the root path means. -/
def Applied (calls : List PermCall) (root_path : String) : Prop :=
  ∃ path, translated o root_path = some path ∧ ∀ call ∈ perm_calls recurse n path, call ∈ calls ∧ o.code call = 0

/-- The path is bad, or a call on it fails. -/
def Fails (root_path : String) : Prop :=
  ∀ path, translated o root_path = some path →
    ∃ call ∈ .ensure_root_path_mounted root_path :: perm_calls recurse n path, o.code call ≠ 0

variable {o recurse n}

theorem first_failure_zero {calls : List PermCall} :
    (first_failure o calls).1 = 0 ↔ ∀ call ∈ calls, o.code call = 0 := by
  induction calls with
  | nil => simp [first_failure]
  | cons call rest ih =>
    rw [first_failure, List.forall_mem_cons, ← ih]
    by_cases works : o.code call = 0
    · simp [works]
    · simp [works]

theorem first_failure_all {calls : List PermCall} (work : ∀ call ∈ calls, o.code call = 0) :
    first_failure o calls = (0, calls) := by
  induction calls with
  | nil => rfl
  | cons call rest ih =>
    rw [List.forall_mem_cons] at work
    rw [first_failure, if_neg (not_not.mpr work.1), ih work.2]

theorem set_path_fails {root_path : String} (fails : Fails o recurse n root_path) :
    (set_path o recurse n root_path).1 ≠ 0 := by
  unfold set_path
  split
  · decide
  · rename_i path found
    obtain ⟨call, member, broken⟩ := fails path found
    have stopped : (first_failure o (.ensure_root_path_mounted root_path :: perm_calls recurse n path)).1 ≠ 0 :=
      fun works => broken (first_failure_zero.mp works call member)
    dsimp only
    rw [if_pos stopped]
    decide

theorem set_path_works {root_path : String} (works : ¬ Fails o recurse n root_path) :
    ∃ path, translated o root_path = some path ∧
      (∀ call ∈ .ensure_root_path_mounted root_path :: perm_calls recurse n path, o.code call = 0) ∧
      set_path o recurse n root_path = (0, .ensure_root_path_mounted root_path :: perm_calls recurse n path) := by
  unfold Fails at works
  push Not at works
  obtain ⟨path, found, all⟩ := works
  refine ⟨path, found, all, ?_⟩
  simp only [set_path, found, first_failure_all all]
  rfl

/-- Two paths have a call in common only if they are the same. -/
theorem perm_calls_path {path other : List Char} {r : String}
    (inside : ∀ call ∈ perm_calls recurse n other, call ∈ .ensure_root_path_mounted r :: perm_calls recurse n path) :
    other = path := by
  cases recurse with
  | false =>
    have chown := inside (.chown other (n.getD 0 0) (n.getD 1 0)) (by simp [perm_calls])
    simpa [perm_calls] using chown
  | true =>
    have set := inside (.dirSetHierarchyPermissions other (n.getD 0 0) (n.getD 1 0) (n.getD 2 0) (n.getD 3 0))
      (by simp [perm_calls])
    simpa [perm_calls] using set

end SetPerm

/-- 0 is returned only where every path was set, and not where one is bad or fails. -/
structure SetPermHonest (o : PermOutcomes) (name : String) (argv : List String) : Prop where
  applied : (cmd_set_perm o name argv).1 = 0 → ∀ path ∈ given_paths name argv,
    Applied o (name = "set_perm_recursive") (numbers name argv) (cmd_set_perm o name argv).2 path
  fails : (∃ path ∈ given_paths name argv, Fails o (name = "set_perm_recursive") (numbers name argv) path) →
    (cmd_set_perm o name argv).1 ≠ 0

/-- With enough arguments the loop comes to the first path only. -/
theorem cmd_set_perm_first (o : PermOutcomes) {name : String} {argv : List String} {first : String}
    {later : List String} (enough : min_args name ≤ argv.length)
    (valid : ∀ arg ∈ argv.take (min_args name - 1), numeric arg = true) (paths : given_paths name argv = first :: later) :
    cmd_set_perm o name argv = set_path o (name = "set_perm_recursive") (numbers name argv) first := by
  have one : (argv.take (min_args name)).drop (min_args name - 1) = [first] := by
    have count : min_args name - (min_args name - 1) = 1 := by
      unfold min_args
      omega
    rw [List.drop_take, count, ← given_paths, paths, List.take_one, List.head?_cons, Option.toList_some]
  unfold cmd_set_perm
  dsimp only
  rw [if_neg (Nat.not_lt.mpr enough), if_pos (List.all_eq_true.mpr valid), one, set_paths, set_paths, List.append_nil]
  split
  · rfl
  · rename_i works
    exact Prod.ext (not_not.mp works).symm rfl

/-- Where all paths mean the same file, it is enough to set one. -/
theorem honest_of_same {o : PermOutcomes} {name : String} {argv : List String} {path : List Char}
    (each : ∀ other ∈ given_paths name argv,
      translated o other = some path ∧ o.code (.ensure_root_path_mounted other) = 0)
    (set : ∀ call ∈ perm_calls (name = "set_perm_recursive") (numbers name argv) path,
      call ∈ (cmd_set_perm o name argv).2 ∧ o.code call = 0) : SetPermHonest o name argv := by
  refine ⟨fun _ other member => ⟨path, (each other member).1, set⟩, ?_⟩
  rintro ⟨other, member, broken⟩
  obtain ⟨call, listed, wrong⟩ := broken path (each other member).1
  rcases List.mem_cons.mp listed with rfl | on_path
  · exact absurd (each other member).2 wrong
  · exact absurd (set call on_path).2 wrong

/-- `cmd_set_perm` is honest exactly where the first path is bad or fails, or where
    every other path means the same file and can be mounted. -/
theorem set_perm_honest_iff (o : PermOutcomes) {name : String} {argv : List String}
    (enough : min_args name ≤ argv.length) (valid : ∀ arg ∈ argv.take (min_args name - 1), numeric arg = true) :
    SetPermHonest o name argv ↔
      ∀ first later, given_paths name argv = first :: later →
        Fails o (name = "set_perm_recursive") (numbers name argv) first ∨
          ∀ other ∈ later, translated o other = translated o first ∧ o.code (.ensure_root_path_mounted other) = 0 := by
  constructor
  · intro honest first later paths
    have ran := cmd_set_perm_first o enough valid paths
    rw [or_iff_not_imp_left]
    intro works other member
    obtain ⟨path, found, all, made⟩ := set_path_works works
    have returned : (cmd_set_perm o name argv).1 = 0 := by rw [ran, made]
    have given : other ∈ given_paths name argv := paths ▸ List.mem_cons_of_mem first member
    obtain ⟨other_path, other_found, set⟩ := honest.applied returned other given
    have other_works : ¬ Fails o (name = "set_perm_recursive") (numbers name argv) other :=
      fun fails => honest.fails ⟨other, given, fails⟩ returned
    obtain ⟨_, _, other_all, _⟩ := set_path_works other_works
    have inside : ∀ call ∈ perm_calls (name = "set_perm_recursive") (numbers name argv) other_path,
        call ∈ .ensure_root_path_mounted first :: perm_calls (name = "set_perm_recursive") (numbers name argv) path := by
      intro call listed
      have called := (set call listed).1
      rwa [ran, made] at called
    exact ⟨by rw [other_found, found, perm_calls_path inside], other_all _ List.mem_cons_self⟩
  · intro alike
    obtain ⟨first, later, paths⟩ : ∃ first later, given_paths name argv = first :: later := by
      refine List.exists_cons_of_ne_nil fun empty => ?_
      have short := List.drop_eq_nil_iff.mp empty
      unfold min_args at enough short
      omega
    have ran := cmd_set_perm_first o enough valid paths
    by_cases fails : Fails o (name = "set_perm_recursive") (numbers name argv) first
    · have returned : (cmd_set_perm o name argv).1 ≠ 0 := ran ▸ set_path_fails fails
      exact ⟨fun zero => absurd zero returned, fun _ => returned⟩
    · have same := (alike first later paths).resolve_left fails
      obtain ⟨path, found, all, made⟩ := set_path_works fails
      have each : ∀ other ∈ given_paths name argv,
          translated o other = some path ∧ o.code (.ensure_root_path_mounted other) = 0 := by
        intro other member
        rw [paths] at member
        rcases List.mem_cons.mp member with rfl | later_path
        · exact ⟨found, all _ List.mem_cons_self⟩
        · exact ⟨(same other later_path).1.trans found, (same other later_path).2⟩
      refine honest_of_same each fun call listed => ?_
      rw [ran, made]
      exact ⟨List.mem_cons_of_mem _ listed, all call (List.mem_cons_of_mem _ listed)⟩

/-- Every call works, but `chown` not on the second path. -/
def second_fails : PermOutcomes :=
  { code := fun call => if call = .chown "/system/bin/b".toList 0 0 then -1 else 0, stack := [] }

theorem set_perm_same_path :
    SetPermHonest second_fails "set_perm" ["0", "0", "0644", "SYSTEM:bin/a", "SYSTEM:bin/a"] :=
  (set_perm_honest_iff second_fails (by decide) (by decide)).mpr fun first later paths => by
    obtain ⟨rfl, rfl⟩ : first = "SYSTEM:bin/a" ∧ later = ["SYSTEM:bin/a"] := by
      simpa [given_paths, min_args, eq_comm] using paths
    refine Or.inr fun other listed => ?_
    rw [List.mem_singleton.mp listed]
    exact ⟨rfl, by decide⟩

/-- The second path is never looked at. -/
theorem set_perm_second_path :
    ¬ SetPermHonest second_fails "set_perm" ["0", "0", "0644", "SYSTEM:bin/a", "SYSTEM:bin/b"] := by
  intro honest
  refine honest.fails ⟨"SYSTEM:bin/b", by decide, ?_⟩ (by decide)
  intro path found
  have second : translated second_fails "SYSTEM:bin/b" = some "/system/bin/b".toList := by decide +kernel
  obtain rfl : "/system/bin/b".toList = path := Option.some_inj.mp (second.symm.trans found)
  exact ⟨.chown "/system/bin/b".toList 0 0, by decide, by decide⟩

/-! ### run_program -/

/-- What a command does with files. -/
inductive ProgramCall where
  | unlink (path : String)
  | creat (path : String)
  | extract (entry path : String)
  | execv (path : String) (args : List String)
  deriving DecidableEq

/-- A command: its arguments, whether the entry is in the package, whether `creat`,
    the extraction and `fork` work, whether the program exits with 0, and the global. -/
structure RunProgram where
  argv : List String
  found : Bool
  created : Bool
  extracted : Bool
  forked : Bool
  exits_zero : Bool
  script_assert_enabled : Bool

/-- What a command returns, `binary` behind it, and what it did. -/
structure ProgramRan where
  result : Int
  binary : String
  calls : List ProgramCall
  deriving DecidableEq

/-- The path in the package that is written to `path`, if it has room there. -/
def package_entry (root_path : String) : Option String :=
  ((translate_package_root_path root_path (none : Option Unit)).map Prod.fst).filter fun path => path.length + 1 ≤ PATH_MAX

/-- From the copy of `argv` on. -/
def run_binary (binary : String) (c : RunProgram) (calls : List ProgramCall) : ProgramRan :=
  { result := if c.exits_zero ∨ c.script_assert_enabled = false then 0 else 1
    binary := binary
    calls := calls ++ if c.forked then [.execv binary c.argv] else [] }

/-- `cmd_run_program`, where `binary` is what the static variable holds. `none` is a
    `strcpy` to beyond the end of `path`. -/
def cmd_run_program (binary : String) (c : RunProgram) : Option ProgramRan :=
  match c.argv.head? with
  | none => some ⟨1, binary, []⟩
  | some program =>
    if is_package_root_path program = false then
      if PATH_MAX < program.length + 1 then none else some (run_binary program c [])
    else
      match package_entry program with
      | none => some ⟨1, binary, []⟩
      | some entry =>
        if c.found = false then some ⟨1, binary, []⟩
        else if c.created = false then some ⟨1, binary, [.unlink binary, .creat binary]⟩
        else if c.extracted = false then some ⟨1, binary, [.unlink binary, .creat binary, .extract entry binary]⟩
        else some (run_binary binary c [.unlink binary, .creat binary, .extract entry binary])

/-- What `binary` holds at the start of the process. -/
def run_program_binary : String := "/tmp/run_program_binary"

/-- What it holds behind some commands. -/
def binary_behind (commands : List RunProgram) : Option String :=
  commands.foldlM (fun binary c => (cmd_run_program binary c).map ProgramRan.binary) run_program_binary

/-- The file that a command names as its program, unless it is in the package. -/
def NamesFile (c : RunProgram) (path : String) : Prop := c.argv.head? = some path ∧ is_package_root_path path = false

/-- The program is in a package, which it is found in. -/
def Opens (c : RunProgram) : Prop :=
  ∃ program entry, c.argv.head? = some program ∧ is_package_root_path program = true ∧
    package_entry program = some entry ∧ c.found = true

def ProgramCall.path : ProgramCall → String
  | .unlink path => path
  | .creat path => path
  | .extract _ path => path
  | .execv path _ => path

/-- A command behind others does what it would do alone, and spares their files. -/
structure Independent (before : List RunProgram) (c : RunProgram) (ran : ProgramRan) : Prop where
  target : ∀ program, c.argv.head? = some program → is_package_root_path program = true →
    ∀ call ∈ ran.calls, call.path = run_program_binary
  executed : Opens c → c.created = true → c.extracted = true → c.forked = true →
    ∃ entry, .extract entry run_program_binary ∈ ran.calls ∧ .execv run_program_binary c.argv ∈ ran.calls
  spared : ∀ path, .unlink path ∈ ran.calls ∨ .creat path ∈ ran.calls → ∀ earlier ∈ before, ¬ NamesFile earlier path

/-- A name that is not of a package is held and executed, if it fits. -/
theorem cmd_run_program_file {c : RunProgram} {path : String} (names : NamesFile c path) (binary : String) :
    cmd_run_program binary c = if PATH_MAX < path.length + 1 then none else some (run_binary path c []) := by
  obtain ⟨program, outside⟩ := names
  simp only [cmd_run_program, program, outside]
  rfl

/-- A command that opens a package works on the file that is held. -/
theorem cmd_run_program_opens {c : RunProgram} (opens : Opens c) (binary : String) :
    ∃ entry ran, cmd_run_program binary c = some ran ∧ ran.binary = binary ∧ .unlink binary ∈ ran.calls ∧
      (∀ call ∈ ran.calls, call.path = binary) ∧
      (c.created = true → c.extracted = true → c.forked = true →
        .extract entry binary ∈ ran.calls ∧ .execv binary c.argv ∈ ran.calls) := by
  obtain ⟨program, entry, head, inside, room, found⟩ := opens
  refine ⟨entry, ?_⟩
  simp only [cmd_run_program, head, inside, room, found]
  cases created : c.created <;> cases extracted : c.extracted <;> cases forked : c.forked <;>
    simp [run_binary, ProgramCall.path, forked]

/-- Every other command does nothing. -/
theorem cmd_run_program_nothing {c : RunProgram} (closed : ¬ Opens c) (unnamed : ∀ path, ¬ NamesFile c path)
    (binary : String) : cmd_run_program binary c = some ⟨1, binary, []⟩ := by
  unfold cmd_run_program
  split
  · rfl
  · rename_i program head
    have inside : is_package_root_path program = true := by
      rw [← Bool.not_eq_false]
      exact fun outside => unnamed program ⟨head, outside⟩
    rw [if_neg (by rw [inside]; decide)]
    split
    · rfl
    · rename_i entry room
      have missing : c.found = false := by
        rw [← Bool.not_eq_true]
        exact fun found => closed ⟨program, entry, head, inside, room, found⟩
      rw [if_pos missing]

/-- The names that are not of a package fit into `path`. -/
def Fits (c : RunProgram) : Prop := ∀ path, NamesFile c path → path.length + 1 ≤ PATH_MAX

/-- `binary` changes to what the command names, or not at all. -/
theorem cmd_run_program_binary {c : RunProgram} (fits : Fits c) (binary : String) :
    ∃ ran, cmd_run_program binary c = some ran ∧
      (NamesFile c ran.binary ∨ ran.binary = binary ∧ ∀ path, ¬ NamesFile c path) := by
  by_cases named : ∃ path, NamesFile c path
  · obtain ⟨path, names⟩ := named
    refine ⟨run_binary path c [], ?_, Or.inl names⟩
    rw [cmd_run_program_file names, if_neg (Nat.not_lt.mpr (fits path names))]
  · rw [not_exists] at named
    by_cases opens : Opens c
    · obtain ⟨_, ran, ran_eq, same, _⟩ := cmd_run_program_opens opens binary
      exact ⟨ran, ran_eq, Or.inr ⟨same, named⟩⟩
    · exact ⟨_, cmd_run_program_nothing opens named binary, Or.inr ⟨rfl, named⟩⟩

/-- Behind any commands `binary` is the name of one of them, if one names a file. -/
theorem binary_behind_named {commands : List RunProgram} (fits : ∀ c ∈ commands, Fits c) :
    ∃ binary, binary_behind commands = some binary ∧
      ((∃ c ∈ commands, NamesFile c binary) ∨
        binary = run_program_binary ∧ ∀ c ∈ commands, ∀ path, ¬ NamesFile c path) := by
  induction commands using List.reverseRecOn with
  | nil => exact ⟨run_program_binary, rfl, Or.inr ⟨rfl, fun c inside => absurd inside List.not_mem_nil⟩⟩
  | append_singleton commands last ih =>
    obtain ⟨binary, held, either⟩ := ih fun c inside => fits c (List.mem_append_left _ inside)
    obtain ⟨ran, ran_eq, changed⟩ := cmd_run_program_binary (fits last (by simp)) binary
    have behind : binary_behind (commands ++ [last]) = some ran.binary := by
      rw [binary_behind] at held ⊢
      rw [List.foldlM_append, held]
      simp [ran_eq]
    refine ⟨ran.binary, behind, ?_⟩
    rcases changed with names | ⟨same, unnamed⟩
    · exact Or.inl ⟨last, by simp, names⟩
    · rcases either with ⟨c, inside, names⟩ | ⟨start, none_named⟩
      · exact Or.inl ⟨c, List.mem_append_left _ inside, same ▸ names⟩
      · refine Or.inr ⟨same.trans start, ?_⟩
        intro c inside
        rcases List.mem_append.mp inside with earlier | final
        · exact none_named c earlier
        · exact List.mem_singleton.mp final ▸ unnamed

section
variable {before : List RunProgram} {c : RunProgram} {binary : String} {ran : ProgramRan}

/-- A command that opens a package is independent of others that name no files. -/
theorem independent_package (opens : Opens c) (ran_eq : cmd_run_program run_program_binary c = some ran)
    (unnamed : ∀ earlier ∈ before, ∀ path, ¬ NamesFile earlier path) : Independent before c ran := by
  obtain ⟨entry, opened, opened_eq, _, _, path_eq, executes⟩ := cmd_run_program_opens opens run_program_binary
  obtain rfl : ran = opened := Option.some_inj.mp (ran_eq.symm.trans opened_eq)
  exact ⟨fun _ _ _ => path_eq, fun _ created extracted forked => ⟨entry, executes created extracted forked⟩,
    fun path _ earlier member => unnamed earlier member path⟩

/-- A command that opens no package changes no file. -/
theorem independent_other (closed : ¬ Opens c) (fits : Fits c) (ran_eq : cmd_run_program binary c = some ran) :
    Independent before c ran := by
  by_cases named : ∃ path, NamesFile c path
  · obtain ⟨path, names⟩ := named
    rw [cmd_run_program_file names, if_neg (Nat.not_lt.mpr (fits path names))] at ran_eq
    obtain rfl := Option.some_inj.mp ran_eq
    refine ⟨?_, fun opened => absurd opened closed, ?_⟩
    · intro program head package
      obtain rfl := Option.some_inj.mp (names.1.symm.trans head)
      exact absurd package (by rw [names.2]; decide)
    · intro target overwrites
      simp [run_binary] at overwrites
  · rw [not_exists] at named
    rw [cmd_run_program_nothing closed named] at ran_eq
    obtain rfl := Option.some_inj.mp ran_eq
    exact ⟨fun _ _ _ call listed => absurd listed List.not_mem_nil, fun opened => absurd opened closed,
      fun path overwrites => absurd overwrites (by simp)⟩

/-- A command that opens a package behind one that names a file unlinks a named file. -/
theorem named_not_independent (fits : ∀ c ∈ before, Fits c) (held : binary_behind before = some binary)
    (ran_eq : cmd_run_program binary c = some ran) (single : Independent before c ran) (opens : Opens c) :
    ∀ earlier ∈ before, ∀ path, ¬ NamesFile earlier path := by
  obtain ⟨_, opened, opened_eq, _, unlinked, _⟩ := cmd_run_program_opens opens binary
  obtain rfl : ran = opened := Option.some_inj.mp (ran_eq.symm.trans opened_eq)
  obtain ⟨binary', held', either⟩ := binary_behind_named fits
  obtain rfl : binary = binary' := Option.some_inj.mp (held.symm.trans held')
  rcases either with ⟨named, member, its⟩ | ⟨_, unnamed⟩
  · exact absurd its (single.spared binary (Or.inl unlinked) named member)
  · exact unnamed

end

/-- The commands do not depend on what was run before exactly where the names of files
    fit, and no command opens a package behind one that names a file. -/
theorem run_program_independent_iff (commands : List RunProgram) :
    (∀ before c after, commands = before ++ c :: after →
      ∃ binary ran, binary_behind before = some binary ∧ cmd_run_program binary c = some ran ∧ Independent before c ran) ↔
      (∀ c ∈ commands, Fits c) ∧
        ∀ before c after, commands = before ++ c :: after → Opens c → ∀ earlier ∈ before, ∀ path, ¬ NamesFile earlier path := by
  have among : ∀ before c after, commands = before ++ c :: after → ∀ earlier ∈ before, earlier ∈ commands :=
    fun before c after split earlier member => split ▸ List.mem_append_left _ member
  constructor
  · intro independent
    have fits : ∀ c ∈ commands, Fits c := by
      intro c inside path names
      obtain ⟨before, after, split⟩ := List.append_of_mem inside
      obtain ⟨binary, ran, _, ran_eq, _⟩ := independent before c after split
      rw [cmd_run_program_file names] at ran_eq
      by_contra long
      rw [if_pos (Nat.not_le.mp long)] at ran_eq
      cases ran_eq
    refine ⟨fits, ?_⟩
    intro before c after split opens
    obtain ⟨binary, ran, held, ran_eq, single⟩ := independent before c after split
    exact named_not_independent (fun c member => fits c (among _ _ _ split c member)) held ran_eq single opens
  · rintro ⟨fits, ordered⟩ before c after split
    have inside : c ∈ commands := split ▸ by simp
    obtain ⟨binary, held, either⟩ := binary_behind_named fun c member => fits c (among _ _ _ split c member)
    obtain ⟨ran, ran_eq, _⟩ := cmd_run_program_binary (fits c inside) binary
    refine ⟨binary, ran, held, ran_eq, ?_⟩
    by_cases opens : Opens c
    · have unnamed := ordered before c after split opens
      have start : binary = run_program_binary :=
        either.elim (fun ⟨named, member, its⟩ => absurd its (unnamed named member binary)) And.left
      exact independent_package opens (start ▸ ran_eq) unnamed
    · exact independent_other opens (fits c inside) ran_eq

/-- A command that works, with one argument. -/
def working (program : String) : RunProgram := ⟨[program], true, true, true, true, true, true⟩

/-- A package command behind another unlinks that one's file. -/
theorem run_program_history :
    ¬ ∀ before c after, [working "/sbin/sh", working "PACKAGE:a"] = before ++ c :: after →
      ∃ binary ran, binary_behind before = some binary ∧ cmd_run_program binary c = some ran ∧
        Independent before c ran := by
  intro independent
  obtain ⟨binary, ran, held, ran_eq, single⟩ := independent [working "/sbin/sh"] (working "PACKAGE:a") [] rfl
  have names : NamesFile (working "/sbin/sh") "/sbin/sh" := ⟨rfl, by decide⟩
  obtain rfl : "/sbin/sh" = binary := Option.some_inj.mp (Eq.trans (by decide) held)
  have calls : some [ProgramCall.unlink "/sbin/sh", .creat "/sbin/sh", .extract "a" "/sbin/sh", .execv "/sbin/sh" ["PACKAGE:a"]] =
      some ran.calls := Eq.trans (by decide +kernel) (congrArg (Option.map ProgramRan.calls) ran_eq)
  exact single.spared "/sbin/sh" (by simp [← Option.some_inj.mp calls]) _ (by simp) names

end SteamRecovery.ScriptCommands
