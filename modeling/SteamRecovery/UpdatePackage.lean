import SteamRecovery.UpdateBinary
import SteamRecovery.UpdateScripts

/-!
Installing what is in an archive (`try_update_binary` and `handle_update_package` in
`install.c`). An archive has a binary that is run, or else a script. That it has neither is
not seen before the entry is used (`clean_iff`).
-/
namespace SteamRecovery.UpdatePackage
open SteamRecovery.CStrings SteamRecovery.FormatStrings SteamRecovery.Printing
open SteamRecovery.UpdateBinary SteamRecovery.UpdateScripts
open SteamRecovery.Amend (Interpreter)
open SteamRecovery.Packages (Status register_package_root)
open SteamRecovery.TextLog (Printed)

def ASSUMED_UPDATE_BINARY_NAME : String := "META-INF/com/google/android/update-binary"
def ASSUMED_UPDATE_SCRIPT_NAME : String := "META-INF/com/google/android/update-script"

/-- What minzip finds in an archive, `NULL` for a name that is not in it. -/
structure ZipArchive where
  mzFindZipEntry : String → Option Entry

/-- What `waitpid` says of the updater. -/
structure WaitStatus where
  WIFEXITED : Bool
  WEXITSTATUS : Nat

/-- What the code that is called does, and the updater. -/
structure Run where
  script : Outcomes ZipArchive
  creat : Bool
  mzExtractZipEntryToFile : Bool
  /-- What the updater writes to the pipe. -/
  from_child : List Char
  status : WaitStatus
  strdup : Bool

/-- What is returned, `g_package`, and what was done on the screen. -/
structure Installed where
  result : Status
  g_package : Option ZipArchive
  effects : List Effect

def logged (texts : List Printed) : List Effect := texts.map Effect.ui_print

def try_update_binary (r : Run) (path : List Char) (zip : ZipArchive) : Option (Status × List Effect) :=
  match zip.mzFindZipEntry ASSUMED_UPDATE_BINARY_NAME with
  | none => some (.INSTALL_UPDATE_BINARY_MISSING, [])
  | some _ =>
    if !r.creat then some (.INSTALL_ERROR, logged [LOGE "Can't make /tmp/update_binary\n".toList])
    else if !r.mzExtractZipEntryToFile then
      some (.INSTALL_ERROR, logged [LOGE ("Can't copy ".toList ++ ASSUMED_UPDATE_BINARY_NAME.toList ++ ['\n'])])
    else
      (command_loop r.from_child).map fun effects =>
        if !r.status.WIFEXITED || r.status.WEXITSTATUS ≠ 0 then
          (.INSTALL_ERROR, effects ++ logged [LOGE ("Error in ".toList ++ path ++ "\n(Status ".toList ++
            (toString r.status.WEXITSTATUS).toList ++ ")\n".toList)])
        else (.INSTALL_SUCCESS, effects)

def find_update_script (zip : ZipArchive) : Option Entry := zip.mzFindZipEntry ASSUMED_UPDATE_SCRIPT_NAME

def handle_update_package (r : Run) (path : List Char) (zip : ZipArchive) (g_package : Option ZipArchive) :
    Option Installed :=
  let first := logged [buf "Installing update...\n".toList]
  match try_update_binary r path zip with
  | none => none
  | some (result, effects) =>
    if result = .INSTALL_UPDATE_BINARY_MISSING then
      let (_, g_package) := register_package_root none r.strdup g_package
      let (code, g_package) := register_package_root (some zip) r.strdup g_package
      if code < 0 then some ⟨.INSTALL_ERROR, g_package, first ++ effects ++ logged [LOGE "Can't register package root\n".toList]⟩
      else
        (handle_update_script r.script (find_update_script zip) g_package).map fun ended =>
          let result := if ended.result = .INSTALL_UPDATE_SCRIPT_MISSING then .INSTALL_ERROR else ended.result
          ⟨result, (register_package_root none r.strdup ended.g_package).2, first ++ effects ++ logged ended.log⟩
    else some ⟨result, (register_package_root none r.strdup g_package).2, first ++ effects⟩

/-- It is done without a use of an entry that is not there, and no package root is left. -/
def Clean (r : Run) (path : List Char) (zip : ZipArchive) (g_package : Option ZipArchive) : Prop :=
  ∃ installed, handle_update_package r path zip g_package = some installed ∧
    (installed.result = .INSTALL_SUCCESS ∨ installed.result = .INSTALL_ERROR) ∧
    (zip.mzFindZipEntry ASSUMED_UPDATE_BINARY_NAME = none → zip.mzFindZipEntry ASSUMED_UPDATE_SCRIPT_NAME = none →
      installed.result = .INSTALL_ERROR) ∧
    installed.g_package = none

/-! ### Scripts -/

/-- A script of this length can be read. -/
structure Readable (o : Outcomes ZipArchive) (entry : Entry) : Prop where
  some_char : 0 < entry.data.length
  positive : entry.data.length < 2 ^ 31
  malloc : o.malloc = true
  mzReadZipEntry : o.mzReadZipEntry = true

theorem int_length {n : Nat} (fits : n < 2 ^ 32) : (BitVec.ofNat 32 n).toInt ≤ 0 ↔ ¬(0 < n ∧ n < 2 ^ 31) := by
  rw [BitVec.toInt_eq_toNat_cond, BitVec.toNat_ofNat, Nat.mod_eq_of_lt fits]
  split <;> omega

theorem read_data_readable {o : Outcomes ZipArchive} {entry : Entry} (readable : Readable o entry) :
    read_data o (some entry) = some (0, entry.data ++ ['\x00'], []) := by
  have len : ¬(BitVec.ofNat 32 entry.data.length).toInt ≤ 0 := by
    rw [int_length entry.fits, not_not]
    exact ⟨readable.some_char, readable.positive⟩
  simp only [read_data, Option.map_some, if_neg len, readable.malloc, readable.mzReadZipEntry, Bool.not_true, Bool.false_eq_true,
    if_false]

theorem read_data_fails {o : Outcomes ZipArchive} {entry : Entry} (unreadable : ¬Readable o entry) :
    ∃ code data log, read_data o (some entry) = some (code, data, log) ∧ code < 0 := by
  unfold read_data
  rw [Option.map_some]
  dsimp only
  split
  · exact ⟨-1, [], _, rfl, by decide⟩
  rename_i len
  split
  · exact ⟨-2, [], _, rfl, by decide⟩
  rename_i malloc
  split
  · exact ⟨-3, [], _, rfl, by decide⟩
  rename_i read
  rw [int_length entry.fits, not_not] at len
  exact absurd ⟨len.1, len.2, by simpa using malloc, by simpa using read⟩ unreadable

/-- The script runs to its end, or it fails in a line. -/
def Runs (o : Outcomes ZipArchive) (entry : Entry) (g_package : Option ZipArchive) : Prop :=
  Readable o entry → o.parseAmendScript entry.data = true → 0 ≤ (o.execCommandList entry.data g_package).1

/-- A script that can be read and parsed is run, and a failure is reported. -/
theorem handle_update_script_ran {o : Outcomes ZipArchive} {entry : Entry} (readable : Readable o entry)
    (parses : o.parseAmendScript entry.data = true) {g_package : Option ZipArchive} {ret : Int} {behind : Option ZipArchive}
    (ran : o.execCommandList entry.data g_package = (ret, behind)) :
    handle_update_script o (some entry) g_package =
      if ret ≠ 0 then
        (report .unset (entry.data ++ ['\x00']) entry.data.length ret).map fun line =>
          ⟨.INSTALL_ERROR, behind, [LOGE (failure ret line)]⟩
      else some ⟨.INSTALL_SUCCESS, behind, [buf "Installation complete.\n".toList]⟩ := by
  have length : (entry.data ++ ['\x00']).length - 1 = entry.data.length := by simp
  rw [handle_update_script, read_data_readable readable]
  simp only [Int.lt_irrefl, if_false, length, List.take_left, parses, ran, Bool.not_true, Bool.false_eq_true]

theorem handle_update_script_unparsed {o : Outcomes ZipArchive} {entry : Entry} (readable : Readable o entry)
    (unparsed : o.parseAmendScript entry.data = false) (g_package : Option ZipArchive) :
    handle_update_script o (some entry) g_package =
      some ⟨.INSTALL_ERROR, g_package, [LOGE "Syntax error in update script\n".toList]⟩ := by
  have length : (entry.data ++ ['\x00']).length - 1 = entry.data.length := by simp
  rw [handle_update_script, read_data_readable readable]
  simp only [Int.lt_irrefl, if_false, length, List.take_left, unparsed, Bool.not_false, if_true]

theorem handle_update_script_defined (o : Outcomes ZipArchive) (entry : Entry) (g_package : Option ZipArchive) :
    handle_update_script o (some entry) g_package ≠ none ↔ Runs o entry g_package := by
  unfold Runs
  by_cases readable : Readable o entry
  · by_cases parses : o.parseAmendScript entry.data = true
    · cases ran : o.execCommandList entry.data g_package with
      | mk ret behind =>
        have defined := report_defined entry.data ret
        rw [handle_update_script_ran readable parses ran]
        simp only [readable, parses, true_implies]
        by_cases failed : ret = 0
        · rw [if_neg (not_not.mpr failed)]
          exact iff_of_true (Option.some_ne_none _) (by omega)
        · rw [if_pos failed, show 0 ≤ ret ↔ 0 < ret by omega, ← defined]
          cases report .unset (entry.data ++ ['\x00']) entry.data.length ret <;> simp
    · rw [handle_update_script_unparsed readable (Bool.not_eq_true _ ▸ parses)]
      exact iff_of_true (Option.some_ne_none _) fun _ parsed => absurd parsed parses
  · obtain ⟨code, data, log, read, negative⟩ := read_data_fails readable
    rw [handle_update_script, read]
    dsimp only
    rw [if_pos negative]
    exact iff_of_true (Option.some_ne_none _) fun reads => absurd reads readable

theorem handle_update_script_result {o : Outcomes ZipArchive} {entry : Option Entry} {g_package : Option ZipArchive}
    {ended : Ended ZipArchive} (ran : handle_update_script o entry g_package = some ended) :
    ended.result = .INSTALL_SUCCESS ∨ ended.result = .INSTALL_ERROR ∨ ended.result = .INSTALL_UPDATE_SCRIPT_MISSING := by
  unfold handle_update_script at ran
  split at ran
  · cases ran
  dsimp only at ran
  split at ran
  · cases ran
    exact .inr (.inr rfl)
  split at ran
  · cases ran
    exact .inr (.inl rfl)
  split at ran
  · obtain ⟨line, _, rfl⟩ := Option.map_eq_some_iff.mp ran
    exact .inr (.inl rfl)
  · cases ran
    exact .inl rfl

/-! ### Packages -/

/-- What the updater writes is read only if it can be extracted. -/
def BinaryRuns (r : Run) : Prop :=
  r.creat = true → r.mzExtractZipEntryToFile = true → ∀ piece ∈ pieces '\n' 1023 [] r.from_child, Safe piece

/-- There is a script, if it comes to that. -/
def ScriptRuns (r : Run) (zip : ZipArchive) : Prop :=
  r.strdup = true → ∃ entry, zip.mzFindZipEntry ASSUMED_UPDATE_SCRIPT_NAME = some entry ∧ Runs r.script entry (some zip)

variable {r : Run} {path : List Char} {zip : ZipArchive}

theorem try_update_binary_missing (missing : zip.mzFindZipEntry ASSUMED_UPDATE_BINARY_NAME = none) :
    try_update_binary r path zip = some (.INSTALL_UPDATE_BINARY_MISSING, []) := by
  rw [try_update_binary, missing]

theorem try_update_binary_result {entry : Entry} (found : zip.mzFindZipEntry ASSUMED_UPDATE_BINARY_NAME = some entry)
    {result : Status} {effects : List Effect} (ran : try_update_binary r path zip = some (result, effects)) :
    result = .INSTALL_SUCCESS ∨ result = .INSTALL_ERROR := by
  rw [try_update_binary, found] at ran
  dsimp only at ran
  split at ran
  · cases ran
    exact .inr rfl
  split at ran
  · cases ran
    exact .inr rfl
  obtain ⟨told, _, same⟩ := Option.map_eq_some_iff.mp ran
  split at same
  · cases same
    exact .inr rfl
  · cases same
    exact .inl rfl

theorem try_update_binary_defined {entry : Entry} (found : zip.mzFindZipEntry ASSUMED_UPDATE_BINARY_NAME = some entry) :
    try_update_binary r path zip ≠ none ↔ BinaryRuns r := by
  rw [try_update_binary, found]
  unfold BinaryRuns
  dsimp only
  cases r.creat with
  | false => simp
  | true =>
    cases r.mzExtractZipEntryToFile with
    | false => simp
    | true =>
      rw [← loop_defined]
      cases command_loop r.from_child <;> simp

theorem handle_update_package_script (missing : zip.mzFindZipEntry ASSUMED_UPDATE_BINARY_NAME = none) (strdup : r.strdup = true)
    (g_package : Option ZipArchive) :
    handle_update_package r path zip g_package =
      (handle_update_script r.script (find_update_script zip) (some zip)).map fun ended =>
        ⟨if ended.result = .INSTALL_UPDATE_SCRIPT_MISSING then .INSTALL_ERROR else ended.result, none,
          logged [buf "Installing update...\n".toList] ++ [] ++ logged ended.log⟩ := by
  rw [handle_update_package, try_update_binary_missing missing, strdup]
  rfl

/-- It is clean if the updater runs, or else the script does. -/
theorem clean_iff (r : Run) (path : List Char) (zip : ZipArchive) (g_package : Option ZipArchive) :
    Clean r path zip g_package ↔
      if zip.mzFindZipEntry ASSUMED_UPDATE_BINARY_NAME = none then ScriptRuns r zip else BinaryRuns r := by
  unfold Clean
  by_cases missing : zip.mzFindZipEntry ASSUMED_UPDATE_BINARY_NAME = none
  · rw [if_pos missing]
    unfold ScriptRuns
    by_cases strdup : r.strdup = true
    · rw [handle_update_package_script missing strdup]
      simp only [strdup, true_implies, missing]
      cases script : zip.mzFindZipEntry ASSUMED_UPDATE_SCRIPT_NAME with
      | none =>
        rw [find_update_script, script]
        exact iff_of_false (by rintro ⟨_, absurd, _⟩; cases absurd) (by rintro ⟨_, absurd, _⟩; cases absurd)
      | some entry =>
        simp only [Option.some.injEq, exists_eq_left', ← handle_update_script_defined]
        rw [find_update_script, script]
        constructor
        · rintro ⟨installed, ran, _⟩ undefined
          rw [undefined] at ran
          cases ran
        · intro defined
          obtain ⟨ended, ran⟩ := Option.ne_none_iff_exists'.mp defined
          refine ⟨_, by rw [ran, Option.map_some], ?_, nofun, rfl⟩
          rcases handle_update_script_result ran with same | same | same <;> simp [same]
    · rw [handle_update_package, try_update_binary_missing missing]
      rw [Bool.not_eq_true] at strdup
      simp only [strdup]
      exact iff_of_true ⟨_, rfl, .inr rfl, fun _ _ => rfl, rfl⟩ nofun
  · rw [if_neg missing]
    obtain ⟨entry, found⟩ := Option.ne_none_iff_exists'.mp missing
    rw [← (try_update_binary_defined found : try_update_binary r path zip ≠ none ↔ BinaryRuns r), handle_update_package]
    constructor
    · rintro ⟨installed, ran, _⟩ undefined
      rw [undefined] at ran
      cases ran
    · intro defined
      obtain ⟨⟨result, effects⟩, ran⟩ := Option.ne_none_iff_exists'.mp defined
      have ended := try_update_binary_result found ran
      have other : result ≠ .INSTALL_UPDATE_BINARY_MISSING := by
        rcases ended with rfl | rfl <;> decide
      rw [ran]
      dsimp only
      rw [if_neg other]
      exact ⟨_, rfl, ended, fun absent => absurd absent missing, rfl⟩

/-- A package with a script is what `Packages` has for one with these commands. -/
theorem packages_agree {amend : Interpreter (Packages.Tracked ZipArchive)} {g_package : Option ZipArchive} {entry : Entry}
    {installed : Installed}
    (missing : zip.mzFindZipEntry ASSUMED_UPDATE_BINARY_NAME = none)
    (found : zip.mzFindZipEntry ASSUMED_UPDATE_SCRIPT_NAME = some entry) {readable : Bool}
    (reads : readable = true ↔ Readable r.script entry) {commands : Packages.Commands ZipArchive}
    (runs : ∀ g_package, ∃ ret behind,
      amend.execCommandList (Packages.exec_commands amend zip commands) ⟨g_package, []⟩ = some (ret, behind) ∧
        r.script.execCommandList entry.data g_package = (ret, behind.g_package))
    (ran : handle_update_package r path zip g_package = some installed) :
    ∃ behind, Packages.handle_update_package amend zip
        (.script r.strdup readable (r.script.parseAmendScript entry.data) commands) ⟨g_package, []⟩ =
          some (installed.result, behind) ∧ behind.g_package = installed.g_package := by
  by_cases strdup : r.strdup = true
  · rw [handle_update_package_script missing strdup, find_update_script, found] at ran
    obtain ⟨ended, script_ran, rfl⟩ := Option.map_eq_some_iff.mp ran
    by_cases reads_entry : Readable r.script entry
    · by_cases parses : r.script.parseAmendScript entry.data = true
      · obtain ⟨ret, behind, commands_ran, same⟩ := runs (some zip)
        rw [handle_update_script_ran reads_entry parses same] at script_ran
        rw [strdup, reads.mpr reads_entry, parses, Packages.script_runs amend commands_ran]
        refine ⟨{ behind with g_package := none }, ?_, rfl⟩
        split at script_ran
        · rename_i failed
          obtain ⟨line, _, rfl⟩ := Option.map_eq_some_iff.mp script_ran
          simp [failed]
        · rename_i succeeded
          cases script_ran
          simp [not_not.mp succeeded]
      · rw [Packages.script_fails amend fun all => parses all.2.2]
        rw [Bool.not_eq_true] at parses
        rw [handle_update_script_unparsed reads_entry parses] at script_ran
        cases script_ran
        exact ⟨_, rfl, rfl⟩
    · rw [Packages.script_fails amend fun all => reads_entry (reads.mp all.2.1)]
      obtain ⟨code, data, log, read, negative⟩ := read_data_fails reads_entry
      rw [handle_update_script, read] at script_ran
      dsimp only at script_ran
      rw [if_pos negative] at script_ran
      cases script_ran
      exact ⟨_, rfl, rfl⟩
  · rw [Packages.script_fails amend fun all => strdup all.1]
    rw [Bool.not_eq_true] at strdup
    rw [handle_update_package, try_update_binary_missing missing, strdup] at ran
    cases ran
    exact ⟨_, rfl, rfl⟩

/-- An archive with other files only. -/
def other_files : ZipArchive where
  mzFindZipEntry := fun name => if name = "system/app/Launcher.apk" then some ⟨"PK".toList, by decide⟩ else none

def all_succeeds : Run where
  script := ⟨true, true, fun _ => true, fun _ g_package => (0, g_package)⟩
  creat := true
  mzExtractZipEntryToFile := true
  from_child := []
  status := ⟨true, 0⟩
  strdup := true

theorem neither_entry : ¬Clean all_succeeds "/sdcard/update.zip".toList other_files none := by
  rintro ⟨installed, ran, _⟩
  rw [handle_update_package_script (by decide) rfl] at ran
  have script : find_update_script other_files = none := by decide
  rw [script] at ran
  cases ran

end SteamRecovery.UpdatePackage
