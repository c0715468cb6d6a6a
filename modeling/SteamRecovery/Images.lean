import SteamRecovery.Amend
import SteamRecovery.Firmware
import SteamRecovery.ScriptCommands

/-!
The commands that write an image from a package (`commands.c`). An entry is inflated
piece by piece, and how it is cut makes no difference. `write_radio_image` and
`write_hboot_image` only keep the image until the end (`remember_firmware_update` in
`firmware.c`), and with `BOARD_HAS_NO_MISC_PARTITION` not even that: of all scripts that
run, those of packages in packages too, the first complete image is kept, and every later
one fails (`images_remembered`). `write_raw_image` writes to the partition at once, and 0
is returned exactly where all of the image went there (`write_raw_image_iff`).
-/
namespace SteamRecovery.Images
open SteamRecovery.Amend (Interpreter Runs numbered)
open SteamRecovery.Devices (CInt)
open SteamRecovery.Firmware (Update)
open SteamRecovery.Packages (is_package_root_path)
open SteamRecovery.ScriptCommands (package_entry)

/-- An entry of a package: its length in the directory, the pieces that come out of it,
    and whether it can be inflated to its end. -/
structure ImageEntry where
  uncompLen : Nat
  pieces : List (List Char)
  inflates : Bool
  fits : uncompLen < 2 ^ 31
  pieces_fit : ∀ piece ∈ pieces, piece.length < 2 ^ 31

def ImageEntry.bytes (entry : ImageEntry) : List Char := entry.pieces.flatten

/-- The function is called for each piece, until it returns false. `none` is a write to
    memory that is not its own. -/
def called_for_each {Context : Type} (processFunction : Context → List Char → Option (Bool × Context))
    (inflates : Bool) : List (List Char) → Context → Option (Bool × Context)
  | [], context => some (inflates, context)
  | piece :: rest, context =>
    match processFunction context piece with
    | none => none
    | some (false, context) => some (false, context)
    | some (true, context) => called_for_each processFunction inflates rest context

/-- What is called of minzip, and what it does by its documentation. -/
structure Minzip where
  mzProcessZipEntryContents : {Context : Type} → (Context → List Char → Option (Bool × Context)) →
    ImageEntry → Context → Option (Bool × Context)
  calls : ∀ {Context : Type} (processFunction : Context → List Char → Option (Bool × Context)) (entry : ImageEntry)
    (context : Context), mzProcessZipEntryContents processFunction entry context =
      called_for_each processFunction entry.inflates entry.pieces context

variable (z : Minzip)

/-! ### Firmware images -/

structure FirmwareContext where
  total_bytes : CInt
  done_bytes : CInt
  data : List Char

/-- `memcpy(block + start, piece, piece.length)` -/
def memcpy (block : List Char) (start : Nat) (piece : List Char) : Option (List Char) :=
  if start + piece.length ≤ block.length then some (block.take start ++ piece ++ block.drop (start + piece.length)) else none

/-- The sum of the bytes is one of 32 bits. -/
def firmware_fn (context : FirmwareContext) (piece : List Char) : Option (Bool × FirmwareContext) :=
  if context.done_bytes + BitVec.ofNat 32 piece.length > context.total_bytes then some (false, context)
  else
    (memcpy context.data context.done_bytes.toNat piece).map fun data =>
      (true, { context with data := data, done_bytes := context.done_bytes + BitVec.ofNat 32 piece.length })

def remember_firmware_update (type data : List Char) (pending : Option Update) : Int × Option Update :=
  match pending with
  | some update => (-1, some update)
  | none => (0, some ⟨type, data⟩)

def firmware_update_pending (pending : Option Update) : Bool :=
  match pending with
  | some update => 0 < update.data.length
  | none => false

/-- A command with its arguments, what is found in the package that is registered when it is
    run, whether memory can be had, and what is in it. -/
structure WriteImage where
  name : String
  argv : List String
  mzFindZipEntry : String → Option ImageEntry
  malloc : Bool
  fresh : Nat → Char

def image_type (name : String) : Option (List Char) :=
  if name = "write_radio_image" then some "radio".toList
  else if name = "write_hboot_image" then some "hboot".toList
  else none

/-- From the entry on. Without `misc`, the image that was loaded is not remembered. -/
def load_image (misc : Bool) (c : WriteImage) (type : List Char) (entry : ImageEntry) (pending : Option Update) :
    Option (Int × Option Update) :=
  if !c.malloc then some (1, pending)
  else
    let context : FirmwareContext := ⟨BitVec.ofNat 32 entry.uncompLen, 0, (List.range entry.uncompLen).map c.fresh⟩
    (z.mzProcessZipEntryContents firmware_fn entry context).map fun (ok, context) =>
      if !ok || context.done_bytes ≠ context.total_bytes then (1, pending)
      else if !misc then (0, pending)
      else
        let (code, pending) := remember_firmware_update type context.data pending
        (if code ≠ 0 then 1 else 0, pending)

/-- What is returned, and the update that is pending then. -/
def cmd_write_firmware_image (misc : Bool) (c : WriteImage) (pending : Option Update) : Option (Int × Option Update) :=
  match c.argv with
  | [path] =>
    match image_type c.name with
    | none => some (1, pending)
    | some type =>
      if !is_package_root_path path then some (1, pending)
      else
        match (package_entry path).bind c.mzFindZipEntry with
        | none => some (1, pending)
        | some entry => load_image z misc c type entry pending
  | _ => some (1, pending)

variable (amend : Interpreter (Option Update)) (misc : Bool)

/-- A command of a script: one that has nothing to do with images, and its code, one that
    keeps an image, or one that installs a package, whose script is run. -/
inductive ScriptCommand where
  | other (code : Int)
  | image (c : WriteImage)
  | install_zip (script : List ScriptCommand)

mutual
def exec_command : ScriptCommand → Runs (Option Update)
  | .other code => fun pending => some (code, pending)
  | .image c => cmd_write_firmware_image z misc c
  | .install_zip script => fun pending =>
    (amend.execCommandList (exec_commands script) pending).map fun (ret, pending) => (if ret = 0 then 0 else 1, pending)

def exec_commands : List ScriptCommand → List (Runs (Option Update))
  | [] => []
  | command :: rest => exec_command command :: exec_commands rest
end

/-- The scripts that are run one after the other, each with the code it returns. -/
def exec_scripts (pending : Option Update) : List (List ScriptCommand) → Option (List Int × Option Update)
  | [] => some ([], pending)
  | script :: rest =>
    match amend.execCommandList (exec_commands z amend misc script) pending with
    | none => none
    | some (code, pending) => (exec_scripts pending rest).map fun (codes, pending) => (code :: codes, pending)

/-! ### What is loaded -/

/-- The image that a command loads, where it is complete. -/
def loaded (c : WriteImage) : Option Update :=
  match c.argv, image_type c.name with
  | [path], some type =>
    if is_package_root_path path = true ∧ c.malloc = true then
      match (package_entry path).bind c.mzFindZipEntry with
      | some entry =>
        if entry.inflates = true ∧ entry.bytes.length = entry.uncompLen then some ⟨type, entry.bytes⟩ else none
      | none => none
    else none
  | _, _ => none

/-- What a command returns that loaded this image, or none, and what is pending then. -/
def remembered (pending : Option Update) : Option Update → Int × Option Update
  | none => (1, pending)
  | some update =>
    if misc = true then
      match pending with
      | none => (0, some update)
      | some first => (1, some first)
    else (0, pending)

/-- The bytes so far are in the block, and the rest of it is as it was. -/
structure Filled (block : List Char) (bytes : List Char) (context : FirmwareContext) : Prop where
  total : context.total_bytes.toNat = block.length
  done : context.done_bytes.toNat = bytes.length
  within : bytes.length ≤ block.length
  data : context.data = bytes ++ block.drop bytes.length

variable {block bytes : List Char} {context : FirmwareContext}

theorem firmware_fn_filled (small : block.length < 2 ^ 31) (filled : Filled block bytes context) {piece : List Char}
    (short : piece.length < 2 ^ 31) :
    if bytes.length + piece.length ≤ block.length then
      ∃ next, firmware_fn context piece = some (true, next) ∧ Filled block (bytes ++ piece) next
    else firmware_fn context piece = some (false, context) := by
  obtain ⟨total, done, within, data⟩ := filled
  have sum : (context.done_bytes + BitVec.ofNat 32 piece.length).toNat = bytes.length + piece.length := by
    rw [BitVec.toNat_add, BitVec.toNat_ofNat, done, Nat.mod_eq_of_lt (a := piece.length) (by omega), Nat.mod_eq_of_lt (by omega)]
  have larger : context.done_bytes + BitVec.ofNat 32 piece.length > context.total_bytes ↔
      block.length < bytes.length + piece.length := by
    rw [gt_iff_lt, BitVec.lt_def, sum, total]
  split
  · rename_i room
    have size : context.data.length = block.length := by
      rw [data, List.length_append, List.length_drop]
      omega
    have copied : memcpy context.data context.done_bytes.toNat piece =
        some (bytes ++ piece ++ block.drop (bytes.length + piece.length)) := by
      rw [memcpy, if_pos (by omega), done, data, List.take_left, ← List.drop_drop, List.drop_left, List.drop_drop]
    have fits : ¬(context.done_bytes + BitVec.ofNat 32 piece.length > context.total_bytes) :=
      mt larger.mp (Nat.not_lt.mpr room)
    refine ⟨⟨context.total_bytes, context.done_bytes + BitVec.ofNat 32 piece.length,
      bytes ++ piece ++ block.drop (bytes.length + piece.length)⟩, ?_, total, ?_, ?_, ?_⟩
    · rw [firmware_fn, if_neg fits, copied]
      rfl
    · rw [List.length_append]
      exact sum
    · rwa [List.length_append]
    · rw [List.length_append]
  · rename_i full
    rw [firmware_fn, if_pos (larger.mpr (Nat.not_le.mp full))]

theorem process_filled (small : block.length < 2 ^ 31) (filled : Filled block bytes context) {pieces : List (List Char)}
    (short : ∀ piece ∈ pieces, piece.length < 2 ^ 31) (inflates : Bool) :
    ∃ ok last, called_for_each firmware_fn inflates pieces context = some (ok, last) ∧
      (ok = true ↔ inflates = true ∧ bytes.length + pieces.flatten.length ≤ block.length) ∧
      (ok = true → Filled block (bytes ++ pieces.flatten) last) := by
  induction pieces generalizing bytes context with
  | nil =>
    refine ⟨inflates, context, rfl, ?_, ?_⟩
    · exact (and_iff_left filled.within).symm
    · intro _
      rwa [List.flatten_nil, List.append_nil]
  | cons piece rest ih =>
    rw [List.forall_mem_cons] at short
    have stepped := firmware_fn_filled small filled short.1
    by_cases room : bytes.length + piece.length ≤ block.length
    · rw [if_pos room] at stepped
      obtain ⟨next, ran, next_filled⟩ := stepped
      obtain ⟨ok, last, rest_ran, ok_iff, rest_filled⟩ := ih next_filled short.2
      refine ⟨ok, last, ?_, ?_, ?_⟩
      · rw [called_for_each, ran]
        exact rest_ran
      · rw [ok_iff, List.flatten_cons, List.length_append, List.length_append, Nat.add_assoc]
      · intro passed
        rw [List.flatten_cons, ← List.append_assoc]
        exact rest_filled passed
    · rw [if_neg room] at stepped
      refine ⟨false, context, ?_, ?_, fun passed => absurd passed Bool.false_ne_true⟩
      · rw [called_for_each, stepped]
      · refine iff_of_false Bool.false_ne_true ?_
        rw [List.flatten_cons, List.length_append]
        omega

/-- The block holds the whole image, or the command fails. -/
theorem load_image_eq {c : WriteImage} (allocated : c.malloc = true) (type : List Char) (entry : ImageEntry)
    (pending : Option Update) :
    load_image z misc c type entry pending = some (remembered misc pending
      (if entry.inflates = true ∧ entry.bytes.length = entry.uncompLen then some ⟨type, entry.bytes⟩ else none)) := by
  have small : ((List.range entry.uncompLen).map c.fresh).length < 2 ^ 31 := by
    rw [List.length_map, List.length_range]
    exact entry.fits
  have start : Filled ((List.range entry.uncompLen).map c.fresh) []
      ⟨BitVec.ofNat 32 entry.uncompLen, 0, (List.range entry.uncompLen).map c.fresh⟩ := by
    refine ⟨?_, rfl, Nat.zero_le _, rfl⟩
    rw [List.length_map, List.length_range]
    exact Nat.mod_eq_of_lt (Nat.lt_trans entry.fits (by decide))
  obtain ⟨ok, last, ran, ok_iff, filled⟩ := process_filled small start entry.pieces_fit entry.inflates
  rw [List.length_map, List.length_range, List.length_nil, Nat.zero_add] at ok_iff
  simp only [load_image, allocated, Bool.not_true, Bool.false_eq_true, if_false, z.calls, ran, Option.map_some]
  by_cases passed : ok = true
  · obtain ⟨total, done, within, data⟩ := filled passed
    rw [List.length_map, List.length_range] at total
    rw [List.nil_append] at done data within
    have whole : last.done_bytes = last.total_bytes ↔ entry.bytes.length = entry.uncompLen := by
      rw [← BitVec.toNat_inj, done, total, ImageEntry.bytes]
    by_cases complete : entry.bytes.length = entry.uncompLen
    · have all : last.data = entry.bytes := by
        rw [data, ImageEntry.bytes, List.drop_eq_nil_of_le, List.append_nil]
        rw [List.length_map, List.length_range]
        exact Nat.le_of_eq complete.symm
      cases misc <;> cases pending <;>
        simp [passed, whole.mpr complete, remember_firmware_update, remembered, all, (ok_iff.mp passed).1, complete]
    · simp [mt whole.mp complete, complete, remembered]
  · have incomplete : ¬(entry.inflates = true ∧ entry.bytes.length = entry.uncompLen) := by
      rintro ⟨inflates, complete⟩
      exact passed (ok_iff.mpr ⟨inflates, Nat.le_of_eq complete⟩)
    have failed : ok = false := Bool.eq_false_iff.mpr passed
    rw [if_neg incomplete]
    simp [failed, remembered]

/-- A command with other than one argument fails. -/
theorem wrong_arguments {c : WriteImage} (other : ∀ path, c.argv ≠ [path]) (pending : Option Update) :
    cmd_write_firmware_image z misc c pending = some (1, pending) ∧ loaded c = none := by
  cases args : c.argv with
  | nil => simp [cmd_write_firmware_image, loaded, args]
  | cons path rest =>
    cases rest with
    | nil => exact absurd args (other path)
    | cons second more => simp [cmd_write_firmware_image, loaded, args]

/-- A command does with its image what `remembered` says, where it is complete, and else fails. -/
theorem cmd_write_firmware_image_eq (c : WriteImage) (pending : Option Update) :
    cmd_write_firmware_image z misc c pending = some (remembered misc pending (loaded c)) := by
  by_cases one : ∃ path, c.argv = [path]
  · obtain ⟨path, args⟩ := one
    simp only [cmd_write_firmware_image, loaded, args]
    cases typed : image_type c.name with
    | none => rfl
    | some type =>
      by_cases inside : is_package_root_path path = true
      · cases found : (package_entry path).bind c.mzFindZipEntry with
        | none => simp [inside, found, remembered]
        | some entry =>
          by_cases allocated : c.malloc = true
          · simp only [inside, allocated, Bool.not_true, Bool.false_eq_true, if_false, and_self, if_true, found,
              load_image_eq z misc allocated]
          · simp [inside, allocated, load_image, remembered]
      · simp [inside, remembered]
  · obtain ⟨failed, nothing⟩ := wrong_arguments z misc (fun path args => one ⟨path, args⟩) pending
    rw [failed, nothing]
    rfl

/-! ### Scripts -/

/-- What a script does, with that of the packages that it installs. -/
inductive Step where
  | other (code : Int)
  | image (c : WriteImage)

mutual
def command_steps : ScriptCommand → List Step
  | .other code => [.other code]
  | .image c => [.image c]
  | .install_zip script => steps script

def steps : List ScriptCommand → List Step
  | [] => []
  | command :: rest => command_steps command ++ steps rest
end

/-- The image that is kept by these steps, where none is pending. -/
def first_image : List Step → Option Update
  | [] => none
  | .other code :: rest => if code = 0 then first_image rest else none
  | .image c :: _ => loaded c

/-- The image commands among these steps. -/
def images (steps : List Step) : List WriteImage :=
  steps.filterMap fun step =>
    match step with
    | .other _ => none
    | .image c => some c

/-- The commands that have nothing to do with images all return 0. -/
def OthersPass (steps : List Step) : Prop := ∀ code, .other code ∈ steps → code = 0

theorem othersPass_cons_other {code : Int} {rest : List Step} :
    OthersPass (.other code :: rest) ↔ code = 0 ∧ OthersPass rest := by
  simp [OthersPass]

theorem othersPass_cons_image {c : WriteImage} {rest : List Step} :
    OthersPass (.image c :: rest) ↔ OthersPass rest := by
  simp [OthersPass]

/-- The code of a step, and what is pending then. -/
def did (pending : Option Update) : Step → Int × Option Update
  | .other code => (code, pending)
  | .image c => remembered misc pending (loaded c)

/-- All steps pass, and what is pending after the last one that was done. -/
def outcome (pending : Option Update) : List Step → Bool × Option Update
  | [] => (true, pending)
  | step :: rest =>
    if (did misc pending step).1 = 0 then outcome (did misc pending step).2 rest else (false, (did misc pending step).2)

theorem outcome_append (pending : Option Update) (before rest : List Step) :
    outcome misc pending (before ++ rest) =
      if (outcome misc pending before).1 = true then outcome misc (outcome misc pending before).2 rest
      else outcome misc pending before := by
  induction before generalizing pending with
  | nil => rfl
  | cons step later ih =>
    rw [List.cons_append, outcome, outcome]
    by_cases passed : (did misc pending step).1 = 0
    · rw [if_pos passed, if_pos passed, ih]
    · rw [if_neg passed, if_neg passed]
      rfl

/-- A command or a script was run: it passed where all of its steps do. -/
def Ran (run : Runs (Option Update)) (steps : List Step) : Prop :=
  ∀ pending, ∃ code, run pending = some (code, (outcome misc pending steps).2) ∧
    (code = 0 ↔ (outcome misc pending steps).1 = true)

theorem ran_step {run : Runs (Option Update)} {step : Step} (one : ∀ pending, run pending = some (did misc pending step)) :
    Ran misc run [step] := by
  intro pending
  refine ⟨(did misc pending step).1, ?_, ?_⟩
  · rw [one, outcome]
    split <;> rfl
  · rw [outcome]
    by_cases passed : (did misc pending step).1 = 0 <;> simp [passed, outcome]

/-- What a package returns is what its script does. -/
theorem ran_install_zip {script : List ScriptCommand} {within : List Step}
    (ran : Ran misc (amend.execCommandList (exec_commands z amend misc script)) within) :
    Ran misc (exec_command z amend misc (.install_zip script)) within := by
  intro pending
  obtain ⟨ret, script_ran, passed⟩ := ran pending
  refine ⟨if ret = 0 then 0 else 1, ?_, ?_⟩
  · simp only [exec_command, script_ran, Option.map_some]
  · rw [← passed]
    by_cases none : ret = 0 <;> simp [none]

theorem ran_cons {run : Runs (Option Update)} {rest : List (Runs (Option Update))} {first later : List Step} (first_ran : Ran misc run first)
    (rest_ran : Ran misc (amend.execCommandList rest) later) :
    Ran misc (amend.execCommandList (run :: rest)) (first ++ later) := by
  intro pending
  obtain ⟨code, ran, passed⟩ := first_ran pending
  rw [outcome_append]
  by_cases zero : code = 0
  · subst code
    obtain ⟨ret, later_ran, later_passed⟩ := rest_ran (outcome misc pending first).2
    obtain ⟨line, all_ran, line_iff⟩ := amend.passes ran later_ran
    rw [if_pos (passed.mp rfl)]
    exact ⟨line, all_ran, line_iff.trans later_passed⟩
  · obtain ⟨line, failed, not_zero⟩ := amend.fails rest ran zero
    rw [if_neg (mt passed.mpr zero)]
    exact ⟨line, failed, iff_of_false not_zero (mt passed.mpr zero)⟩

mutual
theorem exec_command_ran : ∀ command : ScriptCommand,
    Ran misc (exec_command z amend misc command) (command_steps command)
  | .other code => by
    rw [command_steps]
    exact ran_step misc fun pending => by rw [exec_command, did]
  | .image c => by
    rw [command_steps]
    exact ran_step misc fun pending => by rw [exec_command, did, cmd_write_firmware_image_eq]
  | .install_zip script => by
    rw [command_steps]
    exact ran_install_zip z amend misc (exec_commands_ran script)

theorem exec_commands_ran : ∀ script : List ScriptCommand,
    Ran misc (amend.execCommandList (exec_commands z amend misc script)) (steps script)
  | [] => by
    intro pending
    rw [exec_commands, steps]
    exact ⟨0, amend.ends pending, iff_of_true rfl rfl⟩
  | command :: rest => by
    rw [exec_commands, steps]
    exact ran_cons amend misc (exec_command_ran command) (exec_commands_ran rest)
end

/-- Where an update is pending, it stays, and steps with an image fail. -/
theorem outcome_pending (update : Update) (steps : List Step) :
    (outcome true (some update) steps).2 = some update ∧
      ((outcome true (some update) steps).1 = true ↔ OthersPass steps ∧ images steps = []) := by
  induction steps with
  | nil => simp [outcome, OthersPass, images]
  | cons step rest ih =>
    cases step with
    | other code =>
      rw [outcome, othersPass_cons_other]
      by_cases passed : code = 0
      · simpa [did, passed, images] using ih
      · simp [did, passed]
    | image c =>
      rw [outcome]
      cases complete : loaded c <;> simp [did, complete, remembered, images]

/-- Where none is pending, the first image is kept, and another one fails. -/
theorem outcome_fresh (steps : List Step) :
    (outcome true none steps).2 = first_image steps ∧
      ((outcome true none steps).1 = true ↔
        OthersPass steps ∧ (images steps = [] ∨ ∃ c update, images steps = [c] ∧ loaded c = some update)) := by
  induction steps with
  | nil => simp [outcome, OthersPass, images, first_image]
  | cons step rest ih =>
    cases step with
    | other code =>
      rw [outcome, othersPass_cons_other]
      by_cases passed : code = 0
      · simpa [did, passed, images, first_image] using ih
      · simp [did, passed, first_image]
    | image c =>
      rw [outcome, othersPass_cons_image]
      cases complete : loaded c with
      | none => simp [did, complete, remembered, images, first_image]
      | some update =>
        obtain ⟨kept, passes⟩ := outcome_pending update rest
        simp [did, complete, remembered, images, first_image, kept, passes]

/-- Without a misc partition nothing is kept, and every image that is complete passes. -/
theorem outcome_forgotten (pending : Option Update) (steps : List Step) :
    (outcome false pending steps).2 = pending ∧
      ((outcome false pending steps).1 = true ↔ OthersPass steps ∧ ∀ c ∈ images steps, loaded c ≠ none) := by
  induction steps with
  | nil => simp [outcome, OthersPass, images]
  | cons step rest ih =>
    cases step with
    | other code =>
      rw [outcome, othersPass_cons_other]
      by_cases passed : code = 0
      · simpa [did, passed, images] using ih
      · simp [did, passed]
    | image c =>
      rw [outcome, othersPass_cons_image]
      cases complete : loaded c with
      | none => simp [did, complete, remembered, images]
      | some update => simpa [did, complete, remembered, images] using ih

/-- What a script keeps, where none is pending. -/
def kept (script : List ScriptCommand) : Option Update := if misc = true then first_image (steps script) else none

/-- The images of a script are complete, and where they are remembered, there is one at most
    and none was kept before. -/
def ImagesPass (before : Option Update) (steps : List Step) : Prop :=
  if misc = true then
    images steps = [] ∨ before = none ∧ ∃ c update, images steps = [c] ∧ loaded c = some update
  else ∀ c ∈ images steps, loaded c ≠ none

theorem outcome_iff (pending : Option Update) (script : List ScriptCommand) :
    (outcome misc pending (steps script)).2 = pending.or (kept misc script) ∧
      ((outcome misc pending (steps script)).1 = true ↔ OthersPass (steps script) ∧ ImagesPass misc pending (steps script)) := by
  cases misc with
  | false => simpa [kept, ImagesPass] using outcome_forgotten pending (steps script)
  | true =>
    cases pending with
    | none => simpa [kept, ImagesPass] using outcome_fresh (steps script)
    | some update => simpa [kept, ImagesPass] using outcome_pending update (steps script)

theorem execCommandList_eq (pending : Option Update) (script : List ScriptCommand) :
    ∃ code, amend.execCommandList (exec_commands z amend misc script) pending = some (code, pending.or (kept misc script)) ∧
      (code = 0 ↔ OthersPass (steps script) ∧ ImagesPass misc pending (steps script)) := by
  obtain ⟨code, ran, passed⟩ := exec_commands_ran z amend misc script pending
  obtain ⟨left, passes⟩ := outcome_iff misc pending script
  rw [left] at ran
  exact ⟨code, ran, passed.trans passes⟩

theorem exec_scripts_eq (pending : Option Update) (scripts : List (List ScriptCommand)) :
    ∃ codes, exec_scripts z amend misc pending scripts = some (codes, pending.or (scripts.findSome? (kept misc))) := by
  induction scripts generalizing pending with
  | nil => exact ⟨[], by simp [exec_scripts]⟩
  | cons script rest ih =>
    obtain ⟨code, ran, _⟩ := execCommandList_eq z amend misc pending script
    obtain ⟨codes, rest_ran⟩ := ih (pending.or (kept misc script))
    refine ⟨code :: codes, ?_⟩
    simp only [exec_scripts, ran, rest_ran, Option.map_some, Option.or_assoc, List.findSome?_cons]
    cases kept misc script <;> rfl

theorem exec_scripts_append {pending between : Option Update} {before : List (List ScriptCommand)} {codes : List Int}
    (ran : exec_scripts z amend misc pending before = some (codes, between)) (script : List ScriptCommand) :
    exec_scripts z amend misc pending (before ++ [script]) =
      (amend.execCommandList (exec_commands z amend misc script) between).map fun (code, pending) =>
        (codes ++ [code], pending) := by
  induction before generalizing pending codes with
  | nil =>
    cases ran
    simp only [List.nil_append, exec_scripts]
    cases amend.execCommandList (exec_commands z amend misc script) between <;> rfl
  | cons first rest ih =>
    simp only [exec_scripts] at ran
    cases first_ran : amend.execCommandList (exec_commands z amend misc first) pending with
    | none => simp [first_ran] at ran
    | some result =>
      obtain ⟨code, next⟩ := result
      rw [first_ran] at ran
      obtain ⟨⟨later, last⟩, rest_ran, same⟩ := Option.map_eq_some_iff.mp ran
      obtain ⟨rfl, rfl⟩ := Prod.mk.inj same
      simp only [List.cons_append, exec_scripts, first_ran, ih rest_ran, Option.map_map]
      rfl

/-- Of all scripts, the first image is pending, where images are remembered at all. A script
    succeeds exactly where its other commands do, in the packages that it installs too, and
    it has no image, or one that is complete, and none was kept before. -/
theorem images_remembered (before : List (List ScriptCommand)) (script : List ScriptCommand) :
    ∃ codes code, exec_scripts z amend misc none (before ++ [script]) =
        some (codes ++ [code], (before ++ [script]).findSome? (kept misc)) ∧
      (code = 0 ↔ OthersPass (steps script) ∧ ImagesPass misc (before.findSome? (kept misc)) (steps script)) := by
  obtain ⟨codes, ran⟩ := exec_scripts_eq z amend misc none before
  obtain ⟨code, script_ran, code_iff⟩ := execCommandList_eq z amend misc (before.findSome? (kept misc)) script
  rw [Option.none_or] at ran
  refine ⟨codes, code, ?_, code_iff⟩
  rw [exec_scripts_append z amend misc ran, script_ran, List.findSome?_append]
  cases before.findSome? (kept misc) <;> cases first : kept misc script <;> simp [first]

def inflated : Minzip where
  mzProcessZipEntryContents := fun processFunction entry => called_for_each processFunction entry.inflates entry.pieces
  calls := fun _ _ _ => rfl

/-- An entry that comes out in two pieces. -/
def two_pieces (first second : Char) : ImageEntry where
  uncompLen := 2
  pieces := [[first], [second]]
  inflates := true
  fits := by decide
  pieces_fit := by simp

def write_image (name path : String) (entry : ImageEntry) : WriteImage where
  name := name
  argv := ["PACKAGE:" ++ path]
  mzFindZipEntry := fun found => if found = path then some entry else none
  malloc := true
  fresh := fun _ => '?'

/-- A script keeps its image, and the package that it installs is refused another one. -/
theorem nested_image_refused :
    ∃ codes code, exec_scripts inflated numbered true none
        ([[.other 0]] ++ [[.image (write_image "write_radio_image" "radio.img" (two_pieces 'a' 'b')),
          .install_zip [.other 0, .image (write_image "write_hboot_image" "hboot.img" (two_pieces 'c' 'd'))]]]) =
        some (codes ++ [code], some ⟨"radio".toList, "ab".toList⟩) ∧ code ≠ 0 := by
  obtain ⟨codes, code, ran, code_iff⟩ := images_remembered inflated numbered true [[.other 0]]
    [.image (write_image "write_radio_image" "radio.img" (two_pieces 'a' 'b')),
      .install_zip [.other 0, .image (write_image "write_hboot_image" "hboot.img" (two_pieces 'c' 'd'))]]
  refine ⟨codes, code, ran, ?_⟩
  intro zero
  obtain ⟨_, none_kept | ⟨_, c, update, one, _⟩⟩ := code_iff.mp zero
  · cases none_kept
  · cases one

/-- Nothing is handed to the bootloader where no update is pending. -/
theorem not_pending {update : Option Update} (nothing : firmware_update_pending update = false) (o : Firmware.Outcomes)
    (send_intent : Option (List Char)) : Firmware.maybe_install_firmware_update o update send_intent = Routines.done := by
  cases update with
  | none => rfl
  | some update =>
    have empty : update.data = [] := by simpa [firmware_update_pending] using nothing
    simp [Firmware.maybe_install_firmware_update, empty]

/-! ### Raw images -/

/-- What is done to a partition. -/
inductive RawEvent where
  | opened
  | wrote (piece : List Char) (all : Bool)
  | erased (pos : Int)
  | closed (code : Int)
  deriving DecidableEq

structure WriteRaw where
  argv : List String
  mzFindZipEntry : String → Option ImageEntry
  ensure_root_path_unmounted : Int
  get_root_mtd_partition : Bool
  mtd_write_partition : Bool
  /-- The call with this number writes all of its data. -/
  mtd_write_data : Nat → Bool
  mtd_erase_blocks : Int
  mtd_write_close : Int

/-- The context is what was done so far, the opening included. -/
def write_raw_image_process_fn (c : WriteRaw) (context : List RawEvent) (piece : List Char) :
    Option (Bool × List RawEvent) :=
  let all := c.mtd_write_data (context.length - 1)
  some (all, context ++ [.wrote piece all])

def write_entry (c : WriteRaw) (entry : ImageEntry) : Option (Int × List RawEvent) :=
  (z.mzProcessZipEntryContents (write_raw_image_process_fn c) entry [.opened]).map fun (ok, context) =>
    if !ok then (1, context ++ [.closed c.mtd_write_close])
    else
      let context := context ++ [.erased c.mtd_erase_blocks]
      if c.mtd_erase_blocks = -1 then (-1, context ++ [.closed c.mtd_write_close])
      else (if c.mtd_write_close ≠ 0 then -1 else 0, context ++ [.closed c.mtd_write_close])

def cmd_write_raw_image (c : WriteRaw) : Option (Int × List RawEvent) :=
  match c.argv with
  | [src_root_path, _] =>
    if !is_package_root_path src_root_path then some (255, [])
    else
      match (package_entry src_root_path).bind c.mzFindZipEntry with
      | none => some (1, [])
      | some entry =>
        if c.ensure_root_path_unmounted < 0 then some (1, [])
        else if !c.get_root_mtd_partition then some (1, [])
        else if !c.mtd_write_partition then some (1, [])
        else write_entry z c entry
  | _ => some (1, [])

/-- The entry that a command is to write. -/
def source (c : WriteRaw) : Option ImageEntry :=
  match c.argv with
  | [src_root_path, _] =>
    if is_package_root_path src_root_path then (package_entry src_root_path).bind c.mzFindZipEntry else none
  | _ => none

/-- The pieces went to the partition one after the other, `from` being the number of the
    first. -/
theorem process_raw (c : WriteRaw) (inflates : Bool) (pieces : List (List Char)) (before : List RawEvent) :
    ∃ ok written, called_for_each (write_raw_image_process_fn c) inflates pieces (.opened :: before) =
        some (ok, .opened :: before ++ written) ∧
      (∀ event ∈ written, ∃ piece all, event = .wrote piece all) ∧
      (ok = true ↔ inflates = true ∧ ∀ k < pieces.length, c.mtd_write_data (before.length + k) = true) ∧
      (ok = true → written = pieces.map fun piece => .wrote piece true) := by
  induction pieces generalizing before with
  | nil => exact ⟨inflates, [], by simp [called_for_each], by simp, by simp, fun _ => rfl⟩
  | cons piece rest ih =>
    by_cases all : c.mtd_write_data before.length = true
    · obtain ⟨ok, written, ran, writes, ok_iff, whole⟩ := ih (before ++ [.wrote piece true])
      refine ⟨ok, .wrote piece true :: written, ?_, ?_, ?_, ?_⟩
      · simp only [called_for_each, write_raw_image_process_fn, List.length_cons, Nat.add_one_sub_one, all]
        rw [List.cons_append, ran, ← List.cons_append, List.append_assoc, List.singleton_append, List.cons_append]
      · rw [List.forall_mem_cons]
        exact ⟨⟨piece, true, rfl⟩, writes⟩
      · rw [ok_iff, List.length_append, List.length_singleton, List.length_cons]
        refine and_congr_right fun _ => ?_
        constructor
        · intro later k inside
          cases k with
          | zero => exact all
          | succ k =>
            have here := later k (by omega)
            rwa [Nat.add_assoc, Nat.add_comm 1 k] at here
        · intro every k inside
          have here := every (k + 1) (by omega)
          rwa [Nat.add_assoc, Nat.add_comm 1 k]
      · intro passed
        rw [List.map_cons, whole passed]
    · refine ⟨false, [.wrote piece false], ?_, ?_, ?_, fun passed => absurd passed Bool.false_ne_true⟩
      · have failed : c.mtd_write_data before.length = false := Bool.eq_false_iff.mpr all
        simp only [called_for_each, write_raw_image_process_fn, List.length_cons, Nat.add_one_sub_one, failed]
      · simp
      · refine iff_of_false Bool.false_ne_true ?_
        rintro ⟨_, every⟩
        exact all (every 0 (Nat.succ_pos _))

/-- Everything that a command needs succeeds. -/
structure RawSucceeds (c : WriteRaw) (entry : ImageEntry) : Prop where
  unmounted : 0 ≤ c.ensure_root_path_unmounted
  part : c.get_root_mtd_partition = true
  opens : c.mtd_write_partition = true
  inflates : entry.inflates = true
  writes : ∀ k < entry.pieces.length, c.mtd_write_data k = true
  erases : c.mtd_erase_blocks ≠ -1
  closes : c.mtd_write_close = 0

theorem write_entry_iff (c : WriteRaw) (entry : ImageEntry) :
    ∃ code written rest, write_entry z c entry = some (code, .opened :: written ++ rest ++ [.closed c.mtd_write_close]) ∧
      (∀ event ∈ written, ∃ piece all, event = .wrote piece all) ∧
      (∀ event ∈ rest, event = .erased c.mtd_erase_blocks) ∧
      (code = 0 ↔ entry.inflates = true ∧ (∀ k < entry.pieces.length, c.mtd_write_data k = true) ∧
        c.mtd_erase_blocks ≠ -1 ∧ c.mtd_write_close = 0) ∧
      (code = 0 → written = entry.pieces.map (fun piece => .wrote piece true) ∧ rest = [.erased c.mtd_erase_blocks]) := by
  obtain ⟨ok, written, ran, writes, ok_iff, whole⟩ := process_raw c entry.inflates entry.pieces []
  simp only [List.length_nil, Nat.zero_add] at ok_iff
  by_cases passed : ok = true
  · refine ⟨if c.mtd_erase_blocks = -1 ∨ c.mtd_write_close ≠ 0 then -1 else 0, written, [.erased c.mtd_erase_blocks], ?_, writes,
      by simp, ?_, fun _ => ⟨whole passed, rfl⟩⟩
    · rw [write_entry, z.calls, ran]
      by_cases erased : c.mtd_erase_blocks = -1 <;> by_cases closed : c.mtd_write_close = 0 <;>
        simp [passed, erased, closed]
    · obtain ⟨inflates, all⟩ := ok_iff.mp passed
      by_cases erased : c.mtd_erase_blocks = -1 <;> by_cases closed : c.mtd_write_close = 0 <;>
        simp [erased, closed, inflates]
      exact all
  · refine ⟨1, written, [], ?_, writes, by simp, ?_, fun none => absurd none Int.one_ne_zero⟩
    · have failed : ok = false := Bool.eq_false_iff.mpr passed
      rw [write_entry, z.calls, ran]
      simp [failed]
    · refine iff_of_false Int.one_ne_zero ?_
      rintro ⟨inflates, all, _⟩
      exact passed (ok_iff.mpr ⟨inflates, all⟩)

section
variable {c : WriteRaw} {entry : ImageEntry}

/-- Without an entry, nothing is done to the partition. -/
theorem no_source (absent : source c = none) : ∃ code, cmd_write_raw_image z c = some (code, []) ∧ code ≠ 0 := by
  unfold source at absent
  unfold cmd_write_raw_image
  split
  · rename_i path dst args
    simp only [args] at absent
    split
    · exact ⟨255, rfl, by decide⟩
    · rename_i inside
      simp only [Bool.not_eq_true', Bool.not_eq_false] at inside
      rw [if_pos inside] at absent
      simp only [absent]
      exact ⟨1, rfl, Int.one_ne_zero⟩
  · exact ⟨1, rfl, Int.one_ne_zero⟩

/-- The partition can be opened. -/
structure Ready (c : WriteRaw) : Prop where
  unmounted : 0 ≤ c.ensure_root_path_unmounted
  part : c.get_root_mtd_partition = true
  opens : c.mtd_write_partition = true

theorem cmd_write_raw_image_source (found : source c = some entry) [Decidable (Ready c)] :
    cmd_write_raw_image z c = if Ready c then write_entry z c entry else some (1, []) := by
  have reached : cmd_write_raw_image z c =
      if c.ensure_root_path_unmounted < 0 then some (1, [])
      else if !c.get_root_mtd_partition then some (1, [])
      else if !c.mtd_write_partition then some (1, [])
      else write_entry z c entry := by
    unfold source at found
    unfold cmd_write_raw_image
    split at found
    · rename_i path dst args
      split at found
      · rename_i inside
        simp only [inside, Bool.not_true, Bool.false_eq_true, if_false, found]
      · cases found
    · cases found
  rw [reached]
  by_cases unmounted : c.ensure_root_path_unmounted < 0
  · rw [if_pos unmounted, if_neg fun ready : Ready c => absurd unmounted (Int.not_lt.mpr ready.unmounted)]
  rw [if_neg unmounted]
  cases part : c.get_root_mtd_partition with
  | false => exact (if_neg fun ready : Ready c => by simp [ready.part] at part).symm
  | true =>
    cases opens : c.mtd_write_partition with
    | false => exact (if_neg fun ready : Ready c => by simp [ready.opens] at opens).symm
    | true => exact (if_pos ⟨Int.not_lt.mp unmounted, part, opens⟩).symm

theorem RawSucceeds.ready (succeeds : RawSucceeds c entry) : Ready c :=
  ⟨succeeds.unmounted, succeeds.part, succeeds.opens⟩

end

/-- 0 is returned exactly where every step succeeds, and then the partition was written
    with the whole image. It is closed wherever it was opened. -/
theorem write_raw_image_iff (c : WriteRaw) :
    ∃ code events, cmd_write_raw_image z c = some (code, events) ∧
      (code = 0 ↔ ∃ entry, source c = some entry ∧ RawSucceeds c entry) ∧
      (∀ entry, source c = some entry → code = 0 →
        events = .opened :: entry.pieces.map (fun piece => .wrote piece true) ++ [.erased c.mtd_erase_blocks, .closed 0]) ∧
      (events = [] ∨ ∃ between, events = .opened :: between ++ [.closed c.mtd_write_close] ∧
        ∀ code, .closed code ∉ between) := by
  cases src : source c with
  | none =>
    obtain ⟨code, ran, error⟩ := no_source z src
    exact ⟨code, [], ran, by simp [error], by simp, .inl rfl⟩
  | some entry =>
    classical
    rw [cmd_write_raw_image_source z src]
    by_cases ready : Ready c
    · obtain ⟨code, written, rest, ran, writes, erases, code_iff, whole⟩ := write_entry_iff z c entry
      rw [if_pos ready, ran]
      refine ⟨code, .opened :: written ++ rest ++ [.closed c.mtd_write_close], rfl, ?_, ?_, .inr ⟨written ++ rest, ?_, ?_⟩⟩
      · rw [code_iff]
        constructor
        · rintro ⟨inflates, all, erased, closed⟩
          exact ⟨entry, rfl, ready.unmounted, ready.part, ready.opens, inflates, all, erased, closed⟩
        · rintro ⟨_, same, succeeds⟩
          cases same
          exact ⟨succeeds.inflates, succeeds.writes, succeeds.erases, succeeds.closes⟩
      · intro _ same passed
        cases same
        rw [(whole passed).1, (whole passed).2, (code_iff.mp passed).2.2.2]
        simp
      · simp
      · intro closing member
        rcases List.mem_append.mp member with early | late
        · obtain ⟨piece, all, same⟩ := writes _ early
          cases same
        · cases erases _ late
    · rw [if_neg ready]
      refine ⟨1, [], rfl, iff_of_false Int.one_ne_zero ?_, fun _ _ none => absurd none Int.one_ne_zero, .inl rfl⟩
      rintro ⟨_, same, succeeds⟩
      cases same
      exact ready succeeds.ready

end SteamRecovery.Images
