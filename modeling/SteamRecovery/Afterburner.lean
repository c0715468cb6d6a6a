import Mathlib.Data.Nat.Digits.Defs
import SteamRecovery.AfterburnerFile
import SteamRecovery.Upgrade

/-!
The afterburner packages (`do_steam_afterburner` in `oem.c`) among the writers of the
configuration. Only the loader and the texts that the program itself stores are known
to fit: every key and every value fits exactly as long as the `setconf` lines of the
packages do (`bounded_iff`).
-/
namespace SteamRecovery.Afterburner
open SteamRecovery.AfterburnerFile SteamRecovery.CStrings SteamRecovery.Config SteamRecovery.ConfigFiles
open SteamRecovery.Devices (CInt)
open SteamRecovery.Upgrade (version_of)

/-! ### What is run of a package -/

/-- The list behind `initialConfig`, once `afterburner.conf` is read. Of a line that is read outside
    the buffer, an empty command is left. -/
def read_config (text : List Char) : List AftConfig :=
  (pieces '\n' 1024 [] text).foldl (fun list piece => (parse_piece list piece).getD (parse_line list [])) []

/-- The menu, left with the installation after some checkboxes were changed. -/
def choose (list : List AftConfig) (changed : List Nat) : List AftConfig :=
  changed.foldl (fun list i => list.modify i fun s => { s with selected := !s.selected }) list

/-- A command of a package. A `setconf` may lack its `=`. -/
inductive Command where
  | set_dir (path : List Char)
  | extract (zipDir : List Char)
  | ui_print (text : List Char)
  | setconf (key : List Char) (value : Option (List Char))
  | install_package (path : List Char)
  | run_program (file : List Char)
  | mkdir (path : List Char)
  | rm (path : List Char)
  | unknown (command : List Char)
  | nothing
  deriving DecidableEq

def read_command (command : List Char) : Command :=
  if starts "set_dir " command then .set_dir (command.drop 8)
  else if starts "extract " command then .extract (command.drop 8)
  else if starts "ui_print " command then .ui_print (command.drop 9)
  else if starts "setconf " command then
    match (command.drop 8).dropWhile (· ≠ '=') with
    | [] => .setconf (command.drop 8) none
    | _ :: value => .setconf ((command.drop 8).takeWhile (· ≠ '=')) (some value)
  else if starts "install_package " command then .install_package (command.drop 16)
  else if starts "run_program " command then .run_program (command.drop 12)
  else if starts "mkdir " command then .mkdir (command.drop 6)
  else if starts "rm " command then .rm (command.drop 3)
  else if command.isEmpty || command.head? = some '#' then .nothing
  else .unknown command

/-- The commands that are run. -/
def selected_commands (list : List AftConfig) : List Command :=
  (list.filter (·.selected)).flatMap fun s => s.commands.map read_command

/-- What is run of a package, where `none` is a menu that was left. -/
def package_commands (text : List Char) (menu : Option (List Nat)) : List Command :=
  match menu with
  | none => []
  | some changed => selected_commands (choose (read_config text) changed)

/-! ### The writers -/

/-- A call `set_conf(key,value)`, where no value stands for `NULL`. -/
structure SetConf where
  key : String
  value : Option String
  deriving DecidableEq

def Command.calls : Command → List SetConf
  | .setconf key (some value) => [⟨String.ofList key, some (String.ofList value)⟩]
  | _ => []

def package_calls (text : List Char) (menu : Option (List Nat)) : List SetConf :=
  (package_commands text menu).flatMap Command.calls

/-- The calls with fixed texts, by their file. -/
def constant_calls : List SetConf := [
  -- init.c
  ⟨"steam.installation", some "1"⟩, ⟨"steam.upgrade", some "1"⟩, ⟨"fs.system.convertto", none⟩,
  ⟨"fs.cache.convertto", none⟩, ⟨"fs.data.convertto", none⟩, ⟨"fs.dbdata.convertto", none⟩,
  -- steamext.c
  ⟨"preinit.recovery.graphics", some "0"⟩, ⟨"preinit.recovery.graphics", some "1"⟩, ⟨"preinit.graphics", some "0"⟩,
  ⟨"preinit.graphics", some "1"⟩, ⟨"init.bootanim", some "0"⟩, ⟨"init.bootanim", some "1"⟩, ⟨"init.bootanim", some "2"⟩,
  ⟨"earlyinit.graphics", some "0"⟩, ⟨"earlyinit.graphics", some "1"⟩,
  ⟨"fs.cache.convertto", some "1"⟩, ⟨"fs.data.convertto", some "1"⟩, ⟨"fs.dbdata.convertto", some "1"⟩,
  ⟨"fs.cache.convertto", some "4"⟩, ⟨"fs.data.convertto", some "4"⟩, ⟨"fs.dbdata.convertto", some "4"⟩,
  ⟨"fs.cache.convertto", some "260"⟩, ⟨"fs.data.convertto", some "260"⟩, ⟨"fs.dbdata.convertto", some "260"⟩,
  ⟨"fs.cache.convertto", some "8"⟩, ⟨"fs.data.convertto", some "8"⟩, ⟨"fs.dbdata.convertto", some "8"⟩,
  ⟨"fs.cache.convertto", some "132"⟩, ⟨"fs.data.convertto", some "132"⟩, ⟨"fs.dbdata.convertto", some "132"⟩,
  ⟨"fs.system.convertto", some "1"⟩, ⟨"fs.system.convertto", some "4"⟩, ⟨"fs.system.convertto", some "8"⟩,
  ⟨"fs.system.efs", some "0"⟩, ⟨"fs.system.efs", some "1"⟩, ⟨"fs.system.rfs", none⟩, ⟨"fs.system.rfs", some "bad"⟩,
  ⟨"steam.uninstallation", some "1"⟩,
  -- oem.c
  ⟨"steam.installation", none⟩, ⟨"steam.upgrade", none⟩]

/-- The keys whose values are printed with `%d`. -/
def number_keys : List String := [
  "fs.cache.type", "fs.data.type", "fs.dbdata.type", "fs.system.type", "fs.xxx.type",
  "fs.data.convertto", "fs.dbdata.convertto", "fs.cache.convertto", "fs.system.convertto",
  "adb.boot", "adb.root", "tweaks.iosched", "tweaks.kernelvm", "tweaks.kernelsched", "tweaks.misc", "fs.system.ro"]

def version_keys : List String := ["steam.old.version", "steam.old.variant", "steam.old.variant.version"]

/-- The calls with texts of the program: fixed ones, numbers, and versions that were
    read from a file with `get_conf_ro_from`. -/
inductive OwnCall : SetConf → Prop where
  | constant {c : SetConf} (listed : c ∈ constant_calls) : OwnCall c
  | number {key : String} (listed : key ∈ number_keys) (n : CInt) : OwnCall ⟨key, some (sprintf_d n)⟩
  | version {key : String} (listed : key ∈ version_keys) (file : Option String) (read : String) :
      OwnCall ⟨key, some (version_of file read)⟩

/-- What the program does behind `init_conf`, as far as the configuration goes. -/
inductive Step where
  | own (c : SetConf) (made : OwnCall c)
  | afterburner (text : List Char) (menu : Option (List Nat))

def Step.calls : Step → List SetConf
  | .own c _ => [c]
  | .afterburner text menu => package_calls text menu

def set_confs (conf : Conf) (calls : List SetConf) : Conf :=
  calls.foldl (fun conf c => set_conf conf c.key c.value) conf

/-! ### Bounds -/

/-- What `write_conf` copies with `strcpy`, and the sizes of the buffers. A key is
    copied into a new node only, and there is none behind an empty list. -/
def copies (conf : Conf) (c : SetConf) : List (String × Nat) :=
  match c.value with
  | none => []
  | some value =>
    if conf.entries = [] then []
    else if c.key ∈ conf.entries.map Prod.fst then [(value, VALUE_MAX_LENGTH)]
    else [(c.key, KEY_MAX_LENGTH), (value, VALUE_MAX_LENGTH)]

/-- The keys and values in the list fit. What `read_conf` copies is a value. -/
def AllFit (conf : Conf) : Prop := ∀ n ∈ conf.entries, n.1.length < KEY_MAX_LENGTH ∧ n.2.length < VALUE_MAX_LENGTH

/-- Behind any of the calls the list fits, and none copies beyond the end of a buffer. -/
structure Bounded (conf : Conf) (calls : List SetConf) : Prop where
  entries : ∀ before after, calls = before ++ after → AllFit (set_confs conf before)
  copies : ∀ before c after, calls = before ++ c :: after →
    ∀ copied ∈ copies (set_confs conf before) c, copied.1.length < copied.2

/-- A call that stores something stores what fits. -/
def StoresFitting (conf : Conf) (c : SetConf) : Prop :=
  conf.entries ≠ [] → ∀ value ∈ c.value, c.key.length < KEY_MAX_LENGTH ∧ value.length < VALUE_MAX_LENGTH

/-- Where the list fits, what a call copies fits exactly where what it stores does. -/
theorem copies_fit_iff {conf : Conf} (fit : AllFit conf) (c : SetConf) :
    (∀ copied ∈ copies conf c, copied.1.length < copied.2) ↔ StoresFitting conf c := by
  unfold copies StoresFitting
  cases c.value with
  | none => simp
  | some value =>
    by_cases empty : conf.entries = []
    · simp [empty]
    · by_cases known : c.key ∈ conf.entries.map Prod.fst
      · have key_fits : c.key.length < KEY_MAX_LENGTH := by
          obtain ⟨n, member, same⟩ := List.mem_map.mp known
          exact same ▸ (fit n member).1
        simp only [empty, known, if_true, if_false]
        simp [empty, key_fits]
      · simp only [empty, known, if_false]
        simp [empty]

theorem set_conf_fits {conf : Conf} (fit : AllFit conf) {c : SetConf} (stores : StoresFitting conf c) :
    AllFit (set_conf conf c.key c.value) := by
  intro n member
  have some_entry : conf.entries ≠ [] := by
    intro empty
    rw [set_conf_empty empty] at member
    exact absurd member List.not_mem_nil
  rcases write_entries_member member with old | ⟨same_key, new⟩
  · exact fit n old
  · have fits := stores some_entry n.2 new
    exact ⟨same_key ▸ fits.1, fits.2⟩

theorem set_confs_append (conf : Conf) (first second : List SetConf) :
    set_confs conf (first ++ second) = set_confs (set_confs conf first) second :=
  List.foldl_append

/-- The list fits behind any number of calls that store what fits. -/
theorem set_confs_fit {conf : Conf} (fit : AllFit conf) {calls : List SetConf}
    (stores : ∀ before c after, calls = before ++ c :: after → StoresFitting (set_confs conf before) c) :
    AllFit (set_confs conf calls) := by
  induction calls using List.reverseRecOn with
  | nil => exact fit
  | append_singleton calls c ih =>
    rw [set_confs_append]
    refine set_conf_fits (ih ?_) (stores calls c [] rfl)
    intro before d after split
    exact stores before d (after ++ [c]) (by rw [split, List.append_assoc, List.cons_append])

theorem bounded_calls_iff {conf : Conf} (fit : AllFit conf) (calls : List SetConf) :
    Bounded conf calls ↔ ∀ before c after, calls = before ++ c :: after → StoresFitting (set_confs conf before) c := by
  constructor
  · intro bounded before c after split
    exact (copies_fit_iff (bounded.entries before (c :: after) split) c).mp (bounded.copies before c after split)
  · intro stores
    have always : ∀ before after, calls = before ++ after → AllFit (set_confs conf before) := by
      intro before after split
      refine set_confs_fit fit fun first c later split_before => ?_
      exact stores first c (later ++ after) (by rw [split, split_before, List.append_assoc, List.cons_append])
    exact ⟨always, fun before c after split =>
      (copies_fit_iff (always before (c :: after) split) c).mpr (stores before c after split)⟩

/-- Something holds of all calls of a run exactly where it holds of the calls of each step. -/
theorem calls_split {P : List SetConf → SetConf → Prop} {steps : List Step} :
    (∀ before c after, steps.flatMap Step.calls = before ++ c :: after → P before c) ↔
      ∀ earlier step later, steps = earlier ++ step :: later → ∀ first c last, step.calls = first ++ c :: last →
        P (earlier.flatMap Step.calls ++ first) c := by
  constructor
  · rintro holds earlier step later rfl first c last split
    refine holds _ c (last ++ later.flatMap Step.calls) ?_
    simp [split]
  · intro holds before c after split
    induction steps generalizing P before with
    | nil => simp at split
    | cons step rest ih =>
      have ahead : ∀ before, rest.flatMap Step.calls = before ++ c :: after → P (step.calls ++ before) c := by
        intro before split
        refine ih (P := fun before c => P (step.calls ++ before) c) ?_ before split
        intro earlier s later steps_split first d last calls_split
        have := holds (step :: earlier) s later (by rw [steps_split]; rfl) first d last calls_split
        rwa [List.flatMap_cons, List.append_assoc] at this
      rw [List.flatMap_cons] at split
      rcases List.append_eq_append_iff.mp split with ⟨more, rfl, rest_split⟩ | ⟨last, here, rest_split⟩
      · exact ahead more rest_split
      · cases last with
        | nil =>
          rw [List.append_nil] at here
          have := ahead [] rest_split.symm
          rwa [List.append_nil, here] at this
        | cons d last =>
          obtain ⟨rfl, -⟩ := List.cons.inj rest_split
          exact holds [] step rest rfl before c last here

/-- A number has at most a sign and ten digits. -/
theorem sprintf_d_fits (n : CInt) : (sprintf_d n).length < VALUE_MAX_LENGTH := by
  have digits : ∀ k : Nat, k < 10 ^ 10 → k.repr.length ≤ 10 := fun k small => Nat.repr_length k 10 (by decide) small
  have low : -2 ^ 31 ≤ n.toInt := n.le_toInt
  have high : n.toInt < 2 ^ 31 := n.toInt_lt
  rw [sprintf_d, Int.repr_eq_if]
  split
  · have := digits n.toInt.toNat (by omega)
    unfold VALUE_MAX_LENGTH
    omega
  · have := digits (-n.toInt).toNat (by omega)
    rw [String.length_append]
    change 1 + _ < 96
    omega

/-- The texts of the program fit. -/
theorem own_call_fits {c : SetConf} (own : OwnCall c) :
    c.key.length < KEY_MAX_LENGTH ∧ ∀ value ∈ c.value, value.length < VALUE_MAX_LENGTH := by
  cases own with
  | constant listed =>
    have all : ∀ c ∈ constant_calls,
        c.key.length < KEY_MAX_LENGTH ∧ ∀ value ∈ c.value, value.length < VALUE_MAX_LENGTH := by decide +kernel
    exact all c listed
  | number listed n =>
    refine ⟨(by decide : ∀ key ∈ number_keys, key.length < KEY_MAX_LENGTH) _ listed, ?_⟩
    rintro _ ⟨⟩
    exact sprintf_d_fits n
  | version listed file read =>
    refine ⟨(by decide : ∀ key ∈ version_keys, key.length < KEY_MAX_LENGTH) _ listed, ?_⟩
    rintro _ ⟨⟩
    exact (Upgrade.version_of_plain file read).short

/-- The `setconf` lines of the packages store what fits. -/
def PackagesFit (conf : Conf) (steps : List Step) : Prop :=
  ∀ earlier text menu later, steps = earlier ++ .afterburner text menu :: later →
    ∀ first c last, package_calls text menu = first ++ c :: last →
      StoresFitting (set_confs conf (earlier.flatMap Step.calls ++ first)) c

/-- Behind `init_conf` every key and every value fits, and no copy leaves its buffer,
    exactly as long as the `setconf` lines of the packages store what fits. -/
theorem bounded_iff (conf : Conf) (steps : List Step) :
    Bounded (init_conf conf).1 (steps.flatMap Step.calls) ↔ PackagesFit (init_conf conf).1 steps := by
  have loaded : AllFit (init_conf conf).1 := fun n member =>
    ⟨(init_conf_plain conf n member).key.short, (init_conf_plain conf n member).value.short⟩
  rw [bounded_calls_iff loaded, calls_split (P := fun before c => StoresFitting (set_confs (init_conf conf).1 before) c)]
  constructor
  · intro fits earlier text menu later split first c last made
    exact fits earlier (.afterburner text menu) later split first c last made
  · intro fits earlier step later split first c last made
    cases step with
    | own d own =>
      have listed : c ∈ [d] := by
        rw [← show (Step.own d own).calls = [d] from rfl, made]
        exact List.mem_append_right first List.mem_cons_self
      rw [List.mem_singleton.mp listed]
      exact fun _ value given => ⟨(own_call_fits own).1, (own_call_fits own).2 value given⟩
    | afterburner text menu => exact fits earlier text menu later split first c last made

/-- A configuration file with a version in it. -/
def saved_conf : Conf :=
  { entries := [], distinct := List.nodup_nil, system_file := some "steam.version=1\n", writable := true
    get_conf_ro := fun _ => none }

/-- A package with a value of 96 characters, in the section that is selected. -/
def long_value : List Char :=
  "---[ID:a\n---[SELECTED:1\nsetconf a=".toList ++ List.replicate 96 'x' ++ ['\n']

theorem long_value_calls : package_calls long_value (some []) = [⟨"a", some (String.ofList (List.replicate 96 'x'))⟩] := by
  decide +kernel

theorem long_value_stored :
    ¬ Bounded (init_conf saved_conf).1 ([Step.afterburner long_value (some [])].flatMap Step.calls) := by
  intro bounded
  rw [List.flatMap_singleton, Step.calls, long_value_calls] at bounded
  have stores := (copies_fit_iff (bounded.entries [] _ rfl) _).mp (bounded.copies [] _ [] rfl)
  have fits := stores (show (init_conf saved_conf).1.entries ≠ [] by decide +kernel) _ rfl
  exact absurd fits.2 (by decide)

end SteamRecovery.Afterburner
