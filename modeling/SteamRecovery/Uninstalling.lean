import SteamRecovery.Afterburner
import SteamRecovery.Stages
import SteamRecovery.SystemConversion
import SteamRecovery.Upgrade

/-!
Uninstalling Steam (`do_steam_uninstall` in `oem.c`), over the boots it takes. The
recovery asks for RFS on every partition and reboots, the stages of the init convert
what has another type, and the recovery looks again. It removes the configuration, and
with it Steam, once RFS is on record everywhere. What the boots write leaves the rest of
the configuration as it was (`Leaving.set`).
-/
namespace SteamRecovery.Uninstalling
open SteamRecovery.Devices
open SteamRecovery.Config
open SteamRecovery.ConfigFiles
open SteamRecovery.Upgrade
open SteamRecovery.Volumes (Tables)
open SteamRecovery.Autodetect
open SteamRecovery.Nandroid (Build)
open SteamRecovery.Conversion
open SteamRecovery.Stages

def system : Target := ⟨"SYSTEM:", SYSTEM_BLOCK_NAME, "loop4", "system", "fs.system.type", "fs.system.convertto"⟩

/-- In the order in which `do_steam_uninstall` looks at them. -/
def partitions : List Target := [data, dbdata, cache, system]

/-- `fsokay`: RFS is on record for every partition. -/
def fsokay (conf : Conf) : Bool := partitions.all fun target => get_conf_def conf target.type "0" = "1"

/-- RFS is asked for on every partition. -/
def ask_for_rfs (conf : Conf) : Conf :=
  partitions.foldl (fun conf target => set_conf conf target.convertto (some "1")) conf

/-- What `do_steam_uninstall` returns, and the configuration that it leaves, where `rm` of
    `CONFIG_SYSTEM` works or not. Either way the phone is rebooted into the recovery. -/
def do_steam_uninstall (removes : Bool) (conf : Conf) : Int × Conf :=
  if fsokay conf then (0, if removes then { conf with system_file := none } else conf)
  else (1, ask_for_rfs conf)

/-! ### One boot -/

/-- The system partition: its configuration, and everything else. -/
structure Files (Tree : Type) where
  steam_conf : Option String
  others : Tree

/-- Calls of `set_conf`, with their keys and values. -/
abbrev Writes := List (String × Option String)

def set_all (conf : Conf) (writes : Writes) : Conf := writes.foldl (fun conf write => set_conf conf write.1 write.2) conf

/-- What the world answers during one boot into the recovery. -/
structure Boot (Tree : Type) where
  /-- The answer to the menu of stage 4, where that is shown. -/
  chosen_item : Nat
  /-- The type that stage 3 finds, and the tables once `/system` is mounted. -/
  system_type : CInt
  tables : Tables
  /-- `confirm_selection(CONVERT_SYSTEM_SURE,CONVERT_SYSTEM_CONFIRM)` -/
  confirmed : Bool
  /-- Where `convert_system` starts from, what it is answered, and whether its formatting
      leaves a filesystem. -/
  start_tables : Tables
  others : Tree
  archive : SystemConversion.Archive (Files Tree)
  system : SystemConversion.World (Files Tree)
  makes : Bool
  /-- The configuration that is found on a system that is not whole. -/
  left : Option String
  attempt : Target → Attempt
  /-- The answer to the menu of `convert_filesystems`. -/
  picked : Int
  conversion : Conversion.World
  /-- Another recovery is chosen in the menu of `do_steam_install_fromcache`, and started. -/
  fromcache : Bool
  /-- `ensure_root_path_mounted` returns 0. -/
  mounts : String → Bool
  /-- What the commands of the afterburner package set. -/
  package : Writes
  removes : Bool

variable {Tree : Type}

/-- The type of a partition behind one call of `convert_system`. -/
def type_after (makes : Bool) (s : SystemConversion.Machine (Files Tree)) (type : CInt) :
    SystemConversion.Call (Files Tree) → CInt
  | .filesystem_format o password _ fstype =>
    if makes && KnownBase fstype && (filesystem_format o password fstype SYSTEM_BLOCK_NAME none s.tables).1 = fstype then
      made_type fstype
    else type
  | _ => type

/-- The type of the system partition behind some calls. -/
def types_after (makes : Bool) :
    SystemConversion.Machine (Files Tree) → CInt → List (SystemConversion.Call (Files Tree)) → CInt
  | _, type, [] => type
  | s, type, call :: rest => types_after makes (call.effect s) (type_after makes s type call) rest

/-- The pattern is there at the beginning of the line; a dot stands for any character. -/
def begins_with : List Char → List Char → Bool
  | [], _ => true
  | _ :: _, [] => false
  | p :: pattern, c :: line => (p = '.' || p = c) && begins_with pattern line

/-- `s/^fs.system.rfs=.*/#fs.system.rfs=ok/` -/
def sed_line (line : List Char) : List Char :=
  if begins_with "fs.system.rfs=".toList line then "#fs.system.rfs=ok".toList else line

def sed_rfs (text : String) : String :=
  String.ofList (List.intercalate ['\n'] ((text.toList.splitOn '\n').map sed_line))

def clear_rfs (files : Files Tree) : Files Tree := { files with steam_conf := files.steam_conf.map sed_rfs }

def Boot.world (b : Boot Tree) : SystemConversion.World (Files Tree) := { b.system with sed := clear_rfs }

/-- The system is mounted when `convert_system` is called, with this configuration. -/
def Boot.start (b : Boot Tree) (steam_conf : Option String) : SystemConversion.Machine (Files Tree) :=
  ⟨b.start_tables, some ⟨steam_conf, b.others⟩, b.archive⟩

/-- The configuration that is found on the system. -/
def found_conf (b : Boot Tree) (s : SystemConversion.Machine (Files Tree)) : Option String :=
  match s.system with
  | some files => files.steam_conf
  | none => b.left

/-- Stage 5, and whether the boot goes on behind it: `convert_system` does not return. -/
def stage5 (b : Boot Tree) (m : Machine Tree) : Bool × Machine Tree :=
  match get_conf m.state.conf system.convertto with
  | none => (true, m)
  | some value =>
    let newfs := (sscanf_d value).getD 0
    let conf := set_conf m.state.conf system.convertto none
    if has newfs TYPE_FSTYPE_MASK && b.system_type ≠ newfs && b.confirmed then
      let calls := SystemConversion.convert_system conf b.world b.system_type newfs
      let start := b.start conf.system_file
      (false, { m with
        types := Function.update m.types system.mtname (types_after b.makes start (m.types system.mtname) calls)
        state := { m.state with
          conf := { conf with system_file := found_conf b (SystemConversion.after start calls) } } })
    else (true, { m with state := { m.state with conf := conf } })

/-- One call of `mount_from_config_or_autodetect`, with the type that it returns. -/
def mount_partition (b : Boot Tree) (target : Target) (m : Machine Tree) : CInt × Machine Tree :=
  let (type, secret, state) := mount_from_config_or_autodetect (b.attempt target) target.type target.partition
    target.loopname target.mtname m.secret m.state
  (type, { m with secret := secret, state := state })

/-- Stages 6 and 7. -/
def mount_and_convert (build : Build) (b : Boot Tree) (m : Machine Tree) : Machine Tree :=
  let (cache_type, m) := mount_partition b cache m
  let (data_type, m) := mount_partition b data m
  let (dbdata_type, m) := if build.HAS_DATADATA then mount_partition b dbdata m else (0, m)
  stage7 build b.conversion b.picked cache_type data_type dbdata_type m

/-- How the part of `main` of the recovery ends that looks at what Steam has to do. -/
inductive Ended where
  | other_recovery
  /-- `do_steam_install` reboots. -/
  | installed
  | uninstalling
  /-- `main` goes on to its arguments. -/
  | goes_on
  deriving DecidableEq

/-- The partitions that `do_steam_install` needs. -/
def installs (build : Build) (b : Boot Tree) : Bool :=
  b.mounts "SYSTEM:" && (!build.HAS_DATADATA || b.mounts "DATADATA:") && b.mounts "SDCARD:"

/-- The configuration at the reboot, or none where a partition is missing. -/
def do_steam_install (build : Build) (b : Boot Tree) (conf : Conf) : Option Conf :=
  if installs build b then some (set_conf (set_all conf b.package) "steam.installation" none) else none

def do_steam_upgrade (conf : Conf) : Conf := set_conf conf "steam.upgrade" none

/-- Where nothing was installed. -/
def upgrade_or_uninstall (b : Boot Tree) (conf : Conf) : Ended × Conf :=
  let conf := if get_conf_def conf "steam.upgrade" "0" = "1" then do_steam_upgrade conf else conf
  if get_conf_def conf "steam.uninstallation" "0" = "1" then (.uninstalling, (do_steam_uninstall b.removes conf).2)
  else (.goes_on, conf)

def recovery (build : Build) (b : Boot Tree) (conf : Conf) : Ended × Conf :=
  let conf := (init_conf conf).1
  if b.fromcache then (.other_recovery, conf)
  else
    match if get_conf_def conf "steam.installation" "0" = "1" then do_steam_install build b conf else none with
    | some conf => (.installed, conf)
    | none => upgrade_or_uninstall b conf

/-- A boot into the recovery, from stage 4 on, up to the next one. -/
def boot (build : Build) (sbin : Option String) (b : Boot Tree) (m : Machine Tree) : Machine Tree :=
  let conf := check_for_steam sbin b.chosen_item m.state.conf
  let conf := set_conf conf system.type (some (sprintf_d b.system_type))
  let (goes_on, m) := stage5 b { m with reformatted := [], state := ⟨b.tables, conf⟩, secret := some "" }
  if goes_on then
    let m := mount_and_convert build b m
    { m with state := { m.state with conf := (recovery build b m.state.conf).2 } }
  else m

/-! ### A conversion of the system that works -/

/-- Behind a conversion of the system, the configuration is what it was, but for what `sed`
    makes of it. -/
def Restores (b : Boot Tree) (newfs : CInt) : Prop :=
  ∀ conf, found_conf b (SystemConversion.after (b.start conf.system_file)
      (SystemConversion.convert_system conf b.world b.system_type newfs)) ∈
    [conf.system_file, conf.system_file.map sed_rfs]

/-- `sed` finds nothing in this entry. -/
def Unflagged (n : String × String) : Prop := begins_with "fs.system.rfs=".toList (n.1.toList ++ '=' :: n.2.toList) = false

instance (n : String × String) : Decidable (Unflagged n) := inferInstanceAs (Decidable (_ = _))

/-- The key and the beginning of the pattern are enough to tell. -/
theorem begins_with_front {pattern front : List Char} (rest : List Char)
    (apart : begins_with (pattern.take front.length) front = false) : begins_with pattern (front ++ rest) = false := by
  induction front generalizing pattern with
  | nil => cases apart
  | cons c front ih =>
    cases pattern with
    | nil => cases apart
    | cons p pattern =>
      simp only [List.length_cons, List.take_succ_cons, begins_with, Bool.and_eq_false_iff] at apart
      rw [List.cons_append, begins_with, Bool.and_eq_false_iff]
      exact apart.imp_right ih

theorem unflagged_key {key : String} (apart : begins_with ("fs.system.rfs=".toList.take key.toList.length) key.toList = false)
    (v : String) : Unflagged (key, v) :=
  begins_with_front _ apart

theorem sed_saved {entries : List (String × String)} (plain : ∀ n ∈ entries, PlainEntry n)
    (unflagged : ∀ n ∈ entries, Unflagged n) : sed_rfs (print_entries entries) = print_entries entries := by
  have lines : ((print_entries entries).toList.splitOn '\n').map sed_line = (print_entries entries).toList.splitOn '\n' := by
    induction entries with
    | nil => rfl
    | cons n rest ih =>
      rw [List.forall_mem_cons] at plain unflagged
      have one_line : '\n' ∉ n.1.toList ++ '=' :: n.2.toList := by
        simp [plain.1.key.one_line, plain.1.value.one_line]
      have same : sed_line (n.1.toList ++ '=' :: n.2.toList) = n.1.toList ++ '=' :: n.2.toList := by
        rw [sed_line, unflagged.1]
        rfl
      rw [print_entries_cons, List.splitOn_append_cons_self_of_not_mem one_line, List.map_cons, same, ih plain.2 unflagged.2]
  rw [sed_rfs, lines, List.intercalate_splitOn, String.ofList_toList]

/-! ### The configuration of a phone that is to lose Steam -/

/-- What the boots write: the types on record, and the requests. -/
inductive Written : String → Option String → Prop where
  | type {target : Target} (member : target ∈ partitions) (n : CInt) : Written target.type (some (sprintf_d n))
  | request {target : Target} (member : target ∈ partitions) : Written target.convertto (some "1")
  | taken {target : Target} (member : target ∈ partitions) : Written target.convertto none

/-- The configuration is saved, has the versions of the kernel, and says that Steam is to be
    removed, and that nothing is to be installed or upgraded. The types on record are numbers,
    no filesystem is flagged as a bad one, and the kernel's own configuration asks for no
    conversion. -/
structure Leaving (sbin : Option String) (conf : Conf) : Prop where
  saved : conf.system_file = some (print_entries conf.entries)
  writable : conf.writable = true
  plain : AllPlain conf
  current : diff sbin conf.system_file = false
  told : read_conf conf "steam.uninstallation" = some "1"
  installed : get_conf_def conf "steam.installation" "0" ≠ "1"
  upgraded : get_conf_def conf "steam.upgrade" "0" ≠ "1"
  unflagged : ∀ n ∈ conf.entries, Unflagged n
  recorded : ∀ target ∈ partitions, ∀ value ∈ get_conf conf target.type, ∃ n, value = sprintf_d n
  unasked : ∀ target ∈ partitions, conf.get_conf_ro target.convertto = none

/-- The other keys that the boots look at. -/
def other_keys : List String :=
  ["steam.uninstallation", "steam.installation", "steam.upgrade", "steam.version", "steam.variant",
    "steam.variant.version"]

theorem written_other {key : String} {value : Option String} (written : Written key value) {other : String}
    (member : other ∈ other_keys) : other ≠ key := by
  have apart : ∀ target ∈ partitions, ∀ other ∈ other_keys, other ≠ target.type ∧ other ≠ target.convertto := by decide
  cases written with
  | type listed n => exact (apart _ listed other member).1
  | request listed => exact (apart _ listed other member).2
  | taken listed => exact (apart _ listed other member).2

theorem sprintf_d_plain (n : CInt) : PlainValue (sprintf_d n) := by
  have digits : ∀ k : Nat, ∀ c ∈ k.repr.toList, c.isDigit = true := by
    intro k c member
    rw [Nat.toList_repr] at member
    exact Nat.isDigit_of_mem_toDigits (by decide) (by decide) member
  have chars : ∀ c ∈ (sprintf_d n).toList, c = '-' ∨ c.isDigit = true := by
    rw [sprintf_d, Int.repr_eq_if]
    intro c member
    split at member
    · exact .inr (digits _ c member)
    · rw [String.toList_append, List.mem_append] at member
      rcases member with sign | number
      · exact .inl (by simpa using sign)
      · exact .inr (digits _ c number)
  refine ⟨⟨fun member => ?_, Afterburner.sprintf_d_fits n⟩, fun member => ?_⟩
  · exact absurd (chars _ member) (by decide)
  · exact absurd (chars _ member) (by decide)

theorem partition_key_plain {target : Target} (member : target ∈ partitions) :
    PlainKey target.type ∧ PlainKey target.convertto := by
  have checked : ∀ target ∈ partitions, ∀ key ∈ [target.type, target.convertto],
      ('\x00' ∉ key.toList ∧ key.length < KEY_MAX_LENGTH) ∧
        '=' ∉ key.toList ∧ '\n' ∉ key.toList ∧ key.toList.head? ≠ some '#' := by decide
  have plain : ∀ key ∈ [target.type, target.convertto], PlainKey key := by
    intro key listed
    obtain ⟨⟨clean, short⟩, no_equals, one_line, no_comment⟩ := checked target member key listed
    exact ⟨⟨clean, short⟩, no_equals, one_line, no_comment⟩
  exact ⟨plain _ (by simp), plain _ (by simp)⟩

theorem written_plain {key : String} {value : Option String} (written : Written key value) :
    PlainKey key ∧ ∀ v ∈ value, PlainValue v := by
  cases written with
  | type listed n => exact ⟨(partition_key_plain listed).1, by rintro _ ⟨⟩; exact sprintf_d_plain n⟩
  | request listed =>
    refine ⟨(partition_key_plain listed).2, ?_⟩
    rintro _ ⟨⟩
    exact ⟨⟨by decide, by decide⟩, by decide⟩
  | taken listed => exact ⟨(partition_key_plain listed).2, by simp⟩

theorem written_unflagged {key : String} {value : Option String} (written : Written key value) :
    ∀ v ∈ value, Unflagged (key, v) := by
  have apart : ∀ target ∈ partitions, ∀ key ∈ [target.type, target.convertto],
      begins_with ("fs.system.rfs=".toList.take key.toList.length) key.toList = false := by decide
  intro v _
  apply unflagged_key
  cases written with
  | type listed n => exact apart _ listed _ List.mem_cons_self
  | request listed => exact apart _ listed _ (List.mem_cons_of_mem _ List.mem_cons_self)
  | taken listed => exact apart _ listed _ (List.mem_cons_of_mem _ List.mem_cons_self)

theorem set_conf_unflagged {conf : Conf} {key : String} {value : Option String} (unflagged : ∀ n ∈ conf.entries, Unflagged n)
    (written : ∀ v ∈ value, Unflagged (key, v)) : ∀ n ∈ (set_conf conf key value).entries, Unflagged n := by
  rintro ⟨k, v⟩ member
  rcases write_entries_member member with old | ⟨rfl, new⟩
  · exact unflagged _ old
  · exact written v new

section
variable {sbin : Option String} {conf : Conf} {key : String} {value : Option String}

theorem Leaving.stored (leaving : Leaving sbin conf) : conf.entries ≠ [] := by
  intro none
  have told := leaving.told
  rw [read_conf, none] at told
  cases told

theorem version_of_saved (plain : AllPlain conf) (saved : conf.system_file = some (print_entries conf.entries))
    (key : String) : version_of conf.system_file key = (read_conf conf key).getD "" := by
  rw [version_of, saved, get_conf_ro_from_saved plain, read_conf]

/-- The keys that stage 4 compares. -/
def version_keys : List String := ["steam.version", "steam.variant", "steam.variant.version"]

/-- Where none of them is set, the versions stay those of the kernel. -/
theorem set_conf_current (plain : AllPlain conf) (saved : conf.system_file = some (print_entries conf.entries))
    (writable : conf.writable = true) (plain_key : PlainKey key) (plain_value : ∀ v ∈ value, PlainValue v)
    (other : key ∉ version_keys) (current : diff sbin conf.system_file = false) :
    diff sbin (set_conf conf key value).system_file = false := by
  have present : conf.system_file ≠ none := by simp [saved]
  have same : ∀ version ∈ version_keys,
      version_of (set_conf conf key value).system_file version = version_of conf.system_file version := by
    intro version listed
    have apart : version ≠ key := fun equal => other (equal ▸ listed)
    rw [version_of_saved (set_conf_plain plain plain_key plain_value) (set_conf_saved present writable key value),
      version_of_saved plain saved, read_conf_set_other conf apart value]
  unfold diff at current ⊢
  rwa [same _ (by decide), same _ (by decide), same _ (by decide)]

/-- What is saved is read back as it was. -/
theorem saved_reloads (plain : AllPlain conf) (saved : conf.system_file = some (print_entries conf.entries)) :
    (init_conf conf).1 = conf := by
  have entries := load_saved plain saved
  cases conf
  simp only [init_conf] at entries ⊢
  simp only [entries]

/-- Stage 4 has nothing to do where the versions are those of the kernel; a key of some
    length makes the file long enough. -/
theorem saved_check (plain : AllPlain conf) (saved : conf.system_file = some (print_entries conf.entries))
    (current : diff sbin conf.system_file = false) (stored : read_conf conf key ≠ none) (length : 10 ≤ key.length)
    (chosen_item : Nat) : check_for_steam sbin chosen_item conf = conf := by
  have listed : key ∈ conf.entries.map Prod.fst := by
    by_contra absent
    exact stored (read_entries_absent absent)
  obtain ⟨n, member, rfl⟩ := List.mem_map.mp listed
  have long : ¬ (print_entries conf.entries).length < 10 :=
    Nat.not_lt.mpr (Nat.le_trans length (print_entries_length member))
  rw [saved] at current
  unfold check_for_steam
  simp only [saved, long, current, Bool.false_eq_true, ↓reduceIte]
  exact saved_reloads plain saved

/-- A type on record is replaced by another one, and no other key becomes one. -/
theorem written_recorded (leaving : Leaving sbin conf) (written : Written key value) :
    ∀ target ∈ partitions, ∀ v ∈ get_conf (set_conf conf key value) target.type, ∃ n, v = sprintf_d n := by
  have apart : ∀ target ∈ partitions, ∀ other ∈ partitions, target.type ≠ other.convertto := by decide
  intro target member v found
  by_cases same : target.type = key
  · cases written with
    | type listed n =>
      rw [same, get_conf_set_self leaving.stored] at found
      exact ⟨n, (Option.some.inj found).symm⟩
    | request listed => exact absurd same (apart target member _ listed)
    | taken listed => exact absurd same (apart target member _ listed)
  · rw [get_conf_set_other conf same] at found
    exact leaving.recorded target member v found

theorem Leaving.set (leaving : Leaving sbin conf) (written : Written key value) : Leaving sbin (set_conf conf key value) := by
  have present : conf.system_file ≠ none := by simp [leaving.saved]
  have saved := set_conf_saved present leaving.writable key value
  have plain := set_conf_plain leaving.plain (written_plain written).1 (written_plain written).2
  have kept : ∀ other ∈ other_keys, read_conf (set_conf conf key value) other = read_conf conf other :=
    fun other member => read_conf_set_other conf (written_other written member) value
  refine ⟨saved, leaving.writable, plain, ?_, ?_, ?_, ?_, set_conf_unflagged leaving.unflagged (written_unflagged written),
    written_recorded leaving written, leaving.unasked⟩
  · have versions : ∀ version ∈ version_keys, version ∈ other_keys := by decide
    refine set_conf_current leaving.plain leaving.saved leaving.writable (written_plain written).1
      (written_plain written).2 ?_ leaving.current
    intro listed
    exact written_other written (versions key listed) rfl
  · rw [kept _ (by decide)]
    exact leaving.told
  · rw [get_conf_def, get_conf_set_other conf (written_other written (by decide))]
    exact leaving.installed
  · rw [get_conf_def, get_conf_set_other conf (written_other written (by decide))]
    exact leaving.upgraded

theorem Leaving.reloads (leaving : Leaving sbin conf) : (init_conf conf).1 = conf :=
  saved_reloads leaving.plain leaving.saved

/-- `sed` leaves the configuration as it is. -/
theorem Leaving.cleared (leaving : Leaving sbin conf) : conf.system_file.map sed_rfs = conf.system_file := by
  rw [leaving.saved, Option.map_some, sed_saved leaving.plain leaving.unflagged]

/-- Stage 4 has nothing to do. -/
theorem Leaving.check (leaving : Leaving sbin conf) (chosen_item : Nat) :
    check_for_steam sbin chosen_item conf = conf := by
  have told : read_conf conf "steam.uninstallation" ≠ none := by simp [leaving.told]
  exact saved_check leaving.plain leaving.saved leaving.current told (by decide) chosen_item

end

/-! ### Requests and records -/

/-- What is asked for: of the system partition, and of the others. -/
structure Pending (conf : Conf) (of_system of_others : Bool) : Prop where
  system : get_conf conf system.convertto = if of_system then some "1" else none
  others : ∀ target ∈ targets, get_conf conf target.convertto = if of_others then some "1" else none

/-- The type of the partition is on record. -/
def Recorded (m : Machine Tree) (target : Target) : Prop :=
  get_conf m.state.conf target.type = some (sprintf_d (m.types target.mtname))

theorem sprintf_d_rfs (n : CInt) : sprintf_d n = "1" ↔ n = TYPE_RFS := by
  have one : sprintf_d TYPE_RFS = "1" := by decide
  constructor
  · intro same
    have read := congrArg sscanf_d (same.trans one.symm)
    simpa only [sscanf_sprintf, Option.some.injEq] using read
  · rintro rfl
    exact one

theorem keys_apart : ∀ a ∈ partitions, ∀ b ∈ partitions, a.type ≠ b.convertto ∧ (a.type = b.type → a = b) ∧
    (a.convertto = b.convertto → a = b) ∧ (a.mtname = b.mtname → a = b) := by decide

theorem target_listed : ∀ target ∈ targets, target ∈ partitions := by decide

theorem system_apart : ∀ target ∈ targets, target ≠ system := by decide

section
variable {sbin : Option String} {conf : Conf}

/-- A request that is taken is gone. -/
theorem Leaving.taken (leaving : Leaving sbin conf) {target : Target} (member : target ∈ partitions) :
    get_conf (set_conf conf target.convertto none) target.convertto = none := by
  have gone : read_conf (set_conf conf target.convertto none) target.convertto = none := read_write_removed conf.distinct
  rw [get_conf, gone]
  exact leaving.unasked target member

theorem ask_for_rfs_leaving (leaving : Leaving sbin conf) : Leaving sbin (ask_for_rfs conf) := by
  have each : ∀ list ⊆ partitions, ∀ conf, Leaving sbin conf →
      Leaving sbin (list.foldl (fun conf target => set_conf conf target.convertto (some "1")) conf) := by
    intro list
    induction list with
    | nil => exact fun _ conf leaving => leaving
    | cons target rest ih =>
      intro listed conf leaving
      obtain ⟨first, others⟩ := List.cons_subset.mp listed
      exact ih others _ (leaving.set (.request first))
  exact each partitions (List.Subset.refl _) conf leaving

theorem ask_for_rfs_pending (leaving : Leaving sbin conf) : Pending (ask_for_rfs conf) true true := by
  have asked : ∀ target ∈ partitions, get_conf (ask_for_rfs conf) target.convertto = some "1" := by
    have each : ∀ list ⊆ partitions, ∀ conf, Leaving sbin conf → ∀ target ∈ partitions,
        (target ∈ list ∨ get_conf conf target.convertto = some "1") →
        get_conf (list.foldl (fun conf target => set_conf conf target.convertto (some "1")) conf) target.convertto =
          some "1" := by
      intro list
      induction list with
      | nil => exact fun _ conf _ target _ asked => asked.resolve_left List.not_mem_nil
      | cons first rest ih =>
        intro listed conf leaving target member asked
        obtain ⟨here, others⟩ := List.cons_subset.mp listed
        apply ih others _ (leaving.set (.request here)) target member
        by_cases same : target.convertto = first.convertto
        · rw [same]
          exact .inr (get_conf_set_self leaving.stored _ _)
        · rw [get_conf_set_other conf same]
          refine asked.imp_left fun inList => ?_
          exact (List.mem_cons.mp inList).resolve_left fun equal => same (congrArg Target.convertto equal)
    exact fun target member => each partitions (List.Subset.refl _) conf leaving target member (.inl member)
  exact ⟨asked system (by decide), fun target member => asked target (target_listed target member)⟩

theorem requested_pending {of_system of_others : Bool} (pending : Pending conf of_system of_others) {target : Target}
    (member : target ∈ targets) : requested conf target.convertto = if of_others then TYPE_RFS else 0 := by
  rw [requested, pending.others target member]
  cases of_others <;> decide

theorem recovery_leaving_eq (build : Build) {b : Boot Tree} (leaving : Leaving sbin conf) (own : b.fromcache = false) :
    recovery build b conf = (.uninstalling, (do_steam_uninstall b.removes conf).2) := by
  have told : get_conf_def conf "steam.uninstallation" "0" = "1" := by
    rw [get_conf_def, get_conf, leaving.told, Option.getD_some]
  simp only [recovery, upgrade_or_uninstall, own, leaving.reloads, leaving.installed, leaving.upgraded, told,
    Bool.false_eq_true, ↓reduceIte]

/-- The recovery removes Steam where RFS is on record everywhere, and else asks for it. -/
theorem recovery_leaving (build : Build) {b : Boot Tree} (leaving : Leaving sbin conf) (works : b.removes = true)
    (own : b.fromcache = false) :
    (fsokay conf = true → (recovery build b conf).2.system_file = none) ∧
      (fsokay conf = false → Leaving sbin (recovery build b conf).2 ∧ Pending (recovery build b conf).2 true true) := by
  rw [recovery_leaving_eq build leaving own, do_steam_uninstall]
  constructor
  · intro okay
    simp [okay, works]
  · intro other
    simp only [other, Bool.false_eq_true, ↓reduceIte]
    exact ⟨ask_for_rfs_leaving leaving, ask_for_rfs_pending leaving⟩

/-- Where it asks for RFS, the types on record stay. -/
theorem recovery_records (build : Build) {b : Boot Tree} (leaving : Leaving sbin conf) (own : b.fromcache = false)
    (other : fsokay conf = false) {target : Target} (member : target ∈ partitions) :
    get_conf (recovery build b conf).2 target.type = get_conf conf target.type := by
  have each : ∀ list ⊆ partitions, ∀ conf : Conf,
      get_conf (list.foldl (fun conf target => set_conf conf target.convertto (some "1")) conf) target.type =
        get_conf conf target.type := by
    intro list
    induction list with
    | nil => exact fun _ _ => rfl
    | cons first rest ih =>
      intro listed conf
      obtain ⟨here, others⟩ := List.cons_subset.mp listed
      rw [List.foldl_cons, ih others, get_conf_set_other _ (keys_apart target member first here).1]
  rw [recovery_leaving_eq build leaving own, do_steam_uninstall]
  simp only [other, Bool.false_eq_true, ↓reduceIte]
  exact each partitions (List.Subset.refl _) conf

end

end SteamRecovery.Uninstalling
