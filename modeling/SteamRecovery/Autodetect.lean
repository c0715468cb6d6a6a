import SteamRecovery.Config
import SteamRecovery.Volumes

/-!
Finding out what a partition holds (`filesystem_check`), creating a filesystem
where it holds nothing (`filesystem_format`, `filesystem_create`), and mounting it
under the code in the configuration, or else under the one found
(`mount_from_config_or_autodetect`). Probing and creating only ever give codes
with a known base type (`filesystem_check_known`, `filesystem_create_known`); a code
in the configuration may be any number.
-/
namespace SteamRecovery.Autodetect
open SteamRecovery.Devices
open SteamRecovery.Config
open SteamRecovery.MountTables
open SteamRecovery.Volumes

/-- What the world answers to one probe: the commands, whether a path is a directory
    or exists, and the `fs.system.rfs` of the configuration on the probed filesystem. -/
structure Probe where
  o : Outcomes
  is_directory : String → Bool
  present : String → Bool
  rfs_conf : Option String

/-- `/res/.tmp` -/
def loopmount : String := "/res/.tmp"

/-- The files that give away an RFS of the broken kind. -/
def bad_rfs_marks : List String := ["/BIN", "/APP", "/DATA", "/SYSTEM", "/RECOVERY"]

def rfs_type (p : Probe) (conf : Conf) : CInt :=
  if conf.get_conf_ro "fs.system.rfs" = some "bad" ∨ p.rfs_conf = some "bad" ∨
      bad_rfs_marks.any fun mark => p.present (loopmount ++ mark) then
    TYPE_RFS ||| TYPE_RFS_BAD
  else TYPE_RFS

/-- The mount attempts of `filesystem_check`, in order: the type that mounts, or 0. -/
def detect (p : Probe) (conf : Conf) (frommount : String) (t : Tables) : CInt × Tables :=
  let (bound, t) := if p.is_directory frommount then p.o.call (.bind frommount loopmount) t else (false, t)
  if bound then (TYPE_DIRECTORY, t)
  else
    let (mounted, t) := p.o.call (.mount "ext2" TYPE_EXT2_DEFAULT_MOUNT frommount loopmount) t
    if mounted then (TYPE_EXT2, t)
    else
      let (mounted, t) := p.o.call (.mount "ext4" TYPE_EXT4_DEFAULT_MOUNT frommount loopmount) t
      if mounted then (TYPE_EXT4, t)
      else
        let (mounted, t) := p.o.call (.mount "rfs" TYPE_RFS_DEFAULT_MOUNT frommount loopmount) t
        if mounted then (rfs_type p conf, t)
        else
          let (mounted, t) := p.o.call (.mount "jfs" TYPE_JFS_DEFAULT_MOUNT frommount loopmount) t
          if mounted then (TYPE_JFS, t) else (0, t)

/-- `filesystem_check` once the partition is open. -/
def identify (p : Probe) (conf : Conf) (partition : String) (t : Tables) : CInt × Tables :=
  let iscrypt : CInt := if p.o.isLuks partition then TYPE_CRYPT else 0
  let frommount := if p.o.isLuks partition then mapper partition else partition
  let (fstype, t) := detect p conf frommount t
  let isloop : CInt := if fstype ≠ 0 ∧ p.present (loopmount ++ "/.extfs") then TYPE_LOOP else 0
  let isbind : CInt := if fstype ≠ 0 ∧ p.present (loopmount ++ "/.data") then TYPE_BIND else 0
  let t := if fstype ≠ 0 then (p.o.call (.umount loopmount) (p.o.call (.umount frommount) t).2).2 else t
  -- `fstype` does not hold the crypt bit, so the mapping is never closed here.
  let t := close_encrypted p.o fstype partition t
  (fstype ||| iscrypt ||| isloop ||| isbind, t)

def filesystem_check (p : Probe) (conf : Conf) (partition : String) (t : Tables) : CInt × Tables :=
  if p.o.isLuks partition then
    let (opened, _, t) := open_encrypted_partition p.o partition none t
    if opened then identify p conf partition t else (TYPE_CRYPT, t)
  else identify p conf partition t

def BLOCK_DATA_LOOP_SIZE : Nat := 1831634944
def BLOCK_DBDATA_LOOP_SIZE : Nat := 128382976
def BLOCK_CACHE_LOOP_SIZE : Nat := 29726720

def loop_size (partition : String) : Nat :=
  if partition = DATA_BLOCK_NAME then BLOCK_DATA_LOOP_SIZE
  else if partition = DBDATA_BLOCK_NAME then BLOCK_DBDATA_LOOP_SIZE
  else if partition = CACHE_BLOCK_NAME then BLOCK_CACHE_LOOP_SIZE
  else 0

/-- The loop file of a new filesystem, made while that is mounted at `/res/.tmp`. -/
def create_loop_file (o : Outcomes) (fstype : CInt) (partition fromname : String) (ss : Option String) (t : Tables) :
    Tables :=
  let (code, _, t) := check_and_mount o (fstype &&& TYPE_FSTYPE_MASK) fromname "loop0" "res/.tmp" ss t
  if code = 0 then
    let t :=
      if loop_size partition ≠ 0 then
        (o.call (.losetup_d "/dev/block/loop0") (o.call (.losetup "/dev/block/loop0" "/res/.tmp/.extfs") t).2).2
      else t
    (o.call (.umount "/res/.tmp") (o.call (.umount "/res/.tmp/.extfs") t).2).2
  else t

/-- `filesystem_format`, given the password typed twice alike where one is asked for:
    the code returned, the secret handed back, and the tables. The `mkfs` runs change
    none of the tables, and their results are not looked at. -/
def filesystem_format (o : Outcomes) (password : String) (fstype : CInt) (partition : String)
    (secret : Option String) (t : Tables) : CInt × Option String × Tables :=
  let asked := has fstype TYPE_CRYPT ∧ secret.getD "" = ""
  let ss := if asked then password else secret.getD ""
  let secret := if asked then secret.map fun _ => password else secret
  let (opened, ss, t) :=
    if has fstype TYPE_CRYPT then open_encrypted_partition o partition (some ss) t else (true, some "", t)
  if opened then
    let t := if has fstype TYPE_LOOP then create_loop_file o fstype partition (frompath fstype partition) ss t else t
    (fstype, secret, close_encrypted o fstype partition t)
  else (0, secret, t)

/-- What the functions below carry along. -/
structure State where
  tables : Tables
  conf : Conf

/-- What the user answers in the menu of `filesystem_create`. -/
inductive Answer where
  | rfs
  | ext2
  | ext4
  | jfs
  | nothing
  /-- The file manager, in which the user may change anything. -/
  | file_manager (session : State → State)

/-- The recursion of `filesystem_create` over the answers given to its menu. The file
    manager is on the menu where `preinit.allowfm` is 1. -/
def filesystem_create (o : Outcomes) (partition : String) : List Answer → State → CInt × State
  | [], s => (0, s)
  | answer :: rest, s =>
    let format (fstype : CInt) :=
      let (fstype, _, tables) := filesystem_format o "" fstype partition none s.tables
      (fstype, { s with tables := tables })
    match answer with
    | .rfs => format TYPE_RFS
    | .ext2 => format TYPE_EXT2
    | .ext4 => format TYPE_EXT4
    | .jfs => format TYPE_JFS
    | .nothing => (0, s)
    | .file_manager session =>
      filesystem_create o partition rest (if get_conf_def s.conf "preinit.allowfm" "0" = "1" then session s else s)

/-- What the world answers to one call of `mount_from_config_or_autodetect`, step by step. -/
structure Attempt where
  first : Outcomes
  probe : Probe
  create : Outcomes
  answers : List Answer
  second : Outcomes

/-- The code that the configuration holds under a key, or 0. -/
def stored_type (conf : Conf) (keyname : String) : CInt := (sscanf_d (get_conf_def conf keyname "0")).getD 0

/-- The end of `mount_from_config_or_autodetect`: a type that was found is stored and mounted. -/
def mount_found (o : Outcomes) (fstype : CInt) (keyname partition loopname mtname : String) (secret : Option String)
    (s : State) : CInt × Option String × State :=
  if has fstype TYPE_FSTYPE_MASK then
    let conf := set_conf s.conf keyname (some (sprintf_d fstype))
    let (res, secret, tables) := check_and_mount o fstype partition loopname mtname secret s.tables
    (if res = 0 then fstype else 0, secret, ⟨tables, conf⟩)
  else (0, secret, s)

/-- The second half of `mount_from_config_or_autodetect`: the code in the configuration
    is of no use. -/
def autodetect (a : Attempt) (keyname partition loopname mtname : String) (secret : Option String) (s : State) :
    CInt × Option String × State :=
  let (fstype, tables) := filesystem_check a.probe s.conf partition s.tables
  if has fstype TYPE_FSTYPE_MASK then
    mount_found a.second fstype keyname partition loopname mtname secret ⟨tables, s.conf⟩
  else
    let (fstype, s) := filesystem_create a.create partition a.answers ⟨tables, s.conf⟩
    mount_found a.second fstype keyname partition loopname mtname secret s

def mount_from_config_or_autodetect (a : Attempt) (keyname partition loopname mtname : String)
    (secret : Option String) (s : State) : CInt × Option String × State :=
  let fstype := stored_type s.conf keyname
  if has fstype TYPE_FSTYPE_MASK then
    let (res, secret, tables) := check_and_mount a.first fstype partition loopname mtname secret s.tables
    let s := { s with tables := tables }
    if res = 0 then (fstype, secret, s) else autodetect a keyname partition loopname mtname secret s
  else autodetect a keyname partition loopname mtname secret s

/-! ### What mounting does to the configuration -/

section
variable {P : Conf → Prop} {a : Attempt} {keyname partition : String}

theorem mount_found_keeps (typed : ∀ {conf} fstype, P conf → P (set_conf conf keyname (some (sprintf_d fstype))))
    {conf : Conf} (holds : P conf) (tables : Tables) (o : Outcomes) (fstype : CInt) (loopname mtname : String)
    (secret : Option String) :
    P (mount_found o fstype keyname partition loopname mtname secret ⟨tables, conf⟩).2.2.conf := by
  unfold mount_found
  split
  · exact typed fstype holds
  · exact holds

theorem autodetect_keeps (typed : ∀ {conf} fstype, P conf → P (set_conf conf keyname (some (sprintf_d fstype))))
    (created : ∀ s, P s.conf → P (filesystem_create a.create partition a.answers s).2.conf) {conf : Conf}
    (holds : P conf) (tables : Tables) (loopname mtname : String) (secret : Option String) :
    P (autodetect a keyname partition loopname mtname secret ⟨tables, conf⟩).2.2.conf := by
  unfold autodetect
  dsimp only
  split
  · exact mount_found_keeps typed holds ..
  · exact mount_found_keeps typed (created ⟨_, conf⟩ holds) ..

/-- Beside the type that is found, only what happens while a file system is created changes it. -/
theorem mount_from_config_keeps (typed : ∀ {conf} fstype, P conf → P (set_conf conf keyname (some (sprintf_d fstype))))
    (created : ∀ s, P s.conf → P (filesystem_create a.create partition a.answers s).2.conf) {s : State} (holds : P s.conf)
    (loopname mtname : String) (secret : Option String) :
    P (mount_from_config_or_autodetect a keyname partition loopname mtname secret s).2.2.conf := by
  unfold mount_from_config_or_autodetect
  generalize stored_type s.conf keyname = fstype
  dsimp only
  split
  · split
    · exact holds
    · exact autodetect_keeps typed created holds ..
  · exact autodetect_keeps typed created holds s.tables ..

end

/-! ### The codes that probing and creating give -/

/-- The types that `detect` can give. -/
def detected_types : List CInt :=
  [0, TYPE_DIRECTORY, TYPE_EXT2, TYPE_EXT4, TYPE_RFS, TYPE_RFS ||| TYPE_RFS_BAD, TYPE_JFS]

theorem detect_type (p : Probe) (conf : Conf) (frommount : String) (t : Tables) :
    (detect p conf frommount t).1 ∈ detected_types := by
  have rfs : rfs_type p conf ∈ detected_types := by
    rw [rfs_type]
    split <;> decide
  -- one attempt: a type that is known, or what the others find
  have attempt : ∀ {mounted : Bool} {fstype : CInt} {left : Tables} {others : CInt × Tables},
      fstype ∈ detected_types → others.1 ∈ detected_types →
        (if mounted then (fstype, left) else others).1 ∈ detected_types := by
    intro mounted fstype left others found further
    cases mounted with
    | true => exact found
    | false => exact further
  have nothing : (0 : CInt) ∈ detected_types := by decide
  rw [detect]
  exact attempt (by decide) (attempt (by decide) (attempt (by decide) (attempt rfs (attempt (by decide) nothing))))

private theorem detected_known {fstype : CInt} (detected : fstype ∈ detected_types)
    (base : has fstype TYPE_FSTYPE_MASK = true) : KnownBase fstype = true := by
  simp only [detected_types, List.mem_cons, List.not_mem_nil, or_false] at detected
  rcases detected with rfl | rfl | rfl | rfl | rfl | rfl | rfl
  · cases base
  all_goals decide

private theorem flag_unmasked (p : Prop) [Decidable p] {flag : CInt} (above : has flag TYPE_FSTYPE_MASK = false) :
    has (if p then flag else 0) TYPE_FSTYPE_MASK = false := by
  split
  · exact above
  · decide

theorem identify_known (p : Probe) (conf : Conf) (partition : String) (t : Tables)
    (base : has (identify p conf partition t).1 TYPE_FSTYPE_MASK = true) :
    KnownBase (identify p conf partition t).1 = true := by
  have crypt : has TYPE_CRYPT TYPE_FSTYPE_MASK = false := by decide
  have loop : has TYPE_LOOP TYPE_FSTYPE_MASK = false := by decide
  have bind : has TYPE_BIND TYPE_FSTYPE_MASK = false := by decide
  unfold identify at base ⊢
  simp only [has_or, flag_unmasked _ crypt, flag_unmasked _ loop, flag_unmasked _ bind, Bool.or_false] at base
  exact known_or (known_or (known_or (detected_known (detect_type p conf _ _) base) _) _) _

/-- A probe that finds a base type finds one that the mount branches know. -/
theorem filesystem_check_known (p : Probe) (conf : Conf) (partition : String) (t : Tables)
    (base : has (filesystem_check p conf partition t).1 TYPE_FSTYPE_MASK = true) :
    KnownBase (filesystem_check p conf partition t).1 = true := by
  have crypt : ¬ has TYPE_CRYPT TYPE_FSTYPE_MASK = true := by decide
  unfold filesystem_check at base ⊢
  dsimp only at base ⊢
  split_ifs at base ⊢
  · exact identify_known p conf partition _ base
  · exact absurd base crypt
  · exact identify_known p conf partition _ base

/-- Formatting without encryption gives the code that was asked for. -/
theorem filesystem_format_plain {fstype : CInt} (plain : has fstype TYPE_CRYPT = false) (o : Outcomes)
    (password partition : String) (secret : Option String) (t : Tables) :
    (filesystem_format o password fstype partition secret t).1 = fstype := by
  simp [filesystem_format, plain]

/-- Formatting gives the code that was asked for, where the commands work. -/
theorem filesystem_format_works {o : Outcomes} (works : ∀ cmd, o.ok cmd = true)
    (luks : ∀ partition, o.isLuks partition = true) {password : String} (typed : password ≠ "") (fstype : CInt)
    (partition : String) (secret : Option String) (t : Tables) :
    (filesystem_format o password fstype partition secret t).1 = fstype := by
  cases crypt : has fstype TYPE_CRYPT with
  | false => exact filesystem_format_plain crypt o password partition secret t
  | true =>
    have given : (if secret.getD "" = "" then password else secret.getD "") ≠ "" := by
      split
      · exact typed
      · assumption
    have opened := open_given works luks given partition t
    simp only [filesystem_format, crypt, true_and, ↓reduceIte, opened]

theorem filesystem_create_known (o : Outcomes) (partition : String) (answers : List Answer) (s : State)
    (base : has (filesystem_create o partition answers s).1 TYPE_FSTYPE_MASK = true) :
    KnownBase (filesystem_create o partition answers s).1 = true := by
  have none : ¬ has 0 TYPE_FSTYPE_MASK = true := by decide
  induction answers generalizing s with
  | nil => exact absurd base none
  | cons answer rest ih =>
    cases answer with
    | rfs | ext2 | ext4 | jfs =>
      simp only [filesystem_create]
      rw [filesystem_format_plain (by decide)]
      decide
    | nothing => exact absurd base none
    | file_manager session => exact ih _ base

/-! ### What is mounted when a type comes back -/

theorem mount_found_mounted {o : Outcomes} {fstype : CInt} {keyname partition loopname mtname : String}
    {secret : Option String} {s : State} (known : has fstype TYPE_FSTYPE_MASK = true → KnownBase fstype = true)
    (base : has (mount_found o fstype keyname partition loopname mtname secret s).1 TYPE_FSTYPE_MASK = true) :
    mounted_at ("/" ++ mtname)
      (mount_found o fstype keyname partition loopname mtname secret s).2.2.tables.mounts = true := by
  have none : ¬ has 0 TYPE_FSTYPE_MASK = true := by decide
  unfold mount_found at base ⊢
  by_cases found : has fstype TYPE_FSTYPE_MASK = true
  · simp only [found, ↓reduceIte] at base ⊢
    split at base
    · rename_i ran
      exact check_and_mount_mounted (.inl (known found)) ran
    · exact absurd base none
  · rw [if_neg found] at base
    exact absurd base none

theorem autodetect_mounted {a : Attempt} {keyname partition loopname mtname : String} {secret : Option String}
    {s : State} (base : has (autodetect a keyname partition loopname mtname secret s).1 TYPE_FSTYPE_MASK = true) :
    mounted_at ("/" ++ mtname) (autodetect a keyname partition loopname mtname secret s).2.2.tables.mounts = true := by
  unfold autodetect at base ⊢
  dsimp only at base ⊢
  split_ifs at base ⊢
  · exact mount_found_mounted (filesystem_check_known a.probe s.conf partition s.tables) base
  · exact mount_found_mounted (filesystem_create_known a.create partition a.answers _) base

/-- The code in the configuration names neither a base type nor a loop file, and nothing
    keeps `check_and_mount` from returning 0 for it. -/
def Phantom (a : Attempt) (keyname partition : String) (s : State) : Prop :=
  has (stored_type s.conf keyname) TYPE_FSTYPE_MASK = true ∧ KnownBase (stored_type s.conf keyname) = false ∧
    has (stored_type s.conf keyname) TYPE_LOOP = false ∧
    (has (stored_type s.conf keyname) TYPE_CRYPT = true →
      a.first.isLuks partition = true ∧
        (secname partition ∈ s.tables.mappings ∨ ∃ e ∈ a.first.entries, e.2 = true))

theorem phantom_mounts_nothing {a : Attempt} {keyname partition : String} {s : State}
    (phantom : Phantom a keyname partition s) (loopname mtname : String) :
    (mount_from_config_or_autodetect a keyname partition loopname mtname none s).1 = stored_type s.conf keyname ∧
      (mount_from_config_or_autodetect a keyname partition loopname mtname none s).2.2.tables.mounts =
        s.tables.mounts := by
  obtain ⟨base, unknown, direct, opens⟩ := phantom
  obtain ⟨returns, mounts⟩ :=
    check_and_mount_phantom unknown base direct a.first partition loopname mtname none s.tables
  have ran := returns.mpr fun crypt => by
    rw [open_without_secret]
    simpa using opens crypt
  simp [mount_from_config_or_autodetect, base, ran, mounts]

theorem mount_from_config_mounted {a : Attempt} {keyname partition : String} {s : State}
    (real : ¬ Phantom a keyname partition s) {loopname mtname : String}
    (base : has (mount_from_config_or_autodetect a keyname partition loopname mtname none s).1
      TYPE_FSTYPE_MASK = true) :
    mounted_at ("/" ++ mtname)
      (mount_from_config_or_autodetect a keyname partition loopname mtname none s).2.2.tables.mounts = true := by
  unfold mount_from_config_or_autodetect at base ⊢
  dsimp only at base ⊢
  split_ifs at base ⊢ with stored ran
  · refine check_and_mount_mounted (Classical.byContradiction fun neither => real ?_) ran
    simp only [not_or, Bool.not_eq_true] at neither
    refine ⟨stored, neither.1, neither.2, fun crypt => ?_⟩
    have opened := (check_and_mount_phantom neither.1 stored neither.2 a.first partition loopname mtname none
      s.tables).1.mp ran crypt
    rw [open_without_secret] at opened
    simpa using opened
  · exact autodetect_mounted base
  · exact autodetect_mounted base

end SteamRecovery.Autodetect
