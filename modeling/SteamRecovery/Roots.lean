import SteamRecovery.Autodetect
import SteamRecovery.Unmounting

/-!
Mounting and unmounting roots by name (`roots.c`). Both calls return 0 for more
than they have done: a root is taken for mounted when the configuration holds a
code that stands for nothing (`Phantom`), and for unmounted when only some of what
was mounted there is gone, or, unless it is autodetected, nothing is
(`mount_protocol_iff`).
-/
namespace SteamRecovery.Roots
open SteamRecovery.Devices
open SteamRecovery.MountTables
open SteamRecovery.Volumes
open SteamRecovery.Unmounting
open SteamRecovery.Autodetect

/-- What the world answers to one call: the result of `scan_mounted_volumes`, the block
    devices of the mtd partitions, whether each mount or umount works, and the answers
    to an autodetected mount. -/
structure World where
  scan_mounted_volumes : Int
  mtd_find_partition_by_name : String → Option String
  o : Outcomes
  attempt : Attempt

def internal_root_mounted (w : World) (info : RootInfo) (t : Tables) : Int :=
  match info.mount_point with
  | none => -1
  | some mount_point =>
    if w.scan_mounted_volumes < 0 then w.scan_mounted_volumes
    else if mounted_at mount_point t.mounts then 0
    else -1

def is_root_path_mounted (w : World) (root_path : String) (t : Tables) : Int :=
  match get_root_info_for_path root_path with
  | none => -1
  | some info => if 0 ≤ internal_root_mounted w info t then 1 else 0

/-- The loop device and the mount name of an autodetected device. -/
def auto_names (device : String) : String × String :=
  if device = SYSTEM_BLOCK_NAME then ("loop4", "system")
  else if device = CACHE_BLOCK_NAME then ("loop1", "cache")
  else if device = DBDATA_BLOCK_NAME then ("loop3", "dbdata")
  else if device = DATA_BLOCK_NAME then ("loop2", "data")
  else ("loop5", "xxx")

def type_key (mtname : String) : String := "fs." ++ mtname ++ ".type"

/-- The text that a `device` pointer points to. -/
def device_text : Device → String
  | .g_mtd_device | .g_mmc_device => "@"
  | .block name => name

/-- The text that a `filesystem` pointer points to. -/
def filesystem_text : Filesystem → String
  | .g_raw | .g_package_file | .g_auto => "@"
  | .named name => name

/-- `mount(2)` and `mount(8)`: 0, or some other number where it fails. -/
def plain_mount (w : World) (filesystem options device mount_point : String) (s : State) : Int × State :=
  let (mounted, tables) := w.o.call (.mount filesystem options device mount_point) s.tables
  (if mounted then 0 else -1, { s with tables := tables })

def mount_internal (w : World) (device mount_point : String) (filesystem : Filesystem)
    (filesystem_options : Option String) (s : State) : Int × State :=
  match filesystem with
  | .g_auto =>
    let (loopname, mtname) := auto_names device
    let (fstype, _, s) :=
      mount_from_config_or_autodetect w.attempt (type_key mtname) device loopname mtname none s
    (if has fstype TYPE_FSTYPE_MASK then 0 else -1, s)
  | filesystem =>
    if filesystem_text filesystem ≠ "auto" ∧ filesystem_options = none then
      plain_mount w (filesystem_text filesystem) "" device mount_point s
    else
      plain_mount w (filesystem_text filesystem) (filesystem_options.getD "noatime,nodiratime,nodev") device
        mount_point s

/-- The end of `ensure_root_path_mounted`, for a device that is no mtd partition. -/
def mount_device (w : World) (info : RootInfo) (device : Device) (mount_point : String) (filesystem : Filesystem)
    (s : State) : Int × State :=
  if filesystem = .g_raw ∨ filesystem = .g_package_file then (-1, s)
  else
    let (code, s) := mount_internal w (device_text device) mount_point filesystem info.filesystem_options s
    if code ≠ 0 then
      match info.device2 with
      | none => (-1, s)
      | some device2 => plain_mount w (filesystem_text filesystem) "" device2 mount_point s
    else (0, s)

def ensure_root_path_mounted (w : World) (root_path : String) (s : State) : Int × State :=
  match get_root_info_for_path root_path with
  | none => (-1, s)
  | some info =>
    if 0 ≤ internal_root_mounted w info s.tables then (0, s)
    else if info.device = some .g_mtd_device then
      match info.partition_name.bind w.mtd_find_partition_by_name, info.mount_point with
      | some partition, some mount_point =>
        plain_mount w ((info.filesystem.map filesystem_text).getD "") "" partition mount_point s
      | _, _ => (-1, s)
    else
      match info.device, info.mount_point, info.filesystem with
      | some device, some mount_point, some filesystem => mount_device w info device mount_point filesystem s
      | _, _, _ => (-1, s)

/-- `unmount_mounted_volume` of the volume found at the mount point. -/
def unmount_mounted_volume (w : World) (mount_point : String) (t : Tables) : Int × Tables :=
  let (unmounted, t) := w.o.call (.umount mount_point) t
  (if unmounted then 0 else -1, t)

def ensure_root_path_unmounted (w : World) (root_path : String) (t : Tables) : Int × Tables :=
  match get_root_info_for_path root_path with
  | none => (-1, t)
  | some info =>
    match info.mount_point with
    | none => (0, t)
    | some mount_point =>
      if w.scan_mounted_volumes < 0 then (w.scan_mounted_volumes, t)
      else if mounted_at mount_point t.mounts then
        let (ret, t) := if info.filesystem = some .g_auto then unmount_filesystem w.o mount_point t else (0, t)
        if ret ≠ 0 then unmount_mounted_volume w mount_point t else (0, t)
      else (0, t)

/-! ### When 0 is the truth -/

/-- The autodetected roots, whose mount points are the mount names of their devices and
    are known to `unmount_filesystem`. -/
theorem auto_root : ∀ info ∈ g_roots, info.filesystem = some .g_auto → ∃ device ∈ info.device.toList,
    device ≠ .g_mtd_device ∧ info.mount_point = some ("/" ++ (auto_names (device_text device)).2) ∧
      (∃ mount_point ∈ info.mount_point.toList, (unmount_names mount_point).isSome = true) := by
  decide

theorem no_second_device : ∀ info ∈ g_roots, info.device2 = none := by
  decide

/-- The code that the configuration holds for the root stands for nothing. -/
def PhantomRoot (w : World) (info : RootInfo) (s : State) : Prop :=
  info.filesystem = some .g_auto ∧ ∃ device ∈ info.device.toList,
    Phantom w.attempt (type_key (auto_names (device_text device)).2) (device_text device) s

theorem is_root_path_mounted_eq {w : World} (scanned : 0 ≤ w.scan_mounted_volumes) {root_path : String}
    {info : RootInfo} (found : get_root_info_for_path root_path = some info) {mount_point : String}
    (point : info.mount_point = some mount_point) (t : Tables) :
    is_root_path_mounted w root_path t = if mounted_at mount_point t.mounts then 1 else 0 := by
  rw [is_root_path_mounted, found]
  simp only [internal_root_mounted, point, if_neg (Int.not_lt.mpr scanned)]
  cases mounted_at mount_point t.mounts <;> simp

theorem plain_mount_mounted {w : World} {filesystem options device mount_point : String} {s : State}
    (ran : (plain_mount w filesystem options device mount_point s).1 = 0) :
    mounted_at mount_point (plain_mount w filesystem options device mount_point s).2.tables.mounts = true := by
  unfold plain_mount at *
  cases mounted : (w.o.call (.mount filesystem options device mount_point) s.tables).1 with
  | false => simp [mounted] at ran
  | true =>
    have after := run_true mounted
    simp only [Outcomes.call, after]
    simp [Cmd.effect, mounted_at]

private theorem not_running (w : World) {t : Tables} {info : RootInfo} {mount_point : String}
    (point : info.mount_point = some mount_point) (absent : mounted_at mount_point t.mounts = false) :
    ¬ 0 ≤ internal_root_mounted w info t := by
  simp only [internal_root_mounted, point, absent]
  split
  · omega
  · decide

/-- An autodetected device is mounted, or stood for by a code. -/
theorem mount_auto_iff {w : World} {info : RootInfo} {device : Device} {mount_point : String} {s : State}
    (point : mount_point = "/" ++ (auto_names (device_text device)).2) (single : info.device2 = none)
    (absent : mounted_at mount_point s.tables.mounts = false) :
    ((mount_device w info device mount_point .g_auto s).1 = 0 →
      mounted_at mount_point (mount_device w info device mount_point .g_auto s).2.tables.mounts = true) ↔
      ¬ Phantom w.attempt (type_key (auto_names (device_text device)).2) (device_text device) s := by
  subst point
  have runs : mount_device w info device ("/" ++ (auto_names (device_text device)).2) .g_auto s =
      let r := mount_from_config_or_autodetect w.attempt (type_key (auto_names (device_text device)).2)
        (device_text device) (auto_names (device_text device)).1 (auto_names (device_text device)).2 none s
      (if has r.1 TYPE_FSTYPE_MASK then 0 else -1, r.2.2) := by
    simp only [mount_device, mount_internal, single]
    split_ifs <;> simp_all
  rw [runs]
  dsimp only
  constructor
  · intro truth phantom
    obtain ⟨returned, same⟩ := phantom_mounts_nothing phantom (auto_names (device_text device)).1
      (auto_names (device_text device)).2
    rw [returned, same, absent, if_pos phantom.1] at truth
    exact absurd (truth rfl) (by simp)
  · intro real ran
    split at ran
    · rename_i base
      exact mount_from_config_mounted real base
    · cases ran

theorem mount_device_mounted {w : World} {info : RootInfo} {device : Device} {mount_point : String}
    {filesystem : Filesystem} {s : State} (plain : filesystem ≠ .g_auto)
    (ran : (mount_device w info device mount_point filesystem s).1 = 0) :
    mounted_at mount_point (mount_device w info device mount_point filesystem s).2.tables.mounts = true := by
  have internal : (mount_internal w (device_text device) mount_point filesystem info.filesystem_options s).1 = 0 →
      mounted_at mount_point
        (mount_internal w (device_text device) mount_point filesystem info.filesystem_options s).2.tables.mounts =
          true := by
    unfold mount_internal
    split
    · exact absurd rfl plain
    · split <;> exact plain_mount_mounted
  unfold mount_device at ran ⊢
  dsimp only at ran ⊢
  split_ifs at ran ⊢ with unmountable failed
  · cases ran
  · split at ran
    · cases ran
    · exact plain_mount_mounted ran
  · exact internal (by simpa using failed)

/-- `ensure_root_path_mounted` returns 0 for what is mounted exactly where something was
    mounted there before, or the configuration holds no code that stands for nothing. -/
theorem ensure_root_path_mounted_iff {root_path : String} {info : RootInfo}
    (found : get_root_info_for_path root_path = some info) {mount_point : String}
    (point : info.mount_point = some mount_point) {w : World} (scanned : 0 ≤ w.scan_mounted_volumes) (s : State) :
    ((ensure_root_path_mounted w root_path s).1 = 0 →
      mounted_at mount_point (ensure_root_path_mounted w root_path s).2.tables.mounts = true) ↔
      (mounted_at mount_point s.tables.mounts = true ∨ ¬ PhantomRoot w info s) := by
  have member := get_root_info_mem found
  cases absent : mounted_at mount_point s.tables.mounts with
  | true =>
    simp [ensure_root_path_mounted, found, internal_root_mounted, point, absent, not_lt.mpr scanned]
  | false =>
    simp only [ensure_root_path_mounted, found, if_neg (not_running w point absent), Bool.false_eq_true, false_or]
    by_cases auto : info.filesystem = some .g_auto
    · obtain ⟨device, isDevice, notMtd, named, _⟩ := auto_root info member auto
      have device_eq : info.device = some device := by simpa using isDevice
      rw [device_eq, if_neg (by simpa using notMtd)]
      simp only [point, auto]
      rw [mount_auto_iff (Option.some.inj (point.symm.trans named)) (no_second_device info member) absent]
      simp [PhantomRoot, auto, device_eq]
    · have real : ¬ PhantomRoot w info s := fun phantom => auto phantom.1
      simp only [real, not_false_eq_true, iff_true]
      intro ran
      split_ifs at ran ⊢
      · split at ran
        · rename_i mount_point' _ isPoint
          obtain rfl := Option.some.inj (point.symm.trans isPoint)
          exact plain_mount_mounted ran
        · cases ran
      · split at ran
        · rename_i mount_point' filesystem _ isPoint isFilesystem
          obtain rfl := Option.some.inj (point.symm.trans isPoint)
          exact mount_device_mounted (fun same => auto (same ▸ isFilesystem)) ran
        · cases ran

/-- Everything that is mounted at the mount point gets unmounted: the root is
    autodetected, and each volume there is taken by one of the umounts that work. -/
def AllTaken (w : World) (info : RootInfo) (mount_point : String) (t : Tables) : Prop :=
  ∀ i v, t.mounts[i]? = some v → v.target = mount_point →
    info.filesystem = some .g_auto ∧ ∃ names, unmount_names mount_point = some names ∧
      Taken (fun x => w.o.ok (.umount x)) t.mounts [mapper names.2, names.2, names.1] i

private theorem not_mounted_at {mount_point : String} {table : List (Volume String)} :
    mounted_at mount_point table = false ↔ ∀ v ∈ table, v.target ≠ mount_point := by
  simp [mounted_at]

/-- `ensure_root_path_unmounted` always returns 0, which is true exactly where everything
    at the mount point gets unmounted. -/
theorem ensure_root_path_unmounted_iff {root_path : String} {info : RootInfo}
    (found : get_root_info_for_path root_path = some info) {mount_point : String}
    (point : info.mount_point = some mount_point) {w : World} (scanned : 0 ≤ w.scan_mounted_volumes) (t : Tables) :
    ((ensure_root_path_unmounted w root_path t).1 = 0 →
      mounted_at mount_point (ensure_root_path_unmounted w root_path t).2.mounts = false) ↔
      AllTaken w info mount_point t := by
  simp only [ensure_root_path_unmounted, found, point, if_neg (not_lt.mpr scanned)]
  cases present : mounted_at mount_point t.mounts with
  | false =>
    have none := not_mounted_at.mp present
    simp only [Bool.false_eq_true, ↓reduceIte, present, forall_const, true_iff]
    exact fun i v place target => absurd target (none v (List.mem_of_getElem? place))
  | true =>
    by_cases auto : info.filesystem = some .g_auto
    · obtain ⟨_, _, _, _, known⟩ := auto_root info (get_root_info_mem found) auto
      simp only [point, Option.toList_some, List.mem_singleton, exists_eq_left, Option.isSome_iff_exists] at known
      obtain ⟨names, known⟩ := known
      have code : (unmount_filesystem w.o mount_point t).1 = 0 := by rw [unmount_filesystem_eq known]
      simp only [↓reduceIte, auto, code, ne_eq, not_true_eq_false, forall_const,
        unmount_filesystem_mounts known, not_mounted_at, mem_teardown, AllTaken, known, Option.some.injEq,
        exists_eq_left', true_and]
      constructor
      · intro gone i v place target
        by_contra left
        exact gone v ⟨i, place, left⟩ target
      · rintro taken v ⟨i, place, left⟩ target
        exact left (taken i v place target)
    · simp only [↓reduceIte, auto, ne_eq, not_true_eq_false, present, forall_const, Bool.true_eq_false, false_iff]
      intro taken
      obtain ⟨v, member, target⟩ := mounted_at_iff.mp present
      obtain ⟨i, place⟩ := List.mem_iff_getElem?.mp member
      exact auto (taken i v place target).1

/-- Both calls keep their word, that 0 means mounted and unmounted, exactly where no
    code stands for nothing and everything at the mount point gets unmounted. -/
theorem mount_protocol_iff {root_path : String} {info : RootInfo}
    (found : get_root_info_for_path root_path = some info) {mount_point : String}
    (point : info.mount_point = some mount_point) {w : World} (scanned : 0 ≤ w.scan_mounted_volumes) (s : State) :
    (((ensure_root_path_unmounted w root_path s.tables).1 = 0 →
        is_root_path_mounted w root_path (ensure_root_path_unmounted w root_path s.tables).2 = 0) ∧
      ((ensure_root_path_mounted w root_path s).1 = 0 →
        is_root_path_mounted w root_path (ensure_root_path_mounted w root_path s).2.tables = 1)) ↔
    AllTaken w info mount_point s.tables ∧
      (mounted_at mount_point s.tables.mounts = true ∨ ¬ PhantomRoot w info s) := by
  have reports := is_root_path_mounted_eq scanned found point
  have zero : ∀ b : Bool, (if b then (1 : Int) else 0) = 0 ↔ b = false := by decide
  have one : ∀ b : Bool, (if b then (1 : Int) else 0) = 1 ↔ b = true := by decide
  simp only [reports, zero, one]
  rw [ensure_root_path_unmounted_iff found point scanned, ensure_root_path_mounted_iff found point scanned]

/-- Every call works and nothing needs asking. -/
def calm : World where
  scan_mounted_volumes := 0
  mtd_find_partition_by_name _ := none
  o := all_work
  attempt := ⟨all_work, ⟨all_work, fun _ => false, fun _ => false, none⟩, all_work, [], all_work⟩

/-- Nothing is mounted, and nothing configured. -/
def blank : State := ⟨no_tables, ⟨[], by simp, none, false, fun _ => none⟩⟩

theorem mount_protocol_cache :
    (((ensure_root_path_unmounted calm "CACHE:" blank.tables).1 = 0 →
        is_root_path_mounted calm "CACHE:" (ensure_root_path_unmounted calm "CACHE:" blank.tables).2 = 0) ∧
      ((ensure_root_path_mounted calm "CACHE:" blank).1 = 0 →
        is_root_path_mounted calm "CACHE:" (ensure_root_path_mounted calm "CACHE:" blank).2.tables = 1)) ↔
    AllTaken calm ⟨"CACHE:", some (.block CACHE_BLOCK_NAME), none, some "cache", some "/cache", some .g_auto, none⟩
        "/cache" blank.tables ∧
      (mounted_at "/cache" blank.tables.mounts = true ∨
        ¬ PhantomRoot calm ⟨"CACHE:", some (.block CACHE_BLOCK_NAME), none, some "cache", some "/cache", some .g_auto,
          none⟩ blank) :=
  mount_protocol_iff (by decide) rfl (by decide) blank

/-- Unmounting the SD card returns 0 and leaves it mounted. -/
theorem sdcard_stays_mounted :
    ensure_root_path_unmounted calm "SDCARD:" ⟨[⟨SDCARD_BLOCK_NAME, "/mnt/sdcard"⟩], [], []⟩ =
        (0, ⟨[⟨SDCARD_BLOCK_NAME, "/mnt/sdcard"⟩], [], []⟩) ∧
      is_root_path_mounted calm "SDCARD:" ⟨[⟨SDCARD_BLOCK_NAME, "/mnt/sdcard"⟩], [], []⟩ = 1 := by
  decide

end SteamRecovery.Roots
