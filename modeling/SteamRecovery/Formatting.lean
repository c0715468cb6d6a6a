import SteamRecovery.RootPaths
import SteamRecovery.Roots

/-!
Formatting a root (`format_root_device` in `roots.c`). A raw flash partition is erased,
and 0 means that it was. Any other root is mounted and gets its files deleted, and 0
means nothing: it is returned where the mount fails, where another volume is on top at
the mount point, and where `rm` leaves files (`format_honest_iff`).
-/
namespace SteamRecovery.Formatting
open SteamRecovery.Devices
open SteamRecovery.MountTables
open SteamRecovery.Volumes
open SteamRecovery.Autodetect
open SteamRecovery.Roots
variable {File : Type}

/-- `PATH_MAX` -/
def PATH_MAX : Nat := 4096

/-- What the world answers to one call: the mount calls at their three places, the flash
    drivers, and what paths and deletions do to the files of the root's partition. -/
structure Answers (File : Type) where
  unmounting : World
  mounting : World
  closing : World
  mtd_write_partition : Bool
  /-- Not -1, and with that all blocks are erased. -/
  mtd_erase_blocks : Bool
  mtd_write_close : Int
  mmc_find_partition_by_name : String → Bool
  /-- 0, and with that the filesystem is new. -/
  mmc_format_ext3 : Bool
  /-- `SDEXT_DEVICE` exists. -/
  sdext : Bool
  /-- The files at or below a path, seen from the mount point. -/
  lies_at : List Char → File → Bool
  whole : ∀ f, lies_at [] f = true
  /-- The file survives the mount, which may put a new filesystem on an autodetected
      partition where it finds none. -/
  survives : File → Bool
  /-- `rm -rf` leaves the file, although it was to delete it. -/
  spared : File → Bool
  /-- What the buffer for the path holds before anything is written to it. -/
  stack : List Char
  /-- The files that the text on the stack happens to lead to. -/
  astray : File → Bool

/-- The path behind the name of the root. -/
def below (info : RootInfo) (root : String) : List Char :=
  (root.toList.drop info.name.toList.length).dropWhile (· = '/')

/-- The newest volume at a place. -/
def newest (target : String) (t : Tables) : Option (Volume String) := t.mounts.find? fun v => v.target = target

/-- A volume is mounted from the device, opened or not. -/
def from_device (device : Device) (v : Volume String) : Bool :=
  v.source = device_text device || v.source = mapper (device_text device)

/-- A volume shows the files of the device: it is mounted from it, or from the loop device
    on the file that is kept on it. -/
def shows (device : Device) (t : Tables) (v : Volume String) : Bool :=
  let mtname := (auto_names (device_text device)).2
  from_device device v ||
    (t.loops.contains (v.source, extfs mtname) && (newest (orig mtname) t).any (from_device device))

/-- The newest volume at the root's mount point shows the files of its device. -/
def on_top (info : RootInfo) (t : Tables) : Bool :=
  match info.device, info.mount_point.bind fun mount_point => newest mount_point t with
  | some device, some v => shows device t v
  | _, _ => false

/-- The files that are left on the partition by `rm -rf` of the root's path. -/
def rm_rf (w : Answers File) (info : RootInfo) (root : String) (t : Tables) (files : List File) : List File :=
  let reached :=
    match RootPaths.translate_root_path g_roots root.toList w.stack PATH_MAX with
    | some _ => w.lies_at (below info root)
    | none => w.astray
  if on_top info t then files.filter fun f => !reached f || w.spared f else files

/-- The code returned, the tables, and the files of the root's partition. `mkdir` makes no
    file, and the results of the three commands are not looked at. -/
def format_non_mtd_device (w : Answers File) (info : RootInfo) (root : String) (s : State) (files : List File) :
    Int × State × List File :=
  if root = "SDEXT:" ∧ w.sdext = false then (0, s, files)
  else
    let (code, s) := ensure_root_path_mounted w.mounting root s
    let files := if info.filesystem = some .g_auto then files.filter w.survives else files
    if code ≠ 0 then (0, s, files)
    else
      let files := rm_rf w info root s.tables files
      let (_, tables) := ensure_root_path_unmounted w.closing root s.tables
      (0, { s with tables := tables }, files)

/-- The erasure of a flash partition with a raw or a yaffs2 filesystem. What an erasure
    that fails leaves is not followed. -/
def erase_partition (w : Answers File) (s : State) (files : List File) : Int × State × List File :=
  if w.mtd_write_partition = false then (-1, s, files)
  else if w.mtd_erase_blocks = false then (-1, s, files)
  else if w.mtd_write_close ≠ 0 then (-1, s, [])
  else (0, s, [])

/-- The part of `format_root_device` behind the unmounting. -/
def format_device (w : Answers File) (info : RootInfo) (root : String) (s : State) (files : List File) :
    Int × State × List File :=
  if info.device = some .g_mtd_device then
    if (info.partition_name.bind w.unmounting.mtd_find_partition_by_name).isNone then (-1, s, files)
    else if info.filesystem = some .g_raw ∨ info.filesystem = some (.named "yaffs2") then erase_partition w s files
    else format_non_mtd_device w info root s files
  else if info.device = some .g_mmc_device then
    if info.partition_name.all fun name => !w.mmc_find_partition_by_name name then (-1, s, files)
    else
      -- a failure is logged, no more
      let files := if info.filesystem = some (.named "ext3") ∧ w.mmc_format_ext3 then [] else files
      format_non_mtd_device w info root s files
  else format_non_mtd_device w info root s files

def format_root_device (w : Answers File) (root : String) (s : State) (files : List File) :
    Int × State × List File :=
  match get_root_info_for_path root with
  | none => (-1, s, files)
  | some info =>
    if info.device = none then (-1, s, files)
    else if info.mount_point ≠ none ∧ info.device = some .g_mtd_device then
      let (ret, tables) := ensure_root_path_unmounted w.unmounting root s.tables
      if ret < 0 then (ret, { s with tables := tables }, files)
      else format_device w info root { s with tables := tables } files
    else format_device w info root s files

/-! ### When 0 is the truth -/

theorem flash_raw : ∀ info ∈ g_roots, info.device = some .g_mtd_device → info.filesystem = some .g_raw := by
  decide

theorem no_mmc : ∀ info ∈ g_roots, info.device ≠ some .g_mmc_device := by
  decide

/-- The one root that `format_non_mtd_device` may skip has no device. -/
theorem not_sdext {root : String} {info : RootInfo} (found : get_root_info_for_path root = some info)
    (device : info.device ≠ none) : root ≠ "SDEXT:" := by
  rintro rfl
  have row : get_root_info_for_path "SDEXT:" =
      some ⟨"SDEXT:", none, none, none, some "/sd-ext", some (.named "auto"), none⟩ := by decide
  rw [row] at found
  exact device (Option.some.inj found ▸ rfl)

/-- The file was lost to a new filesystem. -/
def Overwritten (w : Answers File) (info : RootInfo) (f : File) : Prop :=
  info.filesystem = some .g_auto ∧ w.survives f = false

/-- The mount returns 0, the root's own partition is what stands at its mount point then,
    and `rm -rf` reaches the file and deletes it. -/
def Deleted (w : Answers File) (info : RootInfo) (root : String) (s : State) (f : File) : Prop :=
  (ensure_root_path_mounted w.mounting root s).1 = 0 ∧
    on_top info (ensure_root_path_mounted w.mounting root s).2.tables = true ∧ w.spared f = false ∧
    (RootPaths.translate_root_path g_roots root.toList w.stack PATH_MAX = none → w.astray f = true)

theorem mem_rm_rf {w : Answers File} {info : RootInfo} {root : String} {t : Tables} {files : List File} {f : File}
    (inside : w.lies_at (below info root) f = true) :
    f ∈ rm_rf w info root t files ↔ f ∈ files ∧
      ¬ (on_top info t = true ∧ w.spared f = false ∧
        (RootPaths.translate_root_path g_roots root.toList w.stack PATH_MAX = none → w.astray f = true)) := by
  unfold rm_rf
  cases on_top info t with
  | false => simp
  | true =>
    cases RootPaths.translate_root_path g_roots root.toList w.stack PATH_MAX with
    | none =>
      cases spared : w.spared f <;> cases astray : w.astray f <;> simp [spared, astray]
    | some path => cases spared : w.spared f <;> simp [spared, inside]

theorem format_non_mtd_device_code (w : Answers File) (info : RootInfo) (root : String) (s : State)
    (files : List File) : (format_non_mtd_device w info root s files).1 = 0 := by
  unfold format_non_mtd_device
  split
  · rfl
  · dsimp only
    split <;> rfl

theorem mem_format_non_mtd_device {w : Answers File} {info : RootInfo} {root : String} (other : root ≠ "SDEXT:")
    {s : State} {files : List File} {f : File} (inside : w.lies_at (below info root) f = true) :
    f ∈ (format_non_mtd_device w info root s files).2.2 ↔
      f ∈ files ∧ ¬ (Overwritten w info f ∨ Deleted w info root s f) := by
  have kept : f ∈ (if info.filesystem = some .g_auto then files.filter w.survives else files) ↔
      f ∈ files ∧ ¬ Overwritten w info f := by
    unfold Overwritten
    split
    · next auto => simp [auto]
    · next auto => simp [auto]
  unfold format_non_mtd_device Deleted
  simp only [other, false_and, ↓reduceIte]
  by_cases mounted : (ensure_root_path_mounted w.mounting root s).1 = 0
  · simp only [mounted, ne_eq, not_true_eq_false, ↓reduceIte, mem_rm_rf inside, kept, true_and, not_or]
    tauto
  · simp only [mounted, ne_eq, not_false_eq_true, ↓reduceIte, kept, false_and, or_false]

theorem erase_partition_empty {w : Answers File} {s : State} {files : List File}
    (returned : (erase_partition w s files).1 = 0) : (erase_partition w s files).2.2 = [] := by
  unfold erase_partition at *
  split_ifs at * <;> first | rfl | cases returned

/-- Flash partitions are erased, or it is not 0 that is returned. -/
theorem format_device_flash {w : Answers File} {info : RootInfo} (member : info ∈ g_roots)
    (flash : info.device = some .g_mtd_device) {root : String} {s : State} {files : List File}
    (returned : (format_device w info root s files).1 = 0) : (format_device w info root s files).2.2 = [] := by
  unfold format_device at *
  simp only [flash, flash_raw info member flash, ↓reduceIte, true_or] at *
  split_ifs at *
  · cases returned
  · exact erase_partition_empty returned

theorem format_root_device_flash {w : Answers File} {root : String} {info : RootInfo}
    (found : get_root_info_for_path root = some info) (flash : info.device = some .g_mtd_device) {s : State}
    {files : List File} (returned : (format_root_device w root s files).1 = 0) :
    (format_root_device w root s files).2.2 = [] := by
  have member := get_root_info_mem found
  have named : info.device ≠ none := by simp [flash]
  unfold format_root_device at *
  simp only [found, named, ↓reduceIte] at *
  split_ifs at *
  · dsimp only at *
    omega
  · exact format_device_flash member flash returned
  · exact format_device_flash member flash returned

/-- A root on a block device goes straight to `format_non_mtd_device`. -/
theorem format_root_device_block {root : String} {info : RootInfo} (found : get_root_info_for_path root = some info)
    (named : info.device ≠ none) (block : info.device ≠ some .g_mtd_device) (w : Answers File) (s : State)
    (files : List File) : format_root_device w root s files = format_non_mtd_device w info root s files := by
  have no_card := no_mmc info (get_root_info_mem found)
  simp [format_root_device, format_device, found, named, block, no_card]

/-- That 0 is returned means that none of the files that the root path leads to is left,
    exactly where the root is a flash partition or has no device, or each of the files
    is lost to a new filesystem or deleted through a mount of the root's own partition. -/
theorem format_honest_iff (w : Answers File) {root : String} {info : RootInfo}
    (resolves : get_root_info_for_path root = some info) (s : State) (files : List File) :
    ((format_root_device w root s files).1 = 0 →
      ∀ f ∈ files, w.lies_at (below info root) f = true → f ∉ (format_root_device w root s files).2.2) ↔
    info.device = none ∨ info.device = some .g_mtd_device ∨
      ∀ f ∈ files, w.lies_at (below info root) f = true → Overwritten w info f ∨ Deleted w info root s f := by
  by_cases named : info.device = none
  · have refused : (format_root_device w root s files).1 = -1 := by simp [format_root_device, resolves, named]
    simp [refused, named]
  · by_cases flash : info.device = some .g_mtd_device
    · simp only [flash, true_or, or_true, iff_true]
      intro returned f _ _
      rw [format_root_device_flash resolves flash returned]
      exact List.not_mem_nil
    · rw [format_root_device_block resolves named flash, format_non_mtd_device_code]
      simp only [named, flash, false_or, true_implies]
      refine forall_congr' fun f => forall_congr' fun member => forall_congr' fun inside => ?_
      rw [mem_format_non_mtd_device (not_sdext resolves named) inside]
      simp [member, or_iff_not_imp_left]

/-- Every path leads to every file, and every call works. -/
def obliging : Answers String where
  unmounting := calm
  mounting := calm
  closing := calm
  mtd_write_partition := true
  mtd_erase_blocks := true
  mtd_write_close := 0
  mmc_find_partition_by_name _ := true
  mmc_format_ext3 := true
  sdext := true
  lies_at _ _ := true
  whole _ := rfl
  survives _ := true
  spared _ := false
  stack := []
  astray _ := true

/-- The cache, mounted before. -/
theorem cache_emptied :
    let s : State := { blank with tables := ⟨[⟨CACHE_BLOCK_NAME, "/cache"⟩], [], []⟩ }
    (format_root_device obliging "CACHE:" s ["recovery/log"]).1 = 0 ∧
      "recovery/log" ∉ (format_root_device obliging "CACHE:" s ["recovery/log"]).2.2 := by
  intro s
  have returned : (format_root_device obliging "CACHE:" s ["recovery/log"]).1 = 0 := by decide
  have row : get_root_info_for_path "CACHE:" = some ⟨"CACHE:", some (.block CACHE_BLOCK_NAME), none, some "cache",
      some "/cache", some .g_auto, none⟩ := by decide
  refine ⟨returned, (format_honest_iff obliging row s ["recovery/log"]).mpr ?_ returned _ List.mem_cons_self rfl⟩
  exact .inr (.inr fun f _ _ => .inr ⟨by decide, by decide, rfl, fun _ => rfl⟩)

/-- `/data` on a loop file is emptied as well. -/
example :
    let looped : State := { blank with conf := ⟨[("fs.data.type", "260")], by decide, none, false, fun _ => none⟩ }
    (format_root_device obliging "DATA:" looped ["app/a.apk"]).2.2 = [] := by
  decide +kernel

/-- A card that cannot be mounted: 0 is returned, and its file is still there. -/
theorem card_kept :
    let gone : World := { calm with o := { all_work with ok := fun _ => false } }
    let w : Answers String := { obliging with mounting := gone }
    ¬ ((format_root_device w "SDCARD:" blank ["DCIM/1.jpg"]).1 = 0 →
      ∀ f ∈ ["DCIM/1.jpg"], f ∉ (format_root_device w "SDCARD:" blank ["DCIM/1.jpg"]).2.2) := by
  decide

end SteamRecovery.Formatting
