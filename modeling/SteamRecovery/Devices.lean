import Mathlib.Data.BitVec
import Mathlib.Data.List.Basic
import Mathlib.Tactic.Tauto

/-!
Filesystem codes (`roots.h`) and the roots of the device (`device/sgs-i9000.h`,
`device/sgs-i9000.c`). A code is a C `int` read bit by bit: one of five base
types under `TYPE_FSTYPE_MASK`, and flags above it. The mask also covers two bits
that name no base type, so a code can pass the mask and match no branch
(`KnownBase`).
-/
namespace SteamRecovery.Devices

/-- A C `int`. -/
abbrev CInt := BitVec 32

def TYPE_RFS : CInt := 1
def TYPE_EXT2 : CInt := 2
def TYPE_EXT4 : CInt := 4
def TYPE_JFS : CInt := 8
def TYPE_DIRECTORY : CInt := 64
def TYPE_FSTYPE_MASK : CInt := 127
def TYPE_CRYPT : CInt := 128
def TYPE_LOOP : CInt := 256
def TYPE_BIND : CInt := 512
def TYPE_RFS_BAD : CInt := 1024

/-- The truth value of `fstype&mask`. -/
def has (fstype mask : CInt) : Bool := fstype &&& mask ≠ 0

/-- The base type of a code is one that the mount and format branches know. -/
def KnownBase (fstype : CInt) : Bool :=
  has fstype TYPE_RFS || has fstype TYPE_EXT2 || has fstype TYPE_EXT4 || has fstype TYPE_JFS ||
    has fstype TYPE_DIRECTORY

/-- A bit under the mask survives the mask. -/
theorem masked {bit fstype : CInt} (under : bit &&& TYPE_FSTYPE_MASK = bit) :
    (fstype &&& TYPE_FSTYPE_MASK) &&& bit = fstype &&& bit := by
  rw [BitVec.and_assoc, BitVec.and_comm TYPE_FSTYPE_MASK, under]

theorem has_mask {bit fstype : CInt} (under : bit &&& TYPE_FSTYPE_MASK = bit) (set : has fstype bit = true) :
    has fstype TYPE_FSTYPE_MASK = true := by
  simp only [has, decide_eq_true_eq] at *
  intro none
  apply set
  rw [← masked under, none]
  exact BitVec.zero_and

theorem has_base {fstype : CInt} (known : KnownBase fstype = true) : has fstype TYPE_FSTYPE_MASK = true := by
  simp only [KnownBase, Bool.or_eq_true] at known
  rcases known with (((rfs | ext2) | ext4) | jfs) | directory
  · exact has_mask (by decide) rfs
  · exact has_mask (by decide) ext2
  · exact has_mask (by decide) ext4
  · exact has_mask (by decide) jfs
  · exact has_mask (by decide) directory

theorem has_or (a b mask : CInt) : has (a ||| b) mask = (has a mask || has b mask) := by
  unfold has
  rw [BitVec.and_or_distrib_right]
  by_cases left : a &&& mask = 0 <;> by_cases right : b &&& mask = 0 <;> simp [left, right]

/-- A base type stays known under further flags. -/
theorem known_or {a : CInt} (known : KnownBase a = true) (b : CInt) : KnownBase (a ||| b) = true := by
  simp only [KnownBase, has_or, Bool.or_eq_true] at *
  tauto

/-! ### Block devices and roots -/

def EFS_BLOCK_NAME : String := "/dev/block/stl3"
def CACHE_BLOCK_NAME : String := "/dev/block/stl11"
def DATA_BLOCK_NAME : String := "/dev/block/mmcblk0p2"
def SYSTEM_BLOCK_NAME : String := "/dev/block/stl9"
def DBDATA_BLOCK_NAME : String := "/dev/block/stl10"
def SDCARD_BLOCK_NAME : String := "/dev/block/mmcblk0p1"
def SDCARD2_BLOCK_NAME : String := "/dev/block/mmcblk1p1"

/-- `strrchr(path,'/')+1`: the text after the last slash. C has no such text where
    there is no slash; here it is then the whole path. -/
def basename (path : String) : String := String.ofList (path.toList.reverse.takeWhile (· ≠ '/')).reverse

/-- The name under which cryptsetup opens a partition. -/
def secname (partition : String) : String := "sec" ++ basename partition

/-- The device that an opened partition appears as. -/
def mapper (partition : String) : String := "/dev/mapper/" ++ secname partition

/-- What a root's `device` points to. -/
inductive Device where
  | g_mtd_device
  | g_mmc_device
  | block (name : String)
  deriving DecidableEq, Repr

/-- What a root's `filesystem` points to. -/
inductive Filesystem where
  | g_raw
  | g_package_file
  | g_auto
  | named (name : String)
  deriving DecidableEq, Repr

/-- A row of `g_roots`; a NULL pointer is `none`. -/
structure RootInfo where
  name : String
  device : Option Device
  device2 : Option String
  partition_name : Option String
  mount_point : Option String
  filesystem : Option Filesystem
  filesystem_options : Option String
  deriving DecidableEq, Repr

def g_roots : List RootInfo := [
  ⟨"BOOT:", some .g_mtd_device, none, some "boot", none, some .g_raw, none⟩,
  ⟨"RECOVERY:", some .g_mtd_device, none, some "recovery", some "/", some .g_raw, none⟩,
  ⟨"MBM:", some .g_mtd_device, none, some "mbm", none, some .g_raw, none⟩,
  ⟨"EFS:", some (.block EFS_BLOCK_NAME), none, some "efs", some "/efs", some (.named "rfs"),
    some "nosuid,nodev,check=no"⟩,
  ⟨"CACHE:", some (.block CACHE_BLOCK_NAME), none, some "cache", some "/cache", some .g_auto, none⟩,
  ⟨"DATA:", some (.block DATA_BLOCK_NAME), none, some "userdata", some "/data", some .g_auto, none⟩,
  ⟨"SYSTEM:", some (.block SYSTEM_BLOCK_NAME), none, some "system", some "/system", some .g_auto, none⟩,
  ⟨"DATADATA:", some (.block DBDATA_BLOCK_NAME), none, some "datadata", some "/dbdata", some .g_auto, none⟩,
  ⟨"SDCARD:", some (.block SDCARD_BLOCK_NAME), none, some "sdcard", some "/mnt/sdcard", some (.named "vfat"), none⟩,
  ⟨"SDCARD2:", some (.block SDCARD2_BLOCK_NAME), none, some "sdcard2", some "/mnt/external_sd",
    some (.named "vfat"), none⟩,
  ⟨"SDEXT:", none, none, none, some "/sd-ext", some (.named "auto"), none⟩,
  ⟨"PACKAGE:", none, none, none, none, some .g_package_file, none⟩,
  ⟨"TMP:", none, none, none, some "/tmp", none, none⟩]

/-- The row whose name the path starts with, up to and including its first colon. -/
def get_root_info_for_path (root_path : String) : Option RootInfo :=
  let before := root_path.toList.takeWhile (· ≠ ':')
  if before.length = root_path.toList.length then none
  else
    let len := before.length + 1
    g_roots.find? fun info => info.name.toList.take len = root_path.toList.take len

theorem get_root_info_mem {root_path : String} {info : RootInfo}
    (found : get_root_info_for_path root_path = some info) : info ∈ g_roots := by
  unfold get_root_info_for_path at found
  dsimp only at found
  split at found
  · cases found
  · exact List.mem_of_find?_eq_some found

example : (get_root_info_for_path "SDCARD:/.android_secure").map RootInfo.mount_point =
    some (some "/mnt/sdcard") := by decide

end SteamRecovery.Devices
