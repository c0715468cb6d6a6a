import Mathlib.Logic.Function.Basic
import SteamRecovery.Devices
import SteamRecovery.Routines

/-!
Backing up and restoring partitions (`nandroid.c`). Each partition goes by its root
path, and its image in the backup directory by the name of its mount point. The
external steps (mounts, checks, formats, images) return the codes that `Outcomes`
gives them.
-/
namespace SteamRecovery.Nandroid
open SteamRecovery.Devices
open SteamRecovery.Routines

def BACKUP_SYSTEM : CInt := 1
def BACKUP_CACHE : CInt := 2
def BACKUP_DATA : CInt := 4
def BACKUP_DATADATA : CInt := 8
def BACKUP_EFS : CInt := 16
def BACKUP_SDEXT : CInt := 32
def BACKUP_BOOTABLES : CInt := 64
def BACKUP_OTHERS : CInt := 128
def BACKUP_NOUMOUNT : CInt := 512
def BACKUP_NOFORMAT : CInt := 1024
def BACKUP_NOMD5 : CInt := 2048

/-- The flags of the build that decide which partitions there are. -/
structure Build where
  BOARD_RECOVERY_IGNORE_BOOTABLES : Bool
  HAS_DATADATA : Bool
  deriving DecidableEq

/-- What a partition or an image holds: a whole tree of files, or what is left of one. -/
inductive Contents (Tree : Type) where
  | whole (tree : Tree)
  | remains
  deriving DecidableEq

/-- The partitions by root path, the images in the backup directory by file name, and
    the partitions erased so far, the last one first. -/
structure Flash (Tree : Type) where
  contents : String → Contents Tree
  images : String → Option (Contents Tree)
  erased : List String

/-- The codes that the external steps return. -/
structure Outcomes where
  ensure_root_path_mounted : String → Int
  ensure_root_path_unmounted : String → Int
  format_root_device : String → Int
  statfs : Int
  /-- `stat` of `/mnt/sdcard/.android_secure` and of the sd-ext device. -/
  stat : String → Int
  md5sum : Int
  md5sum_check : Int
  read_raw_image : String → Int
  write_raw_image : Int
  mkyaffs2image : String → Int
  unyaffs : String → Int

variable {Tree : Type}

/-- A step that changes nothing in the flash memory. -/
def call (code : Int) : Routine (Flash Tree) := fun s => (code, s)

theorem call_state (code : Int) (s : Flash Tree) : (call code s).2 = s := rfl

/-- `print_and_error` where a step fails. -/
def orError (code : Int) : Int := if code = 0 then 0 else 1

/-! ### Names of images -/

/-- The path of a root path, for the roots that have a mount point. -/
def translate_root_path (root_path : String) : Option String :=
  match get_root_info_for_path root_path with
  | none => none
  | some info => info.mount_point.map fun mount_point =>
      let rest := (root_path.toList.drop info.name.toList.length).dropWhile (· = '/')
      let separator := if mount_point.toList.getLast? = some '/' then "" else "/"
      mount_point ++ separator ++ String.ofList rest

/-- The C library's `basename`, which does not count slashes at the end. -/
def libc_basename (path : String) : String :=
  basename (String.ofList (path.toList.reverse.dropWhile (· = '/')).reverse)

/-- `"%s.img"` with the name of the root's mount point. -/
def image_name (root : String) : String := libc_basename ((translate_root_path root).getD "") ++ ".img"

example : ["SYSTEM:", "DATA:", "DATADATA:", "SDCARD:/.android_secure", "CACHE:", "EFS:", "SDEXT:"].map image_name =
    ["system.img", "data.img", "dbdata.img", ".android_secure.img", "cache.img", "efs.img", "sd-ext.img"] := by decide

/-! ### Backing up -/

/-- An image is written whole, or, where a step fails, in part. -/
def write_image (code : Int) (root image : String) : Routine (Flash Tree) := fun s =>
  (code, { s with images := Function.update s.images image (some (if code = 0 then s.contents root else .remains)) })

/-- Unmounting the partition again, where that is asked for, changes no contents, and its
    result is not looked at. -/
def nandroid_backup_partition_extended (o : Outcomes) (root : String) : Routine (Flash Tree) :=
  andThen (call (orError (o.ensure_root_path_mounted root)))
    (write_image (o.mkyaffs2image root) root (image_name root))

def SDEXT_DEVICE : String := "/dev/block/mmcblk0p2"

def android_secure : String := "SDCARD:/.android_secure"

def nandroid_backup_flags (build : Build) (o : Outcomes) (flags : CInt) : Routine (Flash Tree) := inOrder [
  call (orError (o.ensure_root_path_mounted "SDCARD:")),
  call (orError o.statfs),
  onlyIf (!build.BOARD_RECOVERY_IGNORE_BOOTABLES && has flags BACKUP_BOOTABLES)
    (andThen (write_image (orError (o.read_raw_image "boot")) "BOOT:" "boot.img")
      (write_image (orError (o.read_raw_image "recovery")) "RECOVERY:" "recovery.img")),
  onlyIf (has flags BACKUP_SYSTEM) (nandroid_backup_partition_extended o "SYSTEM:"),
  onlyIf (has flags BACKUP_DATA) (nandroid_backup_partition_extended o "DATA:"),
  onlyIf (build.HAS_DATADATA && has flags BACKUP_DATADATA) (nandroid_backup_partition_extended o "DATADATA:"),
  onlyIf (has flags BACKUP_OTHERS && o.stat "/mnt/sdcard/.android_secure" = 0)
    (nandroid_backup_partition_extended o android_secure),
  onlyIf (has flags BACKUP_CACHE) (nandroid_backup_partition_extended o "CACHE:"),
  onlyIf (has flags BACKUP_EFS) (nandroid_backup_partition_extended o "EFS:"),
  onlyIf (has flags BACKUP_SDEXT && o.stat SDEXT_DEVICE = 0 && o.ensure_root_path_mounted "SDEXT:" = 0)
    (nandroid_backup_partition_extended o "SDEXT:"),
  call o.md5sum]

/-! ### Restoring -/

/-- The contents of the partition are gone, whatever the step returns. -/
def erase (code : Int) (root : String) : Routine (Flash Tree) := fun s =>
  (code, { s with contents := Function.update s.contents root .remains, erased := root :: s.erased })

/-- The partition is filled from an image, or, where the step fails, in part. -/
def fill (code : Int) (root : String) (image : Contents Tree) : Routine (Flash Tree) := fun s =>
  (code, { s with contents := Function.update s.contents root (if code = 0 then image else .remains) })

/-- Unmounting the partition at the end, where that is asked for, changes no contents,
    and its result is not looked at. -/
def nandroid_restore_partition_extended (o : Outcomes) (root : String) (flags : CInt) : Routine (Flash Tree) := fun s =>
  match s.images (image_name root) with
  | none => (0, s)
  | some image =>
    let format := andThen (call (o.ensure_root_path_unmounted root)) (erase (o.format_root_device root) root)
    inOrder [
      onlyIf (!has flags BACKUP_NOFORMAT) format,
      call (o.ensure_root_path_mounted root),
      onlyIf (has flags BACKUP_NOFORMAT) (erase 0 root),
      fill (o.unyaffs root) root image] s

/-- BOOT: is erased and flashed without a look at whether there is an image. -/
def restore_boot (o : Outcomes) : Routine (Flash Tree) := fun s =>
  andThen (erase (orError (o.format_root_device "BOOT:")) "BOOT:")
    (fill o.write_raw_image "BOOT:" ((s.images "boot.img").getD .remains)) s

def nandroid_restore_flags (build : Build) (o : Outcomes) (flags : CInt) : Routine (Flash Tree) := inOrder [
  call (orError (o.ensure_root_path_mounted "SDCARD:")),
  onlyIf (!has flags BACKUP_NOMD5) (call (orError o.md5sum_check)),
  onlyIf (!build.BOARD_RECOVERY_IGNORE_BOOTABLES && has flags BACKUP_BOOTABLES) (restore_boot o),
  onlyIf (has flags BACKUP_SYSTEM) (nandroid_restore_partition_extended o "SYSTEM:" (flags &&& BACKUP_NOUMOUNT)),
  onlyIf (has flags BACKUP_DATA) (nandroid_restore_partition_extended o "DATA:" flags),
  onlyIf (build.HAS_DATADATA && has flags BACKUP_DATADATA) (nandroid_restore_partition_extended o "DATADATA:" flags),
  onlyIf (has flags BACKUP_OTHERS) (nandroid_restore_partition_extended o android_secure flags),
  onlyIf (has flags BACKUP_CACHE) (nandroid_restore_partition_extended o "CACHE:" flags),
  onlyIf (has flags BACKUP_SDEXT) (nandroid_restore_partition_extended o "SDEXT:" flags)]

def nandroid_restore (build : Build) (o : Outcomes)
    (restore_boot restore_system restore_data restore_cache restore_sdext : Bool) : Routine (Flash Tree) :=
  nandroid_restore_flags build o (
    (if restore_boot then BACKUP_BOOTABLES else 0) ||| (if restore_system then BACKUP_SYSTEM else 0) |||
    (if restore_data then BACKUP_DATA ||| BACKUP_DATADATA ||| BACKUP_OTHERS else 0) |||
    (if restore_cache then BACKUP_CACHE else 0) ||| (if restore_sdext then BACKUP_SDEXT else 0) ||| BACKUP_NOFORMAT)

/-! ### What a restore erases -/

/-- The partitions that a restore can erase, with their flags and images. -/
def restored : List (String × CInt × String) := [
  ("BOOT:", BACKUP_BOOTABLES, "boot.img"),
  ("SYSTEM:", BACKUP_SYSTEM, "system.img"),
  ("DATA:", BACKUP_DATA, "data.img"),
  ("DATADATA:", BACKUP_DATADATA, "dbdata.img"),
  (android_secure, BACKUP_OTHERS, ".android_secure.img"),
  ("CACHE:", BACKUP_CACHE, "cache.img"),
  ("SDEXT:", BACKUP_SDEXT, "sd-ext.img")]

/-- The partition is asked for, its image is there, and the directory has been checked,
    where that is asked for. -/
def Refillable (o : Outcomes) (flags : CInt) (images : String → Option (Contents Tree)) (root : String) : Prop :=
  ∃ bit image, (root, bit, image) ∈ restored ∧ has flags bit = true ∧ (images image).isSome = true ∧
    (has flags BACKUP_NOMD5 = true ∨ o.md5sum_check = 0)

/-- The images are those in the directory, and everything erased so far can be refilled. -/
def Covered (o : Outcomes) (flags : CInt) (images : String → Option (Contents Tree)) (s : Flash Tree) : Prop :=
  s.images = images ∧ ∀ root ∈ s.erased, Refillable o flags images root

section
variable {o : Outcomes} {flags : CInt} {images : String → Option (Contents Tree)}

theorem keeps_call {I : Flash Tree → Prop} (code : Int) : Keeps I (call code) := fun _ holds => holds

/-- What erasing a partition that has an image and filling it preserve, its restore preserves. -/
theorem keeps_partition {I : Flash Tree → Prop} {root : String} (flags : CInt)
    (erases : ∀ code s, (s.images (image_name root)).isSome = true → I s → I (erase code root s).2)
    (fills : ∀ code image, Keeps I (fill code root image)) :
    Keeps I (nandroid_restore_partition_extended o root flags) := by
  intro s holds
  unfold nandroid_restore_partition_extended
  cases found : s.images (image_name root) with
  | none => exact holds
  | some image =>
    have erasing : ∀ code, Keeps (fun s' => I s' ∧ s'.images = s.images) (erase code root) := by
      rintro code s' ⟨kept, same⟩
      have present : (s'.images (image_name root)).isSome = true := by rw [same, found]; rfl
      exact ⟨erases code s' present kept, same⟩
    have filling : Keeps (fun s' => I s' ∧ s'.images = s.images) (fill (o.unyaffs root) root image) := by
      rintro s' ⟨kept, same⟩
      exact ⟨fills _ image s' kept, same⟩
    have whole : Keeps (fun s' => I s' ∧ s'.images = s.images) (inOrder [
        onlyIf (!has flags BACKUP_NOFORMAT)
          (andThen (call (o.ensure_root_path_unmounted root)) (erase (o.format_root_device root) root)),
        call (o.ensure_root_path_mounted root),
        onlyIf (has flags BACKUP_NOFORMAT) (erase 0 root),
        fill (o.unyaffs root) root image]) := by
      apply keeps_inOrder
      simp only [List.forall_mem_cons, List.not_mem_nil, false_imp_iff, implies_true, and_true]
      exact ⟨keeps_onlyIf fun _ => keeps_andThen (keeps_call _) (erasing _), keeps_call _,
        keeps_onlyIf fun _ => erasing 0, filling⟩
    exact (whole s ⟨holds, rfl⟩).1

/-- The restore of one partition erases it where it has an image, and nothing else. -/
theorem covered_partition {root : String} (flags' : CInt)
    (refillable : (images (image_name root)).isSome = true → Refillable o flags images root) :
    Keeps (Covered o flags images) (nandroid_restore_partition_extended o root flags') := by
  refine keeps_partition flags' ?_ ?_
  · rintro code s present ⟨same, covered⟩
    rw [same] at present
    exact ⟨same, List.forall_mem_cons.mpr ⟨refillable present, covered⟩⟩
  · intro code image s covered
    exact covered

/-- What has been erased stays on record. -/
theorem erased_partition (erased root : String) (flags' : CInt) :
    Keeps (fun s : Flash Tree => erased ∈ s.erased) (nandroid_restore_partition_extended o root flags') := by
  refine keeps_partition flags' ?_ ?_
  · intro code s _ member
    exact List.mem_cons_of_mem _ member
  · intro code image s member
    exact member

/-- The restore erases BOOT: without an image for it. -/
def BootUnchecked (build : Build) (o : Outcomes) (flags : CInt) (images : String → Option (Contents Tree)) : Prop :=
  build.BOARD_RECOVERY_IGNORE_BOOTABLES = false ∧ has flags BACKUP_BOOTABLES = true ∧ images "boot.img" = none ∧
    o.ensure_root_path_mounted "SDCARD:" = 0 ∧ (has flags BACKUP_NOMD5 = true ∨ o.md5sum_check = 0)

theorem orError_zero {code : Int} : orError code = 0 ↔ code = 0 := by
  unfold orError
  split <;> simp_all

/-- Where the SD card does not mount or the check fails, nothing is erased. -/
theorem restore_stopped {build : Build} {s : Flash Tree}
    (stopped : ¬ (o.ensure_root_path_mounted "SDCARD:" = 0 ∧ (has flags BACKUP_NOMD5 = true ∨ o.md5sum_check = 0))) :
    (nandroid_restore_flags build o flags s).2 = s := by
  unfold nandroid_restore_flags inOrder
  by_cases mounted : o.ensure_root_path_mounted "SDCARD:" = 0
  · rw [andThen_passed (orError_zero.mpr mounted)]
    unfold inOrder
    have failed : (onlyIf (!has flags BACKUP_NOMD5) (call (orError o.md5sum_check)) s).1 ≠ 0 := by
      simp only [not_and, not_or, Bool.not_eq_true] at stopped
      simpa [onlyIf, (stopped mounted).1, call, orError_zero] using (stopped mounted).2
    rw [call_state, andThen_stopped failed]
    unfold onlyIf
    split <;> rfl
  · rw [andThen_stopped (show (call (orError (o.ensure_root_path_mounted "SDCARD:")) s).1 ≠ 0 from
      fun zero => mounted (orError_zero.mp zero))]
    rfl

/-- The parts of a restore after BOOT:. -/
def restore_others (build : Build) (o : Outcomes) (flags : CInt) : List (Routine (Flash Tree)) := [
  onlyIf (has flags BACKUP_SYSTEM) (nandroid_restore_partition_extended o "SYSTEM:" (flags &&& BACKUP_NOUMOUNT)),
  onlyIf (has flags BACKUP_DATA) (nandroid_restore_partition_extended o "DATA:" flags),
  onlyIf (build.HAS_DATADATA && has flags BACKUP_DATADATA) (nandroid_restore_partition_extended o "DATADATA:" flags),
  onlyIf (has flags BACKUP_OTHERS) (nandroid_restore_partition_extended o android_secure flags),
  onlyIf (has flags BACKUP_CACHE) (nandroid_restore_partition_extended o "CACHE:" flags),
  onlyIf (has flags BACKUP_SDEXT) (nandroid_restore_partition_extended o "SDEXT:" flags)]

theorem restore_reached {build : Build} {s : Flash Tree} (mounted : o.ensure_root_path_mounted "SDCARD:" = 0)
    (checked : has flags BACKUP_NOMD5 = true ∨ o.md5sum_check = 0) :
    nandroid_restore_flags build o flags s =
      andThen (onlyIf (!build.BOARD_RECOVERY_IGNORE_BOOTABLES && has flags BACKUP_BOOTABLES) (restore_boot o))
        (inOrder (restore_others build o flags)) s := by
  have verified : onlyIf (!has flags BACKUP_NOMD5) (call (orError o.md5sum_check)) s = (0, s) := by
    rcases checked with noMd5 | md5
    · simp [onlyIf, noMd5, done]
    · cases has flags BACKUP_NOMD5 <;> simp [onlyIf, call, orError, md5, done]
  unfold nandroid_restore_flags inOrder
  rw [andThen_passed (orError_zero.mpr mounted)]
  unfold inOrder
  rw [call_state, andThen_passed (by rw [verified]), verified]
  rfl

theorem others_covered (build : Build) (checked : has flags BACKUP_NOMD5 = true ∨ o.md5sum_check = 0) :
    ∀ part ∈ restore_others build o flags, Keeps (Covered o flags images) part := by
  have refillable : ∀ root bit, (root, bit, image_name root) ∈ restored → has flags bit = true →
      (images (image_name root)).isSome = true → Refillable o flags images root := by
    intro root bit member set present
    exact ⟨bit, image_name root, member, set, present, checked⟩
  simp only [restore_others, List.forall_mem_cons, List.not_mem_nil, false_imp_iff, implies_true, and_true]
  exact ⟨
    keeps_onlyIf fun set => covered_partition _ (refillable "SYSTEM:" BACKUP_SYSTEM (by decide) set),
    keeps_onlyIf fun set => covered_partition _ (refillable "DATA:" BACKUP_DATA (by decide) set),
    keeps_onlyIf fun set => covered_partition _ (refillable "DATADATA:" BACKUP_DATADATA (by decide)
      (Bool.and_eq_true_iff.mp set).2),
    keeps_onlyIf fun set => covered_partition _ (refillable android_secure BACKUP_OTHERS (by decide) set),
    keeps_onlyIf fun set => covered_partition _ (refillable "CACHE:" BACKUP_CACHE (by decide) set),
    keeps_onlyIf fun set => covered_partition _ (refillable "SDEXT:" BACKUP_SDEXT (by decide) set)⟩

theorem others_erased (build : Build) (erased : String) :
    ∀ part ∈ restore_others build o flags, Keeps (fun s : Flash Tree => erased ∈ s.erased) part := by
  simp only [restore_others, List.forall_mem_cons, List.not_mem_nil, false_imp_iff, implies_true, and_true]
  refine ⟨?_, ?_, ?_, ?_, ?_, ?_⟩
  all_goals exact keeps_onlyIf fun _ => erased_partition _ _ _

theorem boot_erased (o : Outcomes) (s : Flash Tree) : "BOOT:" ∈ (restore_boot o s).2.erased := by
  unfold restore_boot andThen
  split <;> exact List.mem_cons_self

theorem boot_covered (refillable : Refillable o flags images "BOOT:") :
    Keeps (Covered o flags images) (restore_boot o) := by
  intro s start
  refine keeps_andThen ?_ ?_ s start
  · rintro s' ⟨same, covered⟩
    exact ⟨same, List.forall_mem_cons.mpr ⟨refillable, covered⟩⟩
  · intro s' covered
    exact covered

theorem boot_refillable (refillable : Refillable o flags images "BOOT:") : (images "boot.img").isSome = true := by
  obtain ⟨bit, image, member, _, present, _⟩ := refillable
  have named : ∀ row ∈ restored, row.1 = "BOOT:" → row.2.2 = "boot.img" := by decide
  exact named _ member rfl ▸ present

/-- Before a restore. -/
def untouched (contents : String → Contents Tree) (images : String → Option (Contents Tree)) : Flash Tree :=
  ⟨contents, images, []⟩

/-- A restore erases only what it can refill, except where it erases BOOT: without an
    image for it. -/
theorem restore_erases_refillable_iff (build : Build) (o : Outcomes) (flags : CInt)
    (contents : String → Contents Tree) (images : String → Option (Contents Tree)) :
    (∀ root ∈ (nandroid_restore_flags build o flags (untouched contents images)).2.erased,
        Refillable o flags images root) ↔
      ¬ BootUnchecked build o flags images := by
  by_cases started : o.ensure_root_path_mounted "SDCARD:" = 0 ∧ (has flags BACKUP_NOMD5 = true ∨ o.md5sum_check = 0)
  · obtain ⟨mounted, checked⟩ := started
    rw [restore_reached mounted checked]
    have begins : Covered o flags images (untouched contents images) := ⟨rfl, by simp [untouched]⟩
    have others : Keeps (Covered o flags images) (inOrder (restore_others build o flags)) :=
      keeps_inOrder (others_covered build checked)
    cases boot : (!build.BOARD_RECOVERY_IGNORE_BOOTABLES && has flags BACKUP_BOOTABLES) with
    | false =>
      have whole := keeps_andThen keeps_done others _ begins
      have looked : ¬ BootUnchecked build o flags images := fun ⟨included, set, _⟩ => by
        simp [included, set] at boot
      simpa [onlyIf, looked] using whole.2
    | true =>
      simp only [Bool.and_eq_true, Bool.not_eq_true'] at boot
      cases found : images "boot.img" with
      | some image =>
        have refillable : Refillable o flags images "BOOT:" :=
          ⟨BACKUP_BOOTABLES, "boot.img", by decide, boot.2, by rw [found]; rfl, checked⟩
        have whole := keeps_andThen (boot_covered refillable) others _ begins
        have looked : ¬ BootUnchecked build o flags images := fun ⟨_, _, missing, _⟩ => by
          simp [found] at missing
        simpa [onlyIf, looked] using whole.2
      | none =>
        have unchecked : BootUnchecked build o flags images := ⟨boot.1, boot.2, found, mounted, checked⟩
        have wiped : "BOOT:" ∈ (andThen (restore_boot o) (inOrder (restore_others build o flags))
            (untouched contents images)).2.erased := by
          unfold andThen
          split
          · exact keeps_inOrder (others_erased build "BOOT:") _ (boot_erased o _)
          · exact boot_erased o _
        simp only [onlyIf, ↓reduceIte, unchecked, not_true_eq_false, iff_false]
        intro all
        have present := boot_refillable (all "BOOT:" wiped)
        simp [found] at present
  · rw [restore_stopped started]
    have looked : ¬ BootUnchecked build o flags images := fun unchecked => started unchecked.2.2.2
    simp [looked, untouched]

/-- Every step succeeds. -/
def all_succeed : Outcomes :=
  ⟨fun _ => 0, fun _ => 0, fun _ => 0, 0, fun _ => 0, 0, 0, fun _ => 0, 0, fun _ => 0, fun _ => 0⟩

/-- In a build with bootables, restoring them from an empty directory erases BOOT:. -/
theorem boot_erased_without_image :
    (nandroid_restore_flags ⟨false, true⟩ all_succeed BACKUP_BOOTABLES
        (untouched (fun _ => .whole ()) fun _ => none)).2.erased = ["BOOT:"] ∧
      ¬ Refillable all_succeed BACKUP_BOOTABLES (fun _ => (none : Option (Contents Unit))) "BOOT:" := by
  refine ⟨by decide, ?_⟩
  rintro ⟨_, _, _, _, present, _⟩
  cases present

end

/-! ### Backups of several partitions -/

section
variable {o : Outcomes}

/-- The backup of the partition goes through. -/
def Saves (o : Outcomes) (root : String) : Prop :=
  o.ensure_root_path_mounted root = 0 ∧ o.mkyaffs2image root = 0

theorem passes_call {code : Int} : Passes (call (orError code) : Routine (Flash Tree)) (code = 0) := by
  intro s
  exact orError_zero

theorem passes_backup (root : String) :
    Passes (nandroid_backup_partition_extended o root : Routine (Flash Tree)) (Saves o root) := by
  apply passes_andThen passes_call
  intro s
  exact Iff.rfl

/-- A backup leaves the partitions alone, and every image but its own. -/
theorem keeps_backup {I : Flash Tree → Prop} (root : String)
    (writes : ∀ s image, I s → I { s with images := Function.update s.images (image_name root) (some image) }) :
    Keeps I (nandroid_backup_partition_extended o root) := by
  refine keeps_andThen (keeps_call _) ?_
  intro s holds
  exact writes s _ holds

/-- A backup that goes through has a whole image of every partition that was whole. -/
theorem backup_run {root : String} (contents : Contents Tree) {roots : List String} (member : root ∈ roots)
    (distinct : ∀ other ∈ roots, other ≠ root → image_name root ≠ image_name other) :
    Ensures (fun s : Flash Tree => s.contents root = contents)
      (inOrder (roots.map (nandroid_backup_partition_extended o)))
      fun s => s.contents root = contents ∧ s.images (image_name root) = some contents := by
  have own : Ensures (fun s : Flash Tree => s.contents root = contents) (nandroid_backup_partition_extended o root)
      fun s => s.contents root = contents ∧ s.images (image_name root) = some contents := by
    intro s holds ran
    obtain ⟨mounted, written⟩ := (passes_backup root s).mp ran
    unfold nandroid_backup_partition_extended
    rw [andThen_passed (orError_zero.mpr mounted)]
    exact ⟨holds, by simp [write_image, call, written, holds]⟩
  apply ensures_map member own
  · intro other _
    apply keeps_ensures
    apply keeps_backup
    intro s image holds
    exact holds
  · intro other inRoots
    by_cases same : other = root
    · subst same
      rintro s ⟨holds, _⟩
      exact own s holds
    · apply keeps_ensures
      apply keeps_backup
      rintro s image ⟨holds, written⟩
      refine ⟨holds, ?_⟩
      simpa only [Function.update_of_ne (distinct other inRoots same)] using written

/-- The flags for the partitions that are converted. -/
def conversion_flags (cache data dbdata : Bool) : CInt :=
  (if cache then BACKUP_CACHE else 0) ||| (if data then BACKUP_DATA else 0) ||| (if dbdata then BACKUP_DATADATA else 0)

/-- The partitions behind these flags, in the order in which they are backed up. -/
def conversion_roots (build : Build) (cache data dbdata : Bool) : List String :=
  (if data then ["DATA:"] else []) ++ (if build.HAS_DATADATA && dbdata then ["DATADATA:"] else []) ++
    (if cache then ["CACHE:"] else [])

theorem conversion_has (cache data dbdata : Bool) :
    has (conversion_flags cache data dbdata) BACKUP_CACHE = cache ∧
      has (conversion_flags cache data dbdata) BACKUP_DATA = data ∧
      has (conversion_flags cache data dbdata) BACKUP_DATADATA = dbdata ∧
      has (conversion_flags cache data dbdata) BACKUP_SYSTEM = false ∧
      has (conversion_flags cache data dbdata) BACKUP_EFS = false ∧
      has (conversion_flags cache data dbdata) BACKUP_SDEXT = false ∧
      has (conversion_flags cache data dbdata) BACKUP_BOOTABLES = false ∧
      has (conversion_flags cache data dbdata) BACKUP_OTHERS = false := by
  cases cache <;> cases data <;> cases dbdata <;> decide

/-- A backup for a conversion looks at the SD card, backs up the partitions asked for and
    sums them up. -/
theorem conversion_backup (build : Build) (o : Outcomes) (cache data dbdata : Bool) :
    (nandroid_backup_flags build o (conversion_flags cache data dbdata) : Routine (Flash Tree)) =
      inOrder ([call (orError (o.ensure_root_path_mounted "SDCARD:")), call (orError o.statfs)] ++
        (conversion_roots build cache data dbdata).map (nandroid_backup_partition_extended o) ++ [call o.md5sum]) := by
  obtain ⟨asksCache, asksData, asksDbdata, system, efs, sdext, bootables, other⟩ := conversion_has cache data dbdata
  simp only [nandroid_backup_flags, asksCache, asksData, asksDbdata, system, efs, sdext, bootables, other,
    Bool.and_false, Bool.false_and, conversion_roots]
  cases build.HAS_DATADATA && dbdata <;> cases data <;> cases cache <;> rfl

/-- The backup for a conversion of these partitions goes through. -/
def BacksUp (o : Outcomes) (roots : List String) : Prop :=
  o.ensure_root_path_mounted "SDCARD:" = 0 ∧ o.statfs = 0 ∧ (∀ root ∈ roots, Saves o root) ∧ o.md5sum = 0

theorem passes_conversion_backup (build : Build) (o : Outcomes) (cache data dbdata : Bool) :
    Passes (nandroid_backup_flags build o (conversion_flags cache data dbdata) : Routine (Flash Tree))
      (BacksUp o (conversion_roots build cache data dbdata)) := by
  have sums : Passes (inOrder [call o.md5sum] : Routine (Flash Tree)) (o.md5sum = 0) := fun s => by
    by_cases summed : o.md5sum = 0 <;> simp [inOrder, andThen, done, call, summed]
  intro s
  rw [conversion_backup, List.append_assoc, List.cons_append, List.cons_append, List.nil_append, inOrder, inOrder,
    inOrder_append]
  exact passes_andThen passes_call (passes_andThen passes_call (passes_andThen (passes_map passes_backup _) sums)) s

/-- What the backups of the partitions keep, the whole backup keeps. -/
theorem keeps_conversion_backup {I : Flash Tree → Prop} {build : Build} {cache data dbdata : Bool}
    (keeps : ∀ root ∈ conversion_roots build cache data dbdata, Keeps I (nandroid_backup_partition_extended o root)) :
    Keeps I (nandroid_backup_flags build o (conversion_flags cache data dbdata)) := by
  rw [conversion_backup]
  apply keeps_inOrder
  simp only [List.cons_append, List.nil_append, List.forall_mem_cons, List.forall_mem_append, List.forall_mem_map,
    List.not_mem_nil, false_imp_iff, implies_true, and_true]
  exact ⟨keeps_call _, keeps_call _, keeps, keeps_call _⟩

theorem conversion_backup_other {build : Build} {cache data dbdata : Bool} {name : String}
    (image : Option (Contents Tree)) (fresh : ∀ root ∈ conversion_roots build cache data dbdata, name ≠ image_name root) :
    Keeps (fun s => s.images name = image) (nandroid_backup_flags build o (conversion_flags cache data dbdata)) := by
  apply keeps_conversion_backup
  intro other inRoots
  apply keeps_backup
  intro s written holds
  simpa only [Function.update_of_ne (fresh other inRoots)] using holds

theorem conversion_backup_contents {build : Build} {cache data dbdata : Bool} (contents : String → Contents Tree) :
    Keeps (fun s => s.contents = contents) (nandroid_backup_flags build o (conversion_flags cache data dbdata)) := by
  apply keeps_conversion_backup
  intro root _
  apply keeps_backup
  intro s image same
  exact same

/-- The partitions that a conversion backs up or restores. -/
def conversion_names : List String := ["DATA:", "DATADATA:", android_secure, "CACHE:"]

theorem image_name_apart : ∀ a ∈ conversion_names, ∀ b ∈ conversion_names, b ≠ a → image_name a ≠ image_name b := by
  decide

theorem conversion_roots_named {build : Build} {cache data dbdata : Bool} {root : String}
    (member : root ∈ conversion_roots build cache data dbdata) : root ∈ conversion_names := by
  revert root
  unfold conversion_roots
  cases build.HAS_DATADATA <;> cases cache <;> cases data <;> cases dbdata <;> decide

theorem conversion_backup_images {build : Build} {cache data dbdata : Bool} {root : String}
    (member : root ∈ conversion_roots build cache data dbdata) (contents : Contents Tree) :
    Ensures (fun s : Flash Tree => s.contents root = contents)
      (nandroid_backup_flags build o (conversion_flags cache data dbdata))
      fun s => s.images (image_name root) = some contents := by
  rw [conversion_backup, List.append_assoc, List.cons_append, List.cons_append, List.nil_append, inOrder, inOrder,
    inOrder_append]
  have saved := backup_run (o := o) contents member
    fun other inRoots => image_name_apart _ (conversion_roots_named member) _ (conversion_roots_named inRoots)
  have summed : Keeps (fun s : Flash Tree => s.images (image_name root) = some contents) (inOrder [call o.md5sum]) :=
    keeps_inOrder (List.forall_mem_singleton.mpr (keeps_call _))
  exact ensures_andThen (keeps_ensures (keeps_call _)) (ensures_andThen (keeps_ensures (keeps_call _))
    (ensures_andThen saved fun s holds _ => summed s holds.2))

end

/-! ### Restores over several partitions -/

section
variable {o : Outcomes} {flags : CInt}

/-- There is an image of the partition. -/
def Present (s : Flash Tree) (root : String) : Prop := (s.images (image_name root)).isSome = true

/-- The restore of the partition goes through, or there is nothing to restore. -/
def Goes (o : Outcomes) (present : String → Prop) (root : String) : Prop :=
  present root → o.ensure_root_path_mounted root = 0 ∧ o.unyaffs root = 0

/-- What a restore that does not format does. -/
theorem restore_partition_eq (noFormat : has flags BACKUP_NOFORMAT = true) (root : String) (s : Flash Tree) :
    nandroid_restore_partition_extended o root flags s =
      match s.images (image_name root) with
      | none => (0, s)
      | some image =>
        if o.ensure_root_path_mounted root = 0 then fill (o.unyaffs root) root image (erase 0 root s).2
        else (o.ensure_root_path_mounted root, s) := by
  unfold nandroid_restore_partition_extended
  cases s.images (image_name root) with
  | none => rfl
  | some image =>
    by_cases mounted : o.ensure_root_path_mounted root = 0
    · by_cases filled : o.unyaffs root = 0 <;>
        simp [inOrder, onlyIf, noFormat, andThen, done, call, mounted, erase, fill, filled]
    · simp [inOrder, onlyIf, noFormat, andThen, done, call, mounted]

theorem restore_partition_code (noFormat : has flags BACKUP_NOFORMAT = true) (root : String) (s : Flash Tree) :
    (nandroid_restore_partition_extended o root flags s).1 = 0 ↔ Goes o (Present s) root := by
  rw [restore_partition_eq noFormat]
  unfold Goes Present
  cases s.images (image_name root) with
  | none => simp
  | some image =>
    by_cases mounted : o.ensure_root_path_mounted root = 0 <;> simp [mounted, fill]

theorem restore_partition_images (flags : CInt) (root : String) (images : String → Option (Contents Tree)) :
    Keeps (fun s => s.images = images) (nandroid_restore_partition_extended o root flags) :=
  keeps_partition flags (fun _ _ _ same => same) fun _ _ _ same => same

theorem restore_partition_other {root other : String} (apart : other ≠ root) (contents : Contents Tree) :
    Keeps (fun s => s.contents other = contents) (nandroid_restore_partition_extended o root flags) := by
  refine keeps_partition flags ?_ ?_
  · intro code s _ same
    simpa [erase, apart] using same
  · intro code image s same
    simpa [fill, apart] using same

/-- What the restore of one partition leaves there. -/
theorem restore_partition_contents (noFormat : has flags BACKUP_NOFORMAT = true) {root : String} {s : Flash Tree}
    {image : Contents Tree} (found : s.images (image_name root) = some image) :
    (nandroid_restore_partition_extended o root flags s).2.contents root =
      if o.ensure_root_path_mounted root = 0 then (if o.unyaffs root = 0 then image else .remains)
      else s.contents root := by
  rw [restore_partition_eq noFormat, found]
  by_cases mounted : o.ensure_root_path_mounted root = 0 <;> simp [mounted, fill]

/-- The partitions that come before a root. -/
def before (root : String) (roots : List String) : List String := roots.takeWhile (· ≠ root)

/-- The partitions that come up to a root, and the root itself. -/
def up_to (root : String) (roots : List String) : List String := before root roots ++ [root]

/-- A restore comes to a partition where those before it go through. The partition stays what
    it is where the restore does not come to it, or cannot mount it. -/
theorem restore_run (noFormat : has flags BACKUP_NOFORMAT = true) {root : String} {image : Contents Tree}
    {roots : List String} (distinct : roots.Nodup) (member : root ∈ roots) {s s' : Flash Tree}
    (found : s.images (image_name root) = some image)
    (restored : s' = (inOrder (roots.map fun r => nandroid_restore_partition_extended o r flags) s).2) :
    ((∀ r ∈ before root roots, Goes o (Present s) r) → o.ensure_root_path_mounted root = 0 →
        s'.contents root = if o.unyaffs root = 0 then image else .remains) ∧
      (¬ ((∀ r ∈ before root roots, Goes o (Present s) r) ∧ o.ensure_root_path_mounted root = 0) →
        s'.contents root = s.contents root) := by
  subst restored
  induction roots generalizing s with
  | nil => cases member
  | cons r rest ih =>
    obtain ⟨fresh, distinct⟩ := List.nodup_cons.mp distinct
    rw [List.map_cons, inOrder]
    by_cases own : r = root
    · subst own
      have others : Keeps (fun s' : Flash Tree =>
          s'.contents r = (nandroid_restore_partition_extended o r flags s).2.contents r)
          (inOrder (rest.map fun r => nandroid_restore_partition_extended o r flags)) := by
        apply keeps_map
        intro other inRest
        apply restore_partition_other
        rintro rfl
        exact fresh inRest
      have whole : (andThen (nandroid_restore_partition_extended o r flags)
            (inOrder (rest.map fun r => nandroid_restore_partition_extended o r flags)) s).2.contents r =
          (nandroid_restore_partition_extended o r flags s).2.contents r := by
        unfold andThen
        split
        · exact others _ rfl
        · rfl
      have first : before r (r :: rest) = [] := by simp [before]
      rw [whole, restore_partition_contents noFormat found, first]
      refine ⟨fun _ mounted => if_pos mounted, fun unmounted => if_neg fun mounted => unmounted ⟨?_, mounted⟩⟩
      exact List.forall_mem_nil _
    · have later : root ∈ rest := (List.mem_cons.mp member).resolve_left (Ne.symm own)
      have images : (nandroid_restore_partition_extended o r flags s).2.images = s.images :=
        restore_partition_images flags r s.images s rfl
      have kept : (nandroid_restore_partition_extended o r flags s).2.contents root = s.contents root :=
        restore_partition_other (Ne.symm own) _ s rfl
      have present : Present (nandroid_restore_partition_extended o r flags s).2 = Present s := by
        unfold Present
        rw [images]
      have first : before root (r :: rest) = r :: before root rest := by simp [before, own]
      rw [first, List.forall_mem_cons]
      by_cases goes : Goes o (Present s) r
      · have rest_run := ih distinct later (images ▸ found)
        rw [present, kept] at rest_run
        rw [andThen_passed ((restore_partition_code noFormat r s).mpr goes)]
        simpa only [goes, true_and] using rest_run
      · rw [andThen_stopped (fun passed => goes ((restore_partition_code noFormat r s).mp passed)), kept]
        exact ⟨fun all => absurd all.1 goes, fun _ => rfl⟩

/-- The partitions that a conversion restores, in order. -/
def conversion_restored (build : Build) : List String :=
  "DATA:" :: (if build.HAS_DATADATA then ["DATADATA:"] else []) ++ [android_secure, "CACHE:"]

theorem conversion_restored_named {build : Build} {root : String} (member : root ∈ conversion_restored build) :
    root ∈ conversion_names := by
  revert root
  unfold conversion_restored
  cases build.HAS_DATADATA <;> decide

def conversion_restore_flags : CInt :=
  BACKUP_DATA ||| BACKUP_DATADATA ||| BACKUP_OTHERS ||| BACKUP_CACHE ||| BACKUP_NOFORMAT

theorem conversion_restore (build : Build) (o : Outcomes) :
    (nandroid_restore build o false false true true false : Routine (Flash Tree)) =
      inOrder ([call (orError (o.ensure_root_path_mounted "SDCARD:")), call (orError o.md5sum_check)] ++
        (conversion_restored build).map fun r => nandroid_restore_partition_extended o r conversion_restore_flags) := by
  obtain ⟨ignored, has_datadata⟩ := build
  cases ignored <;> cases has_datadata <;> rfl

theorem conversion_restore_images (build : Build) (o : Outcomes) (images : String → Option (Contents Tree)) :
    Keeps (fun s => s.images = images) (nandroid_restore build o false false true true false) := by
  rw [conversion_restore]
  apply keeps_inOrder
  simp only [List.cons_append, List.nil_append, List.forall_mem_cons, List.forall_mem_map]
  exact ⟨keeps_call _, keeps_call _, fun r _ => restore_partition_images _ r images⟩

/-- The restore after a conversion comes to the partition. -/
def Reaches (build : Build) (o : Outcomes) (present : String → Prop) (root : String) : Prop :=
  o.ensure_root_path_mounted "SDCARD:" = 0 ∧ o.md5sum_check = 0 ∧
    ∀ r ∈ before root (conversion_restored build), Goes o present r

/-- It brings the partition back. -/
def BringsBack (build : Build) (o : Outcomes) (present : String → Prop) (root : String) : Prop :=
  Reaches build o present root ∧ o.ensure_root_path_mounted root = 0 ∧ o.unyaffs root = 0

/-- It empties the partition, and does not fill it again. -/
def Empties (build : Build) (o : Outcomes) (present : String → Prop) (root : String) : Prop :=
  Reaches build o present root ∧ o.ensure_root_path_mounted root = 0 ∧ o.unyaffs root ≠ 0

theorem reaches_congr {build : Build} {present present' : String → Prop}
    (same : ∀ r ∈ conversion_restored build, present r ↔ present' r) (root : String) :
    Reaches build o present root ↔ Reaches build o present' root := by
  have goes : ∀ r ∈ before root (conversion_restored build), Goes o present r ↔ Goes o present' r := by
    intro r earlier
    unfold Goes
    rw [same r (List.takeWhile_subset _ earlier)]
  exact and_congr_right fun _ => and_congr_right fun _ => forall₂_congr goes

theorem conversion_restore_contents {build : Build} {root : String} {image : Contents Tree} {s s' : Flash Tree}
    (member : root ∈ conversion_restored build) (found : s.images (image_name root) = some image)
    (restored : s' = (nandroid_restore build o false false true true false s).2) :
    (Reaches build o (Present s) root → o.ensure_root_path_mounted root = 0 →
        s'.contents root = if o.unyaffs root = 0 then image else .remains) ∧
      (¬ (Reaches build o (Present s) root ∧ o.ensure_root_path_mounted root = 0) →
        s'.contents root = s.contents root) := by
  subst restored
  have distinct : (conversion_restored build).Nodup := by
    unfold conversion_restored
    cases build.HAS_DATADATA <;> decide
  have noFormat : has conversion_restore_flags BACKUP_NOFORMAT = true := by decide
  rw [conversion_restore, List.cons_append, List.cons_append, List.nil_append, inOrder, inOrder]
  unfold Reaches
  by_cases mounted : o.ensure_root_path_mounted "SDCARD:" = 0
  · rw [andThen_passed (orError_zero.mpr mounted), call_state]
    by_cases checked : o.md5sum_check = 0
    · rw [andThen_passed (orError_zero.mpr checked), call_state]
      simpa only [mounted, checked, true_and] using restore_run noFormat distinct member found rfl
    · rw [andThen_stopped (fun passed => checked (orError_zero.mp passed)), call_state]
      exact ⟨fun reaches => absurd reaches.2.1 checked, fun _ => rfl⟩
  · rw [andThen_stopped (fun passed => mounted (orError_zero.mp passed)), call_state]
    exact ⟨fun reaches => absurd reaches.1 mounted, fun _ => rfl⟩

/-- A partition that was lost comes back where the restore brings it. -/
theorem conversion_restore_lost {build : Build} {root : String} {tree : Tree} {s : Flash Tree}
    (member : root ∈ conversion_restored build) (found : s.images (image_name root) = some (.whole tree))
    (gone : s.contents root = .remains) :
    (nandroid_restore build o false false true true false s).2.contents root = .whole tree ↔
      BringsBack build o (Present s) root := by
  obtain ⟨comes, stays⟩ := conversion_restore_contents (o := o) member found rfl
  rw [BringsBack, ← and_assoc]
  by_cases reached : Reaches build o (Present s) root ∧ o.ensure_root_path_mounted root = 0
  · rw [comes reached.1 reached.2]
    simp [reached]
  · rw [stays reached, gone]
    simp [reached]

/-- One that was not is still there, unless the restore empties it. -/
theorem conversion_restore_there {build : Build} {root : String} {tree : Tree} {s : Flash Tree}
    (member : root ∈ conversion_restored build) (found : s.images (image_name root) = some (.whole tree))
    (there : s.contents root = .whole tree) :
    (nandroid_restore build o false false true true false s).2.contents root = .whole tree ↔
      ¬ Empties build o (Present s) root := by
  obtain ⟨comes, stays⟩ := conversion_restore_contents (o := o) member found rfl
  rw [Empties, ← and_assoc]
  by_cases reached : Reaches build o (Present s) root ∧ o.ensure_root_path_mounted root = 0
  · rw [comes reached.1 reached.2]
    simp [reached]
  · rw [stays reached, there]
    simp [reached]

end

end SteamRecovery.Nandroid
