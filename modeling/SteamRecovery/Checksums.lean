import Mathlib.Data.List.Infix
import SteamRecovery.BackupCoverage

/-!
The sums of a backup directory (`md5sum *img > nandroid.md5` and `md5sum -c nandroid.md5`
in `nandroid.c`) against the images that a restore unpacks. Only what `nandroid.md5`
lists is checked, but every image that is there is unpacked: no restore of the directory
unpacks an unverified image exactly where all of them are listed (`restore_verified_iff`),
and the sums that a backup writes leave out `.android_secure.img` (`backup_sums_verify_iff`).
-/
namespace SteamRecovery.Checksums
open SteamRecovery.Devices
open SteamRecovery.Routines
open SteamRecovery.Nandroid
open SteamRecovery.BackupCoverage

variable {Bytes Digest : Type}

/-- The `md5sum` program: the sum of a file, and the code of `md5sum -c`, which is 0 only
    where every file that is listed is there and has its sum. -/
structure Md5sum (Bytes Digest : Type) where
  md5 : Bytes → Digest
  check : List (String × Bytes) → List (Digest × String) → Int
  checked : ∀ files sums, check files sums = 0 →
    ∀ line ∈ sums, ∃ bytes, files.lookup line.2 = some bytes ∧ md5 bytes = line.1

/-- The images in a backup directory, and the lines of `nandroid.md5`, where it is there. -/
structure Directory (Bytes Digest : Type) where
  files : List (String × Bytes)
  nandroid_md5 : Option (List (Digest × String))

/-- What the shell makes of `*img`: a leading dot has to be given. -/
def matches_img (name : String) : Bool :=
  (name.toList.drop (name.toList.length - 3) = ['i', 'm', 'g'] : Bool) && name.toList.head? ≠ some '.'

/-- The lines of `md5sum *img`. -/
def sum_lines (tool : Md5sum Bytes Digest) (files : List (String × Bytes)) : List (Digest × String) :=
  (files.filter fun file => matches_img file.1).map fun file => (tool.md5 file.2, file.1)

/-- The code of `md5sum *img`: without a match the pattern itself is taken as a name. -/
def sum_code (files : List (String × Bytes)) : Int :=
  if files.any fun file => matches_img file.1 then 0 else 1

/-- The directory behind `md5sum *img > nandroid.md5`. -/
def summed (tool : Md5sum Bytes Digest) (files : List (String × Bytes)) : Directory Bytes Digest :=
  ⟨files, some (sum_lines tool files)⟩

/-- The code of `md5sum -c nandroid.md5`. -/
def check_code (tool : Md5sum Bytes Digest) (dir : Directory Bytes Digest) : Int :=
  match dir.nandroid_md5 with
  | none => 1
  | some sums => tool.check dir.files sums

/-- The images for a restore. -/
def images (dir : Directory Bytes Digest) (name : String) : Option (Contents Bytes) :=
  (dir.files.lookup name).map Contents.whole

/-- The image that a partition is unpacked from. -/
def image_of (root : String) : String := if root = "BOOT:" then "boot.img" else image_name root

/-- The restore unpacks this onto the partition, whatever the partitions held before. -/
def UnpacksOnto (build : Build) (o : Outcomes) (flags : CInt) (dir : Directory Bytes Digest) (root : String)
    (bytes : Bytes) : Prop :=
  ∀ contents, (nandroid_restore_flags build o flags ⟨contents, images dir, []⟩).2.contents root = .whole bytes

/-- `nandroid.md5` has a line for the name. -/
def Listed (dir : Directory Bytes Digest) (name : String) : Prop :=
  ∃ sums, dir.nandroid_md5 = some sums ∧ ∃ line ∈ sums, line.2 = name

/-- `nandroid.md5` has the sum of these bytes for the name. -/
def Recorded (tool : Md5sum Bytes Digest) (dir : Directory Bytes Digest) (name : String) (bytes : Bytes) : Prop :=
  ∃ sums, dir.nandroid_md5 = some sums ∧ (tool.md5 bytes, name) ∈ sums

/-- However the other steps of a restore go: what it unpacks has the sum that is recorded
    for it. A run that fails in the middle of an unpacking begins like one that does not,
    so that nothing is left out. -/
def Verified (tool : Md5sum Bytes Digest) (build : Build) (flags : CInt) (dir : Directory Bytes Digest) : Prop :=
  ∀ o : Outcomes, o.md5sum_check = check_code tool dir →
    ∀ root bytes, UnpacksOnto build o flags dir root bytes → Recorded tool dir (image_of root) bytes

/-- Every image that is asked for and there is listed, where the check is passed. -/
def AllListed (tool : Md5sum Bytes Digest) (build : Build) (flags : CInt) (dir : Directory Bytes Digest) : Prop :=
  check_code tool dir = 0 → ∀ pair ∈ asked (restores build flags), (dir.files.lookup pair.2).isSome = true →
    Listed dir pair.2

section
variable {tool : Md5sum Bytes Digest} {build : Build} {o : Outcomes} {flags : CInt} {dir : Directory Bytes Digest}

theorem image_of_asked : ∀ pair ∈ asked (restores build flags), image_of pair.1 = pair.2 := by
  have constant : ∀ pair ∈ restore_pairs, image_of pair.1 = pair.2 := by decide
  intro pair member
  exact constant pair ((restores_sublist build flags).subset member)

/-- Where the check is passed, what is listed and there is recorded with its sum. -/
theorem listed_recorded (passed : check_code tool dir = 0) {name : String} {bytes : Bytes}
    (present : dir.files.lookup name = some bytes) (listed : Listed dir name) : Recorded tool dir name bytes := by
  obtain ⟨sums, found, ⟨digest, other⟩, member, named⟩ := listed
  unfold check_code at passed
  rw [found] at passed
  obtain ⟨held, same, right⟩ := tool.checked dir.files sums passed _ member
  cases named
  rw [present] at same
  cases same
  cases right
  exact ⟨sums, found, member⟩

theorem recorded_listed {name : String} {bytes : Bytes} (recorded : Recorded tool dir name bytes) : Listed dir name := by
  obtain ⟨sums, found, member⟩ := recorded
  exact ⟨sums, found, _, member, rfl⟩

/-! ### What a restore can unpack -/

/-- Every partition that is whole holds its image, and was asked for. -/
def Filled (build : Build) (flags : CInt) (dir : Directory Bytes Digest) (s : Flash Bytes) : Prop :=
  s.images = images dir ∧ ∀ root bytes, s.contents root = .whole bytes →
    ∃ pair ∈ asked (restores build flags), pair.1 = root ∧ dir.files.lookup pair.2 = some bytes

theorem filled_erase (code : Int) (root : String) : Keeps (Filled build flags dir) (erase code root) := by
  rintro s ⟨same, filled⟩
  refine ⟨same, ?_⟩
  intro other bytes held
  by_cases own : other = root
  · subst own
    simp [erase] at held
  · exact filled other bytes (by simpa [erase, own] using held)

theorem filled_fill {code : Int} {root image : String} {contents : Contents Bytes} {s : Flash Bytes}
    (filled : Filled build flags dir s) (member : (root, image) ∈ asked (restores build flags))
    (held : ∀ bytes, contents = .whole bytes → dir.files.lookup image = some bytes) :
    Filled build flags dir (fill code root contents s).2 := by
  refine ⟨filled.1, ?_⟩
  intro other bytes whole
  by_cases own : other = root
  · subst own
    refine ⟨_, member, rfl, held bytes ?_⟩
    by_cases ran : code = 0
    · simpa [fill, ran] using whole
    · simp [fill, ran] at whole
  · exact filled.2 other bytes (by simpa [fill, own] using whole)

theorem images_whole {name : String} {bytes : Bytes} (found : images dir name = some (.whole bytes)) :
    dir.files.lookup name = some bytes := by
  obtain ⟨held, present, same⟩ := Option.map_eq_some_iff.mp found
  cases same
  exact present

theorem filled_partition (flags' : CInt) {root image : String} (named : image_name root = image)
    (member : (root, image) ∈ asked (restores build flags)) :
    Keeps (Filled build flags dir) (nandroid_restore_partition_extended o root flags') := by
  subst named
  intro s filled
  unfold nandroid_restore_partition_extended
  cases found : s.images (image_name root) with
  | none => exact filled
  | some image =>
    have unpacked : ∀ code, Keeps (Filled build flags dir) (fill code root image) := by
      intro code s' filled'
      apply filled_fill filled' member
      rintro bytes rfl
      exact images_whole (filled.1 ▸ found)
    have whole : Keeps (Filled build flags dir) (inOrder [
        onlyIf (!has flags' BACKUP_NOFORMAT)
          (andThen (call (o.ensure_root_path_unmounted root)) (erase (o.format_root_device root) root)),
        call (o.ensure_root_path_mounted root),
        onlyIf (has flags' BACKUP_NOFORMAT) (erase 0 root),
        fill (o.unyaffs root) root image]) := by
      apply keeps_inOrder
      simp only [List.forall_mem_cons, List.not_mem_nil, false_imp_iff, implies_true, and_true]
      exact ⟨keeps_onlyIf fun _ => keeps_andThen (keeps_call _) (filled_erase _ _), keeps_call _,
        keeps_onlyIf fun _ => filled_erase _ _, unpacked _⟩
    exact whole s filled

theorem filled_boot (member : ("BOOT:", "boot.img") ∈ asked (restores build flags)) :
    Keeps (Filled build flags dir) (restore_boot o) := by
  intro s filled
  refine keeps_andThen (filled_erase _ _) ?_ s filled
  intro s' filled'
  apply filled_fill filled' member
  intro bytes whole
  cases found : s.images "boot.img" with
  | none => simp [found] at whole
  | some image =>
    rw [found] at whole
    cases whole
    exact images_whole (filled.1 ▸ found)

/-- A restore fills partitions with their images only, and only those that are asked for. -/
theorem filled_restore : Keeps (Filled build flags dir) (nandroid_restore_flags build o flags) := by
  have row : ∀ chosen pair, (chosen, [pair]) ∈ restores build flags → chosen = true →
      pair ∈ asked (restores build flags) := by
    intro chosen pair inTable set
    exact mem_asked.mpr ⟨_, inTable, set, List.mem_singleton.mpr rfl⟩
  apply keeps_inOrder
  simp only [List.forall_mem_cons, List.not_mem_nil, false_imp_iff, implies_true, and_true]
  refine ⟨keeps_call _, keeps_onlyIf fun _ => keeps_call _, keeps_onlyIf fun set => filled_boot ?_,
    keeps_onlyIf fun set => filled_partition _ (show image_name _ = "system.img" by decide) ?_,
    keeps_onlyIf fun set => filled_partition _ (show image_name _ = "data.img" by decide) ?_,
    keeps_onlyIf fun set => filled_partition _ (show image_name _ = "dbdata.img" by decide) ?_,
    keeps_onlyIf fun set => filled_partition _ (show image_name _ = ".android_secure.img" by decide) ?_,
    keeps_onlyIf fun set => filled_partition _ (show image_name _ = "cache.img" by decide) ?_,
    keeps_onlyIf fun set => filled_partition _ (show image_name _ = "sd-ext.img" by decide) ?_⟩
  all_goals exact row _ _ (by simp [restores]) set

/-- What is unpacked is an image that is asked for and there, and the check was passed. -/
theorem unpacksOnto_image (checks : has flags BACKUP_NOMD5 = false) {root : String} {bytes : Bytes}
    (unpacked : UnpacksOnto build o flags dir root bytes) :
    o.md5sum_check = 0 ∧ ∃ pair ∈ asked (restores build flags), pair.1 = root ∧ dir.files.lookup pair.2 = some bytes := by
  have whole := unpacked fun _ => .remains
  have empty : Filled build flags dir ⟨fun _ => .remains, images dir, []⟩ := by
    refine ⟨rfl, ?_⟩
    intro other held impossible
    cases impossible
  refine ⟨?_, (filled_restore _ empty).2 root bytes whole⟩
  by_contra failed
  rw [restore_stopped (by simp [checks, failed])] at whole
  cases whole

/-! ### What is verified -/

/-- No unverified image is unpacked exactly where every image that is asked for and there
    is listed, or the check is not passed. -/
theorem restore_verified_iff (checks : has flags BACKUP_NOMD5 = false) :
    Verified tool build flags dir ↔ AllListed tool build flags dir := by
  constructor
  · rintro verified passed ⟨root, image⟩ member present
    obtain ⟨bytes, found⟩ := Option.isSome_iff_exists.mp present
    let later : Outcomes := { all_succeed with md5sum_check := check_code tool dir }
    have succeed : AllSucceed later := ⟨passed, fun _ => rfl, fun _ => rfl, fun _ => rfl, rfl, fun _ => rfl⟩
    have unpacked : UnpacksOnto build later flags dir root bytes := by
      intro contents
      have here : images dir image = some (.whole bytes) := by
        unfold images
        rw [found]
        rfl
      exact (restore_unpacks build flags succeed ⟨contents, images dir, []⟩).2.filled _ member _ here
    have recorded := verified later rfl root bytes unpacked
    rw [image_of_asked _ member] at recorded
    exact recorded_listed recorded
  · intro listed o checked root bytes unpacked
    obtain ⟨passed, pair, member, rfl, present⟩ := unpacksOnto_image checks unpacked
    have passed := checked.symm.trans passed
    rw [image_of_asked _ member]
    exact listed_recorded passed present (listed passed pair member (by rw [present]; rfl))

theorem listed_sums {before : List (String × Bytes)} (written : dir.nandroid_md5 = some (sum_lines tool before))
    {name : String} : Listed dir name ↔ name ∈ before.map Prod.fst ∧ matches_img name = true := by
  unfold Listed
  rw [written]
  constructor
  · rintro ⟨sums, found, line, member, rfl⟩
    cases found
    obtain ⟨file, matched, rfl⟩ := List.mem_map.mp member
    obtain ⟨inFiles, named⟩ := List.mem_filter.mp matched
    exact ⟨List.mem_map_of_mem inFiles, named⟩
  · rintro ⟨member, named⟩
    obtain ⟨file, inFiles, rfl⟩ := List.mem_map.mp member
    exact ⟨_, rfl, _, List.mem_map_of_mem (List.mem_filter.mpr ⟨inFiles, named⟩), rfl⟩

/-- With the sums and the files of a backup, whatever bytes the files have now, only
    `.android_secure.img` can be unpacked unverified. -/
theorem backup_sums_verify_iff (checks : has flags BACKUP_NOMD5 = false) {before : List (String × Bytes)}
    (written : dir.nandroid_md5 = some (sum_lines tool before))
    (same : dir.files.map Prod.fst = before.map Prod.fst) :
    Verified tool build flags dir ↔
      (check_code tool dir = 0 → has flags BACKUP_OTHERS = true →
        (dir.files.lookup ".android_secure.img").isSome = false) := by
  have constant : ∀ pair ∈ restore_pairs,
      pair = (android_secure, ".android_secure.img") ∨ matches_img pair.2 = true := by decide
  have secure : (android_secure, ".android_secure.img") ∈ asked (restores build flags) ↔
      has flags BACKUP_OTHERS = true := by
    rw [mem_asked]
    constructor
    · rintro ⟨row, inTable, set, inRow⟩
      have others : ∀ row ∈ restores build flags, (android_secure, ".android_secure.img") ∈ row.2 →
          row.1 = has flags BACKUP_OTHERS := by
        simp [restores, android_secure]
      exact others row inTable inRow ▸ set
    · intro set
      exact ⟨(has flags BACKUP_OTHERS, [(android_secure, ".android_secure.img")]), by simp [restores], set,
        List.mem_singleton.mpr rfl⟩
  rw [restore_verified_iff checks]
  constructor
  · intro listed passed set
    by_contra present
    have named := ((listed_sums written).mp
      (listed passed _ (secure.mpr set) (Bool.not_eq_false _ ▸ present))).2
    revert named
    decide
  · intro absent passed pair member present
    rcases constant pair ((restores_sublist build flags).subset member) with rfl | named
    · rw [absent passed (secure.mp member)] at present
      cases present
    · refine (listed_sums written).mpr ⟨?_, named⟩
      obtain ⟨file, inFiles, key⟩ := List.lookup_isSome_iff.mp present
      rw [← same]
      exact eq_of_beq key ▸ List.mem_map_of_mem inFiles

end

/-! ### A backup of a phone -/

/-- The sums of files that are empty, `a` or `abc`; the others are not looked at. -/
def some_sums : List (String × String) := [
  ("", "d41d8cd98f00b204e9800998ecf8427e"),
  ("a", "0cc175b9c0f1b6a831c399e269772661"),
  ("abc", "900150983cd24fb0d6963f7d28e17f72")]

def known_md5 (bytes : String) : String := (some_sums.lookup bytes).getD ""

def known_check (files : List (String × String)) (sums : List (String × String)) : Int :=
  if sums ≠ [] ∧ ∀ line ∈ sums, (files.lookup line.2).map known_md5 = some line.1 then 0 else 1

def known_md5sum : Md5sum String String where
  md5 := known_md5
  check := known_check
  checked := by
    intro files sums passed line member
    unfold known_check at passed
    split at passed
    · rename_i all
      obtain ⟨bytes, found, right⟩ := Option.map_eq_some_iff.mp (all.2 line member)
      exact ⟨bytes, found, right⟩
    · cases passed

/-- SYSTEM: holds `a`, and `.android_secure` holds `abc`. -/
def phone : Flash String :=
  ⟨fun root => if root = "SYSTEM:" then .whole "a" else if root = android_secure then .whole "abc" else .remains,
    fun _ => none, []⟩

def backed_up : Directory String String := summed known_md5sum [("system.img", "a"), (".android_secure.img", "abc")]

/-- The image of `.android_secure` has been emptied since. -/
def emptied : Directory String String := { backed_up with files := [("system.img", "a"), (".android_secure.img", "")] }

theorem system_verified : Verified known_md5sum ⟨false, true⟩ BACKUP_SYSTEM emptied := by
  refine (restore_verified_iff (by decide)).mpr ?_
  intro _ pair member _
  have system : asked (restores ⟨false, true⟩ BACKUP_SYSTEM) = [("SYSTEM:", "system.img")] := by decide
  rw [system] at member
  rw [List.mem_singleton.mp member]
  exact ⟨_, rfl, _, List.mem_cons_self, rfl⟩

/-- A backup goes through and leaves the directory as it says; once the image of
    `.android_secure` has been emptied the check is still passed, and a restore unpacks
    the empty image, of which no sum is recorded. -/
theorem secure_unverified :
    (nandroid_backup_flags ⟨false, true⟩ all_succeed (BACKUP_SYSTEM ||| BACKUP_OTHERS) phone).1 = 0 ∧
      (∀ name, (nandroid_backup_flags ⟨false, true⟩ all_succeed (BACKUP_SYSTEM ||| BACKUP_OTHERS) phone).2.images name =
        images backed_up name) ∧
      all_succeed.md5sum = sum_code backed_up.files ∧ check_code known_md5sum emptied = 0 ∧
      ¬ Verified known_md5sum ⟨false, true⟩ (BACKUP_SYSTEM ||| BACKUP_OTHERS) emptied := by
  have returned : (nandroid_backup_flags ⟨false, true⟩ all_succeed (BACKUP_SYSTEM ||| BACKUP_OTHERS) phone).1 = 0 := by
    decide
  refine ⟨returned, ?_, by decide, by decide, ?_⟩
  · intro name
    have made : asked (backups ⟨false, true⟩ all_succeed (BACKUP_SYSTEM ||| BACKUP_OTHERS)) =
        [("SYSTEM:", "system.img"), (android_secure, ".android_secure.img")] := by decide
    rw [backup_makes _ returned, made]
    by_cases secure : name = ".android_secure.img"
    · subst secure
      rfl
    · by_cases system : name = "system.img"
      · subst system
        rfl
      · simp [save, Function.update_of_ne secure, Function.update_of_ne system, phone, images, backed_up, summed,
          List.lookup_cons, beq_false_of_ne secure, beq_false_of_ne system]
  · intro verified
    have unpacked : UnpacksOnto ⟨false, true⟩ all_succeed (BACKUP_SYSTEM ||| BACKUP_OTHERS) emptied android_secure "" := by
      intro contents
      exact (restore_unpacks _ _ all_succeed_succeeds ⟨contents, images emptied, []⟩).2.filled
        (android_secure, ".android_secure.img") (by decide) _ rfl
    obtain ⟨sums, found, member⟩ := verified all_succeed (by decide) android_secure "" unpacked
    cases found
    revert member
    decide

end SteamRecovery.Checksums
