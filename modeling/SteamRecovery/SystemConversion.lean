import SteamRecovery.Autodetect
import SteamRecovery.Unmounting

/-!
Converting the filesystem of `/system` (`convert_system` in `init.c`). The system is
mounted at `/tmp/sys`, packed into an archive on the SD card, formatted, and
unpacked again. A run is the list of the calls it makes, each with the answer it
got. The archive is written right before the formatting, but a failure to write it
is only reported, so it is whole only where `tar` returned 0; and it is removed
after it has been unpacked, or that has failed (`convert_system_guarded`), so the
only copy of the system can be lost; and where the new filesystem is not mounted, it
is unpacked into a directory (`convert_system_safe_iff`).
-/
namespace SteamRecovery.SystemConversion
open SteamRecovery.Devices
open SteamRecovery.Config
open SteamRecovery.MountTables
open SteamRecovery.Volumes
open SteamRecovery.Unmounting (unmount_filesystem)
open SteamRecovery.Autodetect (filesystem_format)

/-- `/mnt/sdcard/.syssave/save.tar`: not there, written in part, or a complete copy of what
    `/tmp/sys` held, which is no tree where nothing is mounted there. -/
inductive Archive (Tree : Type) where
  | missing
  | incomplete
  | copy (held : Option Tree)
  deriving DecidableEq

/-- The tables, the tree on the system partition, where that is whole, and the archive. -/
structure Machine (Tree : Type) where
  tables : Tables
  system : Option Tree
  archive : Archive Tree

variable {Tree : Type}

/-- What `/tmp/sys` holds. -/
def Machine.held (m : Machine Tree) : Option Tree := if mounted_at "/tmp/sys" m.tables.mounts then m.system else none

/-- The calls that matter to the system partition and its archive, with their answers. -/
inductive Call (Tree : Type) where
  | mount (o : Outcomes) (cmd : Cmd)
  | check_and_mount (o : Outcomes) (fstype : CInt)
  /-- A turn of the free-space loop, with `sdcardfree` and `sysused` as it leaves them. -/
  | statfs (sdcardfree sysused : UInt64)
  /-- The file manager, in which the user may change anything. -/
  | file_manager (session : Machine Tree → Machine Tree)
  | rm_syssave (removes : Bool)
  | tar_create (code : Int)
  | unmount_filesystem (o : Outcomes)
  | filesystem_format (o : Outcomes) (password : String) (erases : Bool) (fstype : CInt)
  | tar_extract (code : Int)
  /-- The line of `fs.system.rfs` is commented out in `/tmp/sys/etc/steam.conf`. -/
  | sed (edit : Tree → Tree)
  | reboot_recovery
  /-- `while (true) sleep(1);` -/
  | halt

/-- Unpacking the archive at `/tmp/sys`. -/
def unpack (code : Int) (m : Machine Tree) : Option Tree :=
  if mounted_at "/tmp/sys" m.tables.mounts then
    match m.archive with
    | .copy (some tree) => if code = 0 then some tree else none
    | .copy none => m.system
    | .incomplete | .missing => none
  else m.system

def Call.effect (m : Machine Tree) : Call Tree → Machine Tree
  | .mount o cmd => { m with tables := (o.call cmd m.tables).2 }
  | .check_and_mount o fstype =>
    { m with tables := (Volumes.check_and_mount o fstype SYSTEM_BLOCK_NAME "loop4" "tmp/sys" none m.tables).2.2 }
  | .file_manager session => session m
  | .rm_syssave removes => { m with archive := if removes then .missing else m.archive }
  | .tar_create code => { m with archive := if code = 0 then .copy m.held else .incomplete }
  | .unmount_filesystem o => { m with tables := (Unmounting.unmount_filesystem o "/tmp/sys" m.tables).2 }
  | .filesystem_format o password erases fstype =>
    { m with
      tables := (Autodetect.filesystem_format o password fstype SYSTEM_BLOCK_NAME none m.tables).2.2
      system := if erases then none else m.system }
  | .tar_extract code => { m with system := unpack code m }
  | .sed edit => if mounted_at "/tmp/sys" m.tables.mounts then { m with system := m.system.map edit } else m
  | .statfs _ _ | .reboot_recovery | .halt => m

/-- The machine after some calls. -/
def after (m : Machine Tree) (calls : List (Call Tree)) : Machine Tree := calls.foldl Call.effect m

/-- What `statfs` gives in one turn of the free-space loop: `f_bavail` and `f_bsize` of
    `/mnt/sdcard`, and `f_blocks`, `f_bfree` and `f_bsize` of `/system`, or nothing where it
    fails; and what the user does in the file manager after it. -/
structure Round (Tree : Type) where
  sdcard : Option (UInt64 × UInt64)
  system : Option (UInt64 × UInt64 × UInt64)
  session : Machine Tree → Machine Tree

/-- `sdcardfree` and `sysused` after the two `statfs`. -/
def measure (r : Round Tree) (sdcardfree sysused : UInt64) : UInt64 × UInt64 :=
  match r.sdcard with
  | none => (sdcardfree, sysused)
  | some (bavail, bsize) =>
    (bavail * bsize / (1024 * 1024),
      match r.system with
      | none => sysused
      | some (blocks, bfree, bsize) => (blocks - bfree) * bsize / (1024 * 952))

/-- The free-space loop, and whether it is left. -/
def space_loop (allowfm : Bool) : List (Round Tree) → UInt64 → UInt64 → List (Call Tree) × Bool
  | [], sdcardfree, sysused => ([], !(sdcardfree < sysused))
  | r :: rest, sdcardfree, sysused =>
    if sdcardfree < sysused then
      let (sdcardfree, sysused) := measure r sdcardfree sysused
      if sdcardfree < sysused then
        if allowfm then
          let (calls, left) := space_loop allowfm rest sdcardfree sysused
          (.statfs sdcardfree sysused :: .file_manager r.session :: calls, left)
        else ([.statfs sdcardfree sysused, .halt], false)
      else ([.statfs sdcardfree sysused], true)
    else ([], true)

/-- The machine where the free-space loop is left, as the user has made it in the file
    manager, or none where the loop is not left. -/
def left_with (allowfm : Bool) : List (Round Tree) → UInt64 → UInt64 → Machine Tree → Option (Machine Tree)
  | [], sdcardfree, sysused, m => if sdcardfree < sysused then none else some m
  | r :: rest, sdcardfree, sysused, m =>
    if sdcardfree < sysused then
      let (sdcardfree, sysused) := measure r sdcardfree sysused
      if sdcardfree < sysused then
        if allowfm then left_with allowfm rest sdcardfree sysused (r.session m) else none
      else some m
    else some m

/-- What the world answers to a call of `convert_system`. -/
structure World (Tree : Type) where
  sdcard : Outcomes
  mount : Outcomes
  rounds : List (Round Tree)
  removes : Bool
  tar_create : Int
  unmount : Outcomes
  format : Outcomes
  password : String
  erases : Bool
  remount : Outcomes
  tar_extract : Int
  session : Machine Tree → Machine Tree
  removes_last : Bool
  /-- What `sed` makes of the system. -/
  sed : Tree → Tree
  last : Outcomes

/-- `get_conf("preinit.allowfm",value) && strcmp(value,"1")==0` -/
def allowfm (conf : Conf) : Bool := get_conf conf "preinit.allowfm" = some "1"

def TYPE_RFS_BAD_DEFAULT_MOUNT : String := "nodev,nosuid"

/-- Mounting the SD cards and the system. No result is looked at. -/
def mounts (w : World Tree) (fromfstype : CInt) : List (Call Tree) := [
  .mount w.sdcard (.mount "vfat" "utf8" SDCARD_BLOCK_NAME "/mnt/sdcard"),
  .mount w.sdcard (.mount "vfat" "utf8" SDCARD2_BLOCK_NAME "/mnt/external_sd"),
  if fromfstype = TYPE_RFS ||| TYPE_RFS_BAD then
    .mount w.mount (.mount "rfs" TYPE_RFS_BAD_DEFAULT_MOUNT SYSTEM_BLOCK_NAME "/tmp/sys")
  else .check_and_mount w.mount fromfstype]

/-- Where the archive has been unpacked, or the user has had the file manager. -/
def finish (w : World Tree) : List (Call Tree) := [
  .rm_syssave w.removes_last,
  .mount w.last (.umount "/mnt/external_sd"),
  .mount w.last (.umount "/mnt/sdcard"),
  .sed w.sed,
  .unmount_filesystem w.last,
  .reboot_recovery,
  .halt]

/-- Where the archive could not be unpacked. -/
def restore_failed (conf : Conf) (w : World Tree) : List (Call Tree) :=
  if allowfm conf then .file_manager w.session :: finish w else [.rm_syssave w.removes_last, .halt]

/-- The calls behind the free-space loop. -/
def convert (conf : Conf) (w : World Tree) (tofstype : CInt) : List (Call Tree) := [
  .rm_syssave w.removes,
  .tar_create w.tar_create,
  .unmount_filesystem w.unmount,
  .filesystem_format w.format w.password w.erases tofstype,
  .check_and_mount w.remount tofstype,
  .tar_extract w.tar_extract] ++ if w.tar_extract ≠ 0 then restore_failed conf w else finish w

def convert_system (conf : Conf) (w : World Tree) (fromfstype tofstype : CInt) : List (Call Tree) :=
  let (turns, left) := space_loop (allowfm conf) w.rounds 0 2147483647
  mounts w fromfstype ++ turns ++ if left then convert conf w tofstype else []

/-! ### What holds where the system is formatted -/

/-- The free-space loop has just been left, and the archive has been written. It is a
    complete copy of what `/tmp/sys` held, unless `tar` has reported a failure. -/
def Saved (m : Machine Tree) (before : List (Call Tree)) : Prop :=
  ∃ earlier sdcardfree sysused removes code o,
    before = earlier ++
        [.statfs sdcardfree sysused, .rm_syssave removes, .tar_create code, .unmount_filesystem o] ∧
      ¬ sdcardfree < sysused ∧ (code = 0 → (after m before).archive = .copy (after m earlier).held)

/-- The archive is removed only after it has been unpacked, just as it was; and where that
    fails and the file manager is allowed, only after the user has had that. -/
def Unpacked (allowfm : Bool) (m : Machine Tree) (before : List (Call Tree)) (format : Call Tree)
    (later : List (Call Tree)) : Prop :=
  ∀ mid removes rest, later = mid ++ .rm_syssave removes :: rest →
    ∃ between code tail, mid = between ++ .tar_extract code :: tail ∧
      (after m (before ++ format :: between)).archive = (after m before).archive ∧
      (code ≠ 0 → allowfm = true → ∃ session, .file_manager session ∈ tail)

def Guarded (allowfm : Bool) (m : Machine Tree) (calls : List (Call Tree)) : Prop :=
  ∀ before o password erases fstype later, calls = before ++ .filesystem_format o password erases fstype :: later →
    Saved m before ∧ Unpacked allowfm m before (.filesystem_format o password erases fstype) later

/-- The call formats the system. -/
def Call.formats : Call Tree → Bool
  | .filesystem_format _ _ _ _ => true
  | _ => false

theorem space_loop_formats (allowfm : Bool) (rounds : List (Round Tree)) (sdcardfree sysused : UInt64) :
    ∀ call ∈ (space_loop allowfm rounds sdcardfree sysused).1, call.formats = false := by
  fun_induction space_loop allowfm rounds sdcardfree sysused with
  | case1 => simp
  | case2 r rest _ _ _ free used _ _ _ calls left step ih =>
    rw [step] at ih
    exact List.forall_mem_cons.mpr ⟨rfl, List.forall_mem_cons.mpr ⟨rfl, ih⟩⟩
  | case3 => simp [Call.formats]
  | case4 => simp [Call.formats]
  | case5 => simp

/-- The loop is left only where the last measure allows it. -/
theorem space_loop_left {allowfm : Bool} {rounds : List (Round Tree)} {sdcardfree sysused : UInt64}
    (short : sdcardfree < sysused) (left : (space_loop allowfm rounds sdcardfree sysused).2 = true) :
    ∃ first free used, (space_loop allowfm rounds sdcardfree sysused).1 = first ++ [.statfs free used] ∧
      ¬ free < used := by
  fun_induction space_loop allowfm rounds sdcardfree sysused with
  | case1 => simp [short] at left
  | case2 r rest _ _ _ free used _ still _ calls _ step ih =>
    rw [step] at ih
    obtain ⟨first, last_free, last_used, same, enough⟩ := ih still left
    refine ⟨.statfs free used :: .file_manager r.session :: first, last_free, last_used, ?_, enough⟩
    simpa using same
  | case3 => cases left
  | case4 r rest _ _ _ free used _ enough => exact ⟨[], free, used, rfl, enough⟩
  | case5 _ _ _ _ enough => exact absurd short enough

/-- Only the archive and the tree change while it is written, and it holds what was there. -/
theorem written_archive (m : Machine Tree) (free used : UInt64) (removes : Bool) (o : Outcomes) :
    (after m [.statfs free used, .rm_syssave removes, .tar_create 0, .unmount_filesystem o]).archive = .copy m.held := rfl

theorem after_append (m : Machine Tree) (first second : List (Call Tree)) :
    after m (first ++ second) = after (after m first) second :=
  List.foldl_append

section
variable (conf : Conf) (w : World Tree) (m : Machine Tree)

/-- The calls behind the formatting. -/
def later_calls (tofstype : CInt) : List (Call Tree) :=
  [.check_and_mount w.remount tofstype, .tar_extract w.tar_extract] ++
    if w.tar_extract ≠ 0 then restore_failed conf w else finish w

theorem finish_formats : ∀ call ∈ finish w, call.formats = false := by
  simp only [finish, List.forall_mem_cons]
  exact ⟨rfl, rfl, rfl, rfl, rfl, rfl, rfl, List.forall_mem_nil _⟩

theorem restore_failed_formats : ∀ call ∈ restore_failed conf w, call.formats = false := by
  unfold restore_failed
  split
  · exact List.forall_mem_cons.mpr ⟨rfl, finish_formats w⟩
  · exact List.forall_mem_cons.mpr ⟨rfl, List.forall_mem_singleton.mpr rfl⟩

theorem later_formats (tofstype : CInt) : ∀ call ∈ later_calls conf w tofstype, call.formats = false := by
  refine List.forall_mem_cons.mpr ⟨rfl, List.forall_mem_cons.mpr ⟨rfl, ?_⟩⟩
  split
  · exact restore_failed_formats conf w
  · exact finish_formats w

/-- The archive is unpacked before it can be removed. -/
theorem later_apart {tofstype : CInt} {mid rest : List (Call Tree)} {removes : Bool}
    (split_at : later_calls conf w tofstype = mid ++ .rm_syssave removes :: rest) :
    ∃ tail, mid = [.check_and_mount w.remount tofstype] ++ .tar_extract w.tar_extract :: tail ∧
      tail ++ .rm_syssave removes :: rest = if w.tar_extract ≠ 0 then restore_failed conf w else finish w := by
  match mid, split_at with
  | [], same => cases (List.cons.inj same).1
  | [_], same => cases (List.cons.inj (List.cons.inj same).2).1
  | a :: b :: tail, same =>
    obtain ⟨first, same⟩ := List.cons.inj same
    obtain ⟨second, same⟩ := List.cons.inj same
    exact ⟨tail, by rw [← first, ← second]; rfl, same.symm⟩

/-- The archive is still what it was when it comes to be unpacked, and only then removed. -/
theorem later_unpacked (tofstype : CInt) (before : List (Call Tree)) (o : Outcomes) (password : String) (erases : Bool)
    (fstype : CInt) :
    Unpacked (allowfm conf) m before (.filesystem_format o password erases fstype) (later_calls conf w tofstype) := by
  intro mid removes rest split_at
  obtain ⟨tail, rfl, remaining⟩ := later_apart conf w split_at
  refine ⟨_, _, tail, rfl, ?_, fun failed allowed => ?_⟩
  · rw [after_append]
    rfl
  · rw [if_pos failed, restore_failed, if_pos allowed] at remaining
    match tail, remaining with
    | [], same => simp at same
    | first :: _, same => exact ⟨w.session, by rw [(List.cons.inj same).1]; exact List.mem_cons_self⟩

theorem mounts_formats (fromfstype : CInt) : ∀ call ∈ mounts w fromfstype, call.formats = false := by
  rw [mounts]
  split <;> simp [Call.formats]

/-- The calls up to the formatting, where the free-space loop ends with this measure. -/
def calls_before (fromfstype : CInt) (turns : List (Call Tree)) (free used : UInt64) : List (Call Tree) :=
  mounts w fromfstype ++ turns ++
    [.statfs free used, .rm_syssave w.removes, .tar_create w.tar_create, .unmount_filesystem w.unmount]

/-- A run either never comes to format, or does so behind the loop and the archive. -/
theorem convert_system_calls (fromfstype tofstype : CInt) :
    (∀ call ∈ convert_system conf w fromfstype tofstype, call.formats = false) ∨
      ∃ turns free used, (∀ call ∈ calls_before w fromfstype turns free used, call.formats = false) ∧ ¬ free < used ∧
        convert_system conf w fromfstype tofstype = calls_before w fromfstype turns free used ++
          .filesystem_format w.format w.password w.erases tofstype :: later_calls conf w tofstype := by
  have starts := mounts_formats w fromfstype
  have loops := space_loop_formats (allowfm conf) w.rounds 0 2147483647
  rw [convert_system]
  dsimp only
  cases left : (space_loop (allowfm conf) w.rounds 0 2147483647).2 with
  | false =>
    left
    simpa only [Bool.false_eq_true, ↓reduceIte, List.append_nil, List.forall_mem_append] using ⟨starts, loops⟩
  | true =>
    obtain ⟨turns, free, used, same, enough⟩ := space_loop_left (by decide) left
    rw [same] at loops ⊢
    refine .inr ⟨turns, free, used, ?_, enough, ?_⟩
    · rw [List.forall_mem_append] at loops
      rw [calls_before]
      rw [List.forall_mem_append, List.forall_mem_append]
      exact ⟨⟨starts, loops.1⟩, by simp [Call.formats]⟩
    · simp [calls_before, convert, later_calls]

/-- Whenever a run formats the system, the archive has just been written, and is removed
    only after it has been unpacked or that has failed. -/
theorem convert_system_guarded (fromfstype tofstype : CInt) :
    Guarded (allowfm conf) m (convert_system conf w fromfstype tofstype) := by
  intro before o password erases fstype later split_at
  rcases convert_system_calls conf w fromfstype tofstype with none | ⟨turns, free, used, starts, enough, same⟩
  · have formats := none (.filesystem_format o password erases fstype) (by rw [split_at]; simp)
    cases formats
  · rw [same] at split_at
    have notBefore : .filesystem_format o password erases fstype ∉ calls_before w fromfstype turns free used :=
      fun member => by cases starts _ member
    have notLater : .filesystem_format o password erases fstype ∉ later_calls conf w tofstype :=
      fun member => by cases later_formats conf w tofstype _ member
    obtain ⟨rfl, _, rfl⟩ := (List.append_cons_inj_of_notMem notBefore notLater).mp split_at
    refine ⟨⟨mounts w fromfstype ++ turns, free, used, w.removes, w.tar_create, w.unmount, rfl, enough, fun whole => ?_⟩,
      later_unpacked conf w m tofstype _ o password erases fstype⟩
    rw [calls_before, after_append, whole]
    exact written_archive ..

end

/-! ### When the system is never lost -/

/-- No run formats the system without a complete copy of its tree, and none removes the copy
    before it has been unpacked. -/
def NeverLost (m : Machine Tree) (calls : List (Call Tree)) : Prop :=
  ∀ before o password erases fstype later, calls = before ++ .filesystem_format o password erases fstype :: later →
    (∃ tree, (after m before).system = some tree ∧ (after m before).archive = .copy (some tree)) ∧
      ∀ mid rest, later = mid ++ .rm_syssave true :: rest → .tar_extract 0 ∈ mid

/-- Where the archive is removed behind the formatting, a `tar` that returned 0 has put the
    tree back on the partition. Where nothing is mounted at `/tmp/sys` any more, it unpacks
    the tree into the directory there, and returns 0 as well. -/
def PutBack (m : Machine Tree) (before : List (Call Tree)) (format : Call Tree) (later : List (Call Tree)) : Prop :=
  ∀ mid rest, later = mid ++ .rm_syssave true :: rest → ∃ between tail, mid = between ++ .tar_extract 0 :: tail ∧
    (after m (before ++ format :: (between ++ [.tar_extract 0]))).system = (after m before).system

/-- Nor does any run remove the copy before the tree is back. -/
def NeverDestroyed (m : Machine Tree) (calls : List (Call Tree)) : Prop :=
  NeverLost m calls ∧
    ∀ before o password erases fstype later, calls = before ++ .filesystem_format o password erases fstype :: later →
      PutBack m before (.filesystem_format o password erases fstype) later

/-- The system is mounted with its whole tree, packing it works, and unpacking it as well,
    unless the archive cannot be removed. -/
structure Safe (w : World Tree) (s : Machine Tree) : Prop where
  held : s.held ≠ none
  packed : w.tar_create = 0
  unpacked : w.tar_extract = 0 ∨ w.removes_last = false

/-- The tables when the archive comes to be unpacked. -/
def tables_to_unpack (w : World Tree) (tofstype : CInt) (tables : Tables) : Tables :=
  let tables := (unmount_filesystem w.unmount "/tmp/sys" tables).2
  let tables := (filesystem_format w.format w.password tofstype SYSTEM_BLOCK_NAME none tables).2.2
  (check_and_mount w.remount tofstype SYSTEM_BLOCK_NAME "loop4" "tmp/sys" none tables).2.2

/-- The new filesystem is mounted at `/tmp/sys`, or the formatting has wiped nothing. -/
def Returns (w : World Tree) (tofstype : CInt) (s : Machine Tree) : Prop :=
  w.erases = false ∨ mounted_at "/tmp/sys" (tables_to_unpack w tofstype s.tables).mounts = true

theorem space_loop_machine (allowfm : Bool) (rounds : List (Round Tree)) (sdcardfree sysused : UInt64)
    (m : Machine Tree) :
    left_with allowfm rounds sdcardfree sysused m =
      if (space_loop allowfm rounds sdcardfree sysused).2 then
        some (after m (space_loop allowfm rounds sdcardfree sysused).1)
      else none := by
  fun_induction space_loop allowfm rounds sdcardfree sysused generalizing m with
  | case1 sdcardfree sysused => by_cases short : sdcardfree < sysused <;> simp [left_with, short, after]
  | case2 r rest _ _ short free used measured still fm calls left step ih =>
    rw [step] at ih
    rw [left_with, if_pos short, measured]
    simp only [still, ↓reduceIte]
    rw [if_pos fm]
    exact ih (r.session m)
  | case3 r rest _ _ short free used measured still fm =>
    rw [left_with, if_pos short, measured]
    simp [still, fm]
  | case4 r rest _ _ short free used measured enough =>
    rw [left_with, if_pos short, measured]
    simp only [enough, ↓reduceIte]
    rfl
  | case5 r rest _ _ enough =>
    rw [left_with, if_neg enough]
    rfl

section
variable (conf : Conf) (w : World Tree) (m : Machine Tree)

/-- The calls between the free-space loop and the formatting. -/
def packing : List (Call Tree) := [.rm_syssave w.removes, .tar_create w.tar_create, .unmount_filesystem w.unmount]

theorem held_system {s : Machine Tree} {tree : Tree} (held : s.held = some tree) : s.system = some tree := by
  unfold Machine.held at held
  split at held
  · exact held
  · cases held

/-- What is written right before the formatting is a copy of what was mounted. -/
theorem packed_iff (s : Machine Tree) :
    (∃ tree, (after s (packing w)).system = some tree ∧ (after s (packing w)).archive = .copy (some tree)) ↔
      s.held ≠ none ∧ w.tar_create = 0 := by
  have archived : (after s (packing w)).archive = if w.tar_create = 0 then .copy s.held else .incomplete := rfl
  have same : (after s (packing w)).system = s.system := rfl
  rw [archived, same]
  by_cases code : w.tar_create = 0
  · simp only [code, ↓reduceIte, Archive.copy.injEq, and_true]
    constructor
    · rintro ⟨tree, -, held⟩
      simp [held]
    · intro held
      obtain ⟨tree, held⟩ := Option.ne_none_iff_exists'.mp held
      exact ⟨tree, held_system held, held⟩
  · simp [code]

/-- The archive is removed in the end, whether it was unpacked or not. -/
theorem archive_removed : .rm_syssave true ∈ restore_failed conf w ↔ w.removes_last = true := by
  have removed : .rm_syssave true ∈ finish w ↔ w.removes_last = true := by simp [finish]
  unfold restore_failed
  split
  · simp [removed]
  · simp

theorem extracted_iff (tofstype : CInt) :
    (∀ mid rest, later_calls conf w tofstype = mid ++ .rm_syssave true :: rest → .tar_extract 0 ∈ mid) ↔
      w.tar_extract = 0 ∨ w.removes_last = false := by
  by_cases code : w.tar_extract = 0
  · simp only [code, true_or, iff_true]
    intro mid rest split_at
    obtain ⟨tail, rfl, -⟩ := later_apart conf w split_at
    simp [code]
  · have calls : later_calls conf w tofstype =
        [.check_and_mount w.remount tofstype, .tar_extract w.tar_extract] ++ restore_failed conf w := by
      rw [later_calls, if_pos code]
    have never : .tar_extract 0 ∉ later_calls conf w tofstype := by
      rw [calls]
      unfold restore_failed finish
      split <;> simp [Ne.symm code]
    have removed : .rm_syssave true ∈ later_calls conf w tofstype ↔ w.removes_last = true := by
      rw [calls, List.mem_append, archive_removed]
      simp
    rw [or_iff_right code, ← Bool.not_eq_true, ← removed]
    constructor
    · intro always listed
      obtain ⟨mid, rest, split_at⟩ := List.append_of_mem listed
      exact never (by rw [split_at]; exact List.mem_append_left _ (always mid rest split_at))
    · intro absent mid rest split_at
      exact absurd (by rw [split_at]; simp) absent

/-- Unpacking puts the tree back exactly where the new filesystem is mounted, or the old one
    was not wiped. -/
theorem unpacked_system {s : Machine Tree} (tofstype : CInt) (safe : Safe w s) :
    (after s (packing w ++ [.filesystem_format w.format w.password w.erases tofstype, .check_and_mount w.remount tofstype,
        .tar_extract 0])).system = s.system ↔ Returns w tofstype s := by
  obtain ⟨tree, held⟩ := Option.ne_none_iff_exists'.mp safe.held
  have archived : (Archive.copy s.held : Archive Tree) = .copy (some tree) := congrArg _ held
  have unpacked : (after s (packing w ++ [.filesystem_format w.format w.password w.erases tofstype,
      .check_and_mount w.remount tofstype, .tar_extract 0])).system =
        if mounted_at "/tmp/sys" (tables_to_unpack w tofstype s.tables).mounts then some tree
        else if w.erases then none else s.system := by
    simp only [after, packing, List.cons_append, List.nil_append, List.foldl_cons, List.foldl_nil, Call.effect, unpack,
      safe.packed, ↓reduceIte]
    rw [show ({ s with archive := if w.removes then .missing else s.archive } : Machine Tree).held = s.held from rfl,
      archived]
    rfl
  rw [unpacked, held_system held, Returns]
  cases mounted_at "/tmp/sys" (tables_to_unpack w tofstype s.tables).mounts <;> cases w.erases <;> simp

theorem archive_stays (tofstype : CInt) (stays : w.removes_last = false) :
    .rm_syssave true ∉ later_calls conf w tofstype := by
  unfold later_calls
  split
  · simpa [archive_removed] using stays
  · simp [finish, stays]

/-- Where the archive is removed, it was unpacked right behind the formatting. -/
theorem put_back_iff {s : Machine Tree} (tofstype : CInt) (safe : Safe w s) {before : List (Call Tree)}
    (reaches : after m before = after s (packing w)) :
    PutBack m before (.filesystem_format w.format w.password w.erases tofstype) (later_calls conf w tofstype) ↔
      w.removes_last = false ∨ Returns w tofstype s := by
  cases removes : w.removes_last with
  | false =>
    refine iff_of_true (fun mid rest split_at => ?_) (.inl rfl)
    exact absurd (by rw [split_at]; simp) (archive_stays conf w tofstype removes)
  | true =>
    have code : w.tar_extract = 0 := safe.unpacked.resolve_right (by simp [removes])
    have calls : later_calls conf w tofstype =
        [.check_and_mount w.remount tofstype, .tar_extract 0] ++ .rm_syssave true :: (finish w).tail := by
      simp [later_calls, code, finish, removes]
    have behind : (after m (before ++ .filesystem_format w.format w.password w.erases tofstype ::
        ([.check_and_mount w.remount tofstype] ++ [.tar_extract 0]))).system = (after m before).system ↔
          Returns w tofstype s := by
      rw [after_append, reaches, ← after_append]
      exact unpacked_system w tofstype safe
    simp only [Bool.true_eq_false, false_or]
    constructor
    · intro back
      obtain ⟨between, tail, apart, same⟩ := back _ _ calls
      have alone : between = [.check_and_mount w.remount tofstype] := by
        match between, apart with
        | [], apart => cases (List.cons.inj apart).1
        | [_], apart => rw [(List.cons.inj apart).1]
        | _ :: _ :: _, apart => simp at apart
      rw [alone] at same
      exact behind.mp same
    · intro returns mid rest split_at
      obtain ⟨tail, rfl, -⟩ := later_apart conf w split_at
      exact ⟨[.check_and_mount w.remount tofstype], tail, by rw [code], behind.mpr returns⟩

/-- Whatever is asked of a run where it formats the system, is asked of the one place where
    it does, if the free-space loop is left. -/
theorem convert_system_formats (fromfstype tofstype : CInt) (P : List (Call Tree) → Call Tree → List (Call Tree) → Prop) :
    (∀ before o password erases fstype later,
        convert_system conf w fromfstype tofstype = before ++ .filesystem_format o password erases fstype :: later →
          P before (.filesystem_format o password erases fstype) later) ↔
      ((space_loop (allowfm conf) w.rounds 0 2147483647).2 = true →
        P (mounts w fromfstype ++ (space_loop (allowfm conf) w.rounds 0 2147483647).1 ++ packing w)
          (.filesystem_format w.format w.password w.erases tofstype) (later_calls conf w tofstype)) := by
  have starts := mounts_formats w fromfstype
  have loops := space_loop_formats (allowfm conf) w.rounds 0 2147483647
  rw [convert_system]
  dsimp only
  cases left : (space_loop (allowfm conf) w.rounds 0 2147483647).2 with
  | false =>
    simp only [Bool.false_eq_true, ↓reduceIte, List.append_nil, false_imp_iff, iff_true]
    intro before o password erases fstype later split_at
    have formats := List.forall_mem_append.mpr ⟨starts, loops⟩ (.filesystem_format o password erases fstype)
      (by rw [split_at]; simp)
    cases formats
  | true =>
    let first := mounts w fromfstype ++ (space_loop (allowfm conf) w.rounds 0 2147483647).1
    let format : Call Tree := .filesystem_format w.format w.password w.erases tofstype
    have calls : first ++ convert conf w tofstype = (first ++ packing w) ++ format :: later_calls conf w tofstype := by
      simp [packing, format, convert, later_calls]
    have notBefore : ∀ call ∈ first ++ packing w, call.formats = false := by
      refine List.forall_mem_append.mpr ⟨List.forall_mem_append.mpr ⟨starts, loops⟩, ?_⟩
      simp [packing, Call.formats]
    have notLater := later_formats conf w tofstype
    simp only [↓reduceIte, true_imp_iff]
    rw [calls]
    constructor
    · exact fun always => always _ _ _ _ _ _ rfl
    · intro once before o password erases fstype later split_at
      have absent : .filesystem_format o password erases fstype ∉ first ++ packing w :=
        fun member => by cases notBefore _ member
      have absent_later : .filesystem_format o password erases fstype ∉ later_calls conf w tofstype :=
        fun member => by cases notLater _ member
      obtain ⟨rfl, same, rfl⟩ := (List.append_cons_inj_of_notMem absent absent_later).mp split_at
      rw [← same]
      exact once

theorem never_lost_iff (fromfstype tofstype : CInt) :
    NeverLost m (convert_system conf w fromfstype tofstype) ↔
      ((space_loop (allowfm conf) w.rounds 0 2147483647).2 = true →
        Safe w (after m (mounts w fromfstype ++ (space_loop (allowfm conf) w.rounds 0 2147483647).1))) := by
  rw [NeverLost, convert_system_formats conf w fromfstype tofstype fun before _ later =>
    (∃ tree, (after m before).system = some tree ∧ (after m before).archive = .copy (some tree)) ∧
      ∀ mid rest, later = mid ++ Call.rm_syssave true :: rest → Call.tar_extract 0 ∈ mid]
  refine forall_congr' fun _ => ?_
  rw [after_append m _ (packing w), packed_iff, extracted_iff]
  exact ⟨fun ⟨⟨held, packed⟩, unpacked⟩ => ⟨held, packed, unpacked⟩, fun safe => ⟨⟨safe.held, safe.packed⟩, safe.unpacked⟩⟩

/-- The system is never lost exactly where the free-space loop is not left, or left with the
    system mounted, and packing and unpacking it work, unless the archive stays. And the
    archive does not go before the tree is back exactly where, besides, the new filesystem
    is mounted or nothing was wiped. -/
theorem convert_system_safe_iff (fromfstype tofstype : CInt) :
    (NeverLost m (convert_system conf w fromfstype tofstype) ↔
      ∀ s, left_with (allowfm conf) w.rounds 0 2147483647 (after m (mounts w fromfstype)) = some s → Safe w s) ∧
    (NeverDestroyed m (convert_system conf w fromfstype tofstype) ↔
      ∀ s, left_with (allowfm conf) w.rounds 0 2147483647 (after m (mounts w fromfstype)) = some s →
        Safe w s ∧ (w.removes_last = false ∨ Returns w tofstype s)) := by
  have left : ∀ P : Machine Tree → Prop,
      (∀ s, left_with (allowfm conf) w.rounds 0 2147483647 (after m (mounts w fromfstype)) = some s → P s) ↔
        ((space_loop (allowfm conf) w.rounds 0 2147483647).2 = true →
          P (after m (mounts w fromfstype ++ (space_loop (allowfm conf) w.rounds 0 2147483647).1))) := by
    intro P
    rw [space_loop_machine, ← after_append]
    split
    · rename_i left
      simp [left]
    · rename_i stays
      simp [stays]
  have lost := never_lost_iff conf w m fromfstype tofstype
  rw [left, left]
  refine ⟨lost, ?_⟩
  rw [NeverDestroyed, lost, convert_system_formats conf w fromfstype tofstype (PutBack m)]
  rw [← imp_and]
  refine forall_congr' fun _ => ?_
  refine and_congr_right fun safe => ?_
  exact put_back_iff conf w m tofstype safe (after_append ..)

end

/-- There is space on the SD card, and every step works. -/
def each_works : World Tree where
  sdcard := all_work
  mount := all_work
  rounds := [⟨some (1024, 1048576), some (512, 0, 1048576), id⟩]
  removes := true
  tar_create := 0
  unmount := all_work
  format := all_work
  password := ""
  erases := true
  remount := all_work
  tar_extract := 0
  session := id
  removes_last := true
  sed := id
  last := all_work

/-- A phone with a system, and nothing mounted. -/
def phone : Machine Unit := ⟨no_tables, some (), .missing⟩

def no_conf : Conf := ⟨[], List.nodup_nil, none, false, fun _ => none⟩

/-- The archive cannot be unpacked on the new filesystem, and is removed all the same. -/
theorem only_copy_removed :
    ¬ NeverLost phone (convert_system no_conf { each_works with tar_extract := 1 } TYPE_RFS TYPE_EXT4) := by
  intro never
  have split_at : (convert_system no_conf { each_works with tar_extract := 1 } TYPE_RFS TYPE_EXT4 :
      List (Call Unit)) = calls_before each_works TYPE_RFS [] 1024 550 ++
        .filesystem_format all_work "" true TYPE_EXT4 ::
          [.check_and_mount all_work TYPE_EXT4, .tar_extract 1, .rm_syssave true, .halt] := by
    rfl
  have extracted := (never _ _ _ _ _ _ split_at).2 [.check_and_mount all_work TYPE_EXT4, .tar_extract 1] [.halt] rfl
  simp at extracted

end SteamRecovery.SystemConversion
