import SteamRecovery.Nandroid

/-!
What a backup makes against what a restore brings back (`nandroid.c`, and the Restore
entry of the backup menu in `extendedcommands.c`). The two go through the partitions
by lists of their own: a restore with the flags of the backup misses EFS: and
RECOVERY: (`flags_restore_iff`), and the menu restores nothing at all
(`backup_comes_back_iff`).
-/
namespace SteamRecovery.BackupCoverage
open SteamRecovery.Devices
open SteamRecovery.Routines
open SteamRecovery.Nandroid

def BACKUP_ALL : CInt := 255

variable {Tree : Type}

/-- The Restore entry of the backup menu, whether a directory is chosen there and
    whether that is confirmed. -/
def show_nandroid_restore_menu (build : Build) (o : Outcomes) (chosen confirmed : Bool) (s : Flash Tree) : Flash Tree :=
  if o.ensure_root_path_mounted "SDCARD:" ≠ 0 then s
  else if chosen && confirmed then (nandroid_restore_flags build o (BACKUP_ALL &&& BACKUP_NOFORMAT) s).2
  else s

def row_asked (row : Bool × List (String × String)) : List (String × String) := if row.1 then row.2 else []

/-- What the rows of a table ask for. -/
def asked (table : List (Bool × List (String × String))) : List (String × String) := table.flatMap row_asked

theorem mem_asked {table : List (Bool × List (String × String))} {pair : String × String} :
    pair ∈ asked table ↔ ∃ row ∈ table, row.1 = true ∧ pair ∈ row.2 := by
  unfold asked
  rw [List.mem_flatMap]
  constructor
  · rintro ⟨row, member, inRow⟩
    cases set : row.1 with
    | false => simp [row_asked, set] at inRow
    | true => exact ⟨row, member, set, by simpa [row_asked, set] using inRow⟩
  · rintro ⟨row, member, set, inRow⟩
    exact ⟨row, member, by simpa [row_asked, set] using inRow⟩

theorem asked_sublist (table : List (Bool × List (String × String))) :
    List.Sublist (asked table) (table.flatMap Prod.snd) := by
  induction table with
  | nil => exact List.Sublist.refl _
  | cons row rest ih =>
    have own : List.Sublist (row_asked row) row.2 := by
      unfold row_asked
      cases row.1
      · exact List.nil_sublist _
      · exact List.Sublist.refl _
    exact own.append ih

/-! ### What a backup makes -/

/-- The partitions that are asked for, with their images. -/
def backups (build : Build) (o : Outcomes) (flags : CInt) : List (Bool × List (String × String)) := [
  (!build.BOARD_RECOVERY_IGNORE_BOOTABLES && has flags BACKUP_BOOTABLES,
    [("BOOT:", "boot.img"), ("RECOVERY:", "recovery.img")]),
  (has flags BACKUP_SYSTEM, [("SYSTEM:", "system.img")]),
  (has flags BACKUP_DATA, [("DATA:", "data.img")]),
  (build.HAS_DATADATA && has flags BACKUP_DATADATA, [("DATADATA:", "dbdata.img")]),
  (has flags BACKUP_OTHERS && o.stat "/mnt/sdcard/.android_secure" = 0, [(android_secure, ".android_secure.img")]),
  (has flags BACKUP_CACHE, [("CACHE:", "cache.img")]),
  (has flags BACKUP_EFS, [("EFS:", "efs.img")]),
  (has flags BACKUP_SDEXT && o.stat SDEXT_DEVICE = 0 && o.ensure_root_path_mounted "SDEXT:" = 0,
    [("SDEXT:", "sd-ext.img")])]

/-- Every partition that a backup can be asked for, with its image. -/
def backup_pairs : List (String × String) := [
  ("BOOT:", "boot.img"), ("RECOVERY:", "recovery.img"), ("SYSTEM:", "system.img"), ("DATA:", "data.img"),
  ("DATADATA:", "dbdata.img"), (android_secure, ".android_secure.img"), ("CACHE:", "cache.img"), ("EFS:", "efs.img"),
  ("SDEXT:", "sd-ext.img")]

/-- The images of these partitions are written. -/
def save (made : List (String × String)) (s : Flash Tree) : Flash Tree :=
  made.foldl (fun s pair => { s with images := Function.update s.images pair.2 (some (s.contents pair.1)) }) s

/-- A routine that returns 0 has written the images, and done nothing else. -/
def Makes (Tree : Type) (routine : Routine (Flash Tree)) (made : List (String × String)) : Prop :=
  ∀ s, (routine s).1 = 0 → (routine s).2 = save made s

/-- The code that is returned does not depend on the state. -/
def Blind (routine : Routine (Flash Tree)) : Prop := ∀ s s', (routine s).1 = (routine s').1

section
variable {first second routine : Routine (Flash Tree)}

theorem makes_call (code : Int) : Makes Tree (call code) [] := fun _ _ => rfl

theorem makes_andThen {made later : List (String × String)} (makesFirst : Makes Tree first made)
    (makesSecond : Makes Tree second later) : Makes Tree (andThen first second) (made ++ later) := by
  intro s
  rw [andThen]
  split
  · rename_i ran
    intro passed
    rw [makesSecond _ passed, makesFirst s ran, save, save, save, List.foldl_append]
  · rename_i failed
    exact fun passed => absurd passed failed

theorem makes_onlyIf {condition : Bool} {made : List (String × String)} (makes : Makes Tree routine made) :
    Makes Tree (onlyIf condition routine) (if condition then made else []) := by
  cases condition with
  | false => exact fun _ _ => rfl
  | true => exact makes

theorem makes_inOrder {list : List (Routine (Flash Tree))} {made : List (List (String × String))}
    (makes : List.Forall₂ (Makes Tree) list made) : Makes Tree (inOrder list) made.flatten := by
  induction makes with
  | nil => exact fun _ _ => rfl
  | cons makesFirst _ ih => exact makes_andThen makesFirst ih

theorem makes_image {code : Int} (root image : String) : Makes Tree (write_image code root image) [(root, image)] := by
  intro s passed
  have written : code = 0 := passed
  simp [write_image, written, save]

theorem makes_partition (o : Outcomes) {root image : String} (named : image_name root = image) :
    Makes Tree (nandroid_backup_partition_extended o root) [(root, image)] :=
  named ▸ makes_andThen (makes_call _) (makes_image root _)

theorem blind_andThen (blindFirst : Blind first) (blindSecond : Blind second) : Blind (andThen first second) := by
  intro s s'
  unfold andThen
  rw [blindFirst s s']
  split
  · exact blindSecond _ _
  · exact blindFirst s s'

theorem blind_onlyIf {condition : Bool} (blind : Blind routine) : Blind (onlyIf condition routine) := by
  cases condition with
  | false => exact fun _ _ => rfl
  | true => exact blind

theorem blind_inOrder {list : List (Routine (Flash Tree))} (blind : ∀ routine ∈ list, Blind routine) :
    Blind (inOrder list) := by
  induction list with
  | nil => exact fun _ _ => rfl
  | cons routine rest ih =>
    rw [List.forall_mem_cons] at blind
    exact blind_andThen blind.1 (ih blind.2)

theorem blind_partition (o : Outcomes) (root : String) :
    Blind (nandroid_backup_partition_extended o root : Routine (Flash Tree)) :=
  blind_andThen (fun _ _ => rfl) fun _ _ => rfl

end

section
variable {build : Build} {o : Outcomes} {flags : CInt}

/-- Whether a backup goes through depends on its steps only. -/
theorem backup_blind : Blind (nandroid_backup_flags build o flags : Routine (Flash Tree)) := by
  apply blind_inOrder
  simp only [List.forall_mem_cons, List.not_mem_nil, false_imp_iff, implies_true, and_true]
  refine ⟨fun _ _ => rfl, fun _ _ => rfl, blind_onlyIf (blind_andThen (fun _ _ => rfl) fun _ _ => rfl), ?_, ?_, ?_, ?_,
    ?_, ?_, ?_, fun _ _ => rfl⟩
  all_goals exact blind_onlyIf (blind_partition o _)

/-- A backup that goes through writes the images that are asked for, and nothing else. -/
theorem backup_makes :
    Makes Tree (nandroid_backup_flags build o flags) (asked (backups build o flags)) := by
  have parts : Makes Tree (nandroid_backup_flags build o flags)
      ([] :: [] :: (backups build o flags).map row_asked ++ [[]]).flatten := by
    apply makes_inOrder
    refine .cons (makes_call _) (.cons (makes_call _) (.cons (makes_onlyIf ?_) (.cons (makes_onlyIf ?_)
      (.cons (makes_onlyIf ?_) (.cons (makes_onlyIf ?_) (.cons (makes_onlyIf ?_) (.cons (makes_onlyIf ?_)
        (.cons (makes_onlyIf ?_) (.cons (makes_onlyIf ?_) (.cons (makes_call _) .nil))))))))))
    · exact makes_andThen (makes_image "BOOT:" "boot.img") (makes_image "RECOVERY:" "recovery.img")
    all_goals exact makes_partition o (by decide)
  simpa [asked, List.flatMap_def] using parts

end

section
variable {made : List (String × String)} {s : Flash Tree}

theorem save_other {image : String} (other : image ∉ made.map Prod.snd) :
    (save made s).images image = s.images image := by
  unfold save
  induction made generalizing s with
  | nil => rfl
  | cons pair rest ih =>
    rw [List.map_cons, List.mem_cons, not_or] at other
    rw [List.foldl_cons, ih other.2]
    exact Function.update_of_ne other.1 _ _

theorem save_member {pair : String × String} (distinct : (made.map Prod.snd).Nodup) (member : pair ∈ made) :
    (save made s).images pair.2 = some (s.contents pair.1) := by
  induction made generalizing s with
  | nil => cases member
  | cons first rest ih =>
    rw [List.map_cons, List.nodup_cons] at distinct
    rcases List.mem_cons.mp member with rfl | later
    · have kept := save_other (s := { s with images := Function.update s.images pair.2 (some (s.contents pair.1)) })
        distinct.1
      exact kept.trans (Function.update_self _ _ _)
    · exact ih (s := { s with images := Function.update s.images first.2 (some (s.contents first.1)) }) distinct.2 later

end

theorem backups_sublist (build : Build) (o : Outcomes) (flags : CInt) :
    List.Sublist (asked (backups build o flags)) backup_pairs :=
  asked_sublist _

theorem backups_distinct (build : Build) (o : Outcomes) (flags : CInt) :
    ((asked (backups build o flags)).map Prod.snd).Nodup := by
  have all : (backup_pairs.map Prod.snd).Nodup := by decide
  exact ((backups_sublist build o flags).map Prod.snd).nodup all

/-- Whatever is in the directory, and whatever the partition holds: behind the backup the
    image holds what the partition holds. -/
def Created (Tree : Type) (build : Build) (o : Outcomes) (flags : CInt) (root image : String) : Prop :=
  ∀ s : Flash Tree, (nandroid_backup_flags build o flags s).2.images image = some (s.contents root)

/-- A partition that is whole, where every other one is gone, and an empty directory. -/
def only_whole (tree : Tree) (root : String) : Flash Tree :=
  ⟨fun other => if other = root then .whole tree else .remains, fun _ => none, []⟩

section
variable {build : Build} {o : Outcomes} {flags : CInt}

/-- The images that a backup makes are those that are asked for. -/
theorem created_iff [Inhabited Tree] {s : Flash Tree} (returned : (nandroid_backup_flags build o flags s).1 = 0)
    {root image : String} : Created Tree build o flags root image ↔ (root, image) ∈ asked (backups build o flags) := by
  have makes : ∀ s : Flash Tree,
      (nandroid_backup_flags build o flags s).2 = save (asked (backups build o flags)) s := fun s' =>
    backup_makes s' ((backup_blind s' s).trans returned)
  constructor
  · intro created
    have held := created (only_whole default root)
    rw [makes] at held
    by_cases listed : image ∈ (asked (backups build o flags)).map Prod.snd
    · obtain ⟨⟨own, _⟩, member, rfl⟩ := List.mem_map.mp listed
      rw [save_member (backups_distinct build o flags) member] at held
      have same : own = root := by
        by_contra apart
        simp [only_whole, apart] at held
      exact same ▸ member
    · rw [save_other listed] at held
      cases held
  · intro member s'
    rw [makes]
    exact save_member (backups_distinct build o flags) member

end

/-! ### What a restore unpacks -/

/-- The partitions that are asked for, with their images. -/
def restores (build : Build) (flags : CInt) : List (Bool × List (String × String)) := [
  (!build.BOARD_RECOVERY_IGNORE_BOOTABLES && has flags BACKUP_BOOTABLES, [("BOOT:", "boot.img")]),
  (has flags BACKUP_SYSTEM, [("SYSTEM:", "system.img")]),
  (has flags BACKUP_DATA, [("DATA:", "data.img")]),
  (build.HAS_DATADATA && has flags BACKUP_DATADATA, [("DATADATA:", "dbdata.img")]),
  (has flags BACKUP_OTHERS, [(android_secure, ".android_secure.img")]),
  (has flags BACKUP_CACHE, [("CACHE:", "cache.img")]),
  (has flags BACKUP_SDEXT, [("SDEXT:", "sd-ext.img")])]

/-- Every partition that a restore can be asked for, with its image. -/
def restore_pairs : List (String × String) := [
  ("BOOT:", "boot.img"), ("SYSTEM:", "system.img"), ("DATA:", "data.img"), ("DATADATA:", "dbdata.img"),
  (android_secure, ".android_secure.img"), ("CACHE:", "cache.img"), ("SDEXT:", "sd-ext.img")]

/-- The check of the sums and the steps of a restore all succeed. -/
structure AllSucceed (o : Outcomes) : Prop where
  check : o.md5sum_check = 0
  mount : ∀ root, o.ensure_root_path_mounted root = 0
  unmount : ∀ root, o.ensure_root_path_unmounted root = 0
  format : ∀ root, o.format_root_device root = 0
  flash : o.write_raw_image = 0
  unpack : ∀ root, o.unyaffs root = 0

theorem all_succeed_succeeds : AllSucceed all_succeed :=
  ⟨rfl, fun _ => rfl, fun _ => rfl, fun _ => rfl, rfl, fun _ => rfl⟩

/-- The images that are there have been unpacked to their partitions, and the other
    partitions were left alone, those without an image too. Only BOOT: is erased before
    its image is looked for. -/
structure Unpacked (pairs : List (String × String)) (s s' : Flash Tree) : Prop where
  images : s'.images = s.images
  filled : ∀ pair ∈ pairs, ∀ image, s.images pair.2 = some image → s'.contents pair.1 = image
  kept : ∀ pair ∈ pairs, pair.1 ≠ "BOOT:" → s.images pair.2 = none → s'.contents pair.1 = s.contents pair.1
  left : ∀ root, root ∉ pairs.map Prod.fst → s'.contents root = s.contents root

def Unpacks (Tree : Type) (routine : Routine (Flash Tree)) (pairs : List (String × String)) : Prop :=
  ∀ s, (routine s).1 = 0 ∧ Unpacked pairs s (routine s).2

theorem unpacked_nothing (s : Flash Tree) : Unpacked [] s s := by
  refine ⟨rfl, ?_, ?_, fun _ _ => rfl⟩ <;>
  · intro pair member
    cases member

theorem unpacked_trans {pairs later : List (String × String)} {s s' s'' : Flash Tree} (first : Unpacked pairs s s')
    (second : Unpacked later s' s'') (apart : ∀ root ∈ pairs.map Prod.fst, root ∉ later.map Prod.fst) :
    Unpacked (pairs ++ later) s s'' := by
  refine ⟨second.images.trans first.images, ?_, ?_, ?_⟩
  · intro pair member image found
    rcases List.mem_append.mp member with early | late
    · rw [second.left _ (apart _ (List.mem_map_of_mem early))]
      exact first.filled pair early image found
    · exact second.filled pair late image (first.images ▸ found)
  · intro pair member other missing
    rcases List.mem_append.mp member with early | late
    · rw [second.left _ (apart _ (List.mem_map_of_mem early))]
      exact first.kept pair early other missing
    · rw [second.kept pair late other (first.images ▸ missing)]
      exact first.left _ fun early => apart _ early (List.mem_map_of_mem late)
  · intro root other
    rw [List.map_append, List.mem_append, not_or] at other
    rw [second.left root other.2, first.left root other.1]

section
variable {first second routine : Routine (Flash Tree)}

theorem unpacks_call {code : Int} (zero : code = 0) : Unpacks Tree (call code) [] :=
  fun s => ⟨zero, unpacked_nothing s⟩

theorem unpacks_onlyIf {condition : Bool} {pairs : List (String × String)} (unpacks : Unpacks Tree routine pairs) :
    Unpacks Tree (onlyIf condition routine) (row_asked (condition, pairs)) := by
  cases condition with
  | false => exact fun s => ⟨rfl, unpacked_nothing s⟩
  | true => exact unpacks

theorem unpacks_inOrder {list : List (Routine (Flash Tree))} {pairs : List (List (String × String))}
    (unpacks : List.Forall₂ (Unpacks Tree) list pairs) (distinct : (pairs.flatten.map Prod.fst).Nodup) :
    Unpacks Tree (inOrder list) pairs.flatten := by
  induction unpacks with
  | nil => exact fun s => ⟨rfl, unpacked_nothing s⟩
  | cons unpacksFirst _ ih =>
    rw [List.flatten_cons, List.map_append, List.nodup_append] at distinct
    obtain ⟨_, later, apart⟩ := distinct
    intro s
    obtain ⟨ran, unpackedFirst⟩ := unpacksFirst s
    obtain ⟨passed, unpackedRest⟩ := ih later _
    rw [inOrder, andThen_passed ran]
    exact ⟨passed, unpacked_trans unpackedFirst unpackedRest fun root own other => apart root own root other rfl⟩

end

/-- A partition is erased and filled with what its image holds, if there is one. -/
theorem unpacked_fill {s : Flash Tree} {root name : String} {contents : Contents Tree}
    (held : ∀ image, s.images name = some image → contents = image) (erased : root = "BOOT:" ∨ s.images name ≠ none) :
    Unpacked [(root, name)] s (fill 0 root contents (erase 0 root s).2).2 := by
  refine ⟨rfl, ?_, ?_, ?_⟩
  · intro pair member image found
    rw [List.mem_singleton.mp member] at found ⊢
    simp [fill, held image found]
  · intro pair member other missing
    rw [List.mem_singleton.mp member] at other missing
    exact (erased.elim other fun present => present missing).elim
  · intro other apart
    have apart : other ≠ root := by simpa using apart
    simp [fill, erase, apart]

section
variable {o : Outcomes} {flags : CInt}

theorem unpacks_partition (succeed : AllSucceed o) {root image : String} (named : image_name root = image) :
    Unpacks Tree (nandroid_restore_partition_extended o root flags) [(root, image)] := by
  subst named
  intro s
  unfold nandroid_restore_partition_extended
  cases found : s.images (image_name root) with
  | none =>
    refine ⟨rfl, rfl, ?_, fun _ _ _ _ => rfl, fun _ _ => rfl⟩
    intro pair member image present
    rw [List.mem_singleton.mp member, found] at present
    cases present
  | some image =>
    have run : inOrder [
        onlyIf (!has flags BACKUP_NOFORMAT)
          (andThen (call (o.ensure_root_path_unmounted root)) (erase (o.format_root_device root) root)),
        call (o.ensure_root_path_mounted root),
        onlyIf (has flags BACKUP_NOFORMAT) (erase 0 root),
        fill (o.unyaffs root) root image] s = fill 0 root image (erase 0 root s).2 := by
      cases has flags BACKUP_NOFORMAT <;>
        simp [inOrder, onlyIf, andThen, done, call, erase, fill, succeed.mount, succeed.unmount, succeed.format,
          succeed.unpack]
    simp only [run]
    refine ⟨rfl, unpacked_fill ?_ (.inr (by simp [found]))⟩
    intro other present
    rw [found] at present
    exact Option.some.inj present

theorem unpacks_boot (succeed : AllSucceed o) : Unpacks Tree (restore_boot o) [("BOOT:", "boot.img")] := by
  intro s
  have run : restore_boot o s = fill 0 "BOOT:" ((s.images "boot.img").getD .remains) (erase 0 "BOOT:" s).2 := by
    simp [restore_boot, andThen, erase, orError, succeed.format, succeed.flash]
  rw [run]
  refine ⟨rfl, unpacked_fill ?_ (.inl rfl)⟩
  intro image present
  rw [present]
  rfl

theorem restores_sublist (build : Build) (flags : CInt) :
    List.Sublist (asked (restores build flags)) restore_pairs :=
  asked_sublist _

theorem restores_distinct (build : Build) (flags : CInt) : ((asked (restores build flags)).map Prod.fst).Nodup := by
  have all : (restore_pairs.map Prod.fst).Nodup := by decide
  exact ((restores_sublist build flags).map Prod.fst).nodup all

/-- A restore whose steps all succeed unpacks the images that are asked for and there, and
    leaves the other partitions alone, as `Unpacked` says. -/
theorem restore_unpacks (build : Build) (flags : CInt) (succeed : AllSucceed o) :
    Unpacks Tree (nandroid_restore_flags build o flags) (asked (restores build flags)) := by
  have whole : ([] :: row_asked (!has flags BACKUP_NOMD5, []) :: (restores build flags).map row_asked).flatten =
      asked (restores build flags) := by
    simp [asked, row_asked, List.flatMap_def]
  rw [← whole]
  refine unpacks_inOrder ?_ ?_
  · refine .cons (unpacks_call (orError_zero.mpr (succeed.mount _))) (.cons
      (unpacks_onlyIf (unpacks_call (orError_zero.mpr succeed.check))) (.cons (unpacks_onlyIf (unpacks_boot succeed))
        (.cons (unpacks_onlyIf ?_) (.cons (unpacks_onlyIf ?_) (.cons (unpacks_onlyIf ?_) (.cons (unpacks_onlyIf ?_)
          (.cons (unpacks_onlyIf ?_) (.cons (unpacks_onlyIf ?_) .nil))))))))
    all_goals exact unpacks_partition succeed (by decide)
  · rw [whole]
    exact restores_distinct build flags

end

/-! ### What comes back -/

/-- Every image that the backup makes is unpacked to its partition again, where the
    restore finds the directory as the backup left it, and all of its steps succeed. -/
def ComeBack (Tree : Type) (build : Build) (o : Outcomes) (flags : CInt)
    (restore : Outcomes → Flash Tree → Flash Tree) : Prop :=
  ∀ root image, Created Tree build o flags root image → ∀ (later : Outcomes) (s s' : Flash Tree), AllSucceed later →
    s'.images = (nandroid_backup_flags build o flags s).2.images → (restore later s').contents root = s.contents root

/-- The restore with the flags of the backup. -/
def restore_with (build : Build) (flags : CInt) (o : Outcomes) (s : Flash Tree) : Flash Tree :=
  (nandroid_restore_flags build o flags s).2

/-- The restore from the menu, where the directory is chosen and confirmed. -/
def restore_from_menu (build : Build) (o : Outcomes) (s : Flash Tree) : Flash Tree :=
  show_nandroid_restore_menu build o true true s

/-- No partition is asked for, of those that the build has and that are there. -/
structure NothingAsked (build : Build) (o : Outcomes) (flags : CInt) : Prop where
  bootables : build.BOARD_RECOVERY_IGNORE_BOOTABLES = true ∨ has flags BACKUP_BOOTABLES = false
  system : has flags BACKUP_SYSTEM = false
  data : has flags BACKUP_DATA = false
  datadata : build.HAS_DATADATA = false ∨ has flags BACKUP_DATADATA = false
  others : o.stat "/mnt/sdcard/.android_secure" ≠ 0 ∨ has flags BACKUP_OTHERS = false
  cache : has flags BACKUP_CACHE = false
  efs : has flags BACKUP_EFS = false
  sdext : o.stat SDEXT_DEVICE ≠ 0 ∨ o.ensure_root_path_mounted "SDEXT:" ≠ 0 ∨ has flags BACKUP_SDEXT = false

section
variable {build : Build} {o : Outcomes} {flags : CInt}

theorem nothing_asked_iff : asked (backups build o flags) = [] ↔ NothingAsked build o flags := by
  have rows : asked (backups build o flags) = [] ↔ ∀ row ∈ backups build o flags, row_asked row = [] :=
    List.flatMap_eq_nil_iff
  rw [rows]
  simp only [backups, List.forall_mem_cons, List.not_mem_nil, false_imp_iff, implies_true, and_true, row_asked,
    ite_eq_right_iff, reduceCtorEq, imp_false, Bool.and_eq_true, Bool.not_eq_true', not_and_or, Bool.not_eq_true,
    Bool.not_eq_false, decide_eq_true_eq]
  constructor
  · rintro ⟨bootables, system, data, datadata, others, cache, efs, sdext⟩
    refine ⟨bootables, system, data, datadata, others.symm, cache, efs, ?_⟩
    rcases sdext with (unset | missing) | unmounted
    · exact .inr (.inr unset)
    · exact .inl missing
    · exact .inr (.inl unmounted)
  · rintro ⟨bootables, system, data, datadata, others, cache, efs, sdext⟩
    refine ⟨bootables, system, data, datadata, others.symm, cache, efs, ?_⟩
    rcases sdext with missing | unmounted | unset
    · exact .inl (.inr missing)
    · exact .inr unmounted
    · exact .inl (.inl unset)

/-- The Restore entry changes nothing: of `BACKUP_ALL` and `BACKUP_NOFORMAT` no bit is left. -/
theorem restore_menu_idle (chosen confirmed : Bool) (s : Flash Tree) :
    show_nandroid_restore_menu build o chosen confirmed s = s := by
  have no_flags : BACKUP_ALL &&& BACKUP_NOFORMAT = 0 := by decide
  have none_asked : ∀ bit, has 0 bit = false := by
    intro bit
    simp [has]
  have idle : Keeps (fun s' : Flash Tree => s' = s) (nandroid_restore_flags build o 0) := by
    apply keeps_inOrder
    simp only [none_asked, Bool.and_false, onlyIf, List.forall_mem_cons, List.not_mem_nil, false_imp_iff, implies_true,
      and_true, Bool.false_eq_true, if_false, Bool.not_false, if_true]
    exact ⟨keeps_call _, keeps_call _, keeps_done, keeps_done, keeps_done, keeps_done, keeps_done, keeps_done, keeps_done⟩
  unfold show_nandroid_restore_menu
  rw [no_flags]
  split
  · rfl
  split
  · exact idle s rfl
  · rfl

/-- Where a restore and the backup go by the same names, what the backup makes comes back
    exactly where the restore has every partition of the backup. -/
theorem comeBack_iff [Inhabited Tree] {s : Flash Tree} (returned : (nandroid_backup_flags build o flags s).1 = 0)
    {restore : Outcomes → Flash Tree → Flash Tree} {pairs : List (String × String)}
    (unpacked : ∀ later s, AllSucceed later → Unpacked pairs s (restore later s))
    (agree : ∀ pair ∈ asked (backups build o flags), pair.1 ∈ pairs.map Prod.fst → pair ∈ pairs) :
    ComeBack Tree build o flags restore ↔ ∀ pair ∈ asked (backups build o flags), pair.1 ∈ pairs.map Prod.fst := by
  constructor
  · rintro back ⟨root, image⟩ member
    by_contra other
    let whole : Flash Tree := ⟨fun _ => .whole default, fun _ => none, []⟩
    let lost : Flash Tree := ⟨fun _ => .remains, (nandroid_backup_flags build o flags whole).2.images, []⟩
    have restored := back root image ((created_iff returned).mpr member) all_succeed whole lost all_succeed_succeeds rfl
    rw [(unpacked all_succeed lost all_succeed_succeeds).left root other] at restored
    cases restored
  · intro covered root image created later s' lost succeed same
    have member := (created_iff returned).mp created
    have again := agree _ member (covered _ member)
    have held : lost.images image = some (s'.contents root) := by
      rw [same]
      exact created s'
    exact (unpacked later lost succeed).filled _ again _ held

theorem names_agree : ∀ pair ∈ asked (backups build o flags),
    pair.1 ∈ (asked (restores build flags)).map Prod.fst → pair ∈ asked (restores build flags) := by
  have constant : ∀ pair ∈ backup_pairs, ∀ other ∈ restore_pairs, other.1 = pair.1 → other = pair := by decide
  intro pair member root
  obtain ⟨other, inRestores, same⟩ := List.mem_map.mp root
  have named := constant pair ((backups_sublist _ _ _).subset member) other ((restores_sublist _ _).subset inRestores)
    same
  exact named ▸ inRestores

/-- A restore has no row for EFS: and RECOVERY:. -/
theorem never_restored {root : String} (named : root = "EFS:" ∨ root = "RECOVERY:") :
    root ∉ (asked (restores build flags)).map Prod.fst := by
  intro member
  have listed := ((restores_sublist build flags).map Prod.fst).subset member
  rcases named with rfl | rfl <;> revert listed <;> decide

/-- Every other row of a backup has one in the restore with the same flags. -/
theorem restores_cover (efs : has flags BACKUP_EFS = false)
    (bootables : build.BOARD_RECOVERY_IGNORE_BOOTABLES = true ∨ has flags BACKUP_BOOTABLES = false) :
    ∀ pair ∈ asked (backups build o flags), pair.1 ∈ (asked (restores build flags)).map Prod.fst := by
  intro pair member
  obtain ⟨row, inTable, set, inRow⟩ := mem_asked.mp member
  have covered : ∀ chosen, (chosen, row.2) ∈ restores build flags → chosen = true →
      pair.1 ∈ (asked (restores build flags)).map Prod.fst := by
    intro chosen inRestores asks
    exact List.mem_map_of_mem (mem_asked.mpr ⟨_, inRestores, asks, inRow⟩)
  simp only [backups, List.mem_cons, List.not_mem_nil, or_false] at inTable
  rcases inTable with rfl | rfl | rfl | rfl | rfl | rfl | rfl | rfl
  · rcases bootables with ignored | unset
    · simp [ignored] at set
    · simp [unset] at set
  · exact covered (has flags BACKUP_SYSTEM) (by simp [restores]) set
  · exact covered (has flags BACKUP_DATA) (by simp [restores]) set
  · exact covered (build.HAS_DATADATA && has flags BACKUP_DATADATA) (by simp [restores]) set
  · exact covered (has flags BACKUP_OTHERS) (by simp [restores]) (Bool.and_eq_true_iff.mp set).1
  · exact covered (has flags BACKUP_CACHE) (by simp [restores]) set
  · rw [efs] at set
    cases set
  · exact covered (has flags BACKUP_SDEXT) (by simp [restores])
      (Bool.and_eq_true_iff.mp (Bool.and_eq_true_iff.mp set).1).1

/-- With the flags of the backup everything comes back but EFS: and RECOVERY:. -/
theorem flags_restore_iff [Inhabited Tree] {s : Flash Tree}
    (returned : (nandroid_backup_flags build o flags s).1 = 0) :
    ComeBack Tree build o flags (restore_with build flags) ↔
      has flags BACKUP_EFS = false ∧ (build.BOARD_RECOVERY_IGNORE_BOOTABLES = true ∨ has flags BACKUP_BOOTABLES = false) := by
  have unpacked : ∀ later (s : Flash Tree), AllSucceed later →
      Unpacked (asked (restores build flags)) s (restore_with build flags later s) := fun later s' succeed =>
    (restore_unpacks build flags succeed s').2
  rw [comeBack_iff returned unpacked names_agree]
  constructor
  · intro all
    have missed : ∀ row ∈ backups build o flags, ∀ pair ∈ row.2, pair.1 = "EFS:" ∨ pair.1 = "RECOVERY:" →
        row.1 = false := by
      intro row inTable pair inRow named
      by_contra set
      exact never_restored named (all pair (mem_asked.mpr ⟨row, inTable, Bool.not_eq_false _ ▸ set, inRow⟩))
    have efs := missed (has flags BACKUP_EFS, [("EFS:", "efs.img")]) (by simp [backups]) _ List.mem_cons_self (.inl rfl)
    have bootables := missed (!build.BOARD_RECOVERY_IGNORE_BOOTABLES && has flags BACKUP_BOOTABLES,
      [("BOOT:", "boot.img"), ("RECOVERY:", "recovery.img")]) List.mem_cons_self ("RECOVERY:", "recovery.img")
      (by simp) (.inr rfl)
    refine ⟨efs, ?_⟩
    rw [Bool.and_eq_false_iff, Bool.not_eq_false'] at bootables
    exact bootables
  · rintro ⟨efs, bootables⟩
    exact restores_cover efs bootables

/-- Everything that a backup makes comes back, by the flags of the backup and from the
    menu, exactly where it makes nothing. -/
theorem backup_comes_back_iff [Inhabited Tree] {s : Flash Tree}
    (returned : (nandroid_backup_flags build o flags s).1 = 0) :
    ComeBack Tree build o flags (restore_with build flags) ∧ ComeBack Tree build o flags (restore_from_menu build) ↔
      NothingAsked build o flags := by
  have from_menu : ComeBack Tree build o flags (restore_from_menu build) ↔ asked (backups build o flags) = [] := by
    have idle : ∀ later (s : Flash Tree), AllSucceed later → Unpacked [] s (restore_from_menu build later s) := by
      intro later s' _
      unfold restore_from_menu
      rw [restore_menu_idle]
      exact unpacked_nothing s'
    rw [comeBack_iff returned idle (by simp), List.eq_nil_iff_forall_not_mem]
    simp
  rw [from_menu, nothing_asked_iff]
  constructor
  · exact And.right
  · intro nothing
    refine ⟨(flags_restore_iff returned).mpr ⟨nothing.efs, nothing.bootables⟩, nothing⟩

end

/-- The SD card has no `.android_secure`. -/
def no_secure : Outcomes := { all_succeed with stat := fun _ => 2 }

def all_whole : Flash Unit := ⟨fun _ => .whole (), fun _ => none, []⟩

theorem others_come_back :
    ComeBack Unit ⟨false, true⟩ no_secure BACKUP_OTHERS (restore_with ⟨false, true⟩ BACKUP_OTHERS) ∧
      ComeBack Unit ⟨false, true⟩ no_secure BACKUP_OTHERS (restore_from_menu ⟨false, true⟩) := by
  have returned : (nandroid_backup_flags ⟨false, true⟩ no_secure BACKUP_OTHERS all_whole).1 = 0 := by decide
  apply (backup_comes_back_iff returned).mpr
  refine ⟨?_, ?_, ?_, ?_, ?_, ?_, ?_, ?_⟩ <;> decide

/-- A backup of SYSTEM: goes through and makes an image of it, which the menu does not
    restore. -/
theorem system_stays_lost :
    BACKUP_SYSTEM &&& BACKUP_ALL = BACKUP_SYSTEM ∧
      (nandroid_backup_flags ⟨false, true⟩ all_succeed BACKUP_SYSTEM all_whole).1 = 0 ∧
      Created Unit ⟨false, true⟩ all_succeed BACKUP_SYSTEM "SYSTEM:" "system.img" ∧
      ¬ ComeBack Unit ⟨false, true⟩ all_succeed BACKUP_SYSTEM (restore_from_menu ⟨false, true⟩) := by
  have returned : (nandroid_backup_flags ⟨false, true⟩ all_succeed BACKUP_SYSTEM all_whole).1 = 0 := by decide
  have created : Created Unit ⟨false, true⟩ all_succeed BACKUP_SYSTEM "SYSTEM:" "system.img" :=
    (created_iff returned).mpr (by decide)
  refine ⟨by decide, returned, created, ?_⟩
  intro back
  have restored := back "SYSTEM:" "system.img" created all_succeed all_whole
    ⟨fun _ => .remains, (nandroid_backup_flags ⟨false, true⟩ all_succeed BACKUP_SYSTEM all_whole).2.images, []⟩
    all_succeed_succeeds rfl
  unfold restore_from_menu at restored
  rw [restore_menu_idle] at restored
  cases restored

end SteamRecovery.BackupCoverage
