import Mathlib.Data.BitVec
import SteamRecovery.BackupCoverage
import SteamRecovery.Menus

/-!
The menus in which the parts of a backup are ticked (`extendedcommands.c`). Every round
draws the boxes from the flags and turns the flag of the row that is chosen. Whatever
is chosen, the backup makes the images of the boxes that are ticked at the end
(`advanced_backup_ticked`), and the restore brings those back (`advanced_restore_ticked`).
-/
namespace SteamRecovery.AdvancedMenus
open SteamRecovery.BackupCoverage
open SteamRecovery.Devices
open SteamRecovery.Menus (MenuType)
open SteamRecovery.Nandroid

/-! ### Flags -/

/-- `if (ticked) flags = flags-bit; else flags = flags|bit;` -/
def turn (ticked : Bool) (flags bit : CInt) : CInt := if ticked then flags - bit else flags ||| bit

theorem has_flag (flags : CInt) {k : Nat} (inside : k < 32) : has flags (BitVec.twoPow 32 k) = flags.getLsbD k := by
  have some_bit : BitVec.twoPow 32 k ≠ 0#32 := by
    intro zero
    have bit := congrArg (fun x : BitVec 32 => x.getLsbD k) zero
    simp [inside] at bit
  unfold has
  rw [BitVec.and_twoPow]
  cases flags.getLsbD k <;> simp [some_bit]

theorem sub_flag {flags : CInt} {k : Nat} (set : flags.getLsbD k = true) :
    flags - BitVec.twoPow 32 k = flags &&& ~~~BitVec.twoPow 32 k := by
  have apart : (flags &&& ~~~BitVec.twoPow 32 k) &&& BitVec.twoPow 32 k = 0#32 := by
    rw [BitVec.and_assoc]
    simp [BitVec.and_comm]
  have whole : flags = (flags &&& ~~~BitVec.twoPow 32 k) + BitVec.twoPow 32 k := by
    rw [BitVec.add_eq_or_of_and_eq_zero _ _ apart]
    apply BitVec.eq_of_getLsbD_eq
    intro i inside
    rw [BitVec.getLsbD_or, BitVec.getLsbD_and, BitVec.getLsbD_not, BitVec.getLsbD_twoPow]
    by_cases same : k = i
    · subst same
      simp [set, inside]
    · simp [same, inside]
  calc flags - BitVec.twoPow 32 k
      = (flags &&& ~~~BitVec.twoPow 32 k) + BitVec.twoPow 32 k - BitVec.twoPow 32 k := by rw [← whole]
    _ = flags &&& ~~~BitVec.twoPow 32 k := BitVec.add_sub_cancel _ _

/-- A flag is turned, and no other one. -/
theorem turn_flag (flags : CInt) {k j : Nat} (inside : k < 32) (other_inside : j < 32) :
    (turn (flags.getLsbD k) flags (BitVec.twoPow 32 k)).getLsbD j = (flags.getLsbD j ^^ decide (k = j)) := by
  unfold turn
  by_cases same : k = j
  · subst same
    cases set : flags.getLsbD k with
    | true => simp [sub_flag set, inside]
    | false => simp [inside]
  · cases set : flags.getLsbD k with
    | true => simp [sub_flag set, same, Ne.symm same, other_inside]
    | false => simp [same]

/-! ### The menus -/

structure Row where
  id : CInt
  group_id : CInt
  type : MenuType

/-- The box of a flag: `ui_add_menu(flags&bit,bit,MENU_TYPE_CHECKBOX,...)`. -/
def box (flags bit : CInt) : Row := ⟨flags &&& bit, bit, .MENU_TYPE_CHECKBOX⟩

/-- The title, the row that ends the menu, and the boxes. -/
def rows (bits : List CInt) (flags : CInt) : List Row :=
  ⟨0, 0, .MENU_TYPE_GLOBAL_HEADER⟩ :: ⟨0, -1, .MENU_TYPE_ELEMENT⟩ :: bits.map (box flags)

/-- What the tests behind the menu make of the flags. -/
def update (tests : List CInt) (me : Row) (flags : CInt) : CInt :=
  tests.foldl (fun flags bit => if me.group_id = bit then turn (me.id ≠ 0) flags bit else flags) flags

/-- The rounds of a menu with the rows that are chosen, and `none` for `GO_BACK`. The
    flags are returned where the menu is ended by its row. -/
def choose (bits tests : List CInt) (flags : CInt) : List (Option Nat) → Option (Option CInt)
  | [] => none
  | none :: _ => some none
  | some chosen_item :: rest =>
    match (rows bits flags)[chosen_item]? with
    | none => none
    | some me => if me.group_id = -1 then some (some flags) else choose bits tests (update tests me flags) rest

/-- Whether the build has `/efs`. -/
abbrev Phone := Bool

def backup_start (build : Build) : CInt :=
  BACKUP_DATA ||| BACKUP_CACHE ||| BACKUP_SDEXT ||| BACKUP_OTHERS ||| (if build.HAS_DATADATA then BACKUP_DATADATA else 0)

def backup_bits (build : Build) (BOARD_HAS_PHONE_CONTROLLER : Phone) : List CInt :=
  [BACKUP_BOOTABLES, BACKUP_SYSTEM, BACKUP_DATA] ++ (if build.HAS_DATADATA then [BACKUP_DATADATA] else []) ++
    [BACKUP_OTHERS, BACKUP_CACHE, BACKUP_SDEXT] ++ (if BOARD_HAS_PHONE_CONTROLLER then [BACKUP_EFS] else [])

def backup_tests : List CInt :=
  [BACKUP_BOOTABLES, BACKUP_SYSTEM, BACKUP_DATA, BACKUP_DATADATA, BACKUP_OTHERS, BACKUP_CACHE, BACKUP_SDEXT, BACKUP_EFS]

def restore_start (build : Build) : CInt := BACKUP_NOFORMAT ||| backup_start build

def restore_bits (build : Build) : List CInt :=
  [BACKUP_BOOTABLES, BACKUP_SYSTEM, BACKUP_DATA] ++ (if build.HAS_DATADATA then [BACKUP_DATADATA] else []) ++
    [BACKUP_OTHERS, BACKUP_CACHE, BACKUP_SDEXT, BACKUP_NOFORMAT]

def restore_tests : List CInt :=
  [BACKUP_BOOTABLES, BACKUP_SYSTEM, BACKUP_DATA, BACKUP_DATADATA, BACKUP_OTHERS, BACKUP_CACHE, BACKUP_SDEXT,
    BACKUP_NOFORMAT]

variable {Tree : Type}

/-- The flash memory behind the menu, unless it is still shown. -/
def show_nandroid_advanced_backup_menu (build : Build) (phone : Phone) (o : Outcomes) (answers : List (Option Nat))
    (s : Flash Tree) : Option (Flash Tree) :=
  (choose (backup_bits build phone) backup_tests (backup_start build) answers).map fun flags =>
    match flags with
    | none => s
    | some flags => (nandroid_backup_flags build o flags s).2

/-- Whether a directory is chosen comes first, and the confirmation last. -/
def show_nandroid_advanced_restore_menu (build : Build) (o : Outcomes) (file : Bool) (answers : List (Option Nat))
    (confirmed : Bool) (s : Flash Tree) : Option (Flash Tree) :=
  if o.ensure_root_path_mounted "SDCARD:" ≠ 0 then some s
  else if !file then some s
  else
    (choose (restore_bits build) restore_tests (restore_start build) answers).map fun flags =>
      match flags with
      | none => s
      | some flags => if confirmed then (nandroid_restore_flags build o flags s).2 else s

/-! ### Ticks -/

/-- The boxes that are chosen, up to the end of the menu. -/
def picks (bits : List CInt) : List (Option Nat) → List CInt
  | some 0 :: rest => picks bits rest
  | some (n + 2) :: rest => (bits[n]?).toList ++ picks bits rest
  | _ => []

/-- A box is ticked where it was at first and was chosen an even number of times, or where
    it was not and the number is odd. -/
def ticked (start : CInt) (bits : List CInt) (answers : List (Option Nat)) (bit : CInt) : Bool :=
  has start bit ^^ decide ((picks bits answers).count bit % 2 = 1)

/-- The flags are single bits, all of them different. -/
structure Flags (tests : List CInt) : Prop where
  flag : ∀ bit ∈ tests, ∃ k < 32, bit = BitVec.twoPow 32 k
  distinct : tests.Nodup

theorem backup_flags : Flags backup_tests := by
  refine ⟨?_, by decide⟩
  simp only [backup_tests, List.forall_mem_cons, List.not_mem_nil, false_imp_iff, implies_true, and_true]
  exact ⟨⟨6, by decide, rfl⟩, ⟨0, by decide, rfl⟩, ⟨2, by decide, rfl⟩, ⟨3, by decide, rfl⟩, ⟨7, by decide, rfl⟩,
    ⟨1, by decide, rfl⟩, ⟨5, by decide, rfl⟩, ⟨4, by decide, rfl⟩⟩

theorem restore_flags : Flags restore_tests := by
  refine ⟨?_, by decide⟩
  simp only [restore_tests, List.forall_mem_cons, List.not_mem_nil, false_imp_iff, implies_true, and_true]
  exact ⟨⟨6, by decide, rfl⟩, ⟨0, by decide, rfl⟩, ⟨2, by decide, rfl⟩, ⟨3, by decide, rfl⟩, ⟨7, by decide, rfl⟩,
    ⟨1, by decide, rfl⟩, ⟨5, by decide, rfl⟩, ⟨10, by decide, rfl⟩⟩

variable {tests bits : List CInt} {flags : CInt}

/-- Tests that a row does not stand for leave the flags. -/
theorem update_other {me : Row} (other : me.group_id ∉ tests) : update tests me flags = flags := by
  unfold update
  induction tests with
  | nil => rfl
  | cons bit rest ih =>
    rw [List.mem_cons, not_or] at other
    rw [List.foldl_cons, if_neg other.1]
    exact ih other.2

/-- The row of a box turns its flag. -/
theorem update_box (flagged : Flags tests) {bit : CInt} (member : bit ∈ tests) :
    update tests (box flags bit) flags = turn (has flags bit) flags bit := by
  obtain ⟨before, after, rfl⟩ := List.append_of_mem member
  have apart := flagged.distinct
  rw [List.nodup_append, List.nodup_cons] at apart
  obtain ⟨_, ⟨not_after, _⟩, not_before⟩ := apart
  have first : update before (box flags bit) flags = flags :=
    update_other fun here => not_before _ here _ List.mem_cons_self rfl
  unfold update at first ⊢
  rw [List.foldl_append, first, List.foldl_cons]
  have unmatched : (box flags bit).group_id ∉ after := not_after
  exact (update_other unmatched).trans (if_pos rfl)

theorem turn_has (flagged : Flags tests) {bit other : CInt} (member : bit ∈ tests) (other_member : other ∈ tests) :
    has (turn (has flags bit) flags bit) other = (has flags other ^^ decide (bit = other)) := by
  obtain ⟨k, inside, rfl⟩ := flagged.flag bit member
  obtain ⟨j, other_inside, rfl⟩ := flagged.flag other other_member
  have same : BitVec.twoPow 32 k = BitVec.twoPow 32 j ↔ k = j := by
    constructor
    · intro equal
      have bit := congrArg (fun x : BitVec 32 => x.getLsbD k) equal
      simpa [inside, eq_comm] using bit
    · rintro rfl
      rfl
  rw [has_flag _ inside, has_flag _ other_inside, has_flag _ other_inside, turn_flag flags inside other_inside]
  simp only [same]

theorem parity_cons (bit other : CInt) (rest : List CInt) :
    decide ((bit :: rest).count other % 2 = 1) = (decide (bit = other) ^^ decide (rest.count other % 2 = 1)) := by
  by_cases same : bit = other
  · subst same
    rw [List.count_cons_self]
    rcases Nat.mod_two_eq_zero_or_one (rest.count bit) with even | odd
    · simp [Nat.add_mod, even]
    · simp [Nat.add_mod, odd]
  · rw [List.count_cons_of_ne same]
    simp [same]

/-- Behind the menu, the flags are the ticks. -/
theorem choose_ticked (flagged : Flags tests) (boxes : ∀ bit ∈ bits, bit ∈ tests) {answers : List (Option Nat)} {last : CInt}
    (ended : choose bits tests flags answers = some (some last)) :
    ∀ bit ∈ tests, has last bit = ticked flags bits answers bit := by
  have not_end : ∀ bit ∈ tests, bit ≠ -1 := by
    intro bit member same
    obtain ⟨k, inside, flag⟩ := flagged.flag bit member
    have two : (BitVec.twoPow 32 k).getLsbD (if k = 0 then 1 else 0) = true := by
      rw [← flag, same]
      split <;> rfl
    rw [BitVec.getLsbD_twoPow] at two
    split at two <;> simp_all
  induction answers generalizing flags with
  | nil => cases ended
  | cons answer rest ih =>
    match answer with
    | none => cases ended
    | some 0 =>
      have unknown : (0 : CInt) ∉ tests := by
        intro member
        obtain ⟨k, inside, zero⟩ := flagged.flag 0 member
        have bit := congrArg (fun x : BitVec 32 => x.getLsbD k) zero
        simp [inside] at bit
      simp only [choose, rows, List.getElem?_cons_zero] at ended
      rw [if_neg (by decide), update_other unknown] at ended
      exact ih ended
    | some 1 =>
      simp only [choose, rows, List.getElem?_cons_succ, List.getElem?_cons_zero, if_true, Option.some.injEq] at ended
      intro bit _
      rw [← ended]
      simp [ticked, picks]
    | some (n + 2) =>
      simp only [choose, rows, List.getElem?_cons_succ, List.getElem?_map] at ended
      cases here : bits[n]? with
      | none => simp [here] at ended
      | some chosen =>
        have member := boxes chosen (List.mem_of_getElem? here)
        simp only [here, Option.map_some] at ended
        rw [if_neg (show (box flags chosen).group_id ≠ -1 from not_end chosen member), update_box flagged member] at ended
        intro bit inTests
        rw [ih ended bit inTests, ticked, ticked, turn_has flagged member inTests, picks, here, Option.toList_some,
          List.singleton_append, parity_cons, Bool.xor_assoc]

/-! ### What is backed up -/

/-- The partitions that are ticked and there, with their images. -/
def ticked_backups (build : Build) (o : Outcomes) (ticks : CInt → Bool) : List (Bool × List (String × String)) := [
  (!build.BOARD_RECOVERY_IGNORE_BOOTABLES && ticks BACKUP_BOOTABLES,
    [("BOOT:", "boot.img"), ("RECOVERY:", "recovery.img")]),
  (ticks BACKUP_SYSTEM, [("SYSTEM:", "system.img")]),
  (ticks BACKUP_DATA, [("DATA:", "data.img")]),
  (build.HAS_DATADATA && ticks BACKUP_DATADATA, [("DATADATA:", "dbdata.img")]),
  (ticks BACKUP_OTHERS && o.stat "/mnt/sdcard/.android_secure" = 0, [(android_secure, ".android_secure.img")]),
  (ticks BACKUP_CACHE, [("CACHE:", "cache.img")]),
  (ticks BACKUP_EFS, [("EFS:", "efs.img")]),
  (ticks BACKUP_SDEXT && o.stat SDEXT_DEVICE = 0 && o.ensure_root_path_mounted "SDEXT:" = 0,
    [("SDEXT:", "sd-ext.img")])]

def ticked_restores (build : Build) (ticks : CInt → Bool) : List (Bool × List (String × String)) := [
  (!build.BOARD_RECOVERY_IGNORE_BOOTABLES && ticks BACKUP_BOOTABLES, [("BOOT:", "boot.img")]),
  (ticks BACKUP_SYSTEM, [("SYSTEM:", "system.img")]),
  (ticks BACKUP_DATA, [("DATA:", "data.img")]),
  (build.HAS_DATADATA && ticks BACKUP_DATADATA, [("DATADATA:", "dbdata.img")]),
  (ticks BACKUP_OTHERS, [(android_secure, ".android_secure.img")]),
  (ticks BACKUP_CACHE, [("CACHE:", "cache.img")]),
  (ticks BACKUP_SDEXT, [("SDEXT:", "sd-ext.img")])]

theorem backup_boxes (build : Build) (phone : Phone) : ∀ bit ∈ backup_bits build phone, bit ∈ backup_tests := by
  obtain ⟨ignore, datadata⟩ := build
  cases datadata <;> cases phone <;> simp [backup_bits, backup_tests]

theorem restore_boxes (build : Build) : ∀ bit ∈ restore_bits build, bit ∈ restore_tests := by
  obtain ⟨ignore, datadata⟩ := build
  cases datadata <;> simp [restore_bits, restore_tests]

/-- Whatever was chosen before the backup is begun: a backup that goes through writes the
    images of the boxes that are ticked then, and nothing else. -/
theorem advanced_backup_ticked (build : Build) (phone : Phone) (o : Outcomes) {answers : List (Option Nat)} {flags : CInt}
    (ended : choose (backup_bits build phone) backup_tests (backup_start build) answers = some (some flags)) {s : Flash Tree}
    (returned : (nandroid_backup_flags build o flags s).1 = 0) :
    show_nandroid_advanced_backup_menu build phone o answers s =
      some (save (asked (ticked_backups build o (ticked (backup_start build) (backup_bits build phone) answers))) s) := by
  have ticks := choose_ticked backup_flags (backup_boxes build phone) ended
  have table : backups build o flags =
      ticked_backups build o (ticked (backup_start build) (backup_bits build phone) answers) := by
    unfold backups ticked_backups
    rw [ticks BACKUP_BOOTABLES (by decide), ticks BACKUP_SYSTEM (by decide), ticks BACKUP_DATA (by decide),
      ticks BACKUP_DATADATA (by decide), ticks BACKUP_OTHERS (by decide), ticks BACKUP_CACHE (by decide),
      ticks BACKUP_EFS (by decide), ticks BACKUP_SDEXT (by decide)]
  simp only [show_nandroid_advanced_backup_menu, ended, Option.map_some]
  rw [backup_makes s returned, table]

/-- A restore whose steps succeed unpacks the images that are there and whose boxes are
    ticked at the end, and leaves the other partitions alone, and those whose box is ticked
    without an image, except for BOOT:. -/
theorem advanced_restore_ticked (build : Build) {o : Outcomes} (succeed : AllSucceed o) {answers : List (Option Nat)}
    {flags : CInt} (ended : choose (restore_bits build) restore_tests (restore_start build) answers = some (some flags))
    (s : Flash Tree) :
    ∃ s', show_nandroid_advanced_restore_menu build o true answers true s = some s' ∧
      Unpacked (asked (ticked_restores build (ticked (restore_start build) (restore_bits build) answers))) s s' := by
  have ticks := choose_ticked restore_flags (restore_boxes build) ended
  have table : restores build flags =
      ticked_restores build (ticked (restore_start build) (restore_bits build) answers) := by
    unfold restores ticked_restores
    rw [ticks BACKUP_BOOTABLES (by decide), ticks BACKUP_SYSTEM (by decide), ticks BACKUP_DATA (by decide),
      ticks BACKUP_DATADATA (by decide), ticks BACKUP_OTHERS (by decide), ticks BACKUP_CACHE (by decide),
      ticks BACKUP_SDEXT (by decide)]
  refine ⟨(nandroid_restore_flags build o flags s).2, ?_, ?_⟩
  · simp [show_nandroid_advanced_restore_menu, succeed.mount, ended]
  · rw [← table]
    exact (restore_unpacks build flags succeed s).2

/-- `/system` is ticked, and the other boxes are cleared. -/
def system_only : List (Option Nat) := [some 3, some 4, some 5, some 6, some 7, some 1]

theorem system_backed_up : show_nandroid_advanced_backup_menu ⟨false, false⟩ false all_succeed system_only all_whole =
    some (save [("SYSTEM:", "system.img")] all_whole) :=
  have ended : choose (backup_bits ⟨false, false⟩ false) backup_tests (backup_start ⟨false, false⟩) system_only =
      some (some BACKUP_SYSTEM) := by decide
  advanced_backup_ticked ⟨false, false⟩ false all_succeed ended (by decide)

/-- Two images that are not what the partitions hold. -/
def two_images : Flash Bool :=
  ⟨fun _ => .whole false, fun image => if image = "system.img" ∨ image = "data.img" then some (.whole true) else none, []⟩

/-- `/system` and `/cache` are ticked, where the directory has images of `/system` and `/data`. -/
theorem system_restored : ∃ s', show_nandroid_advanced_restore_menu ⟨false, false⟩ all_succeed true
    [some 3, some 4, some 5, some 7, some 1] true two_images = some s' ∧ s'.contents "SYSTEM:" = .whole true ∧
    s'.contents "CACHE:" = .whole false ∧ s'.contents "DATA:" = .whole false := by
  have ended : choose (restore_bits ⟨false, false⟩) restore_tests (restore_start ⟨false, false⟩)
      [some 3, some 4, some 5, some 7, some 1] = some (some (BACKUP_SYSTEM ||| BACKUP_CACHE ||| BACKUP_NOFORMAT)) := by decide
  obtain ⟨s', ran, unpacked⟩ := advanced_restore_ticked ⟨false, false⟩ all_succeed_succeeds ended two_images
  refine ⟨s', ran, ?_, ?_, ?_⟩
  · exact unpacked.filled ("SYSTEM:", "system.img") (by decide) _ rfl
  · exact unpacked.kept ("CACHE:", "cache.img") (by decide) (by decide) rfl
  · exact unpacked.left "DATA:" (by decide)

end SteamRecovery.AdvancedMenus
