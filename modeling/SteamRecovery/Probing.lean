import SteamRecovery.Autodetect
import SteamRecovery.RootPaths

/-!
`filesystem_check` as a probe (`roots.c`), in builds with and without cryptsetup. The
volume it mounts is gone again where the umounts meet it and nothing older; a mapping
that a password opened stays open. Without cryptsetup the first bytes of the device are
read over the caller's name, and what is compared with the magic number is whatever the
stack held (`pure_probe_iff`).
-/
namespace SteamRecovery.Probing
open SteamRecovery.Devices
open SteamRecovery.Config (Conf)
open SteamRecovery.MountTables
open SteamRecovery.Volumes
open SteamRecovery.Autodetect (Probe detect loopmount rfs_type)
open SteamRecovery.CStrings (c_string)
open SteamRecovery.RootPaths (memcpy)

/-- `"LUKS\xBA\xBE"` -/
def LUKS_MAGIC : List Char := ['L', 'U', 'K', 'S', '\xba', '\xbe']

/-- What one call of `filesystem_check` meets. -/
structure Machine where
  STEAM_HAS_CRYPTSETUP : Bool
  p : Probe
  /-- The bytes of the device that can be opened under a name. -/
  devices : String → Option (List Char)
  /-- The caller's name stands in memory that can be written. -/
  writable : Bool
  /-- The six bytes that `magic` holds, never written to, in `filesystem_check`'s own call
      of `is_encrypted_partition`, and in that of `open_encrypted_partition`. -/
  magic : List Char
  magic_opening : List Char

/-- The name in the memory behind a pointer. -/
def name (mem : List Char) : String := String.ofList (c_string '\x00' mem)

/-- The memory of the name behind `read(fd,partition,6)`, which fails where it may not write. -/
def read_over (m : Machine) (content mem : List Char) : List Char :=
  if m.writable then memcpy mem 0 (content.take 6) else mem

def is_encrypted_partition (m : Machine) (magic mem : List Char) : Bool × List Char :=
  if m.STEAM_HAS_CRYPTSETUP then (m.p.o.isLuks (name mem), mem)
  else
    match m.devices (name mem) with
    | none => (false, mem)
    | some content => (magic = LUKS_MAGIC, read_over m content mem)

/-- `open_encrypted_partition` without a secret. -/
def open_encrypted_partition (m : Machine) (mem : List Char) (t : Tables) : Bool × List Char × Tables :=
  let (iscrypt, mem) := is_encrypted_partition m m.magic_opening mem
  if iscrypt then
    if secname (name mem) ∈ t.mappings then (true, mem, t)
    else
      let (opened, _, t) := prompt (name mem) none t m.p.o.entries
      (opened, mem, t)
  else (false, mem, t)

/-- `filesystem_check` once the partition is open. -/
def identify (p : Probe) (conf : Conf) (iscrypt : CInt) (frommount partition : String) (t : Tables) : CInt × Tables :=
  let (fstype, t) := detect p conf frommount t
  let isloop : CInt := if fstype ≠ 0 ∧ p.present (loopmount ++ "/.extfs") then TYPE_LOOP else 0
  let isbind : CInt := if fstype ≠ 0 ∧ p.present (loopmount ++ "/.data") then TYPE_BIND else 0
  let t := if fstype ≠ 0 then (p.o.call (.umount loopmount) (p.o.call (.umount frommount) t).2).2 else t
  let t := close_encrypted p.o fstype partition t
  (fstype ||| iscrypt ||| isloop ||| isbind, t)

/-- The code returned, the memory of the caller's name, and the tables. -/
def filesystem_check (m : Machine) (conf : Conf) (mem : List Char) (t : Tables) : CInt × List Char × Tables :=
  let (iscrypt, mem) := is_encrypted_partition m m.magic mem
  if iscrypt then
    let (opened, mem, t) := open_encrypted_partition m mem t
    if opened then
      let (code, t) := identify m.p conf TYPE_CRYPT (mapper (name mem)) (name mem) t
      (code, mem, t)
    else (TYPE_CRYPT, mem, t)
  else
    let (code, t) := identify m.p conf 0 (name mem) (name mem) t
    (code, mem, t)

/-- In a build with cryptsetup this is the probe that mounting goes by. -/
theorem filesystem_check_cryptsetup {m : Machine} (build : m.STEAM_HAS_CRYPTSETUP = true) (conf : Conf)
    (mem : List Char) (t : Tables) :
    filesystem_check m conf mem t =
      ((Autodetect.filesystem_check m.p conf (name mem) t).1, mem,
        (Autodetect.filesystem_check m.p conf (name mem) t).2) := by
  have identified : ∀ t, identify m.p conf (if m.p.o.isLuks (name mem) then TYPE_CRYPT else 0)
      (if m.p.o.isLuks (name mem) then mapper (name mem) else name mem) (name mem) t =
      Autodetect.identify m.p conf (name mem) t := fun t => rfl
  cases luks : m.p.o.isLuks (name mem) with
  | false =>
    have checked : identify m.p conf 0 (name mem) (name mem) t = Autodetect.identify m.p conf (name mem) t := by
      rw [← identified, luks]
      rfl
    simp only [filesystem_check, is_encrypted_partition, build, luks, Autodetect.filesystem_check, checked,
      Bool.false_eq_true, ↓reduceIte]
  | true =>
    simp only [luks, ↓reduceIte] at identified
    have opening : open_encrypted_partition m mem t =
        ((Volumes.open_encrypted_partition m.p.o (name mem) none t).1, mem,
          (Volumes.open_encrypted_partition m.p.o (name mem) none t).2.2) := by
      simp only [open_encrypted_partition, is_encrypted_partition, build, luks, Volumes.open_encrypted_partition,
        Option.getD_none, ne_eq, not_true_eq_false, Bool.false_eq_true, ↓reduceIte]
      split <;> rfl
    simp only [filesystem_check, is_encrypted_partition, build, luks, opening, Autodetect.filesystem_check, identified,
      ↓reduceIte]
    split <;> rfl

/-! ### The mount table -/

/-- One of the mount attempts succeeds. -/
def mount_works (p : Probe) (frommount : String) : Bool :=
  (p.is_directory frommount && p.o.ok (.bind frommount loopmount)) ||
    p.o.ok (.mount "ext2" TYPE_EXT2_DEFAULT_MOUNT frommount loopmount) ||
    p.o.ok (.mount "ext4" TYPE_EXT4_DEFAULT_MOUNT frommount loopmount) ||
    p.o.ok (.mount "rfs" TYPE_RFS_DEFAULT_MOUNT frommount loopmount) ||
    p.o.ok (.mount "jfs" TYPE_JFS_DEFAULT_MOUNT frommount loopmount)

theorem mount_call (o : Outcomes) (filesystem options source target : String) (t : Tables) :
    o.call (.mount filesystem options source target) t =
      (o.ok (.mount filesystem options source target),
        bif o.ok (.mount filesystem options source target) then t.mounted ⟨source, target⟩ else t) := by
  simp only [Outcomes.call, Cmd.run, Cmd.possible, Bool.and_true]
  split <;> simp_all [Cmd.effect, Tables.mounted]

theorem bind_call (o : Outcomes) (source target : String) (t : Tables) :
    o.call (.bind source target) t =
      (o.ok (.bind source target), bif o.ok (.bind source target) then t.mounted ⟨source, target⟩ else t) := by
  simp only [Outcomes.call, Cmd.run, Cmd.possible, Bool.and_true]
  split <;> simp_all [Cmd.effect, Tables.mounted]

/-- The type is 0 where no attempt succeeds, and otherwise there is one volume more. -/
theorem detect_spec (p : Probe) (conf : Conf) (frommount : String) (t : Tables) :
    ((detect p conf frommount t).1 ≠ 0 ↔ mount_works p frommount = true) ∧
      (detect p conf frommount t).2 = bif mount_works p frommount then t.mounted ⟨frommount, loopmount⟩ else t := by
  have rfs : rfs_type p conf ≠ 0 := by
    rw [rfs_type]
    split <;> decide
  have directory : TYPE_DIRECTORY ≠ 0 := by decide
  have ext2 : TYPE_EXT2 ≠ 0 := by decide
  have ext4 : TYPE_EXT4 ≠ 0 := by decide
  have jfs : TYPE_JFS ≠ 0 := by decide
  have binding : (if p.is_directory frommount then p.o.call (.bind frommount loopmount) t else (false, t)) =
      (p.is_directory frommount && p.o.ok (.bind frommount loopmount),
        bif p.is_directory frommount && p.o.ok (.bind frommount loopmount) then t.mounted ⟨frommount, loopmount⟩
        else t) := by
    cases p.is_directory frommount with
    | false => rfl
    | true => exact bind_call ..
  unfold detect mount_works
  rw [binding]
  dsimp only
  cases p.is_directory frommount && p.o.ok (.bind frommount loopmount) with
  | true => simpa using directory
  | false =>
    simp only [cond_false, mount_call, Bool.false_or]
    cases p.o.ok (.mount "ext2" TYPE_EXT2_DEFAULT_MOUNT frommount loopmount) with
    | true => simpa using ext2
    | false =>
      cases p.o.ok (.mount "ext4" TYPE_EXT4_DEFAULT_MOUNT frommount loopmount) with
      | true => simpa using ext4
      | false =>
        cases p.o.ok (.mount "rfs" TYPE_RFS_DEFAULT_MOUNT frommount loopmount) with
        | true => simpa using rfs
        | false =>
          cases p.o.ok (.mount "jfs" TYPE_JFS_DEFAULT_MOUNT frommount loopmount) with
          | true => simpa using jfs
          | false => simp

/-- The umounts take away what the probe mounted, and nothing else: either the first one
    works, and the second finds nothing older, or the first fails and the second works. -/
def Undone (p : Probe) (frommount : String) (t : Tables) : Prop :=
  mount_works p frommount = true →
    if p.o.ok (.umount frommount) then
      p.o.ok (.umount loopmount) = true → ∀ v ∈ t.mounts, v.mentions loopmount = false
    else p.o.ok (.umount loopmount) = true

theorem umount_eq_self_iff {x : String} {table : List (Volume String)} :
    umount x table = table ↔ ∀ v ∈ table, v.mentions x = false := by
  constructor
  · intro same v member
    by_contra named
    have fewer := List.length_eraseP_of_mem member (by simpa using named)
    have some_volume := List.length_pos_of_mem member
    rw [umount] at same
    rw [same] at fewer
    omega
  · exact umount_absent

theorem undone_iff {p : Probe} {frommount : String} {t : Tables} :
    (mount_works p frommount = true →
      (p.o.call (.umount loopmount)
        (p.o.call (.umount frommount) (t.mounted ⟨frommount, loopmount⟩)).2).2.mounts = t.mounts) ↔
    Undone p frommount t := by
  have from_source : (⟨frommount, loopmount⟩ : Volume String).mentions frommount = true := by simp [Volume.mentions]
  have from_target : (⟨frommount, loopmount⟩ : Volume String).mentions loopmount = true := by simp [Volume.mentions]
  have longer : (⟨frommount, loopmount⟩ : Volume String) :: t.mounts ≠ t.mounts := List.cons_ne_self _ _
  unfold Undone
  refine forall_congr' fun _ => ?_
  cases first : p.o.ok (.umount frommount) <;> cases second : p.o.ok (.umount loopmount) <;>
    simp [Outcomes.call, Cmd.run, Cmd.possible, Cmd.effect, Tables.mounted, first, second,
      umount_newest _ from_source, umount_newest _ from_target, umount_eq_self_iff]

/-- What `identify` leaves of the tables, and the crypt bit of its code. -/
theorem identify_spec (p : Probe) (conf : Conf) (iscrypt : Bool) (frommount partition : String) (t : Tables) :
    let r := identify p conf (if iscrypt then TYPE_CRYPT else 0) frommount partition t
    (r.2.mounts = t.mounts ↔ Undone p frommount t) ∧ r.2.mappings = t.mappings ∧ has r.1 TYPE_CRYPT = iscrypt := by
  obtain ⟨typed, tables⟩ := detect_spec p conf frommount t
  have detected := Autodetect.detect_type p conf frommount t
  have bare : has (detect p conf frommount t).1 TYPE_CRYPT = false := by
    revert detected
    generalize (detect p conf frommount t).1 = fstype
    revert fstype
    simp only [Autodetect.detected_types, List.mem_cons, List.not_mem_nil, or_false]
    rintro fstype (rfl | rfl | rfl | rfl | rfl | rfl | rfl) <;> decide
  have loop_bit : ∀ b : Prop, [Decidable b] → has (if b then TYPE_LOOP else 0) TYPE_CRYPT = false := by
    intro b _
    split <;> decide
  have bind_bit : ∀ b : Prop, [Decidable b] → has (if b then TYPE_BIND else 0) TYPE_CRYPT = false := by
    intro b _
    split <;> decide
  have crypt_bit : has (if iscrypt then TYPE_CRYPT else 0) TYPE_CRYPT = iscrypt := by
    cases iscrypt <;> decide
  have left : (identify p conf (if iscrypt then TYPE_CRYPT else 0) frommount partition t).2 =
      if mount_works p frommount then
        (p.o.call (.umount loopmount) (p.o.call (.umount frommount) (t.mounted ⟨frommount, loopmount⟩)).2).2
      else t := by
    simp only [identify, close_encrypted, bare, Bool.false_eq_true, ↓reduceIte, tables]
    cases works : mount_works p frommount with
    | false =>
      have untyped : ¬ (detect p conf frommount t).1 ≠ 0 := fun found => by
        rw [typed.mp found] at works
        cases works
      rw [if_neg untyped]
      rfl
    | true =>
      rw [if_pos (typed.mpr works)]
      rfl
  refine ⟨?_, ?_, ?_⟩
  · rw [left, ← undone_iff]
    cases mount_works p frommount <;> simp
  · have kept : ∀ x t, (p.o.call (.umount x) t).2.mappings = t.mappings := by
      intro x t
      simp only [Outcomes.call, Cmd.run]
      split <;> rfl
    rw [left]
    split
    · rw [kept, kept]
      rfl
    · rfl
  · simp only [identify, has_or, bare, crypt_bit, loop_bit, bind_bit, Bool.false_or, Bool.or_false]

/-! ### The name and the mappings -/

theorem memcpy_eq_self_iff {mem src : List Char} : memcpy mem 0 src = mem ↔ src <+: mem := by
  rw [memcpy, List.take_zero, List.nil_append, Nat.zero_add, List.prefix_iff_eq_append]

theorem memcpy_memcpy (mem first second : List Char) :
    memcpy (memcpy mem 0 first) 0 second = memcpy mem 0 (second ++ first.drop second.length) := by
  simp only [memcpy, List.take_zero, List.nil_append, Nat.zero_add, List.length_append, List.length_drop,
    List.drop_append, List.drop_drop, List.append_assoc]
  congr 3
  omega

/-- What is read over the beginning of the name by one call. -/
def read_bytes (m : Machine) (mem : List Char) : List Char :=
  if m.STEAM_HAS_CRYPTSETUP ∨ m.writable = false then []
  else ((m.devices (name mem)).getD []).take 6

theorem is_encrypted_partition_mem (m : Machine) (magic mem : List Char) :
    (is_encrypted_partition m magic mem).2 = memcpy mem 0 (read_bytes m mem) := by
  have nothing : memcpy mem 0 [] = mem := memcpy_eq_self_iff.mpr List.nil_prefix
  unfold is_encrypted_partition read_bytes
  cases m.STEAM_HAS_CRYPTSETUP with
  | true => simp [nothing]
  | false =>
    cases m.devices (name mem) with
    | none => simp [nothing]
    | some content => cases writes : m.writable <;> simp [read_over, writes, nothing]

/-- The partition is taken for encrypted, by `filesystem_check`. -/
def taken_for_crypt (m : Machine) (mem : List Char) : Bool := (is_encrypted_partition m m.magic mem).1

/-- The memory that `open_encrypted_partition` is called with. -/
def handed_on (m : Machine) (mem : List Char) : List Char := memcpy mem 0 (read_bytes m mem)

/-- `open_encrypted_partition` takes it for encrypted, too. -/
def asks (m : Machine) (mem : List Char) : Bool :=
  taken_for_crypt m mem && (is_encrypted_partition m m.magic_opening (handed_on m mem)).1

/-- The bytes that stand over the beginning of the name in the end. -/
def overwrites (m : Machine) (mem : List Char) : List Char :=
  if taken_for_crypt m mem then
    read_bytes m (handed_on m mem) ++ (read_bytes m mem).drop (read_bytes m (handed_on m mem)).length
  else read_bytes m mem

/-- The name in the end. -/
def last_name (m : Machine) (mem : List Char) : String := name (memcpy mem 0 (overwrites m mem))

/-- A password is asked for and taken. -/
def Unlocked (m : Machine) (mem : List Char) (t : Tables) : Prop :=
  asks m mem = true ∧ secname (last_name m mem) ∉ t.mappings ∧ ∃ e ∈ m.p.o.entries, e.2 = true

/-- Where the mounts are tried from: the mapping of an encrypted partition, where that is
    open in the end, and the partition itself where it is not encrypted. -/
def TriedFrom (m : Machine) (mem : List Char) (t : Tables) (frommount : String) : Prop :=
  if taken_for_crypt m mem then
    asks m mem = true ∧ (secname (last_name m mem) ∈ t.mappings ∨ ∃ e ∈ m.p.o.entries, e.2 = true) ∧
      frommount = mapper (last_name m mem)
  else frommount = last_name m mem

/-- `filesystem_check` on a partition that is not taken for encrypted. -/
theorem filesystem_check_plain {m : Machine} {mem : List Char} (plain : taken_for_crypt m mem = false) (conf : Conf)
    (t : Tables) :
    filesystem_check m conf mem t =
      ((identify m.p conf 0 (last_name m mem) (last_name m mem) t).1, memcpy mem 0 (overwrites m mem),
        (identify m.p conf 0 (last_name m mem) (last_name m mem) t).2) := by
  have overwritten : overwrites m mem = read_bytes m mem := by simp [overwrites, plain]
  simp only [taken_for_crypt] at plain
  simp only [filesystem_check, plain, is_encrypted_partition_mem, last_name, overwritten, Bool.false_eq_true, ↓reduceIte]

/-- `filesystem_check` on a partition that is taken for encrypted. -/
theorem filesystem_check_crypt {m : Machine} {mem : List Char} (crypt : taken_for_crypt m mem = true) (conf : Conf)
    (t : Tables) :
    filesystem_check m conf mem t =
      let mapped := bif asks m mem && secname (last_name m mem) ∉ t.mappings && m.p.o.entries.any Prod.snd then
        t.opened (last_name m mem) else t
      let r := identify m.p conf TYPE_CRYPT (mapper (last_name m mem)) (last_name m mem) mapped
      bif asks m mem && (secname (last_name m mem) ∈ t.mappings || m.p.o.entries.any Prod.snd) then
        (r.1, memcpy mem 0 (overwrites m mem), r.2)
      else (TYPE_CRYPT, memcpy mem 0 (overwrites m mem), t) := by
  have overwritten : memcpy (handed_on m mem) 0 (read_bytes m (handed_on m mem)) =
      memcpy mem 0 (overwrites m mem) := by
    simp only [overwrites, crypt, ↓reduceIte]
    rw [← memcpy_memcpy]
    rfl
  have named : name (memcpy mem 0 (overwrites m mem)) = last_name m mem := rfl
  have first : is_encrypted_partition m m.magic mem = (true, handed_on m mem) :=
    Prod.ext crypt (is_encrypted_partition_mem m m.magic mem)
  have second : is_encrypted_partition m m.magic_opening (handed_on m mem) =
      (asks m mem, memcpy mem 0 (overwrites m mem)) := by
    refine Prod.ext ?_ ?_
    · simp [asks, crypt]
    · rw [is_encrypted_partition_mem, overwritten]
  simp only [filesystem_check, first, open_encrypted_partition, second, named, ↓reduceIte]
  cases asked : asks m mem with
  | false => simp
  | true =>
    by_cases opened : secname (last_name m mem) ∈ t.mappings
    · simp [opened, named]
    · obtain ⟨handed, prompted⟩ := prompt_closed opened none m.p.o.entries
      cases taken : m.p.o.entries.any Prod.snd <;> simp [opened, prompted, taken, named]

/-! ### What is as before -/

section Frame
variable (m : Machine) (conf : Conf) (mem : List Char) (t : Tables)

theorem checked_name : (filesystem_check m conf mem t).2.1 = memcpy mem 0 (overwrites m mem) := by
  cases crypt : taken_for_crypt m mem with
  | false => rw [filesystem_check_plain crypt]
  | true =>
    rw [filesystem_check_crypt crypt]
    dsimp only
    cases asks m mem && (secname (last_name m mem) ∈ t.mappings || m.p.o.entries.any Prod.snd) <;> rfl

theorem checked_crypt : has (filesystem_check m conf mem t).1 TYPE_CRYPT = taken_for_crypt m mem := by
  cases crypt : taken_for_crypt m mem with
  | false =>
    rw [filesystem_check_plain crypt]
    exact (identify_spec m.p conf false (last_name m mem) (last_name m mem) t).2.2
  | true =>
    rw [filesystem_check_crypt crypt]
    dsimp only
    cases asks m mem && (secname (last_name m mem) ∈ t.mappings || m.p.o.entries.any Prod.snd) with
    | false => exact (by decide : has TYPE_CRYPT TYPE_CRYPT = true)
    | true => exact (identify_spec m.p conf true _ (last_name m mem) _).2.2

/-- What a partition that is taken for encrypted leaves of the tables: all of them, or
    what `identify` leaves behind its mapping, which is a new one where it was unlocked. -/
theorem checked_tables (crypt : taken_for_crypt m mem = true) :
    (¬ Unlocked m mem t ∧ (∀ frommount, ¬ TriedFrom m mem t frommount) ∧ (filesystem_check m conf mem t).2.2 = t) ∨
    (∀ frommount, TriedFrom m mem t frommount ↔ frommount = mapper (last_name m mem)) ∧
      ∃ mapped, (filesystem_check m conf mem t).2.2 =
          (identify m.p conf TYPE_CRYPT (mapper (last_name m mem)) (last_name m mem) mapped).2 ∧
        mapped.mounts = t.mounts ∧ (mapped.mappings = t.mappings ↔ ¬ Unlocked m mem t) := by
  rw [filesystem_check_crypt crypt]
  simp only [Unlocked, TriedFrom, crypt, ↓reduceIte]
  cases asked : asks m mem with
  | false => exact .inl (by simp)
  | true =>
    by_cases opened : secname (last_name m mem) ∈ t.mappings
    · exact .inr ⟨by simp [opened], t, by simp [opened]⟩
    · cases taken : m.p.o.entries.any Prod.snd with
      | false =>
        have none_taken : ¬ ∃ e ∈ m.p.o.entries, e.2 = true := by simpa using taken
        exact .inl (by simp [opened, none_taken])
      | true =>
        have one_taken : ∃ e ∈ m.p.o.entries, e.2 = true := List.any_eq_true.mp taken
        exact .inr ⟨by simp [opened, one_taken], t.opened (last_name m mem), by simp [opened, one_taken]⟩

theorem checked_mounts_iff :
    (filesystem_check m conf mem t).2.2.mounts = t.mounts ↔
      ∀ frommount, TriedFrom m mem t frommount → Undone m.p frommount t := by
  cases crypt : taken_for_crypt m mem with
  | false =>
    rw [filesystem_check_plain crypt]
    simp only [TriedFrom, crypt, Bool.false_eq_true, ↓reduceIte, forall_eq]
    exact (identify_spec m.p conf false _ _ t).1
  | true =>
    rcases checked_tables m conf mem t crypt with ⟨-, untried, same⟩ | ⟨tried, mapped, left, mounts, -⟩
    · rw [same]
      exact iff_of_true rfl fun frommount here => absurd here (untried frommount)
    · have undone : Undone m.p (mapper (last_name m mem)) mapped ↔ Undone m.p (mapper (last_name m mem)) t := by
        rw [Undone, Undone, mounts]
      have spec : _ ↔ Undone m.p (mapper (last_name m mem)) mapped :=
        (identify_spec m.p conf true (mapper (last_name m mem)) (last_name m mem) mapped).1
      simp only [tried, forall_eq]
      rw [left, ← mounts, ← undone]
      exact spec

theorem checked_mappings_iff : (filesystem_check m conf mem t).2.2.mappings = t.mappings ↔ ¬ Unlocked m mem t := by
  cases crypt : taken_for_crypt m mem with
  | false =>
    rw [filesystem_check_plain crypt]
    have same := (identify_spec m.p conf false (last_name m mem) (last_name m mem) t).2.1
    refine iff_of_true same fun unlocked => ?_
    simp [Unlocked, asks, crypt] at unlocked
  | true =>
    rcases checked_tables m conf mem t crypt with ⟨locked, -, same⟩ | ⟨-, mapped, left, -, mappings⟩
    · rw [same]
      exact iff_of_true rfl locked
    · have kept : _ = mapped.mappings :=
        (identify_spec m.p conf true (mapper (last_name m mem)) (last_name m mem) mapped).2.1
      rw [left, ← mappings]
      exact Eq.congr_left kept

end Frame

/-- `filesystem_check` leaves the mount table, the open mappings and the caller's name as
    they were, and without cryptsetup reports the crypt bit by the magic number, exactly
    where the umounts undo the mount, no password is taken, the bytes read agree with the
    name, and the stack holds the magic number where the device does. -/
theorem pure_probe_iff (m : Machine) (conf : Conf) (mem : List Char) (t : Tables) :
    ((filesystem_check m conf mem t).2.2.mounts = t.mounts ∧
      (filesystem_check m conf mem t).2.2.mappings = t.mappings ∧ (filesystem_check m conf mem t).2.1 = mem ∧
      (m.STEAM_HAS_CRYPTSETUP = false →
        (has (filesystem_check m conf mem t).1 TYPE_CRYPT = true ↔
          ∃ content, m.devices (name mem) = some content ∧ content.take 6 = LUKS_MAGIC))) ↔
    (∀ frommount, TriedFrom m mem t frommount → Undone m.p frommount t) ∧ ¬ Unlocked m mem t ∧
      overwrites m mem <+: mem ∧
      (m.STEAM_HAS_CRYPTSETUP = false → ∀ content, m.devices (name mem) = some content →
        (m.magic = LUKS_MAGIC ↔ content.take 6 = LUKS_MAGIC)) := by
  have compared : m.STEAM_HAS_CRYPTSETUP = false →
      ((has (filesystem_check m conf mem t).1 TYPE_CRYPT = true ↔
          ∃ content, m.devices (name mem) = some content ∧ content.take 6 = LUKS_MAGIC) ↔
        ∀ content, m.devices (name mem) = some content → (m.magic = LUKS_MAGIC ↔ content.take 6 = LUKS_MAGIC)) := by
    intro build
    rw [checked_crypt]
    cases opened : m.devices (name mem) with
    | none => simp [taken_for_crypt, is_encrypted_partition, build, opened]
    | some content => simp [taken_for_crypt, is_encrypted_partition, build, opened]
  rw [checked_mounts_iff, checked_mappings_iff, checked_name, memcpy_eq_self_iff]
  exact and_congr_right fun _ => and_congr_right fun _ => and_congr_right fun _ => forall_congr' compared

/-- Probing an encrypted partition, whose password is typed correctly, and in a build
    without cryptsetup one whose name the caller holds in memory of its own. -/
theorem probe_leaves_traces :
    let p : Probe := ⟨⟨fun _ => true, fun _ => true, [("secret", true)]⟩, fun _ => false, fun _ => false, none⟩
    let conf : Conf := ⟨[], by simp, none, false, fun _ => none⟩
    let mem := "/dev/stl9".toList ++ ['\x00']
    let device (_ : String) := some (LUKS_MAGIC ++ ['\x00', '\x01'])
    let with_cryptsetup : Machine := ⟨true, p, device, true, [], []⟩
    let without : Machine := ⟨false, p, device, true, [], []⟩
    let t : Tables := ⟨[], [], []⟩
    secname (name mem) ∉ t.mappings ∧
      (filesystem_check with_cryptsetup conf mem t).2.2.mappings = ["secstl9"] ∧
      (filesystem_check without conf mem t).2.1 = LUKS_MAGIC ++ "stl9".toList.drop 1 ++ ['\x00'] ∧
      has (filesystem_check without conf mem t).1 TYPE_CRYPT = false := by
  decide

end SteamRecovery.Probing
