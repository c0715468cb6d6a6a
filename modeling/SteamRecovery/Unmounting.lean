import Mathlib.Data.List.Infix
import SteamRecovery.Volumes

/-!
Taking partitions down again (`unmount_filesystem` in `roots.c`). What
`check_and_mount` puts up for a partition is a stack of tables over those before
the call, so the partitions that are up make a pile (`mounted_pile`). Commands that
miss a stack leave it where it is (`run_atop_above`, `run_atop_below`), and the
commands of `unmount_filesystem` miss every stack but its own partition's unless
that stands on the loop device they name. Only `/efs` names the loop device of
another partition (`unmount_filesystem_undoes_iff`).
-/
namespace SteamRecovery.Unmounting
open SteamRecovery.Devices
open SteamRecovery.MountTables
open SteamRecovery.Volumes

/-- The loop device and the block device that belong to a mount point. -/
def unmount_names (partition : String) : Option (String × String) :=
  if partition = "/system" then some ("/dev/block/loop4", SYSTEM_BLOCK_NAME)
  else if partition = "/tmp/sys" then some ("/dev/block/loop4", SYSTEM_BLOCK_NAME)
  else if partition = "/cache" then some ("/dev/block/loop1", CACHE_BLOCK_NAME)
  else if partition = "/data" then some ("/dev/block/loop2", DATA_BLOCK_NAME)
  else if partition = "/dbdata" then some ("/dev/block/loop3", DBDATA_BLOCK_NAME)
  else if partition = "/efs" then some ("/dev/block/loop4", EFS_BLOCK_NAME)
  else none

def unmount_filesystem (o : Outcomes) (partition : String) (t : Tables) : Int × Tables :=
  match unmount_names partition with
  | some (loopname, blockname) =>
    let (_, t) := o.call (.umount loopname) t
    let (_, t) := o.call (.losetup_d loopname) t
    let (_, t) := o.call (.umount blockname) t
    let (_, t) := o.call (.umount (mapper blockname)) t
    let (_, t) := o.call (.luksClose (secname blockname)) t
    (0, t)
  | none => (-1, t)

private theorem umount_call_mounts (o : Outcomes) (x : String) (t : Tables) :
    (o.call (.umount x) t).2.mounts = if o.ok (.umount x) then umount x t.mounts else t.mounts := by
  simp only [Outcomes.call, Cmd.run, Cmd.possible, Bool.and_true]
  split <;> rfl

private theorem losetup_d_mounts (o : Outcomes) (device : String) (t : Tables) :
    (o.call (.losetup_d device) t).2.mounts = t.mounts := by
  simp only [Outcomes.call, Cmd.run]
  split <;> rfl

private theorem luksClose_mounts (o : Outcomes) (name : String) (t : Tables) :
    (o.call (.luksClose name) t).2.mounts = t.mounts := by
  simp only [Outcomes.call, Cmd.run]
  split <;> rfl

/-- The mount table that `unmount_filesystem` leaves: three umounts, each of which may fail. -/
theorem unmount_filesystem_mounts {partition : String} {names : String × String}
    (found : unmount_names partition = some names) (o : Outcomes) (t : Tables) :
    (unmount_filesystem o partition t).2.mounts =
      teardown (fun x => o.ok (.umount x)) t.mounts [mapper names.2, names.2, names.1] := by
  rw [unmount_filesystem, found]
  simp only [losetup_d_mounts, luksClose_mounts, umount_call_mounts, teardown]

/-! ### Stacks of tables -/

/-- The newer entries over the older ones. -/
def atop (above below : Tables) : Tables :=
  ⟨above.mounts ++ below.mounts, above.loops ++ below.loops, above.mappings ++ below.mappings⟩

/-- Every entry is still there, in order. -/
structure Within (a b : Tables) : Prop where
  mounts : a.mounts.Sublist b.mounts
  loops : a.loops.Sublist b.loops
  mappings : a.mappings.Sublist b.mappings

theorem within_refl (t : Tables) : Within t t := ⟨.refl _, .refl _, .refl _⟩

theorem within_atop {a b : Tables} (within : Within a b) (above : Tables) : Within (atop above a) (atop above b) :=
  ⟨within.mounts.append_left _, within.loops.append_left _, within.mappings.append_left _⟩

theorem within_below (above t : Tables) : Within t (atop above t) :=
  ⟨List.sublist_append_right _ _, List.sublist_append_right _ _, List.sublist_append_right _ _⟩

/-- An undoing command finds nothing of its own in the tables. -/
def Misses (t : Tables) : Cmd → Prop
  | .umount name => ∀ v ∈ t.mounts, v.mentions name = false
  | .losetup_d device => (∀ b ∈ t.loops, b.1 ≠ device) ∧ ∀ v ∈ t.mounts, v.source ≠ device
  | .luksClose name => name ∉ t.mappings ∧ ∀ v ∈ t.mounts, v.source ≠ "/dev/mapper/" ++ name
  | _ => False

private theorem any_missing {α : Type} {p : α → Prop} [DecidablePred p] {list : List α} (none : ∀ a ∈ list, ¬ p a) :
    (list.any fun a => p a) = false := by
  simpa using none

instance (t : Tables) : (cmd : Cmd) → Decidable (Misses t cmd)
  | .umount name => inferInstanceAs (Decidable (∀ v ∈ t.mounts, v.mentions name = false))
  | .losetup_d device =>
    inferInstanceAs (Decidable ((∀ b ∈ t.loops, b.1 ≠ device) ∧ ∀ v ∈ t.mounts, v.source ≠ device))
  | .luksClose name =>
    inferInstanceAs (Decidable (name ∉ t.mappings ∧ ∀ v ∈ t.mounts, v.source ≠ "/dev/mapper/" ++ name))
  | .mount _ _ _ _ | .bind _ _ | .losetup _ _ | .luksOpen _ _ => isFalse id

/-- A command that misses the newer entries acts on the older ones alone. -/
theorem run_atop_above {above : Tables} {cmd : Cmd} (misses : Misses above cmd) (ok : Bool) (below : Tables) :
    (cmd.run ok (atop above below)).2 = atop above (cmd.run ok below).2 := by
  cases ok with
  | false => rfl
  | true =>
    cases cmd with
    | umount name =>
      simp [Cmd.run, Cmd.possible, Cmd.effect, atop, umount_append_right _ misses]
    | losetup_d device =>
      obtain ⟨unbound, unused⟩ := misses
      have kept := List.eraseP_append_right (p := fun b : String × String => b.1 = device) below.loops
        fun b member => by simpa using unbound b member
      simp only [Cmd.run, Cmd.possible, atop, List.any_append, any_missing unbound, any_missing unused,
        Bool.false_or, Bool.true_and]
      split <;> simp [Cmd.effect, kept]
    | luksClose name =>
      obtain ⟨closed, unused⟩ := misses
      simp only [Cmd.run, Cmd.possible, atop, List.any_append, any_missing unused, List.mem_append, closed,
        false_or, Bool.false_or, Bool.true_and]
      split <;> simp [Cmd.effect, List.erase_append_right _ closed]
    | _ => exact misses.elim

/-- A command that misses the older entries acts on the newer ones alone. -/
theorem run_atop_below {below : Tables} {cmd : Cmd} (misses : Misses below cmd) (ok : Bool) (above : Tables) :
    (cmd.run ok (atop above below)).2 = atop (cmd.run ok above).2 below := by
  cases ok with
  | false => rfl
  | true =>
    cases cmd with
    | umount name =>
      simp [Cmd.run, Cmd.possible, Cmd.effect, atop, umount_append_clear _ misses]
    | losetup_d device =>
      obtain ⟨unbound, unused⟩ := misses
      simp only [Cmd.run, Cmd.possible, atop, List.any_append, any_missing unbound, any_missing unused,
        Bool.or_false, Bool.true_and]
      split
      · rename_i present
        obtain ⟨b, member, named⟩ := List.any_eq_true.mp (Bool.and_eq_true_iff.mp present).1
        simp [Cmd.effect, List.eraseP_append_left (p := fun b : String × String => b.1 = device) named _ member]
      · rfl
    | luksClose name =>
      obtain ⟨closed, unused⟩ := misses
      simp only [Cmd.run, Cmd.possible, atop, List.any_append, any_missing unused, List.mem_append, closed,
        or_false, Bool.or_false, Bool.true_and]
      split
      · rename_i present
        have opened := of_decide_eq_true (Bool.and_eq_true_iff.mp present).1
        simp [Cmd.effect, List.erase_append_left _ opened]
      · rfl
    | _ => exact misses.elim

/-- The tables after the commands, in order. -/
def run_all (o : Outcomes) : List Cmd → Tables → Tables
  | [], t => t
  | cmd :: rest, t => run_all o rest (o.call cmd t).2

theorem run_all_above {above : Tables} {cmds : List Cmd} (misses : ∀ cmd ∈ cmds, Misses above cmd) (o : Outcomes)
    (below : Tables) : run_all o cmds (atop above below) = atop above (run_all o cmds below) := by
  induction cmds generalizing below with
  | nil => rfl
  | cons cmd rest ih =>
    rw [List.forall_mem_cons] at misses
    rw [run_all, Outcomes.call, run_atop_above misses.1, ih misses.2]
    rfl

theorem run_all_below {below : Tables} {cmds : List Cmd} (misses : ∀ cmd ∈ cmds, Misses below cmd) (o : Outcomes)
    (above : Tables) : run_all o cmds (atop above below) = atop (run_all o cmds above) below := by
  induction cmds generalizing above with
  | nil => rfl
  | cons cmd rest ih =>
    rw [List.forall_mem_cons] at misses
    rw [run_all, Outcomes.call, run_atop_below misses.1, ih misses.2]
    rfl

theorem misses_atop {above below : Tables} {cmd : Cmd} (missesAbove : Misses above cmd)
    (missesBelow : Misses below cmd) : Misses (atop above below) cmd := by
  cases cmd with
  | umount name => exact List.forall_mem_append.mpr ⟨missesAbove, missesBelow⟩
  | losetup_d device =>
    exact ⟨List.forall_mem_append.mpr ⟨missesAbove.1, missesBelow.1⟩,
      List.forall_mem_append.mpr ⟨missesAbove.2, missesBelow.2⟩⟩
  | luksClose name =>
    exact ⟨fun member => (List.mem_append.mp member).elim missesAbove.1 missesBelow.1,
      List.forall_mem_append.mpr ⟨missesAbove.2, missesBelow.2⟩⟩
  | _ => exact missesAbove.elim

private theorem run_empty {cmd : Cmd} (undoes : cmd.undoes = true) (ok : Bool) :
    (cmd.run ok no_tables).2 = no_tables := by
  cases cmd <;> cases ok <;> first | rfl | cases undoes

/-- Commands that miss the tables leave them as they are. -/
theorem run_all_missing {t : Tables} {cmds : List Cmd} (undo : ∀ cmd ∈ cmds, cmd.undoes = true)
    (misses : ∀ cmd ∈ cmds, Misses t cmd) (o : Outcomes) : run_all o cmds t = t := by
  have alone : atop t no_tables = t := by simp [atop, no_tables]
  have empty : run_all o cmds no_tables = no_tables := by
    clear misses
    induction cmds with
    | nil => rfl
    | cons cmd rest ih =>
      rw [List.forall_mem_cons] at undo
      rw [run_all, Outcomes.call, run_empty undo.1, ih undo.2]
  calc run_all o cmds t = run_all o cmds (atop t no_tables) := by rw [alone]
    _ = atop t (run_all o cmds no_tables) := run_all_above misses o no_tables
    _ = t := by rw [empty, alone]

/-- The commands of `unmount_filesystem`. -/
def unmount_cmds (loopname blockname : String) : List Cmd :=
  [.umount loopname, .losetup_d loopname, .umount blockname, .umount (mapper blockname), .luksClose (secname blockname)]

theorem unmount_filesystem_eq {partition : String} {names : String × String}
    (found : unmount_names partition = some names) (o : Outcomes) (t : Tables) :
    unmount_filesystem o partition t = (0, run_all o (unmount_cmds names.1 names.2) t) := by
  rw [unmount_filesystem, found]
  rfl

theorem unmount_cmds_undo (loopname blockname : String) :
    ∀ cmd ∈ unmount_cmds loopname blockname, cmd.undoes = true := by
  simp [unmount_cmds, Cmd.undoes]

/-! ### The pile of the partitions that are up -/

/-- A partition with the loop device and the mount name that its callers pass. -/
structure Caller where
  partition : String
  loopname : String
  mtname : String
  deriving DecidableEq

/-- The calls of `mount_internal`, `steam_init_main`, `convert_filesystems` and
    `convert_system`. -/
def callers : List Caller := [
  ⟨SYSTEM_BLOCK_NAME, "loop4", "system"⟩,
  ⟨SYSTEM_BLOCK_NAME, "loop4", "tmp/sys"⟩,
  ⟨CACHE_BLOCK_NAME, "loop1", "cache"⟩,
  ⟨DATA_BLOCK_NAME, "loop2", "data"⟩,
  ⟨DBDATA_BLOCK_NAME, "loop3", "dbdata"⟩,
  ⟨EFS_BLOCK_NAME, "loop5", "xxx"⟩]

/-- A partition mounted under a code. -/
structure Mount where
  caller : Caller
  fstype : CInt

/-- What `check_and_mount` puts up for a caller, with and without a loop layer and a mapping. -/
def Caller.stack (c : Caller) (loop crypt : Bool) : Tables where
  mounts := (if loop then [loop_volume c.loopname c.mtname] else []) ++
    [⟨if crypt then mapper c.partition else c.partition, if loop then orig c.mtname else "/" ++ c.mtname⟩]
  loops := if loop then [(loop_device c.loopname, extfs c.mtname)] else []
  mappings := if crypt then [secname c.partition] else []

def Mount.stack (m : Mount) : Tables := m.caller.stack (has m.fstype TYPE_LOOP) (has m.fstype TYPE_CRYPT)

/-- The partitions that are up, newest first, over tables that hold none of them. -/
def pile (foreign : Tables) : List Mount → Tables
  | [] => foreign
  | m :: rest => atop m.stack (pile foreign rest)

/-- The tables reached from `foreign` by successful calls of `check_and_mount` for
    partitions that are not up. -/
inductive Mounted (foreign : Tables) : List Mount → Tables → Prop
  | none : Mounted foreign [] foreign
  | mount {up : List Mount} {t t' : Tables} {c : Caller} {fstype : CInt} {o : Outcomes} {secret handed : Option String} :
      Mounted foreign up t → c ∈ callers → (∀ m ∈ up, m.caller.partition ≠ c.partition) → KnownBase fstype = true →
      check_and_mount o fstype c.partition c.loopname c.mtname secret t = (0, handed, t') →
      Mounted foreign (⟨c, fstype⟩ :: up) t'

/-- The tables hold nothing of any partition. -/
def Clear (foreign : Tables) : Prop :=
  ∀ c ∈ callers, (∀ v ∈ foreign.mounts, v.mentions c.partition = false ∧ v.mentions (mapper c.partition) = false ∧
      v.mentions (loop_device c.loopname) = false) ∧
    (∀ b ∈ foreign.loops, b.1 ≠ loop_device c.loopname) ∧ secname c.partition ∉ foreign.mappings

/-- The loop and block devices that `unmount_filesystem` can name. -/
def unmount_table : List (String × String) := [
  ("/dev/block/loop4", SYSTEM_BLOCK_NAME),
  ("/dev/block/loop1", CACHE_BLOCK_NAME),
  ("/dev/block/loop2", DATA_BLOCK_NAME),
  ("/dev/block/loop3", DBDATA_BLOCK_NAME),
  ("/dev/block/loop4", EFS_BLOCK_NAME)]

theorem unmount_names_mem {partition : String} {names : String × String}
    (found : unmount_names partition = some names) : names ∈ unmount_table := by
  unfold unmount_names at found
  split_ifs at found <;> cases found <;> decide

/-- A stack of another partition is missed by the commands, unless it stands on the
    loop device they name. -/
theorem caller_misses : ∀ names ∈ unmount_table, ∀ c ∈ callers, c.partition ≠ names.2 → ∀ loop crypt : Bool,
    (loop = true → loop_device c.loopname ≠ names.1) →
      ∀ cmd ∈ unmount_cmds names.1 names.2, Misses (c.stack loop crypt) cmd := by
  decide +kernel

/-- The commands take down a stack of their own partition, unless it stands on another
    loop device than the one they name. -/
theorem caller_removed : ∀ names ∈ unmount_table, ∀ c ∈ callers, c.partition = names.2 → ∀ loop crypt : Bool,
    (run_all all_work (unmount_cmds names.1 names.2) (c.stack loop crypt) = no_tables ↔
      (loop = true → loop_device c.loopname = names.1)) := by
  decide +kernel

theorem table_callers : ∀ names ∈ unmount_table,
    (∃ c ∈ callers, c.partition = names.2) ∧ ∃ c ∈ callers, loop_device c.loopname = names.1 := by
  decide

theorem callers_apart : ∀ c ∈ callers, ∀ d ∈ callers, c.partition ≠ d.partition →
    secname c.partition ≠ secname d.partition ∧ loop_device c.loopname ≠ loop_device d.loopname := by
  decide

theorem clear_misses {foreign : Tables} (clear : Clear foreign) {names : String × String}
    (member : names ∈ unmount_table) : ∀ cmd ∈ unmount_cmds names.1 names.2, Misses foreign cmd := by
  obtain ⟨⟨c, cMem, partition⟩, d, dMem, loop⟩ := table_callers names member
  obtain ⟨mounts, _, closed⟩ := clear c cMem
  obtain ⟨loopMounts, unbound, _⟩ := clear d dMem
  rw [partition] at mounts closed
  rw [loop] at loopMounts unbound
  simp only [unmount_cmds, List.forall_mem_cons, List.not_mem_nil, false_imp_iff, implies_true, and_true]
  exact ⟨fun v member => (loopMounts v member).2.2, ⟨unbound, fun v member => mentions_source (loopMounts v member).2.2⟩,
    fun v member => (mounts v member).1, fun v member => (mounts v member).2.1,
    closed, fun v member => mentions_source (mounts v member).2.1⟩

theorem pile_misses {foreign : Tables} {up : List Mount} {cmd : Cmd} (each : ∀ m ∈ up, Misses m.stack cmd)
    (below : Misses foreign cmd) : Misses (pile foreign up) cmd := by
  induction up with
  | nil => exact below
  | cons m rest ih =>
    rw [List.forall_mem_cons] at each
    exact misses_atop each.1 (ih each.2)

/-- Every partition of the pile is a caller's, and none is up twice. -/
structure Sound (up : List Mount) : Prop where
  callers : ∀ m ∈ up, m.caller ∈ callers
  distinct : up.Pairwise fun m n => n.caller.partition ≠ m.caller.partition

theorem sound_tail {m : Mount} {up : List Mount} (sound : Sound (m :: up)) : Sound up :=
  ⟨(List.forall_mem_cons.mp sound.callers).2, (List.pairwise_cons.mp sound.distinct).2⟩

/-- A partition that is not up has its mapping closed and its loop device free. -/
theorem pile_unused {foreign : Tables} (clear : Clear foreign) {up : List Mount} (sound : Sound up) {c : Caller}
    (member : c ∈ callers) (absent : ∀ m ∈ up, m.caller.partition ≠ c.partition) :
    secname c.partition ∉ (pile foreign up).mappings ∧ (∀ b ∈ (pile foreign up).loops, b.1 ≠ loop_device c.loopname) := by
  induction up with
  | nil => exact ⟨(clear c member).2.2, (clear c member).2.1⟩
  | cons m rest ih =>
    rw [List.forall_mem_cons] at absent
    obtain ⟨closed, unbound⟩ := ih (sound_tail sound) absent.2
    obtain ⟨names, loops⟩ := callers_apart m.caller (sound.callers m List.mem_cons_self) c member absent.1
    refine ⟨fun opened => ?_, List.forall_mem_append.mpr ⟨fun b bound => ?_, unbound⟩⟩
    · rcases List.mem_append.mp opened with own | older
      · simp only [Mount.stack, Caller.stack] at own
        split at own
        · exact names (List.mem_singleton.mp own).symm
        · cases own
      · exact closed older
    · simp only [Mount.stack, Caller.stack] at bound
      split at bound
      · rw [List.mem_singleton.mp bound]
        exact loops
      · cases bound

theorem stacked_atop (m : Mount) (t : Tables) :
    stacked m.fstype m.caller.partition m.caller.loopname m.caller.mtname t = atop m.stack t := by
  unfold stacked Mount.stack Caller.stack atop unlocked base_volume frompath topath
  cases has m.fstype TYPE_LOOP <;> cases has m.fstype TYPE_CRYPT <;> rfl

/-- The tables reached by mounting are the pile of what is up. -/
theorem mounted_pile {foreign : Tables} (clear : Clear foreign) {up : List Mount} {t : Tables}
    (mounted : Mounted foreign up t) : t = pile foreign up ∧ Sound up := by
  induction mounted with
  | none => exact ⟨rfl, by simp, .nil⟩
  | @mount up t t' c fstype o secret handed _ member absent known ran ih =>
    obtain ⟨rfl, sound⟩ := ih
    have closed := (pile_unused clear sound member absent).1
    refine ⟨(check_and_mount_stacked known closed ran).trans (stacked_atop ⟨c, fstype⟩ _), ?_, ?_⟩
    · exact List.forall_mem_cons.mpr ⟨member, sound.callers⟩
    · exact List.pairwise_cons.mpr ⟨absent, sound.distinct⟩

/-! ### Undoing, and nothing else -/

/-- The partitions of the pile other than the one on the block device. -/
def others (blockname : String) (up : List Mount) : List Mount :=
  up.filter fun m => m.caller.partition ≠ blockname

/-- No other partition stands on the loop device. -/
def Undisturbed (names : String × String) (up : List Mount) : Prop :=
  ∀ m ∈ up, m.caller.partition ≠ names.2 → has m.fstype TYPE_LOOP = true → loop_device m.caller.loopname ≠ names.1

/-- Where no other partition stands on the loop device, the commands leave every other
    partition up, whatever they manage to do. -/
theorem others_within {foreign : Tables} (clear : Clear foreign) {names : String × String}
    (member : names ∈ unmount_table) {up : List Mount} (sound : Sound up) (undisturbed : Undisturbed names up)
    (o : Outcomes) :
    Within (pile foreign (others names.2 up)) (run_all o (unmount_cmds names.1 names.2) (pile foreign up)) := by
  have below := clear_misses clear member
  induction up with
  | nil =>
    rw [pile, run_all_missing (unmount_cmds_undo _ _) below]
    exact within_refl _
  | cons m rest ih =>
    unfold Undisturbed at undisturbed
    rw [List.forall_mem_cons] at undisturbed
    have tail := sound_tail sound
    by_cases own : m.caller.partition = names.2
    · have foreignTo : ∀ n ∈ rest, n.caller.partition ≠ names.2 := fun n nMem =>
        own ▸ (List.pairwise_cons.mp sound.distinct).1 n nMem
      have missed : ∀ cmd ∈ unmount_cmds names.1 names.2, Misses (pile foreign rest) cmd := fun cmd cMem =>
        pile_misses (fun n nMem => caller_misses names member n.caller (tail.callers n nMem) (foreignTo n nMem) _ _
          (undisturbed.2 n nMem (foreignTo n nMem)) cmd cMem) (below cmd cMem)
      have kept : others names.2 (m :: rest) = rest := by
        simpa [others, own] using foreignTo
      rw [kept, pile, run_all_below missed]
      exact within_below _ _
    · have missed : ∀ cmd ∈ unmount_cmds names.1 names.2, Misses m.stack cmd := fun cmd cMem =>
        caller_misses names member m.caller (sound.callers m List.mem_cons_self) own _ _ (undisturbed.1 own) cmd cMem
      have kept : others names.2 (m :: rest) = m :: others names.2 rest := by
        simp [others, own]
      rw [kept, pile, pile, run_all_above missed]
      exact within_atop (ih tail undisturbed.2) _

theorem run_shrinks {cmd : Cmd} (undoes : cmd.undoes = true) (ok : Bool) (t : Tables) :
    Within (cmd.run ok t).2 t := by
  rw [Cmd.run]
  split
  · cases cmd with
    | umount name => exact ⟨List.eraseP_sublist, .refl _, .refl _⟩
    | losetup_d device => exact ⟨.refl _, List.eraseP_sublist, .refl _⟩
    | luksClose name => exact ⟨.refl _, .refl _, List.erase_sublist⟩
    | _ => cases undoes
  · exact within_refl t

theorem within_trans {a b c : Tables} (first : Within a b) (second : Within b c) : Within a c :=
  ⟨first.mounts.trans second.mounts, first.loops.trans second.loops, first.mappings.trans second.mappings⟩

theorem run_all_shrinks {cmds : List Cmd} (undo : ∀ cmd ∈ cmds, cmd.undoes = true) (o : Outcomes) (t : Tables) :
    Within (run_all o cmds t) t := by
  induction cmds generalizing t with
  | nil => exact within_refl t
  | cons cmd rest ih =>
    rw [List.forall_mem_cons] at undo
    exact within_trans (ih undo.2 _) (run_shrinks undo.1 _ t)

theorem loop_apart : ∀ c ∈ callers, ∀ d ∈ callers, c.partition ≠ d.partition → ∀ loop crypt : Bool,
    Misses (d.stack loop crypt) (.umount (loop_device c.loopname)) := by
  decide

theorem base_off_loop : ∀ c ∈ callers, ∀ crypt : Bool,
    (if crypt then mapper c.partition else c.partition) ≠ loop_device c.loopname := by
  decide

/-- Where a partition stands on a loop device, an umount of that device finds it. -/
theorem loop_unmounted {foreign : Tables} {up : List Mount} (sound : Sound up) {m : Mount} (mUp : m ∈ up)
    (loop : has m.fstype TYPE_LOOP = true) (below : Misses foreign (.umount (loop_device m.caller.loopname))) :
    ∀ v ∈ umount (loop_device m.caller.loopname) (pile foreign up).mounts,
      v.source ≠ loop_device m.caller.loopname := by
  induction up with
  | nil => cases mUp
  | cons n rest ih =>
    have tail := sound_tail sound
    have apart := (List.pairwise_cons.mp sound.distinct).1
    have nMem := sound.callers n List.mem_cons_self
    rcases List.mem_cons.mp mUp with rfl | older
    · have missed : Misses (pile foreign rest) (.umount (loop_device m.caller.loopname)) :=
        pile_misses (fun n nMem => loop_apart m.caller ‹_› n.caller (tail.callers n nMem) (apart n nMem).symm _ _) below
      have named : (loop_volume m.caller.loopname m.caller.mtname).mentions (loop_device m.caller.loopname) = true := by
        simp [Volume.mentions, loop_volume]
      simp only [pile, atop, Mount.stack, Caller.stack, loop, ↓reduceIte, List.cons_append, List.nil_append,
        umount_newest _ named, List.forall_mem_cons]
      exact ⟨base_off_loop m.caller nMem _, fun v member => mentions_source (missed v member)⟩
    · have missed : Misses n.stack (.umount (loop_device m.caller.loopname)) :=
        loop_apart m.caller (tail.callers m older) n.caller nMem (apart m older) _ _
      rw [pile, atop, umount_append_right _ missed, List.forall_mem_append]
      exact ⟨fun v member => mentions_source (missed v member), ih tail older⟩

theorem pile_member {foreign : Tables} {up : List Mount} {m : Mount} (mUp : m ∈ up) {v : Volume String}
    (member : v ∈ m.stack.mounts) : v ∈ (pile foreign up).mounts := by
  induction up with
  | nil => cases mUp
  | cons n rest ih =>
    rcases List.mem_cons.mp mUp with rfl | older
    · exact List.mem_append_left _ member
    · exact List.mem_append_right _ (ih older)

/-- Where another partition stands on the loop device, it is taken down with it. -/
theorem disturbed_lost {foreign : Tables} (clear : Clear foreign) {names : String × String}
    (member : names ∈ unmount_table) {up : List Mount} (sound : Sound up) {m : Mount} (mUp : m ∈ up)
    (other : m.caller.partition ≠ names.2) (loop : has m.fstype TYPE_LOOP = true)
    (shared : loop_device m.caller.loopname = names.1) :
    ¬ Within (pile foreign (others names.2 up))
      (run_all all_work (unmount_cmds names.1 names.2) (pile foreign up)) := by
  intro within
  have volume : loop_volume m.caller.loopname m.caller.mtname ∈ m.stack.mounts := by
    simp [Mount.stack, Caller.stack, loop]
  have kept : m ∈ others names.2 up := List.mem_filter.mpr ⟨mUp, by simpa using other⟩
  have standing : loop_volume m.caller.loopname m.caller.mtname ∈ (pile foreign (others names.2 up)).mounts :=
    pile_member kept volume
  have survives := within.mounts.subset standing
  have first := clear_misses clear member (.umount names.1) (by simp [unmount_cmds])
  have gone := loop_unmounted sound mUp loop (shared ▸ first)
  have shrunk := run_all_shrinks (fun cmd cMem => unmount_cmds_undo names.1 names.2 cmd (List.mem_cons_of_mem _ cMem))
    all_work (all_work.call (.umount names.1) (pile foreign up)).2
  have left := shrunk.mounts.subset survives
  rw [← shared, umount_call all_work_undoes] at left
  exact gone _ left rfl

theorem atop_eq_below {above below : Tables} : atop above below = below ↔ above = no_tables := by
  obtain ⟨mounts, loops, mappings⟩ := above
  obtain ⟨_, _, _⟩ := below
  simp [atop, no_tables]

theorem run_all_works {o : Outcomes} (works : ∀ cmd, o.ok cmd = true) (cmds : List Cmd) (t : Tables) :
    run_all o cmds t = run_all all_work cmds t := by
  induction cmds generalizing t with
  | nil => rfl
  | cons cmd rest ih => rw [run_all, run_all, Outcomes.call, Outcomes.call, works, ih]; rfl

/-- `unmount_filesystem` on a mount point takes down nothing of the other partitions, and
    undoes the mount of its own partition, where that was not up. -/
def Undoes (foreign : Tables) (up : List Mount) (t : Tables) (mount_point blockname : String) (c : Caller)
    (fstype : CInt) : Prop :=
  (∀ o, Within (pile foreign (others blockname up)) (unmount_filesystem o mount_point t).2) ∧
  ((∀ m ∈ up, m.caller.partition ≠ blockname) → ∀ o secret handed t',
    check_and_mount o fstype c.partition c.loopname c.mtname secret t = (0, handed, t') →
      ∀ o', (∀ cmd, o'.ok cmd = true) → (unmount_filesystem o' mount_point t').2 = t)

/-- Where the partition is not up and no other stands on the loop device, its mount is
    undone exactly where it stands on that loop device, if on any. -/
theorem mount_undone_iff {foreign : Tables} (clear : Clear foreign) {names : String × String}
    (member : names ∈ unmount_table) {up : List Mount} (sound : Sound up) (undisturbed : Undisturbed names up)
    (absent : ∀ m ∈ up, m.caller.partition ≠ names.2) {m : Mount} (cMem : m.caller ∈ callers)
    (own : m.caller.partition = names.2) :
    run_all all_work (unmount_cmds names.1 names.2) (atop m.stack (pile foreign up)) = pile foreign up ↔
      (has m.fstype TYPE_LOOP = true → loop_device m.caller.loopname = names.1) := by
  have missed : ∀ cmd ∈ unmount_cmds names.1 names.2, Misses (pile foreign up) cmd := fun cmd inCmds =>
    pile_misses (fun n nUp => caller_misses names member n.caller (sound.callers n nUp) (absent n nUp) _ _
      (undisturbed n nUp (absent n nUp)) cmd inCmds) (clear_misses clear member cmd inCmds)
  rw [run_all_below missed, atop_eq_below]
  exact caller_removed names member m.caller cMem own _ _

/-- `unmount_filesystem` undoes `check_and_mount` and nothing else exactly where no other
    partition stands on the loop device it names and its own partition, mounted with a
    loop layer, stands on that one. -/
theorem unmount_filesystem_undoes_iff {foreign : Tables} (clear : Clear foreign) {up : List Mount} {t : Tables}
    (mounted : Mounted foreign up t) {mount_point : String} {names : String × String}
    (found : unmount_names mount_point = some names) {c : Caller} (cMem : c ∈ callers) (own : c.partition = names.2)
    {fstype : CInt} (known : KnownBase fstype = true) :
    Undoes foreign up t mount_point names.2 c fstype ↔
      Undisturbed names up ∧
      ((∀ m ∈ up, m.caller.partition ≠ names.2) → has fstype TYPE_LOOP = true → loop_device c.loopname = names.1) := by
  obtain ⟨rfl, sound⟩ := mounted_pile clear mounted
  have member := unmount_names_mem found
  rw [Undoes]
  simp only [unmount_filesystem_eq found]
  constructor
  · rintro ⟨spares, undone⟩
    have undisturbed : Undisturbed names up := fun m mUp other loop shared =>
      disturbed_lost clear member sound mUp other loop shared (spares all_work)
    refine ⟨undisturbed, fun absent loop => ?_⟩
    obtain ⟨closed, unbound⟩ := pile_unused clear sound cMem (own ▸ absent)
    obtain ⟨handed, ran⟩ := check_and_mount_works known closed unbound c.mtname
    have restored := undone absent all_work none handed _ ran all_work fun _ => rfl
    rw [stacked_atop ⟨c, fstype⟩] at restored
    exact (mount_undone_iff clear member sound undisturbed absent cMem own).mp restored loop
  · rintro ⟨undisturbed, matches_loop⟩
    refine ⟨others_within clear member sound undisturbed, ?_⟩
    intro absent o secret handed t' ran o' works
    have closed := (pile_unused clear sound cMem (own ▸ absent)).1
    rw [check_and_mount_stacked known closed ran, stacked_atop ⟨c, fstype⟩, run_all_works works]
    exact (mount_undone_iff clear member sound undisturbed absent cMem own).mpr (matches_loop absent)

theorem no_tables_clear : Clear no_tables := by
  intro c _
  simp [no_tables]

/-- The system partition on a loop file. -/
def system_on_loop : Mount := ⟨⟨SYSTEM_BLOCK_NAME, "loop4", "system"⟩, TYPE_RFS ||| TYPE_LOOP⟩

theorem system_on_loop_mounted : Mounted no_tables [system_on_loop] system_on_loop.stack := by
  have ran : check_and_mount all_work system_on_loop.fstype system_on_loop.caller.partition
      system_on_loop.caller.loopname system_on_loop.caller.mtname none no_tables =
        (0, none, system_on_loop.stack) := by
    decide
  exact .mount (c := system_on_loop.caller) .none (by decide) (by simp) (by decide) ran

/-- The cache on a loop file beside the system partition on another one. -/
theorem unmount_undoes_cache :
    Undoes no_tables [system_on_loop] system_on_loop.stack "/cache" CACHE_BLOCK_NAME ⟨CACHE_BLOCK_NAME, "loop1", "cache"⟩
      (TYPE_EXT4 ||| TYPE_LOOP) := by
  refine (unmount_filesystem_undoes_iff no_tables_clear system_on_loop_mounted
    (show unmount_names "/cache" = some ("/dev/block/loop1", CACHE_BLOCK_NAME) by decide)
    (show ⟨CACHE_BLOCK_NAME, "loop1", "cache"⟩ ∈ callers by decide) rfl
    (show KnownBase (TYPE_EXT4 ||| TYPE_LOOP) = true by decide)).mpr ⟨?_, fun _ _ => by decide⟩
  intro m member _ _
  rw [List.mem_singleton.mp member]
  decide

/-- Unmounting `/efs` takes down a system partition that stands on a loop file. -/
theorem efs_takes_system_down :
    Mounted no_tables [system_on_loop] system_on_loop.stack ∧
      system_on_loop.stack.mounts = [⟨"/dev/block/loop4", "/system"⟩, ⟨SYSTEM_BLOCK_NAME, "/res/.orig_system"⟩] ∧
      (unmount_filesystem all_work "/efs" system_on_loop.stack).2.mounts =
        [⟨SYSTEM_BLOCK_NAME, "/res/.orig_system"⟩] ∧
      ¬ Undoes no_tables [system_on_loop] system_on_loop.stack "/efs" EFS_BLOCK_NAME
        ⟨EFS_BLOCK_NAME, "loop5", "xxx"⟩ TYPE_RFS := by
  refine ⟨system_on_loop_mounted, by decide, by decide, fun undoes => ?_⟩
  have kept := (undoes.1 all_work).mounts.length_le
  revert kept
  decide

end SteamRecovery.Unmounting
