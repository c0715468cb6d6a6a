import SteamRecovery.Fifo
import SteamRecovery.FsReformat
import SteamRecovery.Stages

/-!
Undoing settings in the filesystem menu (`steamext.c`), and what the next boot makes of
them (`init.c`). The row sets the pending types of the menu to the current ones, and
writes nothing; the next round reads the pending types anew. So it undoes exactly where
there is nothing to undo (`undo_works_iff`).
-/
namespace SteamRecovery.UndoSettings
open SteamRecovery.Devices
open SteamRecovery.Config
open SteamRecovery.Fifo (run run_cons)
open SteamRecovery.FsReformat (State Row Capabilities PARTITION_NUMBERS config convertto load menu_rows update read_type
  oldconf_kept)
open SteamRecovery.Nandroid (Build)
open SteamRecovery.Conversion (asked)
open SteamRecovery.Stages (requested change unless_same)

variable (caps : Capabilities) (build : Build)

/-- A round of the menu, where a row that is shown is chosen. -/
def round (s : State Conf) (me : Row) : Option (State Conf) :=
  if me ∈ menu_rows config caps (load config s) then update config (load config s) me else none

/-- The row `Undo settings`. -/
def undo : Row := ⟨0, -4, .MENU_TYPE_ELEMENT, "Undo settings"⟩

/-- The type that a partition is converted to at the next boot, given those that are
    there: `/system` in stage 5, the others in stage 7. -/
def boot_type (conf : Conf) (types : Fin PARTITION_NUMBERS → CInt) (i : Fin PARTITION_NUMBERS) : CInt :=
  let c := change build conf (types 2) (types 0) (types 1)
  match i with
  | 0 => if asked c.olddata c.newdata then c.newdata else c.olddata
  | 1 => if asked c.olddbdata c.newdbdata then c.newdbdata else c.olddbdata
  | 2 => if asked c.oldcache c.newcache then c.newcache else c.oldcache
  | 3 =>
    let newfs := requested conf "fs.system.convertto"
    if has newfs TYPE_FSTYPE_MASK && types 3 ≠ newfs then newfs else types 3

/-- Behind `Undo settings` the next round shows every partition with its type, and the
    next boot leaves it. -/
def UndoWorks (s : State Conf) : Prop :=
  ∃ undone, round caps s undo = some undone ∧
    (∀ i, (load config undone).newconf i = (load config undone).oldconf i) ∧
    ∀ i, boot_type build undone.store (load config undone).oldconf i = (load config undone).oldconf i

/-- No type is stored that a partition is to be converted to, save its own. -/
def NothingPending (s : State Conf) : Prop :=
  ∀ i n, (get_conf s.store (convertto i)).bind sscanf_d = some n → n = (load config s).oldconf i

theorem undo_shown (s : State Conf) : undo ∈ menu_rows config caps s := by
  rw [menu_rows]
  exact List.mem_append_right _ (by simp [undo])

/-- The row writes nothing. -/
theorem round_undo (s : State Conf) :
    round caps s undo = some { load config s with newconf := (load config s).oldconf } :=
  if_pos (undo_shown caps (load config s))

theorem read_type_same (value : Option String) (conf : CInt) : read_type value conf conf = (value.bind sscanf_d).getD conf := by
  cases value with
  | none => rfl
  | some value =>
    rw [read_type, Option.bind_some]
    cases sscanf_d value with
    | some n => rfl
    | none =>
      dsimp only
      split <;> rfl

theorem undone_oldconf (s : State Conf) (i : Fin PARTITION_NUMBERS) :
    (load config { load config s with newconf := (load config s).oldconf }).oldconf i = (load config s).oldconf i :=
  oldconf_kept config (s := s) rfl _

/-- The next round reads the pending types anew. -/
theorem undone_newconf (s : State Conf) (i : Fin PARTITION_NUMBERS) :
    (load config { load config s with newconf := (load config s).oldconf }).newconf i =
      ((get_conf s.store (convertto i)).bind sscanf_d).getD ((load config s).oldconf i) := by
  rw [← read_type_same]
  exact congrArg (read_type (get_conf s.store (convertto i)) ((load config s).oldconf i)) (undone_oldconf s i)

theorem unless_same_none {newtype oldtype type : CInt} (same : newtype = 0 ∨ newtype = oldtype) :
    unless_same newtype type = 0 ∨ unless_same newtype type = oldtype := by
  rw [unless_same]
  split
  · exact .inl rfl
  · exact same

theorem not_asked {oldtype newtype : CInt} (same : newtype = 0 ∨ newtype = oldtype) :
    (if asked oldtype newtype then newtype else oldtype) = oldtype := by
  rcases same with rfl | rfl <;> simp [asked]

theorem convertto_keys : convertto 0 = Conversion.data.convertto ∧ convertto 1 = Conversion.dbdata.convertto ∧
    convertto 2 = Conversion.cache.convertto ∧ convertto 3 = "fs.system.convertto" := by decide

/-- Where no other type is asked for, the boot leaves the types. -/
theorem boot_type_same {conf : Conf} {types : Fin PARTITION_NUMBERS → CInt}
    (same : ∀ i, requested conf (convertto i) = 0 ∨ requested conf (convertto i) = types i) (i : Fin PARTITION_NUMBERS) :
    boot_type build conf types i = types i := by
  obtain ⟨data, dbdata, cache, system⟩ := convertto_keys
  match i with
  | 0 => exact not_asked (unless_same_none (data ▸ same 0))
  | 1 =>
    have new : (change build conf (types 2) (types 0) (types 1)).newdbdata = 0 ∨
        (change build conf (types 2) (types 0) (types 1)).newdbdata = types 1 := by
      rw [change]
      dsimp only
      split
      · exact unless_same_none (dbdata ▸ same 1)
      · exact .inl rfl
    exact not_asked new
  | 2 => exact not_asked (unless_same_none (cache ▸ same 2))
  | 3 =>
    rw [boot_type, ← system]
    rcases same 3 with none_asked | own
    · simp [none_asked, has]
    · simp [own]

/-- The row undoes exactly where there is nothing to undo. -/
theorem undo_works_iff (s : State Conf) : UndoWorks caps build s ↔ NothingPending s := by
  constructor
  · rintro ⟨undone, chosen, shown, _⟩ i n stored
    obtain rfl := Option.some.inj ((round_undo caps s).symm.trans chosen)
    have pending := shown i
    rwa [undone_newconf, stored, undone_oldconf, Option.getD_some] at pending
  · intro none_pending
    refine ⟨_, round_undo caps s, fun i => ?_, boot_type_same build fun i => ?_⟩
    · rw [undone_newconf, undone_oldconf]
      cases stored : (get_conf s.store (convertto i)).bind sscanf_d with
      | none => rfl
      | some n => exact none_pending i n stored
    · rw [undone_oldconf]
      change ((get_conf s.store (convertto i)).bind sscanf_d).getD 0 = 0 ∨ ((get_conf s.store (convertto i)).bind sscanf_d).getD 0 = _
      cases stored : (get_conf s.store (convertto i)).bind sscanf_d with
      | none => exact .inl rfl
      | some n => exact .inr (none_pending i n stored)

/-- All partitions have RFS. -/
def rfs_conf : Conf where
  entries := [("fs.data.type", "1"), ("fs.dbdata.type", "1"), ("fs.cache.type", "1"), ("fs.system.type", "1")]
  distinct := by decide
  system_file := none
  writable := true
  get_conf_ro := fun _ => none

def first_round : State Conf := ⟨rfs_conf, fun _ => 0, fun _ => 0⟩

def ext4_base : Row := ⟨1, -1, .MENU_TYPE_ELEMENT, "Ext4 base\n(recommended)\n(d,db,c:ext4;s:rfs)"⟩

end SteamRecovery.UndoSettings
