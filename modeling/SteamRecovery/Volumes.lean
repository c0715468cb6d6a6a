import SteamRecovery.Devices
import SteamRecovery.MountTables

/-!
Opening, mounting and stacking partitions (`roots.c`). A partition is mounted in
up to three layers: its dm-crypt mapping, its base filesystem, and a loop file on
that filesystem. Each external command either succeeds, where the kernel can
carry it out, or changes nothing. `check_and_mount` puts up the layers that a
code asks for (`check_and_mount_stacked`) and takes them down again where a later
layer fails, except on the slips of `Slips` (`check_and_mount_all_or_nothing_iff`).
-/
namespace SteamRecovery.Volumes
open SteamRecovery.Devices
open SteamRecovery.MountTables

/-- The mount table, the loop devices with their files, and the names that
    cryptsetup has open, each newest first. -/
structure Tables where
  mounts : List (Volume String)
  loops : List (String × String)
  mappings : List String
  deriving DecidableEq, Repr

/-- The external commands that change the tables. `mkdir`, `chmod`, `sync` and the
    `fsck` runs change none of them, and their results are not looked at. -/
inductive Cmd where
  | mount (filesystem options source target : String)
  | bind (source target : String)
  | umount (name : String)
  | losetup (device file : String)
  | losetup_d (device : String)
  | luksOpen (partition secret : String)
  | luksClose (name : String)
  deriving DecidableEq, Repr

/-- The kernel can carry the command out: it binds no device and opens no name
    twice, and releases neither while a volume is mounted from it. -/
def Cmd.possible (t : Tables) : Cmd → Bool
  | losetup device _ => !t.loops.any fun b => b.1 = device
  | losetup_d device => t.loops.any (fun b => b.1 = device) && !t.mounts.any fun v => v.source = device
  | luksOpen partition _ => secname partition ∉ t.mappings
  | luksClose name => name ∈ t.mappings && !t.mounts.any fun v => v.source = "/dev/mapper/" ++ name
  | _ => true

def Cmd.effect (t : Tables) : Cmd → Tables
  | mount _ _ source target => { t with mounts := ⟨source, target⟩ :: t.mounts }
  | bind source target => { t with mounts := ⟨source, target⟩ :: t.mounts }
  | umount name => { t with mounts := MountTables.umount name t.mounts }
  | losetup device file => { t with loops := (device, file) :: t.loops }
  | losetup_d device => { t with loops := t.loops.eraseP fun b => b.1 = device }
  | luksOpen partition _ => { t with mappings := secname partition :: t.mappings }
  | luksClose name => { t with mappings := t.mappings.erase name }

/-- Whether the command returned 0, and the tables behind it. -/
def Cmd.run (ok : Bool) (cmd : Cmd) (t : Tables) : Bool × Tables :=
  if ok && cmd.possible t then (true, cmd.effect t) else (false, t)

/-- The command undoes an earlier one. -/
def Cmd.undoes : Cmd → Bool
  | umount _ | losetup_d _ | luksClose _ => true
  | _ => false

/-- What the world answers during one call: which commands work, which partitions
    `isLuks` recognises, and what is typed at the password prompt before GO_BACK,
    each entry with whether cryptsetup takes it. -/
structure Outcomes where
  ok : Cmd → Bool
  isLuks : String → Bool
  entries : List (String × Bool)

/-- The commands that undo earlier steps do not fail. -/
def Outcomes.Undoes (o : Outcomes) : Prop := ∀ cmd, cmd.undoes = true → o.ok cmd = true

def Outcomes.call (o : Outcomes) (cmd : Cmd) (t : Tables) : Bool × Tables := cmd.run (o.ok cmd) t

/-! ### The layers -/

/-- The do-while loop of the password prompt: whether a password was taken, the
    secret handed back, and the tables. -/
def prompt (partition : String) (secret : Option String) (t : Tables) :
    List (String × Bool) → Bool × Option String × Tables
  | [] => (false, secret, t)
  | (typed, accepted) :: rest =>
    let (opened, t) := (Cmd.luksOpen partition typed).run accepted t
    if opened then (true, secret.map fun _ => typed, t) else prompt partition secret t rest

def open_encrypted_partition (o : Outcomes) (partition : String) (secret : Option String) (t : Tables) :
    Bool × Option String × Tables :=
  if o.isLuks partition then
    let (opened, t) :=
      if secret.getD "" ≠ "" then o.call (.luksOpen partition (secret.getD "")) t else (false, t)
    if opened then (true, secret, t)
    else if secname partition ∈ t.mappings then (true, secret, t)
    else prompt partition secret t o.entries
  else (false, secret, t)

def close_encrypted (o : Outcomes) (fstype : CInt) (partition : String) (t : Tables) : Tables :=
  if has fstype TYPE_CRYPT then (o.call (.luksClose (secname partition)) t).2 else t

def TYPE_RFS_DEFAULT_MOUNT : String := "nodev,nosuid,check=no"
def TYPE_EXT2_DEFAULT_MOUNT : String := "noatime,nodiratime"
def TYPE_EXT4_DEFAULT_MOUNT : String := "noatime,barrier=0,noauto_da_alloc"
def TYPE_JFS_DEFAULT_MOUNT : String := "relatime,errors=continue"

/-- A branch of the base mount: its command, the code it returns on failure, and
    whether it closes the mapping before that. -/
structure Branch where
  cmd : Cmd
  code : Int
  closes : Bool

def base_mount (fstype : CInt) (frompath topath : String) : Option Branch :=
  if has fstype TYPE_RFS then some ⟨.mount "rfs" TYPE_RFS_DEFAULT_MOUNT frompath topath, 2, true⟩
  else if has fstype TYPE_EXT2 then some ⟨.mount "ext2" TYPE_EXT2_DEFAULT_MOUNT frompath topath, 3, true⟩
  else if has fstype TYPE_EXT4 then some ⟨.mount "ext4" TYPE_EXT4_DEFAULT_MOUNT frompath topath, 4, true⟩
  else if has fstype TYPE_JFS then some ⟨.mount "jfs" TYPE_JFS_DEFAULT_MOUNT frompath topath, 5, true⟩
  else if has fstype TYPE_DIRECTORY then some ⟨.bind frompath topath, 32766, false⟩
  else none

/-- Where the base filesystem is mounted when a loop file on it is what is asked for. -/
def orig (mtname : String) : String :=
  "/res/.orig_" ++ String.ofList (mtname.toList.map fun c => if c = '/' then '_' else c)

def extfs (mtname : String) : String := orig mtname ++ "/.extfs"

def loop_device (loopname : String) : String := "/dev/block/" ++ loopname

def frompath (fstype : CInt) (partition : String) : String :=
  if has fstype TYPE_CRYPT then mapper partition else partition

def topath (fstype : CInt) (mtname : String) : String :=
  if has fstype TYPE_LOOP then orig mtname else "/" ++ mtname

def loop_mount (loopname mtname : String) : Cmd :=
  .mount "ext2" TYPE_EXT2_DEFAULT_MOUNT (loop_device loopname) ("/" ++ mtname)

/-- The loop layer, over a base that is mounted. -/
def mount_loop (o : Outcomes) (fstype : CInt) (partition loopname mtname : String) (t : Tables) : Int × Tables :=
  let (bound, t) := o.call (.losetup (loop_device loopname) (extfs mtname)) t
  if bound then
    let (mounted, t) := o.call (loop_mount loopname mtname) t
    if mounted then (0, t)
    else
      let (_, t) := o.call (.losetup_d (loop_device loopname)) t
      let (_, t) := o.call (.umount (orig mtname)) t
      (7, close_encrypted o fstype partition t)
  else
    -- `topath` is the loop device here, not the directory that the base is mounted at.
    let (_, t) := o.call (.umount (loop_device loopname)) t
    (6, close_encrypted o fstype partition t)

/-- The base layer and the loop layer over it. -/
def mount_layers (o : Outcomes) (fstype : CInt) (partition loopname mtname : String) (t : Tables) : Int × Tables :=
  let after (t : Tables) :=
    if has fstype TYPE_LOOP then mount_loop o fstype partition loopname mtname t else (0, t)
  match base_mount fstype (frompath fstype partition) (topath fstype mtname) with
  | some branch =>
    let (mounted, t) := o.call branch.cmd t
    if mounted then after t
    else (branch.code, if branch.closes then close_encrypted o fstype partition t else t)
  | none => after t

/-- The code returned, the secret handed back, and the tables. -/
def check_and_mount (o : Outcomes) (fstype : CInt) (partition loopname mtname : String) (secret : Option String)
    (t : Tables) : Int × Option String × Tables :=
  if has fstype TYPE_FSTYPE_MASK then
    let (opened, secret, t) :=
      if has fstype TYPE_CRYPT then open_encrypted_partition o partition secret t else (true, secret, t)
    if opened then
      let (code, t) := mount_layers o fstype partition loopname mtname t
      (code, secret, t)
    else (1, secret, t)
  else (-1, secret, t)

/-! ### What each layer does to the tables -/

def Tables.mounted (v : Volume String) (t : Tables) : Tables := { t with mounts := v :: t.mounts }
def Tables.unmounted (x : String) (t : Tables) : Tables := { t with mounts := umount x t.mounts }
def Tables.bound (device file : String) (t : Tables) : Tables := { t with loops := (device, file) :: t.loops }
def Tables.opened (partition : String) (t : Tables) : Tables := { t with mappings := secname partition :: t.mappings }

section
variable (v : Volume String) (x device file partition : String) (t : Tables)

@[simp] theorem mounted_mounts : (t.mounted v).mounts = v :: t.mounts := rfl
@[simp] theorem mounted_loops : (t.mounted v).loops = t.loops := rfl
@[simp] theorem mounted_mappings : (t.mounted v).mappings = t.mappings := rfl
@[simp] theorem unmounted_mounts : (t.unmounted x).mounts = umount x t.mounts := rfl
@[simp] theorem unmounted_loops : (t.unmounted x).loops = t.loops := rfl
@[simp] theorem unmounted_mappings : (t.unmounted x).mappings = t.mappings := rfl
@[simp] theorem bound_mounts : (t.bound device file).mounts = t.mounts := rfl
@[simp] theorem bound_loops : (t.bound device file).loops = (device, file) :: t.loops := rfl
@[simp] theorem bound_mappings : (t.bound device file).mappings = t.mappings := rfl
@[simp] theorem opened_mounts : (t.opened partition).mounts = t.mounts := rfl
@[simp] theorem opened_loops : (t.opened partition).loops = t.loops := rfl
@[simp] theorem opened_mappings : (t.opened partition).mappings = secname partition :: t.mappings := rfl

end

/-- The tables once the mapping that the code asks for is open. -/
def unlocked (fstype : CInt) (partition : String) (t : Tables) : Tables :=
  if has fstype TYPE_CRYPT then t.opened partition else t

@[simp] theorem unlocked_mounts (fstype : CInt) (partition : String) (t : Tables) :
    (unlocked fstype partition t).mounts = t.mounts := by
  rw [unlocked]
  split <;> rfl

@[simp] theorem unlocked_loops (fstype : CInt) (partition : String) (t : Tables) :
    (unlocked fstype partition t).loops = t.loops := by
  rw [unlocked]
  split <;> rfl

/-- Cryptsetup takes the secret, or one of the passwords typed. -/
def opens (o : Outcomes) (partition : String) (secret : Option String) : Bool :=
  o.isLuks partition &&
    (secret.getD "" ≠ "" && o.ok (.luksOpen partition (secret.getD "")) || o.entries.any Prod.snd)

/-- The base layer can be reached: the code asks for no mapping, or it opens. -/
def unlocks (o : Outcomes) (fstype : CInt) (partition : String) (secret : Option String) : Bool :=
  !has fstype TYPE_CRYPT || opens o partition secret

theorem luksOpen_closed {partition : String} {t : Tables} (closed : secname partition ∉ t.mappings) (ok : Bool)
    (secret : String) :
    (Cmd.luksOpen partition secret).run ok t = (ok, if ok then t.opened partition else t) := by
  cases ok <;> simp [Cmd.run, Cmd.possible, Cmd.effect, Tables.opened, closed]

theorem prompt_closed {partition : String} {t : Tables} (closed : secname partition ∉ t.mappings)
    (secret : Option String) (entries : List (String × Bool)) :
    ∃ handed, prompt partition secret t entries =
      (entries.any Prod.snd, handed, bif entries.any Prod.snd then t.opened partition else t) := by
  induction entries with
  | nil => exact ⟨secret, rfl⟩
  | cons e rest ih =>
    obtain ⟨typed, accepted⟩ := e
    rw [prompt, luksOpen_closed closed]
    cases accepted with
    | true => exact ⟨secret.map fun _ => typed, by simp⟩
    | false => simpa using ih

/-- A closed mapping ends up open exactly where a password is taken. -/
theorem open_closed {partition : String} {t : Tables} (closed : secname partition ∉ t.mappings) (o : Outcomes)
    (secret : Option String) :
    ∃ handed, open_encrypted_partition o partition secret t =
      (opens o partition secret, handed, bif opens o partition secret then t.opened partition else t) := by
  rw [open_encrypted_partition, opens]
  by_cases luks : o.isLuks partition = true
  · by_cases given : secret.getD "" ≠ ""
    · cases first : o.ok (.luksOpen partition (secret.getD "")) with
      | true => exact ⟨secret, by simp [luks, given, first, Outcomes.call, luksOpen_closed closed]⟩
      | false =>
        simpa [luks, given, first, Outcomes.call, luksOpen_closed closed, closed] using
          prompt_closed closed secret o.entries
    · simpa [luks, given, closed] using prompt_closed closed secret o.entries
  · exact ⟨secret, by simp [luks]⟩

/-- A secret that cryptsetup takes leads to an open mapping, whether that was open or not. -/
theorem open_given {o : Outcomes} (works : ∀ cmd, o.ok cmd = true) (luks : ∀ partition, o.isLuks partition = true)
    {secret : String} (given : secret ≠ "") (partition : String) (t : Tables) :
    (open_encrypted_partition o partition (some secret) t).1 = true := by
  rw [open_encrypted_partition]
  by_cases closed : secname partition ∉ t.mappings
  · simp [luks, given, Outcomes.call, luksOpen_closed closed, works]
  · have open_already : secname partition ∈ t.mappings := not_not.mp closed
    have refused : (Cmd.luksOpen partition secret).run (o.ok (.luksOpen partition secret)) t = (false, t) := by
      simp [Cmd.run, Cmd.possible, open_already]
    simp [luks, given, Outcomes.call, refused, open_already]

/-- `check_and_mount` with a closed mapping: it gives up where that does not open, and
    mounts the layers over it otherwise. -/
theorem check_and_mount_eq {fstype : CInt} {partition : String} {t : Tables} (o : Outcomes)
    (base : has fstype TYPE_FSTYPE_MASK = true) (closed : secname partition ∉ t.mappings)
    (loopname mtname : String) (secret : Option String) :
    ∃ handed, check_and_mount o fstype partition loopname mtname secret t =
      if unlocks o fstype partition secret then
        ((mount_layers o fstype partition loopname mtname (unlocked fstype partition t)).1, handed,
          (mount_layers o fstype partition loopname mtname (unlocked fstype partition t)).2)
      else (1, handed, t) := by
  rw [check_and_mount, unlocks, unlocked]
  rw [if_pos base]
  cases crypt : has fstype TYPE_CRYPT with
  | true =>
    obtain ⟨handed, opened⟩ := open_closed closed o secret
    refine ⟨handed, ?_⟩
    cases taken : opens o partition secret <;> simp [opened, taken]
  | false => exact ⟨secret, by simp⟩

def base_volume (fstype : CInt) (partition mtname : String) : Volume String :=
  ⟨frompath fstype partition, topath fstype mtname⟩

def loop_volume (loopname mtname : String) : Volume String := ⟨loop_device loopname, "/" ++ mtname⟩

/-- The command of the base mount works. -/
def base_works (o : Outcomes) (fstype : CInt) (partition mtname : String) : Bool :=
  match base_mount fstype (frompath fstype partition) (topath fstype mtname) with
  | some branch => o.ok branch.cmd
  | none => false

/-- The bind mount is the branch taken. -/
def directory_only (fstype : CInt) : Bool :=
  has fstype TYPE_DIRECTORY && !has fstype TYPE_RFS && !has fstype TYPE_EXT2 && !has fstype TYPE_EXT4 &&
    !has fstype TYPE_JFS

theorem base_mount_none {fstype : CInt} {source target : String} (unknown : KnownBase fstype = false) :
    base_mount fstype source target = none := by
  simp only [KnownBase, Bool.or_eq_false_iff] at unknown
  simp [base_mount, unknown]

theorem base_mount_known {fstype : CInt} (known : KnownBase fstype = true) (source target : String) :
    ∃ branch, base_mount fstype source target = some branch ∧ branch.code ≠ 0 ∧
      (∀ ok t, branch.cmd.run ok t = (ok, bif ok then t.mounted ⟨source, target⟩ else t)) ∧
      branch.closes = !directory_only fstype := by
  have mounts : ∀ filesystem options ok t, (Cmd.mount filesystem options source target).run ok t =
      (ok, bif ok then t.mounted ⟨source, target⟩ else t) := by
    intro filesystem options ok t
    cases ok <;> rfl
  rw [base_mount, directory_only]
  cases rfs : has fstype TYPE_RFS with
  | true => exact ⟨_, rfl, by simp, mounts _ _, by simp⟩
  | false =>
  cases ext2 : has fstype TYPE_EXT2 with
  | true => exact ⟨_, rfl, by simp, mounts _ _, by simp⟩
  | false =>
  cases ext4 : has fstype TYPE_EXT4 with
  | true => exact ⟨_, rfl, by simp, mounts _ _, by simp⟩
  | false =>
  cases jfs : has fstype TYPE_JFS with
  | true => exact ⟨_, rfl, by simp, mounts _ _, by simp⟩
  | false =>
  have directory : has fstype TYPE_DIRECTORY = true := by simpa [KnownBase, rfs, ext2, ext4, jfs] using known
  rw [directory]
  exact ⟨_, rfl, by simp, fun ok t => by cases ok <;> rfl, rfl⟩

/-- The layers of a code with no known base type are those above the base. -/
theorem mount_layers_unknown {fstype : CInt} (unknown : KnownBase fstype = false) (o : Outcomes)
    (partition loopname mtname : String) (t : Tables) :
    mount_layers o fstype partition loopname mtname t =
      if has fstype TYPE_LOOP then mount_loop o fstype partition loopname mtname t else (0, t) := by
  rw [mount_layers, base_mount_none unknown]

theorem mount_layers_known {fstype : CInt} (known : KnownBase fstype = true) (o : Outcomes)
    (partition loopname mtname : String) (t : Tables) :
    ∃ code, code ≠ 0 ∧ mount_layers o fstype partition loopname mtname t =
      bif base_works o fstype partition mtname then
        if has fstype TYPE_LOOP then
          mount_loop o fstype partition loopname mtname (t.mounted (base_volume fstype partition mtname))
        else (0, t.mounted (base_volume fstype partition mtname))
      else (code, bif directory_only fstype then t else close_encrypted o fstype partition t) := by
  obtain ⟨branch, chosen, fails, runs, closes⟩ :=
    base_mount_known known (frompath fstype partition) (topath fstype mtname)
  refine ⟨branch.code, fails, ?_⟩
  rw [mount_layers, base_works]
  rw [chosen]
  simp only [Outcomes.call, runs, closes]
  cases o.ok branch.cmd with
  | true => rfl
  | false => cases directory_only fstype <;> rfl

theorem umount_call {o : Outcomes} (undo : o.Undoes) (x : String) (t : Tables) :
    o.call (.umount x) t = (true, t.unmounted x) := by
  simp [Outcomes.call, Cmd.run, Cmd.possible, Cmd.effect, Tables.unmounted, undo (.umount x) rfl]

/-- The loop layer with a free loop device. -/
theorem mount_loop_eq {o : Outcomes} (undo : o.Undoes) {loopname : String} {t : Tables}
    (unbound : ∀ b ∈ t.loops, b.1 ≠ loop_device loopname) (unused : ∀ v ∈ t.mounts, v.source ≠ loop_device loopname)
    (fstype : CInt) (partition mtname : String) :
    mount_loop o fstype partition loopname mtname t =
      bif o.ok (.losetup (loop_device loopname) (extfs mtname)) then
        bif o.ok (loop_mount loopname mtname) then
          (0, (t.bound (loop_device loopname) (extfs mtname)).mounted (loop_volume loopname mtname))
        else (7, close_encrypted o fstype partition (t.unmounted (orig mtname)))
      else (6, close_encrypted o fstype partition (t.unmounted (loop_device loopname))) := by
  have free : (t.loops.any fun b => b.1 = loop_device loopname) = false := by simpa using unbound
  have idle : (t.mounts.any fun v => v.source = loop_device loopname) = false := by simpa using unused
  rw [mount_loop]
  simp only [umount_call undo]
  cases bound : o.ok (.losetup (loop_device loopname) (extfs mtname)) with
  | false => simp [Outcomes.call, Cmd.run, bound]
  | true =>
    cases works : o.ok (loop_mount loopname mtname) with
    | true =>
      simp only [loop_mount] at works
      simp [Outcomes.call, Cmd.run, bound, Cmd.possible, Cmd.effect, free, works, loop_mount, loop_volume,
        Tables.mounted, Tables.bound]
    | false =>
      simp only [loop_mount] at works
      simp [Outcomes.call, Cmd.run, bound, Cmd.possible, Cmd.effect, free, idle, works, loop_mount,
        undo (.losetup_d (loop_device loopname)) rfl]

theorem run_true {ok : Bool} {cmd : Cmd} {t : Tables} (ran : (cmd.run ok t).1 = true) :
    (cmd.run ok t).2 = cmd.effect t := by
  unfold Cmd.run at *
  split at ran
  · rename_i works
    rw [if_pos works]
  · cases ran

theorem mount_loop_success {o : Outcomes} {fstype : CInt} {partition loopname mtname : String} {t : Tables}
    (ran : (mount_loop o fstype partition loopname mtname t).1 = 0) :
    (mount_loop o fstype partition loopname mtname t).2 =
      (t.bound (loop_device loopname) (extfs mtname)).mounted (loop_volume loopname mtname) := by
  unfold mount_loop at *
  cases bound : (o.call (.losetup (loop_device loopname) (extfs mtname)) t).1 with
  | false => simp [bound] at ran
  | true =>
    have after := run_true bound
    simp only [bound, ↓reduceIte] at ran ⊢
    cases mounted : (o.call (loop_mount loopname mtname)
        (o.call (.losetup (loop_device loopname) (extfs mtname)) t).2).1 with
    | false => simp [mounted] at ran
    | true =>
      have stacked := run_true mounted
      simp only [↓reduceIte]
      rw [Outcomes.call, stacked, Outcomes.call, after]
      rfl

theorem run_mounts_open (ok : Bool) (partition secret : String) (t : Tables) :
    ((Cmd.luksOpen partition secret).run ok t).2.mounts = t.mounts := by
  rw [Cmd.run]
  split <;> rfl

theorem prompt_mounts (partition : String) (secret : Option String) (t : Tables) (entries : List (String × Bool)) :
    (prompt partition secret t entries).2.2.mounts = t.mounts := by
  induction entries generalizing t with
  | nil => rfl
  | cons e rest ih =>
    rw [prompt]
    dsimp only
    split
    · exact run_mounts_open _ _ _ t
    · rw [ih, run_mounts_open]

/-- Opening a partition mounts and unmounts nothing. -/
theorem open_mounts (o : Outcomes) (partition : String) (secret : Option String) (t : Tables) :
    (open_encrypted_partition o partition secret t).2.2.mounts = t.mounts := by
  rw [open_encrypted_partition]
  dsimp only
  split_ifs <;> first | rfl | exact run_mounts_open _ _ _ t | exact prompt_mounts _ _ _ _ | skip
  all_goals exact (prompt_mounts _ _ _ _).trans (run_mounts_open _ _ _ t)

/-- Without a secret at hand, a partition opens where it is open already or a password
    typed is taken. -/
theorem open_without_secret (o : Outcomes) (partition : String) (t : Tables) :
    (open_encrypted_partition o partition none t).1 =
      (o.isLuks partition && (secname partition ∈ t.mappings || o.entries.any Prod.snd)) := by
  rw [open_encrypted_partition]
  by_cases luks : o.isLuks partition = true
  · by_cases opened : secname partition ∈ t.mappings
    · simp [luks, opened]
    · obtain ⟨handed, prompted⟩ := prompt_closed opened none o.entries
      simp [luks, opened, prompted]
  · simp [luks]

/-- A call that returns 0 has mounted something at the mount name, where some branch
    knows the base type or a loop file is asked for. -/
theorem check_and_mount_mounted {o : Outcomes} {fstype : CInt} {partition loopname mtname : String}
    {secret : Option String} {t : Tables} (branch : KnownBase fstype = true ∨ has fstype TYPE_LOOP = true)
    (ran : (check_and_mount o fstype partition loopname mtname secret t).1 = 0) :
    mounted_at ("/" ++ mtname) (check_and_mount o fstype partition loopname mtname secret t).2.2.mounts = true := by
  have looped : ∀ s, (mount_loop o fstype partition loopname mtname s).1 = 0 →
      mounted_at ("/" ++ mtname) (mount_loop o fstype partition loopname mtname s).2.mounts = true := by
    intro s ran
    rw [mount_loop_success ran]
    simp [mounted_at, loop_volume]
  have layers : ∀ s, (mount_layers o fstype partition loopname mtname s).1 = 0 →
      mounted_at ("/" ++ mtname) (mount_layers o fstype partition loopname mtname s).2.mounts = true := by
    intro s ran
    cases known : KnownBase fstype with
    | false =>
      have loop : has fstype TYPE_LOOP = true := by simpa [known] using branch
      rw [mount_layers_unknown known, if_pos loop] at ran ⊢
      exact looped s ran
    | true =>
      obtain ⟨code, fails, layers⟩ := mount_layers_known known o partition loopname mtname s
      rw [layers] at ran ⊢
      cases works : base_works o fstype partition mtname with
      | false => simp [works, fails] at ran
      | true =>
        cases loop : has fstype TYPE_LOOP with
        | false => simp [mounted_at, base_volume, topath, loop]
        | true =>
          simp only [works, loop, cond_true, ↓reduceIte] at ran ⊢
          exact looped _ ran
  unfold check_and_mount at ran ⊢
  cases base : has fstype TYPE_FSTYPE_MASK with
  | false => simp [base] at ran
  | true =>
    simp only [base, ↓reduceIte] at ran ⊢
    generalize (if has fstype TYPE_CRYPT = true then open_encrypted_partition o partition secret t
      else (true, secret, t)) = opening at ran ⊢
    obtain ⟨opened, handed, s⟩ := opening
    cases opened with
    | false => simp at ran
    | true => exact layers s ran

/-- A code with no known base type and no loop file returns 0 where the partition opens,
    and mounts nothing. -/
theorem check_and_mount_phantom {fstype : CInt} (unknown : KnownBase fstype = false)
    (base : has fstype TYPE_FSTYPE_MASK = true) (direct : has fstype TYPE_LOOP = false) (o : Outcomes)
    (partition loopname mtname : String) (secret : Option String) (t : Tables) :
    ((check_and_mount o fstype partition loopname mtname secret t).1 = 0 ↔
      (has fstype TYPE_CRYPT = true → (open_encrypted_partition o partition secret t).1 = true)) ∧
    (check_and_mount o fstype partition loopname mtname secret t).2.2.mounts = t.mounts := by
  rw [check_and_mount]
  simp only [base, ↓reduceIte, mount_layers_unknown unknown, direct, Bool.false_eq_true]
  cases has fstype TYPE_CRYPT with
  | false => simp
  | true =>
    have mounts := open_mounts o partition secret t
    cases opened : (open_encrypted_partition o partition secret t).1 <;> simp [opened, mounts]

/-- What a successful `check_and_mount` puts up for a known base type. -/
def stacked (fstype : CInt) (partition loopname mtname : String) (t : Tables) : Tables :=
  let base := (unlocked fstype partition t).mounted (base_volume fstype partition mtname)
  if has fstype TYPE_LOOP then
    (base.bound (loop_device loopname) (extfs mtname)).mounted (loop_volume loopname mtname)
  else base

theorem mount_layers_success {o : Outcomes} {fstype : CInt} {partition loopname mtname : String} {t : Tables}
    (known : KnownBase fstype = true)
    (ran : (mount_layers o fstype partition loopname mtname (unlocked fstype partition t)).1 = 0) :
    (mount_layers o fstype partition loopname mtname (unlocked fstype partition t)).2 =
      stacked fstype partition loopname mtname t := by
  obtain ⟨code, fails, layers⟩ :=
    mount_layers_known known o partition loopname mtname (unlocked fstype partition t)
  rw [layers] at ran ⊢
  cases works : base_works o fstype partition mtname with
  | false => simp [works, fails] at ran
  | true =>
    rw [stacked]
    cases loop : has fstype TYPE_LOOP with
    | false => rfl
    | true =>
      simp only [works, loop, cond_true, ↓reduceIte] at ran ⊢
      exact mount_loop_success ran

theorem check_and_mount_stacked {o : Outcomes} {fstype : CInt} {partition loopname mtname : String}
    {secret handed : Option String} {t t' : Tables} (known : KnownBase fstype = true)
    (closed : secname partition ∉ t.mappings)
    (ran : check_and_mount o fstype partition loopname mtname secret t = (0, handed, t')) :
    t' = stacked fstype partition loopname mtname t := by
  obtain ⟨_, run⟩ := check_and_mount_eq o (has_base known) closed loopname mtname secret
  rw [run] at ran
  cases reached : unlocks o fstype partition secret with
  | false => simp [reached] at ran
  | true =>
    simp only [reached, ↓reduceIte, Prod.mk.injEq] at ran
    exact ran.2.2 ▸ mount_layers_success known ran.1

theorem orig_ne_loop (mtname loopname : String) : orig mtname ≠ loop_device loopname := by
  intro same
  have chars := congrArg String.toList same
  simp [orig, loop_device] at chars

theorem mapper_ne_loop (partition loopname : String) : mapper partition ≠ loop_device loopname := by
  intro same
  have chars := congrArg String.toList same
  simp [mapper, loop_device] at chars

theorem close_mounts (o : Outcomes) (fstype : CInt) (partition : String) (t : Tables) :
    (close_encrypted o fstype partition t).mounts = t.mounts := by
  rw [close_encrypted]
  split
  · simp only [Outcomes.call, Cmd.run]
    split <;> rfl
  · rfl

/-- Closing the mapping that was opened leaves what was there before. -/
theorem close_unlocked {o : Outcomes} (undo : o.Undoes) {t : Tables} {partition : String}
    (unused : ∀ v ∈ t.mounts, v.source ≠ mapper partition) (fstype : CInt) :
    close_encrypted o fstype partition (unlocked fstype partition t) = t := by
  rw [close_encrypted, unlocked]
  cases crypt : has fstype TYPE_CRYPT with
  | false => rfl
  | true =>
    have idle : (t.mounts.any fun v => v.source = "/dev/mapper/" ++ secname partition) = false := by
      simpa [mapper] using unused
    simp [Outcomes.call, Cmd.run, Cmd.possible, Cmd.effect, Tables.opened, idle,
      undo (.luksClose (secname partition)) rfl]

/-! ### All or nothing -/

/-- The partition, its loop device and its mapping are not in use. -/
structure Unused (t : Tables) (partition loopname : String) : Prop where
  idle : ∀ v ∈ t.mounts, v.mentions partition = false
  crypt_idle : ∀ v ∈ t.mounts, v.mentions (mapper partition) = false
  closed : secname partition ∉ t.mappings
  loop_idle : ∀ v ∈ t.mounts, v.mentions (loop_device loopname) = false
  unbound : ∀ b ∈ t.loops, b.1 ≠ loop_device loopname
  apart : partition ≠ loop_device loopname

/-- A filesystem is mounted at the mount name, through the loop device and the mapper
    device where the code asks for them. -/
def Served (fstype : CInt) (partition loopname mtname : String) (t : Tables) : Prop :=
  if has fstype TYPE_LOOP then
    loop_volume loopname mtname ∈ t.mounts ∧ (loop_device loopname, extfs mtname) ∈ t.loops ∧
      (has fstype TYPE_CRYPT → (⟨mapper partition, orig mtname⟩ : Volume String) ∈ t.mounts)
  else ∃ v ∈ t.mounts, v.target = "/" ++ mtname ∧ (has fstype TYPE_CRYPT → v.source = mapper partition)

/-- A call that returns 0 has mounted what was asked for, and one that returns
    anything else has changed nothing. -/
def AllOrNothing (o : Outcomes) (fstype : CInt) (partition loopname mtname : String) (secret : Option String)
    (t : Tables) : Prop :=
  let (code, _, after) := check_and_mount o fstype partition loopname mtname secret t
  (code = 0 → Served fstype partition loopname mtname after) ∧ (code ≠ 0 → after = t)

/-- The ways in which `check_and_mount` is neither all nor nothing. -/
inductive Slips (o : Outcomes) (fstype : CInt) (partition loopname mtname : String) (secret : Option String)
    (t : Tables) : Prop
  /-- The bind mount fails, and the mapping stays open. -/
  | left_open (directory : directory_only fstype = true) (crypt : has fstype TYPE_CRYPT = true)
      (opened : opens o partition secret = true) (fails : base_works o fstype partition mtname = false)
  /-- `losetup` fails, and the base stays mounted. -/
  | left_mounted (known : KnownBase fstype = true) (loop : has fstype TYPE_LOOP = true)
      (unlocked : unlocks o fstype partition secret = true) (works : base_works o fstype partition mtname = true)
      (fails : o.ok (.losetup (loop_device loopname) (extfs mtname)) = false)
  /-- No branch knows the base type, and 0 is returned with nothing mounted. -/
  | not_mounted (unknown : KnownBase fstype = false) (base : has fstype TYPE_FSTYPE_MASK = true)
      (direct : has fstype TYPE_LOOP = false) (unlocked : unlocks o fstype partition secret = true)
      (absent : has fstype TYPE_CRYPT = true ∨ mounted_at ("/" ++ mtname) t.mounts = false)
  /-- No branch knows the base type, and the loop file is not on the mapper device. -/
  | not_encrypted (unknown : KnownBase fstype = false) (base : has fstype TYPE_FSTYPE_MASK = true)
      (loop : has fstype TYPE_LOOP = true) (crypt : has fstype TYPE_CRYPT = true)
      (opened : opens o partition secret = true)
      (bound : o.ok (.losetup (loop_device loopname) (extfs mtname)) = true)
      (works : o.ok (loop_mount loopname mtname) = true)
  /-- No branch knows the base type, and giving up unmounts somebody else's volume. -/
  | other_unmounted (unknown : KnownBase fstype = false) (base : has fstype TYPE_FSTYPE_MASK = true)
      (loop : has fstype TYPE_LOOP = true) (unlocked : unlocks o fstype partition secret = true)
      (bound : o.ok (.losetup (loop_device loopname) (extfs mtname)) = true)
      (fails : o.ok (loop_mount loopname mtname) = false)
      (other : ∃ v ∈ t.mounts, v.mentions (orig mtname) = true)

theorem mentions_source {v : Volume String} {x : String} (unrelated : v.mentions x = false) : v.source ≠ x :=
  fun same => by simp [Volume.mentions, same] at unrelated

theorem frompath_ne_loop {partition loopname : String} (apart : partition ≠ loop_device loopname) (fstype : CInt) :
    frompath fstype partition ≠ loop_device loopname := by
  rw [frompath]
  split
  · exact mapper_ne_loop partition loopname
  · exact apart

theorem base_not_loop {partition loopname : String} (apart : partition ≠ loop_device loopname) {fstype : CInt}
    (loop : has fstype TYPE_LOOP = true) (mtname : String) :
    (base_volume fstype partition mtname).mentions (loop_device loopname) = false := by
  simp [Volume.mentions, base_volume, frompath_ne_loop apart, topath, loop, orig_ne_loop]

section
variable {o : Outcomes} {fstype : CInt} {partition loopname mtname : String} {secret : Option String} {t : Tables}

theorem served_base (direct : has fstype TYPE_LOOP = false) (t : Tables) :
    Served fstype partition loopname mtname (t.mounted (base_volume fstype partition mtname)) := by
  rw [Served, if_neg (by simp [direct])]
  exact ⟨base_volume fstype partition mtname, List.mem_cons_self, by simp [base_volume, topath, direct],
    fun crypt => by simp [base_volume, frompath, crypt]⟩

theorem served_loop (loop : has fstype TYPE_LOOP = true) (t : Tables) :
    Served fstype partition loopname mtname
      (((t.mounted (base_volume fstype partition mtname)).bound (loop_device loopname) (extfs mtname)).mounted
        (loop_volume loopname mtname)) := by
  rw [Served, if_pos loop]
  exact ⟨List.mem_cons_self, List.mem_cons_self, fun crypt => by simp [base_volume, frompath, topath, crypt, loop]⟩

theorem unmounted_base (loop : has fstype TYPE_LOOP = true) (t : Tables) :
    (t.mounted (base_volume fstype partition mtname)).unmounted (orig mtname) = t := by
  have named : (base_volume fstype partition mtname).mentions (orig mtname) = true := by
    simp [Volume.mentions, base_volume, topath, loop]
  rw [Tables.unmounted, mounted_mounts, umount_newest _ named]
  rfl

theorem unused_mapper (unused : Unused t partition loopname) : ∀ v ∈ t.mounts, v.source ≠ mapper partition :=
  fun v member => mentions_source (unused.crypt_idle v member)

/-- What the layers over an open mapping return and leave. -/
def LayersHold (o : Outcomes) (fstype : CInt) (partition loopname mtname : String) (t : Tables) : Prop :=
  let (code, after) := mount_layers o fstype partition loopname mtname (unlocked fstype partition t)
  (code = 0 → Served fstype partition loopname mtname after) ∧ (code ≠ 0 → after = t)

theorem all_or_nothing_layers (base : has fstype TYPE_FSTYPE_MASK = true) (unused : Unused t partition loopname) :
    AllOrNothing o fstype partition loopname mtname secret t ↔
      (unlocks o fstype partition secret = true → LayersHold o fstype partition loopname mtname t) := by
  obtain ⟨handed, run⟩ := check_and_mount_eq o base unused.closed loopname mtname secret
  rw [AllOrNothing, LayersHold]
  rw [run]
  cases unlocks o fstype partition secret <;> simp

/-- With a known base type, the layers fail to hold where the bind mount fails behind
    an open mapping and where `losetup` fails over a mounted base. -/
theorem layers_known (undo : o.Undoes) (unused : Unused t partition loopname) (known : KnownBase fstype = true) :
    LayersHold o fstype partition loopname mtname t ↔
      ¬ (directory_only fstype = true ∧ has fstype TYPE_CRYPT = true ∧ base_works o fstype partition mtname = false) ∧
      ¬ (has fstype TYPE_LOOP = true ∧ base_works o fstype partition mtname = true ∧
        o.ok (.losetup (loop_device loopname) (extfs mtname)) = false) := by
  obtain ⟨code, fails, layers⟩ :=
    mount_layers_known known o partition loopname mtname (unlocked fstype partition t)
  have restored := close_unlocked undo (unused_mapper unused) fstype
  rw [LayersHold]
  rw [layers]
  cases works : base_works o fstype partition mtname with
  | false =>
    cases directory : directory_only fstype with
    | false => simp [fails, restored]
    | true =>
      cases crypt : has fstype TYPE_CRYPT with
      | false => simp [fails, unlocked, crypt]
      | true =>
        have changed : t.opened partition ≠ t := fun same =>
          absurd (congrArg (fun s => s.mappings.length) same) (by simp)
        simp [fails, unlocked, crypt, changed]
  | true =>
    cases loop : has fstype TYPE_LOOP with
    | false => simp [served_base loop]
    | true =>
      have apart := base_not_loop unused.apart loop mtname
      have idle : ∀ v ∈ ((unlocked fstype partition t).mounted (base_volume fstype partition mtname)).mounts,
          v.source ≠ loop_device loopname := by
        simp only [mounted_mounts, unlocked_mounts, List.forall_mem_cons]
        exact ⟨mentions_source apart, fun v member => mentions_source (unused.loop_idle v member)⟩
      simp only [cond_true, ↓reduceIte, mount_loop_eq undo (by simpa using unused.unbound) idle]
      cases bound : o.ok (.losetup (loop_device loopname) (extfs mtname)) with
      | false =>
        have left : close_encrypted o fstype partition
            (((unlocked fstype partition t).mounted (base_volume fstype partition mtname)).unmounted
              (loop_device loopname)) ≠ t := by
          intro same
          have mounts := congrArg Tables.mounts same
          rw [close_mounts, unmounted_mounts, mounted_mounts, unlocked_mounts, umount_older _ apart,
            umount_absent unused.loop_idle] at mounts
          exact absurd (congrArg List.length mounts) (by simp)
        simp [left]
      | true =>
        cases mounted : o.ok (loop_mount loopname mtname) with
        | true => simp [served_loop loop]
        | false => simp [unmounted_base loop, restored]

/-- Without a layer of its own the partition is served where something is mounted already
    and no mapping is asked for. -/
theorem served_unmounted (unused : Unused t partition loopname) (loop : has fstype TYPE_LOOP = false) :
    Served fstype partition loopname mtname (unlocked fstype partition t) ↔
      has fstype TYPE_CRYPT = false ∧ mounted_at ("/" ++ mtname) t.mounts = true := by
  rw [Served, if_neg (by simp [loop]), unlocked_mounts, mounted_at_iff]
  cases has fstype TYPE_CRYPT with
  | false => simp
  | true =>
    simp only [forall_const, Bool.true_eq_false, false_and, iff_false]
    rintro ⟨v, member, _, mapped⟩
    exact unused_mapper unused v member mapped

/-- A loop file over no base serves where no mapping is asked for. -/
theorem served_bare_loop (unused : Unused t partition loopname) (loop : has fstype TYPE_LOOP = true) :
    Served fstype partition loopname mtname
        (((unlocked fstype partition t).bound (loop_device loopname) (extfs mtname)).mounted
          (loop_volume loopname mtname)) ↔
      has fstype TYPE_CRYPT = false := by
  rw [Served, if_pos loop]
  cases has fstype TYPE_CRYPT with
  | false => simp
  | true =>
    simp only [forall_const, Bool.true_eq_false, iff_false]
    rintro ⟨_, _, mapped⟩
    rcases List.mem_cons.mp mapped with newest | older
    · exact mapper_ne_loop partition loopname (congrArg Volume.source newest)
    · exact unused_mapper unused _ (by simpa using older) rfl

/-- Giving up on the loop file changes nothing where there is no base to unmount. -/
theorem given_up_iff (undo : o.Undoes) (unused : Unused t partition loopname) :
    close_encrypted o fstype partition ((unlocked fstype partition t).unmounted (orig mtname)) = t ↔
      ∀ v ∈ t.mounts, v.mentions (orig mtname) = false := by
  constructor
  · intro same v member
    by_contra named
    have mounts := congrArg (List.length ∘ Tables.mounts) same
    simp only [Function.comp_apply, close_mounts, unmounted_mounts, unlocked_mounts, umount] at mounts
    rw [List.length_eraseP_of_mem member (by simpa using named)] at mounts
    have := List.length_pos_of_mem member
    omega
  · intro absent
    rw [Tables.unmounted, umount_absent (by simpa using absent)]
    exact close_unlocked undo (unused_mapper unused) fstype

/-- With no known base type, nothing is mounted on the partition: the layers hold where
    only a loop file is asked for, and giving up on it finds nothing to unmount. -/
theorem layers_unknown (undo : o.Undoes) (unused : Unused t partition loopname) (unknown : KnownBase fstype = false) :
    LayersHold o fstype partition loopname mtname t ↔
      ¬ (has fstype TYPE_LOOP = false ∧
        (has fstype TYPE_CRYPT = true ∨ mounted_at ("/" ++ mtname) t.mounts = false)) ∧
      ¬ (has fstype TYPE_LOOP = true ∧ has fstype TYPE_CRYPT = true ∧
        o.ok (.losetup (loop_device loopname) (extfs mtname)) = true ∧ o.ok (loop_mount loopname mtname) = true) ∧
      ¬ (has fstype TYPE_LOOP = true ∧ o.ok (.losetup (loop_device loopname) (extfs mtname)) = true ∧
        o.ok (loop_mount loopname mtname) = false ∧ ∃ v ∈ t.mounts, v.mentions (orig mtname) = true) := by
  rw [LayersHold]
  rw [mount_layers_unknown unknown]
  cases loop : has fstype TYPE_LOOP with
  | false =>
    simp only [Bool.false_eq_true, ↓reduceIte, served_unmounted unused loop]
    cases has fstype TYPE_CRYPT <;> cases mounted_at ("/" ++ mtname) t.mounts <;> simp
  | true =>
    simp only [↓reduceIte, mount_loop_eq undo (by simpa using unused.unbound)
      (show ∀ v ∈ (unlocked fstype partition t).mounts, v.source ≠ loop_device loopname by
        simpa using fun v member => mentions_source (unused.loop_idle v member))]
    cases bound : o.ok (.losetup (loop_device loopname) (extfs mtname)) with
    | false =>
      have same : (unlocked fstype partition t).unmounted (loop_device loopname) = unlocked fstype partition t := by
        rw [Tables.unmounted, umount_absent (by simpa using unused.loop_idle)]
      have restored := close_unlocked undo (unused_mapper unused) fstype
      simp [same, restored]
    | true =>
      cases mounted : o.ok (loop_mount loopname mtname) with
      | true => simp [served_bare_loop unused loop]
      | false => simp [given_up_iff undo unused]

theorem directory_known (directory : directory_only fstype = true) : KnownBase fstype = true := by
  simp only [directory_only, Bool.and_eq_true] at directory
  simp [KnownBase, directory]

/-- A slip needs a base type and an open mapping. -/
theorem slips_reached (slip : Slips o fstype partition loopname mtname secret t) :
    has fstype TYPE_FSTYPE_MASK = true ∧ unlocks o fstype partition secret = true := by
  cases slip with
  | left_open directory crypt opened fails => exact ⟨has_base (directory_known directory), by simp [unlocks, opened]⟩
  | left_mounted known loop unlocked works fails => exact ⟨has_base known, unlocked⟩
  | not_mounted unknown base direct unlocked absent => exact ⟨base, unlocked⟩
  | not_encrypted unknown base loop crypt opened bound works => exact ⟨base, by simp [unlocks, opened]⟩
  | other_unmounted unknown base loop unlocked bound fails other => exact ⟨base, unlocked⟩

/-- `check_and_mount` is all or nothing exactly outside its slips. -/
theorem check_and_mount_all_or_nothing_iff (undo : o.Undoes) (unused : Unused t partition loopname) :
    AllOrNothing o fstype partition loopname mtname secret t ↔
      ¬ Slips o fstype partition loopname mtname secret t := by
  cases base : has fstype TYPE_FSTYPE_MASK with
  | false =>
    have noSlip : ¬ Slips o fstype partition loopname mtname secret t := fun slip => by
      simpa [base] using (slips_reached slip).1
    simp [AllOrNothing, check_and_mount, base, noSlip]
  | true =>
    rw [all_or_nothing_layers base unused]
    cases reached : unlocks o fstype partition secret with
    | false =>
      have noSlip : ¬ Slips o fstype partition loopname mtname secret t := fun slip => by
        simpa [reached] using (slips_reached slip).2
      simp [noSlip]
    | true =>
      have opened : has fstype TYPE_CRYPT = true → opens o partition secret = true := fun crypt => by
        simpa [unlocks, crypt] using reached
      rw [forall_prop_of_true rfl]
      cases known : KnownBase fstype with
      | true =>
        rw [layers_known undo unused known]
        constructor
        · rintro ⟨noBind, noLoop⟩ slip
          cases slip with
          | left_open directory crypt _ fails => exact noBind ⟨directory, crypt, fails⟩
          | left_mounted _ loop _ works fails => exact noLoop ⟨loop, works, fails⟩
          | not_mounted unknown | not_encrypted unknown | other_unmounted unknown => simp [known] at unknown
        · intro noSlip
          exact ⟨fun ⟨directory, crypt, fails⟩ => noSlip (.left_open directory crypt (opened crypt) fails),
            fun ⟨loop, works, fails⟩ => noSlip (.left_mounted known loop reached works fails)⟩
      | false =>
        rw [layers_unknown undo unused known]
        constructor
        · rintro ⟨mounted, mapped, alone⟩ slip
          cases slip with
          | left_open directory => simp [directory_known directory] at known
          | left_mounted certain => simp [known] at certain
          | not_mounted _ _ direct _ absent => exact mounted ⟨direct, absent⟩
          | not_encrypted _ _ loop crypt _ bound works => exact mapped ⟨loop, crypt, bound, works⟩
          | other_unmounted _ _ loop _ bound fails other => exact alone ⟨loop, bound, fails, other⟩
        · intro noSlip
          exact ⟨fun ⟨direct, absent⟩ => noSlip (.not_mounted known base direct reached absent),
            fun ⟨loop, crypt, bound, works⟩ =>
              noSlip (.not_encrypted known base loop crypt (opened crypt) bound works),
            fun ⟨loop, bound, fails, other⟩ =>
              noSlip (.other_unmounted known base loop reached bound fails other)⟩

end

def no_tables : Tables := ⟨[], [], []⟩

theorem no_tables_unused {partition loopname : String} (apart : partition ≠ loop_device loopname) :
    Unused no_tables partition loopname :=
  ⟨by simp [no_tables], by simp [no_tables], by simp [no_tables], by simp [no_tables], by simp [no_tables], apart⟩

/-- Every command works, every partition is encrypted, and the password is known. -/
def all_work : Outcomes := ⟨fun _ => true, fun _ => true, [("secret", true)]⟩

theorem all_work_undoes : all_work.Undoes := fun _ _ => rfl

/-- Where every command works, every known base type can be mounted over a closed mapping
    and a free loop device. -/
theorem check_and_mount_works {fstype : CInt} {partition loopname : String} {t : Tables}
    (known : KnownBase fstype = true) (closed : secname partition ∉ t.mappings)
    (unbound : ∀ b ∈ t.loops, b.1 ≠ loop_device loopname) (mtname : String) :
    ∃ handed, check_and_mount all_work fstype partition loopname mtname none t =
      (0, handed, stacked fstype partition loopname mtname t) := by
  obtain ⟨handed, run⟩ := check_and_mount_eq all_work (has_base known) closed loopname mtname none
  have reached : unlocks all_work fstype partition none = true := by simp [unlocks, opens, all_work]
  have works : base_works all_work fstype partition mtname = true := by
    obtain ⟨branch, chosen, _⟩ := base_mount_known known (frompath fstype partition) (topath fstype mtname)
    simp [base_works, chosen, all_work]
  obtain ⟨code, _, layers⟩ :=
    mount_layers_known known all_work partition loopname mtname (unlocked fstype partition t)
  have success : (mount_layers all_work fstype partition loopname mtname (unlocked fstype partition t)).1 = 0 := by
    rw [layers, works]
    cases has fstype TYPE_LOOP with
    | false => rfl
    | true =>
      let base := (unlocked fstype partition t).mounted (base_volume fstype partition mtname)
      have bound : all_work.call (.losetup (loop_device loopname) (extfs mtname)) base =
          (true, base.bound (loop_device loopname) (extfs mtname)) :=
        if_pos (by simpa [base, all_work, Cmd.possible] using unbound)
      rw [cond_true, if_pos rfl, mount_loop, bound]
      rfl
  rw [reached, if_pos rfl] at run
  exact ⟨handed, by rw [run, success, mount_layers_success known success]⟩

theorem all_or_nothing_cache :
    AllOrNothing all_work (TYPE_EXT4 ||| TYPE_CRYPT ||| TYPE_LOOP) CACHE_BLOCK_NAME "loop1" "cache" none no_tables ↔
      ¬ Slips all_work (TYPE_EXT4 ||| TYPE_CRYPT ||| TYPE_LOOP) CACHE_BLOCK_NAME "loop1" "cache" none no_tables :=
  check_and_mount_all_or_nothing_iff all_work_undoes (no_tables_unused (by decide))

/-- Every command works but `losetup`, and no partition is encrypted. -/
def losetup_fails : Outcomes where
  ok
    | .losetup _ _ => false
    | _ => true
  isLuks _ := false
  entries := []

/-- A failing `losetup` leaves the base filesystem of the cache mounted. -/
theorem failed_losetup_leaves_base :
    losetup_fails.Undoes ∧ Unused no_tables CACHE_BLOCK_NAME "loop1" ∧
      check_and_mount losetup_fails (TYPE_RFS ||| TYPE_LOOP) CACHE_BLOCK_NAME "loop1" "cache" none no_tables =
        (6, none, ⟨[⟨CACHE_BLOCK_NAME, "/res/.orig_cache"⟩], [], []⟩) ∧
      ¬ AllOrNothing losetup_fails (TYPE_RFS ||| TYPE_LOOP) CACHE_BLOCK_NAME "loop1" "cache" none no_tables := by
  refine ⟨fun cmd undoes => ?_, no_tables_unused (by decide), ?_, fun hold => ?_⟩
  · cases cmd <;> first | rfl | cases undoes
  · decide
  · have kept := hold.2 (by decide)
    revert kept
    decide

end SteamRecovery.Volumes
