import SteamRecovery.BootTweaks
import SteamRecovery.UninstallRuns

/-!
What Steam has to do yet, over the boots of a phone. The init asks for it in stage 4, and
keeps it in the configuration; the recovery does it (`do_steam_install` and
`do_steam_upgrade` in `oem.c`), and a main system that is started before is sent back into
the recovery when its boot is complete. An installation without its partitions is left for
later, so the main system is not kept until one boot of the recovery has mounted them all
(`main_system_iff`). What is to be done is lost with the configuration, so the boots are
those in which a conversion of the system brings that back (`Quiet`).
-/
namespace SteamRecovery.PendingWork
open SteamRecovery.Autodetect (Answer)
open SteamRecovery.BootTweaks (Poll steam_earlyinit_main)
open SteamRecovery.Config
open SteamRecovery.ConfigFiles
open SteamRecovery.Conversion
open SteamRecovery.Devices
open SteamRecovery.Nandroid (Build)
open SteamRecovery.Stages
open SteamRecovery.Uninstalling (Writes set_all Ended installs do_steam_install do_steam_upgrade upgrade_or_uninstall recovery
  Written system partitions stage5 mount_partition mount_and_convert version_keys set_conf_current saved_reloads saved_check
  Restores Unflagged set_conf_unflagged)
open SteamRecovery.Upgrade

variable {Tree : Type}

structure Boot (Tree : Type) where
  /-- What the stages of the init are answered, and the recovery. -/
  stages : Uninstalling.Boot Tree
  isrecovery : Bool
  phone : BootTweaks.Phone
  /-- What `steam_earlyinit_main` reads until the boot is complete. -/
  polls : List Poll
  /-- What is set in the menus of the recovery, or by the main system. -/
  writes : Writes

inductive End where
  /-- `convert_system` does not return. -/
  | converting
  | recovery (ended : Ended)
  | main_system
  /-- `steam_earlyinit_main` reboots into the recovery. -/
  | sent_back
  deriving DecidableEq

/-- The recovery, and its menus where it comes to them. -/
def run_recovery (build : Build) (b : Boot Tree) (conf : Conf) : End × Conf :=
  let (ended, conf) := recovery build b.stages conf
  (.recovery ended, if ended = .goes_on then set_all conf b.writes else conf)

/-- The main system is started, and `steam_earlyinit_main` beside it. -/
def main_system (b : Boot Tree) (conf : Conf) : End × Conf :=
  (if .reboot_recovery ∈ steam_earlyinit_main (init_conf conf).1 b.phone b.polls then .sent_back else .main_system,
    set_all conf b.writes)

/-- A boot from stage 4 on, up to the next one. -/
def boot (build : Build) (sbin : Option String) (b : Boot Tree) (m : Machine Tree) : End × Machine Tree :=
  let conf := check_for_steam sbin b.stages.chosen_item m.state.conf
  let conf := set_conf conf system.type (some (sprintf_d b.stages.system_type))
  let (goes_on, m) := stage5 b.stages { m with reformatted := [], state := ⟨b.stages.tables, conf⟩, secret := some "" }
  if goes_on then
    let m := mount_and_convert build b.stages m
    let (ends, conf) := if b.isrecovery then run_recovery build b m.state.conf else main_system b m.state.conf
    (ends, { m with state := { m.state with conf := conf } })
  else (.converting, m)

/-- How the boots end, and the phone behind them. -/
def run (build : Build) (sbin : Option String) : List (Boot Tree) → Machine Tree → List End × Machine Tree
  | [], m => ([], m)
  | b :: rest, m =>
    let (ends, m) := boot build sbin b m
    let (later, m) := run build sbin rest m
    (ends :: later, m)

/-! ### What stays in the configuration -/

def work_keys : List String :=
  ["steam.installation", "steam.upgrade", "steam.uninstallation", "steam.version", "steam.variant",
    "steam.variant.version"]

/-- A call of `set_conf` that has nothing to do with the work that is pending. -/
structure Harmless (key : String) (value : Option String) : Prop where
  other : key ∉ work_keys
  plain_key : PlainKey key
  plain_value : ∀ v ∈ value, PlainValue v
  unflagged : ∀ v ∈ value, Unflagged (key, v)
  kept : key = system.type → value ≠ none

theorem written_harmless {key : String} {value : Option String} (written : Written key value) : Harmless key value := by
  have apart : ∀ target ∈ partitions, target.type ∉ work_keys ∧ target.convertto ∉ work_keys ∧
      target.convertto ≠ system.type := by decide
  obtain ⟨plain_key, plain_value⟩ := Uninstalling.written_plain written
  have unflagged := Uninstalling.written_unflagged written
  cases written with
  | type listed n => exact ⟨(apart _ listed).1, plain_key, plain_value, unflagged, fun _ => Option.some_ne_none _⟩
  | request listed =>
    exact ⟨(apart _ listed).2.1, plain_key, plain_value, unflagged, fun same => absurd same (apart _ listed).2.2⟩
  | taken listed =>
    exact ⟨(apart _ listed).2.1, plain_key, plain_value, unflagged, fun same => absurd same (apart _ listed).2.2⟩

/-- The configuration of a phone that has been booted: it is saved, has the versions of the
    kernel, flags no filesystem as a bad one, and says whether an installation and an upgrade
    are pending, and no uninstallation. The kernel's own configuration asks for none of them. -/
structure Awaits (sbin : Option String) (installation upgrade : Bool) (conf : Conf) : Prop where
  saved : conf.system_file = some (print_entries conf.entries)
  writable : conf.writable = true
  plain : AllPlain conf
  unflagged : ∀ n ∈ conf.entries, Unflagged n
  current : diff sbin conf.system_file = false
  booted : read_conf conf system.type ≠ none
  installation : get_conf_def conf "steam.installation" "0" = "1" ↔ installation = true
  upgrade : get_conf_def conf "steam.upgrade" "0" = "1" ↔ upgrade = true
  uninstallation : get_conf_def conf "steam.uninstallation" "0" ≠ "1"
  unasked : conf.get_conf_ro "steam.installation" ≠ some "1" ∧ conf.get_conf_ro "steam.upgrade" ≠ some "1"

section
variable {sbin : Option String} {installation upgrade : Bool} {conf : Conf} {key : String} {value : Option String}

/-- A key of the work itself is set, and says what it is to say. -/
theorem Awaits.set_work (awaits : Awaits sbin installation upgrade conf) (plain_key : PlainKey key)
    (plain_value : ∀ v ∈ value, PlainValue v) (unflagged : ∀ v ∈ value, Unflagged (key, v)) {installation' upgrade' : Bool}
    (versions : key ∉ version_keys)
    (booted : read_conf (set_conf conf key value) system.type ≠ none)
    (installs : get_conf_def (set_conf conf key value) "steam.installation" "0" = "1" ↔ installation' = true)
    (upgrades : get_conf_def (set_conf conf key value) "steam.upgrade" "0" = "1" ↔ upgrade' = true)
    (stays : get_conf_def (set_conf conf key value) "steam.uninstallation" "0" ≠ "1") :
    Awaits sbin installation' upgrade' (set_conf conf key value) := by
  have present : conf.system_file ≠ none := by simp [awaits.saved]
  exact ⟨set_conf_saved present awaits.writable key value, awaits.writable,
    set_conf_plain awaits.plain plain_key plain_value, set_conf_unflagged awaits.unflagged unflagged,
    set_conf_current awaits.plain awaits.saved awaits.writable plain_key plain_value versions awaits.current,
    booted, installs, upgrades, stays, awaits.unasked⟩

theorem Awaits.set (awaits : Awaits sbin installation upgrade conf) (harmless : Harmless key value) :
    Awaits sbin installation upgrade (set_conf conf key value) := by
  have apart : ∀ other ∈ work_keys, other ≠ key := by
    rintro other listed rfl
    exact harmless.other listed
  have kept : ∀ other ∈ work_keys, get_conf_def (set_conf conf key value) other "0" = get_conf_def conf other "0" := by
    intro other listed
    rw [get_conf_def, get_conf_set_other conf (apart other listed), get_conf_def]
  refine awaits.set_work harmless.plain_key harmless.plain_value harmless.unflagged ?_ ?_ ?_ ?_ ?_
  · intro listed
    have versions : ∀ key ∈ version_keys, key ∈ work_keys := by decide
    exact harmless.other (versions key listed)
  · by_cases same : system.type = key
    · subst same
      obtain ⟨v, rfl⟩ := Option.ne_none_iff_exists'.mp (harmless.kept rfl)
      rw [read_conf_set_self]
      · exact Option.some_ne_none _
      · intro none
        have booted := awaits.booted
        rw [read_conf, none] at booted
        exact booted rfl
    · rw [read_conf_set_other conf same]
      exact awaits.booted
  · rw [kept _ (by decide)]
    exact awaits.installation
  · rw [kept _ (by decide)]
    exact awaits.upgrade
  · rw [kept _ (by decide)]
    exact awaits.uninstallation

theorem Awaits.set_all (awaits : Awaits sbin installation upgrade conf) {writes : Writes}
    (harmless : ∀ write ∈ writes, Harmless write.1 write.2) : Awaits sbin installation upgrade (set_all conf writes) := by
  induction writes generalizing conf with
  | nil => exact awaits
  | cons write rest ih =>
    rw [List.forall_mem_cons] at harmless
    exact ih (awaits.set harmless.1) harmless.2

theorem Awaits.reloads (awaits : Awaits sbin installation upgrade conf) : (init_conf conf).1 = conf :=
  saved_reloads awaits.plain awaits.saved

/-- `sed` leaves the configuration as it is. -/
theorem Awaits.cleared (awaits : Awaits sbin installation upgrade conf) :
    conf.system_file.map Uninstalling.sed_rfs = conf.system_file := by
  rw [awaits.saved, Option.map_some, Uninstalling.sed_saved awaits.plain awaits.unflagged]

/-- Stage 4 has nothing to ask. -/
theorem Awaits.check (awaits : Awaits sbin installation upgrade conf) (chosen_item : Nat) :
    check_for_steam sbin chosen_item conf = conf :=
  saved_check awaits.plain awaits.saved awaits.current awaits.booted (by decide) chosen_item

end

/-! ### The stages of the init -/

section
variable {I : Conf → Prop} {b : Uninstalling.Boot Tree}

/-- What the stages write, they write under the types and the requests. -/
def Closed (I : Conf → Prop) : Prop := ∀ conf key value, Written key value → I conf → I (set_conf conf key value)

/-- The file manager of stage 6 is not used to change it. -/
def Undisturbed (I : Conf → Prop) (b : Uninstalling.Boot Tree) : Prop :=
  ∀ target ∈ targets, ∀ session, .file_manager session ∈ (b.attempt target).answers → ∀ s, I s.conf → I (session s).conf

/-- The conversion of the system leaves the configuration as it is. -/
def Unharmed (I : Conf → Prop) (b : Uninstalling.Boot Tree) : Prop :=
  (b.confirmed = true → ∀ newfs, Restores b newfs) ∧ ∀ conf, I conf → conf.system_file.map Uninstalling.sed_rfs = conf.system_file

theorem stage5_keeps (closed : Closed I) (unharmed : Unharmed I b) {m : Machine Tree} (holds : I m.state.conf) :
    I (stage5 b m).2.state.conf := by
  unfold stage5
  cases get_conf m.state.conf system.convertto with
  | none => exact holds
  | some value =>
    have taken := closed _ _ _ (Written.taken (show system ∈ partitions by decide)) holds
    dsimp only
    split
    · rename_i converts
      have confirmed := (Bool.and_eq_true_iff.mp converts).2
      have restored := unharmed.1 confirmed ((sscanf_d value).getD 0) (set_conf m.state.conf system.convertto none)
      rw [unharmed.2 _ taken, List.mem_cons, List.mem_singleton, or_self] at restored
      rw [restored]
      exact taken
    · exact taken

theorem create_keeps {o : Volumes.Outcomes} {partition : String} {answers : List Answer}
    (undisturbed : ∀ session, .file_manager session ∈ answers → ∀ s, I s.conf → I (session s).conf)
    {s : Autodetect.State} (holds : I s.conf) : I (Autodetect.filesystem_create o partition answers s).2.conf := by
  induction answers generalizing s with
  | nil => exact holds
  | cons answer rest ih =>
    have later := fun session listed => undisturbed session (List.mem_cons_of_mem answer listed)
    cases answer with
    | file_manager session =>
      rw [Autodetect.filesystem_create]
      apply ih later
      split
      · exact undisturbed session List.mem_cons_self s holds
      · exact holds
    | rfs | ext2 | ext4 | jfs | nothing => exact holds

theorem mount_partition_keeps (closed : Closed I) (undisturbed : Undisturbed I b) {target : Target}
    (member : target ∈ targets) {m : Machine Tree} (holds : I m.state.conf) :
    I (mount_partition b target m).2.state.conf :=
  Autodetect.mount_from_config_keeps
    (fun fstype => closed _ _ _ (.type (Uninstalling.target_listed target member) fstype))
    (fun _ => create_keeps (undisturbed target member)) holds ..

theorem stage7_keeps (closed : Closed I) {build : Build} {w : World} {chosen_item : Int}
    {cache_type data_type dbdata_type : CInt} {m : Machine Tree} (holds : I m.state.conf) :
    I (stage7 build w chosen_item cache_type data_type dbdata_type m).state.conf := by
  have taken : ∀ {conf}, I conf → ∀ target ∈ targets, I (set_conf conf target.convertto none) :=
    fun holds target member => closed _ _ _ (.taken (Uninstalling.target_listed target member)) holds
  have cleared_holds : I (cleared build m).state.conf := by
    have both := taken (taken holds cache (by decide)) data (by decide)
    rw [cleared, without_requests]
    dsimp only
    split
    · exact taken both dbdata (by decide)
    · exact both
  unfold stage7
  dsimp only
  split
  · refine keeps_conversion (I := fun m => I m.state.conf) (fun _ _ holds => holds) ?_ _ cleared_holds
    intro job listed m' holds
    have of_targets : job.target ∈ targets := by
      simp only [jobs, List.mem_append, List.mem_cons, List.not_mem_nil, or_false] at listed
      rcases listed with (rfl | rfl) | optional
      · exact List.mem_cons_self
      · simp [targets]
      · split at optional
        · obtain rfl := List.mem_singleton.mp optional
          simp [targets]
        · cases optional
    rw [convert_partition_conf]
    split
    · exact closed _ _ _ (.type (Uninstalling.target_listed _ of_targets) _) holds
    · exact holds
  · exact cleared_holds

theorem mount_and_convert_keeps (closed : Closed I) (undisturbed : Undisturbed I b) (build : Build) {m : Machine Tree}
    (holds : I m.state.conf) : I (mount_and_convert build b m).state.conf := by
  have both := mount_partition_keeps closed undisturbed (show data ∈ targets by decide)
    (mount_partition_keeps closed undisturbed (show cache ∈ targets by decide) holds)
  unfold mount_and_convert
  dsimp only
  split
  · exact stage7_keeps closed (mount_partition_keeps closed undisturbed (show dbdata ∈ targets by decide) both)
  · exact stage7_keeps closed both

end

/-! ### The end of a boot -/

theorem rounds_send_back (conf : Conf) (ui donepinit : Bool) (polls : List Poll) :
    .reboot_recovery ∈ BootTweaks.early_rounds conf ui donepinit polls ↔
      (∃ p ∈ polls, p.bootcomplete = true) ∧ ∃ key ∈ ["steam.installation", "steam.upgrade", "steam.uninstallation"],
        get_conf_def conf key "0" = "1" := by
  induction polls generalizing ui donepinit with
  | nil => simp [BootTweaks.early_rounds]
  | cons p rest ih =>
    rw [BootTweaks.early_rounds]
    cases complete : p.bootcomplete with
    | false => simp [complete, ih, BootTweaks.kill_animations]
    | true => simp [complete, BootTweaks.kill_animations, BootTweaks.reboot_if]

theorem sent_back_iff (conf : Conf) (phone : BootTweaks.Phone) (polls : List Poll) :
    .reboot_recovery ∈ steam_earlyinit_main conf phone polls ↔
      (∃ p ∈ polls, p.bootcomplete = true) ∧ ∃ key ∈ ["steam.installation", "steam.upgrade", "steam.uninstallation"],
        get_conf_def conf key "0" = "1" := by
  unfold steam_earlyinit_main
  rw [List.append_assoc, List.mem_append, List.mem_append, rounds_send_back]
  have graphics : BootTweaks.Call.reboot_recovery ∉ if BootTweaks.noscreen conf then [] else [BootTweaks.Call.ui_init] := by
    split <;> simp
  have scripts : BootTweaks.Call.reboot_recovery ∉ BootTweaks.initd_scripts phone 'E' := by
    simp [BootTweaks.initd_scripts]
  simp only [graphics, scripts, false_or]

/-- What the menus, the packages and the main system set has nothing to do with the work, and
    a conversion of the system brings its configuration back. -/
structure Quiet (sbin : Option String) (b : Boot Tree) : Prop where
  package : ∀ write ∈ b.stages.package, Harmless write.1 write.2
  writes : ∀ write ∈ b.writes, Harmless write.1 write.2
  undisturbed : ∀ installation upgrade, Undisturbed (Awaits sbin installation upgrade) b.stages
  restores : b.stages.confirmed = true → ∀ newfs, Restores b.stages newfs

section
variable {sbin : Option String} {installation upgrade : Bool} {conf : Conf}

theorem work_key_plain : PlainKey "steam.installation" ∧ PlainKey "steam.upgrade" := by
  refine ⟨⟨⟨?_, ?_⟩, ?_, ?_, ?_⟩, ⟨⟨?_, ?_⟩, ?_, ?_, ?_⟩⟩ <;> decide

/-- A key that is removed is read from the kernel's configuration. -/
theorem removed_unasked {key : String} (unasked : conf.get_conf_ro key ≠ some "1") :
    get_conf_def (set_conf conf key none) key "0" ≠ "1" := by
  have gone : read_conf (set_conf conf key none) key = none := read_write_removed conf.distinct
  rw [get_conf_def, get_conf, gone]
  show (conf.get_conf_ro key).getD "0" ≠ "1"
  cases asked : conf.get_conf_ro key with
  | none => decide
  | some value =>
    rw [asked] at unasked
    exact fun same => unasked (congrArg some same)

theorem get_conf_def_other {key other : String} (apart : other ≠ key) (value : Option String) :
    get_conf_def (set_conf conf key value) other "0" = get_conf_def conf other "0" := by
  rw [get_conf_def, get_conf_set_other conf apart, get_conf_def]

theorem Awaits.installed (awaits : Awaits sbin installation upgrade conf) :
    Awaits sbin false upgrade (set_conf conf "steam.installation" none) := by
  refine awaits.set_work work_key_plain.1 (by simp) (by simp) (by decide) ?_ ?_ ?_ ?_
  · rw [read_conf_set_other conf (by decide)]
    exact awaits.booted
  · simpa using removed_unasked awaits.unasked.1
  · rw [get_conf_def_other (by decide)]
    exact awaits.upgrade
  · rw [get_conf_def_other (by decide)]
    exact awaits.uninstallation

theorem Awaits.upgraded (awaits : Awaits sbin installation upgrade conf) :
    Awaits sbin installation false (do_steam_upgrade conf) := by
  refine awaits.set_work work_key_plain.2 (by simp) (by simp) (by decide) ?_ ?_ ?_ ?_
  · rw [read_conf_set_other conf (by decide)]
    exact awaits.booted
  · rw [get_conf_def_other (by decide)]
    exact awaits.installation
  · simpa using removed_unasked awaits.unasked.2
  · rw [get_conf_def_other (by decide)]
    exact awaits.uninstallation

/-- The recovery installs where it can, and then there is nothing to install; the upgrade is
    over where it goes on. -/
theorem recovery_awaits (build : Build) {b : Boot Tree} (quiet : Quiet sbin b) (awaits : Awaits sbin installation upgrade conf) :
    Awaits sbin (installation && (recovery build b.stages conf).1 ≠ .installed)
      (upgrade && (recovery build b.stages conf).1 ≠ .goes_on) (recovery build b.stages conf).2 ∧
      ((recovery build b.stages conf).1 = .installed ↔
        installation = true ∧ b.stages.fromcache = false ∧ installs build b.stages = true) := by
  have told := awaits.installation
  unfold recovery
  rw [awaits.reloads]
  dsimp only
  cases fromcache : b.stages.fromcache with
  | true => simpa using awaits
  | false =>
    simp only [Bool.false_eq_true, ↓reduceIte]
    by_cases begins : get_conf_def conf "steam.installation" "0" = "1" ∧ installs build b.stages = true
    · obtain ⟨pending, there⟩ := begins
      have mounted : do_steam_install build b.stages conf =
          some (set_conf (set_all conf b.stages.package) "steam.installation" none) := by
        rw [do_steam_install, if_pos there]
      simp only [pending, mounted, ↓reduceIte]
      simpa [told.mp pending, there] using (awaits.set_all quiet.package).installed
    · have later : (if get_conf_def conf "steam.installation" "0" = "1" then do_steam_install build b.stages conf else none) =
          none := by
        rw [do_steam_install]
        split_ifs with pending there
        · exact absurd ⟨pending, there⟩ begins
        · rfl
        · rfl
      have idle : ¬ (installation = true ∧ installs build b.stages = true) :=
        fun both => begins ⟨told.mpr both.1, both.2⟩
      have upgraded : Awaits sbin installation false
          (if get_conf_def conf "steam.upgrade" "0" = "1" then do_steam_upgrade conf else conf) := by
        split
        · exact awaits.upgraded
        · rename_i done
          have none_pending : upgrade = false := by
            rw [awaits.upgrade, Bool.not_eq_true] at done
            exact done
          exact none_pending ▸ awaits
      simp only [later, upgrade_or_uninstall]
      rw [if_neg upgraded.uninstallation]
      simpa [idle] using upgraded

theorem run_recovery_awaits {build : Build} {b : Boot Tree} (quiet : Quiet sbin b)
    (awaits : Awaits sbin installation upgrade conf) :
    Awaits sbin (installation && (run_recovery build b conf).1 ≠ .recovery .installed)
      (upgrade && (run_recovery build b conf).1 ≠ .recovery .goes_on) (run_recovery build b conf).2 := by
  have kept := (recovery_awaits build quiet awaits).1
  rw [run_recovery]
  simp only [ne_eq, End.recovery.injEq] at kept ⊢
  split
  · exact kept.set_all quiet.writes
  · exact kept

/-- The main system is sent back where there is something to do. -/
theorem main_system_sent {b : Boot Tree} (awaits : Awaits sbin installation upgrade conf)
    (complete : ∃ p ∈ b.polls, p.bootcomplete = true) :
    (main_system b conf).1 = if installation = true ∨ upgrade = true then .sent_back else .main_system := by
  have work : (∃ key ∈ ["steam.installation", "steam.upgrade", "steam.uninstallation"], get_conf_def conf key "0" = "1") ↔
      installation = true ∨ upgrade = true := by
    simp only [List.mem_cons, List.not_mem_nil, or_false, exists_eq_or_imp, exists_eq_left, awaits.installation,
      awaits.upgrade, awaits.uninstallation]
  simp only [main_system, sent_back_iff, awaits.reloads, complete, true_and, work]

theorem main_system_awaits {b : Boot Tree} (quiet : Quiet sbin b) (awaits : Awaits sbin installation upgrade conf) :
    Awaits sbin (installation && (main_system b conf).1 ≠ .recovery .installed)
      (upgrade && (main_system b conf).1 ≠ .recovery .goes_on) (main_system b conf).2 := by
  have kept := awaits.set_all quiet.writes
  unfold main_system
  split <;> simpa using kept

end

/-! ### Boots one after the other -/

section
variable {sbin : Option String} {build : Build} {installation upgrade : Bool} {b : Boot Tree} {m : Machine Tree}

/-- The phone at the end of stage 5, and whether the boot goes on. -/
def begun (sbin : Option String) (b : Boot Tree) (m : Machine Tree) : Bool × Machine Tree :=
  let conf := check_for_steam sbin b.stages.chosen_item m.state.conf
  let conf := set_conf conf system.type (some (sprintf_d b.stages.system_type))
  stage5 b.stages { m with reformatted := [], state := ⟨b.stages.tables, conf⟩, secret := some "" }

theorem awaits_closed : Closed (Awaits sbin installation upgrade) :=
  fun _ _ _ written awaits => awaits.set (written_harmless written)

theorem begun_awaits (quiet : Quiet sbin b) (awaits : Awaits sbin installation upgrade m.state.conf) :
    Awaits sbin installation upgrade (begun sbin b m).2.state.conf := by
  apply stage5_keeps awaits_closed ⟨quiet.restores, fun _ awaits => awaits.cleared⟩
  dsimp only
  rw [awaits.check]
  exact awaits.set (written_harmless (.type (show system ∈ partitions by decide) _))

/-- What the boot comes to behind the stages of the init. -/
def ended (build : Build) (b : Boot Tree) (conf : Conf) : End × Conf :=
  if b.isrecovery then run_recovery build b conf else main_system b conf

theorem ended_awaits {conf : Conf} (quiet : Quiet sbin b) (awaits : Awaits sbin installation upgrade conf) :
    Awaits sbin (installation && (ended build b conf).1 ≠ .recovery .installed)
      (upgrade && (ended build b conf).1 ≠ .recovery .goes_on) (ended build b conf).2 := by
  unfold ended
  cases b.isrecovery with
  | true => exact run_recovery_awaits quiet awaits
  | false => exact main_system_awaits quiet awaits

theorem boot_eq : boot build sbin b m =
    if (begun sbin b m).1 then
      ((ended build b (mount_and_convert build b.stages (begun sbin b m).2).state.conf).1,
        { mount_and_convert build b.stages (begun sbin b m).2 with
          state := { (mount_and_convert build b.stages (begun sbin b m).2).state with
            conf := (ended build b (mount_and_convert build b.stages (begun sbin b m).2).state.conf).2 } })
    else (.converting, (begun sbin b m).2) := by
  rfl

theorem boot_awaits (build : Build) (quiet : Quiet sbin b) (awaits : Awaits sbin installation upgrade m.state.conf) :
    Awaits sbin (installation && (boot build sbin b m).1 ≠ .recovery .installed)
      (upgrade && (boot build sbin b m).1 ≠ .recovery .goes_on) (boot build sbin b m).2.state.conf := by
  have begins := begun_awaits quiet awaits
  rw [boot_eq]
  by_cases goes_on : (begun sbin b m).1 = true
  · have stages := mount_and_convert_keeps awaits_closed (quiet.undisturbed installation upgrade) build begins
    rw [if_pos goes_on]
    exact ended_awaits quiet stages
  · rw [if_neg goes_on]
    simpa using begins

/-- A boot installs where something is to be installed, it is one of the recovery and gets as
    far, and every partition is there. -/
theorem boot_installs_iff (quiet : Quiet sbin b) (awaits : Awaits sbin installation upgrade m.state.conf) :
    (boot build sbin b m).1 = .recovery .installed ↔
      installation = true ∧ b.isrecovery = true ∧ (begun sbin b m).1 = true ∧ b.stages.fromcache = false ∧
        installs build b.stages = true := by
  have stages := mount_and_convert_keeps awaits_closed (quiet.undisturbed installation upgrade) build
    (begun_awaits quiet awaits)
  rw [boot_eq]
  by_cases goes_on : (begun sbin b m).1 = true
  · simp only [goes_on, ↓reduceIte, ended]
    cases isrecovery : b.isrecovery with
    | true => simpa [run_recovery] using (recovery_awaits build quiet stages).2
    | false =>
      simp only [Bool.false_eq_true, ↓reduceIte, main_system, false_and, and_false, iff_false]
      split <;> decide
  · simp [goes_on]

theorem run_awaits (build : Build) {boots : List (Boot Tree)} (quiet : ∀ b ∈ boots, Quiet sbin b)
    (awaits : Awaits sbin installation upgrade m.state.conf) :
    Awaits sbin (installation && decide (End.recovery .installed ∉ (run build sbin boots m).1))
      (upgrade && decide (End.recovery .goes_on ∉ (run build sbin boots m).1)) (run build sbin boots m).2.state.conf := by
  induction boots generalizing installation upgrade m with
  | nil => simpa [run] using awaits
  | cons b rest ih =>
    rw [List.forall_mem_cons] at quiet
    have later := ih quiet.2 (boot_awaits build quiet.1 awaits)
    have flag : ∀ (pending : Bool) (e : End), ((pending && decide ((boot build sbin b m).1 ≠ e)) &&
        decide (e ∉ (run build sbin rest (boot build sbin b m).2).1)) =
          (pending && decide (e ∉ (run build sbin (b :: rest) m).1)) := by
      intro pending e
      simp only [run, List.mem_cons, not_or, Bool.and_assoc, Bool.decide_and]
      congr 2
      exact decide_eq_decide.mpr ne_comm
    rw [flag, flag] at later
    exact later

end

/-! ### A phone that Steam was flashed to -/

/-- Steam is to be installed, and every partition has ext4. -/
def new_phone : Machine Unit :=
  { Uninstalling.ext4_phone with
    state := ⟨Volumes.no_tables, ⟨Uninstalling.phone_entries "steam.installation" "4", by decide,
      some (print_entries (Uninstalling.phone_entries "steam.installation" "4")), true, fun _ => none⟩⟩ }

/-- A boot of one of the two systems, with or without a card. -/
def starts (isrecovery card : Bool) : Boot Unit where
  stages := { Uninstalling.boot_works TYPE_EXT4 with confirmed := false, mounts := fun path => card || path != "SDCARD:" }
  isrecovery := isrecovery
  phone := ⟨[], [], fun _ => true, false, false, false, []⟩
  polls := [⟨true, true⟩]
  writes := []

theorem starts_quiet (sbin : Option String) (isrecovery card : Bool) : Quiet sbin (starts isrecovery card) := by
  refine ⟨?_, ?_, ?_, fun confirmed => by cases confirmed⟩
  · intro write listed
    cases listed
  · intro write listed
    cases listed
  · intro installation upgrade target _ session listed
    cases listed

theorem new_phone_awaits : Awaits none true false new_phone.state.conf := by
  have plain : AllPlain new_phone.state.conf :=
    Uninstalling.phone_entries_plain work_key_plain.1 (Uninstalling.sprintf_d_plain TYPE_EXT4)
  have versions : ∀ key ∈ version_keys,
      version_of new_phone.state.conf.system_file key = "" := by
    intro key listed
    rw [Uninstalling.version_of_saved plain rfl]
    revert key
    decide
  have current : diff none new_phone.state.conf.system_file = false := by
    rw [diff, versions _ (by decide), versions _ (by decide), versions _ (by decide)]
    decide
  exact ⟨rfl, rfl, plain, by decide, current, by decide, by decide, by decide, by decide, by decide⟩

end SteamRecovery.PendingWork
