import SteamRecovery.UninstallBoot

/-!
The boots of a phone that is to lose Steam. Where every step works there are at most
three, unless `/data` has RFS and `/dbdata` has not: then stage 7 drops the request for
`/dbdata` every time, and the phone reboots for ever (`uninstalled_iff`).
-/
namespace SteamRecovery.Uninstalling
open SteamRecovery.Devices
open SteamRecovery.Config
open SteamRecovery.ConfigFiles
open SteamRecovery.Upgrade
open SteamRecovery.Volumes (Tables)
open SteamRecovery.Autodetect
open SteamRecovery.Nandroid (Build)
open SteamRecovery.Conversion
open SteamRecovery.Stages

variable {Tree : Type}

/-! ### Boots without end -/

section
variable (build : Build) (sbin : Option String) (boots : Nat → Boot Tree) (m : Machine Tree)

/-- The phone behind so many boots. -/
def phone_after : Nat → Machine Tree
  | 0 => m
  | n + 1 => boot build sbin (boots n) (phone_after n)

end

/-- `/data` has RFS and `/dbdata` has not. -/
def Stuck (m : Machine Tree) : Prop := m.types data.mtname = TYPE_RFS ∧ m.types dbdata.mtname ≠ TYPE_RFS

section
variable {build : Build} {sbin : Option String} {boots : Nat → Boot Tree} {m : Machine Tree} {of_system of_others : Bool}

theorem Waiting.stays (waiting : Waiting sbin of_system of_others m) : ¬ Removed m := by
  rw [Removed, waiting.leaving.saved]
  simp

/-- RFS that is asked for comes, unless the phone is stuck. -/
theorem converted_unstuck (straight : ¬ Stuck m) {target : Target} (member : target ∈ targets) :
    converted true m.types target = TYPE_RFS := by
  rw [converted]
  split
  · rfl
  · rename_i unconverted
    by_contra other
    refine unconverted ⟨rfl, other, ?_⟩
    rintro rfl
    exact fun rfs => straight ⟨rfs, other⟩

/-- A phone that is stuck converts its `/dbdata` in no boot. -/
theorem boot_stuck {b : Boot Tree} (has_datadata : build.HAS_DATADATA = true) (works : Works b m)
    (waiting : Waiting sbin of_system of_others m) (stuck : Stuck m) :
    (∃ of_system of_others, Waiting sbin of_system of_others (boot build sbin b m)) ∧ Stuck (boot build sbin b m) := by
  obtain ⟨data_apart, dbdata_apart⟩ : data.mtname ≠ system.mtname ∧ dbdata.mtname ≠ system.mtname := by decide
  by_cases converts : of_system = true ∧ m.types system.mtname ≠ TYPE_RFS
  · obtain ⟨rfl, other⟩ := converts
    obtain ⟨waits, types, _⟩ := boot_converts_system build works waiting other
    refine ⟨⟨_, _, waits⟩, ?_⟩
    rw [Stuck, types, Function.update_of_ne data_apart, Function.update_of_ne dbdata_apart]
    exact stuck
  · have on : of_system = true → m.types system.mtname = TYPE_RFS :=
      fun asked => by_contra fun other => converts ⟨asked, other⟩
    have dropped : converted of_others m.types dbdata = m.types dbdata.mtname :=
      if_neg fun converts => converts.2.2 rfl stuck.1
    have kept : converted of_others m.types data = m.types data.mtname := if_neg fun converts => converts.2.1 stuck.1
    have other : ¬ AllRfs of_others m.types := by
      intro all
      have rfs := all.1 dbdata (by decide)
      rw [dropped] at rfs
      exact stuck.2 rfs
    obtain ⟨waits, types, _⟩ := boot_asks has_datadata works waiting on other
    refine ⟨⟨_, _, waits⟩, ?_⟩
    rw [Stuck, types data (by decide), types dbdata (by decide), dropped, kept]
    exact stuck

theorem stuck_for_ever (has_datadata : build.HAS_DATADATA = true) (waiting : Waiting sbin of_system of_others m)
    (works : ∀ n, ¬ Removed (phone_after build sbin boots m n) → Works (boots n) (phone_after build sbin boots m n))
    (stuck : Stuck m) (n : Nat) :
    (∃ of_system of_others, Waiting sbin of_system of_others (phone_after build sbin boots m n)) ∧
      Stuck (phone_after build sbin boots m n) := by
  induction n with
  | zero => exact ⟨⟨_, _, waiting⟩, stuck⟩
  | succ n ih =>
    obtain ⟨⟨_, _, waits⟩, stays⟩ := ih
    exact boot_stuck has_datadata (works n waits.stays) waits stays

/-- Uninstalling Steam takes at most three boots in which every step works, unless `/data` has
    RFS and `/dbdata` has not: then the phone reboots for ever. -/
theorem uninstalled_iff (has_datadata : build.HAS_DATADATA = true) (waiting : Waiting sbin false false m)
    (works : ∀ n, ¬ Removed (phone_after build sbin boots m n) → Works (boots n) (phone_after build sbin boots m n)) :
    ((∃ n, Removed (phone_after build sbin boots m n)) ↔ ¬ Stuck m) ∧
      (¬ Stuck m → ∃ n ≤ 3, Removed (phone_after build sbin boots m n)) := by
  have three : ¬ Stuck m → ∃ n ≤ 3, Removed (phone_after build sbin boots m n) := by
    intro straight
    by_cases first : AllRfs false m.types
    · exact ⟨1, by decide, boot_removes has_datadata (works 0 waiting.stays) waiting first⟩
    -- the recovery asks for RFS everywhere
    obtain ⟨waits₁, types, _⟩ := boot_asks has_datadata (works 0 waiting.stays) waiting (by simp) first
    have types₁ : ∀ target ∈ targets, (phone_after build sbin boots m 1).types target.mtname = m.types target.mtname := by
      intro target member
      exact (types target member).trans (if_neg fun converts => by cases converts.1)
    have straight₁ : ¬ Stuck (phone_after build sbin boots m 1) := by
      rw [Stuck, types₁ data (by decide), types₁ dbdata (by decide)]
      exact straight
    by_cases rfs : (phone_after build sbin boots m 1).types system.mtname = TYPE_RFS
    · refine ⟨2, by decide, boot_removes has_datadata (works 1 waits₁.stays) waits₁ ⟨?_, rfs⟩⟩
      exact fun target member => converted_unstuck straight₁ member
    · -- the second boot converts the system, the third one everything else
      obtain ⟨waits₂, types₂, _⟩ := boot_converts_system build (works 1 waits₁.stays) waits₁ rfs
      have straight₂ : ¬ Stuck (phone_after build sbin boots m 2) := by
        have apart : data.mtname ≠ system.mtname ∧ dbdata.mtname ≠ system.mtname := by decide
        change ¬ Stuck (boot build sbin (boots 1) (phone_after build sbin boots m 1))
        rw [Stuck, types₂, Function.update_of_ne apart.1, Function.update_of_ne apart.2]
        exact straight₁
      refine ⟨3, by decide, boot_removes has_datadata (works 2 waits₂.stays) waits₂ ⟨?_, ?_⟩⟩
      · exact fun target member => converted_unstuck straight₂ member
      · exact (congrFun types₂ _).trans (Function.update_self ..)
  refine ⟨⟨?_, fun straight => ?_⟩, three⟩
  · rintro ⟨n, removed⟩ stuck
    obtain ⟨⟨_, _, waits⟩, _⟩ := stuck_for_ever has_datadata waiting works stuck n
    exact waits.stays removed
  · obtain ⟨n, _, removed⟩ := three straight
    exact ⟨n, removed⟩

end

/-! ### A phone without Steam -/

section
variable {build : Build} {sbin : Option String} {b : Boot Tree} {m : Machine Tree}

theorem mount_partition_removed (target : Target) (created : (b.attempt target).answers = []) (removed : Removed m) :
    Removed (mount_partition b target m).2 := by
  refine mount_from_config_keeps (P := fun conf => conf.system_file = none)
    (fun _ missing => (set_conf_missing ..).mpr missing) (fun s missing => ?_) removed ..
  rw [created]
  exact missing

theorem stage7_removed (cache_type data_type dbdata_type : CInt) {w : Conversion.World} {chosen_item : Int}
    (removed : Removed m) : Removed (stage7 build w chosen_item cache_type data_type dbdata_type m) := by
  have cleared_removed : Removed (cleared build m) := by
    rw [Removed, cleared, without_requests]
    dsimp only
    split <;> simp only [set_conf_missing] <;> exact removed
  unfold stage7
  dsimp only
  split
  · refine keeps_conversion (I := Removed) (fun _ _ holds => holds) ?_ _ cleared_removed
    intro job _ m' removed
    rw [Removed, convert_partition_conf]
    split
    · exact (set_conf_missing ..).mpr removed
    · exact removed
  · exact cleared_removed

theorem mount_and_convert_removed (created : ∀ target ∈ targets, (b.attempt target).answers = []) (removed : Removed m) :
    Removed (mount_and_convert build b m) := by
  have of_cache := mount_partition_removed cache (created cache (by decide)) removed
  have of_data := mount_partition_removed data (created data (by decide)) of_cache
  unfold mount_and_convert
  apply stage7_removed
  cases build.HAS_DATADATA with
  | false => exact of_data
  | true => exact mount_partition_removed dbdata (created dbdata (by decide)) of_data

theorem stage5_removed (unconfirmed : b.confirmed = false) (removed : Removed m) : Removed (stage5 b m).2 := by
  unfold stage5
  split
  · exact removed
  · simp only [unconfirmed, Bool.and_false, Bool.false_eq_true, ↓reduceIte]
    exact (set_conf_missing ..).mpr removed

theorem set_all_removed {conf : Conf} (writes : Writes) (removed : conf.system_file = none) :
    (set_all conf writes).system_file = none := by
  induction writes generalizing conf with
  | nil => exact removed
  | cons write rest ih => exact ih ((set_conf_missing ..).mpr removed)

theorem ask_for_rfs_removed {conf : Conf} (removed : conf.system_file = none) : (ask_for_rfs conf).system_file = none := by
  have asked := set_all_removed (partitions.map fun target => (target.convertto, some "1")) removed
  rwa [set_all, List.foldl_map] at asked

theorem do_steam_uninstall_removed {conf : Conf} (removes : Bool) (removed : conf.system_file = none) :
    (do_steam_uninstall removes conf).2.system_file = none := by
  unfold do_steam_uninstall
  split_ifs
  · rfl
  · exact removed
  · exact ask_for_rfs_removed removed

theorem upgrade_or_uninstall_removed {conf : Conf} (b : Boot Tree) (removed : conf.system_file = none) :
    (upgrade_or_uninstall b conf).2.system_file = none := by
  have upgraded : (if get_conf_def conf "steam.upgrade" "0" = "1" then do_steam_upgrade conf else conf).system_file =
      none := by
    split
    · exact (set_conf_missing ..).mpr removed
    · exact removed
  rw [upgrade_or_uninstall]
  generalize (if get_conf_def conf "steam.upgrade" "0" = "1" then do_steam_upgrade conf else conf) = next at upgraded ⊢
  split
  · exact do_steam_uninstall_removed b.removes upgraded
  · exact upgraded

theorem recovery_removed {conf : Conf} (build : Build) (b : Boot Tree) (removed : conf.system_file = none) :
    (recovery build b conf).2.system_file = none := by
  unfold recovery
  dsimp only
  split
  · exact removed
  · split
    · rename_i installed ran
      have sets : do_steam_install build b (init_conf conf).1 = some installed := by
        split at ran
        · exact ran
        · cases ran
      unfold do_steam_install at sets
      split at sets
      · cases sets
        exact (set_conf_missing ..).mpr (set_all_removed b.package removed)
      · cases sets
    · exact upgrade_or_uninstall_removed b removed

/-- Once Steam is gone, no boot brings it back, unless the user has it installed again, or
    converts the system. -/
theorem removed_stays (refused : b.chosen_item ≠ 0) (unconfirmed : b.confirmed = false)
    (created : ∀ target ∈ targets, (b.attempt target).answers = []) (removed : Removed m) :
    Removed (boot build sbin b m) := by
  have unchecked : Removed (checked sbin b m) := by
    rw [Removed, checked, check_for_steam, show m.state.conf.system_file = none from removed]
    simp only [refused, ↓reduceIte]
    exact removed
  have behind : Removed (stage5 b (begun b (checked sbin b m))).2 :=
    stage5_removed unconfirmed ((set_conf_missing ..).mpr unchecked)
  rw [boot_eq]
  split
  · exact recovery_removed build b (mount_and_convert_removed created behind)
  · exact behind

end

/-! ### A phone with ext4 -/

/-- Every step works. -/
def boot_works (system_type : CInt) : Boot Unit where
  chosen_item := 1
  system_type := system_type
  tables := Volumes.no_tables
  confirmed := true
  start_tables := Volumes.no_tables
  others := ()
  archive := .missing
  system := { SystemConversion.each_works with password := "secret" }
  makes := true
  left := none
  attempt _ := ⟨Volumes.all_work, ⟨Volumes.all_work, fun _ => false, fun _ => false, none⟩, Volumes.all_work, [],
    Volumes.all_work⟩
  picked := 0
  conversion := all_steps_work
  fromcache := false
  mounts _ := true
  package := []
  removes := true

/-- What a phone has on record that has something to do. -/
def phone_entries (work type : String) : List (String × String) :=
  [(work, "1"), ("fs.system.type", type), ("fs.data.type", type), ("fs.dbdata.type", type), ("fs.cache.type", type)]

/-- Every partition has ext4, and Steam is to be removed. -/
def ext4_phone : Machine Unit where
  flash := ⟨fun _ => .whole (), fun _ => none, []⟩
  types _ := TYPE_EXT4
  reformatted := []
  state := ⟨Volumes.no_tables, ⟨phone_entries "steam.uninstallation" "4", by decide,
    some (print_entries (phone_entries "steam.uninstallation" "4")), true, fun _ => none⟩⟩
  secret := none

/-- The system has RFS from the third boot on, and behind it, nothing more is asked for. -/
def ext4_boots : Nat → Boot Unit
  | 0 | 1 => boot_works TYPE_EXT4
  | 2 => boot_works TYPE_RFS
  | _ => { boot_works TYPE_RFS with confirmed := false }

theorem phone_entries_plain {work : String} (plain : PlainKey work) {type : String} (plain_type : PlainValue type) :
    ∀ n ∈ phone_entries work type, PlainEntry n := by
  have keys : ∀ target ∈ partitions, PlainKey target.type := fun target member => (partition_key_plain member).1
  simp only [phone_entries, List.forall_mem_cons, List.not_mem_nil, false_imp_iff, implies_true, and_true]
  have one : PlainValue "1" := ⟨⟨by decide, by decide⟩, by decide⟩
  exact ⟨⟨plain, one⟩, ⟨keys system (by decide), plain_type⟩,
    ⟨keys data (by decide), plain_type⟩, ⟨keys dbdata (by decide), plain_type⟩, ⟨keys cache (by decide), plain_type⟩⟩

theorem ext4_phone_waits : Waiting none false false ext4_phone := by
  have plain : AllPlain ext4_phone.state.conf :=
    phone_entries_plain ⟨⟨by decide, by decide⟩, by decide, by decide, by decide⟩ (sprintf_d_plain TYPE_EXT4)
  have current : diff none ext4_phone.state.conf.system_file = false := by
    have versions : ∀ key ∈ version_keys, version_of ext4_phone.state.conf.system_file key = "" := by
      intro key member
      rw [version_of_saved plain rfl]
      revert key
      decide
    rw [diff, versions _ (by decide), versions _ (by decide), versions _ (by decide)]
    decide
  have base : has TYPE_EXT4 TYPE_FSTYPE_MASK = true := by decide
  have on_record : ∀ target ∈ partitions, get_conf ext4_phone.state.conf target.type = some (sprintf_d TYPE_EXT4) := by
    decide
  refine ⟨⟨rfl, rfl, plain, current, by decide, by decide, by decide, by decide, ?_, fun _ _ => rfl⟩,
    ⟨by decide, by decide⟩, fun _ _ => base⟩
  intro target member value found
  rw [on_record target member] at found
  exact ⟨TYPE_EXT4, (Option.some.inj found).symm⟩

/-- The types that the partitions of this phone have. -/
def Plain (type : CInt) : Prop := type = TYPE_EXT4 ∨ type = TYPE_RFS

theorem plain_mounts {type : CInt} (plain : Plain type) (partition loopname mtname : String) (secret : Option String)
    (t : Tables) : (Volumes.check_and_mount Volumes.all_work type partition loopname mtname secret t).1 = 0 := by
  have masks : has type TYPE_FSTYPE_MASK = true ∧ has type TYPE_CRYPT = false ∧ has type TYPE_LOOP = false := by
    rcases plain with rfl | rfl <;> decide
  have known : ∃ kind options code, ∀ from_path to_path, Volumes.base_mount type from_path to_path =
      some ⟨.mount kind options from_path to_path, code, true⟩ := by
    rcases plain with rfl | rfl <;> exact ⟨_, _, _, fun _ _ => rfl⟩
  obtain ⟨kind, options, code, found⟩ := known
  simp [Volumes.check_and_mount, Volumes.mount_layers, masks, found, Volumes.Outcomes.call, Volumes.Cmd.run,
    Volumes.Cmd.possible, Volumes.all_work]

theorem boot_works_works {m : Machine Unit} {type : CInt} (finds : type = m.types system.mtname) (system_plain : Plain type)
    (plain : ∀ target ∈ targets, Plain (m.types target.mtname)) (recorded : ∀ target ∈ targets, Recorded m target) :
    Works (boot_works type) m := by
  have typed : (boot_works type).system.password ≠ "" := by
    show "secret" ≠ ""
    decide
  refine ⟨finds, rfl, ⟨_, _, rfl, by decide⟩, ⟨rfl, rfl⟩, ?_, ?_, ⟨fun _ => rfl, fun _ => rfl, typed, rfl⟩, fun _ _ => rfl,
    ?_, ⟨Int.le_refl 0, (by decide : (0 : Int) ≠ 4)⟩, all_steps_succeed, rfl, rfl⟩
  · rcases system_plain with rfl | rfl <;> exact fun _ => rfl
  · rcases system_plain with rfl | rfl <;> exact fun _ _ _ => rfl
  · intro target member m' types record
    have stored : stored_type m'.state.conf target.type = m.types target.mtname := by
      rw [stored_type, get_conf_def, record, recorded target member, Option.getD_some, sscanf_sprintf, Option.getD_some]
    have base : has (m.types target.mtname) TYPE_FSTYPE_MASK = true := by
      rcases plain target member with same | same <;> rw [same] <;> decide
    have mounted := plain_mounts (plain target member)
    simp only [mount_partition, mount_from_config_or_autodetect, stored, base, boot_works, mounted, ↓reduceIte, types]

def ext4_after (n : Nat) : Machine Unit := phone_after ⟨true, true⟩ none ext4_boots ext4_phone n

theorem ext4_after_succ (n : Nat) : ext4_after (n + 1) = boot ⟨true, true⟩ none (ext4_boots n) (ext4_after n) := rfl

/-- The first boot asks for RFS. -/
theorem ext4_phone_asks : Works (ext4_boots 0) (ext4_after 0) ∧ Waiting none true true (ext4_after 1) ∧
    ∀ target ∈ partitions, (ext4_after 1).types target.mtname = TYPE_EXT4 ∧ Recorded (ext4_after 1) target := by
  have on_record : ∀ target ∈ targets, get_conf ext4_phone.state.conf target.type = some (sprintf_d TYPE_EXT4) := by decide
  have works : Works (boot_works TYPE_EXT4) ext4_phone := boot_works_works rfl (.inl rfl) (fun _ _ => .inl rfl) on_record
  have other : ¬ AllRfs false ext4_phone.types := fun all => absurd all.2 (show TYPE_EXT4 ≠ TYPE_RFS by decide)
  obtain ⟨waits, types, of_system, recorded⟩ :=
    boot_asks (show (⟨true, true⟩ : Build).HAS_DATADATA = true from rfl) works ext4_phone_waits (by simp) other
  rw [show boot ⟨true, true⟩ none (boot_works TYPE_EXT4) ext4_phone = ext4_after 1 from rfl] at waits types of_system recorded
  refine ⟨works, waits, fun target member => ⟨?_, recorded target member⟩⟩
  have listed : target ∈ targets ∨ target = system := by
    revert target
    decide
  rcases listed with one | rfl
  · exact (types target one).trans (if_neg fun converts => by cases converts.1)
  · exact of_system

/-- The second boot converts the system. -/
theorem ext4_phone_converts : Works (ext4_boots 1) (ext4_after 1) ∧ Waiting none false true (ext4_after 2) ∧
    (ext4_after 2).types system.mtname = TYPE_RFS ∧
    ∀ target ∈ targets, (ext4_after 2).types target.mtname = TYPE_EXT4 ∧ Recorded (ext4_after 2) target := by
  obtain ⟨_, waits, asked⟩ := ext4_phone_asks
  have ext4 := fun target member => (asked target (target_listed target member)).1
  have of_system := (asked system (by decide)).1
  have works : Works (boot_works TYPE_EXT4) (ext4_after 1) :=
    boot_works_works of_system.symm (.inl rfl) (fun target member => .inl (ext4 target member))
      fun target member => (asked target (target_listed target member)).2
  have unlike : (ext4_after 1).types system.mtname ≠ TYPE_RFS := by
    rw [of_system]
    decide
  obtain ⟨waits₂, types, kept⟩ := boot_converts_system ⟨true, true⟩ works waits unlike
  rw [show boot ⟨true, true⟩ none (boot_works TYPE_EXT4) (ext4_after 1) = ext4_after 2 from rfl] at waits₂ types kept
  have same : ∀ target ∈ targets, (ext4_after 2).types target.mtname = (ext4_after 1).types target.mtname := by
    intro target member
    rw [types]
    refine Function.update_of_ne ?_ _ _
    revert target
    decide
  refine ⟨works, waits₂, ?_, fun target member => ⟨(same target member).trans (ext4 target member), ?_⟩⟩
  · rw [types]
    exact Function.update_self ..
  · rw [Recorded, kept target member, same target member]
    exact (asked target (target_listed target member)).2

/-- The third boot converts the rest, and removes Steam. -/
theorem ext4_phone_removes : Works (ext4_boots 2) (ext4_after 2) ∧ Removed (ext4_after 3) := by
  obtain ⟨_, waits, rfs, others⟩ := ext4_phone_converts
  have works : Works (boot_works TYPE_RFS) (ext4_after 2) :=
    boot_works_works rfs.symm (.inr rfl) (fun target member => .inl (others target member).1)
      fun target member => (others target member).2
  have straight : ¬ Stuck (ext4_after 2) := by
    intro stuck
    have data_type := (others data (by decide)).1
    rw [Stuck, data_type] at stuck
    exact absurd stuck.1 (by decide)
  have removed := boot_removes (show (⟨true, true⟩ : Build).HAS_DATADATA = true from rfl) works waits
    ⟨fun target member => converted_unstuck straight member, rfs⟩
  rw [show boot ⟨true, true⟩ none (boot_works TYPE_RFS) (ext4_after 2) = ext4_after 3 from rfl] at removed
  exact ⟨works, removed⟩

/-- Behind the third boot, Steam is gone. -/
theorem ext4_phone_removed (n : Nat) : Removed (ext4_after (n + 3)) := by
  induction n with
  | zero => exact ext4_phone_removes.2
  | succ n ih =>
    rw [show n + 1 + 3 = n + 3 + 1 from rfl, ext4_after_succ]
    exact removed_stays (show (1 : Nat) ≠ 0 from Nat.one_ne_zero) rfl (fun _ _ => rfl) ih

theorem ext4_phone_works (n : Nat) (remains : ¬ Removed (ext4_after n)) : Works (ext4_boots n) (ext4_after n) := by
  by_cases early : n < 3
  · obtain rfl | rfl | rfl : n = 0 ∨ n = 1 ∨ n = 2 := by omega
    · exact ext4_phone_asks.1
    · exact ext4_phone_converts.1
    · exact ext4_phone_removes.1
  · obtain ⟨later, rfl⟩ := Nat.exists_eq_add_of_le' (Nat.not_lt.mp early)
    exact absurd (ext4_phone_removed later) remains

theorem ext4_phone_uninstalled :
    ((∃ n, Removed (phone_after ⟨true, true⟩ none ext4_boots ext4_phone n)) ↔ ¬ Stuck ext4_phone) ∧
      (¬ Stuck ext4_phone → ∃ n ≤ 3, Removed (phone_after ⟨true, true⟩ none ext4_boots ext4_phone n)) :=
  uninstalled_iff rfl ext4_phone_waits ext4_phone_works

end SteamRecovery.Uninstalling
