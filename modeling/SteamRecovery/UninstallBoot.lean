import SteamRecovery.Uninstalling

/-!
One boot of a phone that is to lose Steam, where every step works. Stage 5 converts the
system and reboots (`boot_converts_system`); else stages 6 and 7 convert the other
partitions, and the recovery removes Steam where RFS is everywhere then (`boot_removes`),
and asks for it where it is not (`boot_asks`).
-/
namespace SteamRecovery.Uninstalling
open SteamRecovery.Devices
open SteamRecovery.Config
open SteamRecovery.ConfigFiles
open SteamRecovery.Upgrade
open SteamRecovery.Volumes (Tables)
open SteamRecovery.Autodetect
open SteamRecovery.Nandroid (Build)
open SteamRecovery.Conversion
open SteamRecovery.Stages

variable {Tree : Type}

/-! ### What the stages do -/

/-- The system is formatted and mounted again. -/
def remade (b : Boot Tree) (newfs : CInt) : List (SystemConversion.Call (Files Tree)) := [
  .filesystem_format b.system.format b.system.password b.system.erases newfs,
  .check_and_mount b.system.remount newfs]

/-- Every step of the boot works, and the user agrees to the conversions. -/
structure Works (b : Boot Tree) (m : Machine Tree) : Prop where
  finds : b.system_type = m.types system.mtname
  confirmed : b.confirmed = true
  /-- There is space for the archive. -/
  space : ∃ round rest, b.system.rounds = round :: rest ∧
    ¬(SystemConversion.measure round 0 2147483647).1 < (SystemConversion.measure round 0 2147483647).2
  saves : b.system.tar_create = 0 ∧ b.system.tar_extract = 0
  /-- The system is mounted at `/tmp/sys` to be packed, and again to be unpacked. -/
  held : ∀ steam_conf, MountTables.mounted_at "/tmp/sys"
    (SystemConversion.after (b.start steam_conf) (SystemConversion.mounts b.world b.system_type)).tables.mounts = true
  refills : ∀ steam_conf free used, MountTables.mounted_at "/tmp/sys" (SystemConversion.after (b.start steam_conf)
    (SystemConversion.calls_before b.world b.system_type [] free used ++ remade b TYPE_RFS)).tables.mounts = true
  formats : (∀ cmd, b.system.format.ok cmd = true) ∧ (∀ partition, b.system.format.isLuks partition = true) ∧
    b.system.password ≠ "" ∧ b.makes = true
  /-- Nothing has to be created, and what is there is mounted under its type. -/
  created : ∀ target ∈ targets, (b.attempt target).answers = []
  mounts : ∀ target ∈ targets, ∀ m' : Machine Tree, m'.types = m.types →
    get_conf m'.state.conf target.type = get_conf m.state.conf target.type →
    (mount_partition b target m').1 = m'.types target.mtname
  picked : 0 ≤ b.picked ∧ b.picked ≠ 4
  converts : Succeeds b.conversion
  own : b.fromcache = false
  removes : b.removes = true

section
variable {sbin : Option String} {b : Boot Tree} {m : Machine Tree}

theorem types_after_idle (makes : Bool) (s : SystemConversion.Machine (Files Tree)) (type : CInt)
    {calls : List (SystemConversion.Call (Files Tree))} (idle : ∀ call ∈ calls, call.formats = false)
    (rest : List (SystemConversion.Call (Files Tree))) :
    types_after makes s type (calls ++ rest) = types_after makes (SystemConversion.after s calls) type rest := by
  induction calls generalizing s with
  | nil => rfl
  | cons call calls ih =>
    obtain ⟨first, later⟩ := List.forall_mem_cons.mp idle
    have same : type_after makes s type call = type := by
      cases call with
      | filesystem_format => cases first
      | _ => rfl
    rw [List.cons_append, types_after, same, ih _ later]
    rfl

/-- The calls of a conversion that works. -/
theorem works_calls (works : Works b m) (conf : Conf) (fromfstype newtype : CInt) :
    ∃ free used, SystemConversion.convert_system conf b.world fromfstype newtype =
      SystemConversion.calls_before b.world fromfstype [] free used ++
        (remade b newtype ++ .tar_extract 0 :: SystemConversion.finish b.world) := by
  obtain ⟨round, rest, rounds, enough⟩ := works.space
  refine ⟨(SystemConversion.measure round 0 2147483647).1, (SystemConversion.measure round 0 2147483647).2, ?_⟩
  have world : b.world.rounds = round :: rest := rounds
  have unpacked : b.world.tar_extract = 0 := works.saves.2
  have short : (0 : UInt64) < 2147483647 := by decide
  simp only [SystemConversion.convert_system, world, SystemConversion.space_loop, short, ↓reduceIte, enough,
    SystemConversion.convert, unpacked, ne_eq, not_true_eq_false]
  simp [SystemConversion.calls_before, remade, Boot.world]

/-- A conversion of the system that works leaves the type asked for. -/
theorem types_after_conversion (works : Works b m) (conf : Conf) (fromfstype : CInt) {newtype : CInt} (valid : ValidType newtype)
    (s : SystemConversion.Machine (Files Tree)) (type : CInt) :
    types_after b.makes s type (SystemConversion.convert_system conf b.world fromfstype newtype) = newtype := by
  obtain ⟨ok, luks, _, makes⟩ := works.formats
  obtain ⟨free, used, calls⟩ := works_calls works conf fromfstype newtype
  have before : ∀ call ∈ SystemConversion.calls_before b.world fromfstype [] free used, call.formats = false := by
    have starts := SystemConversion.mounts_formats b.world fromfstype
    rw [SystemConversion.calls_before, List.append_nil]
    exact List.forall_mem_append.mpr ⟨starts, by simp [SystemConversion.Call.formats]⟩
  have behind : ∀ call ∈ .check_and_mount b.system.remount newtype :: .tar_extract 0 :: SystemConversion.finish b.world,
      call.formats = false :=
    List.forall_mem_cons.mpr ⟨rfl, List.forall_mem_cons.mpr ⟨rfl, SystemConversion.finish_formats b.world⟩⟩
  have formatted : ∀ t, (filesystem_format b.system.format b.system.password newtype SYSTEM_BLOCK_NAME none t).1 = newtype :=
    fun t => filesystem_format_works ok luks works.formats.2.2.1 newtype SYSTEM_BLOCK_NAME none t
  rw [calls, types_after_idle b.makes s type before, remade, List.cons_append, List.singleton_append, types_after]
  simp only [type_after, makes, valid.1, formatted, decide_true, Bool.and_self, ↓reduceIte, valid.2]
  have later := types_after_idle true ((SystemConversion.Call.filesystem_format b.system.format b.system.password
    b.system.erases newtype).effect (SystemConversion.after s
      (SystemConversion.calls_before b.world fromfstype [] free used))) newtype behind []
  rw [List.append_nil] at later
  rw [later, types_after]

/-- Mounting changes nothing on the system. -/
theorem mounts_system (w : SystemConversion.World (Files Tree)) (fromfstype : CInt)
    (s : SystemConversion.Machine (Files Tree)) :
    (SystemConversion.after s (SystemConversion.mounts w fromfstype)).system = s.system := by
  unfold SystemConversion.mounts
  split <;> rfl

theorem sed_system (edit : Files Tree → Files Tree) (s : SystemConversion.Machine (Files Tree)) :
    (SystemConversion.Call.effect s (.sed edit)).system = s.system ∨
      (SystemConversion.Call.effect s (.sed edit)).system = s.system.map edit := by
  rw [SystemConversion.Call.effect]
  split
  · exact .inr rfl
  · exact .inl rfl

/-- At the end nothing but `sed` changes the system. -/
theorem finish_system (b : Boot Tree) (s : SystemConversion.Machine (Files Tree)) :
    (SystemConversion.after s (SystemConversion.finish b.world)).system = s.system ∨
      (SystemConversion.after s (SystemConversion.finish b.world)).system = s.system.map clear_rfs :=
  sed_system clear_rfs (SystemConversion.after s ((SystemConversion.finish b.world).take 3))

/-- A conversion of the system that works brings its configuration back. -/
theorem works_restores (works : Works b m) : Restores b TYPE_RFS := by
  intro conf
  obtain ⟨free, used, calls⟩ := works_calls works conf b.system_type TYPE_RFS
  have packed : (SystemConversion.after (b.start conf.system_file)
      (SystemConversion.calls_before b.world b.system_type [] free used)).archive =
        .copy (some ⟨conf.system_file, b.others⟩) := by
    have mounted := works.held conf.system_file
    have whole := mounts_system b.world b.system_type (b.start conf.system_file)
    have created : b.world.tar_create = 0 := works.saves.1
    rw [SystemConversion.calls_before, List.append_nil, SystemConversion.after_append, created]
    generalize SystemConversion.after (b.start conf.system_file) (SystemConversion.mounts b.world b.system_type) = s at mounted whole ⊢
    rw [SystemConversion.written_archive, SystemConversion.Machine.held, if_pos mounted, whole]
    rfl
  have refilled : (SystemConversion.after (b.start conf.system_file) (SystemConversion.calls_before b.world b.system_type []
      free used ++ (remade b TYPE_RFS ++ [.tar_extract 0]))).system = some ⟨conf.system_file, b.others⟩ := by
    have mounted := works.refills conf.system_file free used
    rw [← List.append_assoc, SystemConversion.after_append]
    have kept : (SystemConversion.after (b.start conf.system_file) (SystemConversion.calls_before b.world b.system_type []
        free used ++ remade b TYPE_RFS)).archive = .copy (some ⟨conf.system_file, b.others⟩) := by
      rw [SystemConversion.after_append]
      exact packed
    show SystemConversion.unpack 0 _ = _
    rw [SystemConversion.unpack, if_pos mounted, kept]
    rfl
  have list : SystemConversion.convert_system conf b.world b.system_type TYPE_RFS =
      (SystemConversion.calls_before b.world b.system_type [] free used ++ (remade b TYPE_RFS ++ [.tar_extract 0])) ++
        SystemConversion.finish b.world := by
    rw [calls]
    simp
  rw [list, SystemConversion.after_append]
  generalize SystemConversion.after (b.start conf.system_file) (SystemConversion.calls_before b.world b.system_type []
    free used ++ (remade b TYPE_RFS ++ [.tar_extract 0])) = s at refilled ⊢
  rcases finish_system b s with ends | ends
  · simp [found_conf, ends, refilled]
  · simp [found_conf, ends, refilled, clear_rfs]

theorem stage5_idle {of_others : Bool} (pending : Pending m.state.conf false of_others) : stage5 b m = (true, m) := by
  have none : get_conf m.state.conf system.convertto = none := pending.system
  rw [stage5, none]

/-- The request is taken; the system is converted, unless it has RFS, and then the boot goes on. -/
theorem stage5_asked (works : Works b m) (leaving : Leaving sbin m.state.conf) {of_others : Bool}
    (pending : Pending m.state.conf true of_others) :
    stage5 b m = (decide (m.types system.mtname = TYPE_RFS), { m with
      types := Function.update m.types system.mtname TYPE_RFS
      state := { m.state with conf := set_conf m.state.conf system.convertto none } }) := by
  have asked : get_conf m.state.conf system.convertto = some "1" := pending.system
  have read : (sscanf_d "1").getD 0 = TYPE_RFS := by decide
  have base : has TYPE_RFS TYPE_FSTYPE_MASK = true := by decide
  simp only [stage5, asked, read, base, works.finds, works.confirmed, Bool.true_and, Bool.and_true]
  by_cases same : m.types system.mtname = TYPE_RFS
  · have kept : Function.update m.types system.mtname TYPE_RFS = m.types := by
      rw [← same]
      exact Function.update_eq_self _ _
    simp [same, kept]
  · have valid : ValidType TYPE_RFS := ⟨by decide, by decide⟩
    have made := types_after_conversion works (set_conf m.state.conf system.convertto none) (m.types system.mtname) valid
      (b.start (set_conf m.state.conf system.convertto none).system_file) (m.types system.mtname)
    have restored := works_restores works (set_conf m.state.conf system.convertto none)
    have cleared := (leaving.set (.taken (show system ∈ partitions by decide))).cleared
    rw [cleared, works.finds, List.mem_cons, List.mem_singleton, or_self] at restored
    simp only [same, decide_false, ↓reduceIte, made, restored, ne_eq, not_false_eq_true, decide_true]

theorem mount_found_conf {o : Volumes.Outcomes} {fstype : CInt} {target : Target} (secret : Option String) (s : State)
    (base : has (mount_found o fstype target.type target.partition target.loopname target.mtname secret s).1
      TYPE_FSTYPE_MASK = true) :
    (mount_found o fstype target.type target.partition target.loopname target.mtname secret s).2.2.conf =
      set_conf s.conf target.type (some (sprintf_d
        (mount_found o fstype target.type target.partition target.loopname target.mtname secret s).1)) := by
  have none : ¬ has 0 TYPE_FSTYPE_MASK = true := by decide
  unfold mount_found at base ⊢
  by_cases found : has fstype TYPE_FSTYPE_MASK = true
  · simp only [found, ↓reduceIte] at base ⊢
    split at base
    · rename_i ran
      simp [ran]
    · exact absurd base none
  · rw [if_neg found] at base
    exact absurd base none

/-- Mounting writes no key but the type, and leaves the type that it returns on record. -/
theorem mount_from_config_conf {a : Attempt} (created : a.answers = []) {target : Target} (member : target ∈ partitions)
    {secret : Option String} {s : State} (leaving : Leaving sbin s.conf) {type : CInt} {secret' : Option String} {s' : State}
    (mounted : mount_from_config_or_autodetect a target.type target.partition target.loopname target.mtname secret s =
      (type, secret', s')) (base : has type TYPE_FSTYPE_MASK = true) :
    (s'.conf = s.conf ∨ s'.conf = set_conf s.conf target.type (some (sprintf_d type))) ∧
      get_conf s'.conf target.type = some (sprintf_d type) := by
  have written : ∀ {o fstype given tables}, mount_found o fstype target.type target.partition target.loopname
      target.mtname given ⟨tables, s.conf⟩ = (type, secret', s') →
      (s'.conf = s.conf ∨ s'.conf = set_conf s.conf target.type (some (sprintf_d type))) ∧
        get_conf s'.conf target.type = some (sprintf_d type) := by
    intro o fstype given tables found
    have conf := mount_found_conf (o := o) given ⟨tables, s.conf⟩ (by rw [found]; exact base)
    rw [found] at conf
    exact ⟨.inr conf, by rw [conf]; exact get_conf_set_self leaving.stored _ _⟩
  unfold mount_from_config_or_autodetect autodetect at mounted
  rw [created] at mounted
  dsimp only [filesystem_create] at mounted
  split_ifs at mounted with stored ran probed
  · obtain ⟨rfl, _, rfl⟩ := mounted
    refine ⟨.inl rfl, ?_⟩
    cases found : get_conf s.conf target.type with
    | none =>
      have nothing : stored_type s.conf target.type = 0 := by
        rw [stored_type, get_conf_def, found]
        decide
      rw [nothing] at stored
      cases stored
    | some value =>
      obtain ⟨n, rfl⟩ := leaving.recorded target member value found
      simp [stored_type, get_conf_def, found, sscanf_sprintf]
  all_goals exact written mounted

/-- Stage 6 finds the type of a partition, and leaves it on record. -/
theorem mount_partition_works (works : Works b m) {target : Target} (member : target ∈ targets) {m' : Machine Tree}
    (types : m'.types = m.types)
    (record : get_conf m'.state.conf target.type = get_conf m.state.conf target.type)
    (leaving : Leaving sbin m'.state.conf) (base : has (m.types target.mtname) TYPE_FSTYPE_MASK = true) :
    (mount_partition b target m').1 = m.types target.mtname ∧ (mount_partition b target m').2.types = m.types ∧
      Leaving sbin (mount_partition b target m').2.state.conf ∧ Recorded (mount_partition b target m').2 target ∧
      ∀ key, key ≠ target.type →
        get_conf (mount_partition b target m').2.state.conf key = get_conf m'.state.conf key := by
  have finds := works.mounts target member m' types record
  obtain ⟨type, secret, state, mounted⟩ : ∃ type secret state, mount_from_config_or_autodetect (b.attempt target)
      target.type target.partition target.loopname target.mtname m'.secret m'.state = (type, secret, state) :=
    ⟨_, _, _, rfl⟩
  have result : mount_partition b target m' = (type, { m' with secret := secret, state := state }) := by
    rw [mount_partition, mounted]
  rw [result, types] at finds
  have found : type = m.types target.mtname := finds
  rw [result]
  obtain ⟨conf, recorded⟩ := mount_from_config_conf (works.created target member) (target_listed target member) leaving
    mounted (by rw [found]; exact base)
  refine ⟨found, types, ?_, ?_, ?_⟩
  · rcases conf with same | written
    · exact same ▸ leaving
    · exact written ▸ leaving.set (.type (target_listed target member) _)
  · rw [Recorded]
    rw [recorded, found, types]
  · intro key other
    rcases conf with same | written
    · rw [same]
    · rw [written, get_conf_set_other _ other]

/-- Stage 6 leaves every type on record, and stage 7 starts from the types that are there. -/
theorem stage6_works {build : Build} (has_datadata : build.HAS_DATADATA = true) (works : Works b m) {m' : Machine Tree}
    (types : m'.types = m.types)
    (records : ∀ target ∈ targets, get_conf m'.state.conf target.type = get_conf m.state.conf target.type)
    (leaving : Leaving sbin m'.state.conf) (bases : ∀ target ∈ targets, has (m.types target.mtname) TYPE_FSTYPE_MASK = true) :
    ∃ mounted : Machine Tree, mount_and_convert build b m' = own_stage7 build b.conversion b.picked mounted ∧
      mounted.types = m.types ∧ Leaving sbin mounted.state.conf ∧ (∀ target ∈ targets, Recorded mounted target) ∧
      ∀ key, (∀ target ∈ targets, key ≠ target.type) →
        get_conf mounted.state.conf key = get_conf m'.state.conf key := by
  obtain ⟨in_cache, in_data, in_dbdata⟩ : cache ∈ targets ∧ data ∈ targets ∧ dbdata ∈ targets := by decide
  obtain ⟨data_cache, dbdata_cache, dbdata_data⟩ :
      data.type ≠ cache.type ∧ dbdata.type ≠ cache.type ∧ dbdata.type ≠ data.type := by decide
  obtain ⟨type₁, types₁, leaving₁, recorded₁, kept₁⟩ :=
    mount_partition_works works in_cache types (records cache in_cache) leaving (bases cache in_cache)
  have record₁ : get_conf (mount_partition b cache m').2.state.conf data.type = get_conf m.state.conf data.type := by
    rw [kept₁ _ data_cache, records data in_data]
  obtain ⟨type₂, types₂, leaving₂, recorded₂, kept₂⟩ :=
    mount_partition_works works in_data types₁ record₁ leaving₁ (bases data in_data)
  have record₂ : get_conf (mount_partition b data (mount_partition b cache m').2).2.state.conf dbdata.type =
      get_conf m.state.conf dbdata.type := by
    rw [kept₂ _ dbdata_data, kept₁ _ dbdata_cache, records dbdata in_dbdata]
  obtain ⟨type₃, types₃, leaving₃, recorded₃, kept₃⟩ :=
    mount_partition_works works in_dbdata types₂ record₂ leaving₂ (bases dbdata in_dbdata)
  refine ⟨(mount_partition b dbdata (mount_partition b data (mount_partition b cache m').2).2).2, ?_, types₃, leaving₃, ?_, ?_⟩
  · simp only [mount_and_convert, has_datadata, ↓reduceIte, own_stage7, type₁, type₂, type₃, types₃]
  · intro target member
    simp only [targets, List.mem_cons, List.not_mem_nil, or_false] at member
    rcases member with rfl | rfl | rfl
    · rw [Recorded, kept₃ _ (Ne.symm dbdata_cache), kept₂ _ (Ne.symm data_cache), types₃, ← types₁]
      exact recorded₁
    · rw [Recorded, kept₃ _ (Ne.symm dbdata_data), types₃, ← types₂]
      exact recorded₂
    · exact recorded₃
  · intro key other
    rw [kept₃ _ (other dbdata in_dbdata), kept₂ _ (other data in_data), kept₁ _ (other cache in_cache)]

/-! ### Stage 7 -/

/-- The partition is asked to have RFS and has it not, and the request is not dropped. -/
def Converts (of_others : Bool) (types : String → CInt) (target : Target) : Prop :=
  of_others = true ∧ types target.mtname ≠ TYPE_RFS ∧ (target = dbdata → types data.mtname ≠ TYPE_RFS)

instance (of_others : Bool) (types : String → CInt) (target : Target) : Decidable (Converts of_others types target) :=
  inferInstanceAs (Decidable (_ ∧ _ ∧ (_ → _)))

variable {build : Build} {w : Conversion.World} {chosen_item : Int} {of_others of_system : Bool}

/-- A job of stage 7 that is asked for is that of a partition that is converted. -/
theorem job_converts (has_datadata : build.HAS_DATADATA = true) (pending : Pending m.state.conf of_system of_others)
    {job : Job} (member : job ∈ jobs build w (own_change build m)) (converts : job.asked = true) :
    Converts of_others m.types job.target ∧ job.newtype = TYPE_RFS := by
  obtain ⟨listed, ⟨present, other⟩, newtype⟩ := job_due has_datadata member converts
  rw [requested_pending pending listed] at present other newtype
  have asked : of_others = true := by
    by_contra unasked
    simp [unasked] at present
  subst asked
  refine ⟨⟨rfl, Ne.symm other, ?_⟩, newtype⟩
  intro same swapped
  have apart : cache ≠ dbdata ∧ data ≠ dbdata := by decide
  rw [jobs_all has_datadata, requested_pending pending (by decide : dbdata ∈ targets)] at member
  simp only [List.mem_cons, List.not_mem_nil, or_false] at member
  rcases member with rfl | rfl | rfl
  · exact absurd same apart.1
  · exact absurd same apart.2
  · simp [unless_same, swapped, Job.asked, Conversion.asked] at converts

/-- A partition that is converted has a job of stage 7. -/
theorem converts_job (has_datadata : build.HAS_DATADATA = true) (pending : Pending m.state.conf of_system of_others)
    {target : Target} (member : target ∈ targets) (converts : Converts of_others m.types target) :
    ∃ job ∈ jobs build w (own_change build m), job.asked = true ∧ job.target = target := by
  obtain ⟨rfl, other, straight⟩ := converts
  have rfs : ∀ target ∈ targets, requested m.state.conf target.convertto = TYPE_RFS :=
    fun target listed => requested_pending pending listed
  have present : TYPE_RFS ≠ 0 := by decide
  rw [jobs_all has_datadata, rfs cache (by decide), rfs data (by decide), rfs dbdata (by decide)]
  simp only [targets, List.mem_cons, List.not_mem_nil, or_false] at member
  rcases member with rfl | rfl | rfl
  · exact ⟨_, List.mem_cons_self, (asked_unless_same _ _).mpr ⟨present, Ne.symm other⟩, rfl⟩
  · exact ⟨_, List.mem_cons_of_mem _ List.mem_cons_self, (asked_unless_same _ _).mpr ⟨present, Ne.symm other⟩, rfl⟩
  · refine ⟨_, List.mem_cons_of_mem _ (List.mem_cons_of_mem _ List.mem_cons_self), ?_, rfl⟩
    simpa [Job.asked, Conversion.asked, unless_same, Ne.symm (straight rfl)] using ⟨present, other⟩

theorem without_requests_leaving (has_datadata : build.HAS_DATADATA = true) (leaving : Leaving sbin m.state.conf) :
    Leaving sbin (without_requests build m.state.conf) := by
  simp only [without_requests, has_datadata, ↓reduceIte]
  exact ((leaving.set (.taken (by decide))).set (.taken (by decide))).set (.taken (by decide))

theorem stage7_leaving (has_datadata : build.HAS_DATADATA = true) (leaving : Leaving sbin m.state.conf) :
    Leaving sbin (own_stage7 build w chosen_item m).state.conf := by
  refine keeps_stage7 (I := fun m' => Leaving sbin m'.state.conf) ⟨fun _ _ holds => holds, fun _ _ holds => holds⟩ ?_
    (without_requests_leaving has_datadata leaving)
  intro job member m' leaving
  rw [convert_partition_conf]
  split
  · rename_i converts
    exact leaving.set (.type (target_listed _ (job_due has_datadata member converts).1) _)
  · exact leaving

/-- Behind the requests, stage 7 writes only the types of what it converts. -/
theorem stage7_conf {key : String}
    (idle : ∀ job ∈ jobs build w (own_change build m), job.asked = true → key ≠ job.target.type) :
    get_conf (own_stage7 build w chosen_item m).state.conf key = get_conf (without_requests build m.state.conf) key := by
  refine keeps_stage7 (I := fun m' => get_conf m'.state.conf key = get_conf (without_requests build m.state.conf) key)
    ⟨fun _ _ holds => holds, fun _ _ holds => holds⟩ ?_ rfl
  intro job member m' same
  rw [convert_partition_conf]
  split
  · rename_i converts
    rw [get_conf_set_other _ (idle job member converts), same]
  · exact same

theorem without_requests_other (conf : Conf) {key : String} (other : ∀ target ∈ targets, key ≠ target.convertto) :
    get_conf (without_requests build conf) key = get_conf conf key := by
  obtain ⟨of_cache, of_data, of_dbdata, -⟩ :
      key ≠ cache.convertto ∧ key ≠ data.convertto ∧ key ≠ dbdata.convertto ∧ True := by
    simpa only [targets, List.forall_mem_cons, List.not_mem_nil, false_imp_iff, implies_true] using other
  unfold without_requests
  dsimp only
  split
  · rw [get_conf_set_other _ of_dbdata, get_conf_set_other _ of_data, get_conf_set_other _ of_cache]
  · rw [get_conf_set_other _ of_data, get_conf_set_other _ of_cache]

/-- Stage 7 converts exactly those partitions, and the types stay on record. -/
theorem stage7_works (has_datadata : build.HAS_DATADATA = true) (picked : 0 ≤ chosen_item ∧ chosen_item ≠ 4)
    (succeeds : Succeeds w) (leaving : Leaving sbin m.state.conf) (pending : Pending m.state.conf of_system of_others)
    (recorded : ∀ target ∈ targets, Recorded m target) {target : Target} (member : target ∈ targets) :
    (own_stage7 build w chosen_item m).types target.mtname =
        (if Converts of_others m.types target then TYPE_RFS else m.types target.mtname) ∧
      Recorded (own_stage7 build w chosen_item m) target := by
  by_cases converts : Converts of_others m.types target
  · obtain ⟨job, inJobs, asked, rfl⟩ := converts_job (w := w) has_datadata pending member converts
    have newtype := (job_converts has_datadata pending inJobs asked).2
    have done := stage7_converts has_datadata picked succeeds inJobs asked (newtype ▸ ⟨by decide, by decide⟩)
      (without_requests_leaving has_datadata leaving).stored
    refine ⟨by rw [if_pos converts, done.type, newtype], ?_⟩
    rw [Recorded, get_conf, done.recorded, done.type]
  · have idle : ∀ job ∈ jobs build w (own_change build m), job.asked = true → target ≠ job.target := by
      rintro job inJobs asked rfl
      exact converts (job_converts has_datadata pending inJobs asked).1
    have apart : ∀ job ∈ jobs build w (own_change build m), job.asked = true →
        target.mtname ≠ job.target.mtname ∧ target.type ≠ job.target.type := by
      intro job inJobs asked
      have listed := target_listed _ (job_due has_datadata inJobs asked).1
      obtain ⟨_, by_type, _, by_name⟩ := keys_apart target (target_listed target member) job.target listed
      exact ⟨fun same => idle job inJobs asked (by_name same), fun same => idle job inJobs asked (by_type same)⟩
    have type_apart : ∀ job ∈ jobs build w (own_change build m), job.asked = true → target.mtname ≠ job.target.mtname :=
      fun job inJobs asked => (apart job inJobs asked).1
    refine ⟨by rw [if_neg converts, stage7_type_stays type_apart], ?_⟩
    rw [Recorded, stage7_conf fun job inJobs asked => (apart job inJobs asked).2, without_requests_other,
      stage7_type_stays type_apart]
    · exact recorded target member
    · exact fun other listed => (keys_apart target (target_listed target member) other (target_listed other listed)).1

/-! ### A boot -/

/-- What a phone that waits for a boot has: nothing but RFS is asked for, and on the
    partitions there are filesystems. -/
structure Waiting (sbin : Option String) (of_system of_others : Bool) (m : Machine Tree) : Prop where
  leaving : Leaving sbin m.state.conf
  pending : Pending m.state.conf of_system of_others
  bases : ∀ target ∈ targets, has (m.types target.mtname) TYPE_FSTYPE_MASK = true

/-- Steam is gone. -/
def Removed (m : Machine Tree) : Prop := m.state.conf.system_file = none

/-- The types that stage 7 leaves. -/
def converted (of_others : Bool) (types : String → CInt) (target : Target) : CInt :=
  if Converts of_others types target then TYPE_RFS else types target.mtname

theorem converted_base (of_others : Bool) {types : String → CInt} {target : Target}
    (base : has (types target.mtname) TYPE_FSTYPE_MASK = true) :
    has (converted of_others types target) TYPE_FSTYPE_MASK = true := by
  rw [converted]
  split
  · decide
  · exact base

/-- The phone once the type of the system is on record. -/
def begun (b : Boot Tree) (m : Machine Tree) : Machine Tree :=
  { m with
    reformatted := []
    state := ⟨b.tables, set_conf m.state.conf system.type (some (sprintf_d b.system_type))⟩
    secret := some "" }

/-- Writing the type of the system changes nothing else. -/
theorem begun_works (works : Works b m) (waiting : Waiting sbin of_system of_others m) :
    Waiting sbin of_system of_others (begun b m) ∧ Recorded (begun b m) system ∧
      ∀ target ∈ targets, get_conf (begun b m).state.conf target.type = get_conf m.state.conf target.type := by
  have in_partitions : system ∈ partitions := by decide
  have other : ∀ target ∈ partitions, get_conf (begun b m).state.conf target.convertto = get_conf m.state.conf target.convertto :=
    fun target member => get_conf_set_other _ (Ne.symm (keys_apart system in_partitions target member).1) _
  refine ⟨⟨waiting.leaving.set (.type in_partitions _), ⟨?_, ?_⟩, waiting.bases⟩, ?_, ?_⟩
  · rw [other system in_partitions, waiting.pending.system]
  · intro target member
    rw [other target (target_listed target member), waiting.pending.others target member]
  · rw [Recorded, begun, works.finds]
    exact get_conf_set_self waiting.leaving.stored _ _
  · intro target member
    apply get_conf_set_other
    intro same
    exact system_apart target member ((keys_apart target (target_listed target member) system in_partitions).2.1 same)

/-- The phone behind stage 4. -/
def checked (sbin : Option String) (b : Boot Tree) (m : Machine Tree) : Machine Tree :=
  { m with state := { m.state with conf := check_for_steam sbin b.chosen_item m.state.conf } }

/-- The recovery has looked at what Steam has to do. -/
def looked (build : Build) (b : Boot Tree) (m : Machine Tree) : Machine Tree :=
  { m with state := { m.state with conf := (recovery build b m.state.conf).2 } }

theorem boot_eq (build : Build) (sbin : Option String) (b : Boot Tree) (m : Machine Tree) :
    boot build sbin b m =
      if (stage5 b (begun b (checked sbin b m))).1 then
        looked build b (mount_and_convert build b (stage5 b (begun b (checked sbin b m))).2)
      else (stage5 b (begun b (checked sbin b m))).2 :=
  rfl

theorem boot_begins {build : Build} (leaving : Leaving sbin m.state.conf) :
    boot build sbin b m =
      if (stage5 b (begun b m)).1 then looked build b (mount_and_convert build b (stage5 b (begun b m)).2)
      else (stage5 b (begun b m)).2 := by
  have settled : checked sbin b m = m := by
    rw [checked, leaving.check]
  rw [boot_eq, settled]

theorem begun_keeps (works : Works b m)
    (records : ∀ target ∈ targets, get_conf (begun b m).state.conf target.type = get_conf m.state.conf target.type) :
    Works b (begun b m) := by
  refine ⟨works.finds, works.confirmed, works.space, works.saves, works.held, works.refills, works.formats, works.created, ?_,
    works.picked, works.converts, works.own, works.removes⟩
  intro target member m' types record
  exact works.mounts target member m' types (record.trans (records target member))

/-- Stage 5 takes the request for the system. -/
theorem stage5_works (works : Works b m) (waiting : Waiting sbin of_system of_others m) :
    (stage5 b m).1 = (!of_system || decide (m.types system.mtname = TYPE_RFS)) ∧
      (stage5 b m).2.types = (if of_system then Function.update m.types system.mtname TYPE_RFS else m.types) ∧
      Waiting sbin false of_others (stage5 b m).2 ∧
      (∀ target ∈ partitions, get_conf (stage5 b m).2.state.conf target.type = get_conf m.state.conf target.type) := by
  cases of_system with
  | false =>
    rw [stage5_idle waiting.pending]
    exact ⟨rfl, rfl, waiting, fun _ _ => rfl⟩
  | true =>
    have in_partitions : system ∈ partitions := by decide
    rw [stage5_asked works waiting.leaving waiting.pending]
    have kept : ∀ target ∈ targets, Function.update m.types system.mtname TYPE_RFS target.mtname = m.types target.mtname := by
      intro target member
      apply Function.update_of_ne
      intro same
      exact system_apart target member
        ((keys_apart target (target_listed target member) system in_partitions).2.2.2 same)
    refine ⟨rfl, rfl, ⟨waiting.leaving.set (.taken in_partitions), ⟨waiting.leaving.taken in_partitions, ?_⟩, ?_⟩, ?_⟩
    · intro target member
      rw [get_conf_set_other, waiting.pending.others target member]
      intro same
      exact system_apart target member
        ((keys_apart target (target_listed target member) system in_partitions).2.2.1 same)
    · intro target member
      change has (Function.update m.types system.mtname TYPE_RFS target.mtname) TYPE_FSTYPE_MASK = true
      rw [kept target member]
      exact waiting.bases target member
    · intro target member
      exact get_conf_set_other _ (keys_apart target member system in_partitions).1 _

/-- Stage 7 converts the other partitions only. -/
theorem stage7_passes_system {build : Build} (has_datadata : build.HAS_DATADATA = true) {w : Conversion.World}
    {job : Job} (member : job ∈ jobs build w (own_change build m)) (asked : job.asked = true) :
    job.target ∈ partitions ∧ system ≠ job.target := by
  have due := (job_due has_datadata member asked).1
  exact ⟨target_listed _ due, fun same => system_apart _ due same.symm⟩

theorem stage7_system_type {build : Build} (has_datadata : build.HAS_DATADATA = true) {w : Conversion.World}
    {picked : Int} : (own_stage7 build w picked m).types system.mtname = m.types system.mtname := by
  apply stage7_type_stays
  intro job member asked same
  obtain ⟨listed, apart⟩ := stage7_passes_system has_datadata member asked
  exact apart ((keys_apart system (by decide) job.target listed).2.2.2 same)

theorem stage7_system_recorded {build : Build} (has_datadata : build.HAS_DATADATA = true) {w : Conversion.World}
    {picked : Int} (recorded : Recorded m system) :
    Recorded (own_stage7 build w picked m) system := by
  have in_partitions : system ∈ partitions := by decide
  rw [Recorded, stage7_system_type has_datadata, stage7_conf, without_requests_other]
  · exact recorded
  · exact fun target member => (keys_apart system in_partitions target (target_listed target member)).1
  · intro job member asked same
    obtain ⟨listed, apart⟩ := stage7_passes_system has_datadata member asked
    exact apart ((keys_apart system in_partitions job.target listed).2.1 same)

/-- Where the boot goes on behind stage 5, it converts what stage 7 converts, and the recovery
    finds every type on record. -/
theorem boot_goes_on {build : Build} (has_datadata : build.HAS_DATADATA = true) (works : Works b m)
    (waiting : Waiting sbin of_system of_others m) (on : of_system = true → m.types system.mtname = TYPE_RFS) :
    ∃ ready : Machine Tree, boot build sbin b m = looked build b ready ∧
      Leaving sbin ready.state.conf ∧ (∀ target ∈ partitions, Recorded ready target) ∧
      (∀ target ∈ targets, ready.types target.mtname = converted of_others m.types target) ∧
      ready.types system.mtname = m.types system.mtname := by
  have in_partitions : system ∈ partitions := by decide
  obtain ⟨began, system_recorded, records⟩ := begun_works works waiting
  have works' : Works b (begun b m) := begun_keeps works records
  obtain ⟨goes_on, types, waiting₅, kept₅⟩ := stage5_works works' began
  have passes : (stage5 b (begun b m)).1 = true := by
    rw [goes_on]
    cases of_system with
    | false => rfl
    | true => exact decide_eq_true (on rfl)
  have types₅ : (stage5 b (begun b m)).2.types = m.types := by
    rw [types]
    cases of_system with
    | false => rfl
    | true =>
      have same := on rfl
      exact (congrArg (Function.update m.types system.mtname) same.symm).trans (Function.update_eq_self _ _)
  obtain ⟨mounted, runs, types₆, leaving₆, recorded₆, kept₆⟩ := stage6_works has_datadata works' types₅
    (fun target member => kept₅ target (target_listed target member)) waiting₅.leaving waiting.bases
  have types₆ : mounted.types = m.types := types₆
  have pending₆ : Pending mounted.state.conf false of_others := by
    have same : ∀ target ∈ partitions, get_conf mounted.state.conf target.convertto =
        get_conf (stage5 b (begun b m)).2.state.conf target.convertto := by
      intro target member
      exact kept₆ _ fun other listed => Ne.symm (keys_apart other (target_listed other listed) target member).1
    refine ⟨by rw [same system in_partitions, waiting₅.pending.system], fun target member => ?_⟩
    rw [same target (target_listed target member), waiting₅.pending.others target member]
  have leaving₇ : Leaving sbin (own_stage7 build b.conversion b.picked mounted).state.conf :=
    stage7_leaving has_datadata leaving₆
  have on_record : Recorded mounted system := by
    rw [Recorded, types₆, kept₆, kept₅ system in_partitions]
    · exact system_recorded
    · intro target member same
      exact system_apart target member ((keys_apart system in_partitions target (target_listed target member)).2.1 same).symm
  have system_stays : (own_stage7 build b.conversion b.picked mounted).types system.mtname = m.types system.mtname := by
    rw [stage7_system_type has_datadata, types₆]
  have others₇ : ∀ target ∈ targets,
      (own_stage7 build b.conversion b.picked mounted).types target.mtname = converted of_others m.types target ∧
        Recorded (own_stage7 build b.conversion b.picked mounted) target := by
    intro target member
    have works₇ := stage7_works has_datadata works.picked works.converts leaving₆ pending₆ recorded₆ member
    rw [types₆] at works₇
    exact works₇
  refine ⟨own_stage7 build b.conversion b.picked mounted, ?_, leaving₇, ?_, fun target member => (others₇ target member).1,
    system_stays⟩
  · rw [boot_begins waiting.leaving, if_pos passes, runs]
  · intro target member
    have listed : target ∈ targets ∨ target = system := by
      revert target
      decide
    rcases listed with one | rfl
    · exact (others₇ target one).2
    · exact stage7_system_recorded has_datadata on_record

/-- The recovery is satisfied where RFS is on every partition. -/
theorem fsokay_recorded (recorded : ∀ target ∈ partitions, Recorded m target) :
    fsokay m.state.conf = true ↔ ∀ target ∈ partitions, m.types target.mtname = TYPE_RFS := by
  rw [fsokay, List.all_eq_true]
  refine forall₂_congr fun target member => ?_
  rw [get_conf_def, recorded target member, Option.getD_some, decide_eq_true_eq, sprintf_d_rfs]

/-- RFS is on every partition behind stage 7. -/
def AllRfs (of_others : Bool) (types : String → CInt) : Prop :=
  (∀ target ∈ targets, converted of_others types target = TYPE_RFS) ∧ types system.mtname = TYPE_RFS

theorem boot_removes {build : Build} (has_datadata : build.HAS_DATADATA = true) (works : Works b m)
    (waiting : Waiting sbin of_system of_others m) (all : AllRfs of_others m.types) : Removed (boot build sbin b m) := by
  obtain ⟨ready, runs, leaving, recorded, types, of_system⟩ := boot_goes_on has_datadata works waiting fun _ => all.2
  have okay : fsokay ready.state.conf = true := by
    rw [fsokay_recorded recorded]
    have listed : ∀ target ∈ partitions, target ∈ targets ∨ target = system := by decide
    intro target member
    rcases listed target member with one | rfl
    · rw [types target one, all.1 target one]
    · rw [of_system, all.2]
  rw [Removed, runs]
  exact (recovery_leaving build leaving works.removes works.own).1 okay

theorem boot_asks {build : Build} (has_datadata : build.HAS_DATADATA = true) (works : Works b m)
    (waiting : Waiting sbin of_system of_others m) (on : of_system = true → m.types system.mtname = TYPE_RFS)
    (other : ¬ AllRfs of_others m.types) :
    Waiting sbin true true (boot build sbin b m) ∧
      (∀ target ∈ targets, (boot build sbin b m).types target.mtname = converted of_others m.types target) ∧
      (boot build sbin b m).types system.mtname = m.types system.mtname ∧
      ∀ target ∈ partitions, Recorded (boot build sbin b m) target := by
  obtain ⟨ready, runs, leaving, recorded, types, of_system⟩ := boot_goes_on has_datadata works waiting on
  have unsatisfied : fsokay ready.state.conf = false := by
    rw [Bool.eq_false_iff]
    intro okay
    rw [fsokay_recorded recorded] at okay
    refine other ⟨fun target member => ?_, ?_⟩
    · rw [← types target member, okay target (target_listed target member)]
    · rw [← of_system, okay system (by decide)]
  obtain ⟨asks, pending⟩ := (recovery_leaving build leaving works.removes works.own).2 unsatisfied
  have kept : ∀ target ∈ partitions,
      get_conf (recovery build b ready.state.conf).2 target.type = get_conf ready.state.conf target.type :=
    fun target member => recovery_records build leaving works.own unsatisfied member
  rw [runs]
  refine ⟨⟨asks, pending, fun target member => ?_⟩, types, of_system, fun target member => ?_⟩
  · change has (ready.types target.mtname) TYPE_FSTYPE_MASK = true
    rw [types target member]
    exact converted_base _ (waiting.bases target member)
  · exact (kept target member).trans (recorded target member)

/-- Where the system has another type, a boot that was asked to converts it, and no more. -/
theorem boot_converts_system (build : Build) (works : Works b m) (waiting : Waiting sbin true of_others m)
    (other : m.types system.mtname ≠ TYPE_RFS) :
    Waiting sbin false of_others (boot build sbin b m) ∧
      (boot build sbin b m).types = Function.update m.types system.mtname TYPE_RFS ∧
      ∀ target ∈ targets, get_conf (boot build sbin b m).state.conf target.type = get_conf m.state.conf target.type := by
  obtain ⟨began, _, records⟩ := begun_works works waiting
  obtain ⟨stops, types, waiting₅, kept₅⟩ := stage5_works (begun_keeps works records) began
  have ends : (stage5 b (begun b m)).1 = false := by
    rw [stops]
    exact decide_eq_false other
  rw [boot_begins waiting.leaving, if_neg (by rw [ends]; decide)]
  exact ⟨waiting₅, types, fun target member => (kept₅ target (target_listed target member)).trans (records target member)⟩

end

end SteamRecovery.Uninstalling
