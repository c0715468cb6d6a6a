import SteamRecovery.Conversion

/-!
Stage 7 of the init (`steam_init_main` in `init.c`): the types asked for are read and
removed from the configuration, and what differs from the type that is there is
converted. The request for `/dbdata` is compared with the type of `/data`, so it is
dropped where `/data` already has that type; and where the requests are all that is
stored, removing them leaves an empty configuration, which stores nothing any more.
Apart from that every request is honoured, whatever the other partitions have
(`stage7_honours_iff`).
-/
namespace SteamRecovery.Stages
open SteamRecovery.Devices
open SteamRecovery.Config
open SteamRecovery.Routines
open SteamRecovery.Nandroid
open SteamRecovery.Conversion

/-- `if (get_conf(key,value) && sscanf(value,"%d",&new)==1) {} else new=0;` -/
def requested (conf : Conf) (key : String) : CInt := ((get_conf conf key).bind sscanf_d).getD 0

/-- `if (new==type) new=0;` -/
def unless_same (newtype type : CInt) : CInt := if newtype = type then 0 else newtype

/-- What `convert_filesystems` is called with, given the types that stage 6 has mounted. -/
def change (build : Build) (conf : Conf) (cache_type data_type dbdata_type : CInt) : Change where
  oldcache := cache_type
  newcache := unless_same (requested conf cache.convertto) cache_type
  olddata := data_type
  newdata := unless_same (requested conf data.convertto) data_type
  olddbdata := dbdata_type
  -- The request for `/dbdata` is compared with `data_type`.
  newdbdata := if build.HAS_DATADATA then unless_same (requested conf dbdata.convertto) data_type else 0

/-- The requests are removed from the configuration. -/
def without_requests (build : Build) (conf : Conf) : Conf :=
  let conf := set_conf (set_conf conf cache.convertto none) data.convertto none
  if build.HAS_DATADATA then set_conf conf dbdata.convertto none else conf

variable {Tree : Type}

def cleared (build : Build) (m : Machine Tree) : Machine Tree :=
  { m with state := { m.state with conf := without_requests build m.state.conf } }

def stage7 (build : Build) (w : World) (chosen_item : Int) (cache_type data_type dbdata_type : CInt)
    (m : Machine Tree) : Machine Tree :=
  let c := change build m.state.conf cache_type data_type dbdata_type
  let m := cleared build m
  let m := if c.newcache ≠ 0 || c.newdata ≠ 0 || c.newdbdata ≠ 0 then
      (convert_filesystems build w chosen_item c m).2
    else m
  { m with secret := some "" }

/-- The partition is asked to have a type other than its own. -/
def Due (m : Machine Tree) (target : Target) : Prop :=
  requested m.state.conf target.convertto ≠ 0 ∧ requested m.state.conf target.convertto ≠ m.types target.mtname

/-- The partitions that are due have the types asked for, and these are on record; no
    other partition is reformatted. -/
structure Honoured (m m' : Machine Tree) : Prop where
  converted : ∀ target ∈ targets, Due m target →
    m'.types target.mtname = requested m.state.conf target.convertto ∧
      read_conf m'.state.conf target.type = some (sprintf_d (requested m.state.conf target.convertto))
  others : ∀ root ∈ m'.reformatted, ∃ target ∈ targets, Due m target ∧ target.root = root

/-- `/dbdata` is due, and asked to have the type that `/data` has. -/
def Swapped (m : Machine Tree) : Prop :=
  Due m dbdata ∧ requested m.state.conf dbdata.convertto = m.types data.mtname

/-- A partition is due, and nothing but requests is stored. -/
def Unrecorded (m : Machine Tree) : Prop :=
  (∃ target ∈ targets, Due m target) ∧
    ∀ key ∈ m.state.conf.entries.map Prod.fst, ∃ target ∈ targets, key = target.convertto

/-- The backup and the formatting work. Mounts and restores need not. -/
structure Succeeds (w : World) : Prop where
  backs : ∀ roots, BacksUp w.backup roots
  formats : ∀ o ∈ [w.cache, w.data, w.dbdata], o.Formats

section
variable {build : Build} {w : World} {m : Machine Tree}

theorem without_requests_stored (has_datadata : build.HAS_DATADATA = true) (conf : Conf) (key : String) :
    key ∈ (without_requests build conf).entries.map Prod.fst ↔
      (∀ target ∈ targets, key ≠ target.convertto) ∧ key ∈ conf.entries.map Prod.fst := by
  simp only [without_requests, has_datadata, ↓reduceIte, set_conf_stored, targets, List.forall_mem_cons,
    List.not_mem_nil, false_imp_iff, implies_true, and_true]
  tauto

theorem without_requests_empty (has_datadata : build.HAS_DATADATA = true) (conf : Conf) :
    (without_requests build conf).entries = [] ↔
      ∀ key ∈ conf.entries.map Prod.fst, ∃ target ∈ targets, key = target.convertto := by
  rw [← List.map_eq_nil_iff (f := Prod.fst), List.eq_nil_iff_forall_not_mem]
  refine forall_congr' fun key => ?_
  rw [without_requests_stored has_datadata]
  push Not
  constructor
  · intro asked stored
    by_contra none
    push Not at none
    exact asked none stored
  · intro asked apart stored
    obtain ⟨target, member, same⟩ := asked stored
    exact apart target member same

/-! ### The jobs of stage 7 -/

/-- The change where stage 6 has mounted the types that are there. -/
def own_change (build : Build) (m : Machine Tree) : Change :=
  change build m.state.conf (m.types cache.mtname) (m.types data.mtname) (m.types dbdata.mtname)

theorem asked_unless_same (oldtype newtype : CInt) :
    asked oldtype (unless_same newtype oldtype) = true ↔ newtype ≠ 0 ∧ newtype ≠ oldtype := by
  rw [asked, unless_same]
  by_cases same : newtype = oldtype
  · simp [same]
  · simp [same, Ne.symm same]

theorem unless_same_asked {oldtype newtype type : CInt} (due : asked oldtype (unless_same newtype type) = true) :
    unless_same newtype type = newtype ∧ newtype ≠ 0 ∧ newtype ≠ oldtype := by
  unfold asked unless_same at *
  by_cases same : newtype = type
  · simp [same] at due
  · simp only [same, ↓reduceIte, Bool.and_eq_true, decide_eq_true_eq] at due ⊢
    exact ⟨trivial, due.1, Ne.symm due.2⟩

theorem jobs_all (has_datadata : build.HAS_DATADATA = true) :
    jobs build w (own_change build m) =
      [⟨w.cache, cache, m.types cache.mtname,
          unless_same (requested m.state.conf cache.convertto) (m.types cache.mtname)⟩,
        ⟨w.data, data, m.types data.mtname,
          unless_same (requested m.state.conf data.convertto) (m.types data.mtname)⟩,
        ⟨w.dbdata, dbdata, m.types dbdata.mtname,
          unless_same (requested m.state.conf dbdata.convertto) (m.types data.mtname)⟩] := by
  simp [jobs, own_change, change, has_datadata]

/-- What is converted is due, and gets the type asked for. -/
theorem job_due (has_datadata : build.HAS_DATADATA = true) {job : Job} (member : job ∈ jobs build w (own_change build m))
    (converts : job.asked = true) :
    job.target ∈ targets ∧ Due m job.target ∧ job.newtype = requested m.state.conf job.target.convertto := by
  rw [jobs_all has_datadata] at member
  simp only [List.mem_cons, List.not_mem_nil, or_false] at member
  rw [Due]
  rcases member with rfl | rfl | rfl
  all_goals
    obtain ⟨same, present, other⟩ := unless_same_asked converts
    exact ⟨by simp [targets], ⟨present, other⟩, same⟩

/-- What is due is converted, unless it is `/dbdata` that is to be like `/data`. -/
theorem due_job (has_datadata : build.HAS_DATADATA = true) (straight : ¬ Swapped m) {target : Target}
    (member : target ∈ targets) (due : Due m target) :
    ∃ job ∈ jobs build w (own_change build m), job.asked = true ∧ job.target = target := by
  rw [jobs_all has_datadata]
  simp only [targets, List.mem_cons, List.not_mem_nil, or_false] at member
  rcases member with rfl | rfl | rfl
  · exact ⟨_, List.mem_cons_self, (asked_unless_same _ _).mpr due, rfl⟩
  · exact ⟨_, List.mem_cons_of_mem _ List.mem_cons_self, (asked_unless_same _ _).mpr due, rfl⟩
  · have apart : requested m.state.conf dbdata.convertto ≠ m.types data.mtname := fun same => straight ⟨due, same⟩
    refine ⟨_, List.mem_cons_of_mem _ (List.mem_cons_of_mem _ List.mem_cons_self), ?_, rfl⟩
    simpa [Job.asked, asked, unless_same, apart, Ne.symm due.2] using due.1

theorem job_formats (has_datadata : build.HAS_DATADATA = true) (succeeds : Succeeds w) :
    ∀ job ∈ jobs build w (own_change build m), job.outcome.Formats := by
  rw [jobs_all has_datadata]
  simpa only [List.forall_mem_cons, List.not_mem_nil, false_imp_iff, implies_true, and_true] using succeeds.formats

/-! ### What stage 7 keeps and ensures -/

/-- The property does not depend on the flash memory or the secret. -/
structure Lasting (I : Machine Tree → Prop) : Prop where
  flash : FlashFree I
  secret : ∀ m secret, I m → I { m with secret := secret }

/-- Stage 7 on the types that are there. -/
def own_stage7 (build : Build) (w : World) (chosen_item : Int) (m : Machine Tree) : Machine Tree :=
  stage7 build w chosen_item (m.types cache.mtname) (m.types data.mtname) (m.types dbdata.mtname) m

variable {chosen_item : Int} {I Q : Machine Tree → Prop}

theorem keeps_stage7 (lasting : Lasting I)
    (parts : ∀ job ∈ jobs build w (own_change build m), Keeps I (convert_partition job)) (holds : I (cleared build m)) :
    I (own_stage7 build w chosen_item m) := by
  rw [own_stage7, stage7]
  apply lasting.secret
  split
  · exact keeps_conversion lasting.flash parts _ holds
  · exact holds

theorem stage7_ensures (has_datadata : build.HAS_DATADATA = true) (lastingI : Lasting I) (lastingQ : Lasting Q)
    {job : Job} (member : job ∈ jobs build w (own_change build m)) (converts : job.asked = true)
    (ensures : Ensures I (convert_partition job) Q)
    (before : ∀ other ∈ jobs build w (own_change build m), Ensures I (convert_partition other) I)
    (after : ∀ other ∈ jobs build w (own_change build m), Ensures Q (convert_partition other) Q)
    (picked : 0 ≤ chosen_item ∧ chosen_item ≠ 4) (succeeds : Succeeds w) (holds : I (cleared build m)) :
    Q (own_stage7 build w chosen_item m) := by
  have newtype : job.newtype ≠ 0 := by
    simp only [Job.asked, asked, Bool.and_eq_true, decide_eq_true_eq] at converts
    exact converts.1
  have some_request : ((own_change build m).newcache ≠ 0 || (own_change build m).newdata ≠ 0 ||
      (own_change build m).newdbdata ≠ 0) = true := by
    have mine : job.newtype = (own_change build m).newcache ∨ job.newtype = (own_change build m).newdata ∨
        job.newtype = (own_change build m).newdbdata := by
      simp only [jobs, has_datadata, ↓reduceIte, List.cons_append, List.nil_append, List.mem_cons, List.not_mem_nil,
        or_false] at member
      rcases member with rfl | rfl | rfl
      · exact .inl rfl
      · exact .inr (.inl rfl)
      · exact .inr (.inr rfl)
    simp only [Bool.or_eq_true, decide_eq_true_eq]
    rcases mine with same | same | same
    · exact .inl (.inl (same ▸ newtype))
    · exact .inl (.inr (same ▸ newtype))
    · exact .inr (same ▸ newtype)
  rw [own_stage7, stage7]
  apply lastingQ.secret
  rw [show change build m.state.conf (m.types cache.mtname) (m.types data.mtname) (m.types dbdata.mtname) =
    own_change build m from rfl, if_pos some_request]
  exact conversion_ensures lastingI.flash lastingQ.flash member ensures before after picked succeeds.backs holds

/-! ### The requests that are honoured -/

theorem apart_targets : ∀ a ∈ targets, ∀ b ∈ targets, a.mtname = b.mtname ∨ a.type = b.type → a = b := by decide

/-- Nothing that is not due is reformatted. -/
theorem stage7_others (has_datadata : build.HAS_DATADATA = true) (fresh : m.reformatted = []) :
    ∀ root ∈ (own_stage7 build w chosen_item m).reformatted,
      ∃ target ∈ targets, Due m target ∧ target.root = root := by
  refine keeps_stage7 (I := fun m' => ∀ root ∈ m'.reformatted, ∃ target ∈ targets, Due m target ∧ target.root = root)
    ⟨fun _ _ holds => holds, fun _ _ holds => holds⟩ ?_ (by simp [cleared, fresh])
  intro job member m' known
  rw [(convert_partition_flash job m').2]
  split
  · rename_i asked
    obtain ⟨inTargets, due, _⟩ := job_due has_datadata member asked
    exact List.forall_mem_cons.mpr ⟨⟨job.target, inTargets, due, rfl⟩, known⟩
  · exact known

theorem keeps_stored (job : Job) : Keeps (fun m' : Machine Tree => m'.state.conf.entries ≠ []) (convert_partition job) := by
  intro m' stored
  rw [convert_partition_conf]
  split
  · exact set_conf_nonempty stored _ _
  · exact stored

/-- The job is done: its partition has its type, and that is recorded. -/
structure Done (job : Job) (m : Machine Tree) : Prop where
  stored : m.state.conf.entries ≠ []
  type : m.types job.target.mtname = job.newtype
  recorded : read_conf m.state.conf job.target.type = some (sprintf_d job.newtype)

theorem done_self {job : Job} (converts : job.asked = true) (formats : job.outcome.Formats)
    (valid : ValidType job.newtype) :
    Ensures (fun m' : Machine Tree => m'.state.conf.entries ≠ []) (convert_partition job) (Done job) := by
  intro m' stored _
  refine ⟨keeps_stored job m' stored, convert_partition_made converts formats valid m', ?_⟩
  rw [convert_partition_conf, if_pos converts]
  exact read_conf_set_self stored _ _

theorem done_other {job other : Job} (types : other.target.mtname ≠ job.target.mtname)
    (keys : other.target.type ≠ job.target.type) : Keeps (Done job : Machine Tree → Prop) (convert_partition other) := by
  rintro m' ⟨stored, type, recorded⟩
  refine ⟨keeps_stored other m' stored, ?_, ?_⟩
  · rw [convert_partition_types other m' fun _ => Ne.symm types]
    exact type
  · rw [convert_partition_conf]
    split
    · rw [read_conf_set_other _ (Ne.symm keys)]
      exact recorded
    · exact recorded

/-- A partition with a job gets the type asked for, and that is recorded. -/
theorem stage7_converts (has_datadata : build.HAS_DATADATA = true) (picked : 0 ≤ chosen_item ∧ chosen_item ≠ 4)
    (succeeds : Succeeds w) {job : Job} (member : job ∈ jobs build w (own_change build m))
    (converts : job.asked = true) (valid : ValidType job.newtype)
    (stored : (without_requests build m.state.conf).entries ≠ []) :
    Done job (own_stage7 build w chosen_item m) := by
  have own : Ensures (fun m' : Machine Tree => m'.state.conf.entries ≠ []) (convert_partition job) (Done job) :=
    done_self converts (job_formats has_datadata succeeds job member) valid
  have lasts : Lasting (Done job : Machine Tree → Prop) := by
    constructor
    · rintro m' flash ⟨stored, type, recorded⟩
      exact ⟨stored, type, recorded⟩
    · rintro m' secret ⟨stored, type, recorded⟩
      exact ⟨stored, type, recorded⟩
  refine stage7_ensures has_datadata ⟨fun _ _ holds => holds, fun _ _ holds => holds⟩ lasts member converts own
    (fun other _ => keeps_ensures (keeps_stored other)) ?_ picked succeeds stored
  intro other inJobs
  by_cases same : other.target = job.target
  · obtain rfl := jobs_apart member inJobs (congrArg Target.root same)
    rintro m' ⟨stored, _, _⟩ ran
    exact own m' stored ran
  · have inTargets : ∀ job ∈ jobs build w (own_change build m), job.target ∈ targets := by
      rw [jobs_all has_datadata]
      simp [targets]
    have apart := apart_targets _ (inTargets other inJobs) _ (inTargets job member)
    apply keeps_ensures
    apply done_other
    · intro names
      exact same (apart (.inl names))
    · intro keys
      exact same (apart (.inr keys))

/-- Where nothing is stored, nothing comes to be stored. -/
theorem stage7_unrecorded (empty : (without_requests build m.state.conf).entries = []) (key : String) :
    read_conf (own_stage7 build w chosen_item m).state.conf key = none := by
  have none : (own_stage7 build w chosen_item m).state.conf.entries = [] := by
    refine keeps_stage7 (I := fun m' => m'.state.conf.entries = [])
      ⟨fun _ _ holds => holds, fun _ _ holds => holds⟩ ?_ empty
    intro job _ m' empty
    rw [convert_partition_conf]
    split
    · exact set_conf_empty empty _ _
    · exact empty
  rw [read_conf, none]
  rfl

/-- The type of a partition without a job stays. -/
theorem stage7_type_stays {mtname : String}
    (idle : ∀ job ∈ jobs build w (own_change build m), job.asked = true → mtname ≠ job.target.mtname) :
    (own_stage7 build w chosen_item m).types mtname = m.types mtname := by
  refine keeps_stage7 (I := fun m' => m'.types mtname = m.types mtname)
    ⟨fun _ _ holds => holds, fun _ _ holds => holds⟩ ?_ rfl
  intro job member m' same
  rw [convert_partition_types job m' (idle job member), same]

/-- The requests are codes of filesystems. -/
def ValidRequests (m : Machine Tree) : Prop :=
  ∀ target ∈ targets, requested m.state.conf target.convertto ≠ 0 →
    ValidType (requested m.state.conf target.convertto)

/-- Stage 7 honours the requests, unless `/dbdata` is to have the type of `/data`, or there is
    nothing left that the new types could be recorded beside. -/
theorem stage7_honours_iff (has_datadata : build.HAS_DATADATA = true) (picked : 0 ≤ chosen_item ∧ chosen_item ≠ 4)
    (succeeds : Succeeds w) (valid : ValidRequests m) (fresh : m.reformatted = []) :
    Honoured m (stage7 build w chosen_item (m.types cache.mtname) (m.types data.mtname) (m.types dbdata.mtname) m) ↔
      ¬ Swapped m ∧ ¬ Unrecorded m := by
  change Honoured m (own_stage7 build w chosen_item m) ↔ _
  constructor
  · intro honoured
    constructor
    · intro swapped
      have idle : ∀ job ∈ jobs build w (own_change build m), job.asked = true →
          dbdata.mtname ≠ job.target.mtname := by
        rw [jobs_all has_datadata, swapped.2]
        simp [Job.asked, asked, unless_same, cache, data, dbdata]
      have type := (honoured.converted dbdata (by decide) swapped.1).1
      rw [stage7_type_stays idle] at type
      exact swapped.1.2 type.symm
    · rintro ⟨⟨target, member, due⟩, requests⟩
      have recorded := (honoured.converted target member due).2
      rw [stage7_unrecorded ((without_requests_empty has_datadata _).mpr requests)] at recorded
      cases recorded
  · rintro ⟨straight, recorded⟩
    refine ⟨?_, stage7_others has_datadata fresh⟩
    intro target member due
    obtain ⟨job, inJobs, converts, rfl⟩ := due_job (w := w) has_datadata straight member due
    have newtype := (job_due has_datadata inJobs converts).2.2
    have stored : (without_requests build m.state.conf).entries ≠ [] := by
      intro empty
      exact recorded ⟨⟨job.target, member, due⟩, (without_requests_empty has_datadata _).mp empty⟩
    have done := stage7_converts has_datadata picked succeeds inJobs converts
      (newtype ▸ valid job.target member due.1) stored
    rw [← newtype]
    exact ⟨done.type, done.recorded⟩

end

/-- Every step works. -/
def all_steps_work : World := ⟨all_succeed, all_work, all_work, all_work, all_succeed, fun _ => true⟩

theorem all_steps_succeed : Succeeds all_steps_work :=
  ⟨fun _ => ⟨rfl, rfl, fun _ _ => ⟨rfl, rfl⟩, rfl⟩,
    by simpa [all_steps_work] using (⟨fun _ => rfl, fun _ => rfl, by decide, rfl⟩ : all_work.Formats)⟩

theorem phone_requests : ValidRequests phone := fun target member _ => by
  have requests : ∀ target ∈ targets, requested phone.state.conf target.convertto = TYPE_RFS := by decide
  rw [requests target member]
  exact ⟨by decide, by decide⟩

theorem phone_honours :
    Honoured phone (stage7 ⟨true, true⟩ all_steps_work 0 (phone.types cache.mtname) (phone.types data.mtname)
        (phone.types dbdata.mtname) phone) ↔
      ¬ Swapped phone ∧ ¬ Unrecorded phone :=
  stage7_honours_iff rfl (by decide) all_steps_succeed phone_requests rfl

/-- RFS is asked for on all partitions, and `/data` has it: `/dbdata` stays as it is. -/
theorem dbdata_stays_ext4 :
    Succeeds all_steps_work ∧ ValidRequests phone ∧ Due phone dbdata ∧
      ¬ Honoured phone (stage7 ⟨true, true⟩ all_steps_work 0 (phone.types cache.mtname) (phone.types data.mtname)
        (phone.types dbdata.mtname) phone) := by
  refine ⟨all_steps_succeed, phone_requests, by unfold Due; decide, fun honoured => ?_⟩
  have type := (honoured.converted dbdata (by decide) (by unfold Due; decide)).1
  revert type
  decide

end SteamRecovery.Stages
