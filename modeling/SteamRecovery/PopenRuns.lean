import SteamRecovery.Popen

/-!
Commands that are started and ended in any order (`popen3func` and `pclose3` in
`system.c`). Whatever fails, the descriptors of the caller differ from those that it had at
first exactly at the ends that running commands have stored, and no two commands share one
(`popen_runs`). So nothing is left open behind the last `pclose3`.
-/
namespace SteamRecovery.PopenRuns
open SteamRecovery.Descriptors
open SteamRecovery.Devices (CInt)
open SteamRecovery.Popen

variable {File : Type}

/-- What `waitpid` returns: -1 with `EINTR`, -1 with another error, or the pid, with the
    code that the child has left, or the status of one that was killed. -/
inductive Waited where
  | interrupted
  | failed
  | exited (code : Nat)
  | signaled (pstat : Int)

/-- `p == -1 ? -1 : (WIFEXITED(pstat) ? WEXITSTATUS(pstat) : pstat)`, behind the loop. -/
def wait_loop : List Waited → Option Int
  | [] => none
  | .interrupted :: rest => wait_loop rest
  | .failed :: _ => some (-1)
  | .exited code :: _ => some code
  | .signaled pstat :: _ => some pstat

/-- `if (fd) close(*fd);`; a descriptor below 0 is not open. -/
def close_given (t : Table (Ref File)) (given : Option Int) : Table (Ref File) :=
  match given with
  | some fd => if 0 ≤ fd then close t fd.toNat else t
  | none => t

/-- `kill` does not change the descriptors. Where the child never ends, there is no result. -/
def pclose3 (waits : List Waited) (p : Pointers) (t : Table (Ref File)) : Option (Int × Table (Ref File)) :=
  let t := close_given (close_given (close_given t p.stdin_fd) p.stdout_fd) p.stderr_fd
  (wait_loop waits).map fun code => (code, t)

/-- The caller, with the pointers of the commands that run. -/
structure Caller (File : Type) where
  table : Table (Ref File)
  running : List Pointers

inductive Op where
  | popen (o : Outcomes) (p : Pointers) (flags : CInt)
  | pclose (command : Nat) (waits : List Waited)

def step (s : Caller File) : Op → Option (Caller File)
  | .popen o p flags =>
    let started := popen3func o p flags s.table
    some (if started.pid = -1 then ⟨started.parent, s.running⟩ else ⟨started.parent, started.pointers :: s.running⟩)
  | .pclose command waits =>
    match s.running[command]? with
    | none => none
    | some p => (pclose3 waits p s.table).map fun result => ⟨result.2, s.running.eraseIdx command⟩

def run (s : Caller File) (ops : List Op) : Option (Caller File) := ops.foldlM step s

/-- The descriptors that are stored. -/
def stored (p : Pointers) : List Nat := [p.stdin_fd, p.stdout_fd, p.stderr_fd].filterMap fun given => given.map Int.toNat

/-- The pointers point to descriptors. -/
def Known (p : Pointers) : Prop := ∀ given ∈ [p.stdin_fd, p.stdout_fd, p.stderr_fd], ∀ n ∈ given, 0 ≤ n

/-- The ends that running commands have stored were free at first, and are all there is
    besides the first descriptors. -/
structure Kept (t : Table (Ref File)) (s : Caller File) : Prop where
  known : ∀ p ∈ s.running, Known p
  distinct : (s.running.flatMap stored).Nodup
  free : ∀ fd ∈ s.running.flatMap stored, t.ref fd = none
  opened : ∀ fd ∈ s.running.flatMap stored, s.table.ref fd ≠ none
  others : ∀ fd, fd ∉ s.running.flatMap stored → s.table.ref fd = t.ref fd

section
variable {t : Table (Ref File)} {s s' : Caller File} {p : Pointers} {flags : CInt}

theorem close_given_ref {given : Option Int} (known : ∀ n ∈ given, 0 ≤ n) (t : Table (Ref File)) (fd : Nat) :
    (close_given t given).ref fd = if given = some (fd : Int) then none else t.ref fd := by
  cases given with
  | none => simp [close_given]
  | some n =>
    have known := known n rfl
    rw [close_given, if_pos known, close, Table.ref_put]
    refine if_congr ?_ rfl rfl
    rw [Option.some.injEq]
    omega

theorem mem_stored (known : Known p) (fd : Nat) :
    fd ∈ stored p ↔ p.stdin_fd = some (fd : Int) ∨ p.stdout_fd = some (fd : Int) ∨ p.stderr_fd = some (fd : Int) := by
  have here : ∀ given ∈ [p.stdin_fd, p.stdout_fd, p.stderr_fd], given.map Int.toNat = some fd ↔ given = some (fd : Int) := by
    intro given member
    cases given with
    | none => simp
    | some n =>
      have known := known _ member n rfl
      rw [Option.map_some, Option.some.injEq, Option.some.injEq]
      omega
  rw [stored, List.mem_filterMap]
  constructor
  · rintro ⟨given, member, same⟩
    have found := (here given member).mp same
    simp only [List.mem_cons, List.not_mem_nil, or_false] at member
    rcases member with rfl | rfl | rfl
    · exact .inl found
    · exact .inr (.inl found)
    · exact .inr (.inr found)
  · rintro (found | found | found)
    · exact ⟨_, by simp, (here _ (by simp)).mpr found⟩
    · exact ⟨_, by simp, (here _ (by simp)).mpr found⟩
    · exact ⟨_, by simp, (here _ (by simp)).mpr found⟩

/-- The ends of a command are closed, and nothing else. -/
theorem pclose3_ref (known : Known p) {waits : List Waited} {result : Int × Table (Ref File)}
    (ended : pclose3 waits p t = some result) (fd : Nat) :
    result.2.ref fd = if fd ∈ stored p then none else t.ref fd := by
  obtain ⟨code, _, rfl⟩ := Option.map_eq_some_iff.mp ended
  rw [close_given_ref (known _ (by simp)), close_given_ref (known _ (by simp)), close_given_ref (known _ (by simp))]
  by_cases listed : fd ∈ stored p
  · rw [if_pos listed]
    rcases (mem_stored known fd).mp listed with here | here | here <;> simp [here]
  · rw [if_neg listed]
    rw [mem_stored known, not_or, not_or] at listed
    rw [if_neg listed.2.2, if_neg listed.2.1, if_neg listed.1]

theorem stored_end {given : Option Int} {end_ fd : Nat} :
    (given.map fun _ => (end_ : Int)) = some (fd : Int) ↔ given ≠ none ∧ fd = end_ := by
  cases given with
  | none => simp
  | some n => simp [eq_comm]

/-- A descriptor that the caller gives only takes the place of the end. -/
theorem parent_keeps_other {given : Option Int} {end_ fd : Nat} (t : Table (Ref File)) (apart : fd ≠ end_) :
    (parent_keeps t given end_).1.ref fd = t.ref fd := by
  cases given with
  | none => exact Table.ref_put_ne _ _ apart
  | some n =>
    rw [parent_keeps]
    split
    · rw [dup2]
      split
      · rfl
      · exact Table.ref_put_ne _ _ apart
    · rfl

theorem parent_keeps_end (given : Option Int) {end_ : Nat} (opened : t.ref end_ ≠ none) :
    (parent_keeps t given end_).1.ref end_ ≠ none ↔ given ≠ none := by
  cases given with
  | none => simp [parent_keeps, close]
  | some n =>
    refine iff_of_true ?_ (Option.some_ne_none n)
    rw [parent_keeps]
    split
    · rw [dup2]
      split
      · exact opened
      · simp
    · exact opened

/-- The ends for which there are pointers stay open, and the others are closed again. -/
theorem in_parent_keeps {t' : Table (Ref File)} {ends : Ends} (opened : Opened flags t ends t') (fd : Nat) :
    if (p.stdin_fd ≠ none ∧ fd = ends.stdin_pipe.2) ∨ (p.stdout_fd ≠ none ∧ fd = ends.stdout_pipe.1) ∨
        (p.stderr_fd ≠ none ∧ fd = ends.stderr_pipe.1) then (in_parent p ends t').1.ref fd ≠ none
    else (in_parent p ends t').1.ref fd = t.ref fd := by
  obtain ⟨ordered, stdin_free, stdout_free, stderr_free, refers⟩ := opened
  obtain ⟨⟨stdin_read, stdin_write⟩, ⟨stdout_read, stdout_write⟩, stderr_read, stderr_write⟩ := ends
  dsimp only at *
  have closed : ∀ fd, (closes t' [stdin_read, stdout_write, stderr_write]).ref fd =
      if fd = stdin_write then some (.write .stdin_pipe) else if fd = stdout_read then some (.read .stdout_pipe)
      else if fd = stderr_read then some (.read (error_pipe flags)) else t.ref fd := by
    intro fd
    rw [ref_closes, refers]
    simp only [List.mem_cons, List.not_mem_nil, or_false]
    grind
  simp only [in_parent]
  generalize closes t' [stdin_read, stdout_write, stderr_write] = t₀ at closed ⊢
  -- the three ends one after the other, each left alone by the other two
  by_cases first : fd = stdin_write
  · subst first
    have kept := parent_keeps_end p.stdin_fd (show t₀.ref fd ≠ none by rw [closed, if_pos rfl]; exact Option.some_ne_none _)
    rw [parent_keeps_other _ (show fd ≠ stderr_read by omega), parent_keeps_other _ (show fd ≠ stdout_read by omega)]
    by_cases given : p.stdin_fd = none
    · rw [if_neg (by grind), stdin_free.2]
      exact not_not.mp fun still => kept.mp still given
    · rw [if_pos (.inl ⟨given, rfl⟩)]
      exact kept.mpr given
  by_cases second : fd = stdout_read
  · subst second
    have here : (parent_keeps t₀ p.stdin_fd stdin_write).1.ref fd ≠ none := by
      rw [parent_keeps_other _ first, closed, if_neg first, if_pos rfl]
      exact Option.some_ne_none _
    have kept := parent_keeps_end p.stdout_fd here
    rw [parent_keeps_other _ (show fd ≠ stderr_read by omega)]
    by_cases given : p.stdout_fd = none
    · rw [if_neg (by grind), stdout_free.1]
      exact not_not.mp fun still => kept.mp still given
    · rw [if_pos (.inr (.inl ⟨given, rfl⟩))]
      exact kept.mpr given
  by_cases third : fd = stderr_read
  · subst third
    have here : (parent_keeps (parent_keeps t₀ p.stdin_fd stdin_write).1 p.stdout_fd stdout_read).1.ref fd ≠ none := by
      rw [parent_keeps_other _ second, parent_keeps_other _ first, closed, if_neg first, if_neg second, if_pos rfl]
      exact Option.some_ne_none _
    have kept := parent_keeps_end p.stderr_fd here
    by_cases given : p.stderr_fd = none
    · rw [if_neg (by grind), stderr_free.1]
      exact not_not.mp fun still => kept.mp still given
    · rw [if_pos (.inr (.inr ⟨given, rfl⟩))]
      exact kept.mpr given
  · rw [if_neg (by grind), parent_keeps_other _ third, parent_keeps_other _ second, parent_keeps_other _ first, closed,
      if_neg first, if_neg second, if_neg third]

theorem forked_keeps {t' : Table (Ref File)} {ends : Ends} (opened : Opened flags t ends t') :
    Known (in_parent p ends t').2 ∧ (stored (in_parent p ends t').2).Nodup ∧
      (∀ fd ∈ stored (in_parent p ends t').2, t.ref fd = none ∧ (in_parent p ends t').1.ref fd ≠ none) ∧
      ∀ fd, fd ∉ stored (in_parent p ends t').2 → (in_parent p ends t').1.ref fd = t.ref fd := by
  have keeps := in_parent_keeps (p := p) opened
  have ordered := opened.ordered
  have known : Known (in_parent p ends t').2 := by
    rw [in_parent_pointers]
    intro given member n here
    simp only [List.mem_cons, List.not_mem_nil, or_false] at member
    rcases member with rfl | rfl | rfl
    all_goals
      obtain ⟨_, _, rfl⟩ := Option.map_eq_some_iff.mp here
      exact Int.natCast_nonneg _
  refine ⟨known, ?_, ?_, ?_⟩
  · rw [in_parent_pointers, stored]
    cases p.stdin_fd <;> cases p.stdout_fd <;> cases p.stderr_fd <;> simp <;> omega
  · intro fd member
    have here := (mem_stored known fd).mp member
    rw [in_parent_pointers, stored_end, stored_end, stored_end] at here
    have keeps := keeps fd
    rw [if_pos here] at keeps
    refine ⟨?_, keeps⟩
    rcases here with ⟨_, rfl⟩ | ⟨_, rfl⟩ | ⟨_, rfl⟩
    · exact opened.stdin_free.2
    · exact opened.stdout_free.1
    · exact opened.stderr_free.1
  · intro fd apart
    rw [mem_stored known, in_parent_pointers, stored_end, stored_end, stored_end] at apart
    have keeps := keeps fd
    rwa [if_neg apart] at keeps

/-- A command that is started has ends that were free, and nothing else is changed. -/
theorem popen3func_keeps (o : Outcomes) (p : Pointers) (flags : CInt) (t : Table (Ref File)) :
    let started := popen3func o p flags t
    if started.pid = -1 then started.parent = t
    else Known started.pointers ∧ (stored started.pointers).Nodup ∧
      (∀ fd ∈ stored started.pointers, t.ref fd = none ∧ started.parent.ref fd ≠ none) ∧
      ∀ fd, fd ∉ stored started.pointers → started.parent.ref fd = t.ref fd := by
  unfold popen3func
  dsimp only
  by_cases einval : flags &&& POPEN_JOINSTDERR ≠ 0 ∧ p.stderr_fd ≠ none
  · rw [if_pos einval, if_pos rfl]
  rw [if_neg einval]
  cases opens : open_pipes o flags t with
  | mk ends t' =>
    cases ends with
    | none => exact open_pipes_fails opens
    | some ends =>
      have opened := open_pipes_opens opens
      cases o.fork with
      | none => exact fork_fails opened
      | some pid =>
        dsimp only
        rw [if_neg (by omega)]
        exact forked_keeps opened

theorem kept_first (t : Table (Ref File)) : Kept t ⟨t, []⟩ := by
  refine ⟨by simp, by simp, by simp, by simp, fun _ _ => rfl⟩

/-- A command that is started comes to those that run. -/
theorem started_kept {started : Started File} (kept : Kept t s) (known : Known started.pointers)
    (distinct : (stored started.pointers).Nodup)
    (new : ∀ fd ∈ stored started.pointers, s.table.ref fd = none ∧ started.parent.ref fd ≠ none)
    (same : ∀ fd, fd ∉ stored started.pointers → started.parent.ref fd = s.table.ref fd) :
    Kept t ⟨started.parent, started.pointers :: s.running⟩ := by
  have apart : ∀ fd ∈ stored started.pointers, fd ∉ s.running.flatMap stored :=
    fun fd member running => kept.opened fd running (new fd member).1
  refine ⟨?_, ?_, ?_, ?_, ?_⟩
  · exact List.forall_mem_cons.mpr ⟨known, kept.known⟩
  · rw [List.flatMap_cons, List.nodup_append]
    refine ⟨distinct, kept.distinct, ?_⟩
    rintro fd member _ running rfl
    exact apart fd member running
  · intro fd member
    rw [List.flatMap_cons, List.mem_append] at member
    rcases member with here | running
    · rw [← kept.others fd (apart fd here)]
      exact (new fd here).1
    · exact kept.free fd running
  · intro fd member
    rw [List.flatMap_cons, List.mem_append] at member
    rcases member with here | running
    · exact (new fd here).2
    · dsimp only
      rw [same fd fun here => apart fd here running]
      exact kept.opened fd running
  · intro fd absent
    rw [List.flatMap_cons, List.mem_append, not_or] at absent
    exact (same fd absent.1).trans (kept.others fd absent.2)

/-- A command that is ended leaves those that run. -/
theorem ended_kept {before after : List Pointers} (running : s.running = before ++ p :: after) (kept : Kept t s)
    {t' : Table (Ref File)} (closed : ∀ fd, t'.ref fd = if fd ∈ stored p then none else s.table.ref fd) :
    Kept t ⟨t', before ++ after⟩ := by
  have members : ∀ fd, fd ∈ s.running.flatMap stored ↔ fd ∈ stored p ∨ fd ∈ (before ++ after).flatMap stored := by
    intro fd
    simp only [running, List.flatMap_append, List.flatMap_cons, List.mem_append]
    exact or_left_comm
  have permuted : (s.running.flatMap stored).Perm (stored p ++ (before ++ after).flatMap stored) := by
    simp only [running, List.flatMap_append, List.flatMap_cons, ← List.append_assoc]
    exact (List.perm_append_comm).append_right _
  have distinct := permuted.nodup_iff.mp kept.distinct
  rw [List.nodup_append] at distinct
  have apart : ∀ fd ∈ (before ++ after).flatMap stored, fd ∉ stored p :=
    fun fd left here => distinct.2.2 fd here fd left rfl
  refine ⟨?_, distinct.2.1, ?_, ?_, ?_⟩
  · intro q member
    refine kept.known q ?_
    rw [running]
    exact List.Subset.trans (by simp) (List.append_subset.mpr ⟨List.subset_append_left _ _,
      List.subset_append_of_subset_right _ (List.subset_cons_self _ _)⟩) member
  · exact fun fd left => kept.free fd ((members fd).mpr (.inr left))
  · intro fd left
    dsimp only
    rw [closed, if_neg (apart fd left)]
    exact kept.opened fd ((members fd).mpr (.inr left))
  · intro fd absent
    dsimp only
    rw [closed]
    split
    · rename_i here
      exact (kept.free fd ((members fd).mpr (.inl here))).symm
    · rename_i elsewhere
      exact kept.others fd fun running => ((members fd).mp running).elim elsewhere absent

theorem step_kept (op : Op) (kept : Kept t s) (stepped : step s op = some s') : Kept t s' := by
  cases op with
  | popen o p flags =>
    have keeps := popen3func_keeps o p flags s.table
    simp only [step] at stepped
    split at stepped
    · rename_i failed
      cases stepped
      dsimp only at keeps
      rw [if_pos failed] at keeps
      exact ⟨kept.known, kept.distinct, kept.free, by rw [keeps]; exact kept.opened, by rw [keeps]; exact kept.others⟩
    · rename_i started
      cases stepped
      dsimp only at keeps
      rw [if_neg started] at keeps
      obtain ⟨known, distinct, new, same⟩ := keeps
      exact started_kept kept known distinct new same
  | pclose command waits =>
    simp only [step] at stepped
    split at stepped
    · cases stepped
    · rename_i p found
      obtain ⟨result, ended, rfl⟩ := Option.map_eq_some_iff.mp stepped
      obtain ⟨inside, here⟩ := List.getElem?_eq_some_iff.mp found
      have running : s.running = s.running.take command ++ p :: s.running.drop (command + 1) := by
        rw [← here, ← List.drop_eq_getElem_cons inside, List.take_append_drop]
      rw [List.eraseIdx_eq_take_drop_succ]
      have known := kept.known p (List.mem_of_getElem? found)
      exact ended_kept running kept (pclose3_ref known ended)

theorem run_kept {ops : List Op} (kept : Kept t s) (ran : run s ops = some s') : Kept t s' := by
  induction ops generalizing s with
  | nil =>
    cases ran
    exact kept
  | cons op rest ih =>
    rw [run, List.foldlM_cons] at ran
    obtain ⟨next, stepped, rest_ran⟩ := Option.bind_eq_some_iff.mp ran
    exact ih (step_kept op kept stepped) rest_ran

/-- In every run of starts and ends, the descriptors differ from the first ones exactly at
    the ends that running commands have stored, and each of these belongs to one command. -/
theorem popen_runs {ops : List Op} (ran : run ⟨t, []⟩ ops = some s) :
    (∀ fd, s.table.ref fd ≠ t.ref fd ↔ ∃ p ∈ s.running, fd ∈ stored p) ∧ (s.running.flatMap stored).Nodup ∧
      (s.running = [] → s.table = t) := by
  have kept := run_kept (kept_first t) ran
  refine ⟨?_, kept.distinct, ?_⟩
  · intro fd
    rw [← List.mem_flatMap]
    constructor
    · intro changed
      by_contra absent
      exact changed (kept.others fd absent)
    · intro running
      rw [kept.free fd running]
      exact kept.opened fd running
  · intro none
    ext1 fd
    exact kept.others fd (by simp [none])

end

/-- Two commands at once, the second of which is given a descriptor that is open; they are
    ended in the order in which they were started, the first one by a signal. -/
def two_commands : List Op := [
  .popen ⟨fun _ => true, some 5⟩ ⟨some (-1), some (-1), none⟩ POPEN_JOINSTDERR,
  .popen ⟨fun pipe => pipe = .stdin_pipe, some 6⟩ ⟨none, some (-1), none⟩ 0,
  .popen ⟨fun _ => true, some 6⟩ ⟨some 1, none, some (-1)⟩ 0,
  .pclose 1 [.interrupted, .signaled 9],
  .pclose 0 [.exited 0]]

theorem two_commands_closed : ∃ s, run ⟨started_by_init.map .file, []⟩ two_commands = some s ∧
    s.table = started_by_init.map .file :=
  have ran : run ⟨started_by_init.map .file, []⟩ two_commands = some _ := rfl
  ⟨_, ran, (popen_runs ran).2.2 rfl⟩

end SteamRecovery.PopenRuns
