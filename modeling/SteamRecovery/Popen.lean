import SteamRecovery.Descriptors
import SteamRecovery.Devices

/-!
Commands that are run with pipes (`popen3func` in `system.c`). Pipe ends may land on the
standard descriptors where these are free; the descriptors of the caller and those of the
child are what they should be all the same (`popen3func_wires`).
-/
namespace SteamRecovery.Popen
open SteamRecovery.Descriptors
open SteamRecovery.Devices (CInt)

def POPEN_JOINSTDERR : CInt := 1

inductive Pipe where
  | stdin_pipe
  | stdout_pipe
  | stderr_pipe
  deriving DecidableEq

/-- What a descriptor refers to: something that was open before, or an end of a pipe. -/
inductive Ref (File : Type) where
  | file (f : File)
  | read (p : Pipe)
  | write (p : Pipe)

variable {File : Type}

/-- The pipes that can be had, and the id of the child, unless `fork` fails. -/
structure Outcomes where
  pipe : Pipe → Bool
  fork : Option Nat

/-- What the pointers point to. `none` is `NULL`. -/
structure Pointers where
  stdin_fd : Option Int
  stdout_fd : Option Int
  stderr_fd : Option Int

/-- What is returned, the descriptors of the caller, and those of the child when `func` is
    called. -/
structure Started (File : Type) where
  pid : Int
  parent : Table (Ref File)
  pointers : Pointers
  child : Option (Table (Ref File))

/-- The ends of the three pipes, the one for reading first. -/
structure Ends where
  stdin_pipe : Nat × Nat
  stdout_pipe : Nat × Nat
  stderr_pipe : Nat × Nat

def closes (t : Table (Ref File)) (fds : List Nat) : Table (Ref File) := fds.foldl close t

/-- The pipes, with those of `stderr` joined; otherwise all is closed again. -/
def open_pipes (o : Outcomes) (flags : CInt) (t : Table (Ref File)) : Option Ends × Table (Ref File) :=
  if o.pipe .stdin_pipe = false then (none, t)
  else
    let (stdin_pipe, t) := pipe t (.read .stdin_pipe) (.write .stdin_pipe)
    if o.pipe .stdout_pipe = false then (none, closes t [stdin_pipe.1, stdin_pipe.2])
    else
      let (stdout_pipe, t) := pipe t (.read .stdout_pipe) (.write .stdout_pipe)
      if o.pipe .stderr_pipe = false then
        (none, closes t [stdin_pipe.1, stdin_pipe.2, stdout_pipe.1, stdout_pipe.2])
      else
        let (stderr_pipe, t) := pipe t (.read .stderr_pipe) (.write .stderr_pipe)
        let t :=
          if flags &&& POPEN_JOINSTDERR ≠ 0 then
            dup2 (dup2 t stdout_pipe.1 stderr_pipe.1) stdout_pipe.2 stderr_pipe.2
          else t
        (some ⟨stdin_pipe, stdout_pipe, stderr_pipe⟩, t)

/-- A descriptor of the caller takes the place of an end. One below 0 is not open. -/
def child_uses (t : Table (Ref File)) (given : Option Int) (fd : Nat) : Table (Ref File) :=
  match given with
  | some given => if 0 ≤ given then close (dup2 t given.toNat fd) given.toNat else t
  | none => t

def child_moves (t : Table (Ref File)) (fd std : Nat) : Table (Ref File) :=
  if fd ≠ std then close (dup2 t fd std) fd else t

def STDIN_FILENO : Nat := 0
def STDOUT_FILENO : Nat := 1
def STDERR_FILENO : Nat := 2

/-- The child, up to the call of `func`. -/
def in_child (p : Pointers) (ends : Ends) (t : Table (Ref File)) : Table (Ref File) :=
  let t := closes t [ends.stdin_pipe.2, ends.stdout_pipe.1, ends.stderr_pipe.1]
  let t := child_uses t p.stdin_fd ends.stdin_pipe.1
  let t := child_uses t p.stdout_fd ends.stdout_pipe.2
  let t := child_uses t p.stderr_fd ends.stderr_pipe.2
  let t := child_moves t ends.stdin_pipe.1 STDIN_FILENO
  let t := child_moves t ends.stdout_pipe.2 STDOUT_FILENO
  child_moves t ends.stderr_pipe.2 STDERR_FILENO

/-- The end that the caller keeps, if there is a pointer for it. -/
def parent_keeps (t : Table (Ref File)) (given : Option Int) (fd : Nat) : Table (Ref File) × Option Int :=
  match given with
  | some given => (if 0 ≤ given then dup2 t given.toNat fd else t, some fd)
  | none => (close t fd, none)

def in_parent (p : Pointers) (ends : Ends) (t : Table (Ref File)) : Table (Ref File) × Pointers :=
  let t := closes t [ends.stdin_pipe.1, ends.stdout_pipe.2, ends.stderr_pipe.2]
  let (t, stdin_fd) := parent_keeps t p.stdin_fd ends.stdin_pipe.2
  let (t, stdout_fd) := parent_keeps t p.stdout_fd ends.stdout_pipe.1
  let (t, stderr_fd) := parent_keeps t p.stderr_fd ends.stderr_pipe.1
  (t, ⟨stdin_fd, stdout_fd, stderr_fd⟩)

def popen3func (o : Outcomes) (p : Pointers) (flags : CInt) (t : Table (Ref File)) : Started File :=
  if flags &&& POPEN_JOINSTDERR ≠ 0 ∧ p.stderr_fd ≠ none then ⟨-1, t, p, none⟩
  else
    match open_pipes o flags t with
    | (none, t) => ⟨-1, t, p, none⟩
    | (some ends, t) =>
      match o.fork with
      | none =>
        ⟨-1, closes t [ends.stdin_pipe.1, ends.stdout_pipe.1, ends.stderr_pipe.1, ends.stdin_pipe.2, ends.stdout_pipe.2,
          ends.stderr_pipe.2], p, none⟩
      | some pid =>
        let (parent, pointers) := in_parent p ends t
        ⟨pid, parent, pointers, some (in_child p ends t)⟩

/-! ### The pipes -/

/-- The pipe that the child's `stderr` is written to. -/
def error_pipe (flags : CInt) : Pipe := if flags &&& POPEN_JOINSTDERR ≠ 0 then .stdout_pipe else .stderr_pipe

/-- The ends are in order, all were free, and nothing else is changed. -/
structure Opened (flags : CInt) (t : Table (Ref File)) (ends : Ends) (t' : Table (Ref File)) : Prop where
  ordered : ends.stdin_pipe.1 < ends.stdin_pipe.2 ∧ ends.stdin_pipe.2 < ends.stdout_pipe.1 ∧
    ends.stdout_pipe.1 < ends.stdout_pipe.2 ∧ ends.stdout_pipe.2 < ends.stderr_pipe.1 ∧
    ends.stderr_pipe.1 < ends.stderr_pipe.2
  stdin_free : t.ref ends.stdin_pipe.1 = none ∧ t.ref ends.stdin_pipe.2 = none
  stdout_free : t.ref ends.stdout_pipe.1 = none ∧ t.ref ends.stdout_pipe.2 = none
  stderr_free : t.ref ends.stderr_pipe.1 = none ∧ t.ref ends.stderr_pipe.2 = none
  refers : ∀ fd, t'.ref fd =
    if fd = ends.stdin_pipe.1 then some (.read .stdin_pipe)
    else if fd = ends.stdin_pipe.2 then some (.write .stdin_pipe)
    else if fd = ends.stdout_pipe.1 then some (.read .stdout_pipe)
    else if fd = ends.stdout_pipe.2 then some (.write .stdout_pipe)
    else if fd = ends.stderr_pipe.1 then some (.read (error_pipe flags))
    else if fd = ends.stderr_pipe.2 then some (.write (error_pipe flags))
    else t.ref fd

theorem ref_closes (t : Table (Ref File)) (fds : List Nat) (fd : Nat) :
    (closes t fds).ref fd = if fd ∈ fds then none else t.ref fd := by
  unfold closes
  induction fds generalizing t with
  | nil => simp
  | cons first rest ih =>
    rw [List.foldl_cons, ih, close, Table.ref_put]
    by_cases here : fd = first <;> simp [here]

theorem ref_moves {t : Table (Ref File)} {fd : Nat} {end_ : Ref File} (refers : t.ref fd = some end_) (std other : Nat) :
    (child_moves t fd std).ref other = if other = std then some end_ else if other = fd then none else t.ref other := by
  unfold child_moves
  split
  · rename_i apart
    rw [dup2_open refers, close, Table.ref_put, Table.ref_put]
    by_cases here : other = fd
    · rw [if_pos here, if_neg (by omega), if_pos here]
    · rw [if_neg here, if_neg here]
  · rename_i same
    rw [not_not] at same
    subst same
    split
    · rename_i here
      rw [here, refers]
    · rfl

/-- Descriptors that were free are closed again. -/
theorem closes_new {t t' : Table (Ref File)} {fds : List Nat} (free : ∀ fd ∈ fds, t.ref fd = none)
    (others : ∀ fd, fd ∉ fds → t'.ref fd = t.ref fd) : closes t' fds = t := by
  ext1 fd
  rw [ref_closes]
  split
  · rename_i listed
    exact (free fd listed).symm
  · rename_i unlisted
    exact others fd unlisted

theorem ref_pipe {t t' : Table (Ref File)} {read_end write_end : Ref File} {ends : Nat × Nat}
    (opened : PipeOpened t read_end write_end ends t') (fd : Nat) :
    t'.ref fd = if fd = ends.1 then some read_end else if fd = ends.2 then some write_end else t.ref fd := by
  have ordered := opened.ordered
  rw [opened.table, Table.ref_put, Table.ref_put]
  grind

/-- A descriptor that is free behind a pipe comes behind its ends. -/
theorem free_behind {t t' : Table (Ref File)} {read_end write_end : Ref File} {ends : Nat × Nat}
    (opened : PipeOpened t read_end write_end ends t') {fd : Nat} (free : t'.ref fd = none) :
    ends.2 < fd ∧ t.ref fd = none := by
  have behind : ends.2 < fd := free_above opened.below free
  have ordered := opened.ordered
  rw [ref_pipe opened, if_neg (by omega), if_neg (by omega)] at free
  exact ⟨behind, free⟩

theorem open_pipes_fails {o : Outcomes} {flags : CInt} {t t' : Table (Ref File)} (fails : open_pipes o flags t = (none, t')) :
    t' = t := by
  unfold open_pipes at fails
  split at fails
  · cases fails
    rfl
  have stdin_opened := pipe_spec t (.read .stdin_pipe) (.write .stdin_pipe)
  generalize pipe t (.read .stdin_pipe) (.write .stdin_pipe) = first at stdin_opened fails
  obtain ⟨stdin_pipe, t₁⟩ := first
  dsimp only at stdin_opened fails
  split at fails
  · cases fails
    apply closes_new
    · simp [stdin_opened.read_free, stdin_opened.write_free]
    · intro fd apart
      rw [ref_pipe stdin_opened]
      simp_all
  have stdout_opened := pipe_spec t₁ (.read .stdout_pipe) (.write .stdout_pipe)
  generalize pipe t₁ (.read .stdout_pipe) (.write .stdout_pipe) = second at stdout_opened fails
  obtain ⟨stdout_pipe, t₂⟩ := second
  dsimp only at stdout_opened fails
  split at fails
  · cases fails
    apply closes_new
    · simp [stdin_opened.read_free, stdin_opened.write_free, (free_behind stdin_opened stdout_opened.read_free).2,
        (free_behind stdin_opened stdout_opened.write_free).2]
    · intro fd apart
      rw [ref_pipe stdout_opened, ref_pipe stdin_opened]
      simp_all
  · cases fails

theorem open_pipes_opens {o : Outcomes} {flags : CInt} {t t' : Table (Ref File)} {ends : Ends}
    (opens : open_pipes o flags t = (some ends, t')) : Opened flags t ends t' := by
  unfold open_pipes at opens
  split at opens
  · cases opens
  have stdin_opened := pipe_spec t (.read .stdin_pipe) (.write .stdin_pipe)
  generalize pipe t (.read .stdin_pipe) (.write .stdin_pipe) = first at stdin_opened opens
  obtain ⟨stdin_pipe, t₁⟩ := first
  dsimp only at stdin_opened opens
  split at opens
  · cases opens
  have stdout_opened := pipe_spec t₁ (.read .stdout_pipe) (.write .stdout_pipe)
  generalize pipe t₁ (.read .stdout_pipe) (.write .stdout_pipe) = second at stdout_opened opens
  obtain ⟨stdout_pipe, t₂⟩ := second
  dsimp only at stdout_opened opens
  split at opens
  · cases opens
  have stderr_opened := pipe_spec t₂ (.read .stderr_pipe) (.write .stderr_pipe)
  generalize pipe t₂ (.read .stderr_pipe) (.write .stderr_pipe) = third at stderr_opened opens
  obtain ⟨stderr_pipe, t₃⟩ := third
  dsimp only at stderr_opened opens
  -- an end of a later pipe is behind the ends of those before
  have stdout_read := free_behind stdin_opened stdout_opened.read_free
  have stdout_write := free_behind stdin_opened stdout_opened.write_free
  have stderr_read := free_behind stdout_opened stderr_opened.read_free
  have stderr_write := free_behind stdout_opened stderr_opened.write_free
  have refers (fd : Nat) : t₃.ref fd =
      if fd = stderr_pipe.1 then some (.read .stderr_pipe) else if fd = stderr_pipe.2 then some (.write .stderr_pipe)
      else if fd = stdout_pipe.1 then some (.read .stdout_pipe) else if fd = stdout_pipe.2 then some (.write .stdout_pipe)
      else if fd = stdin_pipe.1 then some (.read .stdin_pipe) else if fd = stdin_pipe.2 then some (.write .stdin_pipe)
      else t.ref fd := by
    rw [ref_pipe stderr_opened, ref_pipe stdout_opened, ref_pipe stdin_opened]
  have orders := And.intro stdin_opened.ordered (And.intro stdout_opened.ordered stderr_opened.ordered)
  cases opens
  refine
    { ordered := ⟨orders.1, stdout_read.1, orders.2.1, stderr_read.1, orders.2.2⟩
      stdin_free := ⟨stdin_opened.read_free, stdin_opened.write_free⟩
      stdout_free := ⟨stdout_read.2, stdout_write.2⟩
      stderr_free := ⟨(free_behind stdin_opened stderr_read.2).2, (free_behind stdin_opened stderr_write.2).2⟩
      refers := ?_ }
  intro fd
  dsimp only
  by_cases join : flags &&& POPEN_JOINSTDERR ≠ 0
  · have read_opened : t₃.ref stdout_pipe.1 = some (.read .stdout_pipe) := by
      rw [refers]
      grind
    have write_opened : (t₃.put stderr_pipe.1 (some (.read .stdout_pipe))).ref stdout_pipe.2 = some (.write .stdout_pipe) := by
      rw [Table.ref_put, refers]
      grind
    rw [if_pos join, dup2_open read_opened, dup2_open write_opened, Table.ref_put, Table.ref_put, refers, error_pipe,
      if_pos join]
    grind
  · rw [if_neg join, refers, error_pipe, if_neg join]
    grind

section
variable {flags : CInt} {t t' : Table (Ref File)} {ends : Ends} {p : Pointers}

/-- No descriptor of the caller is given. -/
structure Absent (p : Pointers) : Prop where
  stdin_fd : ∀ fd ∈ p.stdin_fd, fd < 0
  stdout_fd : ∀ fd ∈ p.stdout_fd, fd < 0
  stderr_fd : ∀ fd ∈ p.stderr_fd, fd < 0

theorem child_uses_absent {given : Option Int} (absent : ∀ fd ∈ given, fd < 0) (t : Table (Ref File)) (fd : Nat) :
    child_uses t given fd = t := by
  cases given with
  | none => rfl
  | some given => exact if_neg (by have := absent given rfl; omega)

theorem in_child_refers (opened : Opened flags t ends t') (absent : Absent p) (fd : Nat) :
    (in_child p ends t').ref fd =
      if fd = 0 then some (.read .stdin_pipe) else if fd = 1 then some (.write .stdout_pipe)
      else if fd = 2 then some (.write (error_pipe flags)) else t.ref fd := by
  obtain ⟨ordered, stdin_free, stdout_free, stderr_free, refers⟩ := opened
  obtain ⟨⟨stdin_read, stdin_write⟩, ⟨stdout_read, stdout_write⟩, stderr_read, stderr_write⟩ := ends
  dsimp only at *
  simp only [in_child, child_uses_absent absent.stdin_fd, child_uses_absent absent.stdout_fd,
    child_uses_absent absent.stderr_fd, STDIN_FILENO, STDOUT_FILENO, STDERR_FILENO]
  -- what is left of the pipes, and then one end after the other on its place
  have kept : ∀ fd, (closes t' [stdin_write, stdout_read, stderr_read]).ref fd =
      if fd = stdin_read then some (.read .stdin_pipe) else if fd = stdout_write then some (.write .stdout_pipe)
      else if fd = stderr_write then some (.write (error_pipe flags)) else t.ref fd := by
    intro fd
    rw [ref_closes, refers]
    simp only [List.mem_cons, List.not_mem_nil, or_false]
    grind
  generalize closes t' [stdin_write, stdout_read, stderr_read] = t₀ at kept ⊢
  have first : ∀ fd, (child_moves t₀ stdin_read 0).ref fd =
      if fd = 0 then some (.read .stdin_pipe) else if fd = stdout_write then some (.write .stdout_pipe)
      else if fd = stderr_write then some (.write (error_pipe flags)) else t.ref fd := by
    intro fd
    rw [ref_moves (by rw [kept, if_pos rfl]), kept]
    grind
  generalize child_moves t₀ stdin_read 0 = t₁ at first ⊢
  have second : ∀ fd, (child_moves t₁ stdout_write 1).ref fd =
      if fd = 0 then some (.read .stdin_pipe) else if fd = 1 then some (.write .stdout_pipe)
      else if fd = stderr_write then some (.write (error_pipe flags)) else t.ref fd := by
    intro fd
    rw [ref_moves (by rw [first, if_neg (by omega), if_pos rfl]), first]
    grind
  generalize child_moves t₁ stdout_write 1 = t₂ at second ⊢
  rw [ref_moves (by rw [second, if_neg (by omega), if_neg (by omega), if_pos rfl]), second]
  grind

/-! ### The caller -/

theorem ref_parent_keeps {given : Option Int} (absent : ∀ fd ∈ given, fd < 0) (t : Table (Ref File)) (end_ fd : Nat) :
    (parent_keeps t given end_).1.ref fd = if given = none ∧ fd = end_ then none else t.ref fd := by
  cases given with
  | none => simp [parent_keeps, close, Table.ref_put]
  | some given =>
    have below : ¬0 ≤ given := by
      have := absent given rfl
      omega
    simp [parent_keeps, below]

theorem parent_keeps_stored (given : Option Int) (t : Table (Ref File)) (end_ : Nat) :
    (parent_keeps t given end_).2 = given.map fun _ => (end_ : Int) := by
  cases given <;> rfl

theorem in_parent_pointers (ends : Ends) :
    (in_parent p ends t').2 = ⟨p.stdin_fd.map fun _ => (ends.stdin_pipe.2 : Int),
      p.stdout_fd.map fun _ => (ends.stdout_pipe.1 : Int), p.stderr_fd.map fun _ => (ends.stderr_pipe.1 : Int)⟩ := by
  simp only [in_parent, parent_keeps_stored]

theorem in_parent_refers (opened : Opened flags t ends t') (absent : Absent p) (fd : Nat) :
    (in_parent p ends t').1.ref fd =
      if p.stdin_fd ≠ none ∧ fd = ends.stdin_pipe.2 then some (.write .stdin_pipe)
      else if p.stdout_fd ≠ none ∧ fd = ends.stdout_pipe.1 then some (.read .stdout_pipe)
      else if p.stderr_fd ≠ none ∧ fd = ends.stderr_pipe.1 then some (.read (error_pipe flags)) else t.ref fd := by
  obtain ⟨ordered, stdin_free, stdout_free, stderr_free, refers⟩ := opened
  simp only [in_parent, ref_parent_keeps absent.stdin_fd, ref_parent_keeps absent.stdout_fd,
    ref_parent_keeps absent.stderr_fd]
  rw [ref_closes, refers]
  simp only [List.mem_cons, List.not_mem_nil, or_false]
  grind

theorem fork_fails (opened : Opened flags t ends t') :
    closes t' [ends.stdin_pipe.1, ends.stdout_pipe.1, ends.stderr_pipe.1, ends.stdin_pipe.2, ends.stdout_pipe.2,
      ends.stderr_pipe.2] = t := by
  obtain ⟨ordered, stdin_free, stdout_free, stderr_free, refers⟩ := opened
  apply closes_new
  · simp [stdin_free, stdout_free, stderr_free]
  · intro fd apart
    rw [refers]
    simp_all

end

/-! ### Both sides -/

/-- One of the caller's new descriptors is stored through a pointer that is not `NULL`. -/
def Stored (before after : Option Int) (parent : Table (Ref File)) (end_ : Ref File) : Prop :=
  (before = none ∧ after = none) ∨
    before ≠ none ∧ ∃ fd : Nat, after = some (fd : Int) ∧ parent.ref fd = some end_

/-- The caller has what it had and the ends that are stored; the child has the others on its
    standard descriptors. -/
structure Wired (flags : CInt) (p : Pointers) (t : Table File) (started : Started File) : Prop where
  old : ∀ fd file, t.ref fd = some file → started.parent.ref fd = some (.file file)
  new : ∀ fd, t.ref fd = none → (started.parent.ref fd ≠ none ↔
    started.pointers.stdin_fd = some (fd : Int) ∨ started.pointers.stdout_fd = some (fd : Int) ∨
      started.pointers.stderr_fd = some (fd : Int))
  stdin_fd : Stored p.stdin_fd started.pointers.stdin_fd started.parent (.write .stdin_pipe)
  stdout_fd : Stored p.stdout_fd started.pointers.stdout_fd started.parent (.read .stdout_pipe)
  stderr_fd : Stored p.stderr_fd started.pointers.stderr_fd started.parent (.read (error_pipe flags))
  child : ∃ child, started.child = some child ∧ child.ref STDIN_FILENO = some (.read .stdin_pipe) ∧
    child.ref STDOUT_FILENO = some (.write .stdout_pipe) ∧
    child.ref STDERR_FILENO = some (.write (error_pipe flags)) ∧
    ∀ fd > STDERR_FILENO, child.ref fd = (t.ref fd).map .file

theorem parent_stored {before : Option Int} {fd : Nat} {parent : Table (Ref File)} {end_ : Ref File}
    (refers : before ≠ none → parent.ref fd = some end_) : Stored before (before.map fun _ => (fd : Int)) parent end_ := by
  cases before with
  | none => exact .inl ⟨rfl, rfl⟩
  | some given => exact .inr ⟨nofun, fd, rfl, refers nofun⟩

theorem forked_wires {flags : CInt} {p : Pointers} {t : Table File} {t' : Table (Ref File)} {ends : Ends}
    (opened : Opened flags (t.map .file) ends t') (absent : Absent p) (pid : Int) :
    Wired flags p t ⟨pid, (in_parent p ends t').1, (in_parent p ends t').2, some (in_child p ends t')⟩ := by
  have ref_map (fd : Nat) : (t.map .file).ref fd = (t.ref fd).map (Ref.file : File → Ref File) := rfl
  have parent := in_parent_refers opened absent
  have child := in_child_refers opened absent
  have ordered := opened.ordered
  have stdin_free := opened.stdin_free.2
  have stdout_free := opened.stdout_free.1
  have stderr_free := opened.stderr_free.1
  rw [in_parent_pointers]
  refine
    { old := ?_, new := ?_
      stdin_fd := parent_stored fun given => ?_
      stdout_fd := parent_stored fun given => ?_
      stderr_fd := parent_stored fun given => ?_
      child := ⟨in_child p ends t', rfl, ?_, ?_, ?_, ?_⟩ }
  · intro fd file here
    have opened_before : (t.map .file).ref fd = some (Ref.file file) := by rw [ref_map, here, Option.map_some]
    rw [parent]
    grind
  · intro fd free
    rw [parent, ref_map, free, Option.map_none]
    cases p.stdin_fd <;> cases p.stdout_fd <;> cases p.stderr_fd <;> grind
  · rw [parent, if_pos ⟨given, rfl⟩]
  · rw [parent, if_neg (by omega), if_pos ⟨given, rfl⟩]
  · rw [parent, if_neg (by omega), if_neg (by omega), if_pos ⟨given, rfl⟩]
  · exact child 0
  · exact child 1
  · exact child 2
  · intro fd above
    unfold STDERR_FILENO at above
    rw [child, if_neg (by omega), if_neg (by omega), if_neg (by omega), ref_map]

/-- It fails only where pipes or `fork` do, or where `stderr` is joined and asked for. -/
theorem popen3func_fails (o : Outcomes) (p : Pointers) (flags : CInt) (t : Table (Ref File)) :
    (popen3func o p flags t).pid = -1 ↔
      (flags &&& POPEN_JOINSTDERR ≠ 0 ∧ p.stderr_fd ≠ none) ∨ (∃ pipe, o.pipe pipe = false) ∨ o.fork = none := by
  have fails : (open_pipes o flags t).1 = none ↔ ∃ pipe, o.pipe pipe = false := by
    unfold open_pipes
    constructor
    · intro absent
      split at absent
      · exact ⟨_, ‹_›⟩
      dsimp only at absent
      split at absent
      · exact ⟨_, ‹_›⟩
      split at absent
      · exact ⟨_, ‹_›⟩
      · cases absent
    · rintro ⟨pipe, absent⟩
      by_cases stdin_fails : o.pipe .stdin_pipe = false
      · rw [if_pos stdin_fails]
      by_cases stdout_fails : o.pipe .stdout_pipe = false
      · rw [if_neg stdin_fails]
        dsimp only
        rw [if_pos stdout_fails]
      cases pipe with
      | stdin_pipe => exact absurd absent stdin_fails
      | stdout_pipe => exact absurd absent stdout_fails
      | stderr_pipe =>
        rw [if_neg stdin_fails]
        dsimp only
        rw [if_neg stdout_fails, if_pos absent]
  rw [← fails]
  unfold popen3func
  by_cases einval : flags &&& POPEN_JOINSTDERR ≠ 0 ∧ p.stderr_fd ≠ none
  · rw [if_pos einval]
    simp only [true_iff]
    exact .inl einval
  rw [if_neg einval]
  cases opens : open_pipes o flags t with
  | mk ends t' =>
    cases ends with
    | none => simp
    | some ends =>
      cases fork : o.fork with
      | none => simp
      | some pid => simpa using einval

theorem popen3func_wires (o : Outcomes) (p : Pointers) (flags : CInt) (t : Table File) (absent : Absent p) :
    let started := popen3func o p flags (t.map .file)
    if started.pid = -1 then started.parent = t.map .file else Wired flags p t started := by
  unfold popen3func
  dsimp only
  by_cases einval : flags &&& POPEN_JOINSTDERR ≠ 0 ∧ p.stderr_fd ≠ none
  · rw [if_pos einval, if_pos rfl]
  rw [if_neg einval]
  cases opens : open_pipes o flags (t.map .file) with
  | mk ends t' =>
    cases ends with
    | none => exact open_pipes_fails opens
    | some ends =>
      have opened := open_pipes_opens opens
      cases o.fork with
      | none => exact fork_fails opened
      | some pid => exact forked_wires opened absent pid

/-- A program that is started by `init` with only a console behind its standard output. -/
def started_by_init : Table String where
  ref fd := if fd = 1 then some "console" else none
  finite := ⟨2, fun fd above => if_neg (by omega)⟩

theorem init_wires :
    let started := popen3func ⟨fun _ => true, some 42⟩ ⟨some (-1), some (-1), none⟩ POPEN_JOINSTDERR
      (started_by_init.map .file)
    if started.pid = -1 then started.parent = started_by_init.map .file
    else Wired POPEN_JOINSTDERR ⟨some (-1), some (-1), none⟩ started_by_init started :=
  popen3func_wires _ _ _ _ ⟨by simp, by simp, by simp⟩

end SteamRecovery.Popen
