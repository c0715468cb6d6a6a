import SteamRecovery.Config
import SteamRecovery.Lightswitch

/-!
The configuration under threads (`config.c`). Readers and writers are two groups, each
with a lightswitch: the readers' on `gWrite`, under `gMutex1`, and the writers' on
`gRead`, under `gMutex2`; a writer has `gWrite` to itself, and a reader `gRead` on its
way in. No two threads are in the list while one of them changes it, and as long as a
thread is unfinished some thread can go on (`readers_writers_protocol`).
-/
namespace SteamRecovery.ConfigThreads
open SteamRecovery.Config (print_entries)
open SteamRecovery.Interleaving
open SteamRecovery.Lightswitch (Phase Switch in_section counted)

/-- The function that locked a mutex, which any thread may unlock. -/
inductive Locker where
  | read_conf
  | write_conf
  deriving DecidableEq

abbrev Mutex := Option Locker

/-- What the threads share. -/
structure Store where
  gMutex1 : Mutex
  gMutex2 : Mutex
  gMutex3 : Mutex
  gWrite : Mutex
  gRead : Mutex
  numreaders : Int
  numwriters : Int
  /-- The list behind `firstconf`. -/
  entries : List (String × String)
  /-- What `malloc` leaves as the value of a new element. -/
  fresh : String
  /-- The text of `CONFIG_SYSTEM`, where that file exists. -/
  system_file : Option String
  /-- `fopen(CONFIG_SYSTEM,"w+")` succeeds. -/
  writable : Bool

inductive Call where
  | read_conf (key : String)
  | write_conf (key : String) (value : Option String)

/-- The line of `read_conf` that comes next; `n` counts the elements passed. -/
inductive Reading where
  | lock_gMutex3
  | lock_gRead
  | lock_gMutex1
  | count
  | first
  | lock_gWrite
  | unlock_gMutex1
  | unlock_gRead
  | unlock_gMutex3
  | walk (n : Nat)
  | relock_gMutex1 (found : Option String)
  | uncount (found : Option String)
  | last (found : Option String)
  | unlock_gWrite (found : Option String)
  | leave (found : Option String)

/-- The line of `write_conf` that comes next. -/
inductive Writing where
  | lock_gMutex2
  | count
  | first
  | lock_gRead
  | unlock_gMutex2
  | lock_gWrite
  | walk (n : Nat)
  | save (found : Bool)
  | unlock_gWrite (found : Bool)
  | relock_gMutex2 (found : Bool)
  | uncount (found : Bool)
  | last (found : Bool)
  | unlock_gRead (found : Bool)
  | leave (found : Bool)

inductive Point where
  | idle
  | reading (key : String) (line : Reading)
  | writing (key : String) (value : Option String) (line : Writing)

inductive Result where
  /-- The value that `read_conf` found. -/
  | read (found : Option String)
  | written (found : Bool)

/-- The calls still to be made, and the results of those that returned. -/
structure Thread where
  calls : List Call
  point : Point
  returned : List Result

/-- `pthread_mutex_lock`: the mutex when it is free. -/
def lock (by_ : Locker) : Mutex → Option Mutex
  | none => some (some by_)
  | some _ => none

/-- One round of the loop of `read_conf`. -/
def read_round (key : String) (n : Nat) (s : Store) : Reading :=
  match s.entries[n]? with
  | none => .relock_gMutex1 none
  | some (k, v) => if key = k then .relock_gMutex1 (some v) else .walk (n + 1)

/-- One line of `read_conf`. -/
def read_step (key : String) (line : Reading) (s : Store) : Option ((Reading ⊕ Result) × Store) :=
  match line with
  | .lock_gMutex3 => (lock .read_conf s.gMutex3).map fun m => (.inl .lock_gRead, { s with gMutex3 := m })
  | .lock_gRead => (lock .read_conf s.gRead).map fun m => (.inl .lock_gMutex1, { s with gRead := m })
  | .lock_gMutex1 => (lock .read_conf s.gMutex1).map fun m => (.inl .count, { s with gMutex1 := m })
  | .count => some (.inl .first, { s with numreaders := s.numreaders + 1 })
  | .first => some (.inl (if s.numreaders = 1 then .lock_gWrite else .unlock_gMutex1), s)
  | .lock_gWrite => (lock .read_conf s.gWrite).map fun m => (.inl .unlock_gMutex1, { s with gWrite := m })
  | .unlock_gMutex1 => some (.inl .unlock_gRead, { s with gMutex1 := none })
  | .unlock_gRead => some (.inl .unlock_gMutex3, { s with gRead := none })
  | .unlock_gMutex3 => some (.inl (.walk 0), { s with gMutex3 := none })
  | .walk n => some (.inl (read_round key n s), s)
  | .relock_gMutex1 found =>
    (lock .read_conf s.gMutex1).map fun m => (.inl (.uncount found), { s with gMutex1 := m })
  | .uncount found => some (.inl (.last found), { s with numreaders := s.numreaders - 1 })
  | .last found => some (.inl (if s.numreaders = 0 then .unlock_gWrite found else .leave found), s)
  | .unlock_gWrite found => some (.inl (.leave found), { s with gWrite := none })
  | .leave found => some (.inr (.read found), { s with gMutex1 := none })

/-- One round of the loop of `write_conf`. An element that is appended is the next one,
    with the key it was appended for. -/
def write_round (key : String) (value : Option String) (n : Nat) (s : Store) : Writing × Store :=
  match s.entries[n]? with
  | none => (.save false, s)
  | some (k, _) =>
    if key = k then
      match value with
      | some new => (.save true, { s with entries := s.entries.set n (k, new) })
      | none => (.save false, { s with entries := s.entries.eraseIdx n })
    else if n + 1 = s.entries.length ∧ value.isSome then
      (.walk (n + 1), { s with entries := s.entries ++ [(key, s.fresh)] })
    else (.walk (n + 1), s)

/-- One line of `write_conf`. -/
def write_step (key : String) (value : Option String) (line : Writing) (s : Store) :
    Option ((Writing ⊕ Result) × Store) :=
  match line with
  | .lock_gMutex2 => (lock .write_conf s.gMutex2).map fun m => (.inl .count, { s with gMutex2 := m })
  | .count => some (.inl .first, { s with numwriters := s.numwriters + 1 })
  | .first => some (.inl (if s.numwriters = 1 then .lock_gRead else .unlock_gMutex2), s)
  | .lock_gRead => (lock .write_conf s.gRead).map fun m => (.inl .unlock_gMutex2, { s with gRead := m })
  | .unlock_gMutex2 => some (.inl .lock_gWrite, { s with gMutex2 := none })
  | .lock_gWrite => (lock .write_conf s.gWrite).map fun m => (.inl (.walk 0), { s with gWrite := m })
  | .walk n => some (.inl (write_round key value n s).1, (write_round key value n s).2)
  | .save found =>
    some (.inl (.unlock_gWrite found),
      { s with system_file := s.system_file.map fun before => if s.writable then print_entries s.entries else before })
  | .unlock_gWrite found => some (.inl (.relock_gMutex2 found), { s with gWrite := none })
  | .relock_gMutex2 found =>
    (lock .write_conf s.gMutex2).map fun m => (.inl (.uncount found), { s with gMutex2 := m })
  | .uncount found => some (.inl (.last found), { s with numwriters := s.numwriters - 1 })
  | .last found => some (.inl (if s.numwriters = 0 then .unlock_gRead found else .leave found), s)
  | .unlock_gRead found => some (.inl (.leave found), { s with gRead := none })
  | .leave found => some (.inr (.written found), { s with gMutex2 := none })

/-- One step of a thread: the next call, or the next line of the call it is in. -/
def next (t : Thread) (s : Store) : Option (Thread × Store) :=
  match t.point with
  | .idle =>
    match t.calls with
    | [] => none
    | .read_conf key :: calls => some ({ t with calls := calls, point := .reading key .lock_gMutex3 }, s)
    | .write_conf key value :: calls => some ({ t with calls := calls, point := .writing key value .lock_gMutex2 }, s)
  | .reading key line =>
    (read_step key line s).map fun
      | (.inl line, s) => ({ t with point := .reading key line }, s)
      | (.inr result, s) => ({ t with point := .idle, returned := t.returned ++ [result] }, s)
  | .writing key value line =>
    (write_step key value line s).map fun
      | (.inl line, s) => ({ t with point := .writing key value line }, s)
      | (.inr result, s) => ({ t with point := .idle, returned := t.returned ++ [result] }, s)

/-- Threads that have their calls before them, and a store with its mutexes as
    `PTHREAD_MUTEX_INITIALIZER` leaves them. -/
def start (calls : List (List Call)) (entries : List (String × String)) (fresh : String)
    (system_file : Option String) (writable : Bool) : State Thread Store where
  threads := calls.map fun calls => ⟨calls, .idle, []⟩
  shared := ⟨none, none, none, none, none, 0, 0, entries, fresh, system_file, writable⟩

def finished (t : Thread) : Bool :=
  match t.point with
  | .idle => t.calls.isEmpty
  | _ => false

/-! ### Where a thread stands -/

/-- Where a reader stands with the lightswitch on `gWrite`. -/
def reader_phase (t : Thread) : Phase :=
  match t.point with
  | .reading _ line =>
    match line with
    | .lock_gMutex3 | .lock_gRead | .lock_gMutex1 => .outside
    | .count => .count
    | .first => .first
    | .lock_gWrite => .lock
    | .unlock_gMutex1 => .entered
    | .unlock_gRead | .unlock_gMutex3 | .walk _ | .relock_gMutex1 _ => .inside
    | .uncount _ => .uncount
    | .last _ => .last
    | .unlock_gWrite _ => .unlock
    | .leave _ => .leave
  | _ => .outside

/-- Where a writer stands with the lightswitch on `gRead`. -/
def writer_phase (t : Thread) : Phase :=
  match t.point with
  | .writing _ _ line =>
    match line with
    | .lock_gMutex2 => .outside
    | .count => .count
    | .first => .first
    | .lock_gRead => .lock
    | .unlock_gMutex2 => .entered
    | .lock_gWrite | .walk _ | .save _ | .unlock_gWrite _ | .relock_gMutex2 _ => .inside
    | .uncount _ => .uncount
    | .last _ => .last
    | .unlock_gRead _ => .unlock
    | .leave _ => .leave
  | _ => .outside

/-- Between `pthread_mutex_lock(&gMutex1)` and `pthread_mutex_unlock(&gMutex1)`. -/
def in_gMutex1 (t : Thread) : Bool := in_section (reader_phase t)

/-- The reader that holds `gMutex3`. -/
def in_gMutex3 (t : Thread) : Bool :=
  match t.point with
  | .reading _ line =>
    match line with
    | .lock_gRead | .lock_gMutex1 | .count | .first | .lock_gWrite | .unlock_gMutex1 | .unlock_gRead
    | .unlock_gMutex3 => true
    | _ => false
  | _ => false

/-- The reader that holds `gRead`. -/
def entering (t : Thread) : Bool :=
  match t.point with
  | .reading _ line =>
    match line with
    | .lock_gMutex1 | .count | .first | .lock_gWrite | .unlock_gMutex1 | .unlock_gRead => true
    | _ => false
  | _ => false

/-- In the section of `write_conf` that changes the list and writes it out. -/
def changing (t : Thread) : Bool :=
  match t.point with
  | .writing _ _ line =>
    match line with
    | .walk _ | .save _ | .unlock_gWrite _ => true
    | _ => false
  | _ => false

/-- In the section of `read_conf` that walks the list. -/
def walking (t : Thread) : Bool :=
  match t.point with
  | .reading _ (.walk _) => true
  | _ => false

/-- The readers' lightswitch. -/
def reader_switch (s : Store) : Switch := ⟨s.gMutex1.isSome, s.numreaders, s.gWrite == some .read_conf⟩

/-- The writers' lightswitch. -/
def writer_switch (s : Store) : Switch := ⟨s.gMutex2.isSome, s.numwriters, s.gRead == some .write_conf⟩

def readers (s : State Thread Store) : State Phase Switch := ⟨s.threads.map reader_phase, reader_switch s.shared⟩

def writers (s : State Thread Store) : State Phase Switch := ⟨s.threads.map writer_phase, writer_switch s.shared⟩

structure Inv (s : State Thread Store) : Prop where
  readers : Lightswitch.Inv (readers s)
  writers : Lightswitch.Inv (writers s)
  gMutex3 : (s.shared.gMutex3.isSome.toNat : Int) = tally in_gMutex3 s.threads
  gWrite : ((s.shared.gWrite == some .write_conf).toNat : Int) = tally changing s.threads
  gRead : ((s.shared.gRead == some .read_conf).toNat : Int) = tally entering s.threads

/-! ### Every step is one of the lightswitches', or leaves them alone -/

/-- A step of the lightswitch, or none. -/
def Moves (phase phase' : Phase) (s s' : Switch) : Prop :=
  Lightswitch.next phase s = some (phase', s') ∨ phase' = phase ∧ s' = s

theorem lock_eq_some {by_ : Locker} {m after : Mutex} : lock by_ m = some after ↔ m = none ∧ after = some by_ := by
  cases m <;> simp [lock, eq_comm]

theorem read_round_cases (key : String) (n : Nat) (s : Store) :
    (∃ found, read_round key n s = .relock_gMutex1 found) ∨ read_round key n s = .walk (n + 1) := by
  fun_cases read_round key n s <;> simp

theorem write_round_cases (key : String) (value : Option String) (n : Nat) (s : Store) :
    ((∃ found, (write_round key value n s).1 = .save found) ∨ (write_round key value n s).1 = .walk (n + 1)) ∧
      ∃ entries, (write_round key value n s).2 = { s with entries := entries } := by
  fun_cases write_round key value n s <;> simp <;> exact ⟨_, rfl⟩

/-- What a thread at a line of the protocol holds. -/
structure Owns (t : Thread) (s : Store) : Prop where
  readers_gWrite : reader_phase t = .unlock → s.gWrite = some .read_conf
  writers_gRead : writer_phase t = .unlock → s.gRead = some .write_conf
  gWrite : changing t → s.gWrite = some .write_conf
  gRead : entering t → s.gRead = some .read_conf
  gMutex3 : in_gMutex3 t → s.gMutex3.isSome

/-- What a step does to the lightswitches and to the mutexes that are locked and unlocked
    by one thread. -/
structure Effect (t t' : Thread) (s s' : Store) : Prop where
  readers : Moves (reader_phase t) (reader_phase t') (reader_switch s) (reader_switch s')
  writers : Moves (writer_phase t) (writer_phase t') (writer_switch s) (writer_switch s')
  gMutex3 : s'.gMutex3.isSome.toNat + (in_gMutex3 t).toNat = s.gMutex3.isSome.toNat + (in_gMutex3 t').toNat
  gWrite : (s'.gWrite == some .write_conf).toNat + (changing t).toNat =
    (s.gWrite == some .write_conf).toNat + (changing t').toNat
  gRead : (s'.gRead == some .read_conf).toNat + (entering t).toNat =
    (s.gRead == some .read_conf).toNat + (entering t').toNat

/-- A step that passes no lock. -/
theorem effect_of_same {t t' : Thread} {s : Store}
    (readers : Moves (reader_phase t) (reader_phase t') (reader_switch s) (reader_switch s))
    (writers : Moves (writer_phase t) (writer_phase t') (writer_switch s) (writer_switch s))
    (gMutex3 : in_gMutex3 t' = in_gMutex3 t) (gWrite : changing t' = changing t) (gRead : entering t' = entering t) :
    Effect t t' s s where
  readers := readers
  writers := writers
  gMutex3 := by rw [gMutex3]
  gWrite := by rw [gWrite]
  gRead := by rw [gRead]

theorem idle_effect {calls : List Call} {returned : List Result} {t' : Thread} {s s' : Store}
    (steps : next ⟨calls, .idle, returned⟩ s = some (t', s')) : Effect ⟨calls, .idle, returned⟩ t' s s' := by
  cases calls with
  | nil => simp [next] at steps
  | cons c calls =>
    cases c with
    | read_conf key =>
      simp only [next, Option.some.injEq, Prod.mk.injEq] at steps
      obtain ⟨rfl, rfl⟩ := steps
      exact effect_of_same (.inr ⟨rfl, rfl⟩) (.inr ⟨rfl, rfl⟩) rfl rfl rfl
    | write_conf key value =>
      simp only [next, Option.some.injEq, Prod.mk.injEq] at steps
      obtain ⟨rfl, rfl⟩ := steps
      exact effect_of_same (.inr ⟨rfl, rfl⟩) (.inr ⟨rfl, rfl⟩) rfl rfl rfl

theorem read_effect {calls : List Call} {returned : List Result} {key : String} {line : Reading} {t' : Thread}
    {s s' : Store} (steps : next ⟨calls, .reading key line, returned⟩ s = some (t', s'))
    (owns : Owns ⟨calls, .reading key line, returned⟩ s) : Effect ⟨calls, .reading key line, returned⟩ t' s s' := by
  obtain ⟨readers_gWrite, -, -, gRead, gMutex3⟩ := owns
  simp only [next] at steps
  cases line with
  | first =>
    simp [read_step] at steps
    obtain ⟨rfl, rfl⟩ := steps
    by_cases one : s.numreaders = 1
    · simp only [if_pos one]
      exact effect_of_same (.inl (by simp [reader_phase, reader_switch, Lightswitch.next, one])) (.inr ⟨rfl, rfl⟩)
        rfl rfl rfl
    · simp only [if_neg one]
      exact effect_of_same (.inl (by simp [reader_phase, reader_switch, Lightswitch.next, one])) (.inr ⟨rfl, rfl⟩)
        rfl rfl rfl
  | walk n =>
    simp [read_step] at steps
    obtain ⟨rfl, rfl⟩ := steps
    rcases read_round_cases key n s with ⟨found, round⟩ | round
    · rw [round]
      exact effect_of_same (.inr ⟨rfl, rfl⟩) (.inr ⟨rfl, rfl⟩) rfl rfl rfl
    · rw [round]
      exact effect_of_same (.inr ⟨rfl, rfl⟩) (.inr ⟨rfl, rfl⟩) rfl rfl rfl
  | last found =>
    simp [read_step] at steps
    obtain ⟨rfl, rfl⟩ := steps
    by_cases zero : s.numreaders = 0
    · simp only [if_pos zero]
      exact effect_of_same (.inl (by simp [reader_phase, reader_switch, Lightswitch.next, zero])) (.inr ⟨rfl, rfl⟩)
        rfl rfl rfl
    · simp only [if_neg zero]
      exact effect_of_same (.inl (by simp [reader_phase, reader_switch, Lightswitch.next, zero])) (.inr ⟨rfl, rfl⟩)
        rfl rfl rfl
  -- a mutex is locked or unlocked, or the counter changed
  | _ =>
    simp [read_step, lock_eq_some] at steps
    first | obtain ⟨rfl, rfl⟩ := steps | obtain ⟨free, rfl, rfl⟩ := steps
    constructor <;>
      simp_all [Moves, Lightswitch.next, reader_phase, writer_phase, reader_switch, writer_switch, in_gMutex3,
        changing, entering] <;> rfl

theorem write_effect {calls : List Call} {returned : List Result} {key : String} {value : Option String}
    {line : Writing} {t' : Thread} {s s' : Store}
    (steps : next ⟨calls, .writing key value line, returned⟩ s = some (t', s'))
    (owns : Owns ⟨calls, .writing key value line, returned⟩ s) :
    Effect ⟨calls, .writing key value line, returned⟩ t' s s' := by
  obtain ⟨-, writers_gRead, gWrite, -, -⟩ := owns
  simp only [next] at steps
  cases line with
  | first =>
    simp [write_step] at steps
    obtain ⟨rfl, rfl⟩ := steps
    by_cases one : s.numwriters = 1
    · simp only [if_pos one]
      exact effect_of_same (.inr ⟨rfl, rfl⟩) (.inl (by simp [writer_phase, writer_switch, Lightswitch.next, one]))
        rfl rfl rfl
    · simp only [if_neg one]
      exact effect_of_same (.inr ⟨rfl, rfl⟩) (.inl (by simp [writer_phase, writer_switch, Lightswitch.next, one]))
        rfl rfl rfl
  | walk n =>
    simp [write_step] at steps
    obtain ⟨rfl, rfl⟩ := steps
    obtain ⟨lines, entries, changed⟩ := write_round_cases key value n s
    rw [changed]
    rcases lines with ⟨found, round⟩ | round
    · rw [round]
      exact ⟨.inr ⟨rfl, rfl⟩, .inr ⟨rfl, rfl⟩, rfl, rfl, rfl⟩
    · rw [round]
      exact ⟨.inr ⟨rfl, rfl⟩, .inr ⟨rfl, rfl⟩, rfl, rfl, rfl⟩
  | last found =>
    simp [write_step] at steps
    obtain ⟨rfl, rfl⟩ := steps
    by_cases zero : s.numwriters = 0
    · simp only [if_pos zero]
      exact effect_of_same (.inr ⟨rfl, rfl⟩) (.inl (by simp [writer_phase, writer_switch, Lightswitch.next, zero]))
        rfl rfl rfl
    · simp only [if_neg zero]
      exact effect_of_same (.inr ⟨rfl, rfl⟩) (.inl (by simp [writer_phase, writer_switch, Lightswitch.next, zero]))
        rfl rfl rfl
  | _ =>
    simp [write_step, lock_eq_some] at steps
    first | obtain ⟨rfl, rfl⟩ := steps | obtain ⟨free, rfl, rfl⟩ := steps
    constructor <;>
      simp_all [Moves, Lightswitch.next, reader_phase, writer_phase, reader_switch, writer_switch, in_gMutex3,
        changing, entering] <;> rfl

/-! ### What every run keeps -/

theorem step_of_moves {f : Thread → Phase} {before after : List Thread} {t t' : Thread} {s s' : Switch}
    (inv : Lightswitch.Inv ⟨(before ++ t :: after).map f, s⟩) (moves : Moves (f t) (f t') s s') :
    Lightswitch.Inv ⟨(before ++ t' :: after).map f, s'⟩ := by
  rw [List.map_append, List.map_cons] at inv ⊢
  rcases moves with steps | ⟨phase, rfl⟩
  · exact Lightswitch.inv_step inv (.of steps)
  · rwa [phase]

theorem owns_of_inv {s : State Thread Store} (inv : Inv s) {t : Thread} (present : t ∈ s.threads) :
    Owns t s.shared where
  readers_gWrite := by
    intro unlocks
    have agrees := inv.readers.agrees (reader_phase t) (List.mem_map_of_mem present)
    rw [unlocks] at agrees
    exact eq_of_beq agrees.1
  writers_gRead := by
    intro unlocks
    have agrees := inv.writers.agrees (writer_phase t) (List.mem_map_of_mem present)
    rw [unlocks] at agrees
    exact eq_of_beq agrees.1
  gWrite := by
    intro here
    exact eq_of_beq ((held_iff inv.gWrite).mpr ⟨t, present, here⟩)
  gRead := by
    intro here
    exact eq_of_beq ((held_iff inv.gRead).mpr ⟨t, present, here⟩)
  gMutex3 := by
    intro here
    exact (held_iff inv.gMutex3).mpr ⟨t, present, here⟩

theorem effect {t t' : Thread} {s s' : Store} (steps : next t s = some (t', s')) (owns : Owns t s) :
    Effect t t' s s' := by
  obtain ⟨calls, point, returned⟩ := t
  cases point with
  | idle => exact idle_effect steps
  | reading key line => exact read_effect steps owns
  | writing key value line => exact write_effect steps owns

theorem inv_step {s s' : State Thread Store} (inv : Inv s) (step : Step next s s') : Inv s' := by
  obtain @⟨before, after, t, t', s, s', steps⟩ := step
  obtain ⟨readers, writers, gMutex3, gWrite, gRead⟩ := effect steps (owns_of_inv inv (by simp))
  have old_gMutex3 := inv.gMutex3
  have old_gWrite := inv.gWrite
  have old_gRead := inv.gRead
  simp only [tally_around] at old_gMutex3 old_gWrite old_gRead
  refine ⟨step_of_moves inv.readers readers, step_of_moves inv.writers writers, ?_, ?_, ?_⟩
  · show (s'.gMutex3.isSome.toNat : Int) = tally in_gMutex3 (before ++ t' :: after)
    rw [tally_around]
    omega
  · show ((s'.gWrite == some .write_conf).toNat : Int) = tally changing (before ++ t' :: after)
    rw [tally_around]
    omega
  · show ((s'.gRead == some .read_conf).toNat : Int) = tally entering (before ++ t' :: after)
    rw [tally_around]
    omega

theorem inv_start (calls : List (List Call)) (entries : List (String × String)) (fresh : String)
    (system_file : Option String) (writable : Bool) : Inv (start calls entries fresh system_file writable) := by
  have idle : ∀ t ∈ (start calls entries fresh system_file writable).threads, t.point = .idle := by
    intro t present
    obtain ⟨_, _, rfl⟩ := List.mem_map.mp present
    rfl
  refine ⟨Lightswitch.inv_start ?_, Lightswitch.inv_start ?_, ?_, ?_, ?_⟩
  · intro phase present
    obtain ⟨t, among, rfl⟩ := List.mem_map.mp present
    simp [reader_phase, idle t among]
  · intro phase present
    obtain ⟨t, among, rfl⟩ := List.mem_map.mp present
    simp [writer_phase, idle t among]
  · exact (tally_zero_iff.mpr fun t present => by simp [in_gMutex3, idle t present]).symm
  · exact (tally_zero_iff.mpr fun t present => by simp [changing, idle t present]).symm
  · exact (tally_zero_iff.mpr fun t present => by simp [entering, idle t present]).symm

theorem inv_reachable {calls : List (List Call)} {entries : List (String × String)} {fresh : String}
    {system_file : Option String} {writable : Bool} {s : State Thread Store}
    (reached : Reachable next (start calls entries fresh system_file writable) s) : Inv s :=
  reachable_keeps (fun _ _ => inv_step) (inv_start ..) reached

/-! ### Exclusion -/

/-- A reader that walks the list holds `gWrite` off the writers, whoever locked it for the
    readers. -/
theorem gWrite_of_walking {s : State Thread Store} (inv : Inv s) {t : Thread} (present : t ∈ s.threads)
    (walks : walking t) : s.shared.gWrite = some .read_conf := by
  have inside : reader_phase t = .inside := by
    unfold walking at walks
    split at walks
    · next here => simp [reader_phase, here]
    · exact absurd walks (by decide)
  have held := inv.readers.outer_held (inside ▸ List.mem_map_of_mem present)
  exact eq_of_beq held

theorem exclusion {s : State Thread Store} (inv : Inv s) {i j : Nat} {t u : Thread} (apart : i ≠ j)
    (at_i : s.threads[i]? = some t) (at_j : s.threads[j]? = some u) (changes : changing t) :
    ¬ (changing u ∨ walking u) := by
  have owned := (owns_of_inv inv (List.mem_of_getElem? at_i)).gWrite changes
  rintro (too | walks)
  · have two := tally_two apart at_i at_j changes too
    rw [← inv.gWrite, owned] at two
    exact absurd two (by decide)
  · rw [gWrite_of_walking inv (List.mem_of_getElem? at_j) walks] at owned
    exact absurd owned (by decide)

theorem gWrite_of_readers {s : State Thread Store} (inv : Inv s) (outside : ∀ t ∈ s.threads, ¬ in_gMutex1 t) :
    s.shared.gWrite = some .read_conf ↔ 0 < s.shared.numreaders := by
  have unlocked : (readers s).shared.inner = false := by
    refine inv.readers.unlocked_iff.mpr fun phase present => ?_
    obtain ⟨t, among, rfl⟩ := List.mem_map.mp present
    exact outside t among
  rw [← beq_iff_eq]
  exact inv.readers.free unlocked

/-! ### No deadlock -/

/-- The mutex that the next line locks, or a free one where it locks none. -/
def waits_for (t : Thread) (s : Store) : Mutex :=
  match t.point with
  | .idle => none
  | .reading _ line =>
    match line with
    | .lock_gMutex3 => s.gMutex3
    | .lock_gRead => s.gRead
    | .lock_gMutex1 | .relock_gMutex1 _ => s.gMutex1
    | .lock_gWrite => s.gWrite
    | _ => none
  | .writing _ _ line =>
    match line with
    | .lock_gMutex2 | .relock_gMutex2 _ => s.gMutex2
    | .lock_gRead => s.gRead
    | .lock_gWrite => s.gWrite
    | _ => none

/-- An unfinished thread is blocked by a mutex only. -/
theorem ready_of_free {t : Thread} {s : Store} (unfinished : ¬ finished t) (free : waits_for t s = none) :
    (next t s).isSome := by
  obtain ⟨calls, point, returned⟩ := t
  cases point with
  | idle =>
    cases calls with
    | nil => exact absurd rfl unfinished
    | cons c calls => cases c <;> rfl
  | reading key line => cases line <;> simp_all [next, read_step, waits_for, lock]
  | writing key value line => cases line <;> simp_all [next, write_step, waits_for, lock]

/-- A thread that cannot go on, and what it waits for. -/
structure Stuck (t : Thread) (s : Store) : Prop where
  changing : ¬ changing t
  reader_section : in_gMutex1 t → reader_phase t = .lock ∧ s.gWrite ≠ none
  reader_inside : reader_phase t = .inside → s.gMutex1 ≠ none
  writer_section : in_section (writer_phase t) → writer_phase t = .lock ∧ s.gRead ≠ none
  writer_inside : writer_phase t = .inside → s.gWrite ≠ none ∨ s.gMutex2 ≠ none
  entering : entering t → s.gMutex1 ≠ none ∨ s.gWrite ≠ none
  in_gMutex3 : in_gMutex3 t → s.gRead ≠ none ∨ s.gMutex1 ≠ none ∨ s.gWrite ≠ none

theorem stuck_of_blocked {t : Thread} {s : Store} (blocked : ¬ finished t → waits_for t s ≠ none) : Stuck t s := by
  obtain ⟨calls, point, returned⟩ := t
  cases point with
  | idle => constructor <;> simp [changing, in_gMutex1, reader_phase, writer_phase, entering, in_gMutex3, in_section]
  | reading key line =>
    have waits := blocked Bool.false_ne_true
    -- only a line that locks a mutex waits
    cases line <;> first | exact absurd rfl waits | skip
    all_goals
      constructor <;>
        simp [changing, in_gMutex1, reader_phase, writer_phase, entering, in_gMutex3, in_section] <;> simp_all [waits_for]
  | writing key value line =>
    have waits := blocked Bool.false_ne_true
    cases line <;> first | exact absurd rfl waits | skip
    all_goals
      constructor <;>
        simp [changing, in_gMutex1, reader_phase, writer_phase, entering, in_gMutex3, in_section] <;> simp_all [waits_for]

section Blocked
variable {s : State Thread Store} (inv : Inv s) (stuck : ∀ t ∈ s.threads, Stuck t s.shared)
include inv stuck

/-- Whoever holds `gMutex1` is about to lock `gWrite`, which the readers do not hold yet. -/
theorem gMutex1_waits (locked : s.shared.gMutex1 ≠ none) :
    s.shared.gWrite ≠ none ∧ s.shared.gWrite ≠ some .read_conf := by
  obtain ⟨phase, there, inside⟩ := inv.readers.holder (Option.isSome_iff_ne_none.mpr locked)
  obtain ⟨t, present, rfl⟩ := List.mem_map.mp there
  obtain ⟨locking, waits⟩ := (stuck t present).reader_section inside
  have agrees := inv.readers.agrees _ there
  rw [locking] at agrees
  exact ⟨waits, beq_eq_false_iff_ne.mp agrees.1⟩

theorem gMutex2_waits (locked : s.shared.gMutex2 ≠ none) :
    s.shared.gRead ≠ none ∧ s.shared.gRead ≠ some .write_conf := by
  obtain ⟨phase, there, inside⟩ := inv.writers.holder (Option.isSome_iff_ne_none.mpr locked)
  obtain ⟨t, present, rfl⟩ := List.mem_map.mp there
  obtain ⟨locking, waits⟩ := (stuck t present).writer_section inside
  have agrees := inv.writers.agrees _ there
  rw [locking] at agrees
  exact ⟨waits, beq_eq_false_iff_ne.mp agrees.1⟩

/-- A writer that holds `gWrite` can go on, and where the readers hold it one of them is
    inside and can lock `gMutex1`. -/
theorem gWrite_free : s.shared.gWrite = none := by
  cases held : s.shared.gWrite with
  | none => rfl
  | some by_ =>
    cases by_ with
    | write_conf =>
      obtain ⟨t, present, here⟩ := (held_iff inv.gWrite).mp (by rw [held]; rfl)
      exact absurd here (stuck t present).changing
    | read_conf =>
      have unlocked : s.shared.gMutex1 = none := by
        by_contra locked
        exact (gMutex1_waits inv stuck locked).2 held
      have present := inv.readers.somebody_inside (by simp [readers, reader_switch, unlocked])
        (by simp [readers, reader_switch, held])
      obtain ⟨t, among, inside⟩ := List.mem_map.mp present
      exact absurd unlocked ((stuck t among).reader_inside inside)

theorem gMutex1_free : s.shared.gMutex1 = none := by
  by_contra locked
  exact (gMutex1_waits inv stuck locked).1 (gWrite_free inv stuck)

/-- A reader that holds `gRead` waits for `gMutex1` or `gWrite`, and where the writers hold
    it one of them is inside and can lock `gWrite` or `gMutex2`. -/
theorem gRead_free : s.shared.gRead = none := by
  cases held : s.shared.gRead with
  | none => rfl
  | some by_ =>
    cases by_ with
    | read_conf =>
      obtain ⟨t, present, here⟩ := (held_iff inv.gRead).mp (by rw [held]; rfl)
      rcases (stuck t present).entering here with waits | waits
      · exact absurd (gMutex1_free inv stuck) waits
      · exact absurd (gWrite_free inv stuck) waits
    | write_conf =>
      have unlocked : s.shared.gMutex2 = none := by
        by_contra locked
        exact (gMutex2_waits inv stuck locked).2 held
      have present := inv.writers.somebody_inside (by simp [writers, writer_switch, unlocked])
        (by simp [writers, writer_switch, held])
      obtain ⟨t, among, inside⟩ := List.mem_map.mp present
      rcases (stuck t among).writer_inside inside with waits | waits
      · exact absurd (gWrite_free inv stuck) waits
      · exact absurd unlocked waits

theorem gMutex2_free : s.shared.gMutex2 = none := by
  by_contra locked
  exact (gMutex2_waits inv stuck locked).1 (gRead_free inv stuck)

theorem gMutex3_free : s.shared.gMutex3 = none := by
  by_contra locked
  obtain ⟨t, present, here⟩ := (held_iff inv.gMutex3).mp (Option.isSome_iff_ne_none.mpr locked)
  rcases (stuck t present).in_gMutex3 here with waits | waits | waits
  · exact waits (gRead_free inv stuck)
  · exact waits (gMutex1_free inv stuck)
  · exact waits (gWrite_free inv stuck)

end Blocked

/-- In a state where nobody could go on all mutexes would be free, and then every
    unfinished thread can. -/
theorem progress {s : State Thread Store} (inv : Inv s) (unfinished : ∃ t ∈ s.threads, ¬ finished t) :
    ∃ s', Step next s s' := by
  by_contra none_steps
  have blocked : ∀ t ∈ s.threads, ¬ finished t → waits_for t s.shared ≠ none := by
    intro t present going free
    exact none_steps (step_of_mem present (ready_of_free going free))
  have stuck : ∀ t ∈ s.threads, Stuck t s.shared := fun t present => stuck_of_blocked (blocked t present)
  have gWrite := gWrite_free inv stuck
  have gMutex1 := gMutex1_free inv stuck
  have gRead := gRead_free inv stuck
  have gMutex2 := gMutex2_free inv stuck
  have gMutex3 := gMutex3_free inv stuck
  obtain ⟨t, present, going⟩ := unfinished
  refine blocked t present going ?_
  unfold waits_for
  split
  · rfl
  · split <;> first | rfl | assumption
  · split <;> first | rfl | assumption

/-- In every state that threads with any calls reach in any order: while one is in
    the section that changes the list, no other is in it or walks the list; outside
    the sections of `gMutex1` the readers hold `gWrite` exactly while `numreaders` is
    positive; and as long as one is unfinished, one can step. -/
theorem readers_writers_protocol (calls : List (List Call)) (entries : List (String × String)) (fresh : String)
    (system_file : Option String) (writable : Bool) (s : State Thread Store)
    (reached : Reachable next (start calls entries fresh system_file writable) s) :
    (∀ (i j : Nat) (t u : Thread), i ≠ j → s.threads[i]? = some t → s.threads[j]? = some u → changing t →
      ¬ (changing u ∨ walking u)) ∧
    ((∀ t ∈ s.threads, ¬ in_gMutex1 t) → (s.shared.gWrite = some .read_conf ↔ 0 < s.shared.numreaders)) ∧
    ((∃ t ∈ s.threads, ¬ finished t) → ∃ s', Step next s s') := by
  have inv := inv_reachable reached
  exact ⟨fun _ _ _ _ apart at_i at_j changes => exclusion inv apart at_i at_j changes, gWrite_of_readers inv,
    progress inv⟩

/-- A writer in its section, and a reader that waits for `gRead`: some thread can step. -/
theorem writer_goes_on : ∃ s : State Thread Store,
    run next (start [[.read_conf "a"], [.write_conf "a" (some "2")]] [("a", "1")] "" none true)
      [1, 1, 1, 1, 1, 1, 1, 0, 0] = some s ∧
    (∃ t ∈ s.threads, changing t) ∧ (∃ t ∈ s.threads, next t s.shared = none) ∧ ∃ s', Step next s s' := by
  refine ⟨_, rfl, ⟨_, List.mem_cons_of_mem _ List.mem_cons_self, rfl⟩, ⟨_, List.mem_cons_self, rfl⟩, ?_⟩
  exact (readers_writers_protocol [[.read_conf "a"], [.write_conf "a" (some "2")]] [("a", "1")] "" none true _
    (reachable_of_run [1, 1, 1, 1, 1, 1, 1, 0, 0] rfl)).2.2 ⟨_, List.mem_cons_self, Bool.false_ne_true⟩

end SteamRecovery.ConfigThreads
