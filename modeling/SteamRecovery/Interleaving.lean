import Mathlib.Data.List.Basic
import Mathlib.Logic.Relation

/-!
Threads that take their steps in any order over a state that they share. What every
step preserves holds in every state that is reached (`reachable_keeps`); how many
threads stand at some point changes only with the thread that steps (`tally_around`).
-/
namespace SteamRecovery.Interleaving
variable {Thread Shared : Type}

structure State (Thread Shared : Type) where
  threads : List Thread
  shared : Shared

/-- One of the threads steps. A thread that cannot step is blocked, or at its end. -/
inductive Step (next : Thread → Shared → Option (Thread × Shared)) : State Thread Shared → State Thread Shared → Prop
  | of {before after : List Thread} {thread thread' : Thread} {shared shared' : Shared}
      (steps : next thread shared = some (thread', shared')) :
      Step next ⟨before ++ thread :: after, shared⟩ ⟨before ++ thread' :: after, shared'⟩

def Reachable (next : Thread → Shared → Option (Thread × Shared)) (start : State Thread Shared) :
    State Thread Shared → Prop :=
  Relation.ReflTransGen (Step next) start

/-- How many of the threads are at the point `p`. -/
def tally (p : Thread → Bool) (threads : List Thread) : Int := threads.countP p

/-- The state behind the steps of the threads with the given numbers, one after the other. -/
def run (next : Thread → Shared → Option (Thread × Shared)) (s : State Thread Shared) :
    List Nat → Option (State Thread Shared)
  | [] => some s
  | i :: order =>
    match s.threads[i]? with
    | none => none
    | some thread =>
      match next thread s.shared with
      | none => none
      | some (thread', shared') => run next ⟨s.threads.set i thread', shared'⟩ order

section Runs
variable {next : Thread → Shared → Option (Thread × Shared)}

theorem reachable_keeps {I : State Thread Shared → Prop} (keeps : ∀ s s', I s → Step next s s' → I s')
    {start s : State Thread Shared} (holds : I start) (reached : Reachable next start s) : I s := by
  induction reached with
  | refl => exact holds
  | tail _ step ih => exact keeps _ _ ih step

theorem reachable_of_run {s last : State Thread Shared} (order : List Nat) (ran : run next s order = some last) :
    Reachable next s last := by
  induction order generalizing s with
  | nil =>
    cases ran
    exact .refl
  | cons i order ih =>
    rw [run] at ran
    cases at_i : s.threads[i]? with
    | none => simp [at_i] at ran
    | some thread =>
      cases steps : next thread s.shared with
      | none => simp [at_i, steps] at ran
      | some after =>
        obtain ⟨thread', shared'⟩ := after
        simp only [at_i, steps] at ran
        refine .head ?_ (ih ran)
        obtain ⟨inside, rfl⟩ := List.getElem?_eq_some_iff.mp at_i
        obtain ⟨threads, shared⟩ := s
        have step : Step next ⟨threads.take i ++ threads[i] :: threads.drop (i + 1), shared⟩
            ⟨threads.take i ++ thread' :: threads.drop (i + 1), shared'⟩ := .of steps
        rw [List.getElem_cons_drop, List.take_append_drop] at step
        rwa [List.set_eq_take_append_cons_drop, if_pos inside]

/-- There is a step as soon as one thread can step. -/
theorem step_of_mem {s : State Thread Shared} {thread : Thread} (present : thread ∈ s.threads)
    (ready : (next thread s.shared).isSome) : ∃ s', Step next s s' := by
  obtain ⟨threads, shared⟩ := s
  obtain ⟨before, after, rfl⟩ := List.append_of_mem present
  obtain ⟨⟨thread', shared'⟩, steps⟩ := Option.isSome_iff_exists.mp ready
  exact ⟨_, .of steps⟩

end Runs

/-! ### Counting threads -/

section Counting
variable {p : Thread → Bool} {threads before after : List Thread}

theorem tally_nonneg (p : Thread → Bool) (threads : List Thread) : 0 ≤ tally p threads := Int.natCast_nonneg _

theorem tally_around (p : Thread → Bool) (before after : List Thread) (thread : Thread) :
    tally p (before ++ thread :: after) = tally p (before ++ after) + (p thread).toNat := by
  simp only [tally, List.countP_append, List.countP_cons]
  cases p thread <;> grind

theorem tally_pos_iff : 0 < tally p threads ↔ ∃ thread ∈ threads, p thread := by
  rw [tally, Int.natCast_pos, List.countP_pos_iff]

theorem tally_zero_iff : tally p threads = 0 ↔ ∀ thread ∈ threads, ¬ p thread := by
  rw [tally, Int.natCast_eq_zero, List.countP_eq_zero]

/-- A lock that counts the threads at the point is held while one is there. -/
theorem held_iff {b : Bool} (level : (b.toNat : Int) = tally p threads) : b = true ↔ ∃ thread ∈ threads, p thread := by
  rw [← tally_pos_iff, ← level]
  cases b <;> decide

theorem tally_add_le {p q r : Thread → Bool} (split : ∀ thread, (p thread).toNat + (q thread).toNat ≤ (r thread).toNat)
    (threads : List Thread) : tally p threads + tally q threads ≤ tally r threads := by
  induction threads with
  | nil => simp [tally]
  | cons thread rest ih =>
    have around := fun p => tally_around p [] rest thread
    simp only [List.nil_append] at around
    rw [around, around, around]
    have := split thread
    omega

/-- Where at most one thread is at the point, it is there alone. -/
theorem alone {thread : Thread} (single : tally p (before ++ thread :: after) ≤ 1) (here : p thread) :
    ∀ other ∈ before ++ after, ¬ p other := by
  rw [tally_around, here] at single
  have rest_nonneg := tally_nonneg p (before ++ after)
  exact tally_zero_iff.mp (by simp only [Bool.toNat_true] at single; omega)

theorem tally_two {i j : Nat} {first second : Thread} (apart : i ≠ j) (at_i : threads[i]? = some first)
    (at_j : threads[j]? = some second) (first_there : p first) (second_there : p second) : 2 ≤ tally p threads := by
  have some_there : ∀ (rest : List Thread) (k : Nat) (thread : Thread), rest[k]? = some thread → p thread →
      0 < tally p rest :=
    fun rest k thread at_k there => tally_pos_iff.mpr ⟨thread, List.mem_of_getElem? at_k, there⟩
  induction threads generalizing i j with
  | nil => simp at at_i
  | cons thread rest ih =>
    have split := tally_around p [] rest thread
    rw [List.nil_append, List.nil_append] at split
    have rest_nonneg := tally_nonneg p rest
    cases i with
    | zero =>
      cases j with
      | zero => exact absurd rfl apart
      | succ j =>
        obtain rfl : thread = first := by simpa using at_i
        have := some_there rest j second at_j second_there
        rw [split, first_there, Bool.toNat_true]
        omega
    | succ i =>
      cases j with
      | zero =>
        obtain rfl : thread = second := by simpa using at_j
        have := some_there rest i first at_i first_there
        rw [split, second_there, Bool.toNat_true]
        omega
      | succ j =>
        have := ih (fun same => apart (congrArg Nat.succ same)) at_i at_j
        rw [split]
        omega

end Counting

end SteamRecovery.Interleaving
