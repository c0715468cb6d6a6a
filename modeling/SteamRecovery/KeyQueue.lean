import Mathlib.Data.List.Basic
import Mathlib.Data.List.Chain
import SteamRecovery.Fifo

/-!
The key queue (`ui.c`). Every critical section under `key_queue_mutex` is one step:
the input thread queues a key, `ui_wait_key` takes the first one, and
`ui_clear_key_queue` drops them all. In any order of steps the array is a queue that
keeps what there was room for, save for repeated moves (`key_queue_fifo`).
-/
namespace SteamRecovery.KeyQueue
open SteamRecovery.Fifo

/-- The code of a fake key for a touch that moved. -/
def BTN_WHEEL : Nat := 0x150

def queue_max : Nat := 256

structure Queue where
  key_queue : List Nat
  key_queue_len : Nat
  deriving DecidableEq

def start : Queue := ⟨List.replicate queue_max 0, 0⟩

/-- The part of the input thread that queues an event with the given code and value. -/
def input_thread (q : Queue) (code : Nat) (value : Int) : Queue :=
  if value > 0 ∧ q.key_queue_len < queue_max then
    if code ≠ BTN_WHEEL ∨ q.key_queue_len = 0 ∨ q.key_queue.getD (q.key_queue_len - 1) 0 ≠ BTN_WHEEL then
      ⟨q.key_queue.set q.key_queue_len code, q.key_queue_len + 1⟩
    else q
  else q

/-- The key that is returned, unless the thread waits. The keys behind it are moved
    down by one. -/
def ui_wait_key (q : Queue) : Option (Nat × Queue) :=
  if q.key_queue_len = 0 then none
  else
    let key := q.key_queue.getD 0 0
    let key_queue_len := q.key_queue_len - 1
    some (key, ⟨(q.key_queue.drop 1).take key_queue_len ++ q.key_queue.drop key_queue_len, key_queue_len⟩)

def ui_clear_key_queue (q : Queue) : Queue := { q with key_queue_len := 0 }

/-- What a thread does: an event with its code and value arrives, or `ui_wait_key`
    returns a key, or the queue is cleared. -/
abbrev KeyEvent := Event (Nat × Int) Nat

def key_step (q : Queue) : KeyEvent → Option Queue
  | .put (code, value) => some (input_thread q code value)
  | .take key => (ui_wait_key q).bind fun (returned, next) => if key = returned then some next else none
  | .clear => some (ui_clear_key_queue q)

/-! ### The queue in the array -/

def keys (q : Queue) : List Nat := q.key_queue.take q.key_queue_len

/-- The array has its size, and the queue is inside it. -/
structure InArray (q : Queue) : Prop where
  size : q.key_queue.length = queue_max
  inside : q.key_queue_len ≤ queue_max

/-- The key is stored, unless it was not pressed, the queue is full, or it is a move
    behind another move. -/
def accept (queue : List Nat) (event : Nat × Int) : Option Nat :=
  if event.2 > 0 ∧ queue.length ≠ queue_max ∧ ¬ (event.1 = BTN_WHEEL ∧ queue.getLast? = some BTN_WHEEL) then
    some event.1
  else none

def stored (q : Queue) (event : Nat × Int) : Option Nat := accept (keys q) event

variable {q : Queue}

theorem keys_length (array : InArray q) : (keys q).length = q.key_queue_len :=
  List.length_take_of_le (by rw [array.size]; exact array.inside)

/-- The last queued key stands at the index in front of the length. -/
theorem keys_last (array : InArray q) (some_key : q.key_queue_len ≠ 0) :
    (keys q).getLast? = some (q.key_queue.getD (q.key_queue_len - 1) 0) := by
  have here : q.key_queue_len - 1 < q.key_queue.length := by
    have := array.inside
    rw [array.size]
    omega
  rw [List.getLast?_eq_getElem?, keys_length array, keys, List.getElem?_take_of_lt (by omega),
    List.getElem?_eq_getElem here, List.getD_eq_getElem?_getD, List.getElem?_eq_getElem here, Option.getD_some]

theorem not_repeated_iff (array : InArray q) (code : Nat) :
    (code ≠ BTN_WHEEL ∨ q.key_queue_len = 0 ∨ q.key_queue.getD (q.key_queue_len - 1) 0 ≠ BTN_WHEEL) ↔
      ¬ (code = BTN_WHEEL ∧ (keys q).getLast? = some BTN_WHEEL) := by
  by_cases empty : q.key_queue_len = 0
  · have no_key : keys q = [] := by
      rw [keys, empty, List.take_zero]
    simp [empty, no_key]
  · rw [keys_last array empty, Option.some.injEq, not_and_or]
    simp only [empty, false_or, ne_eq]

theorem input_thread_keys (array : InArray q) (code : Nat) (value : Int) :
    keys (input_thread q code value) = keys q ++ (accept (keys q) (code, value)).toList := by
  have inside := array.inside
  unfold input_thread accept
  simp only [not_repeated_iff array, keys_length array]
  by_cases room : value > 0 ∧ q.key_queue_len < queue_max
  · obtain ⟨pressed, free⟩ := room
    have unlike : q.key_queue_len ≠ queue_max := Nat.ne_of_lt free
    simp only [pressed, free, unlike, true_and, and_self, ↓reduceIte, ne_eq, not_false_eq_true]
    by_cases repeated : code = BTN_WHEEL ∧ (keys q).getLast? = some BTN_WHEEL
    · simp only [repeated, and_self, not_true_eq_false, ↓reduceIte, Option.toList_none, List.append_nil]
    · have here : q.key_queue_len < q.key_queue.length := by rw [array.size]; exact free
      rw [if_pos repeated, if_pos repeated, keys, List.take_add_one, List.getElem?_set_self here,
        List.take_set_of_le (Nat.le_refl _), keys, Option.toList_some]
  · rw [if_neg room, if_neg, Option.toList_none, List.append_nil]
    rintro ⟨pressed, unlike, _⟩
    exact room ⟨pressed, by omega⟩

theorem input_thread_array (array : InArray q) (code : Nat) (value : Int) : InArray (input_thread q code value) := by
  unfold input_thread
  split
  · rename_i room
    split
    · exact ⟨by rw [List.length_set]; exact array.size, room.2⟩
    · exact array
  · exact array

theorem wait_key_keys (array : InArray q) {key : Nat} {next : Queue} (returned : ui_wait_key q = some (key, next)) :
    keys q = key :: keys next ∧ InArray next := by
  have inside := array.inside
  have size := array.size
  unfold ui_wait_key at returned
  split at returned
  · cases returned
  · rename_i some_key
    cases returned
    obtain ⟨first, rest, whole⟩ := List.exists_cons_of_ne_nil (l := q.key_queue) (List.ne_nil_of_length_pos (by omega))
    obtain ⟨n, length⟩ := Nat.exists_eq_succ_of_ne_zero some_key
    rw [whole, List.length_cons] at size
    constructor
    · have long : n ≤ rest.length := by omega
      simp [keys, whole, length, long]
    · refine ⟨?_, by simp only [length]; omega⟩
      simp only [whole, length, List.length_append, List.length_take, List.length_drop, List.length_cons]
      omega

theorem take_step {key : Nat} {next : Queue} (stepped : key_step q (.take key) = some next) :
    ui_wait_key q = some (key, next) := by
  cases waited : ui_wait_key q with
  | none => simp [key_step, waited] at stepped
  | some returned =>
    simp only [key_step, waited, Option.bind_some] at stepped
    by_cases same : key = returned.1
    · rw [if_pos same] at stepped
      cases stepped
      rw [same]
    · rw [if_neg same] at stepped
      cases stepped

/-- The array is the queue, with the keys in it that are kept. -/
theorem array_refines : Refines key_step stored InArray keys accept where
  keeps := by
    intro q e next array stepped
    cases e with
    | put event =>
      cases stepped
      exact input_thread_array array event.1 event.2
    | take key => exact (wait_key_keys array (take_step stepped)).2
    | clear =>
      cases stepped
      exact ⟨array.size, Nat.zero_le _⟩
  steps := by
    intro q e next array stepped
    cases e with
    | put event =>
      cases stepped
      rw [input_thread_keys array]
      rfl
    | take key =>
      rw [(wait_key_keys array (take_step stepped)).1]
      exact if_pos rfl
    | clear =>
      cases stepped
      simp only [step, ui_clear_key_queue, keys, List.take_zero]
  stores := fun _ _ _ => rfl

theorem start_array : InArray start := ⟨List.length_replicate, Nat.zero_le _⟩

/-! ### Repeated moves -/

def NoRepeatedMoves (queue : List Nat) : Prop :=
  queue.IsChain fun key next => ¬ (key = BTN_WHEEL ∧ next = BTN_WHEEL)

theorem no_repeated_step {queue next : List Nat} {e : KeyEvent} (apart : NoRepeatedMoves queue)
    (stepped : step accept queue e = some next) : NoRepeatedMoves next := by
  cases e with
  | put event =>
    cases stepped
    unfold accept
    split
    · rename_i kept
      refine List.isChain_append.mpr ⟨apart, List.isChain_singleton _, ?_⟩
      intro last is_last first is_first
      cases is_first
      rintro ⟨rfl, same⟩
      exact kept.2.2 ⟨same, is_last⟩
    · rwa [Option.toList_none, List.append_nil]
  | take key =>
    cases queue with
    | nil => cases stepped
    | cons first rest =>
      rw [step] at stepped
      split at stepped
      · cases stepped
        exact List.IsChain.tail apart
      · cases stepped
  | clear =>
    cases stepped
    exact List.isChain_nil

/-! ### Runs -/

/-- The steps in front are none, or end with the queue being cleared. -/
def Cleared (before : List KeyEvent) : Prop := before = [] ∨ ∃ earlier, before = earlier ++ [.clear]

theorem cleared_empty {before : List KeyEvent} {q : Queue} (cleared : Cleared before)
    (ran : run key_step start before = some q) : keys q = [] := by
  rcases cleared with rfl | ⟨earlier, rfl⟩
  · cases ran
    rfl
  · obtain ⟨middle, _, last⟩ := run_append.mp ran
    obtain ⟨next, stepped, done⟩ := run_cons.mp last
    cases stepped
    cases done
    rfl

/-- In any order of steps the queue has room in its array and holds no repeated move,
    and between two clears the keys that are returned are the first of those that
    were kept when they were pressed. -/
theorem key_queue_fifo {events : List KeyEvent} {q : Queue} (ran : run key_step start events = some q) :
    q.key_queue_len ≤ queue_max ∧ NoRepeatedMoves (keys q) ∧
      ∀ before period, events = before ++ period → Cleared before → .clear ∉ period →
        ∃ q₀, run key_step start before = some q₀ ∧ taken period <+: admitted key_step stored q₀ period := by
  have array : InArray q := run_keeps array_refines.keeps start_array ran
  have as_queue := (refines_run array_refines start_array ran).1
  have apart : NoRepeatedMoves (keys q) :=
    run_keeps (fun _ _ _ holds stepped => no_repeated_step holds stepped) List.isChain_nil as_queue
  refine ⟨array.inside, apart, ?_⟩
  rintro before period rfl cleared uncleared
  obtain ⟨q₀, ran_before, ran_period⟩ := run_append.mp ran
  refine ⟨q₀, ran_before, ?_⟩
  have array₀ : InArray q₀ := run_keeps array_refines.keeps start_array ran_before
  obtain ⟨period_queue, same⟩ := refines_run array_refines array₀ ran_period
  have kept := taken_admitted period_queue uncleared
  rw [same]
  rw [cleared_empty cleared ran_before, List.nil_append] at kept
  rw [cleared_empty cleared ran_before, kept]
  exact List.prefix_append _ _

/-- A touch that moved, which is dropped. -/
def dropped : List KeyEvent := [.put (BTN_WHEEL, 1), .clear]

/-- A key, a touch that moves twice, a key that is let go and another key, of which the first
    two are taken. -/
def pressed : List KeyEvent :=
  [.put (30, 1), .put (BTN_WHEEL, 1), .put (BTN_WHEEL, 1), .put (30, 0), .take 30, .put (46, 1), .take BTN_WHEEL]

theorem moved_fifo : ∃ q, run key_step start (dropped ++ pressed) = some q ∧ q.key_queue_len ≤ queue_max ∧
    NoRepeatedMoves (keys q) ∧
      ∃ q₀, run key_step start dropped = some q₀ ∧ taken pressed <+: admitted key_step stored q₀ pressed := by
  have ran : run key_step start (dropped ++ pressed) = some _ := rfl
  obtain ⟨inside, apart, fifo⟩ := key_queue_fifo ran
  exact ⟨_, ran, inside, apart, fifo dropped pressed rfl (.inr ⟨[.put (BTN_WHEEL, 1)], rfl⟩) (by simp [pressed])⟩

end SteamRecovery.KeyQueue
