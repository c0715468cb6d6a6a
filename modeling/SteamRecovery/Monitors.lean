import Mathlib.Logic.Function.Basic
import SteamRecovery.Interleaving

/-!
Threads that lock mutexes and wait on a condition, as in POSIX: a mutex is not locked
twice, also not by the thread that holds it, and a signal wakes one of the threads that
sleep. Where each thread holds one mutex at a time (`Disciplined`), every step keeps the
mutexes exclusive and loses no signal (`inv_step`). A thread that cannot go on waits for a
mutex whose holder goes on, or has locked itself out, or it sleeps while nothing is left to
be taken (`stands`).
-/
namespace SteamRecovery.Monitors
open SteamRecovery.Interleaving
variable {M D : Type}

/-- What a thread does next. `await` is `while (!ready) pthread_cond_wait(&cond, &m);` with
    what is taken behind it, and `tell` a change with a signal where it says so. -/
inductive Op (M D : Type) where
  | lock (m : M)
  | unlock (m : M)
  | branch (f : D → List (Op M D))
  | change (f : D → D)
  | tell (f : D → D × Bool)
  | await (m : M) (take : D → Option D)

structure Thread (M D : Type) where
  code : List (Op M D)
  holds : List M
  asleep : Bool

/-- `woken` of the threads that slept have been signalled, and still wait for the mutex. -/
structure Shared (M D : Type) where
  locked : M → Bool
  sleeping : Nat
  woken : Nat
  data : D

variable [DecidableEq M]

def Shared.lock (s : Shared M D) (m : M) : Shared M D := { s with locked := Function.update s.locked m true }

def Shared.unlock (s : Shared M D) (m : M) : Shared M D := { s with locked := Function.update s.locked m false }

def Shared.signal (s : Shared M D) : Shared M D :=
  if s.sleeping = 0 then s else { s with sleeping := s.sleeping - 1, woken := s.woken + 1 }

def next (t : Thread M D) (s : Shared M D) : Option (Thread M D × Shared M D) :=
  match t.code with
  | [] => none
  | .lock m :: rest => if s.locked m then none else some (⟨rest, m :: t.holds, false⟩, s.lock m)
  | .unlock m :: rest => some (⟨rest, t.holds.erase m, false⟩, s.unlock m)
  | .branch f :: rest => some (⟨f s.data ++ rest, t.holds, false⟩, s)
  | .change f :: rest => some (⟨rest, t.holds, false⟩, { s with data := f s.data })
  | .tell f :: rest =>
    let s' := { s with data := (f s.data).1 }
    some (⟨rest, t.holds, false⟩, if (f s.data).2 then s'.signal else s')
  | .await m take :: rest =>
    if t.asleep then
      if s.woken = 0 ∨ s.locked m then none
      else some (⟨t.code, m :: t.holds, false⟩, { s with woken := s.woken - 1 }.lock m)
    else
      match take s.data with
      | some data => some (⟨rest, t.holds, false⟩, { s with data })
      | none => some (⟨t.code, t.holds.erase m, true⟩, { s with sleeping := s.sleeping + 1 }.unlock m)

def start (codes : List (List (Op M D))) (data : D) : State (Thread M D) (Shared M D) where
  threads := codes.map fun code => ⟨code, [], false⟩
  shared := ⟨fun _ => false, 0, 0, data⟩

/-! ### The discipline -/

/-- The code behind the lock that is held. `count` says how much there is to be taken: no
    more comes without a signal. The mutexes in `twice` may be locked by the thread that
    holds them. -/
inductive Disciplined (twice : M → Prop) (count : D → Nat) : Option M → List (Op M D) → Prop where
  | done : Disciplined twice count none []
  | lock {m : M} {rest : List (Op M D)} : Disciplined twice count (some m) rest →
      Disciplined twice count none (.lock m :: rest)
  | relock {m : M} {rest : List (Op M D)} : twice m → Disciplined twice count (some m) (.lock m :: rest)
  | unlock {m : M} {rest : List (Op M D)} : Disciplined twice count none rest →
      Disciplined twice count (some m) (.unlock m :: rest)
  | branch {held : Option M} {f : D → List (Op M D)} {rest : List (Op M D)} :
      (∀ data, Disciplined twice count held (f data ++ rest)) → Disciplined twice count held (.branch f :: rest)
  | change {held : Option M} {f : D → D} {rest : List (Op M D)} : (∀ data, count (f data) ≤ count data) →
      Disciplined twice count held rest → Disciplined twice count held (.change f :: rest)
  | tell {held : Option M} {f : D → D × Bool} {rest : List (Op M D)} :
      (∀ data, count (f data).1 ≤ count data + (f data).2.toNat) → Disciplined twice count held rest →
      Disciplined twice count held (.tell f :: rest)
  | await {m : M} {take : D → Option D} {rest : List (Op M D)} :
      (∀ data, take data = none → count data = 0) →
      (∀ data left, take data = some left → count left < count data) →
      Disciplined twice count (some m) rest → Disciplined twice count (some m) (.await m take :: rest)

variable {twice : M → Prop} {count : D → Nat} {held : Option M}

omit [DecidableEq M] in
theorem disciplined_append {first second : List (Op M D)} (one : Disciplined twice count held first)
    (two : Disciplined twice count none second) : Disciplined twice count held (first ++ second) := by
  induction one with
  | done => exact two
  | lock _ ih => exact .lock ih
  | relock allowed => exact .relock allowed
  | unlock _ ih => exact .unlock ih
  | branch _ ih =>
    apply Disciplined.branch
    intro data
    have := ih data
    rwa [List.append_assoc] at this
  | change fewer _ ih => exact .change fewer ih
  | tell told _ ih => exact .tell told ih
  | await empty taken _ ih => exact .await empty taken ih

omit [DecidableEq M] in
theorem disciplined_flatten {codes : List (List (Op M D))} (each : ∀ code ∈ codes, Disciplined twice count none code) :
    Disciplined twice count none codes.flatten := by
  induction codes with
  | nil => exact .done
  | cons code rest ih =>
    rw [List.forall_mem_cons] at each
    exact disciplined_append each.1 (ih each.2)

/-- A thread that sleeps has given its mutex back. -/
def Fine (twice : M → Prop) (count : D → Nat) (t : Thread M D) : Prop :=
  if t.asleep then
    t.holds = [] ∧ ∃ m take rest, t.code = .await m take :: rest ∧ Disciplined twice count (some m) t.code
  else ∃ held : Option M, t.holds = held.toList ∧ Disciplined twice count held t.code

/-- The thread is about to take something, or to fall asleep. -/
def collects (t : Thread M D) : Bool :=
  match t.code with
  | .await _ _ :: _ => !t.asleep
  | _ => false

def holding (m : M) (t : Thread M D) : Bool := t.holds.contains m

structure Inv (twice : M → Prop) (count : D → Nat) (s : State (Thread M D) (Shared M D)) : Prop where
  fine : ∀ t ∈ s.threads, Fine twice count t
  locked : ∀ m, ((s.shared.locked m).toNat : Int) = tally (holding m) s.threads
  asleep : (s.shared.sleeping + s.shared.woken : Int) = tally (·.asleep) s.threads
  told : s.shared.sleeping = 0 ∨ (count s.shared.data : Int) ≤ s.shared.woken + tally collects s.threads

/-! ### What one step does -/

/-- What a step makes of the thread and of what is shared. -/
structure Effect (twice : M → Prop) (count : D → Nat) (t t' : Thread M D) (s s' : Shared M D) : Prop where
  fine : Fine twice count t'
  locked : ∀ m, (s'.locked m).toNat + (holding m t).toNat = (s.locked m).toNat + (holding m t').toNat
  asleep : s'.sleeping + s'.woken + t.asleep.toNat = s.sleeping + s.woken + t'.asleep.toNat
  told : ∀ others : Int, 0 ≤ others →
    (s.sleeping = 0 ∨ (count s.data : Int) ≤ s.woken + (others + (collects t).toNat)) →
    (s'.sleeping = 0 ∨ (count s'.data : Int) ≤ s'.woken + (others + (collects t').toNat))

section
variable {m : M} {s : Shared M D}

theorem lock_locked (free : s.locked m = false) (other : M) :
    ((s.lock m).locked other).toNat + 0 = (s.locked other).toNat + ([m].contains other).toNat := by
  by_cases same : other = m
  · subst same
    simp [Shared.lock, free]
  · simp [Shared.lock, same]

theorem unlock_locked (taken : s.locked m = true) (other : M) :
    ((s.unlock m).locked other).toNat + ([m].contains other).toNat = (s.locked other).toNat + 0 := by
  by_cases same : other = m
  · subst same
    simp [Shared.unlock, taken]
  · simp [Shared.unlock, same]

omit [DecidableEq M] in
theorem signal_told (s : Shared M D) :
    s.signal.locked = s.locked ∧ s.signal.data = s.data ∧ s.signal.sleeping + s.signal.woken = s.sleeping + s.woken ∧
      (s.signal.sleeping = 0 ∨ s.signal.sleeping + 1 = s.sleeping ∧ s.signal.woken = s.woken + 1) := by
  unfold Shared.signal
  split
  · next none => exact ⟨rfl, rfl, rfl, .inl none⟩
  · next some =>
    refine ⟨rfl, rfl, ?_, .inr ⟨?_, rfl⟩⟩
    · show s.sleeping - 1 + (s.woken + 1) = s.sleeping + s.woken
      omega
    · show s.sleeping - 1 + 1 = s.sleeping
      omega

end

omit [DecidableEq M] in
theorem told_of_fewer {t t' : Thread M D} {s s' : Shared M D} (sleeping : s'.sleeping = s.sleeping)
    (woken : s'.woken = s.woken) (fewer : count s'.data + (collects t).toNat ≤ count s.data + (collects t').toNat)
    (others : Int) (_ : 0 ≤ others) (before : s.sleeping = 0 ∨ (count s.data : Int) ≤ s.woken + (others + (collects t).toNat)) :
    s'.sleeping = 0 ∨ (count s'.data : Int) ≤ s'.woken + (others + (collects t').toNat) := by
  rw [sleeping, woken]
  rcases before with nobody | enough
  · exact .inl nobody
  · right
    omega

/-- A step that leaves the mutexes and the condition alone. -/
theorem effect_of_data {t t' : Thread M D} {s : Shared M D} {data : D} (fine : Fine twice count t')
    (holds : t'.holds = t.holds) (awake : t.asleep = false) (awake' : t'.asleep = false)
    (fewer : count data + (collects t).toNat ≤ count s.data + (collects t').toNat) :
    Effect twice count t t' s { s with data } where
  fine := fine
  locked := by simp [holding, holds]
  asleep := by rw [awake, awake']
  told := told_of_fewer rfl rfl fewer

theorem wake_effect {code : List (Op M D)} {holds : List M} {t' : Thread M D} {s s' : Shared M D}
    (fine : Fine twice count ⟨code, holds, true⟩) (steps : next ⟨code, holds, true⟩ s = some (t', s')) :
    Effect twice count ⟨code, holds, true⟩ t' s s' := by
  obtain ⟨given_back, m, take, rest, starts, disciplined⟩ := fine
  obtain rfl : code = .await m take :: rest := starts
  obtain rfl : holds = [] := given_back
  simp only [next, ↓reduceIte, Option.ite_none_left_eq_some, not_or, Option.some.injEq, Prod.mk.injEq,
    Bool.not_eq_true] at steps
  obtain ⟨⟨signalled, free⟩, rfl, rfl⟩ := steps
  refine ⟨⟨some m, rfl, disciplined⟩, lock_locked (s := { s with woken := s.woken - 1 }) free, ?_, ?_⟩
  · show s.sleeping + (s.woken - 1) + 1 = s.sleeping + s.woken + 0
    omega
  · intro others nonneg before
    rcases before with nobody | enough
    · exact .inl nobody
    · right
      show (count s.data : Int) ≤ (s.woken - 1 : Nat) + (others + 1)
      have taken : (collects (⟨.await m take :: rest, [], true⟩ : Thread M D)).toNat = 0 := rfl
      rw [taken] at enough
      omega

theorem awake_effect {code : List (Op M D)} {held : Option M} {t' : Thread M D} {s s' : Shared M D}
    (disciplined : Disciplined twice count held code) (owns : ∀ m ∈ held, s.locked m = true)
    (steps : next ⟨code, held.toList, false⟩ s = some (t', s')) :
    Effect twice count ⟨code, held.toList, false⟩ t' s s' := by
  cases disciplined with
  | done => simp [next] at steps
  | @lock m rest inside =>
    simp only [next, Option.ite_none_left_eq_some, Option.some.injEq, Prod.mk.injEq, Bool.not_eq_true] at steps
    obtain ⟨free, rfl, rfl⟩ := steps
    exact ⟨⟨some m, rfl, inside⟩, lock_locked free, rfl, told_of_fewer rfl rfl (Nat.le_add_right _ _)⟩
  | @relock m rest allowed => simp [next, owns m rfl] at steps
  | @unlock m rest outside =>
    simp only [next, Option.some.injEq, Prod.mk.injEq] at steps
    obtain ⟨rfl, rfl⟩ := steps
    refine ⟨⟨none, by simp, outside⟩, ?_, rfl, told_of_fewer rfl rfl (Nat.le_add_right _ _)⟩
    simpa [holding] using unlock_locked (owns m rfl)
  | @branch _ f rest all =>
    simp only [next, Option.some.injEq, Prod.mk.injEq] at steps
    obtain ⟨rfl, rfl⟩ := steps
    exact effect_of_data ⟨held, rfl, all s.data⟩ rfl rfl rfl (Nat.le_add_right _ _)
  | @change _ f rest fewer after =>
    simp only [next, Option.some.injEq, Prod.mk.injEq] at steps
    obtain ⟨rfl, rfl⟩ := steps
    exact effect_of_data ⟨held, rfl, after⟩ rfl rfl rfl (Nat.le_add_right_of_le (fewer s.data))
  | @tell _ f rest told after =>
    simp only [next, Option.some.injEq, Prod.mk.injEq] at steps
    obtain ⟨rfl, rfl⟩ := steps
    have more := told s.data
    cases signals : (f s.data).2 with
    | false =>
      rw [signals] at more
      exact effect_of_data ⟨held, rfl, after⟩ rfl rfl rfl (Nat.le_add_right_of_le more)
    | true =>
      rw [signals] at more
      obtain ⟨locked, data, sum, woken⟩ := signal_told { s with data := (f s.data).1 }
      simp only [↓reduceIte]
      refine ⟨⟨held, rfl, after⟩, by simp [holding, locked], by simpa using sum, ?_⟩
      intro others nonneg before
      rcases woken with nobody | ⟨fewer, one_more⟩
      · exact .inl nobody
      · right
        rw [data, one_more]
        have none_yet : (collects (⟨.tell f :: rest, held.toList, false⟩ : Thread M D)).toNat = 0 := rfl
        rcases before with nobody | enough
        · have : s.sleeping ≠ 0 := by
            have : (Shared.signal { s with data := (f s.data).1 }).sleeping + 1 = s.sleeping := fewer
            omega
          exact absurd nobody this
        · rw [none_yet] at enough
          show ((count (f s.data).1 : Nat) : Int) ≤ (s.woken + 1 : Nat) + _
          simp only [Bool.toNat_true] at more
          omega
  | @await m take rest empty taken after =>
    simp only [next, Bool.false_eq_true, ↓reduceIte] at steps
    cases found : take s.data with
    | some data =>
      simp only [found, Option.some.injEq, Prod.mk.injEq] at steps
      obtain ⟨rfl, rfl⟩ := steps
      exact effect_of_data ⟨some m, rfl, after⟩ rfl rfl rfl (Nat.le_add_right_of_le (taken _ _ found))
    | none =>
      simp only [found, Option.some.injEq, Prod.mk.injEq] at steps
      obtain ⟨rfl, rfl⟩ := steps
      refine ⟨⟨by simp, m, take, rest, rfl, .await empty taken after⟩, ?_, ?_, ?_⟩
      · simpa [holding] using unlock_locked (s := { s with sleeping := s.sleeping + 1 }) (owns m rfl)
      · show s.sleeping + 1 + s.woken + 0 = s.sleeping + s.woken + 1
        omega
      · intro others nonneg before
        right
        have nothing : count s.data = 0 := empty _ found
        show (count s.data : Int) ≤ s.woken + (others + 0)
        omega

theorem effect {t t' : Thread M D} {s s' : Shared M D} (fine : Fine twice count t)
    (owns : ∀ m, holding m t → s.locked m = true) (steps : next t s = some (t', s')) : Effect twice count t t' s s' := by
  obtain ⟨code, holds, asleep⟩ := t
  cases asleep with
  | true => exact wake_effect fine steps
  | false =>
    obtain ⟨held, holds_held, disciplined⟩ := fine
    obtain rfl : holds = held.toList := holds_held
    exact awake_effect disciplined (fun m here => owns m (by simpa [holding] using here)) steps

/-! ### What every run keeps -/

theorem inv_step {s s' : State (Thread M D) (Shared M D)} (inv : Inv twice count s) (step : Step next s s') :
    Inv twice count s' := by
  obtain @⟨before, after, t, t', s, s', steps⟩ := step
  obtain ⟨fine, locked, asleep, told⟩ := inv
  have owns : ∀ m, holding m t → s.locked m = true := fun m here =>
    (held_iff (locked m)).mpr ⟨t, by simp, here⟩
  have changed := effect (fine t (by simp)) owns steps
  simp only [tally_around] at locked asleep told
  refine ⟨?_, ?_, ?_, ?_⟩
  · intro u present
    rcases List.mem_append.mp present with among | present
    · exact fine u (by simp [among])
    · rcases List.mem_cons.mp present with rfl | among
      · exact changed.fine
      · exact fine u (by simp [among])
  · intro m
    have := locked m
    have := changed.locked m
    show ((s'.locked m).toNat : Int) = tally (holding m) (before ++ t' :: after)
    rw [tally_around]
    omega
  · have := changed.asleep
    show (s'.sleeping + s'.woken : Int) = tally (·.asleep) (before ++ t' :: after)
    rw [tally_around]
    omega
  · have := changed.told _ (tally_nonneg collects (before ++ after)) told
    show s'.sleeping = 0 ∨ (count s'.data : Int) ≤ s'.woken + tally collects (before ++ t' :: after)
    rwa [tally_around]

theorem inv_start {codes : List (List (Op M D))} (each : ∀ code ∈ codes, Disciplined twice count none code) (data : D) :
    Inv twice count (start codes data) := by
  have begins : ∀ t ∈ (start codes data).threads, t.holds = [] ∧ t.asleep = false ∧ t.code ∈ codes := by
    intro t present
    obtain ⟨code, among, rfl⟩ := List.mem_map.mp present
    exact ⟨rfl, rfl, among⟩
  refine ⟨?_, ?_, ?_, .inl rfl⟩
  · intro t present
    obtain ⟨holds, awake, among⟩ := begins t present
    rw [Fine, awake]
    exact ⟨none, holds, each _ among⟩
  · intro m
    exact (tally_zero_iff.mpr fun t present => by simp [holding, begins t present]).symm
  · exact (tally_zero_iff.mpr fun t present => by simp [begins t present]).symm

theorem inv_reachable {codes : List (List (Op M D))} (each : ∀ code ∈ codes, Disciplined twice count none code)
    {data : D} {s : State (Thread M D) (Shared M D)} (reached : Reachable next (start codes data) s) :
    Inv twice count s :=
  reachable_keeps (fun _ _ => inv_step) (inv_start each data) reached

/-! ### Going on -/

/-- The mutex that the thread waits for. -/
def Needs (t : Thread M D) (m : M) : Prop :=
  (∃ rest, t.code = .lock m :: rest) ∨ t.asleep = true ∧ ∃ take rest, t.code = .await m take :: rest

/-- The thread waits for a mutex that it holds itself. -/
def LockedOut (t : Thread M D) : Prop := ∃ m, holding m t = true ∧ Needs t m

theorem exclusive {s : State (Thread M D) (Shared M D)} (inv : Inv twice count s) (m : M) :
    tally (holding m) s.threads ≤ 1 := by
  rw [← inv.locked m]
  exact_mod_cast Bool.toNat_le (s.shared.locked m)

theorem holder_goes_on {s : State (Thread M D) (Shared M D)} (inv : Inv twice count s) {u : Thread M D}
    (present : u ∈ s.threads) {m : M} (here : holding m u = true) :
    (next u s.shared).isSome ∨ LockedOut u ∧ twice m := by
  have fine := inv.fine u present
  obtain ⟨code, holds, asleep⟩ := u
  cases asleep with
  | true =>
    obtain ⟨given_back, -⟩ := fine
    obtain rfl : holds = [] := given_back
    simp [holding] at here
  | false =>
    obtain ⟨held, holds_held, disciplined⟩ := fine
    obtain rfl : holds = held.toList := holds_held
    obtain rfl : held = some m := by simpa [holding] using here
    have disciplined : Disciplined twice count (some m) code := disciplined
    cases disciplined with
    | relock allowed => exact .inr ⟨⟨m, here, .inl ⟨_, rfl⟩⟩, allowed⟩
    | @await _ take rest empty taken after =>
      left
      cases found : take s.shared.data <;> simp [next, found]
    | unlock _ | branch _ | change _ _ | tell _ _ => exact .inl rfl

/-- How a thread stands: where it cannot go on, it waits for one that holds a mutex, or it
    sleeps, and there is not more than the others are about to take. -/
inductive Stands (twice : M → Prop) (count : D → Nat) (s : State (Thread M D) (Shared M D)) (t : Thread M D) : Prop where
  | steps : (next t s.shared).isSome → Stands twice count s t
  | ended : t.code = [] → Stands twice count s t
  | waits {m : M} {u : Thread M D} : Needs t m → u ∈ s.threads → holding m u = true → (next u s.shared).isSome →
      Stands twice count s t
  | locked_out {m : M} {u : Thread M D} : Needs t m → u ∈ s.threads → holding m u = true → LockedOut u → twice m →
      Stands twice count s t
  | sleeps : t.asleep = true → s.shared.woken = 0 → (count s.shared.data : Int) ≤ tally collects s.threads →
      Stands twice count s t

theorem stands_of_locked {s : State (Thread M D) (Shared M D)} (inv : Inv twice count s) {t : Thread M D} {m : M}
    (needs : Needs t m) (taken : s.shared.locked m = true) : Stands twice count s t := by
  obtain ⟨u, among, here⟩ := (held_iff (inv.locked m)).mp taken
  rcases holder_goes_on inv among here with goes | ⟨out, allowed⟩
  · exact .waits needs among here goes
  · exact .locked_out needs among here out allowed

theorem stands {s : State (Thread M D) (Shared M D)} (inv : Inv twice count s) {t : Thread M D}
    (present : t ∈ s.threads) : Stands twice count s t := by
  have fine := inv.fine t present
  obtain ⟨code, holds, asleep⟩ := t
  cases asleep with
  | true =>
    obtain ⟨-, m, take, rest, starts, -⟩ := fine
    obtain rfl : code = .await m take :: rest := starts
    by_cases taken : s.shared.locked m = true
    · exact stands_of_locked inv (.inr ⟨rfl, take, rest, rfl⟩) taken
    · by_cases signalled : s.shared.woken = 0
      · have somebody : 0 < tally (·.asleep) s.threads := tally_pos_iff.mpr ⟨_, present, rfl⟩
        rw [← inv.asleep, signalled] at somebody
        rcases inv.told with nobody | enough
        · rw [nobody] at somebody
          exact absurd somebody (by decide)
        · rw [signalled] at enough
          exact .sleeps rfl signalled (by simpa using enough)
      · apply Stands.steps
        simp [next, signalled, taken]
  | false =>
    obtain ⟨held, -, disciplined⟩ := fine
    have disciplined : Disciplined twice count held code := disciplined
    cases disciplined with
    | done => exact .ended rfl
    | @lock m rest _ | @relock m rest _ =>
      by_cases taken : s.shared.locked m = true
      · exact stands_of_locked inv (.inl ⟨rest, rfl⟩) taken
      · apply Stands.steps
        simp [next, taken]
    | @await _ take rest empty found after =>
      apply Stands.steps
      cases result : take s.shared.data <;> simp [next, result]
    | unlock _ | branch _ | change _ _ | tell _ _ => exact .steps rfl

theorem locked_out_blocked {s : State (Thread M D) (Shared M D)} (inv : Inv twice count s) {u : Thread M D}
    (present : u ∈ s.threads) (out : LockedOut u) : next u s.shared = none := by
  obtain ⟨m, here, needs⟩ := out
  have taken : s.shared.locked m = true := (held_iff (inv.locked m)).mpr ⟨u, present, here⟩
  rcases needs with ⟨rest, starts⟩ | ⟨asleep, take, rest, starts⟩
  · simp [next, starts, taken]
  · simp [next, starts, asleep, taken]

theorem locked_out_stays {s s' : State (Thread M D) (Shared M D)} (inv : Inv twice count s) (step : Step next s s')
    {u : Thread M D} (present : u ∈ s.threads) (out : LockedOut u) : u ∈ s'.threads := by
  have blocked := locked_out_blocked inv present out
  obtain @⟨before, after, t, t', shared, shared', steps⟩ := step
  have other : u ≠ t := by
    rintro rfl
    rw [blocked] at steps
    cases steps
  simp only [List.mem_append, List.mem_cons, other, false_or] at present ⊢
  exact present.imp_right .inr

/-- Who has locked itself out never goes on. -/
theorem locked_out_for_ever {s s' : State (Thread M D) (Shared M D)} (inv : Inv twice count s)
    (later : Reachable next s s') {u : Thread M D} (present : u ∈ s.threads) (out : LockedOut u) :
    u ∈ s'.threads ∧ next u s'.shared = none := by
  have kept : Inv twice count s' ∧ u ∈ s'.threads := by
    refine reachable_keeps (I := fun s => Inv twice count s ∧ u ∈ s.threads) ?_ ⟨inv, present⟩ later
    intro before after ⟨inv, present⟩ step
    exact ⟨inv_step inv step, locked_out_stays inv step present out⟩
  exact ⟨kept.2, locked_out_blocked kept.1 kept.2 out⟩

end SteamRecovery.Monitors
