import SteamRecovery.Interleaving

/-!
The lightswitch of a group of threads: under a lock of their own, the inner one, the
threads count who of them is inside, the first to come takes an outer lock for the
whole group, and the last to go gives it back. Outside the sections of the inner lock
the outer one is held exactly while somebody is inside (`Inv`), and whoever is inside has
it held by the group, wherever the others are (`Inv.outer_held`).
-/
namespace SteamRecovery.Lightswitch
open SteamRecovery.Interleaving

/-- Where a thread stands. From `count` to `entered`, and from `uncount` to `leave`, it
    holds the inner lock. -/
inductive Phase where
  | outside
  | count
  | first
  | lock
  | entered
  | inside
  | uncount
  | last
  | unlock
  | leave
  deriving DecidableEq

/-- The inner lock, the counter, and whether the group holds the outer lock. -/
structure Switch where
  inner : Bool
  count : Int
  outer : Bool

def next : Phase → Switch → Option (Phase × Switch)
  | .outside, s => if s.inner then none else some (.count, { s with inner := true })
  | .count, s => some (.first, { s with count := s.count + 1 })
  | .first, s => some (if s.count = 1 then .lock else .entered, s)
  | .lock, s => if s.outer then none else some (.entered, { s with outer := true })
  | .entered, s => some (.inside, { s with inner := false })
  | .inside, s => if s.inner then none else some (.uncount, { s with inner := true })
  | .uncount, s => some (.last, { s with count := s.count - 1 })
  | .last, s => some (if s.count = 0 then .unlock else .leave, s)
  | .unlock, s => some (.leave, { s with outer := false })
  | .leave, s => some (.outside, { s with inner := false })

/-- In a section of the inner lock. -/
def in_section : Phase → Bool
  | .outside | .inside => false
  | _ => true

/-- Counted as one who is inside. -/
def counted : Phase → Bool
  | .first | .lock | .entered | .inside | .uncount => true
  | _ => false

/-- What a thread in a section of the inner lock knows of the outer lock. -/
def Agrees (s : Switch) : Phase → Prop
  | .count | .leave => s.outer = true ↔ 0 < s.count
  | .first => s.outer = true ↔ 1 < s.count
  | .lock => s.outer = false ∧ s.count = 1
  | .entered | .uncount => s.outer = true ∧ 0 < s.count
  | .last => s.outer = true
  | .unlock => s.outer = true ∧ s.count = 0
  | .outside | .inside => True

structure Inv (s : State Phase Switch) : Prop where
  inner : (s.shared.inner.toNat : Int) = tally in_section s.threads
  count : s.shared.count = tally counted s.threads
  free : s.shared.inner = false → (s.shared.outer = true ↔ 0 < s.shared.count)
  agrees : ∀ phase ∈ s.threads, Agrees s.shared phase

theorem agrees_outside {phase : Phase} (outside : ¬ in_section phase) (s : Switch) : Agrees s phase := by
  cases phase <;> trivial

theorem inv_start {threads : List Phase} (outside : ∀ phase ∈ threads, phase = .outside) :
    Inv ⟨threads, ⟨false, 0, false⟩⟩ where
  inner := (tally_zero_iff.mpr fun phase present => by simp [outside phase present, in_section]).symm
  count := (tally_zero_iff.mpr fun phase present => by simp [outside phase present, counted]).symm
  free := fun _ => by simp
  agrees := fun phase present => by rw [outside phase present]; trivial

/-- A step within a section of the inner lock, or into one or out of it, keeps the
    invariant where it counts its thread and leaves the outer lock as it should be. -/
theorem inv_of_step {before after : List Phase} {phase phase' : Phase} {s s' : Switch}
    (inv : Inv ⟨before ++ phase :: after, s⟩)
    (inner : (s'.inner.toNat : Int) + (in_section phase).toNat = s.inner.toNat + (in_section phase').toNat)
    (count : s'.count + (counted phase).toNat = s.count + (counted phase').toNat)
    (section_of : in_section phase ∨ in_section phase')
    (free : s'.inner = false → (s'.outer = true ↔ 0 < s'.count)) (agrees : Agrees s' phase') :
    Inv ⟨before ++ phase' :: after, s'⟩ := by
  have old_inner := inv.inner
  have old_count := inv.count
  simp only [tally_around] at old_inner old_count
  have new_inner : (s'.inner.toNat : Int) = tally in_section (before ++ phase' :: after) := by
    rw [tally_around]
    omega
  -- the thread that steps is in the section before or after, so that no other thread is
  have at_most_one : ∀ b : Bool, (b.toNat : Int) ≤ 1 := by decide
  have others : ∀ other ∈ before ++ after, ¬ in_section other := by
    rcases section_of with here | here
    · refine alone ?_ here
      rw [← inv.inner]
      exact at_most_one _
    · refine alone ?_ here
      rw [← new_inner]
      exact at_most_one _
  refine ⟨new_inner, ?_, free, ?_⟩
  · show s'.count = tally counted (before ++ phase' :: after)
    rw [tally_around]
    omega
  · intro other present
    rw [List.mem_append, List.mem_cons] at present
    rcases present with left | rfl | right
    · exact agrees_outside (others other (List.mem_append_left _ left)) s'
    · exact agrees
    · exact agrees_outside (others other (List.mem_append_right _ right)) s'

/-- A step from one place in the section of the inner lock to another. -/
theorem inv_within {before after : List Phase} {phase phase' : Phase} {s s' : Switch}
    (inv : Inv ⟨before ++ phase :: after, s⟩) (held : s.inner = true) (same : s'.inner = s.inner)
    (here : in_section phase = true) (stays : in_section phase' = true)
    (count : s'.count + (counted phase).toNat = s.count + (counted phase').toNat) (agrees : Agrees s' phase') :
    Inv ⟨before ++ phase' :: after, s'⟩ := by
  refine inv_of_step inv (by rw [same, here, stays]) count (.inl here) (fun unlocked => ?_) agrees
  rw [same, held] at unlocked
  cases unlocked

theorem inv_step {s s' : State Phase Switch} (inv : Inv s) (step : Step next s s') : Inv s' := by
  obtain @⟨before, after, phase, phase', s, s', steps⟩ := step
  have agrees : Agrees s phase := inv.agrees phase (by simp)
  have inner := inv.inner
  have count := inv.count
  have free := inv.free
  simp only [tally_around] at inner count free
  have nonneg := tally_nonneg counted (before ++ after)
  have sections := tally_nonneg in_section (before ++ after)
  -- within a section the inner lock is held
  have held : in_section phase = true → s.inner = true := by
    intro here
    cases state : s.inner with
    | true => rfl
    | false =>
      rw [state, here, Bool.toNat_true, Bool.toNat_false] at inner
      omega
  cases phase with
  | outside =>
    simp only [next, Option.ite_none_left_eq_some, Bool.not_eq_true, Option.some.injEq, Prod.mk.injEq] at steps
    obtain ⟨unlocked, rfl, rfl⟩ := steps
    exact inv_of_step inv (by simp [unlocked, in_section]) (by simp [counted]) (.inr rfl) (by simp) (free unlocked)
  | count =>
    simp only [next, Option.some.injEq, Prod.mk.injEq] at steps
    obtain ⟨rfl, rfl⟩ := steps
    refine inv_within inv (held rfl) rfl rfl rfl (by simp [counted]) ?_
    simp only [Agrees] at agrees ⊢
    rw [agrees]
    omega
  | first =>
    simp only [next, Option.some.injEq, Prod.mk.injEq] at steps
    obtain ⟨rfl, rfl⟩ := steps
    simp only [Agrees] at agrees
    simp only [counted, Bool.toNat_true] at count
    by_cases one : s.count = 1
    · rw [if_pos one]
      refine inv_within inv (held rfl) rfl rfl rfl (by simp [counted]) ⟨?_, one⟩
      simpa [one] using agrees
    · rw [if_neg one]
      refine inv_within inv (held rfl) rfl rfl rfl (by simp [counted]) ⟨?_, ?_⟩
      · exact agrees.mpr (by omega)
      · omega
  | lock =>
    simp only [next, Option.ite_none_left_eq_some, Option.some.injEq, Prod.mk.injEq] at steps
    obtain ⟨_, rfl, rfl⟩ := steps
    refine inv_within inv (held rfl) rfl rfl rfl (by simp [counted]) ⟨rfl, ?_⟩
    simp [agrees.2]
  | entered =>
    simp only [next, Option.some.injEq, Prod.mk.injEq] at steps
    obtain ⟨rfl, rfl⟩ := steps
    refine inv_of_step inv (by simp [in_section, held rfl]) (by simp [counted]) (.inl rfl) (fun _ => ?_) trivial
    simpa [agrees.1] using agrees.2
  | inside =>
    simp only [next, Option.ite_none_left_eq_some, Bool.not_eq_true, Option.some.injEq, Prod.mk.injEq] at steps
    obtain ⟨unlocked, rfl, rfl⟩ := steps
    simp only [counted, Bool.toNat_true] at count
    have positive : 0 < s.count := by omega
    refine inv_of_step inv (by simp [unlocked, in_section]) (by simp [counted]) (.inr rfl) (by simp) ⟨?_, positive⟩
    exact (free unlocked).mpr positive
  | uncount =>
    simp only [next, Option.some.injEq, Prod.mk.injEq] at steps
    obtain ⟨rfl, rfl⟩ := steps
    exact inv_within inv (held rfl) rfl rfl rfl (by simp [counted]) agrees.1
  | last =>
    simp only [next, Option.some.injEq, Prod.mk.injEq] at steps
    obtain ⟨rfl, rfl⟩ := steps
    simp only [counted, Bool.toNat_false] at count
    by_cases zero : s.count = 0
    · rw [if_pos zero]
      exact inv_within inv (held rfl) rfl rfl rfl (by simp [counted]) ⟨agrees, zero⟩
    · rw [if_neg zero]
      refine inv_within inv (held rfl) rfl rfl rfl (by simp [counted]) ?_
      exact iff_of_true agrees (by omega)
  | unlock =>
    simp only [next, Option.some.injEq, Prod.mk.injEq] at steps
    obtain ⟨rfl, rfl⟩ := steps
    refine inv_within inv (held rfl) rfl rfl rfl (by simp [counted]) ?_
    simp [Agrees, agrees.2]
  | leave =>
    simp only [next, Option.some.injEq, Prod.mk.injEq] at steps
    obtain ⟨rfl, rfl⟩ := steps
    exact inv_of_step inv (by simp [in_section, held rfl]) (by simp [counted]) (.inl rfl) (fun _ => agrees) trivial

/-! ### What the invariant says -/

section Consequences
variable {s : State Phase Switch} (inv : Inv s)
include inv

/-- The inner lock is held by a thread in one of its sections. -/
theorem Inv.holder (locked : s.shared.inner = true) : ∃ phase ∈ s.threads, in_section phase :=
  (held_iff inv.inner).mp locked

theorem Inv.unlocked_iff : s.shared.inner = false ↔ ∀ phase ∈ s.threads, ¬ in_section phase := by
  rw [← tally_zero_iff, ← inv.inner]
  cases s.shared.inner <;> decide

/-- The outer lock is held, and no thread is in a section of the inner one: somebody is
    inside. -/
theorem Inv.somebody_inside (unlocked : s.shared.inner = false) (held : s.shared.outer = true) :
    .inside ∈ s.threads := by
  have positive := (inv.free unlocked).mp held
  rw [inv.count] at positive
  obtain ⟨phase, present, inside⟩ := tally_pos_iff.mp positive
  have outside := inv.unlocked_iff.mp unlocked phase present
  cases phase <;> first | exact present | exact absurd inside (by decide) | exact absurd rfl outside

theorem Inv.outer_held (present : .inside ∈ s.threads) : s.shared.outer = true := by
  have positive : 0 < tally (· == .inside) s.threads := tally_pos_iff.mpr ⟨.inside, present, rfl⟩
  have counted_too : ∀ phase, counted phase = true → phase ≠ .inside →
      tally (· == .inside) s.threads + tally (· == phase) s.threads ≤ s.shared.count := by
    intro phase here other
    rw [inv.count]
    refine tally_add_le (fun thread => ?_) s.threads
    revert other here
    cases thread <;> cases phase <;> decide
  have nonneg := tally_nonneg (· == Phase.inside) s.threads
  cases unlocked : s.shared.inner with
  | false =>
    refine (inv.free unlocked).mpr ?_
    rw [inv.count]
    exact tally_pos_iff.mpr ⟨.inside, present, rfl⟩
  | true =>
    obtain ⟨phase, there, inside⟩ := inv.holder unlocked
    have agrees := inv.agrees phase there
    have one_there : 0 < tally (· == phase) s.threads := tally_pos_iff.mpr ⟨phase, there, by simp⟩
    have somebody : 0 < s.shared.count := by
      rw [inv.count]
      exact tally_pos_iff.mpr ⟨.inside, present, rfl⟩
    cases phase with
    | count => exact agrees.mpr somebody
    | leave => exact agrees.mpr somebody
    | first =>
      have := counted_too .first rfl (by decide)
      exact agrees.mpr (by omega)
    | lock =>
      have := counted_too .lock rfl (by decide)
      have := agrees.2
      omega
    | entered => exact agrees.1
    | uncount => exact agrees.1
    | last => exact agrees
    | unlock => exact agrees.1
    | outside => exact absurd inside (by decide)
    | inside => exact absurd inside (by decide)

end Consequences

end SteamRecovery.Lightswitch
