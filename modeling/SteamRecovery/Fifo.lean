import Mathlib.Data.List.Basic

/-!
Queues that do not take everything that is offered. What is offered is stored at the
end of the queue, or left out, as the queue at that moment decides; what is taken
comes from its front. Between two clears nothing that was stored gets lost or comes
out of order (`taken_admitted`), and what every step preserves, every run preserves
(`run_keeps`).
-/
namespace SteamRecovery.Fifo
variable {Offer Item : Type}

inductive Event (Offer Item : Type) where
  | put (offer : Offer)
  /-- The item that is returned. -/
  | take (item : Item)
  | clear
  deriving DecidableEq

/-- The queue behind a step, which cannot happen where another item would be returned. -/
def step [DecidableEq Item] (accept : List Item → Offer → Option Item) (queue : List Item) :
    Event Offer Item → Option (List Item)
  | .put offer => some (queue ++ (accept queue offer).toList)
  | .take item =>
    match queue with
    | [] => none
    | first :: rest => if item = first then some rest else none
  | .clear => some []

/-- The state behind a run of steps that can all happen. -/
def run {State Label : Type} (step : State → Label → Option State) (s : State) (events : List Label) : Option State :=
  events.foldlM step s

/-- What an event brings into the queue. -/
def brings {State : Type} (accept : State → Offer → Option Item) (s : State) : Event Offer Item → List Item
  | .put offer => (accept s offer).toList
  | _ => []

/-- What was offered and stored, where the states in between decide. -/
def admitted {State : Type} (step : State → Event Offer Item → Option State) (accept : State → Offer → Option Item)
    (s : State) : List (Event Offer Item) → List Item
  | [] => []
  | e :: rest =>
    brings accept s e ++
      match step s e with
      | some next => admitted step accept next rest
      | none => []

def taken (events : List (Event Offer Item)) : List Item :=
  events.filterMap fun | .take item => some item | _ => none

/-! ### Runs -/

section Runs
variable {State Label : Type} {step : State → Label → Option State} {s last : State}

theorem run_cons {e : Label} {rest : List Label} :
    run step s (e :: rest) = some last ↔ ∃ next, step s e = some next ∧ run step next rest = some last := by
  rw [run, List.foldlM_cons]
  exact Option.bind_eq_some_iff

theorem run_append {first second : List Label} :
    run step s (first ++ second) = some last ↔
      ∃ middle, run step s first = some middle ∧ run step middle second = some last := by
  rw [run, List.foldlM_append]
  exact Option.bind_eq_some_iff

theorem run_last {events : List Label} {middle : State} (ran : run step s events = some middle) (e : Label) :
    run step s (events ++ [e]) = step middle e := by
  rw [run] at ran
  rw [run, List.foldlM_append, ran]
  exact bind_pure (step middle e)

theorem run_stuck {events : List Label} (stuck : run step s events = none) (later : List Label) :
    run step s (events ++ later) = none := by
  rw [run] at stuck
  rw [run, List.foldlM_append, stuck]
  rfl

theorem run_keeps {I : State → Prop} (keeps : ∀ s e next, I s → step s e = some next → I next) {events : List Label}
    (holds : I s) (ran : run step s events = some last) : I last := by
  induction events generalizing s with
  | nil =>
    cases ran
    exact holds
  | cons e rest ih =>
    obtain ⟨next, stepped, later⟩ := run_cons.mp ran
    exact ih (keeps s e next holds stepped) later

/-- A run goes on, and keeps what every allowed step keeps, as long as its steps are
    allowed where they are taken. -/
theorem run_allowed {I : State → Prop} {allowed : State → Label → Prop}
    (goes : ∀ s e, I s → allowed s e → ∃ next, step s e = some next ∧ I next) {events : List Label}
    (all : ∀ earlier e later middle, events = earlier ++ e :: later → run step s earlier = some middle → allowed middle e)
    (holds : I s) : ∃ last, run step s events = some last ∧ I last := by
  induction events generalizing s with
  | nil => exact ⟨s, rfl, holds⟩
  | cons e rest ih =>
    obtain ⟨next, stepped, kept⟩ := goes s e holds (all [] e rest s rfl rfl)
    have behind : ∀ earlier e' later middle, rest = earlier ++ e' :: later → run step next earlier = some middle →
        allowed middle e' := by
      intro earlier e' later middle split ran
      exact all (e :: earlier) e' later middle (by rw [split, List.cons_append]) (run_cons.mpr ⟨next, stepped, ran⟩)
    obtain ⟨last, ran, kept⟩ := ih behind kept
    exact ⟨last, run_cons.mpr ⟨next, stepped, ran⟩, kept⟩

/-- Each step of such a run is taken, where the invariant holds. -/
theorem run_reaches {I : State → Prop} {allowed : State → Label → Prop}
    (goes : ∀ s e, I s → allowed s e → ∃ next, step s e = some next ∧ I next) {events : List Label}
    (all : ∀ earlier e later middle, events = earlier ++ e :: later → run step s earlier = some middle → allowed middle e)
    (holds : I s) {earlier later : List Label} {e : Label} (split : events = earlier ++ e :: later) :
    ∃ middle, run step s earlier = some middle ∧ I middle ∧ allowed middle e := by
  have before : ∀ first e' rest middle, earlier = first ++ e' :: rest → run step s first = some middle →
      allowed middle e' := by
    intro first e' rest middle inside ran
    exact all first e' (rest ++ e :: later) middle (by rw [split, inside, List.append_assoc, List.cons_append]) ran
  obtain ⟨middle, ran, kept⟩ := run_allowed goes before holds
  exact ⟨middle, ran, kept, all earlier e later middle split ran⟩

theorem run_idle {events : List Label} (idle : ∀ e ∈ events, ∀ s, step s e = some s) : run step s events = some s := by
  induction events with
  | nil => rfl
  | cons e rest ih =>
    obtain ⟨here, behind⟩ := List.forall_mem_cons.mp idle
    exact run_cons.mpr ⟨s, here s, ih behind⟩

/-- Where at most one event does something, the run is the step of that event. -/
theorem run_found {found : Label → Bool} {events : List Label}
    (idle : ∀ e ∈ events, found e = false → ∀ s, step s e = some s)
    (one : events.Pairwise fun a b => found a = true → found b = false) :
    run step s events = (events.find? found).elim (some s) (step s) := by
  induction events with
  | nil => rfl
  | cons e rest ih =>
    obtain ⟨apart, one⟩ := List.pairwise_cons.mp one
    obtain ⟨here, behind⟩ := List.forall_mem_cons.mp idle
    rw [run, List.foldlM_cons]
    cases hit : found e with
    | true =>
      have others : ∀ s, run step s rest = some s := fun s =>
        run_idle fun other member => behind other member (apart other member hit)
      rw [List.find?_cons_of_pos hit, Option.elim_some]
      exact (bind_congr others).trans (bind_pure _)
    | false =>
      rw [List.find?_cons_of_neg (by simp [hit]), here hit s]
      exact ih behind one

theorem admitted_cons {step : State → Event Offer Item → Option State} {accept : State → Offer → Option Item}
    {next : State} {e : Event Offer Item} (stepped : step s e = some next) (rest : List (Event Offer Item)) :
    admitted step accept s (e :: rest) = brings accept s e ++ admitted step accept next rest := by
  rw [admitted, stepped]

end Runs

/-! ### Queues -/

variable [DecidableEq Item] {accept : List Item → Offer → Option Item}

/-- Until the queue is cleared, what was in it and what was stored is what was taken
    and what is in it. -/
theorem taken_admitted {queue last : List Item} {events : List (Event Offer Item)}
    (ran : run (step accept) queue events = some last) (uncleared : .clear ∉ events) :
    queue ++ admitted (step accept) accept queue events = taken events ++ last := by
  induction events generalizing queue with
  | nil =>
    cases ran
    simp [admitted, taken]
  | cons e rest ih =>
    obtain ⟨next, stepped, later⟩ := run_cons.mp ran
    rw [List.mem_cons, not_or] at uncleared
    have behind := ih later uncleared.2
    rw [admitted_cons stepped]
    cases e with
    | put offer =>
      cases stepped
      rw [brings, ← List.append_assoc, behind]
      rfl
    | take item =>
      cases queue with
      | nil => cases stepped
      | cons first others =>
        rw [step] at stepped
        split at stepped
        · rename_i same
          cases stepped
          have nothing : brings accept (first :: next) (.take item) = [] := rfl
          rw [nothing, same, List.nil_append, List.cons_append, behind]
          rfl
        · cases stepped
    | clear => exact absurd rfl uncleared.1

/-! ### Implementations -/

/-- Another state that stands for a queue, and does to it what is done here. -/
structure Refines {State : Type} (concrete : State → Event Offer Item → Option State)
    (stored : State → Offer → Option Item) (I : State → Prop) (queue : State → List Item)
    (accept : List Item → Offer → Option Item) : Prop where
  keeps : ∀ s e next, I s → concrete s e = some next → I next
  steps : ∀ s e next, I s → concrete s e = some next → step accept (queue s) e = some (queue next)
  stores : ∀ s offer, I s → stored s offer = accept (queue s) offer

section Implementations
variable {State : Type} {concrete : State → Event Offer Item → Option State} {stored : State → Offer → Option Item}
  {I : State → Prop} {queue : State → List Item}

theorem refines_run (refines : Refines concrete stored I queue accept) {s last : State}
    {events : List (Event Offer Item)} (holds : I s) (ran : run concrete s events = some last) :
    run (step accept) (queue s) events = some (queue last) ∧
      admitted concrete stored s events = admitted (step accept) accept (queue s) events := by
  induction events generalizing s with
  | nil =>
    cases ran
    exact ⟨rfl, rfl⟩
  | cons e rest ih =>
    obtain ⟨next, stepped, later⟩ := run_cons.mp ran
    have abstract_step := refines.steps s e next holds stepped
    obtain ⟨ran_behind, same_behind⟩ := ih (refines.keeps s e next holds stepped) later
    refine ⟨run_cons.mpr ⟨queue next, abstract_step, ran_behind⟩, ?_⟩
    rw [admitted_cons stepped, admitted_cons abstract_step, same_behind]
    refine congrArg (· ++ _) ?_
    cases e with
    | put offer => rw [brings, brings, refines.stores s offer holds]
    | take item => rfl
    | clear => rfl

end Implementations

end SteamRecovery.Fifo
