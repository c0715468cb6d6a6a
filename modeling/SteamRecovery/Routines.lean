import Mathlib.Data.List.Basic

/-!
C functions that change a state and return a status code, put together the way C
does it: a code other than 0 is returned at once, and what follows is not run.
What every part preserves, every run preserves (`keeps_inOrder`), and a run that
returns 0 has run every part to its end (`ensures_inOrder`).
-/
namespace SteamRecovery.Routines
universe u v
variable {State : Type u}

/-- The code returned, and the state behind it. -/
abbrev Routine (State : Type u) := State → Int × State

def done : Routine State := fun s => (0, s)

/-- `if (0 != (ret = first())) return ret; return second();` -/
def andThen (first second : Routine State) : Routine State := fun s =>
  if (first s).1 = 0 then second (first s).2 else first s

/-- `if (condition) routine();`, with 0 where the condition is false. -/
def onlyIf (condition : Bool) (routine : Routine State) : Routine State :=
  if condition then routine else done

def inOrder : List (Routine State) → Routine State
  | [] => done
  | routine :: rest => andThen routine (inOrder rest)

theorem andThen_passed {first : Routine State} {s : State} (passed : (first s).1 = 0) (second : Routine State) :
    andThen first second s = second (first s).2 :=
  if_pos passed

theorem andThen_stopped {first : Routine State} {s : State} (stopped : (first s).1 ≠ 0) (second : Routine State) :
    andThen first second s = first s :=
  if_neg stopped

theorem inOrder_append (first second : List (Routine State)) :
    inOrder (first ++ second) = andThen (inOrder first) (inOrder second) := by
  induction first with
  | nil => rfl
  | cons routine rest ih =>
    funext s
    rw [List.cons_append, inOrder, inOrder, ih]
    unfold andThen
    by_cases ran : (routine s).1 = 0 <;> simp [ran]

/-! ### Invariants -/

/-- The routine preserves a property of the state, whatever it returns. -/
def Keeps (I : State → Prop) (routine : Routine State) : Prop := ∀ s, I s → I (routine s).2

/-- Where the routine returns 0, it leads from one property to another. -/
def Ensures (P : State → Prop) (routine : Routine State) (Q : State → Prop) : Prop :=
  ∀ s, P s → (routine s).1 = 0 → Q (routine s).2

variable {I P Q R : State → Prop} {first second routine : Routine State}

theorem keeps_done : Keeps I done := fun _ holds => holds

theorem keeps_andThen (keepsFirst : Keeps I first) (keepsSecond : Keeps I second) : Keeps I (andThen first second) := by
  intro s holds
  rw [andThen]
  split
  · exact keepsSecond _ (keepsFirst s holds)
  · exact keepsFirst s holds

theorem keeps_onlyIf {condition : Bool} (keeps : condition = true → Keeps I routine) :
    Keeps I (onlyIf condition routine) := by
  cases condition with
  | false => exact keeps_done
  | true => exact keeps rfl

theorem keeps_inOrder {list : List (Routine State)} (keeps : ∀ routine ∈ list, Keeps I routine) :
    Keeps I (inOrder list) := by
  induction list with
  | nil => exact keeps_done
  | cons routine rest ih =>
    rw [List.forall_mem_cons] at keeps
    exact keeps_andThen keeps.1 (ih keeps.2)

theorem ensures_andThen (ensuresFirst : Ensures P first Q) (ensuresSecond : Ensures Q second R) :
    Ensures P (andThen first second) R := by
  intro s holds
  rw [andThen]
  split
  · rename_i ran
    exact ensuresSecond _ (ensuresFirst s holds ran)
  · rename_i failed
    exact fun ran => absurd ran failed

theorem keeps_ensures (keeps : Keeps I routine) : Ensures I routine I := fun s holds _ => keeps s holds

theorem inOrder_ensures {list : List (Routine State)} (ensures : ∀ routine ∈ list, Ensures Q routine Q) :
    Ensures Q (inOrder list) Q := by
  induction list with
  | nil => exact keeps_ensures keeps_done
  | cons routine rest ih =>
    rw [List.forall_mem_cons] at ensures
    exact ensures_andThen ensures.1 (ih ensures.2)

/-- A sequence that returns 0 has established what one part ensures, where every part keeps
    what that part needs and what it ensures. -/
theorem ensures_inOrder {list : List (Routine State)} {part : Routine State} (member : part ∈ list)
    (ensures : Ensures I part Q) (before : ∀ routine ∈ list, Ensures I routine I)
    (after : ∀ routine ∈ list, Ensures Q routine Q) : Ensures I (inOrder list) Q := by
  induction list with
  | nil => cases member
  | cons routine rest ih =>
    rw [List.forall_mem_cons] at before after
    rcases List.mem_cons.mp member with rfl | later
    · exact ensures_andThen ensures (inOrder_ensures after.2)
    · exact ensures_andThen before.1 (ih later before.2 after.2)

/-! ### One routine for each part of something -/

section
variable {Part : Type v} {run : Part → Routine State} {parts : List Part}

theorem keeps_map (keeps : ∀ part ∈ parts, Keeps I (run part)) : Keeps I (inOrder (parts.map run)) := by
  apply keeps_inOrder
  intro routine member
  obtain ⟨part, inParts, rfl⟩ := List.mem_map.mp member
  exact keeps part inParts

theorem ensures_map {part : Part} (member : part ∈ parts) (ensures : Ensures I (run part) Q)
    (before : ∀ other ∈ parts, Ensures I (run other) I) (after : ∀ other ∈ parts, Ensures Q (run other) Q) :
    Ensures I (inOrder (parts.map run)) Q := by
  apply ensures_inOrder (List.mem_map_of_mem member) ensures
  · intro routine inRoutines
    obtain ⟨other, inParts, rfl⟩ := List.mem_map.mp inRoutines
    exact before other inParts
  · intro routine inRoutines
    obtain ⟨other, inParts, rfl⟩ := List.mem_map.mp inRoutines
    exact after other inParts

end

/-! ### When a run returns 0 -/

/-- Whether the routine returns 0 does not depend on the state. -/
def Passes (routine : Routine State) (P : Prop) : Prop := ∀ s, (routine s).1 = 0 ↔ P

theorem passes_andThen {P Q : Prop} (passesFirst : Passes first P) (passesSecond : Passes second Q) :
    Passes (andThen first second) (P ∧ Q) := by
  intro s
  by_cases ran : (first s).1 = 0
  · rw [andThen_passed ran, passesSecond _, ← passesFirst s]
    exact (and_iff_right ran).symm
  · rw [andThen_stopped ran, ← passesFirst s]
    simp [ran]

theorem passes_map {Part : Type v} {run : Part → Routine State} {P : Part → Prop}
    (passes : ∀ part, Passes (run part) (P part)) (parts : List Part) :
    Passes (inOrder (parts.map run)) (∀ part ∈ parts, P part) := by
  induction parts with
  | nil =>
    intro s
    simp [inOrder, done]
  | cons part rest ih =>
    intro s
    rw [List.map_cons, inOrder, passes_andThen (passes part) ih s, List.forall_mem_cons]

theorem passes_inOrder {list : List (Routine State)} {conditions : List Prop}
    (passes : List.Forall₂ Passes list conditions) : Passes (inOrder list) (∀ P ∈ conditions, P) := by
  induction passes with
  | nil =>
    intro s
    simp [inOrder, done]
  | cons passesFirst _ ih =>
    intro s
    rw [inOrder, passes_andThen passesFirst ih s, List.forall_mem_cons]

/-! ### Records of what was done -/

section
variable {Event : Type v} {log : State → List Event}

/-- Where the routine returns 0, it has added the given events to a record. -/
def Appends (log : State → List Event) (routine : Routine State) (events : List Event) : Prop :=
  ∀ s, (routine s).1 = 0 → log (routine s).2 = log s ++ events

theorem appends_andThen {earlier later : List Event} (appendsFirst : Appends log first earlier)
    (appendsSecond : Appends log second later) : Appends log (andThen first second) (earlier ++ later) := by
  intro s
  rw [andThen]
  split
  · rename_i ran
    intro passed
    rw [appendsSecond _ passed, appendsFirst s ran, List.append_assoc]
  · rename_i failed
    exact fun passed => absurd passed failed

theorem appends_inOrder {list : List (Routine State)} {events : List (List Event)}
    (appends : List.Forall₂ (Appends log) list events) : Appends log (inOrder list) events.flatten := by
  induction appends with
  | nil =>
    intro s _
    exact (List.append_nil _).symm
  | cons appendsFirst _ ih => exact appends_andThen appendsFirst ih

end

/-! ### Cuts -/

/-- A state, and the states behind every step so far. -/
structure Traced (State : Type u) where
  now : State
  cuts : List State

/-- A step of its own, behind which a run can be cut. -/
def step (code : Int) (effect : State → State) : Routine (Traced State) := fun t =>
  (code, ⟨effect t.now, t.cuts ++ [effect t.now]⟩)

/-- `P` has held behind every step, and `Q` holds now. -/
def SoFar (P Q : State → Prop) (t : Traced State) : Prop := (∀ s ∈ t.cuts, P s) ∧ Q t.now

theorem step_soFar {code : Int} {effect : State → State} {t : Traced State} (before : SoFar P Q t)
    (leads : R (effect t.now)) (allowed : ∀ s, R s → P s) : SoFar P R (step code effect t).2 := by
  refine ⟨?_, leads⟩
  intro s member
  rcases List.mem_append.mp member with earlier | last
  · exact before.1 s earlier
  · rw [List.mem_singleton.mp last]
    exact allowed _ leads

theorem soFar_mono {t : Traced State} (before : SoFar P Q t) (weaker : ∀ s, Q s → R s) : SoFar P R t :=
  ⟨before.1, weaker _ before.2⟩

theorem keeps_step {code : Int} {effect : State → State} (keeps : ∀ s, Q s → Q (effect s))
    (allowed : ∀ s, Q s → P s) : Keeps (SoFar P Q) (step code effect) :=
  fun _ before => step_soFar before (keeps _ before.2) allowed

end SteamRecovery.Routines
