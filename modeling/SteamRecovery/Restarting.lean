import Mathlib.Logic.Relation
import SteamRecovery.Routines

/-!
Programs that are cut. A program runs again and again on a state that survives, each
run may be cut behind any of its steps, and other things happen between the runs. What
the other things keep, and every run behind each of its steps, holds at any time
(`life_invariant`). A run goes from stage to stage (`Leads`), and a routine on a part
of the state is one on the whole (`within`).
-/
namespace SteamRecovery.Restarting
open SteamRecovery.Routines
universe u v w
variable {State : Type u} {Run : Type v} {Part : Type w}

/-- What happens next: something outside of the program, or a run of it up to a cut. -/
inductive Happens (program : Run → Routine (Traced State)) (outside : State → State → Prop) : State → State → Prop where
  | outside {s s' : State} : outside s s' → Happens program outside s s'
  | run (r : Run) {s s' : State} : s' ∈ (program r ⟨s, []⟩).2.cuts → Happens program outside s s'

def Life (program : Run → Routine (Traced State)) (outside : State → State → Prop) : State → State → Prop :=
  Relation.ReflTransGen (Happens program outside)

theorem life_invariant {program : Run → Routine (Traced State)} {outside : State → State → Prop} {I : State → Prop}
    (outside_keeps : ∀ s s', outside s s' → I s → I s')
    (run_keeps : ∀ r s, I s → ∀ s' ∈ (program r ⟨s, []⟩).2.cuts, I s') {s s' : State}
    (life : Life program outside s s') (holds : I s) : I s' := by
  induction life with
  | refl => exact holds
  | tail _ next ih =>
    cases next with
    | outside other => exact outside_keeps _ _ other ih
    | run r cut => exact run_keeps r _ ih _ cut

/-! ### Stages -/

/-- From one stage, the routine leads to another, and where it fails, to a third. `P`
    holds behind every step. -/
def Leads (P Q : State → Prop) (routine : Routine (Traced State)) (E R : State → Prop) : Prop :=
  ∀ t, SoFar P Q t → ((routine t).1 ≠ 0 → SoFar P E (routine t).2) ∧ ((routine t).1 = 0 → SoFar P R (routine t).2)

variable {P Q E E' R S : State → Prop} {first second routine : Routine (Traced State)}

theorem leads_done : Leads P Q done E Q := fun _ before => ⟨fun failed => absurd rfl failed, fun _ => before⟩

theorem leads_step {code : Int} {effect : State → State} (fails : code ≠ 0 → ∀ s, Q s → E (effect s))
    (passes : code = 0 → ∀ s, Q s → R (effect s)) (failed_allowed : ∀ s, E s → P s) (allowed : ∀ s, R s → P s) :
    Leads P Q (step code effect) E R :=
  fun _ before => ⟨fun failed => step_soFar before (fails failed _ before.2) failed_allowed,
    fun passed => step_soFar before (passes passed _ before.2) allowed⟩

theorem leads_keeps (keeps : Keeps (SoFar P Q) routine) : Leads P Q routine Q Q :=
  fun t before => ⟨fun _ => keeps t before, fun _ => keeps t before⟩

theorem leads_weaker (leads : Leads P Q routine E R) (failed_weaker : ∀ s, E s → E' s) (weaker : ∀ s, R s → S s) :
    Leads P Q routine E' S :=
  fun t before => ⟨fun failed => soFar_mono ((leads t before).1 failed) failed_weaker,
    fun passed => soFar_mono ((leads t before).2 passed) weaker⟩

theorem leads_andThen (leadsFirst : Leads P Q first E R) (leadsSecond : Leads P R second E S) :
    Leads P Q (andThen first second) E S := by
  intro t before
  obtain ⟨failing, passing⟩ := leadsFirst t before
  by_cases passed : (first t).1 = 0
  · rw [andThen_passed passed]
    exact leadsSecond _ (passing passed)
  · rw [andThen_stopped passed]
    exact ⟨failing, fun none => absurd none passed⟩

theorem leads_cons {rest : List (Routine (Traced State))} (leadsFirst : Leads P Q first E R)
    (leadsRest : Leads P R (inOrder rest) E S) : Leads P Q (inOrder (first :: rest)) E S :=
  leads_andThen leadsFirst leadsRest

theorem leads_nil : Leads P Q (inOrder []) E Q := leads_done

theorem leads_onlyIf {condition : Bool} (skips : ∀ s, Q s → R s) (leads : Leads P Q routine E R) :
    Leads P Q (onlyIf condition routine) E R := by
  cases condition with
  | false => exact leads_weaker leads_done (fun _ => id) skips
  | true => exact leads

/-- Behind every step of a run, what the stages need holds. -/
theorem leads_cuts {s : State} (leads : Leads P Q routine P P) (holds : Q s) : ∀ s' ∈ (routine ⟨s, []⟩).2.cuts, P s' := by
  obtain ⟨failing, passing⟩ := leads ⟨s, []⟩ ⟨fun _ none => absurd none List.not_mem_nil, holds⟩
  by_cases passed : (routine ⟨s, []⟩).1 = 0
  · exact (passing passed).1
  · exact (failing passed).1

/-! ### Parts of the state -/

/-- The part is taken out of the state, and what becomes of it is put back. -/
def within (get : State → Part) (put : State → Part → State) (routine : Routine (Traced Part)) :
    Routine (Traced State) := fun t =>
  let ran := routine ⟨get t.now, []⟩
  (ran.1, ⟨put t.now ran.2.now, t.cuts ++ ran.2.cuts.map (put t.now)⟩)

theorem within_leads {get : State → Part} {put : State → Part → State} {routine : Routine (Traced Part)}
    {T U V W : Part → Prop} {t : Traced State} (before : SoFar P Q t) (inside : Leads T U routine V W)
    (starts : U (get t.now)) (allowed : ∀ part, T part → P (put t.now part)) (fails : ∀ part, V part → E (put t.now part))
    (leads : ∀ part, W part → R (put t.now part)) :
    ((within get put routine t).1 ≠ 0 → SoFar P E (within get put routine t).2) ∧
      ((within get put routine t).1 = 0 → SoFar P R (within get put routine t).2) := by
  have cuts : (∀ s ∈ (routine ⟨get t.now, []⟩).2.cuts, T s) →
      ∀ s ∈ (within get put routine t).2.cuts, P s := by
    intro inner s member
    rcases List.mem_append.mp member with earlier | later
    · exact before.1 s earlier
    · obtain ⟨part, cut, rfl⟩ := List.mem_map.mp later
      exact allowed part (inner part cut)
  obtain ⟨failing, passing⟩ := inside ⟨get t.now, []⟩ ⟨fun _ none => absurd none List.not_mem_nil, starts⟩
  exact ⟨fun failed => ⟨cuts (failing failed).1, fails _ (failing failed).2⟩,
    fun passed => ⟨cuts (passing passed).1, leads _ (passing passed).2⟩⟩

end SteamRecovery.Restarting
