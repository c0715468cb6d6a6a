import Mathlib.Data.List.Basic

/-!
Compacting an array in place. One pass over the array moves each element that is
kept down over the ones that were dropped so far, and counts the dropped ones. An
access outside the array gives none. Within it there is no such access: what stands
in front is the filtered array then, and the part that the pass did not reach is as
it was (`compact_filter`).
-/
namespace SteamRecovery.Compaction
variable {α : Type}

/-- `buf[i] = a` -/
def store (buf : List α) (i : Int) (a : α) : Option (List α) :=
  if 0 ≤ i ∧ i < buf.length then some (buf.set i.toNat a) else none

/-- The array, and how many elements were dropped so far. -/
structure Compacted (α : Type) where
  buf : List α
  move : Nat

/-- `if (!keep(buf[i])) move++; else buf[i - move] = buf[i];` -/
def compact_step (keep : α → Bool) (s : Compacted α) (i : Nat) : Option (Compacted α) :=
  match s.buf[i]? with
  | none => none
  | some a =>
    if keep a then (store s.buf (i - s.move) a).map fun buf => { s with buf }
    else some { s with move := s.move + 1 }

/-- The pass over the first `n` elements. -/
def compact (keep : α → Bool) (buf : List α) (n : Nat) : Option (Compacted α) :=
  (List.range n).foldlM (compact_step keep) ⟨buf, 0⟩

theorem store_append (first rest : List α) (b a : α) : store (first ++ b :: rest) first.length a = some (first ++ a :: rest) := by
  have inside : 0 ≤ (first.length : Int) ∧ (first.length : Int) < (first ++ b :: rest).length := by
    simp only [List.length_append, List.length_cons]
    omega
  rw [store, if_pos inside, Int.toNat_natCast, List.set_append_right _ _ (Nat.le_refl _), Nat.sub_self]
  rfl

variable (keep : α → Bool) {buf : List α} {n : Nat}

/-- Behind `n` elements: the kept ones, as many others as were dropped, and the rest. -/
def CompactedTo (buf : List α) (n : Nat) (s : Compacted α) : Prop :=
  ∃ gap, gap.length = s.move ∧ ((buf.take n).filter keep).length + s.move = n ∧
    s.buf = (buf.take n).filter keep ++ (gap ++ buf.drop n)

variable {keep} {s : Compacted α}

/-- The first place behind the kept elements, and what stands behind it once the element at
    hand has been moved there. -/
theorem store_over_gap (kept gap rest : List α) (a : α) :
    ∃ left, left.length = gap.length ∧
      store (kept ++ (gap ++ a :: rest)) kept.length a = some (kept ++ [a] ++ (left ++ rest)) := by
  cases gap with
  | nil => exact ⟨[], rfl, by simp [store_append]⟩
  | cons first others =>
    refine ⟨others ++ [a], by simp, ?_⟩
    rw [List.cons_append, store_append]
    simp

theorem compact_step_next (so_far : CompactedTo keep buf n s) (inside : n < buf.length) :
    ∃ next, compact_step keep s n = some next ∧ CompactedTo keep buf (n + 1) next := by
  obtain ⟨gap, dropped, count, contents⟩ := so_far
  have longer : buf.take (n + 1) = buf.take n ++ [buf[n]] := List.take_succ_eq_append_getElem inside
  have rest : buf.drop n = buf[n] :: buf.drop (n + 1) := List.drop_eq_getElem_cons inside
  have here : s.buf[n]? = some buf[n] := by
    have front : ((buf.take n).filter keep ++ gap).length = n := by rw [List.length_append, dropped, count]
    rw [contents, ← List.append_assoc, List.getElem?_append_right (Nat.le_of_eq front), front, Nat.sub_self, rest]
    rfl
  rw [compact_step, here]
  simp only []
  by_cases kept : keep buf[n]
  · obtain ⟨left, same, moved⟩ := store_over_gap ((buf.take n).filter keep) gap (buf.drop (n + 1)) buf[n]
    have place : (n : Int) - s.move = ((buf.take n).filter keep).length := by omega
    rw [if_pos kept, contents, rest, place, moved]
    refine ⟨_, rfl, left, same.trans dropped, ?_, ?_⟩
    · rw [longer, List.filter_append, List.length_append, List.filter_singleton, kept]
      simp only [cond_true, List.length_singleton]
      omega
    · rw [longer, List.filter_append, List.filter_singleton, kept]
      rfl
  · rw [if_neg kept]
    refine ⟨_, rfl, gap ++ [buf[n]], ?_, ?_, ?_⟩
    · rw [List.length_append, dropped, List.length_singleton]
    · rw [longer, List.filter_append, List.filter_singleton]
      simp only [kept, cond_false, List.append_nil]
      omega
    · rw [contents, rest, longer, List.filter_append, List.filter_singleton]
      simp [kept]

/-- The pass stays within the array. -/
theorem compact_filter (keep : α → Bool) (inside : n ≤ buf.length) :
    ∃ s, compact keep buf n = some s ∧ CompactedTo keep buf n s := by
  induction n with
  | zero => exact ⟨_, rfl, [], rfl, rfl, rfl⟩
  | succ n ih =>
    obtain ⟨s, ran, so_far⟩ := ih (Nat.le_of_succ_le inside)
    obtain ⟨next, stepped, next_so_far⟩ := compact_step_next so_far inside
    refine ⟨next, ?_, next_so_far⟩
    rw [compact] at ran ⊢
    rw [List.range_succ, List.foldlM_append, ran]
    simp [stepped]

end SteamRecovery.Compaction
