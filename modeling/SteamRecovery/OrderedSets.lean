import Mathlib.Data.List.Induction
import Mathlib.Data.List.Nodup

/-!
Sets that keep the order in which their elements were added. What is in such a set, and
in which order, is read off the calls that were made (`mem_contents`, `contents_order`):
an element is in it where the last call about it was an `add`, and came in at the `add`
before which it was not in the set.
-/
namespace SteamRecovery.OrderedSets
variable {α : Type}

inductive Call (α : Type) where
  | add (a : α)
  | remove (a : α)
  | clear
  deriving DecidableEq

variable [DecidableEq α]

def after (set : List α) : Call α → List α
  | .add a => if a ∈ set then set else set ++ [a]
  | .remove a => set.erase a
  | .clear => []

def contents (calls : List (Call α)) : List α := calls.foldl after []

/-- The call is about the element. -/
def concerns (a : α) : Call α → Bool
  | .add b => b = a
  | .remove b => b = a
  | .clear => true

/-- The last call about the element added it. -/
def Added (calls : List (Call α)) (a : α) : Prop := (calls.filter (concerns a)).getLast? = some (.add a)

/-- The element came in with this call, and is still there. -/
structure Entered (calls : List (Call α)) (a : α) (n : Nat) : Prop where
  call : calls[n]? = some (.add a)
  fresh : ¬ Added (calls.take n) a
  stays : ∀ m > n, calls[m]? ≠ some (.remove a) ∧ calls[m]? ≠ some .clear

/-- The first element came in before the second. -/
def Before (calls : List (Call α)) (a b : α) : Prop := ∃ m n, m < n ∧ Entered calls a m ∧ Entered calls b n

variable {calls : List (Call α)} {a : α}

theorem contents_append (calls : List (Call α)) (c : Call α) : contents (calls ++ [c]) = after (contents calls) c := by
  rw [contents, List.foldl_append]
  rfl

theorem added_append (calls : List (Call α)) (c : Call α) (a : α) :
    Added (calls ++ [c]) a ↔ if concerns a c then c = .add a else Added calls a := by
  rw [Added, List.filter_append]
  by_cases about : concerns a c = true
  · have only : [c].filter (concerns a) = [c] := List.filter_cons_of_pos about
    rw [only, if_pos about, List.getLast?_concat, Option.some.injEq]
  · have no_call : [c].filter (concerns a) = [] := List.filter_cons_of_neg about
    rw [no_call, if_neg about, List.append_nil, Added]

theorem contents_nodup (calls : List (Call α)) : (contents calls).Nodup := by
  induction calls using List.reverseRecOn with
  | nil => exact List.nodup_nil
  | append_singleton calls c ih =>
    rw [contents_append]
    cases c with
    | add a =>
      rw [after]
      split
      · exact ih
      · rename_i fresh
        refine List.nodup_append.mpr ⟨ih, List.nodup_singleton a, ?_⟩
        rintro b member _ single rfl
        exact fresh (List.mem_singleton.mp single ▸ member)
    | remove a => exact ih.erase a
    | clear => exact List.nodup_nil

/-- An element is in the set where the last call about it added it. -/
theorem mem_contents (calls : List (Call α)) (a : α) : a ∈ contents calls ↔ Added calls a := by
  induction calls using List.reverseRecOn with
  | nil => simp [contents, Added]
  | append_singleton calls c ih =>
    rw [contents_append, added_append]
    cases c with
    | add b =>
      by_cases same : b = a
      · by_cases listed : a ∈ contents calls <;> simp [after, concerns, same, listed]
      · by_cases listed : b ∈ contents calls <;> simp [after, concerns, same, Ne.symm same, listed, ih]
    | remove b =>
      by_cases same : b = a
      · simp [after, concerns, same, (contents_nodup calls).mem_erase_iff]
      · simp [after, concerns, same, (contents_nodup calls).mem_erase_iff, Ne.symm same, ih]
    | clear => simp [after, concerns]

theorem entered_append {n : Nat} (entered : Entered calls a n) {c : Call α} (removes : c ≠ .remove a) (clears : c ≠ .clear) :
    Entered (calls ++ [c]) a n := by
  have inside : n < calls.length := (List.getElem?_eq_some_iff.mp entered.call).1
  refine ⟨?_, ?_, fun m later => ?_⟩
  · rw [List.getElem?_append_left inside]
    exact entered.call
  · rw [List.take_append_of_le_length (Nat.le_of_lt inside)]
    exact entered.fresh
  · by_cases old : m < calls.length
    · rw [List.getElem?_append_left old]
      exact entered.stays m later
    · rw [List.getElem?_append_right (Nat.le_of_not_lt old)]
      cases m - calls.length with
      | zero => simp [removes, clears]
      | succ k => simp

theorem entered_last (fresh : ¬ Added calls a) : Entered (calls ++ [.add a]) a calls.length where
  call := by simp
  fresh := by simpa using fresh
  stays m later := by
    have behind : (calls ++ [Call.add a])[m]? = none := List.getElem?_eq_none (by simp; omega)
    simp [behind]

theorem before_append {b : α} (before : Before calls a b) {c : Call α} (first : c ≠ .remove a) (second : c ≠ .remove b)
    (clears : c ≠ .clear) : Before (calls ++ [c]) a b := by
  obtain ⟨m, n, less, entered_a, entered_b⟩ := before
  exact ⟨m, n, less, entered_append entered_a first clears, entered_append entered_b second clears⟩

/-- Every element came in with some call. -/
theorem contents_entered (calls : List (Call α)) : ∀ a ∈ contents calls, ∃ n, Entered calls a n := by
  induction calls using List.reverseRecOn with
  | nil => simp [contents]
  | append_singleton calls c ih =>
    intro a member
    rw [contents_append] at member
    cases c with
    | add b =>
      by_cases listed : a ∈ contents calls
      · obtain ⟨n, entered⟩ := ih a listed
        exact ⟨n, entered_append entered (by simp) (by simp)⟩
      · have same : a = b := by
          rw [after] at member
          split at member
          · exact absurd member listed
          · simpa [listed] using member
        subst same
        exact ⟨calls.length, entered_last ((mem_contents calls a).not.mp listed)⟩
    | remove b =>
      obtain ⟨other, listed⟩ := (contents_nodup calls).mem_erase_iff.mp member
      obtain ⟨n, entered⟩ := ih a listed
      exact ⟨n, entered_append entered (by simpa using other.symm) (by simp)⟩
    | clear => cases member

/-- The elements stand in the order in which they came in. -/
theorem contents_order (calls : List (Call α)) : (contents calls).Pairwise (Before calls) := by
  induction calls using List.reverseRecOn with
  | nil => exact .nil
  | append_singleton calls c ih =>
    rw [contents_append]
    cases c with
    | add b =>
      have kept : (contents calls).Pairwise (Before (calls ++ [.add b])) :=
        ih.imp fun before => before_append before (by simp) (by simp) (by simp)
      rw [after]
      split
      · exact kept
      · rename_i fresh
        refine List.pairwise_append.mpr ⟨kept, List.pairwise_singleton _ _, fun a member d last => ?_⟩
        obtain ⟨n, entered⟩ := contents_entered calls a member
        obtain rfl := List.mem_singleton.mp last
        have inside : n < calls.length := (List.getElem?_eq_some_iff.mp entered.call).1
        exact ⟨n, calls.length, inside, entered_append entered (by simp) (by simp),
          entered_last ((mem_contents calls d).not.mp fresh)⟩
    | remove b =>
      have erased : (after (contents calls) (.remove b)).Pairwise (Before calls) :=
        ih.sublist List.erase_sublist
      refine erased.imp_of_mem fun first second before => ?_
      have other_first := ((contents_nodup calls).mem_erase_iff.mp first).1
      have other_second := ((contents_nodup calls).mem_erase_iff.mp second).1
      exact before_append before (by simpa using other_first.symm) (by simpa using other_second.symm) (by simp)
    | clear => exact .nil

end SteamRecovery.OrderedSets
