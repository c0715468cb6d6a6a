import Mathlib.Data.List.Basic
import Mathlib.Data.List.Infix

/-!
Patterns in texts. A pattern that cannot overlap itself (`Unbordered`) occurs at
offsets that lie apart by its whole length (`occurrences_apart`), so a search
that starts behind one occurrence misses none. Two texts that agree on a prefix
have the same last occurrence in it (`lastAt_agree`).
-/
namespace SteamRecovery.ByteStrings
universe u
variable {α : Type u}

/-- The pattern stands in the text at the given offset. -/
def OccursAt (pattern text : List α) (i : Nat) : Prop := pattern <+: text.drop i

instance [DecidableEq α] (pattern text : List α) (i : Nat) : Decidable (OccursAt pattern text i) :=
  inferInstanceAs (Decidable (pattern <+: text.drop i))

/-- The pattern stands at the given offset and at no later one. -/
def LastAt (pattern text : List α) (i : Nat) : Prop :=
  OccursAt pattern text i ∧ ∀ j, i < j → ¬ OccursAt pattern text j

/-- No proper end of the pattern is also one of its beginnings. -/
def Unbordered (pattern : List α) : Prop :=
  ∀ k, 0 < k → k < pattern.length → ¬ pattern.drop k <+: pattern

/-- The `n` elements from an offset on. -/
def slice (text : List α) (i n : Nat) : List α := (text.drop i).take n

theorem occursAt_iff (pattern text : List α) (i : Nat) :
    OccursAt pattern text i ↔ slice text i pattern.length = pattern := by
  unfold OccursAt slice
  rw [List.prefix_iff_eq_take]
  exact eq_comm

theorem occursAt_bound {pattern text : List α} {i : Nat} (nonempty : pattern ≠ [])
    (occurs : OccursAt pattern text i) : i + pattern.length ≤ text.length := by
  have fits := occurs.length_le
  have positive := List.length_pos_iff.mpr nonempty
  simp only [List.length_drop] at fits
  omega

theorem occursAt_drop (pattern text : List α) (n i : Nat) :
    OccursAt pattern (text.drop n) i ↔ OccursAt pattern text (n + i) := by
  simp only [OccursAt, List.drop_drop]

theorem slice_take (text : List α) (i n m : Nat) (fits : i + n ≤ m) :
    slice (text.take m) i n = slice text i n := by
  unfold slice
  rw [List.drop_take, List.take_take, Nat.min_eq_left (by omega)]

/-- Texts that agree on a prefix have the same occurrences in it. -/
theorem occursAt_agree {pattern text other : List α} {i m : Nat} (agree : text.take m = other.take m)
    (fits : i + pattern.length ≤ m) : OccursAt pattern text i ↔ OccursAt pattern other i := by
  rw [occursAt_iff, occursAt_iff, ← slice_take text i _ m fits, agree, slice_take other i _ m fits]

/-- Two occurrences of a pattern that cannot overlap itself do not overlap. -/
theorem occurrences_apart {pattern text : List α} (unbordered : Unbordered pattern) {i j : Nat}
    (first : OccursAt pattern text i) (second : OccursAt pattern text j) (less : i < j) :
    i + pattern.length ≤ j := by
  by_contra close
  have later : pattern.drop (j - i) <+: text.drop j := by
    have dropped := first.drop (j - i)
    rwa [List.drop_drop, show i + (j - i) = j by omega] at dropped
  have bordered : pattern.drop (j - i) <+: pattern :=
    List.prefix_of_prefix_length_le later second (by simp)
  exact unbordered (j - i) (by omega) (by omega) bordered

/-- In texts that agree on a prefix, last occurrences inside it coincide. -/
theorem lastAt_agree {pattern text other : List α} {i j m : Nat} (agree : text.take m = other.take m)
    (last : LastAt pattern text i) (otherLast : LastAt pattern other j)
    (fits : i + pattern.length ≤ m) (otherFits : j + pattern.length ≤ m) : i = j := by
  rcases Nat.lt_trichotomy i j with less | same | greater
  · exact absurd ((occursAt_agree agree otherFits).mpr otherLast.1) (last.2 j less)
  · exact same
  · exact absurd ((occursAt_agree agree fits).mp last.1) (otherLast.2 i greater)

end SteamRecovery.ByteStrings
