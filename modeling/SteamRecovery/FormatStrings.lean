import Mathlib.Data.List.Basic
import Mathlib.Data.List.TakeWhile

/-!
Texts that are printed as a format with no arguments. Of a text that is cut short as well,
the part that is printed is that of the text itself only as `Kept` says (`format_kept_iff`).
-/
namespace SteamRecovery.FormatStrings
variable {α : Type}

/-- The percent signs come in pairs. -/
inductive Paired (percent : α) : List α → Prop where
  | nil : Paired percent []
  | char {c text} : c ≠ percent → Paired percent text → Paired percent (c :: text)
  | pair {text} : Paired percent text → Paired percent (percent :: percent :: text)

theorem paired_plain {percent : α} {text : List α} (plain : percent ∉ text) : Paired percent text := by
  induction text with
  | nil => exact .nil
  | cons c text ih =>
    obtain ⟨other, plain⟩ := not_or.mp (mt List.mem_cons.mpr plain)
    exact .char (Ne.symm other) (ih plain)

variable [DecidableEq α]

/-- A pair of percent signs stands for one. Other conversions take arguments, or are none. -/
def format (percent : α) : List α → Option (List α)
  | [] => some []
  | [c] => if c = percent then none else some [c]
  | c :: next :: rest =>
    if c ≠ percent then (format percent (next :: rest)).map (c :: ·)
    else if next = percent then (format percent rest).map (percent :: ·)
    else none

/-- Behind what comes before the first percent sign, if there is one, pairs of them fill the
    first `n` characters that are printed. -/
def Kept (percent : α) (n : Nat) (text : List α) : Prop :=
  percent ∈ text →
    let plain := text.takeWhile (· ≠ percent)
    List.replicate (2 * (n - plain.length)) percent <+: text.drop plain.length

variable {percent : α}

theorem format_char {c : α} (other : c ≠ percent) (text : List α) :
    format percent (c :: text) = (format percent text).map (c :: ·) := by
  cases text with
  | nil => simp [format, other]
  | cons next rest => rw [format, if_pos other]

theorem format_pair (text : List α) :
    format percent (percent :: percent :: text) = (format percent text).map (percent :: ·) := by
  rw [format, if_neg (not_not.mpr rfl), if_pos rfl]

theorem format_some {text out : List α} (printed : format percent text = some out) : Paired percent text := by
  fun_induction format percent text generalizing out with
  | case1 => exact .nil
  | case2 => cases printed
  | case3 c other => exact .char other .nil
  | case4 c next rest other ih =>
    obtain ⟨out, printed, _⟩ := Option.map_eq_some_iff.mp printed
    exact .char other (ih printed)
  | case5 c rest same ih =>
    obtain rfl := not_not.mp same
    obtain ⟨out, printed, _⟩ := Option.map_eq_some_iff.mp printed
    exact .pair (ih printed)
  | case6 => cases printed

theorem format_subset {text out : List α} (printed : format percent text = some out) : out ⊆ text := by
  have paired := format_some printed
  induction paired generalizing out with
  | nil =>
    cases printed
    exact List.Subset.refl _
  | char other _ ih =>
    rw [format_char other] at printed
    obtain ⟨out, rest_printed, rfl⟩ := Option.map_eq_some_iff.mp printed
    exact List.cons_subset_cons _ (ih rest_printed)
  | pair _ ih =>
    rw [format_pair] at printed
    obtain ⟨out, rest_printed, rfl⟩ := Option.map_eq_some_iff.mp printed
    exact List.cons_subset_cons _ (List.subset_cons_of_subset _ (ih rest_printed))

theorem format_paired {text : List α} (paired : Paired percent text) : ∃ out, format percent text = some out := by
  induction paired with
  | nil => exact ⟨[], rfl⟩
  | char other _ ih =>
    obtain ⟨out, printed⟩ := ih
    exact ⟨_, by rw [format_char other, printed, Option.map_some]⟩
  | pair _ ih =>
    obtain ⟨out, printed⟩ := ih
    exact ⟨_, by rw [format_pair, printed, Option.map_some]⟩

/-- Only pairs make a printed text that begins with a percent sign, so the next characters
    are percent signs again. -/
theorem format_fills {text : List α} (paired : Paired percent text) {out : List α} (printed : format percent text = some out)
    (n before : Nat) :
    out.take n = (List.replicate (before + 1) percent ++ text).take n ↔ List.replicate (2 * n) percent <+: text := by
  induction n generalizing text out before with
  | zero => simp
  | succ n ih =>
    cases paired with
    | nil =>
      cases printed
      simp [List.replicate_succ]
    | char other rest =>
      rw [format_char other, Option.map_eq_some_iff] at printed
      obtain ⟨out, _, rfl⟩ := printed
      simp [List.replicate_succ, Nat.mul_succ, other, other.symm]
    | @pair text rest =>
      rw [format_pair, Option.map_eq_some_iff] at printed
      obtain ⟨out, printed, rfl⟩ := printed
      have same : List.replicate (before + 1) percent ++ percent :: percent :: text =
          percent :: (List.replicate (before + 1 + 1) percent ++ text) := by
        rw [List.replicate_succ, List.cons_append, List.replicate_succ', List.replicate_succ']
        simp
      rw [same, List.take_succ_cons, List.take_succ_cons, List.cons.injEq, and_iff_right rfl, ih rest printed,
        Nat.mul_succ, List.replicate_succ, List.replicate_succ, List.cons_prefix_cons, List.cons_prefix_cons,
        and_iff_right rfl, and_iff_right rfl]

theorem kept_char {c : α} (other : c ≠ percent) (text : List α) (n : Nat) :
    Kept percent (n + 1) (c :: text) ↔ Kept percent n text := by
  simp [Kept, other, other.symm]

theorem kept_pair (text : List α) (n : Nat) :
    Kept percent n (percent :: percent :: text) ↔ List.replicate (2 * n) percent <+: percent :: percent :: text := by
  simp [Kept]

theorem kept_of_paired {text : List α} (paired : Paired percent text) {out : List α} (printed : format percent text = some out)
    (n : Nat) : out.take n = text.take n ↔ Kept percent n text := by
  induction paired generalizing out n with
  | nil =>
    cases printed
    simp [Kept]
  | char other _ ih =>
    rw [format_char other] at printed
    obtain ⟨out, rest_printed, rfl⟩ := Option.map_eq_some_iff.mp printed
    cases n with
    | zero => simp [Kept]
    | succ n => rw [kept_char other, ← ih rest_printed, List.take_succ_cons, List.take_succ_cons, List.cons.injEq, and_iff_right rfl]
  | @pair text paired _ =>
    rw [format_pair] at printed
    obtain ⟨out, rest_printed, rfl⟩ := Option.map_eq_some_iff.mp printed
    cases n with
    | zero => simp [Kept]
    | succ n =>
      have fills := format_fills paired rest_printed n 0
      rw [List.replicate_one, List.singleton_append] at fills
      rw [kept_pair, List.take_succ_cons, List.take_succ_cons, List.cons.injEq, and_iff_right rfl, fills, Nat.mul_succ,
        List.replicate_succ, List.replicate_succ, List.cons_prefix_cons, List.cons_prefix_cons, and_iff_right rfl,
        and_iff_right rfl]

/-- A text is printed as it is, up to its first `n` characters. -/
theorem format_kept_iff (text : List α) (n : Nat) :
    (∃ out, format percent text = some out ∧ out.take n = text.take n) ↔ Paired percent text ∧ Kept percent n text := by
  constructor
  · rintro ⟨out, printed, same⟩
    exact ⟨format_some printed, (kept_of_paired (format_some printed) printed n).mp same⟩
  · rintro ⟨paired, kept⟩
    obtain ⟨out, printed⟩ := format_paired paired
    exact ⟨out, printed, (kept_of_paired paired printed n).mpr kept⟩

/-- In a text that is not cut, no percent sign is kept. -/
theorem kept_short_iff {text : List α} {n : Nat} (short : text.length ≤ n) : Kept percent n text ↔ percent ∉ text := by
  constructor
  · intro kept member
    have fills := (kept member).length_le
    have inside : (text.takeWhile (· ≠ percent)).length < text.length := by
      refine Nat.lt_of_le_of_ne (List.takeWhile_prefix _).length_le fun whole => ?_
      have same : text.takeWhile (· ≠ percent) = text := (List.takeWhile_prefix _).eq_of_length whole
      simpa using List.takeWhile_eq_self_iff.mp same percent member
    rw [List.length_replicate, List.length_drop] at fills
    omega
  · exact fun plain member => absurd member plain

end SteamRecovery.FormatStrings
