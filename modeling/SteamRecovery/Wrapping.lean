import Mathlib.Data.List.Basic

/-!
Texts on lines of a fixed width. A line that is too long goes on in the next one, so
a text is as many lines as the pieces of its own lines (`wrap`). One character more
goes behind the last line, or begins a new one where that is full or the character
is a newline (`wrap_concat`).
-/
namespace SteamRecovery.Wrapping
variable {α : Type}

/-- A line in pieces of the given width. A line that fits, even an empty one, is one piece. -/
def chunks (cols : Nat) (line : List α) : List (List α) :=
  if cols = 0 ∨ line.length ≤ cols then [line] else line.take cols :: chunks cols (line.drop cols)
termination_by line.length
decreasing_by
  rw [List.length_drop]
  omega

/-- The last `n` lines, with blank lines in front of them where there are fewer. -/
def last_lines (n : Nat) (lines : List (List α)) : List (List α) :=
  List.replicate (n - lines.length) [] ++ lines.drop (lines.length - n)

theorem last_lines_length (n : Nat) (lines : List (List α)) : (last_lines n lines).length = n := by
  simp only [last_lines, List.length_append, List.length_replicate, List.length_drop]
  omega

/-- The lines from the last one backwards, and blank lines behind the first one. -/
theorem last_lines_get {n i : Nat} (inside : i < n) (lines : List (List α)) :
    (last_lines n lines)[i]? = some (lines.reverse.getD (n - 1 - i) []) := by
  have here : i < (last_lines n lines).length := by rwa [last_lines_length]
  rw [last_lines, List.getElem?_append, List.length_replicate]
  by_cases blank : i < n - lines.length
  · have nothing : lines.reverse[n - 1 - i]? = none := by
      rw [List.getElem?_eq_none_iff, List.length_reverse]
      omega
    rw [if_pos blank, List.getElem?_replicate_of_lt blank, List.getD_eq_getElem?_getD, nothing, Option.getD_none]
  · have back : n - 1 - i < lines.length := by omega
    rw [if_neg blank, List.getElem?_drop, List.getD_eq_getElem?_getD, List.getElem?_reverse back]
    have same : lines.length - n + (i - (n - lines.length)) = lines.length - 1 - (n - 1 - i) := by omega
    rw [same, List.getElem?_eq_getElem (by omega), Option.getD_some]

variable [DecidableEq α]

/-- The lines that a text takes up on a screen of the given width. -/
def wrap (newline : α) (cols : Nat) (text : List α) : List (List α) := (text.splitOn newline).flatMap (chunks cols)

/-- One character more, where the last line comes first. -/
def extend (cols : Nat) (c : α) : List (List α) → List (List α)
  | [] => [[c]]
  | cur :: past => if cur.length < cols then (cur ++ [c]) :: past else [c] :: cur :: past

def add (newline : α) (cols : Nat) (lines : List (List α)) (c : α) : List (List α) :=
  if c = newline then [] :: lines else extend cols c lines

omit [DecidableEq α] in
theorem extend_append {cols : Nat} {c : α} {lines : List (List α)} (some_line : lines ≠ []) (before : List (List α)) :
    extend cols c (lines ++ before) = extend cols c lines ++ before := by
  obtain ⟨cur, past, rfl⟩ := List.exists_cons_of_ne_nil some_line
  rw [List.cons_append, extend, extend]
  split <;> rfl

omit [DecidableEq α] in
theorem chunks_nonempty (cols : Nat) (line : List α) : chunks cols line ≠ [] := by
  rw [chunks]
  split <;> simp

omit [DecidableEq α] in
theorem chunks_concat {cols : Nat} (positive : 0 < cols) (line : List α) (c : α) :
    (chunks cols (line ++ [c])).reverse = extend cols c (chunks cols line).reverse := by
  fun_induction chunks cols line with
  | case1 line short =>
    have fits : line.length ≤ cols := short.resolve_left (by omega)
    rw [List.reverse_singleton, extend]
    by_cases room : line.length < cols
    · have still_fits : (line ++ [c]).length ≤ cols := by
        simpa using Nat.succ_le_of_lt room
      rw [if_pos room, chunks, if_pos (.inr still_fits), List.reverse_singleton]
    · have full : line.length = cols := by omega
      have rest : chunks cols [c] = [[c]] := by
        rw [chunks, if_pos (.inr positive)]
      rw [if_neg room, chunks, if_neg (by simp; omega), List.take_append_of_le_length (Nat.le_of_eq full.symm),
        List.take_of_length_le fits, ← full, List.drop_left, full, rest]
      rfl
  | case2 line long ih =>
    obtain ⟨_, long⟩ := not_or.mp long
    have fits : cols ≤ line.length := by omega
    rw [chunks, if_neg (by simp; omega), List.take_append_of_le_length fits, List.drop_append_of_le_length fits,
      List.reverse_cons, ih, List.reverse_cons, extend_append]
    simpa using chunks_nonempty cols (line.drop cols)

theorem splitOn_concat {sep c : α} (other : c ≠ sep) (text : List α) :
    ∃ before last, text.splitOn sep = before ++ [last] ∧ (text ++ [c]).splitOn sep = before ++ [last ++ [c]] := by
  induction text with
  | nil => exact ⟨[], [], rfl, List.splitOn_eq_singleton (by simpa using other.symm)⟩
  | cons d text ih =>
    obtain ⟨before, last, split, longer⟩ := ih
    rw [List.cons_append, List.splitOn_cons_eq_if_modifyHead, List.splitOn_cons_eq_if_modifyHead, split, longer]
    by_cases ends : (d == sep) = true
    · rw [if_pos ends, if_pos ends]
      exact ⟨[] :: before, last, rfl, rfl⟩
    · rw [if_neg ends, if_neg ends]
      cases before with
      | nil => exact ⟨[], d :: last, rfl, rfl⟩
      | cons first others => exact ⟨(d :: first) :: others, last, rfl, rfl⟩

theorem wrap_nil (newline : α) (cols : Nat) : wrap newline cols [] = [[]] := by
  rw [wrap, List.splitOn_nil, List.flatMap_singleton, chunks, if_pos (.inr (Nat.zero_le _))]

theorem wrap_concat (newline : α) {cols : Nat} (positive : 0 < cols) (text : List α) (c : α) :
    (wrap newline cols (text ++ [c])).reverse = add newline cols (wrap newline cols text).reverse c := by
  unfold add wrap
  split
  · rename_i ends
    have blank : ([] : List α).splitOn newline = [[]] := List.splitOn_nil newline
    have one : chunks cols ([] : List α) = [[]] := by
      rw [chunks, if_pos (.inr (Nat.zero_le _))]
    rw [ends, List.splitOn_append_cons_self, blank, List.flatMap_append, List.flatMap_singleton, one,
      List.reverse_append]
    rfl
  · rename_i other
    obtain ⟨before, last, split, longer⟩ := splitOn_concat other text
    rw [split, longer, List.flatMap_append, List.flatMap_append, List.flatMap_singleton, List.flatMap_singleton,
      List.reverse_append, List.reverse_append, chunks_concat positive, extend_append]
    simpa using chunks_nonempty cols last

/-- A text is added to the lines character by character. -/
theorem wrap_fold (newline : α) {cols : Nat} (positive : 0 < cols) (text more : List α) :
    (wrap newline cols (text ++ more)).reverse = more.foldl (add newline cols) (wrap newline cols text).reverse := by
  induction more generalizing text with
  | nil => rw [List.append_nil, List.foldl_nil]
  | cons c more ih => rw [List.append_cons, ih, wrap_concat newline positive, List.foldl_cons]

end SteamRecovery.Wrapping
