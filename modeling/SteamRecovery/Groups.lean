import Mathlib.Algebra.Ring.Nat
import Mathlib.Data.List.Basic

/-!
Lists that are cut into groups. Where an item may be read as several, of which the first is
of the same kind, the groups are the same only if all behind the first are passed over
(`groups_agree_iff`).
-/
namespace SteamRecovery.Groups
variable {α : Type}

/-- The start of a group, an element of one, or something that is passed over. -/
inductive Item (α : Type) where
  | start
  | skip
  | element (a : α)
  deriving DecidableEq

def Item.isStart : Item α → Bool
  | .start => true
  | _ => false

def Item.isElement : Item α → Bool
  | .element _ => true
  | _ => false

/-- The elements before the first group, and the groups. -/
def cut : List (Item α) → List α × List (List α)
  | [] => ([], [])
  | .start :: rest => ([], (cut rest).1 :: (cut rest).2)
  | .skip :: rest => cut rest
  | .element a :: rest => (a :: (cut rest).1, (cut rest).2)

def groups (items : List (Item α)) : List (List α) := (cut items).2

/-- An item, and what is read for it. -/
structure Reading (α : Type) where
  expected : Item α
  first : Item α
  more : List (Item α)
  same_start : first.isStart = expected.isStart
  same_element : first.isElement = expected.isElement

def read_items (readings : List (Reading α)) : List (Item α) := readings.flatMap fun r => r.first :: r.more

def wanted_items (readings : List (Reading α)) : List (Item α) := readings.map (·.expected)

/-- It is read as it is, and the rest is passed over. -/
def Exact (r : Reading α) : Prop := r.first = r.expected ∧ ∀ item ∈ r.more, item = .skip

/-! ### Counting -/

theorem cut_starts (items : List (Item α)) : (cut items).2.length = items.countP Item.isStart := by
  induction items with
  | nil => rfl
  | cons item rest ih =>
    rw [List.countP_cons, ← ih]
    cases item <;> rfl

theorem cut_elements (items : List (Item α)) :
    (cut items).1.length + (cut items).2.flatten.length = items.countP Item.isElement := by
  induction items with
  | nil => rfl
  | cons item rest ih =>
    rw [List.countP_cons, ← ih]
    cases item with
    | start =>
      rw [cut, List.flatten_cons, List.length_append, List.length_nil, Nat.zero_add]
      rfl
    | skip => rfl
    | element a =>
      rw [cut, List.length_cons, Nat.add_right_comm]
      rfl

theorem cut_append_skips (skips rest : List (Item α)) (skipped : ∀ item ∈ skips, item = .skip) :
    cut (skips ++ rest) = cut rest := by
  induction skips with
  | nil => rfl
  | cons item skips ih =>
    obtain ⟨rfl, skipped_rest⟩ := List.forall_mem_cons.mp skipped
    exact ih skipped_rest

/-- No more items of a kind are read than are wanted only if none is among the rest. -/
theorem count_read (p : Item α → Bool) (readings : List (Reading α)) (same : ∀ r ∈ readings, p r.first = p r.expected) :
    (wanted_items readings).countP p ≤ (read_items readings).countP p ∧
      ((read_items readings).countP p = (wanted_items readings).countP p → ∀ r ∈ readings, ∀ item ∈ r.more, p item = false) := by
  induction readings with
  | nil => simp [read_items, wanted_items]
  | cons r rest ih =>
    obtain ⟨same_first, same_rest⟩ := List.forall_mem_cons.mp same
    obtain ⟨fewer, equal⟩ := ih same_rest
    have counted : (read_items (r :: rest)).countP p = (if p r.first then 1 else 0) + r.more.countP p + (read_items rest).countP p := by
      rw [read_items, List.flatMap_cons, ← read_items, List.countP_append, List.countP_cons]
      omega
    have counted_wanted : (wanted_items (r :: rest)).countP p = (if p r.expected then 1 else 0) + (wanted_items rest).countP p := by
      rw [wanted_items, List.map_cons, ← wanted_items, List.countP_cons]
      omega
    rw [counted, counted_wanted, same_first]
    refine ⟨by omega, fun same_count => ?_⟩
    have none_more : r.more.countP p = 0 := by omega
    rw [List.forall_mem_cons]
    refine ⟨fun item member => ?_, equal (by omega)⟩
    simpa using List.countP_eq_zero.mp none_more item member

/-! ### Groups that agree -/

theorem item_skip {item : Item α} (no_start : item.isStart = false) (no_element : item.isElement = false) : item = .skip := by
  cases item with
  | start => cases no_start
  | skip => rfl
  | element a => cases no_element

/-- Items of the same kinds are cut alike only if they are the same. -/
theorem cut_first_iff (readings : List (Reading α)) :
    cut (readings.map (·.first)) = cut (wanted_items readings) ↔ ∀ r ∈ readings, r.first = r.expected := by
  induction readings with
  | nil => simp [wanted_items]
  | cons r rest ih =>
    rw [List.forall_mem_cons, ← ih, wanted_items, List.map_cons, List.map_cons, ← wanted_items]
    have same_start := r.same_start
    have same_element := r.same_element
    generalize r.first = first at same_start same_element
    generalize r.expected = expected at same_start same_element
    cases first <;> cases expected <;>
      simp_all [Item.isStart, Item.isElement, cut, Prod.ext_iff, and_assoc]

theorem cut_skips (readings : List (Reading α)) (skipped : ∀ r ∈ readings, ∀ item ∈ r.more, item = .skip) :
    cut (read_items readings) = cut (readings.map (·.first)) := by
  induction readings with
  | nil => rfl
  | cons r rest ih =>
    obtain ⟨skips, skipped_rest⟩ := List.forall_mem_cons.mp skipped
    have later : cut (r.more ++ read_items rest) = cut (rest.map (·.first)) := by
      rw [cut_append_skips _ _ skips, ih skipped_rest]
    rw [read_items, List.flatMap_cons, ← read_items, List.cons_append, List.map_cons]
    cases r.first <;> simp only [cut, later]

/-- What is read is cut as what is wanted only if every item is read as it is. -/
theorem cut_agree_iff (readings : List (Reading α)) : cut (read_items readings) = cut (wanted_items readings) ↔ ∀ r ∈ readings, Exact r := by
  constructor
  · intro same
    have starts : (read_items readings).countP Item.isStart = (wanted_items readings).countP Item.isStart := by
      rw [← cut_starts, ← cut_starts, same]
    have elements : (read_items readings).countP Item.isElement = (wanted_items readings).countP Item.isElement := by
      rw [← cut_elements, ← cut_elements, same]
    have no_start := (count_read Item.isStart readings fun r _ => r.same_start).2 starts
    have no_element := (count_read Item.isElement readings fun r _ => r.same_element).2 elements
    have skipped : ∀ r ∈ readings, ∀ item ∈ r.more, item = .skip :=
      fun r member item inside => item_skip (no_start r member item inside) (no_element r member item inside)
    rw [cut_skips readings skipped, cut_first_iff] at same
    exact fun r member => ⟨same r member, skipped r member⟩
  · intro exact
    rw [cut_skips readings fun r member => (exact r member).2, cut_first_iff]
    exact fun r member => (exact r member).1

theorem groups_append {before : List (Item α)} (no_start : .start ∉ before) (rest : List (Item α)) :
    groups (before ++ rest) = groups rest := by
  induction before with
  | nil => rfl
  | cons item before ih =>
    obtain ⟨other, none_behind⟩ := not_or.mp (mt List.mem_cons.mpr no_start)
    cases item with
    | start => exact absurd rfl other
    | skip => exact ih none_behind
    | element a => exact ih none_behind

theorem start_iff (item : Item α) : item.isStart = true ↔ item = .start := by
  cases item <;> simp [Item.isStart]

theorem groups_from_start (readings : List (Reading α)) (no_start : ∀ r ∈ readings, .start ∉ r.more) :
    groups (read_items readings) = groups (wanted_items readings) ↔
      ∀ r ∈ readings.dropWhile (fun r => !r.expected.isStart), Exact r := by
  induction readings with
  | nil => simp [read_items, wanted_items]
  | cons r rest ih =>
    obtain ⟨no_more, no_rest⟩ := List.forall_mem_cons.mp no_start
    have same_start := r.same_start
    cases starts : r.expected.isStart with
    | false =>
      rw [starts] at same_start
      have no_first : .start ∉ r.first :: r.more := by
        rw [List.mem_cons, not_or]
        exact ⟨fun same => by simp [← same, Item.isStart] at same_start, no_more⟩
      have no_expected : .start ∉ [r.expected] := by
        rw [List.mem_singleton]
        exact fun same => by simp [← same, Item.isStart] at starts
      rw [List.dropWhile_cons_of_pos (by simp [starts]), ← ih no_rest, read_items, List.flatMap_cons, ← read_items,
        groups_append no_first, wanted_items, List.map_cons, ← wanted_items]
      exact iff_of_eq (congrArg _ (groups_append no_expected (wanted_items rest)))
    | true =>
      rw [starts] at same_start
      have first := (start_iff r.first).mp same_start
      have expected := (start_iff r.expected).mp starts
      rw [List.dropWhile_cons_of_neg (by simp [starts]), ← cut_agree_iff]
      have open_read : (cut (read_items (r :: rest))).1 = [] := by
        rw [read_items, List.flatMap_cons, first, List.cons_append, cut]
      have open_wanted : (cut (wanted_items (r :: rest))).1 = [] := by
        rw [wanted_items, List.map_cons, expected, cut]
      rw [Prod.ext_iff, open_read, open_wanted, and_iff_right rfl, groups, groups]

/-- Before the first group, only starts are of interest. -/
theorem groups_agree_iff (readings : List (Reading α)) :
    groups (read_items readings) = groups (wanted_items readings) ↔
      (∀ r ∈ readings, .start ∉ r.more) ∧ ∀ r ∈ readings.dropWhile (fun r => !r.expected.isStart), Exact r := by
  constructor
  · intro same
    have starts : (read_items readings).countP Item.isStart = (wanted_items readings).countP Item.isStart := by
      rw [← cut_starts, ← cut_starts]
      exact congrArg List.length same
    have none_more := (count_read Item.isStart readings fun r _ => r.same_start).2 starts
    have no_start : ∀ r ∈ readings, .start ∉ r.more := fun r member inside => by
      simpa [Item.isStart] using none_more r member .start inside
    exact ⟨no_start, (groups_from_start readings no_start).mp same⟩
  · exact fun ⟨no_start, exact⟩ => (groups_from_start readings no_start).mpr exact

end SteamRecovery.Groups
