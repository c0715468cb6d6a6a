import Mathlib.Data.List.Basic
import Mathlib.Data.List.Enum
import Mathlib.Tactic.Tauto

/-!
Mount tables, newest volume first. `umount x` removes the newest volume whose
source or target is `x` and leaves the table alone where there is none. A
sequence of umounts, each of which may fail, takes exactly the volumes that
`Taken` describes on the table before it (`mem_teardown`).
-/
namespace SteamRecovery.MountTables
universe u
variable {Name : Type u} [DecidableEq Name]

/-- What is mounted, and where. -/
structure Volume (Name : Type u) where
  source : Name
  target : Name
  deriving DecidableEq, Repr

/-- A name stands for a volume that is mounted from it or at it. -/
def Volume.mentions (x : Name) (v : Volume Name) : Bool := v.source = x ∨ v.target = x

/-- Something is mounted at the target. -/
def mounted_at (target : Name) (table : List (Volume Name)) : Bool := table.any fun v => v.target = target

theorem mounted_at_iff {target : Name} {table : List (Volume Name)} :
    mounted_at target table = true ↔ ∃ v ∈ table, v.target = target := by
  simp only [mounted_at, List.any_eq_true, decide_eq_true_eq]

def umount (x : Name) (table : List (Volume Name)) : List (Volume Name) := table.eraseP (Volume.mentions x)

theorem umount_absent {x : Name} {table : List (Volume Name)} (absent : ∀ v ∈ table, v.mentions x = false) :
    umount x table = table :=
  List.eraseP_of_forall_not fun v member => by simp [absent v member]

theorem umount_newest {x : Name} {v : Volume Name} (table : List (Volume Name)) (named : v.mentions x = true) :
    umount x (v :: table) = table :=
  List.eraseP_cons_of_pos named

theorem umount_older {x : Name} {v : Volume Name} (table : List (Volume Name)) (other : v.mentions x = false) :
    umount x (v :: table) = v :: umount x table :=
  List.eraseP_cons_of_neg (by simp [other])

theorem umount_append_left {x : Name} {v : Volume Name} {above : List (Volume Name)} (below : List (Volume Name))
    (member : v ∈ above) (named : v.mentions x = true) : umount x (above ++ below) = umount x above ++ below :=
  List.eraseP_append_left named below member

theorem umount_append_right {x : Name} {above : List (Volume Name)} (below : List (Volume Name))
    (absent : ∀ v ∈ above, v.mentions x = false) : umount x (above ++ below) = above ++ umount x below :=
  List.eraseP_append_right below fun v member => by simp [absent v member]

/-- An umount of a name that no older volume mentions leaves the older ones alone. -/
theorem umount_append_clear {x : Name} (above : List (Volume Name)) {below : List (Volume Name)}
    (clear : ∀ v ∈ below, v.mentions x = false) : umount x (above ++ below) = umount x above ++ below := by
  by_cases present : ∃ v ∈ above, v.mentions x = true
  · obtain ⟨v, member, named⟩ := present
    exact umount_append_left below member named
  · have absent : ∀ v ∈ above, v.mentions x = false := by simpa using present
    rw [umount_append_right below absent, umount_absent clear, umount_absent absent]

/-! ### Sequences of umounts -/

/-- The table after umounts of the names, the last of them at the head of the
    list; those that are not `ok` fail and change nothing. -/
def teardown (ok : Name → Bool) (table : List (Volume Name)) : List Name → List (Volume Name)
  | [] => table
  | x :: earlier => if ok x then umount x (teardown ok table earlier) else teardown ok table earlier

/-- The volume at position `i` of the table is removed by one of the umounts: the
    umount of a name takes its newest volume that no earlier umount has taken. -/
def Taken (ok : Name → Bool) (table : List (Volume Name)) : List Name → Nat → Prop
  | [], _ => False
  | x :: earlier, i => Taken ok table earlier i ∨
      (ok x = true ∧ (∃ v, table[i]? = some v ∧ v.mentions x = true) ∧
        ∀ j < i, ∀ w, table[j]? = some w → w.mentions x = true → Taken ok table earlier j)

open Classical in
/-- Erasing the first element with a property among those that are kept. -/
private theorem eraseP_kept {α : Type u} (p : α → Bool) (kept : Nat → Prop) (list : List α) (n : Nat) :
    ((list.zipIdx n).filter fun a => decide (kept a.2)).eraseP (p ∘ Prod.fst) =
      (list.zipIdx n).filter fun a => decide (kept a.2 ∧
        ¬ (p a.1 = true ∧ ∀ b ∈ list.zipIdx n, b.2 < a.2 → p b.1 = true → ¬ kept b.2)) := by
  induction list generalizing n with
  | nil => rfl
  | cons x rest ih =>
    have later : ∀ a ∈ rest.zipIdx (n+1), n < a.2 := fun a member => List.le_snd_of_mem_zipIdx member
    rw [List.zipIdx_cons]
    by_cases keep : kept n
    · by_cases first : p x = true
      · have erased : (p ∘ Prod.fst) (x, n) = true := first
        rw [List.filter_cons_of_pos (by simpa using keep), List.eraseP_cons_of_pos erased, List.filter_cons_of_neg]
        · apply List.filter_congr
          intro a member
          simp only [decide_eq_decide, iff_self_and]
          rintro _ ⟨_, none⟩
          exact none (x, n) List.mem_cons_self (later a member) first keep
        · rw [decide_eq_true_eq]
          rintro ⟨_, notFirst⟩
          refine notFirst ⟨first, fun b member less => ?_⟩
          rcases List.mem_cons.mp member with rfl | member
          · omega
          · have := later b member
            omega
      · have spared : ¬ (p ∘ Prod.fst) (x, n) = true := first
        rw [List.filter_cons_of_pos (by simpa using keep), List.eraseP_cons_of_neg spared, ih,
          List.filter_cons_of_pos (by simp [keep, first])]
        congr 1
        apply List.filter_congr
        intro a _
        simp [first]
    · rw [List.filter_cons_of_neg (by simpa using keep), ih, List.filter_cons_of_neg (by simp [keep])]
      apply List.filter_congr
      intro a _
      simp [keep]

open Classical in
theorem teardown_eq (ok : Name → Bool) (table : List (Volume Name)) (names : List Name) :
    teardown ok table names =
      ((table.zipIdx).filter fun a => decide (¬ Taken ok table names a.2)).map Prod.fst := by
  induction names with
  | nil => simp [teardown, Taken]
  | cons x earlier ih =>
    by_cases works : ok x = true
    · simp only [teardown, works, ↓reduceIte, umount, ih, List.eraseP_map]
      have erased := eraseP_kept (Volume.mentions x) (fun i => ¬ Taken ok table earlier i) table 0
      refine congrArg (List.map Prod.fst) (Eq.trans (by convert erased) (List.filter_congr ?_))
      intro a member
      have place : table[a.2]? = some a.1 := List.mem_zipIdx_iff_getElem?.mp member
      simp only [decide_eq_decide, Taken, works, true_and, not_or, not_not, place, Option.some.injEq,
        exists_eq_left', Prod.forall, List.mem_zipIdx_iff_getElem?]
      constructor
      · rintro ⟨free, notFirst⟩
        exact ⟨free, fun first => notFirst ⟨first.1, fun w j found less => first.2 j less w found⟩⟩
      · rintro ⟨free, notFirst⟩
        exact ⟨free, fun first => notFirst ⟨first.1, fun j less w found => first.2 w j found less⟩⟩
    · simp [teardown, works, ih, Taken]

/-- What a sequence of umounts leaves. -/
theorem mem_teardown {ok : Name → Bool} {table : List (Volume Name)} {names : List Name} {v : Volume Name} :
    v ∈ teardown ok table names ↔ ∃ i, table[i]? = some v ∧ ¬ Taken ok table names i := by
  classical
  simp only [teardown_eq, List.mem_map, List.mem_filter, decide_eq_true_eq, Prod.exists, exists_and_right,
    exists_eq_right, List.mem_zipIdx_iff_getElem?]

end SteamRecovery.MountTables
