import Mathlib.Data.Nat.Find
import Mathlib.Logic.Function.Basic

/-!
Tables of file descriptors. New descriptors are the lowest that are free, so that those
of several pipes are in order, each free before (`pipe_spec`).
-/
namespace SteamRecovery.Descriptors

/-- What each descriptor refers to. Only finitely many are open. -/
structure Table (File : Type) where
  ref : Nat → Option File
  finite : ∃ n, ∀ fd, n ≤ fd → ref fd = none

variable {File : Type}

@[ext]
theorem Table.ext {t t' : Table File} (same : ∀ fd, t.ref fd = t'.ref fd) : t = t' := by
  obtain ⟨ref, _⟩ := t
  obtain ⟨ref', _⟩ := t'
  obtain rfl : ref = ref' := funext same
  rfl

def Table.put (t : Table File) (fd : Nat) (file : Option File) : Table File where
  ref := Function.update t.ref fd file
  finite := by
    obtain ⟨n, free⟩ := t.finite
    refine ⟨max n (fd + 1), fun other above => ?_⟩
    rw [Function.update_of_ne (by omega)]
    exact free other (by omega)

/-- The same descriptors refer to other files. -/
def Table.map {Other : Type} (f : File → Other) (t : Table File) : Table Other where
  ref fd := (t.ref fd).map f
  finite := by
    obtain ⟨n, free⟩ := t.finite
    exact ⟨n, fun fd above => by rw [free fd above, Option.map_none]⟩

section
variable (t : Table File) {fd other : Nat} (file : Option File)

theorem Table.ref_put : (t.put fd file).ref other = if other = fd then file else t.ref other :=
  Function.update_apply ..

@[simp] theorem Table.ref_put_self : (t.put fd file).ref fd = file := Function.update_self ..

theorem Table.ref_put_ne (apart : other ≠ fd) : (t.put fd file).ref other = t.ref other := Function.update_of_ne apart ..

end

/-! ### New descriptors -/

theorem some_free (t : Table File) : ∃ fd, t.ref fd = none := by
  obtain ⟨n, free⟩ := t.finite
  exact ⟨n, free n (Nat.le_refl n)⟩

def lowest_free (t : Table File) : Nat := Nat.find (some_free t)

theorem lowest_free_spec (t : Table File) : t.ref (lowest_free t) = none ∧ ∀ fd < lowest_free t, t.ref fd ≠ none :=
  ⟨Nat.find_spec (some_free t), fun _ below => Nat.find_min (some_free t) below⟩

/-- The two ends of a pipe, and the table with them. -/
def pipe (t : Table File) (read_end write_end : File) : (Nat × Nat) × Table File :=
  let read := lowest_free t
  let with_read := t.put read (some read_end)
  let write := lowest_free with_read
  ((read, write), with_read.put write (some write_end))

/-- Every descriptor below this one is open. -/
def OpenBelow (t : Table File) (n : Nat) : Prop := ∀ fd < n, t.ref fd ≠ none

/-- The read end comes first, both were free, and none is free below them. -/
structure PipeOpened (t : Table File) (read_end write_end : File) (ends : Nat × Nat) (t' : Table File) : Prop where
  ordered : ends.1 < ends.2
  read_free : t.ref ends.1 = none
  write_free : t.ref ends.2 = none
  table : t' = (t.put ends.1 (some read_end)).put ends.2 (some write_end)
  below : OpenBelow t' (ends.2 + 1)

theorem pipe_spec (t : Table File) (read_end write_end : File) :
    PipeOpened t read_end write_end (pipe t read_end write_end).1 (pipe t read_end write_end).2 := by
  obtain ⟨read_free, below_read⟩ := lowest_free_spec t
  obtain ⟨write_free, below_write⟩ := lowest_free_spec (t.put (lowest_free t) (some read_end))
  unfold pipe
  dsimp only
  generalize lowest_free (t.put (lowest_free t) (some read_end)) = write at write_free below_write ⊢
  generalize lowest_free t = read at *
  have apart : write ≠ read := by
    rintro rfl
    simp at write_free
  have free : t.ref write = none := by rwa [Table.ref_put_ne _ _ apart] at write_free
  have ordered : read < write := by
    by_contra behind
    exact below_read write (by omega) free
  refine ⟨ordered, read_free, free, rfl, ?_⟩
  intro fd below
  by_cases last : fd = write
  · simp [last]
  · rw [Table.ref_put_ne _ _ last]
    exact below_write fd (by omega)

/-- A descriptor that is free is behind all that are open below a bound. -/
theorem free_above {t : Table File} {n fd : Nat} (below : OpenBelow t n) (free : t.ref fd = none) : n ≤ fd := by
  by_contra inside
  exact below fd (by omega) free

/-! ### Other calls -/

/-- `dup2` does nothing where `from` is not open. -/
def dup2 (t : Table File) (oldfd newfd : Nat) : Table File :=
  match t.ref oldfd with
  | none => t
  | some file => t.put newfd (some file)

def close (t : Table File) (fd : Nat) : Table File := t.put fd none

theorem dup2_open {t : Table File} {oldfd : Nat} {file : File} (here : t.ref oldfd = some file) (newfd : Nat) :
    dup2 t oldfd newfd = t.put newfd (some file) := by
  rw [dup2, here]

end SteamRecovery.Descriptors
