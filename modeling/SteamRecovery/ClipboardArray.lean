import SteamRecovery.Fifo
import SteamRecovery.FileManager
import SteamRecovery.OrderedSets

/-!
The array behind the clipboard of the file manager (`steamext.c`): pointers to paths, and
their number beside it. Every call leaves in it what the list of the file manager has
(`add_holds`, `remove_holds`, `clear_holds`), so over any calls it is a set that keeps
the order in which the paths were added (`clipboard_ordered_set`).
-/
namespace SteamRecovery.ClipboardArray
open SteamRecovery.Fifo (run run_last)
open SteamRecovery.OrderedSets

/-- A block of pointers. One that was not written yet, or whose path was freed, points
    nowhere. -/
abbrev Block := List (Option String)

structure Clipboard where
  clipboard : Block
  clipboardlen : Nat

/-- `char** clipboard = NULL; int clipboardlen = 0;` -/
def empty : Clipboard := ⟨[], 0⟩

def malloc (n : Nat) : Block := List.replicate n none

def realloc (block : Block) (n : Nat) : Block := block.take n ++ List.replicate (n - block.length) none

/-- The path that a pointer of the block leads to. -/
def path (block : Block) (i : Nat) : Option String := block[i]?.join

/-- `block[i] = p`, unless that is outside the block. -/
def store (block : Block) (i : Nat) (p : Option String) : Option Block :=
  if i < block.length then some (block.set i p) else none

/-- The loop of `checkclipboard`, with `n` indices left from `i` on. -/
def check_loop (block : Block) (name : String) : Nat → Nat → Option Bool
  | 0, _ => some false
  | n + 1, i => (path block i).bind fun p => if p = name then some true else check_loop block name n (i + 1)

def checkclipboard (c : Clipboard) (name : String) : Option Bool :=
  if c.clipboardlen ≠ 0 then check_loop c.clipboard name c.clipboardlen 0 else some false

def addclipboard (c : Clipboard) (name : String) : Option Clipboard :=
  (checkclipboard c name).bind fun found =>
    if found then some c
    else if c.clipboardlen ≠ 0 then
      (store (realloc c.clipboard (c.clipboardlen + 1)) c.clipboardlen (some name)).map fun clipboard =>
        ⟨clipboard, c.clipboardlen + 1⟩
    else (store (malloc 1) 0 (some name)).map fun clipboard => ⟨clipboard, 1⟩

/-- The loop that looks for the path, and the last index where it was found. -/
def find_loop (block : Block) (name : String) : Nat → Nat → Option Nat → Option (Option Nat)
  | 0, _, found => some found
  | n + 1, i, found => (path block i).bind fun p => find_loop block name n (i + 1) (if p = name then some i else found)

/-- The loop that moves the pointers behind the path down by one. -/
def shift_loop : Nat → Nat → Block → Option Block
  | 0, _, block => some block
  | n + 1, i, block => block[i]?.bind fun p => (store block (i - 1) p).bind (shift_loop n (i + 1))

def removeclipboard (c : Clipboard) (name : String) : Option Clipboard :=
  (find_loop c.clipboard name c.clipboardlen 0 none).bind fun found =>
    match found with
    | some is =>
      -- `free((*clipboard)[is])`
      (store c.clipboard is none).bind fun clipboard =>
        (shift_loop (c.clipboardlen - (is + 1)) (is + 1) clipboard).map fun clipboard =>
          ⟨realloc clipboard (c.clipboardlen - 1), c.clipboardlen - 1⟩
    | none => some c

/-- The paths and the block are freed. -/
def clearclipboard (c : Clipboard) : Option Clipboard :=
  if c.clipboardlen ≠ 0 then
    if ∀ i < c.clipboardlen, path c.clipboard i ≠ none then some ⟨[], 0⟩ else none
  else some c

/-! ### The list in the array -/

/-- The array has the paths of the list, and nothing else. -/
structure Holds (c : Clipboard) (paths : List String) : Prop where
  clipboard : c.clipboard = paths.map some
  clipboardlen : c.clipboardlen = paths.length

theorem no_paths {paths : List String} (none_stored : ¬ paths.length ≠ 0) : paths = [] :=
  List.length_eq_zero_iff.mp (Decidable.not_not.mp none_stored)

theorem path_some (paths : List String) (i : Nat) : path (paths.map some) i = paths[i]? := by
  rw [path, List.getElem?_map]
  cases paths[i]? <;> rfl

theorem path_here (done : List String) (p : String) (rest : List String) :
    path ((done ++ p :: rest).map some) done.length = some p := by
  rw [path_some, List.getElem?_append_right (Nat.le_refl _), Nat.sub_self, List.getElem?_cons_zero]

theorem check_loop_list (done rest : List String) (name : String) :
    check_loop ((done ++ rest).map some) name rest.length done.length = some (decide (name ∈ rest)) := by
  induction rest generalizing done with
  | nil => simp [check_loop]
  | cons p rest ih =>
    have behind := ih (done ++ [p])
    rw [← List.append_cons, List.length_append, List.length_singleton] at behind
    rw [List.length_cons, check_loop, path_here, Option.bind_some]
    by_cases same : p = name
    · simp [same]
    · rw [if_neg same, behind]
      simp [Ne.symm same]

theorem check_holds {c : Clipboard} {paths : List String} (holds : Holds c paths) (name : String) :
    checkclipboard c name = some (FileManager.checkclipboard paths name) := by
  rw [checkclipboard, holds.clipboard, holds.clipboardlen, FileManager.checkclipboard]
  split
  · exact check_loop_list [] paths name
  · rename_i none_stored
    rw [no_paths none_stored]
    rfl

theorem add_holds {c : Clipboard} {paths : List String} (holds : Holds c paths) (name : String) :
    ∃ c', addclipboard c name = some c' ∧ Holds c' (FileManager.addclipboard paths name) := by
  rw [addclipboard, check_holds holds, Option.bind_some, FileManager.addclipboard]
  split
  · exact ⟨c, rfl, holds⟩
  · rw [holds.clipboard, holds.clipboardlen]
    split
    · have grown : realloc (paths.map some) (paths.length + 1) = paths.map some ++ [none] := by
        rw [realloc, List.length_map, List.take_of_length_le (by simp), Nat.add_sub_cancel_left]
        rfl
      have stored : store (paths.map some ++ [none]) paths.length (some name) = some ((paths ++ [name]).map some) := by
        simp [store]
      rw [grown, stored]
      exact ⟨_, rfl, rfl, by simp⟩
    · rename_i none_stored
      obtain rfl := no_paths none_stored
      exact ⟨_, rfl, rfl, rfl⟩

theorem clear_holds {c : Clipboard} {paths : List String} (holds : Holds c paths) :
    ∃ c', clearclipboard c = some c' ∧ Holds c' [] := by
  rw [clearclipboard]
  split
  · refine ⟨⟨[], 0⟩, if_pos fun i inside => ?_, rfl, rfl⟩
    rw [holds.clipboardlen] at inside
    rw [holds.clipboard, path_some, List.getElem?_eq_getElem inside]
    simp
  · rename_i none_stored
    rw [holds.clipboardlen] at none_stored
    exact ⟨c, rfl, no_paths none_stored ▸ holds⟩

theorem find_loop_absent {rest : List String} {name : String} (absent : name ∉ rest) (done : List String)
    (found : Option Nat) :
    find_loop ((done ++ rest).map some) name rest.length done.length found = some found := by
  induction rest generalizing done with
  | nil => rfl
  | cons p rest ih =>
    rw [List.mem_cons, not_or] at absent
    have behind := ih absent.2 (done ++ [p])
    rw [← List.append_cons, List.length_append, List.length_singleton] at behind
    rw [List.length_cons, find_loop, path_here, Option.bind_some, if_neg (Ne.symm absent.1), behind]

/-- The last index where the path stands is the one that is kept. -/
theorem find_loop_last {front back : List String} {name : String} (last : name ∉ back) (done : List String)
    (found : Option Nat) :
    find_loop ((done ++ (front ++ name :: back)).map some) name (front ++ name :: back).length done.length found =
      some (some (done.length + front.length)) := by
  induction front generalizing done found with
  | nil =>
    have behind := find_loop_absent last (done ++ [name]) (some done.length)
    rw [← List.append_cons, List.length_append, List.length_singleton] at behind
    rw [List.nil_append, List.length_cons, find_loop, path_here, Option.bind_some, if_pos rfl, behind]
    rfl
  | cons p front ih =>
    have behind := ih (done ++ [p]) (if p = name then some done.length else found)
    have next : (done ++ [p]).length = done.length + 1 := by simp
    rw [← List.append_cons, next] at behind
    rw [List.cons_append, List.length_cons, find_loop, path_here, Option.bind_some, behind, List.length_cons,
      Nat.add_assoc, Nat.add_comm 1]

/-- The pointers behind the hole move into it, and the last one is left twice. -/
theorem shift_loop_block (front back : Block) (hole : Option String) :
    ∃ last, shift_loop back.length (front.length + 1) (front ++ hole :: back) = some (front ++ back ++ [last]) := by
  induction back generalizing front hole with
  | nil => exact ⟨hole, by simp [shift_loop]⟩
  | cons p back ih =>
    obtain ⟨last, shifted⟩ := ih (front ++ [p]) p
    refine ⟨last, ?_⟩
    have here : (front ++ hole :: p :: back)[front.length + 1]? = some p := by
      rw [List.getElem?_append_right (by omega)]
      simp
    have stored : store (front ++ hole :: p :: back) front.length p = some (front ++ p :: p :: back) := by
      simp [store]
    rw [List.length_append, List.length_singleton, ← List.append_cons] at shifted
    rw [List.length_cons, shift_loop, here, Option.bind_some, Nat.add_sub_cancel, stored, Option.bind_some, shifted]
    simp

/-- What is left of the list without the last place where the path stands. -/
theorem removed_list {front back : List String} {name : String} (last : name ∉ back) :
    FileManager.removeclipboard (front ++ name :: back) name = front ++ back := by
  have absent : name ∉ back.reverse := fun member => last (List.mem_reverse.mp member)
  rw [FileManager.removeclipboard, List.reverse_append, List.reverse_cons, List.append_assoc,
    List.erase_append_right _ absent, List.singleton_append, List.erase_cons_head, ← List.reverse_append,
    List.reverse_reverse]

theorem last_place {paths : List String} {name : String} (listed : name ∈ paths) :
    ∃ front back, paths = front ++ name :: back ∧ name ∉ back := by
  obtain ⟨before, behind, split, absent⟩ := List.eq_append_cons_of_mem (List.mem_reverse.mpr listed)
  refine ⟨behind.reverse, before.reverse, ?_, fun member => absent (List.mem_reverse.mp member)⟩
  rw [← List.reverse_reverse paths, split]
  simp

theorem remove_holds {c : Clipboard} {paths : List String} (holds : Holds c paths) (name : String) :
    ∃ c', removeclipboard c name = some c' ∧ Holds c' (FileManager.removeclipboard paths name) := by
  rw [removeclipboard, holds.clipboard, holds.clipboardlen]
  by_cases listed : name ∈ paths
  · obtain ⟨front, back, rfl, last⟩ := last_place listed
    have found : find_loop ((front ++ name :: back).map some) name (front ++ name :: back).length 0 none =
        some (some (0 + front.length)) := find_loop_last last [] none
    rw [Nat.zero_add] at found
    have freed : store ((front ++ name :: back).map some) front.length none =
        some (front.map some ++ none :: back.map some) := by
      simp [store]
    obtain ⟨rest, shifted⟩ := shift_loop_block (front.map some) (back.map some) none
    rw [List.length_map, List.length_map] at shifted
    have left : (front ++ name :: back).length - (front.length + 1) = back.length := by
      rw [List.length_append, List.length_cons]
      omega
    have fewer : (front ++ name :: back).length - 1 = (front ++ back).length := by
      rw [List.length_append, List.length_append, List.length_cons]
      omega
    rw [found, Option.bind_some]
    dsimp only
    rw [freed, Option.bind_some, left, shifted, removed_list last, fewer]
    have cut : realloc (front.map some ++ back.map some ++ [rest]) (front ++ back).length = (front ++ back).map some := by
      rw [realloc, ← List.map_append, List.take_append_of_le_length (by simp), List.take_of_length_le (by simp)]
      simp
    exact ⟨_, rfl, cut, rfl⟩
  · have missed := find_loop_absent listed [] none
    rw [List.nil_append, List.length_nil] at missed
    rw [missed, (FileManager.removeclipboard_same paths name).mpr listed]
    exact ⟨c, rfl, holds⟩

/-! ### Calls -/

def step (c : Clipboard) : Call String → Option Clipboard
  | .add name => addclipboard c name
  | .remove name => removeclipboard c name
  | .clear => clearclipboard c

/-- The clipboard is what its calls have made of it. -/
structure OrderedSet (calls : List (Call String)) (c : Clipboard) (paths : List String) : Prop where
  stored : c.clipboard = paths.map some
  clipboardlen : c.clipboardlen = paths.length
  distinct : paths.Nodup
  check : ∀ name, ∃ found, checkclipboard c name = some found ∧ (found = true ↔ Added calls name)
  order : paths.Pairwise (Before calls)

/-- The list of the file manager is an ordered set. -/
theorem list_after {paths : List String} (distinct : paths.Nodup) (name : String) :
    FileManager.addclipboard paths name = after paths (.add name) ∧
      FileManager.removeclipboard paths name = after paths (.remove name) := by
  constructor
  · simp [FileManager.addclipboard, FileManager.checkclipboard, after]
  · rw [after]
    by_cases listed : name ∈ paths
    · obtain ⟨front, back, rfl, last⟩ := last_place listed
      have first : name ∉ front := fun member =>
        (List.nodup_append.mp distinct).2.2 name member name List.mem_cons_self rfl
      rw [removed_list last, List.erase_append_right _ first, List.erase_cons_head]
    · rw [(FileManager.removeclipboard_same paths name).mpr listed, List.erase_of_not_mem listed]

theorem step_holds {c : Clipboard} {paths : List String} (holds : Holds c paths) (distinct : paths.Nodup)
    (call : Call String) : ∃ c', step c call = some c' ∧ Holds c' (after paths call) := by
  cases call with
  | add name => exact (list_after distinct name).1 ▸ add_holds holds name
  | remove name => exact (list_after distinct name).2 ▸ remove_holds holds name
  | clear => exact clear_holds holds

theorem run_holds (calls : List (Call String)) : ∃ c, run step empty calls = some c ∧ Holds c (contents calls) := by
  induction calls using List.reverseRecOn with
  | nil => exact ⟨empty, rfl, rfl, rfl⟩
  | append_singleton calls call ih =>
    obtain ⟨c, ran, holds⟩ := ih
    rw [run_last ran, contents_append]
    exact step_holds holds (contents_nodup calls) call

/-- Over any calls the clipboard is a set that keeps the order in which its paths were
    added. -/
theorem clipboard_ordered_set (calls : List (Call String)) :
    ∃ c paths, run step empty calls = some c ∧ OrderedSet calls c paths := by
  obtain ⟨c, ran, holds⟩ := run_holds calls
  refine ⟨c, contents calls, ran, holds.clipboard, holds.clipboardlen, contents_nodup calls, fun name => ?_,
    contents_order calls⟩
  refine ⟨_, check_holds holds name, ?_⟩
  rw [FileManager.checkclipboard, decide_eq_true_eq]
  exact mem_contents calls name

end SteamRecovery.ClipboardArray
