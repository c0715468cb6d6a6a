import Mathlib.Data.List.Basic
import Mathlib.Data.List.Flatten

/-!
Paths in a tree of directories. A path is a text of names with slashes between them,
where any number of slashes counts as one (`components`). What is appended to the
text of a directory, which ends in a slash, is found inside it
(`components_inside`).
-/
namespace SteamRecovery.Paths

/-- A name in a directory. -/
structure Name where
  text : List Char
  some_char : text ≠ []
  no_slash : '/' ∉ text
  no_nul : '\x00' ∉ text

inductive Node where
  | file
  | directory (entries : List (Name × Node))

/-- The names in a path. -/
def components (path : List Char) : List (List Char) := (path.splitOn '/').filter (· ≠ [])

/-- What is found behind these names. -/
def lookup : Node → List (List Char) → Option Node
  | node, [] => some node
  | .file, _ :: _ => none
  | .directory entries, name :: rest =>
    match entries.find? fun entry => entry.1.text = name with
    | some entry => lookup entry.2 rest
    | none => none

/-- The path to a place in the tree. -/
def absolute (place : List (List Char)) : List Char := place.flatMap fun name => '/' :: name

/-- Names with a slash behind each of them. -/
def below (names : List (List Char)) : List Char := names.flatMap fun name => name ++ ['/']

/-- The text may be a name. -/
def IsName (text : List Char) : Prop := text ≠ [] ∧ '/' ∉ text

theorem Name.isName (name : Name) : IsName name.text := ⟨name.some_char, name.no_slash⟩

theorem components_slash (path : List Char) : components ('/' :: path) = components path := by
  rw [components, List.splitOn_cons_eq_if_modifyHead, if_pos (beq_self_eq_true '/'), List.filter_cons_of_neg (by simp)]
  rfl

theorem components_name {name : List Char} (is_name : IsName name) (path : List Char) :
    components (name ++ '/' :: path) = name :: components path := by
  rw [components, List.splitOn_append_cons_self_of_not_mem is_name.2, List.filter_cons_of_pos (by simpa using is_name.1)]
  rfl

theorem below_append (first second : List (List Char)) : below (first ++ second) = below first ++ below second :=
  List.flatMap_append

theorem below_concat (names : List (List Char)) (name : List Char) :
    below (names ++ [name]) = below names ++ name ++ ['/'] := by
  simp [below]

/-- A path that begins with the text of a directory goes through that directory. -/
theorem components_inside {names : List (List Char)} (are_names : ∀ name ∈ names, IsName name) (path : List Char) :
    components (below names ++ path) = names ++ components path := by
  induction names with
  | nil => rfl
  | cons name rest ih =>
    have whole : below (name :: rest) ++ path = name ++ '/' :: (below rest ++ path) := by
      simp [below]
    rw [whole, components_name (are_names name List.mem_cons_self),
      ih fun n member => are_names n (List.mem_cons_of_mem name member), List.cons_append]

theorem absolute_below (names : List (List Char)) (last : List Char) :
    absolute (names ++ [last]) = '/' :: below names ++ last := by
  induction names with
  | nil => simp [absolute, below]
  | cons name rest ih =>
    have step : absolute (name :: rest ++ [last]) = '/' :: name ++ absolute (rest ++ [last]) := rfl
    rw [step, ih]
    simp [below]

/-- An entry of a directory is found behind it. -/
theorem lookup_entry {root : Node} {place : List (List Char)} {entries : List (Name × Node)}
    (found : lookup root place = some (.directory entries)) {name : Name} {node : Node} (entry : (name, node) ∈ entries) :
    ∃ node, lookup root (place ++ [name.text]) = some node := by
  induction place generalizing root with
  | nil =>
    cases found
    obtain ⟨first, here⟩ : ∃ first, entries.find? (fun e => decide (e.1.text = name.text)) = some first :=
      Option.isSome_iff_exists.mp (List.find?_isSome.mpr ⟨(name, node), entry, decide_eq_true rfl⟩)
    refine ⟨first.2, ?_⟩
    rw [List.nil_append, lookup, here]
    rfl
  | cons step place ih =>
    cases root with
    | file => cases found
    | directory inside =>
      rw [lookup] at found
      rw [List.cons_append, lookup]
      cases next : inside.find? fun entry => decide (entry.1.text = step) with
      | none =>
        rw [next] at found
        cases found
      | some entry_here =>
        rw [next] at found
        exact ih found

end SteamRecovery.Paths
