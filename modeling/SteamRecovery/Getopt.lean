import Mathlib.Data.List.Basic

/-!
Long options on a command line, as the C library's `getopt_long` finds them. The
name of an option may be cut short as long as it still means one option only, its
argument stands behind a `=` or is the next word, and words that are no options are
passed by. Every option that is found is a row of the table, with an argument exactly
where the row asks for one (`getopt_long_row`).
-/
namespace SteamRecovery.Getopt
variable {Val : Type}

inductive HasArg where
  | no_argument
  | required_argument
  deriving DecidableEq, Repr

/-- A row of a table of options. -/
structure LongOption (Val : Type) where
  name : String
  has_arg : HasArg
  val : Val
  deriving Repr

/-- The option that has this name, or the only one whose name begins with it. -/
def find_long (options : List (LongOption Val)) (name : List Char) : Option (LongOption Val) :=
  match options.find? fun o => o.name.toList = name with
  | some o => some o
  | none =>
    match options.filter fun o => name <+: o.name.toList with
    | [o] => some o
    | _ => none

/-- The value behind the first `=` of a word. -/
def equals_value (text : List Char) : Option String :=
  match text.dropWhile (· ≠ '=') with
  | [] => none
  | _ :: value => some (String.ofList value)

/-- What a word of a command line is. -/
inductive Word (Val : Type) where
  | no_option
  /-- The word `--`, behind which there are no options. -/
  | terminator
  /-- Options that need nothing more, or words that are not understood. -/
  | found (returned : List (Val × Option String))
  /-- An option whose argument is the next word. -/
  | without_argument (val : Val)

/-- The word behind its `--`. -/
def long_word (options : List (LongOption Val)) (invalid : Val) (text : List Char) : Word Val :=
  match find_long options (text.takeWhile (· ≠ '=')) with
  | none => .found [(invalid, none)]
  | some o =>
    match o.has_arg, equals_value text with
    | .no_argument, none => .found [(o.val, none)]
    | .no_argument, some _ => .found [(invalid, none)]
    | .required_argument, some value => .found [(o.val, some value)]
    | .required_argument, none => .without_argument o.val

/-- No single letter is an option. -/
def scan_word (options : List (LongOption Val)) (invalid : Val) (word : List Char) : Word Val :=
  match word with
  | ['-', '-'] => .terminator
  | '-' :: '-' :: text => long_word options invalid text
  | '-' :: letter :: letters => .found ((letter :: letters).map fun _ => (invalid, none))
  | _ => .no_option

/-- What the calls of `getopt_long` return for the words of a command line, each with
    `optarg`, up to the call that returns -1. -/
def getopt_long (options : List (LongOption Val)) (invalid : Val) : List String → List (Val × Option String)
  | [] => []
  | word :: rest =>
    match scan_word options invalid word.toList with
    | .terminator => []
    | .no_option => getopt_long options invalid rest
    | .found returned => returned ++ getopt_long options invalid rest
    | .without_argument val =>
      match rest with
      | [] => [(invalid, none)]
      | value :: later => (val, some value) :: getopt_long options invalid later

theorem find_long_mem {options : List (LongOption Val)} {name : List Char} {o : LongOption Val}
    (found : find_long options name = some o) : o ∈ options := by
  unfold find_long at found
  split at found
  · rename_i same
    cases found
    exact List.mem_of_find?_eq_some same
  · split at found
    · rename_i only
      cases found
      exact List.mem_of_mem_filter (only ▸ List.mem_singleton_self o)
    · cases found

/-- What is found stands in the table, and has an argument where it should have one. -/
def Row (options : List (LongOption Val)) (found : Val × Option String) : Prop :=
  ∃ o ∈ options, found.1 = o.val ∧ (found.2.isSome ↔ o.has_arg = .required_argument)

/-- Whatever the word brings stands in the table. -/
def Word.FromRows (options : List (LongOption Val)) (invalid : Val) : Word Val → Prop
  | .found returned => ∀ found ∈ returned, found = (invalid, none) ∨ Row options found
  | .without_argument val => ∀ value, Row options (val, some value)
  | _ => True

variable {options : List (LongOption Val)} {invalid : Val}

theorem fromRows_invalid : (Word.found [(invalid, none)]).FromRows options invalid :=
  fun _ member => .inl (List.mem_singleton.mp member)

theorem fromRows_row {found : Val × Option String} (row : Row options found) :
    (Word.found [found]).FromRows options invalid :=
  fun _ member => .inr (List.mem_singleton.mp member ▸ row)

theorem long_word_rows (text : List Char) : (long_word options invalid text).FromRows options invalid := by
  unfold long_word
  split
  · exact fromRows_invalid
  · rename_i o known
    have row : o ∈ options := find_long_mem known
    split
    · rename_i kind _
      exact fromRows_row ⟨o, row, rfl, by simp [kind]⟩
    · exact fromRows_invalid
    · rename_i kind _
      exact fromRows_row ⟨o, row, rfl, by simp [kind]⟩
    · rename_i kind _
      exact fun value => ⟨o, row, rfl, by simp [kind]⟩

theorem scan_word_rows (word : List Char) : (scan_word options invalid word).FromRows options invalid := by
  unfold scan_word
  split
  · trivial
  · exact long_word_rows _
  · intro found member
    obtain ⟨_, _, rfl⟩ := List.mem_map.mp member
    exact .inl rfl
  · trivial

theorem getopt_long_row {words : List String}
    {found : Val × Option String} (member : found ∈ getopt_long options invalid words) :
    found = (invalid, none) ∨ Row options found := by
  fun_induction getopt_long options invalid words with
  | case1 => cases member
  | case2 word rest stops => cases member
  | case3 word rest passed ih => exact ih member
  | case4 word rest returned here ih =>
    have row : (scan_word options invalid word.toList).FromRows options invalid := scan_word_rows word.toList
    rw [here] at row
    rcases List.mem_append.mp member with first | later
    · exact row found first
    · exact ih later
  | case5 word val here => exact .inl (List.mem_singleton.mp member)
  | case6 word val here value later ih =>
    have row : (scan_word options invalid word.toList).FromRows options invalid := scan_word_rows word.toList
    rw [here] at row
    rcases List.mem_cons.mp member with rfl | behind
    · exact .inr (row value)
    · exact ih behind

end SteamRecovery.Getopt
