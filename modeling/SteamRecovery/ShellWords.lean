import Mathlib.Algebra.Ring.Nat
import Mathlib.Data.List.Basic
import Mathlib.Data.List.Nodup
import Mathlib.Data.List.Count
import Mathlib.Algebra.BigOperators.Group.List.Basic

/-!
How a shell splits a line into the words of one command: blanks, quotes, parameters,
fields and patterns. Words with single blanks between them come out as they are, in any
environment and with any files, exactly where each is literal (`argv_exact_iff`).
-/
namespace SteamRecovery.ShellWords

/-! ### Words -/

/-- What a word is made of. A quoted character is taken as it is, and quotes make a word
    even where there is nothing between them. -/
inductive Piece where
  | char (c : Char) (quoted : Bool)
  | quote
  | param (name : List Char) (quoted : Bool)
  deriving DecidableEq

abbrev Word := List Piece

def is_blank (c : Char) : Bool := c = ' ' || c = '\t'

/-- Newlines, operators, and the start of a command substitution. -/
def ends_command (c : Char) : Bool := "\n|&;<>()\x60".toList.contains c

def is_name_char (c : Char) : Bool := c.isAlphanum || c = '_'

/-- The parameters with names of one character. -/
def is_special (c : Char) : Bool := c.isDigit || "@*#?-$!".toList.contains c

/-- What makes a `$` in front of it more than a character. -/
def starts_parameter : List Char → Bool
  | [] => false
  | c :: _ => is_name_char c || is_special c || c = '{' || c = '('

def continues_name : List Char → Bool
  | [] => false
  | c :: _ => is_name_char c

inductive Mode where
  | plain
  | escape
  | single
  | double
  | double_escape
  | dollar (quoted : Bool)
  | name (quoted : Bool) (text : List Char)
  deriving DecidableEq

/-- Where a parameter ends. -/
def Mode.base (quoted : Bool) : Mode := if quoted then .double else .plain

def add (cur : Option Word) (piece : Piece) : Option Word := some (cur.getD [] ++ [piece])

/-- The words of a line, where `cur` is the one that has begun. `none` is a line that is
    not one command of words, or that is left open here: a backslash at its end, or a
    tilde at the beginning of a word. -/
def lex : Mode → Option Word → List Char → Option (List Word)
  | .plain, cur, [] => some cur.toList
  | _, _, [] => none
  | .plain, cur, c :: rest =>
    if is_blank c then (lex .plain none rest).map (cur.toList ++ ·)
    else if c = '#' ∧ cur.isNone then if '\n' ∈ rest then none else some []
    else if c = '~' ∧ cur.isNone then none
    else if ends_command c then none
    else if c = '\\' then lex .escape cur rest
    else if c = '\'' then lex .single (add cur .quote) rest
    else if c = '"' then lex .double (add cur .quote) rest
    else if c = '$' ∧ starts_parameter rest then lex (.dollar false) (some (cur.getD [])) rest
    else lex .plain (add cur (.char c false)) rest
  | .escape, cur, c :: rest =>
    if c = '\n' then lex .plain cur rest else lex .plain (add cur (.char c true)) rest
  | .single, cur, c :: rest =>
    if c = '\'' then lex .plain cur rest else lex .single (add cur (.char c true)) rest
  | .double, cur, c :: rest =>
    if c = '"' then lex .plain cur rest
    else if c = '\x60' then none
    else if c = '\\' then lex .double_escape cur rest
    else if c = '$' ∧ starts_parameter rest then lex (.dollar true) cur rest
    else lex .double (add cur (.char c true)) rest
  | .double_escape, cur, c :: rest =>
    if c = '\n' then lex .double cur rest
    else if "$\x60\"\\".toList.contains c then lex .double (add cur (.char c true)) rest
    else lex .double (add (add cur (.char '\\' true)) (.char c true)) rest
  | .dollar quoted, cur, c :: rest =>
    if is_special c then lex (.base quoted) (add cur (.param [c] quoted)) rest
    else if is_name_char c then
      if continues_name rest then lex (.name quoted [c]) cur rest
      else lex (.base quoted) (add cur (.param [c] quoted)) rest
    else none
  | .name quoted text, cur, c :: rest =>
    if continues_name rest then lex (.name quoted (text ++ [c])) cur rest
    else lex (.base quoted) (add cur (.param (text ++ [c]) quoted)) rest

/-! ### Fields -/

/-- Characters, and whether they are quoted. -/
abbrev Field := List (Char × Bool)

/-- The fields of a word so far, and the one that has begun. -/
structure Fields where
  done : List Field
  cur : Option Field

def Fields.add (f : Fields) (c : Char × Bool) : Fields := { f with cur := some (f.cur.getD [] ++ [c]) }

def Fields.stop (f : Fields) : Fields := ⟨f.done ++ f.cur.toList, none⟩

/-- What an unquoted parameter stands for is split at blanks and newlines. -/
def Fields.put (env : List Char → List Char) (f : Fields) : Piece → Fields
  | .char c quoted => f.add (c, quoted)
  | .quote => { f with cur := some (f.cur.getD []) }
  | .param name true => (env name).foldl (fun f c => f.add (c, true)) f
  | .param name false =>
    (env name).foldl (fun f c => if is_blank c || c = '\n' then f.stop else f.add (c, false)) f

def fields (env : List Char → List Char) (word : Word) : List Field :=
  (word.foldl (Fields.put env) ⟨[], none⟩).stop.done

/-! ### Patterns -/

/-- The ranges in a bracket expression, and what follows it. A `]` that comes first is
    one of the characters. There are no classes by name, and `^` is a character. -/
def members : Bool → Field → Option (List (Char × Char) × Field)
  | _, [] => none
  | first, (c, quoted) :: ('-', false) :: (d, quoted_d) :: rest =>
    if c = ']' ∧ quoted = false ∧ first = false then some ([], ('-', false) :: (d, quoted_d) :: rest)
    else if c = '/' ∨ d = '/' then none
    else if d = ']' ∧ quoted_d = false then some ([(c, c), ('-', '-')], rest)
    else (members false rest).map fun (ranges, rest) => ((c, d) :: ranges, rest)
  | first, (c, quoted) :: rest =>
    if c = ']' ∧ quoted = false ∧ first = false then some ([], rest)
    else if c = '/' then none
    else (members false rest).map fun (ranges, rest) => ((c, c) :: ranges, rest)

/-- What a `[` stands for: the characters that it accepts, and what follows. -/
def bracket (field : Field) : Option ((Char → Bool) × Field) :=
  let (negated, inside) :=
    match field with
    | ('!', false) :: rest => (true, rest)
    | rest => (false, rest)
  (members true inside).map fun (ranges, rest) => (fun c => negated != ranges.any fun (a, b) => a ≤ c && c ≤ b, rest)

/-- The text matches the pattern. No pattern character stands for a slash, or for a dot at
    the beginning of a name. -/
def glob : Nat → Bool → Field → List Char → Bool
  | 0, _, field, text => field.isEmpty && text.isEmpty
  | _ + 1, _, [], text => text.isEmpty
  | n + 1, start, (c, quoted) :: field, text =>
    let hidden := start && text.head? = some '.'
    let literal :=
      match text with
      | d :: text => c = d && glob n (c = '/') field text
      | [] => false
    if quoted then literal
    else if c = '*' then
      !hidden && (List.range ((text.takeWhile (· ≠ '/')).length + 1)).any fun i => glob n (start && i = 0) field (text.drop i)
    else if c = '?' then
      match text with
      | d :: text => !hidden && d ≠ '/' && glob n false field text
      | [] => false
    else if c = '[' then
      match bracket field with
      | none => literal
      | some (accepts, rest) =>
        match text with
        | d :: text => !hidden && d ≠ '/' && accepts d && glob n false rest text
        | [] => false
    else literal

def has_pattern (field : Field) : Bool := field.any fun (c, quoted) => !quoted && (c = '*' || c = '?' || c = '[')

/-- The names that patterns are compared with. -/
structure Files where
  names : List (List Char)
  distinct : names.Nodup

def field_text (field : Field) : List Char := field.map Prod.fst

/-- A pattern stands for the names that match it, or for itself if there are none. -/
def expand (files : Files) (field : Field) : List (List Char) :=
  if has_pattern field then
    match files.names.filter fun name => glob field.length true field name with
    | [] => [field_text field]
    | found => found
  else [field_text field]

/-- The words that the command is run with. -/
def argv (env : List Char → List Char) (files : Files) (line : List Char) : Option (List (List Char)) :=
  (lex .plain none line).map fun words => (words.flatMap (fields env)).flatMap (expand files)

/-! ### What is lost -/

def is_char : Piece → Bool
  | .char _ _ => true
  | _ => false

/-- The number of characters that come out of a word where no parameter has a value. -/
def chars (word : Word) : Nat := word.countP is_char

def weight (cur : Option Word) : Nat := chars (cur.getD []) + 1

/-- The characters of some words, with one blank for each. -/
def total (words : List Word) : Nat := (words.map fun word => chars word + 1).sum

@[simp] theorem weight_add_char (cur : Option Word) (c : Char) (quoted : Bool) :
    weight (add cur (.char c quoted)) = weight cur + 1 := by
  simp [weight, add, chars, is_char, List.countP_append]

@[simp] theorem weight_add_quote (cur : Option Word) : weight (add cur .quote) = weight cur := by
  simp [weight, add, chars, is_char, List.countP_append]

@[simp] theorem weight_add_param (cur : Option Word) (name : List Char) (quoted : Bool) :
    weight (add cur (.param name quoted)) = weight cur := by
  simp [weight, add, chars, is_char, List.countP_append]

@[simp] theorem weight_begun (cur : Option Word) : weight (some (cur.getD [])) = weight cur := rfl

theorem weight_none : weight none = 1 := rfl

theorem total_cur (cur : Option Word) : total cur.toList = if cur.isNone then 0 else weight cur := by
  cases cur <;> simp [total, weight]

theorem total_append (first second : List Word) : total (first ++ second) = total first + total second := by
  simp [total]

/-- How much more than its length may come out of the rest of a line. -/
def held_back : Mode → Nat
  | .double_escape => 1
  | _ => 0

@[simp] theorem held_back_base (quoted : Bool) : held_back (.base quoted) = 0 := by cases quoted <;> rfl

/-- A character where no quote is open ends a word or is ignored, opens something without
    being part of the word, or is added to it. -/
theorem lex_plain {cur : Option Word} {c : Char} {rest : List Char} {words : List Word}
    (split : lex .plain cur (c :: rest) = some words) :
    (is_blank c = true ∧ ∃ later, lex .plain none rest = some later ∧ cur.toList ++ later = words) ∨
      words = [] ∨
      (∃ next begun, lex next begun rest = some words ∧ weight begun + held_back next = weight cur) ∨
      (is_blank c = false ∧ ends_command c = false ∧ c ≠ '\\' ∧ c ≠ '\'' ∧ c ≠ '"' ∧
        ¬ (c = '$' ∧ starts_parameter rest = true) ∧ lex .plain (add cur (.char c false)) rest = some words) := by
  rw [lex] at split
  by_cases blank : is_blank c = true
  · rw [if_pos blank] at split
    exact .inl ⟨blank, Option.map_eq_some_iff.mp split⟩
  rw [if_neg blank] at split
  by_cases comment : c = '#' ∧ cur.isNone = true
  · rw [if_pos comment] at split
    obtain ⟨_, same⟩ := Option.ite_none_left_eq_some.mp split
    exact .inr (.inl (Option.some_inj.mp same).symm)
  rw [if_neg comment] at split
  obtain ⟨_, split⟩ := Option.ite_none_left_eq_some.mp split
  obtain ⟨ends, split⟩ := Option.ite_none_left_eq_some.mp split
  by_cases backslash : c = '\\'
  · rw [if_pos backslash] at split
    exact .inr (.inr (.inl ⟨_, _, split, rfl⟩))
  rw [if_neg backslash] at split
  by_cases quote : c = '\''
  · rw [if_pos quote] at split
    exact .inr (.inr (.inl ⟨_, _, split, weight_add_quote cur⟩))
  rw [if_neg quote] at split
  by_cases double : c = '"'
  · rw [if_pos double] at split
    exact .inr (.inr (.inl ⟨_, _, split, weight_add_quote cur⟩))
  rw [if_neg double] at split
  by_cases dollar : c = '$' ∧ starts_parameter rest = true
  · rw [if_pos dollar] at split
    exact .inr (.inr (.inl ⟨_, _, split, rfl⟩))
  rw [if_neg dollar] at split
  exact .inr (.inr (.inr ⟨Bool.eq_false_iff.mpr blank, Bool.eq_false_iff.mpr ends, backslash, quote, double, dollar, split⟩))

/-- No more characters and words come out of a line than go in. -/
theorem lex_bound {mode : Mode} {cur : Option Word} {line : List Char} {words : List Word}
    (split : lex mode cur line = some words) : total words ≤ weight cur + line.length + held_back mode := by
  induction line generalizing mode cur words with
  | nil =>
    cases mode with
    | plain =>
      obtain rfl := Option.some_inj.mp split
      rw [total_cur]
      split <;> omega
    | _ => cases split
  | cons c rest ih =>
    -- what a character adds to the word and holds back is at most itself
    have carried : ∀ {next : Mode} {begun : Option Word}, lex next begun rest = some words →
        weight begun + held_back next ≤ weight cur + held_back mode + 1 →
        total words ≤ weight cur + (c :: rest).length + held_back mode := by
      intro next begun later enough
      have := ih later
      rw [List.length_cons]
      omega
    cases mode with
    | plain =>
      rcases lex_plain split with ⟨_, later, found, rfl⟩ | rfl | ⟨next, begun, found, same⟩ | ⟨_, _, _, _, _, _, found⟩
      · have := ih found
        have word := total_cur cur
        rw [total_append, List.length_cons]
        simp only [weight_none, held_back] at this ⊢
        split at word <;> omega
      · exact Nat.zero_le _
      · exact carried found (by omega)
      · exact carried found (by simp [held_back])
    | escape =>
      rw [lex] at split
      split_ifs at split
      all_goals exact carried split (by simp [held_back])
    | single =>
      rw [lex] at split
      split_ifs at split
      all_goals exact carried split (by simp [held_back])
    | double =>
      rw [lex] at split
      split_ifs at split
      all_goals exact carried split (by simp [held_back])
    | double_escape =>
      rw [lex] at split
      split_ifs at split
      all_goals exact carried split (by simp only [held_back, weight_add_char]; omega)
    | dollar quoted =>
      rw [lex] at split
      split_ifs at split
      · exact carried split (by rw [held_back_base, weight_add_param]; omega)
      · exact carried split (by simp [held_back])
      · exact carried split (by rw [held_back_base, weight_add_param]; omega)
    | name quoted text =>
      rw [lex] at split
      split_ifs at split
      · exact carried split (by simp [held_back])
      · exact carried split (by rw [held_back_base, weight_add_param]; omega)

/-! ### What is kept -/

/-- No character has a meaning of its own, save for blanks. -/
def clear : List Char → Bool
  | [] => true
  | c :: rest =>
    !ends_command c && c != '\\' && c != '\'' && c != '"' && !(c = '$' && starts_parameter rest) && clear rest

/-- Where as much comes out as goes in, there are no quotes and no parameters, and every
    blank ends a word. -/
theorem lex_tight {cur : Option Word} {line : List Char} {words : List Word}
    (split : lex .plain cur line = some words) (all : total words = weight cur + line.length) :
    clear line = true ∧ words.length = line.countP is_blank + 1 := by
  induction line generalizing cur words with
  | nil =>
    obtain rfl := Option.some_inj.mp split
    cases cur with
    | none => simp [total, weight] at all
    | some word => exact ⟨rfl, rfl⟩
  | cons c rest ih =>
    rcases lex_plain split with ⟨blank, later, found, rfl⟩ | rfl | ⟨next, begun, found, same⟩ |
      ⟨blank, ends, backslash, quote, double, dollar, found⟩
    · cases cur with
      | none =>
        have := lex_bound found
        simp only [Option.toList_none, List.nil_append, List.length_cons, held_back] at all this
        omega
      | some word =>
        have rest_all : total later = weight none + rest.length := by
          rw [total_append, total_cur, List.length_cons, Option.isNone_some, if_neg (by decide)] at all
          rw [weight_none]
          omega
        obtain ⟨rest_clear, count⟩ := ih found rest_all
        refine ⟨?_, ?_⟩
        · have either : c = ' ' ∨ c = '\t' := by simpa [is_blank] using blank
          rcases either with rfl | rfl <;> simp [clear, rest_clear, ends_command]
        · rw [List.countP_cons_of_pos blank, ← count]
          rw [List.length_append, Option.toList_some, List.length_singleton, Nat.add_comm]
    · simp [total, weight] at all
    · have := lex_bound found
      rw [List.length_cons] at all
      omega
    · have rest_all : total words = weight (add cur (.char c false)) + rest.length := by
        rw [weight_add_char, all, List.length_cons]
        omega
      obtain ⟨rest_clear, count⟩ := ih found rest_all
      refine ⟨?_, ?_⟩
      · simpa [clear, rest_clear, ends, backslash, quote, double, imp_iff_not_or] using dollar
      · rw [List.countP_cons_of_neg (by rw [blank]; decide), count]

/-- Each word is one field, or none that has no characters, where no parameter has a value. -/
theorem fields_unset (word : Word) :
    ∃ cur : Option Field, fields (fun _ => []) word = cur.toList ∧ (cur.getD []).length = chars word := by
  have begun : ∀ (word : Word) (cur : Option Field), ∃ after,
      word.foldl (Fields.put fun _ => []) ⟨[], cur⟩ = ⟨[], after⟩ ∧
        (after.getD []).length = (cur.getD []).length + chars word := by
    intro word
    induction word with
    | nil => exact fun cur => ⟨cur, rfl, rfl⟩
    | cons piece rest ih =>
      intro cur
      cases piece with
      | char c quoted =>
        obtain ⟨after, ran, length⟩ := ih (some (cur.getD [] ++ [(c, quoted)]))
        refine ⟨after, ran, ?_⟩
        have more : chars (.char c quoted :: rest) = chars rest + 1 := List.countP_cons_of_pos rfl
        rw [length, more, Option.getD_some, List.length_append, List.length_singleton]
        omega
      | quote => exact ih (some (cur.getD []))
      | param name quoted => cases quoted <;> exact ih cur
  obtain ⟨cur, ran, length⟩ := begun word none
  refine ⟨cur, by simp [fields, ran, Fields.stop], length.trans (Nat.zero_add _)⟩

def no_files : Files := ⟨[], List.nodup_nil⟩

theorem expand_no_files (field : Field) : expand no_files field = [field_text field] := by
  unfold expand
  split <;> rfl

/-- What comes out of the words, up to those that leave nothing. -/
theorem argv_unset (words : List Word) :
    total words + ((words.flatMap (fields fun _ => [])).flatMap (expand no_files)).length =
      (((words.flatMap (fields fun _ => [])).flatMap (expand no_files)).map fun op => op.length + 1).sum + words.length ∧
      ((words.flatMap (fields fun _ => [])).flatMap (expand no_files)).length ≤ words.length := by
  induction words with
  | nil => exact ⟨rfl, Nat.le_refl _⟩
  | cons word rest ih =>
    obtain ⟨cur, one, length⟩ := fields_unset word
    have first : total (word :: rest) = chars word + 1 + total rest := rfl
    rw [List.flatMap_cons, List.flatMap_append, one, first, List.length_cons]
    cases cur with
    | none =>
      simp only [Option.getD_none, List.length_nil] at length
      simp only [Option.toList_none, List.flatMap_nil, List.nil_append]
      omega
    | some field =>
      simp only [Option.getD_some] at length
      simp only [Option.toList_some, List.flatMap_singleton, expand_no_files, List.singleton_append, List.length_cons,
        List.map_cons, List.sum_cons, field_text, List.length_map]
      omega

/-! ### Lines of literal words -/

/-- Words with single blanks between them. -/
def joined : List (List Char) → List Char
  | [] => []
  | op :: rest => op ++ rest.flatMap fun next => ' ' :: next

def unquoted (op : List Char) : Field := op.map fun c => (c, false)

/-- The word is a pattern that matches the text. -/
def is_match (op text : List Char) : Bool := has_pattern (unquoted op) && glob (unquoted op).length true (unquoted op) text

/-- The shell takes the word as it is. -/
structure Literal (op : List Char) : Prop where
  clear : clear op = true
  one_word : ∀ c ∈ op, is_blank c = false
  only_itself : ∀ text, is_match op text = true → text = op

theorem joined_length (op : List Char) (rest : List (List Char)) :
    (joined (op :: rest)).length + 1 = ((op :: rest).map fun op => op.length + 1).sum := by
  simp only [joined, List.length_append, List.length_flatMap, List.map_cons, List.sum_cons, List.length_cons]
  omega

theorem joined_blanks (op : List Char) (rest : List (List Char)) :
    (joined (op :: rest)).countP is_blank = ((op :: rest).map (List.countP is_blank)).sum + rest.length := by
  have tail : ∀ rest : List (List Char),
      (rest.flatMap fun next => ' ' :: next).countP is_blank = (rest.map (List.countP is_blank)).sum + rest.length := by
    intro rest
    induction rest with
    | nil => rfl
    | cons next rest ih =>
      rw [List.flatMap_cons, List.cons_append, List.countP_cons_of_pos rfl, List.countP_append, ih, List.map_cons,
        List.sum_cons, List.length_cons]
      omega
  rw [joined, List.countP_append, tail, List.map_cons, List.sum_cons, Nat.add_assoc]

/-- What follows a word does not give a `$` at its end a meaning. -/
theorem starts_parameter_append (op : List Char) {rest : List Char} (apart : starts_parameter rest = false) :
    starts_parameter (op ++ rest) = starts_parameter op := by
  cases op with
  | nil => exact apart
  | cons _ _ => rfl

theorem clear_append {op rest : List Char} (apart : starts_parameter rest = false) :
    clear (op ++ rest) = (clear op && clear rest) := by
  induction op with
  | nil => rfl
  | cons c op ih =>
    rw [List.cons_append, clear, clear, ih, starts_parameter_append op apart]
    simp only [Bool.and_assoc]

theorem tail_apart (rest : List (List Char)) : starts_parameter (rest.flatMap fun next => ' ' :: next) = false := by
  cases rest <;> rfl

theorem clear_joined {ops : List (List Char)} (whole : clear (joined ops) = true) : ∀ op ∈ ops, clear op = true := by
  have tail : ∀ rest : List (List Char), clear (rest.flatMap fun next => ' ' :: next) = true → ∀ op ∈ rest, clear op = true := by
    intro rest
    induction rest with
    | nil => simp
    | cons next rest ih =>
      intro all
      rw [List.flatMap_cons, List.cons_append, clear, clear_append (tail_apart rest)] at all
      simp only [Bool.and_eq_true] at all
      exact List.forall_mem_cons.mpr ⟨all.2.1, ih all.2.2⟩
  cases ops with
  | nil => simp
  | cons op rest =>
    rw [joined, clear_append (tail_apart rest), Bool.and_eq_true] at whole
    exact List.forall_mem_cons.mpr ⟨whole.1, tail rest whole.2⟩

theorem not_special {c : Char} {rest : List Char} (is_clear : clear (c :: rest) = true) :
    ends_command c = false ∧ c ≠ '\\' ∧ c ≠ '\'' ∧ c ≠ '"' ∧ ¬ (c = '$' ∧ starts_parameter rest = true) ∧
      clear rest = true := by
  simpa [clear, and_assoc, imp_iff_not_or] using is_clear

/-- The characters of a literal word are added to the word that has begun. -/
theorem lex_word {op : List Char} (is_clear : clear op = true) (one_word : ∀ c ∈ op, is_blank c = false) {rest : List Char}
    (apart : starts_parameter rest = false) (word : Word) :
    lex .plain (some word) (op ++ rest) = lex .plain (some (word ++ op.map fun c => .char c false)) rest := by
  induction op generalizing word with
  | nil => simp
  | cons c op ih =>
    obtain ⟨ends, backslash, quote, double, dollar, rest_clear⟩ := not_special is_clear
    obtain ⟨blank, rest_word⟩ := List.forall_mem_cons.mp one_word
    rw [List.cons_append, lex, if_neg (by rw [blank]; decide), if_neg (by simp), if_neg (by simp), if_neg (by rw [ends]; decide),
      if_neg backslash, if_neg quote, if_neg double, if_neg (by rw [starts_parameter_append op apart]; exact dollar), add, Option.getD_some,
      ih rest_clear rest_word, List.map_cons, List.append_assoc, List.singleton_append]

/-- A word that can be the next one, whatever it is otherwise. -/
def Starts (op : List Char) : Prop := op ≠ [] ∧ op.head? ≠ some '#' ∧ op.head? ≠ some '~'

instance (op : List Char) : Decidable (Starts op) := inferInstanceAs (Decidable (_ ∧ _))

theorem lex_first {op : List Char} (starts : Starts op) (is_clear : clear op = true)
    (one_word : ∀ c ∈ op, is_blank c = false) {rest : List Char} (apart : starts_parameter rest = false) :
    lex .plain none (op ++ rest) = lex .plain (some (op.map fun c => .char c false)) rest := by
  cases op with
  | nil => exact absurd rfl starts.1
  | cons c op =>
    obtain ⟨ends, backslash, quote, double, dollar, rest_clear⟩ := not_special is_clear
    obtain ⟨blank, rest_word⟩ := List.forall_mem_cons.mp one_word
    have comment : ¬ (c = '#' ∧ (none : Option Word).isNone = true) := fun begun => starts.2.1 (by rw [begun.1]; rfl)
    have tilde : ¬ (c = '~' ∧ (none : Option Word).isNone = true) := fun begun => starts.2.2 (by rw [begun.1]; rfl)
    rw [List.cons_append, lex, if_neg (by rw [blank]; decide), if_neg comment, if_neg tilde, if_neg (by rw [ends]; decide),
      if_neg backslash, if_neg quote, if_neg double, if_neg (by rw [starts_parameter_append op apart]; exact dollar), add, Option.getD_none,
      lex_word rest_clear rest_word apart]
    rfl

/-- A line of such words is split into them. -/
theorem lex_joined {ops : List (List Char)} (some_op : ops ≠ []) (starts : ∀ op ∈ ops, Starts op)
    (is_clear : ∀ op ∈ ops, clear op = true) (one_word : ∀ op ∈ ops, ∀ c ∈ op, is_blank c = false) :
    lex .plain none (joined ops) = some (ops.map fun op => op.map fun c => .char c false) := by
  obtain ⟨op, rest, rfl⟩ := List.exists_cons_of_ne_nil some_op
  rw [joined]
  induction rest generalizing op with
  | nil =>
    simp only [List.forall_mem_singleton] at starts is_clear one_word
    rw [lex_first starts is_clear one_word (tail_apart [])]
    rfl
  | cons next rest ih =>
    rw [List.forall_mem_cons] at starts is_clear one_word
    rw [lex_first starts.1 is_clear.1 one_word.1 (tail_apart _), List.flatMap_cons, List.cons_append, lex,
      if_pos (show is_blank ' ' = true from rfl), ih next (List.cons_ne_nil _ _) starts.2 is_clear.2 one_word.2]
    rfl

/-- A word without parameters is one field. -/
theorem fields_unquoted (env : List Char → List Char) {op : List Char} (some_char : op ≠ []) :
    fields env (op.map fun c => .char c false) = [unquoted op] := by
  have begun : ∀ (op : List Char) (cur : Option Field), op ≠ [] →
      (op.map fun c => Piece.char c false).foldl (Fields.put env) ⟨[], cur⟩ = ⟨[], some (cur.getD [] ++ unquoted op)⟩ := by
    intro op
    induction op with
    | nil => exact fun _ empty => absurd rfl empty
    | cons c op ih =>
      intro cur _
      by_cases last : op = []
      · subst last
        rfl
      · rw [List.map_cons, List.foldl_cons]
        refine (ih (some (cur.getD [] ++ [(c, false)])) last).trans ?_
        simp [unquoted]
  rw [fields, begun op none some_char]
  rfl

theorem argv_joined {ops : List (List Char)} (some_op : ops ≠ []) (starts : ∀ op ∈ ops, Starts op)
    (is_clear : ∀ op ∈ ops, clear op = true) (one_word : ∀ op ∈ ops, ∀ c ∈ op, is_blank c = false)
    (env : List Char → List Char) (files : Files) :
    argv env files (joined ops) = some (ops.flatMap fun op => expand files (unquoted op)) := by
  have each : (ops.map fun op => op.map fun c => Piece.char c false).flatMap (fields env) = ops.map unquoted := by
    rw [List.flatMap_map, List.map_eq_flatMap]
    exact List.flatMap_congr fun op member => fields_unquoted env (starts op member).1
  rw [argv, lex_joined some_op starts is_clear one_word, Option.map_some, each, List.flatMap_map]

theorem flatMap_self {ops : List (List Char)} {f : List Char → List (List Char)} (single : ∀ op ∈ ops, (f op).length = 1)
    (same : ops.flatMap f = ops) : ∀ op ∈ ops, f op = [op] := by
  induction ops with
  | nil => simp
  | cons op rest ih =>
    rw [List.forall_mem_cons] at single
    obtain ⟨first, here⟩ := List.length_eq_one_iff.mp single.1
    rw [List.flatMap_cons, here, List.singleton_append] at same
    obtain ⟨rfl, later⟩ := List.cons.inj same
    exact List.forall_mem_cons.mpr ⟨here, ih single.2 later⟩

def one_file (name : List Char) : Files := ⟨[name], List.nodup_singleton name⟩

theorem expand_one_file (name : List Char) (field : Field) : (expand (one_file name) field).length = 1 := by
  unfold expand one_file
  split
  · rw [List.filter_singleton]
    cases glob field.length true field name <;> rfl
  · rfl

theorem expand_match {op text : List Char} (found : is_match op text = true) : expand (one_file text) (unquoted op) = [text] := by
  rw [is_match, Bool.and_eq_true] at found
  rw [expand, if_pos found.1, one_file, List.filter_singleton, found.2]
  rfl

theorem field_text_unquoted (op : List Char) : field_text (unquoted op) = op := by
  simp [field_text, unquoted, Function.comp_def]

/-- A literal word stands for itself, whatever files there are. -/
theorem expand_literal {op : List Char} (literal : Literal op) (files : Files) : expand files (unquoted op) = [op] := by
  unfold expand
  split
  · rename_i pattern
    have only : ∀ name ∈ files.names.filter fun name => glob (unquoted op).length true (unquoted op) name, name = op := by
      intro name member
      refine literal.only_itself name ?_
      rw [is_match, pattern, Bool.true_and]
      exact (List.mem_filter.mp member).2
    have distinct := files.distinct.filter fun name => glob (unquoted op).length true (unquoted op) name
    split
    · rw [field_text_unquoted]
    · rename_i found
      obtain ⟨name, rest, two⟩ := List.exists_cons_of_ne_nil found
      rw [two] at only distinct ⊢
      obtain ⟨rfl, others⟩ := List.forall_mem_cons.mp only
      cases rest with
      | nil => rfl
      | cons again _ =>
        obtain rfl := (List.forall_mem_cons.mp others).1
        simp at distinct
  · rw [field_text_unquoted]

/-- No character of the word has a meaning of its own anywhere. -/
def ordinary (op : List Char) : Bool := op.all fun c => !(is_blank c || ends_command c || "\\'\"$*?[".toList.contains c)

theorem literal_of_ordinary {op : List Char} (all : ordinary op = true) : Literal op := by
  have none_of : ∀ c ∈ op, is_blank c = false ∧ ends_command c = false ∧ c ∉ "\\'\"$*?[".toList := by
    intro c inside
    simpa [and_assoc] using List.all_eq_true.mp all c inside
  refine ⟨?_, fun c inside => (none_of c inside).1, ?_⟩
  · clear all
    induction op with
    | nil => rfl
    | cons c op ih =>
      rw [List.forall_mem_cons] at none_of
      obtain ⟨⟨_, ends, others⟩, rest⟩ := none_of
      simp at others
      simp [ShellWords.clear, ih rest, ends, others]
  · intro text found
    have pattern : has_pattern (unquoted op) = true := (Bool.and_eq_true _ _ ▸ found).1
    obtain ⟨marked, member, special⟩ := List.any_eq_true.mp pattern
    obtain ⟨c, inside, rfl⟩ := List.mem_map.mp member
    have others := (none_of c inside).2.2
    simp only [Bool.not_false, Bool.true_and, Bool.or_eq_true, decide_eq_true_eq] at special
    rcases special with (rfl | rfl) | rfl <;> simp at others

/-- A line of words is split into these words, in any environment and with any files,
    exactly where each of them is literal. -/
theorem argv_exact_iff {ops : List (List Char)} (some_op : ops ≠ []) (starts : ∀ op ∈ ops, Starts op) :
    (∀ env files, argv env files (joined ops) = some ops) ↔ ∀ op ∈ ops, Literal op := by
  constructor
  · intro exact_split
    obtain ⟨words, split, out⟩ := Option.map_eq_some_iff.mp (exact_split (fun _ => []) no_files)
    have unset := argv_unset words
    rw [out] at unset
    obtain ⟨first, rest, rfl⟩ := List.exists_cons_of_ne_nil some_op
    have bound := lex_bound split
    rw [← joined_length] at unset
    simp only [weight_none, held_back] at bound
    have all : total words = weight none + (joined (first :: rest)).length := by
      rw [weight_none]
      omega
    obtain ⟨whole, count⟩ := lex_tight split all
    have is_clear := clear_joined whole
    have none_left : ((first :: rest).map (List.countP is_blank)).sum = 0 := by
      have blanks := joined_blanks first rest
      rw [List.length_cons] at unset
      omega
    have one_word : ∀ op ∈ first :: rest, ∀ c ∈ op, is_blank c = false := by
      intro op member c inside
      have zero : op.countP is_blank = 0 := List.sum_eq_zero_iff_forall_eq_nat.mp none_left _ (List.mem_map_of_mem member)
      exact Bool.eq_false_iff.mpr (List.countP_eq_zero.mp zero c inside)
    refine fun op member => ⟨is_clear op member, one_word op member, ?_⟩
    intro text found
    have same := exact_split (fun _ => []) (one_file text)
    rw [argv_joined some_op starts is_clear one_word] at same
    have itself := flatMap_self (fun op _ => expand_one_file text (unquoted op)) (Option.some_inj.mp same) op member
    rw [expand_match found] at itself
    exact (List.cons.inj itself).1
  · intro literal env files
    rw [argv_joined some_op starts (fun op member => (literal op member).clear) (fun op member => (literal op member).one_word)]
    have each : ops.flatMap (fun op => expand files (unquoted op)) = ops.flatMap fun op => [op] :=
      List.flatMap_congr fun op member => expand_literal (literal op member) files
    rw [each, List.flatMap_singleton']

end SteamRecovery.ShellWords
