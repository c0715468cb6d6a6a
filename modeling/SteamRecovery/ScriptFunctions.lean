import SteamRecovery.Formatting

/-!
Functions of update scripts (`commands.c`), with the memory that they get. `fn_concat`
appends to fresh memory, which has to start with a NUL (`concat_iff`), and `fn_matches`
reports a length of 1 for the empty result (`honest_iff`).
-/
namespace SteamRecovery.ScriptFunctions
open SteamRecovery.CStrings
open SteamRecovery.Formatting (PATH_MAX)

/-- A string of C. -/
abbrev CText := { text : List Char // '\x00' ∉ text }

/-- The arguments, and whether `result` and `resultLen` point to something. There is no
    list of permissions. -/
structure Call where
  argv : List CText
  result : Bool
  resultLen : Bool

/-- Whether memory can be had, what is in it, how much can be reached behind it, and
    what the functions of other files return. -/
structure Machine where
  malloc : Bool
  fresh : Nat → Char
  beyond : Nat
  stack : List Char
  property_get : List Char → List Char
  ensure_root_path_mounted : List Char → Int
  load_file : List Char → Option (List Char)

/-- A code, the memory from `*result` on, and `*resultLen`. -/
structure Returned where
  code : Int
  result : Option (List Char)
  resultLen : Option Nat
  deriving DecidableEq

/-! ### The functions

`none` is an access to memory that cannot be reached. -/

def strdup (m : Machine) (s : List Char) : Option (List Char) :=
  if m.malloc then some (c_string '\x00' s ++ ['\x00']) else none

/-- A function that returns an error. -/
def fails (code : Int) : Option Returned := some ⟨code, none, none⟩

def CHECK_FN (c : Call) (body : Option Returned) : Option Returned := if c.result then body else fails (-1)

/-- The end of a function, with `*resultLen = strlen(*result)` if there is a `resultLen`. -/
def report (c : Call) (result : Option (List Char)) : Option Returned :=
  if c.resultLen then result.map fun s => ⟨0, some s, some (c_string '\x00' s).length⟩ else some ⟨0, result, none⟩

def fn_compatible_with (m : Machine) (c : Call) : Option Returned :=
  CHECK_FN c <|
    match c.argv with
    | [version] =>
      if version.val = "0.1".toList ∨ version.val = "0.2".toList then report c (strdup m "true".toList)
      else report c (strdup m [])
    | _ => fails 1

def fn_update_forced (m : Machine) (c : Call) : Option Returned :=
  CHECK_FN c <|
    match c.argv with
    | [] =>
      let force := true
      if force then report c (strdup m "true".toList) else report c (strdup m [])
    | _ => fails 1

def fn_get_mark (m : Machine) (c : Call) : Option Returned :=
  CHECK_FN c <|
    match c.argv with
    | [_] => report c (strdup m [])
    | _ => fails 1

def fn_hash_dir (m : Machine) (c : Call) : Option Returned :=
  CHECK_FN c <|
    match c.argv with
    | [_] => report c (strdup m "hashvalue".toList)
    | _ => fails 1

/-- At the end, `*resultLen` is 1. -/
def fn_matches (m : Machine) (c : Call) : Option Returned :=
  CHECK_FN c <|
    match c.argv with
    | first :: second :: rest =>
      if first ∈ second :: rest then report c (strdup m first.val)
      else some ⟨0, strdup m [], if c.resultLen then some 1 else none⟩
    | _ => fails 1

def totalLen (argv : List CText) : Nat := (argv.map fun arg => arg.val.length).sum

/-- The memory behind `s`, when all arguments were appended. -/
def concat_block (m : Machine) (argv : List CText) : Option (Block Char) :=
  let s := (List.range (totalLen argv + 1 + m.beyond)).map m.fresh
  (argv.map Subtype.val).foldlM (strcat '\x00') ⟨s.set (totalLen argv) '\x00', totalLen argv + 1⟩

def fn_concat (m : Machine) (c : Call) : Option Returned :=
  CHECK_FN c <|
    if m.malloc = false then fails (-1) else (concat_block m c.argv).bind fun s => report c (some s.bytes)

def fn_getprop (m : Machine) (c : Call) : Option Returned :=
  CHECK_FN c <|
    match c.argv with
    | [property] => report c (strdup m (m.property_get property.val))
    | _ => fails 1

/-- A file that cannot be read contains nothing. -/
def fn_file_contains (m : Machine) (c : Call) : Option Returned :=
  CHECK_FN c <|
    match c.argv with
    | [root_path, needle] =>
      match RootPaths.translate_root_path Devices.g_roots root_path.val m.stack PATH_MAX with
      | none => fails 1
      | some pathbuf =>
        if m.ensure_root_path_mounted root_path.val ≠ 0 then fails 1
        else
          match m.load_file (c_string '\x00' pathbuf) with
          | none => report c (some ['\x00'])
          | some haystack =>
            if needle.val <:+: c_string '\x00' haystack then report c (strdup m "true".toList)
            else report c (strdup m [])
    | _ => fails 1

/-- What `register_update_functions` registers. -/
inductive ScriptFunction where
  | fn_compatible_with
  | fn_update_forced
  | fn_get_mark
  | fn_hash_dir
  | fn_matches
  | fn_concat
  | fn_getprop
  | fn_file_contains
  deriving DecidableEq

def ScriptFunction.run (m : Machine) (c : Call) : ScriptFunction → Option Returned
  | fn_compatible_with => ScriptFunctions.fn_compatible_with m c
  | fn_update_forced => ScriptFunctions.fn_update_forced m c
  | fn_get_mark => ScriptFunctions.fn_get_mark m c
  | fn_hash_dir => ScriptFunctions.fn_hash_dir m c
  | fn_matches => ScriptFunctions.fn_matches m c
  | fn_concat => ScriptFunctions.fn_concat m c
  | fn_getprop => ScriptFunctions.fn_getprop m c
  | fn_file_contains => ScriptFunctions.fn_file_contains m c

/-! ### concat -/

/-- The arguments, one behind the other. -/
def joined (argv : List CText) : List Char := (argv.map Subtype.val).flatten

/-- The result is the arguments in order, its length is reported, and nothing behind
    the allocated bytes is written. -/
structure Concatenates (m : Machine) (c : Call) (s : Block Char) : Prop where
  block : concat_block m c.argv = some s
  inside : s.written ≤ totalLen c.argv + 1
  text : c_string '\x00' s.bytes = joined c.argv
  returned : fn_concat m c =
    some ⟨0, some s.bytes, if c.resultLen then some (joined c.argv).length else none⟩

theorem joined_length (argv : List CText) : (joined argv).length = totalLen argv := by
  simp [joined, totalLen, List.length_flatten]

theorem joined_clean (argv : List CText) : '\x00' ∉ joined argv := by
  intro member
  obtain ⟨text, listed, inside⟩ := List.mem_flatten.mp member
  obtain ⟨arg, _, rfl⟩ := List.mem_map.mp listed
  exact arg.property inside

theorem totalLen_eq_zero {argv : List CText} : totalLen argv = 0 ↔ ∀ arg ∈ argv, arg.val = [] := by
  rw [← joined_length, List.length_eq_zero_iff, joined, List.flatten_eq_nil_iff, List.forall_mem_map]

/-- The memory that the arguments are appended to. -/
def fresh_block (m : Machine) (argv : List CText) : Block Char :=
  ⟨((List.range (totalLen argv + 1 + m.beyond)).map m.fresh).set (totalLen argv) '\x00', totalLen argv + 1⟩

/-- The memory holds nothing exactly where the first byte is a NUL. -/
theorem fresh_block_empty (m : Machine) (argv : List CText) :
    c_string '\x00' (fresh_block m argv).bytes = [] ↔ m.fresh 0 = '\x00' ∨ totalLen argv = 0 := by
  have first : totalLen argv + 1 + m.beyond = (totalLen argv + m.beyond) + 1 := Nat.add_right_comm _ _ _
  rw [fresh_block, first, List.range_succ_eq_map, List.map_cons]
  cases totalLen argv with
  | zero => simp [c_string]
  | succ n => simp [c_string]

theorem concat_block_eq (m : Machine) {argv : List CText} (some_arg : argv ≠ []) :
    concat_block m argv = strcat '\x00' (fresh_block m argv) (joined argv) := by
  refine strcat_all ?_ (mt List.map_eq_nil_iff.mp some_arg) _
  intro src listed
  obtain ⟨arg, _, rfl⟩ := List.mem_map.mp listed
  exact arg.property

/-- What is in front of the first NUL stays in front of the arguments. -/
theorem concat_block_text {m : Machine} {argv : List CText} {s : Block Char} (block : concat_block m argv = some s) :
    c_string '\x00' s.bytes = c_string '\x00' (fresh_block m argv).bytes ++ joined argv := by
  by_cases none_given : argv = []
  · subst none_given
    obtain rfl := Option.some_inj.mp block
    exact (List.append_nil _).symm
  · rw [concat_block_eq m none_given, strcat] at block
    split at block
    · obtain rfl := Option.some_inj.mp block
      refine c_string_append ?_ _
      simp [c_string_clean, joined_clean]
    · cases block

/-- Nothing in front of the arguments: they fill what was allocated. -/
theorem concat_block_inside {m : Machine} {argv : List CText} (empty : c_string '\x00' (fresh_block m argv).bytes = []) :
    ∃ s, concat_block m argv = some s ∧ s.written ≤ totalLen argv + 1 := by
  by_cases none_given : argv = []
  · subst none_given
    exact ⟨_, rfl, Nat.le_refl _⟩
  · rw [concat_block_eq m none_given, strcat, empty, List.length_nil, Nat.zero_add, joined_length]
    have room : totalLen argv + 1 ≤ (fresh_block m argv).bytes.length := by
      rw [fresh_block, List.length_set, List.length_map, List.length_range]
      omega
    exact ⟨_, if_pos room, Nat.max_le.mpr ⟨Nat.le_refl _, Nat.le_refl _⟩⟩

/-- `fn_concat` concatenates exactly where the fresh memory starts with a NUL, or where
    there is nothing to append. -/
theorem concat_iff (m : Machine) (c : Call) (allocated : m.malloc = true) (pointer : c.result = true) :
    (∃ s, Concatenates m c s) ↔ m.fresh 0 = '\x00' ∨ ∀ arg ∈ c.argv, arg.val = [] := by
  rw [← totalLen_eq_zero, ← fresh_block_empty]
  constructor
  · rintro ⟨s, right⟩
    have same := (concat_block_text right.block).symm.trans right.text
    exact List.append_left_eq_self.mp same
  · intro empty
    obtain ⟨s, block, inside⟩ := concat_block_inside empty
    have text : c_string '\x00' s.bytes = joined c.argv := by
      rw [concat_block_text block, empty, List.nil_append]
    refine ⟨s, block, inside, text, ?_⟩
    rw [fn_concat, CHECK_FN, if_pos pointer, if_neg (by rw [allocated]; decide), block, Option.bind_some, report, ← text]
    cases c.resultLen <;> rfl

def text (s : String) (clean : '\x00' ∉ s.toList := by decide) : CText := ⟨s.toList, clean⟩

/-- A machine on which everything works, and whose memory is full of a character. -/
def filled (c : Char) : Machine :=
  { malloc := true, fresh := fun _ => c, beyond := 100, stack := [], property_get := fun _ => []
    ensure_root_path_mounted := fun _ => 0, load_file := fun _ => none }

theorem concat_zeroed : ∃ s, Concatenates (filled '\x00') ⟨[text "a", text "b"], true, true⟩ s :=
  (concat_iff (filled '\x00') ⟨[text "a", text "b"], true, true⟩ rfl rfl).mpr (Or.inl rfl)

theorem concat_stale : ¬ ∃ s, Concatenates (filled 'x') ⟨[text "a", text "b"], true, true⟩ s := by
  rintro ⟨s, right⟩
  have appended : c_string '\x00' s.bytes = "xxab".toList :=
    (concat_block_text right.block).trans (by decide)
  exact absurd (appended.symm.trans right.text) (by decide)

/-! ### The lengths of results -/

/-- What 0 promises: `*resultLen` is the length of `*result`, and `matches` returns its
    first argument where that is one of the others. -/
structure Honest (f : ScriptFunction) (c : Call) (r : Returned) : Prop where
  length : r.code = 0 → c.resultLen = true →
    ∃ s, r.result = some s ∧ r.resultLen = some (c_string '\x00' s).length
  matched : f = .fn_matches → r.code = 0 → ∀ s, r.result = some s → ∀ first rest, c.argv = first :: rest →
    c_string '\x00' s = if first ∈ rest then first.val else []

/-- `matches` finds no match, and is asked for the length. -/
def Unmatched (f : ScriptFunction) (c : Call) : Prop :=
  f = .fn_matches ∧ c.result = true ∧ c.resultLen = true ∧
    ∃ first second rest, c.argv = first :: second :: rest ∧ first ∉ second :: rest

/-- What ends in `report` tells the length. -/
def LengthTold (c : Call) (r : Returned) : Prop :=
  r.code = 0 → c.resultLen = true → ∃ s, r.result = some s ∧ r.resultLen = some (c_string '\x00' s).length

theorem fails_told {c : Call} {r : Returned} {code : Int} (error : code ≠ 0) (ran : fails code = some r) :
    LengthTold c r := by
  obtain rfl := Option.some_inj.mp ran
  exact fun zero => absurd zero error

theorem report_told {c : Call} {r : Returned} {result : Option (List Char)} (ran : report c result = some r) :
    LengthTold c r := by
  intro _ asked
  rw [report, if_pos asked, Option.map_eq_some_iff] at ran
  obtain ⟨s, rfl, rfl⟩ := ran
  exact ⟨s, rfl, rfl⟩

theorem CHECK_FN_told {c : Call} {r : Returned} {body : Option Returned} (told : body = some r → LengthTold c r)
    (ran : CHECK_FN c body = some r) : LengthTold c r := by
  unfold CHECK_FN at ran
  split at ran
  · exact told ran
  · exact fails_told (by decide) ran

theorem report_result {c : Call} {r : Returned} {result : Option (List Char)} (ran : report c result = some r) :
    r.result = result := by
  unfold report at ran
  split at ran
  · obtain ⟨s, rfl, rfl⟩ := Option.map_eq_some_iff.mp ran
    rfl
  · exact Option.some_inj.mp ran ▸ rfl

theorem strdup_text {m : Machine} {s copy : List Char} (clean : '\x00' ∉ s) (copied : strdup m s = some copy) :
    c_string '\x00' copy = s := by
  unfold strdup at copied
  split at copied
  · rw [← Option.some_inj.mp copied, c_string_of_clean clean]
    exact c_string_append clean []
  · cases copied

/-- All functions but `matches` tell the length at every exit. -/
theorem run_told {m : Machine} {c : Call} {r : Returned} {f : ScriptFunction} (other : f ≠ .fn_matches)
    (ran : f.run m c = some r) : LengthTold c r := by
  cases f with
  | fn_matches => exact absurd rfl other
  | fn_concat =>
    refine CHECK_FN_told (fun body => ?_) ran
    split at body
    · exact fails_told (by decide) body
    · obtain ⟨s, _, reported⟩ := Option.bind_eq_some_iff.mp body
      exact report_told reported
  | _ =>
    refine CHECK_FN_told (fun body => ?_) ran
    repeat' split at body
    all_goals first
      | exact fails_told (by decide) body
      | exact report_told body

/-- What `matches` returns, for two arguments or more. -/
theorem fn_matches_eq (m : Machine) {c : Call} {first second : CText} {rest : List CText} (pointer : c.result = true)
    (given : c.argv = first :: second :: rest) :
    fn_matches m c = if first ∈ second :: rest then report c (strdup m first.val)
      else some ⟨0, strdup m [], if c.resultLen then some 1 else none⟩ := by
  simp only [fn_matches, CHECK_FN, pointer, given, if_true]

/-- `matches` returns an error for fewer. -/
theorem fn_matches_error (m : Machine) {c : Call}
    (few : ¬ (c.result = true ∧ ∃ first second rest, c.argv = first :: second :: rest)) :
    ∃ code ≠ 0, fn_matches m c = fails code := by
  unfold fn_matches CHECK_FN
  split
  · rename_i pointer
    split
    · rename_i first second rest given
      exact absurd ⟨pointer, first, second, rest, given⟩ few
    · exact ⟨1, by decide, rfl⟩
  · exact ⟨-1, by decide, rfl⟩

theorem matches_honest {m : Machine} {c : Call} {r : Returned} (matched : ¬ Unmatched .fn_matches c)
    (ran : fn_matches m c = some r) : Honest .fn_matches c r := by
  by_cases enough : c.result = true ∧ ∃ first second rest, c.argv = first :: second :: rest
  · obtain ⟨pointer, first, second, rest, given⟩ := enough
    rw [fn_matches_eq m pointer given] at ran
    by_cases listed : first ∈ second :: rest
    · rw [if_pos listed] at ran
      refine ⟨report_told ran, ?_⟩
      rintro - - s result first' rest' given'
      obtain ⟨rfl, rfl⟩ := List.cons.inj (given.symm.trans given')
      rw [if_pos listed]
      exact strdup_text first.property ((report_result ran).symm.trans result)
    · have unasked : c.resultLen = false := by
        rw [← Bool.not_eq_true]
        exact fun asked => matched ⟨rfl, pointer, asked, first, second, rest, given, listed⟩
      rw [if_neg listed] at ran
      obtain rfl := Option.some_inj.mp ran
      refine ⟨fun _ asked => absurd asked (by rw [unasked]; decide), ?_⟩
      rintro - - s result first' rest' given'
      obtain ⟨rfl, rfl⟩ := List.cons.inj (given.symm.trans given')
      rw [if_neg listed]
      exact strdup_text List.not_mem_nil result
  · obtain ⟨code, error, failed⟩ := fn_matches_error m enough
    rw [failed] at ran
    refine ⟨fails_told error ran, ?_⟩
    obtain rfl := Option.some_inj.mp ran
    exact fun _ zero => absurd zero error

/-- The functions keep the promise of 0 exactly where no `matches` without a match is
    asked for the length. -/
theorem honest_iff (m : Machine) (c : Call) (f : ScriptFunction) :
    (∀ r, f.run m c = some r → Honest f c r) ↔ ¬ Unmatched f c := by
  constructor
  · rintro honest ⟨rfl, pointer, asked, first, second, rest, given, absent⟩
    have ran : ScriptFunction.run m c .fn_matches = some ⟨0, strdup m [], some 1⟩ := by
      rw [ScriptFunction.run, fn_matches_eq m pointer given, if_neg absent, if_pos asked]
    obtain ⟨s, copied, one⟩ := (honest _ ran).length rfl asked
    rw [strdup_text List.not_mem_nil copied] at one
    cases one
  · intro matched r ran
    by_cases other : f = .fn_matches
    · subst other
      exact matches_honest matched ran
    · exact ⟨run_told other ran, fun same => absurd same other⟩

/-- The length of an empty result is reported as 1. -/
theorem matches_nothing :
    ¬ ∀ r, ScriptFunction.fn_matches.run (filled 'x') ⟨[text "a", text "b"], true, true⟩ = some r →
      Honest .fn_matches ⟨[text "a", text "b"], true, true⟩ r := by
  intro honest
  obtain ⟨s, empty, one⟩ := (honest ⟨0, some ['\x00'], some 1⟩ (by decide)).length rfl rfl
  obtain rfl := Option.some_inj.mp empty
  exact absurd one (by decide)

end SteamRecovery.ScriptFunctions
