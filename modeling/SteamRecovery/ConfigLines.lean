import Mathlib.Data.List.Basic
import SteamRecovery.ConfigFiles

/-!
Long lines of a configuration file (`init_conf` in `config.c`). What `fgets` reads is
a line only where that fits into the buffer. Of a longer line every full buffer is
passed over, and the rest is read as if it were a line (`entries_of_line`). So a file
is read line by line unless the rest of a long line is an entry with a key that no
line before it has (`read_whole_iff`).
-/
namespace SteamRecovery.ConfigLines
open SteamRecovery.CStrings
open SteamRecovery.Config
open SteamRecovery.ConfigFiles

/-- What `fgets(r,KEY_MAX_LENGTH+VALUE_MAX_LENGTH+3,f)` has room for. -/
def line_room : Nat := KEY_MAX_LENGTH + VALUE_MAX_LENGTH + 2

/-! ### What a file says -/

/-- The key and the value that a line of a file stands for. -/
def line_entry (line : List Char) : Option (String × String) :=
  if line.head? ≠ some '#' ∧ '=' ∈ line then
    let key := line.takeWhile (· ≠ '=')
    let value := (line.dropWhile (· ≠ '=')).tail
    if key.length < KEY_MAX_LENGTH ∧ value.length < VALUE_MAX_LENGTH then
      some (String.ofList key, String.ofList value)
    else none
  else none

/-- The pairs whose key does not stand in a pair before them. -/
def first_entries : List (String × String) → List (String × String)
  | [] => []
  | n :: rest => n :: (first_entries rest).filter fun m => m.1 ≠ n.1

theorem first_entries_keys {key : String} {entries : List (String × String)} :
    key ∈ (first_entries entries).map Prod.fst ↔ key ∈ entries.map Prod.fst := by
  induction entries with
  | nil => rfl
  | cons n rest ih =>
    by_cases same : key = n.1
    · simp [first_entries, same]
    · have later : key ∈ ((first_entries rest).filter fun m => m.1 ≠ n.1).map Prod.fst ↔
          key ∈ (first_entries rest).map Prod.fst := by
        simp only [List.mem_map, List.mem_filter, decide_eq_true_eq]
        constructor
        · rintro ⟨m, ⟨member, _⟩, here⟩
          exact ⟨m, member, here⟩
        · rintro ⟨m, member, here⟩
          exact ⟨m, ⟨member, fun old => same (here.symm.trans old)⟩, here⟩
      rw [first_entries, List.map_cons, List.map_cons, List.mem_cons, List.mem_cons, later, ih]

/-- A pair that is added counts where its key is new. -/
theorem first_entries_concat (entries : List (String × String)) (n : String × String) :
    first_entries (entries ++ [n]) =
      if n.1 ∈ entries.map Prod.fst then first_entries entries else first_entries entries ++ [n] := by
  induction entries with
  | nil => rfl
  | cons m rest ih =>
    rw [List.cons_append, first_entries, ih, first_entries, List.map_cons]
    by_cases same : n.1 = m.1
    · split <;> simp [same]
    · by_cases old : n.1 ∈ rest.map Prod.fst
      · rw [if_pos old, if_pos (List.mem_cons_of_mem _ old)]
      · rw [if_neg old, if_neg (by simp only [List.mem_cons, same, old, or_self, not_false_eq_true])]
        simp [same]

/-! ### Lines and buffers -/

/-- The part of a line behind its last full buffer. -/
def tail_of (line : List Char) : List Char := line.drop (line_room * (line.length / line_room))

/-- The texts that `fgets` makes of every line. All but the last line end in a newline. -/
def line_pieces : List (List Char) → List (List (List Char))
  | [] => []
  | [line] => [pieces '\n' line_room [] line]
  | line :: next :: rest => pieces '\n' line_room [] (line ++ ['\n']) :: line_pieces (next :: rest)

theorem line_pieces_flatten (lines : List (List Char)) :
    (line_pieces lines).flatten = pieces '\n' line_room [] (['\n'].intercalate lines) := by
  fun_induction line_pieces lines with
  | case1 => rfl
  | case2 line => rw [List.intercalate_singleton, List.flatten_cons, List.flatten_nil, List.append_nil]
  | case3 line next rest ih =>
    rw [List.flatten_cons, ih, List.intercalate_cons_cons, List.append_assoc, List.singleton_append,
      pieces_append line (['\n'].intercalate (next :: rest))]

theorem conf_lines_pieces (text : String) :
    conf_lines text = (line_pieces (text.toList.splitOn '\n')).flatten := by
  rw [line_pieces_flatten, List.intercalate_splitOn]
  rfl

theorem line_pieces_length (lines : List (List Char)) : (line_pieces lines).length = lines.length := by
  fun_induction line_pieces lines with
  | case1 => rfl
  | case2 line => rfl
  | case3 line next rest ih => simpa using ih

theorem splitOn_plain {sep : Char} {text line : List Char} (member : line ∈ text.splitOn sep) :
    sep ∉ line ∧ line ⊆ text := by
  induction text generalizing line with
  | nil => simp_all
  | cons c text ih =>
    rw [List.splitOn_cons_eq_if_modifyHead] at member
    split at member
    · rcases List.mem_cons.mp member with rfl | later
      · simp
      · exact ⟨(ih later).1, List.subset_cons_of_subset c (ih later).2⟩
    · rename_i other
      obtain ⟨first, others, lines⟩ := List.exists_cons_of_ne_nil (List.splitOn_ne_nil sep text)
      rw [lines, List.modifyHead_cons] at member
      rw [lines] at ih
      rcases List.mem_cons.mp member with rfl | later
      · obtain ⟨plain, inside⟩ := ih List.mem_cons_self
        refine ⟨?_, List.cons_subset_cons c inside⟩
        rw [List.mem_cons, not_or]
        exact ⟨fun same => other (beq_iff_eq.mpr same.symm), plain⟩
      · obtain ⟨plain, inside⟩ := ih (List.mem_cons_of_mem first later)
        exact ⟨plain, List.subset_cons_of_subset c inside⟩

/-- A buffer without a newline in it is not read as an entry: it is too long. -/
theorem conf_entry_full {piece : List Char} (clean : '\x00' ∉ piece) (full : piece.length = line_room)
    (one_line : '\n' ∉ piece) : conf_entry piece = none := by
  simp only [conf_entry, c_string_of_clean clean]
  have whole : piece.takeWhile (· ≠ '=') ++ piece.dropWhile (· ≠ '=') = piece := List.takeWhile_append_dropWhile
  split
  · rfl
  split
  · rfl
  rename_i equals fp found
  rw [found] at whole
  have unchanged : chomp fp = fp := by
    rw [chomp, if_neg]
    intro last
    refine one_line ?_
    rw [← whole]
    exact List.mem_append_right _ (List.mem_cons_of_mem _ (List.mem_of_getLast? last))
  have long : (piece.takeWhile (· ≠ '=')).length + (fp.length + 1) = line_room := by
    rw [← full, ← List.length_cons, ← List.length_append, whole]
  simp only [line_room, KEY_MAX_LENGTH, VALUE_MAX_LENGTH] at long
  rw [if_neg]
  simp only [unchanged, KEY_MAX_LENGTH, VALUE_MAX_LENGTH]
  omega

/-- What stands in the buffer as a line is the entry of that line, with and without
    the newline. -/
theorem conf_entry_line {line : List Char} (clean : '\x00' ∉ line) (one_line : '\n' ∉ line) :
    conf_entry line = line_entry line ∧ conf_entry (line ++ ['\n']) = line_entry line := by
  have ended_clean : '\x00' ∉ line ++ ['\n'] := by
    simpa using clean
  by_cases entry : '=' ∈ line
  · obtain ⟨key, value, rfl, no_equals⟩ := List.eq_append_cons_of_mem entry
    have one_value : '\n' ∉ value := by
      simp_all
    have unchanged : chomp value = value := by
      rw [chomp, if_neg]
      exact fun last => one_value (List.mem_of_getLast? last)
    have first : (key ++ '=' :: value ++ ['\n']).head? = (key ++ '=' :: value).head? := by
      cases key <;> rfl
    have key_part (rest : List Char) : (key ++ '=' :: rest).takeWhile (· ≠ '=') = key :=
      c_string_append no_equals rest
    have value_part (rest : List Char) : (key ++ '=' :: rest).dropWhile (· ≠ '=') = '=' :: rest :=
      strchr_append no_equals rest
    simp only [conf_entry, c_string_of_clean clean, c_string_of_clean ended_clean, first]
    simp only [List.append_assoc, List.cons_append, key_part, value_part, chomp_newline, unchanged, line_entry, entry,
      and_true, List.tail_cons, ite_not, and_self]
  · have ended : '=' ∉ line ++ ['\n'] := by
      simpa using entry
    have none_found {text : List Char} (absent : '=' ∉ text) : text.dropWhile (· ≠ '=') = [] :=
      List.dropWhile_eq_nil_iff.mpr fun c member => decide_eq_true (ne_of_mem_of_not_mem member absent)
    simp only [conf_entry, c_string_of_clean clean, c_string_of_clean ended_clean, none_found entry, none_found ended,
      ite_self, line_entry, entry, and_false, if_false, and_self]

theorem tail_of_short {line : List Char} (short : line.length < line_room) : tail_of line = line := by
  rw [tail_of, Nat.div_eq_of_lt short, Nat.mul_zero, List.drop_zero]

theorem tail_of_append {first rest : List Char} (full : first.length = line_room) :
    tail_of (first ++ rest) = tail_of rest := by
  have positive : 0 < line_room := by decide
  have longer : line_room * ((first ++ rest).length / line_room) =
      first.length + line_room * (rest.length / line_room) := by
    rw [List.length_append, full, Nat.add_div_left _ positive, Nat.mul_succ, Nat.add_comm]
  rw [tail_of, longer, List.drop_length_add_append, tail_of]

/-- The entry of the first text comes before those of the rest. -/
theorem entries_cons (entry : List Char → Option (String × String)) (first : List Char) (rest : List (List Char)) :
    (first :: rest).filterMap entry = (entry first).toList ++ rest.filterMap entry := by
  rw [List.filterMap_eq_flatMap_toList, List.flatMap_cons, ← List.filterMap_eq_flatMap_toList]

theorem entries_one (entry : List Char → Option (String × String)) (text : List Char) :
    [text].filterMap entry = (entry text).toList := by
  rw [entries_cons, List.filterMap_nil, List.append_nil]

/-- Whether it ends in a newline or not, a line is read as what stands behind its
    last full buffer. -/
theorem entries_of_line {line : List Char} (clean : '\x00' ∉ line) (one_line : '\n' ∉ line) :
    (pieces '\n' line_room [] line).filterMap conf_entry = (line_entry (tail_of line)).toList ∧
      (pieces '\n' line_room [] (line ++ ['\n'])).filterMap conf_entry = (line_entry (tail_of line)).toList := by
  induction length : line.length using Nat.strong_induction_on generalizing line with
  | _ n ih =>
    subst length
    by_cases short : line.length < line_room
    · have fits : ([] : List Char).length + line.length < line_room := by
        simpa using short
      obtain ⟨open_ended, ended⟩ := conf_entry_line clean one_line
      rw [tail_of_short short, pieces_line one_line [] [] fits, pieces_end one_line [] fits, List.nil_append]
      constructor
      · split
        · rename_i empty
          rw [empty]
          rfl
        · rw [entries_one, open_ended]
      · rw [pieces, if_pos rfl, entries_one, ended]
    · obtain ⟨first, rest, rfl, full⟩ : ∃ first rest, line = first ++ rest ∧ first.length = line_room :=
        ⟨line.take line_room, line.drop line_room, (List.take_append_drop _ _).symm, List.length_take_of_le (by omega)⟩
      have some_char : first ≠ [] := List.ne_nil_of_length_pos (by rw [full]; decide)
      rw [List.mem_append, not_or] at clean one_line
      have shorter : rest.length < (first ++ rest).length := by
        rw [List.length_append]
        have := List.length_pos_iff.mpr some_char
        omega
      have filled : ([] : List Char).length + first.length = line_room := by
        simpa using full
      have none_read : conf_entry ([] ++ first) = none := conf_entry_full clean.1 full one_line.1
      obtain ⟨open_ended, ended⟩ := ih _ shorter clean.2 one_line.2 rfl
      rw [tail_of_append full, List.append_assoc, pieces_full one_line.1 _ _ some_char filled,
        pieces_full one_line.1 _ _ some_char filled, List.filterMap_cons_none none_read,
        List.filterMap_cons_none none_read]
      exact ⟨open_ended, ended⟩

/-! ### What is loaded of a file -/

/-- A pair is stored behind the others where its key is new. -/
def add_entry (loaded : List (String × String)) (n : String × String) : List (String × String) :=
  if n.1 ∈ loaded.map Prod.fst then loaded else loaded ++ [n]

theorem load_entries_add (loaded : List (String × String)) (read : List (List Char)) :
    load_entries loaded read = (read.filterMap conf_entry).foldl add_entry loaded := by
  fun_induction load_entries loaded read with
  | case1 loaded => rfl
  | case2 loaded r rest k v entry fresh ih =>
    have absent : k ∉ loaded.map Prod.fst := read_entries_none.mp fresh
    rw [ih, List.filterMap_cons_some entry, List.foldl_cons, add_entry, if_neg absent]
  | case3 loaded r rest k v entry old ih =>
    have stored : k ∈ loaded.map Prod.fst := not_not.mp (mt read_entries_none.mpr old)
    rw [ih, List.filterMap_cons_some entry, List.foldl_cons, add_entry, if_pos stored]
  | case4 loaded r rest no_entry ih => rw [ih, List.filterMap_cons_none no_entry]

theorem add_first_entries (entries : List (String × String)) : entries.foldl add_entry [] = first_entries entries := by
  induction entries using List.reverseRecOn with
  | nil => rfl
  | append_singleton entries n ih =>
    rw [List.foldl_append, ih, List.foldl_cons, List.foldl_nil, add_entry, first_entries_concat]
    simp only [first_entries_keys]

/-- The list when `fgets` has read the first `k` lines of the file. -/
def loaded (lines : List (List Char)) (k : Nat) : List (String × String) :=
  load_entries [] ((line_pieces lines).take k).flatten

/-- A line without a newline and without a NUL. -/
def PlainLine (line : List Char) : Prop := '\x00' ∉ line ∧ '\n' ∉ line

theorem read_of_lines {lines : List (List Char)} (plain : ∀ line ∈ lines, PlainLine line) (k : Nat) :
    ((line_pieces lines).take k).flatten.filterMap conf_entry =
      (lines.take k).filterMap fun line => line_entry (tail_of line) := by
  fun_induction line_pieces lines generalizing k with
  | case1 => simp
  | case2 line =>
    obtain ⟨clean, one_line⟩ := plain line List.mem_cons_self
    cases k with
    | zero => rfl
    | succ k =>
      rw [List.take_succ_cons, List.take_nil, List.flatten_cons, List.flatten_nil, List.append_nil,
        (entries_of_line clean one_line).1, List.take_succ_cons, List.take_nil, entries_one]
  | case3 line next rest ih =>
    obtain ⟨clean, one_line⟩ := plain line List.mem_cons_self
    cases k with
    | zero => rfl
    | succ k =>
      rw [List.take_succ_cons, List.flatten_cons, List.filterMap_append, (entries_of_line clean one_line).2,
        ih (fun l later => plain l (List.mem_cons_of_mem line later)), List.take_succ_cons, entries_cons]

/-- Line by line, what stands behind the last full buffer of a line is loaded. -/
theorem loaded_tails {lines : List (List Char)} (plain : ∀ line ∈ lines, PlainLine line) (k : Nat) :
    loaded lines k = first_entries ((lines.take k).filterMap fun line => line_entry (tail_of line)) := by
  rw [loaded, load_entries_add, add_first_entries, read_of_lines plain]

/-- A line with an entry fits into the buffer. -/
theorem line_entry_short {line : List Char} {n : String × String} (entry : line_entry line = some n) :
    line.length < line_room := by
  unfold line_entry at entry
  split at entry
  · rename_i has
    have whole := congrArg List.length (List.takeWhile_append_dropWhile (p := fun c => decide (c ≠ '=')) (l := line))
    simp only at entry
    split at entry
    · rename_i fits
      obtain ⟨key_short, value_short⟩ := fits
      rw [List.length_append] at whole
      rw [List.length_tail] at value_short
      simp only [line_room, KEY_MAX_LENGTH, VALUE_MAX_LENGTH] at key_short value_short ⊢
      omega
    · cases entry
  · cases entry

/-- The lines of the file with the given text. -/
def text_lines (text : String) : List (List Char) := text.toList.splitOn '\n'

theorem text_lines_plain {text : String} (clean : '\x00' ∉ text.toList) : ∀ line ∈ text_lines text, PlainLine line := by
  intro line member
  obtain ⟨one_line, inside⟩ := splitOn_plain member
  exact ⟨fun nul => clean (inside nul), one_line⟩

theorem init_conf_loaded {conf : Conf} {text : String} (file : conf.system_file = some text) :
    (init_conf conf).1.entries = loaded (text_lines text) (text_lines text).length := by
  simp only [init_conf, file, loaded]
  rw [List.take_of_length_le (Nat.le_of_eq (line_pieces_length _)), conf_lines_pieces, text_lines]

/-- The list is what the lines of the file say, and no line without an entry adds
    to it. -/
structure ReadWhole (conf : Conf) (text : String) : Prop where
  entries : (init_conf conf).1.entries = first_entries ((text_lines text).filterMap line_entry)
  others : ∀ k line, (text_lines text)[k]? = some line → line_entry line = none →
    loaded (text_lines text) (k + 1) = loaded (text_lines text) k

/-- Where the end of a long line is an entry, a line before it has that key. -/
def TailsKnown (text : String) : Prop :=
  ∀ k line n, (text_lines text)[k]? = some line → line_room ≤ line.length → line_entry (tail_of line) = some n →
    ∃ earlier ∈ (text_lines text).take k, ∃ m, line_entry earlier = some m ∧ m.1 = n.1

theorem take_entries {entry : List Char → Option (String × String)} {lines : List (List Char)} {k : Nat}
    {line : List Char} (here : lines[k]? = some line) :
    first_entries ((lines.take (k + 1)).filterMap entry) =
      (entry line).toList.foldl add_entry (first_entries ((lines.take k).filterMap entry)) := by
  rw [← add_first_entries, ← add_first_entries, List.take_add_one, here, Option.toList_some, List.filterMap_append,
    List.foldl_append, entries_one]

/-- When the first lines are read, the list is what these say. -/
def WholeAt (lines : List (List Char)) (k : Nat) : Prop :=
  loaded lines k = first_entries ((lines.take k).filterMap line_entry)

section Lines
variable {lines : List (List Char)} (plain : ∀ line ∈ lines, PlainLine line)
include plain

theorem loaded_succ {k : Nat} {line : List Char} (here : lines[k]? = some line) :
    loaded lines (k + 1) = (line_entry (tail_of line)).toList.foldl add_entry (loaded lines k) := by
  rw [loaded_tails plain, loaded_tails plain]
  exact take_entries here

/-- A step that an induction over the lines takes where a line without an entry adds
    nothing. -/
theorem whole_succ {k : Nat} (whole : WholeAt lines k)
    (others : ∀ line, lines[k]? = some line → line_entry line = none → loaded lines (k + 1) = loaded lines k) :
    WholeAt lines (k + 1) := by
  unfold WholeAt at whole ⊢
  cases here : lines[k]? with
  | none =>
    have past : lines.length ≤ k := List.getElem?_eq_none_iff.mp here
    rw [loaded_tails plain, List.take_of_length_le (Nat.le_succ_of_le past)] at *
    rwa [List.take_of_length_le past] at whole
  | some line =>
    rw [take_entries here, ← whole]
    cases entry : line_entry line with
    | none => exact others line here entry
    | some n => rw [loaded_succ plain here, tail_of_short (line_entry_short entry), entry]

/-- The same where that may rest on what was read before. -/
theorem whole_of_others
    (others : ∀ k, WholeAt lines k → ∀ line, lines[k]? = some line → line_entry line = none →
      loaded lines (k + 1) = loaded lines k)
    (k : Nat) : WholeAt lines k := by
  induction k with
  | zero => rfl
  | succ k ih => exact whole_succ plain ih (others k ih)

end Lines

/-- A key that the first lines say is one that an entry among them has. -/
theorem said_before {key : String} {lines : List (List Char)} :
    key ∈ (first_entries (lines.filterMap line_entry)).map Prod.fst ↔
      ∃ earlier ∈ lines, ∃ m, line_entry earlier = some m ∧ m.1 = key := by
  rw [first_entries_keys]
  simp only [List.mem_map, List.mem_filterMap]
  constructor
  · rintro ⟨m, ⟨earlier, member, entry⟩, same⟩
    exact ⟨earlier, member, m, entry, same⟩
  · rintro ⟨earlier, member, m, entry, same⟩
    exact ⟨m, ⟨earlier, member, entry⟩, same⟩

theorem add_known {entries : List (String × String)} {n : String × String} :
    add_entry entries n = entries ↔ n.1 ∈ entries.map Prod.fst := by
  unfold add_entry
  split
  · rename_i known
    exact iff_of_true rfl known
  · rename_i fresh
    exact iff_of_false (by simp) fresh

/-- A file is read line by line exactly where the end of a long line, read as a line,
    brings no key that is new. -/
theorem read_whole_iff {conf : Conf} {text : String} (file : conf.system_file = some text)
    (clean : '\x00' ∉ text.toList) : ReadWhole conf text ↔ TailsKnown text := by
  have plain := text_lines_plain clean
  constructor
  · intro whole k line n here long entry
    have said : WholeAt (text_lines text) k := whole_of_others plain (fun k _ => whole.others k) k
    have no_entry : line_entry line = none := by
      cases found : line_entry line with
      | none => rfl
      | some m => exact absurd (line_entry_short found) (Nat.not_lt.mpr long)
    have same := whole.others k line here no_entry
    rw [loaded_succ plain here, entry, Option.toList_some, List.foldl_cons, List.foldl_nil, add_known, said] at same
    exact said_before.mp same
  · intro known
    have others : ∀ k, WholeAt (text_lines text) k → ∀ line, (text_lines text)[k]? = some line →
        line_entry line = none → loaded (text_lines text) (k + 1) = loaded (text_lines text) k := by
      intro k said line here no_entry
      rw [loaded_succ plain here]
      cases entry : line_entry (tail_of line) with
      | none => rfl
      | some n =>
        have long : line_room ≤ line.length := by
          rw [← Nat.not_lt]
          intro short
          rw [tail_of_short short, no_entry] at entry
          cases entry
        rw [Option.toList_some, List.foldl_cons, List.foldl_nil, add_known, said]
        exact said_before.mpr (known k line n here long entry)
    have whole : ∀ k, WholeAt (text_lines text) k := whole_of_others plain others
    refine ⟨?_, fun k => others k (whole k)⟩
    rw [init_conf_loaded file, whole, List.take_length]

theorem clean_append {a b : String} (first : '\x00' ∉ a.toList) (last : '\x00' ∉ b.toList) : '\x00' ∉ (a ++ b).toList := by
  rw [String.toList_append, List.mem_append]
  exact not_or.mpr ⟨first, last⟩

/-- A version, and a comment that fills the buffer and ends in another one. -/
def commented_version : String := "steam.version=1.0\n" ++ String.ofList (List.replicate 194 '#') ++ "steam.version=2.0\n"

theorem version_read_whole :
    ReadWhole { version_conf with system_file := some commented_version } commented_version ↔ TailsKnown commented_version := by
  have comment : '\x00' ∉ (String.ofList (List.replicate 194 '#')).toList := by
    intro member
    rw [String.toList_ofList] at member
    cases List.eq_of_mem_replicate member
  exact read_whole_iff rfl (clean_append (clean_append (by decide) comment) (by decide))

/-- A comment that fills the buffer, and the text that is read as a line of its own. -/
def long_comment : String := String.ofList (List.replicate 194 '#') ++ "a=b\n"

def comment_conf : Conf where
  entries := []
  distinct := List.nodup_nil
  system_file := some long_comment
  writable := true
  get_conf_ro := fun _ => none

theorem comment_text : long_comment.toList = List.replicate 194 '#' ++ "a=b\n".toList := by
  have text (marks : List Char) : (String.ofList marks ++ "a=b\n").toList = marks ++ "a=b\n".toList := by
    rw [String.toList_append, String.toList_ofList]
  exact text _

/-- The end of a long comment is loaded. -/
theorem comment_read : ¬ ReadWhole comment_conf long_comment := by
  intro whole
  have entries := whole.entries
  simp only [init_conf, comment_conf, conf_lines, text_lines, comment_text] at entries
  exact absurd entries (by decide +kernel)

end SteamRecovery.ConfigLines
