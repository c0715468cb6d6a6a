import SteamRecovery.Packages
import SteamRecovery.Printing

/-!
Running scripts (`handle_update_script` in `legacy.c`, `run_script_from_buffer` in
`extendedcommands.c`). A command that fails is reported with the line that it is in, which
is found by a loop that is there twice. It is the right line as `named_iff` says.
-/
namespace SteamRecovery.UpdateScripts
open SteamRecovery.CStrings SteamRecovery.Printing
open SteamRecovery.Packages (Status)
open SteamRecovery.TextLog (Printed)

/-- The pointer `line`, before the loop sets it and behind. -/
inductive Line where
  | unset
  | NULL
  | here (offset : Nat)

/-- The loop, with offsets in `script_data` for the pointers. -/
structure Search where
  script_data : List Char
  line : Line
  next : Option Nat

/-- `memchr(line,'\n',script_data + script_len - line)`. It is `none` if it does not begin inside
    the script. -/
def memchr (script_data : List Char) (line script_len : Nat) : Option (Option Nat) :=
  if line ≤ script_len then some ((((script_data.take script_len).drop line).findIdx? (· = '\n')).map (line + ·))
  else none

/-- `while (next != NULL && ret-- > 0)`, for a number that is not negative. -/
def search (script_len : Nat) : Nat → Search → Option Search
  | 0, s => some s
  | ret + 1, s =>
    match s.next with
    | none => some s
    | some line =>
      match memchr s.script_data line script_len with
      | none => none
      | some none => search script_len ret ⟨s.script_data, .here line, none⟩
      | some (some newline) => search script_len ret ⟨s.script_data.set newline '\x00', .here line, some (newline + 1)⟩

/-- `next ? line : "(not found)"`, where that is a string. -/
def reported (s : Search) : Option (List Char) :=
  match s.next, s.line with
  | none, _ => some "(not found)".toList
  | some _, .here line => if '\x00' ∈ s.script_data.drop line then some (c_string '\x00' (s.script_data.drop line)) else none
  | some _, _ => none

/-- The text that is reported for a code, where `line` is this before the loop. -/
def report (line : Line) (script_data : List Char) (script_len : Nat) (ret : Int) : Option (List Char) :=
  (search script_len ret.toNat ⟨script_data, line, some 0⟩).bind reported

def failure (num : Int) (line : List Char) : List Char :=
  "Failure at line ".toList ++ (toString num).toList ++ ":\n".toList ++ line ++ ['\n']

/-! ### The two functions -/

variable {Archive : Type}

/-- What is read from an archive. -/
structure Entry where
  data : List Char
  /-- Lengths in an archive have 32 bits. -/
  fits : data.length < 2 ^ 32

/-- What the code that is called does: the script and `g_package` decide what a run of the
    script returns and what `g_package` is behind it. -/
structure Outcomes (Archive : Type) where
  malloc : Bool
  mzReadZipEntry : Bool
  parseAmendScript : List Char → Bool
  execCommandList : List Char → Option Archive → Int × Option Archive

/-- What is returned, `g_package`, and the texts in the main log. -/
structure Ended (Archive : Type) where
  result : Status
  g_package : Option Archive
  log : List Printed

/-- The code that is returned, the data, and the text in the main log. There is no entry to
    read for `NULL`. -/
def read_data (o : Outcomes Archive) (entry : Option Entry) : Option (Int × List Char × List Printed) :=
  entry.map fun entry =>
    let len := (BitVec.ofNat 32 entry.data.length).toInt
    if len ≤ 0 then (-1, [], [LOGE ("Bad data length ".toList ++ (toString len).toList ++ ['\n'])])
    else if !o.malloc then
      (-2, [], [LOGE ("Can't allocate ".toList ++ (toString (len + 1)).toList ++ " bytes for data\n".toList)])
    else if !o.mzReadZipEntry then (-3, [], [LOGE "Error while reading data\n".toList])
    else (0, entry.data ++ ['\x00'], [])

def handle_update_script (o : Outcomes Archive) (update_script_entry : Option Entry) (g_package : Option Archive) :
    Option (Ended Archive) :=
  match read_data o update_script_entry with
  | none => none
  | some (code, script_data, log) =>
    if code < 0 then
      some ⟨.INSTALL_UPDATE_SCRIPT_MISSING, g_package, log ++ [LOGE "Can't read update script\n".toList]⟩
    else
      let script_len := script_data.length - 1
      let script := script_data.take script_len
      if !o.parseAmendScript script then some ⟨.INSTALL_ERROR, g_package, [LOGE "Syntax error in update script\n".toList]⟩
      else
        let ran := o.execCommandList script g_package
        let ret := ran.1
        if ret ≠ 0 then
          (report .unset script_data script_len ret).map fun line => ⟨.INSTALL_ERROR, ran.2, [LOGE (failure ret line)]⟩
        else some ⟨.INSTALL_SUCCESS, ran.2, [buf "Installation complete.\n".toList]⟩

/-- What is returned, and what is printed on `stdout`. -/
def run_script_from_buffer (parseAmendScript : List Char → Bool) (execCommandList : List Char → Int)
    (script_data : List Char) (script_len : Nat) (filename : List Char) : Option (Int × List Char) :=
  let script := script_data.take script_len
  if !parseAmendScript script then some (1, "Syntax error in update script\n".toList)
  else
    let parsed := "Parsed ".toList ++ filename.take script_len ++ ['\n']
    let ret := execCommandList script
    if ret ≠ 0 then (report .NULL script_data script_len ret).map fun line => (1, parsed ++ failure ret line)
    else some (0, parsed)

/-! ### The line that is found -/

/-- The lines of a script, the last one with or without a newline. -/
def lines (text : List Char) : List (List Char) :=
  let last := (text.splitOn '\n').getLastD []
  ended_lines '\n' text ++ if last = [] then [] else [last]

/-- Both functions report the same text, which is that of the line with this number, if there
    is one. -/
def Named (text : List Char) (n : Int) : Prop :=
  ∃ shown, report .unset (text ++ ['\x00']) text.length n = some shown ∧
    report .NULL (text ++ ['\x00']) text.length n = some shown ∧
    ∀ line, 1 ≤ n → (lines text)[n.toNat - 1]? = some line → shown = line

theorem memchr_newline {script line rest : List Char} (one_line : '\n' ∉ line) (behind : List Char) :
    memchr (script ++ (line ++ '\n' :: rest) ++ behind) script.length (script ++ (line ++ '\n' :: rest)).length =
      some (some (script.length + line.length)) := by
  have first : (line ++ '\n' :: rest).findIdx? (· = '\n') = some line.length := by
    rw [List.findIdx?_append, List.findIdx?_eq_none_iff.mpr (by
      intro c member
      simpa using ne_of_mem_of_not_mem member one_line)]
    simp [List.findIdx?_cons]
  rw [memchr, if_pos (by simp), List.take_left, List.drop_left, first, Option.map_some]

theorem memchr_none {script rest : List Char} (one_line : '\n' ∉ rest) (behind : List Char) :
    memchr (script ++ rest ++ behind) script.length (script ++ rest).length = some none := by
  have none_found : rest.findIdx? (· = '\n') = none := by
    rw [List.findIdx?_eq_none_iff]
    intro c member
    simpa using ne_of_mem_of_not_mem member one_line
  rw [memchr, if_pos (by simp), List.take_left, List.drop_left, none_found, Option.map_none]

theorem search_ended (script_len ret : Nat) (script_data : List Char) (line : Line) :
    search script_len ret ⟨script_data, line, none⟩ = some ⟨script_data, line, none⟩ := by
  cases ret <;> rfl

/-- A round goes on behind the next newline. -/
theorem search_newline {script line rest : List Char} (one_line : '\n' ∉ line) (ret : Nat) (before : Line) :
    search (script ++ (line ++ '\n' :: rest)).length (ret + 1)
        ⟨script ++ (line ++ '\n' :: rest) ++ ['\x00'], before, some script.length⟩ =
      search (script ++ line ++ ['\x00'] ++ rest).length ret
        ⟨script ++ line ++ ['\x00'] ++ rest ++ ['\x00'], .here script.length, some (script ++ line ++ ['\x00']).length⟩ := by
  have same_length : (script ++ (line ++ '\n' :: rest)).length = (script ++ line ++ ['\x00'] ++ rest).length := by
    simp
  have ended : (script ++ (line ++ '\n' :: rest) ++ ['\x00']).set (script.length + line.length) '\x00' =
      script ++ line ++ ['\x00'] ++ rest ++ ['\x00'] := by
    rw [← List.length_append, List.append_assoc, List.append_assoc, ← List.append_assoc script, List.set_append_right _ _ (Nat.le_refl _),
      Nat.sub_self]
    simp
  rw [search]
  dsimp only
  rw [memchr_newline one_line]
  dsimp only
  rw [ended, same_length]
  congr 3
  simp [Nat.add_assoc]

/-- Of the lines that are left, it is the one with this number, where that ends in a newline. -/
theorem search_line (ret : Nat) (script rest : List Char) (before : Line) :
    (search (script ++ rest).length (ret + 1) ⟨script ++ rest ++ ['\x00'], before, some script.length⟩).bind reported =
      some (((ended_lines '\n' rest)[ret]?.map (c_string '\x00')).getD "(not found)".toList) := by
  induction ret generalizing script rest before with
  | zero =>
    by_cases newline : '\n' ∈ rest
    · obtain ⟨line, more, rfl, one_line⟩ := List.eq_append_cons_of_mem newline
      have behind : (script ++ line ++ ['\x00'] ++ more ++ ['\x00']).drop script.length =
          line ++ '\x00' :: (more ++ ['\x00']) := by
        simp
      rw [search_newline one_line, search, Option.bind_some, reported]
      dsimp only
      rw [behind, if_pos (by simp), c_string_ended, ended_lines_cons one_line]
      rfl
    · rw [search]
      dsimp only
      rw [memchr_none newline, ended_lines_one newline]
      rfl
  | succ ret ih =>
    by_cases newline : '\n' ∈ rest
    · obtain ⟨line, more, rfl, one_line⟩ := List.eq_append_cons_of_mem newline
      rw [search_newline one_line, ih, ended_lines_cons one_line, List.getElem?_cons_succ]
    · rw [search]
      dsimp only
      rw [memchr_none newline, ended_lines_one newline]
      dsimp only
      rw [search_ended]
      rfl

/-- Whatever `line` was, it is set where the code is positive, and only there. -/
theorem report_eq (before : Line) (text : List Char) (n : Int) :
    report before (text ++ ['\x00']) text.length n =
      if 0 < n then some (((ended_lines '\n' text)[n.toNat - 1]?.map (c_string '\x00')).getD "(not found)".toList)
      else (reported ⟨text ++ ['\x00'], before, some 0⟩) := by
  unfold report
  split
  · rename_i positive
    obtain ⟨k, rfl⟩ : ∃ k : Nat, n = k + 1 := ⟨n.toNat - 1, by omega⟩
    exact search_line k [] text before
  · rename_i negative
    have no_round : n.toNat = 0 := by omega
    rw [no_round, search, Option.bind_some]

theorem report_defined (text : List Char) (n : Int) : report .unset (text ++ ['\x00']) text.length n ≠ none ↔ 0 < n := by
  rw [report_eq]
  split
  · rename_i positive
    exact iff_of_true (Option.some_ne_none _) positive
  · rename_i negative
    exact iff_of_false (fun defined => defined rfl) negative

/-- The line is named right if the code is not negative, the line has no `NUL`, and it ends in a
    newline: the last line without one is taken for none at all. -/
theorem named_iff (text : List Char) (n : Int) :
    Named text n ↔
      0 < n ∧ (∀ line, (ended_lines '\n' text)[n.toNat - 1]? = some line → '\x00' ∉ line) ∧
        ((ended_lines '\n' text).length + 1 = n → (text.splitOn '\n').getLastD [] ≠ [] →
          (text.splitOn '\n').getLastD [] = "(not found)".toList) := by
  unfold Named
  rw [report_eq, report_eq]
  by_cases positive : 0 < n
  · obtain ⟨k, rfl⟩ : ∃ k : Nat, n = k + 1 := ⟨n.toNat - 1, by omega⟩
    have number : ((k : Int) + 1).toNat - 1 = k := by omega
    rw [if_pos positive, if_pos positive, and_iff_right positive, number, lines]
    generalize (text.splitOn '\n').getLastD [] = last
    generalize ended_lines '\n' text = ended
    simp only [Option.some.injEq, exists_eq_left', true_and, show (1 : Int) ≤ k + 1 by omega, true_implies]
    rcases Nat.lt_trichotomy k ended.length with inside | at_end | behind
    · have here := List.getElem?_eq_getElem inside
      rw [List.getElem?_append_left inside, here]
      simp only [Option.some.injEq, forall_eq', Option.map_some, Option.getD_some]
      rw [and_iff_left (fun is_last => absurd is_last (by omega))]
      constructor
      · intro same
        rw [← same]
        exact c_string_clean _
      · exact c_string_of_clean
    · subst at_end
      rw [List.getElem?_append_right (Nat.le_refl _), Nat.sub_self, List.getElem?_eq_none (Nat.le_refl _)]
      by_cases empty : last = []
      · simp [empty]
      · simp [empty, eq_comm]
    · have few : (if last = [] then [] else [last]).length ≤ k - ended.length := by
        split
        · exact Nat.zero_le _
        · exact Nat.sub_pos_of_lt behind
      rw [List.getElem?_append_right (Nat.le_of_lt behind), List.getElem?_eq_none (Nat.le_of_lt behind),
        List.getElem?_eq_none few]
      simp only [reduceCtorEq, false_implies, implies_true, true_and, true_iff]
      intro is_last
      omega
  · simp [positive, reported]

/-- A script of one command, without a newline behind it. -/
theorem last_line_missed : ¬Named "format SYSTEM:".toList 1 := by
  rintro ⟨shown, found, _, same⟩
  rw [report_eq] at found
  have is_line := same _ (by decide) (show (lines "format SYSTEM:".toList)[0]? = some "format SYSTEM:".toList by decide)
  rw [is_line] at found
  exact absurd found (by decide)

end SteamRecovery.UpdateScripts
