import SteamRecovery.ConfigFiles
import SteamRecovery.Groups

/-!
Reading `afterburner.conf` (`do_steam_afterburner` in `oem.c`) with its buffer and its
allocations. A piece that is only a newline is cut in front of the buffer, and the pieces of
a long line are taken for lines (`parsed_iff`).
-/
namespace SteamRecovery.AfterburnerFile
open SteamRecovery.CStrings SteamRecovery.Groups
open SteamRecovery.ConfigFiles (chomp)

/-- `struct aftConfig`, where `commnum` is the length of the commands. -/
structure AftConfig where
  id : List Char
  name : Option (List Char)
  help : Option (List Char)
  commands : List (List Char)
  selected : Bool
  deriving DecidableEq

/-- `strstr(command,word)==command` -/
def starts (word : String) (command : List Char) : Bool := word.toList.isPrefixOf command

/-- What is done to `curr`, the last node. What is stored in `initialConfig` is never used. -/
def change (list : List AftConfig) (curr : AftConfig → AftConfig) : List AftConfig := list.modify (list.length - 1) curr

/-- The bytes of `command` that `fgets` wrote, and `l`. -/
structure Buffer where
  command : List Char
  l : Int

/-- `if (command[l-1]==c) { command[l-1]='\0'; l--; }`. It is `none` outside the buffer. -/
def strip (c : Char) (b : Buffer) : Option Buffer :=
  let i := b.l - 1
  if 0 ≤ i ∧ i < b.command.length then
    if b.command[i.toNat]? = some c then some ⟨b.command.set i.toNat '\x00', i⟩ else some b
  else none

/-- `strcpy(malloc(size),src)`. It is `none` behind the end of the allocation. -/
def copy (size : Int) (src : List Char) : Option (List Char) := if (src.length : Int) + 1 ≤ size then some src else none

/-- The body of the loop, for the list behind `initialConfig`. -/
def parse_piece (list : List AftConfig) (piece : List Char) : Option (List AftConfig) :=
  let l := (c_string '\x00' piece).length
  if 0 < l then
    match (strip '\n' ⟨piece ++ ['\x00'], l⟩).bind (strip '\r') with
    | none => none
    | some ⟨command, l⟩ =>
      let command := c_string '\x00' command
      if starts "---[ID:" command then
        (copy (l - 6) (command.drop 7)).map fun id => list ++ [⟨id, none, none, [], false⟩]
      else if starts "---[NAME:" command then
        (copy (l - 8) (command.drop 9)).map fun name => change list fun curr => { curr with name := some name }
      else if starts "---[HELP:" command then
        (copy (l - 8) (command.drop 9)).map fun help => change list fun curr => { curr with help := some help }
      else if starts "---[SELECTED:1" command then some (change list fun curr => { curr with selected := true })
      else (copy (l + 1) command).map fun command => change list fun curr => { curr with commands := curr.commands ++ [command] }
  else some list

/-- `while (fgets(command,1024+1,f))`. -/
def parse (text : List Char) : Option (List AftConfig) := (pieces '\n' 1024 [] text).foldlM parse_piece []

/-! ### What a file says -/

/-- A text without the newline and then the carriage return at its end. -/
def chop (command : List Char) : List Char :=
  let command := chomp command
  if command.getLast? = some '\r' then command.dropLast else command

/-- What a line without its ending makes of the list. -/
def parse_line (list : List AftConfig) (command : List Char) : List AftConfig :=
  if starts "---[ID:" command then list ++ [⟨command.drop 7, none, none, [], false⟩]
  else if starts "---[NAME:" command then change list fun curr => { curr with name := some (command.drop 9) }
  else if starts "---[HELP:" command then change list fun curr => { curr with help := some (command.drop 9) }
  else if starts "---[SELECTED:1" command then change list fun curr => { curr with selected := true }
  else change list fun curr => { curr with commands := curr.commands ++ [command] }

/-- The names, the help and the selection of a package are no commands. -/
def item (line : List Char) : Item (List Char) :=
  if starts "---[ID:" line then .start
  else if starts "---[NAME:" line || starts "---[HELP:" line || starts "---[SELECTED:1" line then .skip
  else .element line

/-- A line without its LF or CRLF. -/
def without_ending (line : List Char) : List Char := if line.getLast? = some '\n' then chop line else line

/-- The commands of the packages, in order. -/
def packages (text : List Char) : List (List (List Char)) :=
  groups ((raw_lines '\n' text).map fun line => item (without_ending line))

/-- No access is outside the buffer or an allocation, and each package has its lines. -/
def Parsed (text : List Char) : Prop :=
  ∃ list, parse text = some list ∧ list.map (·.commands) = packages text

/-- What does not fit into the buffer with the start of its line. -/
def later_pieces (line : List Char) : List (List Char) := pieces '\n' 1024 [] (line.drop 1024)

/-- A command fits into the buffer, and does not lose a carriage return that is not part of a line
    ending; of another line, what does not fit is passed over. -/
def Whole (line : List Char) : Prop :=
  ((item line).isElement = true → line.length ≤ 1024 ∧ line.getLast? ≠ some '\r') ∧
    ∀ piece ∈ later_pieces line, item piece = .skip

/-! ### Pieces -/

theorem strip_end (c : Char) (text rest : List Char) (some_char : text ≠ []) :
    ∃ behind, strip c ⟨text ++ '\x00' :: rest, text.length⟩ =
      let left := if text.getLast? = some c then text.dropLast else text
      some ⟨left ++ '\x00' :: behind, left.length⟩ := by
  obtain ⟨body, last, rfl⟩ := (List.eq_nil_or_concat' text).resolve_left some_char
  have inside : (0 : Int) ≤ ((body ++ [last]).length : Int) - 1 ∧
      ((body ++ [last]).length : Int) - 1 < ((body ++ [last] ++ '\x00' :: rest).length : Int) := by
    simp only [List.length_append, List.length_cons, List.length_nil]
    omega
  have index : (((body ++ [last]).length : Int) - 1).toNat = body.length := by
    simp
  unfold strip
  dsimp only
  rw [if_pos inside, index, List.getLast?_concat, List.dropLast_concat]
  have here : (body ++ [last] ++ '\x00' :: rest)[body.length]? = some last := by simp
  rw [here]
  by_cases same : some last = some c
  · refine ⟨'\x00' :: rest, ?_⟩
    rw [if_pos same, if_pos same]
    simp
  · refine ⟨rest, ?_⟩
    rw [if_neg same, if_neg same]

theorem starts_length {word : String} {command : List Char} (begins : starts word command = true) :
    word.toList.length ≤ command.length := (List.isPrefixOf_iff_prefix.mp begins).length_le

theorem copy_fits {size : Int} {src : List Char} (fits : (src.length : Int) + 1 ≤ size) : copy size src = some src := if_pos fits

/-- A text, or what stands before the character at its end. -/
theorem drop_last_prefix (c : Char) (text : List Char) :
    ∃ ending, text = (if text.getLast? = some c then text.dropLast else text) ++ ending ∧ ∀ other ∈ ending, other = c := by
  split
  · rename_i ended
    obtain ⟨body, rfl⟩ := List.getLast?_eq_some_iff.mp ended
    exact ⟨[c], by rw [List.dropLast_concat], by simp⟩
  · exact ⟨[], by simp, by simp⟩

theorem chop_prefix (command : List Char) : ∃ ending, command = chop command ++ ending ∧ ∀ c ∈ ending, c = '\n' ∨ c = '\r' := by
  obtain ⟨newline, first, newlines⟩ := drop_last_prefix '\n' command
  obtain ⟨return_, second, returns⟩ := drop_last_prefix '\r' (chomp command)
  refine ⟨return_ ++ newline, ?_, ?_⟩
  · rw [← List.append_assoc, chop, ← second]
    exact first
  · intro c member
    rcases List.mem_append.mp member with cr | lf
    · exact .inr (returns c cr)
    · exact .inl (newlines c lf)

theorem chomp_nonempty {piece : List Char} (some_char : piece ≠ []) (blank : piece ≠ ['\n']) : chomp piece ≠ [] := by
  unfold chomp
  split
  · rename_i ended
    obtain ⟨body, rfl⟩ := List.getLast?_eq_some_iff.mp ended
    rw [List.dropLast_concat]
    rintro rfl
    exact blank rfl
  · exact some_char

/-- What is stored fits; only a newline alone is read outside the buffer. -/
theorem parse_piece_eq (list : List AftConfig) {piece : List Char} (clean : '\x00' ∉ piece) (some_char : piece ≠ []) :
    parse_piece list piece = if piece = ['\n'] then none else some (parse_line list (chop piece)) := by
  unfold parse_piece
  dsimp only
  rw [c_string_of_clean clean, if_pos (List.length_pos_iff.mpr some_char)]
  obtain ⟨behind, newline⟩ := strip_end '\n' piece [] some_char
  rw [newline]
  dsimp only
  rw [← chomp, Option.bind_some]
  by_cases blank : piece = ['\n']
  · subst blank
    rw [if_pos rfl]
    rfl
  rw [if_neg blank]
  obtain ⟨last, ended⟩ := strip_end '\r' (chomp piece) behind (chomp_nonempty some_char blank)
  rw [ended]
  dsimp only
  rw [← chop]
  obtain ⟨ending, whole, _⟩ := chop_prefix piece
  have chop_clean : '\x00' ∉ chop piece := fun member => clean (by rw [whole]; exact List.mem_append_left _ member)
  rw [c_string_append chop_clean]
  generalize chop piece = command
  unfold parse_line
  split
  · rename_i begins
    have length : 7 ≤ command.length := starts_length begins
    rw [copy_fits (by rw [List.length_drop]; omega)]
    rfl
  split
  · rename_i begins
    have length : 9 ≤ command.length := starts_length begins
    rw [copy_fits (by rw [List.length_drop]; omega)]
    rfl
  split
  · rename_i begins
    have length : 9 ≤ command.length := starts_length begins
    rw [copy_fits (by rw [List.length_drop]; omega)]
    rfl
  split
  · rfl
  · rw [copy_fits (Int.le_refl _)]
    rfl

/-- A file is read line by line, where no piece is only a newline. -/
theorem parse_eq {text : List Char} (clean : '\x00' ∉ text) :
    parse text = if ['\n'] ∈ pieces '\n' 1024 [] text then none
      else some (((pieces '\n' 1024 [] text).map chop).foldl parse_line []) := by
  have pieces_clean : ∀ piece ∈ pieces '\n' 1024 [] text, '\x00' ∉ piece ∧ piece ≠ [] := by
    intro piece read
    refine ⟨fun member => clean ?_, pieces_nonempty read⟩
    have inside : '\x00' ∈ (pieces '\n' 1024 [] text).flatten := List.mem_flatten.mpr ⟨piece, read, member⟩
    rwa [pieces_flatten] at inside
  unfold parse
  generalize pieces '\n' 1024 [] text = read at pieces_clean
  generalize ([] : List AftConfig) = list
  induction read generalizing list with
  | nil => rfl
  | cons piece rest ih =>
    obtain ⟨⟨piece_clean, some_char⟩, rest_clean⟩ := List.forall_mem_cons.mp pieces_clean
    rw [List.foldlM_cons, parse_piece_eq list piece_clean some_char]
    by_cases blank : piece = ['\n']
    · rw [if_pos blank, if_pos (List.mem_cons.mpr (.inl blank.symm))]
      rfl
    · rw [if_neg blank, Option.bind_eq_bind, Option.bind_some, ih rest_clean]
      simp [Ne.symm blank]

/-! ### Packages -/

/-- The last group is longer, if there is one. -/
def extend (groups : List (List (List Char))) (more : List (List Char)) : List (List (List Char)) :=
  groups.modify (groups.length - 1) (· ++ more)

theorem map_change (list : List AftConfig) (curr : AftConfig → AftConfig) (more : List (List Char))
    (same : ∀ s, (curr s).commands = s.commands ++ more) :
    (change list curr).map (·.commands) = extend (list.map (·.commands)) more := by
  rw [change, extend, List.length_map]
  refine List.ext_getElem? fun i => ?_
  rw [List.getElem?_map, List.getElem?_modify, List.getElem?_modify, List.getElem?_map]
  cases list[i]? with
  | none => rfl
  | some s =>
    simp only [Option.map_eq_map, Option.map_some]
    split
    · rw [same]
    · rfl

theorem extend_nil (groups : List (List (List Char))) : extend groups [] = groups := by
  rw [extend]
  refine List.ext_getElem? fun i => ?_
  rw [List.getElem?_modify]
  split <;> simp

theorem extend_extend (groups : List (List (List Char))) (first second : List (List Char)) :
    extend (extend groups first) second = extend groups (first ++ second) := by
  refine List.ext_getElem? fun i => ?_
  simp only [extend, List.length_modify, List.getElem?_modify]
  split <;> cases groups[i]? <;> simp

theorem extend_concat (groups : List (List (List Char))) (last more : List (List Char)) :
    extend (groups ++ [last]) more = groups ++ [last ++ more] := by
  refine List.ext_getElem? fun i => ?_
  rw [extend, List.getElem?_modify, List.length_append, List.length_singleton, Nat.add_sub_cancel]
  by_cases before : i < groups.length
  · rw [List.getElem?_append_left before, List.getElem?_append_left before]
    simp [show groups.length ≠ i by omega]
  · rw [List.getElem?_append_right (by omega), List.getElem?_append_right (by omega)]
    by_cases here : groups.length = i
    · simp [here]
    · simp [here, show i - groups.length ≠ 0 by omega]

/-- The packages that are read are those of the items. -/
theorem parse_lines_groups (commands : List (List Char)) (list : List AftConfig) :
    (commands.foldl parse_line list).map (·.commands) =
      extend (list.map (·.commands)) (cut (commands.map item)).1 ++ groups (commands.map item) := by
  induction commands generalizing list with
  | nil => simp [cut, groups, extend_nil]
  | cons command rest ih =>
    rw [List.foldl_cons, ih, List.map_cons, groups, groups]
    unfold parse_line item
    by_cases id : starts "---[ID:" command = true
    · rw [if_pos id, if_pos id, cut, List.map_append, List.map_singleton, extend_concat, extend_nil]
      simp
    rw [if_neg id, if_neg id]
    by_cases name : starts "---[NAME:" command = true
    · simp [name, cut, map_change _ _ [], extend_nil]
    by_cases help : starts "---[HELP:" command = true
    · simp [name, help, cut, map_change _ _ [], extend_nil]
    by_cases selected : starts "---[SELECTED:1" command = true
    · simp [name, help, selected, cut, map_change _ _ [], extend_nil]
    · have others : ¬(starts "---[NAME:" command || starts "---[HELP:" command || starts "---[SELECTED:1" command) = true := by
        simp [name, help, selected]
      rw [if_neg name, if_neg help, if_neg selected, if_neg others, cut, map_change _ _ [command] fun _ => rfl, extend_extend]
      rfl

/-! ### Kinds of lines -/

def prefixes : List String := ["---[ID:", "---[NAME:", "---[HELP:", "---[SELECTED:1"]

/-- Two texts start alike. -/
def Alike (text other : List Char) : Prop := ∀ word ∈ prefixes, starts word text = starts word other

theorem alike_symm {text other : List Char} (alike : Alike text other) : Alike other text :=
  fun word member => (alike word member).symm

theorem alike_trans {text other third : List Char} (first : Alike text other) (second : Alike other third) : Alike text third :=
  fun word member => (first word member).trans (second word member)

theorem starts_append {word : String} {text ending : List Char} (apart : ∀ c ∈ ending, c ∉ word.toList) :
    starts word (text ++ ending) = starts word text := by
  rw [Bool.eq_iff_iff, starts, starts, List.isPrefixOf_iff_prefix, List.isPrefixOf_iff_prefix]
  constructor
  · intro begins
    by_cases inside : word.toList.length ≤ text.length
    · exact List.prefix_of_prefix_length_le begins (List.prefix_append _ _) inside
    · obtain ⟨behind, whole⟩ := List.prefix_of_prefix_length_le (List.prefix_append text ending) begins (by omega)
      rw [← whole, List.prefix_append_right_inj] at begins
      cases behind with
      | nil =>
        rw [← whole, List.append_nil] at inside
        exact absurd (Nat.le_refl _) inside
      | cons c rest =>
        have in_word : c ∈ word.toList := by
          rw [← whole]
          simp
        exact absurd in_word (apart c (begins.subset List.mem_cons_self))
  · exact fun begins => begins.trans (List.prefix_append _ _)

theorem alike_chop (text : List Char) : Alike (chop text) text := by
  intro word member
  obtain ⟨ending, whole, ends⟩ := chop_prefix text
  conv_rhs => rw [whole]
  refine (starts_append fun c inside => ?_).symm
  have plain : ∀ word ∈ prefixes, '\n' ∉ word.toList ∧ '\r' ∉ word.toList := by decide
  rcases ends c inside with rfl | rfl
  · exact (plain word member).1
  · exact (plain word member).2

theorem alike_take (text : List Char) : Alike (text.take 1024) text := by
  intro word member
  have short : ∀ word ∈ prefixes, word.toList.length ≤ 1024 := by decide
  rw [Bool.eq_iff_iff, starts, starts, List.isPrefixOf_iff_prefix, List.isPrefixOf_iff_prefix, List.prefix_take_iff,
    and_iff_left (short word member)]

theorem alike_ending (line : List Char) : Alike (without_ending line) line := by
  unfold without_ending
  split
  · exact alike_chop line
  · exact fun _ _ => rfl

theorem alike_kind {text other : List Char} (alike : Alike text other) :
    (item text).isStart = (item other).isStart ∧ (item text).isElement = (item other).isElement ∧
      (item text = .skip ↔ item other = .skip) := by
  unfold item
  rw [alike "---[ID:" (by decide), alike "---[NAME:" (by decide), alike "---[HELP:" (by decide),
    alike "---[SELECTED:1" (by decide)]
  split
  · simp
  split
  · simp
  · simp [Item.isStart, Item.isElement]

theorem isStart_item (text : List Char) : (item text).isStart = starts "---[ID:" text := by
  unfold item
  split
  · rename_i id
    exact id.symm
  · rename_i other
    rw [Bool.not_eq_true] at other
    rw [other]
    split <;> rfl

/-! ### Lines and their pieces -/

def reading (line : List Char) : Reading (List Char) where
  expected := item (without_ending line)
  first := item (chop (line.take 1024))
  more := (later_pieces line).map fun piece => item (chop piece)
  same_start := (alike_kind (alike_trans (alike_chop _) (alike_trans (alike_take line) (alike_symm (alike_ending line))))).1
  same_element := (alike_kind (alike_trans (alike_chop _) (alike_trans (alike_take line) (alike_symm (alike_ending line))))).2.1

theorem read_pieces (text : List Char) :
    read_items ((raw_lines '\n' text).map reading) = ((pieces '\n' 1024 [] text).map chop).map item := by
  have plain := raw_lines_plain '\n' text
  rw [pieces_raw_lines]
  generalize raw_lines '\n' text = lines at plain
  induction lines with
  | nil => rfl
  | cons line rest ih =>
    obtain ⟨⟨some_char, one_line⟩, plain⟩ := List.forall_mem_cons.mp plain
    rw [List.map_cons, read_items, List.flatMap_cons, ← read_items, ih plain, List.flatMap_cons,
      pieces_take some_char one_line (by decide)]
    simp [reading, later_pieces]

theorem item_element {text : List Char} (element : (item text).isElement = true) : item text = .element text := by
  unfold item at element ⊢
  split
  · rename_i id
    rw [if_pos id] at element
    cases element
  split
  · rename_i other info
    rw [if_neg other, if_pos info] at element
    cases element
  · rfl

theorem skip_length {text : List Char} (skipped : item text = .skip) : 9 ≤ text.length := by
  unfold item at skipped
  split at skipped
  · cases skipped
  split at skipped
  · rename_i info
    simp only [Bool.or_eq_true] at info
    rcases info with (name | help) | selected
    · exact starts_length name
    · exact starts_length help
    · exact Nat.le_trans (by decide) (starts_length selected)
  · cases skipped

theorem chop_length (command : List Char) : command.length ≤ (chop command).length + 2 := by
  have once (c : Char) (text : List Char) : text.length ≤ (if text.getLast? = some c then text.dropLast else text).length + 1 := by
    split
    · rw [List.length_dropLast]
      omega
    · omega
  have newline := once '\n' command
  have return_ := once '\r' (chomp command)
  rw [← chomp] at newline
  rw [← chop] at return_
  omega

/-- Of a command that does not fit into the buffer, some is lost. -/
theorem chop_take_iff {line : List Char} (some_char : line ≠ []) (one_line : '\n' ∉ line.dropLast)
    (passed : ∀ piece ∈ later_pieces line, item piece = .skip) :
    chop (line.take 1024) = without_ending line ↔ line.length ≤ 1024 ∧ line.getLast? ≠ some '\r' := by
  by_cases short : line.length ≤ 1024
  · rw [List.take_of_length_le short, and_iff_right short, without_ending]
    split
    · rename_i newline
      rw [newline]
      simp
    · rename_i other
      rw [chop, chomp, if_neg other]
      split
      · rename_i cr
        refine iff_of_false (fun same => ?_) (not_not.mpr cr)
        have shorter := congrArg List.length same
        have positive := List.length_pos_iff.mpr some_char
        rw [List.length_dropLast] at shorter
        omega
      · rename_i plain
        exact iff_of_true rfl plain
  · refine iff_of_false (fun same => ?_) fun both => short both.1
    have some_left : line.drop 1024 ≠ [] := by
      rw [Ne, List.drop_eq_nil_iff]
      exact short
    have plain_left : '\n' ∉ (line.drop 1024).dropLast := by
      have whole : line.dropLast = line.take 1024 ++ (line.drop 1024).dropLast := by
        conv_lhs => rw [← List.take_append_drop 1024 line, List.dropLast_append_of_ne_nil some_left]
      rw [whole] at one_line
      exact fun member => one_line (List.mem_append_right _ member)
    have first := passed ((line.drop 1024).take 1024) (by
      rw [later_pieces, pieces_take some_left plain_left (by decide)]
      exact List.mem_cons_self)
    -- the rest is as long as a word that is passed over, and more than a line ending
    have long := skip_length first
    have lost : line.length ≤ (without_ending line).length + 2 := by
      unfold without_ending
      split
      · exact chop_length line
      · omega
    have kept : (chop (line.take 1024)).length ≤ 1024 := by
      obtain ⟨ending, whole, _⟩ := chop_prefix (line.take 1024)
      have both := congrArg List.length whole
      rw [List.length_append, List.length_take] at both
      omega
    rw [List.length_take, List.length_drop] at long
    rw [same] at kept
    omega

theorem exact_reading_iff {line : List Char} (some_char : line ≠ []) (one_line : '\n' ∉ line.dropLast) :
    Exact (reading line) ↔ Whole line := by
  have skipped : (∀ found ∈ (reading line).more, found = .skip) ↔ ∀ piece ∈ later_pieces line, item piece = .skip := by
    simp only [reading, List.forall_mem_map]
    exact forall₂_congr fun piece _ => (alike_kind (alike_chop piece)).2.2
  unfold Exact Whole
  rw [skipped]
  refine and_congr_left fun passed => ?_
  rw [← chop_take_iff some_char one_line passed]
  have same_start := (reading line).same_start
  have same_element := (reading line).same_element
  have kind := alike_kind (alike_ending line)
  rw [← kind.2.1]
  show item (chop (line.take 1024)) = item (without_ending line) ↔ _
  change (item (chop (line.take 1024))).isStart = (item (without_ending line)).isStart at same_start
  change (item (chop (line.take 1024))).isElement = (item (without_ending line)).isElement at same_element
  cases element : (item (without_ending line)).isElement with
  | true =>
    rw [item_element element, item_element (same_element.trans element)]
    simp
  | false =>
    rw [element] at same_element
    simp only [Bool.false_eq_true, false_implies, iff_true]
    cases start : (item (without_ending line)).isStart with
    | true =>
      rw [start] at same_start
      rw [(start_iff _).mp start, (start_iff _).mp same_start]
    | false =>
      rw [start] at same_start
      rw [item_skip start element, item_skip same_start same_element]

/-- The file is parsed as it should be if no piece is only a newline, no line is started by what did
    not fit into the buffer, and behind the first package every line is whole. -/
theorem parsed_iff {text : List Char} (clean : '\x00' ∉ text) :
    Parsed text ↔
      (∀ piece ∈ pieces '\n' 1024 [] text, piece ≠ ['\n']) ∧
        (∀ line ∈ raw_lines '\n' text, ∀ piece ∈ later_pieces line, starts "---[ID:" piece = false) ∧
        ∀ line ∈ (raw_lines '\n' text).dropWhile (fun line => !starts "---[ID:" line), Whole line := by
  have plain := raw_lines_plain '\n' text
  have read : Parsed text ↔ ['\n'] ∉ pieces '\n' 1024 [] text ∧
      groups (read_items ((raw_lines '\n' text).map reading)) = groups (wanted_items ((raw_lines '\n' text).map reading)) := by
    have wanted : wanted_items ((raw_lines '\n' text).map reading) =
        (raw_lines '\n' text).map fun line => item (without_ending line) := by
      rw [wanted_items, List.map_map]
      rfl
    rw [Parsed, parse_eq clean, read_pieces, wanted, ← packages]
    by_cases blank : ['\n'] ∈ pieces '\n' 1024 [] text
    · simp [blank]
    · rw [if_neg blank]
      simp only [Option.some.injEq, exists_eq_left', blank, not_false_iff, true_and]
      rw [parse_lines_groups]
      simp [extend]
  have later (line : List Char) :
      .start ∉ (reading line).more ↔ ∀ piece ∈ later_pieces line, starts "---[ID:" piece = false := by
    simp only [reading, List.mem_map, not_exists, not_and, ← start_iff]
    refine forall₂_congr fun piece _ => ?_
    rw [(alike_kind (alike_chop piece)).1, isStart_item, Bool.not_eq_true]
  have starts_line : (fun r : Reading (List Char) => !r.expected.isStart) ∘ reading = fun line => !starts "---[ID:" line := by
    funext line
    show (!(item (without_ending line)).isStart) = _
    rw [(alike_kind (alike_ending line)).1, isStart_item]
  rw [read, groups_agree_iff, List.forall_mem_map, List.dropWhile_map, List.forall_mem_map, starts_line]
  refine and_congr ?_ (and_congr (forall₂_congr fun line _ => later line) (forall₂_congr fun line member => ?_))
  · constructor
    · rintro absent piece member rfl
      exact absent member
    · exact fun other member => other _ member rfl
  · obtain ⟨some_char, one_line⟩ := plain line ((List.dropWhile_suffix _).subset member)
    exact exact_reading_iff some_char one_line

theorem one_package :
    Parsed "---[ID:a\nrm /x\n".toList ↔
      (∀ piece ∈ pieces '\n' 1024 [] "---[ID:a\nrm /x\n".toList, piece ≠ ['\n']) ∧
        (∀ line ∈ raw_lines '\n' "---[ID:a\nrm /x\n".toList, ∀ piece ∈ later_pieces line, starts "---[ID:" piece = false) ∧
        ∀ line ∈ (raw_lines '\n' "---[ID:a\nrm /x\n".toList).dropWhile (fun line => !starts "---[ID:" line), Whole line :=
  parsed_iff (by decide)

/-- A blank line in a package. -/
theorem blank_line_read : ¬Parsed "---[ID:a\n\nrm /x\n".toList := by
  rintro ⟨list, read, _⟩
  have outside : parse "---[ID:a\n\nrm /x\n".toList = none := by rfl
  rw [outside] at read
  cases read

end SteamRecovery.AfterburnerFile
