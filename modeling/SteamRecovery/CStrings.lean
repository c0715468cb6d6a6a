import Mathlib.Algebra.Ring.Nat
import Mathlib.Data.List.Basic
import Mathlib.Data.List.TakeDrop
import Mathlib.Data.List.TakeWhile

/-!
C strings in buffers. A text is read piece by piece, each up to and with the next
newline as far as the buffer has room (`pieces`). A text in front of a newline is
split from what follows (`pieces_append`), and a line for which there is room is
one piece (`pieces_line`). Texts that are appended to a buffer one by one stand in
it as one text would (`strlcat_strlcpy`), and the lines of a text that was cut are
the tokens of what is left (`strtok_loop_cut`).
-/
namespace SteamRecovery.CStrings
variable {α : Type}

/-! ### Lines -/

/-- The lines of a text whose first `n` characters are left, where every line ends
    in a newline. -/
def cut_lines : Nat → List (List α) → List (List α)
  | _, [] => []
  | n, line :: rest =>
    if n = 0 then []
    else if n ≤ line.length then [line.take n]
    else line :: cut_lines (n - (line.length + 1)) rest

/-- The text that consists of the given lines. -/
def text_of (newline : α) (lines : List (List α)) : List α := lines.flatMap fun line => line ++ [newline]

theorem text_of_cons (newline : α) (line : List α) (rest : List (List α)) :
    text_of newline (line :: rest) = line ++ newline :: text_of newline rest := by
  simp [text_of]

/-- The beginning of a list, whose last element may be cut short. -/
def CutPrefix (cut lines : List (List α)) : Prop :=
  ∃ before line part rest, lines = before ++ line :: rest ∧ part ≠ [] ∧ part <+: line ∧ cut = before ++ [part]

theorem cut_lines_prefix {lines : List (List α)} (plain : ∀ line ∈ lines, line ≠ []) {n : Nat}
    (some_left : cut_lines n lines ≠ []) : CutPrefix (cut_lines n lines) lines := by
  induction lines generalizing n with
  | nil => exact absurd rfl some_left
  | cons line rest ih =>
    have some_char : line ≠ [] := plain line List.mem_cons_self
    rw [cut_lines] at some_left ⊢
    split at some_left
    · exact absurd rfl some_left
    rename_i positive
    rw [if_neg positive]
    split
    · exact ⟨[], line, line.take n, rest, rfl, by simp [positive, some_char], List.take_prefix n line, rfl⟩
    · by_cases none_left : cut_lines (n - (line.length + 1)) rest = []
      · exact ⟨[], line, line, rest, rfl, some_char, List.prefix_refl line, by rw [none_left]; rfl⟩
      · obtain ⟨before, last, part, later, split, some_part, cut, left⟩ :=
          ih (fun l member => plain l (List.mem_cons_of_mem line member)) none_left
        exact ⟨line :: before, last, part, later, by rw [split]; rfl, some_part, cut, by rw [left]; rfl⟩

theorem cut_lines_length (n : Nat) (lines : List (List α)) : (cut_lines n lines).length ≤ lines.length := by
  fun_induction cut_lines n lines with
  | case1 => exact Nat.le_refl _
  | case2 => exact Nat.zero_le _
  | case3 => simp
  | case4 n line rest _ _ ih => simpa using ih

theorem cut_lines_nonempty {n : Nat} (positive : n ≠ 0) {lines : List (List α)} (some_line : lines ≠ []) :
    cut_lines n lines ≠ [] := by
  obtain ⟨line, rest, rfl⟩ := List.exists_cons_of_ne_nil some_line
  rw [cut_lines, if_neg positive]
  split <;> simp

/-- All lines are left exactly where at most the last newline is missing. -/
theorem cut_lines_all {lines : List (List α)} (plain : ∀ line ∈ lines, line ≠ []) (n : Nat) :
    cut_lines n lines = lines ↔ (lines.map fun line => line.length + 1).sum ≤ n + 1 := by
  induction lines generalizing n with
  | nil => simp [cut_lines]
  | cons line rest ih =>
    have some_char : 0 < line.length := List.length_pos_iff.mpr (plain line List.mem_cons_self)
    have later := ih (fun l member => plain l (List.mem_cons_of_mem line member))
    rw [cut_lines, List.map_cons, List.sum_cons]
    split
    · simp
      omega
    split
    · rename_i positive inside
      cases rest with
      | nil =>
        simp only [List.cons.injEq, and_true, List.take_eq_self_iff, List.map_nil, List.sum_nil]
        omega
      | cons next others =>
        simp only [List.cons.injEq, reduceCtorEq, and_false, List.map_cons, List.sum_cons, false_iff]
        omega
    · rw [List.cons.injEq, and_iff_right rfl, later]
      omega

/-- A text that is cut behind every `room` characters. -/
def chunks (room : Nat) (text : List α) : List (List α) :=
  (List.range ((text.length + room - 1) / room)).map fun i => (text.drop (i * room)).take room

/-- What is left of some lines without the characters that end a line. -/
def stripped (ends : α → Bool) (lines : List (List α)) : List (List α) :=
  (lines.map fun line => line.filter fun c => !ends c).filter fun line => !line.isEmpty

theorem chunks_nil (positive : 0 < room) : chunks room ([] : List α) = [] := by
  rw [chunks, List.length_nil, Nat.zero_add, Nat.div_eq_of_lt (Nat.sub_lt positive Nat.one_pos)]
  rfl

theorem chunks_cons (positive : 0 < room) {text : List α} (some_char : text ≠ []) :
    chunks room text = text.take room :: chunks room (text.drop room) := by
  have long : 0 < text.length := List.length_pos_iff.mpr some_char
  have count : (text.length + room - 1) / room = ((text.drop room).length + room - 1) / room + 1 := by
    rw [List.length_drop]
    by_cases inside : room ≤ text.length
    · rw [← Nat.add_div_right _ positive]
      congr 1
      omega
    · have none_left : text.length - room + room - 1 = room - 1 := by omega
      have all : text.length + room - 1 = (text.length - 1) + room := by omega
      rw [none_left, all, Nat.add_div_right _ positive, Nat.div_eq_of_lt (by omega), Nat.div_eq_of_lt (by omega)]
  rw [chunks, count, List.range_succ_eq_map, List.map_cons, List.map_map]
  simp only [Nat.zero_mul, List.drop_zero, chunks, List.drop_drop]
  congr 1
  refine List.map_congr_left fun i _ => ?_
  simp only [Function.comp_apply, Nat.succ_mul, Nat.add_comm]

theorem stripped_append (ends : α → Bool) (first second : List (List α)) :
    stripped ends (first ++ second) = stripped ends first ++ stripped ends second := by
  simp [stripped]

theorem stripped_cons (ends : α → Bool) (line : List α) (rest : List (List α)) :
    stripped ends (line :: rest) = stripped ends [line] ++ stripped ends rest :=
  stripped_append ends [line] rest

variable [DecidableEq α]

/-! ### Reading -/

/-- The string that a buffer holds: what stands before the first `nul`. -/
def c_string (nul : α) (buffer : List α) : List α := buffer.takeWhile (· ≠ nul)

/-- What `while (fgets(line,room+1,f))` reads from a file, where the buffer holds
    `line` so far. -/
def pieces (newline : α) (room : Nat) (line : List α) : List α → List (List α)
  | [] => if line = [] then [] else [line]
  | c :: text =>
    if c = newline ∨ line.length + 1 = room then (line ++ [c]) :: pieces newline room [] text
    else pieces newline room (line ++ [c]) text

variable {newline nul : α} {room : Nat}

theorem c_string_clean (buffer : List α) : nul ∉ c_string nul buffer := by
  intro member
  simpa using List.mem_takeWhile_imp member

theorem c_string_of_clean {buffer : List α} (clean : nul ∉ buffer) : c_string nul buffer = buffer :=
  List.takeWhile_eq_self_iff.mpr fun _ member => decide_eq_true (ne_of_mem_of_not_mem member clean)

theorem c_string_append {text : List α} (clean : nul ∉ text) (rest : List α) :
    c_string nul (text ++ nul :: rest) = text := by
  rw [c_string, List.takeWhile_append_of_pos fun _ member => decide_eq_true (ne_of_mem_of_not_mem member clean),
    List.takeWhile_cons_of_neg (by simp), List.append_nil]

theorem strchr_append {text : List α} (clean : nul ∉ text) (rest : List α) :
    (text ++ nul :: rest).dropWhile (· ≠ nul) = nul :: rest := by
  rw [List.dropWhile_append_of_pos fun _ member => decide_eq_true (ne_of_mem_of_not_mem member clean),
    List.dropWhile_cons_of_neg (by simp)]

theorem c_string_one_line {buffer : List α} (one_line : newline ∉ buffer.dropLast) :
    newline ∉ (c_string nul buffer).dropLast := by
  intro member
  obtain ⟨rest, whole⟩ : c_string nul buffer <+: buffer := List.takeWhile_prefix _
  rw [← whole] at one_line
  by_cases all : rest = []
  · rw [all, List.append_nil] at one_line
    exact one_line member
  · rw [List.dropLast_append_of_ne_nil all] at one_line
    exact one_line (List.mem_append_left _ (List.dropLast_subset _ member))

/-- What ends in a newline is read as if it were a file of its own. -/
theorem pieces_append (text rest line : List α) :
    pieces newline room line (text ++ newline :: rest) =
      pieces newline room line (text ++ [newline]) ++ pieces newline room [] rest := by
  induction text generalizing line with
  | nil => simp [pieces]
  | cons c text ih =>
    rw [List.cons_append, List.cons_append, pieces, pieces]
    by_cases full : c = newline ∨ line.length + 1 = room
    · rw [if_pos full, if_pos full, ih, List.cons_append]
    · rw [if_neg full, if_neg full, ih]

/-- Nothing gets lost between the pieces. -/
theorem pieces_flatten (text line : List α) : (pieces newline room line text).flatten = line ++ text := by
  induction text generalizing line with
  | nil =>
    rw [pieces]
    split
    · rename_i none
      rw [none]
      rfl
    · simp
  | cons c text ih =>
    rw [pieces]
    split
    · rw [List.flatten_cons, ih]
      simp
    · rw [ih]
      simp

/-- A line for which there is room is one piece. -/
theorem pieces_line {text : List α} (one_line : newline ∉ text) (rest line : List α)
    (fits : line.length + text.length < room) :
    pieces newline room line (text ++ newline :: rest) =
      (line ++ text ++ [newline]) :: pieces newline room [] rest := by
  induction text generalizing line with
  | nil => simp [pieces]
  | cons c text ih =>
    obtain ⟨other, one_line⟩ := not_or.mp (mt List.mem_cons.mpr one_line)
    rw [List.length_cons] at fits
    have free : ¬ (c = newline ∨ line.length + 1 = room) := by
      rintro (same | full)
      · exact other same.symm
      · omega
    rw [List.cons_append, pieces, if_neg free, ih one_line (line ++ [c]) (by simp; omega)]
    simp

/-- The end of a text for which there is room is one piece as well. -/
theorem pieces_end {text : List α} (one_line : newline ∉ text) (line : List α)
    (fits : line.length + text.length < room) :
    pieces newline room line text = if line ++ text = [] then [] else [line ++ text] := by
  induction text generalizing line with
  | nil => simp [pieces]
  | cons c text ih =>
    obtain ⟨other, one_line⟩ := not_or.mp (mt List.mem_cons.mpr one_line)
    rw [List.length_cons] at fits
    have free : ¬ (c = newline ∨ line.length + 1 = room) := by
      rintro (same | full)
      · exact other same.symm
      · omega
    rw [pieces, if_neg free, ih one_line (line ++ [c]) (by simp; omega)]
    simp

/-- A text that fills the buffer is one piece, whatever follows it. -/
theorem pieces_full {text : List α} (one_line : newline ∉ text) (rest line : List α) (some_char : text ≠ [])
    (full : line.length + text.length = room) :
    pieces newline room line (text ++ rest) = (line ++ text) :: pieces newline room [] rest := by
  induction text generalizing line with
  | nil => exact absurd rfl some_char
  | cons c text ih =>
    obtain ⟨other, one_line⟩ := not_or.mp (mt List.mem_cons.mpr one_line)
    rw [List.length_cons] at full
    by_cases last : text = []
    · rw [last, List.length_nil] at full
      rw [last, List.singleton_append, pieces, if_pos (.inr full)]
    · have some_left : 0 < text.length := List.length_pos_iff.mpr last
      have free : ¬ (c = newline ∨ line.length + 1 = room) := by
        rintro (same | full)
        · exact other same.symm
        · omega
      rw [List.cons_append, pieces, if_neg free, ih one_line (line ++ [c]) last (by simp; omega)]
      simp

/-- A newline stands at most at the end of a piece. -/
theorem pieces_one_line {text line piece : List α} (one_line : newline ∉ line)
    (read : piece ∈ pieces newline room line text) : newline ∉ piece.dropLast := by
  induction text generalizing line with
  | nil =>
    rw [pieces] at read
    split at read
    · cases read
    · rw [List.mem_singleton.mp read]
      exact fun member => one_line (List.dropLast_subset line member)
  | cons c text ih =>
    rw [pieces] at read
    split at read
    · rcases List.mem_cons.mp read with rfl | later
      · rwa [List.dropLast_concat]
      · exact ih (by simp) later
    · rename_i free
      refine ih ?_ read
      intro member
      rcases List.mem_append.mp member with before | last
      · exact one_line before
      · exact free (.inl (List.mem_singleton.mp last).symm)

/-- The pieces of one line are its chunks, up to the newline. -/
theorem pieces_chunks {ends : α → Bool} (last : ends newline = true) (positive : 0 < room) {text : List α}
    (one_line : newline ∉ text) {ending : List α} (ended : ending = [] ∨ ending = [newline]) :
    stripped ends (pieces newline room [] (text ++ ending)) = stripped ends (chunks room text) := by
  induction hn : text.length using Nat.strong_induction_on generalizing text with
  | _ n ih =>
    by_cases short : text.length < room
    · have one_chunk : stripped ends (chunks room text) = stripped ends [text] := by
        by_cases empty : text = []
        · rw [empty, chunks_nil positive]
          rfl
        · rw [chunks_cons positive empty, List.take_of_length_le short.le, List.drop_eq_nil_of_le short.le,
            chunks_nil positive]
      rw [one_chunk]
      rcases ended with rfl | rfl
      · rw [List.append_nil, pieces_end one_line [] (by simpa using short), List.nil_append]
        split
        · rename_i empty
          rw [empty]
          rfl
        · rfl
      · rw [pieces_line one_line [] [] (by simpa using short)]
        simp [stripped, pieces, last]
    · have some_char : text ≠ [] := by
        rintro rfl
        exact short positive
      have full : (text.take room).length = room := List.length_take_of_le (Nat.not_lt.mp short)
      have taken : newline ∉ text.take room := fun member => one_line (List.mem_of_mem_take member)
      have left : newline ∉ text.drop room := fun member => one_line (List.mem_of_mem_drop member)
      have shorter : (text.drop room).length < n := by
        rw [List.length_drop]
        omega
      have split_text : text ++ ending = text.take room ++ (text.drop room ++ ending) := by
        rw [← List.append_assoc, List.take_append_drop]
      rw [split_text, pieces_full taken _ [] (by rw [← List.length_pos_iff, full]; exact positive) (by simpa using full),
        chunks_cons positive some_char, List.nil_append, stripped_cons ends (text.take room) (pieces _ _ _ _),
        stripped_cons ends (text.take room) (chunks _ _), ih _ shorter left rfl]

variable (newline) in
/-- A text is one line, or a line and what follows. -/
theorem line_induction {P : List α → Prop} (one : ∀ text, newline ∉ text → P text)
    (more : ∀ line rest, newline ∉ line → P rest → P (line ++ newline :: rest)) (text : List α) : P text := by
  induction hn : text.length using Nat.strong_induction_on generalizing text with
  | _ n ih =>
    by_cases one_line : newline ∈ text
    · obtain ⟨line, rest, rfl, before⟩ := List.eq_append_cons_of_mem one_line
      have shorter : rest.length < n := by
        rw [← hn, List.length_append, List.length_cons]
        omega
      exact more line rest before (ih _ shorter rest rfl)
    · exact one text one_line

/-- The pieces of a text are the chunks of its lines, up to the newlines. -/
theorem pieces_lines {ends : α → Bool} (last : ends newline = true) (positive : 0 < room) (text : List α) :
    stripped ends (pieces newline room [] text) = stripped ends ((text.splitOn newline).flatMap (chunks room)) := by
  induction text using line_induction newline with
  | one text one_line =>
    rw [List.splitOn_eq_singleton one_line, List.flatMap_singleton]
    simpa using pieces_chunks last positive one_line (Or.inl rfl)
  | more line rest before ih =>
    rw [pieces_append, stripped_append, pieces_chunks last positive before (Or.inr rfl), ih,
      List.splitOn_append_cons_self_of_not_mem before, List.flatMap_cons, stripped_append]

/-- The lines of a text that end in a newline. -/
def ended_lines (newline : α) (text : List α) : List (List α) := (text.splitOn newline).dropLast

theorem ended_lines_cons {line : List α} (one_line : newline ∉ line) (rest : List α) :
    ended_lines newline (line ++ newline :: rest) = line :: ended_lines newline rest := by
  rw [ended_lines, List.splitOn_append_cons_self_of_not_mem one_line, List.dropLast_cons_of_ne_nil (List.splitOn_ne_nil _ _),
    ended_lines]

theorem ended_lines_one {text : List α} (one_line : newline ∉ text) : ended_lines newline text = [] := by
  rw [ended_lines, List.splitOn_eq_singleton one_line]
  rfl

/-- The lines of a text with their newlines. The last one may have none. -/
def raw_lines (newline : α) (text : List α) : List (List α) :=
  let last := (text.splitOn newline).getLastD []
  (ended_lines newline text).map (· ++ [newline]) ++ if last = [] then [] else [last]

theorem raw_lines_cons {line : List α} (one_line : newline ∉ line) (rest : List α) :
    raw_lines newline (line ++ newline :: rest) = (line ++ [newline]) :: raw_lines newline rest := by
  have last : ((line ++ newline :: rest).splitOn newline).getLastD [] = (rest.splitOn newline).getLastD [] := by
    rw [List.splitOn_append_cons_self_of_not_mem one_line]
    obtain ⟨first, others, same⟩ := List.exists_cons_of_ne_nil (List.splitOn_ne_nil newline rest)
    rw [same]
    rfl
  rw [raw_lines, last, ended_lines_cons one_line, List.map_cons, List.cons_append, raw_lines]

theorem raw_lines_one {text : List α} (one_line : newline ∉ text) (some_char : text ≠ []) : raw_lines newline text = [text] := by
  rw [raw_lines, ended_lines_one one_line, List.splitOn_eq_singleton one_line]
  simp [some_char]

variable (newline) in
/-- A line is not empty, and a newline stands at most at its end. -/
theorem raw_lines_plain (text : List α) : ∀ line ∈ raw_lines newline text, line ≠ [] ∧ newline ∉ line.dropLast := by
  induction text using line_induction newline with
  | one text one_line =>
    by_cases empty : text = []
    · simp [empty, raw_lines, ended_lines]
    · rw [raw_lines_one one_line empty]
      intro line member
      rw [List.mem_singleton.mp member]
      exact ⟨empty, fun inside => one_line (List.dropLast_subset text inside)⟩
  | more line rest one_line ih =>
    rw [raw_lines_cons one_line, List.forall_mem_cons]
    exact ⟨⟨by simp, by rwa [List.dropLast_concat]⟩, ih⟩

/-- A text is read line by line. -/
theorem pieces_raw_lines (text : List α) :
    pieces newline room [] text = (raw_lines newline text).flatMap (pieces newline room []) := by
  induction text using line_induction newline with
  | one text one_line =>
    by_cases empty : text = []
    · simp [empty, raw_lines, ended_lines, pieces]
    · rw [raw_lines_one one_line empty, List.flatMap_singleton]
  | more line rest one_line ih => rw [pieces_append, raw_lines_cons one_line, List.flatMap_cons, ih]

/-- The first piece of a line, and the pieces of the rest. -/
theorem pieces_take {line : List α} (some_char : line ≠ []) (one_line : newline ∉ line.dropLast) (positive : 0 < room) :
    pieces newline room [] line = line.take room :: pieces newline room [] (line.drop room) := by
  by_cases short : line.length ≤ room
  · rw [List.take_of_length_le short, List.drop_eq_nil_of_le short]
    obtain ⟨body, c, rfl⟩ := (List.eq_nil_or_concat' line).resolve_left some_char
    rw [List.dropLast_concat] at one_line
    rw [List.length_append, List.length_singleton] at short
    by_cases ended : c = newline
    · rw [ended]
      exact pieces_line one_line [] [] (by rw [List.length_nil]; omega)
    · have plain : newline ∉ body ++ [c] := by
        simp [one_line, Ne.symm ended]
      by_cases full : body.length + 1 = room
      · have read := pieces_full plain [] [] (by simp) (by simpa using full)
        rwa [List.append_nil] at read
      · rw [pieces_end plain [] (by simp only [List.length_append, List.length_nil, List.length_singleton]; omega)]
        simp [pieces]
  · have full : (line.take room).length = room := List.length_take_of_le (by omega)
    have plain : newline ∉ line.take room := by
      rw [List.dropLast_eq_take] at one_line
      intro member
      have inside : line.take room <+: line.take (line.length - 1) := List.take_prefix_take_left (by omega)
      exact one_line (inside.subset member)
    have read := pieces_full plain (line.drop room) [] (by rw [← List.length_pos_iff, full]; exact positive)
      ((Nat.zero_add _).trans full)
    rwa [List.take_append_drop] at read

theorem pieces_nonempty {text line piece : List α} (read : piece ∈ pieces newline room line text) : piece ≠ [] := by
  induction text generalizing line with
  | nil =>
    rw [pieces] at read
    split at read
    · cases read
    · rename_i some_char
      rwa [List.mem_singleton.mp read]
  | cons c text ih =>
    rw [pieces] at read
    split at read
    · rcases List.mem_cons.mp read with rfl | later
      · simp
      · exact ih later
    · exact ih read

/-! ### Copying -/

/-- The buffer behind `strlcpy(dst,src,size)`. -/
def strlcpy (nul : α) (dst src : List α) (size : Nat) : List α :=
  if size = 0 then dst
  else
    let copied := (c_string nul src).take (size - 1)
    copied ++ nul :: dst.drop (copied.length + 1)

/-- The buffer behind `strlcat(dst,src,size)`. -/
def strlcat (nul : α) (dst src : List α) (size : Nat) : List α :=
  let held := c_string nul (dst.take size)
  held ++ strlcpy nul (dst.drop held.length) src (size - held.length)

theorem strlcpy_length {dst : List α} {size : Nat} (fits : size ≤ dst.length) (src : List α) :
    (strlcpy nul dst src size).length = dst.length := by
  unfold strlcpy
  split
  · rfl
  · simp only [List.length_append, List.length_cons, List.length_drop, List.length_take]
    omega

theorem strlcpy_clean {src : List α} (clean : nul ∉ src) (dst : List α) (size : Nat) :
    strlcpy nul dst src (size + 1) = src.take size ++ nul :: dst.drop ((src.take size).length + 1) := by
  simp only [strlcpy, Nat.succ_ne_zero, ↓reduceIte, c_string_of_clean clean, Nat.add_sub_cancel]

theorem strlcat_length {dst : List α} {size : Nat} (fits : size ≤ dst.length) (src : List α) :
    (strlcat nul dst src size).length = dst.length := by
  have held : (c_string nul (dst.take size)).length ≤ size :=
    Nat.le_trans (List.takeWhile_prefix _).length_le (List.length_take_le _ _)
  simp only [strlcat, List.length_append]
  rw [strlcpy_length (by rw [List.length_drop]; omega), List.length_drop]
  omega

/-- A buffer of the given size keeps its size. -/
theorem strlcat_size {dst : List α} {size : Nat} (same : dst.length = size) (src : List α) :
    (strlcat nul dst src size).length = size :=
  (strlcat_length (Nat.le_of_eq same.symm) src).trans same

theorem c_string_strlcpy (dst src : List α) (size : Nat) :
    c_string nul (strlcpy nul dst src (size + 1)) = (c_string nul src).take size := by
  simp only [strlcpy, Nat.succ_ne_zero, ↓reduceIte, Nat.add_sub_cancel]
  exact c_string_append (fun member => c_string_clean src (List.mem_of_mem_take member)) _

/-- What a buffer holds stays at its beginning. -/
theorem strlcat_keeps {dst : List α} {size : Nat} (fits : dst.length ≤ size) (src : List α) :
    c_string nul dst <+: c_string nul (strlcat nul dst src size) := by
  have clean : ∀ c ∈ c_string nul dst, decide (c ≠ nul) = true := fun c member =>
    decide_eq_true (ne_of_mem_of_not_mem member (c_string_clean dst))
  simp only [strlcat, List.take_of_length_le fits]
  generalize strlcpy nul _ src _ = rest
  generalize c_string nul dst = held at clean
  rw [c_string, List.takeWhile_append_of_pos clean]
  exact List.prefix_append held _

/-- A text that is appended stands behind the first one, as far as there is room. -/
theorem strlcat_strlcpy {text src : List α} (clean : nul ∉ text) (src_clean : nul ∉ src) {dst : List α} {size : Nat}
    (fits : dst.length = size + 1) :
    strlcat nul (strlcpy nul dst text (size + 1)) src (size + 1) = strlcpy nul dst (text ++ src) (size + 1) := by
  have whole : (strlcpy nul dst text (size + 1)).length = size + 1 :=
    (strlcpy_length (Nat.le_of_eq fits.symm) text).trans fits
  have both_clean : nul ∉ text ++ src := by
    simp [clean, src_clean]
  have room : size + 1 - (text.take size).length = (size - text.length) + 1 := by
    rw [List.length_take]
    omega
  unfold strlcat
  rw [List.take_of_length_le (Nat.le_of_eq whole), strlcpy_clean clean,
    c_string_append fun member => clean (List.mem_of_mem_take member)]
  simp only [List.drop_left, room]
  rw [strlcpy_clean src_clean, strlcpy_clean both_clean, List.take_append, List.append_assoc, List.drop_succ_cons,
    List.drop_drop, List.length_append, Nat.add_right_comm]

/-! ### Appending without a bound -/

/-- The memory from an address up to where it can be reached, and the number of bytes
    behind which nothing was written. -/
structure Block (α : Type) where
  bytes : List α
  written : Nat

/-- The memory behind `strcat(s,src)`. `none` is an access to what cannot be reached. -/
def strcat (nul : α) (s : Block α) (src : List α) : Option (Block α) :=
  let held := c_string nul s.bytes
  let size := held.length + src.length + 1
  if size ≤ s.bytes.length then some ⟨held ++ src ++ nul :: s.bytes.drop size, max s.written size⟩ else none

/-- Texts that are appended one by one stand behind what the memory holds. -/
theorem strcat_all {srcs : List (List α)} (clean : ∀ src ∈ srcs, nul ∉ src) (some_src : srcs ≠ []) (s : Block α) :
    srcs.foldlM (strcat nul) s = strcat nul s srcs.flatten := by
  induction srcs generalizing s with
  | nil => exact absurd rfl some_src
  | cons src rest ih =>
    obtain ⟨src_clean, rest_clean⟩ := List.forall_mem_cons.mp clean
    rw [List.foldlM_cons, List.flatten_cons]
    by_cases last : rest = []
    · simp [last]
    · have both_clean : nul ∉ c_string nul s.bytes ++ src := by
        simp [c_string_clean s.bytes, src_clean]
      simp only [strcat, List.length_append]
      generalize c_string nul s.bytes = held at both_clean
      by_cases reached : held.length + src.length + 1 ≤ s.bytes.length
      · rw [if_pos reached]
        simp only [Option.bind_eq_bind, Option.bind_some, ih rest_clean last, strcat, c_string_append both_clean]
        have dropped : (held ++ src ++ nul :: s.bytes.drop (held.length + src.length + 1)).drop
            ((held ++ src).length + rest.flatten.length + 1) =
            s.bytes.drop (held.length + (src.length + rest.flatten.length) + 1) := by
          rw [Nat.add_assoc, List.drop_length_add_append, List.drop_succ_cons, List.drop_drop]
          congr 1
          omega
        have whole : (held ++ src ++ nul :: s.bytes.drop (held.length + src.length + 1)).length = s.bytes.length := by
          simp only [List.length_append, List.length_cons, List.length_drop]
          omega
        have wider : max (max s.written (held.length + src.length + 1)) ((held ++ src).length + rest.flatten.length + 1) =
            max s.written (held.length + (src.length + rest.flatten.length) + 1) := by
          rw [List.length_append]
          omega
        rw [dropped, whole, wider, List.append_assoc held src, List.length_append, Nat.add_assoc held.length]
      · rw [if_neg reached, if_neg (by omega)]
        rfl

/-! ### Tokens -/

variable {delim : α → Bool}

/-- What `strtok` finds in a buffer, the part of the buffer that it goes past, as it
    leaves it, and the rest. -/
def strtok (nul : α) (delim : α → Bool) (buffer : List α) : Option (List α) × List α × List α :=
  let skipped := buffer.takeWhile delim
  let text := buffer.dropWhile delim
  let token := text.takeWhile fun c => c ≠ nul && !delim c
  if token = [] then (none, skipped, text)
  else
    match text.drop token.length with
    | [] => (some token, skipped ++ token, [])
    | c :: rest =>
      if c = nul then (some token, skipped ++ token, c :: rest)
      else (some token, skipped ++ token ++ [nul], rest)

/-- Up to `n` more tokens, and the buffer as it is left. -/
def strtok_loop (nul : α) (delim : α → Bool) : Nat → List α → List (List α) × List α
  | 0, buffer => ([], buffer)
  | n + 1, buffer =>
    match strtok nul delim buffer with
    | (none, passed, rest) => ([], passed ++ rest)
    | (some token, passed, rest) =>
      let later := strtok_loop nul delim n rest
      (token :: later.1, passed ++ later.2)

/-- What stands between the delimiters. -/
def words (delim : α → Bool) (text : List α) : List (List α) := (text.splitOnP delim).filter fun word => !word.isEmpty

/-- What comes behind the first word of a text and the delimiter behind it. -/
def behind_word (delim : α → Bool) (text : List α) : List α :=
  ((text.dropWhile delim).dropWhile fun c => !delim c).drop 1

omit [DecidableEq α] in
theorem words_skip {c : α} (ends : delim c = true) (text : List α) : words delim (c :: text) = words delim text := by
  simp [words, List.splitOnP_cons_eq_if_modifyHead, ends]

omit [DecidableEq α] in
theorem words_dropWhile (text : List α) : words delim (text.dropWhile delim) = words delim text := by
  induction text with
  | nil => rfl
  | cons c text ih =>
    by_cases ends : delim c = true
    · rw [List.dropWhile_cons_of_pos ends, ih, words_skip ends]
    · rw [List.dropWhile_cons_of_neg ends]

omit [DecidableEq α] in
theorem words_word {word rest : List α} {c : α} (plain : ∀ c ∈ word, delim c = false) (some_char : word ≠ [])
    (ends : delim c = true) : words delim (word ++ c :: rest) = word :: words delim rest := by
  rw [words, List.splitOnP_append_cons_of_forall_mem plain c ends, List.filter_cons_of_pos (by simpa using some_char), words]

omit [DecidableEq α] in
theorem words_last {word : List α} (plain : ∀ c ∈ word, delim c = false) (some_char : word ≠ []) :
    words delim word = [word] := by
  rw [words, List.splitOnP_eq_singleton plain, List.filter_cons_of_pos (by simpa using some_char), List.filter_nil]

omit [DecidableEq α] in
theorem words_ended (text : List α) {c : α} (ends : delim c = true) : words delim (text ++ [c]) = words delim text := by
  rw [words, List.splitOnP_append_cons text [] ends, List.filter_append, words]
  simp

omit [DecidableEq α] in
theorem dropWhile_starts {p : α → Bool} {text rest : List α} {c : α} (left : text.dropWhile p = c :: rest) : p c = false := by
  have first := List.head?_dropWhile_not p text
  rwa [left] at first

omit [DecidableEq α] in
/-- The first word, and the words behind it. -/
theorem words_behind {text word : List α} (first : ((text.dropWhile delim).takeWhile fun c => !delim c) = word) :
    (words delim text).head? = (if word = [] then none else some word) ∧
      words delim (behind_word delim text) = (words delim text).tail := by
  subst first
  rw [behind_word, ← words_dropWhile text]
  cases left : text.dropWhile delim with
  | nil => exact ⟨by simp [words], rfl⟩
  | cons first others =>
    have starts : delim first = false := dropWhile_starts left
    have plain : ∀ c ∈ (first :: others).takeWhile (fun c => !delim c), delim c = false :=
      fun c member => by simpa using List.mem_takeWhile_imp member
    have some_char : (first :: others).takeWhile (fun c => !delim c) ≠ [] := by simp [starts]
    have whole := (List.takeWhile_append_dropWhile (p := fun c => !delim c) (l := first :: others)).symm
    rw [if_neg some_char]
    cases behind : (first :: others).dropWhile fun c => !delim c with
    | nil =>
      rw [behind, List.append_nil] at whole
      rw [← whole] at plain ⊢
      rw [words_last plain (by simp)]
      exact ⟨rfl, rfl⟩
    | cons c rest =>
      have ends : delim c = true := by simpa using dropWhile_starts behind
      rw [behind] at whole
      have found : words delim (first :: others) = _ :: words delim rest :=
        (congrArg (words delim) whole).trans (words_word plain some_char ends)
      rw [found]
      exact ⟨rfl, rfl⟩

/-- A text that is one token: it is not empty, and has no delimiter and no `nul`. -/
def Token (nul : α) (delim : α → Bool) (token : List α) : Prop :=
  token ≠ [] ∧ ∀ c ∈ token, c ≠ nul ∧ delim c = false

theorem strtok_token {token rest : List α} {c : α} (plain : Token nul delim token)
    (ends : c = nul ∨ delim c = true) :
    strtok nul delim (token ++ c :: rest) =
      if c = nul then (some token, token, c :: rest) else (some token, token ++ [nul], rest) := by
  obtain ⟨some_char, plain⟩ := plain
  obtain ⟨first, others, rfl⟩ := List.exists_cons_of_ne_nil some_char
  have starts : (first :: others ++ c :: rest).dropWhile delim = first :: others ++ c :: rest :=
    List.dropWhile_cons_of_neg (by simp [(plain first List.mem_cons_self).2])
  have none_skipped : (first :: others ++ c :: rest).takeWhile delim = [] :=
    List.takeWhile_cons_of_neg (by simp [(plain first List.mem_cons_self).2])
  have found : (first :: others ++ c :: rest).takeWhile (fun c => c ≠ nul && !delim c) = first :: others := by
    rw [List.takeWhile_append_of_pos fun a member => by simp [plain a member], List.takeWhile_cons_of_neg,
      List.append_nil]
    rcases ends with rfl | stops
    · simp
    · simp [stops]
  simp only [strtok, starts, none_skipped, found, List.drop_left]
  simp

/-- The token is what stands up to the next delimiter or `nul`, if that is something. -/
theorem strtok_found {buffer token : List α}
    (found : (buffer.dropWhile delim).takeWhile (fun c => c ≠ nul && !delim c) = token) :
    (strtok nul delim buffer).1 = if token = [] then none else some token := by
  subst found
  unfold strtok
  dsimp only
  split
  · rfl
  · split
    · rfl
    · split <;> rfl

theorem c_string_cons {c : α} (other : c ≠ nul) (text : List α) : c_string nul (c :: text) = c :: c_string nul text :=
  List.takeWhile_cons_of_pos (decide_eq_true other)

theorem c_string_nul (rest : List α) : c_string nul (nul :: rest) = [] := List.takeWhile_cons_of_neg (by simp)

theorem c_string_prefix {text : List α} (clean : nul ∉ text) (rest : List α) :
    c_string nul (text ++ rest) = text ++ c_string nul rest :=
  List.takeWhile_append_of_pos fun _ member => decide_eq_true (ne_of_mem_of_not_mem member clean)

theorem c_string_of_nul {text : List α} (ended : nul ∈ text) (rest : List α) : c_string nul (text ++ rest) = c_string nul text := by
  obtain ⟨before, behind, rfl, clean⟩ := List.eq_append_cons_of_mem ended
  rw [List.append_assoc, List.cons_append, c_string_append clean, c_string_append clean]

/-- The string ends with the text, or in it. -/
theorem c_string_ended (text rest : List α) : c_string nul (text ++ nul :: rest) = c_string nul text := by
  by_cases ended : nul ∈ text
  · exact c_string_of_nul ended _
  · rw [c_string_append ended, c_string_of_clean ended]

/-- A nul that is stored in the string, or right behind it, cuts it there. -/
theorem c_string_cut {buffer : List α} {n : Nat} (within : n ≤ (c_string nul buffer).length) (inside : n < buffer.length) :
    c_string nul (buffer.set n nul) = (c_string nul buffer).take n := by
  obtain ⟨rest, whole⟩ : c_string nul buffer <+: buffer := List.takeWhile_prefix _
  have first : (c_string nul buffer).take n = buffer.take n := by
    have cut : (c_string nul buffer ++ rest).take n = (c_string nul buffer).take n := List.take_append_of_le_length within
    rw [← cut, whole]
  have clean : nul ∉ buffer.take n := first ▸ fun member => c_string_clean buffer (List.mem_of_mem_take member)
  rw [List.set_eq_take_append_cons_drop, if_pos inside, c_string_append clean, first]

/-- A character that is stored at the end of the string, with a nul behind it, is appended. -/
theorem c_string_push {buffer : List α} {c : α} (other : c ≠ nul) (room : (c_string nul buffer).length + 1 < buffer.length) :
    c_string nul ((buffer.set (c_string nul buffer).length c).set ((c_string nul buffer).length + 1) nul) =
      c_string nul buffer ++ [c] := by
  obtain ⟨rest, whole⟩ : c_string nul buffer <+: buffer := List.takeWhile_prefix _
  have clean : nul ∉ c_string nul buffer := c_string_clean buffer
  generalize c_string nul buffer = text at *
  obtain ⟨first, second, tail, rfl⟩ : ∃ first second tail, rest = first :: second :: tail := by
    rw [← whole, List.length_append] at room
    match rest, room with
    | [], room => exact absurd room (by simp)
    | [first], room => exact absurd room (by simp)
    | first :: second :: tail, _ => exact ⟨first, second, tail, rfl⟩
  have stored : (buffer.set text.length c).set (text.length + 1) nul = (text ++ [c]) ++ nul :: tail := by
    simp [← whole]
  have still_clean : nul ∉ text ++ [c] := by simpa [other.symm] using clean
  rw [stored, c_string_append still_clean]

theorem c_string_skip (other : delim nul = false) (buffer : List α) :
    c_string nul (buffer.dropWhile delim) = (c_string nul buffer).dropWhile delim := by
  induction buffer with
  | nil => rfl
  | cons c buffer ih =>
    by_cases skips : delim c = true
    · have apart : c ≠ nul := by
        rintro rfl
        simp [other] at skips
      rw [List.dropWhile_cons_of_pos skips, c_string_cons apart, List.dropWhile_cons_of_pos skips, ih]
    · rw [List.dropWhile_cons_of_neg skips]
      by_cases ended : c = nul
      · rw [ended, c_string_nul, List.dropWhile_nil]
      · rw [c_string_cons ended, List.dropWhile_cons_of_neg skips]

variable (nul delim) in
theorem c_string_word (text : List α) :
    (text.takeWhile fun c => c ≠ nul && !delim c) = (c_string nul text).takeWhile (fun c => !delim c) ∧
      c_string nul (text.drop (text.takeWhile fun c => c ≠ nul && !delim c).length) =
        (c_string nul text).dropWhile (fun c => !delim c) := by
  induction text with
  | nil => exact ⟨rfl, rfl⟩
  | cons c text ih =>
    by_cases ended : c = nul
    · simp [ended, c_string_nul]
    rw [c_string_cons ended]
    cases ends : delim c with
    | true => simp [ended, ends, c_string_cons]
    | false => simpa [ended, ends] using ih

/-- The token is the first word of the string in the buffer, and the rest of the string comes
    behind it. -/
theorem strtok_word (other : delim nul = false) (buffer : List α) :
    (strtok nul delim buffer).1 = (words delim (c_string nul buffer)).head? ∧
      c_string nul (strtok nul delim buffer).2.2 = behind_word delim (c_string nul buffer) := by
  have skipped := c_string_skip other buffer
  obtain ⟨first, behind⟩ := c_string_word nul delim (buffer.dropWhile delim)
  rw [skipped] at first behind
  refine ⟨by rw [strtok_found rfl, (words_behind first.symm).1], ?_⟩
  rw [behind_word, ← behind]
  have starts {c : α} {rest : List α} : buffer.dropWhile delim = c :: rest → delim c = false := dropWhile_starts
  simp only [strtok]
  generalize buffer.dropWhile delim = text at starts
  split
  · rename_i no_word
    rw [no_word, List.length_nil, List.drop_zero]
    -- nothing but the end of the string stops a word before it begins
    cases text with
    | nil => rfl
    | cons c rest =>
      have ended : c = nul := by simpa [starts rfl] using no_word
      rw [ended, c_string_nul]
      rfl
  split
  · rename_i ended
    rw [ended]
    rfl
  · rename_i c rest ended
    rw [ended]
    split
    · rename_i same
      rw [same, c_string_nul]
      rfl
    · rename_i apart
      rw [c_string_cons apart]
      rfl

theorem strtok_end (rest : List α) (other : delim nul = false) :
    strtok nul delim (nul :: rest) = (none, [], nul :: rest) := by
  simp [strtok, other]

/-- What `strtok` goes past and what is left are as long as the buffer. -/
theorem strtok_length (buffer : List α) :
    (strtok nul delim buffer).2.1.length + (strtok nul delim buffer).2.2.length = buffer.length := by
  have whole : (buffer.takeWhile delim).length + (buffer.dropWhile delim).length = buffer.length := by
    rw [← List.length_append, List.takeWhile_append_dropWhile]
  have shorter := (List.takeWhile_prefix (fun c => c ≠ nul && !delim c) (l := buffer.dropWhile delim)).length_le
  simp only [strtok]
  generalize (buffer.dropWhile delim).takeWhile (fun c => c ≠ nul && !delim c) = token at shorter
  split
  · exact whole
  split
  · rename_i ended
    have := List.drop_eq_nil_iff.mp ended
    simp only [List.length_append, List.length_nil]
    omega
  · rename_i c rest ended
    have dropped := congrArg List.length ended
    rw [List.length_drop, List.length_cons] at dropped
    split
    · simp only [List.length_append, List.length_cons]
      omega
    · simp only [List.length_append, List.length_cons, List.length_nil]
      omega

theorem strtok_loop_length (n : Nat) (buffer : List α) :
    (strtok_loop nul delim n buffer).2.length = buffer.length := by
  induction n generalizing buffer with
  | zero => rfl
  | succ n ih =>
    have same : (strtok nul delim buffer).2.1.length + (strtok nul delim buffer).2.2.length = buffer.length :=
      strtok_length buffer
    rw [strtok_loop]
    split
    · rename_i passed rest found
      rw [found] at same
      rw [List.length_append]
      exact same
    · rename_i token passed rest found
      rw [found] at same
      rw [List.length_append, ih]
      exact same

theorem strtok_loop_end (n : Nat) (rest : List α) (other : delim nul = false) :
    strtok_loop nul delim n (nul :: rest) = ([], nul :: rest) := by
  cases n with
  | zero => rfl
  | succ n => simp [strtok_loop, strtok_end rest other]

/-- The tokens of a text of which the first `m` characters are left are its lines as
    far as they are left. What stands behind the text stays as it is. -/
theorem strtok_loop_cut {lines : List (List α)} (apart : nul ≠ newline)
    (plain : ∀ line ∈ lines, Token nul (fun c => decide (c = newline)) line) (n m : Nat) (stale : List α) :
    ∃ left, left.length = ((text_of newline lines).take m).length ∧
      strtok_loop nul (fun c => decide (c = newline)) n ((text_of newline lines).take m ++ nul :: stale) =
        ((cut_lines m lines).take n, left ++ nul :: stale) := by
  have ended : ∀ k, strtok_loop nul (fun c => decide (c = newline)) k (nul :: stale) = ([], nul :: stale) :=
    fun k => strtok_loop_end k stale (decide_eq_false apart)
  induction lines generalizing n m with
  | nil =>
    refine ⟨[], by simp [text_of], ?_⟩
    simp [text_of, cut_lines, ended]
  | cons line rest ih =>
    cases n with
    | zero => exact ⟨_, rfl, by simp [strtok_loop]⟩
    | succ n =>
      have token := plain line List.mem_cons_self
      rw [text_of_cons]
      by_cases none_left : m = 0
      · refine ⟨[], by simp [none_left], ?_⟩
        simp [none_left, cut_lines, ended]
      by_cases inside : m ≤ line.length
      · have part : Token nul (fun c => decide (c = newline)) (line.take m) := by
          refine ⟨?_, fun c member => token.2 c (List.mem_of_mem_take member)⟩
          simp [none_left, token.1]
        refine ⟨line.take m, by rw [List.take_append_of_le_length inside], ?_⟩
        rw [List.take_append_of_le_length inside, strtok_loop, strtok_token part (.inl rfl)]
        simp [cut_lines, none_left, inside, ended]
      · obtain ⟨left, same, found⟩ := ih (fun l member => plain l (List.mem_cons_of_mem line member)) n
          (m - (line.length + 1))
        have taken : (line ++ newline :: text_of newline rest).take m =
            line ++ newline :: (text_of newline rest).take (m - (line.length + 1)) := by
          rw [List.take_append, List.take_of_length_le (by omega),
            show m - line.length = m - (line.length + 1) + 1 by omega, List.take_succ_cons]
        refine ⟨line ++ nul :: left, by rw [taken]; simp [same], ?_⟩
        rw [taken, List.append_assoc, List.cons_append, strtok_loop,
          strtok_token token (.inr (decide_eq_true rfl)), if_neg (Ne.symm apart)]
        simp [found, cut_lines, none_left, inside]

end SteamRecovery.CStrings
