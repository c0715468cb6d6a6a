import SteamRecovery.Config
import SteamRecovery.KeyFormat
import SteamRecovery.Printing

/-!
The file with the public keys (`load_keys` in `install.c`). It is read with `fscanf`, and the
braces that close a key are scanned without a check: of what is not written as documented,
some is taken for keys (`loaded_iff`).
-/
namespace SteamRecovery.Keys
open SteamRecovery.Config (sprintf_d)
open SteamRecovery.Devices (CInt)
open SteamRecovery.KeyFormat SteamRecovery.Numerals SteamRecovery.Printing SteamRecovery.Scanf SteamRecovery.Tokens
open SteamRecovery.TextLog (Printed)

/-- `if (fscanf(f, format, ...) != count) goto exit`. -/
def scanned (count : Nat) (format : String) (text : List Char) :
    Except (List Printed) (List.Vector CInt count × List Char) :=
  let read := fscanf (directives format.toList) text
  if all : read.1.length = count then .ok (⟨read.1, all⟩, read.2) else .error []

/-- `for (i = 1; i < key->len; ++i)`. -/
def load_words : (count : Nat) → List Char → Except (List Printed) (List.Vector CInt count × List Char)
  | 0, text => .ok (.nil, text)
  | count + 1, text => do
    let (word, text) ← scanned 1 " , %u" text
    let (words, text) ← load_words count text
    .ok (.cons word.head words, text)

/-- A key up to the braces that close it. -/
def load_key (text : List Char) : Except (List Printed) (RSAPublicKey × List Char) := do
  let (start, text) ← scanned 3 " \x7b %i , 0x%x , \x7b %u" text
  if start.get 0 ≠ RSANUMWORDS then
    .error [LOGE ("key length (".toList ++ (sprintf_d (start.get 0)).toList ++
      ") does not match expected size\n".toList)]
  else
    let (n, text) ← load_words (RSANUMWORDS - 1) text
    let (first, text) ← scanned 1 " \x7d , \x7b %u" text
    let (rr, text) ← load_words (RSANUMWORDS - 1) text
    .ok (⟨start.get 0, start.get 1, array (start.get 2) n, array first.head rr⟩, text)

/-- `fscanf(f, " \x7d \x7d ")`, which may find fewer braces. -/
def skip_closing (text : List Char) : List Char := (fscanf (directives " \x7d \x7d ".toList) text).2

/-- `while (!done)` for a number of rounds that is enough (`load_loop_enough`), with the keys so far. -/
def load_loop : Nat → Nat → List RSAPublicKey → List Char → Except (List Printed) (List RSAPublicKey × Nat)
  | 0, _, _, _ => .error []
  | fuel + 1, numKeys, out, text => do
    let (key, text) ← load_key text
    match skip_closing text with
    | ',' :: text => load_loop fuel (numKeys + 1) (out ++ [key]) text
    | [] => .ok (out ++ [key], numKeys + 1)
    | _ => .error [LOGE "unexpected character between keys\n".toList]

/-- What is returned and stored in `numKeys`, and the messages. -/
structure Loaded where
  out : Option (List RSAPublicKey)
  numKeys : Nat
  log : List Printed

/-- The file is opened, or `strerror` says why it is not. -/
def load_keys (filename : List Char) (f : Except (List Char) (List Char)) : Loaded :=
  match f with
  | .error strerror => ⟨none, 0, [LOGE ("opening ".toList ++ filename ++ ": ".toList ++ strerror ++ ['\n'])]⟩
  | .ok content =>
    match load_loop (content.length + 1) 0 [] content with
    | .ok (out, numKeys) => ⟨some out, numKeys, []⟩
    | .error log => ⟨none, 0, log⟩

/-! ### The loop ends -/

theorem bind_ok {ε α β : Type} {first : Except ε α} {next : α → Except ε β} {b : β} :
    (first >>= next) = .ok b ↔ ∃ a, first = .ok a ∧ next a = .ok b := by
  cases first with
  | error => exact iff_of_false nofun nofun
  | ok a =>
    constructor
    · intro ran
      exact ⟨a, rfl, ran⟩
    · rintro ⟨_, same, ran⟩
      cases same
      exact ran

theorem scanned_suffix {count : Nat} {format : String} {text rest : List Char} {values : List.Vector CInt count}
    (read : scanned count format text = .ok (values, rest)) : rest <:+ text := by
  rw [scanned] at read
  split at read
  next =>
    cases read
    exact fscanf_suffix _ text
  next => cases read

theorem load_words_suffix {count : Nat} {text rest : List Char} {values : List.Vector CInt count}
    (read : load_words count text = .ok (values, rest)) : rest <:+ text := by
  induction count generalizing text with
  | zero =>
    cases read
    exact List.suffix_rfl
  | succ count ih =>
    simp only [load_words, bind_ok] at read
    obtain ⟨_, first, _, later, eq⟩ := read
    cases eq
    exact (ih later).trans (scanned_suffix first)

theorem load_key_ok {text rest : List Char} {key : RSAPublicKey} :
    load_key text = .ok (key, rest) ↔
      ∃ start behind_start, scanned 3 " \x7b %i , 0x%x , \x7b %u" text = .ok (start, behind_start) ∧
        start.get 0 = RSANUMWORDS ∧
        ∃ n behind_n, load_words (RSANUMWORDS - 1) behind_start = .ok (n, behind_n) ∧
        ∃ first behind_first, scanned 1 " \x7d , \x7b %u" behind_n = .ok (first, behind_first) ∧
        ∃ rr, load_words (RSANUMWORDS - 1) behind_first = .ok (rr, rest) ∧
          key = ⟨start.get 0, start.get 1, array (start.get 2) n, array first.head rr⟩ := by
  constructor
  · intro read
    obtain ⟨⟨start, behind_start⟩, scan_start, read⟩ := bind_ok.mp read
    dsimp only at read
    split at read
    next => cases read
    next size =>
      obtain ⟨⟨n, behind_n⟩, read_n, read⟩ := bind_ok.mp read
      obtain ⟨⟨first, behind_first⟩, scan_first, read⟩ := bind_ok.mp read
      obtain ⟨⟨rr, rest⟩, read_rr, eq⟩ := bind_ok.mp read
      cases eq
      exact ⟨start, behind_start, scan_start, not_not.mp size, n, behind_n, read_n, first, behind_first, scan_first, rr,
        read_rr, rfl⟩
  · rintro ⟨start, behind_start, scan_start, size, n, behind_n, read_n, first, behind_first, scan_first, rr, read_rr, rfl⟩
    refine bind_ok.mpr ⟨_, scan_start, (if_neg (not_not.mpr size)).trans ?_⟩
    exact bind_ok.mpr ⟨_, read_n, bind_ok.mpr ⟨_, scan_first, bind_ok.mpr ⟨_, read_rr, rfl⟩⟩⟩

theorem load_key_suffix {text rest : List Char} {key : RSAPublicKey} (read : load_key text = .ok (key, rest)) :
    rest <:+ text := by
  obtain ⟨_, _, scan_start, _, _, _, read_n, _, _, scan_first, _, read_rr, _⟩ := load_key_ok.mp read
  exact ((load_words_suffix read_rr).trans (scanned_suffix scan_first)).trans
    ((load_words_suffix read_n).trans (scanned_suffix scan_start))

/-- One round for each character is enough. -/
theorem load_loop_enough {fuel more : Nat} {text : List Char} (enough : text.length < fuel) (also : text.length < more)
    (numKeys : Nat) (out : List RSAPublicKey) : load_loop fuel numKeys out text = load_loop more numKeys out text := by
  induction fuel generalizing more numKeys out text with
  | zero => omega
  | succ fuel ih =>
    cases more with
    | zero => omega
    | succ more =>
      rw [load_loop, load_loop]
      cases read : load_key text with
      | error log => rfl
      | ok loaded =>
        obtain ⟨key, rest⟩ := loaded
        have behind : skip_closing rest <:+ text := (fscanf_suffix _ rest).trans (load_key_suffix read)
        dsimp only [bind, Except.bind]
        split
        next next comma =>
          rw [comma] at behind
          have less := behind.length_le
          rw [List.length_cons] at less
          exact ih (by omega) (by omega) _ _
        next => rfl
        next => rfl

/-! ### What is scanned -/

theorem scanned_iff {count : Nat} {format : String} {parsed : List Directive}
    (eq : directives format.toList = parsed) (counted : numbers parsed = count)
    {reads : List CInt → List (List Char) → Prop} (scans : Scans mark parsed reads)
    {behind : List (List Char)} (ended : Ended mark behind) (values : List.Vector CInt count) (text : List Char) :
    (∃ rest, scanned count format text = .ok (values, rest) ∧ Spaced isspace behind rest) ↔
      ∃ tokens, reads values.toList tokens ∧ Spaced isspace (tokens ++ behind) text := by
  rw [scans values.toList behind text ended, scanned, eq]
  constructor
  · rintro ⟨rest, read, spaced⟩
    split at read
    next all =>
      cases read
      exact ⟨rfl, all.trans counted.symm, spaced⟩
    next => cases read
  · rintro ⟨stored, _, spaced⟩
    have all : (fscanf parsed text).1.length = count := by rw [stored, values.toList_length]
    refine ⟨_, ?_, spaced⟩
    rw [dif_pos all]
    congr 2
    exact Subtype.ext stored

theorem scans_word : Scans mark [.space, .number .u] fun values tokens =>
    ∃ n : Numeral, n.Fits .u ∧ values = [n.stored .u] ∧ tokens = [n.text] := by
  have last : Scans mark [.space, .number .u] _ := scans_number mark_digit scans_nil fun values tokens read => by
    rw [read.2]
    exact ended_nil
  intro values behind text ended
  rw [← last values behind text ended]
  constructor
  · rintro ⟨_, ⟨n, fits, rfl, rfl⟩, spaced⟩
    exact ⟨_, ⟨n, fits, _, _, rfl, rfl, rfl, rfl⟩, spaced⟩
  · rintro ⟨_, ⟨n, fits, _, _, rfl, rfl, rfl, rfl⟩, spaced⟩
    exact ⟨_, ⟨n, fits, rfl, rfl⟩, spaced⟩

theorem word_iff {behind : List (List Char)} (ended : Ended mark behind) (values : List.Vector CInt 1)
    (text : List Char) :
    (∃ rest, scanned 1 " , %u" text = .ok (values, rest) ∧ Spaced isspace behind rest) ↔
      ∃ n : Numeral, n.Fits .u ∧ values.toList = [n.stored .u] ∧
        Spaced isspace ([','] :: n.text :: behind) text := by
  have format : directives " , %u".toList = [.space, .literal ',', .space, .number .u] := by decide
  rw [scanned_iff format (by decide) (scans_literal scans_word (by decide)) ended values text]
  constructor
  · rintro ⟨_, ⟨_, rfl, n, fits, stored, rfl⟩, spaced⟩
    exact ⟨n, fits, stored, spaced⟩
  · rintro ⟨n, fits, stored, spaced⟩
    exact ⟨_, ⟨_, rfl, n, fits, stored, rfl⟩, spaced⟩

theorem first_iff {behind : List (List Char)} (ended : Ended mark behind) (values : List.Vector CInt 1)
    (text : List Char) :
    (∃ rest, scanned 1 " \x7d , \x7b %u" text = .ok (values, rest) ∧ Spaced isspace behind rest) ↔
      ∃ n : Numeral, n.Fits .u ∧ values.toList = [n.stored .u] ∧
        Spaced isspace (['}'] :: [','] :: ['{'] :: n.text :: behind) text := by
  have format : directives " \x7d , \x7b %u".toList =
      [.space, .literal '}', .space, .literal ',', .space, .literal '{', .space, .number .u] := by decide
  rw [scanned_iff format (by decide)
    (scans_literal (scans_literal (scans_literal scans_word (by decide)) (by decide)) (by decide)) ended values text]
  constructor
  · rintro ⟨_, ⟨_, rfl, _, rfl, _, rfl, n, fits, stored, rfl⟩, spaced⟩
    exact ⟨n, fits, stored, spaced⟩
  · rintro ⟨n, fits, stored, spaced⟩
    exact ⟨_, ⟨_, rfl, _, rfl, _, rfl, n, fits, stored, rfl⟩, spaced⟩

theorem start_iff {behind : List (List Char)} (ended : Ended mark behind) (values : List.Vector CInt 3)
    (text : List Char) :
    (∃ rest, scanned 3 " \x7b %i , 0x%x , \x7b %u" text = .ok (values, rest) ∧ Spaced isspace behind rest) ↔
      ∃ len n0inv n : Numeral, len.Fits .i ∧ n0inv.Fits .x ∧ n.Fits .u ∧
        ∃ gap : List Char, (∀ c ∈ gap, isspace c) ∧ values.toList = [len.stored .i, n0inv.stored .x, n.stored .u] ∧
          Spaced isspace (['{'] :: len.text :: [','] :: ('0' :: 'x' :: (gap ++ n0inv.text)) :: [','] :: ['{'] ::
            n.text :: behind) text := by
  have middle : Scans mark [.space, .literal ',', .space, .literal '{', .space, .number .u] _ :=
    scans_literal (scans_literal scans_word (by decide)) (by decide)
  have hex : Scans mark (.space :: .literal '0' :: .literal 'x' :: .number .x :: _) _ :=
    scans_hex mark_digit middle fun values tokens ⟨_, read, _⟩ => by rw [read]; exact ended_mark (by decide) _
  have behind_len : Scans mark (.space :: .literal ',' :: _) _ := scans_literal hex (by decide)
  have len : Scans mark (.space :: .number .i :: _) _ :=
    scans_number mark_digit behind_len fun values tokens ⟨_, read, _⟩ => by rw [read]; exact ended_mark (by decide) _
  have format : directives " \x7b %i , 0x%x , \x7b %u".toList =
      [.space, .literal '{', .space, .number .i, .space, .literal ',', .space, .literal '0', .literal 'x', .number .x,
        .space, .literal ',', .space, .literal '{', .space, .number .u] := by decide
  rw [scanned_iff format (by decide) (scans_literal len (by decide)) ended values text]
  constructor
  · rintro ⟨_, ⟨_, rfl, len, fits, _, _, stored, rfl, _, rfl, n0inv, also, gap, blank, _, _, rfl, rfl, _, rfl, _, rfl,
      n, last, rfl, rfl⟩, spaced⟩
    exact ⟨len, n0inv, n, fits, also, last, gap, blank, stored, spaced⟩
  · rintro ⟨len, n0inv, n, fits, also, last, gap, blank, stored, spaced⟩
    exact ⟨_, ⟨_, rfl, len, fits, _, _, stored, rfl, _, rfl, n0inv, also, gap, blank, _, _, rfl, rfl, _, rfl, _, rfl,
      n, last, rfl, rfl⟩, spaced⟩

theorem load_words_iff {count : Nat} {behind : List (List Char)} (ended : Ended mark behind)
    (values : List.Vector CInt count) (text : List Char) :
    (∃ rest, load_words count text = .ok (values, rest) ∧ Spaced isspace behind rest) ↔
      ∃ words : List.Vector Numeral count, (∀ word ∈ words.toList, word.Fits .u) ∧
        values = words.map (Numeral.stored .u) ∧ Spaced isspace (following words.toList ++ behind) text := by
  induction count generalizing text with
  | zero =>
    constructor
    · rintro ⟨_, read, spaced⟩
      cases read
      exact ⟨.nil, nofun, rfl, spaced⟩
    · rintro ⟨words, _, rfl, spaced⟩
      obtain rfl := words.eq_nil
      exact ⟨text, rfl, spaced⟩
  | succ count ih =>
    simp only [load_words, bind_ok]
    constructor
    · rintro ⟨_, ⟨⟨word, next⟩, first, ⟨later, rest⟩, ran, eq⟩, left⟩
      cases eq
      obtain ⟨words, fit, rfl, behind⟩ := (ih later next).mp ⟨rest, ran, left⟩
      obtain ⟨n, fits, stored, spaced⟩ :=
        (word_iff (ended_following ended words.toList) word text).mp ⟨next, first, behind⟩
      rw [List.Vector.toList_singleton, List.singleton_inj] at stored
      refine ⟨.cons n words, ?_, ?_, ?_⟩
      · rw [List.Vector.toList_cons]
        exact List.forall_mem_cons.mpr ⟨fits, fit⟩
      · rw [List.Vector.map_cons, ← stored]
      · rwa [List.Vector.toList_cons]
    · rintro ⟨words, fit, rfl, spaced⟩
      obtain ⟨n, words, rfl⟩ := words.exists_eq_cons
      rw [List.Vector.toList_cons] at fit spaced
      obtain ⟨fits, fit⟩ := List.forall_mem_cons.mp fit
      obtain ⟨next, first, spaced⟩ :=
        (word_iff (ended_following ended words.toList) (.cons (n.stored .u) .nil) text).mpr ⟨n, fits, rfl, spaced⟩
      obtain ⟨rest, ran, spaced⟩ := (ih _ next).mpr ⟨words, fit, rfl, spaced⟩
      refine ⟨rest, ⟨_, first, _, ran, ?_⟩, spaced⟩
      rw [List.Vector.map_cons, List.Vector.head_cons]

theorem load_key_iff {behind : List (List Char)} (ended : Ended mark behind) {closing : Nat} (few : closing ≤ 2)
    (key : RSAPublicKey) (text : List Char) :
    (∃ rest, load_key text = .ok (key, rest) ∧ Spaced isspace behind rest) ↔
      ∃ k : WrittenKey, k.Loose ∧ k.closing = closing ∧ key = k.stored ∧
        Spaced isspace (k.body ++ behind) text := by
  simp only [load_key_ok]
  constructor
  · rintro ⟨rest, ⟨start, _, scan_start, size, n, _, read_n, word, _, scan_first, rr, read_rr, rfl⟩, left⟩
    obtain ⟨rr, rr_fit, rfl, from_word⟩ := (load_words_iff ended rr _).mp ⟨rest, read_rr, left⟩
    obtain ⟨first_rr, first_fits, stored, from_n⟩ :=
      (first_iff (ended_following ended rr.toList) word _).mp ⟨_, scan_first, from_word⟩
    obtain ⟨n, n_fit, rfl, from_start⟩ := (load_words_iff (ended_mark (by decide) _) n _).mp ⟨_, read_n, from_n⟩
    obtain ⟨len, n0inv, first_n, len_fits, n0inv_fits, n_fits, gap, blank, all, spaced⟩ :=
      (start_iff (ended_following (ended_mark (by decide) _) n.toList) start text).mp ⟨_, scan_start, from_start⟩
    obtain rfl : start = ⟨[len.stored .i, n0inv.stored .x, first_n.stored .u], rfl⟩ := Subtype.ext all
    obtain rfl : word = ⟨[first_rr.stored .u], rfl⟩ := Subtype.ext stored
    refine ⟨⟨len, gap, n0inv, array first_n n, array first_rr rr, closing⟩,
      ⟨len_fits, size, blank, n0inv_fits, ?_, ?_, few⟩, rfl, ?_, ?_⟩
    · rw [array_toList]
      exact List.forall_mem_cons.mpr ⟨n_fits, n_fit⟩
    · rw [array_toList]
      exact List.forall_mem_cons.mpr ⟨first_fits, rr_fit⟩
    · rw [WrittenKey.stored, array_map, array_map]
      rfl
    · rwa [body_array]
  · rintro ⟨k, loose, _, rfl, spaced⟩
    obtain ⟨len, gap, n0inv, n, rr, closing⟩ := k
    obtain ⟨first_n, n, rfl⟩ := exists_array n
    obtain ⟨first_rr, rr, rfl⟩ := exists_array rr
    obtain ⟨len_fits, size, blank, n0inv_fits, n_fit, rr_fit, _⟩ := loose
    dsimp only at len_fits size blank n0inv_fits n_fit rr_fit
    rw [array_toList] at n_fit rr_fit
    obtain ⟨n_fits, n_fit⟩ := List.forall_mem_cons.mp n_fit
    obtain ⟨first_fits, rr_fit⟩ := List.forall_mem_cons.mp rr_fit
    rw [body_array] at spaced
    obtain ⟨_, scan_start, from_start⟩ :=
      (start_iff (ended_following (ended_mark (by decide) _) n.toList) ⟨[_, _, _], rfl⟩ text).mpr
        ⟨len, n0inv, first_n, len_fits, n0inv_fits, n_fits, gap, blank, rfl, spaced⟩
    obtain ⟨_, read_n, from_n⟩ := (load_words_iff (ended_mark (by decide) _) _ _).mpr ⟨n, n_fit, rfl, from_start⟩
    obtain ⟨_, scan_first, from_word⟩ :=
      (first_iff (ended_following ended rr.toList) ⟨[_], rfl⟩ _).mpr ⟨first_rr, first_fits, rfl, from_n⟩
    obtain ⟨rest, read_rr, left⟩ := (load_words_iff ended _ _).mpr ⟨rr, rr_fit, rfl, from_word⟩
    refine ⟨rest, ⟨_, _, scan_start, size, _, _, read_n, _, _, scan_first, _, read_rr, ?_⟩, left⟩
    rw [WrittenKey.stored, array_map, array_map]
    rfl

theorem skip_closing_eq (text : List Char) :
    skip_closing text =
      if (text.dropWhile isspace).head? = some '}' then
        if ((text.dropWhile isspace).tail.dropWhile isspace).head? = some '}' then
          ((text.dropWhile isspace).tail.dropWhile isspace).tail.dropWhile isspace
        else (text.dropWhile isspace).tail.dropWhile isspace
      else text.dropWhile isspace := by
  have format : directives " \x7d \x7d ".toList = [.space, .literal '}', .space, .literal '}', .space] := by decide
  rw [skip_closing, format]
  simp only [fscanf]
  split
  next => split <;> rfl
  next => rfl

theorem skip_closing_shown (text : List Char) : (skip_closing text).dropWhile isspace = skip_closing text := by
  rw [skip_closing_eq]
  split
  next => split <;> exact List.dropWhile_idempotent _ _
  next => exact List.dropWhile_idempotent _ _

theorem no_brace {behind : List (List Char)} (follows : Follows behind) {text : List Char}
    (spaced : Spaced isspace behind text) : (text.dropWhile isspace).head? ≠ some '}' := by
  rcases follows with rfl | ⟨later, rfl⟩
  · rw [Spaced] at spaced
    rw [spaced]
    decide
  · obtain ⟨rest, eq, _⟩ := spaced
    rw [eq, List.cons_append, List.head?_cons]
    decide

/-- The braces that are there are skipped, be they two or fewer. -/
theorem closing_iff {behind : List (List Char)} (follows : Follows behind) (text : List Char) :
    (∃ closing, closing ≤ 2 ∧ Spaced isspace (List.replicate closing ['}'] ++ behind) text) ↔
      Spaced isspace behind (skip_closing text) := by
  rw [skip_closing_eq]
  constructor
  · rintro ⟨closing, few, spaced⟩
    match closing, few with
    | 0, _ =>
      rw [if_neg (no_brace follows spaced)]
      exact spaced_dropWhile.mpr spaced
    | 1, _ =>
      obtain ⟨rest, eq, spaced⟩ := spaced
      rw [eq, if_pos (by rfl), List.cons_append, List.tail_cons, List.nil_append, if_neg (no_brace follows spaced)]
      exact spaced_dropWhile.mpr spaced
    | 2, _ =>
      obtain ⟨rest, eq, last, same, spaced⟩ := spaced
      rw [eq, if_pos (by rfl), List.cons_append, List.tail_cons, List.nil_append, same, if_pos (by rfl), List.cons_append,
        List.tail_cons]
      exact spaced_dropWhile.mpr spaced
  · intro spaced
    split at spaced
    next first =>
      have one := List.eq_cons_of_mem_head? first
      split at spaced
      next second =>
        exact ⟨2, le_rfl, _, one, _, List.eq_cons_of_mem_head? second, spaced_dropWhile.mp spaced⟩
      next => exact ⟨1, by decide, _, one, spaced_dropWhile.mp spaced⟩
    next => exact ⟨0, by decide, spaced_dropWhile.mp spaced⟩

/-- One key, with what comes behind it. -/
theorem key_iff {behind : List (List Char)} (follows : Follows behind) (key : RSAPublicKey) (text : List Char) :
    (∃ rest, load_key text = .ok (key, rest) ∧ Spaced isspace behind (skip_closing rest)) ↔
      ∃ k : WrittenKey, k.Loose ∧ key = k.stored ∧ Spaced isspace (k.tokens ++ behind) text := by
  have ended := ended_closing follows
  constructor
  · rintro ⟨rest, ran, left⟩
    obtain ⟨closing, few, spaced⟩ := (closing_iff follows rest).mpr left
    obtain ⟨k, loose, rfl, stored, spaced⟩ := (load_key_iff (ended closing) few key text).mp ⟨rest, ran, spaced⟩
    refine ⟨k, loose, stored, ?_⟩
    rwa [WrittenKey.tokens, List.append_assoc]
  · rintro ⟨k, loose, stored, spaced⟩
    rw [WrittenKey.tokens, List.append_assoc] at spaced
    obtain ⟨rest, ran, left⟩ :=
      (load_key_iff (ended k.closing) loose.closing key text).mpr ⟨k, loose, rfl, stored, spaced⟩
    exact ⟨rest, ran, (closing_iff follows rest).mp ⟨k.closing, loose.closing, left⟩⟩

/-! ### What is loaded -/

theorem load_loop_ok {fuel numKeys count : Nat} {out keys : List RSAPublicKey} {text : List Char} :
    load_loop (fuel + 1) numKeys out text = .ok (keys, count) ↔
      ∃ key rest, load_key text = .ok (key, rest) ∧
        (skip_closing rest = [] ∧ keys = out ++ [key] ∧ count = numKeys + 1 ∨
          ∃ next, skip_closing rest = ',' :: next ∧
            load_loop fuel (numKeys + 1) (out ++ [key]) next = .ok (keys, count)) := by
  rw [load_loop, bind_ok]
  constructor
  · rintro ⟨⟨key, rest⟩, ran, more⟩
    refine ⟨key, rest, ran, ?_⟩
    dsimp only at more
    split at more
    next next comma => exact .inr ⟨next, comma, more⟩
    next done =>
      cases more
      exact .inl ⟨done, rfl, rfl⟩
    next => cases more
  · rintro ⟨key, rest, ran, ⟨done, rfl, rfl⟩ | ⟨next, comma, more⟩⟩
    · refine ⟨_, ran, ?_⟩
      dsimp only
      rw [done]
    · refine ⟨_, ran, ?_⟩
      dsimp only
      rw [comma]
      exact more

theorem written_cons (text : List Char) (k : WrittenKey) (keys : List WrittenKey) :
    Written text (k :: keys) ↔ Spaced isspace (k.tokens ++ others keys) text := by
  rw [Written, tokens_cons]
  exact and_iff_right (List.cons_ne_nil k keys)

/-- What is left behind a key: nothing, or a comma and what is written behind it. -/
theorem others_nil (rest : List Char) : Spaced isspace (others []) (skip_closing rest) ↔ skip_closing rest = [] := by
  rw [others, Spaced, skip_closing_shown]

theorem others_cons (rest : List Char) {keys : List WrittenKey} (nonempty : keys ≠ []) :
    Spaced isspace (others keys) (skip_closing rest) ↔ ∃ next, skip_closing rest = ',' :: next ∧ Written next keys := by
  obtain ⟨k, keys, rfl⟩ := List.exists_cons_of_ne_nil nonempty
  rw [others, Spaced, skip_closing_shown]
  exact exists_congr fun next => and_congr_right fun _ => (and_iff_right nonempty).symm

theorem load_loop_iff (fuel numKeys count : Nat) (out keys : List RSAPublicKey) (text : List Char) :
    load_loop fuel numKeys out text = .ok (keys, count) ↔
      ∃ written : List WrittenKey, written.length ≤ fuel ∧ (∀ k ∈ written, k.Loose) ∧ Written text written ∧
        keys = out ++ written.map WrittenKey.stored ∧ count = numKeys + written.length := by
  induction fuel generalizing numKeys out text with
  | zero =>
    refine iff_of_false nofun ?_
    rintro ⟨written, none, _, ⟨some, _⟩, _⟩
    exact some (List.length_eq_zero_iff.mp (Nat.le_zero.mp none))
  | succ fuel ih =>
    have joined (k : WrittenKey) (written : List WrittenKey) :
        out ++ [k.stored] ++ written.map WrittenKey.stored = out ++ (k :: written).map WrittenKey.stored ∧
          numKeys + 1 + written.length = numKeys + (k :: written).length := by
      constructor
      · rw [List.append_assoc]
        rfl
      · rw [List.length_cons]
        omega
    rw [load_loop_ok]
    constructor
    · rintro ⟨key, rest, ran, ⟨done, rfl, rfl⟩ | ⟨next, comma, more⟩⟩
      · obtain ⟨k, loose, rfl, spaced⟩ :=
          (key_iff (others_follow []) key text).mp ⟨rest, ran, (others_nil rest).mpr done⟩
        exact ⟨[k], Nat.le_add_left 1 fuel, List.forall_mem_singleton.mpr loose, (written_cons text k []).mpr spaced,
          rfl, rfl⟩
      · obtain ⟨written, short, loose, reads, rfl, rfl⟩ := (ih _ _ next).mp more
        obtain ⟨k, first, rfl, spaced⟩ :=
          (key_iff (others_follow written) key text).mp ⟨rest, ran, (others_cons rest reads.1).mpr ⟨next, comma, reads⟩⟩
        exact ⟨k :: written, Nat.succ_le_succ short, List.forall_mem_cons.mpr ⟨first, loose⟩,
          (written_cons text k written).mpr spaced, (joined k written).1, (joined k written).2⟩
    · rintro ⟨written, short, loose, reads, rfl, rfl⟩
      obtain ⟨k, written, rfl⟩ := List.exists_cons_of_ne_nil reads.1
      obtain ⟨first, loose⟩ := List.forall_mem_cons.mp loose
      obtain ⟨rest, ran, left⟩ := (key_iff (others_follow written) k.stored text).mpr
        ⟨k, first, rfl, (written_cons text k written).mp reads⟩
      refine ⟨k.stored, rest, ran, ?_⟩
      by_cases more : written = []
      · subst more
        exact .inl ⟨(others_nil rest).mp left, rfl, rfl⟩
      · obtain ⟨next, comma, behind⟩ := (others_cons rest more).mp left
        exact .inr ⟨next, comma, (ih _ _ next).mpr ⟨written, Nat.le_of_succ_le_succ short, loose, behind,
          (joined k written).1.symm, (joined k written).2.symm⟩⟩

theorem load_keys_out (filename content : List Char) (keys : List RSAPublicKey) :
    (load_keys filename (.ok content)).out = some keys ↔
      ∃ written : List WrittenKey, (∀ k ∈ written, k.Loose) ∧ Written content written ∧
        keys = written.map WrittenKey.stored := by
  have loop := load_loop_iff (content.length + 1) 0
  constructor
  · intro out
    rw [load_keys] at out
    split at out
    next loaded numKeys ran =>
      cases out
      obtain ⟨written, _, loose, reads, rfl, _⟩ := (loop numKeys [] keys content).mp ran
      exact ⟨written, loose, reads, List.nil_append _⟩
    next => cases out
  · rintro ⟨written, loose, reads, rfl⟩
    have short := (written_length loose reads).trans (Nat.le_succ _)
    rw [load_keys, (loop (0 + written.length) [] (written.map WrittenKey.stored) content).mpr
      ⟨written, short, loose, reads, (List.nil_append _).symm, rfl⟩]

theorem load_keys_num (filename : List Char) (f : Except (List Char) (List Char)) :
    (load_keys filename f).numKeys = ((load_keys filename f).out.getD []).length := by
  cases f with
  | error strerror => rfl
  | ok content =>
    rw [load_keys]
    split
    next out numKeys ran =>
      obtain ⟨written, _, _, _, rfl, rfl⟩ := (load_loop_iff _ 0 numKeys [] out content).mp ran
      simp
    next => rfl

/-- The keys of the documented format are returned, and `NULL` for everything else. -/
def Accepted (content : List Char) (loaded : Loaded) : Prop :=
  (∀ keys, loaded.out = some keys ↔ Format content keys) ∧ loaded.numKeys = (loaded.out.getD []).length

theorem loaded_iff (filename content : List Char) :
    Accepted content (load_keys filename (.ok content)) ↔
      ∀ written : List WrittenKey, (∀ k ∈ written, k.Loose) → Written content written →
        ∀ k ∈ written, k.Documented ∧ k.InRange := by
  rw [Accepted, and_iff_left (load_keys_num filename _)]
  constructor
  · intro accepted written loose reads
    have out := (load_keys_out filename content _).mpr ⟨written, loose, reads, rfl⟩
    obtain ⟨keys, documented, also, eq⟩ := (accepted _).mp out
    obtain rfl := written_unique loose (fun k member => documented_loose (documented k member)) reads also
    rw [List.map_inj_left] at eq
    intro k member
    exact ⟨documented k member, (key_stored (documented k member)).mp (eq k member)⟩
  · intro each keys
    rw [load_keys_out]
    constructor
    · rintro ⟨written, loose, reads, rfl⟩
      have good := each written loose reads
      refine ⟨written, fun k member => (good k member).1, reads, ?_⟩
      exact List.map_congr_left fun k member => (key_stored (good k member).1).mpr (good k member).2
    · rintro ⟨written, documented, reads, rfl⟩
      have loose := fun k member => documented_loose (documented k member)
      refine ⟨written, loose, reads, ?_⟩
      exact List.map_congr_left fun k member =>
        ((key_stored (documented k member)).mpr (each written loose reads k member).2).symm

/-- A key of ones, without the braces that close it. -/
def unclosed : WrittenKey :=
  ⟨⟨[], [], "64".toList⟩, [], ⟨[], [], ['1']⟩, .replicate RSANUMWORDS ⟨[], [], ['1']⟩,
    .replicate RSANUMWORDS ⟨[], [], ['1']⟩, 0⟩

theorem one_fits (conversion : Conversion) : (⟨[], [], ['1']⟩ : Numeral).Fits conversion := by
  refine ⟨.inl rfl, .inl rfl, nofun, List.forall_mem_singleton.mpr ?_⟩
  cases conversion <;> decide

theorem one_replicated :
    ∀ word ∈ (List.Vector.replicate RSANUMWORDS (⟨[], [], ['1']⟩ : Numeral)).toList, word.Fits .u := by
  intro word member
  rw [List.eq_of_mem_replicate member]
  exact one_fits .u

theorem unclosed_loose : unclosed.Loose :=
  ⟨⟨.inl rfl, .inl rfl, nofun, sixty_four_digits⟩, by decide, nofun, one_fits .x, one_replicated,
    one_replicated, Nat.zero_le 2⟩

theorem braces_missing :
    ¬ Accepted unclosed.tokens.flatten (load_keys "/res/keys".toList (.ok unclosed.tokens.flatten)) := by
  intro accepted
  have loose : ∀ k ∈ [unclosed], k.Loose := List.forall_mem_singleton.mpr unclosed_loose
  have reads : Written unclosed.tokens.flatten [unclosed] := by
    have flat := written_flatten (List.cons_ne_nil unclosed []) loose
    rwa [tokens_cons, others, List.append_nil] at flat
  have out := (load_keys_out "/res/keys".toList unclosed.tokens.flatten _).mpr ⟨[unclosed], loose, reads, rfl⟩
  obtain ⟨keys, documented, also, _⟩ := (accepted.1 _).mp out
  obtain rfl := written_unique (fun k member => documented_loose (documented k member)) loose also reads
  exact absurd (documented unclosed List.mem_cons_self).closing (by decide)

end SteamRecovery.Keys
