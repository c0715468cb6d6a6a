import SteamRecovery.Devices
import SteamRecovery.Numerals
import SteamRecovery.Tokens

/-!
`fscanf` with white space, characters and whole numbers in the format. What a format reads is
said in tokens (`Scans`), one lemma for each kind of token that a format can ask for.
-/
namespace SteamRecovery.Scanf
open SteamRecovery.Devices (CInt)
open SteamRecovery.Numerals SteamRecovery.Tokens

inductive Directive where
  | space
  | literal (c : Char)
  | number (conversion : Conversion)
  deriving DecidableEq

/-- The directives of a format. -/
def directives : List Char → List Directive
  | '%' :: 'i' :: rest => .number .i :: directives rest
  | '%' :: 'u' :: rest => .number .u :: directives rest
  | '%' :: 'x' :: rest => .number .x :: directives rest
  | c :: rest => (if isspace c then .space else .literal c) :: directives rest
  | [] => []

def numbers (format : List Directive) : Nat := format.countP fun
  | .number _ => true
  | _ => false

/-- The numbers that are stored, and the text that is left. -/
def fscanf : List Directive → List Char → List CInt × List Char
  | [], text => ([], text)
  | .space :: format, text => fscanf format (text.dropWhile isspace)
  | .literal c :: format, text =>
    if text.head? = some c then fscanf format text.tail else ([], text)
  | .number conversion :: format, text =>
    match scan conversion (text.dropWhile isspace) with
    | some (n, rest) => ((n.stored conversion :: (fscanf format rest).1), (fscanf format rest).2)
    | none => ([], text.dropWhile isspace)

example : fscanf (directives " , %u".toList) " ,\n-5 \x7d".toList = ([-5], [' ', '}']) := by decide

theorem fscanf_suffix (format : List Directive) (text : List Char) : (fscanf format text).2 <:+ text := by
  induction format generalizing text with
  | nil => exact List.suffix_rfl
  | cons directive format ih =>
    cases directive with
    | space => exact (ih _).trans (List.dropWhile_suffix _)
    | literal c =>
      rw [fscanf]
      split
      next => exact (ih _).trans (List.tail_suffix _)
      next => exact List.suffix_rfl
    | number conversion =>
      rw [fscanf]
      split
      next n rest scanned =>
        have behind : rest <:+ text.dropWhile isspace := ⟨n.text, (scan_fits scanned).2.symm⟩
        exact ((ih rest).trans behind).trans (List.dropWhile_suffix _)
      next => exact List.dropWhile_suffix _

/-! ### Formats -/

variable {mark : Char → Bool} {format : List Directive} {reads : List CInt → List (List Char) → Prop}

/-- All numbers of the format are read just where the text has such tokens, and what comes
    behind them is left. -/
def Scans (mark : Char → Bool) (format : List Directive) (reads : List CInt → List (List Char) → Prop) : Prop :=
  ∀ values behind text, Ended mark behind →
    ((∃ tokens, reads values tokens ∧ Spaced isspace (tokens ++ behind) text) ↔
      (fscanf format text).1 = values ∧ values.length = numbers format ∧
        Spaced isspace behind (fscanf format text).2)

theorem scans_nil : Scans mark [] fun values tokens => values = [] ∧ tokens = [] := by
  intro values behind text _
  constructor
  · rintro ⟨_, ⟨rfl, rfl⟩, spaced⟩
    exact ⟨rfl, rfl, spaced⟩
  · rintro ⟨rfl, _, spaced⟩
    exact ⟨[], ⟨rfl, rfl⟩, spaced⟩

theorem scans_literal {c : Char} (scans : Scans mark format reads) (more : 0 < numbers format) :
    Scans mark (.space :: .literal c :: format) fun values tokens =>
      ∃ later, tokens = [c] :: later ∧ reads values later := by
  intro values behind text ended
  have counted : numbers (.space :: .literal c :: format) = numbers format := rfl
  rw [counted, fscanf, fscanf]
  constructor
  · rintro ⟨_, ⟨later, rfl, read⟩, rest, eq, spaced⟩
    rw [eq, if_pos (by rfl)]
    exact (scans values behind rest ended).mp ⟨later, read, spaced⟩
  · rintro ⟨stored, all, spaced⟩
    split at stored
    next first =>
      rw [if_pos first] at spaced
      obtain ⟨later, read, spaced⟩ := (scans values behind _ ended).mpr ⟨stored, all, spaced⟩
      exact ⟨_, ⟨later, rfl, read⟩, _, (List.eq_cons_of_mem_head? first), spaced⟩
    next =>
      rw [← stored, List.length_nil] at all
      omega

/-- What is left behind a number does not go on with it. -/
theorem number_ended (marks : ∀ c, mark c → digit c = 36) {tokens : List (List Char)} {rest : List Char}
    (ended : Ended mark tokens) (spaced : Spaced isspace tokens rest) : ∀ c ∈ rest.head?, digit c = 36 := by
  intro c head
  rw [List.eq_cons_of_mem_head? head] at spaced
  rcases spaced_ended ended spaced with blank | marked
  · exact isspace_digit blank
  · exact marks c marked

theorem number_iff (conversion : Conversion) (marks : ∀ c, mark c → digit c = 36) (scans : Scans mark format reads)
    (next : ∀ values tokens, reads values tokens → Ended mark tokens) (values : List CInt)
    {behind : List (List Char)} (ended : Ended mark behind) (text : List Char) :
    (∃ n : Numeral, n.Fits conversion ∧ ∃ rest, text.dropWhile isspace = n.text ++ rest ∧
        ∃ stored later, values = n.stored conversion :: stored ∧ reads stored later ∧
          Spaced isspace (later ++ behind) rest) ↔
      (fscanf (.number conversion :: format) text).1 = values ∧ values.length = numbers format + 1 ∧
        Spaced isspace behind (fscanf (.number conversion :: format) text).2 := by
  rw [fscanf]
  constructor
  · rintro ⟨n, fits, rest, eq, stored, later, rfl, read, spaced⟩
    have scanned := scan_text fits (number_ended marks (ended_append (next stored later read) ended) spaced)
    obtain ⟨values, all, left⟩ := (scans stored behind rest ended).mp ⟨later, read, spaced⟩
    rw [eq, scanned]
    dsimp only
    rw [values, List.length_cons, all]
    exact ⟨rfl, rfl, left⟩
  · rintro ⟨stored, all, spaced⟩
    split at stored
    next n rest scanned =>
      obtain ⟨fits, eq⟩ := scan_fits scanned
      rw [scanned] at spaced
      rw [← stored, List.length_cons, Nat.add_right_cancel_iff] at all
      obtain ⟨later, read, spaced⟩ := (scans _ behind rest ended).mpr ⟨rfl, all, spaced⟩
      exact ⟨n, fits, rest, eq, _, later, stored.symm, read, spaced⟩
    next =>
      rw [← stored] at all
      cases all

theorem scans_number {conversion : Conversion} (marks : ∀ c, mark c → digit c = 36)
    (scans : Scans mark format reads) (next : ∀ values tokens, reads values tokens → Ended mark tokens) :
    Scans mark (.space :: .number conversion :: format) fun values tokens =>
      ∃ n : Numeral, n.Fits conversion ∧
        ∃ stored later, values = n.stored conversion :: stored ∧ tokens = n.text :: later ∧
          reads stored later := by
  intro values behind text ended
  have counted : numbers (.space :: .number conversion :: format) = numbers format + 1 := by simp [numbers]
  have number := number_iff conversion marks scans next values ended (text.dropWhile isspace)
  rw [List.dropWhile_idempotent] at number
  rw [counted, fscanf, ← number]
  constructor
  · rintro ⟨_, ⟨n, fits, stored, later, values, rfl, read⟩, rest, eq, spaced⟩
    exact ⟨n, fits, rest, eq, stored, later, values, read, spaced⟩
  · rintro ⟨n, fits, rest, eq, stored, later, values, read, spaced⟩
    exact ⟨_, ⟨n, fits, stored, later, values, rfl, read⟩, rest, eq, spaced⟩

/-- White space may stand behind the `0x` of the format, and a number with a sign and a `0x`
    of its own. -/
theorem scans_hex (marks : ∀ c, mark c → digit c = 36) (scans : Scans mark format reads)
    (next : ∀ values tokens, reads values tokens → Ended mark tokens) :
    Scans mark (.space :: .literal '0' :: .literal 'x' :: .number .x :: format) fun values tokens =>
      ∃ n : Numeral, n.Fits .x ∧ ∃ gap : List Char, (∀ c ∈ gap, isspace c) ∧
        ∃ stored later, values = n.stored .x :: stored ∧ tokens = ('0' :: 'x' :: (gap ++ n.text)) :: later ∧
          reads stored later := by
  intro values behind text ended
  have counted : numbers (.space :: .literal '0' :: .literal 'x' :: .number .x :: format) = numbers format + 1 := by
    simp [numbers]
  rw [counted, fscanf, fscanf]
  constructor
  · rintro ⟨_, ⟨n, fits, gap, blank, stored, later, values, rfl, read⟩, rest, eq, spaced⟩
    rw [eq, if_pos (by rfl), List.cons_append, List.tail_cons, fscanf, if_pos (by rfl), List.cons_append,
      List.tail_cons, ← number_iff .x marks scans next _ ended]
    refine ⟨n, fits, rest, ?_, stored, later, values, read, spaced⟩
    rw [List.append_assoc, List.dropWhile_append_of_pos blank, text_dropWhile fits]
  · rintro ⟨stored, all, spaced⟩
    split at stored
    next first =>
      rw [if_pos first] at spaced
      rw [fscanf] at stored spaced
      split at stored
      next second =>
        rw [if_pos second] at spaced
        obtain ⟨n, fits, rest, eq, stored, later, values, read, spaced⟩ :=
          (number_iff .x marks scans next values ended _).mpr ⟨stored, all, spaced⟩
        refine ⟨_, ⟨n, fits, (text.dropWhile isspace).tail.tail.takeWhile isspace,
          fun c member => List.mem_takeWhile_imp member, stored, later, values, rfl, read⟩, rest, ?_, spaced⟩
        rw [List.cons_append, List.cons_append, List.append_assoc, ← eq, List.takeWhile_append_dropWhile,
          ← List.eq_cons_of_mem_head? second, ← List.eq_cons_of_mem_head? first]
      next =>
        rw [← stored] at all
        cases all
    next =>
      rw [← stored] at all
      cases all

end SteamRecovery.Scanf
