import Mathlib.Algebra.Order.Ring.Int
import Mathlib.Data.List.Basic
import Mathlib.Data.List.TakeWhile

/-!
Whole numbers in texts, as the conversions of C read them: white space, a sign, `0x`, and
digits. A number that is written so is read back with what is behind it (`scan_text`), and
nothing else is read (`scan_fits`).
-/
namespace SteamRecovery.Numerals

def isspace (c : Char) : Bool := c.toNat = 32 || (9 ≤ c.toNat && c.toNat ≤ 13)

/-- The value of a digit or a letter in a number; 36 for everything else. -/
def digit (c : Char) : Nat :=
  if '0' ≤ c ∧ c ≤ '9' then c.toNat - '0'.toNat
  else if 'a' ≤ c ∧ c ≤ 'z' then c.toNat - 'a'.toNat + 10
  else if 'A' ≤ c ∧ c ≤ 'Z' then c.toNat - 'A'.toNat + 10
  else 36

/-- `%d`, `%i`, `%u` and `%x`. -/
inductive Conversion where
  | d
  | i
  | u
  | x
  deriving DecidableEq

/-- It takes a `0x`. -/
def Conversion.hex (conversion : Conversion) : Prop := conversion = .i ∨ conversion = .x

instance (conversion : Conversion) : Decidable conversion.hex := inferInstanceAs (Decidable (_ ∨ _))

/-- A number as it is written: a sign, `0x`, and digits. -/
structure Numeral where
  sign : List Char
  lead : List Char
  digits : List Char
  deriving DecidableEq

def Numeral.text (n : Numeral) : List Char := n.sign ++ n.lead ++ n.digits

/-- The base of these digits, behind `0x` or not. -/
def base (conversion : Conversion) (lead digits : List Char) : Nat :=
  match conversion with
  | .i => if lead ≠ [] then 16 else if digits.head? = some '0' then 8 else 10
  | .x => 16
  | _ => 10

def Numeral.base (conversion : Conversion) (n : Numeral) : Nat := Numerals.base conversion n.lead n.digits

/-- What a conversion takes. -/
structure Numeral.Fits (conversion : Conversion) (n : Numeral) : Prop where
  sign : n.sign = [] ∨ n.sign = ['-'] ∨ n.sign = ['+']
  lead : n.lead = [] ∨ conversion.hex ∧ (n.lead = ['0', 'x'] ∨ n.lead = ['0', 'X'])
  nonempty : n.digits ≠ []
  digits : ∀ c ∈ n.digits, digit c < n.base conversion

def Numeral.magnitude (conversion : Conversion) (n : Numeral) : Nat :=
  n.digits.foldl (fun value c => n.base conversion * value + digit c) 0

def Numeral.value (conversion : Conversion) (n : Numeral) : Int :=
  if n.sign = ['-'] then -(n.magnitude conversion) else n.magnitude conversion

/-- The lower half of what `strtoimax` and `strtoumax` return. Beyond 64 bits it is the number
    that is next to it, or the largest one. -/
def Numeral.stored (conversion : Conversion) (n : Numeral) : BitVec 32 :=
  match conversion with
  | .d | .i => BitVec.ofInt 32 (max (-2 ^ 63) (min (2 ^ 63 - 1) (n.value conversion)))
  | _ => if 2 ^ 64 ≤ n.magnitude conversion then -1 else BitVec.ofInt 32 (n.value conversion)

def sign_of (text : List Char) : List Char := (text.take 1).filter fun c => c = '-' || c = '+'

/-- A `0x` counts if a digit follows. -/
def lead_of (conversion : Conversion) (text : List Char) : List Char :=
  if conversion.hex ∧ (text.take 2 = ['0', 'x'] ∨ text.take 2 = ['0', 'X']) ∧
    (text.drop 2).head?.any (fun c => digit c < 16) = true then text.take 2 else []

/-- The number that the text starts with, and what is behind it. -/
def scan (conversion : Conversion) (text : List Char) : Option (Numeral × List Char) :=
  let sign := sign_of text
  let unsigned := text.drop sign.length
  let lead := lead_of conversion unsigned
  let number := unsigned.drop lead.length
  let digits := number.takeWhile fun c => digit c < base conversion lead number
  if digits = [] then none
  else some (⟨sign, lead, digits⟩, number.dropWhile fun c => digit c < base conversion lead number)

example : scan .i "0x".toList = some (⟨[], [], ['0']⟩, ['x']) := by decide

theorem sign_of_append (text : List Char) : sign_of text ++ text.drop (sign_of text).length = text := by
  cases text with
  | nil => rfl
  | cons c text =>
    by_cases signs : c = '-' ∨ c = '+'
    · simp [sign_of, signs]
    · simp [sign_of, signs]

theorem sign_of_cases (text : List Char) : sign_of text = [] ∨ sign_of text = ['-'] ∨ sign_of text = ['+'] := by
  cases text with
  | nil => exact .inl rfl
  | cons c text =>
    by_cases minus : c = '-'
    · subst minus
      exact .inr (.inl rfl)
    · by_cases plus : c = '+'
      · subst plus
        exact .inr (.inr rfl)
      · left
        simp [sign_of, minus, plus]

theorem lead_of_append (conversion : Conversion) (text : List Char) :
    lead_of conversion text ++ text.drop (lead_of conversion text).length = text := by
  unfold lead_of
  split
  next lead =>
    have two : (text.take 2).length = 2 := by rcases lead.2.1 with eq | eq <;> rw [eq] <;> rfl
    rw [two, List.take_append_drop]
  next => rfl

theorem lead_of_cases (conversion : Conversion) (text : List Char) :
    lead_of conversion text = [] ∨
      conversion.hex ∧ (lead_of conversion text = ['0', 'x'] ∨ lead_of conversion text = ['0', 'X']) := by
  unfold lead_of
  split
  next lead => exact .inr ⟨lead.1, lead.2.1⟩
  next => exact .inl rfl

theorem base_le (conversion : Conversion) (lead digits : List Char) : base conversion lead digits ≤ 16 := by
  unfold base
  split
  · split
    · decide
    · split <;> decide
  · decide
  · decide

theorem base_append (conversion : Conversion) (lead : List Char) {digits : List Char} (nonempty : digits ≠ [])
    (rest : List Char) : base conversion lead (digits ++ rest) = base conversion lead digits := by
  rw [base.eq_def, base.eq_def, List.head?_append_of_ne_nil digits nonempty]

theorem scan_fits {conversion : Conversion} {text rest : List Char} {n : Numeral}
    (scanned : scan conversion text = some (n, rest)) : n.Fits conversion ∧ text = n.text ++ rest := by
  simp only [scan] at scanned
  split at scanned
  next => cases scanned
  next nonempty =>
    cases scanned
    refine ⟨⟨sign_of_cases text, lead_of_cases conversion _, nonempty, ?_⟩, ?_⟩
    · intro c member
      have taken := List.mem_takeWhile_imp member
      rw [decide_eq_true_eq] at taken
      rw [Numeral.base]
      rwa [← base_append conversion _ nonempty, List.takeWhile_append_dropWhile]
    · simp only [Numeral.text, List.append_assoc, List.takeWhile_append_dropWhile, lead_of_append, sign_of_append]

theorem isspace_digit {c : Char} (blank : isspace c) : digit c = 36 := by
  simp only [isspace, Bool.or_eq_true, Bool.and_eq_true, decide_eq_true_eq] at blank
  simp only [digit, Char.le_def, UInt32.le_iff_toNat_le]
  have eq : c.val.toNat = c.toNat := rfl
  rw [if_neg, if_neg, if_neg] <;> simp [eq] <;> omega

theorem sign_of_text {sign text : List Char} (cases : sign = [] ∨ sign = ['-'] ∨ sign = ['+'])
    (behind : ∀ c ∈ text.head?, c ≠ '-' ∧ c ≠ '+') : sign_of (sign ++ text) = sign := by
  rcases cases with rfl | rfl | rfl
  · cases text with
    | nil => rfl
    | cons c text =>
      obtain ⟨minus, plus⟩ := behind c rfl
      simp [sign_of, minus, plus]
  · rfl
  · rfl

theorem lead_of_text {conversion : Conversion} {lead : List Char} {first : Char} {text : List Char}
    (cases : lead = [] ∨ conversion.hex ∧ (lead = ['0', 'x'] ∨ lead = ['0', 'X']))
    (small : digit first < 16) (behind : ∀ c ∈ text.head?, c ≠ 'x' ∧ c ≠ 'X') :
    lead_of conversion (lead ++ first :: text) = lead := by
  rcases cases with rfl | ⟨hex, rfl | rfl⟩
  · refine if_neg fun starts => ?_
    cases text with
    | nil => simp at starts
    | cons c text =>
      obtain ⟨small, capital⟩ := behind c rfl
      simp [small, capital] at starts
  · exact if_pos ⟨hex, .inl rfl, decide_eq_true small⟩
  · exact if_pos ⟨hex, .inr rfl, decide_eq_true small⟩

theorem digit_plain {c : Char} (small : digit c < 16) : c ≠ '-' ∧ c ≠ '+' ∧ c ≠ 'x' ∧ c ≠ 'X' := by
  refine ⟨?_, ?_, ?_, ?_⟩ <;>
  · rintro rfl
    revert small
    decide

theorem span_ends {p : Char → Bool} {taken rest : List Char} (all : ∀ c ∈ taken, p c)
    (ended : ∀ c ∈ rest.head?, p c = false) :
    (taken ++ rest).takeWhile p = taken ∧ (taken ++ rest).dropWhile p = rest := by
  rw [List.takeWhile_append_of_pos all, List.dropWhile_append_of_pos all]
  cases rest with
  | nil => exact ⟨List.append_nil taken, rfl⟩
  | cons c rest =>
    have stops : ¬ p c := by rw [ended c rfl]; decide
    rw [List.takeWhile_cons_of_neg stops, List.dropWhile_cons_of_neg stops, List.append_nil]
    exact ⟨rfl, rfl⟩

/-- Behind the sign is a digit, be it that of `0x`. -/
theorem unsigned_starts {conversion : Conversion} {n : Numeral} (fits : n.Fits conversion) (rest : List Char) :
    ∀ c ∈ (n.lead ++ n.digits ++ rest).head?, digit c < 16 := by
  obtain ⟨_, leads, nonempty, small⟩ := fits
  obtain ⟨first, digits, eq⟩ := List.exists_cons_of_ne_nil nonempty
  intro c head
  rcases leads with lead | ⟨_, lead | lead⟩
  · rw [lead, eq, List.nil_append, List.cons_append, List.head?_cons, Option.mem_some_iff] at head
    subst head
    have member : first ∈ n.digits := by rw [eq]; exact List.mem_cons_self
    exact (small first member).trans_le (base_le _ _ _)
  · rw [lead] at head
    cases head
    decide
  · rw [lead] at head
    cases head
    decide

theorem text_starts {conversion : Conversion} {n : Numeral} (fits : n.Fits conversion) (rest : List Char) :
    ∀ c ∈ (n.text ++ rest).head?, isspace c = false := by
  intro c head
  rw [Numeral.text, List.append_assoc, List.append_assoc] at head
  rcases fits.sign with eq | eq | eq
  · rw [eq, List.nil_append, ← List.append_assoc] at head
    by_contra blank
    have other := isspace_digit ((Bool.not_eq_false _).mp blank)
    have less := unsigned_starts fits rest c head
    omega
  · rw [eq] at head
    cases head
    decide
  · rw [eq] at head
    cases head
    decide

theorem text_dropWhile {conversion : Conversion} {n : Numeral} (fits : n.Fits conversion) (rest : List Char) :
    (n.text ++ rest).dropWhile isspace = n.text ++ rest := by
  have starts := text_starts fits rest
  cases eq : n.text ++ rest with
  | nil => rfl
  | cons c text =>
    rw [eq] at starts
    exact List.dropWhile_cons_of_neg (by simp [starts c rfl])

theorem scan_text {conversion : Conversion} {n : Numeral} (fits : n.Fits conversion) {rest : List Char}
    (ended : ∀ c ∈ rest.head?, digit c = 36) : scan conversion (n.text ++ rest) = some (n, rest) := by
  have starts := unsigned_starts fits rest
  obtain ⟨sign, lead, digits⟩ := n
  obtain ⟨signs, leads, nonempty, small⟩ := fits
  dsimp only [Numeral.base] at signs leads nonempty small starts
  have bound (c : Char) (member : c ∈ digits) : digit c < 16 := (small c member).trans_le (base_le _ _ _)
  obtain ⟨first, digits, rfl⟩ := List.exists_cons_of_ne_nil nonempty
  have second : ∀ c ∈ (digits ++ rest).head?, c ≠ 'x' ∧ c ≠ 'X' := by
    intro c head
    cases digits with
    | nil =>
      have other := ended c head
      constructor <;>
      · rintro rfl
        revert other
        decide
    | cons d digits =>
      rw [List.cons_append, List.head?_cons, Option.mem_some_iff] at head
      subst head
      exact (digit_plain (bound d (by simp))).2.2
  have unsigned : ∀ c ∈ (lead ++ first :: (digits ++ rest)).head?, c ≠ '-' ∧ c ≠ '+' := by
    intro c head
    have plain := digit_plain (starts c (by rwa [List.append_assoc]))
    exact ⟨plain.1, plain.2.1⟩
  have based : base conversion lead (first :: (digits ++ rest)) = base conversion lead (first :: digits) :=
    base_append conversion lead nonempty rest
  have takes : (first :: (digits ++ rest)).takeWhile (fun c => digit c < base conversion lead (first :: digits)) =
        first :: digits ∧
      (first :: (digits ++ rest)).dropWhile (fun c => digit c < base conversion lead (first :: digits)) = rest := by
    refine span_ends (fun c member => decide_eq_true (small c member)) fun c head => ?_
    have le := base_le conversion lead (first :: digits)
    rw [ended c head, decide_eq_false_iff_not]
    omega
  rw [scan, Numeral.text]
  simp only [List.append_assoc, List.cons_append]
  rw [sign_of_text signs unsigned, List.drop_left, lead_of_text leads (bound first (by simp)) second, List.drop_left, based, takes.1, takes.2,
    if_neg nonempty]

theorem text_chars {conversion : Conversion} {n : Numeral} (fits : n.Fits conversion) :
    ∀ c ∈ n.text, c ∈ ['-', '+', 'x', 'X'] ∨ digit c < 16 := by
  intro c member
  rw [Numeral.text, List.mem_append, List.mem_append] at member
  rcases member with (member | member) | member
  · rcases fits.sign with eq | eq | eq <;> simp [eq] at member <;> simp [member]
  · rcases fits.lead with eq | ⟨_, eq | eq⟩ <;> simp [eq] at member
    · rcases member with rfl | rfl <;> decide
    · rcases member with rfl | rfl <;> decide
  · exact .inr ((fits.digits c member).trans_le (base_le _ _ _))

theorem text_ends {conversion : Conversion} {n : Numeral} (fits : n.Fits conversion) :
    n.text ≠ [] ∧ ∀ c ∈ n.text.getLast?, isspace c = false := by
  refine ⟨fun none => fits.nonempty (List.append_eq_nil_iff.mp none).2, fun c last => ?_⟩
  rw [Numeral.text, List.getLast?_append_of_ne_nil _ fits.nonempty] at last
  by_contra blank
  have other := isspace_digit ((Bool.not_eq_false _).mp blank)
  have less := (fits.digits c (List.mem_of_mem_getLast? last)).trans_le (base_le _ _ _)
  omega

theorem text_inj {conversion : Conversion} {n other : Numeral} (fits : n.Fits conversion)
    (also : other.Fits conversion) (eq : n.text = other.text) : n = other := by
  have first : scan conversion (n.text ++ []) = some (n, []) := scan_text fits nofun
  have second : scan conversion (other.text ++ []) = some (other, []) := scan_text also nofun
  rw [eq, second] at first
  cases first
  rfl

/-! ### Printing -/

theorem digit_decimal {c : Char} (decimal : c.isDigit = true) : digit c = c.toNat - '0'.toNat ∧ digit c < 10 := by
  simp only [Char.isDigit, ge_iff_le, Bool.and_eq_true, decide_eq_true_eq] at decimal
  have value : digit c = c.toNat - '0'.toNat := if_pos decimal
  have most : c.toNat ≤ 57 := UInt32.le_iff_toNat_le.mp decimal.2
  have zero : '0'.toNat = 48 := rfl
  exact ⟨value, by omega⟩

/-- The decimal digits of a number, behind a sign or none. -/
def decimal (sign : List Char) (n : Nat) : Numeral := ⟨sign, [], Nat.toDigits 10 n⟩

theorem decimal_fits {sign : List Char} (signs : sign = [] ∨ sign = ['-'] ∨ sign = ['+']) (n : Nat) :
    (decimal sign n).Fits .d where
  sign := signs
  lead := .inl rfl
  nonempty := Nat.toDigits_ne_nil
  digits := fun _ member => (digit_decimal (Nat.isDigit_of_mem_toDigits (by decide) (by decide) member)).2

theorem foldl_decimal {digits : List Char} (decimal : ∀ c ∈ digits, c.isDigit = true) (start : Nat) :
    digits.foldl (fun value c => 10 * value + digit c) start = Nat.ofDigitChars 10 digits start := by
  induction digits generalizing start with
  | nil => rfl
  | cons c rest ih =>
    rw [List.forall_mem_cons] at decimal
    rw [List.foldl_cons, ih decimal.2, (digit_decimal decimal.1).1, Nat.ofDigitChars_cons]

theorem decimal_magnitude (sign : List Char) (n : Nat) : (decimal sign n).magnitude .d = n := by
  have digits : ∀ c ∈ Nat.toDigits 10 n, c.isDigit = true := fun c member =>
    Nat.isDigit_of_mem_toDigits (by decide) (by decide) member
  exact (foldl_decimal digits 0).trans Nat.ofDigitChars_ten_toDigits

/-- An integer is printed as such a number. -/
theorem repr_numeral (n : Int) :
    ∃ numeral : Numeral, n.repr.toList = numeral.text ∧ numeral.Fits .d ∧ numeral.value .d = n := by
  rw [Int.repr_eq_if]
  split
  next positive =>
    refine ⟨decimal [] n.toNat, Nat.toList_repr, decimal_fits (.inl rfl) _, ?_⟩
    rw [Numeral.value, decimal_magnitude]
    exact Int.toNat_of_nonneg positive
  next negative =>
    refine ⟨decimal ['-'] (-n).toNat, ?_, decimal_fits (.inr (.inl rfl)) _, ?_⟩
    · rw [String.toList_append, Nat.toList_repr]
      rfl
    · have sign : (decimal ['-'] (-n).toNat).sign = ['-'] := rfl
      rw [Numeral.value, decimal_magnitude, if_pos sign, Int.toNat_of_nonneg (by omega), Int.neg_neg]

/-- A number that was printed is read back. -/
theorem stored_printed (n : BitVec 32) :
    (scan .d (n.toInt.repr.toList.dropWhile isspace)).map (fun found => found.1.stored .d) = some n := by
  obtain ⟨numeral, text, fits, value⟩ := repr_numeral n.toInt
  have read : scan .d (numeral.text ++ []) = some (numeral, []) := scan_text fits nofun
  have shown := text_dropWhile fits []
  rw [List.append_nil] at read shown
  have least : -2 ^ 31 ≤ n.toInt := BitVec.le_toInt n
  have most : n.toInt < 2 ^ 31 := BitVec.toInt_lt
  have within : max (-2 ^ 63) (min (2 ^ 63 - 1) n.toInt) = n.toInt := by omega
  rw [text, shown, read, Option.map_some]
  dsimp only [Numeral.stored]
  rw [value, within, BitVec.ofInt_toInt]

end SteamRecovery.Numerals
