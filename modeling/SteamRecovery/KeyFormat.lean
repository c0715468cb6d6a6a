import Mathlib.Data.Vector.Basic
import SteamRecovery.Scanf

/-!
Public keys as they are written (the comment on `load_keys` in `install.c`). A key has a
documented form, and a looser one that `fscanf` takes as well. A content has only one reading
as keys, be they written so or so (`written_unique`).
-/
namespace SteamRecovery.KeyFormat
open SteamRecovery.Devices (CInt)
open SteamRecovery.Numerals SteamRecovery.Tokens

def RSANUMWORDS : Nat := 64

structure RSAPublicKey where
  len : CInt
  n0inv : CInt
  n : List.Vector CInt RSANUMWORDS
  rr : List.Vector CInt RSANUMWORDS

/-- An array with its first word. -/
def array {α : Type} (first : α) (others : List.Vector α (RSANUMWORDS - 1)) : List.Vector α RSANUMWORDS :=
  .cons first others

@[simp] theorem array_toList {α : Type} (first : α) (others : List.Vector α (RSANUMWORDS - 1)) :
    (array first others).toList = first :: others.toList :=
  List.Vector.toList_cons first others

@[simp] theorem array_map {α β : Type} (f : α → β) (first : α) (others : List.Vector α (RSANUMWORDS - 1)) :
    (array first others).map f = array (f first) (others.map f) :=
  List.Vector.map_cons f first others

theorem exists_array {α : Type} (words : List.Vector α RSANUMWORDS) : ∃ first others, words = array first others :=
  List.Vector.exists_eq_cons (n := RSANUMWORDS - 1) words

/-- A key as it is written. Where `0x` is, white space may be behind it. -/
structure WrittenKey where
  len : Numeral
  gap : List Char
  n0inv : Numeral
  n : List.Vector Numeral RSANUMWORDS
  rr : List.Vector Numeral RSANUMWORDS
  closing : Nat

/-- Numbers with commas between them. -/
def listed (words : List Numeral) : List (List Char) := (words.map Numeral.text).intersperse [',']

def WrittenKey.body (k : WrittenKey) : List (List Char) :=
  ['{'] :: k.len.text :: [','] :: ('0' :: 'x' :: (k.gap ++ k.n0inv.text)) :: [','] :: ['{'] ::
    (listed k.n.toList ++ ['}'] :: [','] :: ['{'] :: listed k.rr.toList)

def WrittenKey.tokens (k : WrittenKey) : List (List Char) := k.body ++ List.replicate k.closing ['}']

/-- The content is these keys, with commas between them and white space around the tokens. -/
def Written (content : List Char) (keys : List WrittenKey) : Prop :=
  keys ≠ [] ∧ Spaced isspace ([[',']].intercalate (keys.map WrittenKey.tokens)) content

/-- What `load_loop` takes for a key. -/
structure WrittenKey.Loose (k : WrittenKey) : Prop where
  len : k.len.Fits .i
  size : k.len.stored .i = RSANUMWORDS
  gap : ∀ c ∈ k.gap, isspace c
  n0inv : k.n0inv.Fits .x
  n : ∀ word ∈ k.n.toList, word.Fits .u
  rr : ∀ word ∈ k.rr.toList, word.Fits .u
  closing : k.closing ≤ 2

/-- `{64,0x<hex>,{<64 decimal integers>},{<64 decimal integers>}}`. -/
structure WrittenKey.Documented (k : WrittenKey) : Prop where
  len : k.len = ⟨[], [], "64".toList⟩
  gap : k.gap = []
  plain : k.n0inv.sign = [] ∧ k.n0inv.lead = []
  n0inv : k.n0inv.Fits .x
  n : ∀ word ∈ k.n.toList, word.Fits .u
  rr : ∀ word ∈ k.rr.toList, word.Fits .u
  closing : k.closing = 2

def WrittenKey.stored (k : WrittenKey) : RSAPublicKey :=
  ⟨k.len.stored .i, k.n0inv.stored .x, k.n.map (Numeral.stored .u), k.rr.map (Numeral.stored .u)⟩

/-- The integers of the key modulo 2^32. -/
def WrittenKey.key (k : WrittenKey) : RSAPublicKey :=
  ⟨BitVec.ofInt 32 (k.len.value .i), BitVec.ofInt 32 (k.n0inv.value .x),
    k.n.map fun word => BitVec.ofInt 32 (word.value .u), k.rr.map fun word => BitVec.ofInt 32 (word.value .u)⟩

/-! ### Tokens -/

def mark (c : Char) : Bool := c = '{' || c = '}' || c = ','

theorem mark_digit (c : Char) (marked : mark c) : digit c = 36 := by
  simp only [mark, Bool.or_eq_true, decide_eq_true_eq] at marked
  rcases marked with (rfl | rfl) | rfl <;> decide

theorem mark_shown (c : Char) (marked : mark c) : isspace c = false := by
  simp only [mark, Bool.or_eq_true, decide_eq_true_eq] at marked
  rcases marked with (rfl | rfl) | rfl <;> decide

/-- Numbers behind another one. -/
def following (words : List Numeral) : List (List Char) := words.flatMap fun next => [[','], next.text]

theorem listed_cons (word : Numeral) (words : List Numeral) :
    listed (word :: words) = word.text :: following words := by
  induction words generalizing word with
  | nil => rfl
  | cons next words ih =>
    calc listed (word :: next :: words) = word.text :: [','] :: listed (next :: words) := rfl
      _ = word.text :: following (next :: words) := by rw [ih next]; rfl

theorem ended_following {behind : List (List Char)} (ended : Ended mark behind) (words : List Numeral) :
    Ended mark (following words ++ behind) := by
  cases words with
  | nil => exact ended
  | cons next words => exact ended_mark (by decide) _

theorem body_array (len : Numeral) (gap : List Char) (n0inv first_n first_rr : Numeral)
    (n rr : List.Vector Numeral (RSANUMWORDS - 1)) (closing : Nat) (behind : List (List Char)) :
    (⟨len, gap, n0inv, array first_n n, array first_rr rr, closing⟩ : WrittenKey).body ++ behind =
      ['{'] :: len.text :: [','] :: ('0' :: 'x' :: (gap ++ n0inv.text)) :: [','] :: ['{'] :: first_n.text ::
        (following n.toList ++ ['}'] :: [','] :: ['{'] :: first_rr.text :: (following rr.toList ++ behind)) := by
  rw [WrittenKey.body, array_toList, array_toList, listed_cons, listed_cons]
  simp only [List.cons_append, List.append_assoc]

/-- What comes behind a key: the end of the file, or a comma. -/
def Follows (behind : List (List Char)) : Prop := behind = [] ∨ ∃ later, behind = [','] :: later

theorem ended_closing {behind : List (List Char)} (follows : Follows behind) (closing : Nat) :
    Ended mark (List.replicate closing ['}'] ++ behind) := by
  cases closing with
  | zero =>
    rcases follows with rfl | ⟨later, rfl⟩
    · exact ended_nil
    · exact ended_mark (by decide) later
  | succ closing => exact ended_mark (by decide) _

/-- The tokens of the keys behind the first. -/
def others : List WrittenKey → List (List Char)
  | [] => []
  | k :: keys => [','] :: [[',']].intercalate ((k :: keys).map WrittenKey.tokens)

theorem tokens_cons (k : WrittenKey) (keys : List WrittenKey) :
    [[',']].intercalate ((k :: keys).map WrittenKey.tokens) = k.tokens ++ others keys := by
  cases keys with
  | nil => rfl
  | cons => rfl

theorem others_follow (keys : List WrittenKey) : Follows (others keys) := by
  cases keys with
  | nil => exact .inl rfl
  | cons => exact .inr ⟨_, rfl⟩

/-! ### A content has one division into keys -/

theorem chars_plain {c : Char} (allowed : c ∈ ['-', '+', 'x', 'X'] ∨ digit c < 16) : mark c = false := by
  by_contra marked
  have other := mark_digit c (Bool.eq_true_of_not_eq_false marked)
  rcases allowed with allowed | less
  · simp only [List.mem_cons, List.not_mem_nil, or_false] at allowed
    rcases allowed with rfl | rfl | rfl | rfl <;> exact absurd rfl marked
  · omega

theorem blank_plain {c : Char} (blank : isspace c) : mark c = false := by
  by_contra marked
  have shown := mark_shown c (Bool.eq_true_of_not_eq_false marked)
  rw [blank] at shown
  cases shown

theorem text_word {conversion : Conversion} {n : Numeral} (fits : n.Fits conversion) : Word isspace mark n.text :=
  ⟨(text_ends fits).1, fun c member => chars_plain (text_chars fits c member),
    by simpa only [List.append_nil] using text_starts fits [], (text_ends fits).2⟩

theorem hex_word {n : Numeral} (fits : n.Fits .x) {gap : List Char} (blank : ∀ c ∈ gap, isspace c) :
    Word isspace mark ('0' :: 'x' :: (gap ++ n.text)) := by
  refine ⟨List.cons_ne_nil _ _, ?_, ?_, ?_⟩
  · intro c member
    simp only [List.mem_cons, List.mem_append] at member
    rcases member with rfl | rfl | member | member
    · decide
    · decide
    · exact blank_plain (blank c member)
    · exact chars_plain (text_chars fits c member)
  · intro c first
    cases first
    decide
  · have last : ('0' :: 'x' :: (gap ++ n.text)).getLast? = n.text.getLast? :=
      List.getLast?_append_of_ne_nil ('0' :: 'x' :: gap) (text_ends fits).1
    rw [last]
    exact (text_ends fits).2

theorem divided_following {words : List Numeral} (fit : ∀ word ∈ words, word.Fits .u) {behind : List (List Char)}
    (ended : Ended mark behind) (divided : Divided isspace mark behind) :
    Divided isspace mark (following words ++ behind) := by
  induction words with
  | nil => exact divided
  | cons word words ih =>
    obtain ⟨fits, fit⟩ := List.forall_mem_cons.mp fit
    exact .mark (by decide) (.word (text_word fits) (ended_following ended words) (ih fit))

theorem divided_closing (closing : Nat) {behind : List (List Char)} (divided : Divided isspace mark behind) :
    Divided isspace mark (List.replicate closing ['}'] ++ behind) := by
  induction closing with
  | zero => exact divided
  | succ closing ih => exact .mark (by decide) ih

theorem divided_tokens {k : WrittenKey} (loose : k.Loose) {behind : List (List Char)} (follows : Follows behind)
    (divided : Divided isspace mark behind) : Divided isspace mark (k.tokens ++ behind) := by
  have ended := ended_closing follows k.closing
  replace divided := divided_closing k.closing divided
  rw [WrittenKey.tokens, List.append_assoc]
  obtain ⟨len, gap, n0inv, n, rr, closing⟩ := k
  obtain ⟨first_n, n, rfl⟩ := exists_array n
  obtain ⟨first_rr, rr, rfl⟩ := exists_array rr
  obtain ⟨len_fits, _, blank, n0inv_fits, n_fit, rr_fit, _⟩ := loose
  dsimp only at len_fits blank n0inv_fits n_fit rr_fit ended divided
  rw [array_toList] at n_fit rr_fit
  obtain ⟨n_fits, n_fit⟩ := List.forall_mem_cons.mp n_fit
  obtain ⟨first_fits, rr_fit⟩ := List.forall_mem_cons.mp rr_fit
  rw [body_array]
  have behind_rr := Divided.word (text_word first_fits) (ended_following ended rr.toList)
    (divided_following rr_fit ended divided)
  have behind_n := Divided.mark (c := '}') (by decide)
    (.mark (c := ',') (by decide) (.mark (c := '{') (by decide) behind_rr))
  have from_n := Divided.word (text_word n_fits) (ended_following (ended_mark (by decide) _) n.toList)
    (divided_following n_fit (ended_mark (by decide) _) behind_n)
  have from_hex := Divided.word (hex_word n0inv_fits blank) (ended_mark (by decide) _)
    (.mark (c := ',') (by decide) (.mark (c := '{') (by decide) from_n))
  exact .mark (by decide) (.word (text_word len_fits) (ended_mark (by decide) _) (.mark (by decide) from_hex))

theorem divided_written {keys : List WrittenKey} (loose : ∀ k ∈ keys, k.Loose) :
    Divided isspace mark ([[',']].intercalate (keys.map WrittenKey.tokens)) := by
  induction keys with
  | nil => exact .nil
  | cons k keys ih =>
    obtain ⟨first, loose⟩ := List.forall_mem_cons.mp loose
    rw [tokens_cons]
    refine divided_tokens first (others_follow keys) ?_
    cases keys with
    | nil => exact .nil
    | cons => exact .mark (by decide) (ih loose)

theorem following_length (words : List Numeral) : (following words).length = 2 * words.length := by
  induction words with
  | nil => rfl
  | cons word words ih =>
    have step : (following (word :: words)).length = (following words).length + 2 := rfl
    rw [step, ih, List.length_cons]
    omega

theorem following_inj {words others : List Numeral} (fit : ∀ word ∈ words, word.Fits .u)
    (also : ∀ word ∈ others, word.Fits .u) (eq : following words = following others) : words = others := by
  induction words generalizing others with
  | nil =>
    cases others with
    | nil => rfl
    | cons => cases eq
  | cons word words ih =>
    cases others with
    | nil => cases eq
    | cons other others =>
      obtain ⟨fits, fit⟩ := List.forall_mem_cons.mp fit
      obtain ⟨other_fits, also⟩ := List.forall_mem_cons.mp also
      obtain ⟨_, eq⟩ := List.cons_eq_cons.mp eq
      obtain ⟨same, eq⟩ := List.cons_eq_cons.mp eq
      rw [text_inj fits other_fits same, ih fit also eq]

theorem array_inj {first second : Numeral} {words others : List.Vector Numeral (RSANUMWORDS - 1)}
    {behind later : List (List Char)} (fit : ∀ word ∈ (array first words).toList, word.Fits .u)
    (also : ∀ word ∈ (array second others).toList, word.Fits .u)
    (eq : first.text :: (following words.toList ++ behind) = second.text :: (following others.toList ++ later)) :
    array first words = array second others ∧ behind = later := by
  rw [array_toList] at fit also
  obtain ⟨fits, fit⟩ := List.forall_mem_cons.mp fit
  obtain ⟨other_fits, also⟩ := List.forall_mem_cons.mp also
  obtain ⟨same, eq⟩ := List.cons_eq_cons.mp eq
  have long : (following words.toList).length = (following others.toList).length := by
    rw [following_length, following_length, words.toList_length, others.toList_length]
  obtain ⟨listed, behind⟩ := List.append_inj eq long
  have words_eq : words = others := List.Vector.toList_injective (following_inj fit also listed)
  rw [text_inj fits other_fits same, words_eq]
  exact ⟨rfl, behind⟩

theorem closing_inj {closing other : Nat} {behind later : List (List Char)} (follows : Follows behind)
    (also : Follows later)
    (eq : List.replicate closing ['}'] ++ behind = List.replicate other ['}'] ++ later) :
    closing = other ∧ behind = later := by
  induction closing generalizing other with
  | zero =>
    cases other with
    | zero => exact ⟨rfl, eq⟩
    | succ other =>
      rcases follows with rfl | ⟨_, rfl⟩ <;> cases eq
  | succ closing ih =>
    cases other with
    | zero =>
      rcases also with rfl | ⟨_, rfl⟩ <;> cases eq
    | succ other =>
      obtain ⟨rfl, behind⟩ := ih (List.cons_eq_cons.mp eq).2
      exact ⟨rfl, behind⟩

theorem hex_inj {n other : Numeral} (fits : n.Fits .x) (also : other.Fits .x) {gap before : List Char}
    (blank : ∀ c ∈ gap, isspace c) (blank_too : ∀ c ∈ before, isspace c)
    (eq : gap ++ n.text = before ++ other.text) :
    gap = before ∧ n = other := by
  have shown {m : Numeral} (fits : m.Fits .x) {space : List Char} (blank : ∀ c ∈ space, isspace c) :
      (space ++ m.text).dropWhile isspace = m.text := by
    rw [List.dropWhile_append_of_pos blank, ← List.append_nil m.text, text_dropWhile fits]
  have same : n.text = other.text := by rw [← shown fits blank, eq, shown also blank_too]
  rw [same] at eq
  exact ⟨List.append_cancel_right eq, text_inj fits also same⟩

theorem tokens_inj {k other : WrittenKey} (loose : k.Loose) (also : other.Loose) {behind later : List (List Char)}
    (follows : Follows behind) (after : Follows later) (eq : k.tokens ++ behind = other.tokens ++ later) :
    k = other ∧ behind = later := by
  rw [WrittenKey.tokens, WrittenKey.tokens, List.append_assoc, List.append_assoc] at eq
  obtain ⟨len, gap, n0inv, n, rr, closing⟩ := k
  obtain ⟨first_n, n, rfl⟩ := exists_array n
  obtain ⟨first_rr, rr, rfl⟩ := exists_array rr
  obtain ⟨len', gap', n0inv', n', rr', closing'⟩ := other
  obtain ⟨first_n', n', rfl⟩ := exists_array n'
  obtain ⟨first_rr', rr', rfl⟩ := exists_array rr'
  rw [body_array, body_array] at eq
  simp only [List.cons_eq_cons, true_and] at eq
  obtain ⟨same_len, same_hex, from_n⟩ := eq
  obtain rfl := text_inj loose.len also.len same_len
  obtain ⟨rfl, rfl⟩ := hex_inj loose.n0inv also.n0inv loose.gap also.gap same_hex
  obtain ⟨same_n, from_rr⟩ := array_inj loose.n also.n (List.cons_eq_cons.mpr from_n)
  simp only [List.cons_eq_cons, true_and] at from_rr
  obtain ⟨same_rr, from_closing⟩ := array_inj loose.rr also.rr (List.cons_eq_cons.mpr from_rr)
  obtain ⟨rfl, rfl⟩ := closing_inj follows after from_closing
  rw [same_n, same_rr]
  exact ⟨rfl, rfl⟩

theorem written_inj {keys written : List WrittenKey} (loose : ∀ k ∈ keys, k.Loose) (also : ∀ k ∈ written, k.Loose)
    (nonempty : keys ≠ []) (some : written ≠ [])
    (eq : [[',']].intercalate (keys.map WrittenKey.tokens) = [[',']].intercalate (written.map WrittenKey.tokens)) :
    keys = written := by
  induction keys generalizing written with
  | nil => exact absurd rfl nonempty
  | cons k keys ih =>
    obtain ⟨other, written, rfl⟩ := List.exists_cons_of_ne_nil some
    obtain ⟨first, each⟩ := List.forall_mem_cons.mp loose
    obtain ⟨second, fit⟩ := List.forall_mem_cons.mp also
    rw [tokens_cons, tokens_cons] at eq
    obtain ⟨rfl, behind⟩ := tokens_inj first second (others_follow keys) (others_follow written) eq
    cases keys with
    | nil =>
      cases written with
      | nil => rfl
      | cons => cases behind
    | cons next keys =>
      cases written with
      | nil => cases behind
      | cons later written =>
        rw [ih each fit (List.cons_ne_nil _ _) (List.cons_ne_nil _ _) (List.cons_eq_cons.mp behind).2]

theorem written_unique {content : List Char} {keys written : List WrittenKey} (loose : ∀ k ∈ keys, k.Loose)
    (also : ∀ k ∈ written, k.Loose) (reads : Written content keys) (too : Written content written) : keys = written :=
  written_inj loose also reads.1 too.1
    (divided_unique (divided_written loose) (divided_written also) reads.2 too.2)

theorem written_length {content : List Char} {keys : List WrittenKey} (loose : ∀ k ∈ keys, k.Loose)
    (written : Written content keys) : keys.length ≤ content.length := by
  have tokens : keys.length ≤ ([[',']].intercalate (keys.map WrittenKey.tokens)).length := by
    clear loose written
    induction keys with
    | nil => exact Nat.zero_le _
    | cons k keys ih =>
      have first : 0 < k.tokens.length := Nat.succ_pos _
      rw [tokens_cons, List.length_append]
      cases keys with
      | nil => exact Nat.le_add_right_of_le first
      | cons next keys =>
        have later : (others (next :: keys)).length =
          ([[',']].intercalate ((next :: keys).map WrittenKey.tokens)).length + 1 := rfl
        rw [List.length_cons, later]
        omega
  exact tokens.trans (spaced_length (divided_written loose).nonempty written.2)

/-- What is written without white space can be read. -/
theorem written_flatten {keys : List WrittenKey} (nonempty : keys ≠ []) (loose : ∀ k ∈ keys, k.Loose) :
    Written ([[',']].intercalate (keys.map WrittenKey.tokens)).flatten keys :=
  ⟨nonempty, spaced_flatten ((divided_written loose).starts mark_shown)⟩

/-! ### Integers -/

/-- Up to 64 bits nothing is lost beside what is taken modulo 2^32. -/
def InRange (conversion : Conversion) (n : Numeral) : Prop :=
  n.magnitude conversion < 2 ^ 64 ∨ (2 ^ 32 : Int) ∣ n.value conversion + 1

theorem stored_iff {conversion : Conversion} (unsigned : conversion = .u ∨ conversion = .x) (n : Numeral) :
    n.stored conversion = BitVec.ofInt 32 (n.value conversion) ↔ InRange conversion n := by
  have stored : n.stored conversion =
      if 2 ^ 64 ≤ n.magnitude conversion then -1 else BitVec.ofInt 32 (n.value conversion) := by
    rcases unsigned with rfl | rfl <;> rfl
  rw [stored, InRange]
  split
  next large =>
    rw [or_iff_right (Nat.not_lt.mpr large), ← BitVec.toNat_inj, BitVec.toNat_ofInt]
    have ones : (-1 : CInt).toNat = 2 ^ 32 - 1 := rfl
    rw [ones]
    omega
  next small => exact iff_of_true rfl (.inl (Nat.not_le.mp small))

structure WrittenKey.InRange (k : WrittenKey) : Prop where
  n0inv : KeyFormat.InRange .x k.n0inv
  n : ∀ word ∈ k.n.toList, KeyFormat.InRange .u word
  rr : ∀ word ∈ k.rr.toList, KeyFormat.InRange .u word

theorem words_iff {count : Nat} (words : List.Vector Numeral count) :
    words.map (Numeral.stored .u) = words.map (fun word => BitVec.ofInt 32 (word.value .u)) ↔
      ∀ word ∈ words.toList, InRange .u word := by
  rw [← List.Vector.toList_injective.eq_iff, List.Vector.toList_map, List.Vector.toList_map, List.map_inj_left]
  exact forall₂_congr fun word _ => stored_iff (.inl rfl) word

theorem sixty_four_digits : ∀ c ∈ "64".toList, digit c < 10 := by
  intro c member
  have cases : c = '6' ∨ c = '4' := by simpa using member
  rcases cases with rfl | rfl <;> decide

theorem documented_loose {k : WrittenKey} (documented : k.Documented) : k.Loose := by
  obtain ⟨len, gap, _, n0inv, n, rr, closing⟩ := documented
  refine ⟨?_, ?_, ?_, n0inv, n, rr, closing.le⟩
  · rw [len]
    exact ⟨.inl rfl, .inl rfl, nofun, sixty_four_digits⟩
  · rw [len]
    decide
  · rw [gap]
    nofun

theorem key_stored {k : WrittenKey} (documented : k.Documented) : k.stored = k.key ↔ k.InRange := by
  have len : k.len.stored .i = BitVec.ofInt 32 (k.len.value .i) := by
    rw [documented.len]
    decide
  have hex := stored_iff (.inr rfl) k.n0inv
  rw [WrittenKey.stored, WrittenKey.key, RSAPublicKey.mk.injEq, words_iff, words_iff, hex]
  constructor
  · rintro ⟨_, n0inv, n, rr⟩
    exact ⟨n0inv, n, rr⟩
  · rintro ⟨n0inv, n, rr⟩
    exact ⟨len, n0inv, n, rr⟩

/-- The content has the documented format, and these are its keys. -/
def Format (content : List Char) (keys : List RSAPublicKey) : Prop :=
  ∃ written : List WrittenKey, (∀ k ∈ written, k.Documented) ∧ Written content written ∧
    keys = written.map WrittenKey.key

end SteamRecovery.KeyFormat
