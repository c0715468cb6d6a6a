import Mathlib.Data.List.Basic
import Mathlib.Data.List.DropRight

/-!
Texts that are written in tokens, with white space around them. A text has only one division
into words with marks between them (`divided_unique`).
-/
namespace SteamRecovery.Tokens
variable {α : Type} (space mark : α → Bool)

/-- The text is these tokens, each behind white space, with more of it at the end. -/
def Spaced : List (List α) → List α → Prop
  | [], text => text.dropWhile space = []
  | token :: tokens, text => ∃ rest, text.dropWhile space = token ++ rest ∧ Spaced tokens rest

/-- A mark is the first of the tokens, if there are any. -/
def Ended (tokens : List (List α)) : Prop := ∀ token ∈ tokens.head?, ∃ c, mark c ∧ token = [c]

/-- A token that is no mark. -/
structure Word (token : List α) : Prop where
  nonempty : token ≠ []
  plain : ∀ c ∈ token, mark c = false
  starts : ∀ c ∈ token.head?, space c = false
  ends : ∀ c ∈ token.getLast?, space c = false

/-- The words have marks between them. -/
inductive Divided : List (List α) → Prop where
  | nil : Divided []
  | mark {c tokens} : mark c → Divided tokens → Divided ([c] :: tokens)
  | word {token tokens} : Word space mark token → Ended mark tokens → Divided tokens → Divided (token :: tokens)

variable {space mark}

theorem ended_nil : Ended mark [] := nofun

theorem ended_mark {c : α} (marked : mark c) (tokens : List (List α)) : Ended mark ([c] :: tokens) := by
  intro token first
  cases first
  exact ⟨c, marked, rfl⟩

theorem ended_append {tokens more : List (List α)} (ended : Ended mark tokens) (behind : Ended mark more) :
    Ended mark (tokens ++ more) := by
  cases tokens with
  | nil => exact behind
  | cons token tokens => exact ended

theorem spaced_dropWhile {tokens : List (List α)} {text : List α} :
    Spaced space tokens (text.dropWhile space) ↔ Spaced space tokens text := by
  have twice : (text.dropWhile space).dropWhile space = text.dropWhile space :=
    List.dropWhile_idempotent space text
  cases tokens <;> simp only [Spaced, twice]

theorem spaced_flatten {tokens : List (List α)} (starts : ∀ token ∈ tokens, ∃ c ∈ token.head?, space c = false) :
    Spaced space tokens tokens.flatten := by
  induction tokens with
  | nil => rfl
  | cons token tokens ih =>
    obtain ⟨c, first, shown⟩ := starts token List.mem_cons_self
    refine ⟨tokens.flatten, ?_, ih fun token member => starts token (List.mem_cons_of_mem _ member)⟩
    cases token with
    | nil => cases first
    | cons d token =>
      cases first
      rw [List.flatten_cons, List.cons_append, List.dropWhile_cons_of_neg (by simp [shown])]

theorem spaced_length {tokens : List (List α)} {text : List α} (nonempty : ∀ token ∈ tokens, token ≠ [])
    (spaced : Spaced space tokens text) : tokens.length ≤ text.length := by
  induction tokens generalizing text with
  | nil => exact Nat.zero_le _
  | cons token tokens ih =>
    obtain ⟨rest, eq, spaced⟩ := spaced
    obtain ⟨some, nonempty⟩ := List.forall_mem_cons.mp nonempty
    have behind := ih nonempty spaced
    have total : (text.dropWhile space).length = token.length + rest.length := by rw [eq, List.length_append]
    have less := (List.dropWhile_suffix (l := text) space).length_le
    have long := List.length_pos_of_ne_nil some
    rw [List.length_cons]
    omega

theorem Divided.nonempty {tokens : List (List α)} (divided : Divided space mark tokens) :
    ∀ token ∈ tokens, token ≠ [] := by
  induction divided with
  | nil => nofun
  | mark _ _ ih => exact List.forall_mem_cons.mpr ⟨List.cons_ne_nil _ _, ih⟩
  | word word _ _ ih => exact List.forall_mem_cons.mpr ⟨word.nonempty, ih⟩

theorem Divided.starts {tokens : List (List α)} (apart : ∀ c, mark c → space c = false)
    (divided : Divided space mark tokens) : ∀ token ∈ tokens, ∃ c ∈ token.head?, space c = false := by
  induction divided with
  | nil => nofun
  | mark marked _ ih => exact List.forall_mem_cons.mpr ⟨⟨_, rfl, apart _ marked⟩, ih⟩
  | word word _ _ ih =>
    obtain ⟨c, token, rfl⟩ := List.exists_cons_of_ne_nil word.nonempty
    exact List.forall_mem_cons.mpr ⟨⟨c, rfl, word.starts c rfl⟩, ih⟩

/-- What comes behind a word is white space or a mark. -/
theorem spaced_ended {tokens : List (List α)} {c : α} {text : List α} (ended : Ended mark tokens)
    (spaced : Spaced space tokens (c :: text)) : space c ∨ mark c := by
  cases blank : space c with
  | true => exact .inl rfl
  | false =>
    right
    have kept : (c :: text).dropWhile space = c :: text := List.dropWhile_cons_of_neg (by simp [blank])
    cases tokens with
    | nil =>
      rw [Spaced, kept] at spaced
      cases spaced
    | cons token tokens =>
      obtain ⟨rest, eq, _⟩ := spaced
      obtain ⟨d, marked, rfl⟩ := ended token rfl
      rw [kept] at eq
      cases eq
      exact marked

/-- Without marks it is white space. -/
theorem gap_blank {tokens : List (List α)} {gap text : List α} (ended : Ended mark tokens)
    (spaced : Spaced space tokens (gap ++ text)) (plain : ∀ c ∈ gap, mark c = false) : ∀ c ∈ gap, space c := by
  induction gap with
  | nil => nofun
  | cons c gap ih =>
    have blank : space c := by
      rcases spaced_ended ended spaced with blank | marked
      · exact blank
      · rw [plain c List.mem_cons_self] at marked
        cases marked
    have behind : Spaced space tokens (gap ++ text) := by
      rw [← spaced_dropWhile, List.cons_append, List.dropWhile_cons_of_pos blank] at spaced
      exact spaced_dropWhile.mp spaced
    exact List.forall_mem_cons.mpr ⟨blank, ih behind fun d member => plain d (List.mem_cons_of_mem c member)⟩

/-- A word that goes on in a longer one is that one. -/
theorem word_whole {tokens : List (List α)} {token gap text : List α} (word : Word space mark (token ++ gap))
    (ended : Ended mark tokens) (spaced : Spaced space tokens (gap ++ text)) : gap = [] := by
  by_contra more
  have blank := gap_blank ended spaced fun c member => word.plain c (List.mem_append_right token member)
  have last : gap.getLast more ∈ (token ++ gap).getLast? := by
    rw [List.getLast?_append_of_ne_nil token more, List.getLast?_eq_some_getLast more]
    rfl
  have shown := word.ends _ last
  rw [blank _ (List.getLast_mem more)] at shown
  cases shown

/-- A mark does not begin a word. -/
theorem mark_apart {c : α} {token rest later : List α} (marked : mark c) (word : Word space mark token)
    (eq : [c] ++ rest = token ++ later) : False := by
  obtain ⟨d, token, rfl⟩ := List.exists_cons_of_ne_nil word.nonempty
  cases eq
  rw [word.plain c List.mem_cons_self] at marked
  cases marked

theorem first_unique {token other rest later : List α} {tokens others : List (List α)}
    (divided : Divided space mark (token :: tokens)) (also : Divided space mark (other :: others))
    (eq : token ++ rest = other ++ later) (spaced : Spaced space tokens rest) (too : Spaced space others later) :
    token = other ∧ rest = later := by
  cases divided with
  | mark marked =>
    cases also with
    | mark =>
      cases eq
      exact ⟨rfl, rfl⟩
    | word word => exact (mark_apart marked word eq).elim
  | word word ended =>
    cases also with
    | mark marked => exact (mark_apart marked word eq.symm).elim
    | word long behind =>
      rcases List.append_eq_append_iff.mp eq with ⟨gap, rfl, rfl⟩ | ⟨gap, rfl, rfl⟩
      · obtain rfl := word_whole long ended spaced
        exact ⟨(List.append_nil token).symm, rfl⟩
      · obtain rfl := word_whole word behind too
        exact ⟨List.append_nil other, rfl⟩

theorem Divided.tail {token : List α} {tokens : List (List α)} (divided : Divided space mark (token :: tokens)) :
    Divided space mark tokens := by
  cases divided with
  | mark _ divided => exact divided
  | word _ _ divided => exact divided

/-- What has no tokens is white space, which has no others. -/
theorem spaced_nil {token text : List α} {tokens : List (List α)} (nonempty : token ≠ [])
    (spaced : Spaced space [] text) : ¬ Spaced space (token :: tokens) text := by
  rintro ⟨rest, eq, _⟩
  rw [Spaced, eq] at spaced
  exact nonempty (List.append_eq_nil_iff.mp spaced).1

theorem divided_unique {tokens others : List (List α)} {text : List α} (divided : Divided space mark tokens)
    (also : Divided space mark others) (spaced : Spaced space tokens text) (too : Spaced space others text) :
    tokens = others := by
  induction tokens generalizing others text with
  | nil =>
    cases others with
    | nil => rfl
    | cons other others => exact absurd too (spaced_nil (also.nonempty other List.mem_cons_self) spaced)
  | cons token tokens ih =>
    cases others with
    | nil => exact absurd spaced (spaced_nil (divided.nonempty token List.mem_cons_self) too)
    | cons other others =>
      obtain ⟨rest, eq, spaced⟩ := spaced
      obtain ⟨later, same, too⟩ := too
      obtain ⟨rfl, rfl⟩ := first_unique divided also (eq.symm.trans same) spaced too
      rw [ih divided.tail also.tail spaced too]

end SteamRecovery.Tokens
