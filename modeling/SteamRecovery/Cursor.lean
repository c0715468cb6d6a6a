import Mathlib.Data.List.Basic
import Mathlib.Data.Int.ModEq

/-!
A cursor on a ring of rows, some of which it may not stand on. It is put on a row, or
one beyond either end, and moves on in one direction until it may stay. It always
comes to rest where it may stay somewhere (`settle_total`), and only there
(`settle_allowed`): on the first such row that it comes to (`settle_first`).
-/
namespace SteamRecovery.Cursor

/-- The row meant by a number one below the first or one above the last. -/
def wrap (n : Nat) (sel : Int) : Int :=
  let sel := if sel < 0 then n + sel else sel
  if n ≤ sel then sel - n else sel

/-- Where the cursor comes to rest within the given number of moves. -/
def settle (allowed : List Bool) (down : Bool) : Nat → Int → Option Nat
  | 0, _ => none
  | moves + 1, sel =>
    let sel := wrap allowed.length sel
    if sel < 0 then none
    else
      match allowed[sel.toNat]? with
      | none => none
      | some true => some sel.toNat
      | some false => settle allowed down moves (if down then sel + 1 else sel - 1)

/-- The positions that `wrap` is made for. -/
def Near (n : Nat) (sel : Int) : Prop := -1 ≤ sel ∧ sel ≤ n

theorem wrap_modEq (n : Nat) (sel : Int) : wrap n sel ≡ sel [ZMOD n] := by
  dsimp only [wrap]
  split_ifs <;> simp [Int.ModEq]

theorem settle_allowed {allowed : List Bool} {down : Bool} {moves : Nat} {sel : Int} {row : Nat}
    (settled : settle allowed down moves sel = some row) : allowed[row]? = some true := by
  induction moves generalizing sel with
  | zero => cases settled
  | succ moves ih =>
    rw [settle] at settled
    split at settled
    · cases settled
    split at settled
    · cases settled
    · rename_i here
      cases settled
      exact here
    · exact ih settled

/-- Less than a turn away from the rows. -/
def OneTurn (n : Nat) (sel : Int) : Prop := -(n : Int) ≤ sel ∧ sel < 2 * n

/-- The row that the cursor comes to with so many moves. -/
def ring (n : Nat) (down : Bool) (sel : Int) (moves : Nat) : Nat := ((if down then sel + moves else sel - moves) % n).toNat

theorem wrap_turn {n : Nat} {sel : Int} (turn : OneTurn n sel) : 0 ≤ wrap n sel ∧ wrap n sel < n := by
  obtain ⟨low, high⟩ := turn
  dsimp only [wrap]
  split_ifs <;> omega

theorem wrap_self {n : Nat} {row : Int} (inside : 0 ≤ row ∧ row < n) : wrap n row = row := by
  dsimp only [wrap]
  split_ifs <;> omega

theorem wrap_eq_emod {n : Nat} {sel : Int} (inside : 0 ≤ wrap n sel ∧ wrap n sel < n) : wrap n sel = sel % n := by
  have same : wrap n sel % n = sel % n := wrap_modEq n sel
  rwa [Int.emod_eq_of_lt inside.1 inside.2] at same

theorem ring_zero {n : Nat} {down : Bool} {sel : Int} (inside : 0 ≤ wrap n sel ∧ wrap n sel < n) :
    ring n down sel 0 = (wrap n sel).toNat := by
  rw [wrap_eq_emod inside, ring]
  cases down <;> simp

/-- The rows that the cursor comes to behind its first move. -/
theorem ring_succ (n : Nat) (down : Bool) (sel : Int) (moves : Nat) :
    ring n down (if down then wrap n sel + 1 else wrap n sel - 1) moves = ring n down sel (moves + 1) := by
  have wrapped := wrap_modEq n sel
  unfold ring
  congr 1
  cases down with
  | true =>
    have moved : wrap n sel + 1 + moves ≡ sel + (moves + 1 : Nat) [ZMOD n] := by
      rw [add_assoc, add_comm (1 : Int)]
      exact wrapped.add_right (moves + 1 : Int)
    exact moved
  | false =>
    have moved : wrap n sel - 1 - moves ≡ sel - (moves + 1 : Nat) [ZMOD n] := by
      rw [sub_sub, add_comm (1 : Int)]
      exact wrapped.sub_right (moves + 1 : Int)
    exact moved

/-- The cursor comes to rest if a row where it may stay is fewer moves away than it has. -/
theorem settle_of_distance {allowed : List Bool} {down : Bool} {moves row : Nat} (distance : Nat) {sel : Int}
    (turn : OneTurn allowed.length sel) (here : allowed[row]? = some true) (enough : distance < moves)
    (reaches : ring allowed.length down sel distance = row) : ∃ rest, settle allowed down moves sel = some rest := by
  have inside : row < allowed.length := (List.getElem?_eq_some_iff.mp here).1
  induction moves generalizing sel distance with
  | zero => omega
  | succ moves ih =>
    have on_ring := wrap_turn turn
    have at_row_inside : (wrap allowed.length sel).toNat < allowed.length := by omega
    rw [settle, if_neg (by omega), List.getElem?_eq_getElem at_row_inside]
    cases stays : allowed[(wrap allowed.length sel).toNat] with
    | true => exact ⟨_, rfl⟩
    | false =>
      cases distance with
      | zero =>
        -- the cursor would be on the row itself
        rw [ring_zero on_ring] at reaches
        rw [← reaches, List.getElem?_eq_getElem at_row_inside, Option.some.injEq, stays] at here
        cases here
      | succ distance =>
        refine ih distance ?_ (by omega) ((ring_succ ..).trans reaches)
        unfold OneTurn
        split <;> omega

/-- If there is a row where it may stay, the cursor finds one in a round. -/
theorem settle_turn {allowed : List Bool} {row : Nat} (here : allowed[row]? = some true) (down : Bool) {sel : Int}
    (turn : OneTurn allowed.length sel) : ∃ rest, settle allowed down allowed.length sel = some rest := by
  have inside : row < allowed.length := (List.getElem?_eq_some_iff.mp here).1
  have some_row : (0 : Int) < allowed.length := by omega
  let way : Int := if down then row - sel else sel - row
  have nonneg : 0 ≤ way % allowed.length := Int.emod_nonneg _ (by omega)
  have short : way % allowed.length < allowed.length := Int.emod_lt_of_pos _ some_row
  have reduced : way % allowed.length ≡ way [ZMOD allowed.length] := Int.mod_modEq _ _
  have reaches : (if down then sel + way % allowed.length else sel - way % allowed.length) ≡ row [ZMOD allowed.length] := by
    cases down with
    | true => simpa [way] using reduced.add_left sel
    | false => simpa [way] using reduced.sub_left sel
  refine settle_of_distance (way % allowed.length).toNat turn here (by omega) ?_
  rw [ring, Int.toNat_of_nonneg nonneg, reaches.eq, Int.emod_eq_of_lt (by omega) (by omega), Int.toNat_natCast]

theorem settle_total {allowed : List Bool} {row : Nat} (here : allowed[row]? = some true) (down : Bool) {sel : Int}
    (near : Near allowed.length sel) : ∃ rest, settle allowed down allowed.length sel = some rest := by
  have inside : row < allowed.length := (List.getElem?_eq_some_iff.mp here).1
  obtain ⟨low, high⟩ := near
  exact settle_turn here down ⟨by omega, by omega⟩

/-- The cursor comes to rest on the first row where it may stay. -/
theorem settle_first {allowed : List Bool} {down : Bool} {moves row : Nat} {sel : Int}
    (settled : settle allowed down moves sel = some row) :
    ∃ d < moves, row = ring allowed.length down sel d ∧ ∀ e < d, allowed[ring allowed.length down sel e]? = some false := by
  induction moves generalizing sel with
  | zero => cases settled
  | succ moves ih =>
    rw [settle] at settled
    split at settled
    · cases settled
    rename_i low
    have inside {b : Bool} (here : allowed[(wrap allowed.length sel).toNat]? = some b) :
        0 ≤ wrap allowed.length sel ∧ wrap allowed.length sel < allowed.length := by
      have := (List.getElem?_eq_some_iff.mp here).1
      omega
    split at settled
    · cases settled
    · rename_i here
      cases settled
      exact ⟨0, by omega, (ring_zero (inside here)).symm, fun e less => absurd less (Nat.not_lt_zero e)⟩
    · rename_i here
      obtain ⟨d, few, same, skipped⟩ := ih settled
      refine ⟨d + 1, by omega, same.trans (ring_succ ..), ?_⟩
      intro e less
      cases e with
      | zero => rw [ring_zero (inside here), here]
      | succ e => rw [← ring_succ, skipped e (by omega)]

end SteamRecovery.Cursor
