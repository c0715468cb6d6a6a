import Mathlib.Data.List.Nodup
import SteamRecovery.Console

/-!
The secret screen (`ui.c`), where a password is swiped over circles of letters. Every
touch leaves a text in `console_cmd` that is made of segments without repeated letters
(`secret_well_formed`): a letter is appended to the segment that is open where it does
not occur in it, and lifting the finger ends a segment that is not empty.
-/
namespace SteamRecovery.Secret
open SteamRecovery.CStrings
open SteamRecovery.Fifo (run run_cons run_allowed)
open SteamRecovery.Menus (Touch)
open SteamRecovery.Console

/-! ### Passwords -/

/-- Letters from `A` to `X`, none of them twice. -/
structure Segment (seg : List Char) : Prop where
  distinct : seg.Nodup
  letters : ∀ c ∈ seg, 'A' ≤ c ∧ c ≤ 'X'

/-- Segments that are not empty, with `_` between them, and perhaps one more behind the
    last. -/
def WellFormed (text : List Char) : Prop :=
  ∃ segments, (∀ seg ∈ segments, seg ≠ [] ∧ Segment seg) ∧
    (text = ['_'].intercalate segments ∨ segments ≠ [] ∧ text = ['_'].intercalate segments ++ ['_'])

/-- The segments that are complete, and the one that is open, which may still be empty. -/
structure Swiped (done : List (List Char)) (seg : List Char) (b : Buffer) : Prop where
  text : b.text = text_of '_' done ++ seg
  done : ∀ d ∈ done, d ≠ [] ∧ Segment d
  seg : Segment seg
  room : b.text.length ≤ 255

theorem text_of_last (done : List (List Char)) (seg : List Char) :
    text_of '_' (done ++ [seg]) = text_of '_' done ++ seg ++ ['_'] := by
  simp [text_of]

theorem text_of_intercalate (done : List (List Char)) (seg : List Char) :
    text_of '_' done ++ seg = ['_'].intercalate (done ++ [seg]) := by
  induction done with
  | nil => simp [text_of]
  | cons d rest ih =>
    rw [text_of_cons, List.append_assoc, List.cons_append, ih, List.cons_append]
    cases rest with
    | nil => rfl
    | cons next rest => rw [List.cons_append, List.intercalate_cons_cons, List.append_assoc]; rfl

theorem swiped_well_formed {done : List (List Char)} {seg : List Char} {b : Buffer} (swiped : Swiped done seg b) :
    WellFormed b.text := by
  rw [swiped.text]
  by_cases closed : seg = []
  · rw [closed, List.append_nil]
    rcases List.eq_nil_or_concat done with none_done | ⟨front, last, rfl⟩
    · exact ⟨[], by simp, .inl (by rw [none_done]; rfl)⟩
    · refine ⟨front ++ [last], List.concat_eq_append ▸ swiped.done, .inr ⟨by simp, ?_⟩⟩
      rw [List.concat_eq_append, text_of_last, text_of_intercalate]
  · refine ⟨done ++ [seg], fun d member => ?_, .inl (text_of_intercalate done seg)⟩
    rcases List.mem_append.mp member with before | last
    · exact swiped.done d before
    · rw [List.mem_singleton.mp last]
      exact ⟨closed, swiped.seg⟩

theorem segment_plain {seg : List Char} (segment : Segment seg) : '_' ∉ seg :=
  fun member => absurd (segment.letters '_' member).2 (by decide)

/-- `strrchr` finds the `_` in front of the open segment. -/
theorem behind_last_seg {done : List (List Char)} {seg : List Char} {b : Buffer} (swiped : Swiped done seg b) :
    behind_last b.text = (text_of '_' done).length := by
  have plain : ∀ c ∈ seg.reverse, decide (c ≠ '_') = true := fun c member =>
    decide_eq_true (ne_of_mem_of_not_mem (List.mem_reverse.mp member) (segment_plain swiped.seg))
  have stops : (text_of '_' done).reverse.takeWhile (· ≠ '_') = [] := by
    rcases List.eq_nil_or_concat done with none_done | ⟨front, last, rfl⟩
    · rw [none_done]
      rfl
    · rw [List.concat_eq_append, text_of_last]
      simp
  rw [behind_last, swiped.text, List.reverse_append, List.takeWhile_append_of_pos plain, stops]
  simp

/-! ### One touch -/

theorem circle_letters : ∀ circle ∈ circles, 'A' ≤ letter circle.1 circle.2 ∧ letter circle.1 circle.2 ≤ 'X' := by decide

theorem append_letter_swiped {done : List (List Char)} {seg : List Char} {b : Buffer} (swiped : Swiped done seg b)
    {s : Char} (inside : 'A' ≤ s ∧ s ≤ 'X') :
    ∃ b', append_letter (text_of '_' done).length b s = some b' ∧ ∃ seg', Swiped done seg' b' := by
  have behind : b.text.drop (text_of '_' done).length = seg := by rw [swiped.text, List.drop_left]
  rw [append_letter, behind]
  by_cases listed : s ∈ seg
  · exact ⟨b, if_pos listed, seg, swiped⟩
  · rw [if_neg listed]
    dsimp only
    by_cases room : b.text.length < 255
    · have other : s ≠ '\x00' := by
        rintro rfl
        exact absurd inside.1 (by decide)
      obtain ⟨b', stored, text⟩ := put_text room other
      have segment : Segment (seg ++ [s]) := by
        refine ⟨List.nodup_append.mpr ⟨swiped.seg.distinct, List.nodup_singleton s, ?_⟩, fun c member => ?_⟩
        · rintro c member _ last rfl
          exact listed (List.mem_singleton.mp last ▸ member)
        · rcases List.mem_append.mp member with before | last
          · exact swiped.seg.letters c before
          · rwa [List.mem_singleton.mp last]
      refine ⟨b', by rw [if_pos room, stored], seg ++ [s], ?_, swiped.done, segment, ?_⟩
      · rw [text, swiped.text, List.append_assoc]
      · rw [text, List.length_append, List.length_singleton]
        exact room
    · exact ⟨b, if_neg room, seg, swiped⟩

/-- The circles that are touched add letters to the open segment. -/
theorem circles_swiped (screen : Screen) (touch : Touch) {done : List (List Char)} {seg : List Char} {b : Buffer}
    (swiped : Swiped done seg b) :
    ∃ b', swipe screen touch (text_of '_' done).length b = some b' ∧ ∃ seg', Swiped done seg' b' := by
  have goes (b : Buffer) (circle : Nat × Nat) (swiped : ∃ seg, Swiped done seg b) (inside : circle ∈ circles) :
      ∃ b', over_circle screen touch (text_of '_' done).length b circle = some b' ∧ ∃ seg', Swiped done seg' b' := by
    obtain ⟨seg, swiped⟩ := swiped
    rw [over_circle]
    split
    · exact append_letter_swiped swiped (circle_letters circle inside)
    · exact ⟨b, rfl, seg, swiped⟩
  have all : ∀ earlier circle later (middle : Buffer), circles = earlier ++ circle :: later →
      run (over_circle screen touch (text_of '_' done).length) b earlier = some middle → circle ∈ circles := by
    intro earlier circle later _ split _
    rw [split]
    exact List.mem_append_right _ List.mem_cons_self
  exact run_allowed goes all ⟨seg, swiped⟩

theorem text_last {b : Buffer} {text : List Char} {c : Char} (last : b.text = text ++ [c]) :
    b.chars.getD (b.text.length - 1) '\x00' = c := by
  obtain ⟨rest, whole⟩ : b.text <+: b.chars := List.takeWhile_prefix _
  rw [← whole, last]
  simp

/-- Lifting the finger ends the open segment, unless it is empty or `console_cmd` is full. -/
theorem lift_swiped {done : List (List Char)} {seg : List Char} {b : Buffer} (swiped : Swiped done seg b)
    (room : b.text.length < 255) (some_char : b.text.length > 0)
    (letter : b.chars.getD (b.text.length - 1) '\x00' ≠ '_') :
    ∃ b', b.put b.text.length '_' = some b' ∧ Swiped (done ++ [seg]) [] b' := by
  obtain ⟨b', stored, text⟩ := put_text room (show '_' ≠ '\x00' by decide)
  have nonempty : seg ≠ [] := by
    rintro rfl
    rcases List.eq_nil_or_concat done with rfl | ⟨front, last, rfl⟩
    · rw [swiped.text] at some_char
      exact absurd some_char (by decide)
    · have ends : b.text = (text_of '_' front ++ last) ++ ['_'] := by
        rw [swiped.text, List.concat_eq_append, text_of_last, List.append_nil]
      exact letter (text_last ends)
  refine ⟨b', stored, ?_, fun d member => ?_, ⟨List.nodup_nil, by simp⟩, ?_⟩
  · rw [text, swiped.text, text_of_last, List.append_nil]
  · rcases List.mem_append.mp member with before | last
    · exact swiped.done d before
    · rw [List.mem_singleton.mp last]
      exact ⟨nonempty, swiped.seg⟩
  · rw [text, List.length_append, List.length_singleton]
    exact room

/-! ### Passwords that are swiped -/

/-- The screen of `open_encrypted_partition`. -/
def secret_screen (gr_fb_width gr_fb_height : Int) : Screen := ⟨gr_fb_width, gr_fb_height, true, false⟩

theorem secret_touch (width height : Int) (touch : Touch) (s : State) :
    step (secret_screen width height) s (.touch touch) = secret_input (secret_screen width height) touch s := by
  rw [step, ui_handle_mouse_input]
  cases secret_input (secret_screen width height) touch s <;> rfl

def Password (s : State) : Prop := ∃ done seg, Swiped done seg s.console_cmd

theorem clear_password (screen : Screen) (s : State) : ∃ s', step screen s .clear = some s' ∧ Password s' := by
  obtain ⟨console_cmd, cleared, text⟩ := clear_text screen s
  refine ⟨_, cleared, [], [], text, by simp, ?_, ?_⟩
  · exact ⟨List.nodup_nil, by simp⟩
  · dsimp only
    rw [text]
    exact Nat.zero_le _

theorem touch_password {width height : Int} {s : State} (password : Password s) (touch : Touch) :
    ∃ s', step (secret_screen width height) s (.touch touch) = some s' ∧ Password s' := by
  obtain ⟨done, seg, swiped⟩ := password
  have shown : (secret_screen width height).enable_secret_screen = true := rfl
  rw [secret_touch, secret_input, if_pos shown]
  by_cases down : touch.grab_pressure = true
  · rw [if_pos down]
    dsimp only
    obtain ⟨b, stored, seg', swiped'⟩ := circles_swiped (secret_screen width height) touch swiped
    rw [behind_last_seg swiped, stored]
    exact ⟨_, rfl, done, seg', swiped'⟩
  · rw [if_neg down]
    dsimp only
    split
    · split
      · rename_i lifts
        obtain ⟨b, stored, swiped'⟩ := lift_swiped swiped lifts.1 lifts.2.1 lifts.2.2
        rw [stored]
        exact ⟨_, rfl, _, _, swiped'⟩
      · exact ⟨s, rfl, done, seg, swiped⟩
    · exact ⟨s, rfl, done, seg, swiped⟩

/-- A password that is swiped, with any touches on any screen, is made of segments without
    repeated letters, and there is room for it. -/
theorem secret_well_formed (width height : Int) (s : State) (events : List Event) :
    ∃ s', run (step (secret_screen width height)) s (.clear :: events) = some s' ∧
      s'.console_cmd.text.length ≤ 255 ∧ WellFormed s'.console_cmd.text := by
  obtain ⟨start, cleared, password⟩ := clear_password (secret_screen width height) s
  have goes (s' : State) (e : Event) (password : Password s') (_ : True) :
      ∃ next, step (secret_screen width height) s' e = some next ∧ Password next := by
    cases e with
    | touch touch => exact touch_password password touch
    | clear => exact clear_password _ s'
  have all : ∀ earlier e later middle, events = earlier ++ e :: later →
      run (step (secret_screen width height)) start earlier = some middle → True := fun _ _ _ _ _ _ => trivial
  obtain ⟨last, ran, done, seg, swiped⟩ := run_allowed goes all password
  exact ⟨last, run_cons.mpr ⟨start, cleared, ran⟩, swiped.room, swiped_well_formed swiped⟩

end SteamRecovery.Secret
