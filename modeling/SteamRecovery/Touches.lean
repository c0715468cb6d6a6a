import Mathlib.Data.List.Induction
import Mathlib.Logic.Function.Basic
import SteamRecovery.KeyQueue
import SteamRecovery.Menus

/-!
Multitouch reports (`input_thread` in `ui.c`). The events of a report are gathered in
`actPos`; at its end they are compared with what `mousePos` has of the same point, and
become one fake key. What `mousePos` has is the last report of each point, with the way
it went since it was pressed (`run_tracked`), so a release of the first point is a click
exactly where that way was short. A press is no key of its own: where it is found, the
code of a move is compared with `BTN_GEAR_DOWN`, and kept (`touch_code_iff`).
-/
namespace SteamRecovery.Touches
open SteamRecovery.Fifo (run run_last run_stuck)

def EV_SYN : Nat := 0
def EV_ABS : Nat := 3
def SYN_MT_REPORT : Nat := 2
def ABS_MT_TOUCH_MAJOR : Nat := 0x30
def ABS_MT_WIDTH_MAJOR : Nat := 0x32
def ABS_MT_POSITION_X : Nat := 0x35
def ABS_MT_POSITION_Y : Nat := 0x36
def ABS_MT_TRACKING_ID : Nat := 0x39

/-- The codes of the fake keys, whose numbers are those of `linux/input.h`. -/
structure Codes where
  BTN_MOUSE : Nat
  BTN_WHEEL : Nat
  BTN_GEAR_DOWN : Nat
  BTN_GEAR_UP : Nat
  mouse_apart : BTN_MOUSE ≠ BTN_WHEEL ∧ BTN_MOUSE ≠ BTN_GEAR_DOWN ∧ BTN_MOUSE ≠ BTN_GEAR_UP
  up_apart : BTN_GEAR_UP ≠ BTN_WHEEL ∧ BTN_GEAR_UP ≠ BTN_GEAR_DOWN

/-- The header gives a wheel that turns and a gear that is put down the same number. -/
def linux : Codes := ⟨Menus.BTN_MOUSE, KeyQueue.BTN_WHEEL, 0x150, Menus.BTN_GEAR_UP, by decide, by decide⟩

/-- Where the screen is under the touch panel. -/
structure Device where
  MT_X : Int → Int
  MT_Y : Int → Int

def sgs_i9000 : Device := ⟨fun x => x, fun y => y⟩
def ns_on_sgs_i9000 : Device := ⟨fun x => (x * 480).tdiv 1024, fun y => (y * 800).tdiv 1024⟩

structure MousePos where
  x : Int
  y : Int
  pressure : Int
  size : Int
  num : Int
  length : Int
  deriving DecidableEq

/-- What `memset` leaves. -/
def zero : MousePos := ⟨0, 0, 0, 0, 0, 0⟩

abbrev MAX_MT_POINTS : Nat := 10

structure State where
  actPos : MousePos
  grabPos : MousePos
  oldMousePos : Fin MAX_MT_POINTS → MousePos
  mousePos : Fin MAX_MT_POINTS → MousePos

def start : State := ⟨zero, zero, fun _ => zero, fun _ => zero⟩

structure InputEvent where
  type : Nat
  code : Nat
  value : Int

/-- What an `EV_ABS` event changes in `actPos`. -/
def abs_event (device : Device) (ev : InputEvent) (actPos : MousePos) : MousePos :=
  if ev.code = ABS_MT_POSITION_X then { actPos with x := device.MT_X ev.value }
  else if ev.code = ABS_MT_POSITION_Y then { actPos with y := device.MT_Y ev.value }
  else if ev.code = ABS_MT_TOUCH_MAJOR then { actPos with pressure := ev.value }
  else if ev.code = ABS_MT_WIDTH_MAJOR then
    { actPos with num := if actPos.num = 0 then ev.value >>> (8 : Nat) else actPos.num, size := ev.value % 256 }
  else if ev.code = ABS_MT_TRACKING_ID then { actPos with num := ev.value }
  else actPos

def INT_MAX : Int := 2147483647

/-- The value of an expression of type `int`, unless it overflows. -/
def int (n : Int) : Option Int := if -INT_MAX - 1 ≤ n ∧ n ≤ INT_MAX then some n else none

def abs (n : Int) : Option Int := (int n).bind fun n => int n.natAbs

/-- `num>=0 && num<MAX_MT_POINTS` -/
def point (actPos : MousePos) : Option (Fin MAX_MT_POINTS) :=
  if inside : 0 ≤ actPos.num ∧ actPos.num < MAX_MT_POINTS then some ⟨actPos.num.toNat, by omega⟩ else none

/-- The touch goes down or up. -/
def differs (old actPos : MousePos) : Bool := (old.pressure != 0) != (actPos.pressure != 0)

/-- The code of the fake key. -/
def touch_type (codes : Codes) (s : State) (p : Fin MAX_MT_POINTS) : Nat :=
  if differs (s.mousePos p) s.actPos then
    if s.actPos.pressure = 0 then
      if s.actPos.num = 0 then
        if (s.mousePos 0).length < 15 then codes.BTN_MOUSE else codes.BTN_GEAR_UP
      else codes.BTN_GEAR_UP
    else
      -- The source has `type == BTN_GEAR_DOWN;` here.
      codes.BTN_WHEEL
  else codes.BTN_WHEEL

def touch_grab (s : State) (p : Fin MAX_MT_POINTS) : MousePos :=
  if differs (s.mousePos p) s.actPos then
    if s.actPos.num = 0 then (if s.actPos.pressure = 0 then zero else s.actPos) else s.grabPos
  else s.grabPos

/-- `length + abs(dx) + abs(dy)` -/
def add_way (length dx dy : Int) : Option Int :=
  (abs dx).bind fun dx => (abs dy).bind fun dy => (int (length + dx)).bind fun sum => int (sum + dy)

def touch_length (old actPos : MousePos) : Option Int :=
  if actPos.pressure ≠ 0 then
    if old.pressure ≠ 0 then add_way old.length (old.x - actPos.x) (old.y - actPos.y) else some 0
  else some 0

/-- The end of a report, at `SYN_MT_REPORT`. -/
def report (s : State) : Option State :=
  match point s.actPos with
  | some p => (touch_length (s.mousePos p) s.actPos).map fun length =>
    { actPos := zero
      grabPos := touch_grab s p
      oldMousePos := Function.update s.oldMousePos p (s.mousePos p)
      mousePos := Function.update s.mousePos p { s.actPos with length } }
  | none => some { s with actPos := zero }

def step (device : Device) (s : State) (ev : InputEvent) : Option State :=
  if ev.type = EV_SYN then
    if ev.code = SYN_MT_REPORT then report s else some s
  else if ev.type = EV_ABS then some { s with actPos := abs_event device ev s.actPos }
  else some s

/-- The code that is chosen where a report ends behind these events, for a point that is
    followed. -/
def chosen (codes : Codes) (device : Device) (events : List InputEvent) : Option Nat :=
  (run (step device) start events).bind fun s => (point s.actPos).map (touch_type codes s)

/-! ### What was reported -/

/-- The reports so far, the latest first, and the one that has begun. -/
structure History where
  reports : List MousePos
  current : MousePos

def note (device : Device) (h : History) (ev : InputEvent) : History :=
  if ev.type = EV_SYN then
    if ev.code = SYN_MT_REPORT then ⟨h.current :: h.reports, zero⟩ else h
  else if ev.type = EV_ABS then { h with current := abs_event device ev h.current }
  else h

def history (device : Device) (events : List InputEvent) : History := events.foldl (note device) ⟨[], zero⟩

def of_point (n : Int) (reports : List MousePos) : List MousePos := reports.filter (·.num = n)

/-- The reports of a point since it was pressed, the latest first, as long as it is. -/
def stroke (n : Int) (reports : List MousePos) : List MousePos := (of_point n reports).takeWhile (·.pressure ≠ 0)

/-- The sum of `|dx|+|dy|` between consecutive reports. -/
def way : List MousePos → Nat
  | later :: earlier :: rest => (earlier.x - later.x).natAbs + (earlier.y - later.y).natAbs + way (earlier :: rest)
  | _ => 0

def Pressed (n : Int) (reports : List MousePos) : Prop := stroke n reports ≠ []

/-- The point is released, and goes down. -/
def Press (h : History) : Prop := ¬ Pressed h.current.num h.reports ∧ h.current.pressure ≠ 0

def Release (h : History) : Prop := Pressed h.current.num h.reports ∧ h.current.pressure = 0

/-- The code says what became of the point. -/
structure Classified (codes : Codes) (h : History) (code : Nat) : Prop where
  down : code = codes.BTN_GEAR_DOWN ↔ Press h
  up : code = codes.BTN_GEAR_UP ∨ code = codes.BTN_MOUSE ↔ Release h
  first : code = codes.BTN_MOUSE → h.current.num = 0
  move : ¬ Press h → ¬ Release h → code = codes.BTN_WHEEL
  click : Release h → h.current.num = 0 → (code = codes.BTN_MOUSE ↔ way (stroke 0 h.reports) < 15)

/-- The ways of the points that are followed have always been within `int`. -/
def Fits : List MousePos → Prop
  | [] => True
  | r :: reports => Fits reports ∧ (point r ≠ none → way (stroke r.num (r :: reports)) ≤ INT_MAX)

/-! ### What the record has of each point -/

/-- `actPos` has the report that has begun, and `mousePos` the last one of every point
    with its way. -/
structure Tracks (s : State) (h : History) : Prop where
  current : s.actPos = h.current
  points : ∀ p : Fin MAX_MT_POINTS,
    s.mousePos p = { (of_point p.val h.reports).headD zero with length := way (stroke p.val h.reports) }

theorem point_some {r : MousePos} {p : Fin MAX_MT_POINTS} : point r = some p ↔ r.num = p.val := by
  rw [point]
  split
  · rename_i inside
    rw [Option.some.injEq, Fin.ext_iff]
    dsimp only
    omega
  · rename_i outside
    have small := p.isLt
    simp only [reduceCtorEq, false_iff]
    omega

theorem stroke_cons (r : MousePos) (reports : List MousePos) :
    stroke r.num (r :: reports) = if r.pressure ≠ 0 then r :: stroke r.num reports else [] := by
  simp [stroke, of_point, List.takeWhile_cons]

theorem stroke_other {r : MousePos} {n : Int} (other : r.num ≠ n) (reports : List MousePos) :
    stroke n (r :: reports) = stroke n reports := by
  simp [stroke, of_point, other]

/-- The record shows whether the point is pressed. -/
theorem pressed_record (n : Int) (reports : List MousePos) :
    ((of_point n reports).headD zero).pressure ≠ 0 ↔ Pressed n reports := by
  rw [Pressed, stroke]
  cases of_point n reports with
  | nil => simp [zero]
  | cons r rest =>
    by_cases pressed : r.pressure ≠ 0 <;> simp [pressed]

theorem int_nat (n : Nat) : int n = if (n : Int) ≤ INT_MAX then some (n : Int) else none := by
  have nonneg : -INT_MAX - 1 ≤ (n : Int) := by
    rw [INT_MAX]
    omega
  rw [int]
  simp only [nonneg, true_and]

/-- `abs` overflows only where the number does, or for the smallest one. -/
theorem abs_nat (n : Int) : abs n = if (n.natAbs : Int) ≤ INT_MAX then some (n.natAbs : Int) else none := by
  by_cases fits : (n.natAbs : Int) ≤ INT_MAX
  · have inside : -INT_MAX - 1 ≤ n ∧ n ≤ INT_MAX := by
      rw [INT_MAX] at *
      omega
    rw [abs, int, if_pos inside, Option.bind_some, int_nat]
  · rw [if_neg fits, abs, int]
    split
    · rw [Option.bind_some, int_nat, if_neg fits]
    · rfl

/-- The sum is computed where it fits, and then no part of it overflows. -/
theorem add_way_nat (n : Nat) (dx dy : Int) :
    add_way n dx dy = if ((dx.natAbs + dy.natAbs + n : Nat) : Int) ≤ INT_MAX then
      some ((dx.natAbs + dy.natAbs + n : Nat) : Int) else none := by
  have order : n + dx.natAbs + dy.natAbs = dx.natAbs + dy.natAbs + n := by omega
  rw [add_way, abs_nat, abs_nat]
  by_cases left : (dx.natAbs : Int) ≤ INT_MAX
  · by_cases right : (dy.natAbs : Int) ≤ INT_MAX
    · rw [if_pos left, if_pos right, Option.bind_some, Option.bind_some, ← Int.natCast_add, int_nat]
      by_cases first : ((n + dx.natAbs : Nat) : Int) ≤ INT_MAX
      · rw [if_pos first, Option.bind_some, ← Int.natCast_add, int_nat, order]
      · rw [if_neg first, if_neg (by omega)]
        rfl
    · have wide : ¬ ((dx.natAbs + dy.natAbs + n : Nat) : Int) ≤ INT_MAX := by omega
      rw [if_pos left, if_neg right, if_neg wide]
      rfl
  · have wide : ¬ ((dx.natAbs + dy.natAbs + n : Nat) : Int) ≤ INT_MAX := by omega
    rw [if_neg left, if_neg wide]
    rfl

/-- The length that is stored is the way of the point behind the report. -/
theorem touch_length_way (reports : List MousePos) (r : MousePos) :
    touch_length { (of_point r.num reports).headD zero with length := way (stroke r.num reports) } r =
      if (way (stroke r.num (r :: reports)) : Int) ≤ INT_MAX then some (way (stroke r.num (r :: reports)) : Int)
      else none := by
  rw [touch_length, stroke_cons]
  by_cases down : r.pressure ≠ 0
  · rw [if_pos down, if_pos down, stroke]
    dsimp only
    cases of_point r.num reports with
    | nil => rfl
    | cons last rest =>
      rw [List.headD_cons]
      by_cases pressed : last.pressure ≠ 0
      · rw [if_pos pressed, List.takeWhile_cons, if_pos (decide_eq_true pressed), add_way_nat, way]
      · have ended : ((last :: rest).takeWhile fun x => decide (x.pressure ≠ 0)) = [] :=
          List.takeWhile_cons_of_neg (by simpa using pressed)
        rw [if_neg pressed, ended]
        rfl
  · rw [if_neg down, if_neg down]
    rfl

/-! ### One event -/

theorem tracks_start : Tracks start ⟨[], zero⟩ := ⟨rfl, fun _ => rfl⟩

/-- The points other than that of the report keep their reports. -/
theorem points_other {h : History} {p : Fin MAX_MT_POINTS} (other : h.current.num ≠ p.val) :
    ({ (of_point p.val (h.current :: h.reports)).headD zero with
        length := way (stroke p.val (h.current :: h.reports)) } : MousePos) =
      { (of_point p.val h.reports).headD zero with length := way (stroke p.val h.reports) } := by
  rw [stroke_other other, of_point, List.filter_cons_of_neg (by simpa using other)]
  rfl

theorem points_same {h : History} {p : Fin MAX_MT_POINTS} (same : h.current.num = p.val) :
    ({ (of_point p.val (h.current :: h.reports)).headD zero with
        length := way (stroke p.val (h.current :: h.reports)) } : MousePos) =
      { h.current with length := way (stroke h.current.num (h.current :: h.reports)) } := by
  rw [of_point, List.filter_cons_of_pos (by simpa using same), List.headD_cons, same]

/-- A report is recorded, unless the way of its point overflows. -/
theorem report_tracked {s : State} {h : History} (tracks : Tracks s h) :
    (∃ s', report s = some s' ∧ (point h.current ≠ none → (way (stroke h.current.num (h.current :: h.reports)) : Int) ≤ INT_MAX) ∧
      Tracks s' ⟨h.current :: h.reports, zero⟩) ∨
    (report s = none ∧ point h.current ≠ none ∧ ¬ (way (stroke h.current.num (h.current :: h.reports)) : Int) ≤ INT_MAX) := by
  rw [report, tracks.current]
  cases followed : point h.current with
  | none =>
    refine .inl ⟨_, rfl, fun some_point => absurd rfl some_point, rfl, fun p => ?_⟩
    have other : h.current.num ≠ p.val := fun same => by
      rw [point_some.mpr same] at followed
      cases followed
    rw [points_other other]
    exact tracks.points p
  | some p =>
    have num : h.current.num = p.val := point_some.mp followed
    have length := touch_length_way h.reports h.current
    dsimp only
    rw [tracks.points, ← num, length]
    by_cases fits : (way (stroke h.current.num (h.current :: h.reports)) : Int) ≤ INT_MAX
    · rw [if_pos fits]
      refine .inl ⟨_, rfl, fun _ => fits, rfl, fun q => ?_⟩
      by_cases same : q = p
      · rw [same, points_same num]
        exact Function.update_self ..
      · have other : h.current.num ≠ q.val := fun num' => same (Fin.ext (by omega))
        rw [points_other other]
        exact (Function.update_of_ne same ..).trans (tracks.points q)
    · rw [if_neg fits]
      exact .inr ⟨rfl, by simp, fits⟩

theorem step_tracked (device : Device) {s : State} {h : History} (tracks : Tracks s h) (fits : Fits h.reports)
    (ev : InputEvent) :
    (∃ s', step device s ev = some s' ∧ Fits (note device h ev).reports ∧ Tracks s' (note device h ev)) ∨
      (step device s ev = none ∧ ¬ Fits (note device h ev).reports) := by
  rw [step, note]
  by_cases syn : ev.type = EV_SYN
  · rw [if_pos syn, if_pos syn]
    by_cases ends : ev.code = SYN_MT_REPORT
    · rw [if_pos ends, if_pos ends]
      rcases report_tracked tracks with ⟨s', reported, short, tracks'⟩ | ⟨undefined, followed, long⟩
      · exact .inl ⟨s', reported, ⟨fits, short⟩, tracks'⟩
      · exact .inr ⟨undefined, fun all => long (all.2 followed)⟩
    · rw [if_neg ends, if_neg ends]
      exact .inl ⟨s, rfl, fits, tracks⟩
  · rw [if_neg syn, if_neg syn]
    by_cases moves : ev.type = EV_ABS
    · rw [if_pos moves, if_pos moves]
      exact .inl ⟨_, rfl, fits, by rw [tracks.current], tracks.points⟩
    · rw [if_neg moves, if_neg moves]
      exact .inl ⟨s, rfl, fits, tracks⟩

theorem history_append (device : Device) (events : List InputEvent) (ev : InputEvent) :
    history device (events ++ [ev]) = note device (history device events) ev := by
  rw [history, List.foldl_append]
  rfl

theorem fits_before {device : Device} {h : History} {ev : InputEvent} (fits : Fits (note device h ev).reports) :
    Fits h.reports := by
  rw [note] at fits
  split at fits
  · split at fits
    · exact fits.1
    · exact fits
  · split at fits <;> exact fits

/-- Behind any events the record has what was reported, unless a way overflowed. -/
theorem run_tracked (device : Device) (events : List InputEvent) :
    (∃ s, run (step device) start events = some s ∧ Fits (history device events).reports ∧
      Tracks s (history device events)) ∨
    (run (step device) start events = none ∧ ¬ Fits (history device events).reports) := by
  induction events using List.reverseRecOn with
  | nil => exact .inl ⟨start, rfl, trivial, tracks_start⟩
  | append_singleton events ev ih =>
    rw [history_append]
    rcases ih with ⟨s, ran, fits, tracks⟩ | ⟨undefined, long⟩
    · rw [run_last ran]
      exact step_tracked device tracks fits ev
    · exact .inr ⟨run_stuck undefined [ev], fun fits => long (fits_before fits)⟩

/-! ### The code -/

variable {codes : Codes}

/-- The end of the report meets what the source says about the codes. -/
def Meets (codes : Codes) (device : Device) (events : List InputEvent) : Prop :=
  point (history device events).current ≠ none →
    ∃ code, chosen codes device events = some code ∧ Classified codes (history device events) code

/-- The code that is chosen, by what was reported. -/
theorem touch_type_history (codes : Codes) {s : State} {h : History} (tracks : Tracks s h) {p : Fin MAX_MT_POINTS}
    (followed : point h.current = some p) :
    (Release h → touch_type codes s p =
      if h.current.num = 0 ∧ way (stroke 0 h.reports) < 15 then codes.BTN_MOUSE else codes.BTN_GEAR_UP) ∧
    (¬ Release h → touch_type codes s p = codes.BTN_WHEEL) := by
  have num : h.current.num = p.val := point_some.mp followed
  have before : (s.mousePos p).pressure ≠ 0 ↔ Pressed h.current.num h.reports := by
    rw [tracks.points p, num]
    exact pressed_record p.val h.reports
  have first : (s.mousePos 0).length = way (stroke 0 h.reports) := by
    rw [tracks.points 0]
    rfl
  rw [touch_type, differs, tracks.current, first]
  constructor
  · rintro ⟨pressed, lifted⟩
    have down := before.mpr pressed
    have short : (way (stroke 0 h.reports) : Int) < 15 ↔ way (stroke 0 h.reports) < 15 := by omega
    by_cases zero : h.current.num = 0 <;> simp [down, lifted, zero, short]
  · intro held
    by_cases lifted : h.current.pressure = 0
    · have up : (s.mousePos p).pressure = 0 := by
        by_contra down
        exact held ⟨before.mp down, lifted⟩
      simp [up, lifted]
    · simp [lifted]

theorem press_no_release {h : History} (press : Press h) : ¬ Release h := fun release => press.1 release.1

theorem classified_iff (h : History) (code : Nat)
    (lifts : Release h → code =
      if h.current.num = 0 ∧ way (stroke 0 h.reports) < 15 then codes.BTN_MOUSE else codes.BTN_GEAR_UP)
    (stays : ¬ Release h → code = codes.BTN_WHEEL) :
    Classified codes h code ↔ (Release h ∨ Press h ∧ codes.BTN_WHEEL = codes.BTN_GEAR_DOWN ∨
      ¬ Press h ∧ ¬ Release h ∧ codes.BTN_WHEEL ≠ codes.BTN_GEAR_DOWN) := by
  obtain ⟨mouse_wheel, mouse_down, mouse_up⟩ := codes.mouse_apart
  obtain ⟨up_wheel, up_down⟩ := codes.up_apart
  by_cases release : Release h
  · have no_press : ¬ Press h := fun press => press_no_release press release
    have chosen := lifts release
    refine iff_of_true ?_ (.inl release)
    by_cases click : h.current.num = 0 ∧ way (stroke 0 h.reports) < 15
    · rw [if_pos click] at chosen
      subst chosen
      exact ⟨by simp [mouse_down, no_press], by simp [release], fun _ => click.1, fun _ held => absurd release held,
        fun _ _ => by simp [click.2]⟩
    · rw [if_neg click] at chosen
      subst chosen
      refine ⟨by simp [up_down, no_press], by simp [release], fun same => absurd same.symm mouse_up,
        fun _ held => absurd release held, fun _ zero => ?_⟩
      exact iff_of_false mouse_up.symm fun short => click ⟨zero, short⟩
  · obtain rfl := stays release
    have no_key : ¬ (codes.BTN_WHEEL = codes.BTN_GEAR_UP ∨ codes.BTN_WHEEL = codes.BTN_MOUSE) := by
      rintro (same | same)
      · exact up_wheel same.symm
      · exact mouse_wheel same.symm
    constructor
    · intro classified
      by_cases press : Press h
      · exact .inr (.inl ⟨press, classified.down.mpr press⟩)
      · exact .inr (.inr ⟨press, release, fun same => press (classified.down.mp same)⟩)
    · intro meets
      refine ⟨?_, iff_of_false no_key release, fun same => absurd same.symm mouse_wheel, fun _ _ => rfl,
        fun lifted => absurd lifted release⟩
      rcases meets with lifted | ⟨press, same⟩ | ⟨no_press, _, apart⟩
      · exact absurd lifted release
      · exact iff_of_true same press
      · exact iff_of_false apart no_press

/-- A report meets what the source says of the codes exactly where it is a release, or a
    press that the header does not tell from a move, or neither and the header does; and
    as long as no way has overflowed. -/
theorem touch_code_iff (codes : Codes) (device : Device) (events : List InputEvent) :
    Meets codes device events ↔ (point (history device events).current ≠ none →
      Fits (history device events).reports ∧ (Release (history device events) ∨
        Press (history device events) ∧ codes.BTN_WHEEL = codes.BTN_GEAR_DOWN ∨
        ¬ Press (history device events) ∧ ¬ Release (history device events) ∧ codes.BTN_WHEEL ≠ codes.BTN_GEAR_DOWN)) := by
  refine forall_congr' fun some_point => ?_
  obtain ⟨p, followed⟩ := Option.ne_none_iff_exists'.mp some_point
  rcases run_tracked device events with ⟨s, ran, fits, tracks⟩ | ⟨undefined, long⟩
  · have choice : chosen codes device events = some (touch_type codes s p) := by
      rw [chosen, ran, Option.bind_some, tracks.current, followed]
      rfl
    obtain ⟨lifts, stays⟩ := touch_type_history codes tracks followed
    have classified := classified_iff (history device events) (touch_type codes s p) lifts stays
    constructor
    · rintro ⟨code, chose, meets⟩
      obtain rfl := Option.some.inj (choice.symm.trans chose)
      exact ⟨fits, classified.mp meets⟩
    · exact fun meets => ⟨_, choice, classified.mpr meets.2⟩
  · rw [chosen, undefined]
    constructor
    · rintro ⟨code, none_chosen, _⟩
      cases none_chosen
    · exact fun meets => absurd meets.1 long

/-- The first point is reported as pressed. -/
def down : List InputEvent :=
  [⟨EV_ABS, ABS_MT_POSITION_X, 100⟩, ⟨EV_ABS, ABS_MT_POSITION_Y, 100⟩, ⟨EV_ABS, ABS_MT_TOUCH_MAJOR, 40⟩]

def report_end : InputEvent := ⟨EV_SYN, SYN_MT_REPORT, 0⟩

/-- Other numbers, where a move is told from a press. -/
def told_apart : Codes := ⟨0x110, 0x150, 0x152, 0x151, by decide, by decide⟩

/-- A press has the code of a move where that is another one, and a move has the code of a
    press where it is the same. -/
theorem press_is_move : ¬ Meets told_apart sgs_i9000 down ∧ ¬ Meets linux sgs_i9000 (down ++ report_end :: down) := by
  constructor
  · intro meets
    obtain ⟨code, chose, classified⟩ := meets (by decide)
    have wheel : chosen told_apart sgs_i9000 down = some 0x150 := by decide
    obtain rfl := Option.some.inj (wheel.symm.trans chose)
    have press : Press (history sgs_i9000 down) := ⟨fun pressed => pressed (by decide), by decide⟩
    exact absurd (classified.down.mpr press) (by decide)
  · intro meets
    obtain ⟨code, chose, classified⟩ := meets (by decide)
    have wheel : chosen linux sgs_i9000 (down ++ report_end :: down) = some 0x150 := by decide
    obtain rfl := Option.some.inj (wheel.symm.trans chose)
    have press : Press (history sgs_i9000 (down ++ report_end :: down)) := classified.down.mp (by decide)
    have pressed : stroke 0 (history sgs_i9000 (down ++ report_end :: down)).reports ≠ [] := by decide
    exact press.1 pressed

end SteamRecovery.Touches
