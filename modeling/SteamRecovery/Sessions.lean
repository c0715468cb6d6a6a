import Mathlib.Data.List.Basic

/-!
Menus on a stack. A choice in the menu on top makes the program act, and puts other
menus in its place; the acts change some globals, and everything is logged. Every act
is behind the choice that it belongs to, with the globals that the acts before it have
made, and a menu that never waits below another one is answered right behind the
choice that opened it (`run_accounted`).
-/
namespace SteamRecovery.Sessions
universe u v w x y
variable {Menu : Type u} {Answer : Type v} {World : Type w} {Act : Type x} {Globals : Type y}

/-- What a choice leads to: some acts, and the menus that take the place of the one that was shown. -/
structure Turn (Menu : Type u) (Act : Type x) where
  acts : List Act
  menus : List Menu
  deriving DecidableEq

/-- What the program does with an answer, what it does before it shows a menu, and what an
    act makes of the globals. -/
structure Program (Menu : Type u) (Answer : Type v) (World : Type w) (Act : Type x) (Globals : Type y) where
  react : World → Menu → Answer → Option (Turn Menu Act)
  shows : Menu → List Act
  effect : Act → Globals → Globals

/-- An answer, or an act with the globals before it. -/
inductive Entry (Menu : Type u) (Answer : Type v) (World : Type w) (Act : Type x) (Globals : Type y) where
  | chose (world : World) (menu : Menu) (answer : Answer)
  | did (act : Act) (globals : Globals)

/-- The menus, the one that is shown first, the globals, and the log. -/
structure State (Menu : Type u) (Answer : Type v) (World : Type w) (Act : Type x) (Globals : Type y) where
  stack : List Menu
  globals : Globals
  log : List (Entry Menu Answer World Act Globals)

variable (p : Program Menu Answer World Act Globals)

/-- The acts, one after the other. -/
def perform (s : State Menu Answer World Act Globals) : List Act → State Menu Answer World Act Globals
  | [] => s
  | act :: rest => perform { s with globals := p.effect act s.globals, log := s.log ++ [.did act s.globals] } rest

/-- What is done before the menu on top is shown. -/
def show_top (s : State Menu Answer World Act Globals) : State Menu Answer World Act Globals :=
  perform p s ((s.stack.head?.map p.shows).getD [])

def start (menu : Menu) (globals : Globals) : State Menu Answer World Act Globals := show_top p ⟨[menu], globals, []⟩

/-- One answer to the menu on top. -/
def turn (s : State Menu Answer World Act Globals) (given : World × Answer) :
    Option (State Menu Answer World Act Globals) :=
  match s.stack with
  | [] => none
  | top :: below => (p.react given.1 top given.2).map fun t =>
    let s := perform p { s with log := s.log ++ [.chose given.1 top given.2] } t.acts
    show_top p { s with stack := t.menus ++ below }

def run (s : State Menu Answer World Act Globals) (answers : List (World × Answer)) :
    Option (State Menu Answer World Act Globals) :=
  answers.foldlM (turn p) s

/-! ### Logs -/

/-- Every entry is accounted for by what comes before it. -/
def Accounted {Entry : Type u} (P : List Entry → Entry → Prop) (log : List Entry) : Prop :=
  ∀ before e after, log = before ++ e :: after → P before e

theorem accounted_nil {Entry : Type u} {P : List Entry → Entry → Prop} : Accounted P [] := by
  intro before e after split
  simp at split

theorem accounted_last {Entry : Type u} {P : List Entry → Entry → Prop} {log : List Entry} {e : Entry}
    (accounted : Accounted P log) (last : P log e) : Accounted P (log ++ [e]) := by
  intro before e' after split
  rcases List.append_eq_append_iff.mp split with ⟨mid, rfl, rest⟩ | ⟨mid, rfl, rest⟩
  · match mid, rest with
    | [], rest =>
      obtain ⟨rfl, -⟩ := List.cons.inj rest
      simpa using last
    | _ :: _, rest => simp at rest
  · match mid, rest with
    | [], rest =>
      obtain ⟨rfl, -⟩ := List.cons.inj rest
      simpa using last
    | first :: mid, rest =>
      obtain ⟨rfl, -⟩ := List.cons.inj rest
      exact accounted before e' mid rfl

variable (initial : Globals) (passing : Menu → Prop)

def Entry.acts : Entry Menu Answer World Act Globals → List Act
  | .chose _ _ _ => []
  | .did act _ => [act]

/-- The acts in the log. -/
def acts (log : List (Entry Menu Answer World Act Globals)) : List Act := log.flatMap Entry.acts

/-- What the acts in the log have made of the globals. -/
def made (log : List (Entry Menu Answer World Act Globals)) : Globals :=
  (acts log).foldl (fun globals act => p.effect act globals) initial

/-- The last choice in the log. -/
def LastChoice (log : List (Entry Menu Answer World Act Globals)) (world : World) (menu : Menu) (answer : Answer) : Prop :=
  ∃ before since, log = before ++ .chose world menu answer :: since ∧
    ∀ e ∈ since, ∃ act globals, e = Entry.did act globals

/-- The last choice made the program act like this, or the act comes before a menu is shown. -/
def Behind (log : List (Entry Menu Answer World Act Globals)) (act : Act) : Prop :=
  (∃ world menu answer t, LastChoice log world menu answer ∧ p.react world menu answer = some t ∧ act ∈ t.acts) ∨
    ∃ menu, act ∈ p.shows menu

/-- The last choice opened this menu. -/
def Opened (log : List (Entry Menu Answer World Act Globals)) (menu : Menu) : Prop :=
  ∃ world opener answer t, LastChoice log world opener answer ∧ p.react world opener answer = some t ∧
    t.menus.head? = some menu

def Account (log : List (Entry Menu Answer World Act Globals)) : Entry Menu Answer World Act Globals → Prop
  | .chose _ menu _ => passing menu → Opened p log menu
  | .did act globals => globals = made p initial log ∧ Behind p log act

/-- What holds between two answers. -/
structure Kept (s : State Menu Answer World Act Globals) : Prop where
  log : Accounted (Account p initial passing) s.log
  globals : s.globals = made p initial s.log
  top : ∀ menu, s.stack.head? = some menu → passing menu → Opened p s.log menu
  below : ∀ menu ∈ s.stack.tail, ¬ passing menu

section
variable {p initial passing} {s s' : State Menu Answer World Act Globals}
  {log : List (Entry Menu Answer World Act Globals)}

theorem made_did (act : Act) (globals : Globals) :
    made p initial (log ++ [.did act globals]) = p.effect act (made p initial log) := by
  simp [made, acts, Entry.acts]

theorem made_chose (world : World) (menu : Menu) (answer : Answer) :
    made p initial (log ++ [.chose world menu answer]) = made p initial log := by
  simp [made, acts, Entry.acts]

theorem last_choice_chose (world : World) (menu : Menu) (answer : Answer) :
    LastChoice (log ++ [.chose world menu answer]) world menu answer :=
  ⟨log, [], rfl, by simp⟩

theorem last_choice_did {world : World} {menu : Menu} {answer : Answer} (last : LastChoice log world menu answer)
    (act : Act) (globals : Globals) : LastChoice (log ++ [.did act globals]) world menu answer := by
  obtain ⟨before, since, rfl, all⟩ := last
  refine ⟨before, since ++ [.did act globals], by simp, ?_⟩
  intro e member
  rcases List.mem_append.mp member with earlier | last
  · exact all e earlier
  · exact ⟨act, globals, List.mem_singleton.mp last⟩

theorem behind_did {act : Act} (behind : Behind p log act) (other : Act) (globals : Globals) :
    Behind p (log ++ [.did other globals]) act :=
  behind.imp_left fun ⟨world, menu, answer, t, last, reacts, listed⟩ =>
    ⟨world, menu, answer, t, last_choice_did last other globals, reacts, listed⟩

/-- Acting keeps the account, where every act belongs to the last choice or to a menu. -/
theorem perform_accounted (accounted : Accounted (Account p initial passing) s.log)
    (globals : s.globals = made p initial s.log) {list : List Act} (behind : ∀ act ∈ list, Behind p s.log act) :
    Accounted (Account p initial passing) (perform p s list).log ∧
      (perform p s list).globals = made p initial (perform p s list).log ∧
      (perform p s list).stack = s.stack ∧
      (∀ world menu answer, LastChoice s.log world menu answer → LastChoice (perform p s list).log world menu answer) := by
  induction list generalizing s with
  | nil => exact ⟨accounted, globals, rfl, fun _ _ _ last => last⟩
  | cons act rest ih =>
    obtain ⟨first, others⟩ := List.forall_mem_cons.mp behind
    obtain ⟨accounted', globals', stack', last'⟩ := ih
      (s := { s with globals := p.effect act s.globals, log := s.log ++ [.did act s.globals] })
      (accounted_last accounted ⟨globals, first⟩) (by rw [made_did, globals])
      (fun act member => behind_did (others act member) _ _)
    exact ⟨accounted', globals', stack', fun world menu answer last => last' world menu answer (last_choice_did last _ _)⟩

theorem show_top_kept (accounted : Accounted (Account p initial passing) s.log)
    (globals : s.globals = made p initial s.log)
    (top : ∀ menu, s.stack.head? = some menu → passing menu → Opened p s.log menu)
    (below : ∀ menu ∈ s.stack.tail, ¬ passing menu) : Kept p initial passing (show_top p s) := by
  have shown : ∀ act ∈ (s.stack.head?.map p.shows).getD [], ∃ menu, act ∈ p.shows menu := by
    intro act member
    cases top : s.stack.head? with
    | none => simp [top] at member
    | some menu => exact ⟨menu, by simpa [top] using member⟩
  obtain ⟨accounted', globals', stack', last'⟩ :=
    perform_accounted accounted globals fun act member => .inr (shown act member)
  refine ⟨accounted', globals', ?_, ?_⟩
  · rw [show_top, stack']
    intro menu first passes
    obtain ⟨world, opener, answer, t, last, reacts, opens⟩ := top menu first passes
    exact ⟨world, opener, answer, t, last' _ _ _ last, reacts, opens⟩
  · rw [show_top, stack']
    exact below

/-- The menus that a choice opens wait for one another, and those below are no passing ones. -/
theorem turn_kept (waits : ∀ world menu answer t, p.react world menu answer = some t → ∀ other ∈ t.menus.tail, ¬ passing other)
    {given : World × Answer} (kept : Kept p initial passing s) (turned : turn p s given = some s') :
    Kept p initial passing s' := by
  obtain ⟨world, answer⟩ := given
  unfold turn at turned
  split at turned
  · cases turned
  · rename_i top below stack
    rw [Option.map_eq_some_iff] at turned
    obtain ⟨t, reacts, rfl⟩ := turned
    have answered : Accounted (Account p initial passing) (s.log ++ [.chose world top answer]) :=
      accounted_last kept.log fun passes => kept.top top (by rw [stack]; rfl) passes
    have globals : s.globals = made p initial (s.log ++ [.chose world top answer]) := by rw [made_chose, kept.globals]
    have chosen : ∀ act ∈ t.acts, Behind p (s.log ++ [.chose world top answer]) act :=
      fun act member => .inl ⟨world, top, answer, t, last_choice_chose world top answer, reacts, member⟩
    obtain ⟨accounted', globals', -, last'⟩ := perform_accounted (s := ⟨s.stack, s.globals, _⟩) answered globals chosen
    have under : ∀ menu ∈ below, ¬ passing menu := by
      intro menu member
      exact kept.below menu (by rw [stack]; exact member)
    have last := last' world top answer (last_choice_chose world top answer)
    refine show_top_kept accounted' globals' ?_ ?_
    · intro menu first passes
      cases opened : t.menus with
      | nil =>
        simp only [opened, List.nil_append] at first
        exact absurd passes (under menu (List.mem_of_mem_head? first))
      | cons head rest =>
        simp only [opened, List.cons_append, List.head?_cons, Option.some.injEq] at first
        exact ⟨world, top, answer, t, last, reacts, by simp [opened, first]⟩
    · intro menu member
      cases opened : t.menus with
      | nil =>
        simp only [opened, List.nil_append] at member
        exact under menu (List.mem_of_mem_tail member)
      | cons head rest =>
        simp only [opened, List.cons_append, List.tail_cons] at member
        rcases List.mem_append.mp member with here | there
        · exact waits world top answer t reacts menu (by simpa [opened] using here)
        · exact under menu there

theorem run_kept (waits : ∀ world menu answer t, p.react world menu answer = some t → ∀ other ∈ t.menus.tail, ¬ passing other)
    {answers : List (World × Answer)} (kept : Kept p initial passing s) (ran : run p s answers = some s') :
    Kept p initial passing s' := by
  induction answers generalizing s with
  | nil =>
    cases ran
    exact kept
  | cons given rest ih =>
    rw [run, List.foldlM_cons] at ran
    obtain ⟨next, turned, later⟩ := Option.bind_eq_some_iff.mp ran
    exact ih (turn_kept waits kept turned) later

/-- Whatever is answered, every entry of the log is accounted for. -/
theorem run_accounted {menu : Menu} (stays : ¬ passing menu)
    (waits : ∀ world menu answer t, p.react world menu answer = some t → ∀ other ∈ t.menus.tail, ¬ passing other)
    {answers : List (World × Answer)} (ran : run p (start p menu initial) answers = some s) :
    Accounted (Account p initial passing) s.log := by
  refine (run_kept waits (show_top_kept accounted_nil rfl ?_ (by simp)) ran).log
  intro other first passes
  cases first
  exact absurd passes stays

end

end SteamRecovery.Sessions
