import Mathlib.Order.Defs.Unbundled

/-!
Interpreters of scripts. What runs a list of commands is known only by its contract: the
commands are run in order until one fails, and what is returned is 0 exactly where none
does. What every command keeps, a whole script keeps (`execCommandList_keeps`).
-/
namespace SteamRecovery.Amend
variable {State : Type}

/-- What a command does: the code that it returns, and the state behind it. `none` is a
    command that does something undefined. -/
abbrev Runs (State : Type) := State → Option (Int × State)

structure Interpreter (State : Type) where
  execCommandList : List (Runs State) → Runs State
  ends : ∀ state, execCommandList [] state = some (0, state)
  passes : ∀ {command : Runs State} {rest : List (Runs State)} {state next last : State} {ret : Int},
    command state = some (0, next) → execCommandList rest next = some (ret, last) →
    ∃ line, execCommandList (command :: rest) state = some (line, last) ∧ (line = 0 ↔ ret = 0)
  fails : ∀ {command : Runs State} {state next : State} {code : Int} (rest : List (Runs State)),
    command state = some (code, next) → code ≠ 0 →
    ∃ line, execCommandList (command :: rest) state = some (line, next) ∧ line ≠ 0

/-- It returns from every state, and leaves one that is related to it. -/
def Keeps (related : State → State → Prop) (run : Runs State) : Prop :=
  ∀ state, ∃ code next, run state = some (code, next) ∧ related state next

/-- What every command of a script keeps, the script keeps. -/
theorem execCommandList_keeps (amend : Interpreter State) (related : State → State → Prop) [IsPreorder State related]
    {commands : List (Runs State)} (each : ∀ command ∈ commands, Keeps related command) :
    Keeps related (amend.execCommandList commands) := by
  induction commands with
  | nil => exact fun state => ⟨0, state, amend.ends state, refl_of related state⟩
  | cons command rest ih =>
    rw [List.forall_mem_cons] at each
    intro state
    obtain ⟨code, next, ran, kept⟩ := each.1 state
    by_cases zero : code = 0
    · subst code
      obtain ⟨ret, last, rest_ran, rest_kept⟩ := ih each.2 next
      obtain ⟨line, all_ran, _⟩ := amend.passes ran rest_ran
      exact ⟨line, last, all_ran, trans_of related kept rest_kept⟩
    · obtain ⟨line, failed, _⟩ := amend.fails rest ran zero
      exact ⟨line, next, failed, kept⟩

/-! ### Line numbers -/

/-- The commands of a script from this line on, and the line of the one that fails. -/
def run_lines (line : Nat) : List (Runs State) → Runs State
  | [], state => some (0, state)
  | command :: rest, state =>
    match command state with
    | none => none
    | some (code, next) => if code = 0 then run_lines (line + 1) rest next else some (line + 1, next)

theorem run_lines_next {rest : List (Runs State)} {line : Nat} {state last : State} {ret : Int}
    (ran : run_lines line rest state = some (ret, last)) :
    ∃ next, run_lines (line + 1) rest state = some (next, last) ∧ (next = 0 ↔ ret = 0) := by
  induction rest generalizing line state with
  | nil =>
    cases ran
    exact ⟨0, rfl, Iff.rfl⟩
  | cons command rest ih =>
    rw [run_lines] at ran ⊢
    cases command_ran : command state with
    | none => simp [command_ran] at ran
    | some result =>
      obtain ⟨code, next⟩ := result
      simp only [command_ran] at ran ⊢
      by_cases zero : code = 0
      · rw [if_pos zero] at ran ⊢
        exact ih ran
      · rw [if_neg zero] at ran ⊢
        cases ran
        exact ⟨(line + 1 : Nat) + 1, rfl, by omega⟩

/-- An interpreter that returns the line of the command that failed. -/
def numbered : Interpreter State where
  execCommandList := run_lines 0
  ends := fun _ => rfl
  passes := by
    intro command rest state next last ret passed ran
    rw [run_lines, passed]
    exact run_lines_next ran
  fails := by
    intro command state next code rest failed not_zero
    rw [run_lines, failed]
    exact ⟨1, if_neg not_zero, Int.one_ne_zero⟩

end SteamRecovery.Amend
