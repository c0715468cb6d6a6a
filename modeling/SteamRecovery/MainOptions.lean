import Mathlib.Data.List.Induction
import SteamRecovery.Getopt
import SteamRecovery.Packages

/-!
The options of `main` (`recovery.c`). The status at the end is the one that
`install_package` returns, where a package is given, and then no code of an erase
counts. So a success means that everything asked for was done unless a package is
installed together with a wipe (`success_honest_iff`).
-/
namespace SteamRecovery.MainOptions
open SteamRecovery.Getopt
open SteamRecovery.Packages (Status)

def OPTIONS : List (LongOption Char) := [
  ⟨"send_intent", .required_argument, 's'⟩,
  ⟨"update_package", .required_argument, 'u'⟩,
  ⟨"wipe_data", .no_argument, 'w'⟩,
  ⟨"wipe_cache", .no_argument, 'c'⟩]

/-- The variables that the options set; a NULL pointer is `none`. -/
structure Settings where
  send_intent : Option String
  update_package : Option String
  wipe_data : Bool
  wipe_cache : Bool
  deriving DecidableEq

/-- The `switch` on what `getopt_long` returns. No row of `OPTIONS` has a `p`. -/
def option_switch (settings : Settings) (found : Char × Option String) : Settings :=
  match found with
  | ('s', optarg) => { settings with send_intent := optarg }
  | ('u', optarg) => { settings with update_package := optarg }
  | ('w', _) => { settings with wipe_data := true, wipe_cache := true }
  | ('c', _) => { settings with wipe_cache := true }
  | _ => settings

/-- What the calls of `getopt_long` return for the argument vector. -/
def given (argv : List String) : List (Char × Option String) := getopt_long OPTIONS '?' argv.tail

def parse (found : List (Char × Option String)) : Settings := found.foldl option_switch ⟨none, none, false, false⟩

/-- The codes that the operations return. -/
structure Outcomes where
  install_package : String → Status
  format_root_device : String → Int
  extendedcommand_file_exists : Bool
  run_and_remove_extendedcommand : Int

def erase_root (o : Outcomes) (root : String) : Int := o.format_root_device root

def device_wipe_data : Int := 0

inductive Call where
  | install_package (root_path : String)
  | device_wipe_data
  | erase_root (root : String)
  | run_and_remove_extendedcommand
  deriving DecidableEq

/-- The status so far, and the operations that were called. -/
structure Progress where
  status : Status
  calls : List Call

/-- `if (operation()) status = INSTALL_ERROR;` -/
def checked (call : Call) (code : Int) (p : Progress) : Progress :=
  ⟨if code ≠ 0 then .INSTALL_ERROR else p.status, p.calls ++ [call]⟩

def erase (o : Outcomes) (root : String) : Progress → Progress := checked (.erase_root root) (erase_root o root)

/-- The branches of `main` on what the options have set. -/
def dispatch (o : Outcomes) (settings : Settings) : Progress :=
  let p : Progress := ⟨.INSTALL_SUCCESS, []⟩
  match settings.update_package with
  | some update_package =>
    let p := if settings.wipe_data then erase o "DATA:" p else p
    ⟨o.install_package update_package, p.calls ++ [.install_package update_package]⟩
  | none =>
    if settings.wipe_data then
      let p := checked .device_wipe_data device_wipe_data p
      let p := erase o "DATA:" p
      if settings.wipe_cache then erase o "CACHE:" p else p
    else if settings.wipe_cache then erase o "CACHE:" p
    else if o.extendedcommand_file_exists then
      ⟨if o.run_and_remove_extendedcommand = 0 then .INSTALL_SUCCESS else .INSTALL_ERROR,
        [.run_and_remove_extendedcommand]⟩
    else ⟨.INSTALL_ERROR, []⟩

def main (o : Outcomes) (argv : List String) : Progress := dispatch o (parse (given argv))

/-! ### What was asked for -/

/-- The option is among those found, whatever its argument. -/
def Asked (found : List (Char × Option String)) (val : Char) : Prop := ∃ optarg, (val, optarg) ∈ found

/-- The argument of the last `--update_package`. -/
def last_package (found : List (Char × Option String)) : Option String :=
  (found.filterMap fun f => if f.1 = 'u' then f.2 else none).getLast?

theorem asked_nil (val : Char) : ¬ Asked [] val := by
  rintro ⟨_, member⟩
  cases member

theorem asked_concat (found : List (Char × Option String)) (last : Char × Option String) (val : Char) :
    Asked (found ++ [last]) val ↔ Asked found val ∨ last.1 = val := by
  constructor
  · rintro ⟨optarg, member⟩
    rcases List.mem_append.mp member with before | here
    · exact .inl ⟨optarg, before⟩
    · exact .inr (congrArg Prod.fst (List.mem_singleton.mp here)).symm
  · rintro (⟨optarg, before⟩ | rfl)
    · exact ⟨optarg, List.mem_append_left _ before⟩
    · exact ⟨last.2, List.mem_append_right _ (List.mem_singleton_self last)⟩

theorem option_switch_fields (settings : Settings) (val : Char) (optarg : Option String) :
    (option_switch settings (val, optarg)).wipe_data = (settings.wipe_data || val = 'w') ∧
      (option_switch settings (val, optarg)).wipe_cache = (settings.wipe_cache || val = 'w' || val = 'c') ∧
      (option_switch settings (val, optarg)).update_package = if val = 'u' then optarg else settings.update_package := by
  unfold option_switch
  split
  case h_5 other_s other_u other_w other_c =>
    have not_u : val ≠ 'u' := fun same => other_u optarg (by rw [same])
    have not_w : val ≠ 'w' := fun same => other_w optarg (by rw [same])
    have not_c : val ≠ 'c' := fun same => other_c optarg (by rw [same])
    simp [not_u, not_w, not_c]
  all_goals
    rename_i same
    cases same
    simp

theorem parse_concat (found : List (Char × Option String)) (last : Char × Option String) :
    parse (found ++ [last]) = option_switch (parse found) last := by
  rw [parse, List.foldl_append]
  rfl

theorem parse_wipe_data (found : List (Char × Option String)) :
    (parse found).wipe_data = true ↔ Asked found 'w' := by
  induction found using List.reverseRecOn with
  | nil => exact iff_of_false (by decide) (asked_nil 'w')
  | append_singleton found last ih =>
    rw [parse_concat, (option_switch_fields _ last.1 last.2).1, Bool.or_eq_true, ih, decide_eq_true_eq, asked_concat]

theorem parse_wipe_cache (found : List (Char × Option String)) :
    (parse found).wipe_cache = true ↔ Asked found 'w' ∨ Asked found 'c' := by
  induction found using List.reverseRecOn with
  | nil =>
    refine iff_of_false (by decide) ?_
    rintro (data | cache)
    · exact asked_nil 'w' data
    · exact asked_nil 'c' cache
  | append_singleton found last ih =>
    rw [parse_concat, (option_switch_fields _ last.1 last.2).2.1, Bool.or_eq_true, Bool.or_eq_true, ih, decide_eq_true_eq,
      decide_eq_true_eq, asked_concat, asked_concat, or_assoc, or_or_or_comm]

/-- The package is the last one that was given, as long as every `--update_package`
    has an argument. -/
theorem parse_update_package {found : List (Char × Option String)} (arguments : ('u', none) ∉ found) :
    (parse found).update_package = last_package found := by
  induction found using List.reverseRecOn with
  | nil => rfl
  | append_singleton found last ih =>
    rw [List.mem_append, not_or] at arguments
    rw [parse_concat, (option_switch_fields _ last.1 last.2).2.2, ih arguments.1, last_package, last_package,
      List.filterMap_append]
    obtain ⟨val, optarg⟩ := last
    by_cases package : val = 'u'
    · cases optarg with
      | none => exact absurd (List.mem_singleton.mpr (by rw [package])) arguments.2
      | some path => simp [package]
    · simp [package]

/-- `--update_package` has an argument wherever it is found. -/
theorem given_arguments (argv : List String) : ('u', none) ∉ given argv := by
  intro member
  rcases getopt_long_row member with invalid | ⟨o, row, val, arg⟩
  · cases invalid
  · have required : ∀ o ∈ OPTIONS, o.val = 'u' → o.has_arg = .required_argument := by decide
    exact absurd (arg.mpr (required o row val.symm)) (by simp)

/-! ### What a success means -/

/-- What was asked for was called, and returned success. -/
structure EverythingDone (o : Outcomes) (argv : List String) : Prop where
  package : ∀ path, last_package (given argv) = some path →
    .install_package path ∈ (main o argv).calls ∧ o.install_package path = .INSTALL_SUCCESS
  data : Asked (given argv) 'w' → .erase_root "DATA:" ∈ (main o argv).calls ∧ erase_root o "DATA:" = 0
  cache : Asked (given argv) 'w' ∨ Asked (given argv) 'c' →
    .erase_root "CACHE:" ∈ (main o argv).calls ∧ erase_root o "CACHE:" = 0

/-- Where one of the three options is given, a success means that everything was done. -/
def SuccessHonest (o : Outcomes) (argv : List String) : Prop :=
  (main o argv).status = .INSTALL_SUCCESS →
    Asked (given argv) 'u' ∨ Asked (given argv) 'w' ∨ Asked (given argv) 'c' → EverythingDone o argv

theorem checked_success {call : Call} {code : Int} {p : Progress}
    (success : (checked call code p).status = .INSTALL_SUCCESS) : code = 0 ∧ p.status = .INSTALL_SUCCESS := by
  unfold checked at success
  by_cases failed : code = 0
  · exact ⟨failed, by simpa [failed] using success⟩
  · simp [failed] at success

/-- No package is given: the status is a success only if every erase was one. -/
theorem wiped {o : Outcomes} {settings : Settings} (no_package : settings.update_package = none)
    (together : settings.wipe_data = true → settings.wipe_cache = true)
    (success : (dispatch o settings).status = .INSTALL_SUCCESS) :
    (settings.wipe_data = true →
      .erase_root "DATA:" ∈ (dispatch o settings).calls ∧ erase_root o "DATA:" = 0) ∧
    (settings.wipe_cache = true →
      .erase_root "CACHE:" ∈ (dispatch o settings).calls ∧ erase_root o "CACHE:" = 0) := by
  simp only [dispatch, no_package] at success ⊢
  by_cases data : settings.wipe_data = true
  · simp only [data, together data, ↓reduceIte] at success ⊢
    obtain ⟨cache_done, before⟩ := checked_success success
    obtain ⟨data_done, _⟩ := checked_success before
    exact ⟨fun _ => ⟨by simp [erase, checked], data_done⟩, fun _ => ⟨by simp [erase, checked], cache_done⟩⟩
  · refine ⟨fun wipe => absurd wipe data, ?_⟩
    intro cache
    simp only [data, cache, ↓reduceIte] at success ⊢
    exact ⟨by simp [erase, checked], (checked_success success).1⟩

/-- A package is given: its status counts, and the cache is not erased. -/
theorem installed {o : Outcomes} {settings : Settings} {path : String} (package : settings.update_package = some path) :
    (dispatch o settings).status = o.install_package path ∧
      .install_package path ∈ (dispatch o settings).calls ∧ .erase_root "CACHE:" ∉ (dispatch o settings).calls := by
  simp only [dispatch, package]
  refine ⟨trivial, by simp, ?_⟩
  split <;> simp [erase, checked]

/-- A success is honest exactly where no package is installed together with a wipe,
    or the package fails. -/
theorem success_honest_iff (o : Outcomes) (argv : List String) :
    SuccessHonest o argv ↔
      ∀ path, last_package (given argv) = some path → Asked (given argv) 'w' ∨ Asked (given argv) 'c' →
        o.install_package path ≠ .INSTALL_SUCCESS := by
  have package := parse_update_package (given_arguments argv)
  have data := parse_wipe_data (given argv)
  have cache := parse_wipe_cache (given argv)
  constructor
  · intro honest path last wipe success
    obtain ⟨status, _, not_erased⟩ := installed (o := o) (package.trans last)
    have asked : Asked (given argv) 'u' ∨ Asked (given argv) 'w' ∨ Asked (given argv) 'c' := .inr wipe
    exact not_erased ((honest (status.trans success) asked).cache wipe).1
  · intro apart success asked
    cases last : last_package (given argv) with
    | none =>
      have together : (parse (given argv)).wipe_data = true → (parse (given argv)).wipe_cache = true :=
        fun wipe => cache.mpr (.inl (data.mp wipe))
      obtain ⟨data_done, cache_done⟩ := wiped (package.trans last) together success
      refine ⟨?_, fun wipe => data_done (data.mpr wipe), fun wipe => cache_done (cache.mpr wipe)⟩
      intro path given_path
      cases last.symm.trans given_path
    | some path =>
      obtain ⟨status, called, _⟩ := installed (o := o) (package.trans last)
      have package_done : o.install_package path = .INSTALL_SUCCESS := status.symm.trans success
      have no_wipe : ¬ (Asked (given argv) 'w' ∨ Asked (given argv) 'c') :=
        fun wipe => apart path last wipe package_done
      refine ⟨?_, fun wipe => absurd (.inl wipe) no_wipe, fun wipe => absurd wipe no_wipe⟩
      intro other given_other
      cases last.symm.trans given_other
      exact ⟨called, package_done⟩

/-- Every partition but the data partition can be erased, and the package is fine. -/
def data_fails : Outcomes where
  install_package := fun _ => .INSTALL_SUCCESS
  format_root_device := fun root => if root = "DATA:" then -1 else 0
  extendedcommand_file_exists := false
  run_and_remove_extendedcommand := 0

/-- An update succeeds although the data could not be wiped, and the cache was not. -/
theorem update_hides_wipe : ¬ SuccessHonest data_fails ["recovery", "--update_package=CACHE:update.zip", "--wipe_data"] := by
  intro honest
  have asked : Asked (given ["recovery", "--update_package=CACHE:update.zip", "--wipe_data"]) 'w' := ⟨none, by decide⟩
  exact absurd ((honest (by decide) (.inr (.inl asked))).data asked).2 (by decide)

end SteamRecovery.MainOptions
