import SteamRecovery.Firmware
import SteamRecovery.MainOptions
import SteamRecovery.Restarting

/-!
The runs of recovery over the life of a phone with a misc partition (`recovery.c`). Each
run writes its arguments into the bootloader message before it does anything, and takes
them out when everything is done, and each may be cut anywhere. Until the operations asked
for have all returned, the bootloader starts recovery again, with the same arguments, and
the main system only runs when they have (`recovery_restartable`). But a package that is
installed by a script or from the menu (`install_zip` in `extendedcommands.c`) has the
message written without arguments first, and then nothing is asked for any more.
-/
namespace SteamRecovery.RecoveryRuns
open SteamRecovery.BootMessages
open SteamRecovery.CStrings
open SteamRecovery.Firmware (Update AllOrNone maybe_install_firmware_update wipe_cache_field update_command)
open SteamRecovery.MainOptions
open SteamRecovery.Restarting
open SteamRecovery.Routines

/-- What the trail of a phone tells. -/
inductive Event where
  /-- The arguments were written to the message. -/
  | asked (args : List (List Char))
  | called (call : Call)
  | returned (call : Call)
  | cleared
  | main_system

/-- What survives a cut, and what has happened so far. -/
structure Phone where
  boot : BootloaderMessage
  command_file : Option (List Char)
  trail : List Event

inductive Choice where
  /-- The package is installed, and `returns` if it was and no text is visible. -/
  | apply_sdcard (returns : Bool)
  | other

/-- What is chosen in the menu. -/
structure Chosen where
  choice : Choice
  /-- The runs of `install_zip`, and whether its message is stored. -/
  install_zips : List Bool
  /-- What is left of the command file. -/
  leaves : Option (List Char)

/-- How things go in one run. The calls of `set_bootloader_message` and of `unlink` are
    numbered, the first one in `get_args`, the second one at the end, then those of the
    menu. -/
structure Boot where
  program : List Char
  /-- `COMMAND_FILE` can be opened, where it is there. -/
  fopen : Bool
  /-- The message is stored. Nothing looks at the code that is returned. -/
  set_bootloader_message : Nat → Bool
  unlink : Nat → Bool
  /-- One of the `do_steam` functions ends `main`; the first one depends on `use_command`. -/
  do_steam : Bool → Bool
  outcomes : Outcomes
  /-- The runs of `install_zip` that the scripts of an operation lead to, those in packages
      in packages too, and whether its message is stored. -/
  install_zips : Call → List Bool
  /-- What an operation leaves of the command file. -/
  leaves : Call → Option (List Char) → Option (List Char)
  ui_text_visible : Bool
  choices : List Chosen
  /-- The update that is pending at the end, and how it is handed over. -/
  update : Option Update
  firmware : Firmware.Outcomes
  atomic : AllOrNone firmware
  types : ∀ u ∈ update, u.type = "radio".toList ∨ u.type = "hboot".toList

/-! ### One run -/

def start (b : Boot) (p : Phone) : Start where
  program := b.program
  args := []
  boot := p.boot
  ignore := false
  command_file := if b.fopen then p.command_file else none

def argv (program : List Char) (args : List (List Char)) : List String := (program :: args).map String.ofList

def record (event : Event) (p : Phone) : Phone := { p with trail := p.trail ++ [event] }

def store_message (stored : Bool) (boot : BootloaderMessage) (event : Event) : Routine (Traced Phone) :=
  step 0 fun p => if stored then record event { p with boot := boot } else p

/-- What the log and the intent file hold makes no difference here. -/
def finish_recovery (b : Boot) (n : Nat) : Routine (Traced Phone) :=
  inOrder [
    store_message (b.set_bootloader_message n) zero_message .cleared,
    step 0 fun p => if b.unlink n then { p with command_file := none } else p]

/-- The message of `set_sdcard_update_bootloader_message`. -/
def sdcard_update_message : BootloaderMessage :=
  write_args zero_message zero_message.recovery zero_message.recovery_size []

def install_zips (stored : List Bool) : Routine (Traced Phone) :=
  inOrder (stored.map fun stored => store_message stored sdcard_update_message (.asked []))

def operation (b : Boot) (call : Call) : Routine (Traced Phone) :=
  inOrder [
    step 0 (record (.called call)),
    install_zips (b.install_zips call),
    step 0 fun p => record (.returned call) { p with command_file := b.leaves call p.command_file }]

def choose (b : Boot) (n : Nat) (chosen : Chosen) : Routine (Traced Phone) :=
  inOrder [
    onlyIf (chosen.choice matches .apply_sdcard _)
      (store_message (b.set_bootloader_message n) sdcard_update_message (.asked [])),
    install_zips chosen.install_zips,
    step 0 fun p => { p with command_file := chosen.leaves }]

/-- `finish_recovery` comes before each menu. At the end of the choices, a reboot is
    chosen. -/
def prompt_and_wait (b : Boot) : Nat → List Chosen → Routine (Traced Phone)
  | n, [] => finish_recovery b n
  | n, chosen :: rest =>
    inOrder [
      finish_recovery b n,
      choose b (n + 1) chosen,
      onlyIf (!(chosen.choice matches .apply_sdcard true)) (prompt_and_wait b (n + 2) rest)]

/-- The arguments in the message that `maybe_install_firmware_update` writes first. -/
def wipe_args (send_intent : Option String) : List (List Char) :=
  "--wipe_cache".toList :: (send_intent.map fun intent => "--send_intent=".toList ++ intent.toList).toList

/-- The cache is formatted where handing over an update fails. -/
def formats (cache : List Firmware.CacheEvent) : List Event :=
  cache.filterMap fun event =>
    match event with
    | .formatted _ => some (.returned (.erase_root "CACHE:"))
    | _ => none

/-- What handing over an update makes of the phone. -/
def with_flash (send_intent : Option String) (p : Phone) (f : Firmware.Flash) : Phone :=
  { p with
    boot := f.message
    trail := p.trail ++ (if f.sent then [.asked (wipe_args send_intent)] else []) ++ formats f.cache }

/-- The message asks for the update. -/
def handed_over (update : Option Update) (f : Firmware.Flash) : Bool :=
  match update with
  | some update => f.sent && Firmware.command f = update_command update.type
  | none => false

/-- Whatever `maybe_install_firmware_update` returns, `main` goes on. It does not return
    where `reboot` is called. -/
def or_reboot (update : Option Update) (routine : Routine (Traced Firmware.Flash)) : Routine (Traced Firmware.Flash) :=
  fun t => (if handed_over update (routine t).2.now then 1 else 0, (routine t).2)

def firmware_update (b : Boot) (send_intent : Option String) : Routine (Traced Phone) :=
  within (fun p => ⟨p.boot, false, []⟩) (with_flash send_intent)
    (or_reboot b.update (maybe_install_firmware_update b.firmware b.update (send_intent.map String.toList)))

/-- `main`, once `get_args` has found the arguments. -/
def run_args (b : Boot) (a : Args) : Routine (Traced Phone) :=
  let argv := argv a.program a.args
  let p := main b.outcomes argv
  inOrder [
    store_message (b.set_bootloader_message 0) a.boot (.asked a.args),
    onlyIf (!b.do_steam a.use_command) (inOrder [
      inOrder (p.calls.map (operation b)),
      onlyIf (p.status ≠ .INSTALL_SUCCESS || b.ui_text_visible) (prompt_and_wait b 2 b.choices),
      firmware_update b (parse (given argv)).send_intent,
      finish_recovery b 1])]

/-- Nothing is done where `get_args` runs into `strdup(NULL)`. -/
def recovery (b : Boot) : Routine (Traced Phone) := fun t =>
  match get_args (start b t.now) with
  | none => (0, t)
  | some a => run_args b a t

/-! ### Between the runs -/

inductive Started where
  | recovery
  | update
  | main_system
  deriving DecidableEq

/-- What the bootloader does with the message, as `firmware.c` says. -/
def bootloader (boot : BootloaderMessage) : Started :=
  let command := c_string '\x00' boot.command
  if command = "boot-recovery".toList then .recovery
  else if command = "update-radio".toList ∨ command = "update-hboot".toList then .update
  else .main_system

inductive Outside : Phone → Phone → Prop where
  /-- The main system is started, and may write a command. -/
  | main_system {p : Phone} (command_file : Option (List Char)) : bootloader p.boot = .main_system →
      Outside p (record .main_system { p with command_file := command_file })
  /-- After an update, the bootloader writes the message, leaving the recovery field. -/
  | update {p : Phone} (boot : BootloaderMessage) : bootloader p.boot = .update →
      c_string '\x00' boot.command = "boot-recovery".toList → boot.recovery = p.boot.recovery →
      Outside p { p with boot := boot }

/-! ### What is asked for -/

/-- Nothing is found to run. -/
def no_command : Outcomes := ⟨fun _ => .INSTALL_SUCCESS, fun _ => 0, false, 0⟩

/-- The operations that the arguments ask for. -/
def operations (args : List (List Char)) : List Call := (main no_command (argv [] args)).calls

/-- These arguments were the last to be written, and what has happened since. -/
def LastAsked (trail : List Event) (args : List (List Char)) (since : List Event) : Prop :=
  (∃ before, trail = before ++ .asked args :: since) ∧ ∀ other, .asked other ∉ since

/-- The operations have all returned, one after the other. -/
def Completed (args : List (List Char)) (since : List Event) : Prop :=
  List.Sublist ((operations args).map .returned) since

/-- The arguments have room in the message. -/
def Fits (args : List (List Char)) : Prop := 9 + (args.map fun arg => arg.length + 1).sum ≤ 1024

instance (args : List (List Char)) : Decidable (Fits args) := inferInstanceAs (Decidable (_ ≤ _))

/-- Recovery is started again with these arguments. -/
structure Holds (args : List (List Char)) (boot : BootloaderMessage) : Prop where
  some_arg : args ≠ []
  starts : bootloader boot ≠ .main_system
  reads : ∀ program, (boot_args program boot.recovery).2.1 = args

/-- What was asked for is done, or will be asked for again. -/
def Account (p : Phone) : Prop :=
  ∀ args since, LastAsked p.trail args since → Fits args → Completed args since ∨ Holds args p.boot

/-- The main system was never started in between. -/
def Uninterrupted (trail : List Event) : Prop :=
  ∀ before after, trail = before ++ .main_system :: after →
    ∀ args since, LastAsked before args since → Fits args → Completed args since

/-- Nothing that was asked for is left to do. -/
def Settled (trail : List Event) : Prop := ∀ args since, LastAsked trail args since → Fits args → Completed args since

/-! ### Arguments in the message -/

theorem holds_start {args : List (List Char)} {p : Phone} (holds : Holds args p.boot) (b : Boot) :
    ∃ a, get_args (start b p) = some a ∧ a.args = args := by
  have reads := holds.reads b.program
  obtain ⟨a, ran, same, _⟩ := get_args_boot (s := start b p) rfl rfl (by
    show (boot_args b.program p.boot.recovery).2.1 ≠ []
    rw [reads]
    exact holds.some_arg)
  exact ⟨a, ran, same.trans reads⟩

theorem strtok_is_token {delim : Char → Bool} {buffer token : List Char}
    (found : (strtok '\x00' delim buffer).1 = some token) : Token '\x00' delim token := by
  rw [strtok_found rfl] at found
  split at found
  · cases found
  · rename_i some_char
    cases found
    refine ⟨some_char, fun c member => ?_⟩
    simpa using List.mem_takeWhile_imp member

theorem strtok_loop_tokens (delim : Char → Bool) (n : Nat) (buffer : List Char) :
    (strtok_loop '\x00' delim n buffer).1.length ≤ n ∧
      ∀ token ∈ (strtok_loop '\x00' delim n buffer).1, Token '\x00' delim token := by
  induction n generalizing buffer with
  | zero => exact ⟨Nat.le_refl 0, by simp [strtok_loop]⟩
  | succ n ih =>
    rw [strtok_loop]
    cases found : strtok '\x00' delim buffer with
    | mk token rest =>
      obtain ⟨passed, rest⟩ := rest
      cases token with
      | none => exact ⟨Nat.zero_le _, by simp⟩
      | some token =>
        obtain ⟨few, tokens⟩ := ih rest
        refine ⟨Nat.succ_le_succ few, ?_⟩
        rw [List.forall_mem_cons]
        exact ⟨strtok_is_token (by rw [found]), tokens⟩

theorem token_plain {arg : List Char} (token : Token '\x00' is_newline arg) : PlainArg arg where
  some_char := token.1
  one_line := fun member => by simpa [is_newline] using (token.2 _ member).2
  clean := fun member => (token.2 _ member).1 rfl

theorem boot_args_plain (program recovery : List Char) :
    (boot_args program recovery).2.1.length ≤ 99 ∧ ∀ arg ∈ (boot_args program recovery).2.1, PlainArg arg := by
  unfold boot_args
  split
  · exact ⟨Nat.zero_le _, by simp⟩
  · split
    · obtain ⟨few, tokens⟩ := strtok_loop_tokens is_newline 99 _
      exact ⟨few, fun arg member => token_plain (tokens arg member)⟩
    · exact ⟨Nat.zero_le _, by simp⟩

theorem mapM_each {α β : Type} {f : α → Option β} {l : List α} {all : List β} (ran : l.mapM f = some all) :
    all.length = l.length ∧ ∀ b ∈ all, ∃ a ∈ l, f a = some b := by
  induction l generalizing all with
  | nil =>
    cases ran
    simp
  | cons a l ih =>
    rw [List.mapM_cons] at ran
    obtain ⟨b, first, ran⟩ := Option.bind_eq_some_iff.mp ran
    obtain ⟨others, later, same⟩ := Option.bind_eq_some_iff.mp ran
    cases same
    obtain ⟨size, each⟩ := ih later
    refine ⟨by rw [List.length_cons, List.length_cons, size], ?_⟩
    rw [List.forall_mem_cons]
    refine ⟨⟨a, List.mem_cons_self, first⟩, ?_⟩
    intro b member
    obtain ⟨a, inside, here⟩ := each b member
    exact ⟨a, List.mem_cons_of_mem _ inside, here⟩

theorem command_args_plain {text : List Char} {args : List (List Char)} (found : command_args text = some args) :
    args.length ≤ 99 ∧ ∀ arg ∈ args, PlainArg arg := by
  obtain ⟨size, each⟩ := mapM_each found
  refine ⟨?_, ?_⟩
  · rw [size, List.length_take]
    exact Nat.min_le_left _ _
  · intro arg member
    obtain ⟨piece, _, here⟩ := each arg member
    have token := strtok_is_token here
    exact ⟨token.1, fun inside => by simpa using (token.2 _ inside).2, fun inside => (token.2 _ inside).1 rfl⟩

/-- Without arguments on the command line, every argument has a line of its own. -/
theorem get_args_plain {s : Start} {a : Args} (no_args : s.args = []) (ran : get_args s = some a) :
    a.args.length ≤ 99 ∧ ∀ arg ∈ a.args, PlainArg arg := by
  have found : (found_args s).2.1.length ≤ 99 ∧ ∀ arg ∈ (found_args s).2.1, PlainArg arg := by
    unfold found_args
    split
    · exact boot_args_plain _ _
    · rw [no_args]
      exact ⟨Nat.zero_le _, by simp⟩
  simp only [get_args] at ran
  split at ran
  · split at ran
    · obtain ⟨args, read, rfl⟩ := Option.map_eq_some_iff.mp ran
      exact command_args_plain read
    · cases ran
      exact ⟨Nat.zero_le _, by simp⟩
  · cases ran
    exact found

theorem get_args_command {s : Start} {a : Args} (ran : get_args s = some a) :
    c_string '\x00' a.boot.command = "boot-recovery".toList := by
  have written : ∀ recovery size args, c_string '\x00' (write_args s.boot recovery size args).command =
      "boot-recovery".toList := fun _ _ _ => c_string_strlcpy s.boot.command "boot-recovery".toList 31
  simp only [get_args] at ran
  split at ran
  · split at ran
    · obtain ⟨args, _, rfl⟩ := Option.map_eq_some_iff.mp ran
      exact written _ (found_args_size s) _
    · cases ran
      exact written _ (found_args_size s) _
  · cases ran
    exact written _ (found_args_size s) _

/-- A field that was filled with lines that fit is read as these lines. -/
theorem lines_read {args : List (List Char)} (plain : ∀ arg ∈ args, PlainArg arg) (few : args.length ≤ 99)
    (fits : Fits args) {recovery field : List Char}
    (written : field = strlcpy '\x00' recovery (text_of '\n' ("recovery".toList :: args)) 1024) (program : List Char) :
    (boot_args program field).2.1 = args := by
  have clean : '\x00' ∉ text_of '\n' ("recovery".toList :: args) :=
    text_of_clean (List.forall_mem_cons.mpr ⟨recovery_plain, plain⟩)
  rw [strlcpy_clean clean] at written
  obtain ⟨_, _, _, _, found⟩ := boot_args_written plain few program
    (recovery.drop (((text_of '\n' ("recovery".toList :: args)).take 1023).length + 1))
  rw [written, found]
  refine (cut_lines_all (fun arg member => (plain arg member).some_char) 1014).mpr ?_
  unfold Fits at fits
  omega

/-- Behind `get_args`, the message holds the arguments. -/
theorem get_args_holds {s : Start} {a : Args} (no_args : s.args = []) (ran : get_args s = some a) (some_arg : a.args ≠ [])
    (fits : Fits a.args) : Holds a.args a.boot := by
  obtain ⟨few, plain⟩ := get_args_plain no_args ran
  obtain ⟨field, size, written⟩ := get_args_written ran
  refine ⟨some_arg, ?_, fun program => lines_read plain few fits (written.trans (args_field_eq size plain)) program⟩
  simp [bootloader, get_args_command ran]

/-! ### The trail -/

variable {trail since : List Event} {args : List (List Char)}

theorem lastAsked_concat {event : Event} (other : ∀ args, event ≠ .asked args)
    (last : LastAsked (trail ++ [event]) args since) : ∃ earlier, since = earlier ++ [event] ∧ LastAsked trail args earlier := by
  obtain ⟨⟨before, split⟩, none_since⟩ := last
  rcases List.eq_nil_or_concat since with rfl | ⟨earlier, final, rfl⟩
  · have ends := congrArg List.getLast? split
    simp only [List.getLast?_append, List.getLast?_singleton, Option.some_or, Option.some.injEq] at ends
    exact absurd ends (other args)
  · rw [List.concat_eq_append] at split none_since ⊢
    have same : trail ++ [event] = (before ++ .asked args :: earlier) ++ [final] := by simpa using split
    obtain ⟨front, final_eq⟩ := List.append_inj' same rfl
    cases final_eq
    exact ⟨earlier, rfl, ⟨before, front⟩, fun other member => none_since other (List.mem_append_left _ member)⟩

theorem lastAsked_append {events : List Event} (others : ∀ args, .asked args ∉ events)
    (last : LastAsked (trail ++ events) args since) : ∃ earlier, since = earlier ++ events ∧ LastAsked trail args earlier := by
  induction events using List.reverseRecOn generalizing since with
  | nil => exact ⟨since, (List.append_nil since).symm, by simpa using last⟩
  | append_singleton events event ih =>
    rw [← List.append_assoc] at last
    obtain ⟨middle, rfl, inner⟩ := lastAsked_concat
      (fun args same => others args (by rw [same]; simp)) last
    obtain ⟨earlier, rfl, first⟩ := ih (fun args member => others args (List.mem_append_left _ member)) inner
    exact ⟨earlier, List.append_assoc _ _ _, first⟩

theorem lastAsked_asked {asked : List (List Char)} (last : LastAsked (trail ++ [.asked asked]) args since) :
    args = asked ∧ since = [] := by
  obtain ⟨⟨before, split⟩, none_since⟩ := last
  rcases List.eq_nil_or_concat since with rfl | ⟨earlier, final, rfl⟩
  · obtain ⟨_, same⟩ := List.append_inj' split rfl
    cases same
    exact ⟨rfl, rfl⟩
  · rw [List.concat_eq_append] at split none_since
    have same : trail ++ [.asked asked] = (before ++ .asked args :: earlier) ++ [final] := by simpa using split
    obtain ⟨_, final_eq⟩ := List.append_inj' same rfl
    cases final_eq
    exact absurd (List.mem_append_right _ List.mem_cons_self) (none_since asked)

theorem completed_more (completed : Completed args since) (events : List Event) : Completed args (since ++ events) :=
  completed.trans (List.sublist_append_left _ _)

theorem completed_nothing (since : List Event) : Completed [] since := List.nil_sublist since

theorem settled_append (settled : Settled trail) {events : List Event} (others : ∀ args, .asked args ∉ events) :
    Settled (trail ++ events) := by
  intro args since last fits
  obtain ⟨earlier, rfl, first⟩ := lastAsked_append others last
  exact completed_more (settled args earlier first fits) events

theorem settled_nothing (trail : List Event) : Settled (trail ++ [.asked []]) := by
  intro args since last _
  obtain ⟨rfl, rfl⟩ := lastAsked_asked last
  exact completed_nothing []

theorem uninterrupted_append (before : Uninterrupted trail) {events : List Event} (others : .main_system ∉ events) :
    Uninterrupted (trail ++ events) := by
  induction events using List.reverseRecOn with
  | nil => simpa using before
  | append_singleton events event ih =>
    intro first after split
    rcases List.eq_nil_or_concat after with rfl | ⟨rest, final, rfl⟩
    · rw [← List.append_assoc] at split
      obtain ⟨_, same⟩ := List.append_inj' split rfl
      cases same
      exact absurd (List.mem_append_right _ List.mem_cons_self) others
    · rw [List.concat_eq_append] at split
      have same : (trail ++ events) ++ [event] = (first ++ .main_system :: rest) ++ [final] := by simpa using split
      obtain ⟨front, _⟩ := List.append_inj' same rfl
      exact ih (fun member => others (List.mem_append_left _ member)) first rest front

theorem uninterrupted_main_system (before : Uninterrupted trail) (settled : Settled trail) :
    Uninterrupted (trail ++ [.main_system]) := by
  intro first after split
  rcases List.eq_nil_or_concat after with rfl | ⟨rest, final, rfl⟩
  · obtain ⟨rfl, _⟩ := List.append_inj' split rfl
    exact settled
  · rw [List.concat_eq_append] at split
    have same : trail ++ [.main_system] = (first ++ .main_system :: rest) ++ [final] := by simpa using split
    obtain ⟨front, _⟩ := List.append_inj' same rfl
    exact before first rest front

/-! ### Stages of a run -/

/-- What holds behind every step. -/
def Safe (p : Phone) : Prop := Account p ∧ Uninterrupted p.trail

/-- Nothing is left to do. -/
def Done (p : Phone) : Prop := Settled p.trail ∧ Uninterrupted p.trail

/-- The first operations of those that the arguments ask for have returned. -/
def Running (args : List (List Char)) (ran : List Call) (p : Phone) : Prop :=
  (∀ asked since, LastAsked p.trail asked since → Fits asked → Completed asked since ∨
    Holds asked p.boot ∧ asked = args ∧ List.Sublist (ran.map .returned) since) ∧ Uninterrupted p.trail

theorem done_safe {p : Phone} (done : Done p) : Safe p :=
  ⟨fun args since last fits => .inl (done.1 args since last fits), done.2⟩

theorem running_safe {ran : List Call} {p : Phone} (running : Running args ran p) : Safe p :=
  ⟨fun asked since last fits => (running.1 asked since last fits).imp_right And.left, running.2⟩

theorem running_done {calls : List Call} {p : Phone} (running : Running args calls p)
    (all : List.Sublist (operations args) calls) : Done p := by
  refine ⟨fun asked since last fits => ?_, running.2⟩
  rcases running.1 asked since last fits with completed | ⟨_, rfl, returned⟩
  · exact completed
  · exact (all.map Event.returned).trans returned

theorem running_called {ran : List Call} {p : Phone} (running : Running args ran p) (call : Call) :
    Running args ran (record (.called call) p) := by
  refine ⟨fun asked since last fits => ?_, uninterrupted_append running.2 (by simp)⟩
  obtain ⟨earlier, rfl, first⟩ := lastAsked_concat (by simp) last
  rcases running.1 asked earlier first fits with completed | ⟨holds, same, returned⟩
  · exact .inl (completed_more completed _)
  · exact .inr ⟨holds, same, returned.trans (List.sublist_append_left _ _)⟩

theorem running_returned {ran : List Call} {p : Phone} (running : Running args ran p) (call : Call)
    (command_file : Option (List Char)) :
    Running args (ran ++ [call]) (record (.returned call) { p with command_file := command_file }) := by
  refine ⟨fun asked since last fits => ?_, uninterrupted_append running.2 (by simp)⟩
  obtain ⟨earlier, rfl, first⟩ := lastAsked_concat (by simp) last
  rcases running.1 asked earlier first fits with completed | ⟨holds, same, returned⟩
  · exact .inl (completed_more completed _)
  · refine .inr ⟨holds, same, ?_⟩
    rw [List.map_append]
    exact returned.append (List.Sublist.refl _)

theorem asks_nothing {p : Phone} (boot : BootloaderMessage) (uninterrupted : Uninterrupted p.trail) :
    Done (record (.asked []) { p with boot := boot }) :=
  ⟨settled_nothing p.trail, uninterrupted_append uninterrupted (by simp)⟩

theorem running_stored {ran : List Call} {p : Phone} (running : Running args ran p) (boot : BootloaderMessage) :
    Running args ran (record (.asked []) { p with boot := boot }) := by
  obtain ⟨settled, uninterrupted⟩ := asks_nothing boot running.2
  exact ⟨fun asked since last fits => .inl (settled asked since last fits), uninterrupted⟩

/-- What a message without arguments keeps, the packages that are installed keep. -/
theorem leads_install_zips {Q : Phone → Prop} (stored : List Bool)
    (keeps : ∀ p, Q p → Q (record (.asked []) { p with boot := sdcard_update_message })) (allowed : ∀ p, Q p → Safe p) :
    Leads Safe Q (install_zips stored) Safe Q := by
  induction stored with
  | nil => exact leads_nil
  | cons first rest ih =>
    refine leads_cons (leads_step (fun wrong => absurd rfl wrong) (fun _ p holds => ?_) (fun _ => id) allowed) ih
    split
    · exact keeps p holds
    · exact holds

theorem leads_operation (b : Boot) (ran : List Call) (call : Call) :
    Leads Safe (Running args ran) (operation b call) Safe (Running args (ran ++ [call])) := by
  have safe : ∀ (ran : List Call) p, Running args ran p → Safe p := fun _ _ => running_safe
  exact leads_cons (leads_step (fun wrong => absurd rfl wrong) (fun _ _ running => running_called running call) (fun _ => id) (safe ran))
    (leads_cons (leads_install_zips _ (fun _ running => running_stored running _) (safe ran)) (leads_cons (leads_step (fun wrong => absurd rfl wrong) (fun _ _ running => running_returned running call _) (fun _ => id)
      (safe _)) leads_nil))

theorem leads_operations (b : Boot) (ran calls : List Call) :
    Leads Safe (Running args ran) (inOrder (calls.map (operation b))) Safe (Running args (ran ++ calls)) := by
  induction calls generalizing ran with
  | nil =>
    rw [List.append_nil]
    exact leads_nil
  | cons call rest ih =>
    have again := ih (ran ++ [call])
    rw [List.append_assoc] at again
    exact leads_cons (leads_operation b ran call) again

theorem leads_quiet {effect : Phone → Phone} (same : ∀ p, (effect p).trail = p.trail) :
    Leads Safe Done (step 0 effect) Safe Done := by
  refine leads_step (fun wrong => absurd rfl wrong) (fun _ p done => ?_) (fun _ => id) fun _ => done_safe
  unfold Done
  rw [same]
  exact done

theorem leads_cleared (b : Boot) (n : Nat) : Leads Safe Done (finish_recovery b n) Safe Done := by
  have clears : Leads Safe Done (store_message (b.set_bootloader_message n) zero_message .cleared) Safe Done := by
    refine leads_step (fun wrong => absurd rfl wrong) (fun _ p done => ?_) (fun _ => id) fun _ => done_safe
    split
    · exact ⟨settled_append done.1 (by simp), uninterrupted_append done.2 (by simp)⟩
    · exact done
  refine leads_cons clears (leads_cons (leads_quiet fun p => ?_) leads_nil)
  split <;> rfl

theorem leads_choose (b : Boot) (n : Nat) (chosen : Chosen) : Leads Safe Done (choose b n chosen) Safe Done := by
  have stores : Leads Safe Done (store_message (b.set_bootloader_message n) sdcard_update_message (.asked [])) Safe Done := by
    refine leads_step (fun wrong => absurd rfl wrong) (fun _ p done => ?_) (fun _ => id) fun _ => done_safe
    split
    · exact asks_nothing _ done.2
    · exact done
  have installs : Leads Safe Done (install_zips chosen.install_zips) Safe Done :=
    leads_install_zips _ (fun _ done => asks_nothing _ done.2) fun _ => done_safe
  exact leads_cons (leads_onlyIf (fun _ => id) stores)
    (leads_cons installs (leads_cons (leads_quiet fun _ => rfl) leads_nil))

theorem leads_menu (b : Boot) (n : Nat) (choices : List Chosen) :
    Leads Safe Done (prompt_and_wait b n choices) Safe Done := by
  induction choices generalizing n with
  | nil => exact leads_cleared b n
  | cons chosen rest ih =>
    exact leads_cons (leads_cleared b n) (leads_cons (leads_choose b (n + 1) chosen)
      (leads_cons (leads_onlyIf (fun _ => id) (ih (n + 2))) leads_nil))

/-! ### Handing over an update -/

section
variable {o : Firmware.Outcomes} {message : BootloaderMessage} {send_intent : Option (List Char)} {type : List Char}
open SteamRecovery.Firmware (Flash CacheEvent Section done_to_cache or_close or_format write_update_for_bootloader
  update_message wipe_cache_message)

/-- The message as it was found. -/
def Found (message : BootloaderMessage) (f : Flash) : Prop := f.sent = false ∧ f.message = message

/-- The message asks for a wipe of the cache, with this command. -/
def Wipes (send_intent : Option (List Char)) (command : List Char) (f : Flash) : Prop :=
  f.sent = true ∧ f.message.recovery = wipe_cache_field send_intent ∧ Firmware.command f = command

def Formatted (f : Flash) : Prop := ∃ code, CacheEvent.formatted code ∈ f.cache

/-- What may be found behind any step. -/
def Between (message : BootloaderMessage) (send_intent : Option (List Char)) (type : List Char) (f : Flash) : Prop :=
  Found message f ∨ Wipes send_intent "boot-recovery".toList f ∨ Wipes send_intent (update_command type) f

/-- What is found at the end. -/
def Ended (message : BootloaderMessage) (send_intent : Option (List Char)) (type : List Char) (f : Flash) : Prop :=
  Found message f ∨ Wipes send_intent "boot-recovery".toList f ∧ Formatted f ∨ Wipes send_intent (update_command type) f

theorem ended_between {f : Flash} (ended : Ended message send_intent type f) : Between message send_intent type f :=
  ended.imp_right fun sent => sent.imp_left And.left

/-- A step that is done to the cache. -/
theorem keeps_cache {P Q : Flash → Prop} (kept : ∀ event f, Q f → Q (done_to_cache event f)) (allowed : ∀ f, Q f → P f)
    (code : Int) (event : CacheEvent) : Keeps (SoFar P Q) (step code (done_to_cache event)) :=
  keeps_step (kept event) allowed

theorem keeps_close {P Q : Flash → Prop} (kept : ∀ event f, Q f → Q (done_to_cache event f)) (allowed : ∀ f, Q f → P f)
    (n : Nat) {routine : Routine (Traced Flash)} (keeps : Keeps (SoFar P Q) routine) :
    Keeps (SoFar P Q) (or_close o n routine) := by
  intro t before
  unfold or_close
  split
  · exact keeps t before
  · exact keeps_cache kept allowed _ _ _ (keeps t before)

/-- Whatever the cache does not matter for is kept while the update is written. -/
theorem keeps_write_update {P Q : Flash → Prop} (kept : ∀ event f, Q f → Q (done_to_cache event f))
    (allowed : ∀ f, Q f → P f) (data : List Char) : Keeps (SoFar P Q) (write_update_for_bootloader o data) := by
  have other := keeps_cache kept allowed
  have close : ∀ n {routine : Routine (Traced Flash)}, Keeps (SoFar P Q) routine → Keeps (SoFar P Q) (or_close o n routine) :=
    fun n _ keeps => keeps_close kept allowed n keeps
  have write : ∀ n m offset part, Keeps (SoFar P Q) (or_close o m (Firmware.mtd_write_data o n offset part)) := by
    intro n m offset part
    refine close m ?_
    unfold Firmware.mtd_write_data
    split
    · exact fun _ before => before
    · exact other _ _
  unfold write_update_for_bootloader
  refine keeps_inOrder ?_
  simp only [List.forall_mem_cons, List.not_mem_nil, false_implies, implies_true, and_true]
  exact ⟨keeps_step (fun _ holds => holds) allowed, fun _ before => before, other _ _, write _ _ _ _, other _ _,
    write _ _ _ _, other _ _, write _ _ _ _, other _ _, write _ _ _ _, other _ _, other _ _, other _ _, write _ _ _ _,
    close _ (other _ _), other _ _⟩

/-- Where the routine fails, the cache is formatted. -/
theorem leads_format {Q R : Flash → Prop} {routine : Routine (Traced Flash)}
    (leads : Leads (Between message send_intent type) Q routine (Wipes send_intent "boot-recovery".toList) R) :
    Leads (Between message send_intent type) Q (or_format o routine) (Ended message send_intent type) R := by
  intro t before
  obtain ⟨failing, passing⟩ := leads t before
  by_cases passed : (routine t).1 = 0
  · rw [Firmware.or_format_passed passed]
    exact ⟨fun failed => absurd passed failed, fun _ => passing passed⟩
  · have formatted : or_format o routine t =
        (-1, (step o.format (done_to_cache (.formatted o.format)) (routine t).2).2) := if_neg passed
    rw [formatted]
    refine ⟨fun _ => ?_, fun none => absurd none (by simp)⟩
    refine step_soFar (failing passed) ?_ fun _ => ended_between
    exact .inr (.inl ⟨(failing passed).2, o.format, List.mem_append_right _ List.mem_cons_self⟩)

/-- A message is stored where 0 is returned, and only there. -/
theorem leads_message {P Q E R : Flash → Prop} (atomic : AllOrNone o) (n : Nat) (boot : BootloaderMessage)
    (failed : ∀ f, Q f → E f) (passed : ∀ f, Q f → R { f with message := boot, sent := true })
    (failed_allowed : ∀ f, E f → P f) (allowed : ∀ f, R f → P f) :
    Leads P Q (Firmware.set_bootloader_message o n boot) E R := by
  refine leads_step (fun error f holds => ?_) (fun code f holds => ?_) failed_allowed allowed
  · have none : (o.message n).effect = false := Bool.eq_false_iff.mpr fun effect => error ((atomic n).mpr effect)
    simp only [none, Bool.false_eq_true, if_false]
    exact failed f holds
  · simp only [(atomic n).mp code, if_true]
    exact passed f holds

theorem leads_handover (atomic : AllOrNone o) (update : Update) :
    Leads (Between message send_intent update.type) (Found message) (maybe_install_firmware_update o (some update) send_intent)
      (Ended message send_intent update.type) (Found message) := by
  have wipes : ∀ f, Wipes send_intent "boot-recovery".toList f → Between message send_intent update.type f :=
    fun _ wipes => .inr (.inl wipes)
  have updates : ∀ f, Wipes send_intent (update_command update.type) f → Ended message send_intent update.type f :=
    fun _ asks => .inr (.inr asks)
  unfold maybe_install_firmware_update
  dsimp only
  split
  · exact leads_done
  have first : Leads (Between message send_intent update.type) (Found message)
      (Firmware.set_bootloader_message o 0 (wipe_cache_message send_intent)) (Ended message send_intent update.type)
      (Wipes send_intent "boot-recovery".toList) :=
    leads_message atomic 0 _ (fun _ => .inl) (fun _ _ => ⟨rfl, rfl, Firmware.wipe_cache_command send_intent⟩)
      (fun _ => ended_between) wipes
  have written : Leads (Between message send_intent update.type) (Wipes send_intent "boot-recovery".toList)
      (or_format o (write_update_for_bootloader o update.data)) (Ended message send_intent update.type)
      (Wipes send_intent "boot-recovery".toList) :=
    leads_format (leads_keeps (keeps_write_update (fun _ _ wiping => wiping) wipes update.data))
  have second : Leads (Between message send_intent update.type) (Wipes send_intent "boot-recovery".toList)
      (or_format o (Firmware.set_bootloader_message o 1 (update_message update.type (wipe_cache_message send_intent))))
      (Ended message send_intent update.type) (Wipes send_intent (update_command update.type)) :=
    leads_format (leads_message atomic 1 _ (fun _ => id)
      (fun _ _ => ⟨rfl, rfl, Firmware.update_message_command update.type _⟩) wipes fun f asks => ended_between (updates f asks))
  have last : Leads (Between message send_intent update.type) (Wipes send_intent (update_command update.type))
      (fun t => (-1, (step o.reboot id t).2)) (Ended message send_intent update.type) (Found message) := by
    intro t before
    refine ⟨fun _ => ?_, fun none => absurd none (by simp)⟩
    exact step_soFar before (updates _ before.2) fun _ => ended_between
  exact leads_cons first (leads_cons written (leads_cons second (leads_cons last leads_nil)))

end

/-! ### The end of a run -/

theorem intent_word (intent : List Char) :
    Getopt.scan_word OPTIONS '?' ("--send_intent=".toList ++ intent) = .found [('s', some (String.ofList intent))] := by
  have name : ("send_intent=".toList ++ intent).takeWhile (fun c => decide (c ≠ '=')) = "send_intent".toList := rfl
  have value : Getopt.equals_value ("send_intent=".toList ++ intent) = some (String.ofList intent) := rfl
  show Getopt.long_word OPTIONS '?' ("send_intent=".toList ++ intent) = _
  rw [Getopt.long_word, name, value]
  rfl

theorem wipe_operations (send_intent : Option String) : operations (wipe_args send_intent) = [.erase_root "CACHE:"] := by
  cases send_intent with
  | none => rfl
  | some intent =>
    have found : given (argv [] (wipe_args (some intent))) = [('c', none), ('s', some (String.ofList intent.toList))] := by
      show Getopt.getopt_long OPTIONS '?' [String.ofList "--wipe_cache".toList,
        String.ofList ("--send_intent=".toList ++ intent.toList)] = _
      have cache : Getopt.scan_word OPTIONS '?' "--wipe_cache".toList = .found [('c', none)] := rfl
      simp only [Getopt.getopt_long, String.toList_ofList, cache, intent_word]
      rfl
    rw [operations, main, found]
    rfl

/-- What stands behind an option is the end of a word. -/
theorem equals_value_suffix {text : List Char} {value : String} (found : Getopt.equals_value text = some value) :
    value.toList <:+ text := by
  unfold Getopt.equals_value at found
  split at found
  · cases found
  · rename_i c rest behind
    cases found
    have tail : rest <:+ c :: rest := List.suffix_cons c rest
    rw [← behind] at tail
    rw [String.toList_ofList]
    exact tail.trans (List.dropWhile_suffix _)

theorem long_word_suffix {options : List (Getopt.LongOption Char)} {invalid val : Char} {text : List Char}
    {returned : List (Char × Option String)} {value : String} (found : Getopt.long_word options invalid text = .found returned)
    (member : (val, some value) ∈ returned) : value.toList <:+ text := by
  unfold Getopt.long_word at found
  split at found
  · cases found
    simp at member
  · split at found
    · cases found
      simp at member
    · cases found
      simp at member
    · rename_i given
      cases found
      obtain ⟨_, same⟩ := Prod.mk.inj (List.mem_singleton.mp member)
      cases same
      exact equals_value_suffix given
    · cases found

theorem scan_word_suffix {options : List (Getopt.LongOption Char)} {invalid val : Char} {word : List Char}
    {returned : List (Char × Option String)} {value : String} (found : Getopt.scan_word options invalid word = .found returned)
    (member : (val, some value) ∈ returned) : value.toList <:+ word := by
  unfold Getopt.scan_word at found
  split at found
  · cases found
  · rename_i text _
    exact (long_word_suffix found member).trans ⟨['-', '-'], rfl⟩
  · cases found
    simp at member
  · cases found

theorem getopt_suffix {options : List (Getopt.LongOption Char)} {invalid val : Char} {words : List String} {value : String}
    (member : (val, some value) ∈ Getopt.getopt_long options invalid words) : ∃ word ∈ words, value.toList <:+ word.toList := by
  fun_induction Getopt.getopt_long options invalid words with
  | case1 => cases member
  | case2 word rest stops => cases member
  | case3 word rest passed ih =>
    obtain ⟨later, listed, ends⟩ := ih member
    exact ⟨later, List.mem_cons_of_mem _ listed, ends⟩
  | case4 word rest returned here ih =>
    rcases List.mem_append.mp member with first | behind
    · exact ⟨word, List.mem_cons_self, scan_word_suffix here first⟩
    · obtain ⟨later, listed, ends⟩ := ih behind
      exact ⟨later, List.mem_cons_of_mem _ listed, ends⟩
  | case5 word val here => simp at member
  | case6 word val here next later ih =>
    rcases List.mem_cons.mp member with same | behind
    · cases same
      exact ⟨value, by simp, List.suffix_refl _⟩
    · obtain ⟨other, listed, ends⟩ := ih behind
      exact ⟨other, List.mem_cons_of_mem _ (List.mem_cons_of_mem _ listed), ends⟩

theorem parse_intent {found : List (Char × Option String)} {intent : String} (given : (parse found).send_intent = some intent) :
    ∃ val, (val, some intent) ∈ found := by
  induction found using List.reverseRecOn with
  | nil => cases given
  | append_singleton found last ih =>
    rw [parse_concat] at given
    unfold option_switch at given
    split at given
    · rename_i optarg
      cases given
      exact ⟨'s', by simp⟩
    all_goals
      obtain ⟨val, member⟩ := ih given
      exact ⟨val, List.mem_append_left _ member⟩

/-- The intent is a part of one of the arguments. -/
theorem intent_plain {program : List Char} (plain : ∀ arg ∈ args, PlainArg arg) {intent : String}
    (found : (parse (given (argv program args))).send_intent = some intent) :
    '\n' ∉ intent.toList ∧ '\x00' ∉ intent.toList := by
  obtain ⟨val, member⟩ := parse_intent found
  obtain ⟨word, listed, ends⟩ := getopt_suffix member
  obtain ⟨arg, inside, rfl⟩ := List.mem_map.mp (show word ∈ args.map String.ofList from listed)
  rw [String.toList_ofList] at ends
  exact ⟨fun here => (plain arg inside).one_line (ends.subset here), fun here => (plain arg inside).clean (ends.subset here)⟩

theorem wipe_args_plain {send_intent : Option String}
    (clean : ∀ intent ∈ send_intent, '\n' ∉ intent.toList ∧ '\x00' ∉ intent.toList) :
    ∀ arg ∈ wipe_args send_intent, PlainArg arg := by
  have cache : PlainArg "--wipe_cache".toList := ⟨by decide, by decide, by decide⟩
  cases send_intent with
  | none => simpa [wipe_args] using cache
  | some intent =>
    obtain ⟨one_line, no_nul⟩ := clean intent rfl
    have named : PlainArg ("--send_intent=".toList ++ intent.toList) :=
      ⟨by simp, by simp [one_line], by simp [no_nul]⟩
    intro arg member
    rcases List.mem_cons.mp member with rfl | later
    · exact cache
    · rw [List.mem_singleton.mp later]
      exact named

/-- The message that is written first holds these arguments. -/
theorem wipe_field_lines {send_intent : Option String}
    (clean : ∀ intent ∈ send_intent, '\n' ∉ intent.toList ∧ '\x00' ∉ intent.toList) :
    wipe_cache_field (send_intent.map String.toList) =
      strlcpy '\x00' zero_message.recovery (text_of '\n' ("recovery".toList :: wipe_args send_intent)) 1024 := by
  have same : strlcpy '\x00' zero_message.recovery "recovery\n--wipe_cache\n".toList 32 =
      strlcpy '\x00' zero_message.recovery "recovery\n--wipe_cache\n".toList 1024 := by
    have no_nul : '\x00' ∉ "recovery\n--wipe_cache\n".toList := by decide
    rw [strlcpy_clean no_nul, strlcpy_clean no_nul, List.take_of_length_le (by decide), List.take_of_length_le (by decide)]
  cases send_intent with
  | none => exact same
  | some intent =>
    obtain ⟨_, no_nul⟩ := clean intent rfl
    have first : '\x00' ∉ "recovery\n--wipe_cache\n".toList := by decide
    have name : '\x00' ∉ "--send_intent=".toList := by decide
    have named : '\x00' ∉ "recovery\n--wipe_cache\n".toList ++ "--send_intent=".toList := by decide
    have filled : '\x00' ∉ "recovery\n--wipe_cache\n".toList ++ "--send_intent=".toList ++ intent.toList :=
      fun member => (List.mem_append.mp member).elim named no_nul
    show strlcat '\x00' (strlcat '\x00' (strlcat '\x00' _ _ 1024) _ 1024) ['\n'] 1024 = _
    rw [same, strlcat_strlcpy first name zero_message.recovery_size, strlcat_strlcpy named no_nul zero_message.recovery_size,
      strlcat_strlcpy filled (by decide) zero_message.recovery_size]
    simp [text_of, wipe_args]

theorem formats_returned {cache : List Firmware.CacheEvent} {event : Event} (member : event ∈ formats cache) :
    event = .returned (.erase_root "CACHE:") := by
  obtain ⟨done, _, same⟩ := List.mem_filterMap.mp member
  split at same
  · exact (Option.some_inj.mp same).symm
  · cases same

/-- An update that is not handed over leaves nothing to do. -/
theorem with_flash_found {p : Phone} (done : Done p) (send_intent : Option String) {f : Firmware.Flash}
    (unsent : f.sent = false) : Done (with_flash send_intent p f) := by
  have trail : (with_flash send_intent p f).trail = p.trail ++ formats f.cache := by simp [with_flash, unsent]
  unfold Done
  rw [trail]
  exact ⟨settled_append done.1 fun args member => by simpa using formats_returned member,
    uninterrupted_append done.2 fun member => by simpa using formats_returned member⟩

variable {send_intent : Option String}

theorem with_flash_last {p : Phone} {f : Firmware.Flash} (sent : f.sent = true)
    (last : LastAsked (with_flash send_intent p f).trail args since) : args = wipe_args send_intent ∧ since = formats f.cache := by
  have trail : (with_flash send_intent p f).trail = (p.trail ++ [.asked (wipe_args send_intent)]) ++ formats f.cache := by
    simp [with_flash, sent]
  rw [trail] at last
  obtain ⟨earlier, rfl, first⟩ := lastAsked_append (fun args member => by simpa using formats_returned member) last
  obtain ⟨rfl, rfl⟩ := lastAsked_asked first
  exact ⟨rfl, List.nil_append _⟩

theorem with_flash_uninterrupted {p : Phone} (done : Done p) {f : Firmware.Flash} (sent : f.sent = true) :
    Uninterrupted (with_flash send_intent p f).trail := by
  have trail : (with_flash send_intent p f).trail = p.trail ++ (.asked (wipe_args send_intent) :: formats f.cache) := by
    simp [with_flash, sent]
  rw [trail]
  refine uninterrupted_append done.2 fun member => ?_
  rcases List.mem_cons.mp member with same | later
  · cases same
  · simpa using formats_returned later

theorem with_flash_formatted {p : Phone} (done : Done p) {f : Firmware.Flash} (sent : f.sent = true) (formatted : Formatted f) :
    Done (with_flash send_intent p f) := by
  refine ⟨fun args since last _ => ?_, with_flash_uninterrupted done sent⟩
  obtain ⟨rfl, rfl⟩ := with_flash_last sent last
  obtain ⟨code, member⟩ := formatted
  rw [Completed, wipe_operations, List.map_singleton, List.singleton_sublist]
  exact List.mem_filterMap.mpr ⟨_, member, rfl⟩

/-- A message that asks for a wipe holds its arguments. -/
theorem with_flash_wipes (clean : ∀ intent ∈ send_intent, '\n' ∉ intent.toList ∧ '\x00' ∉ intent.toList) {p : Phone}
    (done : Done p) {command : List Char} {f : Firmware.Flash} (wipes : Wipes (send_intent.map String.toList) command f)
    (starts : bootloader f.message ≠ .main_system) : Safe (with_flash send_intent p f) := by
  obtain ⟨sent, field, _⟩ := wipes
  refine ⟨fun args since last fits => ?_, with_flash_uninterrupted done sent⟩
  obtain ⟨rfl, rfl⟩ := with_flash_last sent last
  have few : (wipe_args send_intent).length ≤ 99 := by
    cases send_intent <;> simp [wipe_args]
  exact .inr ⟨List.cons_ne_nil _ _, starts,
    fun program => lines_read (wipe_args_plain clean) few fits (field.trans (wipe_field_lines clean)) program⟩

/-- The run of `maybe_install_firmware_update`, with what `reboot` makes of its end. -/
theorem leads_or_reboot {o : Firmware.Outcomes} (atomic : AllOrNone o) (update : Update) (message : BootloaderMessage)
    (intent : Option (List Char)) :
    Leads (Between message intent update.type) (Found message)
      (or_reboot (some update) (maybe_install_firmware_update o (some update) intent))
      (Wipes intent (update_command update.type))
      (fun f => Found message f ∨ Wipes intent "boot-recovery".toList f ∧ Formatted f) := by
  intro t before
  obtain ⟨failing, passing⟩ := leads_handover atomic update t before
  have ended : SoFar (Between message intent update.type) (Ended message intent update.type)
      (maybe_install_firmware_update o (some update) intent t).2 := by
    by_cases passed : (maybe_install_firmware_update o (some update) intent t).1 = 0
    · exact soFar_mono (passing passed) fun _ => .inl
    · exact failing passed
  unfold or_reboot
  by_cases handed : handed_over (some update) (maybe_install_firmware_update o (some update) intent t).2.now = true
  · rw [if_pos handed]
    simp only [handed_over, Bool.and_eq_true, decide_eq_true_eq] at handed
    refine ⟨fun _ => ⟨ended.1, ?_⟩, fun none => absurd none Int.one_ne_zero⟩
    rcases ended.2 with found | ⟨wipes, _⟩ | asks
    · exact absurd (handed.1.symm.trans found.1) (by decide)
    · exact absurd (handed.2.symm.trans wipes.2.2) (Firmware.update_command_other update.type)
    · exact asks
  · rw [if_neg handed]
    simp only [handed_over, Bool.and_eq_true, decide_eq_true_eq] at handed
    refine ⟨fun wrong => absurd rfl wrong, fun _ => ⟨ended.1, ?_⟩⟩
    rcases ended.2 with found | formatted | asks
    · exact .inl found
    · exact .inr formatted
    · exact absurd ⟨asks.1, asks.2.2⟩ handed

theorem update_starts {update : Update} (types : update.type = "radio".toList ∨ update.type = "hboot".toList)
    {f : Firmware.Flash} (asks : Firmware.command f = update_command update.type) : bootloader f.message ≠ .main_system := by
  have radio : update_command "radio".toList = "update-radio".toList := by decide
  have hboot : update_command "hboot".toList = "update-hboot".toList := by decide
  unfold Firmware.command at asks
  rcases types with type | type
  · rw [type, radio] at asks
    simp [bootloader, asks]
  · rw [type, hboot] at asks
    simp [bootloader, asks]

theorem leads_firmware (b : Boot) (clean : ∀ intent ∈ send_intent, '\n' ∉ intent.toList ∧ '\x00' ∉ intent.toList) :
    Leads Safe Done (firmware_update b send_intent) Safe Done := by
  intro t before
  have done := before.2
  have types := b.types
  unfold firmware_update
  cases pending : b.update with
  | none =>
    refine within_leads (T := fun f => f.sent = false) (U := fun f => f.sent = false) (V := fun f => f.sent = false)
      (W := fun f => f.sent = false) before (fun t holds => ⟨fun _ => holds, fun _ => holds⟩) rfl ?_ ?_ ?_
    · exact fun f unsent => done_safe (with_flash_found done send_intent unsent)
    · exact fun f unsent => done_safe (with_flash_found done send_intent unsent)
    · exact fun f unsent => with_flash_found done send_intent unsent
  | some update =>
    have wiping : ∀ f, Wipes (send_intent.map String.toList) "boot-recovery".toList f → Safe (with_flash send_intent t.now f) :=
      fun f wipes => with_flash_wipes clean done wipes (by
        have command := wipes.2.2
        unfold Firmware.command at command
        simp [bootloader, command])
    have asking : ∀ f, Wipes (send_intent.map String.toList) (update_command update.type) f →
        Safe (with_flash send_intent t.now f) :=
      fun f asks => with_flash_wipes clean done asks (update_starts (types update (pending ▸ rfl)) asks.2.2)
    refine within_leads before (leads_or_reboot b.atomic update t.now.boot (send_intent.map String.toList)) ⟨rfl, rfl⟩ ?_ asking ?_
    · rintro f (found | wipes | asks)
      · exact done_safe (with_flash_found done send_intent found.1)
      · exact wiping f wipes
      · exact asking f asks
    · rintro f (found | ⟨wipes, formatted⟩)
      · exact with_flash_found done send_intent found.1
      · exact with_flash_formatted done wipes.1 formatted

/-! ### Whole runs -/

theorem operations_sublist (o : Outcomes) (program : List Char) (args : List (List Char)) :
    List.Sublist (operations args) (main o (argv program args)).calls := by
  have same : given (argv program args) = given (argv [] args) := rfl
  rw [operations, main, main, same]
  generalize parse (given (argv [] args)) = settings
  unfold dispatch
  cases settings.update_package with
  | some package => cases settings.wipe_data <;> exact List.Sublist.refl _
  | none =>
    cases settings.wipe_data <;> cases settings.wipe_cache <;> try exact List.Sublist.refl _
    exact List.nil_sublist _

/-- The arguments are stored before anything is done. -/
theorem leads_asked (b : Boot) {p : Phone} {a : Args} (found : get_args (start b p) = some a) :
    Leads Safe (fun q => q = p ∧ Safe p) (store_message (b.set_bootloader_message 0) a.boot (.asked a.args)) Safe
      (Running a.args []) := by
  refine leads_step (fun wrong => absurd rfl wrong) ?_ (fun _ => id) fun _ => running_safe
  rintro _ q ⟨rfl, account, uninterrupted⟩
  split
  · refine ⟨fun asked since last fits => ?_, uninterrupted_append uninterrupted (by simp)⟩
    obtain ⟨rfl, rfl⟩ := lastAsked_asked last
    by_cases some_arg : a.args = []
    · rw [some_arg]
      exact .inl (completed_nothing [])
    · exact .inr ⟨get_args_holds rfl found some_arg fits, rfl, List.nil_sublist _⟩
  · refine ⟨fun asked since last fits => ?_, uninterrupted⟩
    refine (account asked since last fits).imp_right fun holds => ⟨holds, ?_, List.nil_sublist _⟩
    obtain ⟨again, ran, same⟩ := holds_start holds b
    cases found.symm.trans ran
    exact same.symm

theorem leads_run_args (b : Boot) {p : Phone} {a : Args} (found : get_args (start b p) = some a) :
    Leads Safe (fun q => q = p ∧ Safe p) (run_args b a) Safe Safe := by
  have plain := (get_args_plain rfl found).2
  have clean : ∀ intent ∈ (parse (given (argv a.program a.args))).send_intent, '\n' ∉ intent.toList ∧ '\x00' ∉ intent.toList :=
    fun intent given => intent_plain plain given
  have operated : Leads Safe (Running a.args []) (inOrder ((main b.outcomes (argv a.program a.args)).calls.map (operation b)))
      Safe Done :=
    leads_weaker (leads_operations b [] _) (fun _ => id)
      fun _ running => running_done running (operations_sublist b.outcomes a.program a.args)
  have ended : Leads Safe Done (finish_recovery b 1) Safe Safe :=
    leads_weaker (leads_cleared b 1) (fun _ => id) fun _ => done_safe
  refine leads_cons (leads_asked b found) (leads_cons (leads_onlyIf (fun _ => running_safe) ?_) leads_nil)
  exact leads_cons operated (leads_cons (leads_onlyIf (fun _ => id) (leads_menu b 2 b.choices))
    (leads_cons (leads_firmware b clean) (leads_cons ended leads_nil)))

theorem recovery_keeps (b : Boot) (p : Phone) (safe : Safe p) : ∀ q ∈ (recovery b ⟨p, []⟩).2.cuts, Safe q := by
  unfold recovery
  cases found : get_args (start b p) with
  | none => exact fun _ none => absurd none List.not_mem_nil
  | some a => exact leads_cuts (leads_run_args b found) ⟨rfl, safe⟩

theorem outside_keeps {p q : Phone} (other : Outside p q) (safe : Safe p) : Safe q := by
  obtain ⟨account, uninterrupted⟩ := safe
  cases other with
  | main_system command_file starts =>
    have settled : Settled p.trail :=
      fun args since last fits => (account args since last fits).resolve_right fun holds => holds.starts starts
    exact done_safe ⟨settled_append settled (by simp), uninterrupted_main_system uninterrupted settled⟩
  | update boot _ command field =>
    refine ⟨fun args since last fits => (account args since last fits).imp_right fun holds => ?_, uninterrupted⟩
    exact ⟨holds.some_arg, by simp [bootloader, command], fun program => by rw [field]; exact holds.reads program⟩

def new_phone : Phone := ⟨zero_message, none, []⟩

/-- A run that is cut before it does anything. -/
def cut_boot : Boot where
  program := "recovery".toList
  fopen := true
  set_bootloader_message := fun _ => true
  unlink := fun _ => true
  do_steam := fun _ => true
  outcomes := no_command
  install_zips := fun _ => []
  leaves := fun _ file => file
  ui_text_visible := false
  choices := []
  update := none
  firmware := Firmware.all_works
  atomic := fun _ => iff_of_true rfl rfl
  types := by simp

end SteamRecovery.RecoveryRuns
