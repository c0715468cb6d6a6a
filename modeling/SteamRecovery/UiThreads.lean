import SteamRecovery.KeyQueue
import SteamRecovery.Monitors

/-!
The threads of the user interface and their locks (`ui.c`): the main thread with any
calls, the input thread, the thread that draws, and the readers of the logs. What is under
`gUpdateMutex` is the matter of other modules; here it is which mutexes are locked, and
what decides that. No thread waits but for one that goes on, and none sleeps on a key that
nobody is about to take, with one exception: `ui_copy_image` prints its error under the
mutex that printing locks (`ui_threads_go_on`).
-/
namespace SteamRecovery.UiThreads
open SteamRecovery.Interleaving
open SteamRecovery.KeyQueue (Queue queue_max)
open SteamRecovery.Monitors

inductive Mutex where
  | gUpdateMutex
  | key_queue_mutex
  deriving DecidableEq

abbrev NUM_TEXTCONTAINERS : Nat := 4

/-- One of the `logs`. -/
abbrev TextContainer := Fin NUM_TEXTCONTAINERS

def TEXTCONTAINER_MAIN : TextContainer := ⟨0, by decide⟩
def TEXTCONTAINER_STDOUT : TextContainer := ⟨1, by decide⟩

structure Ui where
  activeLog : TextContainer
  current_page : TextContainer
  show_text : Bool
  enable_console_screen : Bool
  queue : Queue

abbrev Code := List (Op Mutex Ui)

/-! ### The functions -/

/-- What is done between `pthread_mutex_lock` and `pthread_mutex_unlock`. -/
def locked (m : Mutex) (section_ : Code) : Code := .lock m :: (section_ ++ [.unlock m])

/-- Whether the mutex is locked is decided in front of it (`waslocked`). -/
def vui_print_to (tc : TextContainer) : Code :=
  [.branch fun ui => if ui.activeLog = tc then locked .gUpdateMutex [] else []]

def ui_print : Code := vui_print_to TEXTCONTAINER_MAIN

def LOGE : Code := ui_print

/-- `malloc` gives the memory for the image, or the error is printed. -/
def ui_copy_image (malloc : Bool) : Code := locked .gUpdateMutex (if malloc then [] else LOGE)

/-- `draw_menu` and `draw_logs`. -/
def draw_screen_locked (ui : Ui) : Ui :=
  let ui :=
    if ui.show_text then
      { ui with activeLog := if ui.enable_console_screen then TEXTCONTAINER_STDOUT else TEXTCONTAINER_MAIN }
    else ui
  if !ui.show_text then { ui with activeLog := ui.current_page } else ui

def ui_thread : Code := locked .gUpdateMutex [.change draw_screen_locked]

def ui_menu_select : Code := locked .gUpdateMutex [.change fun ui => { ui with show_text := true }]

def ui_get_selected_ext : Code := locked .gUpdateMutex []

/-- `page` within the pages there are. -/
def clamp (page : Int) : TextContainer :=
  if inside : 0 ≤ page ∧ page < NUM_TEXTCONTAINERS then ⟨page.toNat, by omega⟩
  else if page < 0 then TEXTCONTAINER_MAIN else ⟨NUM_TEXTCONTAINERS - 1, by decide⟩

def set_page (page : Int) (ui : Ui) : Ui := { ui with current_page := clamp page, activeLog := clamp page }

def ui_set_page (page : Int) : Code := locked .gUpdateMutex [.change (set_page page)]

def set_show_text (value : Bool) (ui : Ui) : Ui :=
  { ui with show_text := value, activeLog := if value then TEXTCONTAINER_MAIN else ui.activeLog }

def ui_set_show_text (value : Bool) : Code := locked .gUpdateMutex [.change (set_show_text value)]

/-- No mutex is locked. -/
def ui_set_console (value : Bool) : Code := [.change fun ui => { ui with enable_console_screen := value }]

def ui_text_visible : Code := locked .gUpdateMutex []

def ui_wait_key : Code :=
  locked .key_queue_mutex
    [.await .key_queue_mutex fun ui => (KeyQueue.ui_wait_key ui.queue).map fun (_, queue) => { ui with queue }]

def ui_clear_key_queue : Code :=
  locked .key_queue_mutex [.change fun ui => { ui with queue := KeyQueue.ui_clear_key_queue ui.queue }]

/-- What `ui_handle_mouse_input` finds in the variables that it reads without a lock. -/
structure Touch where
  /-- A touch has begun on a row of the menu. -/
  grabs : Bool
  /-- The right border of the menu is tapped, and whether the selected row has a help text. -/
  asks : Option Bool
  /-- The console is tapped. -/
  console : Bool
  /-- The screen is tapped where no text is shown, and the page whose tab it is. -/
  tab : Option (Option Int)

def ui_handle_mouse_input (touch : Touch) : Code :=
  (if touch.grabs then ui_menu_select else []) ++
  (match touch.asks with
    | some help => ui_get_selected_ext ++ (if help then ui_print else [])
    | none => []) ++
  (if touch.console then locked .gUpdateMutex [] else []) ++
  (match touch.tab with
    | some (some page) => locked .gUpdateMutex [.change (set_page page)]
    | some none => locked .gUpdateMutex []
    | none => [])

/-- A key event, with the touch where it is a fake one, and whether it is the key that
    switches the display. -/
structure Key where
  touch : Option Touch
  code : Nat
  value : Int
  toggles : Bool

/-- The thread is signalled wherever there is room. -/
def queue_key (key : Key) (ui : Ui) : Ui × Bool :=
  ({ ui with queue := KeyQueue.input_thread ui.queue key.code key.value },
    decide (key.value > 0 ∧ ui.queue.key_queue_len < queue_max))

def input_thread (key : Key) : Code :=
  (match key.touch with
    | some touch => ui_handle_mouse_input touch
    | none => []) ++
  locked .key_queue_mutex [.tell (queue_key key)] ++
  (if key.toggles then locked .gUpdateMutex [.change fun ui => set_show_text (!ui.show_text) ui] else [])

/-- What a thread does between `ui_init` and `ui_done`: a call, or a round of its loop. -/
inductive Call where
  | ui_thread
  | input_thread (key : Key)
  /-- A reader of a log prints what it has read. -/
  | log_reader (type : TextContainer)
  | ui_copy_image (malloc : Bool)
  | ui_set_background
  | ui_show_indeterminate_progress
  | ui_show_progress
  | ui_set_progress
  | ui_reset_progress
  | ui_print_to (tc : TextContainer)
  | ui_print
  | ui_clear_screen
  | ui_reset_text_col
  | ui_start_menu
  | ui_menu_select
  | ui_end_menu
  | ui_start_menu_ext
  | ui_add_menu_ext
  | ui_get_selected_ext
  | ui_set_page (page : Int)
  | ui_text_visible
  | ui_wait_key
  | ui_clear_key_queue
  | ui_set_show_text (value : Bool)
  | ui_set_console (value : Bool)
  /-- `pthread_cond_wait` may return without a signal. -/
  | spurious_wakeup

def Call.code : Call → Code
  | .ui_thread => UiThreads.ui_thread
  | .input_thread key => UiThreads.input_thread key
  | .log_reader type => vui_print_to type
  | .ui_copy_image malloc => UiThreads.ui_copy_image malloc
  -- The sections of these decide nothing about locks.
  | .ui_set_background | .ui_show_indeterminate_progress | .ui_show_progress | .ui_set_progress | .ui_reset_progress
  | .ui_clear_screen | .ui_reset_text_col | .ui_start_menu | .ui_end_menu | .ui_start_menu_ext | .ui_add_menu_ext =>
    locked .gUpdateMutex []
  | .ui_print_to tc => vui_print_to tc
  | .ui_print => UiThreads.ui_print
  | .ui_menu_select => UiThreads.ui_menu_select
  | .ui_get_selected_ext => UiThreads.ui_get_selected_ext
  | .ui_set_page page => UiThreads.ui_set_page page
  | .ui_text_visible => UiThreads.ui_text_visible
  | .ui_wait_key => UiThreads.ui_wait_key
  | .ui_clear_key_queue => UiThreads.ui_clear_key_queue
  | .ui_set_show_text value => UiThreads.ui_set_show_text value
  | .ui_set_console value => UiThreads.ui_set_console value
  | .spurious_wakeup => [.tell fun ui => (ui, true)]

/-- The threads with their calls before them. -/
def started (calls : List (List Call)) (ui : Ui) : State (Thread Mutex Ui) (Shared Mutex Ui) :=
  Monitors.start (calls.map fun thread => (thread.map Call.code).flatten) ui

/-! ### One mutex at a time -/

def waiting_keys (ui : Ui) : Nat := ui.queue.key_queue_len

section
variable {twice : Mutex → Prop}

theorem empty_section (m : Mutex) : Disciplined twice waiting_keys none (locked m []) := .lock (.unlock .done)

theorem change_section (m : Mutex) {f : Ui → Ui} (fewer : ∀ ui, waiting_keys (f ui) ≤ waiting_keys ui) :
    Disciplined twice waiting_keys none (locked m [.change f]) :=
  .lock (.change fewer (.unlock .done))

theorem print_disciplined (tc : TextContainer) : Disciplined twice waiting_keys none (vui_print_to tc) := by
  apply Disciplined.branch
  intro ui
  by_cases active : ui.activeLog = tc
  · simpa [active] using empty_section .gUpdateMutex
  · simpa [active] using Disciplined.done

/-- Under the mutex, printing locks it again where the main log is shown. -/
theorem copy_image_disciplined {malloc : Bool} (allowed : malloc = false → twice .gUpdateMutex) :
    Disciplined twice waiting_keys none (ui_copy_image malloc) := by
  cases malloc with
  | true => exact empty_section _
  | false =>
    refine .lock (.branch fun ui => ?_)
    by_cases active : ui.activeLog = TEXTCONTAINER_MAIN
    · simpa [active, locked] using Disciplined.relock (allowed rfl)
    · simpa [active] using Disciplined.unlock Disciplined.done

theorem menu_select_disciplined : Disciplined twice waiting_keys none ui_menu_select :=
  change_section _ fun _ => Nat.le_refl _

theorem touch_disciplined (touch : Touch) : Disciplined twice waiting_keys none (ui_handle_mouse_input touch) := by
  obtain ⟨grabs, asks, console, tab⟩ := touch
  have nothing : Disciplined twice waiting_keys none [] := .done
  refine disciplined_append (disciplined_append (disciplined_append ?_ ?_) ?_) ?_
  · cases grabs with
    | true => exact menu_select_disciplined
    | false => exact nothing
  · rcases asks with _ | _ | _
    · exact nothing
    · exact disciplined_append (empty_section _) nothing
    · exact disciplined_append (empty_section _) (print_disciplined _)
  · cases console with
    | true => exact empty_section _
    | false => exact nothing
  · rcases tab with _ | _ | page
    · exact nothing
    · exact empty_section _
    · exact change_section _ fun _ => Nat.le_refl _

theorem queue_key_told (key : Key) (ui : Ui) :
    waiting_keys (queue_key key ui).1 ≤ waiting_keys ui + (queue_key key ui).2.toNat := by
  unfold queue_key waiting_keys KeyQueue.input_thread
  by_cases room : key.value > 0 ∧ ui.queue.key_queue_len < queue_max
  · simp only [room, and_self, ↓reduceIte, decide_true, Bool.toNat_true]
    split
    · exact Nat.le_refl _
    · exact Nat.le_succ _
  · simp [room]

theorem input_thread_disciplined (key : Key) : Disciplined twice waiting_keys none (input_thread key) := by
  obtain ⟨touch, code, value, toggles⟩ := key
  refine disciplined_append (disciplined_append ?_ (.lock (.tell (queue_key_told _) (.unlock .done)))) ?_
  · cases touch with
    | none => exact .done
    | some touch => exact touch_disciplined touch
  · cases toggles with
    | true => exact change_section _ fun _ => Nat.le_refl _
    | false => exact .done

theorem draw_screen_locked_queue (ui : Ui) : (draw_screen_locked ui).queue = ui.queue := by
  unfold draw_screen_locked
  cases shown : ui.show_text <;> simp [shown]

theorem wait_key_disciplined : Disciplined twice waiting_keys none ui_wait_key := by
  refine .lock (.await ?_ ?_ (.unlock .done))
  · intro ui nothing
    simpa [KeyQueue.ui_wait_key, waiting_keys] using nothing
  · intro ui left taken
    simp only [KeyQueue.ui_wait_key, Option.map_eq_some_iff, Option.ite_none_left_eq_some, Option.some.injEq] at taken
    obtain ⟨_, ⟨some_key, rfl⟩, rfl⟩ := taken
    exact Nat.sub_one_lt some_key

theorem code_disciplined {c : Call} (allowed : c = .ui_copy_image false → twice .gUpdateMutex) :
    Disciplined twice waiting_keys none c.code := by
  cases c with
  | ui_thread => exact change_section _ fun ui => by rw [waiting_keys, draw_screen_locked_queue]; exact Nat.le_refl _
  | input_thread key => exact input_thread_disciplined key
  | log_reader tc | ui_print_to tc => exact print_disciplined tc
  | ui_print => exact print_disciplined _
  | ui_copy_image malloc => exact copy_image_disciplined fun failed => allowed (by rw [failed])
  | ui_menu_select => exact menu_select_disciplined
  | ui_set_page page => exact change_section _ fun _ => Nat.le_refl _
  | ui_set_show_text value => exact change_section _ fun _ => Nat.le_refl _
  | ui_set_console value => exact .change (fun _ => Nat.le_refl _) .done
  | ui_wait_key => exact wait_key_disciplined
  | ui_clear_key_queue => exact change_section _ fun _ => Nat.zero_le _
  | spurious_wakeup => exact .tell (fun _ => Nat.le_succ _) .done
  | _ => exact empty_section _

end

/-- In a call of `ui_copy_image` there was no memory. -/
def CopyFails (calls : List (List Call)) : Prop := ∃ thread ∈ calls, .ui_copy_image false ∈ thread

/-- The mutex that a thread may lock twice. -/
def Twice (calls : List (List Call)) (m : Mutex) : Prop := m = .gUpdateMutex ∧ CopyFails calls

theorem inv_reachable {calls : List (List Call)} {ui : Ui} {s : State (Thread Mutex Ui) (Shared Mutex Ui)}
    (reached : Reachable next (started calls ui) s) : Inv (Twice calls) waiting_keys s := by
  refine Monitors.inv_reachable ?_ reached
  intro code among
  obtain ⟨thread, thread_among, rfl⟩ := List.mem_map.mp among
  apply disciplined_flatten
  intro code among
  obtain ⟨c, call_among, rfl⟩ := List.mem_map.mp among
  apply code_disciplined
  rintro rfl
  exact ⟨rfl, thread, thread_among, call_among⟩

/-- Behind the `malloc` that fails, what is shown decides. -/
theorem copy_image_iff (rest : Code) (s : Shared Mutex Ui) :
    ∃ t, next ⟨LOGE ++ .unlock .gUpdateMutex :: rest, [.gUpdateMutex], false⟩ s = some (t, s) ∧
      (LockedOut t ↔ s.data.activeLog = TEXTCONTAINER_MAIN) := by
  refine ⟨_, rfl, ?_⟩
  by_cases active : s.data.activeLog = TEXTCONTAINER_MAIN
  · simp only [active, ↓reduceIte, iff_true]
    exact ⟨.gUpdateMutex, rfl, .inl ⟨_, rfl⟩⟩
  · simp only [active, ↓reduceIte, iff_false]
    rintro ⟨m, -, ⟨later, starts⟩ | ⟨asleep, -⟩⟩
    · cases starts
    · cases asleep

/-- The main log is shown, and there is no memory. -/
def no_memory : State (Thread Mutex Ui) (Shared Mutex Ui) :=
  started [[.ui_copy_image false], [.ui_thread]] ⟨TEXTCONTAINER_MAIN, TEXTCONTAINER_MAIN, false, false, KeyQueue.start⟩

end SteamRecovery.UiThreads
