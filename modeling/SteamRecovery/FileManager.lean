import SteamRecovery.Menus

/-!
The file manager (`file_manager` in `steamext.c`). The row that is highlighted is copied out
whatever key is pressed, and the file manager acts on the row before it looks at the
key: going back does nothing exactly where the row does nothing
(`go_back_does_nothing_iff`).
-/
namespace SteamRecovery.FileManager
open SteamRecovery.Menus (MenuType MenuElement Ui Event GO_BACK is_header build_menu)

/-! ### The menu -/

/-- `get_menu_selection_ext` with everything that happens meanwhile: what is chosen, and the
    row that was copied out. -/
def get_menu_selection_ext (ui : Ui) (menu : List MenuElement) (initial_selection : Int) (events : List Event) :
    Option (Int × MenuElement) :=
  match Fifo.run (Menus.step (Menus.get_menu_selection_ext initial_selection))
      (Menus.enter (build_menu menu ui) initial_selection) events with
  | some s => if s.line = .done then s.el.map fun el => (s.chosen_item, el) else none
  | none => none

/-- Whatever is chosen, the row that was copied out is one of the menu, and none of the headers. -/
theorem selection_row {ui : Ui} {menu : List MenuElement} (some_row : ∃ el ∈ menu, is_header el = false)
    {initial_selection chosen_item : Int} {events : List Event} {me : MenuElement}
    (chosen : get_menu_selection_ext ui menu initial_selection events = some (chosen_item, me)) :
    me ∈ menu ∧ is_header me = false := by
  unfold get_menu_selection_ext at chosen
  split at chosen
  · rename_i s ran
    split at chosen
    · rename_i ended
      have known := Menus.known_run (k := Menus.get_menu_selection_ext initial_selection)
        (Menus.build_menu_entered some_row ui initial_selection) (fun row _ => Int.natCast_nonneg row) ran
      obtain ⟨row, el, action, reading, _⟩ := known.chosen ended
      rw [reading.copied rfl] at chosen
      cases chosen
      refine ⟨?_, reading.rests⟩
      rw [← (Menus.build_menu_spec menu ui).1]
      exact List.mem_of_getElem? reading.here
    · cases chosen
  · cases chosen

/-! ### The clipboard -/

def checkclipboard (clipboard : List String) (name : String) : Bool := decide (name ∈ clipboard)

def addclipboard (clipboard : List String) (name : String) : List String :=
  if checkclipboard clipboard name then clipboard else clipboard ++ [name]

/-- The last entry with the name is removed. -/
def removeclipboard (clipboard : List String) (name : String) : List String := (clipboard.reverse.erase name).reverse

theorem addclipboard_same (clipboard : List String) (name : String) :
    addclipboard clipboard name = clipboard ↔ name ∈ clipboard := by
  unfold addclipboard checkclipboard
  by_cases listed : name ∈ clipboard <;> simp [listed]

theorem removeclipboard_same (clipboard : List String) (name : String) :
    removeclipboard clipboard name = clipboard ↔ name ∉ clipboard := by
  unfold removeclipboard
  rw [List.reverse_eq_iff, List.erase_eq_self_iff, List.mem_reverse]

/-! ### The file manager -/

/-- The variables of `file_manager`, the working directory with the moves so far, and the
    shell commands that were run. -/
structure State where
  path : String
  cwd : String
  moves : List String
  multichoice : Bool
  clipboard : List String
  oldchoice : Int
  shell : List String

/-- What `readdir` finds, with its real path and whether it is a directory. -/
structure Entry where
  d_name : String
  realpath : Option String
  stat : Option Bool

/-- What the files are and how the screens that are opened go, once a row was chosen. -/
structure Outcomes where
  realpath : String → Option String
  /-- Whether the path is a directory, where `stat` succeeds. -/
  stat : String → Option Bool
  /-- What is left in `xpath` where `realpath` fails. -/
  xpath : String
  /-- Where a path leads from the working directory. -/
  chdir : String → String → Option String
  /-- The lines that are entered in the console. -/
  console : List String
  /-- The commands that are run in the partition menu. -/
  partition_menu : List String
  /-- Where the log files are saved. -/
  backup_path : String
  /-- What is chosen in the menu of a file. -/
  sel2 : Int

def clipboard_mode_help : String :=
  "In clipboard mode you can select multiple elements, which will be saved to the clipboard. You can then use some " ++
    "commands with the contents of the clipboard, like copying or deleting them. Exiting clipboard mode won't clear " ++
    "the clipboard so you can select multiple elements in various directories"

def console_help : String := "Starts a very minimal on-screen console session, where you can enter commands"

def partman_help : String :=
  "Starts the partition manager, where you can mount/unmount devices, and enable the USB mass storage mode, for the sdcard"

def savelog_help : String := "Saves all the log files to the sdcard for furhter analysis"

/-- `ui_add_menu(id,group_id,type,text,help);` -/
def ui_add_menu (id group_id : Int) (type : MenuType) (text : String) (help : Option String) : MenuElement :=
  ⟨id, group_id, type, some text.toList, help.map String.toList⟩

/-- `me.text` -/
def text (me : MenuElement) : String := String.ofList (me.text.getD [])

section
variable (id group_id : Int) (type : MenuType) (shown : String) (help : Option String)

@[simp] theorem ui_add_menu_id : (ui_add_menu id group_id type shown help).id = id := rfl

@[simp] theorem ui_add_menu_group_id : (ui_add_menu id group_id type shown help).group_id = group_id := rfl

@[simp] theorem text_ui_add_menu : text (ui_add_menu id group_id type shown help) = shown := String.ofList_toList

end

def entry_row (s : State) (entry : Entry) : Option MenuElement :=
  if entry.d_name = ".." ∨ entry.d_name = "." then none
  else
    match entry.realpath, entry.stat with
    | some xpath, some directory =>
      some (ui_add_menu (if checkclipboard s.clipboard xpath then 2 else 3) 2
        (if s.multichoice then .MENU_TYPE_CHECKBOX else .MENU_TYPE_ELEMENT)
        (if directory then entry.d_name ++ "/" else entry.d_name) none)
    | _, _ => none

/-- The menu over a directory. -/
def menu_rows (s : State) (listing : List Entry) : List MenuElement :=
  [ui_add_menu 0 0 .MENU_TYPE_GLOBAL_HEADER "File manager" none,
    ui_add_menu 0 0 .MENU_TYPE_GROUP_HEADER "Commands" none,
    ui_add_menu (if s.multichoice then 1 else 0) 1 .MENU_TYPE_CHECKBOX "Clipboard mode" (some clipboard_mode_help),
    ui_add_menu 1 4 .MENU_TYPE_ELEMENT "Run console" (some console_help),
    ui_add_menu 2 4 .MENU_TYPE_ELEMENT "Run partition manager" (some partman_help),
    ui_add_menu 3 4 .MENU_TYPE_ELEMENT "Save log files to sdcard" (some savelog_help)] ++
  (if s.clipboard = [] then [] else [
    ui_add_menu 1 5 .MENU_TYPE_ELEMENT "Move from clipboard" none,
    ui_add_menu 2 5 .MENU_TYPE_ELEMENT "Paste from clipboard" none,
    ui_add_menu 3 5 .MENU_TYPE_ELEMENT "Delete files in clipboard" none,
    ui_add_menu 4 5 .MENU_TYPE_ELEMENT "Clear clipboard" none]) ++
  [ui_add_menu 0 0 .MENU_TYPE_GROUP_HEADER s.path none, ui_add_menu 0 2 .MENU_TYPE_ELEMENT ".." none] ++
  listing.filterMap (entry_row s) ++
  (if s.clipboard = [] then [] else
    ui_add_menu 0 0 .MENU_TYPE_GROUP_HEADER "Clipboard" none ::
      s.clipboard.map fun name => ui_add_menu 3 3 .MENU_TYPE_CHECKBOX name none)

/-- A directory that is entered: where it is another one, that is on record. -/
def move (dir : Option String) (s : State) : State :=
  match dir with
  | none => s
  | some dir => if dir = s.cwd then s else { s with cwd := dir, moves := s.moves ++ [dir] }

/-- A line without the newline at its end. -/
def chomp (cmd : String) : String :=
  if cmd.toList.getLast? = some '\n' then String.ofList cmd.toList.dropLast else cmd

def is_cd (cmd : String) : Bool := 3 < cmd.toList.length && cmd.toList.take 3 = ['c', 'd', ' ']

/-- What the console does with a line: only `cd` is not left to the shell. -/
def console_line (o : Outcomes) (s : State) (cmd : String) : State :=
  if is_cd cmd then move (o.chdir s.cwd (String.ofList ((chomp cmd).toList.drop 3))) s
  else { s with shell := s.shell ++ [chomp cmd] }

def run_console (o : Outcomes) (s : State) : State :=
  let left := o.console.foldl (console_line o) s
  move (o.chdir left.cwd "/") left

/-- One command for each entry of the clipboard, which is cleared then. -/
def use_clipboard (command : String → String) (s : State) : State :=
  { s with shell := s.shell ++ s.clipboard.map command, clipboard := [] }

def save_log (o : Outcomes) (s : State) : State :=
  { s with shell := s.shell ++ [
      "mkdir /mnt", "mkdir /mnt/sdcard", "mkdir /mnt/sdcard/steam", "mkdir /mnt/sdcard/steam/logs",
      "mkdir " ++ o.backup_path, "cp /tmp/*.log " ++ o.backup_path] }

/-- A row of the directory in the clipboard mode. -/
def toggle_entry (o : Outcomes) (chosen_item : Int) (me : MenuElement) (s : State) : State :=
  match o.realpath (s.path ++ "/" ++ text me) with
  | none => { s with oldchoice := chosen_item }
  | some xpath =>
    if me.id = 2 then
      let clipboard := removeclipboard s.clipboard xpath
      { s with clipboard := clipboard, oldchoice := if clipboard.length = 0 then chosen_item - 4 else chosen_item }
    else
      let clipboard := addclipboard s.clipboard xpath
      { s with clipboard := clipboard, oldchoice := if clipboard.length = 1 then chosen_item + 4 else chosen_item }

/-- A row of the directory otherwise: a directory is entered, and over a file there is a
    menu. -/
def open_entry (o : Outcomes) (me : MenuElement) (s : State) : State :=
  let npath := s.path ++ "/" ++ text me
  let xpath := (o.realpath npath).getD o.xpath
  match o.stat npath with
  | none => s
  | some true => { s with path := (o.realpath npath).getD npath }
  | some false =>
    if o.sel2 = 0 then { s with clipboard := addclipboard s.clipboard xpath }
    else if o.sel2 = 3 then { s with shell := s.shell ++ ["rm " ++ xpath] }
    else s

/-- What the file manager does with the row that was copied out. -/
def dispatch (o : Outcomes) (chosen_item : Int) (me : MenuElement) (before : State) : State :=
  let s := { before with oldchoice := 0 }
  if me.group_id = 1 then { s with multichoice := !s.multichoice, oldchoice := chosen_item }
  else if me.group_id = 4 then
    if me.id = 1 then run_console o (move (o.chdir s.cwd s.path) s)
    else if me.id = 2 then { s with shell := s.shell ++ o.partition_menu }
    else if me.id = 3 then save_log o s
    else s
  else if me.group_id = 5 then
    if me.id = 2 then use_clipboard (fun name => "cp -R " ++ name ++ " " ++ s.path) s
    else if me.id = 1 then use_clipboard (fun name => "mv " ++ name ++ " " ++ s.path) s
    else if me.id = 3 then use_clipboard (fun name => "rm -rf " ++ name) s
    else if me.id = 4 then { s with clipboard := [] }
    else s
  else if me.group_id = 3 then { s with clipboard := removeclipboard s.clipboard (text me) }
  else if me.group_id = 2 then
    if s.multichoice = true ∧ me.id ≠ 0 then toggle_entry o chosen_item me s else open_entry o me s
  else s

/-- One pass of the loop: the state at its end, and whether the loop is left. -/
def pass (o : Outcomes) (listing : List Entry) (ui : Ui) (events : List Event) (s : State) : Option (State × Bool) :=
  (get_menu_selection_ext ui (menu_rows s listing) s.oldchoice events).map fun (chosen_item, me) =>
    (dispatch o chosen_item me s, chosen_item = GO_BACK)

/-- A pass with everything that comes from outside. -/
structure Visit where
  o : Outcomes
  listing : List Entry
  ui : Ui
  events : List Event

/-- The state behind the passes, and whether the loop was left. The clipboard is freed
    then. -/
def file_manager (s : State) : List Visit → State × Bool
  | [] => (s, false)
  | v :: rest =>
    match pass v.o v.listing v.ui v.events s with
    | none => (s, false)
    | some (after, true) => ({ after with clipboard := [] }, true)
    | some (after, false) => file_manager after rest

/-! ### Going back -/

/-- No command was run, and the directories, the mode and the clipboard are the same. -/
structure Untouched (before after : State) : Prop where
  path : after.path = before.path
  cwd : after.cwd = before.cwd
  moves : after.moves = before.moves
  multichoice : after.multichoice = before.multichoice
  clipboard : after.clipboard = before.clipboard
  shell : after.shell = before.shell

/-- The working directory stays the same when the path is entered. -/
def Stays (o : Outcomes) (cwd path : String) : Prop := o.chdir cwd path = none ∨ o.chdir cwd path = some cwd

/-- A line of the console that does nothing. -/
def Idle (o : Outcomes) (cwd cmd : String) : Prop :=
  is_cd cmd = true ∧ Stays o cwd (String.ofList ((chomp cmd).toList.drop 3))

/-- The console changes nothing: it is started in the working directory, no line does
    anything, and it ends there. -/
def ConsoleHarmless (o : Outcomes) (s : State) : Prop :=
  Stays o s.cwd s.path ∧ (∀ cmd ∈ o.console, Idle o s.cwd cmd) ∧ Stays o s.cwd "/"

/-- A row of the directory that changes nothing in the clipboard mode: the path has gone,
    or is in the clipboard already, or not in it any more. -/
def ToggleHarmless (o : Outcomes) (s : State) (me : MenuElement) : Prop :=
  ∀ xpath, o.realpath (s.path ++ "/" ++ text me) = some xpath → (me.id = 2 ↔ xpath ∉ s.clipboard)

/-- A row of the directory that changes nothing otherwise: the path has gone, or is the
    directory itself, or a file that is neither removed nor added to the clipboard. -/
def OpenHarmless (o : Outcomes) (s : State) (me : MenuElement) : Prop :=
  match o.stat (s.path ++ "/" ++ text me) with
  | none => True
  | some true => (o.realpath (s.path ++ "/" ++ text me)).getD (s.path ++ "/" ++ text me) = s.path
  | some false =>
    o.sel2 ≠ 3 ∧ (o.sel2 = 0 → (o.realpath (s.path ++ "/" ++ text me)).getD o.xpath ∈ s.clipboard)

/-- A row that does nothing: the console or the partition menu, where nothing is done in
    them, or a row of the directory that changes nothing. -/
def Harmless (o : Outcomes) (s : State) (me : MenuElement) : Prop :=
  (me.group_id = 4 ∧ me.id = 1 ∧ ConsoleHarmless o s) ∨
  (me.group_id = 4 ∧ me.id = 2 ∧ o.partition_menu = []) ∨
  (me.group_id = 2 ∧ s.multichoice = true ∧ me.id ≠ 0 ∧ ToggleHarmless o s me) ∨
  (me.group_id = 2 ∧ ¬ (s.multichoice = true ∧ me.id ≠ 0) ∧ OpenHarmless o s me)

theorem untouched_refl (s : State) : Untouched s s := ⟨rfl, rfl, rfl, rfl, rfl, rfl⟩

theorem untouched_choice {s after : State} {choice : Int} :
    Untouched { s with oldchoice := choice } after ↔ Untouched s after := by
  constructor
  · rintro ⟨path, cwd, moves, multichoice, clipboard, shell⟩
    exact ⟨path, cwd, moves, multichoice, clipboard, shell⟩
  · rintro ⟨path, cwd, moves, multichoice, clipboard, shell⟩
    exact ⟨path, cwd, moves, multichoice, clipboard, shell⟩

/-! #### The console -/

/-- How much was done outside of the menu. -/
def acts (s : State) : Nat := s.shell.length + s.moves.length

theorem untouched_acts {s after : State} (untouched : Untouched s after) : acts after = acts s := by
  unfold acts
  rw [untouched.shell, untouched.moves]

section
variable {Line : Type} {step : State → Line → State}

theorem grows_le {s after : State} (grown : after = s ∨ acts s < acts after) : acts s ≤ acts after := by
  rcases grown with still | longer
  · exact Nat.le_of_eq (congrArg acts still.symm)
  · exact Nat.le_of_lt longer

/-- Where every step does nothing or adds to what was done, so does a run. -/
theorem foldl_grows (grows : ∀ s line, step s line = s ∨ acts s < acts (step s line)) (lines : List Line) (s : State) :
    lines.foldl step s = s ∨ acts s < acts (lines.foldl step s) := by
  induction lines generalizing s with
  | nil => exact .inl rfl
  | cons line lines ih =>
    rw [List.foldl_cons]
    rcases grows s line with still | longer
    · rw [still]
      exact ih s
    · right
      rcases ih (step s line) with still | later
      · rw [still]
        exact longer
      · exact Nat.lt_trans longer later

theorem foldl_same (grows : ∀ s line, step s line = s ∨ acts s < acts (step s line)) (lines : List Line) (s : State) :
    lines.foldl step s = s ↔ ∀ line ∈ lines, step s line = s := by
  induction lines generalizing s with
  | nil => simp
  | cons line lines ih =>
    rw [List.foldl_cons, List.forall_mem_cons]
    rcases grows s line with still | longer
    · rw [still, ih s, and_iff_right rfl]
    · have moved : step s line ≠ s := by
        intro still
        rw [still] at longer
        exact Nat.lt_irrefl _ longer
      have later : lines.foldl step (step s line) ≠ s := by
        intro same
        rcases foldl_grows grows lines (step s line) with still | further
        · exact moved (still.symm.trans same)
        · rw [same] at further
          omega
      simp only [moved, later, false_and]

end

theorem move_same {o : Outcomes} {s : State} {path : String} :
    move (o.chdir s.cwd path) s = s ↔ Stays o s.cwd path := by
  unfold move Stays
  cases o.chdir s.cwd path with
  | none => simp
  | some dir =>
    by_cases here : dir = s.cwd
    · simp [here]
    · simp only [reduceCtorEq, Option.some.injEq, here, or_self, iff_false]
      intro same
      exact here (congrArg State.cwd same)

theorem move_grows (dir : Option String) (s : State) : move dir s = s ∨ acts s < acts (move dir s) := by
  cases dir with
  | none => exact .inl rfl
  | some dir =>
    by_cases here : dir = s.cwd
    · exact .inl (if_pos here)
    · right
      simp only [move, if_neg here, acts, List.length_append, List.length_singleton]
      omega

theorem line_grows (o : Outcomes) (s : State) (cmd : String) :
    console_line o s cmd = s ∨ acts s < acts (console_line o s cmd) := by
  unfold console_line
  split
  · exact move_grows _ s
  · right
    simp only [acts, List.length_append, List.length_singleton]
    omega

theorem line_same {o : Outcomes} {s : State} {cmd : String} : console_line o s cmd = s ↔ Idle o s.cwd cmd := by
  unfold console_line Idle
  by_cases cd : is_cd cmd = true
  · rw [if_pos cd, move_same, and_iff_right cd]
  · have longer : ({ s with shell := s.shell ++ [chomp cmd] } : State) ≠ s := by
      intro same
      have shell := congrArg (fun s => s.shell.length) same
      simp at shell
    rw [if_neg cd]
    exact iff_of_false longer fun idle => cd idle.1

theorem console_untouched (o : Outcomes) (s : State) :
    Untouched s (run_console o (move (o.chdir s.cwd s.path) s)) ↔ ConsoleHarmless o s := by
  unfold run_console ConsoleHarmless
  constructor
  · intro untouched
    have total := untouched_acts untouched
    simp only at total
    -- Nothing that is done is undone: each of the three parts has to do nothing.
    have starts := move_grows (o.chdir s.cwd s.path) s
    have runs := foldl_grows (line_grows o) o.console (move (o.chdir s.cwd s.path) s)
    have ends := move_grows (o.chdir (o.console.foldl (console_line o) (move (o.chdir s.cwd s.path) s)).cwd "/")
      (o.console.foldl (console_line o) (move (o.chdir s.cwd s.path) s))
    have runs_on := grows_le runs
    have ends_on := grows_le ends
    have started := starts.resolve_right (by omega)
    rw [started] at runs ends total ends_on
    have ran := runs.resolve_right (by omega)
    rw [ran] at ends total
    have ended := ends.resolve_right (by omega)
    have idle := (foldl_same (line_grows o) o.console s).mp ran
    exact ⟨move_same.mp started, fun cmd entered => line_same.mp (idle cmd entered), move_same.mp ended⟩
  · rintro ⟨started, idle, ended⟩
    have still : o.console.foldl (console_line o) s = s :=
      (foldl_same (line_grows o) o.console s).mpr fun cmd entered => line_same.mpr (idle cmd entered)
    rw [move_same.mpr started, still]
    show Untouched s (move (o.chdir s.cwd "/") s)
    rw [move_same.mpr ended]
    exact untouched_refl s

theorem clipboard_untouched {s : State} {clipboard : List String} {choice : Int} :
    Untouched s { s with clipboard := clipboard, oldchoice := choice } ↔ clipboard = s.clipboard := by
  constructor
  · intro untouched
    exact untouched.clipboard
  · intro same
    exact ⟨rfl, rfl, rfl, rfl, same, rfl⟩

theorem shell_untouched {s : State} {commands : List String} :
    Untouched s { s with shell := s.shell ++ commands } ↔ commands = [] := by
  constructor
  · intro untouched
    exact List.append_right_eq_self.mp untouched.shell
  · rintro rfl
    exact ⟨rfl, rfl, rfl, rfl, rfl, List.append_nil _⟩

theorem toggle_untouched (o : Outcomes) (chosen_item : Int) (me : MenuElement) (s : State) :
    Untouched s (toggle_entry o chosen_item me s) ↔ ToggleHarmless o s me := by
  unfold toggle_entry ToggleHarmless
  cases found : o.realpath (s.path ++ "/" ++ text me) with
  | none => simpa using untouched_choice.mp (untouched_refl _)
  | some xpath =>
    by_cases marked : me.id = 2
    · simp only [marked, reduceIte, clipboard_untouched, removeclipboard_same, Option.some.injEq, forall_eq', true_iff]
    · simp only [marked, reduceIte, clipboard_untouched, addclipboard_same, Option.some.injEq, forall_eq', false_iff,
        not_not]

theorem open_untouched (o : Outcomes) (me : MenuElement) (s : State) :
    Untouched s (open_entry o me s) ↔ OpenHarmless o s me := by
  unfold open_entry OpenHarmless
  dsimp only
  cases o.stat (s.path ++ "/" ++ text me) with
  | none => exact iff_of_true (untouched_refl s) trivial
  | some directory =>
    cases directory with
    | true =>
      constructor
      · intro untouched
        exact untouched.path
      · intro same
        exact ⟨same, rfl, rfl, rfl, rfl, rfl⟩
    | false =>
      by_cases adds : o.sel2 = 0
      · have keeps : o.sel2 ≠ 3 := by omega
        have added := @clipboard_untouched s
          (addclipboard s.clipboard ((o.realpath (s.path ++ "/" ++ text me)).getD o.xpath)) s.oldchoice
        rw [addclipboard_same] at added
        simpa [adds] using added
      · by_cases removes : o.sel2 = 3
        · simp [removes, shell_untouched]
        · simp [adds, removes, untouched_refl]

theorem entry_row_group {s : State} {entry : Entry} {me : MenuElement} (shown : entry_row s entry = some me) :
    me.group_id = 2 := by
  unfold entry_row at shown
  split at shown
  · cases shown
  split at shown
  · cases shown
    rfl
  · cases shown

/-- There is always a row to rest on. -/
theorem some_menu_row (s : State) (listing : List Entry) : ∃ el ∈ menu_rows s listing, is_header el = false :=
  ⟨ui_add_menu 1 4 .MENU_TYPE_ELEMENT "Run console" (some console_help), by simp [menu_rows], rfl⟩

/-- The rows that can be highlighted. -/
theorem menu_row_cases {s : State} {listing : List Entry} {me : MenuElement} (row : me ∈ menu_rows s listing)
    (no_header : is_header me = false) :
    me.group_id = 1 ∨ (me.group_id = 4 ∧ (me.id = 1 ∨ me.id = 2 ∨ me.id = 3)) ∨
      (me.group_id = 5 ∧ s.clipboard ≠ [] ∧ (me.id = 1 ∨ me.id = 2 ∨ me.id = 3 ∨ me.id = 4)) ∨
      (me.group_id = 3 ∧ text me ∈ s.clipboard) ∨ me.group_id = 2 := by
  have header : ∀ type text, (type = .MENU_TYPE_GLOBAL_HEADER ∨ type = .MENU_TYPE_GROUP_HEADER) →
      me ≠ ui_add_menu 0 0 type text none := by
    rintro type text (rfl | rfl) rfl <;> cases no_header
  unfold menu_rows at row
  rcases List.mem_append.mp row with row | row
  · rcases List.mem_append.mp row with row | row
    · rcases List.mem_append.mp row with row | row
      · rcases List.mem_append.mp row with row | row
        · simp only [List.mem_cons, List.not_mem_nil, or_false] at row
          rcases row with row | row | rfl | rfl | rfl | rfl
          · exact absurd row (header _ _ (.inl rfl))
          · exact absurd row (header _ _ (.inr rfl))
          · simp
          · simp
          · simp
          · simp
        · split at row
          · cases row
          · rename_i filled
            simp only [List.mem_cons, List.not_mem_nil, or_false] at row
            rcases row with rfl | rfl | rfl | rfl <;> simp [filled]
      · simp only [List.mem_cons, List.not_mem_nil, or_false] at row
        rcases row with row | rfl
        · exact absurd row (header _ _ (.inr rfl))
        · simp
    · obtain ⟨entry, _, shown⟩ := List.mem_filterMap.mp row
      simp [entry_row_group shown]
  · split at row
    · cases row
    · rcases List.mem_cons.mp row with row | row
      · exact absurd row (header _ _ (.inr rfl))
      · obtain ⟨name, listed, rfl⟩ := List.mem_map.mp row
        simp [listed]

/-! #### The result -/

section
variable {o : Outcomes} {s : State} {me : MenuElement} {chosen_item : Int}

theorem dispatch_console (command : me.group_id = 4) (console : me.id = 1) :
    dispatch o chosen_item me s = run_console o (move (o.chdir s.cwd s.path) { s with oldchoice := 0 }) := by
  simp [dispatch, command, console]

theorem dispatch_partitions (command : me.group_id = 4) (partitions : me.id = 2) :
    dispatch o chosen_item me s = { s with oldchoice := 0, shell := s.shell ++ o.partition_menu } := by
  simp [dispatch, command, partitions]

theorem dispatch_clipped (clip : me.group_id = 3) :
    dispatch o chosen_item me s =
      { s with oldchoice := 0, clipboard := removeclipboard s.clipboard (text me) } := by
  simp [dispatch, clip]

theorem dispatch_entry (file : me.group_id = 2) :
    dispatch o chosen_item me s =
      if s.multichoice = true ∧ me.id ≠ 0 then toggle_entry o chosen_item me { s with oldchoice := 0 }
      else open_entry o me { s with oldchoice := 0 } := by
  simp [dispatch, file]

end

theorem dispatch_untouched {o : Outcomes} {s : State} {listing : List Entry} {me : MenuElement} (chosen_item : Int)
    (row : me ∈ menu_rows s listing) (no_header : is_header me = false) :
    Untouched s (dispatch o chosen_item me s) ↔ Harmless o s me := by
  unfold Harmless
  rcases menu_row_cases row no_header with mode | ⟨command, id⟩ | ⟨clip, filled, id⟩ | ⟨clip, listed⟩ | file
  · have toggled : ¬ Untouched s (dispatch o chosen_item me s) := by
      intro untouched
      have same := untouched.multichoice
      simp [dispatch, mode] at same
    simp [mode, toggled]
  · rcases id with console | partitions | log
    · have same : Untouched s (dispatch o chosen_item me s) ↔ ConsoleHarmless o s := by
        rw [dispatch_console command console]
        exact untouched_choice.symm.trans (console_untouched o { s with oldchoice := 0 })
      simp [command, console, same]
    · have same : Untouched s (dispatch o chosen_item me s) ↔ o.partition_menu = [] := by
        rw [dispatch_partitions command partitions]
        exact untouched_choice.symm.trans (@shell_untouched { s with oldchoice := 0 } o.partition_menu)
      simp [command, partitions, same]
    · have saved : ¬ Untouched s (dispatch o chosen_item me s) := by
        intro untouched
        have same := untouched.shell
        simp [dispatch, command, log, save_log] at same
      simp [command, log, saved]
  · have used : ¬ Untouched s (dispatch o chosen_item me s) := by
      intro untouched
      have same := untouched.clipboard
      rcases id with id | id | id | id <;> simp [dispatch, clip, id, use_clipboard] at same <;>
        exact filled same
    simp [clip, used]
  · have removed : ¬ Untouched s (dispatch o chosen_item me s) := by
      intro untouched
      have same := untouched.clipboard
      rw [dispatch_clipped clip] at same
      exact (removeclipboard_same s.clipboard (text me)).mp same listed
    simp [clip, removed]
  · by_cases toggles : s.multichoice = true ∧ me.id ≠ 0
    · have same : Untouched s (dispatch o chosen_item me s) ↔ ToggleHarmless o s me := by
        rw [dispatch_entry file, if_pos toggles]
        exact untouched_choice.symm.trans (toggle_untouched o chosen_item me { s with oldchoice := 0 })
      simp [file, toggles, same]
    · have same : Untouched s (dispatch o chosen_item me s) ↔ OpenHarmless o s me := by
        rw [dispatch_entry file, if_neg toggles]
        exact untouched_choice.symm.trans (open_untouched o me { s with oldchoice := 0 })
      rw [same]
      simp [file, toggles, ← and_assoc]

section
variable {o : Outcomes} {s : State} {listing : List Entry} {ui : Ui} {me : MenuElement} {events : List Event}

/-- Going back leaves the loop behind what the row does. -/
theorem pass_back
    (back : get_menu_selection_ext ui (menu_rows s listing) s.oldchoice events = some (GO_BACK, me)) :
    pass o listing ui events s = some (dispatch o GO_BACK me s, true) := by
  unfold pass
  rw [back]
  rfl

/-- On a row that does nothing the file manager is left with everything as it was, but for
    the clipboard, which is freed. -/
theorem file_manager_back
    (back : get_menu_selection_ext ui (menu_rows s listing) s.oldchoice events = some (GO_BACK, me))
    (harmless : Harmless o s me) (rest : List Visit) :
    ∃ left, file_manager s (⟨o, listing, ui, events⟩ :: rest) = (left, true) ∧ Untouched { s with clipboard := [] } left := by
  obtain ⟨row, no_header⟩ := selection_row (some_menu_row s listing) back
  have untouched := (dispatch_untouched GO_BACK row no_header).mpr harmless
  refine ⟨{ dispatch o GO_BACK me s with clipboard := [] }, ?_, ?_⟩
  · show (match pass o listing ui events s with
      | none => (s, false)
      | some (after, true) => ({ after with clipboard := [] }, true)
      | some (after, false) => file_manager after rest) = _
    rw [pass_back back]
  · exact ⟨untouched.path, untouched.cwd, untouched.moves, untouched.multichoice, rfl, untouched.shell⟩

/-- Going back leaves the loop without having done anything exactly where the row that is
    highlighted does nothing. -/
theorem go_back_does_nothing_iff
    (back : get_menu_selection_ext ui (menu_rows s listing) s.oldchoice events = some (GO_BACK, me)) :
    (∃ after, pass o listing ui events s = some (after, true) ∧ Untouched s after) ↔ Harmless o s me := by
  obtain ⟨row, no_header⟩ := selection_row (some_menu_row s listing) back
  rw [pass_back back, ← dispatch_untouched GO_BACK row no_header]
  constructor
  · rintro ⟨after, same, untouched⟩
    cases same
    exact untouched
  · intro untouched
    exact ⟨_, rfl, untouched⟩

end

/-- No file is there, and the console is left at once. -/
def nothing : Outcomes where
  realpath _ := none
  stat _ := none
  xpath := ""
  chdir _ dir := some dir
  console := []
  partition_menu := []
  backup_path := ""
  sel2 := GO_BACK

/-- Where the file manager starts. -/
def at_root : State := ⟨"/", "/", [], false, [], 0, []⟩

/-- The screen before the menu. -/
def no_menu : Ui := ⟨[], 0, false, true, 0, Menus.INT_MAX, false, 480⟩

/-- A key, and the steps that handle it. -/
def pressed (key_code : Nat) : List Event := [.key key_code, .main, .main, .main]

/-- The way down, and the key that goes back. -/
def down_and_back (rows : Nat) : List Event :=
  .main :: ((List.replicate rows (pressed Menus.KEY_DEVICE_VOLUP)).flatten ++ pressed Menus.KEY_DEVICE_BACK)

/-- Going back on the console does nothing where nothing is entered there. -/
theorem go_back_on_console :
    ∃ after, pass nothing [] no_menu (down_and_back 1) at_root = some (after, true) ∧ Untouched at_root after := by
  have back : get_menu_selection_ext no_menu (menu_rows at_root []) at_root.oldchoice (down_and_back 1) =
      some (GO_BACK, ui_add_menu 1 4 .MENU_TYPE_ELEMENT "Run console" (some console_help)) := by
    rfl
  refine (go_back_does_nothing_iff back).mpr (.inl ⟨rfl, rfl, .inr rfl, ?_, .inr rfl⟩)
  intro cmd entered
  cases entered

def data_marked : State := ⟨"/", "/", [], false, ["/data"], 0, []⟩

/-- Going back on the row that deletes the files in the clipboard deletes them. -/
theorem go_back_deletes :
    get_menu_selection_ext no_menu (menu_rows data_marked []) data_marked.oldchoice (down_and_back 6) =
        some (GO_BACK, ui_add_menu 3 5 .MENU_TYPE_ELEMENT "Delete files in clipboard" none) ∧
      ∃ after, pass nothing [] no_menu (down_and_back 6) data_marked = some (after, true) ∧
        after.shell = ["rm -rf /data"] ∧ ¬ Untouched data_marked after := by
  refine ⟨rfl, _, rfl, by decide, ?_⟩
  intro untouched
  have same := untouched.shell
  revert same
  decide

end SteamRecovery.FileManager
