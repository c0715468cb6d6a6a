import SteamRecovery.ConfigFiles
import SteamRecovery.FsReformat

/-!
The boot options (`tweak_menu` in `steamext.c`). Every round reads the settings from the
configuration, and every row that is chosen writes to it. Behind a session, a setting with
radio buttons has what the last row of it that was chosen stands for (`session_radio`), a
box is flipped as often as it was chosen (`session_box`), and the keys of a setting of
which no row was chosen are as they were (`session_untouched`).
-/
namespace SteamRecovery.TweakMenu
open SteamRecovery.Devices (CInt)
open SteamRecovery.Config
open SteamRecovery.ConfigFiles
open SteamRecovery.Menus (MenuType)
open SteamRecovery.FsReformat (Row)

/-- What a round reads. -/
structure Tweaks where
  adbboot : CInt
  adbroot : CInt
  bootlog : CInt
  bootanim : CInt
  iosched : CInt
  kernelvm : CInt
  kernelsched : CInt
  misc : CInt
  sysrw : CInt

/-- `if (get_conf(key,value) && sscanf(value,"%d",&n)==1) {} else n = otherwise;` -/
def read_int (conf : Conf) (key : String) (otherwise : CInt) : CInt := ((get_conf conf key).bind sscanf_d).getD otherwise

def load (conf : Conf) : Tweaks where
  adbboot := read_int conf "adb.boot" 0
  adbroot := read_int conf "adb.root" 0
  bootlog :=
    if get_conf_def conf "preinit.graphics" "0" = "1" then 2
    else if get_conf_def conf "preinit.recovery.graphics" "0" = "1" then 1
    else 0
  bootanim := read_int conf "init.bootanim" 1
  iosched := read_int conf "tweaks.iosched" 0
  kernelvm := read_int conf "tweaks.kernelvm" 0
  kernelsched := read_int conf "tweaks.kernelsched" 0
  misc := read_int conf "tweaks.misc" 0
  sysrw := read_int conf "fs.system.ro" 1

/-- `ui_add_menu(value+first,group_id,MENU_TYPE_RADIOBOX,text,help)` -/
def radio_row (value first : CInt) (group_id : Int) (text : String) : Row :=
  ⟨(value + first).toInt, group_id, .MENU_TYPE_RADIOBOX, text⟩

/-- `ui_add_menu(value*group_id,group_id,MENU_TYPE_CHECKBOX,text,help)` -/
def box_row (value : CInt) (group_id : Int) (text : String) : Row :=
  ⟨(value * BitVec.ofInt 32 group_id).toInt, group_id, .MENU_TYPE_CHECKBOX, text⟩

def header (text : String) : Row := ⟨0, 0, .MENU_TYPE_GROUP_HEADER, text⟩

def menu_rows (t : Tweaks) : List Row := [
  ⟨0, 0, .MENU_TYPE_GLOBAL_HEADER, "Boot options"⟩,
  header "ADB startup settings",
  radio_row t.adbboot 1 1 "Default settings",
  radio_row t.adbboot 1 2 "Always enable ADB in recovery",
  radio_row t.adbboot 1 3 "Always enable ADB",
  header "ADB security settings",
  radio_row t.adbroot 4 4 "Don't allow ADB to be run as root",
  radio_row t.adbroot 4 5 "Run ADB as root during recovery",
  radio_row t.adbroot 4 6 "Allow ADB to be switched to root",
  radio_row t.adbroot 4 7 "Always run ADB as root",
  header "Boot logging settings",
  radio_row t.bootlog 8 8 "Don't display logs at boot",
  radio_row t.bootlog 8 9 "Only display in recovery mode",
  radio_row t.bootlog 8 10 "Always display logs",
  header "Boot animation settings",
  radio_row t.bootanim 11 11 "Log display",
  radio_row t.bootanim 11 12 "Samsung's boot animation",
  radio_row t.bootanim 11 13 "Android boot animation",
  header "Startup Tweaks",
  box_row t.iosched 16 "IO scheduler",
  box_row t.kernelvm 17 "Kernel VM management",
  box_row t.kernelsched 18 "Kernel scheduler",
  box_row t.misc 19 "Misc tweaks",
  box_row t.sysrw 20 "Mount /system read-only"]

/-- `n = n?0:1; sprintf(value,"%d",n);` -/
def flipped (n : CInt) : String := sprintf_d (if n ≠ 0 then 0 else 1)

/-- The calls of `set_conf` for a row that was chosen. -/
def calls (t : Tweaks) (group_id : Int) : List (String × String) :=
  (if 1 ≤ group_id ∧ group_id ≤ 3 then [("adb.boot", sprintf_d (BitVec.ofInt 32 (group_id - 1)))] else []) ++
  (if 4 ≤ group_id ∧ group_id ≤ 7 then [("adb.root", sprintf_d (BitVec.ofInt 32 (group_id - 4)))] else []) ++
  (if 8 ≤ group_id ∧ group_id ≤ 10 then
    if group_id = 8 then [("preinit.recovery.graphics", "0"), ("preinit.graphics", "0")]
    else if group_id = 9 then [("preinit.recovery.graphics", "1"), ("preinit.graphics", "0")]
    else if group_id = 10 then [("preinit.recovery.graphics", "1"), ("preinit.graphics", "1")]
    else []
  else []) ++
  (if 11 ≤ group_id ∧ group_id ≤ 13 then
    if group_id = 11 then [("init.bootanim", "0"), ("earlyinit.graphics", "1")]
    else if group_id = 12 then [("init.bootanim", "1"), ("earlyinit.graphics", "0")]
    else if group_id = 13 then [("init.bootanim", "2"), ("earlyinit.graphics", "0")]
    else []
  else []) ++
  (if group_id = 16 then [("tweaks.iosched", flipped t.iosched)] else []) ++
  (if group_id = 17 then [("tweaks.kernelvm", flipped t.kernelvm)] else []) ++
  (if group_id = 18 then [("tweaks.kernelsched", flipped t.kernelsched)] else []) ++
  (if group_id = 19 then [("tweaks.misc", flipped t.misc)] else []) ++
  (if group_id = 20 then [("fs.system.ro", flipped t.sysrw)] else [])

def write (conf : Conf) (calls : List (String × String)) : Conf :=
  calls.foldl (fun conf call => set_conf conf call.1 (some call.2)) conf

/-- The rounds of the menu, until the user goes back. -/
def tweak_menu (conf : Conf) : List Nat → Option Conf
  | [] => some conf
  | chosen_item :: rest =>
    match (menu_rows (load conf))[chosen_item]? with
    | none => none
    | some me =>
      if me.type = .MENU_TYPE_GLOBAL_HEADER ∨ me.type = .MENU_TYPE_GROUP_HEADER then none
      else tweak_menu (write conf (calls (load conf) me.group_id)) rest

/-- A row is drawn with a mark in its box. -/
def ticked (conf : Conf) (group_id : Int) : Bool :=
  (menu_rows (load conf)).any fun me => me.group_id = group_id && me.id = me.group_id

/-! ### Settings -/

inductive Setting where
  | adbboot
  | adbroot
  | bootlog
  | bootanim
  | iosched
  | kernelvm
  | kernelsched
  | misc
  | sysrw
  deriving DecidableEq

/-- The rows of a setting. -/
def Setting.rows : Setting → List Int
  | adbboot => [1, 2, 3]
  | adbroot => [4, 5, 6, 7]
  | bootlog => [8, 9, 10]
  | bootanim => [11, 12, 13]
  | iosched => [16]
  | kernelvm => [17]
  | kernelsched => [18]
  | misc => [19]
  | sysrw => [20]

def Setting.keys : Setting → List String
  | adbboot => ["adb.boot"]
  | adbroot => ["adb.root"]
  | bootlog => ["preinit.recovery.graphics", "preinit.graphics"]
  | bootanim => ["init.bootanim", "earlyinit.graphics"]
  | iosched => ["tweaks.iosched"]
  | kernelvm => ["tweaks.kernelvm"]
  | kernelsched => ["tweaks.kernelsched"]
  | misc => ["tweaks.misc"]
  | sysrw => ["fs.system.ro"]

def Setting.value (t : Tweaks) : Setting → CInt
  | adbboot => t.adbboot
  | adbroot => t.adbroot
  | bootlog => t.bootlog
  | bootanim => t.bootanim
  | iosched => t.iosched
  | kernelvm => t.kernelvm
  | kernelsched => t.kernelsched
  | misc => t.misc
  | sysrw => t.sysrw

def radios : List Setting := [.adbboot, .adbroot, .bootlog, .bootanim]

def boxes : List Setting := [.iosched, .kernelvm, .kernelsched, .misc, .sysrw]

/-- The group ids of the rows, which no setting changes. -/
def groups : List Int := [0, 0, 1, 2, 3, 0, 4, 5, 6, 7, 0, 8, 9, 10, 0, 11, 12, 13, 0, 16, 17, 18, 19, 20]

/-- The rows that a session chooses. -/
def chosen (choices : List Nat) : List Int := choices.map fun chosen_item => (groups[chosen_item]?).getD 0

/-- The configuration behind one row. -/
def press (conf : Conf) (group_id : Int) : Conf := write conf (calls (load conf) group_id)

/-- A configuration in memory that is also the one in the file. -/
structure Saved (conf : Conf) : Prop where
  stored : conf.entries ≠ []
  present : conf.system_file ≠ none
  writable : conf.writable = true
  plain : AllPlain conf
  reloads : (init_conf conf).1.entries = conf.entries

/-- What `init_conf` loads is saved. -/
theorem saved_loaded {conf : Conf} (present : conf.system_file ≠ none) (writable : conf.writable = true)
    (stored : (init_conf conf).1.entries ≠ []) : Saved (init_conf conf).1 :=
  ⟨stored, present, writable, init_conf_plain conf, rfl⟩

section
variable {conf conf' : Conf} {s : Setting} {t : Tweaks} {g : Int} {key : String} {list : List (String × String)}

theorem Saved.set (saved : Saved conf) (plain_key : PlainKey key) {value : String} (plain_value : PlainValue value) :
    Saved (set_conf conf key (some value)) := by
  have plain : AllPlain (set_conf conf key (some value)) :=
    set_conf_plain saved.plain plain_key fun v same => by cases same; exact plain_value
  refine ⟨write_entries_nonempty key value saved.stored, ?_, saved.writable, plain, ?_⟩
  · rw [ne_eq, set_conf_missing]
    exact saved.present
  · exact load_saved plain (set_conf_saved saved.present saved.writable key (some value))

theorem write_saved (saved : Saved conf) (plain : ∀ call ∈ list, PlainKey call.1 ∧ PlainValue call.2) :
    Saved (write conf list) := by
  induction list generalizing conf with
  | nil => exact saved
  | cons call rest ih =>
    obtain ⟨⟨plain_key, plain_value⟩, others⟩ := List.forall_mem_cons.mp plain
    exact ih (saved.set plain_key plain_value) others

theorem write_other (other : key ∉ list.map Prod.fst) : get_conf (write conf list) key = get_conf conf key := by
  induction list generalizing conf with
  | nil => rfl
  | cons call rest ih =>
    rw [List.map_cons, List.mem_cons, not_or] at other
    rw [write, List.foldl_cons, ← write, ih other.2, get_conf_set_other conf other.1]

theorem write_self (stored : conf.entries ≠ []) (distinct : (list.map Prod.fst).Nodup) {call : String × String}
    (member : call ∈ list) : get_conf (write conf list) call.1 = some call.2 := by
  induction list generalizing conf with
  | nil => cases member
  | cons first rest ih =>
    rw [List.map_cons, List.nodup_cons] at distinct
    rw [write, List.foldl_cons, ← write]
    rcases List.mem_cons.mp member with rfl | later
    · rw [write_other distinct.1, get_conf_set_self stored]
    · exact ih (write_entries_nonempty _ _ stored) distinct.2 later

/-! ### One row -/

theorem call_keys (member : g ∈ s.rows) : (calls t g).map Prod.fst = s.keys := by
  cases s <;> simp only [Setting.rows, List.mem_cons, List.not_mem_nil, or_false] at member <;>
    (obtain rfl | rfl | rfl | rfl := member) <;> rfl

theorem keys_distinct (s : Setting) : s.keys.Nodup := by
  cases s <;> decide

theorem settings_apart {other : Setting} (apart : s ≠ other) (member : key ∈ other.keys) : key ∉ s.keys := by
  have disjoint : ∀ key ∈ other.keys, key ∉ s.keys := by
    revert apart
    cases s <;> cases other <;> decide
  exact disjoint key member

theorem rows_apart {other : Setting} (member : g ∈ s.rows) (member' : g ∈ other.rows) : s = other := by
  have disjoint : ∀ g ∈ s.rows, g ∈ other.rows → s = other := by
    cases s <;> cases other <;> decide
  exact disjoint g member member'

/-- What a row with a radio button writes does not depend on the configuration. -/
theorem radio_calls (radio : s ∈ radios) (member : g ∈ s.rows) (t' : Tweaks) : calls t g = calls t' g := by
  have each : ∀ s ∈ radios, ∀ g ∈ s.rows, calls t g = calls t' g := by simp [radios, Setting.rows, calls]
  exact each s radio g member

/-- A row with a box writes the flipped value. -/
theorem box_calls (box : s ∈ boxes) (member : g ∈ s.rows) (keys : s.keys = [key]) :
    calls t g = [(key, flipped (s.value t))] := by
  have each : ∀ s ∈ boxes, ∀ g ∈ s.rows, ∀ key ∈ s.keys, calls t g = [(key, flipped (s.value t))] := by
    simp [boxes, Setting.rows, Setting.keys, Setting.value, calls]
  exact each s box g member key (by rw [keys]; exact List.mem_singleton_self key)

/-- A box shows what is under its one key. -/
theorem box_reads (box : s ∈ boxes) : ∃ key otherwise, s.keys = [key] ∧ ∀ conf, s.value (load conf) = read_int conf key otherwise := by
  have each : ∀ s ∈ boxes, ∃ key otherwise, s.keys = [key] ∧ ∀ conf, s.value (load conf) = read_int conf key otherwise := by
    simp only [boxes, Setting.keys, Setting.value, load, List.forall_mem_cons]
    exact ⟨⟨_, _, rfl, fun _ => rfl⟩, ⟨_, _, rfl, fun _ => rfl⟩, ⟨_, _, rfl, fun _ => rfl⟩, ⟨_, _, rfl, fun _ => rfl⟩,
      ⟨_, _, rfl, fun _ => rfl⟩, by simp⟩
  exact each s box

theorem read_int_sprintf {n : CInt} (found : get_conf conf key = some (sprintf_d n)) (otherwise : CInt) :
    read_int conf key otherwise = n := by
  rw [read_int, found, Option.bind_some, sscanf_sprintf, Option.getD_some]

/-- The number that the row is drawn with. -/
def Setting.mark (t : Tweaks) (g : Int) : Setting → CInt
  | adbboot => t.adbboot + 1
  | adbroot => t.adbroot + 4
  | bootlog => t.bootlog + 8
  | bootanim => t.bootanim + 11
  | s => s.value t * BitVec.ofInt 32 g

theorem ticked_row (conf : Conf) (member : g ∈ s.rows) : ticked conf g = decide ((s.mark (load conf) g).toInt = g) := by
  cases s <;> simp only [Setting.rows, List.mem_cons, List.not_mem_nil, or_false] at member <;>
    (obtain rfl | rfl | rfl | rfl := member) <;>
    simp [ticked, menu_rows, radio_row, box_row, header, Setting.mark, Setting.value]

theorem radio_or_box (s : Setting) : s ∈ radios ∨ s ∈ boxes := by
  cases s <;> decide

theorem call_digit {call : String × String} (member : g ∈ s.rows) (called : call ∈ calls t g) :
    call.2 ∈ ["0", "1", "2", "3"] := by
  rcases radio_or_box s with radio | box
  · have each : ∀ s ∈ radios, ∀ g ∈ s.rows, ∀ call ∈ calls ⟨0, 0, 0, 0, 0, 0, 0, 0, 0⟩ g, call.2 ∈ ["0", "1", "2", "3"] := by
      decide
    rw [radio_calls radio member] at called
    exact each s radio g member call called
  · obtain ⟨key, _, keys, _⟩ := box_reads box
    have digits : sprintf_d 0 ∈ ["0", "1", "2", "3"] ∧ sprintf_d 1 ∈ ["0", "1", "2", "3"] := by decide
    rw [box_calls box member keys, List.mem_singleton] at called
    rw [called, flipped]
    split
    · exact digits.1
    · exact digits.2

theorem setting_plain {call : String × String} (member : g ∈ s.rows) (called : call ∈ calls t g) :
    PlainKey call.1 ∧ PlainValue call.2 := by
  have of_setting : call.1 ∈ s.keys := by
    rw [← call_keys member]
    exact List.mem_map_of_mem called
  have keys : ∀ key ∈ s.keys, ('\x00' ∉ key.toList ∧ key.length < KEY_MAX_LENGTH) ∧
      '=' ∉ key.toList ∧ '\n' ∉ key.toList ∧ key.toList.head? ≠ some '#' := by
    cases s <;> decide
  have digits : ∀ value ∈ ["0", "1", "2", "3"], ('\x00' ∉ value.toList ∧ value.length < VALUE_MAX_LENGTH) ∧
      '\n' ∉ value.toList := by decide
  obtain ⟨⟨clean, short⟩, no_equals, one_line, no_comment⟩ := keys _ of_setting
  obtain ⟨⟨value_clean, value_short⟩, value_line⟩ := digits _ (call_digit member called)
  exact ⟨⟨⟨clean, short⟩, no_equals, one_line, no_comment⟩, ⟨⟨value_clean, value_short⟩, value_line⟩⟩

theorem press_saved (saved : Saved conf) (member : g ∈ s.rows) : Saved (press conf g) :=
  write_saved saved fun _ called => setting_plain member called

/-- The other settings are as they were. -/
theorem press_other (member : g ∈ s.rows) {other : Setting} (apart : g ∉ other.rows) (of_other : key ∈ other.keys) :
    get_conf (press conf g) key = get_conf conf key := by
  refine write_other ?_
  rw [call_keys member]
  refine settings_apart ?_ of_other
  rintro rfl
  exact apart member

theorem press_self (stored : conf.entries ≠ []) (member : g ∈ s.rows) {call : String × String}
    (called : call ∈ calls (load conf) g) : get_conf (press conf g) call.1 = some call.2 := by
  refine write_self stored ?_ called
  rw [call_keys member]
  exact keys_distinct s

/-! ### Sessions -/

/-- A session presses rows of settings, one after the other. -/
theorem tweak_menu_eq {choices : List Nat} (ran : tweak_menu conf choices = some conf') :
    conf' = (chosen choices).foldl press conf ∧ ∀ g ∈ chosen choices, ∃ s : Setting, g ∈ s.rows := by
  induction choices generalizing conf with
  | nil =>
    cases ran
    exact ⟨rfl, by simp [chosen]⟩
  | cons chosen_item rest ih =>
    rw [tweak_menu] at ran
    split at ran
    · cases ran
    · rename_i me found
      split at ran
      · cases ran
      · rename_i no_header
        have group : (groups[chosen_item]?).getD 0 = me.group_id := by
          have same : groups[chosen_item]? = ((menu_rows (load conf)).map Row.group_id)[chosen_item]? := rfl
          rw [same, List.getElem?_map, found]
          rfl
        have headers : ∀ me ∈ menu_rows (load conf), me.group_id = 0 →
            me.type = .MENU_TYPE_GLOBAL_HEADER ∨ me.type = .MENU_TYPE_GROUP_HEADER := by
          simp [menu_rows, header, radio_row, box_row]
        have listed : ∀ g ∈ groups, g = 0 ∨ ∃ s ∈ radios ++ boxes, g ∈ s.rows := by decide
        obtain ⟨last, others⟩ := ih ran
        refine ⟨?_, ?_⟩
        · rw [chosen, List.map_cons, group, ← chosen, List.foldl_cons]
          exact last
        · intro g member
          rcases List.mem_cons.mp member with rfl | later
          · have in_groups : me.group_id ∈ (menu_rows (load conf)).map Row.group_id :=
              List.mem_map_of_mem (List.mem_of_getElem? found)
            dsimp only
            rw [group]
            rcases listed _ in_groups with none | ⟨s, _, of_setting⟩
            · exact absurd (headers me (List.mem_of_getElem? found) none) no_header
            · exact ⟨s, of_setting⟩
          · exact others g later

variable {gs : List Int}

theorem session_saved (saved : Saved conf) (pressed : ∀ g ∈ gs, ∃ s : Setting, g ∈ s.rows) : Saved (gs.foldl press conf) := by
  induction gs generalizing conf with
  | nil => exact saved
  | cons g rest ih =>
    obtain ⟨⟨s, member⟩, others⟩ := List.forall_mem_cons.mp pressed
    exact ih (press_saved saved member) others

theorem session_untouched (pressed : ∀ g ∈ gs, ∃ s : Setting, g ∈ s.rows) (untouched : ∀ g ∈ gs, g ∉ s.rows)
    (of_setting : key ∈ s.keys) : get_conf (gs.foldl press conf) key = get_conf conf key := by
  induction gs generalizing conf with
  | nil => rfl
  | cons g rest ih =>
    obtain ⟨⟨other, member⟩, others⟩ := List.forall_mem_cons.mp pressed
    obtain ⟨apart, later⟩ := List.forall_mem_cons.mp untouched
    rw [List.foldl_cons, ih others later, press_other member apart of_setting]

/-- A setting with radio buttons has what the row that was chosen last writes. -/
theorem session_radio (saved : Saved conf) (pressed : ∀ g ∈ gs, ∃ s : Setting, g ∈ s.rows) (radio : s ∈ radios)
    (last : (gs.filter (· ∈ s.rows)).getLast? = some g) {call : String × String} (called : call ∈ calls t g) :
    get_conf (gs.foldl press conf) call.1 = some call.2 := by
  induction gs generalizing conf with
  | nil => simp at last
  | cons first rest ih =>
    obtain ⟨⟨other, member⟩, others⟩ := List.forall_mem_cons.mp pressed
    rw [List.foldl_cons]
    cases later : (rest.filter (· ∈ s.rows)).getLast? with
    | some g' =>
      refine ih (press_saved saved member) others ?_
      by_cases inRows : first ∈ s.rows
      · rwa [List.filter_cons_of_pos (by simpa using inRows), List.getLast?_cons, later, Option.getD_some, ← later] at last
      · rwa [List.filter_cons_of_neg (by simpa using inRows)] at last
    | none =>
      have none_later : rest.filter (· ∈ s.rows) = [] := List.getLast?_eq_none_iff.mp later
      have untouched : ∀ g ∈ rest, g ∉ s.rows := by simpa [List.filter_eq_nil_iff] using none_later
      by_cases inRows : first ∈ s.rows
      · rw [List.filter_cons_of_pos (by simpa using inRows), none_later] at last
        obtain rfl : first = g := Option.some.inj last
        have of_setting : call.1 ∈ s.keys := by
          rw [← call_keys inRows]
          exact List.mem_map_of_mem called
        rw [session_untouched others untouched of_setting]
        rw [radio_calls radio inRows (load conf)] at called
        exact press_self saved.stored inRows called
      · rw [List.filter_cons_of_neg (by simpa using inRows), none_later] at last
        cases last

/-- The row of a box flips it. -/
theorem press_box (saved : Saved conf) (box : s ∈ boxes) (member : g ∈ s.rows) :
    s.value (load (press conf g)) = if s.value (load conf) ≠ 0 then 0 else 1 := by
  obtain ⟨key, otherwise, keys, reads⟩ := box_reads box
  have called : (key, flipped (s.value (load conf))) ∈ calls (load conf) g := by
    rw [box_calls box member keys]
    exact List.mem_singleton_self _
  have written := press_self saved.stored member called
  rw [reads]
  exact read_int_sprintf written otherwise

theorem box_untouched {conf' : Conf} (box : s ∈ boxes) (same : ∀ key ∈ s.keys, get_conf conf' key = get_conf conf key) :
    s.value (load conf') = s.value (load conf) := by
  obtain ⟨key, otherwise, keys, reads⟩ := box_reads box
  rw [reads, reads, read_int, read_int, same key (by simp [keys])]

/-- A box is flipped as often as its row was chosen. -/
theorem session_box (saved : Saved conf) (pressed : ∀ g ∈ gs, ∃ s : Setting, g ∈ s.rows) (box : s ∈ boxes)
    (row : s.rows = [g]) :
    decide (s.value (load (gs.foldl press conf)) ≠ 0) = xor (decide (s.value (load conf) ≠ 0)) (decide (Odd (gs.count g))) := by
  induction gs generalizing conf with
  | nil => rw [List.foldl_nil, List.count_nil, decide_eq_false Nat.not_odd_zero, Bool.xor_false]
  | cons first rest ih =>
    obtain ⟨⟨other, member⟩, others⟩ := List.forall_mem_cons.mp pressed
    rw [List.foldl_cons, ih (press_saved saved member) others]
    by_cases same : first = g
    · subst same
      rw [press_box saved box (by simp [row]), List.count_cons_self]
      by_cases on : s.value (load conf) = 0 <;> by_cases odd : Odd (rest.count first) <;> simp [on, odd, Nat.odd_add_one]
    · rw [List.count_cons_of_ne same, box_untouched box]
      intro key of_setting
      exact press_other member (by simp [row, same]) of_setting

/-- A box that was chosen has one of the two values that the menu writes. -/
theorem session_box_written (saved : Saved conf) (pressed : ∀ g ∈ gs, ∃ s : Setting, g ∈ s.rows) (box : s ∈ boxes)
    (row : s.rows = [g]) (touched : g ∈ gs) (of_box : key ∈ s.keys) :
    get_conf (gs.foldl press conf) key = some (if s.value (load (gs.foldl press conf)) ≠ 0 then "1" else "0") := by
  induction gs generalizing conf with
  | nil => cases touched
  | cons first rest ih =>
    obtain ⟨⟨other, member⟩, others⟩ := List.forall_mem_cons.mp pressed
    rw [List.foldl_cons]
    by_cases again : g ∈ rest
    · exact ih (press_saved saved member) others again
    · obtain rfl : g = first := (List.mem_cons.mp touched).resolve_right again
      have untouched : ∀ other ∈ rest, other ∉ s.rows := by
        rintro other later inRows
        rw [row, List.mem_singleton] at inRows
        exact again (inRows ▸ later)
      have later : ∀ key ∈ s.keys, get_conf (rest.foldl press (press conf g)) key = get_conf (press conf g) key :=
        fun key of_setting => session_untouched others untouched of_setting
      obtain ⟨key', _, keys, _⟩ := box_reads box
      rw [keys, List.mem_singleton] at of_box
      subst of_box
      have inRows : g ∈ s.rows := by simp [row]
      have called : (key, flipped (s.value (load conf))) ∈ calls (load conf) g := by
        rw [box_calls box inRows keys]
        exact List.mem_singleton_self _
      have written := press_self saved.stored inRows called
      rw [later key (by simp [keys]), box_untouched box later, press_box saved box inRows, written, flipped]
      by_cases on : s.value (load conf) = 0
      · simp only [on, ne_eq, not_true_eq_false, ↓reduceIte]
        decide
      · simp only [on, ne_eq, not_false_eq_true, ↓reduceIte]
        decide

/-! ### Marks -/

/-- What the row of a radio button writes is in the configuration. -/
def Holds (conf : Conf) (g : Int) : Prop := ∀ t, ∀ call ∈ calls t g, get_conf conf call.1 = some call.2

/-- The rows with radio buttons write the same whatever is set. -/
theorem Holds.value (holds : Holds conf g) {key value : String} (called : (key, value) ∈ calls ⟨0, 0, 0, 0, 0, 0, 0, 0, 0⟩ g) :
    get_conf conf key = some value :=
  holds _ _ called

theorem Holds.read (holds : Holds conf g) (key : String) (n : CInt) (called : (key, sprintf_d n) ∈ calls ⟨0, 0, 0, 0, 0, 0, 0, 0, 0⟩ g)
    (otherwise : CInt) : read_int conf key otherwise = n :=
  read_int_sprintf (holds.value called) otherwise

/-- Every row of the setting is drawn with the number of the one that holds. -/
theorem radio_mark (radio : s ∈ radios) (member : g ∈ s.rows) (holds : Holds conf g) (row : Int) :
    s.mark (load conf) row = BitVec.ofInt 32 g := by
  cases s with
  | adbboot =>
    simp only [Setting.rows, List.mem_cons, List.not_mem_nil, or_false] at member
    rcases member with rfl | rfl | rfl
    · simp [Setting.mark, load, holds.read "adb.boot" 0 (by decide)]
    · simp [Setting.mark, load, holds.read "adb.boot" 1 (by decide)]
    · simp [Setting.mark, load, holds.read "adb.boot" 2 (by decide)]
  | adbroot =>
    simp only [Setting.rows, List.mem_cons, List.not_mem_nil, or_false] at member
    rcases member with rfl | rfl | rfl | rfl
    · simp [Setting.mark, load, holds.read "adb.root" 0 (by decide)]
    · simp [Setting.mark, load, holds.read "adb.root" 1 (by decide)]
    · simp [Setting.mark, load, holds.read "adb.root" 2 (by decide)]
    · simp [Setting.mark, load, holds.read "adb.root" 3 (by decide)]
  | bootlog =>
    simp only [Setting.rows, List.mem_cons, List.not_mem_nil, or_false] at member
    rcases member with rfl | rfl | rfl
    · have always : get_conf conf "preinit.graphics" = some "0" := holds.value (by decide)
      have recovery : get_conf conf "preinit.recovery.graphics" = some "0" := holds.value (by decide)
      simp [Setting.mark, load, get_conf_def, always, recovery]
    · have always : get_conf conf "preinit.graphics" = some "0" := holds.value (by decide)
      have recovery : get_conf conf "preinit.recovery.graphics" = some "1" := holds.value (by decide)
      simp [Setting.mark, load, get_conf_def, always, recovery]
    · have always : get_conf conf "preinit.graphics" = some "1" := holds.value (by decide)
      simp [Setting.mark, load, get_conf_def, always]
  | bootanim =>
    simp only [Setting.rows, List.mem_cons, List.not_mem_nil, or_false] at member
    rcases member with rfl | rfl | rfl
    · simp [Setting.mark, load, holds.read "init.bootanim" 0 (by decide)]
    · simp [Setting.mark, load, holds.read "init.bootanim" 1 (by decide)]
    · simp [Setting.mark, load, holds.read "init.bootanim" 2 (by decide)]
  | _ => simp [radios] at radio

theorem radio_ticked (radio : s ∈ radios) (member : g ∈ s.rows) (holds : Holds conf g) :
    ∀ row ∈ s.rows, ticked conf row = decide (row = g) := by
  have small : ∀ g ∈ s.rows, ∀ row ∈ s.rows, decide ((BitVec.ofInt 32 g).toInt = row) = decide (row = g) := by
    cases s <;> decide
  intro row here
  rw [ticked_row conf here, radio_mark radio member holds]
  exact small g member row here

/-- A box with a value that the menu writes is drawn with a mark where it is on. -/
theorem box_ticked (box : s ∈ boxes) (member : g ∈ s.rows) (keys : s.keys = [key])
    (value : get_conf conf key = some (if s.value (load conf) ≠ 0 then "1" else "0")) :
    ticked conf g = decide (s.value (load conf) ≠ 0) := by
  obtain ⟨key', otherwise, keys', reads⟩ := box_reads box
  obtain rfl : key = key' := List.head_eq_of_cons_eq (keys.symm.trans keys')
  rw [ticked_row conf member]
  have marks : s.mark (load conf) g = s.value (load conf) * BitVec.ofInt 32 g := by
    cases s <;> first | rfl | simp [boxes] at box
  have on_mark : ∀ s ∈ boxes, ∀ g ∈ s.rows, decide (((1 : CInt) * BitVec.ofInt 32 g).toInt = g) = true := by decide
  have off_mark : ∀ s ∈ boxes, ∀ g ∈ s.rows, decide (((0 : CInt) * BitVec.ofInt 32 g).toInt = g) = false := by decide
  rw [marks]
  by_cases on : s.value (load conf) = 0
  · rw [on]
    simpa using off_mark s box g member
  · rw [if_pos on] at value
    have one : s.value (load conf) = 1 := by
      rw [reads]
      exact read_int_sprintf value otherwise
    rw [one]
    simpa using on_mark s box g member

end

end SteamRecovery.TweakMenu
