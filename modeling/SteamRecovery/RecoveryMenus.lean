import SteamRecovery.AdvancedMenus
import SteamRecovery.Afterburner
import SteamRecovery.Sessions

/-!
The menus of recovery (`prompt_and_wait`, `wipe_data` in `recovery.c`, and those of
`extendedcommands.c`, `steamext.c` and `do_steam_afterburner`), as one program that is
answered again and again (`menus`). The file manager, the requests for other file systems
and the settings are one act each.
-/
namespace SteamRecovery.RecoveryMenus
open SteamRecovery.AdvancedMenus (rows update backup_bits backup_tests backup_start restore_bits restore_tests restore_start)
open SteamRecovery.Afterburner (Command read_config selected_commands)
open SteamRecovery.AfterburnerFile (AftConfig)
open SteamRecovery.BackupCoverage (BACKUP_ALL)
open SteamRecovery.Devices (CInt basename)
open SteamRecovery.Nandroid
open SteamRecovery.Sessions

/-- What the build has. -/
structure Features extends Build where
  HAS_TWO_SDCARDS : Bool
  BOARD_HAS_NO_MISC_PARTITION : Bool
  BOARD_HAS_SMALL_RECOVERY : Bool
  BOARD_HAS_PHONE_CONTROLLER : Bool

/-- The title and the yes of a question of `confirm_selection`. -/
structure Question where
  title : String
  confirm : String
  deriving DecidableEq

/-- What the menus make the program do. -/
inductive Act where
  | finish_recovery
  | reboot (command : String)
  | device_wipe_data
  | erase_root (root : String)
  | set_sdcard_update_bootloader_message
  | install_package (root_path : String)
  | toggle_signature_check
  | toggle_script_asserts
  | ensure_root_path_mounted (root : String)
  | ensure_root_path_unmounted (root : String)
  | format_root_device (root : String)
  | format_non_mtd_device (root : String)
  /-- The lun of an SD card gets a device, or is emptied and disabled. -/
  | share (lun : String)
  | unshare (lun : String)
  | nandroid_backup (path : String)
  | nandroid_backup_flags (path : String) (flags : CInt)
  | nandroid_restore_flags (path : String) (flags : CInt)
  | rm_dalvik_cache
  | rm_batterystats
  | sdparted (ext_size swap_size : String)
  | handle_failure
  | fix_permissions
  | apply_root_to_device (mode : Nat)
  | set_uninstallation
  /-- A command of a package of the afterburner. -/
  | afterburner (command : Command)
  | tweak_menu
  | bln_menu
  | fsreformat_menu
  | file_manager
  deriving DecidableEq

/-- What formats, deletes, restores or installs something, or asks the next boot to do so. -/
def Act.destroys : Act → Bool
  | .device_wipe_data | .erase_root _ | .install_package _ | .format_root_device _ | .format_non_mtd_device _
  | .nandroid_restore_flags _ _ | .rm_dalvik_cache | .rm_batterystats | .sdparted _ _ | .apply_root_to_device _
  | .set_uninstallation | .afterburner _ | .fsreformat_menu | .file_manager => true
  | _ => false

/-- The menus that `get_menu_selection` shows, and the choosers of files. -/
inductive Screen where
  | main
  | reboot
  | wipe_data
  | install_update
  | choose_zip (second : Bool)
  | partition
  | usb_storage (then_afterburner : Bool)
  | nandroid
  | advanced_backup (backup_path : String) (flags : CInt)
  | nandroid_restore
  | advanced_restore_file
  | advanced_restore (file : String) (flags : CInt)
  | afterburner (list : List AftConfig)
  | advanced
  | ext_size
  | swap_size (ext_size : String)
  | advanced_lfs
  | apply_root
  | about
  deriving DecidableEq

/-- Whether a yes ends the function that asked. -/
inductive Ends where
  | never
  /-- The installation works, and no text is shown. -/
  | installed
  | always
  deriving DecidableEq

/-- A menu, or a question with what a yes does, what is done either way, and the menu that
    comes then. -/
inductive Menu where
  | screen (screen : Screen)
  | confirm (question : Question) (yes after : List Act) (resume : Option Screen) (ends : Ends)
  deriving DecidableEq

/-- `GO_BACK`, a row, or what `choose_file_menu` returned. -/
inductive Answer where
  | GO_BACK
  | item (chosen_item : Nat)
  | file (path : Option String)
  deriving DecidableEq

/-- What the program finds when it reacts. -/
structure World where
  /-- `/mnt/sdcard/clockworkmod/.no_confirm` is there. -/
  no_confirm : Bool
  is_root_path_mounted : String → Bool
  /-- `ensure_root_path_mounted` returns 0. -/
  mounts : String → Bool
  installs : Bool
  ui_text_visible : Bool
  stat : String → Bool
  backup_path : String
  /-- `stat` finds a package of the afterburner. -/
  afterburner_found : Bool
  /-- The `afterburner.conf` of the archive, where that can be opened. -/
  afterburner_conf : Option (List Char)

structure Globals where
  signature_check_enabled : Bool
  script_assert_enabled : Bool

def effect : Act → Globals → Globals
  | .toggle_signature_check, g => { g with signature_check_enabled := !g.signature_check_enabled }
  | .toggle_script_asserts, g => { g with script_assert_enabled := !g.script_assert_enabled }
  | _, g => g

/-! ### The tables of the partition menu -/

def mounts (f : Features) : List String :=
  ["SYSTEM:", "DATA:", "CACHE:"] ++ (if f.HAS_DATADATA then ["DATADATA:"] else []) ++ ["SDCARD:"] ++
    (if f.HAS_TWO_SDCARDS then ["SDCARD2:"] else []) ++ ["SDEXT:"]

def mtds : List String := ["SYSTEM:", "DATA:", "DATADATA:", "CACHE:"]

def mmcs : List String := ["SDCARD:", "SDCARD2:", "SDEXT:"]

def ext_sizes : List String := ["128M", "256M", "512M", "1024M"]
def swap_sizes : List String := ["0M", "32M", "64M", "128M", "256M"]

/-! ### What the menus do -/

section
variable (f : Features) (w : World)

abbrev Reaction := Option (Turn Menu Act)

/-- The menu is shown again behind the acts. -/
def again (screen : Screen) (acts : List Act) : Reaction := some ⟨acts, [.screen screen]⟩

/-- The function of the menu returns. -/
def leaves (acts : List Act) : Reaction := some ⟨acts, []⟩

/-- Another menu is shown on top of this one. -/
def opens (screen : Screen) (acts : List Act) (other : Screen) : Reaction := some ⟨acts, [.screen other, .screen screen]⟩

/-- The menus behind an answer that is yes. -/
def behind_yes (resume : Option Screen) : Ends → List Menu
  | .never => (resume.map Menu.screen).toList
  | .installed => if w.installs && !w.ui_text_visible then [] else (resume.map Menu.screen).toList
  | .always => []

/-- `if (confirm_selection(title, confirm)) yes;` between other acts. -/
def asks (question : Question) (before yes after : List Act) (resume : Option Screen) (ends : Ends) : Reaction :=
  if w.no_confirm then some ⟨before ++ yes ++ after, behind_yes w resume ends⟩
  else some ⟨before, [.confirm question yes after resume ends]⟩

def install_zip (packagefilepath : String) : List Act :=
  (if f.BOARD_HAS_NO_MISC_PARTITION then [] else [.set_sdcard_update_bootloader_message]) ++ [.install_package packagefilepath]

/-- What `wipe_data` does where it is confirmed. -/
def wipe_acts : List Act :=
  [.device_wipe_data, .erase_root "DATA:"] ++ (if f.HAS_DATADATA then [.erase_root "DATADATA:"] else []) ++
    [.erase_root "CACHE:", .erase_root "SDEXT:", .erase_root "SDCARD:/.android_secure"]

/-- The row of the menu of `show_choose_zip_menu` with the given number: the chooser is
    only shown where the card can be mounted. -/
def choose_zip (second : Bool) : Reaction :=
  if w.mounts (if second then "SDCARD2:" else "SDCARD:") then opens .install_update [] (.choose_zip second)
  else again .install_update []

/-- What is installed for a chosen file: as much is cut off as `"/mnt/sdcard/"` or
    `"/mnt/external_sd/"` is long. -/
def sdcard_package_file (second : Bool) (file : String) : String :=
  if second then "SDCARD2:" ++ String.ofList (file.toList.drop "/mnt/external_sd/".length)
  else "SDCARD:" ++ String.ofList (file.toList.drop "/mnt/sdcard/".length)

def share_acts : List Act := .share "SDCARD" :: if f.HAS_TWO_SDCARDS then [.share "SDCARD2"] else []
def unshare_acts : List Act := .unshare "SDCARD" :: if f.HAS_TWO_SDCARDS then [.unshare "SDCARD2"] else []

/-- The menu of the afterburner, where its archive says something. -/
def afterburner_menus : List Menu :=
  match w.afterburner_conf.map read_config with
  | some (s :: rest) => [.screen (.afterburner (s :: rest))]
  | _ => []

/-- `do_steam_afterburner(2)`. Where there is no package, the card is shared, and the function is
    called again with 0. -/
def do_steam_afterburner : Reaction :=
  if w.afterburner_found then some ⟨[], afterburner_menus w ++ [.screen .main]⟩
  else opens .main (share_acts f) (.usb_storage true)

def main_menu : Answer → Reaction
  | .item 0 => some ⟨[], [.screen .reboot]⟩
  | .item 1 =>
    asks w ⟨"Confirm install?", "Yes - Install /sdcard/update.zip"⟩ [] (install_zip f "SDCARD:update.zip") [] (some .main) .installed
  | .item 2 => opens .main [] .wipe_data
  | .item 3 => asks w ⟨"Confirm wipe?", "Yes - Wipe Cache"⟩ [] [.erase_root "CACHE:"] [] (some .main) .never
  | .item 4 => opens .main [] .install_update
  | .item 5 => opens .main [] .nandroid
  | .item 6 => opens .main [] .advanced_lfs
  | .item 7 => do_steam_afterburner f w
  | .GO_BACK => again .main []
  | _ => none

/-- The first row ends `prompt_and_wait`. -/
def reboot_menu : Answer → Reaction
  | .GO_BACK => again .main []
  | .item 0 => leaves []
  | .item 1 => again .reboot [.reboot "recovery"]
  | .item 2 => again .reboot [.reboot "download"]
  | _ => none

def wipe_data : Answer → Reaction
  | .item chosen_item => if chosen_item < 11 then leaves (if chosen_item = 7 then wipe_acts f else []) else none
  | .GO_BACK => leaves []
  | .file _ => none

def install_update : Answer → Reaction
  | .item 0 =>
    asks w ⟨"Confirm install?", "Yes - Install /mnt/sdcard/update.zip"⟩ [] (install_zip f "SDCARD:update.zip") []
      (some .install_update) .never
  | .item 1 => choose_zip w false
  | .item 2 => again .install_update [.toggle_signature_check]
  | .item 3 => again .install_update [.toggle_script_asserts]
  | .item 4 =>
    if f.HAS_TWO_SDCARDS then
      asks w ⟨"Confirm install?", "Yes - Install /mnt/external_sd/update.zip"⟩ [] (install_zip f "SDCARD2:update.zip") []
        (some .install_update) .never
    else none
  | .item 5 => if f.HAS_TWO_SDCARDS then choose_zip w true else none
  | .GO_BACK => leaves []
  | _ => none

def zip_chosen (second : Bool) : Answer → Reaction
  | .file (some file) =>
    asks w ⟨"Confirm install?", "Yes - Install " ++ basename file⟩ [] (install_zip f (sdcard_package_file second file)) []
      none .never
  | .file none => leaves []
  | _ => none

def partition_menu : Answer → Reaction
  | .GO_BACK => leaves []
  | .item chosen_item =>
    match (mounts f)[chosen_item]? with
    | some root =>
      again .partition [if w.is_root_path_mounted root then .ensure_root_path_unmounted root else .ensure_root_path_mounted root]
    | none =>
      match mtds[chosen_item - (mounts f).length]? with
      | some root => asks w ⟨"Confirm format?", "Yes - Format"⟩ [] [.format_root_device root] [] (some .partition) .never
      | none =>
        match mmcs[chosen_item - (mounts f).length - mtds.length]? with
        | some root => asks w ⟨"Confirm format?", "Yes - Format"⟩ [] [.format_non_mtd_device root] [] (some .partition) .never
        | none =>
          if chosen_item = (mounts f).length + mtds.length + mmcs.length then
            opens .partition (share_acts f) (.usb_storage false)
          else none
  | .file _ => none

def usb_storage (then_afterburner : Bool) : Answer → Reaction
  | .GO_BACK | .item 0 => some ⟨unshare_acts f, if then_afterburner then afterburner_menus w else []⟩
  | _ => none

/-- A row of the menu turns a box, and the one above them installs what is ticked. -/
def afterburner_menu (list : List AftConfig) : Answer → Reaction
  | .GO_BACK => leaves []
  | .item 0 => again (.afterburner list) []
  | .item 1 =>
    asks w ⟨"Confirm installation?", "Yes - install selected elements"⟩ [] ((selected_commands list).map .afterburner) []
      (some (.afterburner list)) .always
  | .item (n + 2) => if n < list.length then again (.afterburner (Afterburner.choose list [n])) [] else none
  | .file _ => none

def nandroid_menu : Answer → Reaction
  | .item 0 => leaves [.nandroid_backup w.backup_path]
  | .item 1 => some ⟨[], [.screen (.advanced_backup w.backup_path (backup_start f.toBuild))]⟩
  | .item 2 => if w.mounts "SDCARD:" then some ⟨[], [.screen .nandroid_restore]⟩ else leaves []
  | .item 3 => if w.mounts "SDCARD:" then some ⟨[], [.screen .advanced_restore_file]⟩ else leaves []
  | .GO_BACK => leaves []
  | _ => none

def backup_chosen : Answer → Reaction
  | .file (some file) =>
    asks w ⟨"Confirm restore?", "Yes - Restore"⟩ [] [.nandroid_restore_flags file (BACKUP_ALL &&& BACKUP_NOFORMAT)] [] none
      .never
  | .file none => leaves []
  | _ => none

def advanced_backup (backup_path : String) (flags : CInt) : Answer → Reaction
  | .GO_BACK => leaves []
  | .item chosen_item =>
    match (rows (backup_bits f.toBuild f.BOARD_HAS_PHONE_CONTROLLER) flags)[chosen_item]? with
    | some me =>
      if me.group_id = -1 then leaves [.nandroid_backup_flags backup_path flags]
      else again (.advanced_backup backup_path (update backup_tests me flags)) []
    | none => none
  | .file _ => none

def advanced_restore_chosen : Answer → Reaction
  | .file (some file) => some ⟨[], [.screen (.advanced_restore file (restore_start f.toBuild))]⟩
  | .file none => leaves []
  | _ => none

def advanced_restore (file : String) (flags : CInt) : Answer → Reaction
  | .GO_BACK => leaves []
  | .item chosen_item =>
    match (rows (restore_bits f.toBuild) flags)[chosen_item]? with
    | some me =>
      if me.group_id = -1 then
        asks w ⟨"Confirm restore?", "Yes - Restore"⟩ [] [.nandroid_restore_flags file flags] [] none .never
      else again (.advanced_restore file (update restore_tests me flags)) []
    | none => none
  | .file _ => none

/-- Every result but that for `DATA:` is ignored. -/
def wipe_dalvik : Reaction :=
  if w.mounts "DATA:" then
    asks w ⟨"Confirm wipe?", "Yes - Wipe Dalvik Cache"⟩
      [.ensure_root_path_mounted "DATA:", .ensure_root_path_mounted "SDEXT:", .ensure_root_path_mounted "CACHE:"]
      [.rm_dalvik_cache] [.ensure_root_path_unmounted "DATA:"] (some .advanced) .never
  else again .advanced [.ensure_root_path_mounted "DATA:"]

/-- The tests in rows 3 to 5 wait for keys only. The last rows are not shown by a small
    recovery. -/
def advanced_menu : Answer → Reaction
  | .item 0 => wipe_dalvik w
  | .item 1 =>
    asks w ⟨"Confirm wipe?", "Yes - Wipe Battery Stats"⟩ []
      [.ensure_root_path_mounted "DATA:", .rm_batterystats, .ensure_root_path_unmounted "DATA:"] [] (some .advanced) .never
  | .item 2 => again .advanced [.handle_failure]
  | .item 3 | .item 4 | .item 5 => again .advanced []
  | .item 6 => if f.BOARD_HAS_SMALL_RECOVERY then none else opens .advanced [] .ext_size
  | .item 7 =>
    if f.BOARD_HAS_SMALL_RECOVERY then none
    else again .advanced [.ensure_root_path_mounted "SYSTEM:", .ensure_root_path_mounted "DATA:", .fix_permissions]
  | .GO_BACK => leaves []
  | _ => none

def ext_size_menu : Answer → Reaction
  | .item chosen_item => (ext_sizes[chosen_item]?).map fun size => ⟨[], [.screen (.swap_size size)]⟩
  | .GO_BACK => leaves []
  | .file _ => none

def swap_size_menu (ext_size : String) : Answer → Reaction
  | .item chosen_item => (swap_sizes[chosen_item]?).map fun size => ⟨[.sdparted ext_size size], []⟩
  | .GO_BACK => leaves []
  | .file _ => none

def steam_conf : String := "/system/etc/steam.conf"

/-- `if (stat(path,&s)==0) function();` -/
def call_if (path : String) (function : Act) : List Act := if w.stat path then [function] else []

def advanced_lfs_menu : Answer → Reaction
  | .item 0 => opens .advanced_lfs [] .apply_root
  | .item 1 => again .advanced_lfs (call_if w steam_conf .tweak_menu)
  | .item 2 => again .advanced_lfs (call_if w "/sys/class/misc/backlightnotification/enabled" .bln_menu)
  | .item 3 => opens .advanced_lfs [] .advanced
  | .item 4 => again .advanced_lfs (call_if w steam_conf .fsreformat_menu)
  | .item 5 => again .advanced_lfs [.file_manager]
  | .item 6 => if w.stat steam_conf then opens .advanced_lfs [] .about else again .advanced_lfs []
  | .GO_BACK => leaves []
  | _ => none

def apply_root_menu : Answer → Reaction
  | .item chosen_item =>
    if chosen_item < 3 then
      asks w ⟨"Confirm rooting!", "Yes - install root binaries"⟩ [] [.apply_root_to_device chosen_item] [] (some .apply_root) .never
    else none
  | .GO_BACK => leaves []
  | .file _ => none

def about_menu : Answer → Reaction
  | .item 0 =>
    asks w ⟨"Do you really want to\nuninstall Steam Kernel?", "Yes - I don't need this software"⟩ [] [.set_uninstallation] []
      none .never
  | .GO_BACK => leaves []
  | _ => none

/-- The one yes is the row with the number 7, among ten times no. -/
def confirm_menu (yes after : List Act) (resume : Option Screen) (ends : Ends) : Answer → Reaction
  | .item chosen_item =>
    if chosen_item < 11 then
      if chosen_item = 7 then some ⟨yes ++ after, behind_yes w resume ends⟩
      else some ⟨after, (resume.map Menu.screen).toList⟩
    else none
  | .GO_BACK => some ⟨after, (resume.map Menu.screen).toList⟩
  | .file _ => none

def react_screen : Screen → Answer → Reaction
  | .main => main_menu f w
  | .reboot => reboot_menu
  | .wipe_data => wipe_data f
  | .install_update => install_update f w
  | .choose_zip second => zip_chosen f w second
  | .partition => partition_menu f w
  | .usb_storage then_afterburner => usb_storage f w then_afterburner
  | .nandroid => nandroid_menu f w
  | .advanced_backup backup_path flags => advanced_backup f backup_path flags
  | .nandroid_restore => backup_chosen w
  | .advanced_restore_file => advanced_restore_chosen f
  | .advanced_restore file flags => advanced_restore f w file flags
  | .afterburner list => afterburner_menu w list
  | .advanced => advanced_menu f w
  | .ext_size => ext_size_menu
  | .swap_size ext_size => swap_size_menu ext_size
  | .advanced_lfs => advanced_lfs_menu w
  | .apply_root => apply_root_menu w
  | .about => about_menu w

end

/-- `prompt_and_wait` calls `finish_recovery` before it shows its menu. -/
def menus (f : Features) : Program Menu Answer World Act Globals where
  react w
    | .screen screen => react_screen f w screen
    | .confirm _ yes after resume ends => confirm_menu w yes after resume ends
  shows
    | .screen .main => [.finish_recovery]
    | _ => []
  effect := effect

end SteamRecovery.RecoveryMenus
