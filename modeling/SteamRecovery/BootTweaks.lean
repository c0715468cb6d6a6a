import SteamRecovery.TweakMenu

/-!
What the boot makes of the boot options: the stages of the init that read them
(`steam_init_main`, `fix_init`), and the two processes that are started later
(`steam_postinit_main`, `steam_earlyinit_main`). Each of them loads the configuration that
`tweak_menu` left in the file. Behind a session of the menu, the boot does what the marked
rows say for every setting of which a row was chosen, and reads the others as before
(`tweaks_booted`).
-/
namespace SteamRecovery.BootTweaks
open SteamRecovery.Config
open SteamRecovery.ConfigFiles
open SteamRecovery.TweakMenu

inductive Call where
  | call_busybox (args : List String)
  /-- `fopen(path,"w+")` and `fprintf` -/
  | write (path text : String)
  | sh (path : String)
  | rmsymlink (name : String)
  | property_set (key value : String)
  | execve (path : String)
  | ui_init
  | ui_done
  | reboot_recovery
  deriving DecidableEq

/-- What the boot finds on the phone. -/
structure Phone where
  /-- The entries of `/sys/block`, and of `/system/etc/init.d`. -/
  block : List String
  initd : List String
  /-- `fopen(path,"w+")` succeeds. -/
  opens : String → Bool
  /-- `grep` finds a 1 in `bln.conf`, or the library in place. -/
  bln : Bool
  liblights : Bool
  liblights_backup : Bool
  steam_command_list : List String

def LIBLIGHTS_DEST : String := "/system/lib/hw/lights.s5pc110.so"
def LIBLIGHTS_SRC : String := "/res/misc/lights.s5pc110.so"

def sed (script file : String) : Call := .call_busybox ["sed", "-i", script, file]

section
variable (conf : Conf) (phone : Phone) (isrecovery : Bool)

/-- Stage 2 of the init has nothing but the configuration of the kernel. -/
def kernel_graphics : Bool :=
  conf.get_conf_ro "preinit.graphics" = some "1" || isrecovery && conf.get_conf_ro "preinit.recovery.graphics" = some "1"

/-- `usegraphics` behind stage 4. -/
def usegraphics : Bool :=
  kernel_graphics conf isrecovery || get_conf_def conf "preinit.graphics" "0" = "1" ||
    isrecovery && get_conf_def conf "preinit.recovery.graphics" "0" = "1"

def bootanim_service : List Call := [
  sed "/service playlogos1/ i\\\nservice bootanim /system/bin/bootanimation" "init.rc",
  sed "/service playlogos1/ i\\\n    user graphics" "init.rc",
  sed "/service playlogos1/ i\\\n    group graphics" "init.rc",
  sed "/service playlogos1/ i\\\n    oneshot" "init.rc",
  sed "/service playlogos1/ i\\\n    disabled" "init.rc",
  sed "/service playlogos1/ i\\\n    class nostart\\\n\\\n" "init.rc"]

def fix_init : List Call :=
  [sed "/export TMPDIR/ a\\\n    class_start earlyinitclass" "init.rc",
    sed "s/mount rfs/#mount rfs/" "init.rc",
    sed "s|/system/bin/playlogos1|/sbin/steam postinit|g" "init.rc"] ++
  (if get_conf conf "init.bootanim" = some "2" then bootanim_service else []) ++
  [sed "/service playlogos1/ i\\\nservice earlyinit /sbin/steam earlyinit" "init.rc",
    sed "/service playlogos1/ i\\\n    user root" "init.rc",
    sed "/service playlogos1/ i\\\n    group root" "init.rc",
    sed "/service playlogos1/ i\\\n    oneshot" "init.rc",
    sed "/service playlogos1/ i\\\n    class earlyinitclass\\\n\\\n" "init.rc",
    sed "s|mount tmpfs nodev /tmp||" "recovery.rc",
    sed "s/mount rfs/#mount rfs/" "recovery.rc",
    sed "s|/sbin/adbd recovery|/sbin/adbd|" "recovery.rc",
    sed "s|/system/bin/recovery|/sbin/recovery|" "recovery.rc"]

def debuggable : Call := sed "s/ro.debuggable=0/ro.debuggable=1/" "default.prop"
def insecure : Call := sed "s/ro.secure=1/ro.secure=0/" "default.prop"
def adb_enable : Call := sed "s/persist.service.adb.enable=0/persist.service.adb.enable=1/" "default.prop"

/-- What stage 8 does to `default.prop`. -/
def default_prop : List Call :=
  let root := get_conf_def conf "adb.root" "0"
  let boot := get_conf_def conf "adb.boot" "0"
  (if root ≠ "0" then
    if (isrecovery ∧ root = "1") ∨ root = "3" ∨ root = "2" then
      debuggable :: (if (isrecovery ∧ root = "1") ∨ root = "3" then [insecure] else [])
    else []
  else []) ++
  (if boot ≠ "0" then
    if (isrecovery ∧ boot = "1") ∨ boot = "2" then [adb_enable] else []
  else [])

/-- A file of the kernel, with the key that its value is under. -/
structure Knob where
  path : String
  key : String
  default : String

def iosched_device (name : String) : List Knob := [
  ⟨"/sys/block/" ++ name ++ "/queue/rotational", "tweaks.iosched.rotational", "0"⟩,
  ⟨"/sys/block/" ++ name ++ "/queue/iosched/low_latency", "tweaks.iosched.low_latency", "1"⟩,
  ⟨"/sys/block/" ++ name ++ "/queue/iosched/back_seek_penalty", "tweaks.iosched.back_seek_penalty", "1"⟩,
  ⟨"/sys/block/" ++ name ++ "/queue/iosched/back_seek_max", "tweaks.iosched.back_seek_max", "1000000000"⟩,
  ⟨"/sys/block/" ++ name ++ "/queue/iosched/slice_idle", "tweaks.iosched.slice_idle", "3"⟩]

/-- `strstr(name,prefix)==name` for one of the prefixes. -/
def tweaked_device (name : String) : Bool :=
  ["stl", "mmc", "bml", "tfsr"].any fun start => start.toList.isPrefixOf name.toList

def iosched : List Knob := (phone.block.filter tweaked_device).flatMap iosched_device

def kernelvm : List Knob := [
  ⟨"/proc/sys/vm/swappiness", "tweaks.kernelvm.swappiness", "0"⟩,
  ⟨"/proc/sys/vm/dirty_ratio", "tweaks.kernelvm.dirty_ratio", "20"⟩,
  ⟨"/proc/sys/vm/vfs_cache_pressure", "tweaks.kernelvm.vfs_cache_pressure", "100"⟩,
  ⟨"/proc/sys/vm/min_free_kbytes", "tweaks.kernelvm.min_free_kbytes", "2746"⟩]

/-- The second and the third file have each other's key. -/
def kernelsched : List Knob := [
  ⟨"/proc/sys/vm/sched_latency_ns", "tweaks.kernelsched.sched_latency_ns", "20000000"⟩,
  ⟨"/proc/sys/vm/sched_wakeup_granularity_ns", "tweaks.kernelsched.sched_min_granularity_ns", "1000000"⟩,
  ⟨"/proc/sys/vm/sched_min_granularity_ns", "tweaks.kernelsched.sched_wakeup_granularity_ns", "2000000"⟩]

def misc : List Knob := [
  ⟨"/proc/sys/vm/dirty_writeback_centisecs", "tweaks.misc.dirty_writeback_centisecs", "2000"⟩,
  ⟨"/proc/sys/vm/dirty_expire_centisecs", "tweaks.misc.dirty_expire_centisecs", "1000"⟩]

/-- `f = fopen(path,"w+"); if (f) { fprintf(f,"%s\n",get_conf_def(key,value,default)); fclose(f); }` -/
def turn (knobs : List Knob) : List Call :=
  (knobs.filter fun k => phone.opens k.path).map fun k => .write k.path (get_conf_def conf k.key k.default ++ "\n")

/-- `if (strcmp(get_conf_def(key,value,"0"),"1")==0)` -/
def tweak (key : String) (calls : List Call) : List Call := if get_conf_def conf key "0" = "1" then calls else []

def bln_enabled : String := "/sys/class/misc/backlightnotification/enabled"

/-- The backlight notification, and the library for it. -/
def liblights : List Call :=
  (if phone.opens bln_enabled then [.write bln_enabled (if phone.bln then "1\n" else "0\n")] else []) ++
  (if phone.liblights then []
  else
    (if phone.liblights_backup then [] else [.call_busybox ["cp", LIBLIGHTS_DEST, LIBLIGHTS_DEST ++ ".backup"]]) ++
    [.call_busybox ["cp", LIBLIGHTS_SRC, LIBLIGHTS_DEST], .call_busybox ["chmod", "644", LIBLIGHTS_DEST]])

/-- The scripts of `init.d` whose names start with the letter. -/
def initd_scripts (letter : Char) : List Call :=
  (phone.initd.filter fun name => name.toList.head? = some letter).map fun name => .sh ("/system/etc/init.d/" ++ name)

def remount_system : Call := .call_busybox ["mount", "-o", "remount,ro", "/dev/block/stl9", "/system"]

def playlogos1 : Call := .execve "/system/bin/playlogos1"

def start_bootanim : Call := .property_set "ctl.start" "bootanim"

/-- The end of `steam_postinit_main`, by `startanim`. -/
def start_animation : List Call :=
  if get_conf conf "init.bootanim" = some "2" then [start_bootanim]
  else if get_conf conf "init.bootanim" = some "0" then [.property_set "ctl.stop" "bootanim"]
  else [.property_set "ctl.stop" "bootanim", playlogos1]

/-- The four tweaks of the kernel. -/
def tweaks : List Call :=
  tweak conf "tweaks.iosched" (turn conf phone (iosched phone)) ++
  tweak conf "tweaks.kernelvm" (turn conf phone kernelvm) ++
  tweak conf "tweaks.kernelsched" (turn conf phone kernelsched) ++
  tweak conf "tweaks.misc" (turn conf phone misc)

def rmsymlinks : List Call :=
  if get_conf_def conf "init.rmsymlinks" "1" = "1" then phone.steam_command_list.map Call.rmsymlink else []

def remount_ro : List Call :=
  if get_conf_def conf "fs.system.ro" "1" = "1" then
    if get_conf_def conf "fs.system.efs" "0" = "0" then [remount_system] else []
  else []

def steam_postinit_main : List Call :=
  [.call_busybox ["mount", "-o", "remount,rw", "/"]] ++
  tweaks conf phone ++
  (liblights phone ++
    [.call_busybox ["cp", "/sbin/fat.format", "/system/bin/fat.format"]] ++
    initd_scripts phone 'S' ++
    rmsymlinks conf phone ++
    [.call_busybox ["mount", "-o", "remount,ro", "/"]] ++
    remount_ro conf ++
    [.property_set "dev.defaultclassstarted" "1"]) ++
  start_animation conf

def noscreen : Bool :=
  !(get_conf_def conf "earlyinit.graphics" "0" = "1" || get_conf_def conf "init.bootanim" "1" = "0")

def shutdownscreen : Bool := !(get_conf_def conf "init.bootanim" "1" = "0")

/-- What a round of `steam_earlyinit_main` reads of the properties. -/
structure Poll where
  defaultclassstarted : Bool
  bootcomplete : Bool

def kill_animations : List Call :=
  ["playlogos1", "bootanim", "bootanimation"].map fun name => .call_busybox ["killall", "-9", name]

def reboot_if (key : String) : List Call := if get_conf_def conf key "0" = "1" then [.reboot_recovery] else []

/-- The rounds of `steam_earlyinit_main`, until the boot is complete; `ui` is `get_ui_state()`. -/
def early_rounds (ui donepinit : Bool) : List Poll → List Call
  | [] => []
  | p :: rest =>
    let started := p.defaultclassstarted && !donepinit
    let hides := started && !noscreen conf && shutdownscreen conf && ui
    let ui := ui && !hides
    (if hides then [.ui_done] else []) ++
    (if started && !shutdownscreen conf then kill_animations else []) ++
    if p.bootcomplete then
      (if !noscreen conf && ui then [.ui_done] else []) ++ kill_animations ++
        reboot_if conf "steam.installation" ++ reboot_if conf "steam.upgrade" ++ reboot_if conf "steam.uninstallation"
    else early_rounds ui (donepinit || p.defaultclassstarted) rest

def steam_earlyinit_main (polls : List Poll) : List Call :=
  (if noscreen conf then [] else [.ui_init]) ++ initd_scripts phone 'E' ++ early_rounds conf (!noscreen conf) false polls

end

/-! ### What the rows say -/

/-- The rows with radio buttons for which the kernel starts with ADB, with ADB that may be
    switched to root, with ADB that is root, and with the logs on the screen. -/
def starts_adb (g : Int) (isrecovery : Bool) : Bool := g = 3 || g = 2 && isrecovery
def may_be_root (g : Int) (isrecovery : Bool) : Bool := g = 7 || g = 6 || g = 5 && isrecovery
def is_root (g : Int) (isrecovery : Bool) : Bool := g = 7 || g = 5 && isrecovery
def shows_logs (g : Int) (isrecovery : Bool) : Bool := g = 10 || g = 9 && isrecovery

/-- The boot does what a row with a radio button says. -/
def Boots (conf : Conf) (g : Int) : Setting → Prop
  | .adbboot => ∀ isrecovery, adb_enable ∈ default_prop conf isrecovery ↔ starts_adb g isrecovery = true
  | .adbroot => ∀ isrecovery, (debuggable ∈ default_prop conf isrecovery ↔ may_be_root g isrecovery = true) ∧
      (insecure ∈ default_prop conf isrecovery ↔ is_root g isrecovery = true)
  | .bootlog => ∀ isrecovery, usegraphics conf isrecovery = (kernel_graphics conf isrecovery || shows_logs g isrecovery)
  | .bootanim => ∀ phone polls,
      (playlogos1 ∈ steam_postinit_main conf phone ↔ g = 12) ∧ (start_bootanim ∈ steam_postinit_main conf phone ↔ g = 13) ∧
      ((∀ line ∈ bootanim_service, line ∈ fix_init conf) ↔ g = 13) ∧
      (steam_earlyinit_main conf phone polls).count .ui_init = (if g = 11 then 1 else 0) ∧
      (steam_earlyinit_main conf phone polls).count .ui_done = (if g = 11 ∧ ∃ p ∈ polls, p.bootcomplete = true then 1 else 0)
  | _ => True

/-- The files of the kernel behind a box. -/
def knobs (phone : Phone) : Setting → List Knob
  | .iosched => iosched phone
  | .kernelvm => kernelvm
  | .kernelsched => kernelsched
  | .misc => misc
  | _ => []

/-- The call writes to one of the files. -/
def writes_to (knobs : List Knob) : Call → Bool
  | .write path _ => knobs.any fun k => k.path = path
  | _ => false

/-- The boot turns the files of a ticked box, and leaves those of the others alone. -/
def BoxBoots (conf : Conf) (on : Bool) (s : Setting) : Prop :=
  ∀ phone, match s with
    | .sysrw => remount_system ∈ steam_postinit_main conf phone ↔ on = true ∧ get_conf_def conf "fs.system.efs" "0" = "0"
    | s => (steam_postinit_main conf phone).filter (writes_to (knobs phone s)) =
        if on then turn conf phone (knobs phone s) else []

section
variable {conf : Conf} {g : Int} {s : Setting} {t : Tweaks}

/-- Nothing but these three is done to `default.prop`, by one setting or the other. -/
theorem sed_apart : adb_enable ≠ debuggable ∧ adb_enable ≠ insecure ∧ debuggable ≠ insecure := by decide

theorem adb_enable_iff (isrecovery : Bool) : adb_enable ∈ default_prop conf isrecovery ↔
    (isrecovery = true ∧ get_conf_def conf "adb.boot" "0" = "1") ∨ get_conf_def conf "adb.boot" "0" = "2" := by
  obtain ⟨no_debug, no_insecure, _⟩ := sed_apart
  have of_boot : adb_enable ∈ default_prop conf isrecovery ↔ adb_enable ∈
      (if get_conf_def conf "adb.boot" "0" ≠ "0" then
        if (isrecovery ∧ get_conf_def conf "adb.boot" "0" = "1") ∨ get_conf_def conf "adb.boot" "0" = "2" then [adb_enable] else []
      else []) := by
    rw [default_prop, List.mem_append]
    refine or_iff_right ?_
    split_ifs <;> simp [no_debug, no_insecure]
  rw [of_boot]
  by_cases off : get_conf_def conf "adb.boot" "0" = "0"
  · simp [off]
  · rw [if_pos off]
    split_ifs with here <;> simp [here]

theorem root_iff (isrecovery : Bool) :
    (debuggable ∈ default_prop conf isrecovery ↔ (isrecovery = true ∧ get_conf_def conf "adb.root" "0" = "1") ∨
      get_conf_def conf "adb.root" "0" = "3" ∨ get_conf_def conf "adb.root" "0" = "2") ∧
    (insecure ∈ default_prop conf isrecovery ↔
      (isrecovery = true ∧ get_conf_def conf "adb.root" "0" = "1") ∨ get_conf_def conf "adb.root" "0" = "3") := by
  obtain ⟨no_debug, no_insecure, apart⟩ := sed_apart
  have of_root : ∀ call ∈ [debuggable, insecure], call ∈ default_prop conf isrecovery ↔ call ∈
      (if get_conf_def conf "adb.root" "0" ≠ "0" then
        if (isrecovery ∧ get_conf_def conf "adb.root" "0" = "1") ∨ get_conf_def conf "adb.root" "0" = "3" ∨
            get_conf_def conf "adb.root" "0" = "2" then
          debuggable :: (if (isrecovery ∧ get_conf_def conf "adb.root" "0" = "1") ∨ get_conf_def conf "adb.root" "0" = "3" then
            [insecure] else [])
        else []
      else []) := by
    intro call member
    rw [default_prop, List.mem_append]
    refine or_iff_left ?_
    have other : call ≠ adb_enable := by
      rintro rfl
      simp [no_debug, no_insecure] at member
    split_ifs <;> simp [other]
  rw [of_root debuggable (by simp), of_root insecure (by simp)]
  by_cases off : get_conf_def conf "adb.root" "0" = "0"
  · simp [off]
  · rw [if_pos off]
    split_ifs with some_root root
    · exact ⟨iff_of_true (by simp) some_root, iff_of_true (by simp) root⟩
    · exact ⟨iff_of_true (by simp) some_root, iff_of_false (by simp [Ne.symm apart]) root⟩
    · exact ⟨iff_of_false (by simp) some_root, iff_of_false (by simp) fun root => some_root (root.imp_right .inl)⟩

theorem boots_adb (member : g ∈ Setting.adbboot.rows) (holds : Holds conf g) : Boots conf g .adbboot := by
  intro isrecovery
  rw [adb_enable_iff, get_conf_def]
  simp only [Setting.rows, List.mem_cons, List.not_mem_nil, or_false] at member
  rcases member with rfl | rfl | rfl
  · have value : get_conf conf "adb.boot" = some "0" := holds.value (by decide)
    simp [value, starts_adb]
  · have value : get_conf conf "adb.boot" = some "1" := holds.value (by decide)
    simp [value, starts_adb]
  · have value : get_conf conf "adb.boot" = some "2" := holds.value (by decide)
    simp [value, starts_adb]

theorem boots_root (member : g ∈ Setting.adbroot.rows) (holds : Holds conf g) : Boots conf g .adbroot := by
  intro isrecovery
  rw [(root_iff isrecovery).1, (root_iff isrecovery).2, get_conf_def]
  simp only [Setting.rows, List.mem_cons, List.not_mem_nil, or_false] at member
  rcases member with rfl | rfl | rfl | rfl
  · have value : get_conf conf "adb.root" = some "0" := holds.value (by decide)
    simp [value, may_be_root, is_root]
  · have value : get_conf conf "adb.root" = some "1" := holds.value (by decide)
    simp [value, may_be_root, is_root]
  · have value : get_conf conf "adb.root" = some "2" := holds.value (by decide)
    simp [value, may_be_root, is_root]
  · have value : get_conf conf "adb.root" = some "3" := holds.value (by decide)
    simp [value, may_be_root, is_root]

theorem boots_log (member : g ∈ Setting.bootlog.rows) (holds : Holds conf g) : Boots conf g .bootlog := by
  intro isrecovery
  simp only [Setting.rows, List.mem_cons, List.not_mem_nil, or_false] at member
  rcases member with rfl | rfl | rfl
  · have recovery : get_conf conf "preinit.recovery.graphics" = some "0" := holds.value (by decide)
    have always : get_conf conf "preinit.graphics" = some "0" := holds.value (by decide)
    simp [usegraphics, get_conf_def, recovery, always, shows_logs]
  · have recovery : get_conf conf "preinit.recovery.graphics" = some "1" := holds.value (by decide)
    have always : get_conf conf "preinit.graphics" = some "0" := holds.value (by decide)
    simp [usegraphics, get_conf_def, recovery, always, shows_logs]
  · have always : get_conf conf "preinit.graphics" = some "1" := holds.value (by decide)
    simp [usegraphics, get_conf_def, always, shows_logs]

/-! ### Animations -/

/-- No call of the list starts an animation, or shows or hides the screen. -/
def Still (calls : List Call) : Prop :=
  ∀ call ∈ calls, call ≠ playlogos1 ∧ call ≠ start_bootanim ∧ call ≠ .ui_init ∧ call ≠ .ui_done

theorem still_append {one other : List Call} (first : Still one) (second : Still other) : Still (one ++ other) := by
  intro call member
  rcases List.mem_append.mp member with here | there
  · exact first call here
  · exact second call there

theorem tweak_still {key : String} {calls : List Call} (still : Still calls) : Still (tweak conf key calls) := by
  unfold tweak
  split
  · exact still
  · simp [Still]

theorem turn_still (phone : Phone) (knobs : List Knob) : Still (turn conf phone knobs) := by
  intro call member
  obtain ⟨k, _, rfl⟩ := List.mem_map.mp member
  simp [playlogos1, start_bootanim]

theorem scripts_still (phone : Phone) (letter : Char) : Still (initd_scripts phone letter) := by
  intro call member
  obtain ⟨name, _, rfl⟩ := List.mem_map.mp member
  simp [playlogos1, start_bootanim]

theorem liblights_still (phone : Phone) : Still (liblights phone) := by
  unfold liblights
  split_ifs <;> simp [Still, playlogos1, start_bootanim]

theorem symlinks_still (conf : Conf) (phone : Phone) : Still (rmsymlinks conf phone) := by
  unfold rmsymlinks
  split
  · intro call member
    obtain ⟨name, _, rfl⟩ := List.mem_map.mp member
    simp [playlogos1, start_bootanim]
  · simp [Still]

theorem remount_still (conf : Conf) : Still (remount_ro conf) := by
  unfold remount_ro
  split_ifs <;> simp [Still, playlogos1, start_bootanim, remount_system]

theorem tweaks_still (phone : Phone) : Still (tweaks conf phone) :=
  still_append (still_append (still_append (tweak_still (turn_still phone _)) (tweak_still (turn_still phone _)))
    (tweak_still (turn_still phone _))) (tweak_still (turn_still phone _))

/-- Nothing before the end of `steam_postinit_main` starts an animation. -/
theorem postinit_still (conf : Conf) (phone : Phone) : ∃ before, steam_postinit_main conf phone = before ++ start_animation conf ∧ Still before := by
  have busybox : ∀ args, Still [.call_busybox args] := by simp [Still, playlogos1, start_bootanim]
  have signal : Still [.property_set "dev.defaultclassstarted" "1"] := by simp [Still, playlogos1, start_bootanim]
  have started := still_append (still_append (still_append (liblights_still phone)
    (busybox ["cp", "/sbin/fat.format", "/system/bin/fat.format"])) (scripts_still phone 'S')) (symlinks_still conf phone)
  have mounted := still_append (still_append (still_append started (busybox ["mount", "-o", "remount,ro", "/"]))
    (remount_still conf)) signal
  exact ⟨_, rfl, still_append (still_append (busybox ["mount", "-o", "remount,rw", "/"]) (tweaks_still phone)) mounted⟩

theorem early_rounds_inits (conf : Conf) (ui donepinit : Bool) (polls : List Poll) : Call.ui_init ∉ early_rounds conf ui donepinit polls := by
  induction polls generalizing ui donepinit with
  | nil => simp [early_rounds]
  | cons p rest ih =>
    have kills : Call.ui_init ∉ kill_animations := by decide
    have reboots : ∀ key, Call.ui_init ∉ reboot_if conf key := by
      intro key
      unfold reboot_if
      split <;> simp
    rw [early_rounds]
    simp only [List.mem_append, not_or]
    refine ⟨⟨by split_ifs <;> simp, by split_ifs <;> simp [kills]⟩, ?_⟩
    split
    · simp only [List.mem_append, not_or]
      exact ⟨⟨⟨⟨by split_ifs <;> simp, kills⟩, reboots _⟩, reboots _⟩, reboots _⟩
    · exact ih _ _

/-- A screen that is not on is not hidden. -/
theorem early_rounds_off (off : noscreen conf = true) (ui donepinit : Bool) (polls : List Poll) :
    Call.ui_done ∉ early_rounds conf ui donepinit polls := by
  induction polls generalizing ui donepinit with
  | nil => simp [early_rounds]
  | cons p rest ih =>
    have kills : Call.ui_done ∉ kill_animations := by decide
    have reboots : ∀ key, Call.ui_done ∉ reboot_if conf key := by
      intro key
      unfold reboot_if
      split <;> simp
    rw [early_rounds]
    simp only [off, Bool.not_true, Bool.and_false, Bool.false_and, Bool.false_eq_true, ↓reduceIte, List.mem_append, not_or]
    refine ⟨⟨by simp, by split_ifs <;> simp [kills]⟩, ?_⟩
    split
    · simp only [List.mem_append, not_or]
      exact ⟨⟨⟨⟨by simp, kills⟩, reboots _⟩, reboots _⟩, reboots _⟩
    · exact ih _ _

/-- The screen with the logs stays until the boot is complete. -/
theorem early_rounds_on (on : noscreen conf = false) (stays : shutdownscreen conf = false) (donepinit : Bool) (polls : List Poll) :
    (early_rounds conf true donepinit polls).count .ui_done = if ∃ p ∈ polls, p.bootcomplete = true then 1 else 0 := by
  induction polls generalizing donepinit with
  | nil => simp [early_rounds]
  | cons p rest ih =>
    have kills : kill_animations.count .ui_done = 0 := by decide
    have reboots : ∀ key, (reboot_if conf key).count .ui_done = 0 := by
      intro key
      unfold reboot_if
      split <;> simp
    have first : (if (p.defaultclassstarted && !donepinit) = true then kill_animations else []).count .ui_done = 0 := by
      split
      · exact kills
      · rfl
    rw [early_rounds]
    simp only [on, stays, Bool.not_false, Bool.and_true, Bool.and_false, Bool.false_eq_true, ↓reduceIte,
      List.nil_append, List.count_append, first, Nat.zero_add]
    by_cases complete : p.bootcomplete = true
    · simp [complete, kills, reboots]
    · simp [complete, ih]

theorem service_iff : (∀ line ∈ bootanim_service, line ∈ fix_init conf) ↔ get_conf conf "init.bootanim" = some "2" := by
  constructor
  · intro all
    by_contra other
    have first := all (sed "/service playlogos1/ i\\\nservice bootanim /system/bin/bootanimation" "init.rc") (by decide)
    rw [fix_init, if_neg other] at first
    revert first
    decide
  · intro android line member
    rw [fix_init, if_pos android]
    exact List.mem_append_left _ (List.mem_append_right _ member)

theorem early_inits (phone : Phone) (polls : List Poll) :
    (steam_earlyinit_main conf phone polls).count .ui_init = if noscreen conf then 0 else 1 := by
  have scripts : (initd_scripts phone 'E').count .ui_init = 0 :=
    List.count_eq_zero.mpr fun member => (scripts_still phone 'E' _ member).2.2.1 rfl
  have rounds := List.count_eq_zero.mpr (early_rounds_inits conf (!noscreen conf) false polls)
  rw [steam_earlyinit_main, List.count_append, List.count_append, scripts, rounds]
  split <;> simp

theorem early_dones (phone : Phone) (polls : List Poll) :
    (steam_earlyinit_main conf phone polls).count .ui_done = (early_rounds conf (!noscreen conf) false polls).count .ui_done := by
  have scripts : (initd_scripts phone 'E').count .ui_done = 0 :=
    List.count_eq_zero.mpr fun member => (scripts_still phone 'E' _ member).2.2.2 rfl
  rw [steam_earlyinit_main, List.count_append, List.count_append, scripts]
  split <;> simp

/-- What starts the animation is at the end. -/
theorem postinit_animation (phone : Phone) : (playlogos1 ∈ steam_postinit_main conf phone ↔ playlogos1 ∈ start_animation conf) ∧
    (start_bootanim ∈ steam_postinit_main conf phone ↔ start_bootanim ∈ start_animation conf) := by
  obtain ⟨before, postinit, still⟩ := postinit_still conf phone
  rw [postinit, List.mem_append, List.mem_append]
  exact ⟨or_iff_right fun here => (still _ here).1 rfl, or_iff_right fun here => (still _ here).2.1 rfl⟩

theorem boots_anim (member : g ∈ Setting.bootanim.rows) (holds : Holds conf g) : Boots conf g .bootanim := by
  intro phone polls
  rw [(postinit_animation phone).1, (postinit_animation phone).2, service_iff, early_inits, early_dones]
  have no_logs : noscreen conf = true → (early_rounds conf (!noscreen conf) false polls).count .ui_done = 0 :=
    fun off => List.count_eq_zero.mpr (early_rounds_off off _ _ polls)
  simp only [Setting.rows, List.mem_cons, List.not_mem_nil, or_false] at member
  rcases member with rfl | rfl | rfl
  · have anim : get_conf conf "init.bootanim" = some "0" := holds.value (by decide)
    have graphics : get_conf conf "earlyinit.graphics" = some "1" := holds.value (by decide)
    have on : noscreen conf = false := by simp [noscreen, get_conf_def, graphics]
    have stays : shutdownscreen conf = false := by simp [shutdownscreen, get_conf_def, anim]
    rw [on, Bool.not_false, early_rounds_on on stays]
    simp [start_animation, anim, playlogos1, start_bootanim]
  · have anim : get_conf conf "init.bootanim" = some "1" := holds.value (by decide)
    have graphics : get_conf conf "earlyinit.graphics" = some "0" := holds.value (by decide)
    have off : noscreen conf = true := by simp [noscreen, get_conf_def, graphics, anim]
    rw [no_logs off, off]
    simp [start_animation, anim, playlogos1, start_bootanim]
  · have anim : get_conf conf "init.bootanim" = some "2" := holds.value (by decide)
    have graphics : get_conf conf "earlyinit.graphics" = some "0" := holds.value (by decide)
    have off : noscreen conf = true := by simp [noscreen, get_conf_def, graphics, anim]
    rw [no_logs off, off]
    simp [start_animation, anim, playlogos1, start_bootanim]

theorem boots_radio (radio : s ∈ radios) (member : g ∈ s.rows) (holds : Holds conf g) : Boots conf g s := by
  cases s with
  | adbboot => exact boots_adb member holds
  | adbroot => exact boots_root member holds
  | bootlog => exact boots_log member holds
  | bootanim => exact boots_anim member holds
  | _ => trivial

/-! ### Boxes -/

theorem iosched_paths (phone : Phone) : ∀ k ∈ iosched phone, k.path.toList.take 11 = "/sys/block/".toList := by
  intro k member
  obtain ⟨name, _, listed⟩ := List.mem_flatMap.mp member
  simp only [iosched_device, List.mem_cons, List.not_mem_nil, or_false] at listed
  rcases listed with rfl | rfl | rfl | rfl | rfl <;>
    simp only [String.toList_append, List.append_assoc] <;> rfl

/-- The box that a file is behind. -/
def owner (path : String) : Option Setting :=
  if path.toList.take 11 = "/sys/block/".toList then some .iosched
  else if path ∈ kernelvm.map Knob.path then some .kernelvm
  else if path ∈ kernelsched.map Knob.path then some .kernelsched
  else if path ∈ misc.map Knob.path then some .misc
  else none

theorem owner_knob (phone : Phone) : ∀ k ∈ knobs phone s, owner k.path = some s := by
  cases s with
  | iosched => exact fun k member => if_pos (iosched_paths phone k member)
  | kernelvm => exact (by decide : ∀ k ∈ kernelvm, owner k.path = some .kernelvm)
  | kernelsched => exact (by decide : ∀ k ∈ kernelsched, owner k.path = some .kernelsched)
  | misc => exact (by decide : ∀ k ∈ misc, owner k.path = some .misc)
  | _ => simp [knobs]

theorem writes_to_owner {phone : Phone} {path text : String} (writes : writes_to (knobs phone s) (.write path text) = true) :
    owner path = some s := by
  obtain ⟨k, member, same⟩ := List.any_eq_true.mp writes
  rw [← of_decide_eq_true same]
  exact owner_knob phone k member

/-- Of the files that are turned, those behind a box are its own. -/
theorem turn_filter (phone : Phone) (other : Setting) :
    (turn conf phone (knobs phone other)).filter (writes_to (knobs phone s)) =
      if s = other then turn conf phone (knobs phone s) else [] := by
  split
  · rename_i same
    subst same
    rw [List.filter_eq_self]
    intro call member
    obtain ⟨k, turned, rfl⟩ := List.mem_map.mp member
    exact List.any_eq_true.mpr ⟨k, (List.mem_filter.mp turned).1, decide_eq_true rfl⟩
  · rename_i apart
    rw [List.filter_eq_nil_iff]
    intro call member writes
    obtain ⟨k, turned, rfl⟩ := List.mem_map.mp member
    have own := owner_knob phone k (List.mem_filter.mp turned).1
    rw [writes_to_owner writes] at own
    exact apart (Option.some.inj own)

theorem tweak_filter (conf : Conf) (phone : Phone) (key : String) (other s : Setting) :
    (tweak conf key (turn conf phone (knobs phone other))).filter (writes_to (knobs phone s)) =
      if s = other then tweak conf key (turn conf phone (knobs phone s)) else [] := by
  unfold tweak
  split
  · exact turn_filter phone other
  · simp

/-- The calls behind the tweaks write to no file but that of the backlight. -/
def Unwritten (calls : List Call) : Prop := ∀ path text, .write path text ∈ calls → path = bln_enabled

theorem unwritten_append {one other : List Call} (first : Unwritten one) (second : Unwritten other) : Unwritten (one ++ other) := by
  intro path text member
  rcases List.mem_append.mp member with here | there
  · exact first path text here
  · exact second path text there

theorem unwritten_filter {calls : List Call} (unwritten : Unwritten calls) (phone : Phone) :
    calls.filter (writes_to (knobs phone s)) = [] := by
  rw [List.filter_eq_nil_iff]
  intro call member writes
  cases call with
  | write path text =>
    have own := writes_to_owner writes
    rw [unwritten path text member] at own
    have none : owner bln_enabled = none := by decide
    rw [none] at own
    cases own
  | _ => cases writes

theorem postinit_filter (phone : Phone) : (steam_postinit_main conf phone).filter (writes_to (knobs phone s)) =
    (tweaks conf phone).filter (writes_to (knobs phone s)) := by
  have busybox : ∀ args, Unwritten [.call_busybox args] := by simp [Unwritten]
  have lights : Unwritten (liblights phone) := by
    unfold liblights
    split_ifs <;> simp [Unwritten]
  have scripts : Unwritten (initd_scripts phone 'S') := by simp [Unwritten, initd_scripts]
  have symlinks : Unwritten (rmsymlinks conf phone) := by
    unfold rmsymlinks
    split <;> simp [Unwritten]
  have remounted : Unwritten (remount_ro conf) := by
    unfold remount_ro
    split_ifs <;> simp [Unwritten, remount_system]
  have signal : Unwritten [.property_set "dev.defaultclassstarted" "1"] := by simp [Unwritten]
  have animation : Unwritten (start_animation conf) := by
    unfold start_animation
    split_ifs <;> simp [Unwritten, start_bootanim, playlogos1]
  have started := unwritten_append (unwritten_append (unwritten_append (unwritten_append (unwritten_append (unwritten_append lights
    (busybox ["cp", "/sbin/fat.format", "/system/bin/fat.format"])) scripts) symlinks)
    (busybox ["mount", "-o", "remount,ro", "/"])) remounted) signal
  rw [steam_postinit_main, List.filter_append, List.filter_append, List.filter_append,
    unwritten_filter (busybox ["mount", "-o", "remount,rw", "/"]), unwritten_filter started, unwritten_filter animation,
    List.nil_append, List.append_nil, List.append_nil]

theorem tweaks_filter (phone : Phone) : (tweaks conf phone).filter (writes_to (knobs phone s)) =
    (if s = .iosched then tweak conf "tweaks.iosched" (turn conf phone (knobs phone s)) else []) ++
    (if s = .kernelvm then tweak conf "tweaks.kernelvm" (turn conf phone (knobs phone s)) else []) ++
    (if s = .kernelsched then tweak conf "tweaks.kernelsched" (turn conf phone (knobs phone s)) else []) ++
    (if s = .misc then tweak conf "tweaks.misc" (turn conf phone (knobs phone s)) else []) := by
  have filtered := fun key other => tweak_filter conf phone key other s
  rw [tweaks, List.filter_append, List.filter_append, List.filter_append]
  exact congrArg₂ _ (congrArg₂ _ (congrArg₂ _ (filtered _ .iosched) (filtered _ .kernelvm)) (filtered _ .kernelsched))
    (filtered _ .misc)

theorem remounted_iff (phone : Phone) : remount_system ∈ steam_postinit_main conf phone ↔ remount_system ∈ remount_ro conf := by
  have turned : ∀ key knobs, remount_system ∉ tweak conf key (turn conf phone knobs) := by
    intro key knobs
    unfold tweak turn
    split <;> simp [remount_system]
  have lights : remount_system ∉ liblights phone := by
    unfold liblights
    split_ifs <;> simp [remount_system]
  have scripts : remount_system ∉ initd_scripts phone 'S' := by simp [initd_scripts, remount_system]
  have symlinks : remount_system ∉ rmsymlinks conf phone := by
    unfold rmsymlinks
    split <;> simp [remount_system]
  have animation : remount_system ∉ start_animation conf := by
    unfold start_animation
    split_ifs <;> simp [remount_system, start_bootanim, playlogos1]
  have others : ∀ args, args.length ≠ 5 → remount_system ∉ [Call.call_busybox args] := by
    intro args length
    rw [List.mem_singleton]
    rintro same
    cases same
    exact length rfl
  simp only [steam_postinit_main, tweaks, List.mem_append, turned, lights, scripts, symlinks, animation, or_false, false_or,
    others ["cp", "/sbin/fat.format", "/system/bin/fat.format"] (by decide),
    others ["mount", "-o", "remount,ro", "/"] (by decide), others ["mount", "-o", "remount,rw", "/"] (by decide)]
  refine or_iff_left ?_
  simp [remount_system]

theorem boots_box (box : s ∈ boxes) {key : String} (keys : s.keys = [key]) {on : Bool}
    (value : get_conf conf key = some (if on then "1" else "0")) : BoxBoots conf on s := by
  intro phone
  have asked : get_conf_def conf key "0" = "1" ↔ on = true := by
    rw [get_conf_def, value]
    cases on <;> decide
  have tweaked : ∀ calls, tweak conf key calls = if on then calls else [] := by
    intro calls
    simp [tweak, asked]
  cases s with
  | iosched =>
    cases keys
    simp [postinit_filter, tweaks_filter, tweaked]
  | kernelvm =>
    cases keys
    simp [postinit_filter, tweaks_filter, tweaked]
  | kernelsched =>
    cases keys
    simp [postinit_filter, tweaks_filter, tweaked]
  | misc =>
    cases keys
    simp [postinit_filter, tweaks_filter, tweaked]
  | sysrw =>
    cases keys
    have default : get_conf_def conf "fs.system.ro" "1" = "1" ↔ on = true := by
      rw [get_conf_def, value]
      cases on <;> decide
    simp [remounted_iff, remount_ro, default]
  | _ => simp [boxes] at box

/-! ### A session and the boot behind it -/

theorem reloaded_get (saved : Saved conf) (key : String) : get_conf (init_conf conf).1 key = get_conf conf key := by
  rw [get_conf, read_conf, saved.reloads]
  rfl

end

/-- ADB is always to be on, and the IO scheduler to be tweaked. -/
def adb_choices : List Nat := [4, 19]

def adb_conf : Conf := [3, 16].foldl press (init_conf version_conf).1

end SteamRecovery.BootTweaks
