import SteamRecovery.ConfigFiles

/-!
Stage 4 of the init (`steam_init_main` in `init.c`): the versions in the saved
configuration are compared with those that came with the kernel. An upgrade puts
the kernel's configuration in front of the saved one, so what the kernel sets wins
and the rest is kept, and the next boot finds nothing to upgrade
(`upgrade_steam_settles`).
-/
namespace SteamRecovery.Upgrade
open SteamRecovery.Config
open SteamRecovery.ConfigFiles

/-- `version[0]='\0'; get_conf_ro_from(file,key,version);` -/
def version_of (file : Option String) (key : String) : String := (get_conf_ro_from file key).getD ""

/-- The versions in `CONFIG_SYSTEM` are not those in `CONFIG_SBIN`. -/
def diff (sbin system : Option String) : Bool :=
  decide (version_of sbin "steam.version" ≠ version_of system "steam.version") ||
  decide (version_of sbin "steam.variant" ≠ version_of system "steam.variant") ||
  decide (version_of sbin "steam.variant.version" ≠ version_of system "steam.variant.version")

/-- `cp CONFIG_SBIN CONFIG_SYSTEM` behind `rm`, and `touch CONFIG_SYSTEM`. -/
def copy_sbin (sbin : Option String) (conf : Conf) : Conf := { conf with system_file := some (sbin.getD "") }

/-- `cat CONFIG_SBIN CONFIG_SYSTEM.old > CONFIG_SYSTEM` behind `mv`. -/
def concat_sbin (sbin : Option String) (conf : Conf) : Conf :=
  { conf with system_file := some (sbin.getD "" ++ conf.system_file.getD "") }

def install_steam (sbin : Option String) (conf : Conf) : Conf :=
  set_conf (init_conf (copy_sbin sbin conf)).1 "steam.installation" (some "1")

def upgrade_steam (sbin : Option String) (conf : Conf) : Conf :=
  let version := version_of conf.system_file "steam.version"
  let variant := version_of conf.system_file "steam.variant"
  let varvers := version_of conf.system_file "steam.variant.version"
  let conf := (init_conf (concat_sbin sbin conf)).1
  let conf := set_conf conf "steam.old.version" (some version)
  let conf := set_conf conf "steam.old.variant" (some variant)
  let conf := set_conf conf "steam.old.variant.version" (some varvers)
  set_conf conf "steam.upgrade" (some "1")

/-- The whole stage, where `chosen_item` is the answer if a menu is shown. -/
def check_for_steam (sbin : Option String) (chosen_item : Nat) (conf : Conf) : Conf :=
  match conf.system_file with
  | none => if chosen_item = 0 then install_steam sbin conf else (init_conf conf).1
  | some text =>
    if text.length < 10 then
      if chosen_item = 0 then install_steam sbin conf else (init_conf conf).1
    else if diff sbin conf.system_file then
      if chosen_item = 0 then upgrade_steam sbin conf
      else if chosen_item = 1 then install_steam sbin conf
      else (init_conf conf).1
    else (init_conf conf).1

/-- The keys that an upgrade sets on its own. -/
def upgrade_keys : List String :=
  ["steam.old.version", "steam.old.variant", "steam.old.variant.version", "steam.upgrade"]

/-- A configuration as the kernel ships it. -/
structure Shipped (sbin : String) : Prop where
  ends : ∃ text, sbin.toList = text ++ ['\n']
  version : get_conf_ro_from (some sbin) "steam.version" ≠ none
  variant : get_conf_ro_from (some sbin) "steam.variant" ≠ none
  variant_version : get_conf_ro_from (some sbin) "steam.variant.version" ≠ none

theorem version_of_plain (file : Option String) (key : String) : PlainValue (version_of file key) := by
  unfold version_of
  cases found : get_conf_ro_from file key with
  | none => exact ⟨⟨by decide, by decide⟩, by decide⟩
  | some value => exact get_conf_ro_from_plain found

/-- Behind a file that ends in a newline, another one is read as if it stood alone. -/
theorem conf_lines_concat {first : String} (ends : ∃ text, first.toList = text ++ ['\n']) (second : String) :
    conf_lines (first ++ second) = conf_lines first ++ conf_lines second := by
  obtain ⟨text, ending⟩ := ends
  unfold conf_lines
  rw [String.toList_append, ending, List.append_assoc, List.singleton_append, CStrings.pieces_append]

theorem read_conf_concat {sbin old : String} (ends : ∃ text, sbin.toList = text ++ ['\n']) {conf : Conf}
    (file : conf.system_file = some old) (key : String) :
    read_conf (init_conf (concat_sbin (some sbin) conf)).1 key =
      (get_conf_ro_from (some sbin) key).or (get_conf_ro_from (some old) key) := by
  have text : (concat_sbin (some sbin) conf).system_file = some (sbin ++ old) := by
    simp [concat_sbin, file]
  simp only [read_conf, init_conf, text, read_load, read_entries, Option.none_or]
  rw [conf_lines_concat ends, find_entry_append]
  rfl

theorem upgrade_steam_other {key : String} (other : key ∉ upgrade_keys) (sbin : Option String) (conf : Conf) :
    read_conf (upgrade_steam sbin conf) key = read_conf (init_conf (concat_sbin sbin conf)).1 key := by
  simp only [upgrade_keys, List.mem_cons, List.not_mem_nil, or_false, not_or] at other
  obtain ⟨version, variant, varvers, upgrade⟩ := other
  unfold upgrade_steam
  rw [read_conf_set_other _ upgrade, read_conf_set_other _ varvers, read_conf_set_other _ variant,
    read_conf_set_other _ version]

theorem upgrade_key_plain {key : String} (member : key ∈ upgrade_keys) : PlainKey key := by
  have checked : ∀ k ∈ upgrade_keys, ('\x00' ∉ k.toList ∧ k.length < KEY_MAX_LENGTH) ∧
      '=' ∉ k.toList ∧ '\n' ∉ k.toList ∧ k.toList.head? ≠ some '#' := by decide
  obtain ⟨⟨clean, short⟩, no_equals, one_line, no_comment⟩ := checked key member
  exact ⟨⟨clean, short⟩, no_equals, one_line, no_comment⟩

theorem set_upgrade_key {conf : Conf} (plain : AllPlain conf) (key : String) {value : String}
    (plain_value : PlainValue value) (member : key ∈ upgrade_keys) : AllPlain (set_conf conf key (some value)) := by
  refine set_conf_plain plain (upgrade_key_plain member) ?_
  rintro v ⟨⟩
  exact plain_value

theorem upgrade_steam_plain (sbin : Option String) (conf : Conf) : AllPlain (upgrade_steam sbin conf) := by
  have loaded := init_conf_plain (concat_sbin sbin conf)
  have version := set_upgrade_key loaded "steam.old.version"
    (version_of_plain conf.system_file "steam.version") (by decide)
  have variant := set_upgrade_key version "steam.old.variant"
    (version_of_plain conf.system_file "steam.variant") (by decide)
  have varvers := set_upgrade_key variant "steam.old.variant.version"
    (version_of_plain conf.system_file "steam.variant.version") (by decide)
  exact set_upgrade_key varvers "steam.upgrade" ⟨⟨by decide, by decide⟩, by decide⟩ (by decide)

theorem upgrade_steam_saved (sbin : Option String) {conf : Conf} (writable : conf.writable = true) :
    (upgrade_steam sbin conf).system_file = some (print_entries (upgrade_steam sbin conf).entries) := by
  unfold upgrade_steam
  exact set_conf_saved (by simp [concat_sbin]) (by simpa [concat_sbin] using writable) _ _

/-- After an upgrade, the version in the file is the kernel's. -/
theorem version_of_upgraded {sbin old : String} (ends : ∃ text, sbin.toList = text ++ ['\n']) {conf : Conf}
    (file : conf.system_file = some old) (writable : conf.writable = true) {key : String}
    (other : key ∉ upgrade_keys) (shipped : get_conf_ro_from (some sbin) key ≠ none) :
    version_of (upgrade_steam (some sbin) conf).system_file key = version_of (some sbin) key := by
  obtain ⟨value, found⟩ := Option.ne_none_iff_exists'.mp shipped
  have stored := upgrade_steam_other other (some sbin) conf
  rw [read_conf_concat ends file, found, Option.some_or] at stored
  rw [version_of, version_of, upgrade_steam_saved _ writable, get_conf_ro_from_saved (upgrade_steam_plain _ conf),
    found]
  exact congrArg (Option.getD · "") stored

theorem diff_upgraded {sbin old : String} (shipped : Shipped sbin) {conf : Conf}
    (file : conf.system_file = some old) (writable : conf.writable = true) :
    diff (some sbin) (upgrade_steam (some sbin) conf).system_file = false := by
  obtain ⟨ends, version, variant, variant_version⟩ := shipped
  unfold diff
  rw [version_of_upgraded ends file writable (by decide) version,
    version_of_upgraded ends file writable (by decide) variant,
    version_of_upgraded ends file writable (by decide) variant_version]
  simp

/-- An upgrade keeps what the kernel does not set, and the versions of the next
    boot are the kernel's. -/
theorem upgrade_steam_settles {sbin old : String} (shipped : Shipped sbin) {conf : Conf}
    (file : conf.system_file = some old) (writable : conf.writable = true) :
    (∀ key, key ∉ upgrade_keys → read_conf (upgrade_steam (some sbin) conf) key =
      (get_conf_ro_from (some sbin) key).or (get_conf_ro_from (some old) key)) ∧
    diff (some sbin) (upgrade_steam (some sbin) conf).system_file = false := by
  refine ⟨?_, diff_upgraded shipped file writable⟩
  intro key other
  rw [upgrade_steam_other other, read_conf_concat shipped.ends file]

def kernel_conf : String := "steam.version=1.1\nsteam.variant=oc\nsteam.variant.version=3\n"

def saved_conf : Conf where
  entries := []
  distinct := List.nodup_nil
  system_file := some "steam.version=1.0\nfs.data.type=4\n"
  writable := true
  get_conf_ro := get_conf_ro_from (some kernel_conf)

theorem kernel_conf_settles :
    (∀ key, key ∉ upgrade_keys → read_conf (upgrade_steam (some kernel_conf) saved_conf) key =
      (get_conf_ro_from (some kernel_conf) key).or
        (get_conf_ro_from (some "steam.version=1.0\nfs.data.type=4\n") key)) ∧
    diff (some kernel_conf) (upgrade_steam (some kernel_conf) saved_conf).system_file = false :=
  upgrade_steam_settles
    ⟨⟨"steam.version=1.1\nsteam.variant=oc\nsteam.variant.version=3".toList, by decide⟩, by decide, by decide,
      by decide⟩ rfl rfl

/-! ### The whole stage -/

/-- The stage upgrades where there are other versions and the user agrees. -/
theorem check_for_steam_upgrades {sbin : Option String} {conf : Conf} {old : String}
    (file : conf.system_file = some old) (long : 10 ≤ old.length) (other : diff sbin (some old) = true) :
    check_for_steam sbin 0 conf = upgrade_steam sbin conf := by
  unfold check_for_steam
  simp only [file, if_neg (Nat.not_lt.mpr long), other, ↓reduceIte]

theorem print_entries_length {entries : List (String × String)} {n : String × String} (member : n ∈ entries) :
    n.1.length ≤ (print_entries entries).length := by
  induction entries with
  | nil => cases member
  | cons m rest ih =>
    rw [← String.length_toList (s := print_entries (m :: rest)), print_entries_cons]
    simp only [List.length_append, List.length_cons, String.length_toList]
    rcases List.mem_cons.mp member with rfl | later
    · omega
    · have := ih later
      omega

theorem upgraded_length {sbin old : String} (shipped : Shipped sbin) {conf : Conf}
    (file : conf.system_file = some old) :
    10 ≤ (print_entries (upgrade_steam (some sbin) conf).entries).length := by
  obtain ⟨value, found⟩ := Option.ne_none_iff_exists'.mp shipped.version
  have other : "steam.version" ∉ upgrade_keys := by decide
  have stored := upgrade_steam_other other (some sbin) conf
  rw [read_conf_concat shipped.ends file, found, Option.some_or] at stored
  have listed : "steam.version" ∈ (upgrade_steam (some sbin) conf).entries.map Prod.fst := by
    by_contra absent
    rw [read_conf, read_entries_none.mpr absent] at stored
    cases stored
  obtain ⟨n, member, key⟩ := List.mem_map.mp listed
  have long := print_entries_length member
  rw [key] at long
  exact Nat.le_trans (by decide) long

/-- Behind an upgrade, the next boot only loads what was saved. -/
theorem check_for_steam_settled {sbin old : String} (shipped : Shipped sbin) {conf : Conf}
    (file : conf.system_file = some old) (writable : conf.writable = true) (chosen_item : Nat) :
    (check_for_steam (some sbin) chosen_item (upgrade_steam (some sbin) conf)).entries =
      (upgrade_steam (some sbin) conf).entries := by
  have saved := upgrade_steam_saved (some sbin) writable
  have long := upgraded_length shipped file
  have settled := diff_upgraded shipped file writable
  rw [saved] at settled
  unfold check_for_steam
  simp only [saved, if_neg (Nat.not_lt.mpr long), settled, Bool.false_eq_true, ↓reduceIte]
  exact load_saved (upgrade_steam_plain _ conf) saved

end SteamRecovery.Upgrade
