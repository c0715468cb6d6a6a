import Mathlib.Data.List.Nodup
import Mathlib.Data.List.TakeWhile
import SteamRecovery.Devices
import SteamRecovery.Numerals

/-!
The configuration (`config.c`): a list of keys and values in memory, written out
to `CONFIG_SYSTEM` after every change, over the read-only values of `CONFIG_SBIN`.
No key occurs twice. A write is read back (`get_conf_set_self`), and leaves every
other key alone (`get_conf_set_other`), save that a write to an empty list stores
nothing (`set_conf_empty`).
-/
namespace SteamRecovery.Config
open SteamRecovery.Devices (CInt)
open SteamRecovery.Numerals (isspace scan stored_printed)

/-- The list behind `firstconf`, the file it is saved to, and the values that
    `get_conf_ro` finds. -/
structure Conf where
  entries : List (String × String)
  distinct : (entries.map Prod.fst).Nodup
  /-- The text of `CONFIG_SYSTEM`, where that file exists. -/
  system_file : Option String
  /-- `fopen(CONFIG_SYSTEM,"w+")` succeeds. -/
  writable : Bool
  get_conf_ro : String → Option String

/-- The loop of `read_conf` over the list. -/
def read_entries (key : String) : List (String × String) → Option String
  | [] => none
  | (k, v) :: rest => if key = k then some v else read_entries key rest

def read_conf (conf : Conf) (key : String) : Option String := read_entries key conf.entries

/-- The loop of `write_conf` over the list, and whether it stored the value. A new
    key is appended at the last node and assigned when the loop reaches it. -/
def write_entries (key : String) (value : Option String) : List (String × String) → List (String × String) × Bool
  | [] => ([], false)
  | (k, v) :: rest =>
    if key = k then
      match value with
      | some new => ((k, new) :: rest, true)
      | none => (rest, false)
    else if rest.isEmpty then
      match value with
      | some new => ([(k, v), (key, new)], true)
      | none => ([(k, v)], false)
    else
      let (rest, found) := write_entries key value rest
      ((k, v) :: rest, found)

/-- `fprintf(f,"%s=%s\n",n->key,n->value)` for every node. -/
def print_entries (entries : List (String × String)) : String :=
  String.join (entries.map fun n => n.1 ++ "=" ++ n.2 ++ "\n")

theorem write_entries_keys (key : String) (value : Option String) (entries : List (String × String)) :
    ((write_entries key value entries).1.map Prod.fst) = entries.map Prod.fst ∨
      ((write_entries key value entries).1.map Prod.fst) = (entries.map Prod.fst).erase key ∨
      (key ∉ entries.map Prod.fst ∧
        ((write_entries key value entries).1.map Prod.fst) = entries.map Prod.fst ++ [key]) := by
  fun_induction write_entries key value entries with
  | case1 => exact .inl rfl
  | case2 v rest new => exact .inl rfl
  | case3 v rest => exact .inr (.inl (by simp))
  | case4 k v rest other last new =>
    rw [List.isEmpty_iff.mp last]
    exact .inr (.inr ⟨by simpa using other, rfl⟩)
  | case5 k v rest other last =>
    rw [List.isEmpty_iff.mp last]
    exact .inl rfl
  | case6 k v rest other _ tail found step ih =>
    rw [step] at ih
    rcases ih with same | erased | ⟨absent, appended⟩
    · exact .inl (by simp [same])
    · exact .inr (.inl (by simp [erased, List.erase_cons_tail, Ne.symm other]))
    · exact .inr (.inr ⟨by simpa [other] using absent, by simp [appended]⟩)

theorem write_entries_distinct {key : String} {value : Option String} {entries : List (String × String)}
    (distinct : (entries.map Prod.fst).Nodup) : ((write_entries key value entries).1.map Prod.fst).Nodup := by
  rcases write_entries_keys key value entries with same | erased | ⟨absent, appended⟩
  · rwa [same]
  · rw [erased]
    exact distinct.erase key
  · rw [appended]
    exact List.nodup_append.mpr ⟨distinct, List.nodup_singleton key, by
      intro k member _ single
      rw [List.mem_singleton.mp single]
      exact fun same => absent (same ▸ member)⟩

/-- The new configuration, and whether the value was stored. -/
def write_conf (conf : Conf) (key : String) (value : Option String) : Conf × Bool :=
  let written := write_entries key value conf.entries
  ({ conf with
      entries := written.1
      distinct := write_entries_distinct conf.distinct
      system_file := conf.system_file.map fun before => if conf.writable then print_entries written.1 else before },
    written.2)

def get_conf (conf : Conf) (key : String) : Option String :=
  match read_conf conf key with
  | some value => some value
  | none => conf.get_conf_ro key

def get_conf_def (conf : Conf) (key default : String) : String := (get_conf conf key).getD default

def set_conf (conf : Conf) (key : String) (value : Option String) : Conf := (write_conf conf key value).1

/-! ### Reading what was written -/

theorem read_entries_absent {key : String} {entries : List (String × String)}
    (absent : key ∉ entries.map Prod.fst) : read_entries key entries = none := by
  induction entries with
  | nil => rfl
  | cons n rest ih =>
    rw [List.map_cons, List.mem_cons, not_or] at absent
    rw [read_entries, if_neg absent.1, ih absent.2]

theorem read_write_self (key new : String) {entries : List (String × String)} (some_entry : entries ≠ []) :
    read_entries key (write_entries key (some new) entries).1 = some new := by
  induction entries with
  | nil => exact absurd rfl some_entry
  | cons n rest ih =>
    by_cases same : key = n.1
    · simp [write_entries, read_entries, same]
    · cases rest with
      | nil => simp [write_entries, read_entries, same]
      | cons m tail => simpa [write_entries, read_entries, same] using ih (List.cons_ne_nil m tail)

theorem read_write_other {key other : String} (apart : other ≠ key) (value : Option String)
    (entries : List (String × String)) :
    read_entries other (write_entries key value entries).1 = read_entries other entries := by
  fun_induction write_entries key value entries with
  | case1 => rfl
  | case2 v rest new => simp [read_entries, apart]
  | case3 v rest => simp [read_entries, apart]
  | case4 k v rest _ last new =>
    rw [List.isEmpty_iff.mp last]
    simp [read_entries, apart]
  | case5 k v rest _ last => rw [List.isEmpty_iff.mp last]
  | case6 k v rest _ _ tail found step ih =>
    rw [step] at ih
    simp only [read_entries, ih]

theorem read_write_removed {key : String} {entries : List (String × String)}
    (distinct : (entries.map Prod.fst).Nodup) : read_entries key (write_entries key none entries).1 = none := by
  induction entries with
  | nil => rfl
  | cons n rest ih =>
    obtain ⟨fresh, distinct⟩ := List.nodup_cons.mp distinct
    by_cases same : key = n.1
    · simpa [write_entries, same] using read_entries_absent fresh
    · cases rest with
      | nil => simp [write_entries, read_entries, same]
      | cons m tail => simpa [write_entries, read_entries, same] using ih distinct

theorem write_entries_nonempty (key new : String) {entries : List (String × String)} (some_entry : entries ≠ []) :
    (write_entries key (some new) entries).1 ≠ [] := by
  intro none
  have stored := read_write_self key new some_entry
  rw [none] at stored
  cases stored

theorem set_conf_empty {conf : Conf} (empty : conf.entries = []) (key : String) (value : Option String) :
    (set_conf conf key value).entries = [] := by
  simp only [set_conf, write_conf, empty, write_entries]

theorem set_conf_nonempty {conf : Conf} (some_entry : conf.entries ≠ []) (key value : String) :
    (set_conf conf key (some value)).entries ≠ [] :=
  write_entries_nonempty key value some_entry

theorem write_entries_removes (key : String) (entries : List (String × String)) :
    (write_entries key none entries).1.map Prod.fst = (entries.map Prod.fst).erase key := by
  induction entries with
  | nil => rfl
  | cons n rest ih =>
    by_cases same : key = n.1
    · simp [write_entries, same]
    · cases rest with
      | nil => simp [write_entries, same, List.erase_cons_tail, Ne.symm same]
      | cons m tail => simpa [write_entries, same, List.erase_cons_tail, Ne.symm same] using ih

/-- A removed key is gone, and every other key is still stored. -/
theorem set_conf_stored (conf : Conf) (key k : String) :
    k ∈ (set_conf conf key none).entries.map Prod.fst ↔ k ≠ key ∧ k ∈ conf.entries.map Prod.fst := by
  simp only [set_conf, write_conf, write_entries_removes]
  exact conf.distinct.mem_erase_iff

theorem read_conf_set_self {conf : Conf} (some_entry : conf.entries ≠ []) (key value : String) :
    read_conf (set_conf conf key (some value)) key = some value :=
  read_write_self key value some_entry

theorem read_conf_set_other (conf : Conf) {key other : String} (apart : other ≠ key) (value : Option String) :
    read_conf (set_conf conf key value) other = read_conf conf other :=
  read_write_other apart value conf.entries

theorem get_conf_set_self {conf : Conf} (some_entry : conf.entries ≠ []) (key value : String) :
    get_conf (set_conf conf key (some value)) key = some value := by
  rw [get_conf, read_conf_set_self some_entry]

theorem get_conf_set_other (conf : Conf) {key other : String} (apart : other ≠ key) (value : Option String) :
    get_conf (set_conf conf key value) other = get_conf conf other := by
  rw [get_conf, read_conf_set_other conf apart, get_conf]
  rfl

/-! ### Numbers in the configuration -/

/-- `sprintf(value,"%d",n)`. -/
def sprintf_d (n : CInt) : String := n.toInt.repr

/-- What `sscanf(value,"%d",&n)` stores in `n`, where it returns 1. -/
def sscanf_d (value : String) : Option CInt :=
  (scan .d (value.toList.dropWhile isspace)).map fun (n, _) => n.stored .d

/-- A number that was printed is read back. -/
theorem sscanf_sprintf (n : CInt) : sscanf_d (sprintf_d n) = some n := stored_printed n

end SteamRecovery.Config
