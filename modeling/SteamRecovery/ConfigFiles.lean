import SteamRecovery.CStrings
import SteamRecovery.Config

/-!
Configuration files (`init_conf` and `get_conf_ro_from` in `config.c`). A character
stands for a byte. Every key and value that is read stands in one line, so a list
that is written out is read back as it was (`init_conf_reload`). Over a run of
`set_conf` the list is a finite map as long as nothing is stored in an empty list
(`finite_map_iff`).
-/
namespace SteamRecovery.ConfigFiles
open SteamRecovery.CStrings
open SteamRecovery.Config

def KEY_MAX_LENGTH : Nat := 96
def VALUE_MAX_LENGTH : Nat := 96

/-- The texts that `fgets(r,KEY_MAX_LENGTH+VALUE_MAX_LENGTH+3,f)` puts into `r`. -/
def conf_lines (text : String) : List (List Char) :=
  pieces '\n' (KEY_MAX_LENGTH + VALUE_MAX_LENGTH + 2) [] text.toList

/-- `if (fp[strlen(fp)-1]=='\n') fp[strlen(fp)-1]='\0';`, behind the `=` at `fp`. -/
def chomp (fp : List Char) : List Char := if fp.getLast? = some '\n' then fp.dropLast else fp

/-- The key and the value in a line, unless it is a comment, has no `=` or does not
    fit into the buffers. -/
def conf_entry (r : List Char) : Option (String × String) :=
  let r := c_string '\x00' r
  if r.head? = some '#' then none
  else
    match r.dropWhile (· ≠ '=') with
    | [] => none
    | _ :: fp =>
      let key := r.takeWhile (· ≠ '=')
      let value := chomp fp
      if key.length < KEY_MAX_LENGTH ∧ value.length < VALUE_MAX_LENGTH then
        some (String.ofList key, String.ofList value)
      else none

/-- The loop of `get_conf_ro_from` over the lines. -/
def find_entry (key : String) : List (List Char) → Option String
  | [] => none
  | r :: rest =>
    match conf_entry r with
    | some (k, v) => if k = key then some v else find_entry key rest
    | none => find_entry key rest

/-- The value of the key in the file with the given text, if that exists. -/
def get_conf_ro_from (file : Option String) (key : String) : Option String :=
  match file with
  | some text => find_entry key (conf_lines text)
  | none => none

/-- The loop of `init_conf` over the lines, behind what is loaded so far. -/
def load_entries (loaded : List (String × String)) : List (List Char) → List (String × String)
  | [] => loaded
  | r :: rest =>
    match conf_entry r with
    | some (k, v) =>
      if read_entries k loaded = none then load_entries (loaded ++ [(k, v)]) rest
      else load_entries loaded rest
    | none => load_entries loaded rest

/-! ### What is loaded -/

theorem read_entries_none {key : String} {entries : List (String × String)} :
    read_entries key entries = none ↔ key ∉ entries.map Prod.fst := by
  induction entries with
  | nil => simp [read_entries]
  | cons n rest ih =>
    by_cases same : key = n.1
    · simp [read_entries, same]
    · simp [read_entries, same, ih]

theorem load_entries_distinct {loaded : List (String × String)} (distinct : (loaded.map Prod.fst).Nodup)
    (lines : List (List Char)) : ((load_entries loaded lines).map Prod.fst).Nodup := by
  fun_induction load_entries loaded lines with
  | case1 loaded => exact distinct
  | case2 loaded r rest k v entry fresh ih =>
    refine ih ?_
    have absent : k ∉ loaded.map Prod.fst := read_entries_none.mp fresh
    rw [List.map_append, List.nodup_append]
    refine ⟨distinct, List.nodup_singleton k, ?_⟩
    intro other member last single same
    rw [same, List.mem_singleton.mp single] at member
    exact absent member
  | case3 loaded r rest k v entry old ih => exact ih distinct
  | case4 loaded r rest no_entry ih => exact ih distinct

/-- The configuration behind `init_conf`, and how many values it found. -/
def init_conf (conf : Conf) : Conf × Nat :=
  let lines := match conf.system_file with
    | some text => conf_lines text
    | none => []
  ({ conf with
      entries := load_entries [] lines
      distinct := load_entries_distinct (show (List.map Prod.fst []).Nodup from List.nodup_nil) lines },
    (load_entries [] lines).length)

theorem read_entries_append (key : String) (first second : List (String × String)) :
    read_entries key (first ++ second) = (read_entries key first).or (read_entries key second) := by
  induction first with
  | nil => rfl
  | cons n rest ih =>
    by_cases same : key = n.1
    · simp [read_entries, same]
    · simp [read_entries, same, ih]

/-- What is loaded already is kept, and for the other keys the first line counts. -/
theorem read_load (key : String) (loaded : List (String × String)) (lines : List (List Char)) :
    read_entries key (load_entries loaded lines) = (read_entries key loaded).or (find_entry key lines) := by
  fun_induction load_entries loaded lines with
  | case1 loaded => simp [find_entry]
  | case2 loaded r rest k v entry fresh ih =>
    rw [ih, read_entries_append, find_entry, entry]
    by_cases same : key = k
    · simp [read_entries, same, fresh]
    · simp [read_entries, same, Ne.symm same]
  | case3 loaded r rest k v entry old ih =>
    rw [ih, find_entry, entry]
    by_cases same : key = k
    · obtain ⟨stored, here⟩ := Option.ne_none_iff_exists'.mp old
      simp [same, here]
    · simp [Ne.symm same]
  | case4 loaded r rest no_entry ih => rw [ih, find_entry, no_entry]

theorem find_entry_append (key : String) (first second : List (List Char)) :
    find_entry key (first ++ second) = (find_entry key first).or (find_entry key second) := by
  induction first with
  | nil => simp [find_entry]
  | cons r rest ih =>
    rw [List.cons_append, find_entry, find_entry]
    cases conf_entry r with
    | none => exact ih
    | some n =>
      by_cases same : n.1 = key
      · simp [same]
      · simpa [same] using ih

/-! ### Plain entries -/

/-- A C string that fits into a buffer of the given size. -/
structure Fits (size : Nat) (text : String) : Prop where
  clean : '\x00' ∉ text.toList
  short : text.length < size

/-- A key that can stand in front of the `=` in a line. -/
structure PlainKey (key : String) : Prop extends Fits KEY_MAX_LENGTH key where
  no_equals : '=' ∉ key.toList
  one_line : '\n' ∉ key.toList
  no_comment : key.toList.head? ≠ some '#'

structure PlainValue (value : String) : Prop extends Fits VALUE_MAX_LENGTH value where
  one_line : '\n' ∉ value.toList

structure PlainEntry (n : String × String) : Prop where
  key : PlainKey n.1
  value : PlainValue n.2

theorem chomp_subset (fp : List Char) : chomp fp ⊆ fp := by
  unfold chomp
  split
  · exact List.dropLast_subset fp
  · exact List.Subset.refl fp

theorem chomp_newline (value : List Char) : chomp (value ++ ['\n']) = value := by
  simp [chomp]

theorem chomp_one_line {fp : List Char} (one_line : '\n' ∉ fp.dropLast) : '\n' ∉ chomp fp := by
  unfold chomp
  split
  · exact one_line
  · rename_i other
    intro member
    obtain ⟨text, last, rfl⟩ := (List.eq_nil_or_concat' fp).resolve_left (List.ne_nil_of_mem member)
    rw [List.dropLast_concat] at one_line
    rcases List.mem_append.mp member with inside | here
    · exact one_line inside
    · rw [List.mem_singleton.mp here, List.getLast?_concat] at other
      exact other rfl

/-- Whatever is read from one line is plain. -/
theorem conf_entry_plain {r : List Char} {n : String × String} (one_line : '\n' ∉ r.dropLast)
    (entry : conf_entry r = some n) : PlainEntry n := by
  have clean : '\x00' ∉ c_string '\x00' r := c_string_clean r
  have shorter : '\n' ∉ (c_string '\x00' r).dropLast := c_string_one_line one_line
  simp only [conf_entry] at entry
  generalize c_string '\x00' r = line at clean shorter entry
  have no_equals : '=' ∉ line.takeWhile (· ≠ '=') := c_string_clean line
  have whole : line.takeWhile (· ≠ '=') ++ line.dropWhile (· ≠ '=') = line := List.takeWhile_append_dropWhile
  split at entry
  · cases entry
  rename_i no_comment
  split at entry
  · cases entry
  rename_i equals fp found
  rw [found] at whole
  generalize line.takeWhile (· ≠ '=') = key at whole entry no_equals
  split at entry
  · rename_i fits
    cases entry
    rw [← whole, List.dropLast_append_cons, List.mem_append, not_or] at shorter
    rw [← whole, List.mem_append, not_or] at clean
    have one_value : '\n' ∉ fp.dropLast := by
      intro member
      cases fp with
      | nil => cases member
      | cons c rest => exact shorter.2 (List.mem_cons_of_mem _ member)
    refine ⟨⟨⟨?_, ?_⟩, ?_, ?_, ?_⟩, ⟨⟨?_, ?_⟩, ?_⟩⟩
    · simpa using clean.1
    · simpa using fits.1
    · simpa using no_equals
    · simpa using shorter.1
    · intro comment
      cases key with
      | nil => cases comment
      | cons c rest => exact no_comment (by rw [← whole]; simpa using comment)
    · simpa using fun member => clean.2 (List.mem_cons_of_mem _ (chomp_subset fp member))
    · simpa using fits.2
    · simpa using chomp_one_line one_value
  · cases entry

/-- What `fprintf(f,"%s=%s\n",n->key,n->value)` writes. -/
def printed (n : String × String) : List Char := n.1.toList ++ '=' :: n.2.toList ++ ['\n']

theorem print_entries_cons (n : String × String) (rest : List (String × String)) :
    (print_entries (n :: rest)).toList = n.1.toList ++ '=' :: n.2.toList ++ '\n' :: (print_entries rest).toList := by
  simp [print_entries]

/-- A plain entry is read from its own line. -/
theorem conf_entry_printed {n : String × String} (plain : PlainEntry n) : conf_entry (printed n) = some n := by
  obtain ⟨⟨⟨clean, short⟩, no_equals, _, no_comment⟩, ⟨value_clean, value_short⟩, _⟩ := plain
  have whole : c_string '\x00' (printed n) = printed n := by
    refine c_string_of_clean ?_
    simp [printed, clean, value_clean]
  have first : (printed n).head? ≠ some '#' := by
    cases key : n.1.toList with
    | nil => simp [printed, key]
    | cons c rest => simpa [printed, key] using no_comment
  have key_part : (printed n).takeWhile (· ≠ '=') = n.1.toList := by
    rw [printed, List.append_assoc]
    exact c_string_append no_equals (n.2.toList ++ ['\n'])
  have value_part : (printed n).dropWhile (· ≠ '=') = '=' :: (n.2.toList ++ ['\n']) := by
    rw [printed, List.append_assoc]
    exact strchr_append no_equals (n.2.toList ++ ['\n'])
  simp only [conf_entry, whole, if_neg first, key_part, value_part, chomp_newline]
  rw [if_pos ⟨short, value_short⟩, String.ofList_toList, String.ofList_toList]

/-- Plain entries are written one a line. -/
theorem conf_lines_print {entries : List (String × String)} (plain : ∀ n ∈ entries, PlainEntry n) :
    conf_lines (print_entries entries) = entries.map printed := by
  unfold conf_lines
  induction entries with
  | nil => simp [print_entries, pieces]
  | cons n rest ih =>
    obtain ⟨key, value⟩ := plain n List.mem_cons_self
    have one_line : '\n' ∉ n.1.toList ++ '=' :: n.2.toList := by
      simp [key.one_line, value.one_line]
    have short : n.1.length < 96 := key.short
    have value_short : n.2.length < 96 := value.short
    have fits : ([] : List Char).length + (n.1.toList ++ '=' :: n.2.toList).length <
        KEY_MAX_LENGTH + VALUE_MAX_LENGTH + 2 := by
      simp only [List.length_nil, List.length_append, List.length_cons, String.length_toList, KEY_MAX_LENGTH,
        VALUE_MAX_LENGTH]
      omega
    rw [print_entries_cons, pieces_line one_line (print_entries rest).toList [] fits,
      ih fun m member => plain m (List.mem_cons_of_mem n member), List.map_cons, printed, List.nil_append]

theorem load_printed {loaded entries : List (String × String)} (plain : ∀ n ∈ entries, PlainEntry n)
    (distinct : ((loaded ++ entries).map Prod.fst).Nodup) :
    load_entries loaded (entries.map printed) = loaded ++ entries := by
  induction entries generalizing loaded with
  | nil => rw [List.map_nil, load_entries, List.append_nil]
  | cons n rest ih =>
    have fresh : read_entries n.1 loaded = none := by
      rw [read_entries_none]
      intro old
      rw [List.map_append, List.nodup_append] at distinct
      exact distinct.2.2 n.1 old n.1 List.mem_cons_self rfl
    rw [List.map_cons, load_entries, conf_entry_printed (plain n List.mem_cons_self)]
    simp only [fresh, ↓reduceIte]
    rw [ih (fun m member => plain m (List.mem_cons_of_mem n member)) (by simpa using distinct)]
    simp

/-! ### Runs -/

/-- A call `set_conf(key,value)`, where no value stands for `NULL`. -/
structure Call where
  key : String
  value : Option String
  key_fits : Fits KEY_MAX_LENGTH key
  value_fits : ∀ v ∈ value, Fits VALUE_MAX_LENGTH v

def run (conf : Conf) (calls : List Call) : Conf := calls.foldl (fun conf c => set_conf conf c.key c.value) conf

theorem run_append (conf : Conf) (first second : List Call) :
    run conf (first ++ second) = run (run conf first) second :=
  List.foldl_append

theorem run_last (conf : Conf) (calls : List Call) (c : Call) :
    run conf (calls ++ [c]) = set_conf (run conf calls) c.key c.value :=
  run_append conf calls [c]

/-- What the calls are for: a map in which a call sets or removes the value of its key. -/
def replay (values : String → Option String) (calls : List Call) : String → Option String :=
  calls.foldl (fun values c => Function.update values c.key c.value) values

theorem replay_last (values : String → Option String) (calls : List Call) (c : Call) :
    replay values (calls ++ [c]) = Function.update (replay values calls) c.key c.value := by
  simp [replay]

/-- At every point of the calls the list stands for the map that they should have
    led to. -/
structure FiniteMap (conf : Conf) (calls : List Call) : Prop where
  distinct : ∀ before, before <+: calls → ((run conf before).entries.map Prod.fst).Nodup
  reads : ∀ before, before <+: calls → read_conf (run conf before) = replay (read_conf conf) before
  others : ∀ before c, before ++ [c] <+: calls → ∀ other, other ≠ c.key →
    read_conf (run conf (before ++ [c])) other = read_conf (run conf before) other

/-- No call stores a value in an empty list. -/
def StoresBehindAnother (conf : Conf) (calls : List Call) : Prop :=
  ∀ before c, before ++ [c] <+: calls → c.value ≠ none → (run conf before).entries ≠ []

/-- One call does to the map what it should, unless it stores in an empty list. -/
theorem read_conf_set (conf : Conf) (key : String) (value : Option String) :
    read_conf (set_conf conf key value) = Function.update (read_conf conf) key value ↔
      (value ≠ none → conf.entries ≠ []) := by
  constructor
  · intro updated stores empty
    have stored := congrFun updated key
    rw [Function.update_self, read_conf, set_conf_empty empty] at stored
    exact stores stored.symm
  · intro behind
    funext k
    by_cases same : k = key
    · rw [same, Function.update_self]
      cases value with
      | some v => exact read_conf_set_self (behind (by simp)) key v
      | none => exact read_write_removed conf.distinct
    · rw [Function.update_of_ne same, read_conf_set_other conf same]

theorem run_read {conf : Conf} {calls : List Call} (behind : StoresBehindAnother conf calls) :
    read_conf (run conf calls) = replay (read_conf conf) calls := by
  induction calls using List.reverseRecOn with
  | nil => rfl
  | append_singleton calls c ih =>
    have earlier : StoresBehindAnother conf calls := fun before d stands =>
      behind before d (stands.trans (List.prefix_append calls [c]))
    rw [run_last, replay_last, ← ih earlier]
    exact (read_conf_set _ c.key c.value).mpr (behind calls c (List.prefix_refl _))

/-- From the list that `init_conf` loads, a run of `set_conf` is a finite map at
    every point exactly where it never stores in an empty list. -/
theorem finite_map_iff (conf : Conf) (calls : List Call) :
    FiniteMap (init_conf conf).1 calls ↔ StoresBehindAnother (init_conf conf).1 calls := by
  constructor
  · intro map before c stands
    refine (read_conf_set _ c.key c.value).mp ?_
    have after := map.reads (before ++ [c]) stands
    rwa [run_last, replay_last, ← map.reads before ((List.prefix_append before [c]).trans stands)] at after
  · intro behind
    refine ⟨?_, ?_, ?_⟩
    · intro before _
      exact (run _ before).distinct
    · intro before stands
      exact run_read fun earlier c inside => behind earlier c (inside.trans stands)
    · intro before c _ other apart
      rw [run_last]
      exact read_conf_set_other _ apart c.value

/-- The type of the system's file system, as `steam_init_main` stores it. -/
def system_type_call : Call where
  key := "fs.system.type"
  value := some "4"
  key_fits := ⟨by decide, by decide⟩
  value_fits := by
    rintro v ⟨⟩
    exact ⟨by decide, by decide⟩

def no_system_conf : Conf where
  entries := []
  distinct := List.nodup_nil
  system_file := none
  writable := true
  get_conf_ro := fun _ => none

/-- Without `CONFIG_SYSTEM`, the first value that is set gets lost. -/
theorem first_value_lost : ¬ FiniteMap (init_conf no_system_conf).1 [system_type_call] := by
  intro map
  have stored := congrFun (map.reads [system_type_call] (List.prefix_refl _)) "fs.system.type"
  exact absurd stored (by decide)

/-! ### Saving and loading -/

structure PlainCall (c : Call) : Prop where
  key : PlainKey c.key
  value : ∀ v ∈ c.value, PlainValue v

def AllPlain (conf : Conf) : Prop := ∀ n ∈ conf.entries, PlainEntry n

theorem write_entries_member {key : String} {value : Option String} {entries : List (String × String)}
    {n : String × String} (member : n ∈ (write_entries key value entries).1) :
    n ∈ entries ∨ (n.1 = key ∧ value = some n.2) := by
  fun_induction write_entries key value entries with
  | case1 => exact .inl member
  | case2 v rest new stored =>
    rcases List.mem_cons.mp member with rfl | later
    · exact .inr ⟨rfl, stored⟩
    · exact .inl (List.mem_cons_of_mem _ later)
  | case3 v rest => exact .inl (List.mem_cons_of_mem _ member)
  | case4 k v rest other last new stored =>
    rcases List.mem_cons.mp member with rfl | appended
    · exact .inl List.mem_cons_self
    · rw [List.mem_singleton.mp appended]
      exact .inr ⟨rfl, stored⟩
  | case5 k v rest other last =>
    rw [List.mem_singleton.mp member]
    exact .inl List.mem_cons_self
  | case6 k v rest _ _ tail found step ih =>
    rw [step] at ih
    rcases List.mem_cons.mp member with rfl | later
    · exact .inl List.mem_cons_self
    · exact (ih later).imp_left (List.mem_cons_of_mem _)

theorem find_entry_plain {key value : String} {lines : List (List Char)}
    (one_line : ∀ r ∈ lines, '\n' ∉ r.dropLast) (found : find_entry key lines = some value) : PlainValue value := by
  fun_induction find_entry key lines with
  | case1 => cases found
  | case2 r rest v entry =>
    cases found
    exact (conf_entry_plain (one_line r List.mem_cons_self) entry).value
  | case3 r rest k v entry other ih => exact ih (fun line later => one_line line (List.mem_cons_of_mem r later)) found
  | case4 r rest no_entry ih => exact ih (fun line later => one_line line (List.mem_cons_of_mem r later)) found

theorem get_conf_ro_from_plain {file : Option String} {key value : String}
    (found : get_conf_ro_from file key = some value) : PlainValue value := by
  cases file with
  | none => cases found
  | some text => exact find_entry_plain (fun r read => pieces_one_line (by simp) read) found

theorem load_entries_plain {loaded : List (String × String)} {lines : List (List Char)}
    (plain : ∀ n ∈ loaded, PlainEntry n) (one_line : ∀ r ∈ lines, '\n' ∉ r.dropLast) :
    ∀ n ∈ load_entries loaded lines, PlainEntry n := by
  fun_induction load_entries loaded lines with
  | case1 loaded => exact plain
  | case2 loaded r rest k v entry fresh ih =>
    refine ih ?_ fun line later => one_line line (List.mem_cons_of_mem r later)
    intro n member
    rcases List.mem_append.mp member with old | new
    · exact plain n old
    · rw [List.mem_singleton.mp new]
      exact conf_entry_plain (one_line r List.mem_cons_self) entry
  | case3 loaded r rest k v entry old ih =>
    exact ih plain fun line later => one_line line (List.mem_cons_of_mem r later)
  | case4 loaded r rest no_entry ih =>
    exact ih plain fun line later => one_line line (List.mem_cons_of_mem r later)

theorem init_conf_plain (conf : Conf) : AllPlain (init_conf conf).1 := by
  cases file : conf.system_file with
  | none =>
    intro n member
    simp [init_conf, file, load_entries] at member
  | some text =>
    have loaded : (init_conf conf).1.entries = load_entries [] (conf_lines text) := by
      simp [init_conf, file]
    intro n member
    rw [loaded] at member
    refine load_entries_plain (by simp) ?_ n member
    exact fun r read => pieces_one_line (by simp) read

theorem set_conf_plain {conf : Conf} (plain : AllPlain conf) {key : String} {value : Option String}
    (plain_key : PlainKey key) (plain_value : ∀ v ∈ value, PlainValue v) : AllPlain (set_conf conf key value) := by
  intro n member
  rcases write_entries_member member with old | ⟨same_key, new⟩
  · exact plain n old
  · exact ⟨same_key ▸ plain_key, plain_value n.2 new⟩

@[simp] theorem init_conf_writable (conf : Conf) : (init_conf conf).1.writable = conf.writable := rfl

@[simp] theorem init_conf_file (conf : Conf) : (init_conf conf).1.system_file = conf.system_file := rfl

@[simp] theorem set_conf_writable (conf : Conf) (key : String) (value : Option String) :
    (set_conf conf key value).writable = conf.writable := rfl

@[simp] theorem set_conf_missing (conf : Conf) (key : String) (value : Option String) :
    (set_conf conf key value).system_file = none ↔ conf.system_file = none := by
  simp [set_conf, write_conf]

/-- The file is there, can be written, and what a call left behind is in it. -/
theorem set_conf_saved {conf : Conf} (present : conf.system_file ≠ none) (writable : conf.writable = true)
    (key : String) (value : Option String) :
    (set_conf conf key value).system_file = some (print_entries (set_conf conf key value).entries) := by
  obtain ⟨text, file⟩ := Option.ne_none_iff_exists'.mp present
  simp [set_conf, write_conf, file, writable]

theorem run_writable (conf : Conf) (calls : List Call) : (run conf calls).writable = conf.writable := by
  induction calls using List.reverseRecOn with
  | nil => rfl
  | append_singleton calls c ih =>
    rw [run_last, set_conf_writable, ih]

theorem run_present {conf : Conf} (present : conf.system_file ≠ none) (calls : List Call) :
    (run conf calls).system_file ≠ none := by
  induction calls using List.reverseRecOn with
  | nil => exact present
  | append_singleton calls c ih =>
    rwa [run_last, ne_eq, set_conf_missing]

theorem run_plain {conf : Conf} (plain : AllPlain conf) {calls : List Call} (all : ∀ c ∈ calls, PlainCall c) :
    AllPlain (run conf calls) := by
  induction calls using List.reverseRecOn with
  | nil => exact plain
  | append_singleton calls c ih =>
    rw [run_last]
    obtain ⟨key, value⟩ := all c (by simp)
    exact set_conf_plain (ih fun d member => all d (List.mem_append_left [c] member)) key value

/-- A plain list that was written out is loaded as it was. -/
theorem load_saved {conf : Conf} (plain : AllPlain conf)
    (saved : conf.system_file = some (print_entries conf.entries)) :
    (init_conf conf).1.entries = conf.entries := by
  simp only [init_conf, saved, conf_lines_print plain]
  exact load_printed plain (show (([] ++ conf.entries).map Prod.fst).Nodup from conf.distinct)

/-- What a run of `set_conf` on plain texts leaves in `CONFIG_SYSTEM` is loaded by
    `init_conf` as the same list. -/
theorem init_conf_reload {conf : Conf} (present : conf.system_file ≠ none) (writable : conf.writable = true)
    {calls : List Call} (some_call : calls ≠ []) (plain : ∀ c ∈ calls, PlainCall c) :
    (init_conf (run (init_conf conf).1 calls)).1.entries = (run (init_conf conf).1 calls).entries := by
  refine load_saved (run_plain (init_conf_plain conf) plain) ?_
  obtain ⟨before, c, rfl⟩ := (List.eq_nil_or_concat' calls).resolve_left some_call
  rw [run_last]
  have loaded_file : (init_conf conf).1.system_file ≠ none := present
  exact set_conf_saved (run_present loaded_file before) ((run_writable _ before).trans writable) c.key c.value

theorem system_type_plain : PlainCall system_type_call where
  key := ⟨system_type_call.key_fits, by decide, by decide, by decide⟩
  value := by
    rintro v ⟨⟩
    exact ⟨system_type_call.value_fits "4" rfl, by decide⟩

def version_conf : Conf where
  entries := []
  distinct := List.nodup_nil
  system_file := some "# installed\nsteam.version=1.0\n"
  writable := true
  get_conf_ro := fun _ => none

theorem system_type_reloaded :
    (init_conf (run (init_conf version_conf).1 [system_type_call])).1.entries =
      (run (init_conf version_conf).1 [system_type_call]).entries :=
  init_conf_reload (by decide) rfl (by simp) fun c member => List.mem_singleton.mp member ▸ system_type_plain

/-- In a saved list, `get_conf_ro_from` finds what `read_conf` finds. -/
theorem get_conf_ro_from_saved {entries : List (String × String)} (plain : ∀ n ∈ entries, PlainEntry n)
    (key : String) : get_conf_ro_from (some (print_entries entries)) key = read_entries key entries := by
  simp only [get_conf_ro_from, conf_lines_print plain]
  induction entries with
  | nil => rfl
  | cons n rest ih =>
    rw [List.map_cons, find_entry, conf_entry_printed (plain n List.mem_cons_self)]
    simp only [read_entries, ih fun m member => plain m (List.mem_cons_of_mem n member), eq_comm]

/-- A file that is scanned for a key gives the value that it gives when it is loaded:
    in both the first line counts that says a value of the key and fits. -/
theorem readers_agree (conf : Conf) (key : String) :
    get_conf_ro_from conf.system_file key = read_conf (init_conf conf).1 key := by
  cases file : conf.system_file with
  | none => simp only [get_conf_ro_from, read_conf, init_conf, file, load_entries, read_entries]
  | some text =>
    have loaded : read_entries key (load_entries [] (conf_lines text)) = (none : Option String).or _ :=
      read_load key [] (conf_lines text)
    rw [Option.none_or] at loaded
    simp only [get_conf_ro_from, read_conf, init_conf, file, loaded]

end SteamRecovery.ConfigFiles
