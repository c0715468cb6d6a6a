import Mathlib.Data.List.Basic
import Mathlib.Data.List.Nodup
import SteamRecovery.CStrings
import SteamRecovery.Nandroid

/-!
Root paths (`roots.c`), for any table of roots and any buffer. The name of a root is
what a path has up to and with its first colon (`root_info_iff`). What is written is
the mount point, a slash unless it ends in one, and the rest of the path without the
slashes that it starts with, and never more than the buffer has room for
(`translate_root_path_contract`).
-/
namespace SteamRecovery.RootPaths
open SteamRecovery.CStrings
open SteamRecovery.Devices (RootInfo g_roots)

/-- What `memcpy(mem + start,src,strlen(src))` leaves in the memory behind `mem`. -/
def memcpy (mem : List Char) (start : Nat) (src : List Char) : List Char :=
  mem.take start ++ src ++ mem.drop (start + src.length)

/-- The first row of which `strncmp` finds no difference to the path, up to the first colon. -/
def get_root_info_for_path (roots : List RootInfo) (root_path : List Char) : Option RootInfo :=
  let before := root_path.takeWhile (· ≠ ':')
  if before.length = root_path.length then none
  else
    let len := before.length + 1
    roots.find? fun info => info.name.toList.take len = root_path.take len

/-- The memory from `out_buf` on where the translated path is returned. Otherwise
    nothing is written. -/
def translate_root_path (roots : List RootInfo) (root_path out_buf : List Char) (out_buf_len : Nat) :
    Option (List Char) :=
  if out_buf_len < 1 then none
  else
    match get_root_info_for_path roots root_path with
    | none => none
    | some info =>
      match info.mount_point with
      | none => none
      | some mount_point =>
        let root_path := (root_path.drop info.name.toList.length).dropWhile (· = '/')
        let mp_len := mount_point.toList.length
        let rp_len := root_path.length
        if mp_len + 1 + rp_len + 1 > out_buf_len then none
        else
          let out_buf := memcpy out_buf 0 mount_point.toList
          let (out_buf, mp_len) :=
            if out_buf.getD (mp_len - 1) '\x00' ≠ '/' then (memcpy out_buf mp_len ['/'], mp_len + 1)
            else (out_buf, mp_len)
          let out_buf := memcpy out_buf mp_len root_path
          some (memcpy out_buf (mp_len + rp_len) ['\x00'])

/-! ### Tables of roots -/

/-- A text without a colon, and one colon. -/
def RootName (name : List Char) : Prop := ∃ text, ':' ∉ text ∧ name = text ++ [':']

theorem rootName_iff {name : List Char} : RootName name ↔ ':' ∉ name.dropLast ∧ name.getLast? = some ':' := by
  constructor
  · rintro ⟨text, plain, rfl⟩
    simpa using plain
  · rintro ⟨plain, last⟩
    refine ⟨name.dropLast, plain, ?_⟩
    exact (List.dropLast_append_getLast? ':' last).symm

structure RootTable where
  rows : List RootInfo
  distinct : (rows.map RootInfo.name).Nodup
  named : ∀ info ∈ rows, RootName info.name.toList
  mounted : ∀ info ∈ rows, info.mount_point ≠ some ""

/-- The roots of the device. -/
def device_roots : RootTable where
  rows := g_roots
  distinct := by decide
  named := by
    simp only [rootName_iff]
    decide
  mounted := by decide

/-- The path is the text up to and with its first colon, and what follows. -/
def FirstColon (root_path name after : List Char) : Prop := RootName name ∧ root_path = name ++ after

theorem firstColon_unique {root_path name other after later : List Char} (split : FirstColon root_path name after)
    (again : FirstColon root_path other later) : name = other ∧ after = later := by
  obtain ⟨⟨text, plain, rfl⟩, rfl⟩ := split
  obtain ⟨⟨other_text, other_plain, rfl⟩, same⟩ := again
  have texts : text = other_text := by
    have cut := congrArg (List.takeWhile fun c => decide (c ≠ ':')) same
    rw [List.append_assoc, List.append_assoc] at cut
    exact (c_string_append plain _).symm.trans (cut.trans (c_string_append other_plain _))
  subst texts
  exact ⟨rfl, List.append_cancel_left same⟩

/-- A name that starts with the text up to the first colon is that text. -/
theorem name_of_take {name text : List Char} (named : RootName name) (plain : ':' ∉ text) :
    name.take (text.length + 1) = text ++ [':'] ↔ name = text ++ [':'] := by
  constructor
  · intro start
    have split : FirstColon name (text ++ [':']) (name.drop (text.length + 1)) :=
      ⟨⟨text, plain, rfl⟩, by rw [← start, List.take_append_drop]⟩
    have itself : FirstColon name name [] := ⟨named, (List.append_nil name).symm⟩
    exact (firstColon_unique itself split).1
  · rintro rfl
    exact List.take_of_length_le (by simp)

/-- The comparison of a name with the text up to and with the first colon. -/
theorem name_at_colon {name text : List Char} (named : RootName name) (plain : ':' ∉ text) (after : List Char) :
    name.take (text.length + 1) = text ++ [':'] ↔ ∃ later, FirstColon (text ++ ':' :: after) name later := by
  rw [name_of_take named plain]
  constructor
  · intro same
    exact ⟨after, named, by simp [same]⟩
  · rintro ⟨later, split⟩
    have written : FirstColon (text ++ ':' :: after) (text ++ [':']) after := ⟨⟨text, plain, rfl⟩, by simp⟩
    exact (firstColon_unique split written).1

/-- A row is found exactly where the path has its name in front of the first colon. -/
theorem root_info_iff (roots : RootTable) {root_path : List Char} {info : RootInfo} :
    get_root_info_for_path roots.rows root_path = some info ↔
      info ∈ roots.rows ∧ ∃ after, FirstColon root_path info.name.toList after := by
  by_cases colon : ':' ∈ root_path
  · obtain ⟨text, after, rfl, plain⟩ := List.eq_append_cons_of_mem colon
    have before : (text ++ ':' :: after).takeWhile (· ≠ ':') = text := c_string_append plain after
    have inside : text.length ≠ (text ++ ':' :: after).length := by
      simp
    have start : (text ++ ':' :: after).take (text.length + 1) = text ++ [':'] := by
      simp [List.take_append]
    simp only [get_root_info_for_path, before, if_neg inside, start]
    constructor
    · intro found
      have member : info ∈ roots.rows := List.mem_of_find?_eq_some found
      have same : info.name.toList.take (text.length + 1) = text ++ [':'] := by
        simpa using List.find?_some found
      exact ⟨member, (name_at_colon (roots.named info member) plain after).mp same⟩
    · rintro ⟨member, split⟩
      have same := (name_at_colon (roots.named info member) plain after).mpr split
      obtain ⟨other, found⟩ : ∃ other, roots.rows.find? (fun row =>
          decide (row.name.toList.take (text.length + 1) = text ++ [':'])) = some other :=
        Option.isSome_iff_exists.mp (List.find?_isSome.mpr ⟨info, member, decide_eq_true same⟩)
      have other_member : other ∈ roots.rows := List.mem_of_find?_eq_some found
      have other_same : other.name.toList.take (text.length + 1) = text ++ [':'] := by
        simpa using List.find?_some found
      have names : other.name = info.name := by
        rw [name_of_take (roots.named _ member) plain] at same
        rw [name_of_take (roots.named _ other_member) plain, ← same] at other_same
        exact String.toList_inj.mp other_same
      rw [found, List.inj_on_of_nodup_map roots.distinct other_member member names]
  · have none_before : root_path.takeWhile (· ≠ ':') = root_path := c_string_of_clean colon
    simp only [get_root_info_for_path, none_before, if_pos]
    constructor
    · intro found
      cases found
    · rintro ⟨_, after, ⟨text, _, named⟩, rfl⟩
      rw [named] at colon
      simp at colon

/-! ### Translated paths -/

/-- The mount point and the rest of a path, with one slash between them. -/
def glue (mount_point r : List Char) : List Char :=
  mount_point ++ (if mount_point.getLast? = some '/' then [] else ['/']) ++ r

/-- The path is a root with a mount point, and behind the colon `r` after slashes. -/
def Resolves (roots : RootTable) (root_path mount_point r : List Char) : Prop :=
  ∃ info ∈ roots.rows, ∃ after, FirstColon root_path info.name.toList after ∧
    info.mount_point.map String.toList = some mount_point ∧ r = after.dropWhile (· = '/')

theorem memcpy_append {text : List Char} {start : Nat} (length : text.length = start) (rest src : List Char) :
    memcpy (text ++ rest) start src = text ++ src ++ rest.drop src.length := by
  rw [memcpy, ← length, List.take_left, List.drop_length_add_append]

/-- The bytes at the start of the buffer, the NUL behind them, and the rest as it was. -/
def Written (out_buf text mem : List Char) : Prop := mem = text ++ '\x00' :: out_buf.drop (text.length + 1)

theorem glue_length (mount_point r : List Char) :
    (glue mount_point r).length ≤ mount_point.length + 1 + r.length := by
  unfold glue
  split
  · simp
  · simp
    omega

/-- A text and the rest of the path, one behind the other, and a NUL. -/
theorem copied_written (text r out_buf : List Char) :
    Written out_buf (text ++ r)
      (memcpy (memcpy (text ++ out_buf.drop text.length) text.length r) (text.length + r.length) ['\x00']) := by
  rw [memcpy_append rfl, memcpy_append List.length_append, Written, List.drop_drop, List.drop_drop, List.append_assoc,
    List.length_append]
  rfl

theorem last_of_copy {mount_point : List Char} {c : Char} (last : mount_point.getLast? = some c) (rest : List Char) :
    (mount_point ++ rest).getD (mount_point.length - 1) '\x00' = c := by
  obtain ⟨before, rfl⟩ : ∃ before, mount_point = before ++ [c] :=
    ⟨mount_point.dropLast, (List.dropLast_append_getLast? c last).symm⟩
  simp

/-- The path is returned as it should be where there is room for it. -/
theorem translate_row {roots : RootTable} {root_path : List Char} {info : RootInfo} {after : List Char}
    (member : info ∈ roots.rows) (split : FirstColon root_path info.name.toList after) {mount_point : String}
    (mounted : info.mount_point = some mount_point) (out_buf : List Char) (out_buf_len : Nat) {r : List Char}
    (rest : r = after.dropWhile (· = '/')) :
    if mount_point.toList.length + 1 + r.length + 1 ≤ out_buf_len then
      ∃ mem, translate_root_path roots.rows root_path out_buf out_buf_len = some mem ∧
        Written out_buf (glue mount_point.toList r) mem
    else translate_root_path roots.rows root_path out_buf out_buf_len = none := by
  have found : get_root_info_for_path roots.rows root_path = some info :=
    (root_info_iff roots).mpr ⟨member, after, split⟩
  have stripped : (root_path.drop info.name.toList.length).dropWhile (· = '/') = r := by
    rw [split.2, List.drop_left, rest]
  have some_char : mount_point.toList ≠ [] := by
    intro empty
    exact roots.mounted info member (mounted.trans (congrArg some (String.toList_eq_nil_iff.mp empty)))
  simp only [translate_root_path, found, mounted, stripped]
  split
  · rename_i room
    rw [if_neg (by omega), if_neg (by omega)]
    have copied : memcpy out_buf 0 mount_point.toList = mount_point.toList ++ out_buf.drop mount_point.toList.length := by
      simp [memcpy]
    rw [copied]
    generalize mount_point.toList = text at some_char
    have last : text.getLast? = some (text.getLast some_char) := List.getLast?_eq_some_getLast some_char
    rw [last_of_copy last]
    by_cases slash : text.getLast some_char = '/'
    · rw [if_neg (not_not.mpr slash)]
      refine ⟨_, rfl, ?_⟩
      have glued : glue text r = text ++ r := by
        rw [glue, last, slash, if_pos rfl, List.append_nil]
      rw [glued]
      exact copied_written text r out_buf
    · rw [if_pos slash]
      refine ⟨_, rfl, ?_⟩
      have glued : glue text r = text ++ ['/'] ++ r := by
        rw [glue, last, if_neg (by simpa using slash)]
      have separated : memcpy (text ++ out_buf.drop text.length) text.length ['/'] =
          text ++ ['/'] ++ out_buf.drop (text ++ ['/']).length := by
        rw [memcpy_append rfl, List.drop_drop, List.length_append]
      have length : text.length + 1 = (text ++ ['/']).length := by simp
      rw [glued, separated, length]
      exact copied_written (text ++ ['/']) r out_buf
  · rename_i room
    split
    · rfl
    · rw [if_pos (by omega)]

theorem translate_unresolved {roots : RootTable} {root_path : List Char}
    (unresolved : ¬ ∃ mount_point r, Resolves roots root_path mount_point r) (out_buf : List Char) (out_buf_len : Nat) :
    translate_root_path roots.rows root_path out_buf out_buf_len = none := by
  unfold translate_root_path
  split
  · rfl
  cases found : get_root_info_for_path roots.rows root_path with
  | none => rfl
  | some info =>
    obtain ⟨member, after, split⟩ := (root_info_iff roots).mp found
    cases mounted : info.mount_point with
    | none => simp only [mounted]
    | some mount_point =>
      refine absurd ?_ unresolved
      exact ⟨mount_point.toList, after.dropWhile (· = '/'), info, member, after, split, by rw [mounted]; rfl, rfl⟩

/-- What is written ends inside the buffer, and what lies behind that stays as it was. -/
theorem written_behind {out_buf text mem : List Char} {out_buf_len : Nat} (fits : text.length + 1 ≤ out_buf_len)
    (written : Written out_buf text mem) : mem.drop out_buf_len = out_buf.drop out_buf_len := by
  obtain ⟨more, rfl⟩ := Nat.exists_eq_add_of_le fits
  have length : text.length + 1 = (text ++ ['\x00']).length := by simp
  rw [written, List.append_cons, length, List.drop_length_add_append, List.drop_drop]

/-- The path is returned exactly where it starts with the name of a root that has a
    mount point, and there is room for both and a slash. Nothing is written behind
    the buffer. -/
theorem translate_root_path_contract (roots : RootTable) (root_path out_buf : List Char) (out_buf_len : Nat) :
    (∀ mem, translate_root_path roots.rows root_path out_buf out_buf_len = some mem ↔
      ∃ mount_point r, Resolves roots root_path mount_point r ∧ mount_point.length + 1 + r.length + 1 ≤ out_buf_len ∧
        Written out_buf (glue mount_point r) mem) ∧
    ∀ mem, translate_root_path roots.rows root_path out_buf out_buf_len = some mem →
      mem.drop out_buf_len = out_buf.drop out_buf_len := by
  have exact_result : ∀ mem, translate_root_path roots.rows root_path out_buf out_buf_len = some mem ↔
      ∃ mount_point r, Resolves roots root_path mount_point r ∧ mount_point.length + 1 + r.length + 1 ≤ out_buf_len ∧
        Written out_buf (glue mount_point r) mem := by
    intro mem
    constructor
    · intro returned
      by_cases resolved : ∃ mount_point r, Resolves roots root_path mount_point r
      · obtain ⟨text, r, info, member, after, split, as_text, rest⟩ := resolved
        obtain ⟨mount_point, mounted, rfl⟩ := Option.map_eq_some_iff.mp as_text
        have row := translate_row member split mounted out_buf out_buf_len rest
        split at row
        · rename_i room
          obtain ⟨same, here, written⟩ := row
          cases here.symm.trans returned
          exact ⟨_, r, ⟨info, member, after, split, as_text, rest⟩, room, written⟩
        · rw [row] at returned
          cases returned
      · rw [translate_unresolved resolved] at returned
        cases returned
    · rintro ⟨text, r, ⟨info, member, after, split, as_text, rest⟩, room, written⟩
      obtain ⟨mount_point, mounted, rfl⟩ := Option.map_eq_some_iff.mp as_text
      have row := translate_row member split mounted out_buf out_buf_len rest
      rw [if_pos room] at row
      obtain ⟨same, here, again⟩ := row
      rw [here, show same = mem from Eq.trans again written.symm]
  refine ⟨exact_result, ?_⟩
  intro mem returned
  obtain ⟨mount_point, r, _, room, written⟩ := (exact_result mem).mp returned
  have bound := glue_length mount_point r
  exact written_behind (by omega) written

theorem glue_text (mount_point : String) (r : List Char) :
    (mount_point ++ (if mount_point.toList.getLast? = some '/' then "" else "/") ++ String.ofList r).toList =
      glue mount_point.toList r := by
  rw [glue]
  split <;> simp

/-- The path that the other modules use is the one that is written for the device's
    roots where the buffer is long enough. -/
theorem translate_device_roots (root_path path : String) :
    Nandroid.translate_root_path root_path = some path ↔
      ∃ mount_point r, Resolves device_roots root_path.toList mount_point r ∧ path.toList = glue mount_point r := by
  have same_rows : Devices.get_root_info_for_path root_path =
      get_root_info_for_path device_roots.rows root_path.toList := rfl
  rw [Nandroid.translate_root_path, same_rows]
  constructor
  · intro returned
    cases found : get_root_info_for_path device_roots.rows root_path.toList with
    | none =>
      rw [found] at returned
      cases returned
    | some info =>
      obtain ⟨member, after, split⟩ := (root_info_iff device_roots).mp found
      rw [found] at returned
      obtain ⟨mount_point, mounted, rfl⟩ := Option.map_eq_some_iff.mp returned
      refine ⟨mount_point.toList, after.dropWhile (· = '/'),
        ⟨info, member, after, split, by rw [mounted]; rfl, rfl⟩, ?_⟩
      rw [glue_text, split.2, List.drop_left]
  · rintro ⟨text, r, ⟨info, member, after, split, as_text, rfl⟩, glued⟩
    obtain ⟨mount_point, mounted, rfl⟩ := Option.map_eq_some_iff.mp as_text
    have found : get_root_info_for_path device_roots.rows root_path.toList = some info :=
      (root_info_iff device_roots).mpr ⟨member, after, split⟩
    rw [found]
    refine Option.map_eq_some_iff.mpr ⟨mount_point, mounted, ?_⟩
    rw [← String.toList_inj, glue_text, glued, split.2, List.drop_left]

example : translate_root_path device_roots.rows "SYSTEM:build.prop".toList (List.replicate 20 'x') 20 =
    some ("/system/build.prop".toList ++ ['\x00', 'x']) := by decide

end SteamRecovery.RootPaths
