import SteamRecovery.Config
import SteamRecovery.Menus

/-!
The filesystem menu (`fsreformat_menu` in `steamext.c`). Every round reads the types of
the partitions and those they are to be converted to, and every row that is chosen writes
to the configuration. A row of a partition has the partition and the bit that it stands
for in one number, from which both are read back (`group_id_decoded`); the new type has
the rest of the pending one (`new_type_edited`), and what the next round reads differs
for that partition only (`edit_one_thing`).
-/
namespace SteamRecovery.FsReformat
open SteamRecovery.Devices
open SteamRecovery.Config (Conf sscanf_d sprintf_d sscanf_sprintf)
open SteamRecovery.Numerals (isspace)
open SteamRecovery.Menus (MenuType)

/-- What the menu calls of `config.c`. -/
structure Api (Store : Type) where
  get_conf : Store → String → Option String
  set_conf : Store → String → Option String → Store

def config : Api Conf := ⟨Config.get_conf, Config.set_conf⟩

/-- A configuration that is a map. -/
def exact_map : Api (String → Option String) := ⟨fun store key => store key, fun store key value => Function.update store key value⟩

abbrev PARTITION_NUMBERS : Nat := 4

instance : NeZero PARTITION_NUMBERS := ⟨by decide⟩

def partitions : Fin PARTITION_NUMBERS → String
  | 0 => "data"
  | 1 => "dbdata"
  | 2 => "cache"
  | 3 => "system"

/-- `sprintf(key,"fs.%s.type",partitions[i])` -/
def type (i : Fin PARTITION_NUMBERS) : String := "fs." ++ partitions i ++ ".type"
def convertto (i : Fin PARTITION_NUMBERS) : String := "fs." ++ partitions i ++ ".convertto"

/-- The configuration and the arrays of the menu. -/
structure State (Store : Type) where
  store : Store
  oldconf : Fin PARTITION_NUMBERS → CInt
  newconf : Fin PARTITION_NUMBERS → CInt

/-- `if (get_conf(key,value) && sscanf(value,"%d",&conf)) {} else conf = otherwise;` -/
def read_type (value : Option String) (conf otherwise : CInt) : CInt :=
  match value with
  | none => otherwise
  | some value =>
    match sscanf_d value with
    | some n => n
    -- `EOF` is no zero, so behind a blank value the variable stays as it was
    | none => if value.toList.dropWhile isspace = [] then conf else otherwise

/-- `struct menuElement`, without its help text. -/
structure Row where
  id : Int
  group_id : Int
  type : MenuType
  text : String
  deriving DecidableEq

/-- `get_capability("fs.support.*",NULL)` -/
structure Capabilities where
  ext2support : Bool
  ext4support : Bool
  jfssupport : Bool

/-- What a row of a partition stands for. -/
inductive Box where
  | rfs
  | ext2
  | ext4
  | jfs
  | loop
  | crypt
  deriving DecidableEq

def Box.type : Box → CInt
  | rfs => TYPE_RFS
  | ext2 => TYPE_EXT2
  | ext4 => TYPE_EXT4
  | jfs => TYPE_JFS
  | loop => TYPE_LOOP
  | crypt => TYPE_CRYPT

def Box.menu_type : Box → MenuType
  | rfs | ext2 | ext4 | jfs => .MENU_TYPE_RADIOBOX
  | loop | crypt => .MENU_TYPE_CHECKBOX

def Box.text : Box → String
  | rfs => "rfs"
  | ext2 => "ext2"
  | ext4 => "ext4"
  | jfs => "jfs"
  | loop => "Use a loop device"
  | crypt => "Encrypt partition"

/-- `ui_add_menu(i*8192+(newconf[i]&type),i*8192+type,menu_type,text,help)` -/
def box_row (newconf : Fin PARTITION_NUMBERS → CInt) (i : Fin PARTITION_NUMBERS) (box : Box) : Row :=
  ⟨i * 8192 + (newconf i &&& box.type).toInt, i * 8192 + box.type.toInt, box.menu_type, box.text⟩

variable {Store : Type} (api : Api Store)

def get_conf_def (store : Store) (key default : String) : String := (api.get_conf store key).getD default

/-- The part of the loop that reads the configuration. -/
def load (s : State Store) : State Store :=
  let oldconf i := read_type (api.get_conf s.store (type i)) (s.oldconf i) 0
  let newconf i := read_type (api.get_conf s.store (convertto i)) (s.newconf i) (oldconf i)
  { s with oldconf, newconf }

def partition_rows (caps : Capabilities) (s : State Store) (i : Fin PARTITION_NUMBERS) : List Row :=
  [⟨0, 0, .MENU_TYPE_GROUP_HEADER, partitions i⟩, box_row s.newconf i .rfs] ++
  (if caps.ext2support then [box_row s.newconf i .ext2] else []) ++
  (if caps.ext4support then [box_row s.newconf i .ext4] else []) ++
  (if caps.jfssupport then [box_row s.newconf i .jfs] else []) ++
  (if partitions i ≠ "system" ∨ get_conf_def api s.store "steam.edge.features" "0" = "1" then
    [box_row s.newconf i .loop, box_row s.newconf i .crypt] else [])

def menu_rows (caps : Capabilities) (s : State Store) : List Row :=
  let noefs := if get_conf_def api s.store "fs.system.efs" "0" = "1" then 1 else 0
  let badrfs := if get_conf_def api s.store "fs.system.rfs" "ok" = "bad" then 1 else 0
  [⟨0, 0, .MENU_TYPE_GLOBAL_HEADER, "Filesystem changer\nFilesystem will be changed on next boot"⟩,
    ⟨0, 0, .MENU_TYPE_GROUP_HEADER, "Filesystem schemes"⟩,
    ⟨0, -1, .MENU_TYPE_ELEMENT, "Disable lagfix\n(d,db,c,s:rfs)"⟩] ++
  (if caps.ext4support then
    [⟨1, -1, .MENU_TYPE_ELEMENT, "Ext4 base\n(recommended)\n(d,db,c:ext4;s:rfs)"⟩,
      ⟨2, -1, .MENU_TYPE_ELEMENT, "Ext4 NO-RFS\n(d,db,c,s:ext4;noefs)"⟩] ++
    (if caps.ext2support then [⟨3, -1, .MENU_TYPE_ELEMENT, "Ext4 Overkill\n(d,db,c:ext4+l;s:ext4;noefs)"⟩] else [])
  else []) ++
  (if caps.jfssupport then
    [⟨4, -1, .MENU_TYPE_ELEMENT, "JFS base\n(d,db,c:jfs;s:rfs)"⟩,
      ⟨5, -1, .MENU_TYPE_ELEMENT, "JFS NO-RFS\n(d,db,c,s:jfs;noefs)"⟩]
  else []) ++
  (if caps.ext4support then [⟨6, -1, .MENU_TYPE_ELEMENT, "Encrypted ext4\n(d,db,c:ext4+crypt;s:ext4;noefs)"⟩] else []) ++
  [⟨0, 0, .MENU_TYPE_GLOBAL_HEADER, "Advanced options"⟩] ++
  (List.finRange PARTITION_NUMBERS).flatMap (partition_rows api caps s) ++
  [⟨0, 0, .MENU_TYPE_GLOBAL_HEADER, "Misc settings"⟩,
    ⟨noefs * -2, -2, .MENU_TYPE_CHECKBOX, "Use fake /efs partition"⟩,
    ⟨badrfs * -3, -3, .MENU_TYPE_CHECKBOX, "Reformat /system\nfrom check to check=no"⟩,
    ⟨0, -4, .MENU_TYPE_ELEMENT, "Undo settings"⟩]

/-- The calls for a scheme: the types of `/cache`, `/data`, `/dbdata` and `/system`, and
    whether `/efs` is copied. -/
def scheme_calls (cache data dbdata system efs : String) : List (String × Option String) :=
  [("fs.cache.convertto", some cache), ("fs.data.convertto", some data), ("fs.dbdata.convertto", some dbdata),
    ("fs.system.convertto", some system), ("fs.system.efs", some efs), ("fs.system.rfs", none)]

def scheme (id : Int) : List (String × Option String) :=
  match id with
  | 0 => scheme_calls "1" "1" "1" "1" "0"
  | 1 => scheme_calls "4" "4" "4" "1" "0"
  | 2 => scheme_calls "4" "4" "4" "4" "1"
  | 3 => scheme_calls "260" "260" "260" "4" "1"
  | 4 => scheme_calls "8" "8" "8" "1" "0"
  | 5 => scheme_calls "8" "8" "8" "8" "1"
  | 6 => scheme_calls "132" "132" "132" "4" "1"
  | _ => []

/-- The type that is stored for a radio button or a check box. -/
def new_type (newconf val : CInt) (ison : Bool) : CInt :=
  let loop := newconf &&& TYPE_LOOP
  let crypt := newconf &&& TYPE_CRYPT
  let fstype := if has val TYPE_FSTYPE_MASK then val else newconf &&& TYPE_FSTYPE_MASK
  let crypt := if has val TYPE_CRYPT then (if !ison then 1 else 0) else crypt
  let loop := if has val TYPE_LOOP then (if !ison then 1 else 0) else loop
  let fstype := fstype ||| (if loop ≠ 0 then TYPE_LOOP else 0)
  fstype ||| (if crypt ≠ 0 then TYPE_CRYPT else 0)

/-- The partition that a group id stands for, unless it is outside the array. -/
def num (group_id : Int) : Option (Fin PARTITION_NUMBERS) :=
  let num := group_id.tdiv 8192
  if inside : 0 ≤ num ∧ num < PARTITION_NUMBERS then some ⟨num.toNat, by omega⟩ else none

/-- What the menu does with the row that was chosen. -/
def update (s : State Store) (me : Row) : Option (State Store) :=
  if me.group_id = -1 then
    some { s with store := (scheme me.id).foldl (fun store call => api.set_conf store call.1 call.2) s.store }
  else if me.group_id = -2 then
    some { s with store := api.set_conf s.store "fs.system.efs" (some (if me.id ≠ 0 then "0" else "1")) }
  else if me.group_id = -3 then
    some { s with store := api.set_conf s.store "fs.system.rfs" (if me.id ≠ 0 then none else some "bad") }
  else if me.group_id = -4 then some { s with newconf := s.oldconf }
  else if me.group_id > 0 then
    let ison := decide (me.group_id = me.id)
    let val : CInt := BitVec.ofInt 32 (me.group_id.tmod 8192)
    (num me.group_id).map fun num =>
      { s with store := api.set_conf s.store (convertto num) (some (sprintf_d (new_type (s.newconf num) val ison))) }
  else some s

/-! ### One row -/

theorem group_id_decoded (i : Fin PARTITION_NUMBERS) (box : Box) :
    0 < (i * 8192 + box.type.toInt : Int) ∧ num (i * 8192 + box.type.toInt) = some i ∧
      BitVec.ofInt 32 ((i * 8192 + box.type.toInt : Int).tmod 8192) = box.type := by
  revert i
  cases box <;> decide

/-- The types that the menu keeps: a base type, and whether it is encrypted and on a loop device. -/
def masked (type : CInt) : CInt := type &&& (TYPE_FSTYPE_MASK ||| TYPE_CRYPT ||| TYPE_LOOP)

/-- The type with nothing but its base type replaced, or one flag flipped. -/
def edited (box : Box) (type : CInt) : CInt :=
  if box.menu_type = .MENU_TYPE_RADIOBOX then (masked type &&& ~~~TYPE_FSTYPE_MASK) ||| box.type
  else masked type ^^^ box.type

theorem flag_cases (type : CInt) (k : Nat) :
    type &&& BitVec.twoPow 32 k = 0 ∨ type &&& BitVec.twoPow 32 k = BitVec.twoPow 32 k := by
  rw [BitVec.and_twoPow]
  split
  · exact .inr rfl
  · exact .inl rfl

/-- A flag is one bit, and no part of the mask of base types nor of the other flag. -/
structure Flag (flag other : CInt) : Prop where
  bit : ∀ type : CInt, type &&& flag = 0 ∨ type &&& flag = flag
  some_bit : flag ≠ 0
  mask_apart : TYPE_FSTYPE_MASK &&& flag = 0
  other_apart : other &&& flag = 0

theorem loop_flag : Flag TYPE_LOOP TYPE_CRYPT := ⟨fun type => flag_cases type 8, by decide, by decide, by decide⟩

theorem crypt_flag : Flag TYPE_CRYPT TYPE_LOOP := ⟨fun type => flag_cases type 7, by decide, by decide, by decide⟩

variable {flag other : CInt}

theorem flag_kept (is_flag : Flag flag other) (type : CInt) : (if type &&& flag ≠ 0 then flag else 0) = type &&& flag := by
  rcases is_flag.bit type with unset | set
  · rw [unset, if_neg (by simp)]
  · rw [set, if_pos is_flag.some_bit]

/-- The number that the box is compared with has its bit where the type has it. -/
theorem flag_flipped (is_flag : Flag flag other) (type : CInt) :
    (if (if !decide (type &&& flag = flag) then (1 : CInt) else 0) ≠ 0 then flag else 0) = (type &&& flag) ^^^ flag := by
  rcases is_flag.bit type with unset | set
  · simp [unset]
  · simp [set]

theorem flipped_bits (is_flag : Flag flag other) (type : CInt) :
    (type &&& TYPE_FSTYPE_MASK) ||| (type &&& other) ||| ((type &&& flag) ^^^ flag) =
      (type &&& (TYPE_FSTYPE_MASK ||| other ||| flag)) ^^^ flag := by
  ext n inside
  have mask_apart := congrArg (fun bits : CInt => bits[n]) is_flag.mask_apart
  have other_apart := congrArg (fun bits : CInt => bits[n]) is_flag.other_apart
  simp only [BitVec.getElem_and, BitVec.getElem_or, BitVec.getElem_xor] at *
  revert mask_apart other_apart
  cases type[n] <;> cases TYPE_FSTYPE_MASK[n] <;> cases other[n] <;> cases flag[n] <;> simp

/-- With a base type replaced the flags are those of before. -/
theorem replaced_bits (type base : CInt) :
    base ||| (type &&& TYPE_LOOP) ||| (type &&& TYPE_CRYPT) = (masked type &&& ~~~TYPE_FSTYPE_MASK) ||| base := by
  have flags : (TYPE_FSTYPE_MASK ||| TYPE_CRYPT ||| TYPE_LOOP) &&& ~~~TYPE_FSTYPE_MASK = TYPE_LOOP ||| TYPE_CRYPT := by decide
  rw [masked, BitVec.and_assoc, flags, BitVec.or_assoc, ← BitVec.and_or_distrib_left, BitVec.or_comm]

theorem new_type_radio {base : CInt} (under : has base TYPE_FSTYPE_MASK = true) (no_crypt : has base TYPE_CRYPT = false)
    (no_loop : has base TYPE_LOOP = false) (type : CInt) (ison : Bool) :
    new_type type base ison = (masked type &&& ~~~TYPE_FSTYPE_MASK) ||| base := by
  rw [new_type, under, no_crypt, no_loop]
  simp only [↓reduceIte, Bool.false_eq_true, flag_kept loop_flag, flag_kept crypt_flag]
  exact replaced_bits type base

/-- What is stored for a row is the pending type with one thing edited. -/
theorem new_type_edited (type : CInt) (box : Box) :
    new_type type box.type (decide (type &&& box.type = box.type)) = edited box type := by
  cases box with
  | rfs => exact new_type_radio (by decide) (by decide) (by decide) type _
  | ext2 => exact new_type_radio (by decide) (by decide) (by decide) type _
  | ext4 => exact new_type_radio (by decide) (by decide) (by decide) type _
  | jfs => exact new_type_radio (by decide) (by decide) (by decide) type _
  | loop =>
    have no_base : has TYPE_LOOP TYPE_FSTYPE_MASK = false := by decide
    have no_crypt : has TYPE_LOOP TYPE_CRYPT = false := by decide
    have loop : has TYPE_LOOP TYPE_LOOP = true := by decide
    rw [Box.type, new_type, no_base, no_crypt, loop]
    simp only [↓reduceIte, Bool.false_eq_true, flag_kept crypt_flag]
    rw [flag_flipped loop_flag, BitVec.or_assoc, BitVec.or_comm (_ ^^^ _), ← BitVec.or_assoc, flipped_bits loop_flag]
    rfl
  | crypt =>
    have no_base : has TYPE_CRYPT TYPE_FSTYPE_MASK = false := by decide
    have crypt : has TYPE_CRYPT TYPE_CRYPT = true := by decide
    have no_loop : has TYPE_CRYPT TYPE_LOOP = false := by decide
    have order : TYPE_FSTYPE_MASK ||| TYPE_LOOP ||| TYPE_CRYPT = TYPE_FSTYPE_MASK ||| TYPE_CRYPT ||| TYPE_LOOP := by decide
    rw [Box.type, new_type, no_base, no_loop, crypt]
    simp only [↓reduceIte, Bool.false_eq_true, flag_kept loop_flag]
    rw [flag_flipped crypt_flag, flipped_bits crypt_flag, order]
    rfl

theorem masked_masked (type : CInt) : masked (masked type) = masked type := by
  rw [masked, masked, BitVec.and_assoc, BitVec.and_self]

theorem masked_or (a b : CInt) : masked (a ||| b) = masked a ||| masked b := BitVec.and_or_distrib_right

theorem masked_xor (a b : CInt) : masked (a ^^^ b) = masked a ^^^ masked b := by
  ext n inside
  simp only [masked, BitVec.getElem_and, BitVec.getElem_xor]
  cases a[n] <;> cases b[n] <;> simp

theorem masked_and (a b : CInt) : masked (masked a &&& b) = masked a &&& b := by
  rw [masked, BitVec.and_assoc, BitVec.and_comm b, ← BitVec.and_assoc, ← masked, masked_masked]

theorem masked_box (box : Box) : masked box.type = box.type := by
  cases box <;> decide

/-- An edited type has nothing but what the menu keeps. -/
theorem masked_edited (box : Box) (type : CInt) : masked (edited box type) = edited box type := by
  rw [edited]
  split
  · rw [masked_or, masked_box, masked_and]
  · rw [masked_xor, masked_box, masked_masked]

/-- A flag that is flipped twice is as it was, and a base type that is chosen twice is chosen. -/
theorem edited_twice (box : Box) (type : CInt) :
    edited box (edited box type) = if box.menu_type = .MENU_TYPE_CHECKBOX then masked type else edited box type := by
  have one_kind : box.menu_type = .MENU_TYPE_CHECKBOX ↔ ¬ box.menu_type = .MENU_TYPE_RADIOBOX := by
    cases box <;> decide
  have base : box.menu_type = .MENU_TYPE_RADIOBOX → box.type &&& ~~~TYPE_FSTYPE_MASK = 0#32 := by
    cases box <;> decide
  by_cases radio : box.menu_type = .MENU_TYPE_RADIOBOX
  · rw [if_neg fun check => one_kind.mp check radio, edited, if_pos radio, masked_edited, edited, if_pos radio,
      BitVec.and_or_distrib_right, base radio, BitVec.or_zero, BitVec.and_assoc, BitVec.and_self]
  · rw [if_pos (one_kind.mpr radio), edited, if_neg radio, masked_edited, edited, if_neg radio, BitVec.xor_assoc,
      BitVec.xor_self, BitVec.xor_zero]

/-! ### One round -/

theorem keys_apart (i j : Fin PARTITION_NUMBERS) : convertto i ≠ type j ∧ (convertto i = convertto j → i = j) := by
  revert i j
  decide

theorem read_type_again (value : Option String) (conf otherwise : CInt) :
    read_type value (read_type value conf otherwise) otherwise = read_type value conf otherwise := by
  cases value with
  | none => rfl
  | some value =>
    simp only [read_type]
    cases sscanf_d value with
    | some n => rfl
    | none =>
      dsimp only
      split <;> rfl

/-- The value is printed and read back. -/
theorem read_type_printed (n conf otherwise : CInt) : read_type (some (sprintf_d n)) conf otherwise = n := by
  rw [read_type, sscanf_sprintf]

theorem update_box (s : State Store) (i : Fin PARTITION_NUMBERS) (box : Box) :
    update api s (box_row s.newconf i box) = some { s with
      store := api.set_conf s.store (convertto i) (some (sprintf_d (edited box (s.newconf i)))) } := by
  obtain ⟨positive, decoded, bit⟩ := group_id_decoded i box
  have ison : decide ((i * 8192 + box.type.toInt : Int) = i * 8192 + (s.newconf i &&& box.type).toInt) =
      decide (s.newconf i &&& box.type = box.type) := by
    rw [decide_eq_decide, ← BitVec.toInt_inj]
    omega
  rw [update, box_row]
  dsimp only
  rw [if_neg (by omega), if_neg (by omega), if_neg (by omega), if_neg (by omega), if_pos positive, decoded, bit, ison,
    Option.map_some, new_type_edited]

/-- The next round reads the same types where nothing was written. -/
theorem oldconf_kept {s : State Store} {store : Store} {j : Fin PARTITION_NUMBERS}
    (same : api.get_conf store (type j) = api.get_conf s.store (type j)) (newconf : Fin PARTITION_NUMBERS → CInt) :
    (load api { load api s with store, newconf }).oldconf j = (load api s).oldconf j := by
  simp only [load, same, read_type_again]

theorem newconf_kept {s : State Store} {store : Store} {j : Fin PARTITION_NUMBERS}
    (same_type : api.get_conf store (type j) = api.get_conf s.store (type j))
    (same : api.get_conf store (convertto j) = api.get_conf s.store (convertto j)) :
    (load api { load api s with store }).newconf j = (load api s).newconf j := by
  simp only [load, same_type, same, read_type_again]

/-- A row of a partition that is chosen edits its pending type, and nothing else. -/
theorem edit_one_thing (s : State (String → Option String)) (i : Fin PARTITION_NUMBERS) (box : Box) :
    num (box_row (load exact_map s).newconf i box).group_id = some i ∧
    ∃ chosen, update exact_map (load exact_map s) (box_row (load exact_map s).newconf i box) = some chosen ∧
      (∃ value, chosen.store (convertto i) = some (sprintf_d value) ∧ masked value = edited box ((load exact_map s).newconf i)) ∧
      (load exact_map chosen).newconf i = edited box ((load exact_map s).newconf i) ∧
      (∀ j, j ≠ i → (load exact_map chosen).newconf j = (load exact_map s).newconf j) ∧
      (∀ key, key ≠ convertto i → chosen.store key = s.store key) ∧
      ∃ again, update exact_map (load exact_map chosen) (box_row (load exact_map chosen).newconf i box) = some again ∧
        masked ((load exact_map again).newconf i) =
          if box.menu_type = .MENU_TYPE_CHECKBOX then masked ((load exact_map s).newconf i)
          else edited box ((load exact_map s).newconf i) := by
  have next (s : State (String → Option String)) :
      (load exact_map { s with store := exact_map.set_conf s.store (convertto i) (some (sprintf_d (edited box (s.newconf i)))) }).newconf i =
        edited box (s.newconf i) := by
    simp only [load, exact_map, Function.update_self, read_type_printed]
  refine ⟨(group_id_decoded i box).2.1, _, update_box exact_map _ i box, ⟨_, Function.update_self .., masked_edited box _⟩,
    next _, fun j other => ?_, fun key other => Function.update_of_ne other .., _, update_box exact_map _ i box, ?_⟩
  · refine newconf_kept exact_map ?_ ?_
    · exact Function.update_of_ne (keys_apart i j).1.symm ..
    · exact Function.update_of_ne (fun same => other ((keys_apart i j).2 same.symm).symm) ..
  · rw [next, next, masked_edited, edited_twice]

/-! ### The rows of the menu -/

/-- The row stands for a box of a partition, or for something else. -/
def Known (s : State Store) (me : Row) : Prop := me.group_id ≤ 0 ∨ ∃ i box, me = box_row s.newconf i box

theorem forall_mem_if {α : Type} {P : α → Prop} {p : Prop} [Decidable p] {rows : List α} (all : ∀ me ∈ rows, P me) :
    ∀ me ∈ (if p then rows else []), P me := by
  split
  · exact all
  · exact fun me none => by cases none

theorem box_known (s : State Store) (i : Fin PARTITION_NUMBERS) (box : Box) : Known s (box_row s.newconf i box) :=
  .inr ⟨i, box, rfl⟩

theorem partition_rows_known (caps : Capabilities) (s : State Store) (i : Fin PARTITION_NUMBERS) :
    ∀ me ∈ partition_rows api caps s i, Known s me := by
  have one (box : Box) : ∀ me ∈ [box_row s.newconf i box], Known s me :=
    List.forall_mem_singleton.mpr (box_known s i box)
  rw [partition_rows]
  simp only [List.forall_mem_append]
  refine ⟨⟨⟨⟨?_, forall_mem_if (one .ext2)⟩, forall_mem_if (one .ext4)⟩, forall_mem_if (one .jfs)⟩, forall_mem_if ?_⟩
  · exact List.forall_mem_cons.mpr ⟨.inl (Int.le_refl 0), one .rfs⟩
  · exact List.forall_mem_cons.mpr ⟨box_known s i .loop, one .crypt⟩

theorem menu_rows_known (caps : Capabilities) (s : State Store) : ∀ me ∈ menu_rows api caps s, Known s me := by
  have other {rows : List Row} (all : ∀ me ∈ rows, me.group_id ≤ 0) : ∀ me ∈ rows, Known s me :=
    fun me member => .inl (all me member)
  rw [menu_rows]
  simp only [List.forall_mem_append]
  refine ⟨⟨⟨⟨⟨⟨other (by decide), forall_mem_if ?_⟩, forall_mem_if (other (by decide))⟩, forall_mem_if (other (by decide))⟩,
    other (by decide)⟩, fun me member => ?_⟩, other (by simp)⟩
  · exact List.forall_mem_append.mpr ⟨other (by decide), forall_mem_if (other (by decide))⟩
  · obtain ⟨i, _, shown⟩ := List.mem_flatMap.mp member
    exact partition_rows_known api caps s i me shown

/-- Every row of the menu can be chosen. -/
theorem update_defined {caps : Capabilities} {s : State Store} {me : Row} (shown : me ∈ menu_rows api caps s) :
    update api s me ≠ none := by
  rcases menu_rows_known api caps s me shown with other | ⟨i, box, rfl⟩
  · rw [update, if_neg (show ¬ me.group_id > 0 by omega)]
    split_ifs <;> simp
  · rw [update_box]
    simp

end SteamRecovery.FsReformat
