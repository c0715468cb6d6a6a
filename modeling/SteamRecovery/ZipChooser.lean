import Mathlib.Data.List.Basic
import SteamRecovery.Paths
import SteamRecovery.RootPaths

/-!
Choosing a package on an SD card (`gather_files`, `choose_file_menu` and
`show_choose_zip_menu` in `extendedcommands.c`). The path of the first card's menu
ends in a slash, and that of the second card's does not, although as much is cut off
from what was chosen. So the path that is installed leads back to the chosen file on
the first card only (`zip_path_iff`).
-/
namespace SteamRecovery.ZipChooser
open SteamRecovery.Paths

/-- What is mounted, and what the memory that `stat` does not fill in says about a path
    that is not there: that it is a directory. -/
structure World where
  root : Node
  unknown : List Char → Bool
  /-- `ensure_root_path_mounted` returns 0. -/
  mounted : String → Bool

/-- The entries that `readdir` returns, where `opendir` succeeds. -/
def opendir (w : World) (directory : List Char) : Option (List (Name × Node)) :=
  match lookup w.root (components directory) with
  | some (.directory entries) => some entries
  | _ => none

/-- `S_ISDIR(info.st_mode)` behind `stat(path,&info)`. -/
def isDir (w : World) (path : List Char) : Bool :=
  match lookup w.root (components path) with
  | some (.directory _) => true
  | some .file => false
  | none => w.unknown path

/-! ### Sorting -/

def swap (files : List (List Char)) (i j : Nat) : List (List Char) :=
  (files.set i (files.getD j [])).set j (files.getD i [])

/-- The index of the largest name among the first `n`, as `strcmp` compares them. -/
def curMax (files : List (List Char)) (n : Nat) : Option Nat :=
  (List.range n).foldl (fun curMax j =>
    match curMax with
    | none => some j
    | some m => if files.getD m [] < files.getD j [] then some j else some m) none

/-- The largest of the names that are not in place goes to their end. -/
def sort_round (total : Nat) (files : List (List Char)) (i : Nat) : List (List Char) :=
  match curMax files (total - i) with
  | some m => swap files m (total - i - 1)
  | none => files

def sort_files (files : List (List Char)) : List (List Char) :=
  (List.range files.length).foldl (sort_round files.length) files

/-! ### The menus -/

def hidden (name : List Char) : Bool := name.head? = some '.'

/-- The directory and a name in it, where that is not hidden and ends like this, or,
    with no such ending, is a directory. -/
def gather_files (w : World) (directory : List Char) (fileExtensionOrDirectory : Option (List Char)) :
    List (List Char) :=
  match opendir w directory with
  | none => []
  | some entries =>
    sort_files (entries.filterMap fun entry =>
      let d_name := entry.1.text
      if hidden d_name then none
      else
        match fileExtensionOrDirectory with
        | some extension => if extension <:+ d_name then some (directory ++ d_name) else none
        | none => if isDir w (directory ++ d_name) then some (directory ++ d_name ++ ['/']) else none)

def dirs (w : World) (directory : List Char) : List (List Char) := gather_files w directory none
def files (w : World) (directory : List Char) : List (List Char) := gather_files w directory (some ".zip".toList)

/-- What `get_menu_selection` returns. -/
inductive Choice where
  | GO_BACK
  | item (chosen_item : Nat)

/-- What `choose_file_menu` returns, and the name that the menu showed for it in the
    directory of that menu. -/
structure Chosen where
  file : List Char
  directory : List Char
  d_name : List Char
  deriving DecidableEq

/-- The calls of `choose_file_menu` that wait for a choice: that in the innermost
    directory, and those that called it. -/
inductive Menus where
  | waiting (directory : List Char) (callers : List (List Char))
  | returned (result : Option Chosen)
  deriving DecidableEq

/-- A menu without items returns at once. -/
def empty_menu (w : World) (directory : List Char) : Bool := (dirs w directory ++ files w directory).isEmpty

def choose_file_menu (w : World) (directory : List Char) : Menus :=
  if empty_menu w directory then .returned none else .waiting directory []

/-- What a choice leads to. A menu behind another one returns to that one, until a
    file is chosen. -/
def choose (w : World) (menus : Menus) (choice : Choice) : Option Menus :=
  match menus, choice with
  | .returned _, _ => none
  | .waiting _ [], .GO_BACK => some (.returned none)
  | .waiting _ (caller :: callers), .GO_BACK => some (.waiting caller callers)
  | .waiting directory callers, .item chosen_item =>
    match (dirs w directory)[chosen_item]? with
    | some dir =>
      if empty_menu w dir then some (.waiting directory callers)
      else some (.waiting dir (directory :: callers))
    | none =>
      ((files w directory)[chosen_item - (dirs w directory).length]?).map fun file =>
        .returned (some ⟨file, directory, file.drop directory.length⟩)

/-- The first and the second SD card, by the `type` of the menu. -/
structure Card where
  root : String
  menu : String
  cut : String

def card (type : Fin 2) : Card :=
  if type = 0 then ⟨"SDCARD:", "/mnt/sdcard/", "/mnt/sdcard/"⟩
  else ⟨"SDCARD2:", "/mnt/external_sd", "/mnt/external_sd/"⟩

/-- The path that is passed to `install_zip`, where the choices end in a file and the
    installation is confirmed, and the file that was chosen. -/
def show_choose_zip_menu (w : World) (type : Fin 2) (choices : List Choice) (confirm_selection : Bool) :
    Option (List Char × Chosen) :=
  if w.mounted (card type).root then
    match choices.foldlM (choose w) (choose_file_menu w (card type).menu.toList) with
    | some (.returned (some chosen)) =>
      if confirm_selection then
        some ((card type).root.toList ++ chosen.file.drop (card type).cut.length, chosen)
      else none
    | _ => none
  else none

/-! ### What is listed -/

theorem swap_subset {files : List (List Char)} {i j : Nat} (inside : i < files.length) (here : j < files.length) :
    swap files i j ⊆ files ∧ (swap files i j).length = files.length := by
  have member {k : Nat} (inside : k < files.length) : files.getD k [] ∈ files := by
    rw [List.getD_eq_getElem?_getD, List.getElem?_eq_getElem inside, Option.getD_some]
    exact List.getElem_mem inside
  refine ⟨?_, by simp [swap]⟩
  intro file swapped
  rcases List.mem_or_eq_of_mem_set swapped with first | rfl
  · rcases List.mem_or_eq_of_mem_set first with old | rfl
    · exact old
    · exact member here
  · exact member inside

theorem curMax_inside (files : List (List Char)) (n : Nat) : ∀ m ∈ curMax files n, m < n := by
  unfold curMax
  induction n with
  | zero => simp
  | succ n ih =>
    rw [List.range_succ, List.foldl_append]
    generalize (List.range n).foldl _ none = before at ih
    cases before with
    | none => simp
    | some m =>
      have earlier : m < n := ih m rfl
      intro last is_last
      simp only [List.foldl_cons, List.foldl_nil] at is_last
      split at is_last <;> cases is_last <;> omega

theorem sort_round_subset {files : List (List Char)} {i : Nat} (inside : i < files.length) :
    sort_round files.length files i ⊆ files ∧ (sort_round files.length files i).length = files.length := by
  unfold sort_round
  split
  · rename_i m largest
    have near : m < files.length - i := curMax_inside files _ m largest
    exact swap_subset (by omega) (by omega)
  · exact ⟨List.Subset.refl files, rfl⟩

theorem sort_files_subset (files : List (List Char)) : sort_files files ⊆ files := by
  have rounds : ∀ n ≤ files.length, (List.range n).foldl (sort_round files.length) files ⊆ files ∧
      ((List.range n).foldl (sort_round files.length) files).length = files.length := by
    intro n inside
    induction n with
    | zero => exact ⟨List.Subset.refl files, rfl⟩
    | succ n ih =>
      obtain ⟨subset, length⟩ := ih (Nat.le_of_succ_le inside)
      rw [List.range_succ, List.foldl_append, List.foldl_cons, List.foldl_nil]
      generalize (List.range n).foldl _ files = sorted at subset length
      have within : n < sorted.length := by omega
      obtain ⟨round, same⟩ := sort_round_subset within
      rw [length] at round same
      exact ⟨List.Subset.trans round subset, same⟩
  exact (rounds files.length (Nat.le_refl _)).1

/-- A visible name in a directory. -/
structure Listed (w : World) (directory name : List Char) : Prop where
  is_name : IsName name
  visible : hidden name = false
  there : ∃ node, lookup w.root (components directory ++ [name]) = some node

theorem gathered {w : World} {directory file : List Char} {extension : Option (List Char)}
    (member : file ∈ gather_files w directory extension) :
    ∃ name, Listed w directory name ∧
      match extension with
      | some ending => ending <:+ name ∧ file = directory ++ name
      | none => file = directory ++ name ++ ['/'] := by
  unfold gather_files opendir at member
  cases found : lookup w.root (components directory) with
  | none => simp [found] at member
  | some node =>
    cases node with
    | file => simp [found] at member
    | directory entries =>
      simp only [found] at member
      obtain ⟨⟨name, node⟩, entry, shown⟩ := List.mem_filterMap.mp (sort_files_subset _ member)
      have there : ∃ node, lookup w.root (components directory ++ [name.text]) = some node := lookup_entry found entry
      dsimp only at shown
      split at shown
      · cases shown
      rename_i visible
      refine ⟨name.text, ⟨name.isName, by simpa using visible, there⟩, ?_⟩
      cases extension with
      | some ending =>
        dsimp only at shown ⊢
        split at shown
        · rename_i ends
          cases shown
          exact ⟨ends, rfl⟩
        · cases shown
      | none =>
        dsimp only at shown ⊢
        split at shown
        · cases shown
          rfl
        · cases shown

/-! ### Runs of the menus -/

/-- The text of a directory that a menu can be in: what the first menu was given, and
    visible names behind it. -/
def InMenu (base directory : List Char) : Prop :=
  ∃ names, directory = base ++ below names ∧ ∀ name ∈ names, IsName name ∧ hidden name = false

/-- The file that the menu showed in its directory. -/
structure Shown (w : World) (base : List Char) (chosen : Chosen) : Prop where
  in_menu : InMenu base chosen.directory
  listed : Listed w chosen.directory chosen.d_name
  zip : ".zip".toList <:+ chosen.d_name
  file : chosen.file = chosen.directory ++ chosen.d_name

/-- Every menu is in such a directory, and so is what was chosen. -/
def AllInMenu (w : World) (base : List Char) : Menus → Prop
  | .waiting directory callers => ∀ menu ∈ directory :: callers, InMenu base menu
  | .returned result => ∀ chosen ∈ result, Shown w base chosen

/-- The menu of a visible directory in a menu. -/
theorem in_menu_below {base directory name : List Char} (here : InMenu base directory) (is_name : IsName name)
    (visible : hidden name = false) : InMenu base (directory ++ name ++ ['/']) := by
  obtain ⟨names, text, all_visible⟩ := here
  refine ⟨names ++ [name], ?_, ?_⟩
  · rw [below_concat, text]
    simp only [List.append_assoc]
  · intro n inside_names
    rcases List.mem_append.mp inside_names with before | last
    · exact all_visible n before
    · rw [List.mem_singleton.mp last]
      exact ⟨is_name, visible⟩

theorem choose_in_menu {w : World} {base : List Char} {menus next : Menus} {choice : Choice}
    (inside : AllInMenu w base menus) (chose : choose w menus choice = some next) : AllInMenu w base next := by
  cases menus with
  | returned result => cases chose
  | waiting directory callers =>
    cases choice with
    | GO_BACK =>
      cases callers with
      | nil =>
        cases chose
        intro chosen none
        cases none
      | cons caller callers =>
        cases chose
        exact fun menu member => inside menu (List.mem_cons_of_mem directory member)
    | item chosen_item =>
      have here : InMenu base directory := inside directory List.mem_cons_self
      rw [choose] at chose
      cases sub : (dirs w directory)[chosen_item]? with
      | some dir =>
        rw [sub] at chose
        dsimp only at chose
        split at chose
        · cases chose
          exact inside
        · cases chose
          obtain ⟨name, listed, dir_text⟩ := gathered (List.mem_of_getElem? sub)
          intro menu member
          rcases List.mem_cons.mp member with same | waiting
          · rw [same, dir_text]
            exact in_menu_below here listed.is_name listed.visible
          · exact inside menu waiting
      | none =>
        rw [sub] at chose
        obtain ⟨file, there, rfl⟩ := Option.map_eq_some_iff.mp chose
        obtain ⟨name, listed, ends, rfl⟩ := gathered (List.mem_of_getElem? there)
        intro result same
        cases same
        have shown_name : (directory ++ name).drop directory.length = name := List.drop_left
        exact {
          in_menu := here
          listed := shown_name.symm ▸ listed
          zip := shown_name.symm ▸ ends
          file := by rw [shown_name] }

theorem choices_in_menu {w : World} {base : List Char} {menus last : Menus} {choices : List Choice}
    (inside : AllInMenu w base menus) (ran : choices.foldlM (choose w) menus = some last) : AllInMenu w base last := by
  induction choices generalizing menus with
  | nil =>
    cases ran
    exact inside
  | cons choice choices ih =>
    rw [List.foldlM_cons] at ran
    obtain ⟨next, chosen, later⟩ := Option.bind_eq_some_iff.mp ran
    exact ih (choose_in_menu inside chosen) later

/-- What is installed was shown in a menu. -/
theorem installs_shown {w : World} {type : Fin 2} {choices : List Choice} {confirm_selection : Bool} {path : List Char}
    {chosen : Chosen} (installs : show_choose_zip_menu w type choices confirm_selection = some (path, chosen)) :
    Shown w (card type).menu.toList chosen ∧
      path = (card type).root.toList ++ chosen.file.drop (card type).cut.length := by
  have start : AllInMenu w (card type).menu.toList (choose_file_menu w (card type).menu.toList) := by
    unfold choose_file_menu
    split
    · intro chosen none
      cases none
    · intro menu member
      rw [List.mem_singleton.mp member]
      exact ⟨[], (List.append_nil _).symm, fun _ none => absurd none List.not_mem_nil⟩
  unfold show_choose_zip_menu at installs
  split at installs
  · split at installs
    · rename_i ran
      split at installs
      · cases installs
        exact ⟨choices_in_menu start ran chosen rfl, rfl⟩
      · cases installs
    · cases installs
  · cases installs

/-! ### The way back -/

/-- Where the file is that the menu showed. -/
def place (chosen : Chosen) : List (List Char) := components chosen.directory ++ [chosen.d_name]

def mount_place (type : Fin 2) : List (List Char) :=
  if type = 0 then ["mnt".toList, "sdcard".toList] else ["mnt".toList, "external_sd".toList]

/-- The places are the mount points of the cards. -/
theorem mount_place_root (type : Fin 2) :
    ((Devices.get_root_info_for_path (card type).root).bind Devices.RootInfo.mount_point).map String.toList =
      some (absolute (mount_place type)) := by
  revert type
  decide

/-- The path leads to the chosen file, which is a visible package on the card. -/
structure RoundTrip (w : World) (type : Fin 2) (path : List Char) (chosen : Chosen) : Prop where
  translated : (Nandroid.translate_root_path (String.ofList path)).map String.toList = some (absolute (place chosen))
  there : ∃ node, lookup w.root (place chosen) = some node
  on_card : ∃ inside, place chosen = mount_place type ++ inside ∧ ∀ name ∈ inside, hidden name = false
  zip : ".zip".toList <:+ chosen.d_name

theorem card_names (type : Fin 2) : ∀ name ∈ mount_place type, IsName name := by
  revert type
  unfold mount_place IsName
  decide

theorem card_row (type : Fin 2) : ∃ info ∈ RootPaths.device_roots.rows, info.name = (card type).root ∧
    info.mount_point.map String.toList = some (absolute (mount_place type)) := by
  revert type
  decide

theorem card_plain (type : Fin 2) :
    RootPaths.RootName (card type).root.toList ∧ (absolute (mount_place type)).getLast? ≠ some '/' := by
  rw [RootPaths.rootName_iff]
  revert type
  decide

/-- A root path is translated by its root. -/
theorem translate_card (type : Fin 2) (after : List Char) :
    (Nandroid.translate_root_path (String.ofList ((card type).root.toList ++ after))).map String.toList =
      some (absolute (mount_place type) ++ '/' :: after.dropWhile (· = '/')) := by
  obtain ⟨info, row, name, mounted⟩ := card_row type
  obtain ⟨named, open_end⟩ := card_plain type
  have resolves : RootPaths.Resolves RootPaths.device_roots (String.ofList ((card type).root.toList ++ after)).toList
      (absolute (mount_place type)) (after.dropWhile (· = '/')) := by
    rw [String.toList_ofList]
    exact ⟨info, row, after, ⟨by rw [name]; exact named, by rw [name]⟩, mounted, rfl⟩
  have glued : RootPaths.glue (absolute (mount_place type)) (after.dropWhile (· = '/')) =
      absolute (mount_place type) ++ '/' :: after.dropWhile (· = '/') := by
    rw [RootPaths.glue, if_neg open_end, List.append_assoc]
    rfl
  have translated := (RootPaths.translate_device_roots _
    (String.ofList (absolute (mount_place type) ++ '/' :: after.dropWhile (· = '/')))).mpr
      ⟨_, _, resolves, by rw [String.toList_ofList, glued]⟩
  rw [translated, Option.map_some, String.toList_ofList]

/-- What begins with a name does not begin with a slash. -/
theorem below_no_slash {names : List (List Char)} (are_names : ∀ name ∈ names, IsName name) {last : List Char}
    (is_name : IsName last) : (below names ++ last).dropWhile (· = '/') = below names ++ last := by
  have plain {name : List Char} (is_name : IsName name) (rest : List Char) :
      (name ++ rest).dropWhile (· = '/') = name ++ rest := by
    obtain ⟨c, others, rfl⟩ := List.exists_cons_of_ne_nil is_name.1
    have other : c ≠ '/' := fun same => is_name.2 (same ▸ List.mem_cons_self)
    rw [List.cons_append, List.dropWhile_cons_of_neg (by simpa using other)]
  cases names with
  | nil =>
    have alone := plain is_name []
    rwa [List.append_nil] at alone
  | cons name names =>
    have whole : below (name :: names) ++ last = name ++ ('/' :: below names ++ last) := by
      simp [below]
    rw [whole, plain (are_names name List.mem_cons_self)]

/-- A file that was chosen on the first card is found again. -/
theorem first_card {w : World} {chosen : Chosen} (shown : Shown w (card 0).menu.toList chosen) :
    RoundTrip w 0 ((card 0).root.toList ++ chosen.file.drop (card 0).cut.length) chosen := by
  obtain ⟨⟨names, directory, visible⟩, listed, zip, file⟩ := shown
  have menu : (card 0).menu.toList = '/' :: below (mount_place 0) := by decide
  have inside_names : ∀ name ∈ mount_place 0 ++ names, IsName name := by
    intro name member
    rcases List.mem_append.mp member with card_name | below_card
    · exact card_names 0 name card_name
    · exact (visible name below_card).1
  have whole : chosen.directory = '/' :: below (mount_place 0 ++ names) := by
    rw [directory, menu, below_append]
    rfl
  have no_more : components [] = [] := rfl
  have where_it_is : components chosen.directory = mount_place 0 ++ names := by
    rw [whole, components_slash, ← List.append_nil (below _), components_inside inside_names, no_more, List.append_nil]
  have cut : chosen.file.drop (card 0).cut.length = below names ++ chosen.d_name := by
    have length : (card 0).cut.length = (card 0).menu.toList.length := by decide
    rw [file, directory, List.append_assoc, length, List.drop_left]
  refine ⟨?_, listed.there, ⟨names ++ [chosen.d_name], ?_, ?_⟩, zip⟩
  · have mount : absolute (mount_place 0) ++ ['/'] = '/' :: below (mount_place 0) := by decide
    have names_only : ∀ name ∈ names, IsName name := fun name member => (visible name member).1
    rw [cut, translate_card, below_no_slash names_only listed.is_name, place, where_it_is, absolute_below, below_append,
      ← List.singleton_append, ← List.append_assoc, mount]
    simp only [List.cons_append, List.append_assoc]
  · rw [place, where_it_is, List.append_assoc]
  · intro name member
    rcases List.mem_append.mp member with before | last
    · exact (visible name before).2
    · rw [List.mem_singleton.mp last]
      exact listed.visible

/-- On the second card the path loses a character, or the file is somewhere else. -/
theorem second_card {w : World} {chosen : Chosen} (shown : Shown w (card 1).menu.toList chosen) :
    ¬ RoundTrip w 1 ((card 1).root.toList ++ chosen.file.drop (card 1).cut.length) chosen := by
  rintro ⟨translated, _, ⟨inside, on_card, _⟩, _⟩
  obtain ⟨⟨names, directory, visible⟩, listed, zip, file⟩ := shown
  cases names with
  | nil =>
    have here : components (card 1).menu.toList = mount_place 1 := by decide
    have length : (card 1).cut.length = (card 1).menu.toList.length + 1 := by decide
    have no_names : (card 1).menu.toList ++ below [] = (card 1).menu.toList := List.append_nil _
    rw [no_names] at directory
    have cut : chosen.file.drop (card 1).cut.length = chosen.d_name.drop 1 := by
      rw [file, directory, length, List.drop_length_add_append]
    have whole : absolute (mount_place 1 ++ [chosen.d_name]) = absolute (mount_place 1) ++ '/' :: chosen.d_name := by
      simp [absolute]
    rw [cut, translate_card, place, directory, here, whole, Option.some.injEq, List.append_cancel_left_eq,
      List.cons.injEq] at translated
    have shorter : ((chosen.d_name.drop 1).dropWhile (· = '/')).length ≤ (chosen.d_name.drop 1).length :=
      (List.dropWhile_sublist _).length_le
    have some_char : 0 < chosen.d_name.length := List.length_pos_iff.mpr listed.is_name.1
    rw [translated.2, List.length_drop] at shorter
    omega
  | cons first names =>
    have menu : (card 1).menu.toList = '/' :: ("mnt".toList ++ '/' :: "external_sd".toList) := by decide
    have first_name := (visible first List.mem_cons_self).1
    have mnt : IsName "mnt".toList := by
      unfold IsName
      decide
    have other : IsName ("external_sd".toList ++ first) := by
      refine ⟨List.append_ne_nil_of_right_ne_nil _ first_name.1, ?_⟩
      rw [List.mem_append, not_or]
      exact ⟨by decide, first_name.2⟩
    have whole : chosen.directory = '/' :: ("mnt".toList ++ '/' :: ("external_sd".toList ++ first ++ '/' :: below names)) := by
      rw [directory, menu]
      simp [below]
    rw [place, whole, components_slash, components_name mnt, components_name other] at on_card
    have same : "external_sd".toList ++ first = "external_sd".toList :=
      (List.cons.inj (List.cons.inj on_card).2).1
    exact first_name.1 (List.append_right_eq_self.mp same)

/-- What is installed is the file that was chosen on the first card, and never on the
    second one. -/
theorem zip_path_iff {w : World} {type : Fin 2} {choices : List Choice} {confirm_selection : Bool} {path : List Char}
    {chosen : Chosen} (installs : show_choose_zip_menu w type choices confirm_selection = some (path, chosen)) :
    RoundTrip w type path chosen ↔ type = 0 := by
  obtain ⟨shown, rfl⟩ := installs_shown installs
  constructor
  · intro round_trip
    by_contra other
    have second : type = 1 := by omega
    subst second
    exact second_card shown round_trip
  · rintro rfl
    exact first_card shown

/-! ### A package on both cards -/

def update_zip : Name := ⟨"update.zip".toList, by decide, by decide, by decide⟩

/-- Two cards with nothing but a package on them. -/
def two_cards : World where
  root := .directory [(⟨"mnt".toList, by decide, by decide, by decide⟩, .directory [
    (⟨"sdcard".toList, by decide, by decide, by decide⟩, .directory [(update_zip, .file)]),
    (⟨"external_sd".toList, by decide, by decide, by decide⟩, .directory [(update_zip, .file)])])]
  unknown := fun _ => false
  mounted := fun _ => true

def on_first : Chosen := ⟨"/mnt/sdcard/update.zip".toList, "/mnt/sdcard/".toList, "update.zip".toList⟩
def on_second : Chosen := ⟨"/mnt/external_sdupdate.zip".toList, "/mnt/external_sd".toList, "update.zip".toList⟩

theorem first_installs :
    show_choose_zip_menu two_cards 0 [.item 0] true = some ("SDCARD:update.zip".toList, on_first) := by
  decide +kernel

theorem first_round_trip : RoundTrip two_cards 0 "SDCARD:update.zip".toList on_first ↔ (0 : Fin 2) = 0 :=
  zip_path_iff first_installs

/-- The package on the second card is installed as `SDCARD2:pdate.zip`. -/
theorem second_loses :
    show_choose_zip_menu two_cards 1 [.item 0] true = some ("SDCARD2:pdate.zip".toList, on_second) ∧
      ¬ RoundTrip two_cards 1 "SDCARD2:pdate.zip".toList on_second := by
  refine ⟨by decide +kernel, ?_⟩
  intro round_trip
  exact absurd round_trip.translated (by decide +kernel)

end SteamRecovery.ZipChooser
