import Mathlib.Data.Char
import Mathlib.Data.List.Lex
import SteamRecovery.ZipChooser

/-!
Listing a directory (`gather_files` in `extendedcommands.c`). The entries are counted in a
first pass and copied in a second one, and then sorted from the end. Where both passes see
the same, the list has the entries that were asked for, in order (`gather_files_lists`).
-/
namespace SteamRecovery.GatherFiles
open SteamRecovery.ZipChooser (hidden swap curMax sort_round sort_files)

def PATH_MAX : Nat := 4096

/-- What `readdir` returns in the two passes. -/
structure Directory where
  first : List (List Char)
  second : List (List Char)

structure World where
  opendir : List Char → Option Directory
  /-- `closedir` succeeds. -/
  closedir : Bool
  /-- `S_ISDIR` of what is at a path, unless `stat` fails. -/
  stat : List Char → Option Bool
  /-- `S_ISDIR` of what is in memory where `stat` failed. -/
  unset : List Char → Bool
  too_long : ∀ path, PATH_MAX ≤ path.length → stat path = none

/-- The pointers of a list. One that is `NULL` or not set is `none`. -/
abbrev Files := List (Option (List Char))

structure Gathered where
  files : Option Files
  numFiles : Nat
  said : List String
  deriving DecidableEq

section
variable (w : World) (directory : List Char) (fileExtensionOrDirectory : Option (List Char))

/-- An entry that is counted or copied. It is `none` if `fullFileName` is too short. -/
def selects (d_name : List Char) : Option Bool :=
  if hidden d_name then some false
  else
    match fileExtensionOrDirectory with
    | some extension =>
      if d_name.length < extension.length then some false
      else some (d_name.drop (d_name.length - extension.length) = extension)
    | none =>
      let fullFileName := directory ++ d_name
      if fullFileName.length < PATH_MAX then some ((w.stat fullFileName).getD (w.unset fullFileName)) else none

def entry (d_name : List Char) : List Char :=
  directory ++ d_name ++ if fileExtensionOrDirectory = none then ['/'] else []

def count (total : Nat) (d_name : List Char) : Option Nat :=
  (selects w directory fileExtensionOrDirectory d_name).map fun selected => if selected then total + 1 else total

/-- It is `none` behind the end of the list. -/
def fill (state : Nat × Files) (d_name : List Char) : Option (Nat × Files) :=
  match selects w directory fileExtensionOrDirectory d_name with
  | none => none
  | some false => some state
  | some true =>
    if state.1 < state.2.length then
      some (state.1 + 1, state.2.set state.1 (some (entry directory fileExtensionOrDirectory d_name)))
    else none

/-- Pointers that are not set cannot be sorted. -/
def sort (total : Nat) (files : Files) : Option Files :=
  ((files.take total).mapM id).map fun paths => (sort_files paths).map some ++ files.drop total

def closed : List String := if w.closedir then [] else ["E:Failed to close directory."]

def gather_files : Option Gathered :=
  match w.opendir directory with
  | none => some ⟨none, 0, ["Couldn't open directory.\n"]⟩
  | some dir =>
    match dir.first.foldlM (count w directory fileExtensionOrDirectory) 0 with
    | none => none
    | some total =>
      if total = 0 then some ⟨none, 0, closed w⟩
      else
        match dir.second.foldlM (fill w directory fileExtensionOrDirectory) (0, List.replicate (total + 1) none) with
        | none => none
        | some (_, files) => (sort total files).map fun files => ⟨some files, total, closed w⟩

end

/-! ### Sorting -/

theorem getD_inside {files : List (List Char)} {i : Nat} (inside : i < files.length) : files.getD i [] = files[i] :=
  (List.getElem_eq_getD []).symm

theorem swap_perm {files : List (List Char)} {i j : Nat} (inside : i < files.length) (here : j < files.length) :
    (swap files i j).Perm files := by
  unfold swap
  rw [getD_inside inside, getD_inside here]
  exact List.set_set_perm inside here

theorem getD_swap {files : List (List Char)} {i j : Nat} (inside : i < files.length) (here : j < files.length) (k : Nat) :
    (swap files i j).getD k [] =
      if k = j then files.getD i [] else if k = i then files.getD j [] else files.getD k [] := by
  unfold swap
  simp only [List.getD_eq_getElem?_getD, List.getElem?_set, List.length_set]
  grind

theorem curMax_largest (files : List (List Char)) {n : Nat} (some_left : 0 < n) :
    ∃ m, curMax files n = some m ∧ m < n ∧ ∀ j < n, files.getD j [] ≤ files.getD m [] := by
  unfold curMax
  induction n with
  | zero => omega
  | succ n ih =>
    rw [List.range_succ, List.foldl_append, List.foldl_cons, List.foldl_nil]
    by_cases first : n = 0
    · subst first
      refine ⟨0, rfl, Nat.zero_lt_one, fun j here => ?_⟩
      obtain rfl : j = 0 := by omega
      exact le_refl _
    obtain ⟨m, is_max, inside, largest⟩ := ih (by omega)
    rw [is_max]
    dsimp only
    split
    · rename_i larger
      refine ⟨n, rfl, by omega, fun j here => ?_⟩
      rcases Nat.lt_succ_iff_lt_or_eq.mp here with before | rfl
      · exact (largest j before).trans (le_of_lt larger)
      · exact le_refl _
    · rename_i not_larger
      refine ⟨m, rfl, by omega, fun j here => ?_⟩
      rcases Nat.lt_succ_iff_lt_or_eq.mp here with before | rfl
      · exact largest j before
      · exact not_lt.mp not_larger

/-- From this index on, nothing before is larger. -/
def InPlace (files : List (List Char)) (start : Nat) : Prop :=
  ∀ j k, start ≤ k → k < files.length → j ≤ k → files.getD j [] ≤ files.getD k []

theorem sort_round_places {files : List (List Char)} {i : Nat} (inside : i < files.length)
    (placed : InPlace files (files.length - i)) :
    (sort_round files.length files i).Perm files ∧ InPlace (sort_round files.length files i) (files.length - (i + 1)) := by
  have some_left : 0 < files.length - i := by omega
  obtain ⟨m, is_max, near, largest⟩ := curMax_largest files some_left
  have m_inside : m < files.length := by omega
  have last_inside : files.length - i - 1 < files.length := by omega
  unfold sort_round
  rw [is_max]
  dsimp only
  have perm := swap_perm m_inside last_inside
  refine ⟨perm, fun j k start below before => ?_⟩
  rw [perm.length_eq] at below
  -- what is at `j` was before `k`, or among those that are compared
  by_cases last : k = files.length - i - 1
  · rw [getD_swap m_inside last_inside j, getD_swap m_inside last_inside k, if_pos last]
    split
    · exact le_refl _
    split
    · exact largest _ (by omega)
    · exact largest _ (by omega)
  · rw [getD_swap m_inside last_inside j, getD_swap m_inside last_inside k, if_neg last, if_neg (show k ≠ m by omega)]
    split
    · exact placed _ _ (by omega) below (by omega)
    split
    · exact placed _ _ (by omega) below (by omega)
    · exact placed _ _ (by omega) below before

theorem sort_files_sorts (files : List (List Char)) : (sort_files files).Perm files ∧ (sort_files files).Pairwise (· ≤ ·) := by
  have rounds : ∀ n ≤ files.length, ((List.range n).foldl (sort_round files.length) files).Perm files ∧
      InPlace ((List.range n).foldl (sort_round files.length) files) (files.length - n) := by
    intro n inside
    induction n with
    | zero =>
      refine ⟨List.Perm.refl files, fun j k start below => ?_⟩
      exact absurd below (by simpa using start)
    | succ n ih =>
      obtain ⟨perm, placed⟩ := ih (Nat.le_of_succ_le inside)
      rw [List.range_succ, List.foldl_append, List.foldl_cons, List.foldl_nil]
      generalize (List.range n).foldl _ files = sorted at perm placed
      rw [← perm.length_eq] at placed inside ⊢
      obtain ⟨same, place⟩ := sort_round_places inside placed
      exact ⟨same.trans perm, place⟩
  obtain ⟨perm, placed⟩ := rounds files.length (Nat.le_refl _)
  refine ⟨perm, List.pairwise_iff_getElem.mpr fun j k inside here before => ?_⟩
  have in_order := placed j k (by omega) here (Nat.le_of_lt before)
  rwa [← sort_files, getD_inside inside, getD_inside here] at in_order

/-! ### The passes -/

section
variable (w : World) (directory : List Char) (fileExtensionOrDirectory : Option (List Char))

/-- A visible name that ends like this, or, with no such ending, one of a directory. -/
def Wanted (d_name : List Char) : Prop :=
  d_name.head? ≠ some '.' ∧
    match fileExtensionOrDirectory with
    | some extension => extension <:+ d_name
    | none => w.stat (directory ++ d_name) = some true

instance : DecidablePred (Wanted w directory fileExtensionOrDirectory) := fun d_name => by
  unfold Wanted
  cases fileExtensionOrDirectory <;> exact inferInstance

/-- `stat` is called for visible names, and only where directories are asked for. -/
def StatSucceeds (names : List (List Char)) : Prop :=
  fileExtensionOrDirectory = none → ∀ d_name ∈ names, d_name.head? ≠ some '.' → w.stat (directory ++ d_name) ≠ none

def listed (names : List (List Char)) : List (List Char) :=
  (names.filter (Wanted w directory fileExtensionOrDirectory)).map (entry directory fileExtensionOrDirectory)

variable {w directory fileExtensionOrDirectory}

theorem ends_with_iff (d_name extension : List Char) :
    extension <:+ d_name ↔
      ¬d_name.length < extension.length ∧ d_name.drop (d_name.length - extension.length) = extension := by
  rw [List.suffix_iff_eq_drop]
  constructor
  · intro same
    have length := congrArg List.length same
    rw [List.length_drop] at length
    exact ⟨by omega, same.symm⟩
  · exact fun ⟨_, same⟩ => same.symm

theorem selects_wanted {names : List (List Char)} (stats : StatSucceeds w directory fileExtensionOrDirectory names)
    {d_name : List Char} (member : d_name ∈ names) :
    selects w directory fileExtensionOrDirectory d_name = some (decide (Wanted w directory fileExtensionOrDirectory d_name)) := by
  unfold selects Wanted
  by_cases visible : d_name.head? = some '.'
  · simp [ZipChooser.hidden, visible]
  rw [if_neg (by simpa [ZipChooser.hidden] using visible)]
  cases fileExtensionOrDirectory with
  | some extension =>
    simp only [ends_with_iff]
    split <;> simp [*]
  | none =>
    have succeeds := stats rfl d_name member visible
    have short : (directory ++ d_name).length < PATH_MAX := by
      by_contra long
      exact succeeds (w.too_long _ (Nat.le_of_not_lt long))
    dsimp only
    rw [if_pos short]
    obtain ⟨isDir, info⟩ := Option.ne_none_iff_exists'.mp succeeds
    simp [info, visible]

theorem count_pass (names : List (List Char)) (stats : StatSucceeds w directory fileExtensionOrDirectory names) (total : Nat) :
    names.foldlM (count w directory fileExtensionOrDirectory) total =
      some (total + (listed w directory fileExtensionOrDirectory names).length) := by
  induction names generalizing total with
  | nil => rfl
  | cons d_name rest ih =>
    have later : StatSucceeds w directory fileExtensionOrDirectory rest :=
      fun directories d_name member => stats directories d_name (List.mem_cons_of_mem _ member)
    rw [List.foldlM_cons, count, selects_wanted stats List.mem_cons_self]
    simp only [Option.map_some, Option.bind_eq_bind, Option.bind_some, ih later, listed, List.length_map]
    by_cases wanted : Wanted w directory fileExtensionOrDirectory d_name
    · simp only [wanted, decide_true, if_true, List.filter_cons_of_pos, List.length_cons]
      rw [Nat.add_assoc, Nat.add_comm 1]
    · simp [wanted]

/-- What is copied so far, and room for the rest and the `NULL` behind it. -/
theorem fill_pass (names : List (List Char)) (stats : StatSucceeds w directory fileExtensionOrDirectory names)
    (done : List (List Char)) {room : Nat} (fits : (listed w directory fileExtensionOrDirectory names).length ≤ room) :
    names.foldlM (fill w directory fileExtensionOrDirectory) (done.length, done.map some ++ List.replicate (room + 1) none) =
      some ((done ++ listed w directory fileExtensionOrDirectory names).length,
        (done ++ listed w directory fileExtensionOrDirectory names).map some ++
          List.replicate (room - (listed w directory fileExtensionOrDirectory names).length + 1) none) := by
  induction names generalizing done room with
  | nil => simp [listed]
  | cons d_name rest ih =>
    have later : StatSucceeds w directory fileExtensionOrDirectory rest :=
      fun directories d_name member => stats directories d_name (List.mem_cons_of_mem _ member)
    rw [List.foldlM_cons, fill, selects_wanted stats List.mem_cons_self]
    by_cases wanted : Wanted w directory fileExtensionOrDirectory d_name
    · have first : listed w directory fileExtensionOrDirectory (d_name :: rest) =
          entry directory fileExtensionOrDirectory d_name :: listed w directory fileExtensionOrDirectory rest := by
        simp [listed, wanted]
      rw [first, List.length_cons] at fits
      obtain ⟨room, rfl⟩ : ∃ n, room = n + 1 := ⟨room - 1, by omega⟩
      have copied := ih later (done ++ [entry directory fileExtensionOrDirectory d_name]) (show _ ≤ room by omega)
      have set_next : (done.map some ++ List.replicate (room + 1 + 1) none).set done.length
          (some (entry directory fileExtensionOrDirectory d_name)) =
            (done ++ [entry directory fileExtensionOrDirectory d_name]).map some ++ List.replicate (room + 1) none := by
        rw [List.set_append_right _ _ (by simp), List.length_map, Nat.sub_self, List.replicate_succ, List.set_cons_zero,
          List.map_append, List.map_singleton, List.append_assoc, List.singleton_append]
      have below : done.length < (done.map some ++ List.replicate (room + 1 + 1) (none : Option (List Char))).length := by
        simp
      simp only [wanted, decide_true, if_pos below, set_next, Option.bind_eq_bind, Option.bind_some]
      rw [List.length_append, List.length_singleton] at copied
      rw [copied, first, List.append_assoc, List.singleton_append, List.length_cons, Nat.add_sub_add_right]
    · have first : listed w directory fileExtensionOrDirectory (d_name :: rest) = listed w directory fileExtensionOrDirectory rest := by
        simp [listed, wanted]
      rw [first] at fits ⊢
      simpa [wanted] using ih later done fits

theorem sort_files_all (files : List (List Char)) (ends : Files) :
    sort files.length (files.map some ++ ends) = some ((sort_files files).map some ++ ends) := by
  have all_set : (files.map some).mapM id = some files := by
    induction files with
    | nil => rfl
    | cons file rest ih => rw [List.map_cons, List.mapM_cons, id, ih]; rfl
  have length : files.length = (files.map some).length := (List.length_map ..).symm
  rw [sort, length, List.take_left, List.drop_left, all_set, Option.map_some]

/-- A list that ends in `NULL`, or none at all. -/
def result (files : List (List Char)) : Option Files := if files = [] then none else some (files.map some ++ [none])

theorem gather_files_sorts {names : List (List Char)} (listing : w.opendir directory = some ⟨names, names⟩)
    (stats : StatSucceeds w directory fileExtensionOrDirectory names) :
    gather_files w directory fileExtensionOrDirectory =
      some ⟨result (sort_files (listed w directory fileExtensionOrDirectory names)),
        (listed w directory fileExtensionOrDirectory names).length, closed w⟩ := by
  have perm := (sort_files_sorts (listed w directory fileExtensionOrDirectory names)).1
  have copied := fill_pass names stats [] (Nat.le_refl _)
  rw [gather_files, listing]
  dsimp only
  rw [count_pass names stats, Nat.zero_add]
  dsimp only
  by_cases none_wanted : (listed w directory fileExtensionOrDirectory names).length = 0
  · rw [if_pos none_wanted, none_wanted]
    rw [List.length_eq_zero_iff] at none_wanted
    rw [none_wanted] at perm ⊢
    rw [result, if_pos perm.eq_nil]
  · have some_wanted : ¬sort_files (listed w directory fileExtensionOrDirectory names) = [] := by
      intro empty
      rw [empty] at perm
      exact none_wanted (List.length_eq_zero_iff.mpr perm.symm.eq_nil)
    simp only [List.length_nil, List.map_nil, List.nil_append, Nat.sub_self, Nat.zero_add, List.replicate_one] at copied
    rw [if_neg none_wanted, copied]
    dsimp only
    rw [sort_files_all, result, if_neg some_wanted, Option.map_some]

theorem gather_files_lists {names : List (List Char)} (listing : w.opendir directory = some ⟨names, names⟩)
    (stats : StatSucceeds w directory fileExtensionOrDirectory names) :
    ∃ files, files.Perm (listed w directory fileExtensionOrDirectory names) ∧ files.Pairwise (· ≤ ·) ∧
      gather_files w directory fileExtensionOrDirectory = some ⟨result files, files.length, closed w⟩ := by
  obtain ⟨perm, sorted⟩ := sort_files_sorts (listed w directory fileExtensionOrDirectory names)
  refine ⟨_, perm, sorted, ?_⟩
  rw [gather_files_sorts listing stats, perm.length_eq]

/-- The directories that the menus are made from are listed like this. -/
theorem chooser_lists (w : World) {chooser : ZipChooser.World} {entries : List (Paths.Name × Paths.Node)}
    (opens : ZipChooser.opendir chooser directory = some entries)
    (listing : w.opendir directory = some ⟨entries.map (·.1.text), entries.map (·.1.text)⟩)
    (stats : ∀ entry ∈ entries, w.stat (directory ++ entry.1.text) = some (ZipChooser.isDir chooser (directory ++ entry.1.text))) :
    (gather_files w directory fileExtensionOrDirectory).map (·.files) =
      some (result (ZipChooser.gather_files chooser directory fileExtensionOrDirectory)) := by
  have succeeds : StatSucceeds w directory fileExtensionOrDirectory (entries.map (·.1.text)) := by
    intro _ d_name member _
    obtain ⟨entry, there, rfl⟩ := List.mem_map.mp member
    rw [stats entry there]
    exact Option.some_ne_none _
  have same : sort_files (listed w directory fileExtensionOrDirectory (entries.map (·.1.text))) =
      ZipChooser.gather_files chooser directory fileExtensionOrDirectory := by
    rw [ZipChooser.gather_files, opens]
    dsimp only
    congr 1
    clear opens listing succeeds
    induction entries with
    | nil => rfl
    | cons first rest ih =>
      have rest_lists := ih fun entry there => stats entry (List.mem_cons_of_mem _ there)
      have info := stats first List.mem_cons_self
      rw [List.map_cons, List.filterMap_cons, ← rest_lists]
      by_cases visible : first.1.text.head? = some '.'
      · simp [listed, Wanted, ZipChooser.hidden, visible]
      cases fileExtensionOrDirectory with
      | some extension =>
        by_cases ends : extension <:+ first.1.text <;> simp [listed, Wanted, ZipChooser.hidden, visible, ends, entry]
      | none =>
        cases isDir : ZipChooser.isDir chooser (directory ++ first.1.text) <;>
          simp [listed, Wanted, ZipChooser.hidden, visible, info, isDir, entry]
  rw [gather_files_sorts listing succeeds, Option.map_some, same]

end

/-- A card with two packages, a directory and a hidden file. -/
def card : World where
  opendir path := if path = "/sd/".toList then
      let names := ["b.zip".toList, ".zip".toList, "d".toList, "a.zip".toList]
      some ⟨names, names⟩
    else none
  closedir := true
  stat path := if PATH_MAX ≤ path.length then none else some (path = "/sd/d".toList)
  unset _ := false
  too_long _ long := if_pos long

theorem card_lists :
    ∃ files,
      files.Perm (listed card "/sd/".toList (some ".zip".toList) ["b.zip".toList, ".zip".toList, "d".toList, "a.zip".toList]) ∧
        files.Pairwise (· ≤ ·) ∧
          gather_files card "/sd/".toList (some ".zip".toList) = some ⟨result files, files.length, closed card⟩ :=
  gather_files_lists (by rfl) (by unfold StatSucceeds; decide)

end SteamRecovery.GatherFiles
