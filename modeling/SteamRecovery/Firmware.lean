import SteamRecovery.BootMessages
import SteamRecovery.Devices
import SteamRecovery.Routines

/-!
Handing a firmware image over to the bootloader (`firmware.c` and
`write_update_for_bootloader` in `bootloader.c`). First the message asks for a wipe
of the cache, then the image is written over the cache, its header last, and then
the message asks for the update. A run may be cut behind every step
(`firmware_update_interruptible`).
-/
namespace SteamRecovery.Firmware
open SteamRecovery.BootMessages
open SteamRecovery.CStrings
open SteamRecovery.Devices (CInt)
open SteamRecovery.Routines

/-- The update that `remember_firmware_update` stored: `update_type`, and the
    `update_length` bytes at `update_data`. -/
structure Update where
  type : List Char
  data : List Char

def UPDATE_MAGIC : String := "MSM-RADIO-UPDATE"
def UPDATE_VERSION : CInt := 0x00010000

/-- `struct update_header`. -/
structure UpdateHeader where
  MAGIC : List Char
  version : CInt
  size : CInt
  image_offset : CInt
  image_length : CInt
  bitmap_width : CInt
  bitmap_height : CInt
  bitmap_bpp : CInt
  busy_bitmap_offset : CInt
  busy_bitmap_length : CInt
  fail_bitmap_offset : CInt
  fail_bitmap_length : CInt

/-- `memset(&header, 0, sizeof(header));` -/
def zero_header : UpdateHeader := ⟨List.replicate 16 '\x00', 0, 0, 0, 0, 0, 0, 0, 0, 0, 0, 0⟩

/-- What is written to the cache partition. A bitmap may be `NULL`. -/
inductive Section where
  | header (h : UpdateHeader)
  | image (data : List Char)
  | bitmap (data : Option (List Char))

/-- What is done to the cache partition, and how it went. -/
inductive CacheEvent where
  | opened (ok : Bool)
  | wrote (part : Section) (ok : Bool)
  /-- `mtd_erase_blocks`, and the position it returns. -/
  | erased (pos : Int)
  | closed (code : Int)
  | formatted (code : Int)

/-- The two partitions: the stored message, and what was done to the cache so far. -/
structure Flash where
  message : BootloaderMessage
  /-- The first message has been written. -/
  sent : Bool
  cache : List CacheEvent

/-- What a call of `set_bootloader_message` returns, and whether it takes effect. -/
structure MessageOutcome where
  code : Int
  effect : Bool

/-- How the steps go. The calls of one function are counted from 0. -/
structure Outcomes where
  message : Nat → MessageOutcome
  /-- What `ui_copy_image` returns. -/
  busy_image : Option (List Char)
  fail_image : Option (List Char)
  width : CInt
  height : CInt
  bpp : CInt
  unmount : Int
  /-- `get_root_mtd_partition` finds the cache. -/
  part : Bool
  mtd_write_partition : Nat → Bool
  /-- `mtd_write_data` writes all of the data. -/
  mtd_write_data : Nat → Bool
  mtd_erase_blocks : Nat → Int
  mtd_find_write_start : Nat → Int
  mtd_write_close : Nat → Int
  format : Int
  reboot : Int

/-- Every message takes full effect, and 0 is returned, or it takes none. -/
def AllOrNone (o : Outcomes) : Prop := ∀ n, (o.message n).code = 0 ↔ (o.message n).effect = true

section
variable (o : Outcomes)

def done_to_cache (event : CacheEvent) (f : Flash) : Flash := { f with cache := f.cache ++ [event] }

def set_bootloader_message (n : Nat) (boot : BootloaderMessage) : Routine (Traced Flash) :=
  step (o.message n).code fun f =>
    if (o.message n).effect then { f with message := boot, sent := true } else f

def mtd_write_partition (n : Nat) : Routine (Traced Flash) :=
  step (if o.mtd_write_partition n then 0 else -1) (done_to_cache (.opened (o.mtd_write_partition n)))

/-- Where `mtd_write_close` fails, -1 is returned. -/
def mtd_write_close (n : Nat) : Routine (Traced Flash) :=
  step (if o.mtd_write_close n = 0 then 0 else -1) (done_to_cache (.closed (o.mtd_write_close n)))

/-- `mtd_erase_blocks`, where only the position counts, or is compared with `pos`. -/
def mtd_erase_blocks (n : Nat) (pos : Option Int) : Routine (Traced Flash) :=
  step (if pos.all (· = o.mtd_erase_blocks n) then 0 else -1) (done_to_cache (.erased (o.mtd_erase_blocks n)))

/-- Where the routine fails, the context is closed and -1 returned. -/
def or_close (n : Nat) (routine : Routine (Traced Flash)) : Routine (Traced Flash) := fun t =>
  if (routine t).1 = 0 then routine t else (-1, (mtd_write_close o n (routine t).2).2)

/-- `mtd_write_data` behind the check of an offset. -/
def mtd_write_data (n : Nat) (offset : CInt) (part : Section) : Routine (Traced Flash) :=
  if offset = -1 then fun t => (-1, t)
  else step (if o.mtd_write_data n then 0 else -1) (done_to_cache (.wrote part (o.mtd_write_data n)))

/-- The header behind the image, as far as it is filled in then. -/
def image_header (update_length : Nat) : UpdateHeader :=
  { zero_header with
    MAGIC := UPDATE_MAGIC.toList
    version := UPDATE_VERSION
    size := 60
    image_length := BitVec.ofNat 32 update_length }

def bitmap_length : CInt := (o.bpp + 7).sdiv 8 * o.width * o.height

def busy_header (update_length : Nat) : UpdateHeader :=
  { image_header update_length with
    image_offset := BitVec.ofInt 32 (o.mtd_find_write_start 0)
    bitmap_width := o.width
    bitmap_height := o.height
    bitmap_bpp := o.bpp
    busy_bitmap_length := if o.busy_image = none then 0 else bitmap_length o }

def fail_header (update_length : Nat) : UpdateHeader :=
  { busy_header o update_length with
    busy_bitmap_offset := BitVec.ofInt 32 (o.mtd_find_write_start 1)
    fail_bitmap_length := if o.fail_image = none then 0 else bitmap_length o }

def update_header (update_length : Nat) : UpdateHeader :=
  { fail_header o update_length with fail_bitmap_offset := BitVec.ofInt 32 (o.mtd_find_write_start 2) }

def write_update_for_bootloader (update : List Char) : Routine (Traced Flash) :=
  inOrder [
    step (if o.unmount = 0 then 0 else -1) id,
    fun t => (if o.part then 0 else -1, t),
    mtd_write_partition o 0,
    or_close o 0 (mtd_write_data o 0 0 (.header zero_header)),
    mtd_erase_blocks o 0 none,
    or_close o 0 (mtd_write_data o 1 (image_header update.length).image_offset (.image update)),
    mtd_erase_blocks o 1 none,
    or_close o 0 (mtd_write_data o 2 (busy_header o update.length).busy_bitmap_offset (.bitmap o.busy_image)),
    mtd_erase_blocks o 2 none,
    or_close o 0 (mtd_write_data o 3 (fail_header o update.length).fail_bitmap_offset (.bitmap o.fail_image)),
    mtd_erase_blocks o 3 none,
    mtd_write_close o 0,
    mtd_write_partition o 1,
    or_close o 1 (mtd_write_data o 4 0 (.header (update_header o update.length))),
    or_close o 1 (mtd_erase_blocks o 4 (some (o.mtd_erase_blocks 0))),
    mtd_write_close o 1]

/-- The recovery field of the messages. The size that limits its first lines is that of
    the command field. -/
def wipe_cache_field (send_intent : Option (List Char)) : List Char :=
  let field := strlcpy '\x00' zero_message.recovery "recovery\n--wipe_cache\n".toList 32
  match send_intent with
  | none => field
  | some send_intent =>
    strlcat '\x00' (strlcat '\x00' (strlcat '\x00' field "--send_intent=".toList 1024) send_intent 1024)
      ['\n'] 1024

theorem wipe_lines_size : (strlcpy '\x00' zero_message.recovery "recovery\n--wipe_cache\n".toList 32).length = 1024 := by
  rw [strlcpy_length (by rw [zero_message.recovery_size]; decide), zero_message.recovery_size]

theorem wipe_cache_field_size (send_intent : Option (List Char)) :
    (wipe_cache_field send_intent).length = 1024 := by
  cases send_intent with
  | none => exact wipe_lines_size
  | some send_intent => exact strlcat_size (strlcat_size (strlcat_size wipe_lines_size _) _) _

def wipe_cache_message (send_intent : Option (List Char)) : BootloaderMessage where
  command := strlcpy '\x00' zero_message.command "boot-recovery".toList 32
  status := zero_message.status
  recovery := wipe_cache_field send_intent
  command_size := by rw [strlcpy_length (Nat.le_of_eq zero_message.command_size.symm), zero_message.command_size]
  status_size := zero_message.status_size
  recovery_size := wipe_cache_field_size send_intent

/-- `snprintf(boot.command, sizeof(boot.command), "update-%s", update_type);` -/
def update_message (type : List Char) (boot : BootloaderMessage) : BootloaderMessage where
  command := strlcpy '\x00' boot.command ("update-".toList ++ type) 32
  status := boot.status
  recovery := boot.recovery
  command_size := by rw [strlcpy_length (Nat.le_of_eq boot.command_size.symm), boot.command_size]
  status_size := boot.status_size
  recovery_size := boot.recovery_size

/-- Where the routine fails, `format_root_device("CACHE:")` follows and -1 is returned. -/
def or_format (routine : Routine (Traced Flash)) : Routine (Traced Flash) := fun t =>
  if (routine t).1 = 0 then routine t
  else (-1, (step o.format (done_to_cache (.formatted o.format)) (routine t).2).2)

def maybe_install_firmware_update (update : Option Update) (send_intent : Option (List Char)) :
    Routine (Traced Flash) :=
  match update with
  | none => done
  | some update =>
    if update.data = [] then done
    else
      inOrder [
        set_bootloader_message o 0 (wipe_cache_message send_intent),
        or_format o (write_update_for_bootloader o update.data),
        or_format o (set_bootloader_message o 1 (update_message update.type (wipe_cache_message send_intent))),
        fun t => (-1, (step o.reboot id t).2)]

end

/-! ### What holds behind every step -/

/-- The command that is stored. -/
def command (f : Flash) : List Char := c_string '\x00' f.message.command

/-- `update-<type>`, as far as it fits. -/
def update_command (type : List Char) : List Char := (c_string '\x00' ("update-".toList ++ type)).take 31

def StartsWithWipe (f : Flash) : Prop := "recovery\n--wipe_cache\n".toList <+: f.message.recovery

/-- The header with the magic was written behind the image and both bitmaps, everything
    was written and closed without an error, and nothing else was done to the cache. -/
def HoldsUpdate (o : Outcomes) (data : List Char) (cache : List CacheEvent) : Prop :=
  ∃ (earlier session : List CacheEvent) (header : UpdateHeader) (later : List CacheEvent),
    cache = earlier ++ session ++ .wrote (.header header) true :: later ∧
    header.MAGIC = UPDATE_MAGIC.toList ∧
    List.Sublist [.wrote (.image data) true, .wrote (.bitmap o.busy_image) true, .wrote (.bitmap o.fail_image) true,
      .closed 0] session ∧
    (∃ pos, later = [.erased pos, .closed 0])

/-- What may be found in the partitions after a cut. -/
def Restartable (o : Outcomes) (update : Update) (f : Flash) : Prop :=
  f.sent = true →
    (command f = "boot-recovery".toList ∨ command f = update_command update.type) ∧ StartsWithWipe f ∧
    (command f = update_command update.type → HoldsUpdate o update.data f.cache)

theorem wipe_cache_command (send_intent : Option (List Char)) :
    c_string '\x00' (wipe_cache_message send_intent).command = "boot-recovery".toList :=
  c_string_strlcpy zero_message.command "boot-recovery".toList 31

theorem update_message_command (type : List Char) (boot : BootloaderMessage) :
    c_string '\x00' (update_message type boot).command = update_command type :=
  c_string_strlcpy boot.command ("update-".toList ++ type) 31

theorem update_command_other (type : List Char) : update_command type ≠ "boot-recovery".toList := by
  intro same
  have first := congrArg List.head? same
  simp [update_command, c_string] at first

/-- Whatever the intent is, the first two lines stay at the beginning. -/
theorem wipe_cache_lines (send_intent : Option (List Char)) :
    "recovery\n--wipe_cache\n".toList <+: wipe_cache_field send_intent := by
  have held : c_string '\x00' (strlcpy '\x00' zero_message.recovery "recovery\n--wipe_cache\n".toList 32) =
      "recovery\n--wipe_cache\n".toList := c_string_strlcpy _ _ 31
  rw [← held]
  cases send_intent with
  | none => exact List.takeWhile_prefix _
  | some send_intent =>
    refine (strlcat_keeps (Nat.le_of_eq wipe_lines_size) "--send_intent=".toList).trans ?_
    refine (strlcat_keeps (Nat.le_of_eq (strlcat_size wipe_lines_size _)) send_intent).trans ?_
    refine (strlcat_keeps (Nat.le_of_eq (strlcat_size (strlcat_size wipe_lines_size _) _)) ['\n']).trans ?_
    exact List.takeWhile_prefix _

/-! ### Writing the update -/

section
variable {o : Outcomes} {update : Update}

/-- The message asks for a wipe of the cache. -/
def Armed (f : Flash) : Prop := command f = "boot-recovery".toList ∧ StartsWithWipe f

theorem armed_restartable {f : Flash} (armed : Armed f) : Restartable o update f := by
  intro _
  refine ⟨.inl armed.1, armed.2, ?_⟩
  intro updating
  exact absurd (updating.symm.trans armed.1) (update_command_other update.type)

theorem keeps_cache_step (code : Int) (event : CacheEvent) :
    Keeps (SoFar (Restartable o update) Armed) (step code (done_to_cache event)) :=
  keeps_step (fun _ armed => armed) fun _ => armed_restartable

theorem keeps_or_close (n : Nat) {routine : Routine (Traced Flash)}
    (keeps : Keeps (SoFar (Restartable o update) Armed) routine) :
    Keeps (SoFar (Restartable o update) Armed) (or_close o n routine) := by
  intro t before
  unfold or_close
  split
  · exact keeps t before
  · exact keeps_cache_step _ _ _ (keeps t before)

theorem keeps_write (n : Nat) (offset : CInt) (part : Section) :
    Keeps (SoFar (Restartable o update) Armed) (mtd_write_data o n offset part) := by
  unfold mtd_write_data
  split
  · exact fun _ before => before
  · exact keeps_cache_step _ _

/-- While the update is written, the message is not touched. -/
theorem keeps_write_update (data : List Char) :
    Keeps (SoFar (Restartable o update) Armed) (write_update_for_bootloader o data) := by
  unfold write_update_for_bootloader
  refine keeps_inOrder ?_
  simp only [List.forall_mem_cons, List.not_mem_nil, false_implies, implies_true, and_true]
  refine ⟨keeps_step (fun _ armed => armed) fun _ => armed_restartable, fun _ before => before, ?_⟩
  have write : ∀ n m offset part, Keeps (SoFar (Restartable o update) Armed) (or_close o m (mtd_write_data o n offset part)) :=
    fun n m offset part => keeps_or_close m (keeps_write n offset part)
  exact ⟨keeps_cache_step _ _, write _ _ _ _, keeps_cache_step _ _, write _ _ _ _, keeps_cache_step _ _,
    write _ _ _ _, keeps_cache_step _ _, write _ _ _ _, keeps_cache_step _ _, keeps_cache_step _ _,
    keeps_cache_step _ _, write _ _ _ _, keeps_or_close _ (keeps_cache_step _ _), keeps_cache_step _ _⟩

/-- What was done to the cache. -/
def cache_log (t : Traced Flash) : List CacheEvent := t.now.cache

theorem appends_step {code : Int} {event : CacheEvent} {events : List CacheEvent}
    (passed : code = 0 → [event] = events) : Appends cache_log (step code (done_to_cache event)) events := by
  intro t ran
  rw [← passed ran]
  rfl

theorem appends_or_close {n : Nat} {routine : Routine (Traced Flash)} {events : List CacheEvent}
    (appends : Appends cache_log routine events) : Appends cache_log (or_close o n routine) events := by
  intro t
  unfold or_close
  split
  · exact appends t
  · intro ran
    exact absurd (show (-1 : Int) = 0 from ran) (by decide)

theorem appends_open (n : Nat) : Appends cache_log (mtd_write_partition o n) [.opened true] := by
  refine appends_step ?_
  intro ran
  cases opens : o.mtd_write_partition n with
  | true => rfl
  | false => simp [opens] at ran

theorem appends_write (n : Nat) (offset : CInt) (part : Section) :
    Appends cache_log (mtd_write_data o n offset part) [.wrote part true] := by
  unfold mtd_write_data
  split
  · intro t ran
    exact absurd (show (-1 : Int) = 0 from ran) (by decide)
  · refine appends_step ?_
    intro ran
    cases writes : o.mtd_write_data n with
    | true => rfl
    | false => simp [writes] at ran

theorem appends_erase (n : Nat) (pos : Option Int) :
    Appends cache_log (mtd_erase_blocks o n pos) [.erased (o.mtd_erase_blocks n)] :=
  appends_step fun _ => rfl

theorem appends_close (n : Nat) : Appends cache_log (mtd_write_close o n) [.closed 0] := by
  refine appends_step fun ran => ?_
  have closed : o.mtd_write_close n = 0 := by
    by_contra failed
    rw [if_neg failed] at ran
    cases ran
  rw [closed]

/-- What is done to the cache behind the image's header, and what is done before it. -/
def sections (o : Outcomes) (data : List Char) : List CacheEvent := [
  .opened true,
  .wrote (.header zero_header) true, .erased (o.mtd_erase_blocks 0),
  .wrote (.image data) true, .erased (o.mtd_erase_blocks 1),
  .wrote (.bitmap o.busy_image) true, .erased (o.mtd_erase_blocks 2),
  .wrote (.bitmap o.fail_image) true, .erased (o.mtd_erase_blocks 3),
  .closed 0, .opened true]

theorem appends_write_update (data : List Char) :
    Appends cache_log (write_update_for_bootloader o data)
      (sections o data ++ [.wrote (.header (update_header o data.length)) true,
        .erased (o.mtd_erase_blocks 4), .closed 0]) := by
  have untouched : ∀ {routine : Routine (Traced Flash)}, (∀ t, (routine t).2.now = t.now) →
      Appends cache_log routine [] := by
    intro routine same t _
    rw [cache_log, same t, List.append_nil]
    rfl
  unfold write_update_for_bootloader
  exact appends_inOrder (.cons (untouched fun _ => rfl) (.cons (untouched fun _ => rfl) (.cons (appends_open 0)
    (.cons (appends_or_close (appends_write _ _ _)) (.cons (appends_erase 0 none)
    (.cons (appends_or_close (appends_write _ _ _)) (.cons (appends_erase 1 none)
    (.cons (appends_or_close (appends_write _ _ _)) (.cons (appends_erase 2 none)
    (.cons (appends_or_close (appends_write _ _ _)) (.cons (appends_erase 3 none)
    (.cons (appends_close 0) (.cons (appends_open 1)
    (.cons (appends_or_close (appends_write _ _ _)) (.cons (appends_or_close (appends_erase 4 _))
    (.cons (appends_close 1) .nil))))))))))))))))

/-- An update that was written without an error is in the cache. -/
theorem write_update_holds {data : List Char} {t : Traced Flash}
    (written : (write_update_for_bootloader o data t).1 = 0) :
    HoldsUpdate o data (write_update_for_bootloader o data t).2.now.cache := by
  have log := appends_write_update data t written
  refine ⟨t.now.cache, sections o data, update_header o data.length, [.erased (o.mtd_erase_blocks 4), .closed 0], ?_,
    rfl, ?_, o.mtd_erase_blocks 4, rfl⟩
  · rw [List.append_assoc]
    exact log
  · exact .cons _ (.cons _ (.cons _ (.cons_cons _ (.cons _ (.cons_cons _ (.cons _ (.cons_cons _ (.cons _ (.cons_cons _
      (.cons _ .slnil))))))))))

/-! ### The whole run -/

/-- Where the update is there, the message may ask for it. -/
def Ready (o : Outcomes) (update : Update) (f : Flash) : Prop := Armed f ∧ HoldsUpdate o update.data f.cache

def Updating (o : Outcomes) (update : Update) (f : Flash) : Prop :=
  command f = update_command update.type ∧ StartsWithWipe f ∧ HoldsUpdate o update.data f.cache

theorem updating_restartable {f : Flash} (updating : Updating o update f) : Restartable o update f :=
  fun _ => ⟨.inr updating.1, updating.2.1, fun _ => updating.2.2⟩

/-- Behind a message that failed, the partitions are as they were. -/
theorem message_failed (atomic : AllOrNone o) {n : Nat} (failed : (o.message n).code ≠ 0) (boot : BootloaderMessage)
    {Q : Flash → Prop} {t : Traced Flash} (before : SoFar (Restartable o update) Q t)
    (allowed : ∀ f, Q f → Restartable o update f) :
    SoFar (Restartable o update) Q (set_bootloader_message o n boot t).2 := by
  have none : (o.message n).effect = false := by
    rw [← Bool.not_eq_true]
    exact fun effect => failed ((atomic n).mpr effect)
  refine step_soFar before ?_ allowed
  simp only [none, Bool.false_eq_true, ↓reduceIte]
  exact before.2

theorem message_written (atomic : AllOrNone o) {n : Nat} (passed : (o.message n).code = 0) (boot : BootloaderMessage)
    {Q R : Flash → Prop} {t : Traced Flash} (before : SoFar (Restartable o update) Q t)
    (leads : ∀ f, Q f → R { f with message := boot, sent := true }) (allowed : ∀ f, R f → Restartable o update f) :
    SoFar (Restartable o update) R (set_bootloader_message o n boot t).2 := by
  refine step_soFar before ?_ allowed
  simp only [(atomic n).mp passed, ↓reduceIte]
  exact leads _ before.2

theorem or_format_passed {routine : Routine (Traced Flash)} {t : Traced Flash} (passed : (routine t).1 = 0) :
    or_format o routine t = routine t :=
  if_pos passed

theorem or_format_failed {routine : Routine (Traced Flash)} {t : Traced Flash} (failed : (routine t).1 ≠ 0)
    (behind : SoFar (Restartable o update) Armed (routine t).2) :
    (or_format o routine t).1 = -1 ∧ SoFar (Restartable o update) Armed (or_format o routine t).2 := by
  have formatted : or_format o routine t =
      (-1, (step o.format (done_to_cache (.formatted o.format)) (routine t).2).2) := if_neg failed
  rw [formatted]
  exact ⟨rfl, keeps_cache_step _ _ _ behind⟩

/-- The end of the run, from the second message on. -/
theorem second_message_cuts (atomic : AllOrNone o) {boot : BootloaderMessage}
    (lines : "recovery\n--wipe_cache\n".toList <+: boot.recovery) {t : Traced Flash}
    (ready : SoFar (Restartable o update) (Ready o update) t) :
    ∀ f ∈ (inOrder [or_format o (set_bootloader_message o 1 (update_message update.type boot)),
      fun t => (-1, (step o.reboot id t).2)] t).2.cuts, Restartable o update f := by
  have allowed : ∀ f, Ready o update f → Restartable o update f := fun _ ready => armed_restartable ready.1
  by_cases sent : (o.message 1).code = 0
  · have updating : SoFar (Restartable o update) (Updating o update)
        (set_bootloader_message o 1 (update_message update.type boot) t).2 :=
      message_written atomic sent _ ready
        (fun f ready => ⟨update_message_command update.type boot, lines, ready.2⟩) fun _ => updating_restartable
    have passed : (set_bootloader_message o 1 (update_message update.type boot) t).1 = 0 := sent
    have unformatted := or_format_passed (o := o) passed
    rw [inOrder, andThen_passed (by rw [unformatted]; exact sent), unformatted, inOrder, andThen_stopped (by simp)]
    exact (keeps_step (fun _ updating => updating) (fun _ => updating_restartable) _ updating).1
  · have armed := soFar_mono (message_failed atomic sent (update_message update.type boot) ready allowed)
      fun _ ready => ready.1
    obtain ⟨code, formatted⟩ := or_format_failed sent armed
    rw [inOrder, andThen_stopped (by rw [code]; decide)]
    exact formatted.1

/-- The run from the image on. -/
theorem write_update_cuts (atomic : AllOrNone o) {boot : BootloaderMessage}
    (lines : "recovery\n--wipe_cache\n".toList <+: boot.recovery) {t : Traced Flash}
    (armed : SoFar (Restartable o update) Armed t) :
    ∀ f ∈ (inOrder [or_format o (write_update_for_bootloader o update.data),
      or_format o (set_bootloader_message o 1 (update_message update.type boot)),
      fun t => (-1, (step o.reboot id t).2)] t).2.cuts, Restartable o update f := by
  have behind := keeps_write_update update.data t armed
  by_cases written : (write_update_for_bootloader o update.data t).1 = 0
  · have unformatted := or_format_passed (o := o) written
    rw [inOrder, andThen_passed (by rw [unformatted]; exact written), unformatted]
    exact second_message_cuts atomic lines ⟨behind.1, behind.2, write_update_holds written⟩
  · obtain ⟨code, formatted⟩ := or_format_failed written behind
    rw [inOrder, andThen_stopped (by rw [code]; decide)]
    exact formatted.1

end

/-- Cut behind any step, the run leaves partitions from which the phone can go on. -/
theorem firmware_update_interruptible {o : Outcomes} (atomic : AllOrNone o) (update : Update)
    (send_intent : Option (List Char)) {start : Flash} (fresh : start.sent = false) :
    ∀ f ∈ (maybe_install_firmware_update o (some update) send_intent ⟨start, []⟩).2.cuts, Restartable o update f := by
  have allowed : ∀ f : Flash, f.sent = false → Restartable o update f :=
    fun f unsent sent => absurd sent (by rw [unsent]; decide)
  have before : SoFar (Restartable o update) (fun f => f.sent = false) ⟨start, []⟩ := ⟨by simp, fresh⟩
  unfold maybe_install_firmware_update
  by_cases empty : update.data = []
  · simp [empty, done]
  · simp only [if_neg empty]
    rw [inOrder]
    by_cases sent : (o.message 0).code = 0
    · have armed : SoFar (Restartable o update) Armed
          (set_bootloader_message o 0 (wipe_cache_message send_intent) ⟨start, []⟩).2 :=
        message_written atomic sent _ before
          (fun f _ => ⟨wipe_cache_command send_intent, wipe_cache_lines send_intent⟩) fun _ => armed_restartable
      rw [andThen_passed sent]
      exact write_update_cuts atomic (wipe_cache_lines send_intent) armed
    · rw [andThen_stopped sent]
      exact (message_failed atomic sent _ before allowed).1

/-- Every step succeeds. -/
def all_works : Outcomes where
  message := fun _ => ⟨0, true⟩
  busy_image := some []
  fail_image := some []
  width := 480
  height := 800
  bpp := 16
  unmount := 0
  part := true
  mtd_write_partition := fun _ => true
  mtd_write_data := fun _ => true
  mtd_erase_blocks := fun _ => 0x20000
  mtd_find_write_start := fun _ => 0x20000
  mtd_write_close := fun _ => 0
  format := 0
  reboot := 0

def radio_update : Update := ⟨"radio".toList, ['\x7f']⟩

theorem radio_update_interruptible :
    (maybe_install_firmware_update all_works (some radio_update) none ⟨⟨zero_message, false, []⟩, []⟩).2.cuts ≠ [] ∧
      ∀ f ∈ (maybe_install_firmware_update all_works (some radio_update) none ⟨⟨zero_message, false, []⟩, []⟩).2.cuts,
        Restartable all_works radio_update f := by
  refine ⟨?_, firmware_update_interruptible (fun _ => iff_of_true rfl rfl) radio_update none rfl⟩
  exact List.ne_nil_of_mem (List.mem_of_getElem? (i := 0) rfl)

end SteamRecovery.Firmware
