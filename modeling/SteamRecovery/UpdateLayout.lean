import SteamRecovery.Firmware

/-!
What the header of an update says of the cache partition (`write_update_for_bootloader`
in `bootloader.c`). The checks of the offsets look at fields that are not set yet, and a
bitmap that is `NULL` is written like any other (`update_described_iff`).
-/
namespace SteamRecovery.UpdateLayout
open SteamRecovery.Devices (CInt)
open SteamRecovery.Routines SteamRecovery.Firmware
variable {o : Outcomes} {update : List Char}

/-- What the caller promises: `update_length` is an `int`, and a bitmap has as many bytes
    as its dimensions say. -/
structure Promised (o : Outcomes) (update : List Char) : Prop where
  int : update.length < 2 ^ 31
  busy : ∀ data, o.busy_image = some data → data.length = (bitmap_length o).toNat
  fail : ∀ data, o.fail_image = some data → data.length = (bitmap_length o).toNat

/-- The number of bytes that are given for a section. -/
def given : Section → Nat
  | .header _ => 60
  | .image data => data.length
  | .bitmap none => 0
  | .bitmap (some data) => data.length

/-- The number of bytes that `mtd_write_data` reads and writes. -/
def size (o : Outcomes) : Section → Nat
  | .header _ => 60
  | .image data => data.length
  | .bitmap _ => (bitmap_length o).toNat

/-- An offset and a length delimit a section, which stands between the `n`th position and
    the next one. The offset is what `mtd_find_write_start` returns for the former. -/
structure Delimits (o : Outcomes) (log : List CacheEvent) (n : Nat) (offset length : CInt) (part : Section) : Prop where
  offset_eq : offset = BitVec.ofInt 32 (o.mtd_find_write_start n)
  offset_valid : offset ≠ -1
  length_eq : length.toNat = given part
  bytes : size o part = given part
  start_valid : o.mtd_erase_blocks n ≠ -1
  stop_valid : o.mtd_erase_blocks (n + 1) ≠ -1
  between : [.erased (o.mtd_erase_blocks n), .wrote part true, .erased (o.mtd_erase_blocks (n + 1))] <:+: log

/-- The header describes what was written, and stands in front of the image, whose blocks
    start where those of the header end. -/
structure Describes (o : Outcomes) (update : List Char) (header : UpdateHeader) (log : List CacheEvent) : Prop where
  image : Delimits o log 0 header.image_offset header.image_length (.image update)
  busy : Delimits o log 1 header.busy_bitmap_offset header.busy_bitmap_length (.bitmap o.busy_image)
  fail : Delimits o log 2 header.fail_bitmap_offset header.fail_bitmap_length (.bitmap o.fail_image)
  first : [.opened true, .wrote (.header header) true, .erased (o.mtd_erase_blocks 0), .closed 0] <:+ log

/-- The calls whose results are checked. -/
def Checked (o : Outcomes) : Prop :=
  ∀ P ∈ [o.unmount = 0, o.part = true, o.mtd_write_partition 0 = true, o.mtd_write_data 0 = true, True,
    o.mtd_write_data 1 = true, True, o.mtd_write_data 2 = true, True, o.mtd_write_data 3 = true, True,
    o.mtd_write_close 0 = 0, o.mtd_write_partition 1 = true, o.mtd_write_data 4 = true,
    o.mtd_erase_blocks 4 = o.mtd_erase_blocks 0, o.mtd_write_close 1 = 0], P

theorem passes_flag (ok : Bool) (event : CacheEvent) :
    Passes (step (if ok then 0 else -1) (done_to_cache event)) (ok = true) := by
  intro t
  cases ok <;> simp [step]

theorem passes_or_close {routine : Routine (Traced Flash)} {P : Prop} (n : Nat) (passes : Passes routine P) :
    Passes (or_close o n routine) P := by
  intro t
  rw [← passes t, or_close]
  split
  · rfl
  · rename_i failed
    exact iff_of_false (show (-1 : Int) ≠ 0 by decide) failed

theorem passes_write (n : Nat) {offset : CInt} (zero : offset = 0) (part : Section) :
    Passes (mtd_write_data o n offset part) (o.mtd_write_data n = true) := by
  subst zero
  exact passes_flag _ _

theorem passes_code (code : Int) (effect : Flash → Flash) : Passes (step (if code = 0 then 0 else -1) effect) (code = 0) := by
  intro t
  by_cases passed : code = 0 <;> simp [step, passed]

theorem passes_close (n : Nat) : Passes (mtd_write_close o n) (o.mtd_write_close n = 0) := passes_code _ _

/-- The offsets do not count: they are 0 when they are looked at. -/
theorem passes_write_update (update : List Char) : Passes (write_update_for_bootloader o update) (Checked o) := by
  unfold write_update_for_bootloader
  have part : Passes (fun t : Traced Flash => (if o.part then 0 else -1, t)) (o.part = true) := by
    intro t
    cases o.part <;> simp
  have anywhere : ∀ n, Passes (mtd_erase_blocks o n none) True := fun _ _ => iff_of_true rfl trivial
  have again : Passes (mtd_erase_blocks o 4 (some (o.mtd_erase_blocks 0))) (o.mtd_erase_blocks 4 = o.mtd_erase_blocks 0) := by
    intro t
    by_cases same : o.mtd_erase_blocks 4 = o.mtd_erase_blocks 0
    · simp [mtd_erase_blocks, step, same]
    · simp [mtd_erase_blocks, step, same, Ne.symm same]
  exact passes_inOrder (.cons (passes_code _ _) (.cons part (.cons (passes_flag _ _)
    (.cons (passes_or_close _ (passes_write _ rfl _)) (.cons (anywhere 0)
    (.cons (passes_or_close _ (passes_write _ rfl _)) (.cons (anywhere 1)
    (.cons (passes_or_close _ (passes_write _ rfl _)) (.cons (anywhere 2)
    (.cons (passes_or_close _ (passes_write _ rfl _)) (.cons (anywhere 3)
    (.cons (passes_close 0) (.cons (passes_flag _ _)
    (.cons (passes_or_close _ (passes_write _ rfl _)) (.cons (passes_or_close _ again)
    (.cons (passes_close 1) .nil))))))))))))))))

/-- No position and no offset is -1, and a bitmap that is `NULL` goes with dimensions of no bytes. -/
structure Sound (o : Outcomes) : Prop where
  positions : ∀ n < 4, o.mtd_erase_blocks n ≠ -1
  offsets : ∀ n < 3, BitVec.ofInt 32 (o.mtd_find_write_start n) ≠ -1
  busy : o.busy_image = none → (bitmap_length o).toNat = 0
  fail : o.fail_image = none → (bitmap_length o).toNat = 0

/-- The length in the header is that of the bitmap, whatever is written. -/
theorem bitmap_length_given {bitmap : Option (List Char)}
    (promised : ∀ data, bitmap = some data → data.length = (bitmap_length o).toNat) :
    (if bitmap = none then 0 else bitmap_length o).toNat = given (.bitmap bitmap) := by
  cases bitmap with
  | none => rfl
  | some data => exact (promised data rfl).symm

theorem bitmap_size_iff {bitmap : Option (List Char)}
    (promised : ∀ data, bitmap = some data → data.length = (bitmap_length o).toNat) :
    size o (.bitmap bitmap) = given (.bitmap bitmap) ↔ (bitmap = none → (bitmap_length o).toNat = 0) := by
  cases bitmap with
  | none => simp [size, given]
  | some data => simp [size, given, promised data rfl]

/-- Where the checked calls work, the log says what was written where. -/
theorem described_iff (promised : Promised o update) {t : Traced Flash} (checked : Checked o) :
    Describes o update (update_header o update.length) (cache_log (write_update_for_bootloader o update t).2) ↔
      Sound o := by
  have log := appends_write_update update t ((passes_write_update update t).mpr checked)
  have again : o.mtd_erase_blocks 4 = o.mtd_erase_blocks 0 := checked _ (by simp)
  constructor
  · intro described
    refine ⟨?_, ?_, (bitmap_size_iff promised.busy).mp described.busy.bytes,
      (bitmap_size_iff promised.fail).mp described.fail.bytes⟩
    · intro n few
      match n, few with
      | 0, _ => exact described.image.start_valid
      | 1, _ => exact described.busy.start_valid
      | 2, _ => exact described.fail.start_valid
      | 3, _ => exact described.fail.stop_valid
    · intro n few
      match n, few with
      | 0, _ => exact described.image.offset_valid
      | 1, _ => exact described.busy.offset_valid
      | 2, _ => exact described.fail.offset_valid
  · intro sound
    have logged : ∀ before part after, sections o update ++ [.wrote (.header (update_header o update.length)) true,
        .erased (o.mtd_erase_blocks 4), .closed 0] = before ++ part ++ after →
        part <:+: cache_log (write_update_for_bootloader o update t).2 := by
      intro before part after split
      refine ⟨cache_log t ++ before, after, ?_⟩
      rw [log, split]
      simp only [List.append_assoc]
    have image_length : (BitVec.ofNat 32 update.length).toNat = update.length := by
      rw [BitVec.toNat_ofNat]
      exact Nat.mod_eq_of_lt (Nat.lt_trans promised.int (by decide))
    refine ⟨?_, ?_, ?_, ?_⟩
    · exact ⟨rfl, sound.offsets 0 (by decide), image_length, rfl, sound.positions 0 (by decide), sound.positions 1 (by decide),
        logged [.opened true, .wrote (.header zero_header) true] _ _ rfl⟩
    · exact ⟨rfl, sound.offsets 1 (by decide), bitmap_length_given promised.busy, (bitmap_size_iff promised.busy).mpr sound.busy,
        sound.positions 1 (by decide), sound.positions 2 (by decide),
        logged [.opened true, .wrote (.header zero_header) true, .erased (o.mtd_erase_blocks 0), .wrote (.image update) true]
          _ _ rfl⟩
    · exact ⟨rfl, sound.offsets 2 (by decide), bitmap_length_given promised.fail, (bitmap_size_iff promised.fail).mpr sound.fail,
        sound.positions 2 (by decide), sound.positions 3 (by decide),
        logged [.opened true, .wrote (.header zero_header) true, .erased (o.mtd_erase_blocks 0), .wrote (.image update) true,
          .erased (o.mtd_erase_blocks 1), .wrote (.bitmap o.busy_image) true] _ _ rfl⟩
    · refine ⟨cache_log t ++ (sections o update).dropLast, ?_⟩
      rw [log, again, List.append_assoc]
      rfl

/-- A header that is written is right exactly where a checked call fails, or no call for a
    section returns -1 and there are no bytes for a bitmap that is `NULL`. -/
theorem update_described_iff (promised : Promised o update) (t : Traced Flash) :
    ((write_update_for_bootloader o update t).1 = 0 →
      Describes o update (update_header o update.length) (cache_log (write_update_for_bootloader o update t).2)) ↔
      (Checked o → Sound o) := by
  rw [passes_write_update update t]
  exact imp_congr_right fun checked => described_iff promised checked

/-- Everything works. The bitmaps have two pixels of two bytes. -/
def two_pixels : Outcomes :=
  { message := fun _ => ⟨0, true⟩
    busy_image := some "busy".toList, fail_image := some "fail".toList, width := 2, height := 1, bpp := 16
    unmount := 0, part := true
    mtd_write_partition := fun _ => true, mtd_write_data := fun _ => true
    mtd_erase_blocks := fun n => if n = 4 then 131072 else 131072 * (n + 1)
    mtd_find_write_start := fun n => 131072 * (n + 1)
    mtd_write_close := fun _ => 0
    format := 0, reboot := 0 }

/-- A partition to which nothing was done. -/
def unused : Traced Flash := ⟨⟨BootMessages.zero_message, false, []⟩, []⟩

theorem two_pixels_described :
    Describes two_pixels "radio".toList (update_header two_pixels "radio".toList.length)
      (cache_log (write_update_for_bootloader two_pixels "radio".toList unused).2) :=
  (update_described_iff ⟨by decide, by decide, by decide⟩ unused).mpr
    (fun _ => ⟨by decide, by decide, by decide, by decide⟩) (by decide)

/-- The start of the image cannot be found. -/
def lost_image : Outcomes := { two_pixels with mtd_find_write_start := fun n => if n = 0 then -1 else 131072 * (n + 1) }

theorem lost_image_header :
    ¬ ((write_update_for_bootloader lost_image "radio".toList unused).1 = 0 →
      Describes lost_image "radio".toList (update_header lost_image "radio".toList.length)
        (cache_log (write_update_for_bootloader lost_image "radio".toList unused).2)) := by
  intro right
  have described := right (by decide)
  exact described.image.offset_valid (by decide)

end SteamRecovery.UpdateLayout
