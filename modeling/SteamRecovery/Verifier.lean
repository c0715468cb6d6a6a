import Mathlib.Data.List.GetD
import Mathlib.Tactic.IntervalCases
import SteamRecovery.ByteStrings

/-!
Whole-file signatures of update packages (`verifier.c`). The checks that
`verify_file` makes before it hashes anything amount to one predicate on the
bytes of the file (`Framed`), and what it then hashes and hands to `RSA_verify`
is a function of those bytes (`region_of`). mincrypt is a parameter: `Sha` and
`RSA_verify` are arbitrary, save that feeding the hash in pieces is feeding it
the pieces joined (`Sha.Streaming`).
-/
namespace SteamRecovery.Verifier
open SteamRecovery.ByteStrings

def VERIFY_SUCCESS : Nat := 0
def VERIFY_FAILURE : Nat := 1
def FOOTER_SIZE : Nat := 6
def EOCD_HEADER_SIZE : Nat := 22
def BUFFER_SIZE : Nat := 4096
def RSANUMBYTES : Nat := 256

/-! ### mincrypt and the C library -/

/-- The streaming interface of mincrypt's SHA-1. -/
structure Sha (Digest : Type) where
  SHA_CTX : Type
  SHA_init : SHA_CTX
  SHA_update : SHA_CTX → List UInt8 → SHA_CTX
  SHA_final : SHA_CTX → Digest

variable {Digest Key : Type}

/-- Two updates hash what one update of the joined bytes hashes. -/
def Sha.Streaming (sha : Sha Digest) : Prop :=
  ∀ ctx left right, sha.SHA_update (sha.SHA_update ctx left) right = sha.SHA_update ctx (left ++ right)

/-- The hash of a whole byte string. -/
def Sha.sha1 (sha : Sha Digest) (bytes : List UInt8) : Digest :=
  sha.SHA_final (sha.SHA_update sha.SHA_init bytes)

/-- Which calls into the C library succeed, the calls of each kind numbered in
    the order in which `verify_file` makes them. -/
structure Io where
  fopen : Bool
  fseek : Nat → Bool
  fread : Nat → Bool
  malloc : Nat → Bool

/-- Every call succeeds where the file is long enough. -/
def Io.reliable : Io := ⟨true, fun _ => true, fun _ => true, fun _ => true⟩

structure FILE where
  content : List UInt8
  pos : Nat

/-- `fseek(f, -n, SEEK_END)`. -/
def fseek_end (ok : Bool) (n : Nat) (f : FILE) : Option FILE :=
  if ok ∧ n ≤ f.content.length then some { f with pos := f.content.length - n } else none

/-- `fread(_, 1, n, f)`, or `none` where it reads fewer than `n` bytes: every
    caller fails on a short read. -/
def fread (ok : Bool) (n : Nat) (f : FILE) : Option (List UInt8 × FILE) :=
  if ok ∧ f.pos + n ≤ f.content.length then
    some (slice f.content f.pos n, { f with pos := f.pos + n })
  else none

/-! ### verify_file -/

structure Footer where
  signature_start : Nat
  comment_size : Nat
  deriving DecidableEq, Repr

def byte (bytes : List UInt8) (i : Nat) : Nat := (bytes.getD i 0).toNat

/-- The six footer bytes as the two sizes they encode, unless the two in the
    middle are not `$ff $ff`. -/
def parse_footer (footer : List UInt8) : Option Footer :=
  if footer.getD 2 0 ≠ 0xff ∨ footer.getD 3 0 ≠ 0xff then none
  else some {
    comment_size := byte footer 4 + (byte footer 5 <<< 8)
    signature_start := byte footer 0 + (byte footer 1 <<< 8) }

def eocd_marker : List UInt8 := [0x50, 0x4b, 0x05, 0x06]

def marker_at (eocd : List UInt8) (i : Nat) : Bool :=
  eocd.getD i 0 = 0x50 ∧ eocd.getD (i+1) 0 = 0x4b ∧ eocd.getD (i+2) 0 = 0x05 ∧ eocd.getD (i+3) 0 = 0x06

/-- `for (i = 4; i < eocd_size-3; ++i)` finds a second marker. -/
def later_marker (eocd : List UInt8) : Bool :=
  (List.range' 4 (eocd.length - 3 - 4)).any (marker_at eocd)

/-- The length of the next read of the hash loop. -/
def buffer_size (signed_len so_far : Nat) : Nat :=
  if signed_len - so_far < BUFFER_SIZE then signed_len - so_far else BUFFER_SIZE

theorem buffer_size_pos {signed_len so_far : Nat} (more : so_far < signed_len) :
    0 < buffer_size signed_len so_far := by
  rw [buffer_size, BUFFER_SIZE]
  split <;> omega

theorem buffer_size_le (signed_len so_far : Nat) : buffer_size signed_len so_far ≤ signed_len - so_far := by
  rw [buffer_size]
  split <;> omega

/-- `while (so_far < signed_len)`: the signed prefix hashed in buffers. -/
def hash_loop (io : Io) (sha : Sha Digest) (signed_len so_far call : Nat) (ctx : sha.SHA_CTX) (f : FILE) :
    Option sha.SHA_CTX :=
  if so_far < signed_len then
    let size := buffer_size signed_len so_far
    match fread (io.fread call) size f with
    | none => none
    | some (buffer, f) => hash_loop io sha signed_len (so_far + size) (call + 1) (sha.SHA_update ctx buffer) f
  else some ctx
termination_by signed_len - so_far
decreasing_by
  have progress := buffer_size_pos ‹so_far < signed_len›
  omega

/-- What the checks and the hash loop leave for the keys: the end-of-central-directory
    record with its comment, the length of the signed prefix, and its hash. -/
structure Region (Digest : Type) where
  eocd : List UInt8
  signed_len : Nat
  sha1 : Digest

/-- The footer, and the file behind it; `none` where a call fails, the footer is
    not tagged or its signature is too short. -/
def read_footer (io : Io) (file : List UInt8) : Option (Footer × FILE) := do
  guard io.fopen
  let f ← fseek_end (io.fseek 0) FOOTER_SIZE ⟨file, 0⟩
  let (bytes, f) ← fread (io.fread 0) FOOTER_SIZE f
  let footer ← parse_footer bytes
  guard ¬ ((footer.signature_start : Int) - FOOTER_SIZE < RSANUMBYTES)
  pure (footer, f)

/-- The end-of-central-directory record with its comment, the length of the
    signed prefix, and the file behind the record. -/
def read_eocd (io : Io) (footer : Footer) (f : FILE) : Option (List UInt8 × Nat × FILE) := do
  let eocd_size := footer.comment_size + EOCD_HEADER_SIZE
  let f ← fseek_end (io.fseek 1) eocd_size f
  let signed_len := f.pos + EOCD_HEADER_SIZE - 2
  guard (io.malloc 0)
  let (eocd, f) ← fread (io.fread 1) eocd_size f
  guard (marker_at eocd 0)
  guard ¬ later_marker eocd
  pure (eocd, signed_len, f)

/-- `verify_file` up to the loop over the keys; `none` where it returns
    VERIFY_FAILURE before that loop. -/
def read_region (io : Io) (sha : Sha Digest) (file : List UInt8) : Option (Region Digest) := do
  let (footer, f) ← read_footer io file
  let (eocd, signed_len, f) ← read_eocd io footer f
  guard (io.malloc 1)
  -- The result of this seek is not looked at: where it fails, the reads below start at the end.
  let f := if io.fseek 2 then { f with pos := 0 } else f
  let ctx ← hash_loop io sha signed_len 0 2 sha.SHA_init f
  pure { eocd := eocd, signed_len := signed_len, sha1 := sha.SHA_final ctx }

/-- Memory as seen from the start of the malloc'ed record: the record itself, and
    around it whatever the heap holds there. -/
def memory (heap : Int → UInt8) (eocd : List UInt8) (address : Int) : UInt8 :=
  if 0 ≤ address then eocd.getD address.toNat (heap address) else heap address

/-- The bytes that a callee reads at a pointer into (or around) the record. -/
def read_block (heap : Int → UInt8) (eocd : List UInt8) (block : Int) (n : Nat) : List UInt8 :=
  (List.range n).map fun (i : Nat) => memory heap eocd (block + (i : Int))

/-- The pointer `eocd + eocd_size - 6 - RSANUMBYTES`, relative to `eocd`. -/
def signature_block (eocd : List UInt8) : Int := (eocd.length : Int) - 6 - RSANUMBYTES

/-- The value returned, and the signature pointers handed to `RSA_verify` in order. -/
structure Verdict where
  result : Nat
  rsa_calls : List Int
  deriving DecidableEq, Repr

/-- `for (i = 0; i < numKeys; ++i)`. -/
def try_keys (RSA_verify : Key → List UInt8 → Digest → Bool) (heap : Int → UInt8) (region : Region Digest) :
    List Key → Verdict
  | [] => ⟨VERIFY_FAILURE, []⟩
  | key :: rest =>
    let block := signature_block region.eocd
    if RSA_verify key (read_block heap region.eocd block RSANUMBYTES) region.sha1 then ⟨VERIFY_SUCCESS, [block]⟩
    else
      let verdict := try_keys RSA_verify heap region rest
      ⟨verdict.result, block :: verdict.rsa_calls⟩

def verify_file (sha : Sha Digest) (RSA_verify : Key → List UInt8 → Digest → Bool) (io : Io)
    (heap : Int → UInt8) (file : List UInt8) (keys : List Key) : Verdict :=
  match read_region io sha file with
  | none => ⟨VERIFY_FAILURE, []⟩
  | some region => try_keys RSA_verify heap region keys

/-! ### What the checks mean for the bytes of the file -/

/-- The comment size that the last two bytes encode. -/
def comment_size (file : List UInt8) : Nat :=
  byte file (file.length - 2) + (byte file (file.length - 1) <<< 8)

/-- The signature start that the first two footer bytes encode. -/
def signature_start (file : List UInt8) : Nat :=
  byte file (file.length - 6) + (byte file (file.length - 5) <<< 8)

/-- Where the footer says that the end-of-central-directory record starts. -/
def eocd_offset (file : List UInt8) : Nat := file.length - comment_size file - EOCD_HEADER_SIZE

/-- The bytes of a file pass every check that precedes the hash. -/
structure Framed (file : List UInt8) : Prop where
  long : comment_size file + EOCD_HEADER_SIZE ≤ file.length
  tagged : file.getD (file.length - 4) 0 = 0xff ∧ file.getD (file.length - 3) 0 = 0xff
  signature : 256 ≤ (signature_start file : Int) - 6
  marker : LastAt eocd_marker file (eocd_offset file)

/-- What a framed file leaves for the keys. -/
def region_of (sha : Sha Digest) (file : List UInt8) : Region Digest where
  eocd := file.drop (eocd_offset file)
  signed_len := file.length - comment_size file - 2
  sha1 := sha.sha1 (file.take (file.length - comment_size file - 2))

theorem marker_unbordered : Unbordered eocd_marker := by
  intro k positive less
  simp only [eocd_marker, List.length_cons, List.length_nil] at less
  interval_cases k <;> decide

private theorem getD_drop (text : List UInt8) (i k : Nat) : (text.drop i).getD k 0 = text.getD (i+k) 0 := by
  simp only [List.getD_eq_getElem?_getD, List.getElem?_drop]

theorem marker_at_iff (text : List UInt8) (i : Nat) :
    marker_at text i = true ↔ OccursAt eocd_marker text i := by
  have shifted : marker_at text i = marker_at (text.drop i) 0 := by
    simp only [marker_at, getD_drop, Nat.add_zero, Nat.zero_add]
  rw [shifted, OccursAt]
  generalize text.drop i = rest
  rcases rest with _ | ⟨a, _ | ⟨b, _ | ⟨c, _ | ⟨d, rest⟩⟩⟩⟩ <;>
    simp [marker_at, eocd_marker, List.cons_prefix_cons]
  rw [eq_comm (a := a), eq_comm (a := b), eq_comm (a := c), eq_comm (a := d)]

theorem later_marker_iff (eocd : List UInt8) :
    later_marker eocd = true ↔ ∃ i, 4 ≤ i ∧ OccursAt eocd_marker eocd i := by
  simp only [later_marker, List.any_eq_true, List.mem_range'_1, marker_at_iff]
  constructor
  · rintro ⟨i, ⟨low, _⟩, occurs⟩
    exact ⟨i, low, occurs⟩
  · rintro ⟨i, low, occurs⟩
    have inside := occursAt_bound (by simp [eocd_marker]) occurs
    simp only [eocd_marker, List.length_cons, List.length_nil] at inside
    exact ⟨i, ⟨low, by omega⟩, occurs⟩

/-- The two marker checks on the record hold exactly where the record starts
    with the last marker of the file: a marker at one of the offsets 1 to 3, which
    the scan skips, would overlap the first. -/
theorem marker_checks_iff (file : List UInt8) (i : Nat) :
    (marker_at (file.drop i) 0 = true ∧ later_marker (file.drop i) = false) ↔ LastAt eocd_marker file i := by
  rw [← Bool.not_eq_true, later_marker_iff, marker_at_iff, occursAt_drop, Nat.add_zero]
  constructor
  · rintro ⟨first, none⟩
    refine ⟨first, fun j less occurs => none ⟨j - i, ?_, ?_⟩⟩
    · have apart := occurrences_apart marker_unbordered first occurs less
      simp only [eocd_marker, List.length_cons, List.length_nil] at apart
      omega
    · rw [occursAt_drop, show i + (j - i) = j by omega]
      exact occurs
  · rintro ⟨first, last⟩
    refine ⟨first, ?_⟩
    rintro ⟨k, low, occurs⟩
    rw [occursAt_drop] at occurs
    exact last (i + k) (by omega) occurs

/-! ### The hash loop -/

private theorem slice_append (text : List UInt8) (i n m : Nat) (le : n ≤ m) :
    slice text i n ++ slice text (i + n) (m - n) = slice text i m := by
  unfold slice
  rw [← List.drop_drop, ← List.take_append_drop n (List.take m (List.drop i text)), List.take_take,
    Nat.min_eq_left le, List.drop_take]

private theorem fread_some {ok : Bool} {n : Nat} {f g : FILE} {bytes : List UInt8}
    (read : fread ok n f = some (bytes, g)) :
    f.pos + n ≤ f.content.length ∧ bytes = slice f.content f.pos n ∧ g = { f with pos := f.pos + n } := by
  unfold fread at read
  split at read
  · rename_i fits
    simp only [Option.some.injEq, Prod.mk.injEq] at read
    exact ⟨fits.2, read.1.symm, read.2.symm⟩
  · cases read

private theorem fseek_end_some {ok : Bool} {n : Nat} {f g : FILE} (sought : fseek_end ok n f = some g) :
    n ≤ f.content.length ∧ g = { f with pos := f.content.length - n } := by
  unfold fseek_end at sought
  split at sought
  · rename_i fits
    exact ⟨fits.2, (Option.some.inj sought).symm⟩
  · cases sought

/-- A hash loop that ends has read the whole rest of the prefix, and its context
    is that of the rest in one piece. -/
theorem hash_loop_sound (sha : Sha Digest) (io : Io) (signed_len : Nat) :
    ∀ (so_far call : Nat) (ctx : sha.SHA_CTX) (f : FILE) (out : sha.SHA_CTX),
      hash_loop io sha signed_len so_far call ctx f = some out → so_far < signed_len →
      f.pos + (signed_len - so_far) ≤ f.content.length ∧
        (sha.Streaming → out = sha.SHA_update ctx (slice f.content f.pos (signed_len - so_far))) := by
  intro so_far call ctx f
  induction so_far, call, ctx, f using hash_loop.induct io sha signed_len with
  | case1 so_far call ctx f more size failed =>
    intro out ran _
    rw [hash_loop] at ran
    simp only [more, ↓reduceIte, failed, size] at ran
    cases ran
  | case2 so_far call ctx f more size buffer g step ih =>
    intro out ran _
    rw [hash_loop] at ran
    simp only [more, ↓reduceIte] at ran
    rw [step] at ran
    obtain ⟨fits, bufferIs, rfl⟩ := fread_some step
    have bound : size ≤ signed_len - so_far := buffer_size_le signed_len so_far
    by_cases again : so_far + size < signed_len
    · obtain ⟨restFits, hashed⟩ := ih out ran again
      simp only at restFits hashed
      refine ⟨by omega, fun streaming => ?_⟩
      rw [hashed streaming, streaming, bufferIs, Nat.sub_add_eq, slice_append _ _ _ _ bound]
    · have whole : size = signed_len - so_far := by omega
      dsimp only at ran
      rw [hash_loop] at ran
      simp only [show ¬ so_far + buffer_size signed_len so_far < signed_len from again, ↓reduceIte,
        Option.some.injEq] at ran
      refine ⟨by omega, fun _ => ?_⟩
      rw [← ran, bufferIs, whole]
  | case3 so_far call ctx f done => intro out _ more; exact absurd more done

/-- Where every read succeeds that the file is long enough for, the loop ends. -/
theorem hash_loop_total (sha : Sha Digest) (io : Io) (reads : ∀ call, io.fread call = true) (signed_len : Nat) :
    ∀ (so_far call : Nat) (ctx : sha.SHA_CTX) (f : FILE),
      f.pos + (signed_len - so_far) ≤ f.content.length →
      ∃ out, hash_loop io sha signed_len so_far call ctx f = some out := by
  intro so_far call ctx f
  induction so_far, call, ctx, f using hash_loop.induct io sha signed_len with
  | case1 so_far call ctx f more size failed =>
    intro long
    have bound : size ≤ signed_len - so_far := buffer_size_le signed_len so_far
    have fits : f.pos + size ≤ f.content.length := by omega
    simp [fread, reads, fits] at failed
  | case2 so_far call ctx f more size buffer g step ih =>
    intro long
    obtain ⟨fits, _, rfl⟩ := fread_some step
    obtain ⟨out, ran⟩ := ih (by simp only; omega)
    refine ⟨out, ?_⟩
    rw [hash_loop]
    simp only [more, ↓reduceIte]
    rw [step]
    exact ran
  | case3 so_far call ctx f done =>
    intro _
    exact ⟨ctx, by rw [hash_loop]; simp [done]⟩

/-! ### The checks before the loop over the keys -/

private theorem slice_getD (text : List UInt8) (i n k : Nat) (inside : k < n) :
    (slice text i n).getD k 0 = text.getD (i + k) 0 := by
  simp only [slice, List.getD_eq_getElem?_getD, List.getElem?_take, inside, ↓reduceIte, List.getElem?_drop]

/-- The footer of a file with at least six bytes, read off its end. -/
theorem parse_footer_end (file : List UInt8) (long : 6 ≤ file.length) :
    parse_footer (slice file (file.length - 6) 6) =
      if file.getD (file.length - 4) 0 = 0xff ∧ file.getD (file.length - 3) 0 = 0xff then
        some ⟨signature_start file, comment_size file⟩
      else none := by
  simp only [parse_footer, byte, signature_start, comment_size, slice_getD _ _ _ _ (by omega : 0 < 6),
    slice_getD _ _ _ _ (by omega : 1 < 6), slice_getD _ _ _ _ (by omega : 2 < 6),
    slice_getD _ _ _ _ (by omega : 3 < 6), slice_getD _ _ _ _ (by omega : 4 < 6),
    slice_getD _ _ _ _ (by omega : 5 < 6), show file.length - 6 + 0 = file.length - 6 by omega,
    show file.length - 6 + 1 = file.length - 5 by omega, show file.length - 6 + 2 = file.length - 4 by omega,
    show file.length - 6 + 3 = file.length - 3 by omega, show file.length - 6 + 4 = file.length - 2 by omega,
    show file.length - 6 + 5 = file.length - 1 by omega]
  by_cases ff : file.getD (file.length - 4) 0 = 0xff ∧ file.getD (file.length - 3) 0 = 0xff
  · rw [if_pos ff, if_neg (by tauto)]
  · rw [if_neg ff, if_pos (by tauto)]

private theorem guard_some {p : Prop} [Decidable p] {u : Unit} : (guard p : Option Unit) = some u ↔ p := by
  by_cases h : p <;> simp [guard, h]

/-- A footer is read exactly off a tagged file whose signature is long enough. -/
theorem read_footer_sound {io : Io} {file : List UInt8} {footer : Footer} {f : FILE}
    (read : read_footer io file = some (footer, f)) :
    6 ≤ file.length ∧ (file.getD (file.length - 4) 0 = 0xff ∧ file.getD (file.length - 3) 0 = 0xff) ∧
      256 ≤ (signature_start file : Int) - 6 ∧ footer = ⟨signature_start file, comment_size file⟩ ∧
      f.content = file := by
  simp only [read_footer, Option.bind_eq_bind, Option.bind_eq_some_iff, guard_some, Option.pure_def,
    Option.some.injEq, Prod.exists, Prod.mk.injEq] at read
  obtain ⟨_, _, g, sought, bytes, h, took, parsed, parse, _, signature, rfl, rfl⟩ := read
  obtain ⟨long, rfl⟩ := fseek_end_some sought
  obtain ⟨_, rfl, rfl⟩ := fread_some took
  simp only [FOOTER_SIZE, RSANUMBYTES] at long parse signature
  rw [parse_footer_end file long] at parse
  split at parse
  · rename_i ff
    cases Option.some.inj parse
    exact ⟨long, ff, by simp only at signature; omega, rfl, rfl⟩
  · cases parse

/-- A record is read exactly where it fits the file and starts with its last marker. -/
theorem read_eocd_sound {io : Io} {footer : Footer} {f g : FILE} {eocd : List UInt8} {signed_len : Nat}
    (read : read_eocd io footer f = some (eocd, signed_len, g)) :
    footer.comment_size + 22 ≤ f.content.length ∧
      eocd = f.content.drop (f.content.length - (footer.comment_size + 22)) ∧
      signed_len = f.content.length - footer.comment_size - 2 ∧
      LastAt eocd_marker f.content (f.content.length - (footer.comment_size + 22)) ∧
      g.content = f.content ∧ g.pos = f.content.length := by
  simp only [read_eocd, Option.bind_eq_bind, Option.bind_eq_some_iff, guard_some, Option.pure_def,
    Option.some.injEq, Prod.exists, Prod.mk.injEq] at read
  obtain ⟨h, sought, _, _, bytes, k, took, _, first, _, last, rfl, rfl, rfl⟩ := read
  obtain ⟨fits, rfl⟩ := fseek_end_some sought
  obtain ⟨_, rfl, rfl⟩ := fread_some took
  simp only [EOCD_HEADER_SIZE] at fits first last
  have record : slice f.content (f.content.length - (footer.comment_size + 22)) (footer.comment_size + 22) =
      f.content.drop (f.content.length - (footer.comment_size + 22)) := by
    rw [slice]
    exact List.take_of_length_le (by simp only [List.length_drop]; omega)
  rw [record] at first last
  refine ⟨fits, ?_, ?_, ?_, rfl, ?_⟩
  · simp only [EOCD_HEADER_SIZE, record]
  · simp only [EOCD_HEADER_SIZE]; omega
  · exact (marker_checks_iff _ _).mp ⟨first, by simpa using last⟩
  · simp only [EOCD_HEADER_SIZE]; omega

/-- A run that gets past the checks and the hash has a framed file before it, and
    leaves what `region_of` says. -/
theorem read_region_sound {io : Io} {sha : Sha Digest} {file : List UInt8} {region : Region Digest}
    (read : read_region io sha file = some region) :
    Framed file ∧ region.eocd = file.drop (eocd_offset file) ∧
      region.signed_len = file.length - comment_size file - 2 ∧
      (sha.Streaming → region = region_of sha file) := by
  simp only [read_region, Option.bind_eq_bind, Option.bind_eq_some_iff, guard_some, Option.pure_def,
    Option.some.injEq, Prod.exists] at read
  obtain ⟨footer, f, footerRead, eocd, signed_len, g, eocdRead, _, _, ctx, hashed, rfl⟩ := read
  obtain ⟨_, ff, signature, rfl, rfl⟩ := read_footer_sound footerRead
  obtain ⟨fits, rfl, signedIs, last, gContent, gPos⟩ := read_eocd_sound eocdRead
  simp only at fits signedIs last
  have offset : eocd_offset f.content = f.content.length - (comment_size f.content + 22) := by
    simp only [eocd_offset, EOCD_HEADER_SIZE]; omega
  have framed : Framed f.content := ⟨fits, ff, signature, offset ▸ last⟩
  refine ⟨framed, by rw [offset], signedIs, fun streaming => ?_⟩
  obtain ⟨inside, out⟩ := hash_loop_sound sha io signed_len 0 2 _ _ ctx hashed (by omega)
  by_cases rewound : io.fseek 2 = true
  · simp only [rewound, ↓reduceIte, gContent, Nat.sub_zero] at out
    simp only [region_of, Sha.sha1, offset, signedIs, out streaming, slice, List.drop_zero]
  · simp only [rewound, Bool.false_eq_true, ↓reduceIte, gContent, gPos, Nat.sub_zero] at inside
    omega

theorem read_footer_reliable {file : List UInt8} (framed : Framed file) :
    read_footer Io.reliable file =
      some (⟨signature_start file, comment_size file⟩, ⟨file, file.length - 6 + 6⟩) := by
  have fits := framed.long
  have signature := framed.signature
  simp only [EOCD_HEADER_SIZE] at fits
  have sought : fseek_end true 6 ⟨file, 0⟩ = some ⟨file, file.length - 6⟩ :=
    if_pos ⟨rfl, by simp only; omega⟩
  have took : fread true 6 ⟨file, file.length - 6⟩ =
      some (slice file (file.length - 6) 6, ⟨file, file.length - 6 + 6⟩) := if_pos ⟨rfl, by simp only; omega⟩
  have parsed : parse_footer (slice file (file.length - 6) 6) = some ⟨signature_start file, comment_size file⟩ := by
    rw [parse_footer_end file (by omega), if_pos framed.tagged]
  simp only [read_footer, Option.bind_eq_bind, Option.bind_eq_some_iff, guard_some, Option.pure_def,
    Option.some.injEq, Prod.exists]
  exact ⟨(), rfl, _, sought, _, _, took, _, parsed, (), by simp only [FOOTER_SIZE, RSANUMBYTES]; omega, rfl⟩

theorem read_eocd_reliable {file : List UInt8} (framed : Framed file) (n : Nat) :
    ∃ pos, read_eocd Io.reliable ⟨signature_start file, comment_size file⟩ ⟨file, n⟩ =
      some (file.drop (eocd_offset file), eocd_offset file + 20, ⟨file, pos⟩) := by
  have fits := framed.long
  simp only [EOCD_HEADER_SIZE] at fits
  have offset : file.length - (comment_size file + 22) = eocd_offset file := by
    simp only [eocd_offset, EOCD_HEADER_SIZE]; omega
  have record : slice file (eocd_offset file) (comment_size file + 22) = file.drop (eocd_offset file) := by
    rw [slice]
    exact List.take_of_length_le (by simp only [List.length_drop]; omega)
  have sought : fseek_end true (comment_size file + 22) ⟨file, n⟩ = some ⟨file, eocd_offset file⟩ := by
    rw [← offset]
    exact if_pos ⟨rfl, fits⟩
  have took : fread true (comment_size file + 22) ⟨file, eocd_offset file⟩ =
      some (file.drop (eocd_offset file), ⟨file, eocd_offset file + (comment_size file + 22)⟩) := by
    rw [← record]
    exact if_pos ⟨rfl, by simp only; omega⟩
  obtain ⟨first, noLater⟩ := (marker_checks_iff file _).mpr framed.marker
  refine ⟨eocd_offset file + (comment_size file + 22), ?_⟩
  simp only [read_eocd, Option.bind_eq_bind, Option.bind_eq_some_iff, guard_some, Option.pure_def,
    Option.some.injEq, Prod.exists]
  exact ⟨_, sought, (), rfl, _, _, took, (), first, (), by simp [noLater], rfl⟩

/-- Where every call succeeds, a framed file gets past the checks and the hash. -/
theorem read_region_complete (sha : Sha Digest) {file : List UInt8} (framed : Framed file) :
    ∃ region, read_region Io.reliable sha file = some region := by
  have fits := framed.long
  simp only [EOCD_HEADER_SIZE] at fits
  obtain ⟨pos, eocdRead⟩ := read_eocd_reliable framed (file.length - 6 + 6)
  have inside : eocd_offset file + 20 ≤ file.length := by
    simp only [eocd_offset, EOCD_HEADER_SIZE]; omega
  obtain ⟨ctx, hashed⟩ := hash_loop_total sha Io.reliable (fun _ => rfl) (eocd_offset file + 20) 0 2 sha.SHA_init
    ⟨file, 0⟩ (by simp only; omega)
  refine ⟨⟨file.drop (eocd_offset file), eocd_offset file + 20, sha.SHA_final ctx⟩, ?_⟩
  simp only [read_region, Option.bind_eq_bind, Option.bind_eq_some_iff, guard_some, Option.pure_def,
    Option.some.injEq, Prod.exists]
  exact ⟨_, _, read_footer_reliable framed, _, _, _, eocdRead, (), rfl, ctx, hashed, rfl⟩

/-! ### The loop over the keys -/

theorem try_keys_result (RSA_verify : Key → List UInt8 → Digest → Bool) (heap : Int → UInt8)
    (region : Region Digest) (keys : List Key) :
    (try_keys RSA_verify heap region keys).result = VERIFY_SUCCESS ↔
      ∃ key ∈ keys, RSA_verify key
        (read_block heap region.eocd (signature_block region.eocd) RSANUMBYTES) region.sha1 = true := by
  induction keys with
  | nil => simp [try_keys, VERIFY_FAILURE, VERIFY_SUCCESS]
  | cons key rest ih =>
    rw [try_keys]
    split
    · rename_i accepts
      simp [accepts]
    · rename_i rejects
      simp [ih, rejects]

theorem try_keys_calls (RSA_verify : Key → List UInt8 → Digest → Bool) (heap : Int → UInt8)
    (region : Region Digest) (keys : List Key) :
    ∀ block ∈ (try_keys RSA_verify heap region keys).rsa_calls, block = signature_block region.eocd := by
  induction keys with
  | nil => simp [try_keys]
  | cons key rest ih =>
    rw [try_keys]
    split
    · simp
    · simpa using ih

/-- A block inside the record is read from the record, whatever the heap holds. -/
theorem read_block_inside (heap : Int → UInt8) (eocd : List UInt8) (k n : Nat) (fits : k + n ≤ eocd.length) :
    read_block heap eocd (k : Int) n = slice eocd k n := by
  apply List.ext_getElem
  · simp only [read_block, List.length_map, List.length_range, slice, List.length_take, List.length_drop]
    omega
  · intro i low high
    simp only [read_block, List.length_map, List.length_range] at low
    simp only [read_block, List.getElem_map, List.getElem_range, memory, slice, List.getElem_take, List.getElem_drop]
    rw [if_pos (by omega), show ((k : Int) + (i : Int)).toNat = k + i by omega, List.getD_eq_getElem _ _ (by omega)]

theorem try_keys_reached (RSA_verify : Key → List UInt8 → Digest → Bool) (heap : Int → UInt8)
    (region : Region Digest) (key : Key) (rest : List Key) :
    signature_block region.eocd ∈ (try_keys RSA_verify heap region (key :: rest)).rsa_calls := by
  rw [try_keys]
  split <;> simp

/-- With a comment long enough for it, the signature block is the 256 bytes of the
    file before its footer. -/
theorem read_block_comment (heap : Int → UInt8) {file : List UInt8} (framed : Framed file)
    (long : 240 ≤ comment_size file) :
    read_block heap (file.drop (eocd_offset file)) (signature_block (file.drop (eocd_offset file))) RSANUMBYTES =
      slice file (file.length - 262) 256 := by
  have fits := framed.long
  simp only [EOCD_HEADER_SIZE] at fits
  have size : (file.drop (eocd_offset file)).length = comment_size file + 22 := by
    simp only [List.length_drop, eocd_offset, EOCD_HEADER_SIZE]; omega
  have start : signature_block (file.drop (eocd_offset file)) = ((comment_size file - 240 : Nat) : Int) := by
    rw [signature_block, size]
    simp only [RSANUMBYTES]
    omega
  have place : eocd_offset file + (comment_size file - 240) = file.length - 262 := by
    simp only [eocd_offset, EOCD_HEADER_SIZE]; omega
  rw [start, read_block_inside heap _ _ _ (by rw [size]; simp only [RSANUMBYTES]; omega)]
  simp only [slice, List.drop_drop, place, RSANUMBYTES]

/-! ### Results -/

/-- Where every call succeeds, `verify_file` succeeds exactly on the framed files
    whose block some key accepts. -/
theorem verify_file_reliable_iff {sha : Sha Digest} (streaming : sha.Streaming)
    (RSA_verify : Key → List UInt8 → Digest → Bool) (heap : Int → UInt8) (file : List UInt8) (keys : List Key) :
    (verify_file sha RSA_verify Io.reliable heap file keys).result = VERIFY_SUCCESS ↔
      Framed file ∧ ∃ key ∈ keys, RSA_verify key
        (read_block heap (region_of sha file).eocd (signature_block (region_of sha file).eocd) RSANUMBYTES)
        (region_of sha file).sha1 = true := by
  rw [verify_file]
  cases read : read_region Io.reliable sha file with
  | none =>
    have unframed : ¬ Framed file := by
      intro framed
      obtain ⟨region, some⟩ := read_region_complete sha framed
      rw [read] at some
      cases some
    simp [unframed, VERIFY_FAILURE, VERIFY_SUCCESS]
  | some region =>
    obtain ⟨framed, _, _, same⟩ := read_region_sound read
    simp only [try_keys_result, same streaming, framed, true_and]

private theorem accepted_region {sha : Sha Digest} {RSA_verify : Key → List UInt8 → Digest → Bool} {io : Io}
    {heap : Int → UInt8} {file : List UInt8} {keys : List Key}
    (accepted : (verify_file sha RSA_verify io heap file keys).result = VERIFY_SUCCESS) :
    ∃ region, read_region io sha file = some region := by
  unfold verify_file at accepted
  cases read : read_region io sha file with
  | none => simp [read, VERIFY_FAILURE, VERIFY_SUCCESS] at accepted
  | some region => exact ⟨region, rfl⟩

private theorem reached_region {sha : Sha Digest} {RSA_verify : Key → List UInt8 → Digest → Bool} {io : Io}
    {heap : Int → UInt8} {file : List UInt8} {keys : List Key} {block : Int}
    (reached : block ∈ (verify_file sha RSA_verify io heap file keys).rsa_calls) :
    ∃ region, read_region io sha file = some region ∧ block = signature_block region.eocd := by
  unfold verify_file at reached
  cases read : read_region io sha file with
  | none => simp [read] at reached
  | some region =>
    simp only [read] at reached
    exact ⟨region, rfl, try_keys_calls RSA_verify heap region keys block reached⟩

/-- A package whose comment has room for a signature and a footer is accepted
    exactly where its footer is tagged, its signature is long enough, the last
    end-of-central-directory marker stands where the footer says, and some key
    accepts the 256 bytes before the footer for the hash of everything before the
    comment length. -/
theorem verify_file_success_iff {sha : Sha Digest} (streaming : sha.Streaming)
    (RSA_verify : Key → List UInt8 → Digest → Bool) (heap : Int → UInt8) (file : List UInt8) (keys : List Key)
    (long : 262 ≤ comment_size file) :
    (verify_file sha RSA_verify Io.reliable heap file keys).result = VERIFY_SUCCESS ↔
      (file.getD (file.length - 4) 0 = 0xff ∧ file.getD (file.length - 3) 0 = 0xff) ∧
      256 ≤ (signature_start file : Int) - 6 ∧
      comment_size file + 22 ≤ file.length ∧
      OccursAt [0x50, 0x4b, 0x05, 0x06] file (file.length - comment_size file - 22) ∧
      (∀ i, file.length - comment_size file - 22 < i → ¬ OccursAt [0x50, 0x4b, 0x05, 0x06] file i) ∧
      ∃ key ∈ keys, RSA_verify key (slice file (file.length - 262) 256)
        (sha.sha1 (file.take (file.length - comment_size file - 2))) = true := by
  rw [verify_file_reliable_iff streaming]
  constructor
  · rintro ⟨framed, key, member, accepts⟩
    rw [region_of, read_block_comment heap framed (by omega)] at accepts
    exact ⟨framed.tagged, framed.signature, framed.long, framed.marker.1, framed.marker.2, key, member, accepts⟩
  · rintro ⟨tagged, signature, fits, first, last, key, member, accepts⟩
    have framed : Framed file := ⟨fits, tagged, signature, first, last⟩
    refine ⟨framed, key, member, ?_⟩
    rw [region_of, read_block_comment heap framed (by omega)]
    exact accepts

/-- The hash that keeps its message, for concrete runs. -/
def transparent : Sha (List UInt8) := ⟨List UInt8, [], (· ++ ·), id⟩

theorem transparent_streaming : transparent.Streaming := fun ctx left right =>
  List.append_assoc ctx left right

/-- The RSA check of a key that accepts everything. -/
def accept_all (_ : Unit) (_ _ : List UInt8) : Bool := true

/-- A package of a bare record with a comment of 262 bytes, all of it signature and footer. -/
def bare_package : List UInt8 :=
  eocd_marker ++ List.replicate 16 0 ++ [0x06, 0x01] ++ List.replicate 256 0 ++ [0x06, 0x01, 0xff, 0xff, 0x06, 0x01]

theorem verify_file_success_bare :
    (verify_file transparent accept_all Io.reliable (fun _ => 0) bare_package [()]).result =
        VERIFY_SUCCESS ↔
      (bare_package.getD (bare_package.length - 4) 0 = 0xff ∧ bare_package.getD (bare_package.length - 3) 0 = 0xff) ∧
      256 ≤ (signature_start bare_package : Int) - 6 ∧
      comment_size bare_package + 22 ≤ bare_package.length ∧
      OccursAt [0x50, 0x4b, 0x05, 0x06] bare_package (bare_package.length - comment_size bare_package - 22) ∧
      (∀ i, bare_package.length - comment_size bare_package - 22 < i →
        ¬ OccursAt [0x50, 0x4b, 0x05, 0x06] bare_package i) ∧
      ∃ key ∈ [()], accept_all key
        (slice bare_package (bare_package.length - 262) 256)
        (transparent.sha1 (bare_package.take (bare_package.length - comment_size bare_package - 2))) = true :=
  verify_file_success_iff transparent_streaming _ _ _ _ (by decide +kernel)

/-- Files that differ at most in their six footer bytes and are both accepted have
    the same comment size: the record of the one with the shorter comment would be
    a later marker in the other. So the same prefix of both is hashed, and the same
    record is found. -/
theorem footer_cannot_move_signed_region (sha : Sha Digest) (RSA_verify : Key → List UInt8 → Digest → Bool)
    (io io' : Io) (heap heap' : Int → UInt8) (file other : List UInt8) (keys keys' : List Key)
    (sameLength : file.length = other.length)
    (agree : file.take (file.length - 6) = other.take (file.length - 6))
    (accepted : (verify_file sha RSA_verify io heap file keys).result = VERIFY_SUCCESS)
    (otherAccepted : (verify_file sha RSA_verify io' heap' other keys').result = VERIFY_SUCCESS) :
    comment_size file = comment_size other ∧ eocd_offset file = eocd_offset other ∧
      ∃ region region', read_region io sha file = some region ∧ read_region io' sha other = some region' ∧
        region.signed_len = region'.signed_len ∧ region.eocd.length = region'.eocd.length := by
  obtain ⟨region, read⟩ := accepted_region accepted
  obtain ⟨region', read'⟩ := accepted_region otherAccepted
  obtain ⟨framed, eocdIs, signedIs, _⟩ := read_region_sound read
  obtain ⟨framed', eocdIs', signedIs', _⟩ := read_region_sound read'
  have long := framed.long
  have long' := framed'.long
  have same : eocd_offset file = eocd_offset other := by
    apply lastAt_agree agree framed.marker framed'.marker
    · simp only [eocd_offset, EOCD_HEADER_SIZE, eocd_marker, List.length_cons, List.length_nil] at *; omega
    · simp only [eocd_offset, EOCD_HEADER_SIZE, eocd_marker, List.length_cons, List.length_nil] at *; omega
  have comments : comment_size file = comment_size other := by
    simp only [eocd_offset, EOCD_HEADER_SIZE] at same long long'
    omega
  refine ⟨comments, same, region, region', read, read', ?_, ?_⟩
  · rw [signedIs, signedIs', comments, sameLength]
  · rw [eocdIs, eocdIs', List.length_drop, List.length_drop, same, sameLength]

/-- A record of 22 bytes that is its own footer: its comment size is 0. -/
def short_package (low : UInt8) : List UInt8 :=
  eocd_marker ++ List.replicate 12 0 ++ [low, 0x01, 0xff, 0xff, 0x00, 0x00]

theorem short_package_framed {low : UInt8} (choice : low = 0x06 ∨ low = 0x07) : Framed (short_package low) := by
  rcases choice with rfl | rfl <;>
    exact ⟨by decide, by decide, by decide, (marker_checks_iff _ _).mp (by decide)⟩

private theorem short_package_accepted {low : UInt8} (choice : low = 0x06 ∨ low = 0x07) :
    (verify_file transparent accept_all Io.reliable (fun _ => 0) (short_package low) [()]).result =
      VERIFY_SUCCESS :=
  (verify_file_reliable_iff transparent_streaming _ _ _ _).mpr
    ⟨short_package_framed choice, (), List.mem_singleton.mpr rfl, rfl⟩

theorem footer_cannot_move_short :
    comment_size (short_package 0x06) = comment_size (short_package 0x07) ∧
      eocd_offset (short_package 0x06) = eocd_offset (short_package 0x07) ∧
      ∃ region region', read_region Io.reliable transparent (short_package 0x06) = some region ∧
        read_region Io.reliable transparent (short_package 0x07) = some region' ∧
        region.signed_len = region'.signed_len ∧ region.eocd.length = region'.eocd.length :=
  footer_cannot_move_signed_region transparent accept_all Io.reliable Io.reliable (fun _ => 0) (fun _ => 0)
    (short_package 0x06) (short_package 0x07) [()] [()] (by decide) (by decide)
    (short_package_accepted (.inl rfl)) (short_package_accepted (.inr rfl))

/-- The signature block lies in the archive comment that was read: behind the
    record's header, inside the record, and behind the signed prefix. -/
structure InComment (file : List UInt8) (block : Int) : Prop where
  after_header : EOCD_HEADER_SIZE ≤ block
  inside : block + RSANUMBYTES ≤ comment_size file + EOCD_HEADER_SIZE
  unsigned : (file.length - comment_size file - 2 : Int) ≤ eocd_offset file + block

/-- Whenever `RSA_verify` is reached, the block it is handed lies in the archive
    comment exactly where the comment has room for a signature and a footer. -/
theorem signature_block_in_comment_iff (sha : Sha Digest) (RSA_verify : Key → List UInt8 → Digest → Bool) (io : Io)
    (heap : Int → UInt8) (file : List UInt8) (keys : List Key) (block : Int)
    (reached : block ∈ (verify_file sha RSA_verify io heap file keys).rsa_calls) :
    InComment file block ↔ 262 ≤ comment_size file := by
  obtain ⟨region, read, handed⟩ := reached_region reached
  obtain ⟨framed, eocdIs, _, _⟩ := read_region_sound read
  have long := framed.long
  have start : block = (comment_size file : Int) + 22 - 262 := by
    rw [handed, signature_block, eocdIs, List.length_drop]
    simp only [eocd_offset, EOCD_HEADER_SIZE, RSANUMBYTES] at long ⊢
    omega
  simp only [EOCD_HEADER_SIZE] at long
  constructor
  · intro inComment
    have after := inComment.after_header
    simp only [EOCD_HEADER_SIZE] at after
    omega
  · intro room
    refine ⟨?_, ?_, ?_⟩ <;> simp only [EOCD_HEADER_SIZE, RSANUMBYTES, eocd_offset] <;> omega

private theorem short_package_reached :
    (-240 : Int) ∈ (verify_file transparent accept_all Io.reliable (fun _ => 0)
      (short_package 0x06) [()]).rsa_calls := by
  obtain ⟨region, read⟩ := read_region_complete transparent (short_package_framed (.inl rfl))
  have eocdIs := (read_region_sound read).2.1
  have handed := try_keys_reached accept_all (fun _ => 0) region () []
  have place : signature_block region.eocd = -240 := by rw [eocdIs]; decide
  rw [place] at handed
  rw [verify_file]
  rw [read]
  exact handed

theorem signature_block_short :
    InComment (short_package 0x06) (-240) ↔ 262 ≤ comment_size (short_package 0x06) :=
  signature_block_in_comment_iff transparent accept_all Io.reliable (fun _ => 0) (short_package 0x06) [()]
    (-240) short_package_reached

/-- On the record that is its own footer, `RSA_verify` reads from 240 bytes before the buffer. -/
theorem signature_block_before_buffer :
    ¬ ∀ block ∈ (verify_file transparent accept_all Io.reliable (fun _ => 0)
        (short_package 0x06) [()]).rsa_calls, InComment (short_package 0x06) block := by
  intro all
  have after := (all (-240) short_package_reached).after_header
  simp only [EOCD_HEADER_SIZE] at after
  omega

end SteamRecovery.Verifier
