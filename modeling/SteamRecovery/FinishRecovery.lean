import SteamRecovery.BootMessages

/-!
`finish_recovery` (`recovery.c`), which is called before every menu. Every call
truncates `CACHE:recovery/log`, but copies only what was logged since the call
before (`log_whole_iff`), so it keeps the log and may be repeated only as long as
nothing was logged (`finish_recovery_idempotent_iff`).
-/
namespace SteamRecovery.FinishRecovery
open SteamRecovery.BootMessages
open SteamRecovery.CStrings

/-- The files behind `finish_recovery`, where all of them can be opened and written. -/
structure Files where
  /-- The text of `TEMPORARY_LOG_FILE`. -/
  tmplog : List Char
  /-- The static `tmplog_offset`. -/
  tmplog_offset : Nat
  /-- The text of `LOG_FILE`, once it exists, and likewise the other files. -/
  log : Option (List Char)
  intent : Option (List Char)
  command : Option (List Char)
  /-- The stored bootloader message. -/
  boot : BootloaderMessage

/-- `while (fgets(buf, sizeof(buf), tmplog)) fputs(buf, log);` -/
def copy (text : List Char) : List Char := (pieces '\n' 4095 [] text).flatMap (c_string '\x00')

def finish_recovery (send_intent : Option (List Char)) (f : Files) : Files where
  tmplog := f.tmplog
  tmplog_offset := f.tmplog.length
  log := some (copy (f.tmplog.drop f.tmplog_offset))
  intent := match send_intent with
    | some send_intent => some (c_string '\x00' send_intent)
    | none => f.intent
  command := none
  boot := zero_message

/-- What happens to the files while recovery runs. -/
inductive Event where
  /-- Text is appended to the temporary log. -/
  | print (text : List Char)
  | finish (send_intent : Option (List Char))

def Event.effect (f : Files) : Event → Files
  | .print text => { f with tmplog := f.tmplog ++ text }
  | .finish send_intent => finish_recovery send_intent f

def run (f : Files) (events : List Event) : Files := events.foldl Event.effect f

theorem run_last (f : Files) (events : List Event) (event : Event) :
    run f (events ++ [event]) = event.effect (run f events) := by
  simp [run]

/-- The log, intent and command files and the boot message are the same. -/
def Unchanged (f g : Files) : Prop :=
  g.log = f.log ∧ g.intent = f.intent ∧ g.command = f.command ∧ g.boot = f.boot

/-- Behind every call, the log is the whole temporary log, and the same call once more
    changes nothing. -/
structure Idempotent (start : Files) (events : List Event) : Prop where
  whole : ∀ before send_intent, before ++ [.finish send_intent] <+: events →
    (run start (before ++ [.finish send_intent])).log = some (run start (before ++ [.finish send_intent])).tmplog
  again : ∀ before send_intent, before ++ [.finish send_intent] <+: events →
    Unchanged (run start (before ++ [.finish send_intent]))
      (finish_recovery send_intent (run start (before ++ [.finish send_intent])))

/-! ### What is copied -/

theorem copy_clean (text : List Char) : '\x00' ∉ copy text := by
  intro member
  obtain ⟨piece, _, inside⟩ := List.mem_flatMap.mp member
  exact c_string_clean piece inside

theorem copy_eq_iff (text : List Char) : copy text = text ↔ '\x00' ∉ text := by
  constructor
  · intro same
    rw [← same]
    exact copy_clean text
  · intro clean
    have whole : (pieces '\n' 4095 [] text).flatten = text := pieces_flatten text []
    have pieces_clean : ∀ piece ∈ pieces '\n' 4095 [] text, c_string '\x00' piece = piece := by
      intro piece member
      refine c_string_of_clean fun nul => clean ?_
      rw [← whole]
      exact List.mem_flatten_of_mem member nul
    rw [copy, List.flatMap_def, List.map_congr_left pieces_clean, List.map_id', whole]

theorem copy_length (text : List Char) : (copy text).length ≤ text.length := by
  have shorter : ∀ parts : List (List Char), (parts.flatMap (c_string '\x00')).length ≤ parts.flatten.length := by
    intro parts
    induction parts with
    | nil => exact Nat.le_refl 0
    | cons part rest ih =>
      have prefix_length : (c_string '\x00' part).length ≤ part.length := (List.takeWhile_prefix _).length_le
      rw [List.flatMap_cons, List.flatten_cons, List.length_append, List.length_append]
      omega
  have whole : (pieces '\n' 4095 [] text).flatten = text := pieces_flatten text []
  calc (copy text).length ≤ (pieces '\n' 4095 [] text).flatten.length := shorter _
    _ = text.length := by rw [whole]

/-- What a call leaves is the whole log exactly where nothing was logged before the
    call before, and fgets and fputs come through. -/
theorem log_whole_iff (send_intent : Option (List Char)) (f : Files) :
    (finish_recovery send_intent f).log = some f.tmplog ↔
      (f.tmplog_offset = 0 ∨ f.tmplog = []) ∧ '\x00' ∉ f.tmplog := by
  show some (copy (f.tmplog.drop f.tmplog_offset)) = some f.tmplog ↔ _
  rw [Option.some.injEq]
  constructor
  · intro whole
    have shorter := copy_length (f.tmplog.drop f.tmplog_offset)
    rw [whole, List.length_drop] at shorter
    refine ⟨?_, ?_⟩
    · rcases Nat.eq_zero_or_pos f.tmplog.length with none | some_text
      · exact .inr (List.length_eq_zero_iff.mp none)
      · exact .inl (by omega)
    · rw [← whole]
      exact copy_clean _
  · rintro ⟨all, clean⟩
    have dropped : f.tmplog.drop f.tmplog_offset = f.tmplog := by
      rcases all with start | none
      · rw [start, List.drop_zero]
      · rw [none, List.drop_nil]
    rw [dropped, copy_eq_iff]
    exact clean

/-- A second call truncates the log. -/
theorem second_call_log (send_intent : Option (List Char)) (f : Files) :
    (finish_recovery send_intent (finish_recovery send_intent f)).log = some [] := by
  simp [finish_recovery, copy, pieces]

theorem second_call_unchanged (send_intent : Option (List Char)) (f : Files) :
    Unchanged (finish_recovery send_intent f) (finish_recovery send_intent (finish_recovery send_intent f)) ↔
      (finish_recovery send_intent f).log = some [] := by
  constructor
  · intro same
    rw [← same.1]
    exact second_call_log send_intent f
  · intro empty
    refine ⟨?_, ?_, rfl, rfl⟩
    · rw [second_call_log, empty]
    · cases send_intent <;> rfl

/-- One call keeps the whole log and may be repeated exactly where there is no log. -/
theorem finish_recovery_kept_iff (send_intent : Option (List Char)) (f : Files) :
    ((finish_recovery send_intent f).log = some f.tmplog ∧
      Unchanged (finish_recovery send_intent f) (finish_recovery send_intent (finish_recovery send_intent f))) ↔
    f.tmplog = [] := by
  rw [second_call_unchanged]
  constructor
  · rintro ⟨whole, empty⟩
    exact Option.some.inj (whole.symm.trans empty)
  · intro empty
    have log : (finish_recovery send_intent f).log = some [] := by
      simp [finish_recovery, empty, copy, pieces]
    rw [log, empty]
    exact ⟨rfl, rfl⟩

/-- In a run, `finish_recovery` is idempotent and loses no log exactly where nothing was
    logged before any of its calls. -/
theorem finish_recovery_idempotent_iff (start : Files) (events : List Event) :
    Idempotent start events ↔
      ∀ before send_intent, before ++ [.finish send_intent] <+: events → (run start before).tmplog = [] := by
  constructor
  · intro kept before send_intent stands
    have whole := kept.whole before send_intent stands
    have again := kept.again before send_intent stands
    rw [run_last] at whole again
    exact (finish_recovery_kept_iff send_intent _).mp ⟨whole, again⟩
  · intro empty
    refine ⟨?_, ?_⟩
    · intro before send_intent stands
      rw [run_last]
      exact ((finish_recovery_kept_iff send_intent _).mpr (empty before send_intent stands)).1
    · intro before send_intent stands
      rw [run_last]
      exact ((finish_recovery_kept_iff send_intent _).mpr (empty before send_intent stands)).2

def fresh_files : Files := ⟨[], 0, none, none, none, zero_message⟩

def two_menus : List Event := [.print "Install".toList, .finish none, .print "Wipe".toList, .finish none]

/-- Before the second menu, what was logged before the first one is lost. -/
theorem first_menu_lost : ¬ Idempotent fresh_files two_menus := by
  intro kept
  have whole := kept.whole [.print "Install".toList, .finish none, .print "Wipe".toList] none (List.prefix_refl _)
  exact absurd whole (by decide)

end SteamRecovery.FinishRecovery
