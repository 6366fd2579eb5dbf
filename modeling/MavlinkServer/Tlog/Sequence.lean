/-
  File:      MavlinkServer/Tlog/Sequence.lean
  Subject:   THE NUMBERS IN THE NAMES OF LOGS (`create_tlog_file` and
             `get_sequence` in `src/lib/drivers/tlog/writer.rs`, on a directory).

  Of the files only the names are kept, and with them the logs that have been
  created. The numbers in the names are to increase.

  * `LogDirectory` -- a directory in which logs are created and other files come
    and go;
  * `mem_names_create` -- it has the names that the disk of `Tlog/Writer` has;
  * `Increasing`, `Fits` -- the next number is past all those in use, which all
    differ; and what has to be true where a log is created;
  * **`increasing_iff`** -- a run of such creations keeps the numbers
    increasing, and the first one that is not loses it.
-/
import MavlinkServer.Tlog.Writer

namespace MavlinkServer.Tlog

open Lib Drivers

/-! ## 1. A directory of logs -/

structure Log where
  sequence : Nat
  time : Timestamp
  deriving DecidableEq, Repr

def Log.name (log : Log) : Text := logName log.sequence log.time

structure LogDirectory where
  names : List (Option Text)
  /-- the logs that `create_tlog_file` has created, newest first -/
  created : List Log
  deriving DecidableEq, Repr

inductive LogAction where
  | create (c : LogCreation)
  /-- another file comes, or goes -/
  | comes (name : Option Text)
  | goes (name : Option Text)
  deriving DecidableEq

namespace LogDirectory

/-- What is there before the first log. -/
def new (others : List (Option Text)) : LogDirectory := ⟨others, []⟩

/-- `get_sequence(&path).await.unwrap_or_default()` -/
def nextSequence (d : DigitClass) (s : LogDirectory) (c : LogCreation) : Nat :=
  d.nextSequence s.names c.listed

/-- `create_tlog_file` makes a log. -/
def Creates (c : LogCreation) : Prop := c.directory = true ∧ c.opened = true

instance (c : LogCreation) : Decidable (Creates c) := inferInstanceAs (Decidable (_ ∧ _))

def createTlogFile (d : DigitClass) (s : LogDirectory) (c : LogCreation) : LogDirectory :=
  if Creates c then
    let log : Log := ⟨s.nextSequence d c, c.time⟩
    { names := some log.name :: s.names.erase (some log.name), created := log :: s.created }
  else s

def step (d : DigitClass) (s : LogDirectory) : LogAction → Option LogDirectory
  | .create c => some (s.createTlogFile d c)
  | .comes name => some { s with names := name :: s.names }
  | .goes name =>
      if name ∈ s.created.map fun log => some log.name then none
      else some { s with names := s.names.filter (· ≠ name) }

end LogDirectory

/-- **Increasing**: the next number is past those of all logs that were created, which all differ. -/
def Increasing (d : DigitClass) (s : LogDirectory) : Prop :=
  (∀ log ∈ s.created, log.sequence < d.getSequence s.names) ∧
    (s.created.map (·.sequence)).Nodup

/-- Where a log is created: if the directory is listed, no file in it has the number 99999, and the
    year has four digits; if it is not, no log has been created so before. -/
def Fits (d : DigitClass) (s : LogDirectory) : LogAction → Prop
  | .create c => LogDirectory.Creates c →
      if c.listed then (∀ name ∈ s.names, d.sequence? name ≠ some 99999) ∧ FourDigits c.time.year
      else ∀ log ∈ s.created, log.sequence ≠ 0
  | .comes _ | .goes _ => True

instance (d : DigitClass) (s : LogDirectory) : ∀ a, Decidable (Fits d s a)
  | .create c => inferInstanceAs (Decidable (LogDirectory.Creates c →
      if c.listed then (∀ name ∈ s.names, d.sequence? name ≠ some 99999) ∧ FourDigits c.time.year
      else ∀ log ∈ s.created, log.sequence ≠ 0))
  | .comes _ | .goes _ => inferInstanceAs (Decidable True)

section Directory

variable {d : DigitClass} {s s' : LogDirectory} {names names' : List (Option Text)} {n m : Nat}

theorem mem_createTlogFile {c : LogCreation} (hc : LogDirectory.Creates c) {name : Option Text} :
    name ∈ (s.createTlogFile d c).names ↔
      name = some (logName (s.nextSequence d c) c.time) ∨ name ∈ s.names := by
  unfold LogDirectory.createTlogFile
  rw [if_pos hc]
  show name ∈ some (logName _ _) :: s.names.erase (some (logName _ _)) ↔ _
  rw [List.mem_cons]
  by_cases heq : name = some (logName (s.nextSequence d c) c.time)
  · exact iff_of_true (Or.inl heq) (Or.inl heq)
  · rw [List.mem_erase_of_ne heq]

theorem created_createTlogFile {c : LogCreation} (hc : LogDirectory.Creates c) :
    (s.createTlogFile d c).created = ⟨s.nextSequence d c, c.time⟩ :: s.created := by
  unfold LogDirectory.createTlogFile
  rw [if_pos hc]

theorem mem_listing_insert {disk : Disk} {name : FileName} {bytes : List UInt8}
    {fileName : Option Text} :
    fileName ∈ listing (disk.insert name bytes).2 ↔
      fileName = name.toStr ∨ fileName ∈ listing disk := by
  unfold listing
  simp only [List.mem_map, Prod.exists, IndexMap.mem_insert]
  constructor
  · rintro ⟨name', bytes', ⟨rfl, -⟩ | ⟨-, hmem⟩, rfl⟩
    · exact Or.inl rfl
    · exact Or.inr ⟨name', bytes', hmem, rfl⟩
  · rintro (rfl | ⟨name', bytes', hmem, rfl⟩)
    · exact ⟨name, bytes, Or.inl ⟨rfl, rfl⟩, rfl⟩
    · by_cases hname : name' = name
      · exact ⟨name, bytes, Or.inl ⟨rfl, rfl⟩, hname ▸ rfl⟩
      · exact ⟨name', bytes', Or.inr ⟨hname, hmem⟩, rfl⟩

/-- What `Tlog/Writer` opens in a directory has the name that is made here, and leaves the names
    that are there here. -/
theorem mem_names_create {disk disk' : Disk} {name : FileName} {c : LogCreation}
    (h : Tlog.createTlogFile d .directory disk c = some (name, disk')) (created : List Log)
    (fileName : Option Text) :
    name = .named (logName (d.nextSequence (listing disk) c.listed) c.time) ∧
      (fileName ∈ listing disk' ↔
        fileName ∈ (LogDirectory.createTlogFile d ⟨listing disk, created⟩ c).names) := by
  obtain ⟨hdirectory, hopened, rfl, rfl⟩ := createTlogFile_some h
  refine ⟨rfl, ?_⟩
  rw [mem_createTlogFile ⟨hdirectory rfl, hopened⟩, mem_listing_insert]
  rfl

/-- **The invariant**: every log is in the directory, and has the number 0 or a name in which its
    number is found; no two have the same. -/
structure Kept (s : LogDirectory) : Prop where
  there : ∀ log ∈ s.created, some log.name ∈ s.names
  found : ∀ log ∈ s.created,
    log.sequence = 0 ∨ log.sequence < 100000 ∧ FourDigits log.time.year
  nodup : (s.created.map (·.sequence)).Nodup

theorem Kept.increasing (h : Kept s) (d : DigitClass) : Increasing d s := by
  refine ⟨fun log hlog => ?_, h.nodup⟩
  rcases h.found log hlog with hzero | hgood
  · rw [hzero]
    exact Nat.succ_pos _
  · exact lt_getSequence (h.there log hlog) ((sequence?_logName d _ _).trans (if_pos hgood))

theorem kept_new (others : List (Option Text)) : Kept (.new others) where
  there := fun _ h => absurd h List.not_mem_nil
  found := fun _ h => absurd h List.not_mem_nil
  nodup := List.nodup_nil

/-- A creation that fits keeps the invariant. -/
theorem kept_create (h : Kept s) {c : LogCreation} (hfits : Fits d s (.create c)) :
    Kept (s.createTlogFile d c) := by
  by_cases hc : LogDirectory.Creates c
  · have hfit := hfits hc
    have hincreasing := h.increasing d
    have hthere : ∀ log ∈ (s.createTlogFile d c).created,
        some log.name ∈ (s.createTlogFile d c).names := by
      intro log hlog
      rw [created_createTlogFile hc] at hlog
      rw [mem_createTlogFile hc]
      rcases List.mem_cons.mp hlog with rfl | hlog
      · exact Or.inl rfl
      · exact Or.inr (h.there log hlog)
    have hnew : (s.nextSequence d c = 0 ∨ s.nextSequence d c < 100000 ∧ FourDigits c.time.year) ∧
        ∀ log ∈ s.created, log.sequence ≠ s.nextSequence d c := by
      unfold LogDirectory.nextSequence DigitClass.nextSequence
      cases hlisted : c.listed with
      | true =>
          rw [hlisted, if_pos rfl] at hfit
          rw [if_pos rfl]
          refine ⟨Or.inr ⟨getSequence_lt hfit.1, hfit.2⟩, fun log hlog => ?_⟩
          exact Nat.ne_of_lt (hincreasing.1 log hlog)
      | false =>
          rw [hlisted, if_neg Bool.false_ne_true] at hfit
          rw [if_neg Bool.false_ne_true]
          exact ⟨Or.inl rfl, hfit⟩
    refine ⟨hthere, fun log hlog => ?_, ?_⟩
    · rw [created_createTlogFile hc] at hlog
      rcases List.mem_cons.mp hlog with rfl | hlog
      · exact hnew.1
      · exact h.found log hlog
    · rw [created_createTlogFile hc, List.map_cons, List.nodup_cons]
      refine ⟨fun hmem => ?_, h.nodup⟩
      obtain ⟨log, hlog, hsame⟩ := List.mem_map.mp hmem
      exact hnew.2 log hlog hsame
  · unfold LogDirectory.createTlogFile
    rw [if_neg hc]
    exact h

theorem kept_step (h : Kept s) {a : LogAction} (hfits : Fits d s a) (hs : s.step d a = some s') :
    Kept s' := by
  cases a with
  | create c =>
      cases hs
      exact kept_create h hfits
  | comes name =>
      cases hs
      exact ⟨fun log hlog => List.mem_cons_of_mem _ (h.there log hlog), h.found, h.nodup⟩
  | goes name =>
      simp only [LogDirectory.step] at hs
      split at hs
      · cases hs
      · rename_i hother
        cases hs
        refine ⟨fun log hlog => ?_, h.found, h.nodup⟩
        refine List.mem_filter.mpr ⟨h.there log hlog, decide_eq_true fun hname => hother ?_⟩
        exact List.mem_map.mpr ⟨log, hlog, hname⟩

/-- **A creation that does not fit** makes a log whose number is not past, or is there twice. -/
theorem fits_of_increasing {c : LogCreation} (h : Increasing d (s.createTlogFile d c)) :
    Fits d s (.create c) := by
  intro hc
  obtain ⟨hpast, hnodup⟩ := h
  rw [created_createTlogFile hc] at hpast hnodup
  have hnew := hpast _ List.mem_cons_self
  rw [List.map_cons, List.nodup_cons] at hnodup
  unfold LogDirectory.nextSequence DigitClass.nextSequence at hnew hnodup
  cases hlisted : c.listed with
  | true =>
      rw [hlisted, if_pos rfl] at hnew
      rw [if_pos rfl]
      dsimp only at hnew
      constructor
      · intro name hmem hlast
        -- the new number is 100000, and no number is past it
        have hsix := lt_getSequence hmem hlast
        have hnone := getSequence_le_last d (s.createTlogFile d c).names
        omega
      · by_contra hyear
        -- the new name is not found, so the next number is what it was
        have hsame : d.getSequence (s.createTlogFile d c).names ≤ d.getSequence s.names := by
          refine getSequence_le (m := d.getSequence s.names - 1) fun name hmem n hn => ?_
          rcases (mem_createTlogFile hc).mp hmem with rfl | hmem
          · rw [sequence?_logName, if_neg fun hgood => hyear hgood.2] at hn
            cases hn
          · exact Nat.le_sub_one_of_lt (lt_getSequence hmem hn)
        exact absurd hnew (Nat.not_lt.mpr hsame)
  | false =>
      rw [hlisted, if_neg Bool.false_ne_true] at hnodup
      rw [if_neg Bool.false_ne_true]
      intro log hlog hzero
      exact hnodup.1 (List.mem_map.mpr ⟨log, hlog, hzero⟩)

/-- **Numbers increase exactly as long as the creations fit.** From any directory, with other files
    coming and going: in every run of creations that fit, the next number is past those of all
    logs created so far, and no two of them are the same; and the first creation that does not fit
    ends this. -/
theorem increasing_iff {others : List (Option Text)}
    (h : Reach (LogDirectory.step d) (Fits d) (.new others) s) :
    Increasing d s ∧ ∀ a s', s.step d a = some s' → (Increasing d s' ↔ Fits d s a) := by
  have hkept : Kept s :=
    h.inv (kept_new others) fun _ _ _ hkept hfits hs => kept_step hkept hfits hs
  refine ⟨hkept.increasing d, fun a s' hs => ⟨fun hincreasing => ?_, fun hfits =>
    (kept_step hkept hfits hs).increasing d⟩⟩
  cases a with
  | create c =>
      cases hs
      exact fits_of_increasing hincreasing
  | comes name => trivial
  | goes name => trivial

end Directory

/-! ## 2. Two runs -/

def newYearCreation : LogCreation := ⟨true, true, newYear, true⟩

/-- Two logs in an empty directory. -/
theorem increasing_iff_two :
    ∃ s, Reach (LogDirectory.step asciiDigits) (Fits asciiDigits) (.new []) s ∧
      s.created.map (·.sequence) = [2, 1] ∧ Increasing asciiDigits s := by
  obtain ⟨s, hreach, hnumbers⟩ : ∃ s, Reach (LogDirectory.step asciiDigits) (Fits asciiDigits)
      (.new []) s ∧ s.created.map (·.sequence) = [2, 1] :=
    exists_of_execC [.create newYearCreation, .create newYearCreation] (by decide +kernel)
  exact ⟨s, hreach, hnumbers, (increasing_iff hreach).1⟩

/-- **Six digits**: behind the log 99999 all logs have the number 100000. -/
theorem increasing_sixDigits :
    ¬ ∀ others s, Reach (LogDirectory.step asciiDigits) Free (.new others) s →
      Increasing asciiDigits s := by
  intro hall
  obtain ⟨s, hreach, hnumbers⟩ : ∃ s, Reach (LogDirectory.step asciiDigits) Free
      (.new [some (logName 99998 newYear)]) s ∧
        s.created.map (·.sequence) = [100000, 100000, 99999] :=
    exists_of_execC [.create newYearCreation, .create newYearCreation, .create newYearCreation]
      (by decide +kernel)
  have hnodup := (hall _ s hreach).2
  rw [hnumbers] at hnodup
  exact absurd hnodup (by decide)

end MavlinkServer.Tlog
