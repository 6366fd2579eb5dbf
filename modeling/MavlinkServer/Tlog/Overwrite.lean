/-
  File:      MavlinkServer/Tlog/Overwrite.lean
  Subject:   WHAT A NEW RECORDING DOES TO THE OLD ONES (`create_tlog_file` and
             `get_sequence` in `src/lib/drivers/tlog/writer.rs`).

  `File::create` empties a file that is there. A configured file has one name
  for all recordings; in a directory the next sequence number makes a new one,
  unless the directory cannot be listed, the five digits of the number have run
  out, or the year is not written with four.

  * `Keeps` -- no file loses a byte;
  * `Unused` -- the file that is about to be opened holds nothing, which is
    asked of a configured file and of the three exceptions only;
  * `keeps_create_iff` -- opening a file keeps every byte exactly then;
  * `keeps_reach` -- so does a run that opens such files, over all its
    recordings;
  * `keeps_single` -- a configured file, recorded to twice.
-/
import MavlinkServer.Tlog.Writer

namespace MavlinkServer.Tlog

open Lib Drivers

/-! ## 1. Disks that keep their bytes -/

/-- **Keeps**: what was in a file still is, and at its start. -/
def Keeps (disk disk' : Disk) : Prop := ∀ name, bytesAt disk name <+: bytesAt disk' name

variable {disk disk' disk'' : Disk} {name : FileName}

theorem Keeps.refl (disk : Disk) : Keeps disk disk := fun _ => List.prefix_refl _

theorem Keeps.trans (h : Keeps disk disk') (h' : Keeps disk' disk'') : Keeps disk disk'' :=
  fun name => (h name).trans (h' name)

theorem keeps_modify (disk : Disk) (name : FileName) (bytes : List UInt8) :
    Keeps disk (disk.modify name (· ++ bytes)) := by
  intro name'
  unfold bytesAt
  rw [IndexMap.get?_modify]
  by_cases h : name' = name
  · rw [if_pos h, h]
    cases disk.get? name with
    | none => exact List.prefix_refl _
    | some old => exact List.prefix_append old bytes
  · simp [h]

/-- Emptying a file keeps every byte when there are none in it. -/
theorem keeps_insert_iff : Keeps disk (disk.insert name []).2 ↔ bytesAt disk name = [] := by
  constructor
  · intro h
    have hname := h name
    unfold bytesAt at hname
    rw [IndexMap.get?_insert_self] at hname
    exact List.prefix_nil.mp hname
  · intro h name'
    by_cases hne : name' = name
    · rw [hne, h]
      exact List.nil_prefix
    · simp [bytesAt, IndexMap.get?_insert_of_ne hne]

/-! ## 2. The next number -/

variable {d : DigitClass}

/-- A number that the directory shows. -/
def Shown (d : DigitClass) (disk : Disk) (n : Nat) : Prop :=
  n ∈ (listing disk).filterMap d.sequence?

/-- The number behind the last one that the directory shows. -/
def Behind (d : DigitClass) (disk : Disk) (n : Nat) : Prop :=
  (∀ m, Shown d disk m → m < n) ∧ (n = 1 ∨ 0 < n ∧ Shown d disk (n - 1))

instance (d : DigitClass) (disk : Disk) (n : Nat) : Decidable (Shown d disk n) :=
  inferInstanceAs (Decidable (n ∈ (listing disk).filterMap d.sequence?))

theorem Shown.lt {n : Nat} (h : Shown d disk n) : n < d.getSequence (listing disk) :=
  Nat.lt_succ_of_le (le_foldr_max h)

/-- A log is shown when its number has five digits and its year four. -/
theorem shown_of_get? {n : Nat} {time : Timestamp} {bytes : List UInt8} (hn : n < 100000)
    (hyear : FourDigits time.year) (h : disk.get? (.named (logName n time)) = some bytes) :
    Shown d disk n := by
  have hlisted : some (logName n time) ∈ listing disk :=
    List.mem_map.mpr ⟨_, IndexMap.get?_eq_some.mp h, rfl⟩
  exact List.mem_filterMap.mpr ⟨_, hlisted, (sequence?_logName d n time).trans (if_pos ⟨hn, hyear⟩)⟩

/-- `get_sequence` gives that number, and no other is. -/
theorem behind_iff {n : Nat} : Behind d disk n ↔ n = d.getSequence (listing disk) := by
  constructor
  · rintro ⟨hpast, hlast⟩
    have hle : d.getSequence (listing disk) ≤ n := by
      have hpos : 0 < n := by
        rcases hlast with rfl | hlast
        · exact Nat.one_pos
        · exact hlast.1
      have hmax := foldr_max_le (n := n - 1) (l := (listing disk).filterMap d.sequence?)
        fun m hm => Nat.le_sub_one_of_lt (hpast m hm)
      unfold DigitClass.getSequence
      omega
    rcases hlast with rfl | ⟨hpos, hlast⟩
    · exact Nat.le_antisymm (Nat.succ_le_succ (Nat.zero_le _)) hle
    · have hlt := hlast.lt
      omega
  · rintro rfl
    refine ⟨fun m hm => hm.lt, ?_⟩
    unfold DigitClass.getSequence Shown
    rcases foldr_max_mem ((listing disk).filterMap d.sequence?) with hzero | hlast
    · exact Or.inl (congrArg (· + 1) hzero)
    · exact Or.inr ⟨Nat.succ_pos _, hlast⟩

/-- When the digits have run out the next number has six. -/
theorem getSequence_of_last (h : Shown d disk 99999) : d.getSequence (listing disk) = 100000 := by
  have hlt := h.lt
  have hle := getSequence_le_last d (listing disk)
  omega

/-- **The next log is new** as long as the digits have not run out and the year has four. -/
theorem get?_getSequence (h : ¬ Shown d disk 99999) {time : Timestamp}
    (hyear : FourDigits time.year) :
    disk.get? (.named (logName (d.getSequence (listing disk)) time)) = none := by
  have hfive : d.getSequence (listing disk) < 100000 := getSequence_lt fun name hmem hname =>
    h (List.mem_filterMap.mpr ⟨name, hmem, hname⟩)
  cases hget : disk.get? (.named (logName (d.getSequence (listing disk)) time)) with
  | none => rfl
  | some bytes => exact absurd (shown_of_get? hfive hyear hget).lt (Nat.lt_irrefl _)

/-! ## 3. Opening a file -/

/-- **Unused**: a configured file holds nothing; in a directory that cannot be listed there is
    nothing in the log with the number 0 and this time, in one that has come to 99999 nothing in the
    log with the number 100000 and this time, and in a year that is not written with four digits
    nothing in the log of this time with the number behind the last one shown. -/
def Unused (d : DigitClass) (path : TlogPath) (disk : Disk) (c : LogCreation) : Prop :=
  match path with
  | .file => c.opened = true → bytesAt disk .single = []
  | .directory => c.directory = true → c.opened = true →
      (c.listed = false → bytesAt disk (.named (logName 0 c.time)) = []) ∧
        (c.listed = true → Shown d disk 99999 →
          bytesAt disk (.named (logName 100000 c.time)) = []) ∧
        (c.listed = true → ¬ FourDigits c.time.year →
          ∀ n, Behind d disk n → bytesAt disk (.named (logName n c.time)) = [])

instance (d : DigitClass) (disk : Disk) (time : Timestamp) :
    Decidable (∀ n, Behind d disk n → bytesAt disk (.named (logName n time)) = []) :=
  decidable_of_iff (bytesAt disk (.named (logName (d.getSequence (listing disk)) time)) = [])
    ⟨fun h _ hn => behind_iff.mp hn ▸ h, fun h => h _ (behind_iff.mpr rfl)⟩

instance (d : DigitClass) (path : TlogPath) (disk : Disk) (c : LogCreation) :
    Decidable (Unused d path disk c) :=
  match path with
  | .file => inferInstanceAs (Decidable (c.opened = true → bytesAt disk .single = []))
  | .directory => inferInstanceAs (Decidable (c.directory = true → c.opened = true →
      (c.listed = false → bytesAt disk (.named (logName 0 c.time)) = []) ∧
        (c.listed = true → Shown d disk 99999 →
          bytesAt disk (.named (logName 100000 c.time)) = []) ∧
        (c.listed = true → ¬ FourDigits c.time.year →
          ∀ n, Behind d disk n → bytesAt disk (.named (logName n c.time)) = [])))

/-- In a directory: the log that is opened holds nothing exactly when it is unused. -/
theorem empty_tlogName_iff {c : LogCreation} (hdirectory : c.directory = true)
    (hopened : c.opened = true) :
    bytesAt disk (tlogName d .directory disk c) = [] ↔ Unused d .directory disk c := by
  unfold tlogName Unused DigitClass.nextSequence
  simp only [hdirectory, hopened, true_imp_iff]
  cases hlisted : c.listed with
  | false => simp
  | true =>
      simp only [if_true, reduceCtorEq, false_imp_iff, true_and, true_imp_iff]
      constructor
      · intro hempty
        refine ⟨fun hlast => getSequence_of_last hlast ▸ hempty, fun _ n hn => ?_⟩
        rw [behind_iff.mp hn]
        exact hempty
      · rintro ⟨hsix, hsigned⟩
        by_cases hlast : Shown d disk 99999
        · rw [getSequence_of_last hlast]
          exact hsix hlast
        · by_cases hyear : FourDigits c.time.year
          · unfold bytesAt
            rw [get?_getSequence hlast hyear]
            rfl
          · exact hsigned hyear _ (behind_iff.mpr rfl)

/-- **Opening a file keeps every byte exactly when the file is unused.** -/
theorem keeps_create_iff {path : TlogPath} {c : LogCreation}
    (h : createTlogFile d path disk c = some (name, disk')) :
    Keeps disk disk' ↔ Unused d path disk c := by
  obtain ⟨hdirectory, hopened, rfl, rfl⟩ := createTlogFile_some h
  rw [keeps_insert_iff]
  cases path with
  | file => exact ⟨fun hempty _ => hempty, fun hunused => hunused hopened⟩
  | directory => exact empty_tlogName_iff (hdirectory rfl) hopened

/-! ## 4. Recordings one after the other -/

/-- Every file that is opened is unused. -/
def OpensUnused (d : DigitClass) (config : WriterConfig) (s : Writer) : WriterAction → Prop
  | .create c => Unused d config.path s.disk c
  | _ => True

instance (d : DigitClass) (config : WriterConfig) (s : Writer) :
    ∀ a, Decidable (OpensUnused d config s a)
  | .create c => inferInstanceAs (Decidable (Unused d config.path s.disk c))
  | .send _ | .start | .hear | .hearFails | .subscribe | .take | .lag _ | .write .. | .close
  | .restart _ => .isTrue trivial

theorem keeps_step {config : WriterConfig} {s s' : Writer} {a : WriterAction}
    (hC : OpensUnused d config s a) (h : s.step d config a = some s') : Keeps s.disk s'.disk := by
  cases a with
  | send message => cases h; exact Keeps.refl _
  | restart systemId => cases h; exact Keeps.refl _
  | create c =>
      simp only [Writer.step] at h
      split at h
      · split at h
        · rename_i file disk hcreate
          cases h
          exact (keeps_create_iff hcreate).mpr hC
        · cases h
          exact Keeps.refl _
      · cases h
  | write results now written =>
      simp only [Writer.step] at h
      split at h
      · split at h
        · cases h
          exact Keeps.refl _
        · split at h
          · cases h
            exact keeps_modify _ _ _
          · split at h <;> cases h <;> exact keeps_modify _ _ _
      · cases h
  | start | hear | hearFails | subscribe | take | lag count | close =>
      have hdisk : s'.disk = s.disk := by
        simp only [Writer.step] at h
        repeat' split at h
        all_goals cases h <;> rfl
      rw [hdisk]
      exact Keeps.refl _

/-- **Recorded flights are kept**: from any state of a run, over all recordings that follow, as long
    as every file that is opened is unused. -/
theorem keeps_reach (d : DigitClass) (config : WriterConfig) {s s' : Writer}
    (h : Reach (Writer.step d config) (OpensUnused d config) s s') : Keeps s.disk s'.disk :=
  h.inv (I := fun s' => Keeps s.disk s'.disk) (Keeps.refl _)
    fun _ _ _ hkeeps hC hstep => hkeeps.trans (keeps_step hC hstep)

def heartbeat : Protocol := ⟨"/dev/ttyACM0", 0, heartbeatPacket⟩

/-- A directory with one recording, before the next one. -/
def oneFlight : Writer where
  log := []
  systemId := none
  armed := false
  phase := .ready
  disk := (IndexMap.empty.insert (.named (logName 1 noon)) (Writer.recordBytes 0 heartbeat)).2
  recorded := []

/-- The next recording of the same second has the next number. -/
theorem keeps_reach_directory : ∃ s, Reach (Writer.step asciiDigits ⟨.directory, .always⟩)
    (OpensUnused asciiDigits ⟨.directory, .always⟩) oneFlight s ∧ Keeps oneFlight.disk s.disk ∧
      bytesAt s.disk (.named (logName 2 noon)) = Writer.recordBytes 7 heartbeat := by
  obtain ⟨s, hreach, hbytes⟩ : ∃ s, Reach (Writer.step asciiDigits ⟨.directory, .always⟩)
      (OpensUnused asciiDigits ⟨.directory, .always⟩) oneFlight s ∧
        bytesAt s.disk (.named (logName 2 noon)) = Writer.recordBytes 7 heartbeat :=
    exists_of_execC [.start, .create ⟨true, true, noon, true⟩, .subscribe, .send heartbeat, .take,
      .write [.ok] 7 (.ok ())] (by decide +kernel)
  exact ⟨s, hreach, keeps_reach asciiDigits ⟨.directory, .always⟩ hreach, hbytes⟩

/-- **Overwritten**: after an error of writing the configured file is opened again, and is empty. -/
theorem keeps_single : ∃ s s',
    Reach (Writer.step asciiDigits ⟨.file, .always⟩) Free (.new none .empty) s ∧
      Reach (Writer.step asciiDigits ⟨.file, .always⟩) Free s s' ∧ ¬ Keeps s.disk s'.disk := by
  obtain ⟨s, hreach, hphase, hbytes⟩ : ∃ s,
      Reach (Writer.step asciiDigits ⟨.file, .always⟩) Free (.new none .empty) s ∧
        (s.phase = .creating ∧ bytesAt s.disk .single ≠ []) :=
    exists_of_execC [.start, .create ⟨true, true, noon, true⟩, .subscribe, .send heartbeat,
      .send heartbeat, .take, .write [] 5 (.ok ()), .take, .write [] 6 (.error 0), .start]
      (by decide +kernel)
  have hcreate : s.step asciiDigits ⟨.file, .always⟩ (.create ⟨true, true, noon, true⟩) =
      some { s with phase := .opened .single, disk := (s.disk.insert .single []).2 } := by
    simp only [Writer.step, hphase, if_true]
    rfl
  exact ⟨s, _, hreach, .next _ _ (.create ⟨true, true, noon, true⟩) .start trivial hcreate,
    fun hkeeps => hbytes (keeps_insert_iff.mp hkeeps)⟩

end MavlinkServer.Tlog
