/-
  File:      MavlinkServer/Tlog/Restart.lean
  Subject:   A LOG UNDER THE HUB'S RUNNER (`TlogReader::run` in
             `src/lib/drivers/tlog/reader.rs`, the task that `add_driver` spawns
             in `src/lib/hub/actor.rs`).

  The runner runs a driver again as long as it ends with an error, and the
  reader's loop has no other end.

  * `Runner`, `step` -- opening the file, the turns of the loop, the second
    that the runner sleeps;
  * `PlaysOnce` -- in every run each message of the file is sent once at most;
  * `playsOnce_iff` -- exactly when the file holds nothing to play; and the
    runner never ends;
  * `playsOnce_twice` -- a log with one heartbeat, played twice.
-/
import MavlinkServer.Lib.Run
import MavlinkServer.Tlog.Replay

namespace MavlinkServer.Tlog

open Lib Drivers

/-! ## 1. The runner -/

inductive RunnerPhase where
  /-- `driver.run` is called, and opens the file -/
  | starting
  | reading (r : PeekReader)
  /-- "Driver runner ended with error. Restarting in 1 second..." -/
  | sleeping
  /-- "Driver runner ended." -/
  | ended
  deriving DecidableEq, Repr

structure Runner where
  phase : RunnerPhase
  /-- what went into the hub, over all runs of the driver -/
  sent : List Played
  deriving DecidableEq, Repr

inductive RunnerAction where
  | openFile (result : Except MessageReadError Unit)
  /-- the loop's next turn, with the callbacks' results for a message it plays -/
  | turn (results : List CallbackResult)
  | wake
  deriving DecidableEq, Repr

namespace Runner

def start : Runner := ⟨.starting, []⟩

/-- `while let Err(error) = driver.run(..).await`. -/
def afterRun : Except MessageReadError Unit → RunnerPhase
  | .ok () => .ended
  | .error _ => .sleeping

def step (m : MavlinkReader) (path : String) (file : List UInt8) (s : Runner) :
    RunnerAction → Option Runner
  | .openFile result =>
      if s.phase = .starting then
        match result with
        | .ok () => some { s with phase := .reading (.new file) }
        | .error e => some { s with phase := afterRun (.error e) }
      else none
  | .turn results =>
      match s.phase with
      | .reading r =>
          match fileStep m path r with
          | .failed e => some { s with phase := afterRun (.error e) }
          | .goesOn r => some { s with phase := .reading r }
          | .plays p r =>
              some ⟨.reading r, s.sent ++ if vetoed results then [] else [p]⟩
      | _ => none
  | .wake => if s.phase = .sleeping then some { s with phase := .starting } else none

end Runner

variable {m : MavlinkReader} {path : String} {file : List UInt8}

/-- **Plays once**: in every run no frame of the file is sent twice. -/
def PlaysOnce (m : MavlinkReader) (path : String) (file : List UInt8) : Prop :=
  ∀ s, Reach (Runner.step m path file) Free .start s → (s.sent.map (·.offset)).Nodup

/-! ## 2. A file with something to play -/

/-- The turns of the loop, with callbacks that accept, play what the loop plays. -/
theorem turns_reach : ∀ (fuel : Nat) (r : PeekReader) (sent : List Played),
    (handleFile m path fuel r).2 = .failed .io →
      Reach (Runner.step m path file) Free ⟨.reading r, sent⟩
        ⟨.sleeping, sent ++ (handleFile m path fuel r).1⟩ := by
  intro fuel
  induction fuel with
  | zero => nofun
  | succ fuel ih =>
      intro r sent h
      unfold handleFile at h ⊢
      cases hstep : fileStep m path r with
      | failed e =>
          have hturn : Runner.step m path file ⟨.reading r, sent⟩ (.turn []) =
              some ⟨.sleeping, sent⟩ := by
            simp only [Runner.step, hstep, Runner.afterRun]
          rw [List.append_nil]
          exact .next _ _ (.turn []) .start trivial hturn
      | goesOn r' =>
          rw [hstep] at h
          have hturn : Runner.step m path file ⟨.reading r, sent⟩ (.turn []) =
              some ⟨.reading r', sent⟩ := by
            simp only [Runner.step, hstep]
          exact .before (a := .turn []) trivial hturn (ih r' sent h)
      | plays p r' =>
          rw [hstep] at h
          have hturn : Runner.step m path file ⟨.reading r, sent⟩ (.turn []) =
              some ⟨.reading r', sent ++ [p]⟩ := by
            simp only [Runner.step, hstep]
            rfl
          have hrest := ih r' (sent ++ [p]) h
          rw [List.append_assoc] at hrest
          exact .before (a := .turn []) trivial hturn hrest

/-- **Around once**: the file is opened, played to its end, and opened again. -/
theorem around_reach (m : MavlinkReader) (path : String) (file : List UInt8) (sent : List Played) :
    Reach (Runner.step m path file) Free ⟨.starting, sent⟩
      ⟨.starting, sent ++ (playFile m path file).1⟩ := by
  have hturns : Reach (Runner.step m path file) Free ⟨.reading (.new file), sent⟩
      ⟨.sleeping, sent ++ (playFile m path file).1⟩ :=
    turns_reach (file.length + 1) (.new file) sent (playFile_fails file)
  exact .next _ _ .wake (.before (a := .openFile (.ok ())) trivial rfl hturns) trivial rfl

theorem silent_of_playsOnce (h : PlaysOnce m path file) : Silent m file := by
  have htwice := (around_reach m path file []).trans (around_reach m path file _)
  have hnodup := h _ htwice
  rw [← (playFile_replays m path file).eq_nil_iff]
  rw [List.nil_append, List.map_append] at hnodup
  cases hplayed : (playFile m path file).1 with
  | nil => rfl
  | cons p played =>
      rw [hplayed] at hnodup
      have hdisjoint := (List.nodup_append.mp hnodup).2.2
      exact absurd rfl (hdisjoint p.offset List.mem_cons_self p.offset List.mem_cons_self)

/-! ## 3. A file with nothing to play -/

/-- With more fuel the loop plays more. -/
theorem handleFile_prefix (fuel more : Nat) (r : PeekReader) :
    (handleFile m path fuel r).1 <+: (handleFile m path (fuel + more) r).1 := by
  induction fuel generalizing r with
  | zero => exact List.nil_prefix
  | succ fuel ih =>
      rw [Nat.add_right_comm]
      unfold handleFile
      cases fileStep m path r with
      | failed e => exact List.prefix_refl _
      | goesOn r' => exact ih r'
      | plays p r' => exact (List.prefix_cons_inj p).mpr (ih r')

/-- With any fuel the loop plays nothing of a silent file. -/
theorem handleFile_silent (h : Silent m file) (fuel : Nat) :
    (handleFile m path fuel (.new file)).1 = [] := by
  have hlong : (PeekReader.new file).bytes.length < fuel + (file.length + 1) := by
    show file.length < _
    omega
  have hprefix : (handleFile m path fuel (.new file)).1 <+:
      (handleFile m path (fuel + (file.length + 1)) (.new file)).1 := handleFile_prefix ..
  rw [(handleFile_replays _ _ hlong).1.eq_nil_iff.mpr h] at hprefix
  exact List.prefix_nil.mp hprefix

/-- Nothing was sent, and nothing will be. -/
structure Idle (m : MavlinkReader) (path : String) (s : Runner) : Prop where
  sent : s.sent = []
  reading : ∀ r, s.phase = .reading r → ∀ fuel, (handleFile m path fuel r).1 = []

theorem idle_step (hsilent : Silent m file) {s s' : Runner} {a : RunnerAction}
    (hs : Idle m path s) (h : s.step m path file a = some s') : Idle m path s' := by
  cases a with
  | openFile result =>
      simp only [Runner.step] at h
      split at h
      · split at h
        · cases h
          refine ⟨hs.sent, fun r hr fuel => ?_⟩
          cases hr
          exact handleFile_silent hsilent fuel
        · cases h
          exact ⟨hs.sent, nofun⟩
      · cases h
  | turn results =>
      simp only [Runner.step] at h
      split at h
      · rename_i r hr
        have hnothing := hs.reading r hr
        split at h
        · cases h
          exact ⟨hs.sent, nofun⟩
        · rename_i r' hstep
          cases h
          refine ⟨hs.sent, fun r1 hr1 fuel => ?_⟩
          cases hr1
          have hmore := hnothing (fuel + 1)
          rw [handleFile, hstep] at hmore
          exact hmore
        · rename_i p r' hstep
          have hone := hnothing 1
          rw [handleFile, hstep] at hone
          cases hone
      · cases h
  | wake =>
      simp only [Runner.step] at h
      split at h
      · cases h
        exact ⟨hs.sent, nofun⟩
      · cases h

theorem playsOnce_of_silent (hsilent : Silent m file) : PlaysOnce m path file := by
  intro s h
  have hidle : Idle m path s :=
    h.inv ⟨rfl, nofun⟩ fun _ _ _ hs _ hstep => idle_step hsilent hs hstep
  rw [hidle.sent]
  exact List.nodup_nil

/-! ## 4. Once -/

theorem afterRun_error (e : MessageReadError) : Runner.afterRun (.error e) = .sleeping := rfl

/-- **The runner never ends**: the loop only fails, and the runner runs the driver again. -/
theorem never_ended {s : Runner} (h : Reach (Runner.step m path file) Free .start s) :
    s.phase ≠ .ended := by
  have hstart : RunnerPhase.starting ≠ .ended := nofun
  refine h.inv (I := fun s => s.phase ≠ .ended) hstart fun s s' a hs _ hstep => ?_
  cases a with
  | openFile result =>
      simp only [Runner.step, afterRun_error] at hstep
      split at hstep
      · split at hstep <;> cases hstep <;> nofun
      · cases hstep
  | turn results =>
      simp only [Runner.step, afterRun_error] at hstep
      split at hstep
      · split at hstep <;> cases hstep <;> nofun
      · cases hstep
  | wake =>
      simp only [Runner.step] at hstep
      split at hstep
      · cases hstep
        nofun
      · cases hstep

/-- **A log is played once exactly when there is nothing to play in it**, and its end never ends the
    driver. -/
theorem playsOnce_iff (m : MavlinkReader) (path : String) (file : List UInt8) :
    (PlaysOnce m path file ↔ Silent m file) ∧
      ∀ s, Reach (Runner.step m path file) Free .start s → s.phase ≠ .ended :=
  ⟨⟨silent_of_playsOnce, playsOnce_of_silent⟩, fun _ h => never_ended h⟩

/-- **Played twice**: the log of one heartbeat is at its end, and is opened again. -/
theorem playsOnce_twice :
    ¬ PlaysOnce heartbeatReader "/logs/00001.tlog" (tlogFile [nextHeartbeat]) := by
  intro honce
  obtain ⟨s, hreach, htwice⟩ : ∃ s, Reach (Runner.step heartbeatReader "/logs/00001.tlog"
      (tlogFile [nextHeartbeat])) Free .start s ∧ s.sent.map (·.offset) = [8, 8] :=
    exists_of_execC [.openFile (.ok ()), .turn [], .turn [], .wake, .openFile (.ok ()), .turn []]
      (by decide +kernel)
  have hnodup := honce s hreach
  rw [htwice] at hnodup
  exact absurd hnodup (by decide)

end MavlinkServer.Tlog
