/-
  File:      MavlinkServer/Tlog/Armed.lean
  Subject:   RECORDING WHILE ARMED (`wait_for_arm`, `handle_client` and `run` in
             `src/lib/drivers/tlog/writer.rs`, in the mode `WhileArmed`).

  The vehicle is seen to be armed by one subscription to the hub, and recorded
  by another that starts when the file has been made; that it disarms is seen
  only behind the callbacks.

  * `lastArm` -- the last heartbeat of the expected vehicle in what the hub has
    broadcast;
  * `RecordsArmed` -- whatever else is in the files came after an armed one;
  * `Guarded` -- the vehicle is still armed when the recording subscribes, and
    no callback refuses a heartbeat that disarms it;
  * `recordsArmed_reach` -- so in every guarded run;
  * `recordsArmed_gap` -- a vehicle that disarms while the file is made.
-/
import MavlinkServer.Tlog.Overwrite

namespace MavlinkServer.Tlog

open Lib Drivers

/-! ## 1. Armed -/

/-- The last heartbeat of the expected vehicle. -/
def lastArm (systemId : Option UInt8) (componentId : UInt8) (log : List Protocol) :
    Option ArmState :=
  (log.filterMap (heartbeatOf systemId componentId)).getLast?

/-- **Records armed**: the last heartbeat of the expected vehicle before a message in a file, which
    is none itself, was armed. -/
def RecordsArmed (componentId : UInt8) (s : Writer) : Prop :=
  ∀ r ∈ s.recorded, heartbeatOf r.systemId componentId r.message = none →
    lastArm r.systemId componentId (s.log.take r.index) = some .armed

instance (componentId : UInt8) (s : Writer) : Decidable (RecordsArmed componentId s) :=
  inferInstanceAs (Decidable (∀ r ∈ s.recorded, heartbeatOf r.systemId componentId r.message = none →
    lastArm r.systemId componentId (s.log.take r.index) = some .armed))

/-- The message that is to be recorded. -/
def Writer.taken? (s : Writer) : Option Protocol :=
  match s.phase with
  | .taken _ _ message => some message
  | _ => none

/-- The recording subscribes while the vehicle is armed, no callback refuses a heartbeat that disarms
    it, and the receiver does not lag. -/
def Guarded (componentId : UInt8) (s : Writer) : WriterAction → Prop
  | .subscribe => lastArm s.systemId componentId s.log = some .armed
  | .write results _ _ => ∀ message ∈ s.taken?,
      heartbeatOf s.systemId componentId message = some .disarmed → vetoed results = false
  | .lag _ => False
  | _ => True

section LastArm

variable {systemId : Option UInt8} {componentId : UInt8} {log : List Protocol} {m : Protocol}

theorem lastArm_other (h : heartbeatOf systemId componentId m = none) :
    lastArm systemId componentId (log ++ [m]) = lastArm systemId componentId log := by
  have hnone : [m].filterMap (heartbeatOf systemId componentId) = [] := by
    rw [List.filterMap_cons_none h]
    rfl
  unfold lastArm
  rw [List.filterMap_append, hnone, List.append_nil]

theorem lastArm_heartbeat {state : ArmState} (h : heartbeatOf systemId componentId m = some state) :
    lastArm systemId componentId (log ++ [m]) = some state := by
  have hone : [m].filterMap (heartbeatOf systemId componentId) = [state] := by
    rw [List.filterMap_cons_some h]
    rfl
  unfold lastArm
  rw [List.filterMap_append, hone, List.getLast?_concat]

end LastArm

/-! ## 2. Guarded runs -/

/-- What has been broadcast up to a message that was received. -/
theorem take_recv {log : List Protocol} {r r' : Receiver} {m : Protocol}
    (h : r.recv? log = some (m, r')) :
    r'.next = r.next + 1 ∧ r'.next ≤ log.length ∧ log.take r'.next = log.take r.next ++ [m] := by
  obtain ⟨hm, rfl⟩ := Receiver.recv?_eq_some.mp h
  have hlt := (List.getElem?_eq_some_iff.mp hm).1
  refine ⟨rfl, hlt, ?_⟩
  show log.take (r.next + 1) = _
  rw [List.take_add_one, hm, Option.toList_some]

/-- **Watched**: what is recorded, and the recording itself, stand behind an armed heartbeat. -/
structure Watched (componentId : UInt8) (s : Writer) : Prop where
  recorded : RecordsArmed componentId s
  within : ∀ r ∈ s.recorded, r.index ≤ s.log.length
  recording : ∀ file receiver, s.phase = .recording file receiver →
    receiver.next ≤ s.log.length ∧
      lastArm s.systemId componentId (s.log.take receiver.next) = some .armed
  taken : ∀ file receiver message, s.phase = .taken file receiver message →
    receiver.next ≤ s.log.length ∧
      s.log.take receiver.next = s.log.take (receiver.next - 1) ++ [message] ∧
      lastArm s.systemId componentId (s.log.take (receiver.next - 1)) = some .armed

section Steps

variable {d : DigitClass} {config : WriterConfig} {componentId : UInt8} {s s' : Writer}

/-- A step that neither records nor broadcasts, into a phase without a message to record. -/
theorem Watched.quiet (h : Watched componentId s) (hlog : s'.log = s.log)
    (hrecorded : s'.recorded = s.recorded)
    (hphase : (∀ file receiver, s'.phase ≠ .recording file receiver) ∧
      ∀ file receiver message, s'.phase ≠ .taken file receiver message) :
    Watched componentId s' where
  recorded := by
    intro r hr
    rw [hlog]
    exact h.recorded r (hrecorded ▸ hr)
  within := by
    intro r hr
    rw [hlog]
    exact h.within r (hrecorded ▸ hr)
  recording := fun file receiver hr => absurd hr (hphase.1 file receiver)
  taken := fun file receiver message ht => absurd ht (hphase.2 file receiver message)

/-- More messages change nothing of what came before. -/
theorem Watched.send (h : Watched componentId s) (m : Protocol) :
    Watched componentId { s with log := s.log ++ [m] } := by
  have hle : ∀ {n : Nat}, n ≤ s.log.length → (s.log ++ [m]).take n = s.log.take n :=
    fun hn => List.take_append_of_le_length hn
  have hlen : ∀ {n : Nat}, n ≤ s.log.length → n ≤ (s.log ++ [m]).length := fun hn => by
    rw [List.length_append]
    omega
  constructor
  · intro r hr
    show _ → lastArm _ _ ((s.log ++ [m]).take r.index) = _
    rw [hle (h.within r hr)]
    exact h.recorded r hr
  · exact fun r hr => hlen (h.within r hr)
  · intro file receiver hr
    obtain ⟨hn, harm⟩ := h.recording file receiver hr
    refine ⟨hlen hn, ?_⟩
    show lastArm _ _ ((s.log ++ [m]).take receiver.next) = _
    rw [hle hn]
    exact harm
  · intro file receiver message ht
    obtain ⟨hn, htake, harm⟩ := h.taken file receiver message ht
    refine ⟨hlen hn, ?_, ?_⟩
    · show (s.log ++ [m]).take receiver.next = (s.log ++ [m]).take (receiver.next - 1) ++ _
      rw [hle hn, hle (by omega)]
      exact htake
    · show lastArm _ _ ((s.log ++ [m]).take (receiver.next - 1)) = _
      rw [hle (by omega)]
      exact harm

/-- Writing a message: it stands behind an armed heartbeat, if it is none itself. -/
theorem Watched.put (h : Watched componentId s) {file : FileName} {receiver : Receiver}
    {message : Protocol} (ht : s.phase = .taken file receiver message) (bytes : List UInt8) :
    RecordsArmed componentId (s.put file receiver message bytes) ∧
      ∀ r ∈ (s.put file receiver message bytes).recorded, r.index ≤ s.log.length := by
  obtain ⟨hn, _, harm⟩ := h.taken file receiver message ht
  constructor
  · intro r hr
    rcases List.mem_append.mp hr with hr | hr
    · exact h.recorded r hr
    · obtain rfl := List.mem_singleton.mp hr
      exact fun _ => harm
  · intro r hr
    rcases List.mem_append.mp hr with hr | hr
    · exact h.within r hr
    · obtain rfl := List.mem_singleton.mp hr
      show receiver.next - 1 ≤ _
      omega

theorem watched_take {path : TlogPath} (h : Watched componentId s)
    (hstep : s.step d ⟨path, .whileArmed componentId⟩ .take = some s') : Watched componentId s' := by
  simp only [Writer.step] at hstep
  split at hstep
  · rename_i file receiver hphase
    split at hstep
    · cases hstep
    · rename_i message receiver' hrecv
      cases hstep
      refine ⟨h.recorded, h.within, by rintro _ _ ⟨⟩, fun file' receiver1 message' ht => ?_⟩
      cases ht
      obtain ⟨hnext, hle, htake⟩ := take_recv hrecv
      have hprev : receiver'.next - 1 = receiver.next := by omega
      rw [hprev]
      exact ⟨hle, htake, (h.recording file receiver hphase).2⟩
  · cases hstep

/-- Behind a message that does not end the recording the vehicle is still armed. -/
theorem watched_write {path : TlogPath} {results : List CallbackResult} {now : UInt64}
    {written : Except Nat Unit} (h : Watched componentId s)
    (hC : Guarded componentId s (.write results now written))
    (hstep : s.step d ⟨path, .whileArmed componentId⟩ (.write results now written) = some s') :
    Watched componentId s' := by
  simp only [Writer.step] at hstep
  split at hstep
  · rename_i file receiver message hphase
    obtain ⟨hn, htake, harm⟩ := h.taken file receiver message hphase
    -- unless the message disarms the vehicle, it is still armed behind it
    have hstill : heartbeatOf s.systemId componentId message ≠ some .disarmed →
        lastArm s.systemId componentId (s.log.take receiver.next) = some .armed := by
      intro hne
      rw [htake]
      cases hm : heartbeatOf s.systemId componentId message with
      | none =>
          rw [lastArm_other hm]
          exact harm
      | some state =>
          rw [lastArm_heartbeat hm]
          cases state with
          | armed => rfl
          | disarmed => exact absurd hm hne
    split at hstep
    · rename_i hvetoed
      cases hstep
      refine ⟨h.recorded, h.within, fun file' receiver' hr => ?_, by rintro _ _ _ ⟨⟩⟩
      cases hr
      refine ⟨hn, hstill fun hm => ?_⟩
      have htaken : message ∈ s.taken? := by
        unfold Writer.taken?
        rw [hphase]
        rfl
      rw [hC message htaken hm] at hvetoed
      cases hvetoed
    · split at hstep
      · rename_i count
        cases hstep
        have hput := h.put hphase ((Writer.recordBytes now message).take count)
        exact ⟨hput.1, hput.2, by rintro _ _ ⟨⟩, by rintro _ _ _ ⟨⟩⟩
      · have hput := h.put hphase (Writer.recordBytes now message)
        split at hstep
        · cases hstep
          exact ⟨hput.1, hput.2, by rintro _ _ ⟨⟩, by rintro _ _ _ ⟨⟩⟩
        · rename_i hgoes
          cases hstep
          refine ⟨hput.1, hput.2, fun file' receiver' hr => ?_, by rintro _ _ _ ⟨⟩⟩
          cases hr
          refine ⟨hn, hstill fun hm => ?_⟩
          exact hgoes (decide_eq_true hm)
  · cases hstep

theorem watched_step {path : TlogPath} {a : WriterAction} (h : Watched componentId s)
    (hC : Guarded componentId s a) (hstep : s.step d ⟨path, .whileArmed componentId⟩ a = some s') :
    Watched componentId s' := by
  cases a with
  | send message =>
      cases hstep
      exact h.send message
  | restart systemId =>
      cases hstep
      exact h.quiet rfl rfl ⟨by rintro _ _ ⟨⟩, by rintro _ _ _ ⟨⟩⟩
  | start | hear | hearFails | create c | close =>
      simp only [Writer.step] at hstep
      repeat' split at hstep
      all_goals cases hstep <;> exact h.quiet rfl rfl ⟨by rintro _ _ ⟨⟩, by rintro _ _ _ ⟨⟩⟩
  | lag count => exact hC.elim
  | subscribe =>
      simp only [Writer.step] at hstep
      split at hstep
      · cases hstep
        refine ⟨h.recorded, h.within, fun file receiver hr => ?_, by rintro _ _ _ ⟨⟩⟩
        cases hr
        refine ⟨Nat.le_refl _, ?_⟩
        show lastArm _ _ (s.log.take s.log.length) = _
        rw [List.take_length]
        exact hC
      · cases hstep
  | take => exact watched_take h hstep
  | write results now written => exact watched_write h hC hstep

end Steps

/-- **In every guarded run what is recorded was broadcast while the vehicle was armed**, heartbeats
    of the vehicle apart. -/
theorem recordsArmed_reach {d : DigitClass} (path : TlogPath) (componentId : UInt8)
    {systemId : Option UInt8} {disk : Disk} {s : Writer}
    (h : Reach (Writer.step d ⟨path, .whileArmed componentId⟩) (Guarded componentId)
      (.new systemId disk) s) : RecordsArmed componentId s := by
  have hnew : Watched componentId (.new systemId disk) :=
    ⟨fun _ hr => absurd hr List.not_mem_nil, fun _ hr => absurd hr List.not_mem_nil, nofun, nofun⟩
  exact (h.inv hnew fun _ _ _ hs hC hstep => watched_step hs hC hstep).recorded

instance (componentId : UInt8) (s : Writer) : ∀ a, Decidable (Guarded componentId s a)
  | .subscribe => inferInstanceAs (Decidable (lastArm s.systemId componentId s.log = some .armed))
  | .write results _ _ => inferInstanceAs (Decidable (∀ message ∈ s.taken?,
      heartbeatOf s.systemId componentId message = some .disarmed → vetoed results = false))
  | .lag _ => .isFalse id
  | .send _ | .start | .hear | .hearFails | .create _ | .take | .close | .restart _ =>
      .isTrue trivial

/-- A heartbeat of the autopilot of system 1, armed. -/
def armedHeartbeat : Protocol where
  origin := "/dev/ttyACM0"
  timestamp := 0
  packet :=
    { heartbeatPacket with
      bytes := [0xFD, 9, 0, 0, 0, 1, 1, 0, 0, 0, 0, 0, 0, 0, 2, 3, 209, 4, 3, 137, 51]
      payload := [0, 0, 0, 0, 2, 3, 209, 4, 3] }

/-- A position of it. -/
def position : Protocol where
  origin := "/dev/ttyACM0"
  timestamp := 0
  packet :=
    { bytes := [0xFD, 1, 0, 0, 1, 1, 1, 33, 0, 0, 0, 96, 59]
      systemId := 1
      componentId := 1
      messageId := 33
      payload := [0] }

/-- An armed vehicle, its position, and its last heartbeat. -/
theorem recordsArmed_reach_flight : ∃ s, RecordsArmed 1 s ∧
    s.recorded.map (·.message) = [position, heartbeat] ∧ s.phase = .ready := by
  obtain ⟨s, hreach, hflight⟩ : ∃ s,
      Reach (Writer.step asciiDigits ⟨.directory, .whileArmed 1⟩) (Guarded 1) (.new none .empty) s ∧
        (s.recorded.map (·.message) = [position, heartbeat] ∧ s.phase = .ready) :=
    exists_of_execC [.start, .send armedHeartbeat, .hear, .create ⟨true, true, noon, true⟩, .subscribe,
      .send position, .take, .write [] 5 (.ok ()), .send heartbeat, .take, .write [] 6 (.ok ())]
      (by decide +kernel)
  exact ⟨s, recordsArmed_reach .directory 1 hreach, hflight⟩

/-- No receiver lags. -/
def NoLag (_ : Writer) : WriterAction → Prop
  | .lag _ => False
  | _ => True

instance (s : Writer) : ∀ a, Decidable (NoLag s a)
  | .lag _ => .isFalse id
  | .send _ | .start | .hear | .hearFails | .create _ | .subscribe | .take | .write .. | .close
  | .restart _ => .isTrue trivial

/-- **The gap**: the vehicle disarms while its file is made, and is recorded. -/
theorem recordsArmed_gap : ∃ s, Reach (Writer.step asciiDigits ⟨.directory, .whileArmed 1⟩) NoLag
    (.new none .empty) s ∧ ¬ RecordsArmed 1 s :=
  exists_of_execC [.start, .send armedHeartbeat, .hear, .create ⟨true, true, noon, true⟩,
    .send heartbeat, .subscribe, .send position, .take, .write [] 5 (.ok ())] (by decide +kernel)

/-! ## 3. The expected system -/

/-- The system is known, or the writer has not got beyond waiting for it. -/
def Known (s : Writer) : Prop :=
  s.systemId.isSome = true ∨ s.armed = false ∧ (s.phase = .ready ∨ ∃ r, s.phase = .waiting r)

theorem known_of_phase {s : Writer} (h : Known s) (hready : s.phase ≠ .ready)
    (hwaiting : ∀ r, s.phase ≠ .waiting r) : s.systemId.isSome = true := by
  rcases h with h | ⟨_, h | ⟨r, h⟩⟩
  · exact h
  · exact absurd h hready
  · exact absurd h (hwaiting r)

theorem known_step {d : DigitClass} {path : TlogPath} {componentId : UInt8} {s s' : Writer}
    {a : WriterAction} (h : Known s)
    (hstep : s.step d ⟨path, .whileArmed componentId⟩ a = some s') : Known s' := by
  cases a with
  | send message =>
      cases hstep
      exact h
  | restart systemId =>
      cases hstep
      exact .inr ⟨rfl, .inl rfl⟩
  | start =>
      simp only [Writer.step] at hstep
      split at hstep
      · cases harmed : s.armed with
        | false =>
            rw [harmed] at hstep
            cases hstep
            exact .inr ⟨rfl, .inr ⟨_, rfl⟩⟩
        | true =>
            rw [harmed] at hstep
            cases hstep
            rcases h with h | ⟨hfalse, _⟩
            · exact .inl h
            · rw [harmed] at hfalse
              cases hfalse
      · cases hstep
  | hear =>
      simp only [Writer.step] at hstep
      split at hstep
      · rename_i r componentId' hphase _
        split at hstep
        · cases hstep
        · split at hstep
          · cases hstep
            exact .inl rfl
          · cases hstep
            rcases h with h | ⟨hfalse, _⟩
            · exact .inl h
            · exact .inr ⟨hfalse, .inr ⟨_, rfl⟩⟩
      · cases hstep
  | hearFails =>
      simp only [Writer.step] at hstep
      split at hstep
      · cases hstep
        rcases h with h | ⟨hfalse, _⟩
        · exact .inl h
        · exact .inr ⟨hfalse, .inl rfl⟩
      · cases hstep
  | create c =>
      simp only [Writer.step] at hstep
      split at hstep
      · rename_i hphase
        have hknown := known_of_phase h (by simp [hphase]) (by simp [hphase])
        split at hstep
        · cases hstep
          exact .inl hknown
        · cases hstep
          exact .inl hknown
      · cases hstep
  | subscribe | take | lag count | close =>
      simp only [Writer.step] at hstep
      split at hstep
      · rename_i hphase
        have hknown := known_of_phase h (by simp [hphase]) (by simp [hphase])
        repeat' split at hstep
        all_goals cases hstep <;> exact .inl hknown
      · cases hstep
  | write results now written =>
      simp only [Writer.step] at hstep
      split at hstep
      · rename_i hphase
        have hknown := known_of_phase h (by simp [hphase]) (by simp [hphase])
        repeat' split at hstep
        all_goals cases hstep
        all_goals exact .inl hknown
      · cases hstep

/-- **The `expect` of `handle_client` never fails**: in this mode the system is known when a message
    is received to be recorded. -/
theorem systemId_known {d : DigitClass} (path : TlogPath) (componentId : UInt8)
    {systemId : Option UInt8} {disk : Disk} {s : Writer}
    (h : Reach (Writer.step d ⟨path, .whileArmed componentId⟩) Free (.new systemId disk) s)
    {file : FileName} {receiver : Receiver} {message : Protocol}
    (ht : s.phase = .taken file receiver message) : s.systemId.isSome = true := by
  have hknown : Known s := h.inv (.inr ⟨rfl, .inl rfl⟩) fun _ _ _ hs _ hstep => known_step hs hstep
  exact known_of_phase hknown (by simp [ht]) (by simp [ht])

end MavlinkServer.Tlog
