/-
  File:      MavlinkServer/Drivers/ZenohJson.lean
  Subject:   MESSAGES IN JSON FROM ZENOH (`Zenoh::receive_task` and
             `Zenoh::run` in `src/lib/drivers/zenoh/json.rs`,
             `HubActor::add_driver` in `src/lib/hub/actor.rs`).

  The payload of a sample becomes a text, the text a message, and the message
  the bytes of a packet. Only the second step has its failure handled; the
  first is unwrapped, and the third panics in the crate.

  * `MavlinkCrates` -- what the task uses: reading JSON5, writing a packet;
  * `receiveTask` -- the loop, payload by payload;
  * `SkipsBad` -- what is no message is skipped, and what is one goes on;
  * **`receiveTask_skipsBad_iff`** -- exactly when every payload is UTF-8 and
    every message in one can be written;
  * `zenohRun`, `driverRunner` -- the loops around it: a panic ends them;
  * `receiveBody_eq` -- it is the loop of `Drivers/Veto`.
-/
import MavlinkServer.Drivers.Veto
import MavlinkServer.Rest.Control
import MavlinkServer.Ftp.ListingFormat

namespace MavlinkServer.Drivers

open Lib Hub Rest

/-! ## 1. From a payload to a message -/

structure MavlinkJsonHeader where
  inner : MavHeader
  messageId : Option UInt32
  deriving DecidableEq, Repr

structure MavlinkJson (M : Type) where
  header : MavlinkJsonHeader
  message : M
  deriving DecidableEq, Repr

/-- What the task uses of other crates. Writing a message gives nothing where it panics. -/
structure MavlinkCrates (M : Type) where
  /-- `json5::from_str` -/
  fromStr : String → Option (MavlinkJson M)
  /-- `MAVLinkV1MessageRaw::serialize_message`, `MAVLinkV2MessageRaw::serialize_message` and
      `Packet::from` -/
  serializeV1 : MavHeader → M → Option Packet
  serializeV2 : MavHeader → M → Option Packet

/-- `std::str::from_utf8`. -/
def fromUtf8 (bytes : List UInt8) : Option String := String.fromUTF8? bytes.toByteArray

variable {M : Type}

/-- `Protocol::from_mavlink_raw`: every other version is `unreachable!()`. -/
def MavlinkCrates.fromMavlinkRaw (z : MavlinkCrates M) (mavlinkVersion : UInt8) (header : MavHeader)
    (message : M) : Option Packet :=
  if mavlinkVersion = 1 then z.serializeV1 header message
  else if mavlinkVersion = 2 then z.serializeV2 header message
  else none

/-! ## 2. The task -/

/-- A sample, with the clock and what the callbacks give. -/
structure Sampled where
  payload : List UInt8
  now : UInt64
  results : List CallbackResult
  deriving DecidableEq, Repr

section Task

variable (z : MavlinkCrates M) (mavlinkVersion : UInt8)

/-- One iteration of `'mainloop`; `none` when no senders are left. -/
def MavlinkCrates.receiveBody : Option Sampled → List Effect × Flow TaskError
  | none => ([], .leave)
  | some sample =>
      match fromUtf8 sample.payload with
      | none => ([], .fail .panic)
      | some text =>
          match z.fromStr text with
          | none => ([], .next)
          | some content =>
              match z.fromMavlinkRaw mavlinkVersion content.header.inner content.message with
              | none => ([], .fail .panic)
              | some packet => (input ⟨"zenoh", sample.now, packet⟩ sample.results, .next)

/-- `Zenoh::receive_task`, with a subscriber. -/
def MavlinkCrates.receiveTask (samples : List (Option Sampled)) : Iteration Unit Effect TaskError :=
  runLoop (loopOf (z.receiveBody mavlinkVersion)) () samples

/-- **The message in a payload**, if it is a MAVLink message in JSON. -/
def MavlinkCrates.contentOf (payload : List UInt8) : Option (MavlinkJson M) :=
  (fromUtf8 payload).bind z.fromStr

/-- What is due to be sent for a sample: its message, when the callbacks accept it. -/
def MavlinkCrates.due (sample : Sampled) : Option Protocol :=
  if vetoed sample.results then none
  else
    let packet := (z.contentOf sample.payload).bind fun content =>
      z.fromMavlinkRaw mavlinkVersion content.header.inner content.message
    packet.map fun packet => ⟨"zenoh", sample.now, packet⟩

/-- **Skips bad samples**: the task goes on behind the last of them, and has sent what was due, in its
    order, and nothing else. -/
def MavlinkCrates.SkipsBad (samples : List Sampled) : Prop :=
  (z.receiveTask mavlinkVersion (samples.map some)).flow = .next ∧
    (z.receiveTask mavlinkVersion (samples.map some)).effects.filterMap Effect.sent? =
      samples.filterMap (z.due mavlinkVersion)

/-- **Digestible**: a text, and if there is a message in it, one that can be written. -/
def MavlinkCrates.Digestible (payload : List UInt8) : Prop :=
  Ftp.IsUtf8 payload ∧ ∀ content, z.contentOf payload = some content →
    (z.fromMavlinkRaw mavlinkVersion content.header.inner content.message).isSome

end Task

/-! ## 3. Exactly when bad samples are skipped -/

theorem isSome_fromUtf8 (bytes : List UInt8) : (fromUtf8 bytes).isSome ↔ Ftp.IsUtf8 bytes := by
  unfold fromUtf8 String.fromUTF8?
  constructor
  · intro h
    split at h
    · rename_i hvalid
      obtain ⟨text, htext⟩ := hvalid
      exact ⟨text, List.toByteArray_inj.mp htext⟩
    · cases h
  · rintro ⟨text, rfl⟩
    rw [dif_pos ⟨text, rfl⟩]
    rfl

section Skips

variable {z : MavlinkCrates M} {mavlinkVersion : UInt8} {sample : Sampled} {samples : List Sampled}

/-- A payload that can be digested: what was due is sent, and the task goes on. -/
theorem receiveBody_digestible (h : z.Digestible mavlinkVersion sample.payload) :
    ∃ effects, z.receiveBody mavlinkVersion (some sample) = (effects, .next) ∧
      effects.filterMap Effect.sent? = (z.due mavlinkVersion sample).toList := by
  obtain ⟨htext, hwritten⟩ := h
  obtain ⟨text, htext⟩ := Option.isSome_iff_exists.mp ((isSome_fromUtf8 _).mpr htext)
  unfold MavlinkCrates.contentOf at hwritten
  unfold MavlinkCrates.receiveBody MavlinkCrates.due MavlinkCrates.contentOf
  simp only [htext, Option.bind_some] at hwritten ⊢
  cases hcontent : z.fromStr text with
  | none =>
    refine ⟨[], rfl, ?_⟩
    cases vetoed sample.results <;> rfl
  | some content =>
    obtain ⟨packet, hpacket⟩ := Option.isSome_iff_exists.mp (hwritten content hcontent)
    simp only [hpacket, Option.bind_some, Option.map_some]
    refine ⟨_, rfl, ?_⟩
    rw [sent?_input]
    cases vetoed sample.results <;> rfl

/-- Every other payload makes the task panic. -/
theorem receiveBody_panics (h : ¬ z.Digestible mavlinkVersion sample.payload) :
    z.receiveBody mavlinkVersion (some sample) = ([], .fail .panic) := by
  unfold MavlinkCrates.receiveBody
  cases htext : fromUtf8 sample.payload with
  | none => simp only [htext]
  | some text =>
    have hutf8 : Ftp.IsUtf8 sample.payload :=
      (isSome_fromUtf8 _).mp (Option.isSome_iff_exists.mpr ⟨text, htext⟩)
    have hcontentOf : z.contentOf sample.payload = z.fromStr text := by
      unfold MavlinkCrates.contentOf
      rw [htext, Option.bind_some]
    cases hcontent : z.fromStr text with
    | none =>
      refine absurd ⟨hutf8, fun content hsome => ?_⟩ h
      rw [hcontentOf, hcontent] at hsome
      cases hsome
    | some content =>
      cases hpacket : z.fromMavlinkRaw mavlinkVersion content.header.inner content.message with
      | none => simp only [htext, hcontent, hpacket]
      | some packet =>
        refine absurd ⟨hutf8, fun content' hsome => ?_⟩ h
        rw [hcontentOf, hcontent] at hsome
        cases hsome
        rw [hpacket]
        rfl

theorem receiveTask_cons_digestible (h : z.Digestible mavlinkVersion sample.payload)
    (rest : List (Option Sampled)) :
    (z.receiveTask mavlinkVersion (some sample :: rest)).flow =
        (z.receiveTask mavlinkVersion rest).flow ∧
      (z.receiveTask mavlinkVersion (some sample :: rest)).effects.filterMap Effect.sent? =
        (z.due mavlinkVersion sample).toList ++
          (z.receiveTask mavlinkVersion rest).effects.filterMap Effect.sent? := by
  obtain ⟨effects, hbody, hsent⟩ := receiveBody_digestible h
  have hnext : (loopOf (z.receiveBody mavlinkVersion) () (some sample)).flow = .next := by
    unfold loopOf
    rw [hbody]
  have heffects : (loopOf (z.receiveBody mavlinkVersion) () (some sample)).effects = effects := by
    unfold loopOf
    rw [hbody]
  unfold MavlinkCrates.receiveTask
  rw [runLoop_cons_next hnext, heffects, ← hsent]
  exact ⟨rfl, List.filterMap_append⟩

/-- What is due for the first sample is due first. -/
theorem filterMap_due_cons : (sample :: samples).filterMap (z.due mavlinkVersion) =
    (z.due mavlinkVersion sample).toList ++ samples.filterMap (z.due mavlinkVersion) := by
  rw [List.filterMap_cons]
  cases z.due mavlinkVersion sample <;> rfl

theorem receiveTask_cons_panics (h : ¬ z.Digestible mavlinkVersion sample.payload)
    (rest : List (Option Sampled)) :
    z.receiveTask mavlinkVersion (some sample :: rest) = ⟨(), [], .fail .panic⟩ := by
  have hbody := receiveBody_panics h
  have hstop : (loopOf (z.receiveBody mavlinkVersion) () (some sample)).flow ≠ .next := by
    unfold loopOf
    rw [hbody]
    exact fun h => by cases h
  unfold MavlinkCrates.receiveTask
  rw [runLoop_cons_stop hstop]
  unfold loopOf
  rw [hbody]

/-- **Bad samples are skipped exactly when every payload can be digested**: the first that cannot
    ends the task, and with it every message behind. -/
theorem receiveTask_skipsBad_iff (z : MavlinkCrates M) (mavlinkVersion : UInt8)
    (samples : List Sampled) : z.SkipsBad mavlinkVersion samples ↔
      ∀ sample ∈ samples, z.Digestible mavlinkVersion sample.payload := by
  induction samples with
  | nil => exact ⟨fun _ _ h => (List.not_mem_nil h).elim, fun _ => ⟨rfl, rfl⟩⟩
  | cons sample samples ih =>
    rw [List.forall_mem_cons, ← ih]
    unfold MavlinkCrates.SkipsBad
    by_cases hdigestible : z.Digestible mavlinkVersion sample.payload
    · obtain ⟨hflow, hsent⟩ := receiveTask_cons_digestible hdigestible (samples.map some)
      rw [List.map_cons, hflow, hsent, filterMap_due_cons, List.append_cancel_left_eq,
        and_iff_right hdigestible]
    · refine ⟨fun h => ?_, fun h => absurd h.1 hdigestible⟩
      have hflow := h.1
      rw [List.map_cons, receiveTask_cons_panics hdigestible] at hflow
      cases hflow

/-- What comes before the first payload that cannot be digested is dealt with, and nothing else. -/
theorem receiveTask_panics {bad : Sampled}
    (hgood : ∀ sample ∈ samples, z.Digestible mavlinkVersion sample.payload)
    (hbad : ¬ z.Digestible mavlinkVersion bad.payload) (rest : List (Option Sampled)) :
    (z.receiveTask mavlinkVersion (samples.map some ++ some bad :: rest)).flow = .fail .panic ∧
      (z.receiveTask mavlinkVersion (samples.map some ++ some bad :: rest)).effects.filterMap
        Effect.sent? = samples.filterMap (z.due mavlinkVersion) := by
  induction samples with
  | nil =>
    rw [List.map_nil, List.nil_append, receiveTask_cons_panics hbad]
    exact ⟨rfl, rfl⟩
  | cons sample samples ih =>
    rw [List.forall_mem_cons] at hgood
    obtain ⟨hpanic, hlater⟩ := ih hgood.2
    obtain ⟨hflow, hsent⟩ := receiveTask_cons_digestible hgood.1
      (samples.map some ++ some bad :: rest)
    rw [List.map_cons, List.cons_append, hflow, hsent, hlater, filterMap_due_cons]
    exact ⟨hpanic, rfl⟩

end Skips

/-- A heartbeat in JSON5. -/
def heartbeatJson : String :=
  "\x7bheader:\x7bsystem_id:1,component_id:1,sequence:0\x7d,message:\x7btype:'HEARTBEAT'," ++
  "custom_mode:0,mavtype:\x7btype:'MAV_TYPE_QUADROTOR'\x7d," ++
  "autopilot:\x7btype:'MAV_AUTOPILOT_ARDUPILOTMEGA'\x7d,base_mode:\x7bbits:81\x7d," ++
  "system_status:\x7btype:'MAV_STATE_ACTIVE'\x7d,mavlink_version:3\x7d\x7d"

/-- Crates that know that heartbeat. -/
def heartbeatCrates : MavlinkCrates HeartbeatData where
  fromStr := fun text => if text = heartbeatJson then some ⟨⟨⟨1, 1, 0⟩, none⟩, ⟨0, 2, 3, 81⟩⟩ else none
  serializeV1 := fun _ _ => none
  serializeV2 := fun _ _ => some heartbeatPacket

theorem fromUtf8_utf8 (text : String) : fromUtf8 (Ftp.utf8 text.toList) = some text := by
  have hbytes : (Ftp.utf8 text.toList).toByteArray = text.toByteArray := String.utf8Encode_toList
  unfold fromUtf8 String.fromUTF8?
  rw [hbytes, dif_pos text.isValidUTF8]
  rfl

/-- **A byte ends it**: 0xFF is not UTF-8, and the heartbeat behind it is due and not sent. -/
theorem skipsBad_byte :
    ¬ heartbeatCrates.SkipsBad 2 [⟨[0xFF], 0, []⟩, ⟨Ftp.utf8 heartbeatJson.toList, 1, []⟩] ∧
      heartbeatCrates.due 2 ⟨Ftp.utf8 heartbeatJson.toList, 1, []⟩ =
        some ⟨"zenoh", 1, heartbeatPacket⟩ ∧
      (heartbeatCrates.receiveTask 2
        [some ⟨[0xFF], 0, []⟩, some ⟨Ftp.utf8 heartbeatJson.toList, 1, []⟩]).effects = [] := by
  have hbad : ¬ heartbeatCrates.Digestible 2 [0xFF] := fun h => by
    have htext := (isSome_fromUtf8 _).mpr h.1
    have hnone : fromUtf8 [0xFF] = none := by decide
    rw [hnone] at htext
    cases htext
  have hpanics : heartbeatCrates.receiveTask 2
      [some ⟨[0xFF], 0, []⟩, some ⟨Ftp.utf8 heartbeatJson.toList, 1, []⟩] = ⟨(), [], .fail .panic⟩ :=
    receiveTask_cons_panics hbad _
  refine ⟨fun h => ?_, ?_, ?_⟩
  · have hflow := h.1
    rw [List.map_cons, List.map_cons, List.map_nil, hpanics] at hflow
    cases hflow
  · unfold MavlinkCrates.due MavlinkCrates.contentOf
    rw [fromUtf8_utf8, Option.bind_some]
    unfold heartbeatCrates
    simp only [if_true]
    rfl
  · rw [hpanics]

/-! ## 4. The loops around the task -/

inductive RunEnd where
  | ok
  | err
  | panicked
  /-- it goes on -/
  | running
  deriving DecidableEq, Repr

/-- `Zenoh::run`, by the samples of each session: when the receive task or the send task is left,
    with an error or without one, there is another session. -/
def MavlinkCrates.zenohRun (z : MavlinkCrates M) (mavlinkVersion : UInt8) :
    List (List (Option Sampled)) → List Effect × RunEnd
  | [] => ([], .running)
  | samples :: sessions =>
      let task := z.receiveTask mavlinkVersion samples
      if task.flow = .fail .panic then (task.effects, .panicked)
      else
        let later := zenohRun z mavlinkVersion sessions
        (task.effects ++ later.1, later.2)

/-- The task of `add_driver`, by the runs that it may come to: only an error starts another one. -/
def driverRunner : List (List Effect × RunEnd) → List Effect
  | [] => []
  | (effects, .err) :: runs => effects ++ driverRunner runs
  | (effects, _) :: _ => effects

/-- **Nothing is received behind a panic**, whatever comes in the session, in later sessions, or
    would in later runs: only what was sent before it is sent. -/
theorem driverRunner_panics {z : MavlinkCrates M} {mavlinkVersion : UInt8} {samples : List Sampled}
    {bad : Sampled} (hgood : ∀ sample ∈ samples, z.Digestible mavlinkVersion sample.payload)
    (hbad : ¬ z.Digestible mavlinkVersion bad.payload) (rest : List (Option Sampled))
    (sessions : List (List (Option Sampled))) (runs : List (List Effect × RunEnd)) :
    (driverRunner (z.zenohRun mavlinkVersion ((samples.map some ++ some bad :: rest) :: sessions) ::
      runs)).filterMap Effect.sent? = samples.filterMap (z.due mavlinkVersion) := by
  obtain ⟨hpanic, hsent⟩ := receiveTask_panics hgood hbad rest
  unfold MavlinkCrates.zenohRun
  rw [if_pos hpanic]
  exact hsent

/-! ## 5. The loop of `Drivers/Veto` -/

/-- What a sample is to the loop that does not look into payloads. -/
def MavlinkCrates.inputOf (z : MavlinkCrates M) (mavlinkVersion : UInt8) :
    Option Sampled → ZenohInput
  | none => ⟨.closed, 0, []⟩
  | some sample =>
      match fromUtf8 sample.payload with
      | none => ⟨.notUtf8, sample.now, sample.results⟩
      | some text =>
          match z.fromStr text with
          | none => ⟨.invalid, sample.now, sample.results⟩
          | some content =>
              match z.fromMavlinkRaw mavlinkVersion content.header.inner content.message with
              | none => ⟨.notUtf8, sample.now, sample.results⟩
              | some packet => ⟨.message packet, sample.now, sample.results⟩

/-- **It is the same loop**; to that one a message that cannot be written is a payload that is not
    UTF-8. -/
theorem receiveBody_eq (z : MavlinkCrates M) (mavlinkVersion : UInt8) (sample : Option Sampled) :
    z.receiveBody mavlinkVersion sample = zenohReceiveBody (z.inputOf mavlinkVersion sample) := by
  cases sample with
  | none => rfl
  | some sample =>
    unfold MavlinkCrates.receiveBody MavlinkCrates.inputOf
    cases htext : fromUtf8 sample.payload with
    | none =>
      simp only [htext]
      rfl
    | some text =>
      cases hcontent : z.fromStr text with
      | none =>
        simp only [htext, hcontent]
        rfl
      | some content =>
        cases hpacket : z.fromMavlinkRaw mavlinkVersion content.header.inner content.message with
        | none =>
          simp only [htext, hcontent, hpacket]
          rfl
        | some packet =>
          simp only [htext, hcontent, hpacket]
          rfl

end MavlinkServer.Drivers
