/-
  File:      MavlinkServer/Tlog/ArmCheck.lean
  Subject:   THE FAST ARM CHECK AGAINST DECODING (`check_arm_state` in
             `src/lib/drivers/tlog/writer.rs`, the HEARTBEAT arm of
             `Vehicle::update` in `src/lib/drivers/rest/control.rs`).

  * `HeartbeatMessage`, `decodeHeartbeat` -- HEARTBEAT read field by field in
    the order of the wire. A payload that is too short is read with zeros
    behind it; a number that its enumeration does not have is an error;
  * `Transmits` -- what a frame carries of a payload: a frame of version 2 may
    leave out zeros at its end;
  * `decodeHeartbeat_transmitted` -- both are decoded alike;
  * **`checkArmState_agrees`** -- the byte that the fast check looks at says
    what the decoded message says, and what `Vehicle::update` makes of it.

  Which numbers the enumerations have is a parameter: they are in the dialect
  that is generated for the `mavlink` crate.
-/
import MavlinkServer.Lib.LittleEndian
import MavlinkServer.Rest.Parameters
import MavlinkServer.Tlog.Writer
import Mathlib.Data.Nat.Bitwise

namespace MavlinkServer.Tlog

open Lib Drivers Rest

/-! ## 1. Decoding -/

/-- The numbers that MavType, MavAutopilot and MavState have. All eight bits of MavModeFlag are
    named. -/
structure Dialect where
  mavType : UInt8 → Bool
  mavAutopilot : UInt8 → Bool
  mavState : UInt8 → Bool

structure HeartbeatMessage where
  customMode : UInt32
  mavtype : UInt8
  autopilot : UInt8
  baseMode : UInt8
  systemStatus : UInt8
  mavlinkVersion : UInt8
  deriving DecidableEq, Repr

/-- As far as `Vehicle::update` looks into it. -/
def HeartbeatMessage.data (heartbeat : HeartbeatMessage) : HeartbeatData :=
  ⟨heartbeat.customMode, heartbeat.mavtype, heartbeat.autopilot, heartbeat.baseMode⟩

/-- `HEARTBEAT_DATA::ENCODED_LEN` -/
def heartbeatLen : Nat := 9

/-- The buffer that is decoded: zeros stand for what was not transmitted. -/
def filled (payload : List UInt8) : List UInt8 :=
  payload ++ List.replicate (heartbeatLen - payload.length) 0

def decodeHeartbeat (dialect : Dialect) (payload : List UInt8) : Option HeartbeatMessage :=
  match filled payload with
  | c0 :: c1 :: c2 :: c3 :: mavtype :: autopilot :: baseMode :: systemStatus :: mavlinkVersion :: _ =>
      if dialect.mavType mavtype && dialect.mavAutopilot autopilot &&
          dialect.mavState systemStatus then
        some {
          customMode := UInt32.ofNat (ofLe [c0, c1, c2, c3])
          mavtype, autopilot, baseMode, systemStatus, mavlinkVersion }
      else none
  | _ => none

inductive MavlinkVersion where
  | v1
  | v2
  deriving DecidableEq, Repr

/-- **What a frame carries**: the payload; in version 2 any number of zeros at its end may be
    missing. -/
def Transmits : MavlinkVersion → List UInt8 → List UInt8 → Prop
  | .v1, payload, transmitted => transmitted = payload
  | .v2, payload, transmitted => ∃ n, payload = transmitted ++ List.replicate n 0

variable {dialect : Dialect} {payload transmitted : List UInt8} {heartbeat : HeartbeatMessage}

/-- The zeros that were left out are filled in again. -/
theorem filled_transmitted {version : MavlinkVersion} (hlen : payload.length = heartbeatLen)
    (h : Transmits version payload transmitted) : filled transmitted = filled payload := by
  cases version with
  | v1 => rw [show transmitted = payload from h]
  | v2 =>
      obtain ⟨n, rfl⟩ := h
      rw [List.length_append, List.length_replicate] at hlen
      have hn : heartbeatLen - transmitted.length = n := by omega
      have hzero : heartbeatLen - (transmitted ++ List.replicate n (0 : UInt8)).length = 0 := by
        rw [List.length_append, List.length_replicate]
        omega
      unfold filled
      rw [hn, hzero, List.replicate_zero, List.append_nil]

/-- **A cut payload is decoded like the whole one.** -/
theorem decodeHeartbeat_transmitted {version : MavlinkVersion}
    (hlen : payload.length = heartbeatLen) (h : Transmits version payload transmitted) :
    decodeHeartbeat dialect transmitted = decodeHeartbeat dialect payload := by
  unfold decodeHeartbeat
  rw [filled_transmitted hlen h]

/-- A byte that is missing is decoded as zero. -/
theorem filled_getElem? {i : Nat} (hi : i < heartbeatLen) :
    (filled payload)[i]? = some (payload[i]?.getD 0) := by
  unfold filled
  by_cases hlt : i < payload.length
  · rw [List.getElem?_append_left hlt, List.getElem?_eq_getElem hlt]
    rfl
  · have hge : payload.length ≤ i := Nat.not_lt.mp hlt
    rw [List.getElem?_append_right hge, List.getElem?_replicate, if_pos (by omega),
      List.getElem?_eq_none hge]
    rfl

/-- **The seventh byte is base_mode**, whether it was transmitted or not. -/
theorem decodeHeartbeat_baseMode (h : decodeHeartbeat dialect payload = some heartbeat) :
    payload[baseModeByte]?.getD 0 = heartbeat.baseMode := by
  have hbyte : (filled payload)[baseModeByte]? = _ := filled_getElem? (by decide)
  unfold decodeHeartbeat at h
  split at h
  · rename_i heq
    split at h
    · cases h
      rw [heq] at hbyte
      exact (Option.some.inj hbyte).symm
    · cases h
  · cases h

/-! ## 2. The check -/

/-- One bit is there as a whole or not at all. -/
theorem and_safetyArmed (b : UInt8) : b &&& safetyArmed = 0 ∨ b &&& safetyArmed = safetyArmed := by
  have hbit : (b &&& safetyArmed).toNat = (b.toNat.testBit 7).toNat * 2 ^ 7 := by
    rw [UInt8.toNat_and]
    exact Nat.and_two_pow _ 7
  cases htest : b.toNat.testBit 7 with
  | false =>
      refine Or.inl (UInt8.toNat_inj.mp ?_)
      rw [hbit, htest]
      rfl
  | true =>
      refine Or.inr (UInt8.toNat_inj.mp ?_)
      rw [hbit, htest]
      rfl

theorem checkArmState_of_decoded {packet : Packet} (hid : packet.messageId = heartbeatId)
    (h : decodeHeartbeat dialect packet.payload = some heartbeat) :
    checkArmState packet =
      some (if heartbeat.baseMode &&& safetyArmed = safetyArmed then .armed else .disarmed) := by
  have hbyte := decodeHeartbeat_baseMode h
  unfold checkArmState
  rw [if_neg (not_not.mpr hid)]
  dsimp only
  rw [hbyte]
  rcases and_safetyArmed heartbeat.baseMode with hzero | hone
  · rw [hzero, if_pos rfl, if_neg (by decide)]
  · rw [hone, if_neg (by decide), if_pos rfl]

section Vehicle

variable {Metadata : Type} {vehicle : Vehicle Metadata} {component : VehicleComponent Metadata}
  {input : Input}

/-- The flag that `Vehicle::update` stores. -/
theorem called_armed (getParameters : GetParameters Metadata)
    (hauto : vehicle.autopilot = some component) (happlies : input.Applies vehicle.vehicleId)
    (hmessage : input.message = .heartbeat heartbeat.data) :
    ∃ component', (vehicle.called getParameters input).1.autopilot = some component' ∧
      (component'.armed = true ↔ heartbeat.baseMode &&& safetyArmed = safetyArmed) := by
  obtain ⟨now, hnext, _⟩ := Vehicle.called_of_applies getParameters hauto happlies
  refine ⟨_, hnext, ?_⟩
  unfold handled
  rw [hmessage]
  exact beq_iff_eq

/-- **The fast check agrees with decoding.** For a heartbeat, of either version and with any number
    of zeros cut off: the payload that was transmitted is decoded like the whole one, the check
    gives `Armed` exactly when the decoded base_mode has the bit and `Disarmed` otherwise, and that
    is the flag that `Vehicle::update` stores. For another message it gives nothing. -/
theorem checkArmState_agrees (dialect : Dialect) (getParameters : GetParameters Metadata)
    (packet : Packet) :
    (packet.messageId ≠ heartbeatId → checkArmState packet = none) ∧
      (packet.messageId = heartbeatId →
        (∀ version payload, payload.length = heartbeatLen →
          Transmits version payload packet.payload →
          decodeHeartbeat dialect packet.payload = decodeHeartbeat dialect payload) ∧
        ∀ heartbeat, decodeHeartbeat dialect packet.payload = some heartbeat →
          (checkArmState packet = some .armed ↔
            heartbeat.baseMode &&& safetyArmed = safetyArmed) ∧
          (checkArmState packet = some .disarmed ↔
            heartbeat.baseMode &&& safetyArmed ≠ safetyArmed) ∧
          ∀ (vehicle : Vehicle Metadata) (component : VehicleComponent Metadata) (input : Input),
            vehicle.autopilot = some component → input.Applies vehicle.vehicleId →
            input.message = .heartbeat heartbeat.data →
            ∃ component', (vehicle.called getParameters input).1.autopilot = some component' ∧
              checkArmState packet = some (if component'.armed then .armed else .disarmed)) := by
  refine ⟨fun hid => if_pos hid, fun hid => ⟨fun _ _ => decodeHeartbeat_transmitted, ?_⟩⟩
  intro heartbeat hdecoded
  have hcheck := checkArmState_of_decoded hid hdecoded
  refine ⟨?_, ?_, ?_⟩
  · rw [hcheck]
    split
    · exact iff_of_true rfl ‹_›
    · exact iff_of_false (by decide) ‹_›
  · rw [hcheck]
    split
    · exact iff_of_false (by decide) (not_not.mpr ‹_›)
    · exact iff_of_true rfl ‹_›
  · intro vehicle component input hauto happlies hmessage
    obtain ⟨component', hnext, harmed⟩ := called_armed getParameters hauto happlies hmessage
    refine ⟨component', hnext, ?_⟩
    rw [hcheck]
    by_cases hbit : heartbeat.baseMode &&& safetyArmed = safetyArmed
    · rw [if_pos hbit, if_pos (harmed.mpr hbit)]
    · rw [if_neg hbit, if_neg fun h => hbit (harmed.mp h)]

end Vehicle

/-- An armed quadrotor, in a frame that leaves out the last two bytes. -/
def armedPacket : Packet where
  bytes := []
  systemId := 1
  componentId := 1
  messageId := 0
  payload := [0, 0, 0, 0, 2, 3, 209]

theorem checkArmState_agrees_cut :
    checkArmState armedPacket = some .armed ∧
      ∃ component', ((Vehicle.initial 1 0).called namedTables
          (autopilotInput (.heartbeat ⟨0, 2, 3, 209⟩))).1.autopilot = some component' ∧
        checkArmState armedPacket = some (if component'.armed then .armed else .disarmed) := by
  have hagrees := (checkArmState_agrees ⟨fun _ => true, fun _ => true, fun _ => true⟩ namedTables
    armedPacket).2 rfl
  have hwhole := hagrees.1 .v2 [0, 0, 0, 0, 2, 3, 209, 0, 0] rfl ⟨2, rfl⟩
  have hdecoded := hagrees.2 ⟨0, 2, 3, 209, 0, 0⟩ (hwhole.trans (by decide))
  refine ⟨hdecoded.1.mpr (by decide), ?_⟩
  exact hdecoded.2.2 (Vehicle.initial 1 0) (VehicleComponent.initial 0)
    (autopilotInput (.heartbeat ⟨0, 2, 3, 209⟩)) rfl ⟨rfl, rfl⟩ rfl

end MavlinkServer.Tlog
