/-
  File:      MavlinkServer/Hub/Heartbeat.lean
  Subject:   THE HEARTBEATS OF THE HUB (`HubActor::heartbeat_task` in
             `src/lib/hub/actor.rs`): a burst at the start, if that is set, and
             then the configured frequency.

  * `Spacing` -- how long an iteration sleeps, and why;
  * `Tick`, `heartbeatBody`, `heartbeatTask` -- an iteration, on what it finds
    when it wakes, and the loop. Every schedule of subscribers is a list of ticks;
  * `SendsExactly` -- what a burst of so many messages is;
  * `QuietBehind` -- no subscriber at the tick behind so many with one;
  * `sendsExactly_iff` -- the burst has `burst_size` messages exactly then. The
    iteration that ends the burst still sleeps 100 ms and sends.

  Writing a heartbeat is the MAVLink crate's, and a parameter.
-/
import MavlinkServer.Drivers.ZenohJson
import MavlinkServer.Tlog.Replay

namespace MavlinkServer.Hub

open Lib Drivers

/-! ## 1. How long an iteration sleeps -/

def roundHalfEven (a b : Nat) : Nat :=
  if 2 * (a % b) < b then a / b
  else if 2 * (a % b) = b then a / b + a / b % 2
  else a / b + 1

/-- `Duration::from_secs_f32`, in nanoseconds, to the nearest. `none` where it panics: below zero,
    from 2^64 seconds on, or not a number. -/
def durationFromSecsF32 (secs : Float32) : Option Nat :=
  match secs.toModel.unpack with
  | .zero _ => some 0
  | .finite .positive mantissa exponent _ =>
      let nanos :=
        if 0 ≤ exponent then mantissa * 2 ^ exponent.toNat * 10 ^ 9
        else roundHalfEven (mantissa * 10 ^ 9) (2 ^ (-exponent).toNat)
      if nanos < 2 ^ 64 * 10 ^ 9 then some nanos else none
  | _ => none

inductive Spacing where
  | burst
  | configured (frequency : Float32)
  /-- the heartbeat is disabled: "Avoid spin lock" -/
  | disabled
  deriving DecidableEq

/-- The duration in nanoseconds. -/
def Spacing.duration : Spacing → Option Nat
  | .burst => some (100 * 10 ^ 6)
  | .configured frequency => durationFromSecsF32 (1 / frequency)
  | .disabled => some (500 * 10 ^ 6)

def burstSize : Nat := 5

structure BurstState where
  burstMsgsCounter : Nat
  doBurst : Bool
  deriving DecidableEq, Repr

namespace BurstState

/-- The `let duration = ..` of an iteration. The burst is over when the counter is full, but this
    iteration sleeps as one of the burst. -/
def pace (s : BurstState) (frequency : Float32) : Spacing × BurstState :=
  if s.doBurst then
    (.burst, if s.burstMsgsCounter = burstSize then { s with doBurst := false } else s)
  else if frequency ≤ 0 then (.disabled, s)
  else (.configured frequency, s)

def countMessage (s : BurstState) : BurstState :=
  if s.doBurst ∧ s.burstMsgsCounter < burstSize then
    { s with burstMsgsCounter := s.burstMsgsCounter + 1 }
  else s

end BurstState

/-! ## 2. The loop -/

/-- `mavlink::ardupilotmega::HEARTBEAT_DATA`. -/
structure HeartbeatData where
  customMode : UInt32
  mavtype : UInt8
  autopilot : UInt8
  baseMode : UInt8
  systemStatus : UInt8
  mavlinkVersion : UInt8
  deriving DecidableEq, Repr

/-- MAV_TYPE_ONBOARD_CONTROLLER, MAV_AUTOPILOT_INVALID, MAV_STATE_STANDBY. -/
def serverHeartbeat : HeartbeatData where
  customMode := 0
  mavtype := 18
  autopilot := 8
  baseMode := 0
  systemStatus := 3
  mavlinkVersion := 3

/-- What the crate writes for a heartbeat: `serialize_message` and `Packet::from`. -/
structure HeartbeatWriter where
  serializeV1 : Rest.MavHeader → HeartbeatData → Packet
  serializeV2 : Rest.MavHeader → HeartbeatData → Packet

def HeartbeatWriter.crates (writer : HeartbeatWriter) : MavlinkCrates HeartbeatData where
  fromStr := fun _ => none
  serializeV1 := fun header message => some (writer.serializeV1 header message)
  serializeV2 := fun header message => some (writer.serializeV2 header message)

/-- What an iteration finds: the locks, the subscribers when it wakes, the clock, and whether one of
    them is still there at the send. -/
structure Tick where
  frequency : Float32
  receiverCount : Nat
  systemId : UInt8
  componentId : UInt8
  now : UInt64
  delivered : Bool
  deriving DecidableEq

inductive HeartbeatEffect where
  | slept (nanos : Nat)
  /-- the answer of `receiver_count` -/
  | counted (receivers : Nat)
  /-- a `send`; where it is not delivered, the error is logged -/
  | sent (spacing : Spacing) (message : Protocol) (delivered : Bool)
  deriving DecidableEq

section Task

variable (writer : HeartbeatWriter) (mavlinkVersion : UInt8)

/-- An iteration of the loop. -/
def heartbeatBody (s : BurstState) (tick : Tick) :
    Iteration BurstState HeartbeatEffect TaskError :=
  let spacing := (s.pace tick.frequency).1
  let s := (s.pace tick.frequency).2
  match spacing.duration with
  | none => ⟨s, [], .fail .panic⟩
  | some nanos =>
      if spacing = .disabled then ⟨s, [.slept nanos], .next⟩
      else if tick.receiverCount = 0 then ⟨s, [.slept nanos, .counted 0], .next⟩
      else
        let header : Rest.MavHeader := ⟨tick.systemId, tick.componentId, 0⟩
        match writer.crates.fromMavlinkRaw mavlinkVersion header serverHeartbeat with
        | none => ⟨s, [.slept nanos, .counted tick.receiverCount], .fail .panic⟩
        | some packet =>
            ⟨s.countMessage, [.slept nanos, .counted tick.receiverCount,
              .sent spacing ⟨"", tick.now, packet⟩ tick.delivered], .next⟩

def heartbeatTask (sendInitialHeartbeats : Bool) (ticks : List Tick) :
    Iteration BurstState HeartbeatEffect TaskError :=
  runLoop (heartbeatBody writer mavlinkVersion) ⟨0, sendInitialHeartbeats⟩ ticks

end Task

/-! ## 3. The burst -/

/-- A heartbeat with the spacing of the burst. A send counts whether or not it is delivered, as it
    does in `burst_msgs_counter`. -/
def HeartbeatEffect.inBurst : HeartbeatEffect → Bool
  | .sent .burst _ _ => true
  | _ => false

/-- A tick at which there are subscribers. -/
def HeartbeatEffect.subscribed : HeartbeatEffect → Bool
  | .counted receivers => receivers != 0
  | _ => false

def sentInBurst (effects : List HeartbeatEffect) : Nat := effects.countP HeartbeatEffect.inBurst

def subscribedTicks (effects : List HeartbeatEffect) : Nat :=
  effects.countP HeartbeatEffect.subscribed

/-- **A burst of `n` messages**: never more, and all of them once there were subscribers at that
    many ticks. -/
def SendsExactly (n : Nat) (effects : List HeartbeatEffect) : Prop :=
  sentInBurst effects ≤ n ∧ (n ≤ subscribedTicks effects → sentInBurst effects = n)

instance (n : Nat) (effects : List HeartbeatEffect) : Decidable (SendsExactly n effects) :=
  inferInstanceAs (Decidable (_ ∧ _))

/-- **No subscriber behind `n` ticks with one**: at the tick right after the last of these, if the
    run gets there. -/
def QuietBehind : Nat → List Tick → Prop
  | _, [] => True
  | 0, tick :: _ => tick.receiverCount = 0
  | n + 1, tick :: rest => QuietBehind (if tick.receiverCount = 0 then n + 1 else n) rest

/-! ## 4. Exactly when the burst has its size -/

section Effects

variable {n nanos receivers : Nat} {message : Protocol} {delivered : Bool}
  {later : List HeartbeatEffect}

theorem sendsExactly_quiet :
    SendsExactly n (.slept nanos :: .counted 0 :: later) ↔ SendsExactly n later := by
  simp [SendsExactly, sentInBurst, subscribedTicks, HeartbeatEffect.inBurst,
    HeartbeatEffect.subscribed]

/-- One message of the burst, at one tick with subscribers. -/
theorem sendsExactly_busy (hbusy : receivers ≠ 0) :
    SendsExactly (n + 1) (.slept nanos :: .counted receivers :: .sent .burst message delivered ::
      later) ↔ SendsExactly n later := by
  simp [SendsExactly, sentInBurst, subscribedTicks, HeartbeatEffect.inBurst,
    HeartbeatEffect.subscribed, List.countP_cons, hbusy]

/-- A message more than there is room for. -/
theorem not_sendsExactly_zero :
    ¬ SendsExactly 0 (.slept nanos :: .counted receivers :: .sent .burst message delivered ::
      later) := by
  simp [SendsExactly, sentInBurst, HeartbeatEffect.inBurst, List.countP_cons]

end Effects

section Runs

variable (writer : HeartbeatWriter) (mavlinkVersion : UInt8) {s : BurstState} {tick : Tick}

/-- A heartbeat can be written in the two versions there are. -/
theorem isSome_fromMavlinkRaw (header : Rest.MavHeader) (message : HeartbeatData) :
    (writer.crates.fromMavlinkRaw mavlinkVersion header message).isSome ↔
      mavlinkVersion = 1 ∨ mavlinkVersion = 2 := by
  unfold MavlinkCrates.fromMavlinkRaw HeartbeatWriter.crates
  by_cases h1 : mavlinkVersion = 1
  · simp [h1]
  · by_cases h2 : mavlinkVersion = 2
    · simp [h2]
    · simp [h1, h2]

/-- Every iteration of the burst sleeps 100 ms, the one that ends it too. -/
theorem pace_burst (hburst : s.doBurst = true) (frequency : Float32) :
    (s.pace frequency).1 = .burst := by
  simp [BurstState.pace, hburst]

/-- An iteration of the burst without subscribers. -/
theorem body_quiet (hburst : s.doBurst = true) (hquiet : tick.receiverCount = 0) :
    heartbeatBody writer mavlinkVersion s tick =
      ⟨(s.pace tick.frequency).2, [.slept (100 * 10 ^ 6), .counted 0], .next⟩ := by
  simp [heartbeatBody, pace_burst hburst, Spacing.duration, hquiet]

/-- An iteration of the burst with subscribers sends. -/
theorem body_busy (hburst : s.doBurst = true) (hbusy : tick.receiverCount ≠ 0)
    (hversion : mavlinkVersion = 1 ∨ mavlinkVersion = 2) :
    ∃ message, heartbeatBody writer mavlinkVersion s tick =
      ⟨(s.pace tick.frequency).2.countMessage, [.slept (100 * 10 ^ 6),
        .counted tick.receiverCount, .sent .burst message tick.delivered], .next⟩ := by
  obtain ⟨packet, hpacket⟩ := Option.isSome_iff_exists.mp
    ((isSome_fromMavlinkRaw writer mavlinkVersion ⟨tick.systemId, tick.componentId, 0⟩
      serverHeartbeat).mpr hversion)
  exact ⟨⟨"", tick.now, packet⟩, by
    simp [heartbeatBody, pace_burst hburst, Spacing.duration, hbusy, hpacket]⟩

/-- With another version it panics. -/
theorem body_panics (hburst : s.doBurst = true) (hbusy : tick.receiverCount ≠ 0)
    (hversion : ¬ (mavlinkVersion = 1 ∨ mavlinkVersion = 2)) :
    heartbeatBody writer mavlinkVersion s tick =
      ⟨(s.pace tick.frequency).2, [.slept (100 * 10 ^ 6), .counted tick.receiverCount],
        .fail .panic⟩ := by
  have hnone := Option.not_isSome_iff_eq_none.mp
    (mt (isSome_fromMavlinkRaw writer mavlinkVersion ⟨tick.systemId, tick.componentId, 0⟩
      serverHeartbeat).mp hversion)
  simp [heartbeatBody, pace_burst hburst, Spacing.duration, hbusy, hnone]

/-- An iteration behind the burst. -/
theorem body_later (hover : s.doBurst = false) (tick : Tick) :
    (heartbeatBody writer mavlinkVersion s tick).state.doBurst = false ∧
      sentInBurst (heartbeatBody writer mavlinkVersion s tick).effects = 0 := by
  by_cases hdisabled : tick.frequency ≤ 0
  · have hpace : s.pace tick.frequency = (.disabled, s) := by
      simp [BurstState.pace, hover, hdisabled]
    unfold heartbeatBody
    rw [hpace]
    exact ⟨hover, rfl⟩
  · have hpace : s.pace tick.frequency = (.configured tick.frequency, s) := by
      simp [BurstState.pace, hover, hdisabled]
    have hcount : s.countMessage = s := by simp [BurstState.countMessage, hover]
    have hactive : ¬ Spacing.configured tick.frequency = .disabled := nofun
    unfold heartbeatBody
    rw [hpace]
    dsimp only
    cases (Spacing.configured tick.frequency).duration with
    | none => exact ⟨hover, rfl⟩
    | some nanos =>
        dsimp only
        rw [if_neg hactive, hcount]
        by_cases hquiet : tick.receiverCount = 0
        · rw [if_pos hquiet]
          exact ⟨hover, rfl⟩
        · rw [if_neg hquiet]
          cases writer.crates.fromMavlinkRaw mavlinkVersion
            ⟨tick.systemId, tick.componentId, 0⟩ serverHeartbeat with
          | none => exact ⟨hover, rfl⟩
          | some packet => exact ⟨hover, rfl⟩

/-- **No run behind the burst** sends with its spacing. -/
theorem sentInBurst_later (hover : s.doBurst = false) (ticks : List Tick) :
    sentInBurst (runLoop (heartbeatBody writer mavlinkVersion) s ticks).effects = 0 := by
  induction ticks generalizing s with
  | nil => rfl
  | cons tick rest ih =>
      obtain ⟨hstate, hsent⟩ := body_later writer mavlinkVersion hover tick
      by_cases hnext : (heartbeatBody writer mavlinkVersion s tick).flow = .next
      · rw [runLoop_cons_next hnext]
        show List.countP _ (_ ++ _) = 0
        rw [List.countP_append]
        exact Nat.add_eq_zero_iff.mpr ⟨hsent, ih hstate⟩
      · rw [runLoop_cons_stop hnext]
        exact hsent

/-- The states of the burst, by the messages that are left. -/
def BurstState.left (n : Nat) : BurstState := ⟨burstSize - n, true⟩

theorem pace_left {n : Nat} (hn : n + 1 ≤ burstSize) (frequency : Float32) :
    ((BurstState.left (n + 1)).pace frequency).2 = BurstState.left (n + 1) := by
  have hne : ¬ burstSize - (n + 1) = burstSize := by
    unfold burstSize at hn ⊢
    omega
  simp [BurstState.left, BurstState.pace, hne]

theorem countMessage_left {n : Nat} (hn : n + 1 ≤ burstSize) :
    (BurstState.left (n + 1)).countMessage = BurstState.left n := by
  have hlt : burstSize - (n + 1) < burstSize := by
    unfold burstSize at hn ⊢
    omega
  have hnext : burstSize - (n + 1) + 1 = burstSize - n := by omega
  simp [BurstState.left, BurstState.countMessage, hlt, hnext]

/-- **The burst from where `n` messages are left.** -/
theorem sendsExactly_left (hversion : mavlinkVersion = 1 ∨ mavlinkVersion = 2) {n : Nat}
    (hn : n ≤ burstSize) (ticks : List Tick) :
    SendsExactly n (runLoop (heartbeatBody writer mavlinkVersion) (.left n) ticks).effects ↔
      QuietBehind n ticks := by
  induction ticks generalizing n with
  | nil =>
      refine iff_of_true ⟨Nat.zero_le n, fun h => ?_⟩ (by cases n <;> trivial)
      exact (Nat.le_zero.mp h).symm
  | cons tick rest ih =>
      by_cases hquiet : tick.receiverCount = 0
      · have hbody := body_quiet writer mavlinkVersion (s := .left n) rfl hquiet
        rw [runLoop_cons_next (by rw [hbody]), hbody]
        refine sendsExactly_quiet.trans ?_
        cases n with
        | zero =>
            refine iff_of_true ?_ hquiet
            have hnone := sentInBurst_later writer mavlinkVersion
              (s := ((BurstState.left 0).pace tick.frequency).2) rfl rest
            exact ⟨Nat.le_of_eq hnone, fun _ => hnone⟩
        | succ n =>
            rw [pace_left hn, QuietBehind, if_pos hquiet]
            exact ih hn
      · obtain ⟨message, hbody⟩ :=
          body_busy writer mavlinkVersion (s := .left n) rfl hquiet hversion
        rw [runLoop_cons_next (by rw [hbody]), hbody]
        cases n with
        | zero => exact iff_of_false not_sendsExactly_zero hquiet
        | succ n =>
            rw [pace_left hn, countMessage_left hn, QuietBehind, if_neg hquiet]
            exact (sendsExactly_busy hquiet).trans (ih (Nat.le_of_succ_le hn))

/-- With a version that there is not, no heartbeat is sent, and the first due one ends the task. -/
theorem sentInBurst_panics (hversion : ¬ (mavlinkVersion = 1 ∨ mavlinkVersion = 2)) {n : Nat}
    (hpos : 0 < n) (hn : n ≤ burstSize) (ticks : List Tick) :
    sentInBurst (runLoop (heartbeatBody writer mavlinkVersion) (.left n) ticks).effects = 0 ∧
      subscribedTicks (runLoop (heartbeatBody writer mavlinkVersion) (.left n) ticks).effects ≤
        1 := by
  obtain ⟨k, rfl⟩ := Nat.exists_eq_add_one.mpr hpos
  induction ticks with
  | nil => exact ⟨rfl, Nat.zero_le 1⟩
  | cons tick rest ih =>
      by_cases hquiet : tick.receiverCount = 0
      · have hbody := body_quiet writer mavlinkVersion (s := .left (k + 1)) rfl hquiet
        rw [runLoop_cons_next (by rw [hbody]), hbody, pace_left hn]
        simpa [sentInBurst, subscribedTicks, HeartbeatEffect.inBurst, HeartbeatEffect.subscribed]
          using ih
      · have hbody := body_panics writer mavlinkVersion (s := .left (k + 1)) rfl hquiet hversion
        rw [runLoop_cons_stop (by rw [hbody]; nofun), hbody]
        simp [sentInBurst, subscribedTicks, HeartbeatEffect.inBurst, HeartbeatEffect.subscribed,
          hquiet]

end Runs

/-- **The burst has its size exactly** when no subscriber is there at the tick behind the one with
    the last message, or when the version makes the first message panic. -/
theorem sendsExactly_iff (writer : HeartbeatWriter) (mavlinkVersion : UInt8) (ticks : List Tick) :
    SendsExactly burstSize (heartbeatTask writer mavlinkVersion true ticks).effects ↔
      (mavlinkVersion = 1 ∨ mavlinkVersion = 2 → QuietBehind burstSize ticks) := by
  have hstart : heartbeatTask writer mavlinkVersion true ticks =
      runLoop (heartbeatBody writer mavlinkVersion) (.left burstSize) ticks := rfl
  rw [hstart]
  by_cases hversion : mavlinkVersion = 1 ∨ mavlinkVersion = 2
  · rw [sendsExactly_left writer mavlinkVersion hversion (Nat.le_refl burstSize)]
    exact ⟨fun h _ => h, fun h => h hversion⟩
  · obtain ⟨hsent, hticks⟩ := sentInBurst_panics writer mavlinkVersion hversion
      (show 0 < burstSize by decide) (Nat.le_refl burstSize) ticks
    refine iff_of_true ⟨?_, fun hle => ?_⟩ fun h => absurd h hversion
    · rw [hsent]
      exact Nat.zero_le _
    · -- a burst of more than one message, and one tick at most
      exact absurd (hle.trans hticks) (by decide)

section Examples

/-- What is written behind the magic byte, and the checksum with the extra byte of a HEARTBEAT. -/
def framed (magic : UInt8) (body : List UInt8) : List UInt8 :=
  magic :: body ++
    toLe 2 (Tlog.crcAccumulate (body.foldl Tlog.crcAccumulate 0xFFFF) 50).toNat

def HeartbeatData.payload (message : HeartbeatData) : List UInt8 :=
  toLe 4 message.customMode.toNat ++ [message.mavtype, message.autopilot, message.baseMode,
    message.systemStatus, message.mavlinkVersion]

/-- The frames of a heartbeat in both versions. -/
def frameWriter : HeartbeatWriter where
  serializeV1 := fun header message =>
    ⟨framed 0xFE ([9, header.sequence, header.systemId, header.componentId, 0] ++ message.payload),
      header.systemId, header.componentId, 0, message.payload⟩
  serializeV2 := fun header message =>
    ⟨framed 0xFD ([9, 0, 0, header.sequence, header.systemId, header.componentId, 0, 0, 0] ++
      message.payload), header.systemId, header.componentId, 0, message.payload⟩

example : frameWriter.serializeV2 ⟨1, 1, 0⟩ ⟨0, 2, 3, 81, 4, 3⟩ = heartbeatPacket := by
  decide +kernel

def busyTick : Tick := ⟨1, 1, 1, 194, 0, true⟩

/-- **Six messages**, when subscribers are there all the time. -/
theorem burst_of_six :
    sentInBurst (heartbeatTask frameWriter 2 true (List.replicate 6 busyTick)).effects = 6 ∧
      ¬ SendsExactly burstSize
        (heartbeatTask frameWriter 2 true (List.replicate 6 busyTick)).effects := by
  decide +kernel

end Examples

end MavlinkServer.Hub
