/-
  File:      MavlinkServer/Stats/Delay.lean
  Subject:   THE ACCUMULATED DELAY (`AccumulatedStatsInner::new` and `update`
             in `src/lib/stats/accumulated/mod.rs`, called for every message by
             the drivers and by `HubActor::stats_task`).

  * `Stamp`, `Entering` -- where the time of a message comes from: the clock at
    its reception, or eight bytes of a log file;
  * `Accounts`, `step` -- the counters of all drivers and of the hub;
    `stepChecked` -- the same where a subtraction below zero panics;
  * `delays` -- the true delays a counter has been given since its last reset;
  * `accumulated_run` -- what a counter has accumulated of them, in every run;
  * `DelaysTrue`, `delaysTrue_iff` -- the runs without a panic.

  The readings of the clock are arguments, and any.
-/
import MavlinkServer.Stats.Accumulated
import MavlinkServer.Tlog.Reader
import Mathlib.Algebra.BigOperators.Group.List.Basic
import Mathlib.Logic.Function.Basic

namespace MavlinkServer.Stats

open Lib Hub Tlog

/-! ## 1. Stamps -/

inductive Stamp where
  /-- `Protocol::new`: a reading of the clock -/
  | live (reading : UInt64)
  /-- `Protocol::new_with_timestamp`: what stands in front of a frame of a log -/
  | replayed (bytes : List UInt8)
  deriving DecidableEq, Repr

def Stamp.timestamp : Stamp → UInt64
  | live reading => reading
  | replayed bytes => timestampOf bytes

/-- A message that enters a driver or the hub, with where its timestamp comes from. -/
structure Entering (fromTimestampMicros : UInt64 → Bool) where
  message : Protocol
  stamp : Stamp
  stamped : message.timestamp = stamp.timestamp
  /-- `DateTime::from_timestamp_micros(us_since_epoch as i64)` gives a time -/
  accepted : ∀ bytes, stamp = .replayed bytes →
    8 ≤ bytes.length ∧ fromTimestampMicros (timestampOf bytes) = true

variable {fromTimestampMicros : UInt64 → Bool}

/-- The true delay of a message at a reading of the clock, in microseconds. -/
def Entering.delay (entering : Entering fromTimestampMicros) (now : UInt64) : ℤ :=
  now.toNat - entering.stamp.timestamp.toNat

/-! ## 2. Counters that panic -/

/-- A subtraction where overflow is checked. -/
def checkedSub (a b : UInt64) : Option UInt64 := if b ≤ a then some (a - b) else none

theorem checkedSub_of_le {a b : UInt64} (h : b ≤ a) : checkedSub a b = some (a - b) := if_pos h

theorem checkedSub_of_not_le {a b : UInt64} (h : ¬ b ≤ a) : checkedSub a b = none := if_neg h

namespace AccumulatedStatsInner

def newChecked (now : UInt64) (message : Protocol) : Option AccumulatedStatsInner :=
  (checkedSub now message.timestamp).map fun delay =>
    { lastMessage := some message
      lastUpdateUs := now
      messages := 1
      bytes := message.size
      delay }

def updateChecked (stats : AccumulatedStatsInner) (now : UInt64) (message : Protocol) :
    Option AccumulatedStatsInner :=
  (checkedSub now message.timestamp).map fun delay =>
    { lastMessage := some message
      lastUpdateUs := now
      messages := stats.messages + 1
      bytes := stats.bytes + message.size
      delay := stats.delay + delay }

def updatedChecked (now : UInt64) (message : Protocol) :
    Option AccumulatedStatsInner → Option AccumulatedStatsInner
  | some stats => stats.updateChecked now message
  | none => newChecked now message

/-- What a counter that may not be there has accumulated. -/
def delayOf (stats : Option AccumulatedStatsInner) : UInt64 := (stats.map (·.delay)).getD 0

variable {now : UInt64} {message : Protocol}

theorem updatedChecked_of_le (stats : Option AccumulatedStatsInner) (h : message.timestamp ≤ now) :
    updatedChecked now message stats = some (updated now message stats) := by
  cases stats with
  | some stats =>
      rw [updatedChecked, updateChecked, checkedSub_of_le h]
      rfl
  | none =>
      rw [updatedChecked, newChecked, checkedSub_of_le h]
      rfl

/-- **A counter panics on a message from the future.** -/
theorem updatedChecked_of_not_le (stats : Option AccumulatedStatsInner)
    (h : ¬ message.timestamp ≤ now) : updatedChecked now message stats = none := by
  cases stats with
  | some stats =>
      rw [updatedChecked, updateChecked, checkedSub_of_not_le h]
      rfl
  | none =>
      rw [updatedChecked, newChecked, checkedSub_of_not_le h]
      rfl

/-- **The delay is added modulo 2^64**, be it negative or not. -/
theorem toNat_delay_updated (stats : Option AccumulatedStatsInner) :
    ((updated now message stats).delay.toNat : ℤ) =
      ((delayOf stats).toNat + ((now.toNat : ℤ) - message.timestamp.toNat)) % 2 ^ 64 := by
  have hsub : (now - message.timestamp).toNat =
      (2 ^ 64 - message.timestamp.toNat + now.toNat) % 2 ^ 64 := UInt64.toNat_sub ..
  have hnow := now.toNat_lt
  have htimestamp := message.timestamp.toNat_lt
  cases stats with
  | none =>
      show ((now - message.timestamp).toNat : ℤ) = ((0 : UInt64).toNat + _) % 2 ^ 64
      rw [hsub, UInt64.toNat_zero]
      omega
  | some stats =>
      show ((stats.delay + (now - message.timestamp)).toNat : ℤ) = (stats.delay.toNat + _) % 2 ^ 64
      rw [UInt64.toNat_add, hsub]
      omega

end AccumulatedStatsInner

/-! ## 3. All counters -/

/-- The counters of every driver, and of the hub. -/
structure Accounts where
  drivers : DriverUuid → AccumulatedDriverStatsInner
  hubStats : AccumulatedStatsInner
  hubMessagesStats : AccumulatedHubMessagesStats

/-- The counters when the server starts, or they are reset. -/
def Accounts.new (now : UInt64) : Accounts := ⟨fun _ => .default, .default now, .empty⟩

inductive AccountsAction (fromTimestampMicros : UInt64 → Bool) where
  | updateInput (uuid : DriverUuid) (now : UInt64) (entering : Entering fromTimestampMicros)
  | updateOutput (uuid : DriverUuid) (now : UInt64) (entering : Entering fromTimestampMicros)
  /-- one message of `stats_task`, which reads the clock in `hub_stats` and in
      `hub_messages_stats` -/
  | statsTask (now nowMessages : UInt64) (entering : Entering fromTimestampMicros)
  | resetAllStats (now : UInt64)

namespace Accounts

def step (s : Accounts) : AccountsAction fromTimestampMicros → Accounts
  | .updateInput uuid now entering =>
      { s with
        drivers :=
          Function.update s.drivers uuid ((s.drivers uuid).updateInput now entering.message) }
  | .updateOutput uuid now entering =>
      { s with
        drivers :=
          Function.update s.drivers uuid ((s.drivers uuid).updateOutput now entering.message) }
  | .statsTask now nowMessages entering =>
      { s with
        hubStats := s.hubStats.update now entering.message
        hubMessagesStats := s.hubMessagesStats.update nowMessages entering.message }
  | .resetAllStats now => .new now

/-- The leaf that a message is counted in. -/
def leaf? (s : Accounts) (message : Protocol) : Option AccumulatedStatsInner :=
  s.hubMessagesStats.leaf? message.systemId message.componentId message.messageId

/-- The step where overflow is checked: `none` is a panic. -/
def stepChecked (s : Accounts) : AccountsAction fromTimestampMicros → Option Accounts
  | .updateInput uuid now entering =>
      (AccumulatedStatsInner.updatedChecked now entering.message (s.drivers uuid).input).map
        fun input =>
          { s with
            drivers := Function.update s.drivers uuid { s.drivers uuid with input := some input } }
  | .updateOutput uuid now entering =>
      (AccumulatedStatsInner.updatedChecked now entering.message (s.drivers uuid).output).map
        fun output =>
          { s with
            drivers := Function.update s.drivers uuid { s.drivers uuid with output := some output } }
  | .statsTask now nowMessages entering => do
      let hubStats ← AccumulatedStatsInner.updatedChecked now entering.message (some s.hubStats)
      let _leaf ← AccumulatedStatsInner.updatedChecked nowMessages entering.message
        (s.leaf? entering.message)
      some { s with
        hubStats
        hubMessagesStats := s.hubMessagesStats.update nowMessages entering.message }
  | .resetAllStats now => some (.new now)

def run (boot : UInt64) (actions : List (AccountsAction fromTimestampMicros)) : Accounts :=
  actions.foldl step (.new boot)

def runChecked (boot : UInt64) (actions : List (AccountsAction fromTimestampMicros)) :
    Option Accounts := actions.foldlM stepChecked (.new boot)

end Accounts

/-- **Every counting comes no earlier than the message**: a live one is not counted at a reading in
    front of the one at its reception, and a replayed one not at a reading in front of the time that
    its eight bytes are. -/
def AccountsAction.Timely : AccountsAction fromTimestampMicros → Prop
  | .updateInput _ now entering => entering.stamp.timestamp ≤ now
  | .updateOutput _ now entering => entering.stamp.timestamp ≤ now
  | .statsTask now nowMessages entering =>
      entering.stamp.timestamp ≤ now ∧ entering.stamp.timestamp ≤ nowMessages
  | .resetAllStats _ => True

namespace Accounts

theorem stepChecked_of_timely {s : Accounts} {a : AccountsAction fromTimestampMicros}
    (h : a.Timely) : s.stepChecked a = some (s.step a) := by
  cases a with
  | updateInput uuid now entering | updateOutput uuid now entering =>
      have hle : entering.message.timestamp ≤ now := entering.stamped ▸ h
      rw [stepChecked, AccumulatedStatsInner.updatedChecked_of_le _ hle]
      rfl
  | statsTask now nowMessages entering =>
      have hle : entering.message.timestamp ≤ now := entering.stamped ▸ h.1
      have hmessages : entering.message.timestamp ≤ nowMessages := entering.stamped ▸ h.2
      rw [stepChecked, AccumulatedStatsInner.updatedChecked_of_le _ hle,
        AccumulatedStatsInner.updatedChecked_of_le _ hmessages]
      rfl
  | resetAllStats now => rfl

theorem stepChecked_of_not_timely {s : Accounts} {a : AccountsAction fromTimestampMicros}
    (h : ¬ a.Timely) : s.stepChecked a = none := by
  cases a with
  | updateInput uuid now entering | updateOutput uuid now entering =>
      have hnot : ¬ entering.message.timestamp ≤ now := entering.stamped ▸ h
      rw [stepChecked, AccumulatedStatsInner.updatedChecked_of_not_le _ hnot]
      rfl
  | statsTask now nowMessages entering =>
      have hnot : ¬ (entering.message.timestamp ≤ now ∧
          entering.message.timestamp ≤ nowMessages) := entering.stamped ▸ h
      rw [stepChecked]
      by_cases hnow : entering.message.timestamp ≤ now
      · rw [AccumulatedStatsInner.updatedChecked_of_le _ hnow,
          AccumulatedStatsInner.updatedChecked_of_not_le _ fun hmessages => hnot ⟨hnow, hmessages⟩]
        rfl
      · rw [AccumulatedStatsInner.updatedChecked_of_not_le _ hnow]
        rfl
  | resetAllStats now => exact absurd trivial h

/-- **A run panics exactly when a message is counted early**, and else is the run. -/
theorem foldlM_stepChecked {actions : List (AccountsAction fromTimestampMicros)} {s : Accounts} :
    ((∀ a ∈ actions, a.Timely) → actions.foldlM stepChecked s = some (actions.foldl step s)) ∧
      ((∃ a ∈ actions, ¬ a.Timely) → actions.foldlM stepChecked s = none) := by
  induction actions generalizing s with
  | nil => exact ⟨fun _ => rfl, fun ⟨_, hmem, _⟩ => absurd hmem List.not_mem_nil⟩
  | cons a actions ih =>
      constructor
      · intro h
        rw [List.foldlM_cons, stepChecked_of_timely (h a List.mem_cons_self)]
        exact ih.1 fun b hb => h b (List.mem_cons_of_mem _ hb)
      · rintro ⟨b, hmem, hb⟩
        by_cases ha : a.Timely
        · rw [List.foldlM_cons, stepChecked_of_timely ha]
          have hne : b ≠ a := fun heq => hb (heq ▸ ha)
          exact ih.2 ⟨b, (List.mem_cons.mp hmem).resolve_left hne, hb⟩
        · rw [List.foldlM_cons, stepChecked_of_not_timely ha]
          rfl

end Accounts

/-! ## 4. True delays -/

/-- A counter of the server. -/
inductive Counter where
  | input (uuid : DriverUuid)
  | output (uuid : DriverUuid)
  | hub
  | leaf (systemId : SystemId) (componentId : ComponentId) (messageId : MessageId)
  deriving DecidableEq, Repr

def Accounts.counter? (s : Accounts) : Counter → Option AccumulatedStatsInner
  | .input uuid => (s.drivers uuid).input
  | .output uuid => (s.drivers uuid).output
  | .hub => some s.hubStats
  | .leaf systemId componentId messageId =>
      s.hubMessagesStats.leaf? systemId componentId messageId

/-- The leaf of a message. -/
def leafOf (message : Protocol) : Counter :=
  .leaf message.systemId message.componentId message.messageId

/-- What an action adds to the delays that a counter has been given since its last reset. -/
def AccountsAction.delays (counter : Counter) (earlier : List ℤ) :
    AccountsAction fromTimestampMicros → List ℤ
  | .updateInput uuid now entering =>
      if counter = .input uuid then earlier ++ [entering.delay now] else earlier
  | .updateOutput uuid now entering =>
      if counter = .output uuid then earlier ++ [entering.delay now] else earlier
  | .statsTask now nowMessages entering =>
      if counter = .hub then earlier ++ [entering.delay now]
      else if counter = leafOf entering.message then earlier ++ [entering.delay nowMessages]
      else earlier
  | .resetAllStats _ => []

/-- **The true delays** of the messages that a counter has counted since its last reset. -/
def delays (counter : Counter) (actions : List (AccountsAction fromTimestampMicros)) : List ℤ :=
  actions.foldl (fun earlier a => a.delays counter earlier) []

/-- The counter has accumulated these delays, modulo 2^64. -/
def Accumulated (stats : Option AccumulatedStatsInner) (given : List ℤ) : Prop :=
  ((AccumulatedStatsInner.delayOf stats).toNat : ℤ) = given.sum % 2 ^ 64

theorem accumulated_updated {stats : Option AccumulatedStatsInner} {given : List ℤ} {now : UInt64}
    {entering : Entering fromTimestampMicros} (h : Accumulated stats given) :
    Accumulated (some (AccumulatedStatsInner.updated now entering.message stats))
      (given ++ [entering.delay now]) := by
  unfold Accumulated at h ⊢
  show ((AccumulatedStatsInner.updated now entering.message stats).delay.toNat : ℤ) = _
  rw [AccumulatedStatsInner.toNat_delay_updated, h, entering.stamped, List.sum_append,
    List.sum_singleton, Int.emod_add_emod]
  rfl

section Frame

variable {s : Accounts} {counter : Counter} {uuid : DriverUuid} {now nowMessages : UInt64}
  {entering : Entering fromTimestampMicros}

theorem counter?_updateInput : (s.step (.updateInput uuid now entering)).counter? counter =
    if counter = .input uuid then some (.updated now entering.message (s.counter? counter))
    else s.counter? counter := by
  cases counter with
  | input other | output other =>
      by_cases heq : other = uuid <;>
        simp [Accounts.step, Accounts.counter?, AccumulatedDriverStatsInner.updateInput, heq]
  | hub | leaf => rfl

theorem counter?_updateOutput : (s.step (.updateOutput uuid now entering)).counter? counter =
    if counter = .output uuid then some (.updated now entering.message (s.counter? counter))
    else s.counter? counter := by
  cases counter with
  | input other | output other =>
      by_cases heq : other = uuid <;>
        simp [Accounts.step, Accounts.counter?, AccumulatedDriverStatsInner.updateOutput, heq]
  | hub | leaf => rfl

theorem counter?_statsTask : (s.step (.statsTask now nowMessages entering)).counter? counter =
    if counter = .hub then some (.updated now entering.message (s.counter? counter))
    else if counter = leafOf entering.message then
      some (.updated nowMessages entering.message (s.counter? counter))
    else s.counter? counter := by
  cases counter with
  | input | output | hub => rfl
  | leaf systemId componentId messageId =>
      rw [if_neg (by simp)]
      show (s.hubMessagesStats.update nowMessages entering.message).leaf? systemId componentId
        messageId = _
      unfold AccumulatedHubMessagesStats.update
      rw [HubMessagesStats.leaf?_entry]
      by_cases hleaf : systemId = entering.message.systemId ∧
          componentId = entering.message.componentId ∧ messageId = entering.message.messageId
      · obtain ⟨rfl, rfl, rfl⟩ := hleaf
        exact (if_pos ⟨rfl, rfl, rfl⟩).trans (if_pos rfl).symm
      · rw [if_neg hleaf, if_neg fun heq => hleaf (by simpa [leafOf] using heq)]
        rfl

/-- Nothing has been accumulated in new counters. -/
theorem accumulated_new : Accumulated ((Accounts.new now).counter? counter) [] := by
  cases counter with
  | input | output | hub | leaf => rfl

end Frame

/-- **One step keeps every counter**: what it adds to the counter is the delay that is noted. -/
theorem accumulated_step {s : Accounts} {a : AccountsAction fromTimestampMicros} {counter : Counter}
    {given : List ℤ} (h : Accumulated (s.counter? counter) given) :
    Accumulated ((s.step a).counter? counter) (a.delays counter given) := by
  cases a with
  | updateInput uuid now entering =>
      rw [counter?_updateInput, AccountsAction.delays]
      split
      · exact accumulated_updated h
      · exact h
  | updateOutput uuid now entering =>
      rw [counter?_updateOutput, AccountsAction.delays]
      split
      · exact accumulated_updated h
      · exact h
  | statsTask now nowMessages entering =>
      rw [counter?_statsTask, AccountsAction.delays]
      split
      · exact accumulated_updated h
      · split
        · exact accumulated_updated h
        · exact h
  | resetAllStats now => exact accumulated_new

/-- **In every run every counter has accumulated its true delays**, modulo 2^64. -/
theorem accumulated_run (boot : UInt64) (actions : List (AccountsAction fromTimestampMicros))
    (counter : Counter) :
    Accumulated ((Accounts.run boot actions).counter? counter) (delays counter actions) := by
  have hfoldl : ∀ (s : Accounts) (given : List ℤ), Accumulated (s.counter? counter) given →
      Accumulated ((actions.foldl Accounts.step s).counter? counter)
        (actions.foldl (fun earlier a => a.delays counter earlier) given) := by
    induction actions with
    | nil => exact fun _ _ h => h
    | cons a actions ih => exact fun s given h => ih (s.step a) _ (accumulated_step h)
  exact hfoldl (.new boot) [] accumulated_new

/-- **The delays of a run are true**: no subtraction panics, and every counter has accumulated
    delays that are not negative. -/
structure DelaysTrue (boot : UInt64) (actions : List (AccountsAction fromTimestampMicros)) : Prop
    where
  noPanic : Accounts.runChecked boot actions = some (Accounts.run boot actions)
  true : ∀ counter, (∀ delay ∈ delays counter actions, 0 ≤ delay) ∧
    Accumulated ((Accounts.run boot actions).counter? counter) (delays counter actions)

theorem Entering.delay_nonneg {entering : Entering fromTimestampMicros} {now : UInt64}
    (h : entering.stamp.timestamp ≤ now) : 0 ≤ entering.delay now := by
  have hle := UInt64.le_iff_toNat_le.mp h
  unfold Entering.delay
  omega

theorem delays_step_nonneg {counter : Counter} {a : AccountsAction fromTimestampMicros}
    {earlier : List ℤ} (ha : a.Timely) (h : ∀ delay ∈ earlier, 0 ≤ delay) :
    ∀ delay ∈ a.delays counter earlier, 0 ≤ delay := by
  have hmore : ∀ {delay : ℤ}, 0 ≤ delay → ∀ d ∈ earlier ++ [delay], 0 ≤ d := by
    intro delay hdelay d hd
    rcases List.mem_append.mp hd with hd | hd
    · exact h d hd
    · exact List.mem_singleton.mp hd ▸ hdelay
  cases a with
  | updateInput uuid now entering | updateOutput uuid now entering =>
      rw [AccountsAction.delays]
      split
      · exact hmore (Entering.delay_nonneg ha)
      · exact h
  | statsTask now nowMessages entering =>
      rw [AccountsAction.delays]
      split
      · exact hmore (Entering.delay_nonneg ha.1)
      · split
        · exact hmore (Entering.delay_nonneg ha.2)
        · exact h
  | resetAllStats now => exact fun _ hd => absurd hd List.not_mem_nil

/-- The delays of messages that are counted in time. -/
theorem delays_nonneg {counter : Counter} {actions : List (AccountsAction fromTimestampMicros)}
    (h : ∀ a ∈ actions, a.Timely) : ∀ delay ∈ delays counter actions, 0 ≤ delay := by
  have hfoldl : ∀ earlier : List ℤ, (∀ delay ∈ earlier, 0 ≤ delay) →
      ∀ delay ∈ actions.foldl (fun earlier a => a.delays counter earlier) earlier, 0 ≤ delay := by
    induction actions with
    | nil => exact fun _ h => h
    | cons a actions ih =>
        exact fun earlier hearlier => ih (fun b hb => h b (List.mem_cons_of_mem _ hb)) _
          (delays_step_nonneg (h a List.mem_cons_self) hearlier)
  exact hfoldl [] fun _ hd => absurd hd List.not_mem_nil

/-- **The delays are true exactly when every message is counted in time.** -/
theorem delaysTrue_iff (boot : UInt64) (actions : List (AccountsAction fromTimestampMicros)) :
    DelaysTrue boot actions ↔ ∀ a ∈ actions, a.Timely := by
  constructor
  · intro h
    by_contra hnot
    have hlate : ∃ a ∈ actions, ¬ a.Timely := by
      simpa using hnot
    have hnone : Accounts.runChecked boot actions = none := Accounts.foldlM_stepChecked.2 hlate
    rw [h.noPanic] at hnone
    cases hnone
  · exact fun h =>
      { noPanic := Accounts.foldlM_stepChecked.1 h
        true := fun counter => ⟨delays_nonneg h, accumulated_run boot actions counter⟩ }

/-- A frame behind eight bytes 0xFF, which are the microsecond before 1970. -/
def beforeEpoch : Entering fun _ => true where
  message :=
    { origin := "flight.tlog"
      timestamp := 0xFFFFFFFFFFFFFFFF
      systemId := 1
      componentId := 1
      messageId := 0
      packetSize := 21 }
  stamp := .replayed (List.replicate 8 0xFF)
  stamped := by decide
  accepted := by
    rintro _ ⟨⟩
    exact ⟨by decide, rfl⟩

/-- The reader of the log counts it, in 2025. -/
theorem not_delaysTrue_beforeEpoch :
    ¬ DelaysTrue 1735689600000000 [.updateInput 0 1735689600000000 beforeEpoch] := by
  rw [delaysTrue_iff]
  intro h
  have hle := h _ List.mem_cons_self
  revert hle
  show ¬ (beforeEpoch.stamp.timestamp ≤ 1735689600000000)
  decide

end MavlinkServer.Stats
