/-
  File:      MavlinkServer/Stats/Published.lean
  Subject:   THE PUBLISHED STATISTICS (`src/lib/stats/mod.rs`: `from_accumulated`;
             `src/lib/stats/actor.rs`: what the three update functions make of
             two snapshots).

  * `StatsInner.fromAccumulated` -- from a counter and what it was before; the
    differences are taken modulo 2^64;
  * `Call` -- the two counters of one call of it. Every update function is a
    list of calls (`hubCalls`, `driversCalls`, `hubMessagesCalls`) and what
    their results are put into;
  * `hubBehind`, `driversBehind`, `hubMessagesBehind` -- an older snapshot is
    behind a newer one when none of its counters is ahead of the newer one's;
  * `hubCalls_ordered` and its like -- then no call gets a counter that ran
    backwards.
-/
import MavlinkServer.Hub.Stats

namespace MavlinkServer.Stats

open Lib Hub

/-! ## 1. From two counters -/

structure ByteStats where
  totalBytes : UInt64
  bytesPerSecond : Float
  averageBytesPerSecond : Float

structure MessageStats where
  totalMessages : UInt64
  messagesPerSecond : Float
  averageMessagesPerSecond : Float

structure DelayStats where
  delay : Float
  jitter : Float

structure StatsInner where
  lastMessageTimeUs : UInt64
  bytes : ByteStats
  messages : MessageStats
  delayStats : DelayStats

def StatsInner.default : StatsInner := ⟨0, ⟨0, 0, 0⟩, ⟨0, 0, 0⟩, ⟨0, 0⟩⟩

def divideSafe (numerator denominator : Float) : Float :=
  if denominator > 0 then numerator / denominator else 0

def calculateTimeDiffUs (lastMicros currentMicros : UInt64) : Float :=
  (currentMicros.toFloat - lastMicros.toFloat) / 1000000

def ByteStats.fromAccumulated (currentBytes lastBytes : UInt64) (timeDiff totalTime : Float) :
    ByteStats :=
  let diffBytes := currentBytes - lastBytes
  { totalBytes := currentBytes
    bytesPerSecond := divideSafe diffBytes.toFloat timeDiff
    averageBytesPerSecond := divideSafe currentBytes.toFloat totalTime }

def MessageStats.fromAccumulated (currentMessages lastMessages : UInt64)
    (timeDiff totalTime : Float) : MessageStats :=
  let diffMessages := currentMessages - lastMessages
  { totalMessages := currentMessages
    messagesPerSecond := divideSafe diffMessages.toFloat timeDiff
    averageMessagesPerSecond := divideSafe currentMessages.toFloat totalTime }

def DelayStats.fromAccumulated (currentDelay lastDelay currentMessages lastMessages : UInt64) :
    DelayStats :=
  let delay := divideSafe currentDelay.toFloat currentMessages.toFloat
  let lastDelay := divideSafe lastDelay.toFloat lastMessages.toFloat
  { delay, jitter := (delay - lastDelay).abs }

def StatsInner.fromAccumulated (currentStats lastStats : AccumulatedStatsInner)
    (startTime : UInt64) : StatsInner :=
  let timeDiff := calculateTimeDiffUs lastStats.lastUpdateUs currentStats.lastUpdateUs
  let totalTime := calculateTimeDiffUs startTime currentStats.lastUpdateUs
  { lastMessageTimeUs := currentStats.lastUpdateUs
    bytes := .fromAccumulated currentStats.bytes lastStats.bytes timeDiff totalTime
    messages := .fromAccumulated currentStats.messages lastStats.messages timeDiff totalTime
    delayStats := .fromAccumulated currentStats.delay lastStats.delay currentStats.messages
      lastStats.messages }

/-- The counters of one call of `StatsInner::from_accumulated`. -/
structure Call where
  current : AccumulatedStatsInner
  last : AccumulatedStatsInner
  deriving DecidableEq, Repr

def Call.result (call : Call) (startTime : UInt64) : StatsInner :=
  .fromAccumulated call.current call.last startTime

/-- **The counter did not run backwards**: the subtractions of the call do not underflow. -/
def Call.Ordered (call : Call) : Prop :=
  call.last.bytes ≤ call.current.bytes ∧ call.last.messages ≤ call.current.messages

instance (call : Call) : Decidable call.Ordered := inferInstanceAs (Decidable (_ ∧ _))

/-- The call of a counter, with a default where it was not there before. -/
def callOf (now : UInt64) (current : AccumulatedStatsInner) (last : Option AccumulatedStatsInner) :
    Call :=
  ⟨current, last.getD (.default now)⟩

theorem callOf_ordered {now : UInt64} {current : AccumulatedStatsInner}
    {last : Option AccumulatedStatsInner} (h : AccumulatedStatsInner.Le last (some current)) :
    (callOf now current last).Ordered := by
  cases last with
  | none => exact ⟨UInt64.zero_le, UInt64.zero_le⟩
  | some last => exact ⟨h.2, h.1⟩

/-! ## 2. `update_hub_stats` -/

def hubCalls (last current : AccumulatedStatsInner) : List Call := [⟨current, last⟩]

def newHubStats (startTime : UInt64) (current last : AccumulatedStatsInner) : StatsInner :=
  .fromAccumulated current last startTime

def hubBehind (older newer : AccumulatedStatsInner) : Prop :=
  AccumulatedStatsInner.Le (some older) (some newer)

theorem hubCalls_ordered {last current : AccumulatedStatsInner} (h : hubBehind last current) :
    ∀ call ∈ hubCalls last current, call.Ordered := by
  intro call hc
  rw [List.mem_singleton.mp hc]
  exact ⟨h.2, h.1⟩

/-! ## 3. `update_driver_stats` -/

structure DriverStatsInner where
  input : Option StatsInner
  output : Option StatsInner

structure DriverStats where
  name : String
  driverType : String
  endpoint : String
  stats : DriverStatsInner

abbrev DriversStats : Type := IndexMap DriverUuid DriverStats

/-- For every driver of either snapshot, its counters in the one and in the other. -/
abbrev MergedStats : Type :=
  IndexMap DriverUuid (Option AccumulatedDriverStats × Option AccumulatedDriverStats)

def mergedStats (last current : AccumulatedDriversStats) : MergedStats :=
  (IndexMap.empty.extend last fun lastStruct _ => (some lastStruct, none)).extend current
    fun currentStruct e => match e with
      | some e => (e.1, some currentStruct)
      | none => (none, some currentStruct)

def inputCall (now : UInt64) (last : Option AccumulatedDriverStats)
    (current : AccumulatedDriverStats) : Option Call :=
  current.stats.input.map fun stats => callOf now stats (last.bind (·.stats.input))

def outputCall (now : UInt64) (last : Option AccumulatedDriverStats)
    (current : AccumulatedDriverStats) : Option Call :=
  current.stats.output.map fun stats => callOf now stats (last.bind (·.stats.output))

def driversCalls (now : UInt64) (last current : AccumulatedDriversStats) : List Call :=
  (mergedStats last current).entries.flatMap fun (_, last, current) =>
    match current with
    | some current => (inputCall now last current).toList ++ (outputCall now last current).toList
    | none => []

def newDriversStats (now startTime : UInt64) (current last : AccumulatedDriversStats) :
    DriversStats :=
  (mergedStats last current).entries.foldl (fun new (uuid, last, current) =>
    match current with
    | some current => (new.insert uuid
        { name := current.name
          driverType := current.driverType
          endpoint := current.endpoint
          stats := {
            input := (inputCall now last current).map (·.result startTime)
            output := (outputCall now last current).map (·.result startTime) } }).2
    | none => new) .empty

/-- What a snapshot counts for a driver, which may not be in it. -/
def countersOf (snapshot : AccumulatedDriversStats) (uuid : DriverUuid) :
    AccumulatedDriverStatsInner :=
  ((snapshot.get? uuid).map (·.stats)).getD .default

/-- No driver of the newer snapshot is behind what the older one has counted for it. -/
def driversBehind (older newer : AccumulatedDriversStats) : Prop :=
  ∀ uuid driver, newer.get? uuid = some driver →
    AccumulatedDriverStatsInner.Le (countersOf older uuid) driver.stats

theorem get?_mergedStats (last current : AccumulatedDriversStats) (uuid : DriverUuid) :
    (mergedStats last current).get? uuid =
      match last.get? uuid, current.get? uuid with
      | none, none => none
      | l, c => some (l, c) := by
  unfold mergedStats
  rw [IndexMap.get?_extend, IndexMap.get?_extend]
  cases last.get? uuid with
  | none =>
      cases current.get? uuid with
      | none => rfl
      | some c => rfl
  | some l =>
      cases current.get? uuid with
      | none => rfl
      | some c => rfl

theorem driversCalls_ordered {now : UInt64} {last current : AccumulatedDriversStats}
    (h : driversBehind last current) : ∀ call ∈ driversCalls now last current, call.Ordered := by
  intro call hc
  obtain ⟨⟨uuid, l, c⟩, hmem, hc⟩ := List.mem_flatMap.mp hc
  cases c with
  | none => cases hc
  | some driver =>
      have hmerged := (IndexMap.get?_eq_some.mpr hmem).symm.trans (get?_mergedStats last current uuid)
      obtain ⟨hl, hd⟩ : l = last.get? uuid ∧ current.get? uuid = some driver := by
        cases hl : last.get? uuid with
        | none =>
            cases hd : current.get? uuid with
            | none => rw [hl, hd] at hmerged; cases hmerged
            | some d => rw [hl, hd] at hmerged; cases hmerged; exact ⟨rfl, rfl⟩
        | some l' =>
            cases hd : current.get? uuid with
            | none => rw [hl, hd] at hmerged; cases hmerged
            | some d => rw [hl, hd] at hmerged; cases hmerged; exact ⟨rfl, rfl⟩
      have hle := h uuid driver hd
      unfold countersOf at hle
      rw [← hl] at hle
      rcases List.mem_append.mp hc with hc | hc
      · obtain ⟨stats, hs, rfl⟩ := Option.map_eq_some_iff.mp (Option.mem_toList.mp hc)
        refine callOf_ordered ?_
        rw [← hs]
        cases l with
        | none => exact hle.1
        | some l => exact hle.1
      · obtain ⟨stats, hs, rfl⟩ := Option.map_eq_some_iff.mp (Option.mem_toList.mp hc)
        refine callOf_ordered ?_
        rw [← hs]
        cases l with
        | none => exact hle.2
        | some l => exact hle.2

/-! ## 4. `update_hub_messages_stats` -/

/-- The leaves in the order of the three loops. -/
def leaves {α : Type} (stats : HubMessagesStats α) :
    List (SystemId × ComponentId × MessageId × α) :=
  stats.systemsMessagesStats.entries.flatMap fun (systemId, system) =>
    system.componentsMessagesStats.entries.flatMap fun (componentId, component) =>
      component.messagesStats.entries.map fun (messageId, leaf) =>
        (systemId, componentId, messageId, leaf)

def hubMessagesCalls (now : UInt64) (last current : AccumulatedHubMessagesStats) :
    List (SystemId × ComponentId × MessageId × Call) :=
  (leaves current).map fun (systemId, componentId, messageId, stats) =>
    (systemId, componentId, messageId, callOf now stats (last.leaf? systemId componentId messageId))

def newHubMessagesStats (now startTime : UInt64) (current last : AccumulatedHubMessagesStats) :
    HubMessagesStats StatsInner :=
  (hubMessagesCalls now last current).foldl (fun new (systemId, componentId, messageId, call) =>
    new.entry systemId componentId messageId fun _ => call.result startTime) .empty

/-- No leaf of the older snapshot is ahead of the newer one's. -/
def hubMessagesBehind (older newer : AccumulatedHubMessagesStats) : Prop :=
  ∀ systemId componentId messageId, AccumulatedStatsInner.Le
    (older.leaf? systemId componentId messageId) (newer.leaf? systemId componentId messageId)

theorem mem_leaves {α : Type} {stats : HubMessagesStats α} {systemId : SystemId}
    {componentId : ComponentId} {messageId : MessageId} {leaf : α} :
    (systemId, componentId, messageId, leaf) ∈ leaves stats ↔
      stats.leaf? systemId componentId messageId = some leaf := by
  unfold leaves HubMessagesStats.leaf? SystemMessagesStats.leaf? ComponentMessageStats.leaf?
  simp only [List.mem_flatMap, List.mem_map, Option.bind_eq_some_iff, IndexMap.get?_eq_some,
    Prod.mk.injEq, Prod.exists]
  constructor
  · rintro ⟨_, system, hs, _, component, hc, _, _, hm, rfl, rfl, rfl, rfl⟩
    exact ⟨system, hs, component, hc, hm⟩
  · rintro ⟨system, hs, component, hc, hm⟩
    exact ⟨systemId, system, hs, componentId, component, hc, messageId, leaf, hm, rfl, rfl, rfl, rfl⟩

theorem hubMessagesCalls_ordered {now : UInt64} {last current : AccumulatedHubMessagesStats}
    (h : hubMessagesBehind last current) :
    ∀ call ∈ (hubMessagesCalls now last current).map (·.2.2.2), call.Ordered := by
  intro call hc
  obtain ⟨entry, hentry, rfl⟩ := List.mem_map.mp hc
  obtain ⟨⟨systemId, componentId, messageId, stats⟩, hmem, he⟩ := List.mem_map.mp hentry
  have hle := h systemId componentId messageId
  rw [mem_leaves.mp hmem] at hle
  rw [← he]
  exact callOf_ordered hle

end MavlinkServer.Stats
