/-
  File:      MavlinkServer/Stats/Mirror.lean
  Subject:   WHAT IS PUBLISHED ABOUT THE DRIVERS (`src/lib/stats/actor.rs`:
             `update_driver_stats`).

  * `updateDriverStats` -- the map that is published and the snapshot that is
    kept for the next time, as the function makes them: one pass over either
    snapshot, then one over the drivers of both;
  * `Mirrors` -- what an entry has to be, said of one driver;
  * **`updateDriverStats_mirrors`** -- the published map has the drivers of the
    current snapshot, each once, and every entry mirrors its driver;
  * `updateDriverStats_eq` -- the task of `Stats/Actor` publishes this map, when
    both defaults are made at one time.
-/
import MavlinkServer.Stats.Published

namespace MavlinkServer.Stats

open Lib Hub

/-! ## 1. The function -/

/-- What is made of one entry of `merged_stats`: nothing, for a driver that is gone. -/
def newDriverStats (defaultInput defaultOutput : AccumulatedStatsInner) (startTime : UInt64) :
    Option AccumulatedDriverStats × Option AccumulatedDriverStats → Option DriverStats
  | (_, none) => none
  | (last, some currentStats) =>
      let newInputStats := match currentStats.stats.input with
        | some currentInputStats =>
            let lastInputStats := (last.bind fun l => l.stats.input).getD defaultInput
            some (StatsInner.fromAccumulated currentInputStats lastInputStats startTime)
        | none => none
      let newOutputStats := match currentStats.stats.output with
        | some currentOutputStats =>
            let lastOutputStats := (last.bind fun l => l.stats.output).getD defaultOutput
            some (StatsInner.fromAccumulated currentOutputStats lastOutputStats startTime)
        | none => none
      some {
        name := currentStats.name
        driverType := currentStats.driverType
        endpoint := currentStats.endpoint
        stats := { input := newInputStats, output := newOutputStats } }

/-- The map for `driver_stats` and the one for `last_accumulated_drivers_stats`. The two
    defaults look at the clock one after the other. -/
def updateDriverStats (inputNow outputNow startTime : UInt64)
    (lastMap currentMap : AccumulatedDriversStats) : DriversStats × AccumulatedDriversStats :=
  let defaultInput := AccumulatedStatsInner.default inputNow
  let defaultOutput := AccumulatedStatsInner.default outputNow
  ((mergedStats lastMap currentMap).collect (newDriverStats defaultInput defaultOutput startTime),
    currentMap)

/-! ## 2. Mirrors -/

/-- One direction of a driver: nothing without a counter, else the counter against what it was,
    or against the default where it was not there. -/
def mirrored (fallback : AccumulatedStatsInner) (startTime : UInt64)
    (last current : Option AccumulatedStatsInner) : Option StatsInner :=
  current.map fun stats => .fromAccumulated stats (last.getD fallback) startTime

/-- **The entry mirrors the driver**, against what the last snapshot has for the same driver. -/
structure Mirrors (inputNow outputNow startTime : UInt64) (last : Option AccumulatedDriverStats)
    (current : AccumulatedDriverStats) (published : DriverStats) : Prop where
  name : published.name = current.name
  driverType : published.driverType = current.driverType
  endpoint : published.endpoint = current.endpoint
  input : published.stats.input = mirrored (.default inputNow) startTime
    (last.bind (·.stats.input)) current.stats.input
  output : published.stats.output = mirrored (.default outputNow) startTime
    (last.bind (·.stats.output)) current.stats.output

variable {inputNow outputNow startTime : UInt64} {last current : AccumulatedDriversStats}

theorem newDriverStats_mirrors (last : Option AccumulatedDriverStats)
    (current : AccumulatedDriverStats) :
    ∃ published, newDriverStats (.default inputNow) (.default outputNow) startTime
        (last, some current) = some published ∧
      Mirrors inputNow outputNow startTime last current published := by
  refine ⟨_, rfl, rfl, rfl, rfl, ?_, ?_⟩
  · show (match current.stats.input with | some _ => _ | none => _) = _
    unfold mirrored
    cases current.stats.input with
    | none => rfl
    | some stats => rfl
  · show (match current.stats.output with | some _ => _ | none => _) = _
    unfold mirrored
    cases current.stats.output with
    | none => rfl
    | some stats => rfl

/-- What is published under a uuid is made of what both snapshots have under it. -/
theorem get?_updateDriverStats (uuid : DriverUuid) :
    (updateDriverStats inputNow outputNow startTime last current).1.get? uuid =
      (current.get? uuid).bind fun driver =>
        newDriverStats (.default inputNow) (.default outputNow) startTime
          (last.get? uuid, some driver) := by
  show (IndexMap.collect _ _).get? uuid = _
  rw [IndexMap.get?_collect, get?_mergedStats]
  cases last.get? uuid with
  | none =>
      cases current.get? uuid with
      | none => rfl
      | some driver => rfl
  | some l =>
      cases current.get? uuid with
      | none => rfl
      | some driver => rfl

theorem get?_updateDriverStats_none (uuid : DriverUuid) :
    (updateDriverStats inputNow outputNow startTime last current).1.get? uuid = none ↔
      current.get? uuid = none := by
  rw [get?_updateDriverStats]
  cases current.get? uuid with
  | none => exact ⟨fun _ => rfl, fun _ => rfl⟩
  | some driver =>
      obtain ⟨published, hp, _⟩ := newDriverStats_mirrors (last.get? uuid) driver
      rw [Option.bind_some, hp]
      constructor
      · intro h
        cases h
      · intro h
        cases h

/-- **The published map mirrors the registry's snapshot**: the uuids are those of the current
    snapshot, each once; every entry mirrors its driver against what the last snapshot has under
    the same uuid; nothing is there about a driver that is gone; and the current snapshot is the
    last one of the next time. -/
theorem updateDriverStats_mirrors (inputNow outputNow startTime : UInt64)
    (last current : AccumulatedDriversStats) :
    let result := updateDriverStats inputNow outputNow startTime last current
    (result.1.entries.map (·.1)).Perm (current.entries.map (·.1)) ∧
      (result.1.entries.map (·.1)).Nodup ∧
      (∀ uuid driver, current.get? uuid = some driver →
        ∃ published, result.1.get? uuid = some published ∧
          Mirrors inputNow outputNow startTime (last.get? uuid) driver published) ∧
      (∀ uuid, current.get? uuid = none → result.1.get? uuid = none) ∧
      result.2 = current := by
  intro result
  refine ⟨?_, result.1.nodup, ?_, ?_, rfl⟩
  · exact IndexMap.keys_perm get?_updateDriverStats_none
  · intro uuid driver hdriver
    obtain ⟨published, hp, hm⟩ := newDriverStats_mirrors (last.get? uuid) driver
    refine ⟨published, ?_, hm⟩
    show (updateDriverStats inputNow outputNow startTime last current).1.get? uuid = _
    rw [get?_updateDriverStats, hdriver, Option.bind_some, hp]
  · exact fun uuid h => (get?_updateDriverStats_none uuid).mpr h

/-! ## 3. The task -/

/-- The calls of `Stats/Published` are the same comparisons. -/
theorem map_inputCall (now : UInt64) (last : Option AccumulatedDriverStats)
    (driver : AccumulatedDriverStats) :
    (inputCall now last driver).map (·.result startTime) =
      mirrored (.default now) startTime (last.bind (·.stats.input)) driver.stats.input :=
  Option.map_map _ _ _

theorem map_outputCall (now : UInt64) (last : Option AccumulatedDriverStats)
    (driver : AccumulatedDriverStats) :
    (outputCall now last driver).map (·.result startTime) =
      mirrored (.default now) startTime (last.bind (·.stats.output)) driver.stats.output :=
  Option.map_map _ _ _

/-- **The task of the actor publishes this map.** -/
theorem updateDriverStats_eq (now startTime : UInt64) (last current : AccumulatedDriversStats) :
    updateDriverStats now now startTime last current =
      (newDriversStats now startTime current last, current) := by
  refine Prod.ext ?_ rfl
  show List.foldl _ _ _ = List.foldl _ _ _
  congr 1
  funext new ⟨uuid, last, current⟩
  cases current with
  | none => rfl
  | some driver =>
      obtain ⟨published, hp, hm⟩ : ∃ published,
          newDriverStats (.default now) (.default now) startTime (last, some driver) =
            some published ∧ Mirrors now now startTime last driver published :=
        newDriverStats_mirrors last driver
      show (match newDriverStats (.default now) (.default now) startTime (last, some driver) with
        | some v => (new.insert uuid v).2
        | none => new) = (new.insert uuid _).2
      rw [hp, map_inputCall, map_outputCall, ← hm.name, ← hm.driverType, ← hm.endpoint, ← hm.input,
        ← hm.output]

end MavlinkServer.Stats
