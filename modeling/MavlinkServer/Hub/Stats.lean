/-
  File:      MavlinkServer/Hub/Stats.lean
  Subject:   THE COUNTERS OF THE HUB (`src/lib/hub/actor.rs`: `stats_task`,
             `reset_all_stats`, `get_drivers_stats`).

  * `HubStats` -- the counters of the registered drivers, the hub's own, and
    the two tasks that touch them: `stats_task`, which takes the hub's messages
    one by one, and the actor, which works off its commands one by one;
  * `step` -- every lock is taken, used and given back in one statement, so
    each use of a lock is one step;
  * `Uncut` -- no reset clears a message on one side that it leaves on the other;
  * `totals_agree` -- then the totals agree with the leaves between two messages;
  * `totals_torn` -- otherwise they need not agree, until the next reset.
-/
import MavlinkServer.Hub.Registry
import MavlinkServer.Stats.Accumulated

namespace MavlinkServer.Hub

open Lib Stats

/-! ## 1. The state -/

abbrev AccumulatedDriversStats : Type := IndexMap DriverUuid AccumulatedDriverStats

/-- Where `stats_task` is. -/
inductive StatsTask where
  /-- waits for a message -/
  | waiting
  /-- has one, and goes for `hub_stats` -/
  | received (message : Protocol)
  /-- has added it there, and goes for `hub_messages_stats` -/
  | totalled (message : Protocol)
  /-- left its loop, since the receiver gave an error -/
  | ended
  deriving DecidableEq, Repr

/-- `stats_task` is between two messages. -/
def StatsTask.between : StatsTask → Bool
  | .waiting | .ended => true
  | .received _ | .totalled _ => false

/-- Which command with further locks to take the actor is at. -/
inductive HubJob where
  | idle
  /-- `reset_all_stats`, with these drivers to reset -/
  | resetDrivers (left : List DriverUuid)
  | resetHubStats
  | resetHubMessagesStats
  | resetDone
  /-- `get_drivers_stats`, with these drivers to read -/
  | readDrivers (left : List DriverUuid) (read : AccumulatedDriversStats)
  deriving DecidableEq

structure HubStats where
  drivers : AccumulatedDriversStats
  hubStats : AccumulatedStatsInner
  hubMessagesStats : AccumulatedHubMessagesStats
  task : StatsTask
  job : HubJob
  deriving DecidableEq

def HubStats.new (now : UInt64) : HubStats := ⟨.empty, .default now, .empty, .waiting, .idle⟩

/-! ## 2. The steps -/

inductive HubStatsAction where
  /-- a task of a driver counts a message that came in, or went out -/
  | updateInput (uuid : DriverUuid) (now : UInt64) (message : Protocol)
  | updateOutput (uuid : DriverUuid) (now : UInt64) (message : Protocol)
  /-- `stats_task` receives a message, or the notice that it has missed some -/
  | recv (message : Protocol)
  | lagged
  /-- it adds the message to `hub_stats`, and then to `hub_messages_stats` -/
  | total (now : UInt64)
  | detail (now : UInt64)
  /-- the actor takes a command -/
  | addDriver (uuid : DriverUuid) (stats : AccumulatedDriverStats)
  | removeDriver (uuid : DriverUuid)
  | resetAllStats
  | getDriversStats
  /-- it takes the next lock of `reset_all_stats`, or of `get_drivers_stats` -/
  | clear (now : UInt64)
  | read
  /-- it answers -/
  | respond
  deriving DecidableEq

namespace HubStats

def clear (s : HubStats) (now : UInt64) : Option HubStats :=
  match s.job with
  | .resetDrivers (uuid :: left) =>
      some { s with
        drivers := s.drivers.modify uuid AccumulatedDriverStats.resetStats
        job := .resetDrivers left }
  | .resetDrivers [] => some { s with job := .resetHubStats }
  | .resetHubStats => some { s with hubStats := .default now, job := .resetHubMessagesStats }
  | .resetHubMessagesStats => some { s with hubMessagesStats := .empty, job := .resetDone }
  | _ => none

def read (s : HubStats) : Option HubStats :=
  match s.job with
  | .readDrivers (uuid :: left) read =>
      match s.drivers.get? uuid with
      | some stats => some { s with job := .readDrivers left (read.insert uuid stats).2 }
      | none => none
  | _ => none

def step (s : HubStats) : HubStatsAction → Option HubStats
  | .updateInput uuid now message => some { s with drivers := s.drivers.modify uuid fun driver =>
      { driver with stats := driver.stats.updateInput now message } }
  | .updateOutput uuid now message => some { s with drivers := s.drivers.modify uuid fun driver =>
      { driver with stats := driver.stats.updateOutput now message } }
  | .recv message => if s.task = .waiting then some { s with task := .received message } else none
  | .lagged => if s.task = .waiting then some { s with task := .ended } else none
  | .total now =>
      match s.task with
      | .received message =>
          some { s with hubStats := s.hubStats.update now message, task := .totalled message }
      | _ => none
  | .detail now =>
      match s.task with
      | .totalled message =>
          some { s with hubMessagesStats := s.hubMessagesStats.update now message, task := .waiting }
      | _ => none
  | .addDriver uuid stats =>
      if s.job = .idle then some { s with drivers := (s.drivers.insert uuid stats).2 } else none
  | .removeDriver uuid =>
      if s.job = .idle then some { s with drivers := (s.drivers.swapRemove uuid).2 } else none
  | .resetAllStats =>
      if s.job = .idle then some { s with job := .resetDrivers (s.drivers.entries.map (·.1)) }
      else none
  | .getDriversStats =>
      if s.job = .idle then some { s with job := .readDrivers (s.drivers.entries.map (·.1)) .empty }
      else none
  | .clear now => s.clear now
  | .read => s.read
  | .respond =>
      match s.job with
      | .resetDone | .readDrivers [] _ => some { s with job := .idle }
      | _ => none

end HubStats

/-- The counters of the registered drivers, with what every driver object counts. -/
def HubActor.counters (s : HubActor) (stats : Nat → AccumulatedDriverStats) :
    AccumulatedDriversStats :=
  s.drivers.map fun runner => stats runner.driver.object

/-- **The registry and the counters agree** on what AddDriver does: the new driver is counted in
    place of one that was there, also where the command fails. -/
theorem counters_addDriver (s : HubActor) (driver : Driver) (stats : Nat → AccumulatedDriverStats) :
    (s.addDriver driver).2.counters stats =
      ((s.counters stats).insert driver.uuid (stats driver.object)).2 := by
  unfold HubActor.counters
  rw [(addDriver_eq s driver).1, IndexMap.map_insert]

theorem counters_removeDriver (s : HubActor) (uuid : DriverUuid)
    (stats : Nat → AccumulatedDriverStats) :
    (s.removeDriver uuid).2.counters stats = ((s.counters stats).swapRemove uuid).2 := by
  have hdrivers : (s.removeDriver uuid).2.drivers = (s.drivers.swapRemove uuid).2 := by
    obtain ⟨hnone, hsome⟩ := removeDriver_eq s uuid
    cases hget : s.drivers.get? uuid with
    | none =>
        rw [hnone hget, IndexMap.swapRemove_of_none hget]
    | some removed => rw [hsome removed hget]
  unfold HubActor.counters
  rw [hdrivers, IndexMap.map_swapRemove]

/-- A step that neither takes a request of the statistics nor answers one. -/
def HubStatsAction.own : HubStatsAction → Bool
  | .resetAllStats | .getDriversStats | .respond => false
  | _ => true

def HubJob.resetting : HubJob → Bool
  | .resetDrivers _ | .resetHubStats | .resetHubMessagesStats | .resetDone => true
  | .idle | .readDrivers _ _ => false

def HubJob.reading : HubJob → Bool
  | .readDrivers _ _ => true
  | _ => false

theorem clear_cases {s s' : HubStats} {now : UInt64} (h : s.clear now = some s') :
    s.job.resetting = true ∧ s'.job.resetting = true := by
  unfold HubStats.clear at h
  split at h
  · rename_i hjob
    cases h
    rw [hjob]
    exact ⟨rfl, rfl⟩
  · rename_i hjob
    cases h
    rw [hjob]
    exact ⟨rfl, rfl⟩
  · rename_i hjob
    cases h
    rw [hjob]
    exact ⟨rfl, rfl⟩
  · rename_i hjob
    cases h
    rw [hjob]
    exact ⟨rfl, rfl⟩
  · cases h

/-- The next driver is read, with the counters it has. -/
theorem read_cases {s s' : HubStats} (h : s.read = some s') :
    ∃ uuid left read stats, s.job = .readDrivers (uuid :: left) read ∧
      s.drivers.get? uuid = some stats ∧
      s' = { s with job := .readDrivers left (read.insert uuid stats).2 } := by
  unfold HubStats.read at h
  split at h
  · rename_i uuid left read hjob
    split at h
    · rename_i stats hget
      cases h
      exact ⟨uuid, left, read, stats, hjob, hget, rfl⟩
    · cases h
  · cases h

theorem total_cases {s s' : HubStats} {now : UInt64} (h : s.step (.total now) = some s') :
    ∃ message, s.task = .received message ∧
      s' = { s with hubStats := s.hubStats.update now message, task := .totalled message } := by
  simp only [HubStats.step] at h
  split at h
  · rename_i message ht
    cases h
    exact ⟨message, ht, rfl⟩
  · cases h

theorem detail_cases {s s' : HubStats} {now : UInt64} (h : s.step (.detail now) = some s') :
    ∃ message, s.task = .totalled message ∧
      s' = { s with hubMessagesStats := s.hubMessagesStats.update now message, task := .waiting } := by
  simp only [HubStats.step] at h
  split at h
  · rename_i message ht
    cases h
    exact ⟨message, ht, rfl⟩
  · cases h

/-- Only a command whose locks are all behind it is answered. -/
theorem answer_cases {s s' : HubStats} (h : s.step .respond = some s') :
    (s.job = .resetDone ∨ ∃ read, s.job = .readDrivers [] read) ∧ s' = { s with job := .idle } := by
  simp only [HubStats.step] at h
  split at h
  · rename_i hjob
    cases h
    exact ⟨Or.inl hjob, rfl⟩
  · rename_i read hjob
    cases h
    exact ⟨Or.inr ⟨read, hjob⟩, rfl⟩
  · cases h

/-- **The actor stays at its command** until it answers: its own steps are the next lock of the
    command, and leave the command alone elsewhere. -/
theorem own_step {s s' : HubStats} {a : HubStatsAction} (hown : a.own = true)
    (h : s.step a = some s') :
    s'.job = s.job ∨ (∃ now, s.clear now = some s') ∨ s.read = some s' := by
  cases a with
  | updateInput uuid now message => cases h; exact Or.inl rfl
  | updateOutput uuid now message => cases h; exact Or.inl rfl
  | recv message | lagged =>
      obtain ⟨_, he⟩ := Option.ite_none_right_eq_some.mp h
      cases he
      exact Or.inl rfl
  | total now =>
      obtain ⟨_, _, rfl⟩ := total_cases h
      exact Or.inl rfl
  | detail now =>
      obtain ⟨_, _, rfl⟩ := detail_cases h
      exact Or.inl rfl
  | addDriver uuid stats | removeDriver uuid =>
      obtain ⟨_, he⟩ := Option.ite_none_right_eq_some.mp h
      cases he
      exact Or.inl rfl
  | resetAllStats => cases hown
  | getDriversStats => cases hown
  | clear now => exact Or.inr (Or.inl ⟨now, h⟩)
  | read => exact Or.inr (Or.inr h)
  | respond => cases hown

theorem HubJob.reading_of_resetting {job : HubJob} (h : job.resetting = true) :
    job.reading = false := by
  cases job with
  | readDrivers left read => cases h
  | idle => rfl
  | resetDrivers left => rfl
  | resetHubStats => rfl
  | resetHubMessagesStats => rfl
  | resetDone => rfl

theorem job_step {s s' : HubStats} {a : HubStatsAction} (hown : a.own = true)
    (h : s.step a = some s') :
    s'.job.resetting = s.job.resetting ∧ s'.job.reading = s.job.reading := by
  rcases own_step hown h with hsame | ⟨now, hclear⟩ | hread
  · rw [hsame]
    exact ⟨rfl, rfl⟩
  · obtain ⟨hr, hr'⟩ := clear_cases hclear
    rw [hr, hr', HubJob.reading_of_resetting hr, HubJob.reading_of_resetting hr']
    exact ⟨rfl, rfl⟩
  · obtain ⟨uuid, left, read, stats, hjob, _, rfl⟩ := read_cases hread
    rw [hjob]
    exact ⟨rfl, rfl⟩

/-- A step of the actor's own lets it read as before, or the next driver. -/
theorem reading_step {s s' : HubStats} {a : HubStatsAction} {left : List DriverUuid}
    {read : AccumulatedDriversStats} (hown : a.own = true) (h : s.step a = some s')
    (hjob : s'.job = .readDrivers left read) :
    s.job = .readDrivers left read ∨
      ∃ uuid before stats, s.job = .readDrivers (uuid :: left) before ∧
        s.drivers.get? uuid = some stats ∧ read = (before.insert uuid stats).2 ∧
        s' = { s with job := s'.job } := by
  rcases own_step hown h with hsame | ⟨now, hclear⟩ | hread
  · exact Or.inl (hsame.symm.trans hjob)
  · have hresetting := (clear_cases hclear).2
    rw [hjob] at hresetting
    cases hresetting
  · obtain ⟨uuid, left', before, stats, hbefore, hget, rfl⟩ := read_cases hread
    cases hjob
    exact Or.inr ⟨uuid, before, stats, hbefore, hget, rfl, rfl⟩

/-- **What a step does to the counters**, but for the clears of a reset. -/
theorem counters_step {s s' : HubStats} {a : HubStatsAction} (h : s.step a = some s')
    (hr : s'.job.resetting = false) :
    (s'.hubStats = s.hubStats ∨ ∃ now message, a = .total now ∧ s.task = .received message ∧
        s'.hubStats = s.hubStats.update now message) ∧
      (s'.hubMessagesStats = s.hubMessagesStats ∨ ∃ now message, a = .detail now ∧
        s.task = .totalled message ∧
        s'.hubMessagesStats = s.hubMessagesStats.update now message) ∧
      (s'.drivers = s.drivers ∨
        (∃ uuid now message, a = .updateInput uuid now message ∧
          s'.drivers = s.drivers.modify uuid fun driver =>
            { driver with stats := driver.stats.updateInput now message }) ∨
        (∃ uuid now message, a = .updateOutput uuid now message ∧
          s'.drivers = s.drivers.modify uuid fun driver =>
            { driver with stats := driver.stats.updateOutput now message }) ∨
        (∃ uuid stats, a = .addDriver uuid stats ∧ s.job = .idle ∧
          s'.drivers = (s.drivers.insert uuid stats).2) ∨
        ∃ uuid, s'.drivers = (s.drivers.swapRemove uuid).2) := by
  cases a with
  | updateInput uuid now message =>
      cases h
      exact ⟨Or.inl rfl, Or.inl rfl, Or.inr (Or.inl ⟨uuid, now, message, rfl, rfl⟩)⟩
  | updateOutput uuid now message =>
      cases h
      exact ⟨Or.inl rfl, Or.inl rfl, Or.inr (Or.inr (Or.inl ⟨uuid, now, message, rfl, rfl⟩))⟩
  | recv message | lagged =>
      obtain ⟨_, he⟩ := Option.ite_none_right_eq_some.mp h
      cases he
      exact ⟨Or.inl rfl, Or.inl rfl, Or.inl rfl⟩
  | total now =>
      obtain ⟨message, ht, rfl⟩ := total_cases h
      exact ⟨Or.inr ⟨now, message, rfl, ht, rfl⟩, Or.inl rfl, Or.inl rfl⟩
  | detail now =>
      obtain ⟨message, ht, rfl⟩ := detail_cases h
      exact ⟨Or.inl rfl, Or.inr ⟨now, message, rfl, ht, rfl⟩, Or.inl rfl⟩
  | addDriver uuid stats =>
      obtain ⟨hidle, he⟩ := Option.ite_none_right_eq_some.mp h
      cases he
      exact ⟨Or.inl rfl, Or.inl rfl,
        Or.inr (Or.inr (Or.inr (Or.inl ⟨uuid, stats, rfl, hidle, rfl⟩)))⟩
  | removeDriver uuid =>
      obtain ⟨_, he⟩ := Option.ite_none_right_eq_some.mp h
      cases he
      exact ⟨Or.inl rfl, Or.inl rfl, Or.inr (Or.inr (Or.inr (Or.inr ⟨uuid, rfl⟩)))⟩
  | resetAllStats =>
      obtain ⟨_, he⟩ := Option.ite_none_right_eq_some.mp h
      cases he
      cases hr
  | getDriversStats =>
      obtain ⟨_, he⟩ := Option.ite_none_right_eq_some.mp h
      cases he
      exact ⟨Or.inl rfl, Or.inl rfl, Or.inl rfl⟩
  | clear now =>
      rw [(clear_cases h).2] at hr
      cases hr
  | read =>
      obtain ⟨_, _, _, _, _, _, rfl⟩ := read_cases h
      exact ⟨Or.inl rfl, Or.inl rfl, Or.inl rfl⟩
  | respond =>
      obtain ⟨_, rfl⟩ := answer_cases h
      exact ⟨Or.inl rfl, Or.inl rfl, Or.inl rfl⟩

/-! ## 3. Totals and leaves -/

/-- The message that is to be added to the totals. -/
def StatsTask.received? : StatsTask → Option Protocol
  | .received message => some message
  | _ => none

/-- The message that is in the totals and not yet in the leaves. -/
def StatsTask.ahead : StatsTask → Option Protocol
  | .totalled message => some message
  | _ => none

/-- **Overlap**: whether the message that was added to the totals last was added between the two
    clears of a reset. A record of the run, which no step reads. -/
def seeOverlap (s : HubStats) (overlap : Bool) : HubStatsAction → Bool
  | .total _ => decide (s.job = .resetHubMessagesStats)
  | .clear _ => if s.job = .resetHubStats then false else overlap
  | _ => overlap

/-- **Uncut**: a reset clears a message on both sides or on neither. What is added to the leaves
    between the two clears was in the totals at the first; what is ahead of the leaves at the
    second was not. -/
def Uncut (p : HubStats × Bool) : HubStatsAction → Prop
  | .detail _ => p.1.job = .resetHubMessagesStats → p.2 = false
  | .clear _ => p.1.job = .resetHubMessagesStats → p.1.task.ahead = none ∨ p.2 = true
  | _ => True

instance (p : HubStats × Bool) (a : HubStatsAction) : Decidable (Uncut p a) := by
  cases a <;> unfold Uncut <;> infer_instance

/-- **The totals and the leaves**: they agree up to the message that `stats_task` is about to add
    to the leaves. Between its two clears a reset has left in the totals what was added since. -/
def Agree (s : HubStats) (overlap : Bool) : Prop :=
  if s.job = .resetHubMessagesStats then
    s.hubStats.messages = ((if overlap then s.task.ahead else none).map fun _ => 1).getD 0 ∧
      s.hubStats.bytes = ((if overlap then s.task.ahead else none).map (·.size)).getD 0
  else
    s.hubStats.messages =
        s.hubMessagesStats.sum (·.messages) + (s.task.ahead.map fun _ => 1).getD 0 ∧
      s.hubStats.bytes =
        s.hubMessagesStats.sum (·.bytes) + (s.task.ahead.map (·.size)).getD 0

theorem agree_new (now : UInt64) (overlap : Bool) : Agree (.new now) overlap := by
  unfold Agree
  rw [if_neg nofun]
  show (0 : UInt64) = HubMessagesStats.sum .empty _ + 0 ∧
    (0 : UInt64) = HubMessagesStats.sum .empty _ + 0
  rw [sum_empty, sum_empty]
  exact ⟨rfl, rfl⟩

section Steps

variable {s s' : HubStats} {overlap : Bool} {now : UInt64}

/-- The agreement does not read the drivers' counters. -/
theorem Agree.of_eq (hs : Agree s overlap) (htotal : s'.hubStats = s.hubStats)
    (hleaves : s'.hubMessagesStats = s.hubMessagesStats) (htask : s'.task.ahead = s.task.ahead)
    (hjob : s'.job = .resetHubMessagesStats ↔ s.job = .resetHubMessagesStats) :
    Agree s' overlap := by
  unfold Agree
  rw [htotal, hleaves, htask]
  by_cases h : s.job = .resetHubMessagesStats
  · rw [if_pos (hjob.mpr h)]
    unfold Agree at hs
    rw [if_pos h] at hs
    exact hs
  · rw [if_neg fun e => h (hjob.mp e)]
    unfold Agree at hs
    rw [if_neg h] at hs
    exact hs

/-- **The first clear of a reset starts an agreement**, whatever the totals and the leaves were
    before: a message that is ahead then is not in the totals any more. -/
theorem agree_of_clear (hjob : s.job = .resetHubStats) (h : s.step (.clear now) = some s') :
    Agree s' false := by
  simp only [HubStats.step, HubStats.clear, hjob] at h
  cases h
  exact ⟨rfl, rfl⟩

/-- A message gets into the totals, and is ahead of the leaves. -/
theorem agree_total (hs : Agree s overlap) (h : s.step (.total now) = some s') :
    Agree s' (decide (s.job = .resetHubMessagesStats)) := by
  obtain ⟨message, ht, rfl⟩ := total_cases h
  unfold Agree at hs ⊢
  rw [ht] at hs
  by_cases hjob : s.job = .resetHubMessagesStats
  · -- the message is the first since the totals were cleared
    rw [if_pos hjob] at hs
    have hnone : (if overlap = true then (StatsTask.received message).ahead else none) = none := by
      split <;> rfl
    rw [hnone] at hs
    rw [if_pos hjob, decide_eq_true hjob, if_pos rfl]
    obtain ⟨hm, hb⟩ := hs
    constructor
    · show s.hubStats.messages + 1 = 1
      rw [hm]
      rfl
    · show s.hubStats.bytes + message.size = message.size
      rw [hb]
      exact zero_add _
  · rw [if_neg hjob] at hs
    rw [if_neg hjob]
    obtain ⟨hm, hb⟩ := hs
    constructor
    · show s.hubStats.messages + 1 = _ + 1
      rw [hm]
      exact congrArg (· + 1) (add_zero _)
    · show s.hubStats.bytes + message.size = _ + message.size
      rw [hb]
      exact congrArg (· + message.size) (add_zero _)

/-- The message gets into the leaves; between the two clears it is one that both will forget. -/
theorem agree_detail (hs : Agree s overlap)
    (hu : s.job = .resetHubMessagesStats → overlap = false) (h : s.step (.detail now) = some s') :
    Agree s' overlap := by
  obtain ⟨message, ht, rfl⟩ := detail_cases h
  unfold Agree at hs ⊢
  rw [ht] at hs
  by_cases hjob : s.job = .resetHubMessagesStats
  · rw [if_pos hjob, hu hjob] at hs
    rw [if_pos hjob, hu hjob]
    exact hs
  · rw [if_neg hjob] at hs
    rw [if_neg hjob]
    obtain ⟨hm, hb⟩ := hs
    constructor
    · show s.hubStats.messages = HubMessagesStats.sum (s.hubMessagesStats.update now message) _ + 0
      rw [sum_messages_update, add_zero]
      exact hm
    · show s.hubStats.bytes = HubMessagesStats.sum (s.hubMessagesStats.update now message) _ + 0
      rw [sum_bytes_update, add_zero]
      exact hb

/-- The leaves are cleared behind totals that hold no more than what is ahead. -/
theorem agree_clearLeaves (hs : Agree s overlap) (hjob : s.job = .resetHubMessagesStats)
    (hu : s.task.ahead = none ∨ overlap = true) (h : s.step (.clear now) = some s') :
    Agree s' overlap := by
  simp only [HubStats.step, HubStats.clear, hjob] at h
  cases h
  have hahead : (if overlap = true then s.task.ahead else none) = s.task.ahead := by
    rcases hu with hnone | hover
    · rw [hnone, ite_self]
    · rw [if_pos hover]
  unfold Agree at hs ⊢
  rw [if_pos hjob, hahead] at hs
  obtain ⟨hm, hb⟩ := hs
  rw [if_neg nofun]
  show s.hubStats.messages = HubMessagesStats.sum .empty _ + _ ∧
    s.hubStats.bytes = HubMessagesStats.sum .empty _ + _
  rw [sum_empty, sum_empty, hm, hb, zero_add, zero_add]
  exact ⟨rfl, rfl⟩

/-- The driver locks of a reset. -/
theorem agree_clearDriver {left : List DriverUuid} (hs : Agree s overlap)
    (hjob : s.job = .resetDrivers left) (h : s.step (.clear now) = some s') :
    Agree s' overlap := by
  simp only [HubStats.step, HubStats.clear, hjob] at h
  cases left with
  | nil | cons uuid left =>
      cases h
      exact hs.of_eq rfl rfl rfl (by rw [hjob]; simp)

/-- **A step that cuts no message keeps the agreement.** -/
theorem agree_step {a : HubStatsAction} (hs : Agree s overlap) (hu : Uncut (s, overlap) a)
    (h : s.step a = some s') : Agree s' (seeOverlap s overlap a) := by
  cases a with
  | updateInput uuid now message | updateOutput uuid now message =>
      cases h
      exact hs.of_eq rfl rfl rfl Iff.rfl
  | recv message | lagged =>
      obtain ⟨hw, he⟩ := Option.ite_none_right_eq_some.mp h
      cases he
      exact hs.of_eq rfl rfl (by rw [hw]; rfl) Iff.rfl
  | total now => exact agree_total hs h
  | detail now => exact agree_detail hs hu h
  | addDriver uuid stats | removeDriver uuid =>
      obtain ⟨_, he⟩ := Option.ite_none_right_eq_some.mp h
      cases he
      exact hs.of_eq rfl rfl rfl Iff.rfl
  | resetAllStats | getDriversStats =>
      obtain ⟨hidle, he⟩ := Option.ite_none_right_eq_some.mp h
      cases he
      exact hs.of_eq rfl rfl rfl (by rw [hidle]; simp)
  | clear now =>
      unfold seeOverlap
      cases hjob : s.job with
      | resetDrivers left =>
          rw [if_neg nofun]
          exact agree_clearDriver hs hjob h
      | resetHubStats =>
          rw [if_pos rfl]
          exact agree_of_clear hjob h
      | resetHubMessagesStats =>
          rw [if_neg nofun]
          exact agree_clearLeaves hs hjob (hu hjob) h
      | idle | resetDone | readDrivers left read =>
          simp only [HubStats.step, HubStats.clear, hjob] at h
          cases h
  | read =>
      obtain ⟨uuid, left, read, stats, hjob, _, rfl⟩ := read_cases h
      exact hs.of_eq rfl rfl rfl (by rw [hjob]; simp)
  | respond =>
      obtain ⟨hjob | ⟨read, hjob⟩, rfl⟩ := answer_cases h
      · exact hs.of_eq rfl rfl rfl (by rw [hjob]; simp)
      · exact hs.of_eq rfl rfl rfl (by rw [hjob]; simp)

/-- **Nothing less will do**: a step that cuts a message ends the agreement, by one message. -/
theorem agree_step_iff {a : HubStatsAction} (hs : Agree s overlap) (h : s.step a = some s') :
    Agree s' (seeOverlap s overlap a) ↔ Uncut (s, overlap) a := by
  refine ⟨fun hs' => ?_, fun hu => agree_step hs hu h⟩
  cases a with
  | detail now =>
      intro (hjob : s.job = .resetHubMessagesStats)
      obtain ⟨message, ht, rfl⟩ := detail_cases h
      cases overlap with
      | false => rfl
      | true =>
          -- the message stays in the totals, and goes from the leaves
          unfold Agree at hs hs'
          rw [if_pos hjob, ht] at hs
          rw [if_pos hjob] at hs'
          have hone : s.hubStats.messages = 1 := hs.1
          have hzero : s.hubStats.messages = 0 := hs'.1
          rw [hone] at hzero
          cases hzero
  | clear now =>
      intro (hjob : s.job = .resetHubMessagesStats)
      simp only [HubStats.step, HubStats.clear, hjob] at h
      cases h
      cases overlap with
      | true => exact Or.inr rfl
      | false =>
          refine Or.inl ?_
          cases hahead : s.task.ahead with
          | none => rfl
          | some message =>
              -- the message is not in the totals any more, and will be in the leaves
              unfold Agree at hs hs'
              rw [if_pos hjob] at hs
              rw [if_neg nofun, hahead] at hs'
              have hzero : s.hubStats.messages = 0 := hs.1
              have hone : s.hubStats.messages = HubMessagesStats.sum .empty _ + 1 := hs'.1
              rw [hzero, sum_empty] at hone
              cases hone
  | _ => trivial

/-- Between two messages, with no reset between its two clears, nothing is ahead. -/
theorem Agree.between (hs : Agree s overlap) (hbetween : s.task.between = true)
    (hjob : s.job ≠ .resetHubMessagesStats) :
    s.hubStats.messages = s.hubMessagesStats.sum (·.messages) ∧
      s.hubStats.bytes = s.hubMessagesStats.sum (·.bytes) := by
  have hahead : s.task.ahead = none := by
    cases ht : s.task with
    | waiting => rfl
    | ended => rfl
    | received message => rfl
    | totalled message => rw [ht] at hbetween; cases hbetween
  unfold Agree at hs
  rw [if_neg hjob, hahead] at hs
  exact ⟨hs.1.trans (add_zero _), hs.2.trans (add_zero _)⟩

end Steps

theorem agree_reach {p0 p : HubStats × Bool} (h0 : Agree p0.1 p0.2)
    (h : Reach (observed HubStats.step seeOverlap) Uncut p0 p) : Agree p.1 p.2 :=
  h.inv (I := fun p => Agree p.1 p.2) h0 fun _ _ _ hi hu hs => by
    obtain ⟨hstep, hsee⟩ := observed_eq_some.mp hs
    rw [hsee]
    exact agree_step hi hu hstep

/-- **Fresh**: the start, or a reset has just cleared the totals, whatever the run was before. -/
def Fresh (s : HubStats) : Prop :=
  (∃ now, s = .new now) ∨ ∃ now start s0, Reach HubStats.step Free (.new start) s0 ∧
    s0.job = .resetHubStats ∧ s0.step (.clear now) = some s

/-- **The totals agree with the leaves** between two messages: from the start on and from the first
    clear of every reset on, as long as no reset clears a message on one side only. -/
theorem totals_agree {s0 s : HubStats} {overlap : Bool} (hfresh : Fresh s0)
    (h : Reach (observed HubStats.step seeOverlap) Uncut (s0, false) (s, overlap))
    (hbetween : s.task.between = true) (hjob : s.job ≠ .resetHubMessagesStats) :
    s.hubStats.messages = s.hubMessagesStats.sum (·.messages) ∧
      s.hubStats.bytes = s.hubMessagesStats.sum (·.bytes) := by
  have hagree : Agree s0 false := by
    rcases hfresh with ⟨now, rfl⟩ | ⟨now, start, before, _, hreset, hclear⟩
    · exact agree_new now false
    · exact agree_of_clear hreset hclear
  exact (agree_reach hagree h).between hbetween hjob

section Runs

/-- A heartbeat of twenty-one bytes. -/
def heartbeat : Protocol := ⟨"", 0, 1, 1, 0, 21⟩

/-- `stats_task` has added a message to the totals when a reset clears both, and adds it to the
    leaves afterwards. -/
def tornReset : List HubStatsAction :=
  [.recv heartbeat, .total 5, .resetAllStats, .clear 6, .clear 7, .clear 8, .detail 9, .respond]

/-- **A message that a reset cuts in two is in the leaves and not in the totals.** -/
theorem totals_torn : ¬ ∀ s, Reach HubStats.step Free (.new 0) s → s.task.between = true →
    s.hubStats.messages = s.hubMessagesStats.sum (·.messages) ∧
      s.hubStats.bytes = s.hubMessagesStats.sum (·.bytes) := by
  intro hall
  obtain ⟨s, hreach, hbetween, hdiff⟩ : ∃ s, Reach HubStats.step Free (.new 0) s ∧
      s.task.between = true ∧ s.hubStats.messages ≠ s.hubMessagesStats.sum (·.messages) :=
    exists_of_execC tornReset (by decide +kernel)
  exact hdiff (hall s hreach hbetween).1

/-- The next reset, which overlaps with the counting of two messages and cuts neither: it clears
    one on both sides, and none on either. -/
theorem totals_agree_repaired :
    ∃ (s0 s : HubStats) (overlap : Bool), Fresh s0 ∧
      Reach (observed HubStats.step seeOverlap) Uncut (s0, false) (s, overlap) ∧
      s.hubStats.messages = 1 ∧ s.hubMessagesStats.sum (·.messages) = 1 := by
  obtain ⟨s0, hreach0, hreset, hclears⟩ : ∃ s0, Reach HubStats.step Free (.new 0) s0 ∧
      s0.job = .resetHubStats ∧
      ((s0.step (.clear 10)).bind fun s1 => (execC (observed HubStats.step seeOverlap) Uncut
        (s1, false) [.detail 11, .recv heartbeat, .total 12, .clear 13, .respond, .detail 14]).bind
          fun p => if p.1.hubStats.messages = 1 ∧ p.1.task.between = true ∧
              p.1.job ≠ .resetHubMessagesStats then some p else none).isSome = true :=
    exists_of_execC (tornReset ++ [.recv heartbeat, .total 9, .resetAllStats, .clear 9])
      (by decide +kernel)
  obtain ⟨p, hp⟩ := Option.isSome_iff_exists.mp hclears
  obtain ⟨s1, hclear, hp⟩ := Option.bind_eq_some_iff.mp hp
  obtain ⟨p2, hrun, hp⟩ := Option.bind_eq_some_iff.mp hp
  obtain ⟨⟨hone, hbetween, hjob⟩, he⟩ := Option.ite_none_right_eq_some.mp hp
  cases he
  have hfresh : Fresh s1 := Or.inr ⟨10, 0, s0, hreach0, hreset, hclear⟩
  have hreach := reach_of_execC hrun
  have hagree := totals_agree hfresh hreach hbetween hjob
  exact ⟨s1, p.1, p.2, hfresh, hreach, hone, hagree.1.symm.trans hone⟩

end Runs

end MavlinkServer.Hub
