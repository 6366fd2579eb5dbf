/-
  File:      MavlinkServer/Stats/Monotone.lean
  Subject:   COUNTERS THAT RUN BACKWARDS. An update task compares what the hub
             counts with the last snapshot it has; the counters and the
             snapshots are reset by different actors at different times.

  * `NoWrap` -- a message that is counted does not wrap its counter;
  * `hubBehind_step`, `driversBehind_step`, `hubMessagesBehind_step` -- what is
    behind the hub's counters stays behind them, but for a reset and for a
    driver that comes with less than is remembered of its uuid;
  * `Orderly` -- no such driver comes, and the hub answers no update task in
    the time in which its snapshot is still to be cleared;
  * `counters_ordered` -- then no counter runs backwards;
    `counters_backwards` -- otherwise one may.
-/
import MavlinkServer.Stats.Actor

namespace MavlinkServer.Stats

open Lib Hub

/-! ## 1. The hub's counters grow -/

/-- A message, if there is one, has room in the counter it is counted in. -/
def RoomFor (counter : Protocol → Option AccumulatedStatsInner) : Option Protocol → Prop
  | some message => AccumulatedStatsInner.Room (counter message) message
  | none => True

instance (counter : Protocol → Option AccumulatedStatsInner) :
    ∀ message, Decidable (RoomFor counter message)
  | some message => inferInstanceAs (Decidable (AccumulatedStatsInner.Room _ message))
  | none => isTrue trivial

/-- A message has room in the counters of a driver, if that is there. -/
def RoomIn (counter : AccumulatedDriverStatsInner → Option AccumulatedStatsInner)
    (message : Protocol) : Option AccumulatedDriverStats → Prop
  | some driver => AccumulatedStatsInner.Room (counter driver.stats) message
  | none => True

instance (counter : AccumulatedDriverStatsInner → Option AccumulatedStatsInner)
    (message : Protocol) : ∀ driver, Decidable (RoomIn counter message driver)
  | some _ => inferInstanceAs (Decidable (AccumulatedStatsInner.Room _ message))
  | none => isTrue trivial

/-- **A message that is counted does not wrap its counter**, which fewer than 2^64 messages and
    bytes do not. -/
def NoWrap (s : HubStats) : HubStatsAction → Prop
  | .updateInput uuid _ message => RoomIn (·.input) message (s.drivers.get? uuid)
  | .updateOutput uuid _ message => RoomIn (·.output) message (s.drivers.get? uuid)
  | .total _ => RoomFor (fun _ => some s.hubStats) s.task.received?
  | .detail _ => RoomFor (fun message => s.hubMessagesStats.leaf? message.systemId
      message.componentId message.messageId) s.task.ahead
  | _ => True

instance (s : HubStats) : ∀ a, Decidable (NoWrap s a)
  | .updateInput _ _ _ => inferInstanceAs (Decidable (RoomIn _ _ _))
  | .updateOutput _ _ _ => inferInstanceAs (Decidable (RoomIn _ _ _))
  | .total _ => inferInstanceAs (Decidable (RoomFor _ _))
  | .detail _ => inferInstanceAs (Decidable (RoomFor _ _))
  | .recv _ | .lagged | .addDriver _ _ | .removeDriver _ | .resetAllStats | .getDriversStats
  | .clear _ | .read | .respond => isTrue trivial

section Grow

variable {s s' : HubStats} {a : HubStatsAction}

theorem hubBehind_step (hw : NoWrap s a) (h : s.step a = some s') (hr : s'.job.resetting = false)
    {older : AccumulatedStatsInner} (hb : hubBehind older s.hubStats) :
    hubBehind older s'.hubStats := by
  rcases (counters_step h hr).1 with hsame | ⟨now, message, rfl, ht, hnew⟩
  · rw [hsame]
    exact hb
  · simp only [NoWrap, ht, StatsTask.received?, RoomFor] at hw
    rw [hnew]
    exact hb.trans (AccumulatedStatsInner.le_updated hw)

theorem hubMessagesBehind_step (hw : NoWrap s a) (h : s.step a = some s')
    (hr : s'.job.resetting = false) {older : AccumulatedHubMessagesStats}
    (hb : hubMessagesBehind older s.hubMessagesStats) :
    hubMessagesBehind older s'.hubMessagesStats := by
  rcases (counters_step h hr).2.1 with hsame | ⟨now, message, rfl, ht, hnew⟩
  · rw [hsame]
    exact hb
  · simp only [NoWrap, ht, StatsTask.ahead, RoomFor] at hw
    rw [hnew]
    intro systemId componentId messageId
    unfold AccumulatedHubMessagesStats.update
    rw [HubMessagesStats.leaf?_entry]
    split
    · rename_i hkey
      obtain ⟨rfl, rfl, rfl⟩ := hkey
      exact (hb _ _ _).trans (AccumulatedStatsInner.le_updated hw)
    · exact hb systemId componentId messageId

/-- A driver's counters behind the older ones stay so when one of them counts a message. -/
theorem AccumulatedDriverStatsInner.le_updateInput {older stats : AccumulatedDriverStatsInner}
    {now : UInt64} {message : Protocol} (h : older.Le stats)
    (hroom : AccumulatedStatsInner.Room stats.input message) :
    older.Le (stats.updateInput now message) :=
  ⟨h.1.trans (AccumulatedStatsInner.le_updated hroom), h.2⟩

theorem AccumulatedDriverStatsInner.le_updateOutput {older stats : AccumulatedDriverStatsInner}
    {now : UInt64} {message : Protocol} (h : older.Le stats)
    (hroom : AccumulatedStatsInner.Room stats.output message) :
    older.Le (stats.updateOutput now message) :=
  ⟨h.1, h.2.trans (AccumulatedStatsInner.le_updated hroom)⟩

theorem AccumulatedDriverStatsInner.le_refl (stats : AccumulatedDriverStatsInner) :
    stats.Le stats := ⟨.refl _, .refl _⟩

theorem AccumulatedDriverStatsInner.default_le (stats : AccumulatedDriverStatsInner) :
    AccumulatedDriverStatsInner.Le .default stats :=
  ⟨AccumulatedStatsInner.none_le, AccumulatedStatsInner.none_le⟩

/-- What is done to the stats of one driver leaves the older snapshot behind. -/
theorem driversBehind_modify {older newer : AccumulatedDriversStats} {uuid : DriverUuid}
    {f : AccumulatedDriverStatsInner → AccumulatedDriverStatsInner}
    (hb : driversBehind older newer)
    (hf : ∀ driver, newer.get? uuid = some driver → (countersOf older uuid).Le driver.stats →
      (countersOf older uuid).Le (f driver.stats)) :
    driversBehind older (newer.modify uuid fun driver => { driver with stats := f driver.stats }) := by
  intro uuid' driver' hget
  rw [IndexMap.get?_modify] at hget
  split at hget
  · rename_i hu
    subst hu
    obtain ⟨driver, hdriver, rfl⟩ := Option.map_eq_some_iff.mp hget
    exact hf driver hdriver (hb uuid' driver hdriver)
  · exact hb uuid' driver' hget

theorem driversBehind_insert {older newer : AccumulatedDriversStats} {uuid : DriverUuid}
    {stats : AccumulatedDriverStats} (hb : driversBehind older newer)
    (hnew : (countersOf older uuid).Le stats.stats) :
    driversBehind older (newer.insert uuid stats).2 := by
  intro uuid' driver' hget
  by_cases hu : uuid' = uuid
  · subst hu
    rw [IndexMap.get?_insert_self] at hget
    cases hget
    exact hnew
  · rw [IndexMap.get?_insert_of_ne hu] at hget
    exact hb uuid' driver' hget

theorem driversBehind_step (hw : NoWrap s a) (h : s.step a = some s')
    (hr : s'.job.resetting = false) {older : AccumulatedDriversStats}
    (hadd : ∀ uuid stats, a = .addDriver uuid stats → s.job = .idle →
      (countersOf older uuid).Le stats.stats)
    (hb : driversBehind older s.drivers) : driversBehind older s'.drivers := by
  rcases (counters_step h hr).2.2 with hsame | ⟨uuid, now, message, rfl, hnew⟩ |
    ⟨uuid, now, message, rfl, hnew⟩ | ⟨uuid, stats, ha, hidle, hnew⟩ | ⟨uuid, hnew⟩
  · rw [hsame]
    exact hb
  · rw [hnew]
    refine driversBehind_modify (f := fun stats => stats.updateInput now message) hb ?_
    intro driver hd hle
    simp only [NoWrap, hd, RoomIn] at hw
    exact AccumulatedDriverStatsInner.le_updateInput hle hw
  · rw [hnew]
    refine driversBehind_modify (f := fun stats => stats.updateOutput now message) hb ?_
    intro driver hd hle
    simp only [NoWrap, hd, RoomIn] at hw
    exact AccumulatedDriverStatsInner.le_updateOutput hle hw
  · rw [hnew]
    exact driversBehind_insert hb (hadd uuid stats ha hidle)
  · rw [hnew]
    intro uuid' driver' hget
    by_cases hu : uuid' = uuid
    · subst hu
      rw [IndexMap.get?_swapRemove_self] at hget
      cases hget
    · rw [IndexMap.get?_swapRemove_of_ne hu] at hget
      exact hb uuid' driver' hget

end Grow

/-! ## 2. The snapshots -/

namespace StatsActor

/-- The counters of the kind are being reset, or were and the last snapshot is not yet. -/
def pending (s : StatsActor) (k : Kind) : Prop :=
  s.hub.job.resetting = true ∨ s.reset.pending k = true

/-- The snapshots of the drivers that the update task has. -/
def snapshots (s : StatsActor) : List AccumulatedDriversStats :=
  s.driversTask.last :: s.driversTask.pc.current?.toList

/-- The calls of `from_accumulated` that an update task makes next. -/
def calls (s : StatsActor) (now : UInt64) : Kind → List Call
  | .hub =>
      match s.hubTask.pc with
      | .answered current => hubCalls s.hubTask.last current
      | _ => []
  | .drivers =>
      match s.driversTask.pc with
      | .answered current => driversCalls now s.driversTask.last current
      | _ => []
  | .hubMessages =>
      match s.hubMessagesTask.pc with
      | .answered current =>
          (hubMessagesCalls now s.hubMessagesTask.last current).map (·.2.2.2)
      | _ => []

end StatsActor

/-- **Orderly**: a driver that is added counts no less than the snapshots the update task has of
    its uuid, unless these are about to be cleared; and the hub answers no update task whose last
    snapshot is about to be cleared. -/
def Orderly (s : StatsActor) : StatsAction → Prop
  | .hub (.addDriver uuid stats) => s.reset.pending .drivers = true ∨
      ∀ snapshot ∈ s.snapshots, (countersOf snapshot uuid).Le stats.stats
  | .serve (.update k) => s.reset.pending k = false
  | _ => True

/-- No counter wraps in the step. -/
def NoneWraps (s : StatsActor) : StatsAction → Prop
  | .hub a => NoWrap s.hub a
  | _ => True

instance (s : StatsActor) (a : StatsAction) : Decidable (Orderly s a) := by
  unfold Orderly
  split
  · infer_instance
  · infer_instance
  · exact isTrue trivial

instance (s : StatsActor) : ∀ a, Decidable (NoneWraps s a)
  | .hub _ => inferInstanceAs (Decidable (NoWrap _ _))
  | .reset _ | .update _ _ | .serve _ | .respond => isTrue trivial

/-- **The invariant**: every update task tracks its part of the hub's counters, and so does what
    the hub has read so far for the one that asks for the drivers. -/
structure Tracked (s : StatsActor) : Prop where
  asked : Asked s
  hub : s.hubTask.Tracks hubBehind s.hub.hubStats (s.pending .hub)
  drivers : s.driversTask.Tracks driversBehind s.hub.drivers (s.pending .drivers)
  hubMessages :
    s.hubMessagesTask.Tracks hubMessagesBehind s.hub.hubMessagesStats (s.pending .hubMessages)
  reading : ∀ left read, s.hub.job = .readDrivers left read →
    s.reset.pending .drivers = false ∧ driversBehind s.driversTask.last read ∧
      driversBehind read s.hub.drivers

theorem hubBehind_default {now : UInt64} (live : AccumulatedStatsInner) :
    hubBehind (.default now) live := AccumulatedStatsInner.default_le

theorem driversBehind_empty (live : AccumulatedDriversStats) : driversBehind .empty live :=
  fun _ driver _ => AccumulatedDriverStatsInner.default_le driver.stats

theorem hubMessagesBehind_empty (live : AccumulatedHubMessagesStats) :
    hubMessagesBehind .empty live := fun _ _ _ => AccumulatedStatsInner.none_le

theorem tracked_new (now : UInt64) : Tracked (.new now) where
  asked := asked_new now
  hub := Sampler.tracks_clear (t := ⟨.default now, .default, .idle⟩) rfl hubBehind_default
  drivers := Sampler.tracks_clear (t := ⟨.empty, .empty, .idle⟩) rfl driversBehind_empty
  hubMessages := Sampler.tracks_clear (t := ⟨.empty, .empty, .idle⟩) rfl hubMessagesBehind_empty
  reading := nofun

/-- **The hub counts.** -/
theorem tracked_hub {s s' : StatsActor} {a : HubStatsAction} (hs : Tracked s)
    (ho : Orderly s (.hub a)) (hw : NoWrap s.hub a) (h : s.step (.hub a) = some s') :
    Tracked s' := by
  have hasked := asked_step hs.asked h
  obtain ⟨hown, hub, hh, rfl⟩ := hubStep_cases h
  obtain ⟨hresetting, hreading⟩ := job_step hown hh
  have hpending : ∀ k, s.pending k → hub.job.resetting = true ∨ s.reset.pending k = true :=
    fun k hp => hp.imp_left hresetting.trans
  have hresets : ∀ {k}, ¬ (hub.job.resetting = true ∨ s.reset.pending k = true) →
      hub.job.resetting = false ∧ s.reset.pending k = false := by
    intro k hno
    rw [not_or, Bool.not_eq_true, Bool.not_eq_true] at hno
    exact hno
  have hadd : s.reset.pending .drivers = false → ∀ snapshot ∈ s.snapshots, ∀ uuid stats,
      a = .addDriver uuid stats → s.hub.job = .idle → (countersOf snapshot uuid).Le stats.stats := by
    intro hno snapshot hmem uuid stats ha _
    subst ha
    rcases ho with hp | hle
    · rw [hno] at hp
      cases hp
    · exact hle snapshot hmem
  refine ⟨hasked, ?_, ?_, ?_, ?_⟩
  · exact hs.hub.grow (hpending .hub) fun hno older _ hb =>
      hubBehind_step hw hh (hresets hno).1 hb
  · refine hs.drivers.grow (hpending .drivers) fun hno older ho hb => ?_
    refine driversBehind_step hw hh (hresets hno).1 (hadd (hresets hno).2 older ?_) hb
    rcases ho with rfl | hc
    · exact List.mem_cons_self
    · exact List.mem_cons_of_mem _ (Option.mem_toList.mpr hc)
  · exact hs.hubMessages.grow (hpending .hubMessages) fun hno older _ hb =>
      hubMessagesBehind_step hw hh (hresets hno).1 hb
  · intro left read hjob
    have hr : hub.job.resetting = false := by rw [hjob]; rfl
    rcases reading_step hown hh hjob with hbefore | ⟨uuid, before, stats, hbefore, hget, rfl, hsame⟩
    · obtain ⟨hp, hlast, hlive⟩ := hs.reading left read hbefore
      refine ⟨hp, hlast, driversBehind_step hw hh hr ?_ hlive⟩
      intro uuid stats _ hidle
      rw [hidle] at hbefore
      cases hbefore
    · -- one more driver is read, whose counters are ahead of what is remembered of it
      obtain ⟨hp, hlast, hlive⟩ := hs.reading _ before hbefore
      have hno : ¬ s.pending .drivers := by
        intro hp'
        rcases hp' with hp' | hp'
        · rw [hbefore] at hp'
          cases hp'
        · rw [hp] at hp'
          cases hp'
      refine ⟨hp, driversBehind_insert hlast (hs.drivers.last hno uuid stats hget), ?_⟩
      rw [hsame]
      intro uuid' driver' hget'
      by_cases hu : uuid' = uuid
      · subst hu
        have hdriver : driver' = stats := Option.some.inj (hget'.symm.trans hget)
        unfold countersOf
        rw [IndexMap.get?_insert_self, hdriver]
        exact AccumulatedDriverStatsInner.le_refl _
      · unfold countersOf
        rw [IndexMap.get?_insert_of_ne hu]
        exact hlive uuid' driver' hget'

/-- **What `reset` does to the samplers**: at its place each is cleared. -/
theorem resetStep_samplers {s s' : StatsActor} {now : UInt64} (h : s.resetStep now = some s') :
    Sampler.Reset (.default now) (s.reset.rank = Kind.hub.clears) s.hubTask s'.hubTask ∧
      Sampler.Reset .empty (s.reset.rank = Kind.drivers.clears) s.driversTask s'.driversTask ∧
      Sampler.Reset .empty (s.reset.rank = Kind.hubMessages.clears) s.hubMessagesTask
        s'.hubMessagesTask := by
  have hfree : ∀ {k}, s.free (.last k) = true → (s.phase k).holdsLast = false := by
    intro k hk
    rw [StatsActor.free_last, Bool.not_eq_true'] at hk
    exact hk
  unfold StatsActor.resetStep at h
  cases hpc : s.reset with
  | idle =>
      rw [hpc] at h
      cases h
      exact ⟨.keep _ nofun, .keep _ nofun, .keep _ nofun⟩
  | asks => rw [hpc] at h; cases h
  | wantsHub | wantsDrivers | wantsHubMessages | wantsStartTime =>
      rw [hpc] at h
      obtain ⟨_, he⟩ := Option.ite_none_right_eq_some.mp h
      cases he
      exact ⟨.keep _ nofun, .keep _ nofun, .keep _ nofun⟩
  | wantsLastDrivers =>
      rw [hpc] at h
      obtain ⟨hf, he⟩ := Option.ite_none_right_eq_some.mp h
      cases he
      exact ⟨.keep _ nofun, .clear _ rfl (hfree hf), .keep _ nofun⟩
  | wantsLastHubMessages =>
      rw [hpc] at h
      obtain ⟨hf, he⟩ := Option.ite_none_right_eq_some.mp h
      cases he
      exact ⟨.keep _ nofun, .keep _ nofun, .clear _ rfl (hfree hf)⟩
  | wantsLastHub =>
      rw [hpc] at h
      obtain ⟨hf, he⟩ := Option.ite_none_right_eq_some.mp h
      cases he
      exact ⟨.clear _ rfl (hfree hf), .keep _ nofun, .keep _ nofun⟩

/-- **`reset` goes on.** -/
theorem tracked_reset {s s' : StatsActor} {now : UInt64} (hs : Tracked s)
    (h : s.step (.reset now) = some s') : Tracked s' := by
  have hasked := asked_step hs.asked h
  obtain ⟨hhub, _, hasks, hrank, _⟩ := resetStep_frame h
  obtain ⟨hhubTask, hdrivers, hhubMessages⟩ := resetStep_samplers h
  have hnot : s.reset.rank ≠ ResetPc.asks.rank := by
    intro e
    cases hpc : s.reset <;> rw [hpc] at e <;> first | exact absurd hpc hasks | cases e
  have hpending : ∀ k, ¬ s.reset.rank = Kind.clears k → s.pending k → s'.pending k := by
    intro k hno hp
    unfold StatsActor.pending at hp ⊢
    rw [hhub]
    refine hp.imp_right fun hp => ?_
    have hclears : k.clears ≤ 8 := by cases k <;> decide
    simp only [ResetPc.pending, Bool.and_eq_true, decide_eq_true_eq] at hp ⊢
    omega
  refine ⟨hasked, ?_, ?_, ?_, ?_⟩
  · rw [hhub]
    exact hs.hub.reset hhubTask hubBehind_default (hpending .hub)
  · rw [hhub]
    exact hs.drivers.reset hdrivers driversBehind_empty (hpending .drivers)
  · rw [hhub]
    exact hs.hubMessages.reset hhubMessages hubMessagesBehind_empty (hpending .hubMessages)
  · intro left read hjob
    rw [hhub] at hjob ⊢
    obtain ⟨hp, hlast, hlive⟩ := hs.reading left read hjob
    have hp' : s'.reset.pending .drivers = false := by
      rw [Bool.eq_false_iff] at hp ⊢
      simp only [ResetPc.pending, Ne, Bool.and_eq_true, decide_eq_true_eq] at hp ⊢
      have hclears : Kind.drivers.clears = 6 := rfl
      omega
    have hsame : s'.driversTask.last = s.driversTask.last := by
      refine hdrivers.last_eq fun hat => ?_
      simp only [ResetPc.pending, hat] at hp
      cases hp
    rw [hsame]
    exact ⟨hp', hlast, hlive⟩

/-- **An update task goes on.** -/
theorem tracked_update {s s' : StatsActor} {k : Kind} {now : UInt64} (hs : Tracked s)
    (h : s.step (.update k now) = some s') : Tracked s' := by
  have hasked := asked_step hs.asked h
  have hasks := (updateStep_frame h).2.2.2.1
  cases k with
  | hub =>
      obtain ⟨t, ht, rfl⟩ := Option.map_eq_some_iff.mp h
      exact ⟨hasked, hs.hub.step ht, hs.drivers, hs.hubMessages, hs.reading⟩
  | hubMessages =>
      obtain ⟨t, ht, rfl⟩ := Option.map_eq_some_iff.mp h
      exact ⟨hasked, hs.hub, hs.drivers, hs.hubMessages.step ht, hs.reading⟩
  | drivers =>
      obtain ⟨t, ht, rfl⟩ := Option.map_eq_some_iff.mp h
      refine ⟨hasked, hs.hub, hs.drivers.step ht, hs.hubMessages, fun left read hjob => ?_⟩
      -- the task that asks for the drivers does not go on while the hub reads them
      exact absurd (hs.asked.drivers (by rw [hjob]; rfl)) hasks

/-- Where the hub's actor is idle, only the place of `reset` makes a snapshot pending. -/
theorem not_pending {s : StatsActor} {k : Kind} (hidle : s.hub.job = .idle)
    (ho : s.reset.pending k = false) : ¬ s.pending k := by
  intro hp
  rcases hp with hp | hp
  · rw [hidle] at hp
    cases hp
  · rw [ho] at hp
    cases hp

/-- **The hub's actor takes a request.** -/
theorem tracked_serve {s s' : StatsActor} {party : Party} (hs : Tracked s)
    (ho : Orderly s (.serve party)) (h : s.step (.serve party) = some s') : Tracked s' := by
  have hasked := asked_step hs.asked h
  cases party with
  | reset =>
      obtain ⟨_, h⟩ := Option.ite_none_right_eq_some.mp h
      obtain ⟨hub, hh, rfl⟩ := Option.map_eq_some_iff.mp h
      obtain ⟨_, he⟩ := Option.ite_none_right_eq_some.mp hh
      cases he
      exact ⟨hasked, hs.hub.weaken fun _ => Or.inl rfl, hs.drivers.weaken fun _ => Or.inl rfl,
        hs.hubMessages.weaken fun _ => Or.inl rfl, nofun⟩
  | update k =>
      cases k with
      | hub =>
          obtain ⟨⟨_, hidle⟩, he⟩ := Option.ite_none_right_eq_some.mp h
          cases he
          have hlast := hs.hub.last (not_pending hidle ho)
          exact ⟨hasked, hs.hub.answer hlast fun _ => AccumulatedStatsInner.Le.refl _, hs.drivers,
            hs.hubMessages, hs.reading⟩
      | hubMessages =>
          obtain ⟨⟨_, hidle⟩, he⟩ := Option.ite_none_right_eq_some.mp h
          cases he
          have hlast := hs.hubMessages.last (not_pending hidle ho)
          refine ⟨hasked, hs.hub, hs.drivers, hs.hubMessages.answer hlast fun _ => ?_, hs.reading⟩
          exact fun _ _ _ => AccumulatedStatsInner.Le.refl _
      | drivers =>
          obtain ⟨_, h⟩ := Option.ite_none_right_eq_some.mp h
          obtain ⟨hub, hh, rfl⟩ := Option.map_eq_some_iff.mp h
          obtain ⟨hidle, he⟩ := Option.ite_none_right_eq_some.mp hh
          cases he
          have hpending : ∀ {k}, s.pending k → s.reset.pending k = true := by
            intro k hp
            rcases hp with hp | hp
            · rw [hidle] at hp
              cases hp
            · exact hp
          refine ⟨hasked, hs.hub.weaken fun hp => Or.inr (hpending hp),
            hs.drivers.weaken fun hp => Or.inr (hpending hp),
            hs.hubMessages.weaken fun hp => Or.inr (hpending hp), fun left read hjob => ?_⟩
          cases hjob
          refine ⟨ho, fun uuid driver hget => ?_, driversBehind_empty _⟩
          cases hget

/-- **It answers.** -/
theorem tracked_respond {s s' : StatsActor} (hs : Tracked s) (h : s.step .respond = some s') :
    Tracked s' := by
  have hasked := asked_step hs.asked h
  obtain ⟨hub, hh, hidle, hcase⟩ := respond_cases h
  obtain ⟨hhub, hhubMessages, hdrivers⟩ : hub.hubStats = s.hub.hubStats ∧
      hub.hubMessagesStats = s.hub.hubMessagesStats ∧ hub.drivers = s.hub.drivers := by
    obtain ⟨_, rfl⟩ := answer_cases hh
    exact ⟨rfl, rfl, rfl⟩
  rcases hcase with ⟨_, rfl⟩ | ⟨read, hjob, rfl⟩
  · have hpending : ∀ k, StatsActor.pending { s with hub, reset := .wantsStartTime } k := by
      intro k
      right
      cases k <;> rfl
    refine ⟨hasked, ?_, ?_, ?_, fun left read hjob => ?_⟩
    · rw [hhub]
      exact hs.hub.weaken fun _ => hpending .hub
    · rw [hdrivers]
      exact hs.drivers.weaken fun _ => hpending .drivers
    · rw [hhubMessages]
      exact hs.hubMessages.weaken fun _ => hpending .hubMessages
    · rw [hidle] at hjob
      cases hjob
  · obtain ⟨_, hlast, hlive⟩ := hs.reading [] read hjob
    have hpending : ∀ {k}, s.pending k → hub.job.resetting = true ∨ s.reset.pending k = true := by
      intro k hp
      rcases hp with hp | hp
      · rw [hjob] at hp
        cases hp
      · exact Or.inr hp
    refine ⟨hasked, ?_, ?_, ?_, fun left read hjob' => ?_⟩
    · rw [hhub]
      exact hs.hub.weaken hpending
    · rw [hdrivers]
      exact (hs.drivers.answer hlast fun _ => hlive).weaken hpending
    · rw [hhubMessages]
      exact hs.hubMessages.weaken hpending
    · rw [hidle] at hjob'
      cases hjob'

/-! ## 3. Runs -/

theorem tracked_step {s s' : StatsActor} {a : StatsAction} (hs : Tracked s) (ho : Orderly s a)
    (hw : NoneWraps s a) (h : s.step a = some s') : Tracked s' := by
  cases a with
  | hub a => exact tracked_hub hs ho hw h
  | reset now => exact tracked_reset hs h
  | update k now => exact tracked_update hs h
  | serve party => exact tracked_serve hs ho h
  | respond => exact tracked_respond hs h

theorem Tracked.calls_ordered {s : StatsActor} (hs : Tracked s) (k : Kind) (now : UInt64) :
    ∀ call ∈ s.calls now k, call.Ordered := by
  cases k with
  | hub =>
      unfold StatsActor.calls
      dsimp only
      split
      · rename_i current hpc
        exact hubCalls_ordered (hs.hub.ordered current (by rw [hpc]; rfl))
      · exact fun call hc => absurd hc List.not_mem_nil
  | drivers =>
      unfold StatsActor.calls
      dsimp only
      split
      · rename_i current hpc
        exact driversCalls_ordered (hs.drivers.ordered current (by rw [hpc]; rfl))
      · exact fun call hc => absurd hc List.not_mem_nil
  | hubMessages =>
      unfold StatsActor.calls
      dsimp only
      split
      · rename_i current hpc
        exact hubMessagesCalls_ordered (hs.hubMessages.ordered current (by rw [hpc]; rfl))
      · exact fun call hc => absurd hc List.not_mem_nil

/-- **No counter runs backwards** in a run of orderly steps. -/
theorem counters_ordered {start now : UInt64} {s : StatsActor}
    (h : Reach StatsActor.step (fun s a => NoneWraps s a ∧ Orderly s a) (.new start) s)
    (k : Kind) : ∀ call ∈ s.calls now k, call.Ordered := by
  have htracked : Tracked s :=
    h.inv (tracked_new start) fun _ _ _ hs hc hstep => tracked_step hs hc.2 hc.1 hstep
  exact htracked.calls_ordered k now

section Runs

/-- One update of the drivers' statistics, with one driver registered. -/
def updateDrivers : List StatsAction :=
  [.update .drivers 1, .update .drivers 1, .serve (.update .drivers), .hub .read, .respond,
    .update .drivers 1, .update .drivers 1]

def gcsEndpoint : AccumulatedDriverStats := ⟨"Gcs", "TcpServer", "tcpserver:0.0.0.0:5760", .default⟩

def countOne : StatsAction := .hub (.updateInput 7 2 heartbeat)

/-- A driver counts two messages, is sampled, removed and added again, and counts one; the hub
    answers the next update. -/
def replaced : List StatsAction :=
  [.hub (.addDriver 7 gcsEndpoint), countOne, countOne] ++ updateDrivers ++
    [.hub (.removeDriver 7), .hub (.addDriver 7 gcsEndpoint), countOne,
      .update .drivers 3, .update .drivers 3, .serve (.update .drivers), .hub .read, .respond]

/-- **A driver that is added again counts less than its predecessor did.** -/
theorem counters_backwards : ¬ ∀ s, Reach StatsActor.step NoneWraps (.new 0) s →
    ∀ k now, ∀ call ∈ s.calls now k, call.Ordered := by
  intro hall
  obtain ⟨s, hreach, hcalls⟩ : ∃ s, Reach StatsActor.step NoneWraps (.new 0) s ∧
      ¬ ∀ call ∈ s.calls 4 .drivers, call.Ordered :=
    exists_of_execC replaced (by decide +kernel)
  exact hcalls (hall s hreach .drivers 4)

/-- The update task runs once more before the driver is added again. -/
theorem counters_ordered_forgotten : ∃ s,
    Reach StatsActor.step (fun s a => NoneWraps s a ∧ Orderly s a) (.new 0) s ∧
      (s.calls 4 .drivers).length = 1 ∧ ∀ call ∈ s.calls 4 .drivers, call.Ordered := by
  obtain ⟨s, hreach, hone⟩ : ∃ s,
      Reach StatsActor.step (fun s a => NoneWraps s a ∧ Orderly s a) (.new 0) s ∧
        (s.calls 4 .drivers).length = 1 :=
    exists_of_execC ([.hub (.addDriver 7 gcsEndpoint), countOne, countOne] ++ updateDrivers ++
      [.hub (.removeDriver 7), .update .drivers 3, .update .drivers 3, .serve (.update .drivers),
        .respond, .update .drivers 3, .update .drivers 3, .hub (.addDriver 7 gcsEndpoint), countOne,
        .update .drivers 3, .update .drivers 3, .serve (.update .drivers), .hub .read, .respond])
      (by decide +kernel)
  exact ⟨s, hreach, hone, counters_ordered hreach .drivers⟩

end Runs

end MavlinkServer.Stats
