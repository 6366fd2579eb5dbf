/-
  File:      MavlinkServer/Stats/Actor.lean
  Subject:   THE STATS ACTOR (`src/lib/stats/actor.rs`: `reset` and the three
             periodic tasks; `src/lib/hub/actor.rs` answers them).

  * `StatsActor` -- the actor with the counters of the hub: where `reset` is
    (`ResetPc`), and the three update tasks, each a sampler of the hub;
  * `holds`, `waits`, `free` -- the seven locks. `start_time` is given back in
    the statement that takes it, the others are held over further waits;
  * `step` -- a task takes a lock it waits for, or goes on without one; the
    hub's actor takes a request, or answers; the hub counts;
  * `hub_reach` -- under the stats actor the hub runs as it does alone.
-/
import MavlinkServer.Lib.Sampler
import MavlinkServer.Stats.Published

namespace MavlinkServer.Stats

open Lib Hub

/-! ## 1. The tasks -/

/-- The three things that are sampled, each with a lock for the last snapshot and one for what is
    published of it. -/
inductive Kind where
  | hub
  | drivers
  | hubMessages
  deriving DecidableEq, Repr

/-- What `reset` waits for: the three published locks, the hub, `start_time`, and the three locks of
    the last snapshots. -/
inductive ResetPc where
  | idle
  | wantsHub
  | wantsDrivers
  | wantsHubMessages
  | asks
  | wantsStartTime
  | wantsLastDrivers
  | wantsLastHubMessages
  | wantsLastHub
  deriving DecidableEq, Repr

def ResetPc.rank : ResetPc → Nat
  | .idle => 0
  | .wantsHub => 1
  | .wantsDrivers => 2
  | .wantsHubMessages => 3
  | .asks => 4
  | .wantsStartTime => 5
  | .wantsLastDrivers => 6
  | .wantsLastHubMessages => 7
  | .wantsLastHub => 8

/-- Where `reset` takes the published lock of a kind. -/
def Kind.takes : Kind → Nat
  | .hub => 1
  | .drivers => 2
  | .hubMessages => 3

/-- Where it clears the last snapshot. -/
def Kind.clears : Kind → Nat
  | .drivers => 6
  | .hubMessages => 7
  | .hub => 8

/-- The published lock of the kind is held: from where it is taken until `reset` ends. -/
def ResetPc.holdsPublished (pc : ResetPc) (k : Kind) : Bool := k.takes < pc.rank

/-- It is held, and the last snapshot of the kind is still to be cleared. -/
def ResetPc.between (pc : ResetPc) (k : Kind) : Bool :=
  k.takes < pc.rank && pc.rank ≤ k.clears

/-- The hub has answered, and the last snapshot of the kind is still to be cleared. -/
def ResetPc.pending (pc : ResetPc) (k : Kind) : Bool :=
  ResetPc.asks.rank < pc.rank && pc.rank ≤ k.clears

structure StatsActor where
  startTime : UInt64
  hub : HubStats
  reset : ResetPc
  hubTask : Sampler AccumulatedStatsInner StatsInner
  driversTask : Sampler AccumulatedDriversStats DriversStats
  hubMessagesTask : Sampler AccumulatedHubMessagesStats (HubMessagesStats StatsInner)

def StatsActor.new (now : UInt64) : StatsActor where
  startTime := now
  hub := .new now
  reset := .idle
  hubTask := ⟨.default now, .default, .idle⟩
  driversTask := ⟨.empty, .empty, .idle⟩
  hubMessagesTask := ⟨.empty, .empty, .idle⟩

/-! ## 2. The locks -/

inductive Party where
  | reset
  | update (k : Kind)
  deriving DecidableEq, Repr

inductive Lock where
  | startTime
  | last (k : Kind)
  | published (k : Kind)
  deriving DecidableEq, Repr

/-- The lock that `reset` cannot go on without. -/
def ResetPc.waits : ResetPc → Option Lock
  | .wantsHub => some (.published .hub)
  | .wantsDrivers => some (.published .drivers)
  | .wantsHubMessages => some (.published .hubMessages)
  | .wantsStartTime => some .startTime
  | .wantsLastDrivers => some (.last .drivers)
  | .wantsLastHubMessages => some (.last .hubMessages)
  | .wantsLastHub => some (.last .hub)
  | .idle | .asks => none

theorem ResetPc.waits_published {pc : ResetPc} {k : Kind} :
    pc.waits = some (.published k) ↔ pc.rank = k.takes := by
  constructor
  · intro h
    cases k <;> cases pc <;> first | rfl | cases h
  · intro h
    cases k <;> cases pc <;> first | rfl | cases h

theorem ResetPc.waits_last {pc : ResetPc} {k : Kind} :
    pc.waits = some (.last k) ↔ pc.rank = k.clears := by
  constructor
  · intro h
    cases k <;> cases pc <;> first | rfl | cases h
  · intro h
    cases k <;> cases pc <;> first | rfl | cases h

theorem Kind.takes_lt_asks (k : Kind) : k.takes < ResetPc.asks.rank := by
  cases k <;> decide

theorem Kind.asks_lt_clears (k : Kind) : ResetPc.asks.rank < k.clears := by
  cases k <;> decide

namespace StatsActor

/-- Where an update task is, without the snapshots it has. -/
def phase (s : StatsActor) : Kind → SamplerPhase
  | .hub => s.hubTask.pc.phase
  | .drivers => s.driversTask.pc.phase
  | .hubMessages => s.hubMessagesTask.pc.phase

def holds (s : StatsActor) : Party → Lock → Bool
  | .reset, .published k => s.reset.holdsPublished k
  | .update k, .last k' => k = k' && (s.phase k).holdsLast
  | _, _ => false

/-- The lock that a task cannot go on without. -/
def waits (s : StatsActor) : Party → Option Lock
  | .reset => s.reset.waits
  | .update k =>
      match s.phase k with
      | .wantsLast => some (.last k)
      | .answered => some .startTime
      | .wantsPublished => some (.published k)
      | .idle | .asks => none

def free (s : StatsActor) (lock : Lock) : Bool :=
  !(s.holds .reset lock || s.holds (.update .hub) lock || s.holds (.update .drivers) lock ||
    s.holds (.update .hubMessages) lock)

theorem free_last {s : StatsActor} {k : Kind} : s.free (.last k) = !(s.phase k).holdsLast := by
  cases k <;> simp [free, holds]

theorem free_published {s : StatsActor} {k : Kind} :
    s.free (.published k) = !s.reset.holdsPublished k := by
  simp [free, holds]

/-! ## 3. The steps -/

/-- `reset` goes on: what stands before its next wait is done with the lock it has got. -/
def resetStep (s : StatsActor) (now : UInt64) : Option StatsActor :=
  match s.reset with
  | .idle => some { s with reset := .wantsHub }
  | .wantsHub => if s.free (.published .hub) then some { s with reset := .wantsDrivers } else none
  | .wantsDrivers =>
      if s.free (.published .drivers) then some { s with reset := .wantsHubMessages } else none
  | .wantsHubMessages =>
      if s.free (.published .hubMessages) then some { s with reset := .asks } else none
  | .asks => none
  | .wantsStartTime =>
      if s.free .startTime then some { s with startTime := now, reset := .wantsLastDrivers }
      else none
  | .wantsLastDrivers =>
      if s.free (.last .drivers) then some { s with
        driversTask := { s.driversTask with last := .empty, published := .empty }
        hubMessagesTask := { s.hubMessagesTask with published := .empty }
        reset := .wantsLastHubMessages }
      else none
  | .wantsLastHubMessages =>
      if s.free (.last .hubMessages) then some { s with
        hubMessagesTask := { s.hubMessagesTask with last := .empty }
        hubTask := { s.hubTask with published := .default }
        reset := .wantsLastHub }
      else none
  | .wantsLastHub =>
      if s.free (.last .hub) then some { s with
        hubTask := { s.hubTask with last := .default now }
        reset := .idle }
      else none

/-- An update task goes on. -/
def updateStep (s : StatsActor) (k : Kind) (now : UInt64) : Option StatsActor :=
  match k with
  | .hub => (s.hubTask.step (s.free (.last k)) (s.free (.published k))
      (newHubStats s.startTime)).map fun t => { s with hubTask := t }
  | .drivers => (s.driversTask.step (s.free (.last k)) (s.free (.published k))
      (newDriversStats now s.startTime)).map fun t => { s with driversTask := t }
  | .hubMessages => (s.hubMessagesTask.step (s.free (.last k)) (s.free (.published k))
      (newHubMessagesStats now s.startTime)).map fun t => { s with hubMessagesTask := t }

/-- The hub's actor takes a request. What one lock gives it answers at once. -/
def serve (s : StatsActor) : Party → Option StatsActor
  | .reset =>
      if s.reset = .asks then (s.hub.step .resetAllStats).map fun hub => { s with hub } else none
  | .update .drivers =>
      if s.phase .drivers = .asks then (s.hub.step .getDriversStats).map fun hub => { s with hub }
      else none
  | .update .hub =>
      if s.phase .hub = .asks ∧ s.hub.job = .idle then
        some { s with hubTask := s.hubTask.answer s.hub.hubStats }
      else none
  | .update .hubMessages =>
      if s.phase .hubMessages = .asks ∧ s.hub.job = .idle then
        some { s with hubMessagesTask := s.hubMessagesTask.answer s.hub.hubMessagesStats }
      else none

/-- It answers a request that took it more than one lock. -/
def respond (s : StatsActor) : Option StatsActor :=
  match s.hub.job with
  | .resetDone =>
      (s.hub.step .respond).map fun hub => { s with hub, reset := .wantsStartTime }
  | .readDrivers [] read =>
      (s.hub.step .respond).map fun hub =>
        { s with hub, driversTask := s.driversTask.answer read }
  | _ => none

end StatsActor

inductive StatsAction where
  | hub (a : HubStatsAction)
  | reset (now : UInt64)
  | update (k : Kind) (now : UInt64)
  | serve (party : Party)
  | respond
  deriving DecidableEq

def StatsActor.step (s : StatsActor) : StatsAction → Option StatsActor
  | .hub a => if a.own then (s.hub.step a).map fun hub => { s with hub } else none
  | .reset now => s.resetStep now
  | .update k now => s.updateStep k now
  | .serve party => s.serve party
  | .respond => s.respond

/-! ## 4. What the steps leave alone -/

section Frames

variable {s s' : StatsActor} {now : UInt64} {k k' : Kind}

/-- `reset` leaves the hub and the places of the update tasks alone, and goes on by one; it gets the
    lock it waits for only when that is free. -/
theorem resetStep_frame (h : s.resetStep now = some s') :
    s'.hub = s.hub ∧ (∀ k, s'.phase k = s.phase k) ∧ s.reset ≠ .asks ∧
      (s'.reset.rank = s.reset.rank + 1 ∨ s.reset.rank = 8 ∧ s'.reset.rank = 0) ∧
      ∀ lock, s.reset.waits = some lock → s.free lock = true := by
  unfold StatsActor.resetStep at h
  cases hpc : s.reset with
  | idle =>
      rw [hpc] at h
      cases h
      exact ⟨rfl, fun _ => rfl, nofun, Or.inl rfl, nofun⟩
  | asks => rw [hpc] at h; cases h
  | wantsHub | wantsDrivers | wantsHubMessages | wantsStartTime =>
      rw [hpc] at h
      obtain ⟨hf, he⟩ := Option.ite_none_right_eq_some.mp h
      cases he
      exact ⟨rfl, fun _ => rfl, nofun, Or.inl rfl, fun lock hw => by cases hw; exact hf⟩
  | wantsLastDrivers | wantsLastHubMessages =>
      rw [hpc] at h
      obtain ⟨hf, he⟩ := Option.ite_none_right_eq_some.mp h
      cases he
      exact ⟨rfl, fun k => by cases k <;> rfl, nofun, Or.inl rfl,
        fun lock hw => by cases hw; exact hf⟩
  | wantsLastHub =>
      rw [hpc] at h
      obtain ⟨hf, he⟩ := Option.ite_none_right_eq_some.mp h
      cases he
      exact ⟨rfl, fun k => by cases k <;> rfl, nofun, Or.inr ⟨rfl, rfl⟩,
        fun lock hw => by cases hw; exact hf⟩

/-- An update task leaves the hub, `reset` and the other tasks alone, and takes the lock of its
    last snapshot only where it waits for it. -/
theorem updateStep_frame (h : s.updateStep k now = some s') :
    s'.hub = s.hub ∧ s'.reset = s.reset ∧ (∀ k', k' ≠ k → s'.phase k' = s.phase k') ∧
      s.phase k ≠ .asks ∧
      ((s'.phase k).holdsLast = true → (s.phase k).holdsLast = true ∨ s.phase k = .wantsLast) ∧
      ((s.phase k).holdsLast = true → s.free (.published k) = false →
        (s'.phase k).holdsLast = true) := by
  cases k with
  | hub =>
      obtain ⟨t, ht, rfl⟩ := Option.map_eq_some_iff.mp h
      refine ⟨rfl, rfl, fun k' hk => ?_, Sampler.not_asks_step ht,
        Sampler.holdsLast_step ht, Sampler.holdsLast_kept ht⟩
      cases k' with
      | hub => exact absurd rfl hk
      | drivers => rfl
      | hubMessages => rfl
  | drivers =>
      obtain ⟨t, ht, rfl⟩ := Option.map_eq_some_iff.mp h
      refine ⟨rfl, rfl, fun k' hk => ?_, Sampler.not_asks_step ht,
        Sampler.holdsLast_step ht, Sampler.holdsLast_kept ht⟩
      cases k' with
      | hub => rfl
      | drivers => exact absurd rfl hk
      | hubMessages => rfl
  | hubMessages =>
      obtain ⟨t, ht, rfl⟩ := Option.map_eq_some_iff.mp h
      refine ⟨rfl, rfl, fun k' hk => ?_, Sampler.not_asks_step ht,
        Sampler.holdsLast_step ht, Sampler.holdsLast_kept ht⟩
      cases k' with
      | hub => rfl
      | drivers => rfl
      | hubMessages => exact absurd rfl hk

/-- The hub's actor takes a request of a task that has asked, which stays where it holds its
    locks. -/
theorem serve_frame {party : Party} (h : s.serve party = some s') :
    s'.reset = s.reset ∧
      ((s'.hub = s.hub ∧ s.hub.job = .idle) ∨ ∃ a, s.hub.step a = some s'.hub) ∧
      ∀ k, (s'.phase k).holdsLast = (s.phase k).holdsLast := by
  cases party with
  | reset =>
      obtain ⟨_, h⟩ := Option.ite_none_right_eq_some.mp h
      obtain ⟨hub, hh, rfl⟩ := Option.map_eq_some_iff.mp h
      exact ⟨rfl, Or.inr ⟨_, hh⟩, fun k => by cases k <;> rfl⟩
  | update k =>
      cases k with
      | hub =>
          obtain ⟨⟨hp, hidle⟩, he⟩ := Option.ite_none_right_eq_some.mp h
          cases he
          refine ⟨rfl, Or.inl ⟨rfl, hidle⟩, fun k => ?_⟩
          cases k with
          | hub => rw [hp]; rfl
          | drivers => rfl
          | hubMessages => rfl
      | drivers =>
          obtain ⟨_, h⟩ := Option.ite_none_right_eq_some.mp h
          obtain ⟨hub, hh, rfl⟩ := Option.map_eq_some_iff.mp h
          exact ⟨rfl, Or.inr ⟨_, hh⟩, fun k => by cases k <;> rfl⟩
      | hubMessages =>
          obtain ⟨⟨hp, hidle⟩, he⟩ := Option.ite_none_right_eq_some.mp h
          cases he
          refine ⟨rfl, Or.inl ⟨rfl, hidle⟩, fun k => ?_⟩
          cases k with
          | hub => rfl
          | drivers => rfl
          | hubMessages => rw [hp]; rfl

/-- The hub's actor answers: `reset`, or the task that reads the drivers. -/
theorem respond_cases (h : s.respond = some s') :
    ∃ hub, s.hub.step .respond = some hub ∧ hub.job = .idle ∧
      (s.hub.job = .resetDone ∧ s' = { s with hub, reset := .wantsStartTime } ∨
        ∃ read, s.hub.job = .readDrivers [] read ∧
          s' = { s with hub, driversTask := s.driversTask.answer read }) := by
  unfold StatsActor.respond at h
  split at h
  · rename_i hjob
    obtain ⟨hub, hh, rfl⟩ := Option.map_eq_some_iff.mp h
    have hidle : hub.job = .idle := congrArg HubStats.job (answer_cases hh).2
    exact ⟨hub, hh, hidle, Or.inl ⟨hjob, rfl⟩⟩
  · rename_i read hjob
    obtain ⟨hub, hh, rfl⟩ := Option.map_eq_some_iff.mp h
    have hidle : hub.job = .idle := congrArg HubStats.job (answer_cases hh).2
    exact ⟨hub, hh, hidle, Or.inr ⟨read, hjob, rfl⟩⟩
  · cases h

/-- The hub takes a step of its own. -/
theorem hubStep_cases {a : HubStatsAction} (h : s.step (.hub a) = some s') :
    a.own = true ∧ ∃ hub, s.hub.step a = some hub ∧ s' = { s with hub } := by
  obtain ⟨hown, h⟩ := Option.ite_none_right_eq_some.mp h
  obtain ⟨hub, hh, rfl⟩ := Option.map_eq_some_iff.mp h
  exact ⟨hown, hub, hh, rfl⟩

end Frames

/-- **The hub runs as it does alone**: a step of the whole is a step of the hub, or none. -/
theorem hub_reach {C : StatsActor → StatsAction → Prop} {now : UInt64} {s : StatsActor}
    (h : Reach StatsActor.step C (.new now) s) : Reach HubStats.step Free (.new now) s.hub := by
  refine Reach.inv (I := fun s => Reach HubStats.step Free (.new now) s.hub) .start ?_ h
  intro s s' a ih _ hstep
  cases a with
  | hub a =>
      obtain ⟨_, hub, hh, rfl⟩ := hubStep_cases hstep
      exact .next _ _ a ih trivial hh
  | reset now =>
      rw [(resetStep_frame hstep).1]
      exact ih
  | update k now =>
      rw [(updateStep_frame hstep).1]
      exact ih
  | serve party =>
      rcases (serve_frame hstep).2.1 with ⟨hsame, _⟩ | ⟨a, hh⟩
      · rw [hsame]
        exact ih
      · exact .next _ _ a ih trivial hh
  | respond =>
      obtain ⟨hub, hh, _, ⟨_, rfl⟩ | ⟨read, _, rfl⟩⟩ := respond_cases hstep
      · exact .next _ _ .respond ih trivial hh
      · exact .next _ _ .respond ih trivial hh

/-! ## 5. Requests are asked -/

/-- **Asked**: while the hub's actor is at a request, the task that asked waits for its answer. -/
structure Asked (s : StatsActor) : Prop where
  reset : s.hub.job.resetting = true → s.reset = .asks
  drivers : s.hub.job.reading = true → s.phase .drivers = .asks

theorem asked_new (now : UInt64) : Asked (.new now) := ⟨nofun, nofun⟩

theorem asked_of_idle {s : StatsActor} (h : s.hub.job = .idle) : Asked s := by
  refine ⟨fun hr => ?_, fun hr => ?_⟩
  · rw [h] at hr
    cases hr
  · rw [h] at hr
    cases hr

theorem asked_step {s s' : StatsActor} {a : StatsAction} (hs : Asked s)
    (h : s.step a = some s') : Asked s' := by
  cases a with
  | hub a =>
      obtain ⟨hown, hub, hh, rfl⟩ := hubStep_cases h
      obtain ⟨hresetting, hreading⟩ := job_step hown hh
      exact ⟨fun hr => hs.reset (hresetting.symm.trans hr),
        fun hr => hs.drivers (hreading.symm.trans hr)⟩
  | reset now =>
      obtain ⟨hhub, hphase, hasks, _, _⟩ := resetStep_frame h
      refine ⟨fun hr => ?_, fun hr => ?_⟩
      · rw [hhub] at hr
        exact absurd (hs.reset hr) hasks
      · rw [hhub] at hr
        rw [hphase]
        exact hs.drivers hr
  | update k now =>
      obtain ⟨hhub, hreset, hother, hasks, _⟩ := updateStep_frame h
      refine ⟨fun hr => ?_, fun hr => ?_⟩
      · rw [hhub] at hr
        rw [hreset]
        exact hs.reset hr
      · rw [hhub] at hr
        have hdrivers := hs.drivers hr
        by_cases hk : Kind.drivers = k
        · subst hk
          exact absurd hdrivers hasks
        · rw [hother _ hk]
          exact hdrivers
  | serve party =>
      cases party with
      | reset =>
          obtain ⟨hasks, h⟩ := Option.ite_none_right_eq_some.mp h
          obtain ⟨hub, hh, rfl⟩ := Option.map_eq_some_iff.mp h
          obtain ⟨_, he⟩ := Option.ite_none_right_eq_some.mp hh
          cases he
          exact ⟨fun _ => hasks, nofun⟩
      | update k =>
          cases k with
          | drivers =>
              obtain ⟨hasks, h⟩ := Option.ite_none_right_eq_some.mp h
              obtain ⟨hub, hh, rfl⟩ := Option.map_eq_some_iff.mp h
              obtain ⟨_, he⟩ := Option.ite_none_right_eq_some.mp hh
              cases he
              exact ⟨nofun, fun _ => hasks⟩
          | hub | hubMessages =>
              obtain ⟨⟨_, hidle⟩, he⟩ := Option.ite_none_right_eq_some.mp h
              cases he
              exact asked_of_idle hidle
  | respond =>
      obtain ⟨hub, _, hidle, ⟨_, rfl⟩ | ⟨read, _, rfl⟩⟩ := respond_cases h
      · exact asked_of_idle hidle
      · exact asked_of_idle hidle

end MavlinkServer.Stats
