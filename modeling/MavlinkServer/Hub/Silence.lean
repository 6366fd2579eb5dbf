/-
  File:      MavlinkServer/Hub/Silence.lean
  Subject:   WHAT A REMOVED DRIVER STILL DOES. RemoveDriver aborts the task that
             runs the driver. What stops with it is what that task's state
             owns: the send tasks of a UDP server. The client tasks of a TCP
             server and the connections of a WebSocket server were spawned
             and let go.

  * `Silent` -- no message passes through a task of the driver any more;
  * `running_step` -- a task that runs after a step ran before, or was spawned
    by a running task of its driver, or by an AddDriver of it;
  * `removeDriver_silent_iff` -- a removed driver is silent exactly when no
    such task was left running.
-/
import MavlinkServer.Hub.Registry

namespace MavlinkServer.Hub

open Lib

/-! ## 1. What a step may start -/

theorem running_of_stop {s : HubActor} {drivers : IndexMap DriverUuid DriverRunner}
    {stopped task : Nat} {t : DriverTask}
    (h : HubActor.running ⟨drivers, s.runtime.stop stopped⟩ task = some t) :
    s.running task = some t ∧ task ≠ stopped := by
  have hdone := (Runtime.live_iff.mp (running_iff.mp h).1).1
  rw [Runtime.isDone_stop, Bool.or_eq_false_iff, decide_eq_false_iff_not] at hdone
  refine ⟨running_of_stopped (Runtime.label?_stop _ _) (Runtime.owners_stop _ _) ?_ h,
    fun e => hdone.2 e.symm⟩
  intro task' h'
  rw [Runtime.isDone_stop, Bool.or_eq_false_iff] at h'
  exact h'.1

/-- **Where a running task comes from.** -/
theorem running_step {s s' : HubActor} {a : HubAction} (hs : Sound s) (h : s.step a = some s')
    {task : Nat} {t : DriverTask} (ht : s'.running task = some t) :
    s.running task = some t ∨ (∃ parent work, s.running parent = some ⟨t.driver, work⟩) ∨
      a = .addDriver t.driver := by
  cases HubActor.goes_of_step h with
  | addDriver driver =>
      obtain ⟨_, hfresh, hthere⟩ := addDriver_eq s driver
      have hspawn : HubActor.running ⟨(s.addDriver driver).2.drivers,
          (s.runtime.spawn ⟨driver, .runner⟩ []).2⟩ task = some t := by
        cases hget : s.drivers.get? driver.uuid with
        | none =>
            rw [← (hfresh hget).2]
            exact ht
        | some old =>
            have hstop : HubActor.running ⟨(s.addDriver driver).2.drivers,
                (s.runtime.spawn ⟨driver, .runner⟩ []).2.stop old.task⟩ task = some t := by
              rw [← (hthere old hget).2]
              exact ht
            exact (running_of_stop (s := ⟨_, (s.runtime.spawn ⟨driver, .runner⟩ []).2⟩) hstop).1
      rcases running_spawn hs hspawn with hold | ⟨_, e⟩
      · exact Or.inl hold
      · rw [e]
        exact Or.inr (Or.inr rfl)
  | removeDriver uuid =>
      obtain ⟨hnone, hsome⟩ := removeDriver_eq s uuid
      cases hget : s.drivers.get? uuid with
      | none =>
          rw [hnone hget] at ht
          exact Or.inl ht
      | some removed =>
          rw [hsome removed hget] at ht
          exact Or.inl (running_of_stop ht).1
  | spawned parent driver before work owners hrun =>
      rcases running_spawn hs ht with hold | ⟨_, e⟩
      · exact Or.inl hold
      · rw [e]
        exact Or.inr (Or.inl ⟨parent, before, hrun⟩)
  | runFails failed =>
      refine Or.inl (running_of_stopped (Runtime.label?_stopOwned _ _)
        (Runtime.owners_stopOwned _ _) (fun task' h' => ?_) ht)
      rw [Runtime.isDone_stopOwned, Bool.or_eq_false_iff] at h'
      exact h'.1
  | ends ended => exact Or.inl (running_of_stop ht).1
  | works => exact Or.inl ht

/-! ## 2. A driver without running tasks -/

/-- No task of the driver runs. -/
def NoTask (driver : Driver) (s : HubActor) : Prop :=
  ∀ task work, s.running task ≠ some ⟨driver, work⟩

/-- The driver is not added again. -/
def StaysOut (driver : Driver) (_ : HubActor) (a : HubAction) : Prop := a ≠ .addDriver driver

/-- **Silent**: in whatever follows, as long as the driver is not added again, no task of it sends
    a message into the hub and none writes a hub message to a connection. -/
def Silent (s : HubActor) (driver : Driver) : Prop :=
  ∀ s', Reach HubActor.step (StaysOut driver) s s' → ∀ task t, s'.runtime.label? task = some t →
    t.driver = driver → s'.step (.receive task) = none ∧ s'.step (.write task) = none

theorem noTask_step {driver : Driver} {s s' : HubActor} {a : HubAction} (hs : Sound s)
    (hno : NoTask driver s) (ha : StaysOut driver s a) (h : s.step a = some s') :
    NoTask driver s' := by
  intro task work hrun
  rcases running_step hs h hrun with hold | ⟨parent, work', hp⟩ | hadd
  · exact hno task work hold
  · exact hno parent work' hp
  · exact ha hadd

/-- **A driver without running tasks is silent**: a task of it is started by another task of it. -/
theorem NoTask.silent {driver : Driver} {s : HubActor} (hs : Sound s) (hno : NoTask driver s) :
    Silent s driver := by
  intro s' hreach task t hlabel hd
  have hinv : Sound s' ∧ NoTask driver s' := by
    refine Reach.inv (I := fun s => Sound s ∧ NoTask driver s) ⟨hs, hno⟩ ?_ hreach
    intro s1 s2 a h1 ha hstep
    exact ⟨sound_step h1.1 hstep, noTask_step h1.1 h1.2 ha hstep⟩
  have hrun : s'.running task = none := by
    cases hr : s'.running task with
    | none => rfl
    | some t' =>
        have hsame : t' = t := Option.some.inj ((running_iff.mp hr).2.symm.trans hlabel)
        obtain ⟨driver', work⟩ := t
        cases hd
        rw [hsame] at hr
        exact absurd hr (hinv.2 task work)
  constructor
  · simp only [HubActor.step, hrun]
  · simp only [HubActor.step, hrun]

/-- A client task moves messages one way at least. -/
theorem client_moves {s : HubActor} {task : Nat} {driver : Driver}
    (h : s.running task = some ⟨driver, .client⟩) :
    s.step (.receive task) = some s ∨ s.step (.write task) = some s := by
  simp only [HubActor.step, h]
  cases hd : driver.direction with
  | both => left; simp [DriverTask.receives, hd, Direction.canReceive]
  | receiver => left; simp [DriverTask.receives, hd, Direction.canReceive]
  | sender => right; simp [DriverTask.writes, hd, Direction.canSend]

/-- The tasks that nobody owns and no handle is kept of. -/
def Work.detached : Work → Bool
  | .httpConnection | .client => true
  | .runner | .udpSend => false

/-- **A detached task is heard**: a client moves messages, an HTTP connection becomes a client. -/
theorem not_silent_of_detached {s : HubActor} {task : Nat} {driver : Driver} {work : Work}
    (h : s.running task = some ⟨driver, work⟩) (hwork : work.detached = true) :
    ¬ Silent s driver := by
  have client : ∀ {s' task'}, Reach HubActor.step (StaysOut driver) s s' →
      s'.running task' = some ⟨driver, .client⟩ → ¬ Silent s driver := by
    intro s' task' hreach hrun hsilent
    obtain ⟨hr, hw⟩ := hsilent s' hreach task' _ (running_iff.mp hrun).2 rfl
    rcases client_moves hrun with hmoves | hmoves
    · rw [hr] at hmoves
      cases hmoves
    · rw [hw] at hmoves
      cases hmoves
  cases work with
  | runner => cases hwork
  | udpSend => cases hwork
  | client => exact client .start h
  | httpConnection =>
      have hup : s.step (.upgrade task) = some (s.spawnFor driver .client []) := by
        simp only [HubActor.step, h]
      have hnew : (s.spawnFor driver .client []).running s.runtime.tasks.length =
          some ⟨driver, .client⟩ :=
        running_iff.mpr ⟨Runtime.live_spawn_new fun o ho => absurd ho List.not_mem_nil,
          Runtime.label?_spawn_new⟩
      have hreach : Reach HubActor.step (StaysOut driver) s (s.spawnFor driver .client []) :=
        .next s _ (.upgrade task) .start (by intro e; cases e) hup
      exact client hreach hnew

/-! ## 3. RemoveDriver -/

/-- An abort of a runner leaves the detached tasks running. -/
theorem running_stop_of_detached {s : HubActor} (hs : Sound s)
    (drivers : IndexMap DriverUuid DriverRunner) {stopped task : Nat} {aborted driver : Driver}
    {work : Work} (hstopped : s.runtime.label? stopped = some ⟨aborted, .runner⟩)
    (hrun : s.running task = some ⟨driver, work⟩) (hdet : work.detached = true) :
    HubActor.running ⟨drivers, s.runtime.stop stopped⟩ task = some ⟨driver, work⟩ := by
  obtain ⟨hl, hlabel⟩ := running_iff.mp hrun
  have hne : stopped ≠ task := by
    intro e
    rw [e, hlabel] at hstopped
    cases hstopped
    cases hdet
  have hnot : work ≠ .udpSend := by
    intro e
    rw [e] at hdet
    cases hdet
  refine running_iff.mpr ⟨Runtime.live_iff.mpr ⟨?_, ?_⟩, ?_⟩
  · rw [Runtime.isDone_stop, (Runtime.live_iff.mp hl).1]
    simpa using hne
  · rw [Runtime.owners_stop, hs.free task _ work hlabel hnot]
    exact fun o ho => absurd ho List.not_mem_nil
  · rw [Runtime.label?_stop]
    exact hlabel

/-- **Of a driver that is not registered only detached tasks run**: its runner would be in the map,
    and owns its send tasks. -/
theorem detached_of_unregistered {s : HubActor} (hs : Sound s) {driver : Driver}
    (hget : s.drivers.get? driver.uuid = none) {task : Nat} {work : Work}
    (hrun : s.running task = some ⟨driver, work⟩) : work.detached = true := by
  have norunner : ∀ task', s.running task' ≠ some ⟨driver, .runner⟩ := by
    intro task' hr
    obtain ⟨runner, hget', _⟩ := hs.runners task' driver hr
    rw [hget] at hget'
    cases hget'
  cases work with
  | runner => exact absurd hrun (norunner task)
  | udpSend =>
      obtain ⟨hl, hlabel⟩ := running_iff.mp hrun
      obtain ⟨owner, howners, howner⟩ := hs.owned task driver hlabel
      refine absurd (running_iff.mpr ⟨Runtime.live_iff.mpr ⟨?_, ?_⟩, howner⟩) (norunner owner)
      · refine (Runtime.live_iff.mp hl).2 owner ?_
        rw [howners]
        exact List.mem_singleton_self _
      · rw [hs.free owner driver .runner howner (by decide)]
        exact fun o ho => absurd ho List.not_mem_nil
  | httpConnection => rfl
  | client => rfl

/-- **A removed driver is silent exactly when none of its detached tasks was running**: no client
    of a TCP server was connected, no connection of a WebSocket server was open. -/
theorem removeDriver_silent_iff {s s' : HubActor} (h : Reach HubActor.step Free .new s)
    {uuid : DriverUuid} {runner : DriverRunner} (hget : s.drivers.get? uuid = some runner)
    (hrem : s.removeDriver uuid = (.ok (), s')) :
    Silent s' runner.driver ↔
      ∀ task work, s.running task = some ⟨runner.driver, work⟩ → work.detached = false := by
  have hs := sound_reach h
  have hs' : Sound s' := by
    have hsound := hs.removeDriver uuid
    rw [hrem] at hsound
    exact hsound
  obtain ⟨_, hsome⟩ := removeDriver_eq s uuid
  have hstate := hsome runner hget
  rw [hrem] at hstate
  cases hstate
  obtain ⟨huuid, hrunner⟩ := hs.registered uuid runner hget
  constructor
  · intro hsilent task work hrun
    cases hdet : work.detached with
    | false => rfl
    | true =>
        have hafter := running_stop_of_detached hs (s.drivers.swapRemove uuid).2 hrunner hrun hdet
        exact absurd hsilent (not_silent_of_detached hafter hdet)
  · intro hdetached
    refine NoTask.silent hs' fun task work hrun => ?_
    have hremoved : (s.drivers.swapRemove uuid).2.get? runner.driver.uuid = none := by
      rw [huuid]
      exact IndexMap.get?_swapRemove_self ..
    have hdet := detached_of_unregistered hs' hremoved hrun
    rw [hdetached task work (running_of_stop hrun).1] at hdet
    cases hdet

section Runs

/-- A TCP server, with a client connected when it is removed. -/
def server : Driver := ⟨9, 2, .tcpServer, .both⟩

def serverWithClient : HubActor :=
  ⟨⟨[(9, ⟨9, server, 0⟩)], by decide⟩,
   ⟨[⟨⟨server, .runner⟩, [], false⟩, ⟨⟨server, .client⟩, [], false⟩]⟩⟩

theorem serverWithClient_reach : Reach HubActor.step Free .new serverWithClient := by
  have hrun : execC HubActor.step Free .new [.addDriver server, .accept 0] =
      some serverWithClient := by
    decide +kernel
  exact reach_of_execC hrun

theorem removeDriver_silent_iff_server :
    Silent (serverWithClient.removeDriver 9).2 server ↔
      ∀ task work, serverWithClient.running task = some ⟨server, work⟩ →
        work.detached = false := by
  have hget : serverWithClient.drivers.get? 9 = some ⟨9, server, 0⟩ := by decide +kernel
  have hok : (serverWithClient.removeDriver 9).1 = .ok () := by decide +kernel
  exact removeDriver_silent_iff serverWithClient_reach hget (Prod.ext hok rfl)

/-- **A client of a removed TCP server is still served.** -/
theorem removeDriver_notSilent :
    ¬ ∀ (s s' : HubActor) (uuid : DriverUuid) (runner : DriverRunner),
      Reach HubActor.step Free .new s → s.drivers.get? uuid = some runner →
      s.removeDriver uuid = (.ok (), s') → Silent s' runner.driver := by
  intro hall
  have hok : (serverWithClient.removeDriver 9).1 = .ok () := by decide +kernel
  have hsilent := hall serverWithClient _ 9 ⟨9, server, 0⟩ serverWithClient_reach
    (by decide +kernel) (Prod.ext hok rfl)
  have hrun : (serverWithClient.removeDriver 9).2.running 1 = some ⟨server, .client⟩ := by
    decide +kernel
  exact not_silent_of_detached hrun rfl hsilent

end Runs

end MavlinkServer.Hub
