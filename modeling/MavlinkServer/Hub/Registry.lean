/-
  File:      MavlinkServer/Hub/Registry.lean
  Subject:   THE DRIVER REGISTRY OF THE HUB
             (`src/lib/hub/actor.rs`: `add_driver`, `remove_driver` and
             `Drop for DriverRunner`).

  * `Driver`, `DriverRunner`, `HubActor` -- a driver object, its entry in the map
    with the task that runs it, and the actor's state with the tasks there are;
  * `addDriver`, `removeDriver` -- the two commands. The task of a new driver
    is spawned before the map is looked at, and an entry that leaves the map is
    dropped, which aborts its task;
  * `step` -- a command, or something a driver's task does: it accepts a
    client, upgrades a connection, meets a new UDP client, ends, or moves a
    message between the hub and a connection (`Work` says which task does what);
  * `Goes` -- all that a step can do, from which the invariants are proved;
  * `addDriver_atomic_iff` -- an AddDriver that fails leaves everything as it
    was exactly when it does not fail.
-/
import MavlinkServer.Lib.IndexMap
import MavlinkServer.Lib.Run
import MavlinkServer.Lib.Tasks

namespace MavlinkServer.Hub

open Lib

/-! ## 1. Drivers and their tasks -/

abbrev DriverUuid : Type := BitVec 128

inductive Direction where
  | both
  | receiver
  | sender
  deriving DecidableEq, Repr

def Direction.canReceive : Direction → Bool
  | .both | .receiver => true
  | .sender => false

def Direction.canSend : Direction → Bool
  | .both | .sender => true
  | .receiver => false

/-- The implementations of the trait `Driver`. -/
inductive DriverType where
  | tcpServer
  | webSocketServer
  | udpServer
  | tcpClient
  | udpClient
  | serial
  | webSocketClient
  | zenoh
  | zenohRaw
  | rest
  | tlogReader
  | tlogWriter
  | fakeSink
  | fakeSource
  deriving DecidableEq, Repr

/-- A driver object. -/
structure Driver where
  uuid : DriverUuid
  /-- which object it is; another one may have the same uuid -/
  object : Nat
  type : DriverType
  direction : Direction
  deriving DecidableEq, Repr

/-- What a task of a driver does. -/
inductive Work where
  /-- `run`, restarted while it fails -/
  | runner
  /-- an HTTP connection of the WebSocket server, spawned by `axum::serve` -/
  | httpConnection
  /-- `handle_client` of the TCP or the WebSocket server -/
  | client
  /-- `udp_send_task` of one client of the UDP server -/
  | udpSend
  deriving DecidableEq, Repr

structure DriverTask where
  driver : Driver
  work : Work
  deriving DecidableEq, Repr

/-- The task receives from a connection and sends into the hub. The runners of the TCP and the
    WebSocket server only accept; those of a file writer and of the fake sink only write. -/
def DriverTask.receives (t : DriverTask) : Bool :=
  match t.work, t.driver.type with
  | .runner, .tcpServer | .runner, .webSocketServer => false
  | .runner, .tlogWriter | .runner, .fakeSink => false
  | .runner, .tlogReader | .runner, .fakeSource | .runner, .rest => true
  | .runner, _ => t.driver.direction.canReceive
  | .httpConnection, _ => false
  | .client, _ => t.driver.direction.canReceive
  | .udpSend, _ => false

/-- The task writes hub messages to a connection. -/
def DriverTask.writes (t : DriverTask) : Bool :=
  match t.work, t.driver.type with
  | .runner, .tcpServer | .runner, .webSocketServer | .runner, .udpServer => false
  | .runner, .tlogReader | .runner, .fakeSource => false
  | .runner, .tlogWriter | .runner, .fakeSink | .runner, .rest => true
  | .runner, _ => t.driver.direction.canSend
  | .httpConnection, _ => false
  | .client, _ => t.driver.direction.canSend
  | .udpSend, _ => t.driver.direction.canSend

/-! ## 2. The actor -/

structure DriverRunner where
  uuid : DriverUuid
  driver : Driver
  task : Nat
  deriving DecidableEq, Repr

inductive HubError where
  /-- "Failed addinng driver: uuid {uuid:?} is already present" -/
  | alreadyPresent (uuid : DriverUuid)
  /-- "Driver uuid {uuid:?} not found", with no value put into the text -/
  | notFound
  deriving DecidableEq, Repr

structure HubActor where
  drivers : IndexMap DriverUuid DriverRunner
  runtime : Runtime DriverTask
  deriving DecidableEq

def HubActor.new : HubActor := ⟨.empty, .empty⟩

/-- `Drop for DriverRunner`. -/
def DriverRunner.drop (runner : DriverRunner) (runtime : Runtime DriverTask) :
    Runtime DriverTask :=
  runtime.stop runner.task

def HubActor.addDriver (s : HubActor) (driver : Driver) : Except HubError DriverUuid × HubActor :=
  let (task, runtime) := s.runtime.spawn ⟨driver, .runner⟩ []
  let (old, drivers) := s.drivers.insert driver.uuid ⟨driver.uuid, driver, task⟩
  match old with
  | some displaced => (.error (.alreadyPresent driver.uuid), ⟨drivers, displaced.drop runtime⟩)
  | none => (.ok driver.uuid, ⟨drivers, runtime⟩)

def HubActor.removeDriver (s : HubActor) (uuid : DriverUuid) : Except HubError Unit × HubActor :=
  let (old, drivers) := s.drivers.swapRemove uuid
  match old with
  | some removed => (.ok (), ⟨drivers, removed.drop s.runtime⟩)
  | none => (.error .notFound, s)

/-! ## 3. Runs -/

inductive HubAction where
  | addDriver (driver : Driver)
  | removeDriver (uuid : DriverUuid)
  /-- the runner of a TCP or WebSocket server accepts a connection -/
  | accept (task : Nat)
  /-- an HTTP connection becomes a WebSocket -/
  | upgrade (task : Nat)
  /-- the runner of a UDP server hears a new address, or replaces a send task that ended -/
  | newUdpClient (task : Nat)
  /-- the future `run` of a runner fails, and what it owned is dropped; it is run again -/
  | runFails (task : Nat)
  /-- a UDP client times out and is dropped, a connection closes, a runner ends -/
  | ends (task : Nat)
  /-- a task takes a message from its connection and sends it into the hub -/
  | receive (task : Nat)
  /-- a task writes a hub message to its connection -/
  | write (task : Nat)
  deriving DecidableEq, Repr

/-- A task that runs, with what it does. -/
def HubActor.running (s : HubActor) (task : Nat) : Option DriverTask :=
  if s.runtime.live task then s.runtime.label? task else none

/-- Another task is spawned for the driver of a running one. -/
def HubActor.spawnFor (s : HubActor) (driver : Driver) (work : Work) (owners : List Nat) : HubActor :=
  { s with runtime := (s.runtime.spawn ⟨driver, work⟩ owners).2 }

def HubActor.step (s : HubActor) : HubAction → Option HubActor
  | .addDriver driver => some (s.addDriver driver).2
  | .removeDriver uuid => some (s.removeDriver uuid).2
  | .accept task =>
      match s.running task with
      | some ⟨driver, .runner⟩ =>
          match driver.type with
          | .tcpServer => some (s.spawnFor driver .client [])
          | .webSocketServer => some (s.spawnFor driver .httpConnection [])
          | _ => none
      | _ => none
  | .upgrade task =>
      match s.running task with
      | some ⟨driver, .httpConnection⟩ => some (s.spawnFor driver .client [])
      | _ => none
  | .newUdpClient task =>
      match s.running task with
      | some ⟨driver, .runner⟩ =>
          if driver.type = .udpServer then some (s.spawnFor driver .udpSend [task]) else none
      | _ => none
  | .runFails task =>
      match s.running task with
      | some ⟨_, .runner⟩ => some { s with runtime := s.runtime.stopOwned task }
      | _ => none
  | .ends task =>
      match s.running task with
      | some _ => some { s with runtime := s.runtime.stop task }
      | none => none
  | .receive task =>
      match s.running task with
      | some t => if t.receives then some s else none
      | none => none
  | .write task =>
      match s.running task with
      | some t => if t.writes then some s else none
      | none => none

theorem running_iff {s : HubActor} {task : Nat} {t : DriverTask} :
    s.running task = some t ↔ s.runtime.live task = true ∧ s.runtime.label? task = some t := by
  unfold HubActor.running
  split
  · rename_i h
    simp [h]
  · rename_i h
    simp [h]

/-- **All that a step can do.** -/
inductive HubActor.Goes (s : HubActor) : HubAction → HubActor → Prop where
  | addDriver (driver : Driver) : Goes s (.addDriver driver) (s.addDriver driver).2
  | removeDriver (uuid : DriverUuid) : Goes s (.removeDriver uuid) (s.removeDriver uuid).2
  /-- a task of a driver spawns another one -/
  | spawned {a : HubAction} (parent : Nat) (driver : Driver) (before work : Work)
      (owners : List Nat) (hrun : s.running parent = some ⟨driver, before⟩) (hwork : work ≠ .runner)
      (hfree : work ≠ .udpSend → owners = [])
      (howned : work = .udpSend → owners = [parent] ∧ before = .runner) :
      Goes s a (s.spawnFor driver work owners)
  | runFails (task : Nat) : Goes s (.runFails task) { s with runtime := s.runtime.stopOwned task }
  | ends (task : Nat) : Goes s (.ends task) { s with runtime := s.runtime.stop task }
  /-- a packet is read or written -/
  | works {a : HubAction} : Goes s a s

theorem HubActor.goes_of_step {s s' : HubActor} {a : HubAction} (h : s.step a = some s') :
    s.Goes a s' := by
  cases a with
  | addDriver driver =>
      cases h
      exact .addDriver driver
  | removeDriver uuid =>
      cases h
      exact .removeDriver uuid
  | accept task =>
      simp only [HubActor.step] at h
      split at h
      · rename_i driver hrun
        split at h
        · cases h
          exact .spawned task driver _ _ _ hrun (by decide) (fun _ => rfl) fun e => by cases e
        · cases h
          exact .spawned task driver _ _ _ hrun (by decide) (fun _ => rfl) fun e => by cases e
        · cases h
      · cases h
  | upgrade task =>
      simp only [HubActor.step] at h
      split at h
      · rename_i driver hrun
        cases h
        exact .spawned task driver _ _ _ hrun (by decide) (fun _ => rfl) fun e => by cases e
      · cases h
  | newUdpClient task =>
      simp only [HubActor.step] at h
      split at h
      · rename_i driver hrun
        split at h
        · cases h
          exact .spawned task driver _ _ _ hrun (by decide) (fun e => absurd rfl e)
            fun _ => ⟨rfl, rfl⟩
        · cases h
      · cases h
  | runFails task =>
      simp only [HubActor.step] at h
      split at h
      · cases h
        exact .runFails task
      · cases h
  | ends task =>
      simp only [HubActor.step] at h
      split at h
      · cases h
        exact .ends task
      · cases h
  | receive task | write task =>
      simp only [HubActor.step] at h
      split at h
      · split at h
        · cases h
          exact .works
        · cases h
      · cases h

/-! ## 4. What the commands do -/

theorem addDriver_eq (s : HubActor) (driver : Driver) :
    (s.addDriver driver).2.drivers = (s.drivers.insert driver.uuid
        ⟨driver.uuid, driver, s.runtime.tasks.length⟩).2 ∧
      (s.drivers.get? driver.uuid = none → (s.addDriver driver).1 = .ok driver.uuid ∧
        (s.addDriver driver).2.runtime = (s.runtime.spawn ⟨driver, .runner⟩ []).2) ∧
      ∀ displaced, s.drivers.get? driver.uuid = some displaced →
        (s.addDriver driver).1 = .error (.alreadyPresent driver.uuid) ∧
        (s.addDriver driver).2.runtime =
          (s.runtime.spawn ⟨driver, .runner⟩ []).2.stop displaced.task := by
  have hold := IndexMap.insert_fst s.drivers driver.uuid
    ⟨driver.uuid, driver, s.runtime.tasks.length⟩
  unfold HubActor.addDriver
  cases hins : s.drivers.insert driver.uuid ⟨driver.uuid, driver, s.runtime.tasks.length⟩ with
  | mk old drivers =>
      rw [hins] at hold
      have hspawn : (s.runtime.spawn ⟨driver, .runner⟩ []).1 = s.runtime.tasks.length := rfl
      dsimp only
      rw [hspawn, hins]
      cases old with
      | none =>
          refine ⟨rfl, fun _ => ⟨rfl, rfl⟩, fun displaced h => ?_⟩
          rw [h] at hold
          cases hold
      | some old =>
          refine ⟨rfl, fun h => ?_, fun displaced h => ?_⟩
          · rw [h] at hold
            cases hold
          · rw [h] at hold
            cases hold
            exact ⟨rfl, rfl⟩

theorem removeDriver_eq (s : HubActor) (uuid : DriverUuid) :
    (s.drivers.get? uuid = none → s.removeDriver uuid = (.error .notFound, s)) ∧
      ∀ removed, s.drivers.get? uuid = some removed → s.removeDriver uuid =
        (.ok (), ⟨(s.drivers.swapRemove uuid).2, s.runtime.stop removed.task⟩) := by
  have hold := IndexMap.swapRemove_fst s.drivers uuid
  unfold HubActor.removeDriver
  cases hrem : s.drivers.swapRemove uuid with
  | mk old drivers =>
      rw [hrem] at hold
      cases old with
      | none =>
          refine ⟨fun _ => rfl, fun removed h => ?_⟩
          rw [h] at hold
          cases hold
      | some old =>
          refine ⟨fun h => ?_, fun removed h => ?_⟩
          · rw [h] at hold
            cases hold
          · rw [h] at hold
            cases hold
            rfl

/-! ## 5. The invariant -/

/-- **What ties the map to the tasks.** -/
structure Sound (s : HubActor) : Prop where
  /-- an entry names its driver and the task that was spawned to run it -/
  registered : ∀ uuid runner, s.drivers.get? uuid = some runner →
    runner.driver.uuid = uuid ∧ s.runtime.label? runner.task = some ⟨runner.driver, .runner⟩
  /-- a runner that is live is in the map -/
  runners : ∀ task driver, s.running task = some ⟨driver, .runner⟩ →
    ∃ runner, s.drivers.get? driver.uuid = some runner ∧ runner.task = task
  /-- nobody owns a task but a send task -/
  free : ∀ task driver work, s.runtime.label? task = some ⟨driver, work⟩ → work ≠ .udpSend →
    s.runtime.owners task = []
  /-- the runner of the same driver owns a send task -/
  owned : ∀ task driver, s.runtime.label? task = some ⟨driver, .udpSend⟩ →
    ∃ owner, s.runtime.owners task = [owner] ∧ s.runtime.label? owner = some ⟨driver, .runner⟩

theorem label?_lt {r : Runtime DriverTask} {task : Nat} {t : DriverTask}
    (h : r.label? task = some t) : task < r.tasks.length := by
  by_contra hge
  unfold Runtime.label? at h
  rw [List.getElem?_eq_none (Nat.le_of_not_lt hge)] at h
  cases h

/-- What a label says after a spawn: it is an old one, or that of the new task. -/
theorem label?_spawn {r : Runtime DriverTask} {a t : DriverTask} {os : List Nat} {task : Nat}
    (h : (r.spawn a os).2.label? task = some t) :
    r.label? task = some t ∧ (r.spawn a os).2.owners task = r.owners task ∨
      task = r.tasks.length ∧ t = a := by
  rcases Runtime.lt_spawn (label?_lt h) with hlt | rfl
  · rw [Runtime.label?_spawn_old hlt] at h
    exact Or.inl ⟨h, Runtime.owners_spawn_old hlt⟩
  · rw [Runtime.label?_spawn_new] at h
    cases h
    exact Or.inr ⟨rfl, rfl⟩

theorem sound_new : Sound .new where
  registered := fun _ _ h => by cases h
  runners := fun _ _ h => by cases h
  free := fun _ _ _ h => by cases h
  owned := fun _ _ h => by cases h

/-- Stopped tasks start nothing. -/
theorem running_of_stopped {s : HubActor} {runtime : Runtime DriverTask}
    {drivers : IndexMap DriverUuid DriverRunner}
    (hlabel : ∀ task, runtime.label? task = s.runtime.label? task)
    (howners : ∀ task, runtime.owners task = s.runtime.owners task)
    (hdone : ∀ task, runtime.isDone task = false → s.runtime.isDone task = false)
    {task : Nat} {t : DriverTask} (h : HubActor.running ⟨drivers, runtime⟩ task = some t) :
    s.running task = some t := by
  obtain ⟨hl, ht⟩ := running_iff.mp h
  obtain ⟨hd, ho⟩ := Runtime.live_iff.mp hl
  refine running_iff.mpr ⟨Runtime.live_iff.mpr ⟨hdone task hd, fun o hmem => ?_⟩, ?_⟩
  · rw [← howners] at hmem
    exact hdone o (ho o hmem)
  · rw [← hlabel]
    exact ht

/-- Stopping tasks keeps the invariant: labels and owners stay, and nothing gets live. -/
theorem Sound.stopped {s : HubActor} (hs : Sound s) {runtime : Runtime DriverTask}
    (hlabel : ∀ task, runtime.label? task = s.runtime.label? task)
    (howners : ∀ task, runtime.owners task = s.runtime.owners task)
    (hdone : ∀ task, runtime.isDone task = false → s.runtime.isDone task = false) :
    Sound { s with runtime } := by
  refine ⟨?_, ?_, ?_, ?_⟩
  · intro uuid runner h
    obtain ⟨hu, ht⟩ := hs.registered uuid runner h
    exact ⟨hu, by rw [hlabel]; exact ht⟩
  · exact fun task driver h => hs.runners task driver (running_of_stopped hlabel howners hdone h)
  · intro task driver work h hwork
    rw [hlabel] at h
    rw [howners]
    exact hs.free task driver work h hwork
  · intro task driver h
    rw [hlabel] at h
    obtain ⟨owner, ho, hr⟩ := hs.owned task driver h
    exact ⟨owner, by rw [howners]; exact ho, by rw [hlabel]; exact hr⟩

theorem Sound.stop {s : HubActor} (hs : Sound s) (task : Nat) :
    Sound { s with runtime := s.runtime.stop task } := by
  refine hs.stopped (Runtime.label?_stop _ _) (Runtime.owners_stop _ _) fun task' h => ?_
  rw [Runtime.isDone_stop, Bool.or_eq_false_iff] at h
  exact h.1

theorem Sound.stopOwned {s : HubActor} (hs : Sound s) (task : Nat) :
    Sound { s with runtime := s.runtime.stopOwned task } := by
  refine hs.stopped (Runtime.label?_stopOwned _ _) (Runtime.owners_stopOwned _ _) fun task' h => ?_
  rw [Runtime.isDone_stopOwned, Bool.or_eq_false_iff] at h
  exact h.1

/-- The owner of a task was there before it. -/
theorem Sound.owner_lt {s : HubActor} (hs : Sound s) {task owner : Nat} {t : DriverTask}
    (ht : s.runtime.label? task = some t) (ho : owner ∈ s.runtime.owners task) :
    owner < s.runtime.tasks.length := by
  obtain ⟨driver, work⟩ := t
  by_cases hwork : work = .udpSend
  · subst hwork
    obtain ⟨o, howners, hlab⟩ := hs.owned task driver ht
    rw [howners] at ho
    obtain rfl := List.mem_singleton.mp ho
    exact label?_lt hlab
  · rw [hs.free task driver work ht hwork] at ho
    exact absurd ho List.not_mem_nil

/-- A task that runs after a spawn ran before, or is the new one. -/
theorem running_spawn {s : HubActor} (hs : Sound s) {a t : DriverTask} {os : List Nat}
    {drivers : IndexMap DriverUuid DriverRunner} {task : Nat}
    (h : HubActor.running ⟨drivers, (s.runtime.spawn a os).2⟩ task = some t) :
    s.running task = some t ∨ task = s.runtime.tasks.length ∧ t = a := by
  obtain ⟨hl, hlab⟩ := running_iff.mp h
  rcases label?_spawn hlab with ⟨hold, _⟩ | hnew
  · have hsame : (s.runtime.spawn a os).2.live task = s.runtime.live task :=
      Runtime.live_spawn_old (label?_lt hold) fun o ho => hs.owner_lt hold ho
    exact Or.inl (running_iff.mpr ⟨hsame.symm.trans hl, hold⟩)
  · exact Or.inr hnew

/-- Another task of a driver keeps the invariant, when its runner owns it if it is a send task
    and nobody does if it is not. -/
theorem Sound.spawnFor {s : HubActor} (hs : Sound s) {driver : Driver} {work : Work}
    {owners : List Nat} (hwork : work ≠ .runner) (hfree : work ≠ .udpSend → owners = [])
    (howned : work = .udpSend →
      ∃ owner, owners = [owner] ∧ s.runtime.label? owner = some ⟨driver, .runner⟩) :
    Sound (s.spawnFor driver work owners) := by
  have hkeep : ∀ {task t}, s.runtime.label? task = some t →
      (s.spawnFor driver work owners).runtime.label? task = some t := by
    intro task t h
    exact (Runtime.label?_spawn_old (label?_lt h)).trans h
  refine ⟨?_, ?_, ?_, ?_⟩
  · intro uuid runner h
    obtain ⟨hu, ht⟩ := hs.registered uuid runner h
    exact ⟨hu, hkeep ht⟩
  · intro task driver' h
    rcases running_spawn hs h with h | ⟨_, e⟩
    · exact hs.runners task driver' h
    · cases e
      exact absurd rfl hwork
  · intro task driver' work' h hne
    show (s.runtime.spawn _ _).2.owners task = []
    rcases label?_spawn h with ⟨hold, hown⟩ | ⟨rfl, e⟩
    · rw [hown]
      exact hs.free task driver' work' hold hne
    · cases e
      rw [Runtime.owners_spawn_new]
      exact hfree hne
  · intro task driver' h
    rcases label?_spawn h with ⟨hold, hown⟩ | ⟨rfl, e⟩
    · obtain ⟨owner, ho, hr⟩ := hs.owned task driver' hold
      exact ⟨owner, hown.trans ho, hkeep hr⟩
    · cases e
      obtain ⟨owner, ho, hr⟩ := howned rfl
      exact ⟨owner, Runtime.owners_spawn_new.trans ho, hkeep hr⟩

/-- A new runner in the map, its displaced predecessor stopped. -/
theorem Sound.insertRunner {s : HubActor} (hs : Sound s) {driver : Driver}
    {runtime : Runtime DriverTask}
    (hlabel : ∀ task, runtime.label? task =
      (s.runtime.spawn ⟨driver, .runner⟩ []).2.label? task)
    (howners : ∀ task, runtime.owners task =
      (s.runtime.spawn ⟨driver, .runner⟩ []).2.owners task)
    (hdone : ∀ task, runtime.isDone task = false →
      (s.runtime.spawn ⟨driver, .runner⟩ []).2.isDone task = false ∧
        ∀ old, s.drivers.get? driver.uuid = some old → task ≠ old.task) :
    Sound ⟨(s.drivers.insert driver.uuid ⟨driver.uuid, driver, s.runtime.tasks.length⟩).2,
      runtime⟩ := by
  have hkeep : ∀ {task t}, s.runtime.label? task = some t → runtime.label? task = some t := by
    intro task t h
    rw [hlabel]
    exact (Runtime.label?_spawn_old (label?_lt h)).trans h
  refine ⟨?_, ?_, ?_, ?_⟩
  · intro uuid runner h
    by_cases hu : uuid = driver.uuid
    · subst hu
      rw [IndexMap.get?_insert_self] at h
      cases h
      exact ⟨rfl, by rw [hlabel]; exact Runtime.label?_spawn_new⟩
    · rw [IndexMap.get?_insert_of_ne hu] at h
      obtain ⟨hd, ht⟩ := hs.registered uuid runner h
      exact ⟨hd, hkeep ht⟩
  · intro task driver' h
    have hd := (Runtime.live_iff.mp (running_iff.mp h).1).1
    have hspawn : HubActor.running ⟨s.drivers, (s.runtime.spawn ⟨driver, .runner⟩ []).2⟩ task =
        some ⟨driver', .runner⟩ :=
      running_of_stopped (s := ⟨s.drivers, (s.runtime.spawn ⟨driver, .runner⟩ []).2⟩) hlabel howners
        (fun task' h' => (hdone task' h').1) h
    rcases running_spawn hs hspawn with hrun | ⟨ht, e⟩
    · obtain ⟨runner, hget, htask⟩ := hs.runners task driver' hrun
      have hu : driver'.uuid ≠ driver.uuid := by
        intro e
        rw [e] at hget
        exact (hdone task hd).2 runner hget htask.symm
      exact ⟨runner, by rw [IndexMap.get?_insert_of_ne hu]; exact hget, htask⟩
    · cases e
      exact ⟨_, IndexMap.get?_insert_self, ht.symm⟩
  · intro task driver' work h hne
    rw [hlabel] at h
    rw [howners]
    rcases label?_spawn h with ⟨hold, hown⟩ | ⟨rfl, _⟩
    · rw [hown]
      exact hs.free task driver' work hold hne
    · exact Runtime.owners_spawn_new
  · intro task driver' h
    rw [hlabel] at h
    rcases label?_spawn h with ⟨hold, hown⟩ | ⟨_, e⟩
    · obtain ⟨owner, ho, hr⟩ := hs.owned task driver' hold
      exact ⟨owner, by rw [howners, hown]; exact ho, hkeep hr⟩
    · cases e

theorem Sound.addDriver {s : HubActor} (hs : Sound s) (driver : Driver) :
    Sound (s.addDriver driver).2 := by
  obtain ⟨hmap, hfresh, hthere⟩ := addDriver_eq s driver
  have hstate : (s.addDriver driver).2 = ⟨(s.drivers.insert driver.uuid
      ⟨driver.uuid, driver, s.runtime.tasks.length⟩).2, (s.addDriver driver).2.runtime⟩ := by
    rw [← hmap]
  rw [hstate]
  cases hget : s.drivers.get? driver.uuid with
  | none =>
      rw [(hfresh hget).2]
      refine hs.insertRunner (fun _ => rfl) (fun _ => rfl) fun task h => ⟨h, fun old ho => ?_⟩
      rw [hget] at ho
      cases ho
  | some old =>
      rw [(hthere old hget).2]
      refine hs.insertRunner (Runtime.label?_stop _ _) (Runtime.owners_stop _ _) fun task h => ?_
      rw [Runtime.isDone_stop, Bool.or_eq_false_iff, decide_eq_false_iff_not] at h
      refine ⟨h.1, fun old' ho => ?_⟩
      rw [hget] at ho
      cases ho
      exact fun e => h.2 e.symm

theorem Sound.removeDriver {s : HubActor} (hs : Sound s) (uuid : DriverUuid) :
    Sound (s.removeDriver uuid).2 := by
  obtain ⟨hnone, hsome⟩ := removeDriver_eq s uuid
  cases hget : s.drivers.get? uuid with
  | none =>
      rw [hnone hget]
      exact hs
  | some removed =>
      rw [hsome removed hget]
      have hstop := hs.stop removed.task
      refine ⟨?_, ?_, hstop.free, hstop.owned⟩
      · intro uuid' runner h
        by_cases hu : uuid' = uuid
        · rw [hu, IndexMap.get?_swapRemove_self] at h
          cases h
        · rw [IndexMap.get?_swapRemove_of_ne hu] at h
          exact hstop.registered uuid' runner h
      · intro task driver h
        obtain ⟨runner, hr, ht⟩ := hstop.runners task driver h
        refine ⟨runner, ?_, ht⟩
        rw [IndexMap.get?_swapRemove_of_ne]
        · exact hr
        · -- the task of the removed entry does not run any more
          intro e
          have hsame : runner = removed := Option.some.inj (by rw [← hr, ← hget, e])
          have hdone := (Runtime.live_iff.mp (running_iff.mp h).1).1
          rw [Runtime.isDone_stop, Bool.or_eq_false_iff, decide_eq_false_iff_not] at hdone
          exact hdone.2 (by rw [← ht, hsame])

/-- **Every step keeps the invariant.** -/
theorem sound_step {s s' : HubActor} {a : HubAction} (hs : Sound s) (h : s.step a = some s') :
    Sound s' := by
  cases HubActor.goes_of_step h with
  | addDriver driver => exact hs.addDriver driver
  | removeDriver uuid => exact hs.removeDriver uuid
  | spawned parent driver before work owners hrun hwork hfree howned =>
      refine hs.spawnFor hwork hfree fun e => ?_
      obtain ⟨howners, rfl⟩ := howned e
      exact ⟨parent, howners, (running_iff.mp hrun).2⟩
  | runFails task => exact hs.stopOwned task
  | ends task => exact hs.stop task
  | works => exact hs

theorem sound_reach {C : HubActor → HubAction → Prop} {s : HubActor}
    (h : Reach HubActor.step C .new s) : Sound s :=
  h.inv sound_new fun _ _ _ hs _ hstep => sound_step hs hstep

/-! ## 6. AddDriver -/

/-- **An AddDriver that fails changes nothing**: it fails exactly for a uuid that is there, and
    then the map is as before, with the same tasks running. -/
structure AddIsAtomic (s : HubActor) (driver : Driver) : Prop where
  fails : (∃ error, (s.addDriver driver).1 = .error error) ↔
    (s.drivers.get? driver.uuid).isSome = true
  registry : (∃ error, (s.addDriver driver).1 = .error error) →
    (s.addDriver driver).2.drivers = s.drivers
  tasks : (∃ error, (s.addDriver driver).1 = .error error) → ∀ task,
    (s.addDriver driver).2.running task = s.running task

/-- What a failed AddDriver does: the entry is the new driver's, and its task is new. -/
theorem addDriver_displaces {s : HubActor} {driver : Driver} {old : DriverRunner}
    (h : s.drivers.get? driver.uuid = some old) :
    (s.addDriver driver).2.drivers.get? driver.uuid =
      some ⟨driver.uuid, driver, s.runtime.tasks.length⟩ ∧
    (s.addDriver driver).2.runtime.isDone old.task = true := by
  obtain ⟨hmap, _, hfail⟩ := addDriver_eq s driver
  obtain ⟨_, hrun⟩ := hfail old h
  constructor
  · rw [hmap]
    exact IndexMap.get?_insert_self
  · rw [hrun, Runtime.isDone_stop, decide_eq_true rfl, Bool.or_true]

/-- **AddDriver is atomic exactly for a uuid that is not there.** Otherwise the error comes after
    the entry was replaced: the driver that was there is aborted and the new one runs. -/
theorem addDriver_atomic_iff {s : HubActor} (h : Reach HubActor.step Free .new s)
    (driver : Driver) : AddIsAtomic s driver ↔ s.drivers.get? driver.uuid = none := by
  obtain ⟨hmap, hfresh, hthere⟩ := addDriver_eq s driver
  constructor
  · intro hatomic
    cases hget : s.drivers.get? driver.uuid with
    | none => rfl
    | some old =>
        have hsame := hatomic.registry ⟨_, (hthere old hget).1⟩
        obtain ⟨hnew, _⟩ := addDriver_displaces hget
        rw [hsame, hget] at hnew
        -- the entry's task was there before, so it is not the new one
        have hlt := label?_lt ((sound_reach h).registered _ old hget).2
        cases hnew
        exact absurd hlt (Nat.lt_irrefl _)
  · intro hget
    have hok := (hfresh hget).1
    have hnone : ¬ ∃ error, (s.addDriver driver).1 = .error error := by
      rintro ⟨error, he⟩
      rw [hok] at he
      cases he
    refine ⟨?_, fun h => absurd h hnone, fun h => absurd h hnone⟩
    rw [hget]
    exact iff_of_false hnone Bool.false_ne_true

section Runs

/-- Two driver objects with one uuid. -/
def endpoint : Driver := ⟨7, 0, .tcpClient, .both⟩
def secondEndpoint : Driver := ⟨7, 1, .tcpClient, .both⟩

theorem addDriver_atomic_iff_new :
    AddIsAtomic .new endpoint ↔ HubActor.new.drivers.get? endpoint.uuid = none :=
  addDriver_atomic_iff .start endpoint

/-- **A refused driver takes over.** After AddDriver with a uuid that is there, the task of the
    first driver is aborted and that of the refused one runs. -/
theorem addDriver_notAtomic :
    ¬ ∀ s : HubActor, Reach HubActor.step Free .new s → ∀ driver, AddIsAtomic s driver := by
  intro hall
  have hreach : Reach HubActor.step Free .new (HubActor.new.addDriver endpoint).2 :=
    .next .new _ (.addDriver endpoint) .start trivial rfl
  have hatomic := hall _ hreach secondEndpoint
  have herr : ((HubActor.new.addDriver endpoint).2.addDriver secondEndpoint).1 =
      .error (.alreadyPresent 7) := by
    decide +kernel
  have hrunning := hatomic.tasks ⟨_, herr⟩ 0
  exact absurd hrunning (by decide +kernel)

end Runs

end MavlinkServer.Hub
