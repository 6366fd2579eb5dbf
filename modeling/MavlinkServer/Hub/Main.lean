/-
  File:      MavlinkServer/Hub/Main.lean
  Subject:   THE SERVER FROM START TO END (`src/main.rs`: `main`). The drivers
             of the command line are added one by one, the web server runs until
             it is stopped, and the drivers that are there are removed one by
             one. Nothing else adds or removes a driver; the tasks of the drivers
             go on all the time.

  * `Main`, `step` -- the hub and how far `main` is;
  * `MainInv` -- what the registry holds at each stage;
  * `main_outcome` -- `main` gets past its start exactly with different uuids,
    then has exactly its drivers registered, and at its end none, with no runner
    left.
-/
import MavlinkServer.Hub.Commands

namespace MavlinkServer.Hub

open Lib

/-! ## 1. The run -/

inductive MainStage where
  /-- `for driver in cli::endpoints()` -/
  | adding (left : List Driver)
  /-- `web::run` -/
  | serving
  /-- `for (id, driver_info) in hub::drivers()` -/
  | removing (left : List DriverUuid)
  | ended (result : Except HubError Unit)
  deriving DecidableEq, Repr

structure Main where
  hub : HubActor
  stage : MainStage
  deriving DecidableEq

inductive MainAction where
  /-- `main` goes on with its next call -/
  | next
  /-- a task of a driver does something -/
  | task (a : HubAction)
  deriving DecidableEq, Repr

def Main.start (endpoints : List Driver) : Main := ⟨.new, .adding endpoints⟩

def Main.next (m : Main) : Option Main :=
  match m.stage with
  | .adding (driver :: left) =>
      match m.hub.addDriver driver with
      | (.ok _, hub) => some ⟨hub, .adding left⟩
      | (.error error, hub) => some ⟨hub, .ended (.error error)⟩
  | .adding [] => some { m with stage := .serving }
  | .serving => some { m with stage := .removing (m.hub.driversInfo.map (·.1)) }
  | .removing (uuid :: left) =>
      match m.hub.removeDriver uuid with
      | (.ok (), hub) => some ⟨hub, .removing left⟩
      | (.error error, hub) => some ⟨hub, .ended (.error error)⟩
  | .removing [] => some { m with stage := .ended (.ok ()) }
  | .ended _ => none

def Main.step (m : Main) : MainAction → Option Main
  | .next => m.next
  | .task a => (hubService.env m.hub a).map fun hub => { m with hub }

/-! ## 2. The invariant -/

/-- The registry has these drivers, and no other. -/
def Registry.HasExactly (r : Registry) (drivers : List Driver) : Prop :=
  ∀ uuid driver, r uuid = some driver ↔ driver ∈ drivers ∧ driver.uuid = uuid

/-- The first driver whose uuid is there already. -/
def Clash (endpoints : List Driver) (error : HubError) : Prop :=
  ∃ front driver rest, endpoints = front ++ driver :: rest ∧ (front.map (·.uuid)).Nodup ∧
    driver.uuid ∈ front.map (·.uuid) ∧ error = .alreadyPresent driver.uuid

def StageInv (endpoints : List Driver) (r : Registry) : MainStage → Prop
  | .adding left =>
      ∃ front, endpoints = front ++ left ∧ (front.map (·.uuid)).Nodup ∧ r.HasExactly front
  | .serving => (endpoints.map (·.uuid)).Nodup ∧ r.HasExactly endpoints
  | .removing left =>
      (endpoints.map (·.uuid)).Nodup ∧ left.Nodup ∧ ∀ uuid, uuid ∈ left ↔ (r uuid).isSome = true
  | .ended (.ok ()) => (endpoints.map (·.uuid)).Nodup ∧ ∀ uuid, r uuid = none
  | .ended (.error error) => Clash endpoints error

structure MainInv (endpoints : List Driver) (m : Main) : Prop where
  sound : Sound m.hub
  stage : StageInv endpoints m.hub.registry m.stage

/-- A uuid is there exactly if one of the drivers has it. -/
theorem Registry.HasExactly.isSome {r : Registry} {drivers : List Driver} (h : r.HasExactly drivers)
    (uuid : DriverUuid) : (r uuid).isSome = true ↔ uuid ∈ drivers.map (·.uuid) := by
  rw [Option.isSome_iff_exists, List.mem_map]
  exact exists_congr fun driver => h uuid driver

/-- Another driver in the registry. -/
theorem Registry.HasExactly.next {r : Registry} {front : List Driver} (h : r.HasExactly front)
    {driver : Driver} (hnew : driver.uuid ∉ front.map (·.uuid)) :
    (r.next (.addDriver driver)).HasExactly (front ++ [driver]) := by
  intro uuid driver'
  show Function.update r driver.uuid (some driver) uuid = some driver' ↔ _
  rw [List.mem_append, List.mem_singleton]
  by_cases hu : uuid = driver.uuid
  · subst hu
    rw [Function.update_self, Option.some.injEq]
    constructor
    · rintro rfl
      exact ⟨Or.inr rfl, rfl⟩
    · rintro ⟨hin | rfl, hsame⟩
      · exact absurd (List.mem_map.mpr ⟨driver', hin, hsame⟩) hnew
      · rfl
  · rw [Function.update_of_ne hu, h uuid driver']
    constructor
    · rintro ⟨hin, hsame⟩
      exact ⟨Or.inl hin, hsame⟩
    · rintro ⟨hin | rfl, hsame⟩
      · exact ⟨hin, hsame⟩
      · exact absurd hsame.symm hu

theorem mainInv_start (endpoints : List Driver) : MainInv endpoints (Main.start endpoints) where
  sound := sound_new
  stage := ⟨[], rfl, List.nodup_nil, fun _ _ =>
    ⟨fun h => (Option.some_ne_none _ h.symm).elim, fun h => absurd h.1 List.not_mem_nil⟩⟩

/-- The next driver of the command line. -/
theorem MainInv.add {endpoints left : List Driver} {hub : HubActor} {driver : Driver} {m : Main}
    (hsound : Sound hub) (hstage : StageInv endpoints hub.registry (.adding (driver :: left)))
    (h : Main.next ⟨hub, .adding (driver :: left)⟩ = some m) : MainInv endpoints m := by
  obtain ⟨front, hsplit, hnodup, hexact⟩ := hstage
  have hadded := hsound.addDriver driver
  have hregistry := registry_addDriver hub driver
  obtain ⟨_, hfresh, hthere⟩ := addDriver_eq hub driver
  have hget : (hub.registry driver.uuid).isSome = true ↔ driver.uuid ∈ front.map (·.uuid) :=
    hexact.isSome driver.uuid
  simp only [Main.next] at h
  cases hadd : hub.addDriver driver with
  | mk result hub' =>
      rw [hadd] at h hadded hregistry hfresh hthere
      cases hold : hub.drivers.get? driver.uuid with
      | none =>
          obtain rfl : result = .ok driver.uuid := (hfresh hold).1
          cases h
          have hnew : driver.uuid ∉ front.map (·.uuid) := by
            rw [← hget, HubActor.registry, hold]
            exact Bool.false_ne_true
          refine ⟨hadded, front ++ [driver], ?_, ?_, ?_⟩
          · rw [hsplit, List.append_assoc]
            rfl
          · rw [List.map_append]
            refine List.nodup_append.mpr ⟨hnodup, List.nodup_singleton _, fun a ha b hb e => ?_⟩
            rw [e, List.mem_singleton.mp hb] at ha
            exact hnew ha
          · show Registry.HasExactly hub'.registry _
            rw [hregistry]
            exact hexact.next hnew
      | some displaced =>
          obtain rfl : result = .error (.alreadyPresent driver.uuid) := (hthere displaced hold).1
          cases h
          refine ⟨hadded, front, driver, left, hsplit, hnodup, hget.mp ?_, rfl⟩
          rw [HubActor.registry, hold]
          rfl

/-- The next driver to remove is there. -/
theorem MainInv.remove {endpoints : List Driver} {left : List DriverUuid} {hub : HubActor}
    {uuid : DriverUuid} {m : Main} (hsound : Sound hub)
    (hstage : StageInv endpoints hub.registry (.removing (uuid :: left)))
    (h : Main.next ⟨hub, .removing (uuid :: left)⟩ = some m) : MainInv endpoints m := by
  obtain ⟨hends, hnodup, hleft⟩ := hstage
  have hremoved := hsound.removeDriver uuid
  have hregistry := registry_removeDriver hub uuid
  obtain ⟨hnone, hsome⟩ := removeDriver_eq hub uuid
  rw [List.nodup_cons] at hnodup
  simp only [Main.next] at h
  cases hget : hub.drivers.get? uuid with
  | none =>
      have hthere := (hleft uuid).mp List.mem_cons_self
      rw [HubActor.registry, hget] at hthere
      cases hthere
  | some removed =>
      rw [hsome removed hget] at h hremoved hregistry
      cases h
      refine ⟨hremoved, hends, hnodup.2, fun uuid' => ?_⟩
      show _ ↔ (HubActor.registry _ uuid').isSome = true
      rw [hregistry]
      show _ ↔ (Function.update hub.registry uuid none uuid').isSome = true
      by_cases hu : uuid' = uuid
      · rw [hu, Function.update_self]
        exact iff_of_false hnodup.1 Bool.false_ne_true
      · rw [Function.update_of_ne hu, ← hleft uuid', List.mem_cons]
        exact ⟨Or.inr, fun h => h.resolve_left hu⟩

/-- **Every step keeps the invariant.** -/
theorem mainInv_step {endpoints : List Driver} {m m' : Main} {a : MainAction}
    (hi : MainInv endpoints m) (h : m.step a = some m') : MainInv endpoints m' := by
  obtain ⟨hub, stage⟩ := m
  obtain ⟨hsound, hstage⟩ := hi
  cases a with
  | task a =>
      obtain ⟨hub', henv, rfl⟩ := Option.map_eq_some_iff.mp h
      refine ⟨sound_step hsound (step_of_env henv).1, ?_⟩
      show StageInv endpoints hub'.registry stage
      rw [registry_env henv]
      exact hstage
  | next =>
      cases stage with
      | adding left =>
          cases left with
          | nil =>
              cases h
              obtain ⟨front, hsplit, hnodup, hexact⟩ := hstage
              rw [List.append_nil] at hsplit
              rw [hsplit]
              exact ⟨hsound, hnodup, hexact⟩
          | cons driver left => exact MainInv.add hsound hstage h
      | serving =>
          cases h
          obtain ⟨hnodup, _⟩ := hstage
          obtain ⟨hkeys, hlisted⟩ := answers_handle hsound .getDrivers
          refine ⟨hsound, hnodup, hkeys, fun uuid => ?_⟩
          rw [Option.isSome_iff_exists, List.mem_map]
          constructor
          · rintro ⟨⟨uuid', driver⟩, hin, rfl⟩
            exact ⟨driver, (hlisted uuid' driver).mp hin⟩
          · rintro ⟨driver, hin⟩
            exact ⟨(uuid, driver), (hlisted uuid driver).mpr hin, rfl⟩
      | removing left =>
          cases left with
          | nil =>
              cases h
              obtain ⟨hends, _, hleft⟩ := hstage
              refine ⟨hsound, hends, fun uuid => ?_⟩
              have hno := (hleft uuid).not.mp List.not_mem_nil
              rwa [Bool.not_eq_true, Option.isSome_eq_false_iff, Option.isNone_iff_eq_none] at hno
          | cons uuid left => exact MainInv.remove hsound hstage h
      | ended result => cases h

/-! ## 3. What a run comes to -/

/-- **What the server comes to**, whatever the tasks of its drivers do: it ends with an error
    exactly at the first driver whose uuid another one has; while it serves, exactly its drivers
    are registered; and when it ends well none is, and no runner is left running. -/
theorem main_outcome {endpoints : List Driver} {m : Main}
    (h : Reach Main.step Free (Main.start endpoints) m) :
    (∀ error, m.stage = .ended (.error error) → Clash endpoints error) ∧
      (m.stage = .serving → (endpoints.map (·.uuid)).Nodup ∧
        m.hub.registry.HasExactly endpoints) ∧
      (m.stage = .ended (.ok ()) → (endpoints.map (·.uuid)).Nodup ∧
        (∀ uuid, m.hub.drivers.get? uuid = none) ∧
        ∀ task driver, m.hub.running task ≠ some ⟨driver, .runner⟩) := by
  have hinv : MainInv endpoints m :=
    h.inv (mainInv_start endpoints) fun _ _ _ hi _ hstep => mainInv_step hi hstep
  obtain ⟨hsound, hstage⟩ := hinv
  refine ⟨fun error he => ?_, fun he => ?_, fun he => ?_⟩
  · rw [he] at hstage
    exact hstage
  · rw [he] at hstage
    exact hstage
  · rw [he] at hstage
    obtain ⟨hnodup, hempty⟩ := hstage
    have hget : ∀ uuid, m.hub.drivers.get? uuid = none := fun uuid =>
      Option.map_eq_none_iff.mp (hempty uuid)
    refine ⟨hnodup, hget, fun task driver hrun => ?_⟩
    obtain ⟨runner, hr, _⟩ := hsound.runners task driver hrun
    rw [hget] at hr
    cases hr

section Runs

/-- A TCP server with a client that stays connected, and a UDP server. -/
def twoServers : List Driver := [⟨7, 0, .tcpServer, .both⟩, ⟨8, 1, .udpServer, .both⟩]

def twoServersRun : List MainAction :=
  [.next, .task (.accept 0), .next, .task (.newUdpClient 2), .next, .task (.receive 1), .next,
   .next, .task (.write 1), .next, .next]

def twoServersEnd : Main :=
  (execC Main.step Free (.start twoServers) twoServersRun).getD (.start twoServers)

theorem main_outcome_twoServers :
    (twoServers.map (·.uuid)).Nodup ∧ (∀ uuid, twoServersEnd.hub.drivers.get? uuid = none) ∧
      ∀ task driver, twoServersEnd.hub.running task ≠ some ⟨driver, .runner⟩ :=
  (main_outcome (reach_of_execC (show execC Main.step Free (.start twoServers) twoServersRun =
    some twoServersEnd by decide +kernel))).2.2 (by decide +kernel)

end Runs

end MavlinkServer.Hub
