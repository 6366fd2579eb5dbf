/-
  File:      MavlinkServer/Hub/Commands.lean
  Subject:   THE COMMANDS OF THE HUB, CALLED BY ANYBODY (`src/lib/hub/mod.rs`:
             `add_driver`, `remove_driver`, `drivers` and the other calls;
             `src/lib/hub/actor.rs`: `start`; `src/main.rs`: `main`).

  * `HubCommand`, `HubResponse`, `handle` -- the commands and what `start`
    answers;
  * `HubCalls` -- every caller, the channel of 32 commands, and the actor;
  * `Registry` -- what the registry is for: the driver under each uuid, and the
    answers that go with it;
  * `commands_linearizable` -- the calls that returned are answered as by a
    `Registry` that takes them one by one, each between its call and its return;
  * `drivers_readsLast` -- what `drivers()` says about a uuid is the work of the
    last command on it.
-/
import Mathlib.Logic.Function.Basic
import MavlinkServer.Hub.Registry
import MavlinkServer.Lib.Mailbox

namespace MavlinkServer.Hub

open Lib

/-! ## 1. The commands -/

inductive HubCommand where
  | addDriver (driver : Driver)
  | removeDriver (uuid : DriverUuid)
  | getDrivers
  | getSender
  | getDriversStats
  | getHubStats
  | getHubMessagesStats
  | resetAllStats
  deriving DecidableEq, Repr

/-- The answers, as far as they depend on the registry. -/
inductive HubResponse where
  | addDriver (result : Except HubError DriverUuid)
  | removeDriver (result : Except HubError Unit)
  | getDrivers (drivers : List (DriverUuid × Driver))
  /-- the uuids that the statistics are put under -/
  | getDriversStats (uuids : List DriverUuid)
  | other
  deriving DecidableEq, Repr

/-- `drivers`: an entry for each runner, with the driver whose `info` is called. -/
def HubActor.driversInfo (s : HubActor) : List (DriverUuid × Driver) :=
  (s.drivers.map (·.driver)).entries

/-- `get_drivers_stats`: every driver's statistics, under the uuid it has itself. -/
def HubActor.getDriversStats (s : HubActor) : IndexMap DriverUuid Driver :=
  s.drivers.entries.foldl (fun stats e => (stats.insert e.2.driver.uuid e.2.driver).2) .empty

/-- One turn of `start`. -/
def HubActor.handle (s : HubActor) : HubCommand → HubResponse × HubActor
  | .addDriver driver =>
      let (result, s) := s.addDriver driver
      (.addDriver result, s)
  | .removeDriver uuid =>
      let (result, s) := s.removeDriver uuid
      (.removeDriver result, s)
  | .getDrivers => (.getDrivers s.driversInfo, s)
  | .getDriversStats => (.getDriversStats (s.getDriversStats.entries.map (·.1)), s)
  | .getSender | .getHubStats | .getHubMessagesStats | .resetAllStats => (.other, s)

/-- The actor behind its channel. What else happens is what the tasks of the drivers do. -/
def hubService : Service HubActor HubCommand HubResponse HubAction where
  handle := HubActor.handle
  env s a :=
    match a with
    | .addDriver _ | .removeDriver _ => none
    | a => s.step a

abbrev HubCalls : Type := Mailbox HubActor HubCommand HubResponse HubAction

/-- The capacity of `mpsc::channel(32)`. -/
def HubCalls.step : HubCalls → MailboxAction HubCommand HubAction → Option HubCalls :=
  Mailbox.step hubService 32

def HubCalls.new : HubCalls := Mailbox.start HubActor.new

/-! ## 2. What the registry is for -/

/-- The driver under each uuid. -/
abbrev Registry : Type := DriverUuid → Option Driver

/-- The uuid that a command puts a driver under, or takes one from. -/
def HubCommand.touches? : HubCommand → Option DriverUuid
  | .addDriver driver => some driver.uuid
  | .removeDriver uuid => some uuid
  | _ => none

def Registry.next (r : Registry) : HubCommand → Registry
  | .addDriver driver => Function.update r driver.uuid (some driver)
  | .removeDriver uuid => Function.update r uuid none
  | _ => r

/-- The answer goes with the registry: an addition fails for a uuid that is there, a removal for
    one that is not, and a list has the drivers that are there. -/
def Registry.Answers (r : Registry) : HubCommand → HubResponse → Prop
  | .addDriver driver, .addDriver result =>
      result = match r driver.uuid with
        | some _ => .error (.alreadyPresent driver.uuid)
        | none => .ok driver.uuid
  | .removeDriver uuid, .removeDriver result =>
      result = match r uuid with
        | some _ => .ok ()
        | none => .error .notFound
  | .getDrivers, .getDrivers drivers =>
      (drivers.map (·.1)).Nodup ∧ ∀ uuid driver, (uuid, driver) ∈ drivers ↔ r uuid = some driver
  | .getDriversStats, .getDriversStats uuids =>
      uuids.Nodup ∧ ∀ uuid, uuid ∈ uuids ↔ (r uuid).isSome = true
  | .getSender, .other | .getHubStats, .other | .getHubMessagesStats, .other
  | .resetAllStats, .other => True
  | _, _ => False

/-- The registry behind what happened. -/
def registryAfter (history : List (Happened HubCommand HubResponse HubAction)) : Registry :=
  history.foldl (fun r e => match e with
    | .served _ command _ => r.next command
    | .env _ => r) fun _ => none

/-! ## 3. The actor is such a registry -/

def HubActor.registry (s : HubActor) : Registry := fun uuid => (s.drivers.get? uuid).map (·.driver)

theorem step_of_env {s s' : HubActor} {a : HubAction} (h : hubService.env s a = some s') :
    s.step a = some s' ∧ (∀ driver, a ≠ .addDriver driver) ∧ ∀ uuid, a ≠ .removeDriver uuid := by
  cases a with
  | addDriver driver => cases h
  | removeDriver uuid => cases h
  | _ => exact ⟨h, by simp, by simp⟩

/-- Where no driver is added or removed the registry stays. -/
theorem registry_env {s s' : HubActor} {a : HubAction} (h : hubService.env s a = some s') :
    s'.registry = s.registry := by
  obtain ⟨hstep, hadd, hrem⟩ := step_of_env h
  cases HubActor.goes_of_step hstep with
  | addDriver driver => exact absurd rfl (hadd driver)
  | removeDriver uuid => exact absurd rfl (hrem uuid)
  | spawned parent driver before work owners hrun hwork hfree howned => rfl
  | runFails task => rfl
  | ends task => rfl
  | works => rfl

theorem registry_addDriver (s : HubActor) (driver : Driver) :
    (s.addDriver driver).2.registry = s.registry.next (.addDriver driver) := by
  obtain ⟨hmap, _, _⟩ := addDriver_eq s driver
  funext uuid
  show ((s.addDriver driver).2.drivers.get? uuid).map _ = Function.update s.registry _ _ uuid
  rw [hmap]
  by_cases h : uuid = driver.uuid
  · rw [h, IndexMap.get?_insert_self, Function.update_self]
    rfl
  · rw [IndexMap.get?_insert_of_ne h, Function.update_of_ne h]
    rfl

theorem registry_removeDriver (s : HubActor) (uuid : DriverUuid) :
    (s.removeDriver uuid).2.registry = s.registry.next (.removeDriver uuid) := by
  obtain ⟨hnone, hsome⟩ := removeDriver_eq s uuid
  funext uuid'
  show ((s.removeDriver uuid).2.drivers.get? uuid').map _ = Function.update s.registry _ _ uuid'
  cases hget : s.drivers.get? uuid with
  | none =>
      rw [hnone hget]
      by_cases h : uuid' = uuid
      · rw [h, Function.update_self, hget]
        rfl
      · rw [Function.update_of_ne h]
        rfl
  | some removed =>
      rw [hsome removed hget]
      by_cases h : uuid' = uuid
      · rw [h, IndexMap.get?_swapRemove_self, Function.update_self]
        rfl
      · rw [IndexMap.get?_swapRemove_of_ne h, Function.update_of_ne h]
        rfl

theorem registry_handle (s : HubActor) (command : HubCommand) :
    (s.handle command).2.registry = s.registry.next command := by
  cases command with
  | addDriver driver => exact registry_addDriver s driver
  | removeDriver uuid => exact registry_removeDriver s uuid
  | _ => rfl

/-- Every driver is put under the uuid that its runner has. -/
theorem getDriversStats_keys {s : HubActor} (hs : Sound s) :
    s.getDriversStats.entries.map (·.1) = s.drivers.entries.map (·.1) := by
  have hown : ∀ e ∈ s.drivers.entries, e.2.driver.uuid = e.1 := fun e he =>
    (hs.registered e.1 e.2 (IndexMap.get?_eq_some.mpr he)).1
  have hsame : s.getDriversStats = s.drivers.collect fun runner => some runner.driver := by
    show s.drivers.entries.foldl _ _ = s.drivers.entries.foldl _ _
    refine List.foldl_ext _ _ _ fun stats e he => ?_
    rw [hown e he]
  rw [hsame, IndexMap.entries_collect]
  show (s.drivers.entries.filterMap fun e => some (e.1, e.2.driver)).map (·.1) = _
  rw [List.filterMap_eq_map', List.map_map]
  rfl

/-- **What the actor answers goes with its registry.** -/
theorem answers_handle {s : HubActor} (hs : Sound s) (command : HubCommand) :
    s.registry.Answers command (s.handle command).1 := by
  cases command with
  | addDriver driver =>
      obtain ⟨_, hfresh, hthere⟩ := addDriver_eq s driver
      show (s.addDriver driver).1 = match (s.drivers.get? driver.uuid).map (·.driver) with
        | some _ => .error (.alreadyPresent driver.uuid)
        | none => .ok driver.uuid
      cases hget : s.drivers.get? driver.uuid with
      | none => exact (hfresh hget).1
      | some displaced => exact (hthere displaced hget).1
  | removeDriver uuid =>
      obtain ⟨hnone, hsome⟩ := removeDriver_eq s uuid
      show (s.removeDriver uuid).1 = match (s.drivers.get? uuid).map (·.driver) with
        | some _ => .ok ()
        | none => .error .notFound
      cases hget : s.drivers.get? uuid with
      | none => rw [hnone hget]; rfl
      | some removed => rw [hsome removed hget]; rfl
  | getDrivers =>
      refine ⟨(s.drivers.map (·.driver)).nodup, fun uuid driver => ?_⟩
      show (uuid, driver) ∈ (s.drivers.map (·.driver)).entries ↔ _
      rw [← IndexMap.get?_eq_some, IndexMap.get?_map]
      rfl
  | getDriversStats =>
      show (s.getDriversStats.entries.map (·.1)).Nodup ∧ _
      refine ⟨s.getDriversStats.nodup, fun uuid => ?_⟩
      show uuid ∈ s.getDriversStats.entries.map (·.1) ↔ _
      rw [getDriversStats_keys hs]
      show _ ↔ ((s.drivers.get? uuid).map (·.driver)).isSome = true
      rw [Option.isSome_map, Option.isSome_iff_ne_none, ne_eq, IndexMap.get?_eq_none, not_not]
  | getSender | getHubStats | getHubMessagesStats | resetAllStats => trivial

/-- The actor behind what happened: sound, and with the registry behind it. -/
theorem after_registry (history : List (Happened HubCommand HubResponse HubAction)) :
    Sound (hubService.after .new history) ∧
      (hubService.after .new history).registry = registryAfter history := by
  have hgen : ∀ (history : List (Happened HubCommand HubResponse HubAction)) (s : HubActor),
      Sound s → Sound (hubService.after s history) ∧
        (hubService.after s history).registry = history.foldl (fun r e => match e with
          | .served _ command _ => r.next command
          | .env _ => r) s.registry := by
    intro history
    induction history with
    | nil => exact fun s hs => ⟨hs, rfl⟩
    | cons e rest ih =>
        intro s hs
        cases e with
        | served call command response =>
            have hnext : Sound (s.handle command).2 := by
              cases command with
              | addDriver driver => exact hs.addDriver driver
              | removeDriver uuid => exact hs.removeDriver uuid
              | _ => exact hs
            have hrest := ih _ hnext
            rw [registry_handle] at hrest
            exact hrest
        | env a =>
            show Sound (hubService.after ((hubService.env s a).getD s) rest) ∧
              (hubService.after ((hubService.env s a).getD s) rest).registry = _
            cases henv : hubService.env s a with
            | none => exact ih s hs
            | some s' =>
                have hrest := ih s' (sound_step hs (step_of_env henv).1)
                rw [registry_env henv] at hrest
                exact hrest
  exact hgen history .new sound_new

/-! ## 4. The calls that returned -/

section Calls

variable {m : HubCalls}

/-- **The commands are linearizable.** In every run, whoever calls and gives up when: a call that
    returned took effect once, between its call and its return, and its answer is the one of the
    registry behind the commands that took effect before. -/
theorem commands_linearizable (h : Reach HubCalls.step Free HubCalls.new m) {id at_ calledAt : Nat}
    {command : HubCommand} {response : HubResponse}
    (hc : m.calls[id]? = some ⟨command, .returned response at_, calledAt⟩) :
    ∃ i, calledAt ≤ i ∧ i < at_ ∧ m.history[i]? = some (.served id command response) ∧
      (registryAfter (m.history.take i)).Answers command response ∧
      ∀ (j : Nat) (x : Happened HubCommand HubResponse HubAction),
        m.history[j]? = some x → x.call? = some id → j = i := by
  obtain ⟨i, hle, hlt, hi, hanswer, honce⟩ := (Mailbox.linear_reach h).returned_served hc
  obtain ⟨hsound, hregistry⟩ := after_registry (m.history.take i)
  refine ⟨i, hle, hlt, hi, ?_, honce⟩
  rw [← hregistry, ← hanswer]
  exact answers_handle hsound command

/-- A command leaves what it says under its uuid, and the other uuids as they were. -/
theorem next_eq {r : Registry} {command : HubCommand} {uuid : DriverUuid} :
    r.next command uuid = match command.touches? with
      | some uuid' => if uuid = uuid' then (match command with
          | .addDriver driver => some driver
          | _ => none) else r uuid
      | none => r uuid := by
  cases command with
  | addDriver driver => exact Function.update_apply _ _ _ _
  | removeDriver uuid' => exact Function.update_apply _ _ _ _
  | _ => rfl

/-- What is under a uuid stays what the last command on it has left there. -/
theorem registryAfter_last {history : List (Happened HubCommand HubResponse HubAction)}
    {id i k : Nat} {command : HubCommand} {response : HubResponse} {uuid : DriverUuid}
    (hi : history[i]? = some (.served id command response)) (hu : command.touches? = some uuid)
    (hik : i < k) (hfree : ∀ (j id' : Nat) (command' : HubCommand) (response' : HubResponse),
      i < j → j < k → history[j]? = some (.served id' command' response') →
        command'.touches? ≠ some uuid) (driver : Driver) :
    registryAfter (history.take k) uuid = some driver ↔ command = .addDriver driver := by
  induction k with
  | zero => cases hik
  | succ k ih =>
      rw [List.take_add_one, registryAfter, List.foldl_append]
      rcases Nat.lt_or_ge i k with hlt | hge
      · have hbefore := ih hlt fun j id' command' response' hij hjk =>
          hfree j id' command' response' hij (Nat.lt_succ_of_lt hjk)
        cases hk : history[k]? with
        | none => exact hbefore
        | some e =>
            cases e with
            | env a => exact hbefore
            | served id' command' response' =>
                have hne := hfree k id' command' response' hlt (Nat.lt_succ_self k) hk
                show Registry.next _ command' uuid = _ ↔ _
                rw [next_eq]
                split
                · rename_i uuid' hu'
                  rw [if_neg fun e => hne (by rw [hu', e])]
                  exact hbefore
                · exact hbefore
      · obtain rfl : i = k := by omega
        rw [hi]
        show Registry.next _ command uuid = _ ↔ _
        rw [next_eq, hu]
        dsimp only
        rw [if_pos rfl]
        cases command with
        | addDriver driver' => simp
        | _ => simp

/-- **What `drivers()` says about a uuid is the work of the last command on it**: of one that
    returned before `drivers()` was called, if no other command on that uuid was under way between
    the two. An addition counts also if it failed. -/
theorem drivers_readsLast (h : Reach HubCalls.step Free HubCalls.new m) {a b ta tb ca cb : Nat}
    {command : HubCommand} {uuid : DriverUuid} {response : HubResponse}
    {drivers : List (DriverUuid × Driver)}
    (ha : m.calls[a]? = some ⟨command, .returned response ta, ca⟩)
    (hu : command.touches? = some uuid)
    (hb : m.calls[b]? = some ⟨.getDrivers, .returned (.getDrivers drivers) tb, cb⟩) (hab : ta ≤ cb)
    (hapart : ∀ (id : Nat) (c : MailCall HubCommand HubResponse), m.calls[id]? = some c → id ≠ a →
      c.request.touches? = some uuid →
      (∃ response' at_, c.stage = .returned response' at_ ∧ at_ ≤ ca) ∨ tb ≤ c.calledAt)
    (driver : Driver) : (uuid, driver) ∈ drivers ↔ command = .addDriver driver := by
  have hlinear := Mailbox.linear_reach h
  obtain ⟨i, hcai, hita, hi, _, honce⟩ := commands_linearizable h ha
  obtain ⟨k, hcbk, hktb, _, ⟨_, hlisted⟩, _⟩ := commands_linearizable h hb
  rw [hlisted]
  refine registryAfter_last hi hu (by omega) (fun j id' command' response' hij hjk hj htouch => ?_)
    driver
  obtain ⟨c, hc, hreq, hat, hdone⟩ := hlinear.served_during hj
  have hne : id' ≠ a := by
    rintro rfl
    have := honce j _ hj rfl
    omega
  rw [← hreq] at htouch
  rcases hapart id' c hc hne htouch with ⟨response'', at_, hst, hle⟩ | hle
  · have := hdone response'' at_ hst
    omega
  · omega

end Calls

section Runs

/-- Two callers add drivers with one uuid, one behind the other, and a third asks for them. -/
def refusedCalls : List (MailboxAction HubCommand HubAction) :=
  [.call (.addDriver endpoint), .send 0, .serve, .env (.receive 0), .receive 0,
   .call (.addDriver secondEndpoint), .send 1, .serve, .receive 1,
   .call .getDrivers, .send 2, .serve, .receive 2]

def refused : HubCalls := (execC HubCalls.step Free .new refusedCalls).getD .new

theorem reach_refused : Reach HubCalls.step Free .new refused :=
  reach_of_execC (show execC HubCalls.step Free .new refusedCalls = some refused by decide +kernel)

theorem calls_refused : refused.calls =
    [⟨.addDriver endpoint, .returned (.addDriver (.ok 7)) 2, 0⟩,
     ⟨.addDriver secondEndpoint, .returned (.addDriver (.error (.alreadyPresent 7))) 3, 2⟩,
     ⟨.getDrivers, .returned (.getDrivers [(7, secondEndpoint)]) 4, 3⟩] := by
  decide +kernel

theorem commands_linearizable_refused :
    ∃ i, 2 ≤ i ∧ i < 3 ∧ refused.history[i]? =
        some (.served 1 (.addDriver secondEndpoint) (.addDriver (.error (.alreadyPresent 7)))) ∧
      (registryAfter (refused.history.take i)).Answers (.addDriver secondEndpoint)
        (.addDriver (.error (.alreadyPresent 7))) ∧
      ∀ (j : Nat) (x : Happened HubCommand HubResponse HubAction),
        refused.history[j]? = some x → x.call? = some 1 → j = i :=
  commands_linearizable reach_refused (by rw [calls_refused]; rfl)

/-- The driver that was refused is the one that is listed. -/
theorem drivers_readsLast_refused :
    (7, secondEndpoint) ∈ [((7 : DriverUuid), secondEndpoint)] ↔
      HubCommand.addDriver secondEndpoint = .addDriver secondEndpoint :=
  drivers_readsLast (a := 1) (b := 2) reach_refused (by rw [calls_refused]; rfl) rfl
    (by rw [calls_refused]; rfl) (Nat.le_refl _) (fun id c hc hne hu => by
      rw [calls_refused] at hc
      match id with
      | 0 =>
          cases hc
          exact Or.inl ⟨_, _, rfl, Nat.le_refl _⟩
      | 1 => exact absurd rfl hne
      | 2 =>
          cases hc
          cases hu
      | id + 3 => cases hc) secondEndpoint

end Runs

end MavlinkServer.Hub
