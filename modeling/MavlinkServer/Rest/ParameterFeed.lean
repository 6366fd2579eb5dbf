/-
  File:      MavlinkServer/Rest/ParameterFeed.lean
  Subject:   THE PARAMETERS AS A WEB CLIENT FOLLOWS THEM (`parameters` and
             `subscribe_parameters` in `src/lib/drivers/rest/control.rs`,
             `parameters_websocket_connection` in
             `src/lib/web/routes/v1/rest/vehicles.rs`).

  `Vehicle::update` stores a parameter and broadcasts it, both under the write
  lock of the table. A client's connection subscribes to the broadcasts, and a
  task of it then reads the whole table, sends that, and sends each broadcast.

  * `Control.parameter` -- what `parameters()` reads;
    `changes` -- what was broadcast;
  * `update_parameter` -- **a call changes the table by what it broadcasts**;
  * `ParameterFeed` -- the table and its clients, of which each is a
    `Lib.Follower`;
  * **`parameters_followed`** -- a client that has been told as much as it was
    sent first shows a table that there was, and when it has been told all the
    one that there is.
-/
import MavlinkServer.Lib.Feed
import MavlinkServer.Lib.Run
import MavlinkServer.Rest.Parameters

namespace MavlinkServer.Rest

open Lib

variable {Metadata : Type} {getParameters : GetParameters Metadata}

/-! ## 1. The table and its changes -/

abbrev ParameterKey := UInt8 × List UInt8

/-- `parameters()`: the parameters of every vehicle. -/
def Control.parameters (control : Control Metadata) :
    UInt8 → Option (List UInt8 → Option (ParameterData Metadata)) :=
  fun id => (control.table id).map fun vehicle => vehicle.parameters

/-- One of them. -/
def Control.parameter (control : Control Metadata) (key : ParameterKey) :
    Option (ParameterData Metadata) :=
  (control.parameters key.1).bind fun table => table key.2

/-- What a client is told of an event. -/
def parameterChange : ControlEvent Metadata → Option (ParameterKey × ParameterData Metadata)
  | .parameter vehicleId name data => some ((vehicleId, name), data)
  | _ => none

/-- `BROADCAST_VEHICLES_PARAMETERS`, all of it. -/
def changes (control : Control Metadata) : List (ParameterKey × ParameterData Metadata) :=
  control.events.filterMap parameterChange

section Call

variable {vehicle : Vehicle Metadata} {component : VehicleComponent Metadata} {input : Input}

/-- The end of a call broadcasts no parameter. -/
theorem Vehicle.broadcast_changes (clock : Clock) (componentId : UInt8)
    (handled : Handled Metadata) :
    (vehicle.broadcast clock componentId handled).2.filterMap parameterChange =
      handled.events.filterMap parameterChange := by
  unfold broadcast
  split
  · rw [List.filterMap_append]
    exact List.append_nil _
  · rfl

/-- Only PARAM_VALUE broadcasts a parameter. -/
theorem VehicleComponent.handle_changes (vehicleId componentId : UInt8)
    (hmessage : ∀ data, input.message ≠ .paramValue data) :
    (component.handle vehicleId componentId getParameters input.message).events.filterMap
      parameterChange = [] := by
  cases hm : input.message with
  | heartbeat data =>
      show (if component.version.isNone then
        [ControlEvent.sent (.requestMessage 148 vehicleId componentId)] else []).filterMap _ = _
      split <;> rfl
  | autopilotVersion data =>
      show (component.autopilotVersionMessage vehicleId componentId getParameters
        data).events.filterMap _ = _
      unfold VehicleComponent.autopilotVersionMessage
      split
      · rfl
      · split <;> rfl
  | paramValue data => exact absurd hm (hmessage data)
  | attitude | globalPositionInt | other => rfl

variable (getParameters) in
/-- A call on its vehicle broadcasts the changes of its arm. -/
theorem Vehicle.called_changes (hauto : vehicle.autopilot = some component)
    (happlies : input.Applies vehicle.vehicleId) :
    (vehicle.called getParameters input).2.filterMap parameterChange =
      (handled getParameters vehicle component input).events.filterMap parameterChange := by
  obtain ⟨hsystem, hcomponent⟩ := happlies
  obtain ⟨components, hcomponents, hinner⟩ := Option.map_eq_some_iff.mp hauto
  cases components with
  | autopilot stored =>
      obtain rfl : stored = component := hinner
      unfold called update
      rw [if_neg (by simpa using hsystem), if_neg (by simpa using hcomponent), hcomponent,
        hcomponents]
      exact broadcast_changes ..

variable (getParameters) in
/-- **A call changes the parameters by what it broadcasts**, and that is one parameter at most. -/
theorem Vehicle.called_patch (input : Input) (hauto : vehicle.autopilot = some component) :
    ((vehicle.called getParameters input).2.filterMap parameterChange).length ≤ 1 ∧
    (∀ change ∈ (vehicle.called getParameters input).2.filterMap parameterChange,
      change.1.1 = vehicle.vehicleId) ∧
    ∀ name : List UInt8, (vehicle.called getParameters input).1.parameters name =
      (lastValue ((vehicle.called getParameters input).2.filterMap parameterChange)
        (vehicle.vehicleId, name)).or (vehicle.parameters name) := by
  by_cases hreports : input.Applies vehicle.vehicleId ∧ ∃ data, input.message = .paramValue data
  · obtain ⟨happlies, data, hmessage⟩ := hreports
    obtain ⟨now, hnext, _⟩ := called_of_applies getParameters hauto happlies
    have hchanges := called_changes getParameters hauto happlies
    have hhandled : handled getParameters vehicle component input =
        component.paramValueMessage vehicle.vehicleId data := by
      rw [handled, hmessage]
      rfl
    rw [hhandled] at hnext hchanges
    rw [hchanges]
    refine ⟨Nat.le_refl 1, fun change hmem => ?_, fun name => ?_⟩
    · obtain rfl := List.mem_singleton.mp hmem
      rfl
    · rw [parameters, parameters, hnext, hauto]
      show Function.update component.context.parameters (stringFromParamId data.paramId)
        (some (component.paramValueData data)) name = _
      by_cases hname : stringFromParamId data.paramId = name
      · subst hname
        rw [Function.update_self]
        simp [lastValue, VehicleComponent.paramValueMessage, parameterChange]
      · rw [Function.update_of_ne (Ne.symm hname)]
        simp [lastValue, VehicleComponent.paramValueMessage, parameterChange, hname]
  · have hnone : (vehicle.called getParameters input).2.filterMap parameterChange = [] := by
      by_cases happlies : input.Applies vehicle.vehicleId
      · rw [called_changes getParameters hauto happlies]
        exact VehicleComponent.handle_changes _ _ fun data hmessage =>
          hreports ⟨happlies, data, hmessage⟩
      · rw [called_of_not_applies happlies]
        rfl
    rw [hnone]
    refine ⟨Nat.zero_le 1, fun _ hmem => absurd hmem List.not_mem_nil, fun name => ?_⟩
    refine called_parameters hauto ?_
    rintro ⟨happlies, data, hmessage, _⟩
    exact hreports ⟨happlies, data, hmessage⟩

end Call

/-! ## 2. Runs of the table -/

section Table

variable {control : Control Metadata} {input : Input} {inputs : List Input}

/-- Every entry is a vehicle under its own identifier, with an autopilot. -/
def WellKeyed (control : Control Metadata) : Prop :=
  ∀ (id : UInt8) (vehicle : Vehicle Metadata), control.table id = some vehicle →
    vehicle.vehicleId = id ∧ ∃ component, vehicle.autopilot = some component

/-- The vehicle that a call is for. -/
def Control.called (control : Control Metadata) (input : Input) : Vehicle Metadata :=
  (control.table input.header.systemId).getD
    (.initial input.header.systemId input.clock.created)

theorem WellKeyed.called (h : WellKeyed control) (input : Input) :
    (control.called input).vehicleId = input.header.systemId ∧
      ∃ component, (control.called input).autopilot = some component := by
  unfold Control.called
  cases hat : control.table input.header.systemId with
  | none => exact ⟨rfl, _, Vehicle.autopilot_initial ..⟩
  | some vehicle => exact h _ vehicle hat

theorem WellKeyed.update (h : WellKeyed control) :
    WellKeyed (control.update getParameters input) := by
  obtain ⟨hid, component, hauto⟩ := h.called input
  intro id vehicle hat
  have htable : (control.update getParameters input).table = Function.update control.table
      input.header.systemId (some ((control.called input).called getParameters input).1) := rfl
  rw [htable] at hat
  by_cases hsystem : id = input.header.systemId
  · subst hsystem
    rw [Function.update_self] at hat
    cases hat
    exact ⟨Vehicle.called_vehicleId.trans hid, Vehicle.called_autopilot hauto⟩
  · rw [Function.update_of_ne hsystem] at hat
    exact h id vehicle hat

theorem changes_update : changes (control.update getParameters input) = changes control ++
    ((control.called input).called getParameters input).2.filterMap parameterChange := by
  show (control.events ++ ((control.called input).called getParameters input).2 ++
    [ControlEvent.inner input.header input.message]).filterMap parameterChange = _
  rw [List.filterMap_append, List.filterMap_append]
  exact List.append_nil _

/-- **A call changes the table by what it broadcasts.** -/
theorem update_parameter (h : WellKeyed control) :
    (control.update getParameters input).parameter = patch control.parameter
      (((control.called input).called getParameters input).2.filterMap parameterChange) := by
  obtain ⟨hid, component, hauto⟩ := h.called input
  obtain ⟨_, hown, hpatch⟩ := Vehicle.called_patch getParameters input hauto
  funext ⟨id, name⟩
  rw [patch_at]
  have htable : (control.update getParameters input).table = Function.update control.table
      input.header.systemId (some ((control.called input).called getParameters input).1) := rfl
  unfold Control.parameter Control.parameters
  rw [htable]
  by_cases hsystem : id = input.header.systemId
  · subst hsystem
    rw [Function.update_self]
    show ((control.called input).called getParameters input).1.parameters name = _
    rw [hpatch name, hid]
    congr 1
    unfold Control.called
    cases control.table input.header.systemId with
    | none => exact congrArg (Option.bind · _) (Vehicle.autopilot_initial ..)
    | some vehicle => rfl
  · rw [Function.update_of_ne hsystem]
    have hnone : lastValue (((control.called input).called getParameters input).2.filterMap
        parameterChange) (id, name) = none := by
      unfold lastValue
      rw [List.filter_eq_nil_iff.mpr]
      · rfl
      · intro change hmem
        rw [decide_eq_true_eq]
        intro hkey
        have hchange := hown change hmem
        rw [hkey, hid] at hchange
        exact hsystem hchange
    rw [hnone]
    rfl

theorem run_snoc : Control.run getParameters (inputs ++ [input]) =
    (Control.run getParameters inputs).update getParameters input := List.foldl_append

variable (getParameters) in
theorem wellKeyed_run (inputs : List Input) : WellKeyed (Control.run getParameters inputs) := by
  induction inputs using List.reverseRecOn with
  | nil => exact fun _ _ h => by cases h
  | append_singleton inputs input ih =>
      rw [run_snoc]
      exact ih.update

/-- **The table is what was broadcast.** -/
theorem run_parameter (inputs : List Input) :
    (Control.run getParameters inputs).parameter =
      patch (fun _ => none) (changes (Control.run getParameters inputs)) := by
  induction inputs using List.reverseRecOn with
  | nil => rfl
  | append_singleton inputs input ih =>
      rw [run_snoc, update_parameter (wellKeyed_run getParameters inputs), ih, changes_update,
        patch_append]

variable (getParameters) in
/-- Every point of the channel is a point between two calls. -/
theorem exists_prefix (inputs : List Input) {n : Nat}
    (hn : n ≤ (changes (Control.run getParameters inputs)).length) :
    ∃ k ≤ inputs.length, changes (Control.run getParameters (inputs.take k)) =
      (changes (Control.run getParameters inputs)).take n := by
  induction inputs using List.reverseRecOn with
  | nil => exact ⟨0, Nat.le_refl 0, (List.take_of_length_le (Nat.zero_le n)).symm⟩
  | append_singleton inputs input ih =>
      rcases Nat.eq_or_lt_of_le hn with hall | hlt
      · exact ⟨_, Nat.le_refl _, by rw [List.take_length, hall, List.take_length]⟩
      · rw [run_snoc, changes_update] at hlt ⊢
        obtain ⟨_, component, hauto⟩ := (wellKeyed_run getParameters inputs).called input
        have hone := (Vehicle.called_patch getParameters input hauto).1
        rw [List.length_append] at hlt
        have hle : n ≤ (changes (Control.run getParameters inputs)).length := by omega
        obtain ⟨k, hk, hprefix⟩ := ih hle
        refine ⟨k, by rw [List.length_append]; omega, ?_⟩
        rw [List.take_append_of_le_length hk, hprefix, List.take_append_of_le_length hle]

end Table

/-! ## 3. The clients -/

/-- The calls of `control::update` so far, and the clients. -/
structure ParameterFeed (Metadata : Type) where
  inputs : List Input
  clients : List (Follower ParameterKey (ParameterData Metadata))

inductive ParameterFeedAction where
  /-- a call of `control::update` -/
  | update (input : Input)
  /-- `subscribe_parameters()` of a new connection -/
  | connect
  /-- the connection's task reads the table and sends it -/
  | readAll (client : Nat)
  /-- it sends a broadcast, or ends because it has missed some -/
  | recv (client : Nat)
  /-- what it sends does not arrive -/
  | close (client : Nat)

namespace ParameterFeed

def start : ParameterFeed Metadata := ⟨[], []⟩

variable (getParameters) in
def control (s : ParameterFeed Metadata) : Control Metadata := Control.run getParameters s.inputs

variable (getParameters) in
/-- `retained` is what the channel keeps: 16 broadcasts. -/
def step (retained : Nat) (s : ParameterFeed Metadata) :
    ParameterFeedAction → Option (ParameterFeed Metadata)
  | .update input => some { s with inputs := s.inputs ++ [input] }
  | .connect =>
      some { s with clients := s.clients ++ [.subscribe (changes (s.control getParameters))] }
  | .readAll i =>
      (s.clients[i]?).bind fun client =>
        if client.ended ∨ client.snapshot.isSome then none
        else some { s with
          clients := s.clients.set i (client.takeSnapshot (s.control getParameters).parameter
            (changes (s.control getParameters))) }
  | .recv i =>
      (s.clients[i]?).bind fun client =>
        if client.ended ∨ client.snapshot.isNone then none
        else (client.recv retained (changes (s.control getParameters))).map fun client =>
          { s with clients := s.clients.set i client }
  | .close i =>
      (s.clients[i]?).map fun client =>
        { s with clients := s.clients.set i { client with ended := true } }

/-- Every client follows the table. -/
def Followed (getParameters : GetParameters Metadata) (s : ParameterFeed Metadata) : Prop :=
  ∀ client ∈ s.clients,
    client.Follows (fun _ => none) (changes (s.control getParameters))

section Runs

variable {retained : Nat} {s s' : ParameterFeed Metadata} {a : ParameterFeedAction}
  {client : Follower ParameterKey (ParameterData Metadata)}

/-- A client is another, and the rest follow as before. -/
theorem Followed.set (h : s.Followed getParameters) (i : Nat)
    (hclient : client.Follows (fun _ => none) (changes (s.control getParameters))) :
    Followed getParameters { s with clients := s.clients.set i client } := by
  intro other hmem
  rcases List.mem_or_eq_of_mem_set hmem with hold | rfl
  · exact h other hold
  · exact hclient

theorem Followed.step (h : s.Followed getParameters)
    (hs : s.step getParameters retained a = some s') : s'.Followed getParameters := by
  cases a with
  | update input =>
      cases hs
      intro client hmem
      unfold control
      rw [run_snoc, changes_update]
      exact (h client hmem).change _
  | connect =>
      cases hs
      intro client hmem
      rcases List.mem_append.mp hmem with hold | hnew
      · exact h client hold
      · obtain rfl := List.mem_singleton.mp hnew
        exact Follower.follows_subscribe
  | readAll i =>
      obtain ⟨client, hat, hs⟩ := Option.bind_eq_some_iff.mp hs
      split at hs
      · cases hs
      · cases hs
        exact h.set i ((h client (List.mem_of_getElem? hat)).takeSnapshot (run_parameter s.inputs))
  | recv i =>
      obtain ⟨client, hat, hs⟩ := Option.bind_eq_some_iff.mp hs
      split at hs
      · cases hs
      · rename_i hguard
        obtain ⟨client', hrecv, rfl⟩ := Option.map_eq_some_iff.mp hs
        refine h.set i ((h client (List.mem_of_getElem? hat)).recv ?_ hrecv)
        intro hnone
        exact hguard (.inr (by rw [hnone]; rfl))
  | close i =>
      obtain ⟨client, hat, rfl⟩ := Option.map_eq_some_iff.mp hs
      exact h.set i (h client (List.mem_of_getElem? hat)).stop

theorem followed_reach (h : Reach (step getParameters retained) Free start s) :
    s.Followed getParameters :=
  h.inv (fun _ hmem => absurd hmem List.not_mem_nil) fun _ _ _ hi _ hs => hi.step hs

/-- **A client of the parameters shows a table that there was.** In every run, whenever a client
    has been told at least as much as the table had that it was sent first, it shows the table as
    it was after some of the calls, no change missing and none twice; and when it has been told
    all there is, it shows the table. -/
theorem parameters_followed (h : Reach (step getParameters retained) Free start s)
    (hmem : client ∈ s.clients) (hcaught : client.CaughtUp) :
    (∃ k ≤ s.inputs.length,
      client.view = (Control.run getParameters (s.inputs.take k)).parameter) ∧
    ((changes (s.control getParameters)).length ≤ client.receiver.next →
      client.view = (s.control getParameters).parameter) := by
  have hfollows := followed_reach h client hmem
  constructor
  · obtain ⟨k, hk, hprefix⟩ := exists_prefix getParameters s.inputs
      hfollows.within.next_le
    refine ⟨k, hk, ?_⟩
    rw [hfollows.view_eq hcaught, run_parameter, hprefix]
    rfl
  · intro hall
    rw [hfollows.view_of_all hcaught hall]
    exact (run_parameter s.inputs).symm

def paramInput (letter : UInt8) : Input :=
  ⟨⟨0, 0, 0, 0⟩, ⟨1, 1, 0⟩,
    .paramValue ⟨#v[letter, 0, 0, 0, 0, 0, 0, 0, 0, 0, 0, 0, 0, 0, 0, 0], 0, 2, 0, 9⟩⟩

/-- A parameter is reported between a client's subscription and its snapshot, and another behind
    them: the client is told of the first one twice. -/
theorem parameters_followed_twice :
    ∃ (s : ParameterFeed Unit) (client : Follower ParameterKey (ParameterData Unit)),
      client ∈ s.clients ∧ client.told.length = 2 ∧
      client.view = (s.control fun _ _ _ => none).parameter := by
  obtain ⟨s, hreach, htold, hbefore⟩ : ∃ s : ParameterFeed Unit,
      Reach (step (fun _ _ _ => none) 16) Free start s ∧
      (s.clients.map fun c => (c.receiver.next, c.told.length)) = [(2, 2)] ∧
      (s.clients.map fun c => (c.snapshot.map (·.2),
        (changes (s.control fun _ _ _ => none)).length)) = [(some 1, 2)] :=
    exists_of_execC [.connect, .update (paramInput 65), .readAll 0, .update (paramInput 66),
      .recv 0, .recv 0] (by decide +kernel)
  obtain ⟨client, hclients, htold⟩ := List.map_eq_singleton_iff.mp htold
  rw [hclients] at hbefore
  obtain ⟨hnext, hlength⟩ := Prod.mk.inj htold
  obtain ⟨hsnapshot, hall⟩ := Prod.mk.inj (List.cons.inj hbefore).1
  have hmem : client ∈ s.clients := by rw [hclients]; exact List.mem_cons_self
  obtain ⟨⟨snapshot, before⟩, hat, rfl⟩ := Option.map_eq_some_iff.mp hsnapshot
  have hcaught : client.CaughtUp := ⟨snapshot, 1, hat, by rw [hnext]; decide⟩
  exact ⟨s, client, hmem, hlength,
    (parameters_followed hreach hmem hcaught).2 (by rw [hall, hnext])⟩

end Runs

end ParameterFeed

end MavlinkServer.Rest
