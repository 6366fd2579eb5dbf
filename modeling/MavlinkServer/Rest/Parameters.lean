/-
  File:      MavlinkServer/Rest/Parameters.lean
  Subject:   WHICH TABLE THE METADATA OF A PARAMETER COMES FROM.

  `Vehicle::update` copies the metadata into a parameter when PARAM_VALUE
  reports it, and replaces the table of metadata on AUTOPILOT_VERSION. It does
  not touch the stored parameters then: it asks the vehicle for all of them.

  * `Input.Reports`, `Replaces` -- a call that stores a parameter, a call that
    replaces the table;
  * `Vehicle.called_parameters`, `Vehicle.called_metadata` -- what one call
    does to each;
  * `metadata_of_report` -- over a run, the metadata of a parameter is that of
    the table at its last report;
  * `metadata_stale` -- the table may be another one by then.
-/
import MavlinkServer.Rest.Control
import Mathlib.Data.List.Induction

namespace MavlinkServer.Rest

variable {Metadata : Type} {getParameters : GetParameters Metadata}

/-! ## 1. One call -/

namespace Vehicle

/-- The component of MAV_COMP_ID_AUTOPILOT1. -/
def autopilot (vehicle : Vehicle Metadata) : Option (VehicleComponent Metadata) :=
  (vehicle.components mavCompIdAutopilot1).map fun (.autopilot component) => component

/-- `context.parameters`. -/
def parameters (vehicle : Vehicle Metadata) (name : List UInt8) :
    Option (ParameterData Metadata) :=
  vehicle.autopilot.bind fun component => component.context.parameters name

/-- `context.parameters_metadata`. -/
def metadata (vehicle : Vehicle Metadata) (name : List UInt8) : Option Metadata :=
  vehicle.autopilot.bind fun component => component.context.parametersMetadata name

end Vehicle

/-- The guards of `Vehicle::update` let the message through. -/
def Input.Applies (vehicleId : UInt8) (input : Input) : Prop :=
  input.header.systemId = vehicleId ∧ input.header.componentId = mavCompIdAutopilot1

/-- The call stores the parameter with this name. -/
def Input.Reports (vehicleId : UInt8) (name : List UInt8) (input : Input) : Prop :=
  input.Applies vehicleId ∧
    ∃ data, input.message = .paramValue data ∧ stringFromParamId data.paramId = name

/-- The call replaces the table: a first version, or another version or firmware. -/
def Replaces (vehicle : Vehicle Metadata) (input : Input) : Prop :=
  input.Applies vehicle.vehicleId ∧
    ∃ component data vehicleType, vehicle.autopilot = some component ∧
      input.message = .autopilotVersion data ∧ component.vehicleType = some vehicleType ∧
      component.differs vehicleType data = true

section Call

variable {vehicle : Vehicle Metadata} {component : VehicleComponent Metadata} {input : Input}
  {name : List UInt8}

/-- `Vehicle::update` on one call. -/
def Vehicle.called (getParameters : GetParameters Metadata) (vehicle : Vehicle Metadata)
    (input : Input) : Vehicle Metadata × List (ControlEvent Metadata) :=
  vehicle.update getParameters input.clock input.header input.message

/-- The arm of the `match` that the call reaches. -/
def handled (getParameters : GetParameters Metadata) (vehicle : Vehicle Metadata)
    (component : VehicleComponent Metadata) (input : Input) : Handled Metadata :=
  component.handle vehicle.vehicleId mavCompIdAutopilot1 getParameters input.message

theorem Vehicle.autopilot_setAutopilot :
    (vehicle.setAutopilot mavCompIdAutopilot1 component).autopilot = some component := by
  have hself : (vehicle.setAutopilot mavCompIdAutopilot1 component).components mavCompIdAutopilot1 =
      some (.autopilot component) := by
    show Function.update vehicle.components mavCompIdAutopilot1 (some (.autopilot component))
      mavCompIdAutopilot1 = some (.autopilot component)
    exact Function.update_self ..
  rw [autopilot, hself]
  rfl

theorem Vehicle.broadcast_autopilot (clock : Clock) (handled : Handled Metadata) :
    ∃ now, (vehicle.broadcast clock mavCompIdAutopilot1 handled).1.autopilot =
        some { handled.component with
          context := { handled.component.context with lastUpdate := now } } ∧
      handled.events <+: (vehicle.broadcast clock mavCompIdAutopilot1 handled).2 := by
  unfold broadcast
  split
  · exact ⟨clock.stored, autopilot_setAutopilot, List.prefix_append _ _⟩
  · exact ⟨handled.component.context.lastUpdate, autopilot_setAutopilot, List.prefix_rfl⟩

variable (getParameters) in
/-- **What a call does**: nothing where a guard stops it, else what its arm leaves, with another
    `last_update` at most. -/
theorem Vehicle.called_of_applies (hauto : vehicle.autopilot = some component)
    (happlies : input.Applies vehicle.vehicleId) :
    ∃ now, (vehicle.called getParameters input).1.autopilot =
        some { (handled getParameters vehicle component input).component with
          context := { (handled getParameters vehicle component input).component.context with
            lastUpdate := now } } ∧
      (handled getParameters vehicle component input).events <+:
        (vehicle.called getParameters input).2 := by
  obtain ⟨hsystem, hcomponent⟩ := happlies
  obtain ⟨components, hcomponents, hinner⟩ := Option.map_eq_some_iff.mp hauto
  cases components with
  | autopilot stored =>
      obtain rfl : stored = component := hinner
      unfold called update
      rw [if_neg (by simpa using hsystem), if_neg (by simpa using hcomponent), hcomponent,
        hcomponents]
      exact broadcast_autopilot input.clock (handled getParameters vehicle stored input)

theorem Vehicle.called_of_not_applies (h : ¬ input.Applies vehicle.vehicleId) :
    vehicle.called getParameters input = (vehicle, []) := by
  unfold called update
  split
  · rfl
  · rename_i hsystem
    split
    · rfl
    · rename_i hcomponent
      exact absurd ⟨by simpa using hsystem, by simpa using hcomponent⟩ h

theorem Vehicle.called_vehicleId :
    (vehicle.called getParameters input).1.vehicleId = vehicle.vehicleId := by
  unfold called update
  split
  · rfl
  · split
    · rfl
    · split
      · rfl
      · unfold broadcast
        split <;> rfl

/-- **The table** stays as it is, unless the call replaces it. -/
theorem Vehicle.called_metadata (hauto : vehicle.autopilot = some component)
    (h : ¬ Replaces vehicle input) :
    (vehicle.called getParameters input).1.metadata = vehicle.metadata := by
  by_cases happlies : input.Applies vehicle.vehicleId
  · obtain ⟨now, hnext, _⟩ := called_of_applies getParameters hauto happlies
    have hsame :
        (handled getParameters vehicle component input).component.context.parametersMetadata =
          component.context.parametersMetadata := by
      unfold handled
      cases hmessage : input.message with
      | autopilotVersion data =>
          simp only [VehicleComponent.handle, VehicleComponent.autopilotVersionMessage]
          cases htype : component.vehicleType with
          | none => rfl
          | some vehicleType =>
              have hdiffers : ¬ component.differs vehicleType data = true := fun hd =>
                h ⟨happlies, component, data, vehicleType, hauto, hmessage, htype, hd⟩
              dsimp only
              rw [if_neg hdiffers]
      | _ => rfl
    funext name
    rw [metadata, metadata, hnext, hauto]
    exact congrFun hsame name
  · rw [called_of_not_applies happlies]

variable (getParameters) in
/-- **A replacement asks for all parameters again.** -/
theorem Vehicle.called_request (h : Replaces vehicle input) :
    .sent (.paramRequestList vehicle.vehicleId mavCompIdAutopilot1) ∈
      (vehicle.called getParameters input).2 := by
  obtain ⟨happlies, component, data, vehicleType, hauto, hmessage, htype, hdiffers⟩ := h
  obtain ⟨_, _, hevents⟩ := called_of_applies getParameters hauto happlies
  refine hevents.subset ?_
  unfold handled
  rw [hmessage]
  simp only [VehicleComponent.handle, VehicleComponent.autopilotVersionMessage, htype, hdiffers,
    if_true, List.mem_singleton]

variable (getParameters) in
/-- A report stores the metadata of the table as it is. -/
theorem Vehicle.called_reports (hauto : vehicle.autopilot = some component)
    (h : input.Reports vehicle.vehicleId name) :
    ∃ data, (vehicle.called getParameters input).1.parameters name = some data ∧
      data.metadata = vehicle.metadata name := by
  obtain ⟨happlies, data, hmessage, rfl⟩ := h
  obtain ⟨now, hnext, _⟩ := called_of_applies getParameters hauto happlies
  refine ⟨component.paramValueData data, ?_, ?_⟩
  · rw [parameters, hnext, handled, hmessage]
    exact Function.update_self ..
  · rw [metadata, hauto]
    rfl

/-- Other calls leave the parameter as it is. -/
theorem Vehicle.called_parameters (hauto : vehicle.autopilot = some component)
    (h : ¬ input.Reports vehicle.vehicleId name) :
    (vehicle.called getParameters input).1.parameters name = vehicle.parameters name := by
  by_cases happlies : input.Applies vehicle.vehicleId
  · obtain ⟨now, hnext, _⟩ := called_of_applies getParameters hauto happlies
    have hsame : (handled getParameters vehicle component input).component.context.parameters name =
        component.context.parameters name := by
      unfold handled
      cases hmessage : input.message with
      | autopilotVersion data =>
          simp only [VehicleComponent.handle, VehicleComponent.autopilotVersionMessage]
          cases component.vehicleType with
          | none => rfl
          | some vehicleType => dsimp only; split <;> rfl
      | paramValue data =>
          exact Function.update_of_ne (fun hname => h ⟨happlies, data, hmessage, hname.symm⟩) ..
      | _ => rfl
    rw [parameters, parameters, hnext, hauto]
    exact hsame
  · rw [called_of_not_applies happlies]

theorem Vehicle.called_autopilot (hauto : vehicle.autopilot = some component) :
    ∃ component', (vehicle.called getParameters input).1.autopilot = some component' := by
  by_cases happlies : input.Applies vehicle.vehicleId
  · obtain ⟨_, hnext, _⟩ := called_of_applies getParameters hauto happlies
    exact ⟨_, hnext⟩
  · rw [called_of_not_applies happlies]
    exact ⟨component, hauto⟩

end Call

/-! ## 2. Runs -/

/-- The calls of `Vehicle::update` on one vehicle. -/
def Vehicle.calls (getParameters : GetParameters Metadata) (vehicle : Vehicle Metadata)
    (inputs : List Input) : Vehicle Metadata :=
  inputs.foldl (fun vehicle input => (vehicle.called getParameters input).1) vehicle

/-- None of the calls replaces the table. -/
def Undisturbed (getParameters : GetParameters Metadata) : Vehicle Metadata → List Input → Prop
  | _, [] => True
  | vehicle, input :: rest =>
      ¬ Replaces vehicle input ∧
        Undisturbed getParameters (vehicle.called getParameters input).1 rest

section Runs

variable {vehicle : Vehicle Metadata} {component : VehicleComponent Metadata} {inputs : List Input}
  {input : Input}

theorem Vehicle.calls_append (more : List Input) :
    vehicle.calls getParameters (inputs ++ more) =
      (vehicle.calls getParameters inputs).calls getParameters more := List.foldl_append

theorem Vehicle.calls_snoc :
    vehicle.calls getParameters (inputs ++ [input]) =
      ((vehicle.calls getParameters inputs).called getParameters input).1 := calls_append [input]

theorem undisturbed_snoc :
    Undisturbed getParameters vehicle (inputs ++ [input]) ↔
      Undisturbed getParameters vehicle inputs ∧
        ¬ Replaces (vehicle.calls getParameters inputs) input := by
  induction inputs generalizing vehicle with
  | nil => exact ⟨fun h => ⟨trivial, h.1⟩, fun h => ⟨h.2, trivial⟩⟩
  | cons first inputs ih =>
      constructor
      · rintro ⟨hfirst, hrest⟩
        obtain ⟨hinputs, hlast⟩ := ih.mp hrest
        exact ⟨⟨hfirst, hinputs⟩, hlast⟩
      · rintro ⟨⟨hfirst, hinputs⟩, hlast⟩
        exact ⟨hfirst, ih.mpr ⟨hinputs, hlast⟩⟩

theorem Vehicle.calls_keeps (hauto : vehicle.autopilot = some component) :
    (vehicle.calls getParameters inputs).vehicleId = vehicle.vehicleId ∧
      ∃ component', (vehicle.calls getParameters inputs).autopilot = some component' := by
  induction inputs using List.reverseRecOn with
  | nil => exact ⟨rfl, component, hauto⟩
  | append_singleton inputs input ih =>
      obtain ⟨hid, component', hauto'⟩ := ih
      rw [calls_snoc]
      exact ⟨called_vehicleId.trans hid, called_autopilot hauto'⟩

theorem Vehicle.autopilot_initial (vehicleId : UInt8) (now : Nat) :
    (Vehicle.initial vehicleId now : Vehicle Metadata).autopilot = some (.initial now) := by
  have hset : (Vehicle.initial vehicleId now : Vehicle Metadata) =
      (⟨vehicleId, fun _ => none⟩ : Vehicle Metadata).setAutopilot mavCompIdAutopilot1
        (.initial now) := rfl
  rw [hset]
  exact autopilot_setAutopilot

end Runs

/-! ## 3. A run of calls -/

section Calls

variable (getParameters : GetParameters Metadata) (vehicleId : UInt8) (now : Nat)

/-- A new vehicle after these calls. -/
def vehicleAfter (inputs : List Input) : Vehicle Metadata :=
  (Vehicle.initial vehicleId now).calls getParameters inputs

variable {getParameters vehicleId now}

theorem vehicleAfter_snoc (inputs : List Input) (input : Input) :
    vehicleAfter getParameters vehicleId now (inputs ++ [input]) =
      ((vehicleAfter getParameters vehicleId now inputs).called getParameters input).1 :=
  Vehicle.calls_snoc

variable (getParameters vehicleId now) in
theorem vehicleAfter_keeps (inputs : List Input) :
    (vehicleAfter getParameters vehicleId now inputs).vehicleId = vehicleId ∧
      ∃ component, (vehicleAfter getParameters vehicleId now inputs).autopilot = some component :=
  Vehicle.calls_keeps (Vehicle.autopilot_initial vehicleId now)

/-- **The last report of a parameter**, and the table it was read from. The induction is on the
    calls from the front. -/
theorem metadata_at_report (inputs : List Input) {name : List UInt8}
    {data : ParameterData Metadata}
    (h : (vehicleAfter getParameters vehicleId now inputs).parameters name = some data) :
    ∃ before input after, inputs = before ++ input :: after ∧ input.Reports vehicleId name ∧
      (∀ later ∈ after, ¬ later.Reports vehicleId name) ∧
      data.metadata = (vehicleAfter getParameters vehicleId now before).metadata name ∧
      (Undisturbed getParameters (vehicleAfter getParameters vehicleId now (before ++ [input]))
          after →
        (vehicleAfter getParameters vehicleId now before).metadata =
          (vehicleAfter getParameters vehicleId now inputs).metadata) := by
  induction inputs using List.reverseRecOn with
  | nil =>
      rw [vehicleAfter, Vehicle.calls, List.foldl_nil, Vehicle.parameters,
        Vehicle.autopilot_initial] at h
      cases h
  | append_singleton inputs input ih =>
      obtain ⟨hid, component, hauto⟩ := vehicleAfter_keeps getParameters vehicleId now inputs
      rw [vehicleAfter_snoc] at h
      by_cases hreports : input.Reports vehicleId name
      · have hreports' := hreports
        rw [← hid] at hreports'
        obtain ⟨stored, hstored, hmetadata⟩ := Vehicle.called_reports
          getParameters hauto hreports'
        obtain rfl : data = stored := Option.some.inj (h.symm.trans hstored)
        refine ⟨inputs, input, [], rfl, hreports, fun _ hlater => (List.not_mem_nil hlater).elim,
          hmetadata, fun _ => ?_⟩
        rw [vehicleAfter_snoc]
        refine (Vehicle.called_metadata hauto fun hreplaces => ?_).symm
        -- a report is no version
        obtain ⟨_, _, _, _, _, hversion, _⟩ := hreplaces
        obtain ⟨_, _, hvalue, _⟩ := hreports
        rw [hversion] at hvalue
        cases hvalue
      · have hother : ¬ input.Reports
            (vehicleAfter getParameters vehicleId now inputs).vehicleId name := by
          rw [hid]
          exact hreports
        rw [Vehicle.called_parameters hauto hother] at h
        obtain ⟨before, report, after, rfl, hreport, hlast, hdata, hsame⟩ := ih h
        refine ⟨before, report, after ++ [input], by simp, hreport, fun later hlater => ?_, hdata,
          fun hquiet => ?_⟩
        · rcases List.mem_append.mp hlater with hlater | hlater
          · exact hlast later hlater
          · obtain rfl := List.mem_singleton.mp hlater
            exact hreports
        · obtain ⟨hquiet, hinput⟩ := undisturbed_snoc.mp hquiet
          have hrun : (vehicleAfter getParameters vehicleId now (before ++ [report])).calls
              getParameters after =
              vehicleAfter getParameters vehicleId now (before ++ report :: after) := by
            rw [vehicleAfter, vehicleAfter, ← Vehicle.calls_append]
            simp
          rw [hrun] at hinput
          rw [hsame hquiet, vehicleAfter_snoc, Vehicle.called_metadata hauto hinput]

/-- **What the metadata of a parameter is.** It comes from the table as it stood at the last report
    of the parameter, and so from the present table as long as that has not been replaced since;
    and whenever the table is replaced, the vehicle is asked to report all of its parameters. -/
theorem metadata_of_report (getParameters : GetParameters Metadata) (vehicleId : UInt8)
    (now : Nat) (inputs : List Input) :
    (∀ (name : List UInt8) (data : ParameterData Metadata),
      (vehicleAfter getParameters vehicleId now inputs).parameters name = some data →
      ∃ before input after, inputs = before ++ input :: after ∧ input.Reports vehicleId name ∧
        (∀ later ∈ after, ¬ later.Reports vehicleId name) ∧
        data.metadata = (vehicleAfter getParameters vehicleId now before).metadata name ∧
        (Undisturbed getParameters (vehicleAfter getParameters vehicleId now (before ++ [input]))
            after →
          data.metadata = (vehicleAfter getParameters vehicleId now inputs).metadata name)) ∧
      ∀ (before : List Input) (input : Input) (after : List Input),
        inputs = before ++ input :: after →
        Replaces (vehicleAfter getParameters vehicleId now before) input →
        .sent (.paramRequestList vehicleId mavCompIdAutopilot1) ∈
          ((vehicleAfter getParameters vehicleId now before).called getParameters input).2 := by
  constructor
  · intro name data h
    obtain ⟨before, input, after, hinputs, hreport, hlast, hdata, hsame⟩ := metadata_at_report _ h
    refine ⟨before, input, after, hinputs, hreport, hlast, hdata, fun hquiet => ?_⟩
    rw [hdata, hsame hquiet]
  · intro before input after _ hreplaces
    have hrequest := Vehicle.called_request getParameters hreplaces
    rw [(vehicleAfter_keeps getParameters vehicleId now before).1] at hrequest
    exact hrequest

end Calls

section Runs

/-- The table of a firmware has the firmware's name for every parameter. -/
def namedTables : GetParameters String := fun firmware _ _ => some firmware

def autopilotInput (message : MavMessage) : Input := ⟨⟨0, 0, 0, 0⟩, ⟨1, 1, 0⟩, message⟩

/-- A quadrotor reports a parameter; then the vehicle is a plane. -/
def refittedRun : List Input :=
  [autopilotInput (.heartbeat ⟨0, 2, 3, 0⟩), autopilotInput (.autopilotVersion ⟨0, 0⟩),
    autopilotInput (.paramValue ⟨#v[65, 0, 0, 0, 0, 0, 0, 0, 0, 0, 0, 0, 0, 0, 0, 0], 0, 1, 0, 9⟩),
    autopilotInput (.heartbeat ⟨0, 1, 3, 0⟩), autopilotInput (.autopilotVersion ⟨0, 0⟩)]

/-- **Metadata of the firmware before**: the table is the plane's, the parameter still has what the
    copter's table said. -/
theorem metadata_stale :
    ¬ ∀ (getParameters : GetParameters String) (vehicleId : UInt8) (now : Nat)
        (inputs : List Input) (name : List UInt8) (data : ParameterData String),
      (vehicleAfter getParameters vehicleId now inputs).parameters name = some data →
      data.metadata = (vehicleAfter getParameters vehicleId now inputs).metadata name := by
  intro hall
  have hstored : ((vehicleAfter namedTables 1 0 refittedRun).parameters [65]).map
      (·.metadata) = some (some "Copter") := by decide +kernel
  have htable : (vehicleAfter namedTables 1 0 refittedRun).metadata [65] = some "Plane" := by
    decide +kernel
  obtain ⟨data, hdata, hmetadata⟩ := Option.map_eq_some_iff.mp hstored
  have hsame := hall namedTables 1 0 refittedRun [65] data hdata
  rw [hmetadata, htable] at hsame
  exact absurd hsame (by decide)

end Runs

end MavlinkServer.Rest
