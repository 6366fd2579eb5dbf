/-
  File:      MavlinkServer/Rest/Control.lean
  Subject:   THE VEHICLE TABLE (`src/lib/drivers/rest/control.rs`).

  * `MavMessage` -- the messages `Vehicle::update` looks into;
  * `Vehicle`, `VehicleComponent`, `VehicleContext` -- an entry of the table;
  * `VehicleComponent.handle` -- the `match` of `Vehicle::update`, one
    definition an arm;
  * `Vehicle.update`, `Control.update` -- one message;
  * `Control.vehicles`, `Control.parameters` -- what the web API reads.

  A `HashMap` is the function that looks a key up. `get_parameters` reads files
  that the build makes, and is a parameter. An `Instant` is a number of
  nanoseconds; the readings of one update are in its `Clock`.
-/
import MavlinkServer.Rest.Autopilot
import Mathlib.Logic.Function.Basic

namespace MavlinkServer.Rest

/-! ## 1. Messages -/

def mavCompIdAutopilot1 : UInt8 := 1

structure MavHeader where
  systemId : UInt8
  componentId : UInt8
  sequence : UInt8
  deriving DecidableEq, Repr

structure HeartbeatData where
  customMode : UInt32
  mavtype : UInt8
  autopilot : UInt8
  baseMode : UInt8

structure AttitudeData where
  roll : Float32
  pitch : Float32
  yaw : Float32

structure GlobalPositionIntData where
  lat : Int32
  lon : Int32
  alt : Int32

structure AutopilotVersionData where
  capabilities : UInt64
  flightSwVersion : UInt32

inductive MavMessage where
  | heartbeat (heartbeat : HeartbeatData)
  | attitude (attitude : AttitudeData)
  | globalPositionInt (globalPosition : GlobalPositionIntData)
  | autopilotVersion (autopilotVersion : AutopilotVersionData)
  | paramValue (paramValue : ParamValueData)
  | other (messageId : UInt32)

/-- What `send_mavlink_message` is given here: a COMMAND_LONG with MAV_CMD_REQUEST_MESSAGE, or
    PARAM_REQUEST_LIST. -/
inductive Request where
  | requestMessage (messageId : UInt32) (targetSystem targetComponent : UInt8)
  | paramRequestList (targetSystem targetComponent : UInt8)
  deriving DecidableEq, Repr

/-! ## 2. Vehicles -/

/-- `semver::Version`, of which only the numbers are set. -/
structure SemVer where
  major : UInt64
  minor : UInt64
  patch : UInt64
  deriving DecidableEq, Repr

structure Version where
  capabilities : UInt64
  version : SemVer
  deriving DecidableEq, Repr

structure Attitude where
  roll : Float32 := 0
  pitch : Float32 := 0
  yaw : Float32 := 0

structure Position where
  latitude : Float := 0
  longitude : Float := 0
  altitude : Float32 := 0

structure ParameterData (Metadata : Type) where
  parameter : Parameter
  metadata : Option Metadata

structure VehicleContext (Metadata : Type) where
  parameters : List UInt8 → Option (ParameterData Metadata)
  parametersMetadata : List UInt8 → Option Metadata
  firmwareType : Option FirmwareType
  lastUpdate : Nat

structure VehicleComponent (Metadata : Type) where
  componentId : UInt8
  armed : Bool
  autopilot : Option AutoPilotType
  vehicleType : Option VehicleType
  mode : String
  attitude : Attitude
  position : Position
  version : Option Version
  context : VehicleContext Metadata

inductive VehicleComponents (Metadata : Type) where
  | autopilot (component : VehicleComponent Metadata)

structure Vehicle (Metadata : Type) where
  vehicleId : UInt8
  components : UInt8 → Option (VehicleComponents Metadata)

variable {Metadata : Type}

/-- `VehicleContext::default()` at an instant. -/
def VehicleContext.initial (now : Nat) : VehicleContext Metadata where
  parameters _ := none
  parametersMetadata _ := none
  firmwareType := none
  lastUpdate := now

def VehicleComponent.initial (now : Nat) : VehicleComponent Metadata where
  componentId := 1
  armed := false
  autopilot := none
  vehicleType := none
  mode := ""
  attitude := {}
  position := {}
  version := none
  context := .initial now

/-- `Vehicle { vehicle_id, ..Default::default() }`. -/
def Vehicle.initial (vehicleId : UInt8) (now : Nat) : Vehicle Metadata where
  vehicleId := vehicleId
  components := Function.update (fun _ => none) mavCompIdAutopilot1
    (some (.autopilot (.initial now)))

/-- A clone begins with a new context. -/
def VehicleComponent.clone (now : Nat) (component : VehicleComponent Metadata) :
    VehicleComponent Metadata :=
  { component with context := .initial now }

def VehicleComponents.clone (now : Nat) : VehicleComponents Metadata → VehicleComponents Metadata
  | autopilot component => autopilot (component.clone now)

def Vehicle.clone (now : Nat) (vehicle : Vehicle Metadata) : Vehicle Metadata :=
  { vehicle with components := fun id => (vehicle.components id).map (.clone now) }

/-! ## 3. One message -/

/-- The readings of `Instant::now()` in one update: for a new entry, for `elapsed()`, for
    `last_update`, and for the clone. -/
structure Clock where
  created : Nat
  checked : Nat
  stored : Nat
  cloned : Nat
  deriving DecidableEq, Repr

/-- What leaves on the channels of the module. -/
inductive ControlEvent (Metadata : Type) where
  | sent (request : Request)
  | parameter (vehicleId : UInt8) (name : List UInt8) (data : ParameterData Metadata)
  | vehicle (vehicle : Vehicle Metadata)
  | inner (header : MavHeader) (message : MavMessage)

/-- What an arm of the `match` leaves: the component, what it sent, `vehicle_updated`. -/
structure Handled (Metadata : Type) where
  component : VehicleComponent Metadata
  events : List (ControlEvent Metadata)
  vehicleUpdated : Bool

/-- `get_parameters(firmware_type, version)`. -/
abbrev GetParameters (Metadata : Type) := String → String → List UInt8 → Option Metadata

namespace VehicleComponent

variable (vehicleId componentId : UInt8) (component : VehicleComponent Metadata)

/-- MAV_MODE_FLAG_SAFETY_ARMED is 128. -/
def heartbeat (heartbeat : HeartbeatData) : Handled Metadata where
  component :=
    { component with
      armed := heartbeat.baseMode &&& 128 == 128
      autopilot := some (.fromU8 heartbeat.autopilot)
      vehicleType := some (.fromU8 heartbeat.mavtype)
      mode :=
        if AutoPilotType.fromU8 heartbeat.autopilot = .arduPilotMega then
          flightMode (.fromU8 heartbeat.mavtype) heartbeat.baseMode heartbeat.customMode
        else component.mode }
  events :=
    if component.version.isNone then [.sent (.requestMessage 148 vehicleId componentId)] else []
  vehicleUpdated := true

def attitudeMessage (attitude : AttitudeData) : Handled Metadata where
  component := { component with attitude := ⟨attitude.roll, attitude.pitch, attitude.yaw⟩ }
  events := []
  vehicleUpdated := true

def globalPositionInt (globalPosition : GlobalPositionIntData) : Handled Metadata where
  component :=
    { component with
      position :=
        { latitude := globalPosition.lat.toFloat / 1e7
          longitude := globalPosition.lon.toFloat / 1e7
          altitude := globalPosition.alt.toFloat32 / 1e3 } }
  events := []
  vehicleUpdated := true

end VehicleComponent

namespace AutopilotVersionData

variable (autopilotVersion : AutopilotVersionData)

def major : UInt64 := ((autopilotVersion.flightSwVersion >>> 24) &&& 0xff).toUInt64
def minor : UInt64 := ((autopilotVersion.flightSwVersion >>> 16) &&& 0xff).toUInt64
def patch : UInt64 := ((autopilotVersion.flightSwVersion >>> 8) &&& 0xff).toUInt64

/-- `Capabilities::from_bits_truncate` keeps the twenty known bits. -/
def version : Version where
  capabilities := autopilotVersion.capabilities &&& 0xfffff
  version := ⟨autopilotVersion.major, autopilotVersion.minor, autopilotVersion.patch⟩

def versionMajorMinor : String := s!"{autopilotVersion.major}.{autopilotVersion.minor}"

end AutopilotVersionData

namespace VehicleComponent

variable (vehicleId componentId : UInt8) (component : VehicleComponent Metadata)

/-- Whether the version or the firmware differs from what the component has. -/
def differs (vehicleType : VehicleType) (autopilotVersion : AutopilotVersionData) : Bool :=
  match component.version with
  | none => true
  | some version =>
      version.version != autopilotVersion.version.version ||
        component.context.firmwareType != some (firmwareType vehicleType)

/-- A new version, a new table, and a request for all parameters. -/
def replaceMetadata (getParameters : GetParameters Metadata) (vehicleType : VehicleType)
    (autopilotVersion : AutopilotVersionData) : VehicleComponent Metadata :=
  { component with
    version := some autopilotVersion.version
    context :=
      { component.context with
        firmwareType := some (firmwareType vehicleType)
        parametersMetadata := getParameters (firmwareType vehicleType).toString
          autopilotVersion.versionMajorMinor } }

/-- Without a vehicle type the source returns at once, in front of the broadcast. -/
def autopilotVersionMessage (getParameters : GetParameters Metadata)
    (autopilotVersion : AutopilotVersionData) : Handled Metadata :=
  match component.vehicleType with
  | none => ⟨component, [], false⟩
  | some vehicleType =>
      if component.differs vehicleType autopilotVersion then
        ⟨component.replaceMetadata getParameters vehicleType autopilotVersion,
          [.sent (.paramRequestList vehicleId componentId)], true⟩
      else ⟨component, [], true⟩

def paramValueData (paramValue : ParamValueData) : ParameterData Metadata where
  parameter := .fromParamValue paramValue
  metadata := component.context.parametersMetadata (stringFromParamId paramValue.paramId)

def paramValueMessage (paramValue : ParamValueData) : Handled Metadata where
  component :=
    { component with
      context :=
        { component.context with
          parameters := Function.update component.context.parameters
            (stringFromParamId paramValue.paramId) (some (component.paramValueData paramValue)) } }
  events := [.parameter vehicleId (stringFromParamId paramValue.paramId)
    (component.paramValueData paramValue)]
  vehicleUpdated := true

/-- The `match` of `Vehicle::update`. -/
def handle (getParameters : GetParameters Metadata) : MavMessage → Handled Metadata
  | .heartbeat data => component.heartbeat vehicleId componentId data
  | .attitude data => component.attitudeMessage data
  | .globalPositionInt data => component.globalPositionInt data
  | .autopilotVersion data =>
      component.autopilotVersionMessage vehicleId componentId getParameters data
  | .paramValue data => component.paramValueMessage vehicleId data
  | .other _ => ⟨component, [], false⟩

end VehicleComponent

/-- `Duration::from_millis(1000 / 16)`. -/
def updatePeriod : Nat := 62000000

namespace Vehicle

def setAutopilot (vehicle : Vehicle Metadata) (componentId : UInt8)
    (component : VehicleComponent Metadata) : Vehicle Metadata :=
  { vehicle with
    components := Function.update vehicle.components componentId (some (.autopilot component)) }

/-- The end of `Vehicle::update`: the vehicle is broadcast at most sixteen times a second. -/
def broadcast (clock : Clock) (vehicle : Vehicle Metadata) (componentId : UInt8)
    (handled : Handled Metadata) : Vehicle Metadata × List (ControlEvent Metadata) :=
  if handled.vehicleUpdated ∧
      updatePeriod < clock.checked - handled.component.context.lastUpdate then
    let updated := vehicle.setAutopilot componentId
      { handled.component with
        context := { handled.component.context with lastUpdate := clock.stored } }
    (updated, handled.events ++ [.vehicle (updated.clone clock.cloned)])
  else (vehicle.setAutopilot componentId handled.component, handled.events)

def update (getParameters : GetParameters Metadata) (clock : Clock) (vehicle : Vehicle Metadata)
    (header : MavHeader) (message : MavMessage) :
    Vehicle Metadata × List (ControlEvent Metadata) :=
  if header.systemId ≠ vehicle.vehicleId then (vehicle, [])
  else if header.componentId ≠ mavCompIdAutopilot1 then (vehicle, [])
  else
    match vehicle.components header.componentId with
    | none => (vehicle, [])
    | some (.autopilot component) =>
        vehicle.broadcast clock header.componentId
          (component.handle vehicle.vehicleId header.componentId getParameters message)

end Vehicle

/-! ## 4. The table -/

/-- One call of `control::update`. -/
structure Input where
  clock : Clock
  header : MavHeader
  message : MavMessage

/-- The static data of the module, and what has left on its channels. -/
structure Control (Metadata : Type) where
  table : UInt8 → Option (Vehicle Metadata)
  events : List (ControlEvent Metadata)

namespace Control

def start : Control Metadata := ⟨fun _ => none, []⟩

/-- The entry is made, where it is missing, before `Vehicle::update` looks at the message. -/
def update (getParameters : GetParameters Metadata) (control : Control Metadata) (input : Input) :
    Control Metadata :=
  let vehicle := (control.table input.header.systemId).getD
    (.initial input.header.systemId input.clock.created)
  let updated := vehicle.update getParameters input.clock input.header input.message
  { table := Function.update control.table input.header.systemId (some updated.1)
    events := control.events ++ updated.2 ++ [.inner input.header input.message] }

def run (getParameters : GetParameters Metadata) (inputs : List Input) : Control Metadata :=
  inputs.foldl (update getParameters) start

/-- `vehicles()`; the order of the values is that of the hash map, here that of the identifiers. -/
def vehicles (now : Nat) (control : Control Metadata) : List (Vehicle Metadata) :=
  (List.range 256).filterMap fun id => (control.table (UInt8.ofNat id)).map (.clone now)

end Control

end MavlinkServer.Rest
