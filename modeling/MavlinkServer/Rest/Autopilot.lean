/-
  File:      MavlinkServer/Rest/Autopilot.lean
  Subject:   WHAT THE NUMBERS OF AN AUTOPILOT MEAN
             (`src/lib/drivers/rest/autopilot/`).

  * `AutoPilotType`, `VehicleType` -- the enumerations of HEARTBEAT, each with
    an `unknown` for the numbers past its end;
  * `FirmwareType`, `firmwareType`, `flightMode` -- the firmware a vehicle type
    stands for, and the name of its flight mode;
  * `Parameter`, `stringFromParamId`, `Parameter.fromParamValue` -- a parameter
    as PARAM_VALUE reports it.

  The names of the flight modes are the `Display` texts of the `CustomMode`
  enumerations; nothing else is read of these. Texts that come in as bytes are
  their UTF-8 bytes, as for the FTP client.
-/
import MavlinkServer.Ftp.Listing

namespace MavlinkServer.Rest

/-! ## 1. Enumerations -/

inductive AutoPilotType where
  | generic | reserved | slugs | arduPilotMega | openPilot | genericWaypointsOnly
  | genericWaypointsAndSimpleNavigation | genericMissionFull | invalid | ppz | udb | fp | px4
  | smaccmPilot | autoQuad | armazila | aerob | asluav | smartAp | airRails | reflexFusion
  | unknown (value : UInt8)
  deriving DecidableEq, Repr

namespace AutoPilotType

/-- The known types, from 0 on. -/
def known : List AutoPilotType :=
  [generic, reserved, slugs, arduPilotMega, openPilot, genericWaypointsOnly,
    genericWaypointsAndSimpleNavigation, genericMissionFull, invalid, ppz, udb, fp, px4,
    smaccmPilot, autoQuad, armazila, aerob, asluav, smartAp, airRails, reflexFusion]

def fromU8 (value : UInt8) : AutoPilotType := known[value.toNat]?.getD (unknown value)

end AutoPilotType

inductive VehicleType where
  | generic | fixedWing | quadrotor | coaxial | helicopter | antennaTracker | gcs | airship
  | freeBalloon | rocket | groundRover | surfaceBoat | submarine | hexarotor | octorotor | tricopter
  | flappingWing | kite | onboardController | vtolTailsitterDuorotor | vtolTailsitterQuadrotor
  | vtolTiltrotor | vtolFixedrotor | vtolTailsitter | vtolTiltwing | vtolReserved5 | gimbal | adsb
  | parafoil | dodecarotor | camera | chargingStation | flarm | servo | odid | decarotor | battery
  | parachute | log | osd | imu | gps | winch | genericMultirotor | illuminator
  | unknown (value : UInt8)
  deriving DecidableEq, Repr

namespace VehicleType

/-- The known types, from 0 on. -/
def known : List VehicleType :=
  [generic, fixedWing, quadrotor, coaxial, helicopter, antennaTracker, gcs, airship, freeBalloon,
    rocket, groundRover, surfaceBoat, submarine, hexarotor, octorotor, tricopter, flappingWing,
    kite, onboardController, vtolTailsitterDuorotor, vtolTailsitterQuadrotor, vtolTiltrotor,
    vtolFixedrotor, vtolTailsitter, vtolTiltwing, vtolReserved5, gimbal, adsb, parafoil,
    dodecarotor, camera, chargingStation, flarm, servo, odid, decarotor, battery, parachute, log,
    osd, imu, gps, winch, genericMultirotor, illuminator]

def fromU8 (value : UInt8) : VehicleType := known[value.toNat]?.getD (unknown value)

end VehicleType

/-- The numbers of the parameter types start at 1. -/
inductive ParameterType where
  | uint8 | int8 | uint16 | int16 | uint32 | int32 | uint64 | int64 | real32 | real64
  | unknown (value : UInt8)
  deriving DecidableEq, Repr

namespace ParameterType

def known : List ParameterType :=
  [uint8, int8, uint16, int16, uint32, int32, uint64, int64, real32, real64]

def fromU8 (value : UInt8) : ParameterType :=
  if value = 0 then unknown value else known[value.toNat - 1]?.getD (unknown value)

end ParameterType

/-! ## 2. Firmware -/

inductive FirmwareType where
  | copter
  | plane
  | rover
  | submarine
  deriving DecidableEq, Repr

def FirmwareType.toString : FirmwareType → String
  | copter => "Copter"
  | plane => "Plane"
  | rover => "Rover"
  | submarine => "Sub"

/-- Unknown types count as Copter. -/
def firmwareType : VehicleType → FirmwareType
  | .submarine => .submarine
  | .groundRover | .surfaceBoat => .rover
  | .flappingWing | .vtolTiltrotor | .vtolTailsitterQuadrotor | .vtolTailsitterDuorotor
  | .vtolFixedrotor | .vtolTailsitter | .vtolTiltwing | .vtolReserved5 | .fixedWing => .plane
  | _ => .copter

/-- `CustomMode` of `arducopter.rs`: each mode by its number, with its text. -/
def arducopterModes : List (UInt32 × String) :=
  [(255, "pre-flight"), (0, "stabilize"), (1, "acro"), (2, "alt-hold"), (3, "auto"), (4, "guided"),
    (5, "loiter"), (6, "rtl"), (7, "circle"), (9, "land"), (11, "drift"), (13, "sport"),
    (14, "flip"), (15, "auto-tune"), (16, "pos-hold"), (17, "brake"), (18, "throw"),
    (19, "avoid-adsb"), (20, "guided-no-gps"), (21, "smart-rtl"), (22, "flow-hold"),
    (23, "follow"), (24, "zig-zag"), (25, "system-id"), (26, "auto-rotate"), (27, "auto-rtl"),
    (28, "turtle")]

/-- `ardurover.rs` has the same text as `arducopter.rs`. -/
def arduroverModes : List (UInt32 × String) := arducopterModes

def arduplaneModes : List (UInt32 × String) :=
  [(255, "pre-flight"), (0, "manual"), (1, "circle"), (2, "stabilize"), (3, "training"),
    (4, "acro"), (5, "fly-by-wire-a"), (6, "fly-by-wire-b"), (7, "cruise"), (8, "auto-tune"),
    (10, "auto"), (11, "rtl"), (12, "loiter"), (13, "takeoff"), (14, "avoid-adsb"),
    (15, "guided"), (16, "initialising"), (17, "q-stabilize"), (18, "q-hover"), (19, "q-loiter"),
    (20, "q-land"), (21, "q-rtl"), (22, "q-auto-tune"), (23, "q-acro"), (24, "thermal"),
    (25, "loiter-alt-q-land")]

def ardusubModes : List (UInt32 × String) :=
  [(255, "pre-flight"), (0, "stabilize"), (1, "acro"), (2, "alt-hold"), (3, "auto"), (4, "guided"),
    (7, "circle"), (9, "surface"), (16, "pos-hold"), (19, "manual"), (20, "motor-detect"),
    (21, "surf-trak")]

def FirmwareType.customModes : FirmwareType → List (UInt32 × String)
  | copter => arducopterModes
  | plane => arduplaneModes
  | rover => arduroverModes
  | submarine => ardusubModes

/-- `CustomMode::from_u32(value).to_string()`. -/
def customModeName (modes : List (UInt32 × String)) (value : UInt32) : String :=
  (modes.lookup value).getD s!"Unknown ({value})"

def flightMode (vehicleType : VehicleType) (baseMode : UInt8) (customMode : UInt32) : String :=
  if baseMode = 0 then "pre-flight"
  else customModeName (firmwareType vehicleType).customModes customMode

/-! ## 3. Parameters -/

structure ParamValueData where
  paramId : Vector UInt8 16
  paramValue : Float32
  paramCount : UInt16
  paramIndex : UInt16
  paramType : UInt8

structure Parameter where
  name : List UInt8
  value : Float
  paramType : ParameterType
  count : UInt16
  index : UInt16

/-- `trim_end_matches('\0')`. -/
def trimEndNul (text : List UInt8) : List UInt8 := (text.reverse.dropWhile (· == 0)).reverse

def stringFromParamId (paramId : Vector UInt8 16) : List UInt8 :=
  trimEndNul (Ftp.fromUtf8Lossy paramId.toList)

def Parameter.fromParamValue (paramValue : ParamValueData) : Parameter where
  name := stringFromParamId paramValue.paramId
  value := paramValue.paramValue.toFloat
  paramType := ParameterType.fromU8 paramValue.paramType
  count := paramValue.paramCount
  index := paramValue.paramIndex

/-! ## 4. The tables -/

/-- No number stands for two modes of one firmware. -/
theorem customModes_distinct (firmware : FirmwareType) :
    (firmware.customModes.map Prod.fst).Nodup := by
  cases firmware <;> decide

end MavlinkServer.Rest
