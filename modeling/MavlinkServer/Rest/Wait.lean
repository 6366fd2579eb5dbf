/-
  File:      MavlinkServer/Rest/Wait.lean
  Subject:   REQUESTS OF THE WEB API THAT WAIT FOR A REPLY (`set_parameter`,
             `version` and `wait_for_message` in
             `src/lib/drivers/rest/control.rs`).

  * `Command`, `WaitCall` -- what is sent, and what is waited for;
  * `waitForMessage` -- the loop, on what its receiver yields;
  * `asF32` -- `value as f32`;
  * `setParameter`, `version` -- the calls;
  * `ReportsTaken`, `reportsTaken_iff` -- when an `Ok` of `set_parameter` means
    that the vehicle has the value.

  A text is its UTF-8 bytes. The conversion of a name into the 16 bytes of
  PARAM_SET is the MAVLink crate's, and a parameter.
-/
import MavlinkServer.Rest.Control

namespace MavlinkServer.Rest

/-! ## 1. Calls -/

/-- `MAV_PARAM_TYPE_REAL64`. -/
def mavParamTypeReal64 : UInt8 := 10

structure ParamSetData where
  paramValue : Float32
  targetSystem : UInt8
  targetComponent : UInt8
  paramId : Vector UInt8 16
  paramType : UInt8

/-- What a call gives `send_mavlink_message`. -/
inductive Command where
  | paramSet (data : ParamSetData)
  /-- COMMAND_LONG with MAV_CMD_REQUEST_MESSAGE -/
  | requestMessage (messageId : UInt32) (targetSystem targetComponent : UInt8)

/-- What one call sends, and the arguments of its `wait_for_message`. -/
structure WaitCall where
  command : Command
  vehicleId : UInt8
  componentId : UInt8
  condition : MavMessage → Bool

namespace WaitCall

/-- The message ends the wait. -/
def accepts (call : WaitCall) (header : MavHeader) (message : MavMessage) : Bool :=
  header.systemId == call.vehicleId && header.componentId == call.componentId &&
    call.condition message

end WaitCall

/-- `value as f32`: to the nearest, ties to even, and to infinity past the range. -/
def asF32 (value : Float) : Float32 :=
  .ofModel (.pack (match value.toModel.unpack with
    | .finite sign mantissa exponent _ =>
        Float.Model.UnpackedFloat.round .binary32 sign mantissa exponent
    | special => special))

section Calls

variable (charArray : List UInt8 → Vector UInt8 16)

def namesParameter (parameterName : List UInt8) : MavMessage → Bool
  | .paramValue paramValue => stringFromParamId paramValue.paramId == parameterName
  | _ => false

def setParameterCall (vehicleId componentId : Option UInt8) (parameterName : List UInt8)
    (value : Float) : WaitCall :=
  let vehicleId := vehicleId.getD 1
  let componentId := componentId.getD mavCompIdAutopilot1
  { command := .paramSet
      { paramValue := asF32 value
        targetSystem := vehicleId
        targetComponent := componentId
        paramId := charArray parameterName
        paramType := mavParamTypeReal64 }
    vehicleId
    componentId
    condition := namesParameter parameterName }

end Calls

def isAutopilotVersion : MavMessage → Bool
  | .autopilotVersion _ => true
  | _ => false

def versionCall (vehicleId componentId : Option UInt8) : WaitCall :=
  let vehicleId := vehicleId.getD 1
  let componentId := componentId.getD mavCompIdAutopilot1
  { command := .requestMessage 148 vehicleId componentId
    vehicleId
    componentId
    condition := isAutopilotVersion }

/-! ## 2. The wait -/

/-- What a wait on the receiver of BROADCAST_INNER can see; `elapsed` is the timer of three seconds
    around the loop. -/
inductive Heard where
  | message (header : MavHeader) (message : MavMessage)
  /-- the receiver lagged, or the channel is closed: `if let Ok(..)` passes over it -/
  | failed
  | elapsed

/-- `wait_for_message` on what its receiver yields, `none` while that does not decide it. The error
    is tokio's. -/
def waitForMessage (call : WaitCall) : List Heard → Option (Except String MavMessage)
  | [] => none
  | .message header message :: rest =>
      if call.accepts header message then some (.ok message) else waitForMessage call rest
  | .failed :: rest => waitForMessage call rest
  | .elapsed :: _ => some (.error "deadline has elapsed")

def setParameter (charArray : List UInt8 → Vector UInt8 16) (vehicleId componentId : Option UInt8)
    (parameterName : List UInt8) (value : Float) (heard : List Heard) :
    Option (Except String MavMessage) :=
  waitForMessage (setParameterCall charArray vehicleId componentId parameterName value) heard

def version (vehicleId componentId : Option UInt8) (heard : List Heard) :
    Option (Except String MavMessage) :=
  waitForMessage (versionCall vehicleId componentId) heard

/-- The messages that end the wait, as far as the timer lets it go on. -/
def accepted (call : WaitCall) : List Heard → List MavMessage
  | [] => []
  | .message header message :: rest =>
      if call.accepts header message then message :: accepted call rest else accepted call rest
  | .failed :: rest => accepted call rest
  | .elapsed :: _ => []

/-- **The wait takes the first of them.** -/
theorem waitForMessage_ok {call : WaitCall} {message : MavMessage} {heard : List Heard} :
    waitForMessage call heard = some (.ok message) ↔ (accepted call heard).head? = some message := by
  induction heard with
  | nil => simp [waitForMessage, accepted]
  | cons event rest ih =>
      cases event with
      | message header other =>
          rw [waitForMessage, accepted]
          split
          · simp
          · exact ih
      | failed => exact ih
      | elapsed => simp [waitForMessage, accepted]

theorem condition_of_mem_accepted {call : WaitCall} {message : MavMessage} {heard : List Heard}
    (h : message ∈ accepted call heard) : call.condition message = true := by
  induction heard with
  | nil => cases h
  | cons event rest ih =>
      cases event with
      | message header other =>
          rw [accepted] at h
          split at h
          · rename_i haccepts
            cases List.mem_cons.mp h with
            | inl heq => exact heq ▸ (Bool.and_eq_true_iff.mp haccepts).2
            | inr hrest => exact ih hrest
          · exact ih h
      | failed => exact ih h
      | elapsed => cases h

/-! ## 3. What an `Ok` of `set_parameter` means -/

/-- The message names the parameter. -/
theorem namesParameter_iff {parameterName : List UInt8} {message : MavMessage} :
    namesParameter parameterName message = true ↔ ∃ paramValue, message = .paramValue paramValue ∧
      stringFromParamId paramValue.paramId = parameterName := by
  cases message with
  | paramValue paramValue => simp [namesParameter]
  | _ => simp [namesParameter]

section SetParameter

variable (charArray : List UInt8 → Vector UInt8 16) (vehicleId componentId : Option UInt8)
  (parameterName : List UInt8) (value : Float) (heard : List Heard)

/-- **Only reports are taken**: the call returns a message only when that names the parameter and
    carries the value. -/
def ReportsTaken : Prop :=
  ∀ message, setParameter charArray vehicleId componentId parameterName value heard =
      some (.ok message) →
    ∃ paramValue, message = .paramValue paramValue ∧
      stringFromParamId paramValue.paramId = parameterName ∧
      (paramValue.paramValue == asF32 value) = true

/-- The PARAM_VALUE of a message. -/
def asParamValue : MavMessage → Option ParamValueData
  | .paramValue paramValue => some paramValue
  | _ => none

/-- The reports of the parameter that reach the wait, in order: PARAM_VALUE messages of its name,
    from the addressed component, before the timer. -/
def reports : List ParamValueData :=
  (accepted (setParameterCall charArray vehicleId componentId parameterName value) heard).filterMap
    asParamValue

variable {charArray vehicleId componentId parameterName value heard}

theorem exists_of_mem_accepted {message : MavMessage} (h : message ∈ accepted
      (setParameterCall charArray vehicleId componentId parameterName value) heard) :
    ∃ paramValue, message = .paramValue paramValue ∧
      stringFromParamId paramValue.paramId = parameterName :=
  namesParameter_iff.mp (condition_of_mem_accepted h)

/-- The call returns the first report. -/
theorem setParameter_ok {message : MavMessage} :
    setParameter charArray vehicleId componentId parameterName value heard = some (.ok message) ↔
      ∃ paramValue, message = .paramValue paramValue ∧
        (reports charArray vehicleId componentId parameterName value heard).head? =
          some paramValue := by
  rw [setParameter, waitForMessage_ok, reports]
  cases haccepted : accepted (setParameterCall charArray vehicleId componentId parameterName value)
      heard with
  | nil => simp
  | cons first rest =>
      obtain ⟨paramValue, rfl, _⟩ := exists_of_mem_accepted
        (haccepted ▸ List.mem_cons_self : first ∈ _)
      have hreports : ((MavMessage.paramValue paramValue :: rest).filterMap asParamValue).head? =
          some paramValue := rfl
      rw [List.head?_cons, hreports]
      constructor
      · rintro ⟨⟩
        exact ⟨paramValue, rfl, rfl⟩
      · rintro ⟨_, rfl, ⟨⟩⟩
        rfl

/-- **An `Ok` means that the value was taken exactly when the first report carries it.** -/
theorem reportsTaken_iff : ReportsTaken charArray vehicleId componentId parameterName value heard ↔
    ∀ first ∈ (reports charArray vehicleId componentId parameterName value heard).head?,
      (first.paramValue == asF32 value) = true := by
  constructor
  · intro htaken first hfirst
    obtain ⟨paramValue, heq, _, hcarries⟩ := htaken (.paramValue first)
      (setParameter_ok.mpr ⟨first, rfl, hfirst⟩)
    cases heq
    exact hcarries
  · intro hfirst message hok
    obtain ⟨paramValue, rfl, hhead⟩ := setParameter_ok.mp hok
    obtain ⟨_, heq, hname⟩ := exists_of_mem_accepted
      (List.mem_of_head? (waitForMessage_ok.mp hok))
    cases heq
    exact ⟨paramValue, rfl, hname, hfirst paramValue hhead⟩

end SetParameter

/-- The bytes of a short name, filled up with NULs. -/
def filledUp (name : List UInt8) : Vector UInt8 16 := .ofFn fun i => name.getD i 0

/-- A value of 5000 is refused, and the vehicle answers with the 1 that it keeps. -/
theorem not_reportsTaken_refused : ¬ ReportsTaken filledUp none none [82]
    (.ofBits 0x40b3880000000000)
    [.message ⟨1, 1, 0⟩ (.paramValue
      { paramValue := .ofBits 0x3f800000, paramCount := 1, paramIndex := 65535, paramType := 9
        paramId := filledUp [82] })] := by
  rw [reportsTaken_iff]
  intro h
  have hcarries := h _ rfl
  revert hcarries
  decide +kernel

end MavlinkServer.Rest
