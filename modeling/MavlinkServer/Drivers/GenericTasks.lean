/-
  File:      MavlinkServer/Drivers/GenericTasks.lean
  Subject:   THE TASKS OF A CONNECTION (`src/lib/drivers/generic_tasks.rs`, and
             `udp_send_task` in `src/lib/drivers/udp/mod.rs`).

  * `Packet`, `Protocol` -- a packet with what the codec says of it, and a
    message on the hub: a packet with its origin;
  * `Effect` -- what a task does with a message, in order: it counts it, has
    the callbacks called, sends it into the hub or writes it out;
  * `defaultReceiveTask` -- from a stream of packets into the hub;
  * `defaultSendTask`, `udpSendTask` -- from the hub to a sink. They go on
    after a lag (`defaultSendTask_effects`).

  The futures of the callbacks are awaited one after the other, up to the first
  that gives an error. The stream, the sink and the callbacks are inputs.
-/
import MavlinkServer.Lib.Broadcast
import MavlinkServer.Lib.Loop
import MavlinkServer.Hub.Registry

namespace MavlinkServer.Drivers

open Lib Hub

/-! ## 1. Messages -/

/-- A MAVLink packet: its bytes, and what the codec reads out of them. -/
structure Packet where
  bytes : List UInt8
  systemId : UInt8
  componentId : UInt8
  messageId : UInt32
  payload : List UInt8
  deriving DecidableEq, Repr

structure Protocol where
  origin : String
  timestamp : UInt64
  packet : Packet
  deriving DecidableEq, Repr

/-- A heartbeat of an autopilot. -/
def heartbeatPacket : Packet where
  bytes := [0xFD, 9, 0, 0, 0, 1, 1, 0, 0, 0, 0, 0, 0, 0, 2, 3, 81, 4, 3, 0xE7, 0x1E]
  systemId := 1
  componentId := 1
  messageId := 0
  payload := [0, 0, 0, 0, 2, 3, 81, 4, 3]

/-- `Direction::receive_only`. -/
def receiveOnly (direction : Direction) : Bool := direction = .receiver

/-- `Direction::send_only`. -/
def sendOnly (direction : Direction) : Bool := direction = .sender

/-- What a callback gives for a message. -/
inductive CallbackResult where
  | ok
  | err
  deriving DecidableEq, Repr

/-- One of the callbacks gave an error. -/
def vetoed (results : List CallbackResult) : Bool := .err ∈ results

inductive Effect where
  /-- `stats.update_input`, `stats.update_output` -/
  | updateInput (message : Protocol)
  | updateOutput (message : Protocol)
  /-- `call_all`, with what the callbacks give -/
  | callAll (message : Protocol) (results : List CallbackResult)
  /-- `hub_sender.send` -/
  | toHub (message : Protocol)
  /-- "Don't do loopback" -/
  | loopback (message : Protocol)
  /-- `writer.send`, when it succeeds -/
  | toSink (packet : Packet)
  deriving DecidableEq, Repr

/-- What the effects send into the hub. -/
def Effect.sent? : Effect → Option Protocol
  | .toHub message => some message
  | _ => none

/-- What the effects write out. -/
def Effect.sunk? : Effect → Option Packet
  | .toSink packet => some packet
  | _ => none

/-! ## 2. Receiving -/

/-- The kinds of IO errors the tasks tell apart. -/
inductive IoErrorKind where
  | connectionReset
  | connectionAborted
  | brokenPipe
  | unexpectedEof
  | timedOut
  | wouldBlock
  | interrupted
  | connectionRefused
  | other
  deriving DecidableEq, Repr

/-- What the framed reader gives. -/
inductive StreamItem where
  | packet (packet : Packet)
  | decodeError
  | ioError (kind : IoErrorKind)
  | ended
  deriving DecidableEq, Repr

inductive TaskError where
  /-- "Critical error trying to decode data from: {io_error:?}" -/
  | critical (kind : IoErrorKind)
  /-- the task panics -/
  | panic
  deriving DecidableEq, Repr

/-- The `match reader.next().await` of the receive tasks: a packet, or how the loop goes on. -/
def nextPacket : StreamItem → Except (Flow TaskError) Packet
  | .packet packet => .ok packet
  | .decodeError => .error .next
  | .ioError .connectionReset | .ioError .connectionAborted | .ioError .brokenPipe
  | .ioError .unexpectedEof => .error .leave
  | .ioError .timedOut | .ioError .wouldBlock | .ioError .interrupted => .error .next
  | .ioError kind => .error (.fail (.critical kind))
  | .ended => .error .leave

/-- A message is counted, and sent unless a callback gives an error (`continue 'mainloop`). -/
def input (message : Protocol) (results : List CallbackResult) : List Effect :=
  [.updateInput message, .callAll message results] ++
    if vetoed results then [] else [.toHub message]

/-- What an iteration of a receive task meets: an item, the clock, and the callbacks' results. -/
structure ReceiveInput where
  item : StreamItem
  now : UInt64
  results : List CallbackResult
  deriving DecidableEq, Repr

def defaultReceiveBody (identifier : String) (i : ReceiveInput) : List Effect × Flow TaskError :=
  match nextPacket i.item with
  | .ok packet => (input ⟨identifier, i.now, packet⟩ i.results, .next)
  | .error flow => ([], flow)

def defaultReceiveTask (identifier : String) (inputs : List ReceiveInput) :
    Iteration Unit Effect TaskError :=
  runLoop (loopOf (defaultReceiveBody identifier)) () inputs

/-! ## 3. Sending -/

/-- What an iteration of a send task meets: the hub's receiver, the callbacks' results, and the
    result of writing. -/
structure SendInput where
  outcome : Recv Protocol
  results : List CallbackResult
  written : Except IoErrorKind Unit
  deriving DecidableEq

/-- A message is counted, and written unless a callback gives an error; `refused` says how the loop
    goes on when it cannot be written. -/
def output (message : Protocol) (results : List CallbackResult) (written : Except IoErrorKind Unit)
    (refused : IoErrorKind → Flow TaskError) : List Effect × Flow TaskError :=
  if vetoed results then ([.updateOutput message, .callAll message results], .next)
  else
    match written with
    | .ok () => ([.updateOutput message, .callAll message results, .toSink message.packet], .next)
    | .error kind => ([.updateOutput message, .callAll message results], refused kind)

def defaultSendBody (identifier : String) (i : SendInput) : List Effect × Flow TaskError :=
  match i.outcome with
  | .closed => ([], .leave)
  | .lagged _ => ([], .next)
  | .message message =>
      if message.origin = identifier then ([.loopback message], .next)
      else output message i.results i.written fun _ => .leave

def defaultSendTask (identifier : String) (inputs : List SendInput) :
    Iteration Unit Effect TaskError :=
  runLoop (loopOf (defaultSendBody identifier)) () inputs

/-- A datagram that is refused does not end the task. -/
def udpRefused : IoErrorKind → Flow TaskError
  | .connectionRefused => .next
  | _ => .leave

def udpSendBody (remoteAddr : String) (direction : Direction) (i : SendInput) :
    List Effect × Flow TaskError :=
  match i.outcome with
  | .closed => ([], .leave)
  | .lagged _ => ([], .next)
  | .message message =>
      if message.origin = remoteAddr then ([.loopback message], .next)
      else if direction.canSend then output message i.results i.written udpRefused
      else ([], .next)

def udpSendTask (remoteAddr : String) (direction : Direction) (inputs : List SendInput) :
    Iteration Unit Effect TaskError :=
  runLoop (loopOf (udpSendBody remoteAddr direction)) () inputs

/-! ## 4. What the loops make of their inputs -/

theorem sent?_input (message : Protocol) (results : List CallbackResult) :
    (input message results).filterMap Effect.sent? = if vetoed results then [] else [message] := by
  unfold input
  cases vetoed results <;> rfl

theorem sunk?_output {message : Protocol} {results : List CallbackResult}
    {refused : IoErrorKind → Flow TaskError} (hok : vetoed results = false) :
    output message results (.ok ()) refused =
      ([.updateOutput message, .callAll message results, .toSink message.packet], .next) := by
  unfold output
  rw [hok]
  rfl

/-- What is written was accepted by the callbacks, and taken by the sink. -/
theorem filterMap_sunk?_output (message : Protocol) (results : List CallbackResult)
    (written : Except IoErrorKind Unit) (refused : IoErrorKind → Flow TaskError) :
    (output message results written refused).1.filterMap Effect.sunk? =
      if vetoed results = false ∧ written = .ok () then [message.packet] else [] := by
  unfold output
  cases vetoed results with
  | true => rfl
  | false => cases written <;> rfl

theorem output_flow {message : Protocol} {results : List CallbackResult}
    {refused : IoErrorKind → Flow TaskError} :
    (output message results (.ok ()) refused).2 = .next := by
  unfold output
  split <;> rfl

/-- **A send task goes on after a lag**: as long as the channel is open and the sink takes what is
    written, every message received is looked at, also those after a notice that others were
    missed. -/
theorem defaultSendTask_effects {identifier : String} {inputs : List SendInput}
    (hopen : ∀ i ∈ inputs, i.outcome ≠ .closed) (hwritten : ∀ i ∈ inputs, i.written = .ok ()) :
    (defaultSendTask identifier inputs).effects =
      inputs.flatMap fun i => (defaultSendBody identifier i).1 := by
  have hnext : ∀ i ∈ inputs, (defaultSendBody identifier i).2 = .next := by
    intro i hi
    unfold defaultSendBody
    rw [hwritten i hi]
    cases ho : i.outcome with
    | closed => exact absurd ho (hopen i hi)
    | lagged count => rfl
    | message message =>
        dsimp only
        split
        · rfl
        · exact output_flow
  unfold defaultSendTask
  rw [effects_heard, heard_of_next hnext]

end MavlinkServer.Drivers
