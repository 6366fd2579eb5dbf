/-
  File:      MavlinkServer/Tlog/Writer.lean
  Subject:   RECORDING A LOG (`TlogWriter::run`, `handle_client`,
             `create_tlog_file`, `wait_for_arm` and `check_arm_state` in
             `src/lib/drivers/tlog/writer.rs`).

  * `FileName`, `Disk` -- the files that the writer names, and what is in them;
  * `createTlogFile` -- the name of the next file. Opening it empties it;
  * `checkArmState`, `heartbeatOf` -- what a heartbeat says of a vehicle;
  * `Writer`, `step` -- the loop of `run` from wait to wait: the subscription
    that waits for the vehicle to be armed, creating the file, the subscription
    that records, and each message of it.
-/
import MavlinkServer.Lib.Broadcast
import MavlinkServer.Lib.IndexMap
import MavlinkServer.Lib.Run
import MavlinkServer.Tlog.LogName
import MavlinkServer.Tlog.Replay

namespace MavlinkServer.Tlog

open Lib Drivers

/-! ## 1. Files -/

inductive FileName where
  /-- the configured path itself -/
  | single
  /-- in the configured directory -/
  | named (name : Text)
  /-- there, with a name that is not UTF-8 -/
  | other (name : List UInt8)
  deriving DecidableEq, Repr

/-- `name.to_str()` -/
def FileName.toStr : FileName → Option Text
  | named name => some name
  | single | other _ => none

abbrev Disk : Type := IndexMap FileName (List UInt8)

/-- The bytes that are in a file. -/
def bytesAt (disk : Disk) (name : FileName) : List UInt8 := (disk.get? name).getD []

/-- What `read_dir` lists. -/
def listing (disk : Disk) : List (Option Text) := disk.entries.map fun e => e.1.toStr

inductive TlogPath where
  /-- a path with the extension `tlog` -/
  | file
  | directory
  deriving DecidableEq, Repr

/-- The file that `create_tlog_file` opens. -/
def tlogName (d : DigitClass) (path : TlogPath) (disk : Disk) (c : LogCreation) : FileName :=
  match path with
  | .file => .single
  | .directory => .named (logName (d.nextSequence (listing disk) c.listed) c.time)

/-- `create_tlog_file`: `File::create` empties a file that is there. -/
def createTlogFile (d : DigitClass) (path : TlogPath) (disk : Disk) (c : LogCreation) :
    Option (FileName × Disk) :=
  if path = .directory ∧ c.directory = false then none
  else if c.opened then
    let name := tlogName d path disk c
    some (name, (disk.insert name []).2)
  else none

theorem createTlogFile_some {d : DigitClass} {path : TlogPath} {disk disk' : Disk}
    {name : FileName} {c : LogCreation} (h : createTlogFile d path disk c = some (name, disk')) :
    (path = .directory → c.directory = true) ∧ c.opened = true ∧ name = tlogName d path disk c ∧
      disk' = (disk.insert name []).2 := by
  unfold createTlogFile at h
  split at h
  · cases h
  · rename_i hdirectory
    split at h
    · rename_i hopened
      cases h
      refine ⟨fun hp => ?_, hopened, rfl, rfl⟩
      cases hd : c.directory with
      | true => rfl
      | false => exact absurd ⟨hp, hd⟩ hdirectory
    · cases h

/-! ## 2. The vehicle -/

inductive ArmState where
  | disarmed
  | armed
  deriving DecidableEq, Repr

/-- `HEARTBEAT_DATA::ID` -/
def heartbeatId : UInt32 := 0

/-- `BASE_MODE_BYTE` -/
def baseModeByte : Nat := 6

/-- `MAV_MODE_FLAG_SAFETY_ARMED` -/
def safetyArmed : UInt8 := 128

def checkArmState (packet : Packet) : Option ArmState :=
  if packet.messageId ≠ heartbeatId then none
  else
    let baseMode := packet.payload[baseModeByte]?.getD 0
    if baseMode &&& safetyArmed = 0 then some .disarmed else some .armed

/-- `FileCreationCondition`, with the component id of the `ExpectedOrigin`; its system id is found
    out while the writer runs. -/
inductive FileCreationCondition where
  | whileArmed (componentId : UInt8)
  | always
  deriving DecidableEq, Repr

/-- What a message says of the expected vehicle: nothing, unless it is a heartbeat of it. -/
def heartbeatOf (systemId : Option UInt8) (componentId : UInt8) (message : Protocol) :
    Option ArmState :=
  if systemId = some message.packet.systemId ∧ message.packet.componentId = componentId then
    checkArmState message.packet
  else none

/-! ## 3. The writer -/

structure WriterConfig where
  path : TlogPath
  condition : FileCreationCondition
  deriving DecidableEq, Repr

inductive WriterPhase where
  /-- at the head of the loop of `run` -/
  | ready
  /-- in `wait_for_arm` -/
  | waiting (receiver : Receiver)
  /-- before `create_tlog_file` -/
  | creating
  /-- the file is open, the hub not subscribed to -/
  | opened (file : FileName)
  /-- in `handle_client`, waiting for a message -/
  | recording (file : FileName) (receiver : Receiver)
  /-- a message has been received, and the callbacks are called -/
  | taken (file : FileName) (receiver : Receiver) (message : Protocol)
  deriving DecidableEq, Repr

/-- A message that is in a file, or in part: where it is in the hub's order, and which system was
    expected. -/
structure Recorded where
  index : Nat
  message : Protocol
  systemId : Option UInt8
  deriving DecidableEq, Repr

structure Writer where
  /-- what the hub has broadcast -/
  log : List Protocol
  systemId : Option UInt8
  armed : Bool
  phase : WriterPhase
  disk : Disk
  recorded : List Recorded
  deriving DecidableEq

inductive WriterAction where
  /-- the hub broadcasts a message -/
  | send (message : Protocol)
  /-- `run` comes to the head of its loop -/
  | start
  /-- `wait_for_arm` receives a message; or is lagging, or the channel is closed -/
  | hear
  | hearFails
  | create (c : LogCreation)
  | subscribe
  /-- `handle_client` receives a message; or the notice that it missed some -/
  | take
  | lag (count : Nat)
  /-- the callbacks have given their results, and the message is written, or the first bytes of it
      are -/
  | write (results : List CallbackResult) (now : UInt64) (written : Except Nat Unit)
  /-- the hub's channel is closed -/
  | close
  /-- the driver's task is aborted and spawned again, for a writer that expects this system -/
  | restart (systemId : Option UInt8)
  deriving DecidableEq

namespace Writer

def new (systemId : Option UInt8) (disk : Disk) : Writer := ⟨[], systemId, false, .ready, disk, []⟩

/-- `armed = false`, and the loop goes round. -/
def finish (s : Writer) : Writer := { s with armed := false, phase := .ready }

/-- A message of the component that is armed is waited for; the first system that is becomes the
    expected one. -/
def armsBy (s : Writer) (componentId : UInt8) (message : Protocol) : Option UInt8 :=
  let packet := message.packet
  if packet.componentId = componentId ∧ checkArmState packet = some .armed ∧
      s.systemId.getD packet.systemId = packet.systemId then
    some packet.systemId
  else none

/-- `timestamp.to_be_bytes()` and the bytes of the message. -/
def recordBytes (now : UInt64) (message : Protocol) : List UInt8 :=
  toBe 8 now.toNat ++ message.packet.bytes

/-- Bytes of a message are in the file. -/
def put (s : Writer) (file : FileName) (receiver : Receiver) (message : Protocol)
    (bytes : List UInt8) : Writer :=
  { s with
    disk := s.disk.modify file (· ++ bytes)
    recorded := s.recorded ++ [⟨receiver.next - 1, message, s.systemId⟩] }

/-- After a message was written: in the mode `WhileArmed` a disarmed vehicle ends the file. -/
def disarmsBy (config : WriterConfig) (s : Writer) (message : Protocol) : Bool :=
  match config.condition with
  | .whileArmed componentId => heartbeatOf s.systemId componentId message = some .disarmed
  | .always => false

def step (d : DigitClass) (config : WriterConfig) (s : Writer) : WriterAction → Option Writer
  | .send message => some { s with log := s.log ++ [message] }
  | .start =>
      if s.phase = .ready then
        match config.condition, s.armed with
        | .whileArmed _, false => some { s with phase := .waiting (.subscribe s.log) }
        | _, _ => some { s with phase := .creating }
      else none
  | .hear =>
      match s.phase, config.condition with
      | .waiting receiver, .whileArmed componentId =>
          match receiver.recv? s.log with
          | none => none
          | some (message, receiver) =>
              match s.armsBy componentId message with
              | some systemId =>
                  some { s with systemId := some systemId, armed := true, phase := .creating }
              | none => some { s with phase := .waiting receiver }
      | _, _ => none
  | .hearFails =>
      match s.phase with
      | .waiting _ => some { s with phase := .ready }
      | _ => none
  | .create c =>
      if s.phase = .creating then
        match createTlogFile d config.path s.disk c with
        | some (file, disk) => some { s with phase := .opened file, disk := disk }
        | none => some { s with phase := .ready }
      else none
  | .subscribe =>
      match s.phase with
      | .opened file => some { s with phase := .recording file (.subscribe s.log) }
      | _ => none
  | .take =>
      match s.phase with
      | .recording file receiver =>
          match receiver.recv? s.log with
          | none => none
          | some (message, receiver) => some { s with phase := .taken file receiver message }
      | _ => none
  | .lag count =>
      match s.phase with
      | .recording file receiver =>
          if receiver.next + count ≤ s.log.length then
            some { s with phase := .recording file { receiver with next := receiver.next + count } }
          else none
      | _ => none
  | .write results now written =>
      match s.phase with
      | .taken file receiver message =>
          if vetoed results then some { s with phase := .recording file receiver }
          else
            match written with
            | .error count =>
                some (s.put file receiver message ((recordBytes now message).take count)).finish
            | .ok () =>
                let s := s.put file receiver message (recordBytes now message)
                if s.disarmsBy config message then some s.finish
                else some { s with phase := .recording file receiver }
      | _ => none
  | .close =>
      match s.phase with
      | .recording _ _ => some s.finish
      | _ => none
  | .restart systemId => some { s.finish with systemId := systemId }

end Writer

end MavlinkServer.Tlog
