/-
  File:      MavlinkServer/Ftp/Burst.lean
  Subject:   THE BURST DOWNLOAD (`burst_read_file_inner` and what it calls in
             `src/lib/drivers/rest/mavftp/client.rs`).

  * `BurstReadState` -- the buffer, the offset the burst extends next, the
    blocks it jumped over;
  * `extendContiguous` -- what one burst packet does to that state;
  * `runBurstCycle`, `burstPhase` -- the packets of one request, and requests
    until an Eof;
  * `readMissingBlockChunk`, `fillMissingBlocks` -- the repair of the blocks;
  * `burstReadFileInner` -- the whole read.
-/
import MavlinkServer.Ftp.Client

namespace MavlinkServer.Ftp

open Lib Await

/-! ## 1. The state of a read -/

structure MissingBlock where
  offset : UInt32
  size : UInt32
  deriving DecidableEq, Repr

structure BurstReadState where
  fileData : List UInt8
  /-- the next offset the burst phase expects to extend -/
  contiguousEnd : UInt32
  /-- all copied bytes, including later gap repair -/
  bytesWritten : UInt32
  missingBlocks : List MissingBlock
  totalPackets : UInt64
  deriving DecidableEq, Repr

namespace BurstReadState

/-- `BurstReadState::new`. -/
def new (fileSize : Nat) : BurstReadState where
  fileData := List.replicate fileSize 0
  contiguousEnd := 0
  bytesWritten := 0
  missingBlocks := []
  totalPackets := 0

/-- `record_bytes_written`, without the store to `progress`. -/
def recordBytesWritten (state : BurstReadState) (chunkSize : UInt32) : BurstReadState :=
  { state with bytesWritten := state.bytesWritten + chunkSize }

end BurstReadState

def copyChunkIntoBuffer (fileData : List UInt8) (chunkOffset : UInt32) (chunkSize : Nat)
    (chunkData : List UInt8) : Except FtpFailure (List UInt8) :=
  if chunkData.length < chunkSize then
    .error (.shortChunk chunkSize chunkData.length)
  else
    let fin := chunkOffset.toNat + chunkSize
    .ok (overlay (padTo fileData fin 0) chunkOffset.toNat (chunkData.take chunkSize))

/-- `apply_burst_chunk` on the state: `none` where it returns `false` and changes nothing. -/
def extendContiguous (state : BurstReadState) (resp : FtpPayload) :
    Except FtpFailure (Option BurstReadState) :=
  if resp.size = 0 then
    .ok none
  else if resp.offset < state.contiguousEnd then
    .ok none
  else
    let missingBlocks :=
      if resp.offset > state.contiguousEnd then
        state.missingBlocks ++ [⟨state.contiguousEnd, resp.offset - state.contiguousEnd⟩]
      else state.missingBlocks
    match copyChunkIntoBuffer state.fileData resp.offset resp.size.toNat resp.data with
    | .error error => .error error
    | .ok fileData =>
        .ok (some ({ state with
          fileData
          missingBlocks
          contiguousEnd := resp.offset + resp.size.toUInt32 }.recordBytesWritten
            resp.size.toUInt32))

/-- A store to `progress`, where the caller gave one. -/
def storeProgress (progress : Bool) (value : UInt64) : Client Unit :=
  if progress then updateProgress value else pure ()

def applyBurstChunk (state : BurstReadState) (resp : FtpPayload) (progress : Bool) :
    Client (Option BurstReadState) :=
  match extendContiguous state resp with
  | .error error => fail error
  | .ok none => pure none
  | .ok (some state') => do
      note (.copied resp)
      storeProgress progress state'.bytesWritten.toUInt64
      pure (some state')

/-! ## 2. The burst phase -/

inductive BurstCycleOutcome where
  | «continue»
  | eof
  deriving DecidableEq, Repr

/-- The `loop` of `run_burst_cycle`, with the number of timeouts in a row so far. -/
def burstLoop (t : Target) (session : UInt8) (progress : Bool) :
    Nat → BurstReadState → Nat → Client (BurstCycleOutcome × BurstReadState × Nat)
  | 0, _, _ => stuck
  | fuel + 1, state, retries => do
      match ← awaitFtp t none with
      | .reply resp =>
          match checkNak resp with
          | .error nak => do
              note (.ended resp)
              if nak.errCode = .eof then
                pure (.eof, state, retries)
              else do
                terminateSessionBestEffort t session
                fail (.nak nak)
          | .ok () =>
              if resp.opcode ≠ .ack ∨ resp.reqOpcode ≠ .burstReadFile then
                burstLoop t session progress fuel state retries
              else do
                match ← applyBurstChunk state resp progress with
                | none => burstLoop t session progress fuel state retries
                | some state' =>
                    let state' := { state' with totalPackets := state'.totalPackets + 1 }
                    if resp.burstComplete = 1 then
                      pure (.continue, state', 0)
                    else
                      burstLoop t session progress fuel state' 0
      | .failed _ => burstLoop t session progress fuel state retries
      | .elapsed =>
          if retries + 1 > ftpMaxRetries then do
            terminateSessionBestEffort t session
            fail .timedOut
          else
            pure (.continue, state, retries + 1)

def runBurstCycle (t : Target) (session : UInt8) (progress : Bool) (state : BurstReadState)
    (retries : Nat) : Client (BurstCycleOutcome × BurstReadState × Nat) := do
  let req ← newRequest .burstReadFile
  sendFtpMessage t { req with
    session
    offset := state.contiguousEnd
    size := UInt8.ofNat ftpDataMaxLen }
  fun w => burstLoop t session progress (w.inbox.length + 1) state retries w

/-- `while let Continue = run_burst_cycle(..).await? {}`: the state at the Eof. -/
def burstPhase (t : Target) (session : UInt8) (progress : Bool) :
    Nat → BurstReadState → Nat → Client BurstReadState
  | 0, _, _ => stuck
  | fuel + 1, state, retries => do
      match ← runBurstCycle t session progress state retries with
      | (.continue, state', retries') => burstPhase t session progress fuel state' retries'
      | (.eof, state', _) => pure state'

/-! ## 3. The repair -/

inductive GapFillChunkOutcome where
  | filled (chunkSize : UInt32)
  | noData
  | endOfFile
  deriving DecidableEq, Repr

/-- The ReadFile request for what is left of a block. -/
def repairRequest (session : UInt8) (missing : MissingBlock) (filled : UInt32)
    (req : FtpPayload) : FtpPayload :=
  { req with
    session
    offset := missing.offset + filled
    size := (min (missing.size - filled) (UInt32.ofNat ftpDataMaxLen)).toUInt8 }

def readMissingBlockChunk (t : Target) (session : UInt8) (progress : Bool)
    (missing : MissingBlock) (filled : UInt32) (state : BurstReadState) :
    Client (GapFillChunkOutcome × BurstReadState) := do
  let req ← newRequest .readFile
  match ← attempt (sendAndReceive t (repairRequest session missing filled req)) with
  | .error error => do
      terminateSessionBestEffort t session
      fail error
  | .ok resp =>
      match checkNak resp with
      | .error nak =>
          if nak.errCode = .eof then
            pure (.endOfFile, state)
          else do
            terminateSessionBestEffort t session
            fail (.nak nak)
      | .ok () =>
          if resp.size = 0 then
            pure (.noData, state)
          else
            match copyChunkIntoBuffer state.fileData (missing.offset + filled) resp.size.toNat
                resp.data with
            | .error error => fail error
            | .ok fileData => do
                let state' := { state with fileData }.recordBytesWritten resp.size.toUInt32
                storeProgress progress state'.bytesWritten.toUInt64
                pure (.filled resp.size.toUInt32, state')

/-- `while filled < missing.size`. -/
def fillBlock (t : Target) (session : UInt8) (progress : Bool) (missing : MissingBlock) :
    Nat → UInt32 → BurstReadState → Client BurstReadState
  | 0, _, _ => stuck
  | fuel + 1, filled, state =>
      if filled < missing.size then do
        match ← readMissingBlockChunk t session progress missing filled state with
        | (.filled chunkSize, state') =>
            fillBlock t session progress missing fuel (filled + chunkSize) state'
        | (.noData, state') => pure state'
        | (.endOfFile, state') => pure state'
      else
        pure state

/-- `for missing in state.missing_blocks.clone()`. -/
def fillBlocks (t : Target) (session : UInt8) (progress : Bool) :
    List MissingBlock → BurstReadState → Client BurstReadState
  | [], state => pure state
  | missing :: rest, state => do
      let state' ← fun w =>
        fillBlock t session progress missing (w.inbox.length + 1) 0 state w
      fillBlocks t session progress rest state'

def fillMissingBlocks (t : Target) (session : UInt8) (progress : Bool) (state : BurstReadState) :
    Client BurstReadState :=
  fillBlocks t session progress state.missingBlocks state

/-! ## 4. The whole read -/

/-- The size an OpenFileRO reply announces: the first four data bytes, 0 without them. -/
def announcedSize (resp : FtpPayload) : Nat :=
  if 4 ≤ resp.size.toNat ∧ 4 ≤ resp.data.length then ofLe (resp.data.take 4) else 0

def openReadSession (t : Target) (path : List UInt8) (maxSize : Option Nat) :
    Client (UInt8 × Nat) := do
  withContext "ResetSessions failed before OpenFileRO" (resetSessions t)
  let req ← dataRequest .openFileRO path 0
  let resp ← withContext "OpenFileRO failed" (sendAndReceive t req)
  checked resp
  let fileSize := announcedSize resp
  match maxSize with
  | some max =>
      if fileSize > max then do
        terminateSessionBestEffort t resp.session
        fail (.tooLarge fileSize max)
      else do
        note (.opened resp.session fileSize)
        pure (resp.session, fileSize)
  | none => do
      note (.opened resp.session fileSize)
      pure (resp.session, fileSize)

def finishReadSession (t : Target) (session : UInt8) (progress : Bool) (state : BurstReadState) :
    Client (List UInt8) := do
  withContext "TerminateSession failed after read" (terminateSession t session)
  let fileData := state.fileData.take state.contiguousEnd.toNat
  storeProgress progress (UInt64.ofNat fileData.length)
  pure fileData

def burstReadFileInner (t : Target) (path : List UInt8) (progress : Bool)
    (maxSize : Option Nat) : Client (List UInt8) :=
  withTargetLock t do
    let (session, fileSize) ← openReadSession t path maxSize
    subscribe
    let state ← fun w =>
      burstPhase t session progress (w.inbox.length + 1) (.new fileSize) 0 w
    let state ← fillMissingBlocks t session progress state
    finishReadSession t session progress state

def readFile (t : Target) (path : List UInt8) (maxSize : Option Nat) : Client (List UInt8) :=
  burstReadFileInner t path false maxSize

def readFileWithProgress (t : Target) (path : List UInt8) : Client (List UInt8) :=
  burstReadFileInner t path true none

end MavlinkServer.Ftp
