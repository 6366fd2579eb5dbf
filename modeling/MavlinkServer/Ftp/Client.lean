/-
  File:      MavlinkServer/Ftp/Client.lean
  Subject:   THE REQUESTS OF THE FTP CLIENT
             (`src/lib/drivers/rest/mavftp/client.rs`).

  * `sendAndReceive` -- one request, retransmitted until its reply arrives;
  * `terminateSession`, `resetSessions`, `terminateSessionBestEffort`;
  * the operations on a path: `removeFile`, `createDirectory`,
    `removeDirectory`, `rename`, `truncateFile`, `calcCrc32`,
    `listDirectoryEntries`, `writeFile`.

  The lock of a target is held from the start of an operation to its end
  (`withTargetLock`). The loops of the source without a bound run on fuel
  that the input cannot outlast: every round reads at least one event.
-/
import MavlinkServer.Ftp.Transport
import MavlinkServer.Ftp.Listing

namespace MavlinkServer.Ftp

open Lib Await

def ftpMaxRetries : Nat := 5

/-! ## 1. One request -/

/-- The attempts that are left of `for attempt in 0..FTP_MAX_RETRIES`. -/
def sendAndReceiveLoop (t : Target) (payload : FtpPayload) : Nat → FtpFailure → Client FtpPayload
  | 0, lastError => fail lastError
  | attempts + 1, _ => do
      sendFtpMessage t payload
      match ← awaitFtp t (some payload.seqNumber) with
      | .reply resp => do
          note (.accepted payload resp)
          pure resp
      | .failed error => sendAndReceiveLoop t payload attempts error
      | .elapsed => sendAndReceiveLoop t payload attempts .timedOut

def sendAndReceive (t : Target) (payload : FtpPayload) : Client FtpPayload := do
  subscribe
  sendAndReceiveLoop t payload ftpMaxRetries .timedOut

/-- `check_nak(&resp).map_err(|error| anyhow!(error))?`. -/
def checked (resp : FtpPayload) : Client Unit :=
  match checkNak resp with
  | .ok () => pure ()
  | .error nak => fail (.nak nak)

/-- `.context(text)`. -/
def withContext {α : Type} (text : String) (x : Client α) : Client α := do
  match ← attempt x with
  | .ok a => pure a
  | .error error => fail (.context text error)

def terminateSession (t : Target) (session : UInt8) : Client Unit := do
  let req ← newRequest .terminateSession
  let resp ← sendAndReceive t { req with session }
  checked resp

def resetSessions (t : Target) : Client Unit := do
  let req ← newRequest .resetSessions
  let resp ← sendAndReceive t req
  checked resp

/-- A failure is only logged. -/
def terminateSessionBestEffort (t : Target) (session : UInt8) : Client Unit := do
  let _ ← attempt (terminateSession t session)
  pure ()

/-- `let _guard = target_lock(..).await.lock().await`: the guard is dropped on every return. -/
def withTargetLock {α : Type} (t : Target) (x : Client α) : Client α := do
  note (.locked t)
  match ← attempt x with
  | .ok a => do
      note (.unlocked t)
      pure a
  | .error error => do
      note (.unlocked t)
      fail error

/-! ## 2. Operations on a path -/

/-- A request that carries `data`; its length goes through `as u8`. -/
def dataRequest (opcode : FtpOpcode) (data : List UInt8) (offset : UInt32) : Client FtpPayload := do
  let req ← newRequest opcode
  pure { req with data, size := UInt8.ofNat data.length, offset }

/-- What the one-request operations share: under the lock, one request, its reply checked. -/
def dataOperation {α : Type} (t : Target) (opcode : FtpOpcode) (data : List UInt8)
    (offset : UInt32) (finish : FtpPayload → Client α) : Client α :=
  withTargetLock t do
    let req ← dataRequest opcode data offset
    let resp ← sendAndReceive t req
    checked resp
    finish resp

def removeFile (t : Target) (path : List UInt8) : Client Unit :=
  dataOperation t .removeFile path 0 fun _ => pure ()

def createDirectory (t : Target) (path : List UInt8) : Client Unit :=
  dataOperation t .createDirectory path 0 fun _ => pure ()

def removeDirectory (t : Target) (path : List UInt8) : Client Unit :=
  dataOperation t .removeDirectory path 0 fun _ => pure ()

def rename (t : Target) (source dest : List UInt8) : Client Unit :=
  dataOperation t .rename (source ++ 0 :: dest) 0 fun _ => pure ()

def truncateFile (t : Target) (path : List UInt8) (offset : UInt32) : Client Unit :=
  dataOperation t .truncateFile path offset fun _ => pure ()

def calcCrc32 (t : Target) (path : List UInt8) : Client UInt32 :=
  dataOperation t .calcFileCRC32 path 0 fun resp =>
    if 4 ≤ resp.data.length then pure (UInt32.ofNat (ofLe (resp.data.take 4)))
    else fail .crcTooShort

/-- The `loop` of `list_directory_entries`. -/
def listLoop (t : Target) (path : List UInt8) :
    Nat → UInt32 → List ListingEntry → Client (List ListingEntry)
  | 0, _, _ => stuck
  | fuel + 1, offset, allEntries => do
      let req ← dataRequest .listDirectory path offset
      let resp ← sendAndReceive t req
      match checkNak resp with
      | .error nak => if nak.errCode = .eof then pure allEntries else fail (.nak nak)
      | .ok () =>
          match parseListingEntries resp.data with
          | none => fail .slicePanic
          | some [] => pure allEntries
          | some entries =>
              listLoop t path fuel (offset + UInt32.ofNat entries.length) (allEntries ++ entries)

def listDirectoryEntries (t : Target) (path : List UInt8) : Client (List ListingEntry) :=
  withTargetLock t fun w => listLoop t path (w.inbox.length + 1) 0 [] w

/-! ## 3. Upload -/

/-- `data.chunks(n)`. -/
def chunks (n : Nat) : Nat → List UInt8 → List (List UInt8)
  | 0, _ => []
  | _ + 1, [] => []
  | fuel + 1, data => data.take n :: chunks n fuel (data.drop n)

/-- The `for` loop of `write_file` over the chunks that are left. -/
def writeChunks (t : Target) (session : UInt8) : UInt32 → List (List UInt8) → Client Unit
  | _, [] => pure ()
  | offset, chunk :: rest => do
      let req ← dataRequest .writeFile chunk offset
      match ← attempt (sendAndReceive t { req with session }) with
      | .ok resp =>
          match checkNak resp with
          | .error nak => do
              terminateSessionBestEffort t session
              fail (.nak nak)
          | .ok () => writeChunks t session (offset + UInt32.ofNat chunk.length) rest
      | .error error => do
          terminateSessionBestEffort t session
          fail error

def writeFile (t : Target) (path data : List UInt8) : Client Unit :=
  withTargetLock t do
    withContext "ResetSessions failed before CreateFile" (resetSessions t)
    let req ← dataRequest .createFile path 0
    let resp ← withContext "CreateFile failed" (sendAndReceive t req)
    checked resp
    writeChunks t resp.session 0 (chunks ftpDataMaxLen data.length data)
    withContext "TerminateSession failed after WriteFile" (terminateSession t resp.session)

end MavlinkServer.Ftp
