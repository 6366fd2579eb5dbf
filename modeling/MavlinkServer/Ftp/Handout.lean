/-
  File:      MavlinkServer/Ftp/Handout.lean
  Subject:   HANDING OUT A DOWNLOAD (`start_download`, `get_download_progress`,
             `take_download_data` in `src/lib/drivers/rest/mavftp/mod.rs`).

  Each lock section is one step: the map `ACTIVE_DOWNLOADS`, and the status,
  the error and the data of a session behind locks of their own. A call that
  has found its session keeps its guard of the map while it waits for these.
  Any call may be cancelled wherever it waits.

  * `Download` -- one call of `start_download`, its session and the task it
    spawned; `Download.work` -- the steps of the task;
  * `getDownloadProgress`, `takeDownloadData` -- the steps of the two calls;
  * `Downloads.step` -- any interleaving of them.
-/
import MavlinkServer.Lib.Run
import MavlinkServer.Ftp.Burst

namespace MavlinkServer.Ftp

open Lib

/-! ## 1. Sessions -/

/-- The text of a download's uuid. -/
abbrev DownloadId : Type := List UInt8

inductive DownloadStatus where
  | downloading
  | complete
  | error
  deriving DecidableEq, Repr

/-- `error` keeps the failure itself, for its text. -/
structure DownloadSession where
  filename : List UInt8
  bytesDownloaded : UInt64
  totalBytes : UInt64
  status : DownloadStatus
  error : Option FtpFailure
  data : Option (List UInt8)

/-- `path.rsplit('/').next().unwrap_or(path)`. -/
def fileNameOf (path : List UInt8) : List UInt8 := (splitOn 47 path).getLastD path

/-- Where `start_download` stands, and then the task it spawns. -/
inductive TaskPhase where
  /-- waiting for the map -/
  | inserting
  | reading
  /-- the read has returned, nothing is stored -/
  | returned (result : Except FtpFailure (List UInt8))
  /-- the data or the error is stored, the status is not -/
  | stored (result : Except FtpFailure (List UInt8))
  | finished (result : Except FtpFailure (List UInt8))

/-- One call of `start_download`. -/
structure Download where
  id : DownloadId
  target : Target
  path : List UInt8
  session : DownloadSession
  task : TaskPhase

/-- `start_download` up to its wait for the map. -/
def Download.new (id : DownloadId) (target : Target) (path : List UInt8) (fileSize : UInt64) :
    Download where
  id := id
  target := target
  path := path
  session :=
    { filename := fileNameOf path
      bytesDownloaded := 0
      totalBytes := fileSize
      status := .downloading
      error := none
      data := none }
  task := .inserting

/-- What moves a task on: a store of the read to `bytes_downloaded`, the end of the read, whose
    world is `w`, and the locks of the session. -/
inductive TaskInput where
  | progress (value : UInt64)
  | read (w : World)
  | store

/-- The spawned task, one step. -/
def Download.work (d : Download) : TaskInput → Option Download
  | .progress value =>
      match d.task with
      | .reading => some { d with session := { d.session with bytesDownloaded := value } }
      | _ => none
  | .read w =>
      match d.task, (readFileWithProgress d.target d.path w).1 with
      | .reading, .ok data => some { d with task := .returned (.ok data) }
      | .reading, .err error => some { d with task := .returned (.error error) }
      | _, _ => none
  | .store =>
      match d.task with
      | .returned (.ok data) =>
          some { d with
            session := { d.session with data := some data }, task := .stored (.ok data) }
      | .returned (.error error) =>
          some { d with
            session := { d.session with error := some error }, task := .stored (.error error) }
      | .stored (.ok data) =>
          some { d with
            session := { d.session with status := .complete }, task := .finished (.ok data) }
      | .stored (.error error) =>
          some { d with
            session := { d.session with status := .error }, task := .finished (.error error) }
      | _ => none

/-! ## 2. Calls -/

structure DownloadProgress where
  downloadId : DownloadId
  filename : List UInt8
  bytesDownloaded : UInt64
  totalBytes : UInt64
  status : DownloadStatus
  error : Option FtpFailure

/-- Where a call of `get_download_progress` stands. -/
inductive ProgressPhase where
  | asked
  | found (k : Nat)
  | status (k : Nat) (status : DownloadStatus)
  | returned (result : Option DownloadProgress)

/-- Where a call of `take_download_data` stands. -/
inductive TakePhase where
  | asked
  | found (k : Nat)
  | complete (k : Nat)
  /-- the guard is dropped, the entry is still in the map -/
  | taken (filename data : List UInt8)
  | returned (result : Option (List UInt8 × List UInt8))

inductive CallPhase where
  | progress (phase : ProgressPhase)
  | take (phase : TakePhase)
  | cancelled

structure DownloadCall where
  id : DownloadId
  phase : CallPhase

/-- The call holds a read guard of the map. -/
def DownloadCall.holdsMap (c : DownloadCall) : Bool :=
  match c.phase with
  | .progress (.found _) => true
  | .progress (.status _ _) => true
  | .take (.found _) => true
  | .take (.complete _) => true
  | _ => false

/-- The bytes a call of `take_download_data` has in hand, returned or not. -/
def TakePhase.handed : TakePhase → Option (List UInt8)
  | .taken _ data => some data
  | .returned (some (_, data)) => some data
  | _ => none

def DownloadCall.handed (c : DownloadCall) : Option (List UInt8) :=
  match c.phase with
  | .take phase => phase.handed
  | _ => none

/-- The call has found no session so far. -/
def DownloadCall.unserved (c : DownloadCall) : Bool :=
  match c.phase with
  | .progress .asked => true
  | .progress (.returned none) => true
  | .take .asked => true
  | .take (.returned none) => true
  | .cancelled => true
  | _ => false

/-- The call has returned `Some`. -/
def DownloadCall.gave (c : DownloadCall) : Bool :=
  match c.phase with
  | .progress (.returned (some _)) => true
  | .take (.returned (some _)) => true
  | _ => false

/-- The call has read a status Complete. -/
def DownloadCall.sawComplete (c : DownloadCall) : Bool :=
  match c.phase with
  | .progress (.status _ status) => status = .complete
  | .progress (.returned (some p)) => p.status = .complete
  | .take (.complete _) => true
  | .take phase => phase.handed.isSome
  | _ => false

/-- `active` is `ACTIVE_DOWNLOADS`; a session is named by its place in `sessions`. -/
structure Downloads where
  sessions : List Download
  active : DownloadId → Option Nat
  calls : List DownloadCall

namespace Downloads

def new : Downloads := ⟨[], fun _ => none, []⟩

/-- Nobody holds a read guard of the map. -/
def mapFree (s : Downloads) : Bool := s.calls.all fun c => !c.holdsMap

def getDownloadProgress (s : Downloads) (id : DownloadId) : ProgressPhase → Option ProgressPhase
  | .asked =>
      match s.active id with
      | none => some (.returned none)
      | some k => some (.found k)
  | .found k => (s.sessions[k]?).map fun d => .status k d.session.status
  | .status k status =>
      (s.sessions[k]?).map fun d => .returned (some
        { downloadId := id
          filename := d.session.filename
          bytesDownloaded := d.session.bytesDownloaded
          totalBytes := d.session.totalBytes
          status
          error := d.session.error })
  | .returned _ => none

/-- The call's next phase, and the state it leaves. -/
def takeDownloadData (s : Downloads) (id : DownloadId) : TakePhase → Option (TakePhase × Downloads)
  | .asked =>
      match s.active id with
      | none => some (.returned none, s)
      | some k => some (.found k, s)
  | .found k =>
      (s.sessions[k]?).map fun d =>
        if d.session.status ≠ .complete then (.returned none, s) else (.complete k, s)
  | .complete k =>
      (s.sessions[k]?).map fun d =>
        match d.session.data with
        | none => (.returned none, s)
        | some data =>
            let d' := { d with session := { d.session with data := none } }
            (.taken d.session.filename data, { s with sessions := s.sessions.set k d' })
  | .taken filename data =>
      if s.mapFree then
        some (.returned (some (filename, data)),
          { s with active := Function.update s.active id none })
      else none
  | .returned _ => none

end Downloads

inductive DownloadAction where
  | start (id : DownloadId) (target : Target) (path : List UInt8) (fileSize : UInt64)
  | insert (k : Nat)
  | work (k : Nat) (input : TaskInput)
  | askProgress (id : DownloadId)
  | askData (id : DownloadId)
  | advance (i : Nat)
  | cancel (i : Nat)

namespace Downloads

/-- The `insert` of `start_download`, and the task is spawned. -/
def insert (s : Downloads) (k : Nat) (d : Download) : Option Downloads :=
  match d.task with
  | .inserting =>
      if s.mapFree then
        some { s with
          sessions := s.sessions.set k { d with task := .reading }
          active := Function.update s.active d.id (some k) }
      else none
  | _ => none

/-- A call goes on. -/
def advance (s : Downloads) (i : Nat) (c : DownloadCall) : Option Downloads :=
  match c.phase with
  | .progress phase =>
      (s.getDownloadProgress c.id phase).map fun phase' =>
        { s with calls := s.calls.set i ⟨c.id, .progress phase'⟩ }
  | .take phase =>
      (s.takeDownloadData c.id phase).map fun next =>
        { next.2 with calls := s.calls.set i ⟨c.id, .take next.1⟩ }
  | .cancelled => none

def step (s : Downloads) : DownloadAction → Option Downloads
  | .start id target path fileSize =>
      some { s with sessions := s.sessions ++ [.new id target path fileSize] }
  | .insert k => (s.sessions[k]?).bind (s.insert k)
  | .work k input =>
      (s.sessions[k]?).bind fun d => (d.work input).map fun d' =>
        { s with sessions := s.sessions.set k d' }
  | .askProgress id => some { s with calls := s.calls ++ [⟨id, .progress .asked⟩] }
  | .askData id => some { s with calls := s.calls ++ [⟨id, .take .asked⟩] }
  | .advance i => (s.calls[i]?).bind (s.advance i)
  | .cancel i => (s.calls[i]?).map fun c => { s with calls := s.calls.set i ⟨c.id, .cancelled⟩ }

/-- `Uuid::new_v4` gives an id that no download has had before. -/
def NewIds (s : Downloads) : DownloadAction → Prop
  | .start id _ _ _ => ∀ d ∈ s.sessions, d.id ≠ id
  | _ => True

instance (s : Downloads) (a : DownloadAction) : Decidable (s.NewIds a) := by
  cases a with
  | start id target path fileSize => unfold NewIds; infer_instance
  | insert k => exact isTrue trivial
  | work k input => exact isTrue trivial
  | askProgress id => exact isTrue trivial
  | askData id => exact isTrue trivial
  | advance i => exact isTrue trivial
  | cancel i => exact isTrue trivial

end Downloads

end MavlinkServer.Ftp
