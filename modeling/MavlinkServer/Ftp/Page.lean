/-
  File:      MavlinkServer/Ftp/Page.lean
  Subject:   THE FTP TAB OF THE WEB PAGE (`src/webpage/src/tabs/mavftp.rs`) in
             front of the server.

  * `joinPath`, `parentPath`, `breadcrumbs` -- the path as the page edits it;
  * `MavFtpTab` -- the state of the tab; what a click and a frame ask the server
    for (`startDownload`, `renderDownloadBar`), and what an answer changes
    (`startAnswered`, `progressAnswered`, `dataAnswered`);
  * `Browser.step` -- the tab, its requests on their way and the server, beside
    any other clients, in any order. A request may get lost at any point.
-/
import Mathlib.Data.List.DropRight
import MavlinkServer.Ftp.Once
import MavlinkServer.Ftp.Routes

namespace MavlinkServer.Ftp

open Lib

/-! ## 1. Paths -/

/-- `path.trim_end_matches('/')`. -/
def trimEndSlashes (path : List UInt8) : List UInt8 := path.rdropWhile (· == 47)

def joinPath (base name : List UInt8) : List UInt8 :=
  let base := trimEndSlashes base
  if base.isEmpty then 47 :: name else base ++ 47 :: name

/-- `text.rfind(sep)`. -/
def rfind (sep : UInt8) : List UInt8 → Option Nat
  | [] => none
  | b :: rest =>
      match rfind sep rest with
      | some pos => some (pos + 1)
      | none => if b = sep then some 0 else none

def parentPath (path : List UInt8) : List UInt8 :=
  let trimmed := trimEndSlashes path
  match rfind 47 trimmed with
  | some pos =>
      let parent := trimmed.take pos
      if parent.isEmpty then [47] else parent
  | none => [47]

/-- The parts that are left, each with the path to it. -/
def breadcrumbsFrom (accumulated : List UInt8) : List (List UInt8) → List (List UInt8 × List UInt8)
  | [] => []
  | part :: parts =>
      let accumulated := accumulated ++ 47 :: part
      (part, accumulated) :: breadcrumbsFrom accumulated parts

/-- The buttons of the path: each part with the path it leads to. -/
def breadcrumbs (path : List UInt8) : List (List UInt8 × List UInt8) :=
  breadcrumbsFrom [] ((splitOn 47 path).filter fun part => !part.isEmpty)

/-! ## 2. The tab -/

/-- The download the tab shows. The server's JSON is read as one. -/
abbrev ActiveDownload : Type := ProgressFields

/-- A click on the arrow of a row. -/
structure Click where
  target : Target
  directory : List UInt8
  name : List UInt8
  deriving DecidableEq, Repr

/-- `full_path`. -/
def Click.path (click : Click) : List UInt8 := joinPath click.directory click.name

inductive Fetch where
  | start (click : Click) (fileSize : UInt64)
  | progress (downloadId : DownloadId)
  /-- with the snapshot of the download whose data are fetched -/
  | data (download : ActiveDownload)
  deriving DecidableEq, Repr

/-- What comes back for a request: a response, or the text of an error. -/
inductive Answer where
  | response (response : Response)
  | failed (error : String)
  deriving DecidableEq, Repr

/-- The times are milliseconds. -/
structure MavFtpTab where
  selectedTarget : Option Target
  currentPath : List UInt8
  activeDownload : Option ActiveDownload
  downloadPollInFlight : Bool
  lastDownloadPollAt : Option Nat
  downloadDataInFlight : Bool
  deriving DecidableEq, Repr

namespace MavFtpTab

def new : MavFtpTab where
  selectedTarget := none
  currentPath := [47]
  activeDownload := none
  downloadPollInFlight := false
  lastDownloadPollAt := none
  downloadDataInFlight := false

def navigateTo (tab : MavFtpTab) (path : List UInt8) : MavFtpTab :=
  { tab with currentPath := path }

/-- A link of the listing: `..` and `.` are not names. -/
def navigateInto (tab : MavFtpTab) (dirName : List UInt8) : MavFtpTab :=
  if dirName = [46, 46] then { tab with currentPath := parentPath tab.currentPath }
  else if dirName = [46] then tab
  else { tab with currentPath := joinPath tab.currentPath dirName }

/-- Another target, or the first one of a new list. -/
def selectTarget (tab : MavFtpTab) (target : Target) : MavFtpTab :=
  { tab with selectedTarget := some target, currentPath := [47] }

/-- The request of a click, `none` where the click is refused. -/
def startDownload (tab : MavFtpTab) (name : List UInt8) (fileSize : UInt64) :
    Option (Click × Fetch) :=
  match tab.selectedTarget, tab.activeDownload with
  | some target, none =>
      let click : Click := ⟨target, tab.currentPath, name⟩
      some (click, .start click fileSize)
  | _, _ => none

/-- `DOWNLOAD_POLL_INTERVAL`. -/
def downloadPollInterval : Nat := 500

def pollDownloadProgress (tab : MavFtpTab) (now : Nat) : MavFtpTab × Option Fetch :=
  match tab.activeDownload with
  | none => (tab, none)
  | some download =>
      if download.status ≠ .downloading then (tab, none)
      else if tab.downloadPollInFlight then (tab, none)
      else if tab.lastDownloadPollAt.any fun last => now - last < downloadPollInterval then
        (tab, none)
      else
        ({ tab with downloadPollInFlight := true, lastDownloadPollAt := some now },
          some (.progress download.downloadId))

def fetchCompletedDownload (tab : MavFtpTab) : MavFtpTab × Option Fetch :=
  match tab.activeDownload with
  | none => (tab, none)
  | some download =>
      if download.status ≠ .complete then (tab, none)
      else if tab.downloadDataInFlight then (tab, none)
      else ({ tab with downloadDataInFlight := true }, some (.data download))

/-- What a frame asks for. -/
def renderDownloadBar (tab : MavFtpTab) (now : Nat) : MavFtpTab × Option Fetch :=
  match tab.activeDownload.map ProgressFields.status with
  | some .downloading => tab.pollDownloadProgress now
  | some .complete => tab.fetchCompletedDownload
  | _ => (tab, none)

/-- The button of a failed download. -/
def dismiss (tab : MavFtpTab) : Option MavFtpTab :=
  if tab.activeDownload.map ProgressFields.status = some .error then
    some { tab with activeDownload := none }
  else none

/-- `response_error_text`, of a body that is one of the server's. -/
def responseErrorText (response : Response) : String :=
  match response.body with
  | .error ⟨error, some code⟩ => error ++ " (code " ++ toString code.toNat ++ ")"
  | .error ⟨error, none⟩ => error
  | .text text => text
  | _ => "Request failed"

def failActiveDownload (tab : MavFtpTab) (error : String) : MavFtpTab :=
  { tab with activeDownload := tab.activeDownload.map fun download =>
      { download with status := .error, error := some error } }

def clearActiveDownloadIfMatches (tab : MavFtpTab) (downloadId : DownloadId) : MavFtpTab :=
  if tab.activeDownload.any fun download => download.downloadId = downloadId then
    { tab with activeDownload := none }
  else tab

/-- The answer to a `download/start`; a failure is only shown. -/
def startAnswered (tab : MavFtpTab) (click : Click) (fileSize : UInt64) : Answer → MavFtpTab
  | .response ⟨.ok, .started downloadId⟩ =>
      { tab with
        downloadPollInFlight := false
        lastDownloadPollAt := none
        downloadDataInFlight := false
        activeDownload := some
          { downloadId
            filename := click.name
            bytesDownloaded := 0
            totalBytes := fileSize
            status := .downloading
            error := none } }
  | _ => tab

def progressAnswered (tab : MavFtpTab) (answer : Answer) : MavFtpTab :=
  let tab := { tab with downloadPollInFlight := false }
  match answer with
  | .response ⟨.ok, .progress progress⟩ =>
      { tab with activeDownload := tab.activeDownload.map fun _ => progress }
  | .response ⟨.ok, _⟩ => tab.failActiveDownload "Parse error"
  | .response response =>
      tab.failActiveDownload ("Progress fetch failed: " ++ responseErrorText response)
  | .failed error => tab.failActiveDownload ("Progress fetch error: " ++ error)

/-- The answer to a `data`, and the bytes that are handed to the browser under the name of the
    snapshot. -/
def dataAnswered (tab : MavFtpTab) (download : ActiveDownload) (answer : Answer) :
    MavFtpTab × Option (List UInt8) :=
  let tab := { tab with downloadDataInFlight := false }
  let cleared := tab.clearActiveDownloadIfMatches download.downloadId
  match answer with
  | .response ⟨.ok, .attachment _ data⟩ => (cleared, some data)
  | _ => (cleared, none)

def answered (tab : MavFtpTab) (fetch : Fetch) (answer : Answer) : MavFtpTab × Option (List UInt8) :=
  match fetch with
  | .start click fileSize => (tab.startAnswered click fileSize answer, none)
  | .progress _ => (tab.progressAnswered answer, none)
  | .data download => tab.dataAnswered download answer

end MavFtpTab

/-! ## 3. The tab and the server -/

def DownloadCall.returned (c : DownloadCall) : Bool :=
  match c.phase with
  | .progress (.returned _) => true
  | .take (.returned _) => true
  | _ => false

/-- A request of the tab. `handler` is where the server has put it: its session for a start, its
    call for the others. -/
structure Sent where
  fetch : Fetch
  handler : Option Nat

/-- A file given to the browser; `call` is the call that has returned its bytes. -/
structure Saved where
  downloadId : DownloadId
  filename : List UInt8
  data : List UInt8
  call : Nat

structure Browser where
  server : Downloads
  tab : MavFtpTab
  sent : List Sent
  clicks : List Click
  saved : List Saved

inductive BrowserAction where
  | selectTarget (target : Target)
  | navigateTo (path : List UInt8)
  | navigateInto (dirName : List UInt8)
  | download (name : List UInt8) (fileSize : UInt64)
  | render (now : Nat)
  | dismiss
  /-- request `j` gets to the server; a start is given `id` -/
  | receive (j : Nat) (id : DownloadId)
  /-- the response to request `j` gets to the page -/
  | answer (j : Nat)
  | lose (j : Nat) (error : String)
  /-- the server's tasks and handlers, and other clients -/
  | server (a : DownloadAction)

namespace Browser

def new : Browser := ⟨.new, .new, [], [], []⟩

/-- The handler of a request is called. -/
def receive (s : Browser) (j : Nat) (fetch : Fetch) (id : DownloadId) : Option Browser :=
  match fetch with
  | .start click fileSize =>
      (s.server.step (.start id click.target click.path fileSize)).map fun server =>
        { s with server, sent := s.sent.set j ⟨fetch, some s.server.sessions.length⟩ }
  | .progress downloadId =>
      (s.server.step (.askProgress downloadId)).map fun server =>
        { s with server, sent := s.sent.set j ⟨fetch, some s.server.calls.length⟩ }
  | .data download =>
      (s.server.step (.askData download.downloadId)).map fun server =>
        { s with server, sent := s.sent.set j ⟨fetch, some s.server.calls.length⟩ }

/-- What the handler at this place has come to, once it has. -/
def response (s : Browser) (fetch : Fetch) (handler : Nat) : Option Response :=
  match fetch with
  | .start _ _ =>
      (s.server.sessions[handler]?).bind fun d =>
        match d.task with
        | .inserting => none
        | _ => some (downloadStarted d.id)
  | .progress _ =>
      (s.server.calls[handler]?).bind fun c =>
        match c.phase with
        | .progress (.returned result) => some (downloadProgress result)
        | _ => none
  | .data _ =>
      (s.server.calls[handler]?).bind fun c =>
        match c.phase with
        | .take (.returned result) => some (downloadData result)
        | _ => none

/-- An answer reaches the page: its request is over. -/
def deliver (s : Browser) (j : Nat) (sent : Sent) (answer : Answer) : Browser :=
  let next := s.tab.answered sent.fetch answer
  { s with
    tab := next.1
    sent := s.sent.eraseIdx j
    saved :=
      match sent, next.2 with
      | ⟨.data download, some call⟩, some data =>
          s.saved ++ [⟨download.downloadId, download.filename, data, call⟩]
      | _, _ => s.saved }

def step (s : Browser) : BrowserAction → Option Browser
  | .selectTarget target => some { s with tab := s.tab.selectTarget target }
  | .navigateTo path => some { s with tab := s.tab.navigateTo path }
  | .navigateInto dirName => some { s with tab := s.tab.navigateInto dirName }
  | .download name fileSize =>
      (s.tab.startDownload name fileSize).map fun (click, fetch) =>
        { s with sent := s.sent ++ [⟨fetch, none⟩], clicks := s.clicks ++ [click] }
  | .render now =>
      let next := s.tab.renderDownloadBar now
      some { s with
        tab := next.1
        sent := s.sent ++ next.2.toList.map fun fetch => ⟨fetch, none⟩ }
  | .dismiss => s.tab.dismiss.map fun tab => { s with tab }
  | .receive j id =>
      (s.sent[j]?).bind fun sent =>
        match sent.handler with
        | none => s.receive j sent.fetch id
        | some _ => none
  | .answer j =>
      (s.sent[j]?).bind fun sent => sent.handler.bind fun handler =>
        (s.response sent.fetch handler).map fun response => s.deliver j sent (.response response)
  | .lose j error => (s.sent[j]?).map fun sent => s.deliver j sent (.failed error)
  | .server a => (s.server.step a).map fun server => { s with server }

/-- An id is new (`Uuid::new_v4`), and a call that has returned is not cancelled any more. -/
def Admitted (s : Browser) : BrowserAction → Prop
  | .receive _ id => ∀ d ∈ s.server.sessions, d.id ≠ id
  | .server (.start id _ _ _) => ∀ d ∈ s.server.sessions, d.id ≠ id
  | .server (.cancel i) => ∀ c ∈ s.server.calls[i]?, c.returned = false
  | _ => True

instance (s : Browser) (a : BrowserAction) : Decidable (s.Admitted a) := by
  unfold Admitted
  split <;> infer_instance

end Browser

end MavlinkServer.Ftp
