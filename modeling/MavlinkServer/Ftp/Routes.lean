/-
  File:      MavlinkServer/Ftp/Routes.lean
  Subject:   THE HTTP ROUTES OF THE FTP CLIENT
             (`src/lib/web/routes/v1/mavftp.rs`), and why one of them fails.

  * `FtpFailure.text`, `FtpFailure.isClientError` -- an error as `anyhow` shows it
    and downcasts it;
  * `ftpErrorToResponse` -- its status and its body;
  * `Route`, `Route.answer` -- the nine handlers that run an operation;
    `downloadStarted`, `downloadProgress`, `downloadData` -- the other three;
  * `Response.Honest` -- what each status and code says of the operation's past;
  * `AnswerHonest` -- and a refusal of the vehicle is the answer;
  * `Route.answer_caused` -- so for every route and whatever comes in.
-/
import MavlinkServer.Ftp.Causes
import MavlinkServer.Ftp.Handout

namespace MavlinkServer.Ftp

open Lib Await

/-! ## 1. Errors as text and by downcast -/

/-- `self.err_code as u8`. -/
def FtpError.toU8 : FtpError → UInt8
  | .none => 0
  | .fail => 1
  | .failErrno => 2
  | .invalidDataSize => 3
  | .invalidSession => 4
  | .noSessionsAvailable => 5
  | .eof => 6
  | .unknownCommand => 7
  | .fileExists => 8
  | .fileProtected => 9
  | .fileNotFound => 10

/-- A code is read from its own byte only. -/
theorem FtpError.toU8_of_fromRepr {v : UInt8} {e : FtpError} (h : fromRepr v = some e) :
    e.toU8 = v := by
  unfold fromRepr at h
  split at h
  all_goals cases h
  all_goals exact UInt8.toNat_inj.mp (Eq.symm (by assumption))

/-- `Display` of `FtpError`. -/
def FtpError.text : FtpError → String
  | .none => "No error"
  | .fail => "Unknown failure"
  | .failErrno => "System error"
  | .invalidDataSize => "Invalid data size"
  | .invalidSession => "Invalid session"
  | .noSessionsAvailable => "No sessions available"
  | .eof => "End of file"
  | .unknownCommand => "Unknown command"
  | .fileExists => "File already exists"
  | .fileProtected => "File is write protected"
  | .fileNotFound => "File not found"

def FtpNakError.text (nak : FtpNakError) : String :=
  "FTP NAK: " ++ nak.errCode.text ++
    match nak.errno with
    | some errno => " (errno=" ++ toString errno.toNat ++ ")"
    | none => ""

/-- `error.to_string()`: of a chain of contexts the outermost. -/
def FtpFailure.text : FtpFailure → String
  | .timedOut => "FTP request timed out"
  | .nak error => error.text
  | .unknownOpcode v => "Unknown FTP opcode: " ++ toString v.toNat
  | .unexpectedEof => "failed to fill whole buffer"
  | .channelClosed => "Hub broadcast channel closed"
  | .hubUnavailable => "channel closed"
  | .shortChunk declared provided =>
      "FTP response declared " ++ toString declared ++ " bytes but only provided " ++
        toString provided
  | .crcTooShort => "CRC32 response too short"
  | .tooLarge fileSize max =>
      "File size " ++ toString fileSize ++ " bytes exceeds limit of " ++ toString max ++ " bytes"
  | .slicePanic => "byte index is not a char boundary"
  | .context text _ => text

/-- `error.downcast_ref::<FtpClientError>().is_some()`. -/
def FtpFailure.isClientError : FtpFailure → Bool
  | .timedOut => true
  | .context _ cause => cause.isClientError
  | _ => false

/-! ## 2. Responses -/

inductive StatusCode where
  | ok
  | forbidden
  | notFound
  | conflict
  | payloadTooLarge
  | internalServerError
  | serviceUnavailable
  | gatewayTimeout
  deriving DecidableEq, Repr

structure ErrorResponse where
  error : String
  code : Option UInt8
  deriving DecidableEq, Repr

/-- `DirEntry`; its `type` is the kind of the listing. -/
structure DirEntry where
  entryType : ListingEntryKind
  name : List UInt8
  size : Option UInt64
  deriving DecidableEq, Repr

/-- `From<ListingEntry>`. -/
def DirEntry.ofListing (entry : ListingEntry) : DirEntry := ⟨entry.kind, entry.name, entry.size⟩

/-- The fields of a `DownloadProgress` in its JSON, its error as a text. -/
structure ProgressFields where
  downloadId : DownloadId
  filename : List UInt8
  bytesDownloaded : UInt64
  totalBytes : UInt64
  status : DownloadStatus
  error : Option String
  deriving DecidableEq, Repr

def DownloadProgress.fields (p : DownloadProgress) : ProgressFields where
  downloadId := p.downloadId
  filename := p.filename
  bytesDownloaded := p.bytesDownloaded
  totalBytes := p.totalBytes
  status := p.status
  error := p.error.map FtpFailure.text

inductive Body where
  | empty
  | error (body : ErrorResponse)
  | entries (entries : List DirEntry)
  | crc32 (crc32 : UInt32)
  | attachment (filename data : List UInt8)
  | started (downloadId : DownloadId)
  | progress (progress : ProgressFields)
  /-- a plain text of the web framework -/
  | text (text : String)
  deriving DecidableEq, Repr

structure Response where
  status : StatusCode
  body : Body
  deriving DecidableEq, Repr

def nakStatus : FtpError → StatusCode
  | .fileNotFound => .notFound
  | .fileExists => .conflict
  | .fileProtected => .forbidden
  | .noSessionsAvailable => .serviceUnavailable
  | _ => .internalServerError

def ftpErrorToResponse (error : FtpFailure) : Response :=
  match error.nak? with
  | some nak => ⟨nakStatus nak.errCode, .error ⟨nak.text, some nak.errCode.toU8⟩⟩
  | none =>
      if error.isClientError then ⟨.gatewayTimeout, .error ⟨error.text, none⟩⟩
      else ⟨.internalServerError, .error ⟨error.text, none⟩⟩

/-! ## 3. The handlers -/

def maxUploadBytes : Nat := 10 * 1024 * 1024

def maxSyncDownloadBytes : Nat := 1024 * 1024

/-- What a handler makes of its operation. A panic leaves the request without a response. -/
def respond {α : Type} (x : Client α) (success : α → Response) : Client (Option Response) := do
  match ← attempt x with
  | .ok a => pure (some (success a))
  | .error .slicePanic => pure none
  | .error error => pure (some (ftpErrorToResponse error))

/-- A byte of a header value (`HeaderValue::try_from`). -/
def headerByte (b : UInt8) : Bool := (32 ≤ b && b != 127) || b == 9

/-- The file with its name in a header. -/
def attachment (filename data : List UInt8) : Response :=
  if filename.all headerByte then ⟨.ok, .attachment filename data⟩
  else ⟨.internalServerError, .text "failed to parse header value"⟩

/-- `download_start` behind its call of `start_download`. -/
def downloadStarted (downloadId : DownloadId) : Response := ⟨.ok, .started downloadId⟩

/-- `download_progress` behind its call of `get_download_progress`. -/
def downloadProgress : Option DownloadProgress → Response
  | some progress => ⟨.ok, .progress progress.fields⟩
  | none => ⟨.notFound, .error ⟨"Download not found", none⟩⟩

/-- `download_data` behind its call of `take_download_data`. -/
def downloadData : Option (List UInt8 × List UInt8) → Response
  | some (filename, data) => attachment filename data
  | none => ⟨.notFound, .error ⟨"Download not ready or not found", none⟩⟩

def done (_ : Unit) : Response := ⟨.ok, .empty⟩

/-- The routes that run an operation, with their queries. -/
inductive Route where
  | listDirectory (path : List UInt8)
  | downloadFile (path : List UInt8)
  | uploadFile (path body : List UInt8)
  | removeFile (path : List UInt8)
  | mkdir (path : List UInt8)
  | rmdir (path : List UInt8)
  | rename (source dest : List UInt8)
  | truncate (path : List UInt8) (offset : UInt32)
  | crc32 (path : List UInt8)

/-- The handler. `rsplit('/').next()` is never empty-handed, so the name `"download"` is not used;
    a body over its limit does not get to `upload_file`, and `limitText` is what the framework
    answers. -/
def Route.answer (t : Target) (limitText : String) : Route → Client (Option Response)
  | listDirectory path =>
      respond (listDirectoryEntries t path) fun entries =>
        ⟨.ok, .entries (entries.map DirEntry.ofListing)⟩
  | downloadFile path =>
      respond (readFile t path (some maxSyncDownloadBytes)) (attachment (fileNameOf path))
  | uploadFile path body =>
      if body.length > maxUploadBytes then
        pure (some ⟨.payloadTooLarge, .text limitText⟩)
      else respond (writeFile t path body) done
  | removeFile path => respond (Ftp.removeFile t path) done
  | mkdir path => respond (createDirectory t path) done
  | rmdir path => respond (removeDirectory t path) done
  | rename source dest => respond (Ftp.rename t source dest) done
  | truncate path offset => respond (truncateFile t path offset) done
  | crc32 path => respond (calcCrc32 t path) fun crc32 => ⟨.ok, .crc32 crc32⟩

/-! ## 4. What a response says of the vehicle -/

/-- A reply of the target that the operation has acted on was a Nak with this error. -/
def Refused (t : Target) (past : Past) (e : FtpError) : Prop :=
  ∃ resp, past.Acted t resp ∧ ∃ nak, checkNak resp = .error nak ∧ nak.errCode = e

/-- The first data byte of a Nak where it is a known code, else that of `Fail`. -/
def reportedCode (resp : FtpPayload) : UInt8 :=
  match resp.data with
  | [] => 1
  | code :: _ => if (FtpError.fromRepr code).isSome then code else 1

/-- The response to a Nak. -/
def nakResponse (nak : FtpNakError) : Response :=
  ⟨nakStatus nak.errCode, .error ⟨nak.text, some nak.errCode.toU8⟩⟩

/-- **The status and the code are those of something that the operation has taken.** -/
structure Response.Honest (t : Target) (past : Past) (r : Response) : Prop where
  notFound : r.status = .notFound → Refused t past .fileNotFound
  conflict : r.status = .conflict → Refused t past .fileExists
  forbidden : r.status = .forbidden → Refused t past .fileProtected
  serviceUnavailable : r.status = .serviceUnavailable → Refused t past .noSessionsAvailable
  gatewayTimeout : r.status = .gatewayTimeout → .elapsed ∈ past.inbox
  code : ∀ body code, r.body = .error body → body.code = some code →
    ∃ resp, past.Acted t resp ∧ resp.opcode = .nak ∧ code = reportedCode resp
  error : ∀ body, r.body = .error body →
    ∃ failure, Caused t past failure ∧ r = ftpErrorToResponse failure

/-- **What a handler answers.** Without a response, a listing has made it panic; and if the target
    has refused one of its requests, or ended its burst, that is the answer. -/
structure AnswerHonest (t : Target) (past : Past) (answer : Option Response) : Prop where
  response : ∀ r, answer = some r → r.Honest t past
  panic : answer = none → ∃ req resp, past.Replied t req resp ∧ req.opcode = .listDirectory ∧
    parseListingEntries resp.data = none
  refusal : ∀ event ∈ past.events, ∀ nak, event.refusal? = some nak →
    answer = some (nakResponse nak)

section Responses

variable {t : Target} {past : Past}

theorem checkNak_code {resp : FtpPayload} {nak : FtpNakError} (h : checkNak resp = .error nak) :
    nak.errCode.toU8 = reportedCode resp := by
  unfold checkNak at h
  rw [if_pos (checkNak_error h)] at h
  cases h
  cases hd : resp.data with
  | nil => simp only [reportedCode, hd, FtpError.toU8]
  | cons code rest =>
      cases hcode : FtpError.fromRepr code with
      | none => simp [reportedCode, hd, hcode, FtpError.toU8]
      | some e => simp [reportedCode, hd, hcode, FtpError.toU8_of_fromRepr hcode]

theorem checkNak_of_nak? {resp : FtpPayload} {nak : FtpNakError} (h : resp.nak? = some nak) :
    checkNak resp = .error nak := by
  unfold FtpPayload.nak? at h
  split at h
  · rename_i error hcheck
    cases h
    exact hcheck
  · cases h

/-- A Nak that is found under its contexts is one that the operation has acted on. -/
theorem caused_nak {nak : FtpNakError} {failure : FtpFailure} (h : Caused t past failure)
    (hnak : failure.nak? = some nak) : ∃ resp, past.Acted t resp ∧ checkNak resp = .error nak := by
  induction failure with
  | nak error =>
      cases hnak
      obtain ⟨resp, hacted, hresp⟩ := h
      exact ⟨resp, hacted, checkNak_of_nak? hresp⟩
  | context text cause ih => exact ih h hnak
  | _ => cases hnak

theorem caused_timedOut {failure : FtpFailure} (h : Caused t past failure)
    (hclient : failure.isClientError = true) : .elapsed ∈ past.inbox := by
  induction failure with
  | timedOut => exact h
  | context text cause ih => exact ih h hclient
  | _ => cases hclient

/-- A status of its own stands for one error. -/
theorem nakStatus_iff (e : FtpError) :
    (nakStatus e = .notFound ↔ e = .fileNotFound) ∧ (nakStatus e = .conflict ↔ e = .fileExists) ∧
      (nakStatus e = .forbidden ↔ e = .fileProtected) ∧
      (nakStatus e = .serviceUnavailable ↔ e = .noSessionsAvailable) ∧
      nakStatus e ≠ .gatewayTimeout := by
  cases e <;> decide

/-- An error with a Nak in it is answered like the Nak. -/
theorem ftpErrorToResponse_nak {failure : FtpFailure} {nak : FtpNakError}
    (h : failure.nak? = some nak) : ftpErrorToResponse failure = nakResponse nak := by
  simp only [ftpErrorToResponse, h, nakResponse]

theorem ftpErrorToResponse_honest {failure : FtpFailure} (h : Caused t past failure) :
    (ftpErrorToResponse failure).Honest t past := by
  have error : ∀ body, (ftpErrorToResponse failure).body = .error body →
      ∃ failure', Caused t past failure' ∧
        ftpErrorToResponse failure = ftpErrorToResponse failure' :=
    fun _ _ => ⟨failure, h, rfl⟩
  cases hnak : failure.nak? with
  | some nak =>
      obtain ⟨resp, hresp, hcheck⟩ := caused_nak h hnak
      obtain ⟨hnotFound, hconflict, hforbidden, hunavailable, htimeout⟩ := nakStatus_iff nak.errCode
      have refused : ∀ e, nak.errCode = e → Refused t past e :=
        fun e he => ⟨resp, hresp, nak, hcheck, he⟩
      rw [ftpErrorToResponse_nak hnak] at error ⊢
      refine ⟨fun hs => refused _ (hnotFound.mp hs), fun hs => refused _ (hconflict.mp hs),
        fun hs => refused _ (hforbidden.mp hs), fun hs => refused _ (hunavailable.mp hs),
        fun hs => absurd hs htimeout, fun body code hbody hcode => ?_, error⟩
      cases hbody
      cases hcode
      exact ⟨resp, hresp, checkNak_error hcheck, checkNak_code hcheck⟩
  | none =>
      by_cases hclient : failure.isClientError = true
      · have hresponse : ftpErrorToResponse failure =
            ⟨.gatewayTimeout, .error ⟨failure.text, none⟩⟩ := by
          simp only [ftpErrorToResponse, hnak, hclient, if_true]
        rw [hresponse] at error ⊢
        refine ⟨nofun, nofun, nofun, nofun, fun _ => caused_timedOut h hclient,
          fun body code hbody hcode => ?_, error⟩
        cases hbody
        cases hcode
      · have hresponse : ftpErrorToResponse failure =
            ⟨.internalServerError, .error ⟨failure.text, none⟩⟩ := by
          simp only [ftpErrorToResponse, hnak, hclient, Bool.false_eq_true, if_false]
        rw [hresponse] at error ⊢
        refine ⟨nofun, nofun, nofun, nofun, nofun, fun body code hbody hcode => ?_, error⟩
        cases hbody
        cases hcode

/-- A response that reports no error of the client. -/
theorem Response.Honest.of_success {r : Response}
    (hstatus : r.status = .ok ∨ r.status = .payloadTooLarge ∨ r.status = .internalServerError)
    (hbody : ∀ body, r.body ≠ .error body) : r.Honest t past := by
  have other : ∀ {status : StatusCode} {P : Prop}, status ≠ .ok → status ≠ .payloadTooLarge →
      status ≠ .internalServerError → r.status = status → P := by
    intro status P hok hlarge hinternal h
    rw [h] at hstatus
    rcases hstatus with h1 | h2 | h3
    · exact absurd h1 hok
    · exact absurd h2 hlarge
    · exact absurd h3 hinternal
  exact ⟨other nofun nofun nofun, other nofun nofun nofun, other nofun nofun nofun,
    other nofun nofun nofun, other nofun nofun nofun, fun body _ h _ => absurd h (hbody body),
    fun body h => absurd h (hbody body)⟩

theorem done_honest (u : Unit) : (done u).Honest t past := .of_success (.inl rfl) nofun

theorem attachment_honest (filename data : List UInt8) :
    (attachment filename data).Honest t past := by
  unfold attachment
  split
  · exact .of_success (.inl rfl) nofun
  · exact .of_success (.inr (.inr rfl)) nofun

end Responses

section Routes

variable {t : Target} {w0 : World}

/-- The answer is honest about what the handler has read and recorded. -/
def HonestFrom (t : Target) (w0 : World) (answer : Option Response) (w : World) : Prop :=
  ∃ past, Since w0 w past ∧ AnswerHonest t past answer

/-- Where nothing has been refused. -/
theorem honest_of_clear {r : Response} {w : World} (h : ∀ past, r.Honest t past)
    (hw : Clear w0 w) : HonestFrom t w0 (some r) w := by
  obtain ⟨past, hsince, hnone, _⟩ := hw
  exact ⟨past, hsince, fun _ hr => Option.some.inj hr ▸ h past, nofun, fun event he nak hnak =>
    absurd (hnone event he nak hnak) nofun⟩

/-- An error that is answered is the refusal, if there is one. -/
theorem honest_of_failed {failure : FtpFailure} {w : World} (hw : Failed t w0 failure w) :
    HonestFrom t w0 (some (ftpErrorToResponse failure)) w := by
  obtain ⟨past, hsince, hrefusal, hcaused⟩ := hw
  exact ⟨past, hsince, fun _ hr => Option.some.inj hr ▸ ftpErrorToResponse_honest hcaused, nofun,
    fun event he nak hnak => by rw [ftpErrorToResponse_nak (hrefusal event he nak hnak)]⟩

theorem triple_respond {α : Type} {x : Client α} {success : α → Response}
    (hx : Explained t w0 (Clear w0) x) (hs : ∀ a past, (success a).Honest t past) :
    Triple (Clear w0) (HonestFrom t w0) (fun _ _ => False) (respond x success) := by
  refine .bind hx.attempt fun r => ?_
  cases r with
  | ok a => exact .pure fun w hw => honest_of_clear (hs a) hw
  | error error =>
      cases error with
      | slicePanic =>
          refine .pure fun w hw => ?_
          obtain ⟨past, hsince, hnone, hpanic⟩ := hw
          exact ⟨past, hsince, nofun, fun _ => hpanic, fun event he nak hnak =>
            absurd (hnone event he nak hnak) nofun⟩
      | _ => exact .pure fun w hw => honest_of_failed hw

theorem Route.triple_answer (limitText : String) (route : Route) :
    Triple (Clear w0) (HonestFrom t w0) (fun _ _ => False) (route.answer t limitText) := by
  cases route with
  | listDirectory path =>
      exact triple_respond (explained_listDirectoryEntries path) fun _ _ =>
        .of_success (.inl rfl) nofun
  | downloadFile path =>
      exact triple_respond (explained_burstReadFileInner path false _) fun data _ =>
        attachment_honest _ data
  | uploadFile path body =>
      refine .ite (.pure fun w hw => honest_of_clear (fun _ => ?_) hw)
        (triple_respond (explained_writeFile path body) fun u _ => done_honest u)
      exact .of_success (.inr (.inl rfl)) nofun
  | removeFile path => exact triple_respond explained_unitOperation fun u _ => done_honest u
  | mkdir path => exact triple_respond explained_unitOperation fun u _ => done_honest u
  | rmdir path => exact triple_respond explained_unitOperation fun u _ => done_honest u
  | rename source dest => exact triple_respond explained_unitOperation fun u _ => done_honest u
  | truncate path offset => exact triple_respond explained_unitOperation fun u _ => done_honest u
  | crc32 path =>
      exact triple_respond (explained_calcCrc32 path) fun _ _ => .of_success (.inl rfl) nofun

end Routes

/-- **A status is the vehicle's own word.** Whatever is lost, delayed or malformed on the way, and
    whichever function of the client the error comes from: a handler answers 404, 409, 403 or 503
    only for a Nak of the target, with that error, that answers one of its own requests or has ended
    its burst; a code only as such a Nak had it; 504 only behind a wait of its own that elapsed; and
    an error only for its cause in what it has read. And where the target has refused one of its
    requests, but a TerminateSession, or has ended its burst with another error than Eof, the answer
    is that Nak's. -/
theorem Route.answer_caused (t : Target) (limitText : String) (route : Route) (w : World)
    (answer : Option Response) (h : (route.answer t limitText w).1 = .ok answer) :
    ∃ past, Since w (route.answer t limitText w).2 past ∧ AnswerHonest t past answer :=
  (route.triple_answer limitText).value (known_start w) (run_eq h)

section Runs

/-- A file that is not there: the vehicle's Nak with code 10. -/
def missingRun : World where
  seqNumber := 0
  hubAnswers := []
  inbox := [.elapsed, packet ⟨1, 1⟩ ⟨1, 0, .nak, 1, .removeFile, 0, 0, [10]⟩]
  trace := []

theorem Route.answer_caused_missing :
    ((Route.removeFile [97]).answer ⟨1, 1⟩ "length limit exceeded" missingRun).1 =
        .ok (some ⟨.notFound, .error ⟨"FTP NAK: File not found", some 10⟩⟩) ∧
      ∃ past, Since missingRun
          ((Route.removeFile [97]).answer ⟨1, 1⟩ "length limit exceeded" missingRun).2 past ∧
        Refused ⟨1, 1⟩ past .fileNotFound := by
  have hrun : ((Route.removeFile [97]).answer ⟨1, 1⟩ "length limit exceeded" missingRun).1 =
      .ok (some ⟨.notFound, .error ⟨"FTP NAK: File not found", some 10⟩⟩) := by decide +kernel
  obtain ⟨past, hsince, hanswer⟩ := Route.answer_caused ⟨1, 1⟩ "length limit exceeded"
    (.removeFile [97]) missingRun _ hrun
  exact ⟨hrun, past, hsince, (hanswer.response _ rfl).notFound rfl⟩

end Runs

end MavlinkServer.Ftp
