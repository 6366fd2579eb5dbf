/-
  File:      MavlinkServer/Ftp/Requests.lean
  Subject:   WHICH REQUESTS AN OPERATION SENDS. One lemma for each function of
             the client: every request it sends, in every run, finished or
             not, meets a property `Q`, provided the requests it builds do.

  * `Admits P t Q` -- `P` holds of what is recorded about requests to `t` that
    meet `Q`; `AdmitsRead`, `AdmitsLock` for the events of a burst read and
    of the lock;
  * `Asks Q` -- an event of the request layer whose request meets `Q`;
  * `Reads Q` -- the same, and the events of a burst read;
  * `emits_…` -- the functions, in the order of the source.
-/
import MavlinkServer.Ftp.Burst

namespace MavlinkServer.Ftp

open Lib Await

/-- An event of the request layer; what is sent or answered meets `Q`. -/
def Asks (Q : FtpPayload → Prop) : FtpEvent → Prop
  | .sent message => ∃ t req, message = buildFtpMessage t req ∧ Q req
  | .accepted request _ => Q request
  | .locked _ | .unlocked _ | .progress _ => True
  | .opened _ _ | .copied _ | .ended _ => False

/-- An event of a read; what is sent or answered meets `Q`. -/
def Reads (Q : FtpPayload → Prop) : FtpEvent → Prop
  | .opened _ _ | .copied _ | .ended _ => True
  | event => Asks Q event

/-- `P` holds of what the request layer records about requests to `t` that meet `Q`. -/
class Admits (P : FtpEvent → Prop) (t : Target) (Q : outParam (FtpPayload → Prop)) : Prop where
  sent : ∀ req, Q req → P (.sent (buildFtpMessage t req))
  accepted : ∀ req resp, Q req → P (.accepted req resp)
  progress : ∀ value, P (.progress value)

class AdmitsRead (P : FtpEvent → Prop) (t : Target) (Q : outParam (FtpPayload → Prop)) : Prop
    extends Admits P t Q where
  opened : ∀ session fileSize, P (.opened session fileSize)
  copied : ∀ chunk, P (.copied chunk)
  ended : ∀ nak, P (.ended nak)

class AdmitsLock (P : FtpEvent → Prop) (t : Target) : Prop where
  locked : P (.locked t)
  unlocked : P (.unlocked t)

instance (Q : FtpPayload → Prop) (t : Target) : Admits (Asks Q) t Q where
  sent _ h := ⟨t, _, rfl, h⟩
  accepted _ _ h := h
  progress _ := trivial

instance (Q : FtpPayload → Prop) (t : Target) : AdmitsRead (Reads Q) t Q where
  sent _ h := ⟨t, _, rfl, h⟩
  accepted _ _ h := h
  progress _ := trivial
  opened _ _ := trivial
  copied _ := trivial
  ended _ := trivial

instance (Q : FtpPayload → Prop) (t : Target) : AdmitsLock (Asks Q) t := ⟨trivial, trivial⟩

instance (Q : FtpPayload → Prop) (t : Target) : AdmitsLock (Reads Q) t := ⟨trivial, trivial⟩

theorem Emits.imp {α : Type} {P P' : FtpEvent → Prop} {x : Client α} (hP : ∀ e, P e → P' e)
    (h : Emits P x) : Emits P' x := fun w => (h w).imp hP

variable {Q : FtpPayload → Prop} {P : FtpEvent → Prop} {t : Target} {α : Type}

/-! ## 1. One request -/

/-- The request `dataRequest` builds, with the number it got. -/
def pathRequest (opcode : FtpOpcode) (data : List UInt8) (offset : UInt32) (seq : UInt16) :
    FtpPayload :=
  { FtpPayload.newRequest opcode seq with data, size := UInt8.ofNat data.length, offset }

/-- What goes on with a new request may be looked at with its fields known. -/
theorem emits_afterNewRequest {opcode : FtpOpcode} {f : FtpPayload → Client α}
    (h : ∀ seq, Emits P (f (FtpPayload.newRequest opcode seq))) :
    Emits P (newRequest opcode >>= f) := fun w => by
  have hseq : Emitted P w { w with seqNumber := w.seqNumber + 1 } :=
    .quiet rfl (List.suffix_refl _)
  exact IsTrans.trans _ _ _ hseq (h w.seqNumber _)

theorem emits_afterDataRequest {opcode : FtpOpcode} {data : List UInt8} {offset : UInt32}
    {f : FtpPayload → Client α} (h : ∀ seq, Emits P (f (pathRequest opcode data offset seq))) :
    Emits P (dataRequest opcode data offset >>= f) := fun w => by
  have hseq : Emitted P w { w with seqNumber := w.seqNumber + 1 } :=
    .quiet rfl (List.suffix_refl _)
  exact IsTrans.trans _ _ _ hseq (h w.seqNumber _)

/-- `offset += n as u32`, where the sum fits. -/
theorem toNat_advance {offset : UInt32} {n total : Nat} (h : offset.toNat + n ≤ total)
    (htotal : total < 2 ^ 32) : (offset + UInt32.ofNat n).toNat = offset.toNat + n := by
  rw [UInt32.toNat_add, UInt32.toNat_ofNat']
  omega

/-- The world behind one transmission of a request and the wait for its reply. -/
def World.sending (w : World) (t : Target) (payload : FtpPayload) (rest : List HubEvent) : World :=
  { w with inbox := rest, trace := w.trace ++ [.sent (buildFtpMessage t payload)] }

section Attempts

variable {payload : FtpPayload} {attempts : Nat} {lastError : FtpFailure} {w : World}
  {rest : List HubEvent}

/-- A transmission, by what the wait behind it comes to. -/
theorem send_await {r : Received} {f : Received → Client α}
    (h : recvFtp t (some payload.seqNumber) w.inbox = some (r, rest)) :
    (do sendFtpMessage t payload; let r ← awaitFtp t (some payload.seqNumber); f r) w =
      f r (w.sending t payload rest) := by
  have hsent : sendFtpMessage t payload w = (.ok (), w.sending t payload w.inbox) := rfl
  have hawait : awaitFtp t (some payload.seqNumber) (w.sending t payload w.inbox) =
      (.ok r, w.sending t payload rest) := awaitFtp_ok.mpr ⟨rest, h, rfl⟩
  rw [bind_of_ok hsent, bind_of_ok hawait]

theorem sendAndReceiveLoop_waits (h : recvFtp t (some payload.seqNumber) w.inbox = none) :
    sendAndReceiveLoop t payload (attempts + 1) lastError w =
      (.waiting, w.sending t payload []) := by
  have hsent : sendFtpMessage t payload w = (.ok (), w.sending t payload w.inbox) := rfl
  have hwait : awaitFtp t (some payload.seqNumber) (w.sending t payload w.inbox) =
      (.waiting, w.sending t payload []) := awaitFtp_waiting h
  unfold sendAndReceiveLoop
  rw [bind_of_ok hsent, bind_of_waiting hwait]

theorem sendAndReceiveLoop_reply {resp : FtpPayload}
    (h : recvFtp t (some payload.seqNumber) w.inbox = some (.reply resp, rest)) :
    sendAndReceiveLoop t payload (attempts + 1) lastError w =
      (.ok resp, { w.sending t payload rest with
        trace := (w.sending t payload rest).trace ++ [.accepted payload resp] }) :=
  send_await h

theorem sendAndReceiveLoop_failed {error : FtpFailure}
    (h : recvFtp t (some payload.seqNumber) w.inbox = some (.failed error, rest)) :
    sendAndReceiveLoop t payload (attempts + 1) lastError w =
      sendAndReceiveLoop t payload attempts error (w.sending t payload rest) :=
  send_await h

theorem sendAndReceiveLoop_elapsed
    (h : recvFtp t (some payload.seqNumber) w.inbox = some (.elapsed, rest)) :
    sendAndReceiveLoop t payload (attempts + 1) lastError w =
      sendAndReceiveLoop t payload attempts .timedOut (w.sending t payload rest) :=
  send_await h

end Attempts

variable [Admits P t Q]

theorem emits_sendAndReceiveLoop {payload : FtpPayload} (h : Q payload) :
    ∀ (attempts : Nat) (lastError : FtpFailure),
      Emits P (sendAndReceiveLoop t payload attempts lastError)
  | 0, lastError => Moves.fail lastError
  | attempts + 1, lastError => by
      unfold sendAndReceiveLoop
      refine Moves.bind (emits_note (Admits.sent payload h)) fun _ => ?_
      refine Moves.bind emits_awaitFtp fun r => ?_
      cases r with
      | reply resp =>
          exact Moves.bind (emits_note (Admits.accepted t payload resp h)) fun _ => Moves.pure _
      | failed error => exact emits_sendAndReceiveLoop h attempts error
      | elapsed => exact emits_sendAndReceiveLoop h attempts .timedOut

theorem emits_sendAndReceive {payload : FtpPayload} (h : Q payload) :
    Emits P (sendAndReceive t payload) :=
  Moves.bind emits_subscribe fun _ => emits_sendAndReceiveLoop h _ _

theorem emits_checked {resp : FtpPayload} : Emits P (checked resp) := by
  unfold checked
  split
  · exact Moves.pure _
  · exact Moves.fail _

theorem emits_withContext {text : String} {x : Client α} (h : Emits P x) :
    Emits P (withContext text x) := by
  refine Moves.bind h.attempt fun r => ?_
  cases r with
  | ok a => exact Moves.pure a
  | error error => exact Moves.fail _

/-- At one world: the operation starts with the lock recorded. -/
theorem emitted_withTargetLock [AdmitsLock P t] {x : Client α} {w : World}
    (h : Emitted P { w with trace := w.trace ++ [.locked t] }
      (x { w with trace := w.trace ++ [.locked t] }).2) :
    Emitted P w (withTargetLock t x w).2 := by
  refine Moves.bind_at (emits_note AdmitsLock.locked w) fun _ w1 h1 => ?_
  obtain rfl := note_ok.mp h1
  refine Moves.bind_at (by rw [attempt_snd]; exact h) fun r w2 _ => ?_
  cases r with
  | ok a => exact Moves.bind (emits_note AdmitsLock.unlocked) (fun _ => Moves.pure a) w2
  | error error => exact Moves.bind (emits_note AdmitsLock.unlocked) (fun _ => Moves.fail _) w2

theorem emits_withTargetLock [AdmitsLock P t] {x : Client α} (h : Emits P x) :
    Emits P (withTargetLock t x) := fun _ => emitted_withTargetLock (h _)

/-- A request carries its opcode from `new_request` on, so a property of requests may be asked
    opcode by opcode. -/
theorem emits_terminateSession (h : ∀ req, req.opcode = .terminateSession → Q req)
    (session : UInt8) : Emits P (terminateSession t session) := by
  refine emits_afterNewRequest fun seq => ?_
  exact Moves.bind (emits_sendAndReceive (h _ rfl)) fun _ => emits_checked

theorem emits_resetSessions (h : ∀ req, req.opcode = .resetSessions → Q req) :
    Emits P (resetSessions t) := by
  refine emits_afterNewRequest fun seq => ?_
  exact Moves.bind (emits_sendAndReceive (h _ rfl)) fun _ => emits_checked

theorem emits_terminateSessionBestEffort (h : ∀ req, req.opcode = .terminateSession → Q req)
    (session : UInt8) : Emits P (terminateSessionBestEffort t session) :=
  Moves.bind (emits_terminateSession h session).attempt fun _ => Moves.pure _

/-! ## 2. Operations on a path -/

/-- The one request of a one-request operation. -/
theorem emits_dataExchange {opcode : FtpOpcode} {data : List UInt8} {offset : UInt32}
    {finish : FtpPayload → Client α} (h : ∀ seq, Q (pathRequest opcode data offset seq))
    (hf : ∀ resp, Emits P (finish resp)) :
    Emits P (do
      let req ← dataRequest opcode data offset
      let resp ← sendAndReceive t req
      checked resp
      finish resp) := by
  refine emits_afterDataRequest fun seq => ?_
  refine Moves.bind (emits_sendAndReceive (h seq)) fun resp => ?_
  exact Moves.bind emits_checked fun _ => hf resp

theorem emits_dataOperation [AdmitsLock P t] {opcode : FtpOpcode} {data : List UInt8}
    {offset : UInt32} {finish : FtpPayload → Client α}
    (h : ∀ seq, Q (pathRequest opcode data offset seq)) (hf : ∀ resp, Emits P (finish resp)) :
    Emits P (dataOperation t opcode data offset finish) :=
  emits_withTargetLock (emits_dataExchange h hf)

theorem emits_listLoop {path : List UInt8}
    (h : ∀ offset seq, Q (pathRequest .listDirectory path offset seq)) :
    ∀ (fuel : Nat) (offset : UInt32) (allEntries : List ListingEntry),
      Emits P (listLoop t path fuel offset allEntries)
  | 0, _, _ => Moves.stuck
  | fuel + 1, offset, allEntries => by
      refine emits_afterDataRequest fun seq => ?_
      refine Moves.bind (emits_sendAndReceive (h offset seq)) fun resp => ?_
      split
      · exact Moves.ite (Moves.pure _) (Moves.fail _)
      · split
        · exact Moves.fail _
        · exact Moves.pure _
        · exact emits_listLoop h fuel _ _

theorem emits_listDirectoryEntries [AdmitsLock P t] {path : List UInt8}
    (h : ∀ offset seq, Q (pathRequest .listDirectory path offset seq)) :
    Emits P (listDirectoryEntries t path) :=
  emits_withTargetLock fun w => emits_listLoop h _ _ _ w

theorem emits_writeChunks {session : UInt8} (hw : ∀ req, req.opcode = .writeFile → Q req)
    (ht : ∀ req, req.opcode = .terminateSession → Q req) :
    ∀ (chunks : List (List UInt8)) (offset : UInt32),
      Emits P (writeChunks t session offset chunks)
  | [], _ => Moves.pure _
  | chunk :: rest, offset => by
      refine emits_afterDataRequest fun seq => ?_
      refine Moves.bind (emits_sendAndReceive (hw _ rfl)).attempt fun r => ?_
      cases r with
      | error error =>
          exact Moves.bind (emits_terminateSessionBestEffort ht session) fun _ => Moves.fail _
      | ok resp =>
          dsimp only
          split
          · exact Moves.bind (emits_terminateSessionBestEffort ht session) fun _ => Moves.fail _
          · exact emits_writeChunks hw ht rest _

/-- **The requests of `write_file`**: besides the path's CreateFile only session requests and
    WriteFile. -/
theorem emits_writeFile [AdmitsLock P t] {path data : List UInt8}
    (h : ∀ seq, Q (pathRequest .createFile path 0 seq))
    (hr : ∀ req, req.opcode = .resetSessions → Q req)
    (hw : ∀ req, req.opcode = .writeFile → Q req)
    (ht : ∀ req, req.opcode = .terminateSession → Q req) :
    Emits P (writeFile t path data) := by
  refine emits_withTargetLock ?_
  refine Moves.bind (emits_withContext (emits_resetSessions hr)) fun _ => ?_
  refine emits_afterDataRequest fun seq => ?_
  refine Moves.bind (emits_withContext (emits_sendAndReceive (h seq))) fun resp => ?_
  refine Moves.bind emits_checked fun _ => ?_
  refine Moves.bind (emits_writeChunks hw ht _ _) fun _ => ?_
  exact emits_withContext (emits_terminateSession ht _)

/-! ## 3. The burst download -/

theorem emits_storeProgress {progress : Bool} {value : UInt64} (h : ∀ value, P (.progress value)) :
    Emits P (storeProgress progress value) :=
  Moves.ite (emits_note (h value)) (Moves.pure _)

theorem emits_openReadSession {path : List UInt8} {maxSize : Option Nat}
    (ho : ∀ session fileSize, P (.opened session fileSize))
    (h : ∀ seq, Q (pathRequest .openFileRO path 0 seq))
    (hr : ∀ req, req.opcode = .resetSessions → Q req)
    (ht : ∀ req, req.opcode = .terminateSession → Q req) :
    Emits P (openReadSession t path maxSize) := by
  refine Moves.bind (emits_withContext (emits_resetSessions hr)) fun _ => ?_
  refine emits_afterDataRequest fun seq => ?_
  refine Moves.bind (emits_withContext (emits_sendAndReceive (h seq))) fun resp => ?_
  refine Moves.bind emits_checked fun _ => ?_
  have opened : Emits P
      (do note (.opened resp.session (announcedSize resp))
          pure (resp.session, announcedSize resp)) :=
    Moves.bind (emits_note (ho _ _)) fun _ => Moves.pure _
  cases maxSize with
  | none => exact opened
  | some max =>
      refine Moves.ite ?_ opened
      exact Moves.bind (emits_terminateSessionBestEffort ht _) fun _ => Moves.fail _

theorem emits_applyBurstChunk {state : BurstReadState} {resp : FtpPayload} {progress : Bool}
    (hc : P (.copied resp)) (hp : ∀ value, P (.progress value)) :
    Emits P (applyBurstChunk state resp progress) := by
  unfold applyBurstChunk
  split
  · exact Moves.fail _
  · exact Moves.pure _
  · refine Moves.bind (emits_note hc) fun _ => ?_
    exact Moves.bind (emits_storeProgress hp) fun _ => Moves.pure _

omit [Admits P t Q] in
theorem emits_burstLoop [AdmitsRead P t Q] {session : UInt8} {progress : Bool}
    (ht : ∀ req, req.opcode = .terminateSession → Q req) :
    ∀ (fuel : Nat) (state : BurstReadState) (retries : Nat),
      Emits P (burstLoop t session progress fuel state retries)
  | 0, _, _ => Moves.stuck
  | fuel + 1, state, retries => by
      have stop : ∀ {β : Type} (error : FtpFailure),
          Emits P (do terminateSessionBestEffort t session; (fail error : Client β)) :=
        fun error =>
          Moves.bind (emits_terminateSessionBestEffort ht session) fun _ => Moves.fail error
      unfold burstLoop
      refine Moves.bind emits_awaitFtp fun r => ?_
      cases r with
      | failed error => exact emits_burstLoop ht fuel state retries
      | elapsed => exact Moves.ite (stop _) (Moves.pure _)
      | reply resp =>
          dsimp only
          split
          · exact Moves.bind (emits_note (AdmitsRead.ended t resp)) fun _ =>
              Moves.ite (Moves.pure _) (stop _)
          · refine Moves.ite (emits_burstLoop ht fuel state retries) ?_
            refine Moves.bind (emits_applyBurstChunk (AdmitsRead.copied t resp)
              (Admits.progress t)) fun o => ?_
            cases o with
            | none => exact emits_burstLoop ht fuel state retries
            | some state' =>
                exact Moves.ite (Moves.pure _) (emits_burstLoop ht fuel _ 0)

omit [Admits P t Q] in
theorem emits_runBurstCycle [AdmitsRead P t Q] {session : UInt8} {progress : Bool}
    {state : BurstReadState} {retries : Nat} (hb : ∀ req, req.opcode = .burstReadFile → Q req)
    (ht : ∀ req, req.opcode = .terminateSession → Q req) :
    Emits P (runBurstCycle t session progress state retries) := by
  refine emits_afterNewRequest fun seq => ?_
  refine Moves.bind (emits_note (Admits.sent _ (hb _ rfl))) fun _ => ?_
  exact fun w => emits_burstLoop ht _ _ _ w

omit [Admits P t Q] in
theorem emits_burstPhase [AdmitsRead P t Q] {session : UInt8} {progress : Bool}
    (hb : ∀ req, req.opcode = .burstReadFile → Q req)
    (ht : ∀ req, req.opcode = .terminateSession → Q req) :
    ∀ (fuel : Nat) (state : BurstReadState) (retries : Nat),
      Emits P (burstPhase t session progress fuel state retries)
  | 0, _, _ => Moves.stuck
  | fuel + 1, state, retries => by
      refine Moves.bind (emits_runBurstCycle hb ht) fun r => ?_
      obtain ⟨outcome, state', retries'⟩ := r
      cases outcome with
      | «continue» => exact emits_burstPhase hb ht fuel state' retries'
      | eof => exact Moves.pure _

theorem emits_readMissingBlockChunk {session : UInt8} {progress : Bool} {missing : MissingBlock}
    {filled : UInt32} {state : BurstReadState} (hr : ∀ req, req.opcode = .readFile → Q req)
    (ht : ∀ req, req.opcode = .terminateSession → Q req) :
    Emits P (readMissingBlockChunk t session progress missing filled state) := by
  refine emits_afterNewRequest fun seq => ?_
  refine Moves.bind (emits_sendAndReceive (hr _ rfl)).attempt fun r => ?_
  have stop : ∀ {β : Type} (error : FtpFailure),
      Emits P (do terminateSessionBestEffort t session; (fail error : Client β)) :=
    fun error => Moves.bind (emits_terminateSessionBestEffort ht session) fun _ => Moves.fail error
  cases r with
  | error error => exact stop error
  | ok resp =>
      dsimp only
      split
      · exact Moves.ite (Moves.pure _) (stop _)
      · refine Moves.ite (Moves.pure _) ?_
        split
        · exact Moves.fail _
        · exact Moves.bind (emits_storeProgress (Admits.progress t)) fun _ => Moves.pure _

theorem emits_fillBlock {session : UInt8} {progress : Bool} {missing : MissingBlock}
    (hr : ∀ req, req.opcode = .readFile → Q req)
    (ht : ∀ req, req.opcode = .terminateSession → Q req) :
    ∀ (fuel : Nat) (filled : UInt32) (state : BurstReadState),
      Emits P (fillBlock t session progress missing fuel filled state)
  | 0, _, _ => Moves.stuck
  | fuel + 1, filled, state => by
      refine Moves.ite ?_ (Moves.pure _)
      refine Moves.bind (emits_readMissingBlockChunk hr ht) fun r => ?_
      obtain ⟨outcome, state'⟩ := r
      cases outcome with
      | filled chunkSize => exact emits_fillBlock hr ht fuel _ state'
      | noData => exact Moves.pure _
      | endOfFile => exact Moves.pure _

theorem emits_fillBlocks {session : UInt8} {progress : Bool}
    (hr : ∀ req, req.opcode = .readFile → Q req)
    (ht : ∀ req, req.opcode = .terminateSession → Q req) :
    ∀ (blocks : List MissingBlock) (state : BurstReadState),
      Emits P (fillBlocks t session progress blocks state)
  | [], _ => Moves.pure _
  | _ :: rest, _ =>
      Moves.bind (fun w => emits_fillBlock hr ht _ _ _ w) fun state' =>
        emits_fillBlocks hr ht rest state'

theorem emits_finishReadSession {session : UInt8} {progress : Bool} {state : BurstReadState}
    (ht : ∀ req, req.opcode = .terminateSession → Q req) :
    Emits P (finishReadSession t session progress state) :=
  Moves.bind (emits_withContext (emits_terminateSession ht session)) fun _ =>
    Moves.bind (emits_storeProgress (Admits.progress t)) fun _ => Moves.pure _

omit [Admits P t Q] in
/-- **The requests of a read**: besides the path's OpenFileRO only session requests,
    BurstReadFile and ReadFile. -/
theorem emits_burstReadFileInner [AdmitsRead P t Q] [AdmitsLock P t] {path : List UInt8}
    {progress : Bool} {maxSize : Option Nat}
    (h : ∀ seq, Q (pathRequest .openFileRO path 0 seq))
    (hs : ∀ req, req.opcode = .resetSessions → Q req)
    (hb : ∀ req, req.opcode = .burstReadFile → Q req)
    (hr : ∀ req, req.opcode = .readFile → Q req)
    (ht : ∀ req, req.opcode = .terminateSession → Q req) :
    Emits P (burstReadFileInner t path progress maxSize) := by
  refine emits_withTargetLock ?_
  refine Moves.bind (emits_openReadSession (AdmitsRead.opened t) h hs ht) fun r => ?_
  refine Moves.bind emits_subscribe fun _ => ?_
  refine Moves.bind (fun w => emits_burstPhase hb ht _ _ _ w) fun state => ?_
  refine Moves.bind (emits_fillBlocks hr ht _ _) fun state' => ?_
  exact emits_finishReadSession ht

end MavlinkServer.Ftp
