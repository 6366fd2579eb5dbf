/-
  File:      MavlinkServer/Ftp/Malformed.lean
  Subject:   WHAT A MALFORMED PACKET COSTS (`send_and_receive`, `recv_ftp`).

  `recv_ftp` passes over a message it cannot parse, but ends with an error on
  an FTP payload it cannot decode; `send_and_receive` takes that for a lost
  reply and transmits the request again.

  * `FtpPacket`, `FtpPacket.Undecodable` -- an FTP packet of the target, and one
    with an unknown opcode;
  * `Exchange` -- packets that are no reply to a request, and then its reply;
  * `loop_answered`, `loop_refused` -- every undecodable one uses up an attempt;
  * `CostsNothing`, `costsNothing_iff` -- when the request is sent once.
-/
import MavlinkServer.Ftp.WireFormat
import MavlinkServer.Ftp.Download

namespace MavlinkServer.Ftp

open Lib Await

/-! ## 1. The packets -/

/-- A FILE_TRANSFER_PROTOCOL packet: whom it names, and its payload. -/
structure FtpPacket where
  targetNetwork : UInt8
  targetSystem : UInt8
  targetComponent : UInt8
  payload : FtpBuffer
  deriving DecidableEq, Repr

namespace FtpPacket

/-- The packet as it comes from the target. -/
def message (t : Target) (p : FtpPacket) : Protocol where
  messageId := ftpMessageId
  systemId := t.systemId
  componentId := t.componentId
  toMavlink := some (.fileTransferProtocol p.targetNetwork p.targetSystem p.targetComponent p.payload)

def event (t : Target) (p : FtpPacket) : HubEvent := .message (p.message t)

/-- An unknown `opcode` or `req_opcode` byte. -/
def Undecodable (p : FtpPacket) : Prop :=
  FtpOpcode.fromRepr p.payload.opcodeByte = none ∨
    FtpOpcode.fromRepr p.payload.reqOpcodeByte = none

instance (p : FtpPacket) : Decidable p.Undecodable := inferInstanceAs (Decidable (_ ∨ _))

/-- Another sequence number than the reply's. -/
def Foreign (seq : UInt16) (p : FtpPacket) : Prop :=
  ∃ other, FtpPayload.decode p.payload = .ok other ∧ other.seqNumber ≠ seq + 1

end FtpPacket

/-- What comes in behind a request: packets that are no reply to it, and its reply. -/
structure Exchange (request : FtpPayload) where
  noise : List FtpPacket
  answer : FtpPacket
  resp : FtpPayload
  noise_foreign : ∀ p ∈ noise, p.Undecodable ∨ p.Foreign request.seqNumber
  decoded : FtpPayload.decode answer.payload = .ok resp
  numbered : resp.seqNumber = request.seqNumber + 1
  ackOrNak : resp.opcode = .ack ∨ resp.opcode = .nak

def Exchange.events {request : FtpPayload} (x : Exchange request) (t : Target) : List HubEvent :=
  x.noise.map (FtpPacket.event t) ++ [x.answer.event t]

theorem Exchange.events_append {request : FtpPayload} (x : Exchange request) (t : Target)
    (rest : List HubEvent) :
    x.events t ++ rest = x.noise.map (FtpPacket.event t) ++ x.answer.event t :: rest := by
  rw [Exchange.events, List.append_assoc, List.singleton_append]

/-! ## 2. One packet -/

section Packets

variable {t : Target} {seq : UInt16} {p : FtpPacket} {payload resp : FtpPayload} {w : World}
  {rest : List HubEvent} {attempts : Nat} {lastError : FtpFailure}

/-- An undecodable packet ends the wait with an error. -/
theorem examine_undecodable (h : p.Undecodable) (e : Option UInt16) :
    ∃ error, examine t e (p.message t) = .failed error := by
  obtain ⟨error, herror⟩ := (FtpPayload.decode_error_iff p.payload).mpr h
  refine ⟨error, ?_⟩
  simp only [examine, FtpPacket.message, ne_eq, not_true_eq_false, or_self, if_false, herror]

theorem examine_decoded (h : FtpPayload.decode p.payload = .ok resp) (e : Option UInt16) :
    examine t e (p.message t) = if expected e resp then .reply resp else .skip := by
  simp only [examine, FtpPacket.message, ne_eq, not_true_eq_false, or_self, if_false, h]

/-- A packet with another number is passed over. -/
theorem examine_foreign (h : p.Foreign seq) : examine t (some seq) (p.message t) = .skip := by
  obtain ⟨other, hother, hseq⟩ := h
  have hno : ¬ expected (some seq) other = true := by
    simp only [expected, Bool.and_eq_true, beq_iff_eq]
    exact fun h => hseq h.1
  rw [examine_decoded hother, if_neg hno]

theorem not_undecodable_of_foreign (h : p.Foreign seq) : ¬ p.Undecodable := by
  intro hbad
  obtain ⟨error, herror⟩ := (FtpPayload.decode_error_iff p.payload).mpr hbad
  obtain ⟨other, hother, _⟩ := h
  rw [herror] at hother
  cases hother

/-- A wait behind a packet that is passed over is the wait without it. -/
theorem recvFtp_foreign (h : p.Foreign seq) :
    recvFtp t (some seq) (p.event t :: rest) = recvFtp t (some seq) rest := by
  simp only [FtpPacket.event, recvFtp, examine_foreign h]

theorem sendAndReceiveLoop_foreign (h : p.Foreign payload.seqNumber) :
    sendAndReceiveLoop t payload (attempts + 1) lastError { w with inbox := p.event t :: rest } =
      sendAndReceiveLoop t payload (attempts + 1) lastError { w with inbox := rest } := by
  have hrecv : recvFtp t (some payload.seqNumber) (p.event t :: rest) =
      recvFtp t (some payload.seqNumber) rest := recvFtp_foreign h
  cases hr : recvFtp t (some payload.seqNumber) rest with
  | none =>
      rw [sendAndReceiveLoop_waits (hrecv.trans hr), sendAndReceiveLoop_waits hr]
      rfl
  | some r =>
      obtain ⟨r, left⟩ := r
      cases r with
      | reply resp =>
          rw [sendAndReceiveLoop_reply (hrecv.trans hr), sendAndReceiveLoop_reply hr]
          rfl
      | failed error =>
          rw [sendAndReceiveLoop_failed (hrecv.trans hr), sendAndReceiveLoop_failed hr]
          rfl
      | elapsed =>
          rw [sendAndReceiveLoop_elapsed (hrecv.trans hr), sendAndReceiveLoop_elapsed hr]
          rfl

/-- An undecodable packet uses up an attempt. -/
theorem sendAndReceiveLoop_undecodable (t : Target) (payload : FtpPayload) (w : World)
    (rest : List HubEvent) (attempts : Nat) (lastError : FtpFailure) (h : p.Undecodable) : ∃ error,
    sendAndReceiveLoop t payload (attempts + 1) lastError { w with inbox := p.event t :: rest } =
      sendAndReceiveLoop t payload attempts error (w.sending t payload rest) := by
  obtain ⟨error, herror⟩ := examine_undecodable (t := t) h (some payload.seqNumber)
  refine ⟨error, sendAndReceiveLoop_failed ?_⟩
  simp only [FtpPacket.event, recvFtp, herror]

end Packets

/-! ## 3. All of them -/

section Attempts

variable {t : Target} {request : FtpPayload} {rest : List HubEvent}

/-- The transmissions of a request. -/
def transmissions (t : Target) (request : FtpPayload) (n : Nat) : List FtpEvent :=
  List.replicate n (.sent (buildFtpMessage t request))

theorem transmissions_succ (n : Nat) : transmissions t request (n + 1) =
    .sent (buildFtpMessage t request) :: transmissions t request n := List.replicate_succ

/-- How many of the packets are undecodable. -/
def undecodable (noise : List FtpPacket) : Nat := noise.countP fun p => p.Undecodable

theorem undecodable_cons_of_bad {p : FtpPacket} {noise : List FtpPacket} (h : p.Undecodable) :
    undecodable (p :: noise) = undecodable noise + 1 :=
  List.countP_cons_of_pos (decide_eq_true h)

theorem undecodable_cons_of_foreign {p : FtpPacket} {noise : List FtpPacket} {seq : UInt16}
    (h : p.Foreign seq) : undecodable (p :: noise) = undecodable noise :=
  List.countP_cons_of_neg (by simpa using not_undecodable_of_foreign h)

theorem undecodable_eq_zero {noise : List FtpPacket} :
    undecodable noise = 0 ↔ ∀ p ∈ noise, ¬ p.Undecodable := by
  simp [undecodable, List.countP_eq_zero]

/-- **With attempts left, the reply is taken**, and the request has been sent once more for every
    undecodable packet before it. -/
theorem loop_answered (t : Target) (x : Exchange request) (rest : List HubEvent) :
    ∀ (noise : List FtpPacket) (attempts : Nat) (lastError : FtpFailure) (w : World),
    (∀ p ∈ noise, p.Undecodable ∨ p.Foreign request.seqNumber) → undecodable noise < attempts →
      sendAndReceiveLoop t request attempts lastError
          { w with inbox := noise.map (FtpPacket.event t) ++ x.answer.event t :: rest } =
        (.ok x.resp, { w with
          inbox := rest
          trace := w.trace ++ transmissions t request (undecodable noise + 1) ++
            [.accepted request x.resp] })
  | _, 0, _, _, _, hleft => absurd hleft (Nat.not_lt_zero _)
  | [], attempts + 1, lastError, w, _, _ => by
      have hexpected : expected (some request.seqNumber) x.resp = true := by
        simp only [expected, x.numbered, beq_self_eq_true, Bool.true_and, Bool.or_eq_true,
          beq_iff_eq]
        exact x.ackOrNak
      have hrecv : recvFtp t (some request.seqNumber) (x.answer.event t :: rest) =
          some (.reply x.resp, rest) := by
        simp only [FtpPacket.event, recvFtp, examine_decoded x.decoded, if_pos hexpected]
      exact sendAndReceiveLoop_reply hrecv
  | p :: noise, attempts + 1, lastError, w, hnoise, hleft => by
      have hrest := fun q hq => hnoise q (List.mem_cons_of_mem p hq)
      rcases hnoise p (List.mem_cons_self ..) with hbad | hforeign
      · rw [undecodable_cons_of_bad hbad] at hleft ⊢
        obtain ⟨error, herror⟩ := sendAndReceiveLoop_undecodable t request w
          (noise.map (FtpPacket.event t) ++ x.answer.event t :: rest) attempts lastError hbad
        have hih := loop_answered t x rest noise attempts error
          { w with trace := w.trace ++ [.sent (buildFtpMessage t request)] } hrest
          (Nat.lt_of_succ_lt_succ hleft)
        rw [List.map_cons, List.cons_append, herror, World.sending, hih,
          transmissions_succ (undecodable noise + 1)]
        simp only [List.append_assoc, List.cons_append, List.nil_append]
      · rw [undecodable_cons_of_foreign hforeign] at hleft ⊢
        rw [List.map_cons, List.cons_append, sendAndReceiveLoop_foreign hforeign]
        exact loop_answered t x rest noise (attempts + 1) lastError w hrest hleft

/-- **Without, it is refused**: the undecodable packets used up every attempt. -/
theorem loop_refused : ∀ (noise : List FtpPacket) (attempts : Nat) (lastError : FtpFailure)
    (w : World) (rest : List HubEvent),
    (∀ p ∈ noise, p.Undecodable ∨ p.Foreign request.seqNumber) → attempts ≤ undecodable noise →
      ∃ error left, sendAndReceiveLoop t request attempts lastError
          { w with inbox := noise.map (FtpPacket.event t) ++ rest } =
        (.err error, { w with
          inbox := left
          trace := w.trace ++ transmissions t request attempts })
  | _, 0, lastError, w, rest, _, _ =>
      ⟨lastError, _, by rw [transmissions, List.replicate_zero, List.append_nil]; rfl⟩
  | [], attempts + 1, _, _, _, _, hleft => absurd hleft (Nat.not_succ_le_zero _)
  | p :: noise, attempts + 1, lastError, w, rest, hnoise, hleft => by
      have hrest := fun q hq => hnoise q (List.mem_cons_of_mem p hq)
      rcases hnoise p (List.mem_cons_self ..) with hbad | hforeign
      · rw [undecodable_cons_of_bad hbad] at hleft
        obtain ⟨error, herror⟩ := sendAndReceiveLoop_undecodable t request w
          (noise.map (FtpPacket.event t) ++ rest) attempts lastError hbad
        obtain ⟨error', left, hih⟩ := loop_refused noise attempts error
          { w with trace := w.trace ++ [.sent (buildFtpMessage t request)] } rest hrest
          (Nat.le_of_succ_le_succ hleft)
        refine ⟨error', left, ?_⟩
        rw [List.map_cons, List.cons_append, herror, World.sending, hih, transmissions_succ]
        simp only [List.append_assoc, List.cons_append, List.nil_append]
      · rw [undecodable_cons_of_foreign hforeign] at hleft
        rw [List.map_cons, List.cons_append, sendAndReceiveLoop_foreign hforeign]
        exact loop_refused noise (attempts + 1) lastError w rest hrest hleft

end Attempts

/-! ## 4. The request -/

section Request

variable {t : Target} {request : FtpPayload} {rest : List HubEvent} {w : World}

/-- **The noise costs nothing**: the reply is returned, and the request has been transmitted
    once. -/
def CostsNothing (t : Target) (request : FtpPayload) (x : Exchange request)
    (rest : List HubEvent) (w : World) : Prop :=
  let run := sendAndReceive t request { w with inbox := x.events t ++ rest }
  run.1 = .ok x.resp ∧
    run.2.trace.count (.sent (buildFtpMessage t request)) =
      w.trace.count (.sent (buildFtpMessage t request)) + 1

/-- The hub hands out its sender. -/
def World.hubAnswering (w : World) : Prop := w.hubAnswers.head? ≠ some false

theorem subscribe_of_answering (h : w.hubAnswering) :
    ∃ answers, subscribe w = (.ok (), { w with hubAnswers := answers }) := by
  unfold subscribe
  cases hanswers : w.hubAnswers with
  | nil => exact ⟨w.hubAnswers, rfl⟩
  | cons answer answers =>
      cases answer with
      | true => exact ⟨answers, rfl⟩
      | false => exact absurd (by rw [hanswers]; rfl) h

theorem count_transmissions (n : Nat) : (transmissions t request n).count
    (.sent (buildFtpMessage t request)) = n := List.count_replicate_self ..

/-- The reply comes with one transmission for every undecodable packet before it, and one. -/
theorem sendAndReceive_answered (t : Target) (x : Exchange request) (rest : List HubEvent)
    (hhub : w.hubAnswering)
    (hfew : undecodable x.noise < ftpMaxRetries) :
    (sendAndReceive t request { w with inbox := x.events t ++ rest }).1 = .ok x.resp ∧
      (sendAndReceive t request { w with inbox := x.events t ++ rest }).2.trace =
        w.trace ++ transmissions t request (undecodable x.noise + 1) ++
          [.accepted request x.resp] := by
  obtain ⟨answers, hsub⟩ := subscribe_of_answering
    (w := { w with inbox := x.events t ++ rest }) hhub
  have hloop := loop_answered t x rest x.noise ftpMaxRetries .timedOut
    { w with hubAnswers := answers } x.noise_foreign hfew
  rw [sendAndReceive, bind_of_ok hsub, x.events_append, hloop]
  exact ⟨rfl, rfl⟩

/-- Five of them, and the request fails with the reply unread. -/
theorem sendAndReceive_refused (t : Target) (x : Exchange request) (rest : List HubEvent)
    (hhub : w.hubAnswering)
    (hmany : ftpMaxRetries ≤ undecodable x.noise) :
    (∃ error, (sendAndReceive t request { w with inbox := x.events t ++ rest }).1 = .err error) ∧
      (sendAndReceive t request { w with inbox := x.events t ++ rest }).2.trace =
        w.trace ++ transmissions t request ftpMaxRetries := by
  obtain ⟨answers, hsub⟩ := subscribe_of_answering
    (w := { w with inbox := x.events t ++ rest }) hhub
  obtain ⟨error, left, hloop⟩ := loop_refused (t := t) x.noise ftpMaxRetries .timedOut
    { w with hubAnswers := answers } (x.answer.event t :: rest) x.noise_foreign hmany
  rw [sendAndReceive, bind_of_ok hsub, x.events_append, hloop]
  exact ⟨⟨error, rfl⟩, rfl⟩

/-- **A malformed packet costs nothing exactly when there is none.** -/
theorem costsNothing_iff (t : Target) (request : FtpPayload) (x : Exchange request)
    (rest : List HubEvent) (w : World) (hhub : w.hubAnswering) :
    CostsNothing t request x rest w ↔ ∀ p ∈ x.noise, ¬ p.Undecodable := by
  rw [← undecodable_eq_zero]
  unfold CostsNothing
  rcases Nat.lt_or_ge (undecodable x.noise) ftpMaxRetries with hfew | hmany
  · obtain ⟨hresult, htrace⟩ := sendAndReceive_answered t x rest hhub hfew
    have haccepted : List.count (.sent (buildFtpMessage t request))
        [FtpEvent.accepted request x.resp] = 0 :=
      List.count_eq_zero.mpr (by simp)
    simp only [hresult, htrace, List.count_append, count_transmissions, haccepted, true_and]
    omega
  · obtain ⟨⟨error, hresult⟩, _⟩ := sendAndReceive_refused t x rest hhub hmany
    simp only [hresult, reduceCtorEq, false_and, false_iff]
    have hpos : 0 < ftpMaxRetries := by decide
    omega

/-- Behind a RemoveFile request: its Ack, after one packet. -/
def removal (p : FtpPacket) (h : p.Undecodable ∨ p.Foreign 0) :
    Exchange (FtpPayload.newRequest .removeFile 0) where
  noise := [p]
  answer := ⟨0, clientSystemId, clientComponentId,
    FtpPayload.encode ⟨1, 0, .ack, 0, .removeFile, 0, 0, []⟩⟩
  resp := ⟨1, 0, .ack, 0, .removeFile, 0, 0, []⟩
  noise_foreign q hq := by
    obtain rfl := List.mem_singleton.mp hq
    exact h
  decoded := FtpPayload.decode_encode_of_fits (by decide) rfl
  numbered := rfl
  ackOrNak := Or.inl rfl

/-- A packet of a late reply to an earlier request. -/
def latePacket : FtpPacket :=
  ⟨0, clientSystemId, clientComponentId, FtpPayload.encode ⟨77, 0, .ack, 0, .readFile, 0, 0, []⟩⟩

theorem foreign_latePacket : latePacket.Foreign 0 :=
  ⟨_, FtpPayload.decode_encode_of_fits (by decide) rfl, by decide⟩

/-- A late reply to an earlier request is passed over. -/
theorem costsNothing_late :
    CostsNothing vehicle _ (removal latePacket (Or.inr foreign_latePacket)) [] ⟨1, [], [], []⟩ := by
  refine (costsNothing_iff vehicle _ (removal latePacket (Or.inr foreign_latePacket))
    [] _ ?_).mpr ?_
  · intro h
    cases h
  · intro p hp
    obtain rfl := List.mem_singleton.mp hp
    decide

/-- A packet whose bytes are all 200, which is no opcode. -/
def garbledPacket : FtpPacket :=
  ⟨0, clientSystemId, clientComponentId, ⟨List.replicate 251 200, List.length_replicate⟩⟩

/-- The removal is asked for twice. -/
theorem not_costsNothing_garbled :
    ¬ CostsNothing vehicle _ (removal garbledPacket (Or.inl (by decide))) [] ⟨1, [], [], []⟩ := by
  unfold CostsNothing
  decide +kernel

end Request
end MavlinkServer.Ftp
