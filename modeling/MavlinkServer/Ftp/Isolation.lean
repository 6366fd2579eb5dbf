/-
  File:      MavlinkServer/Ftp/Isolation.lean
  Subject:   WHOSE PACKETS A BURST TAKES. What stands between one download and
             the other FTP traffic on the hub.

  * `CameFrom` -- a payload was read from an FTP message of the target, among
    the events that arrive;
  * `FromTarget` -- chunks that are copied and Naks that end the burst came
    from the target, and carry the opcodes the burst asks for;
  * `burstReadFileInner_fromTarget` -- so in every read, whatever arrives;
  * `burstReadFileInner_foreign` -- the session and the addressee of a packet
    are compared nowhere: a chunk of another session is copied, and a Nak to
    another ground station ends the burst.
-/
import MavlinkServer.Ftp.Download

namespace MavlinkServer.Ftp

open Lib Await

/-! ## 1. Where a payload came from -/

/-- `resp` is the payload of an FTP message of the target among the events. -/
def CameFrom (t : Target) (events : List HubEvent) (resp : FtpPayload) : Prop :=
  ∃ m net sys comp payload, .message m ∈ events ∧ m.messageId = ftpMessageId ∧
    m.systemId = t.systemId ∧ m.componentId = t.componentId ∧
    m.toMavlink = some (.fileTransferProtocol net sys comp payload) ∧
    FtpPayload.decode payload = .ok resp

theorem cameFrom_reply {t : Target} {e : Option UInt16} {events rest : List HubEvent}
    {resp : FtpPayload} (h : recvFtp t e events = some (.reply resp, rest)) :
    CameFrom t events resp := by
  obtain ⟨m, hm, hex⟩ := recvFtp_reply h
  obtain ⟨hid, hsys, hcomp, ⟨net, sys, comp, payload, hmav, hdec⟩, _⟩ := examine_reply hex
  exact ⟨m, net, sys, comp, payload, hm, hid, hsys, hcomp, hmav, hdec⟩

theorem CameFrom.suffix {t : Target} {events rest : List HubEvent} {resp : FtpPayload}
    (h : CameFrom t rest resp) (hs : rest <:+ events) : CameFrom t events resp := by
  obtain ⟨m, net, sys, comp, payload, hm, h⟩ := h
  exact ⟨m, net, sys, comp, payload, hs.subset hm, h⟩

/-- **What the burst checks of the packets it acts on.** -/
def FromTarget (t : Target) (events : List HubEvent) : FtpEvent → Prop
  | .copied chunk => CameFrom t events chunk ∧ chunk.opcode = .ack ∧
      chunk.reqOpcode = .burstReadFile ∧ chunk.size ≠ 0
  | .ended nak => CameFrom t events nak ∧ nak.opcode = .nak
  | _ => True

/-- What the request layer records is no matter of the burst. -/
instance (t t' : Target) (events : List HubEvent) :
    Admits (FromTarget t events) t' (fun _ => True) where
  sent _ _ := trivial
  accepted _ _ _ := trivial
  progress _ := trivial

instance (t t' : Target) (events : List HubEvent) : AdmitsLock (FromTarget t events) t' :=
  ⟨trivial, trivial⟩

/-! ## 2. The burst phase -/

theorem extendContiguous_nonempty {state state' : BurstReadState} {resp : FtpPayload}
    (h : extendContiguous state resp = .ok (some state')) : resp.size ≠ 0 := by
  intro hz
  unfold extendContiguous at h
  rw [if_pos hz] at h
  cases h

theorem emits_applyBurstChunk_fromTarget {t : Target} {events : List HubEvent}
    {state : BurstReadState} {resp : FtpPayload} {progress : Bool}
    (hfrom : CameFrom t events resp) (hack : resp.opcode = .ack)
    (hreq : resp.reqOpcode = .burstReadFile) :
    Emits (FromTarget t events) (applyBurstChunk state resp progress) := by
  unfold applyBurstChunk
  cases hx : extendContiguous state resp with
  | error error => exact Moves.fail _
  | ok o =>
      cases o with
      | none => exact Moves.pure _
      | some state' =>
          have hcopied : FromTarget t events (.copied resp) :=
            ⟨hfrom, hack, hreq, extendContiguous_nonempty hx⟩
          refine Moves.bind (emits_note hcopied) fun _ => ?_
          exact Moves.bind (emits_storeProgress fun _ => trivial) fun _ => Moves.pure _

/-- One round of the loop reads one reply of the target; the induction is on the fuel, over
    every front part of the events already read. -/
theorem emitted_burstLoop {t : Target} {events : List HubEvent} {session : UInt8}
    {progress : Bool} :
    ∀ (fuel : Nat) (state : BurstReadState) (retries : Nat) (w : World), w.inbox <:+ events →
      Emitted (FromTarget t events) w (burstLoop t session progress fuel state retries w).2 := by
  have stop : ∀ {β : Type} (error : FtpFailure),
      Emits (FromTarget t events)
        (do terminateSessionBestEffort t session; (fail error : Client β)) :=
    fun error => Moves.bind (emits_terminateSessionBestEffort (fun _ _ => trivial) session)
      fun _ => Moves.fail error
  intro fuel
  induction fuel with
  | zero => exact fun _ _ w _ => Moves.stuck w
  | succ fuel ih =>
      intro state retries w hw
      unfold burstLoop
      refine Moves.bind_at (emits_awaitFtp w) fun r w1 h1 => ?_
      have hw1 : w1.inbox <:+ events := (emits_awaitFtp (P := fun _ => True)).of_eq h1
        |>.inbox.trans hw
      cases r with
      | failed error => exact ih state retries w1 hw1
      | elapsed =>
          exact Moves.ite (stop _) (Moves.pure _) w1
      | reply resp =>
          obtain ⟨rest, hrecv, rfl⟩ := awaitFtp_ok.mp h1
          have hfrom : CameFrom t events resp := (cameFrom_reply hrecv).suffix hw
          dsimp only
          cases hnak : checkNak resp with
          | error nak =>
              have hended : FromTarget t events (.ended resp) := ⟨hfrom, checkNak_error hnak⟩
              exact Moves.bind (emits_note hended)
                (fun _ => Moves.ite (Moves.pure _) (stop _)) _
          | ok u =>
              dsimp only
              split
              · exact ih state retries _ hw1
              · rename_i hburst
                simp only [not_or, Decidable.not_not] at hburst
                have happly : Emits (FromTarget t events) (applyBurstChunk state resp progress) :=
                  emits_applyBurstChunk_fromTarget hfrom hburst.1 hburst.2
                refine Moves.bind_at (happly _) fun o w2 h2 => ?_
                have hw2 : w2.inbox <:+ events := (happly.of_eq h2).inbox.trans hw1
                cases o with
                | none => exact ih state retries w2 hw2
                | some state' =>
                    dsimp only
                    split
                    · exact Moves.pure _ w2
                    · exact ih _ 0 w2 hw2

theorem emitted_runBurstCycle {t : Target} {events : List HubEvent} {session : UInt8}
    {progress : Bool} {state : BurstReadState} {retries : Nat} {w : World}
    (hw : w.inbox <:+ events) :
    Emitted (FromTarget t events) w (runBurstCycle t session progress state retries w).2 := by
  have hnew : Emits (FromTarget t events) (newRequest .burstReadFile) := emits_newRequest
  refine Moves.bind_at (hnew w) fun req w1 h1 => ?_
  have hw1 := (hnew.of_eq h1).inbox.trans hw
  have hsend : ∀ payload, Emits (FromTarget t events) (sendFtpMessage t payload) :=
    fun _ => emits_note trivial
  refine Moves.bind_at (hsend _ w1) fun _ w2 h2 => ?_
  exact emitted_burstLoop _ state retries w2 (((hsend _).of_eq h2).inbox.trans hw1)

theorem emitted_burstPhase {t : Target} {events : List HubEvent} {session : UInt8}
    {progress : Bool} :
    ∀ (fuel : Nat) (state : BurstReadState) (retries : Nat) (w : World), w.inbox <:+ events →
      Emitted (FromTarget t events) w (burstPhase t session progress fuel state retries w).2 := by
  intro fuel
  induction fuel with
  | zero => exact fun _ _ w _ => Moves.stuck w
  | succ fuel ih =>
      intro state retries w hw
      have hcycle : Emitted (FromTarget t events) w
          (runBurstCycle t session progress state retries w).2 := emitted_runBurstCycle hw
      refine Moves.bind_at hcycle fun r w1 h1 => ?_
      rw [h1] at hcycle
      have hw1 : w1.inbox <:+ events := hcycle.inbox.trans hw
      obtain ⟨outcome, state', retries'⟩ := r
      cases outcome with
      | «continue» => exact ih state' retries' w1 hw1
      | eof => exact Moves.pure _ w1

/-! ## 3. A whole read -/

theorem emitted_burstReadFileInner {t : Target} {path : List UInt8} {progress : Bool}
    {maxSize : Option Nat} (w : World) :
    Emitted (FromTarget t (burstInput t path maxSize w)) w
      (burstReadFileInner t path progress maxSize w).2 := by
  have hopen : Emits (FromTarget t (burstInput t path maxSize w))
      (openReadSession t path maxSize) :=
    emits_openReadSession (fun _ _ => trivial) (fun _ => trivial) (fun _ _ => trivial)
      (fun _ _ => trivial)
  refine emitted_withTargetLock ?_
  refine Moves.bind_at (hopen _) fun r w1 h1 => ?_
  have hw1 : w1.inbox = burstInput t path maxSize w := by rw [burstInput, h1]
  refine Moves.bind_at (emits_subscribe w1) fun _ w2 h2 => ?_
  have hw2 : w2.inbox <:+ burstInput t path maxSize w := by
    have hsame : w2.inbox = burstInput t path maxSize w := (subscribe_inbox h2).trans hw1
    exact hsame ▸ List.suffix_refl _
  refine Moves.bind_at (emitted_burstPhase _ _ _ w2 hw2) fun state w3 _ => ?_
  have hfill : Emits (FromTarget t (burstInput t path maxSize w))
      (fillMissingBlocks t r.1 progress state) :=
    emits_fillBlocks (fun _ _ => trivial) (fun _ _ => trivial) _ _
  exact Moves.bind hfill (fun state' => emits_finishReadSession fun _ _ => trivial) w3

/-- **Every chunk that is copied and every Nak that ends the burst came from the target**: from
    an FTP message of the target's system and component that arrived in the burst phase. A chunk
    is a non-empty Ack of BurstReadFile, a Nak that ends the burst is a Nak. -/
theorem burstReadFileInner_fromTarget (t : Target) (path : List UInt8) (progress : Bool)
    (maxSize : Option Nat) (w : World) :
    ∃ events, (burstReadFileInner t path progress maxSize w).2.trace = w.trace ++ events ∧
      ∀ e ∈ events, FromTarget t (burstInput t path maxSize w) e :=
  (emitted_burstReadFileInner w).trace

section Runs

/-- A message with this payload, addressed to this ground station. -/
def addressedToClient (resp : FtpPayload) : HubEvent → Bool
  | .message m =>
      match m.toMavlink with
      | some (.fileTransferProtocol _ sys comp payload) =>
          sys = clientSystemId ∧ comp = clientComponentId ∧ FtpPayload.decode payload = .ok resp
      | _ => false
  | _ => false

/-- What a read acted on in its burst phase: the chunks copied, the Nak that ended it. -/
def actedOn (trace : List FtpEvent) : List FtpPayload :=
  trace.filterMap fun
    | .copied chunk => some chunk
    | .ended nak => some nak
    | _ => none

/-- A read of session 1. A chunk of session 9 arrives, then an Eof to another ground station. -/
def mixedRun : World where
  seqNumber := 0
  hubAnswers := []
  inbox := [packet vehicle (serverAck 1 .resetSessions 0 0 []),
    packet vehicle (serverAck 2 .openFileRO 1 0 [2, 0, 0, 0]),
    packet vehicle (serverAck 40 .burstReadFile 9 0 [5, 6]),
    .message
      { messageId := ftpMessageId
        systemId := 1
        componentId := 1
        toMavlink := some (.fileTransferProtocol 0 200 1
          (serverNak 70 .burstReadFile 1 2 6).encode) },
    packet vehicle (serverAck 4 .terminateSession 1 0 [])]
  trace := []

/-- **Neither the session nor the addressee of a packet is compared.** In `mixedRun` the chunk of
    session 9 becomes the content of the file read in session 1, and the Nak to another ground
    station ends the burst. -/
theorem burstReadFileInner_foreign :
    (¬ ∀ (t : Target) (path : List UInt8) (progress : Bool) (maxSize : Option Nat) (w : World),
      ∀ resp ∈ actedOn (burstReadFileInner t path progress maxSize w).2.trace,
        ∀ o ∈ openings (burstReadFileInner t path progress maxSize w).2.trace,
          resp.session = o.1) ∧
    ¬ ∀ (t : Target) (path : List UInt8) (progress : Bool) (maxSize : Option Nat) (w : World),
      ∀ resp ∈ actedOn (burstReadFileInner t path progress maxSize w).2.trace,
        ∃ e ∈ w.inbox, addressedToClient resp e := by
  have hacted : actedOn (burstReadFileInner vehicle [97] false none mixedRun).2.trace =
      [serverAck 40 .burstReadFile 9 0 [5, 6], serverNak 70 .burstReadFile 1 2 6] := by
    decide +kernel
  have hopen : openings (burstReadFileInner vehicle [97] false none mixedRun).2.trace =
      [(1, 2)] := by
    decide +kernel
  constructor
  · intro hall
    have hsession := hall vehicle [97] false none mixedRun
    rw [hacted, hopen] at hsession
    exact absurd hsession (by decide)
  · intro hall
    have hto := hall vehicle [97] false none mixedRun
    rw [hacted] at hto
    have hnone : ¬ ∃ e ∈ mixedRun.inbox,
        addressedToClient (serverNak 70 .burstReadFile 1 2 6) e := by
      decide +kernel
    exact hnone (hto (serverNak 70 .burstReadFile 1 2 6) (by decide))

end Runs

end MavlinkServer.Ftp
