/-
  File:      MavlinkServer/Ftp/Transport.lean
  Subject:   REQUESTS OUT, HUB MESSAGES IN
             (`src/lib/drivers/rest/mavftp/transport.rs`).

  One FTP operation runs against a `World`: the process-wide request counter,
  the hub messages its receivers will yield and what the hub answers to
  requests for its sender. What other tasks and the network do in the meantime
  is in that input; what the operation itself does is recorded in `trace`.

  * `Protocol`, `HubEvent` -- what a wait on the hub receiver yields: a
    message, a lag notice, a closed channel, or the timer around the wait;
  * `examine` -- the body of `recv_ftp`'s loop for one message, `recvFtp` the
    loop; `awaitFtp` -- the wait, as the client runs it under a timeout;
  * `sendFtpMessage`, `newRequest`, `subscribe`;
  * `Emits P` -- an operation records only events that meet `P`.
-/
import MavlinkServer.Lib.Await
import MavlinkServer.Ftp.Protocol

namespace MavlinkServer.Ftp

open Lib

/-! ## 1. Messages -/

def ftpMessageId : UInt32 := 110

/-- The vehicle component an operation talks to (`target_system`, `target_component`). -/
structure Target where
  systemId : UInt8
  componentId : UInt8
  deriving DecidableEq, Repr

/-- What the MAVLink parser makes of a message, as far as the FTP client looks. -/
inductive MavMessage where
  | fileTransferProtocol (targetNetwork targetSystem targetComponent : UInt8) (payload : FtpBuffer)
  | other
  deriving DecidableEq, Repr

/-- A message on the hub: the header fields of its packet, and the result of parsing it
    (`to_mavlink`, third-party code; `none` where it fails). -/
structure Protocol where
  messageId : UInt32
  systemId : UInt8
  componentId : UInt8
  toMavlink : Option MavMessage
  deriving DecidableEq, Repr

/-- What a wait on the hub receiver can see. `elapsed` is the timer of the `timeout` around it. -/
inductive HubEvent where
  | message (protocol : Protocol)
  | lagged (count : UInt64)
  | closed
  | elapsed
  deriving DecidableEq, Repr

/-- The header of this ground station (`control_send_task` of the REST driver). -/
def clientSystemId : UInt8 := 255
def clientComponentId : UInt8 := 190

/-- A payload on its way from the target to this ground station. -/
def replyMessage (t : Target) (payload : FtpPayload) : Protocol where
  messageId := ftpMessageId
  systemId := t.systemId
  componentId := t.componentId
  toMavlink := some (.fileTransferProtocol 0 clientSystemId clientComponentId payload.encode)

def packet (t : Target) (payload : FtpPayload) : HubEvent := .message (replyMessage t payload)

/-! ## 2. Receiving -/

/-- What `recv_ftp` does with one message. -/
inductive Examined where
  | skip
  | failed (error : FtpFailure)
  | reply (resp : FtpPayload)
  deriving DecidableEq, Repr

/-- A reply is looked for by its number only; without an expected number every FTP payload of
    the target is taken. `seq + 1` wraps at 16 bits. -/
def expected (expectedSeq : Option UInt16) (resp : FtpPayload) : Bool :=
  match expectedSeq with
  | none => true
  | some seq => resp.seqNumber == seq + 1 && (resp.opcode == .ack || resp.opcode == .nak)

/-- The body of `recv_ftp`'s loop. -/
def examine (t : Target) (expectedSeq : Option UInt16) (protocol : Protocol) : Examined :=
  if protocol.messageId ≠ ftpMessageId ∨ protocol.systemId ≠ t.systemId ∨
      protocol.componentId ≠ t.componentId then
    .skip
  else
    match protocol.toMavlink with
    | none => .skip
    | some .other => .skip
    | some (.fileTransferProtocol _ _ _ payload) =>
        match FtpPayload.decode payload with
        | .error error => .failed error
        | .ok resp => if expected expectedSeq resp then .reply resp else .skip

/-- The result of one wait under `tokio::time::timeout`. -/
inductive Received where
  | reply (resp : FtpPayload)
  | failed (error : FtpFailure)
  | elapsed
  deriving DecidableEq, Repr

/-- `recv_ftp` under its timeout, on the events to come: the result and the events left, or
    `none` while the events do not decide it. -/
def recvFtp (t : Target) (expectedSeq : Option UInt16) :
    List HubEvent → Option (Received × List HubEvent)
  | [] => none
  | .elapsed :: rest => some (.elapsed, rest)
  | .closed :: rest => some (.failed .channelClosed, rest)
  | .lagged _ :: rest => recvFtp t expectedSeq rest
  | .message protocol :: rest =>
      match examine t expectedSeq protocol with
      | .skip => recvFtp t expectedSeq rest
      | .failed error => some (.failed error, rest)
      | .reply resp => some (.reply resp, rest)

/-- A packet of the target that fits is read back, and taken when its number is looked for. -/
theorem recvFtp_packet {t : Target} {e : Option UInt16} {p : FtpPayload} {rest : List HubEvent}
    (hfit : p.data.length ≤ ftpDataMaxLen) (hsize : p.size.toNat = p.data.length)
    (he : expected e p = true) : recvFtp t e (packet t p :: rest) = some (.reply p, rest) := by
  simp only [packet, replyMessage, recvFtp, examine, ne_eq, not_true_eq_false, or_self, if_false,
    FtpPayload.decode_encode_of_fits hfit hsize, he, if_true]

/-- The FTP payloads of the target among the events. -/
def replies (t : Target) (events : List HubEvent) : List FtpPayload :=
  events.filterMap fun
    | .message m =>
        match examine t none m with
        | .reply resp => some resp
        | _ => none
    | _ => none

theorem mem_replies {t : Target} {events : List HubEvent} {resp : FtpPayload} :
    resp ∈ replies t events ↔ ∃ m, .message m ∈ events ∧ examine t none m = .reply resp := by
  unfold replies
  rw [List.mem_filterMap]
  constructor
  · rintro ⟨e, he, hr⟩
    cases e with
    | message m =>
        dsimp only at hr
        split at hr
        · rename_i r hex
          cases hr
          exact ⟨m, he, hex⟩
        · cases hr
    | lagged _ => cases hr
    | closed => cases hr
    | elapsed => cases hr
  · rintro ⟨m, hm, hex⟩
    refine ⟨.message m, hm, ?_⟩
    dsimp only
    rw [hex]

/-- The message a payload was read from passed every check `recv_ftp` makes. -/
theorem examine_reply {t : Target} {e : Option UInt16} {m : Protocol} {resp : FtpPayload}
    (h : examine t e m = .reply resp) :
    m.messageId = ftpMessageId ∧ m.systemId = t.systemId ∧ m.componentId = t.componentId ∧
      (∃ net sys comp payload, m.toMavlink = some (.fileTransferProtocol net sys comp payload) ∧
        FtpPayload.decode payload = .ok resp) ∧ expected e resp = true := by
  unfold examine at h
  split at h
  · cases h
  · rename_i hid
    simp only [not_or, Decidable.not_not] at hid
    split at h
    · cases h
    · cases h
    · rename_i net sys comp payload hm
      split at h
      · cases h
      · rename_i r hd
        split at h
        · rename_i he
          cases h
          exact ⟨hid.1, hid.2.1, hid.2.2, ⟨net, sys, comp, payload, hm, hd⟩, he⟩
        · cases h

/-- A wait that ends with a reply read it from one of its messages; all it used up is a front
    part of the events. -/
theorem recvFtp_reply {t : Target} {e : Option UInt16} {resp : FtpPayload} {rest : List HubEvent} :
    ∀ {events : List HubEvent}, recvFtp t e events = some (.reply resp, rest) →
      ∃ m, .message m ∈ events ∧ examine t e m = .reply resp
  | [], h => by cases h
  | .elapsed :: _, h => by simp [recvFtp] at h
  | .closed :: _, h => by simp [recvFtp] at h
  | .lagged _ :: events, h => by
      simp only [recvFtp] at h
      obtain ⟨m, hm, he⟩ := recvFtp_reply h
      exact ⟨m, List.mem_cons_of_mem _ hm, he⟩
  | .message m :: events, h => by
      simp only [recvFtp] at h
      split at h
      · obtain ⟨m', hm, he⟩ := recvFtp_reply h
        exact ⟨m', List.mem_cons_of_mem _ hm, he⟩
      · cases h
      · rename_i r hex
        cases h
        exact ⟨m, List.mem_cons_self, hex⟩

/-- A wait uses up a front part of the events, and at least one. -/
theorem recvFtp_suffix {t : Target} {e : Option UInt16} {r : Received} {rest : List HubEvent} :
    ∀ {events : List HubEvent}, recvFtp t e events = some (r, rest) →
      ∃ event used, events = event :: used ++ rest
  | [], h => by cases h
  | .elapsed :: _, h => by cases h; exact ⟨_, [], rfl⟩
  | .closed :: _, h => by cases h; exact ⟨_, [], rfl⟩
  | .lagged _ :: events, h => by
      simp only [recvFtp] at h
      obtain ⟨event, used, he⟩ := recvFtp_suffix h
      exact ⟨_, event :: used, by rw [he]; rfl⟩
  | .message m :: events, h => by
      simp only [recvFtp] at h
      split at h
      · obtain ⟨event, used, he⟩ := recvFtp_suffix h
        exact ⟨_, event :: used, by rw [he]; rfl⟩
      · cases h; exact ⟨_, [], rfl⟩
      · cases h; exact ⟨_, [], rfl⟩

theorem recvFtp_shorter {t : Target} {e : Option UInt16} {r : Received}
    {events rest : List HubEvent} (h : recvFtp t e events = some (r, rest)) :
    rest.length < events.length := by
  obtain ⟨event, used, rfl⟩ := recvFtp_suffix h
  simp only [List.length_append, List.length_cons]
  omega

/-! ## 3. The world of an operation -/

/-- What an operation does, in order. `sent` is the effect the vehicle sees; the other events
    observe the operation: locks taken and released, replies taken by `send_and_receive`, the
    session opened, chunks copied in and Naks that ended the burst, stores to `progress`. -/
inductive FtpEvent where
  | locked (t : Target)
  | unlocked (t : Target)
  | sent (message : MavMessage)
  | accepted (request reply : FtpPayload)
  | opened (session : UInt8) (fileSize : Nat)
  | copied (chunk : FtpPayload)
  | ended (nak : FtpPayload)
  | progress (value : UInt64)
  deriving DecidableEq, Repr

structure World where
  /-- `SEQ_NUMBER`, shared by all requests of the process -/
  seqNumber : UInt16
  /-- whether the hub answers the next requests for its sender; it does when this runs out -/
  hubAnswers : List Bool
  /-- what the receivers will yield -/
  inbox : List HubEvent
  trace : List FtpEvent
  deriving DecidableEq, Repr

/-- An FTP client function. -/
abbrev Client (α : Type) : Type := Await World FtpFailure α

/-- Record an event. -/
def note (event : FtpEvent) : Client Unit :=
  Await.modify fun w => { w with trace := w.trace ++ [event] }

/-- `SEQ_NUMBER.fetch_add(1)`: the old value is the number of the request. -/
def nextSeq : Client UInt16 := fun w => (.ok w.seqNumber, { w with seqNumber := w.seqNumber + 1 })

def newRequest (opcode : FtpOpcode) : Client FtpPayload := do
  let seq ← nextSeq
  pure (FtpPayload.newRequest opcode seq)

def subscribe : Client Unit := fun w =>
  match w.hubAnswers with
  | [] => (.ok (), w)
  | true :: answers => (.ok (), { w with hubAnswers := answers })
  | false :: answers => (.err .hubUnavailable, { w with hubAnswers := answers })

def buildFtpMessage (t : Target) (payload : FtpPayload) : MavMessage :=
  .fileTransferProtocol 0 t.systemId t.componentId payload.encode

def sendFtpMessage (t : Target) (payload : FtpPayload) : Client Unit :=
  note (.sent (buildFtpMessage t payload))

/-- One wait of the client: `timeout(.., recv_ftp(..)).await`. -/
def awaitFtp (t : Target) (expectedSeq : Option UInt16) : Client Received := fun w =>
  match recvFtp t expectedSeq w.inbox with
  | none => (.waiting, { w with inbox := [] })
  | some (r, rest) => (.ok r, { w with inbox := rest })

def updateProgress (value : UInt64) : Client Unit := note (.progress value)

theorem awaitFtp_ok {t : Target} {e : Option UInt16} {w w' : World} {r : Received} :
    awaitFtp t e w = (.ok r, w') ↔
      ∃ rest, recvFtp t e w.inbox = some (r, rest) ∧ w' = { w with inbox := rest } := by
  unfold awaitFtp
  split
  · rename_i h
    simp [h]
  · rename_i r' rest h
    constructor
    · intro heq
      cases heq
      exact ⟨rest, h, rfl⟩
    · rintro ⟨rest', h', rfl⟩
      rw [h] at h'
      cases h'
      rfl

/-- Nothing that is in the inbox ends the wait. -/
theorem awaitFtp_waiting {t : Target} {e : Option UInt16} {w : World}
    (h : recvFtp t e w.inbox = none) : awaitFtp t e w = (.waiting, { w with inbox := [] }) := by
  simp only [awaitFtp, h]

theorem note_ok {e : FtpEvent} {u : Unit} {w w' : World} :
    note e w = (.ok u, w') ↔ w' = { w with trace := w.trace ++ [e] } := by
  unfold note
  rw [Await.modify_ok]
  exact eq_comm

/-! ## 4. What an operation records -/

/-- `w'` is a later world of the same operation: the trace grew by events that meet `P`, and what
    was read is a front part of the input. -/
structure Emitted (P : FtpEvent → Prop) (w w' : World) : Prop where
  trace : ∃ events, w'.trace = w.trace ++ events ∧ ∀ e ∈ events, P e
  inbox : w'.inbox <:+ w.inbox

variable {P : FtpEvent → Prop}

/-- Nothing recorded, some input read. -/
theorem Emitted.quiet {w w' : World} (ht : w'.trace = w.trace) (hi : w'.inbox <:+ w.inbox) :
    Emitted P w w' :=
  ⟨⟨[], by rw [ht, List.append_nil], fun _ h => absurd h List.not_mem_nil⟩, hi⟩

instance : Std.Refl (Emitted P) := ⟨fun _ => .quiet rfl (List.suffix_refl _)⟩

instance : IsTrans World (Emitted P) :=
  ⟨fun w1 w2 w3 h12 h23 => by
    obtain ⟨l1, e1, hP1⟩ := h12.trace
    obtain ⟨l2, e2, hP2⟩ := h23.trace
    refine ⟨⟨l1 ++ l2, by rw [e2, e1, List.append_assoc], fun e he => ?_⟩, h23.inbox.trans h12.inbox⟩
    rcases List.mem_append.mp he with h | h
    · exact hP1 e h
    · exact hP2 e h⟩

/-- **Every event the operation records meets `P`**, in every run, finished or not. -/
abbrev Emits {α : Type} (P : FtpEvent → Prop) (x : Client α) : Prop := Await.Moves (Emitted P) x

theorem emits_note {e : FtpEvent} (h : P e) : Emits P (note e) :=
  Await.Moves.modify fun _ => ⟨⟨[e], rfl, fun _ he => (List.mem_singleton.mp he) ▸ h⟩,
    List.suffix_refl _⟩

theorem emits_nextSeq : Emits P nextSeq := fun _ => .quiet rfl (List.suffix_refl _)

theorem emits_newRequest {opcode : FtpOpcode} : Emits P (newRequest opcode) :=
  Await.Moves.bind emits_nextSeq fun _ => Await.Moves.pure _

theorem emits_subscribe : Emits P subscribe := fun w => by
  unfold subscribe
  split
  all_goals exact .quiet rfl (List.suffix_refl _)

theorem emits_awaitFtp {t : Target} {e : Option UInt16} : Emits P (awaitFtp t e) := fun w => by
  unfold awaitFtp
  split
  · exact .quiet rfl List.nil_suffix
  · rename_i r rest h
    obtain ⟨event, used, he⟩ := recvFtp_suffix h
    exact .quiet rfl ⟨event :: used, he.symm⟩

/-- The weakest thing to say about what is recorded: the trace only grows. -/
theorem Emitted.mem {w w' : World} (h : Emitted P w w') {e : FtpEvent} (he : e ∈ w.trace) :
    e ∈ w'.trace := by
  obtain ⟨l, hl, _⟩ := h.trace
  rw [hl]
  exact List.mem_append_left _ he

theorem Emitted.imp {Q : FtpEvent → Prop} {w w' : World} (hPQ : ∀ e, P e → Q e)
    (h : Emitted P w w') : Emitted Q w w' := by
  obtain ⟨l, hl, hP⟩ := h.trace
  exact ⟨⟨l, hl, fun e he => hPQ e (hP e he)⟩, h.inbox⟩

end MavlinkServer.Ftp
