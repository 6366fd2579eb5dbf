/-
  File:      MavlinkServer/Ftp/Matching.lean
  Subject:   WHOSE REPLY A REQUEST GETS. The client's requests, for any
             targets at a time, against servers whose answers arrive late,
             twice, in any order or never.

  * `Net`, `step` -- requests that were sent, the calls of `send_and_receive`
    that wait for their replies, and the answers on their way: answer `k` of a
    request carries its number + 1 + `k`, with `k > 0` only for the packets of
    a burst. A call sees the hub messages from its start on;
  * `Call.result` -- what `send_and_receive` makes of what it has seen;
  * `Collides` -- an answer to another request arrives with the number a
    waiting call looks for. Only then is a reply mismatched: in runs without
    such an arrival every reply that is returned answers its own request
    (`replies_match`). With one, it does not (`burst_packet_mismatched`): the
    number is all that is compared.
-/
import MavlinkServer.Lib.Run
import MavlinkServer.Ftp.Download

namespace MavlinkServer.Ftp

open Lib Await

/-! ## 1. A call as a function of what it has seen -/

/-- `sendAndReceiveLoop` without its world: the attempts left, the error so far, the events. -/
def answer (t : Target) (seq : UInt16) :
    Nat → FtpFailure → List HubEvent → Outcome FtpFailure FtpPayload
  | 0, lastError, _ => .err lastError
  | attempts + 1, _, events =>
      match recvFtp t (some seq) events with
      | none => .waiting
      | some (.reply resp, _) => .ok resp
      | some (.failed error, rest) => answer t seq attempts error rest
      | some (.elapsed, rest) => answer t seq attempts .timedOut rest

theorem sendAndReceiveLoop_fst (t : Target) (payload : FtpPayload) :
    ∀ (attempts : Nat) (lastError : FtpFailure) (w : World),
      (sendAndReceiveLoop t payload attempts lastError w).1 =
        answer t payload.seqNumber attempts lastError w.inbox := by
  intro attempts
  induction attempts with
  | zero => exact fun _ _ => rfl
  | succ attempts ih =>
      intro lastError w
      unfold answer
      cases hr : recvFtp t (some payload.seqNumber) w.inbox with
      | none => rw [sendAndReceiveLoop_waits hr]
      | some p =>
          obtain ⟨r, rest⟩ := p
          cases r with
          | reply resp => rw [sendAndReceiveLoop_reply hr]
          | failed error =>
              rw [sendAndReceiveLoop_failed hr]
              exact ih error _
          | elapsed =>
              rw [sendAndReceiveLoop_elapsed hr]
              exact ih .timedOut _

theorem sendAndReceive_answer {t : Target} {payload resp : FtpPayload} {w w' : World}
    (h : sendAndReceive t payload w = (.ok resp, w')) :
    answer t payload.seqNumber ftpMaxRetries .timedOut w.inbox = .ok resp := by
  obtain ⟨_, w1, h1, h⟩ := bind_ok.mp h
  have hfst := sendAndReceiveLoop_fst t payload ftpMaxRetries .timedOut w1
  rw [h, subscribe_inbox h1] at hfst
  exact hfst.symm

/-- A wait that is over is not changed by what comes later. -/
theorem recvFtp_append {t : Target} {e : Option UInt16} {r : Received}
    {rest later : List HubEvent} :
    ∀ {events : List HubEvent}, recvFtp t e events = some (r, rest) →
      recvFtp t e (events ++ later) = some (r, rest ++ later)
  | [], h => by cases h
  | .elapsed :: _, h => by cases h; rfl
  | .closed :: _, h => by cases h; rfl
  | .lagged _ :: events, h => by
      have h : recvFtp t e events = some (r, rest) := h
      have found : recvFtp t e (events ++ later) = some (r, rest ++ later) := recvFtp_append h
      exact found
  | .message m :: events, h => by
      simp only [recvFtp, List.cons_append] at h ⊢
      split at h
      · exact recvFtp_append h
      · cases h; rfl
      · cases h; rfl

/-- A wait that goes on has taken nothing of what it has seen. -/
theorem recvFtp_append_none {t : Target} {e : Option UInt16} {later : List HubEvent} :
    ∀ {events : List HubEvent}, recvFtp t e events = none →
      recvFtp t e (events ++ later) = recvFtp t e later
  | [], _ => rfl
  | .elapsed :: _, h => by cases h
  | .closed :: _, h => by cases h
  | .lagged _ :: events, h => by
      have h : recvFtp t e events = none := h
      have open' : recvFtp t e (events ++ later) = recvFtp t e later := recvFtp_append_none h
      exact open'
  | .message m :: events, h => by
      simp only [recvFtp, List.cons_append] at h ⊢
      split at h
      · exact recvFtp_append_none h
      · cases h
      · cases h

/-- A call that has returned is not changed by what comes later. -/
theorem answer_append {t : Target} {seq : UInt16} {later : List HubEvent} :
    ∀ {attempts : Nat} {lastError : FtpFailure} {events : List HubEvent},
      answer t seq attempts lastError events ≠ .waiting →
        answer t seq attempts lastError (events ++ later) =
          answer t seq attempts lastError events := by
  intro attempts
  induction attempts with
  | zero => exact fun _ => rfl
  | succ attempts ih =>
      intro lastError events h
      unfold answer at h ⊢
      cases hr : recvFtp t (some seq) events with
      | none =>
          rw [hr] at h
          exact absurd rfl h
      | some p =>
          obtain ⟨r, rest⟩ := p
          rw [hr] at h
          rw [recvFtp_append hr]
          cases r with
          | reply resp => rfl
          | failed error => exact ih h
          | elapsed => exact ih h

/-- **What ends a waiting call with a reply** is a message that passes the check for its number. -/
theorem answer_event {t : Target} {seq : UInt16} {e : HubEvent} {resp : FtpPayload} :
    ∀ {attempts : Nat} {lastError : FtpFailure} {events : List HubEvent},
      answer t seq attempts lastError events = .waiting →
      answer t seq attempts lastError (events ++ [e]) = .ok resp →
        ∃ m, e = .message m ∧ examine t (some seq) m = .reply resp := by
  intro attempts
  induction attempts with
  | zero =>
      intro lastError events h _
      cases h
  | succ attempts ih =>
      intro lastError events h hok
      unfold answer at h hok
      cases hr : recvFtp t (some seq) events with
      | some p =>
          obtain ⟨r, rest⟩ := p
          rw [hr] at h
          rw [recvFtp_append hr] at hok
          cases r with
          | reply resp' => cases h
          | failed error => exact ih h hok
          | elapsed => exact ih h hok
      | none =>
          rw [recvFtp_append_none hr] at hok
          -- the one event decides: a lag and a skipped message leave the call waiting
          cases e with
          | elapsed =>
              have hok : answer t seq attempts .timedOut [] = .ok resp := hok
              cases attempts <;> cases hok
          | closed =>
              have hok : answer t seq attempts .channelClosed [] = .ok resp := hok
              cases attempts <;> cases hok
          | lagged count => cases hok
          | message m =>
              simp only [recvFtp] at hok
              cases hex : examine t (some seq) m with
              | skip =>
                  rw [hex] at hok
                  cases hok
              | failed error =>
                  rw [hex] at hok
                  have hok : answer t seq attempts error [] = .ok resp := hok
                  cases attempts <;> cases hok
              | reply resp' =>
                  rw [hex] at hok
                  cases hok
                  exact ⟨m, rfl, hex⟩

/-! ## 2. Requests and answers -/

structure Request where
  target : Target
  payload : FtpPayload
  deriving DecidableEq, Repr

/-- A call of `send_and_receive`: its request, by its place among the requests sent, and the
    events its receiver has seen. -/
structure Call where
  index : Nat
  request : Request
  inbox : List HubEvent
  deriving DecidableEq, Repr

structure Net where
  seqNumber : UInt16
  requests : List Request
  calls : List Call
  deriving DecidableEq, Repr

def Net.start (seqNumber : UInt16) : Net := ⟨seqNumber, [], []⟩

/-- What the call has come to: `sendAndReceive` on the events it has seen. -/
def Call.result (c : Call) : Outcome FtpFailure FtpPayload :=
  (sendAndReceive c.request.target c.request.payload
    { seqNumber := 0, hubAnswers := [], inbox := c.inbox, trace := [] }).1

theorem Call.result_eq (c : Call) :
    c.result = answer c.request.target c.request.payload.seqNumber ftpMaxRetries .timedOut
      c.inbox := by
  have hsub : subscribe ⟨0, [], c.inbox, []⟩ = (.ok (), ⟨0, [], c.inbox, []⟩) := rfl
  unfold Call.result sendAndReceive
  rw [bind_of_ok hsub, sendAndReceiveLoop_fst]

/-- **An honest answer** to a request: its number follows the request's, at a distance only for
    the packets of a burst; it says which opcode it answers, and data read from a file says where
    it was read. -/
structure Answers (req : Request) (k : Nat) (p : FtpPayload) : Prop where
  number : p.seqNumber = req.payload.seqNumber + 1 + UInt16.ofNat k
  first : k = 0 ∨ req.payload.opcode = .burstReadFile
  kind : p.opcode = .ack ∨ p.opcode = .nak
  opcode : p.reqOpcode = req.payload.opcode
  offset : p.opcode ≠ .nak → req.payload.opcode = .readFile → p.offset = req.payload.offset

instance (req : Request) (k : Nat) (p : FtpPayload) : Decidable (Answers req k p) :=
  decidable_of_iff (p.seqNumber = req.payload.seqNumber + 1 + UInt16.ofNat k ∧
      (k = 0 ∨ req.payload.opcode = .burstReadFile) ∧ (p.opcode = .ack ∨ p.opcode = .nak) ∧
      p.reqOpcode = req.payload.opcode ∧
      (p.opcode ≠ .nak → req.payload.opcode = .readFile → p.offset = req.payload.offset))
    ⟨fun ⟨h1, h2, h3, h4, h5⟩ => ⟨h1, h2, h3, h4, h5⟩,
      fun h => ⟨h.number, h.first, h.kind, h.opcode, h.offset⟩⟩

/-! ## 3. Runs -/

inductive NetAction where
  /-- `new_request` and the first transmission; every opcode but BurstReadFile is waited for -/
  | send (t : Target) (payload : FtpPayload)
  /-- answer `k` of request `i` reaches the hub, as message `m` -/
  | deliver (i k : Nat) (m : Protocol)
  /-- another message reaches the hub: no FTP payload of a target that was asked -/
  | noise (m : Protocol)
  /-- a timer, a lag or a closed channel at the call of request `i` -/
  | event (i : Nat) (e : HubEvent)
  deriving DecidableEq, Repr

/-- The call's receiver sees one more event. -/
def Call.see (c : Call) (e : HubEvent) : Call := { c with inbox := c.inbox ++ [e] }

/-- A hub message is seen by every call. -/
def Net.broadcast (s : Net) (m : Protocol) : Net :=
  { s with calls := s.calls.map fun c => c.see (.message m) }

def Net.step (s : Net) : NetAction → Option Net
  | .send t payload =>
      let request : Request := ⟨t, { payload with seqNumber := s.seqNumber }⟩
      some
        { seqNumber := s.seqNumber + 1
          requests := s.requests ++ [request]
          calls := if payload.opcode = .burstReadFile then s.calls
            else s.calls ++ [⟨s.requests.length, request, []⟩] }
  | .deliver i k m =>
      match s.requests[i]? with
      | none => none
      | some req =>
          match examine req.target none m with
          | .reply p => if Answers req k p then some (s.broadcast m) else none
          | _ => none
  | .noise m =>
      if ∀ req ∈ s.requests, replies req.target [.message m] = [] then some (s.broadcast m)
      else none
  | .event i e =>
      match e with
      | .message _ => none
      | e => some { s with calls := s.calls.map fun c => if c.index = i then c.see e else c }

/-- **A collision**: an answer to another request arrives with the number a waiting call of the
    same target looks for. -/
def Collides (s : Net) : NetAction → Prop
  | .deliver i _ m => ∃ c ∈ s.calls, c.index ≠ i ∧ c.result = .waiting ∧
      ∃ p ∈ replies c.request.target [.message m], p.seqNumber = c.request.payload.seqNumber + 1
  | _ => False

instance (s : Net) (a : NetAction) : Decidable (Collides s a) :=
  match a with
  | .deliver i _ m => inferInstanceAs (Decidable (∃ c ∈ s.calls, c.index ≠ i ∧
      c.result = .waiting ∧ ∃ p ∈ replies c.request.target [.message m],
        p.seqNumber = c.request.payload.seqNumber + 1))
  | .send _ _ => inferInstanceAs (Decidable False)
  | .noise _ => inferInstanceAs (Decidable False)
  | .event _ _ => inferInstanceAs (Decidable False)

/-! ## 4. Replies match their requests as long as nothing collides -/

/-- A message taken by its number is an FTP payload of the target with that number. -/
theorem examine_some {t : Target} {seq : UInt16} {m : Protocol} {resp : FtpPayload}
    (h : examine t (some seq) m = .reply resp) :
    examine t none m = .reply resp ∧ resp.seqNumber = seq + 1 := by
  obtain ⟨hid, hsys, hcomp, ⟨net, sys, comp, payload, hmav, hdec⟩, he⟩ := examine_reply h
  constructor
  · unfold examine
    rw [if_neg (by simp [hid, hsys, hcomp]), hmav]
    dsimp only
    rw [hdec]
    rfl
  · simp only [expected, Bool.and_eq_true, beq_iff_eq] at he
    exact he.1

/-- One more event at a call: what it returns now it returned before, or the event is the message
    with its number. -/
theorem Call.see_ok {c : Call} {e : HubEvent} {resp : FtpPayload} (h : (c.see e).result = .ok resp) :
    c.result = .ok resp ∨ c.result = .waiting ∧ ∃ m, e = .message m ∧
      examine c.request.target none m = .reply resp ∧
        resp.seqNumber = c.request.payload.seqNumber + 1 := by
  have hsee : (c.see e).result = answer c.request.target c.request.payload.seqNumber ftpMaxRetries
      .timedOut (c.inbox ++ [e]) := (c.see e).result_eq
  rw [hsee] at h
  rw [c.result_eq]
  by_cases hw : answer c.request.target c.request.payload.seqNumber ftpMaxRetries .timedOut
      c.inbox = .waiting
  · obtain ⟨m, he, hex⟩ := answer_event hw h
    exact Or.inr ⟨hw, m, he, examine_some hex⟩
  · rw [answer_append hw] at h
    exact Or.inl h

/-- **The invariant**: every call belongs to a request that was sent, and what it returned answers
    that request. -/
structure Matched (s : Net) : Prop where
  sent : ∀ c ∈ s.calls, s.requests[c.index]? = some c.request
  answered : ∀ c ∈ s.calls, ∀ resp, c.result = .ok resp → ∃ k, Answers c.request k resp

theorem matched_start (seqNumber : UInt16) : Matched (.start seqNumber) where
  sent := fun _ hc => absurd hc List.not_mem_nil
  answered := fun _ hc => absurd hc List.not_mem_nil

theorem matched_send {s s' : Net} {t : Target} {payload : FtpPayload} (hm : Matched s)
    (hs : s.step (.send t payload) = some s') : Matched s' := by
  cases hs
  have hold : ∀ c ∈ s.calls, (s.requests ++
      [(⟨t, { payload with seqNumber := s.seqNumber }⟩ : Request)])[c.index]? =
        some c.request := by
    intro c hc
    obtain ⟨hlt, _⟩ := List.getElem?_eq_some_iff.mp (hm.sent c hc)
    rw [List.getElem?_append_left hlt]
    exact hm.sent c hc
  by_cases hb : payload.opcode = .burstReadFile
  · refine ⟨?_, ?_⟩
    · rw [if_pos hb]
      exact hold
    · rw [if_pos hb]
      exact hm.answered
  · refine ⟨?_, ?_⟩
    · rw [if_neg hb]
      intro c hc
      rcases List.mem_append.mp hc with hc | hc
      · exact hold c hc
      · obtain rfl := List.mem_singleton.mp hc
        simp
    · rw [if_neg hb]
      intro c hc resp hr
      rcases List.mem_append.mp hc with hc | hc
      · exact hm.answered c hc resp hr
      · obtain rfl := List.mem_singleton.mp hc
        -- a call that has seen nothing waits
        rw [Call.result_eq] at hr
        cases hr

theorem matched_broadcast {s : Net} {m : Protocol} (hm : Matched s)
    (hnew : ∀ c ∈ s.calls, ∀ resp, c.result = .waiting →
      examine c.request.target none m = .reply resp →
      resp.seqNumber = c.request.payload.seqNumber + 1 → ∃ k, Answers c.request k resp) :
    Matched (s.broadcast m) := by
  constructor
  · intro c' hc'
    obtain ⟨c, hc, rfl⟩ := List.mem_map.mp hc'
    exact hm.sent c hc
  · intro c' hc' resp hr
    obtain ⟨c, hc, rfl⟩ := List.mem_map.mp hc'
    rcases Call.see_ok hr with hr | ⟨hw, m', he, hex, hseq⟩
    · exact hm.answered c hc resp hr
    · cases he
      exact hnew c hc resp hw hex hseq

/-- **One step without a collision keeps replies matched.** -/
theorem matched_step {s s' : Net} {a : NetAction} (hm : Matched s) (hC : ¬ Collides s a)
    (hs : s.step a = some s') : Matched s' := by
  cases a with
  | send t payload => exact matched_send hm hs
  | deliver i k m =>
      simp only [Net.step] at hs
      split at hs
      · cases hs
      · rename_i req hreq
        split at hs
        · rename_i p hp
          split at hs
          · rename_i hans
            cases hs
            refine matched_broadcast hm fun c hc resp hw hex hseq => ?_
            have hown : c.index = i := by
              by_contra hne
              exact hC ⟨c, hc, hne, hw, resp,
                mem_replies.mpr ⟨m, List.mem_singleton_self _, hex⟩, hseq⟩
            have hsame : req = c.request := by
              have := hm.sent c hc
              rw [hown, hreq] at this
              exact Option.some.inj this
            rw [hsame] at hp hans
            rw [hex] at hp
            cases hp
            exact ⟨k, hans⟩
          · cases hs
        · cases hs
  | noise m =>
      simp only [Net.step] at hs
      split at hs
      · rename_i hnone
        cases hs
        refine matched_broadcast hm fun c hc resp _ hex _ => ?_
        have hin : c.request ∈ s.requests := List.mem_of_getElem? (hm.sent c hc)
        have hmem : resp ∈ replies c.request.target [.message m] :=
          mem_replies.mpr ⟨m, List.mem_singleton_self _, hex⟩
        rw [hnone _ hin] at hmem
        exact absurd hmem List.not_mem_nil
      · cases hs
  | event i e =>
      have hquiet : ∀ m, e ≠ .message m := by
        intro m he
        rw [he] at hs
        cases hs
      have hcalls : s' = { s with
          calls := s.calls.map fun c => if c.index = i then c.see e else c } := by
        cases e with
        | message m => exact absurd rfl (hquiet m)
        | lagged count => cases hs; rfl
        | closed => cases hs; rfl
        | elapsed => cases hs; rfl
      rw [hcalls]
      constructor
      · intro c' hc'
        obtain ⟨c, hc, rfl⟩ := List.mem_map.mp hc'
        by_cases hi : c.index = i
        · rw [if_pos hi]
          exact hm.sent c hc
        · rw [if_neg hi]
          exact hm.sent c hc
      · intro c' hc' resp hr
        obtain ⟨c, hc, rfl⟩ := List.mem_map.mp hc'
        by_cases hi : c.index = i
        · rw [if_pos hi] at hr ⊢
          rcases Call.see_ok hr with hr | ⟨_, m, he, _⟩
          · exact hm.answered c hc resp hr
          · exact absurd he (hquiet m)
        · rw [if_neg hi] at hr ⊢
          exact hm.answered c hc resp hr

theorem matched_reach {seqNumber : UInt16} {s : Net}
    (h : Reach Net.step (fun s a => ¬ Collides s a) (.start seqNumber) s) : Matched s :=
  h.inv (matched_start seqNumber) fun _ _ _ hm hC hs => matched_step hm hC hs

/-- **Replies match as long as nothing collides.** In a run in which no answer to another request
    arrives with the number a waiting call looks for, every reply `send_and_receive` returns says
    that it answers the opcode of the request, and the bytes a repair copies were read at the
    offset they are copied to. -/
theorem replies_match {seqNumber : UInt16} {s : Net}
    (h : Reach Net.step (fun s a => ¬ Collides s a) (.start seqNumber) s) {c : Call}
    (hc : c ∈ s.calls) :
    (∀ resp, c.result = .ok resp → resp.reqOpcode = c.request.payload.opcode) ∧
    ∀ (session : UInt8) (progress : Bool) (missing : MissingBlock) (filled chunkSize : UInt32)
      (state state' : BurstReadState) (w w' : World),
      c.request.payload = repairRequest session missing filled
        (FtpPayload.newRequest .readFile w.seqNumber) →
      w.inbox = c.inbox →
      readMissingBlockChunk c.request.target session progress missing filled state w =
        (.ok (.filled chunkSize, state'), w') →
      ∃ resp, c.result = .ok resp ∧ resp.offset = missing.offset + filled ∧
        copyChunkIntoBuffer state.fileData (missing.offset + filled) resp.size.toNat resp.data =
          .ok state'.fileData := by
  have hm := matched_reach h
  constructor
  · intro resp hr
    obtain ⟨k, hans⟩ := hm.answered c hc resp hr
    exact hans.opcode
  · intro session progress missing filled chunkSize state state' w w' hreq hin hrun
    obtain ⟨req, resp, w1, rfl, hsend, _, _, hop, _, hcopy, _⟩ := readMissingBlockChunk_ok hrun
    have hr : c.result = .ok resp := by
      have hanswer := sendAndReceive_answer hsend
      rw [Call.result_eq, hreq, ← hin]
      exact hanswer
    obtain ⟨k, hans⟩ := hm.answered c hc resp hr
    refine ⟨resp, hr, ?_, hcopy⟩
    rw [hans.offset hop (by rw [hreq]; rfl), hreq]
    rfl

section Runs

/-- A repair request for the two bytes at offset 5, and the answer to it. -/
def repairActions : List NetAction :=
  [.send vehicle (repairRequest 1 ⟨5, 2⟩ 0 (FtpPayload.newRequest .readFile 0)),
   .deliver 0 0 (replyMessage vehicle (serverAck 1 .readFile 1 5 [8, 9]))]

def repairCall : Call where
  index := 0
  request := ⟨vehicle, repairRequest 1 ⟨5, 2⟩ 0 (FtpPayload.newRequest .readFile 0)⟩
  inbox := [packet vehicle (serverAck 1 .readFile 1 5 [8, 9])]

theorem replies_match_repair :
    repairCall.result = .ok (serverAck 1 .readFile 1 5 [8, 9]) ∧
      (serverAck 1 .readFile 1 5 [8, 9]).reqOpcode = .readFile ∧
      ∃ resp, repairCall.result = .ok resp ∧ resp.offset = 5 + 0 ∧
        copyChunkIntoBuffer [1, 2, 3, 4, 5, 0, 0] (5 + 0) resp.size.toNat resp.data =
          .ok [1, 2, 3, 4, 5, 8, 9] := by
  have hrun : execC Net.step (fun s a => ¬ Collides s a) (.start 0) repairActions =
      some ⟨1, [repairCall.request], [repairCall]⟩ := by
    decide +kernel
  have hreach := reach_of_execC hrun
  have hresult : repairCall.result = .ok (serverAck 1 .readFile 1 5 [8, 9]) := by
    decide +kernel
  have hcopied : (readMissingBlockChunk vehicle 1 false ⟨5, 2⟩ 0
      { BurstReadState.new 0 with fileData := [1, 2, 3, 4, 5, 0, 0] }
      ⟨0, [], repairCall.inbox, []⟩).1 =
        .ok (.filled 2, { BurstReadState.new 0 with
          fileData := [1, 2, 3, 4, 5, 8, 9], bytesWritten := 2 }) := by
    decide +kernel
  obtain ⟨hopcode, hrepair⟩ := replies_match hreach (List.mem_singleton_self repairCall)
  exact ⟨hresult, hopcode _ hresult,
    hrepair 1 false ⟨5, 2⟩ 0 2 _ _ ⟨0, [], repairCall.inbox, []⟩ _ rfl rfl (run_eq hcopied)⟩

/-- **A late burst packet is taken for the reply to the next request.** The burst request has
    number 0 and its second packet number 2, which is what the ReadFile request 1 looks for: nine
    bytes into the file is where the packet was read, and the repair wants offset 5. -/
theorem burst_packet_mismatched :
    ¬ ∀ (seqNumber : UInt16) (s : Net), Reach Net.step Free (.start seqNumber) s →
      ∀ c ∈ s.calls, ∀ resp, c.result = .ok resp →
        resp.reqOpcode = c.request.payload.opcode := by
  intro hall
  have hrun : ∃ s, Reach Net.step Free (.start 0) s ∧ ∃ c ∈ s.calls,
      c.result = .ok (serverAck 2 .burstReadFile 1 9 [7]) ∧
        c.request.payload.opcode = .readFile :=
    exists_of_execC [.send vehicle (FtpPayload.newRequest .burstReadFile 0),
      .send vehicle (repairRequest 1 ⟨5, 2⟩ 0 (FtpPayload.newRequest .readFile 0)),
      .deliver 0 1 (replyMessage vehicle (serverAck 2 .burstReadFile 1 9 [7]))]
      (by decide +kernel)
  obtain ⟨s, hs, c, hc, hr, hop⟩ := hrun
  have hmatch := hall 0 s hs c hc _ hr
  rw [hop] at hmatch
  exact absurd hmatch (by decide)

end Runs

end MavlinkServer.Ftp
