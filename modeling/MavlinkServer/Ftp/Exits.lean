/-
  File:      MavlinkServer/Ftp/Exits.lean
  Subject:   EVERY WAY OUT OF A READ OR A WRITE with an open session. One lemma
             for each function, from the innermost one: it goes the way
             `SessionPoint.next` says, and `Leaks` is exact for it.

  * `terminates` -- the request that is owed;
  * `ExitsOpen L M x w` -- `L` says exactly whether `x` returns from `w` with
    the session open;
  * `Came` -- a run of `send_and_receive` against its input;
  * `exits_…` -- the functions; `…_shorter` -- a round that goes on has read
    something, so the fuel of the loops lasts.
-/
import MavlinkServer.Lib.Exits
import MavlinkServer.Ftp.Session

namespace MavlinkServer.Ftp

open Lib Await

/-! ## 1. The request that is owed -/

def addressed (t : Target) : FtpEvent → Bool
  | .sent (.fileTransferProtocol _ systemId componentId _) =>
      systemId == t.systemId && componentId == t.componentId
  | _ => false

/-- A request that the target reads as TerminateSession of this session. -/
def terminates (t : Target) (session : UInt8) (e : FtpEvent) : Bool :=
  addressed t e && (requestRead e).any fun req =>
    req.opcode == .terminateSession && req.session == session

/-- **`L` says exactly whether `x` returns from `w` with the session open**, given that `M` says so
    of the world behind it. -/
abbrev ExitsOpen {α : Type} (t : Target) (session : UInt8) (L : Prop) (M : α → World → Prop)
    (x : Client α) (w : World) : Prop :=
  Exits World.trace (terminates t session) L M x w

variable {t : Target} {session : UInt8} {α : Type} {L : Prop} {N : α → World → Prop} {w : World}

theorem terminates_sent (t' : Target) (req : FtpPayload) :
    terminates t session (.sent (buildFtpMessage t' req)) =
      (t'.systemId == t.systemId && t'.componentId == t.componentId &&
        (req.opcode == .terminateSession && req.session == session)) := by
  unfold terminates
  rw [requestRead_sent]
  rfl

/-- A request of another opcode terminates nothing. -/
theorem terminates_asks {e : FtpEvent} (h : Asks (fun req => req.opcode ≠ .terminateSession) e) :
    terminates t session e = false := by
  cases e with
  | sent message =>
      obtain ⟨t', req, rfl, hop⟩ := h
      simp [terminates_sent, hop]
  | _ => rfl

theorem Emitted.quiet_of {P : FtpEvent → Prop} {w w' : World} (h : Emitted P w w')
    (hP : ∀ e, P e → terminates t session e = false) :
    Quiet World.trace (terminates t session) w w' := by
  obtain ⟨events, heq, hevents⟩ := h.trace
  exact ⟨events, heq, by simpa using fun e he => hP e (hevents e he)⟩

/-! ## 2. One request -/

/-- What a run of `send_and_receive` came to, against what its input says. -/
def Came : Option (Option FtpPayload × Input) → Outcome FtpFailure FtpPayload × World → Prop
  | none, run => run.1 = .waiting
  | some (none, rest), run => (∃ error, run.1 = .err error) ∧ run.2.input = rest
  | some (some resp, rest), run => run.1 = .ok resp ∧ run.2.input = rest

theorem Came.ok {came : Option (Option FtpPayload × Input)} {resp : FtpPayload}
    (h : Came came (.ok resp, w)) :
    came = some (some resp, w.input) := by
  rcases came with _ | ⟨_ | reply, rest⟩
  · cases h
  · obtain ⟨⟨_, herror⟩, _⟩ := h
    cases herror
  · obtain ⟨hreply, rfl⟩ := h
    cases hreply
    rfl

theorem Came.err {came : Option (Option FtpPayload × Input)} {error : FtpFailure}
    (h : Came came (.err error, w)) : came = some (none, w.input) := by
  rcases came with _ | ⟨_ | reply, rest⟩
  · cases h
  · rw [← h.2]
  · obtain ⟨hreply, _⟩ := h
    cases hreply

theorem sendAndReceiveLoop_came (payload : FtpPayload) :
    ∀ (attempts : Nat) (lastError : FtpFailure) (w : World),
      Came ((exchange t payload.seqNumber attempts w.inbox).map fun r =>
          (r.1, w.input.left r.2))
        (sendAndReceiveLoop t payload attempts lastError w) := by
  intro attempts
  induction attempts with
  | zero => exact fun lastError w => ⟨⟨lastError, rfl⟩, rfl⟩
  | succ attempts ih =>
      intro lastError w
      unfold exchange
      cases hr : recvFtp t (some payload.seqNumber) w.inbox with
      | none =>
          rw [sendAndReceiveLoop_waits hr]
          rfl
      | some p =>
          obtain ⟨r, rest⟩ := p
          cases r with
          | reply resp =>
              rw [sendAndReceiveLoop_reply hr]
              exact ⟨rfl, rfl⟩
          | failed error =>
              rw [sendAndReceiveLoop_failed hr]
              exact ih error (w.sending t payload rest)
          | elapsed =>
              rw [sendAndReceiveLoop_elapsed hr]
              exact ih .timedOut (w.sending t payload rest)

theorem subscribe_answered (h : w.input.answered = true) :
    ∃ w1, subscribe w = (.ok (), w1) ∧ w1.input = w.input.asked ∧ w1.trace = w.trace := by
  obtain ⟨seq, answers, inbox, trace⟩ := w
  rcases answers with _ | ⟨_ | _, answers⟩
  · exact ⟨_, rfl, rfl, rfl⟩
  · simp [World.input, Input.answered] at h
  · exact ⟨_, rfl, rfl, rfl⟩

theorem subscribe_unanswered (h : w.input.answered = false) :
    ∃ w1, subscribe w = (.err .hubUnavailable, w1) ∧ w1.input = w.input.asked ∧
      w1.trace = w.trace := by
  obtain ⟨seq, answers, inbox, trace⟩ := w
  rcases answers with _ | ⟨_ | _, answers⟩
  · simp [World.input, Input.answered] at h
  · exact ⟨_, rfl, rfl, rfl⟩
  · simp [World.input, Input.answered] at h

theorem sendAndReceive_came (payload : FtpPayload) (w : World) :
    Came (w.input.sent t payload.seqNumber) (sendAndReceive t payload w) := by
  unfold Input.sent sendAndReceive
  by_cases ha : w.input.answered = true
  · obtain ⟨w1, hsub, hinput, _⟩ := subscribe_answered ha
    have hcame := sendAndReceiveLoop_came (t := t) payload ftpMaxRetries .timedOut w1
    have hinbox : w1.inbox = w.input.inbox := congrArg Input.inbox hinput
    rw [if_pos ha, bind_of_ok hsub, ← hinbox, ← hinput]
    exact hcame
  · have ha' : w.input.answered = false := by simpa using ha
    obtain ⟨w1, hsub, hinput, _⟩ := subscribe_unanswered ha'
    rw [if_neg ha, bind_apply, hsub]
    exact ⟨⟨_, rfl⟩, hinput⟩

/-- A request with the number that `new_request` gave it. -/
theorem request_came {payload : FtpPayload} (hseq : payload.seqNumber = w.seqNumber) :
    Came (w.input.request t)
      (sendAndReceive t payload { w with seqNumber := w.seqNumber + 1 }) := by
  have hcame := sendAndReceive_came (t := t) payload { w with seqNumber := w.seqNumber + 1 }
  rw [hseq] at hcame
  exact hcame

/-- The events of a read or a write up to TerminateSession settle nothing. -/
theorem sendAndReceive_quiet (t : Target) (session : UInt8) {payload : FtpPayload}
    (hop : payload.opcode ≠ .terminateSession) (w : World) :
    Quiet World.trace (terminates t session) w (sendAndReceive t payload w).2 :=
  Emitted.quiet_of (emits_sendAndReceive (P := Asks fun req => req.opcode ≠ .terminateSession) hop w)
    fun _ => terminates_asks

/-- What `new_request` leaves. -/
theorem exits_newRequest {opcode : FtpOpcode} {f : FtpPayload → Client α}
    (h : ExitsOpen t session L N (f (FtpPayload.newRequest opcode w.seqNumber))
      { w with seqNumber := w.seqNumber + 1 }) :
    ExitsOpen t session L N (newRequest opcode >>= f) w :=
  Exits.ok_bind rfl (.of_eq rfl) h

/-- **A request in the middle of an operation**, with the number it got: the three ways it can
    go. -/
theorem exits_request {payload : FtpPayload} {f : Except FtpFailure FtpPayload → Client α}
    (hop : payload.opcode ≠ .terminateSession) (hseq : payload.seqNumber = w.seqNumber)
    (hwaits : w.input.request t = none → ¬ L)
    (hfails : ∀ error w1, w.input.request t = some (none, w1.input) →
      ExitsOpen t session L N (f (.error error)) w1)
    (hreply : ∀ resp w1, w.input.request t = some (some resp, w1.input) →
      ExitsOpen t session L N (f (.ok resp)) w1) :
    ExitsOpen t session L N (attempt (sendAndReceive t payload) >>= f)
      { w with seqNumber := w.seqNumber + 1 } := by
  have hcame := request_came (t := t) hseq
  have hquiet := sendAndReceive_quiet t session hop { w with seqNumber := w.seqNumber + 1 }
  cases hr : sendAndReceive t payload { w with seqNumber := w.seqNumber + 1 } with
  | mk o w1 =>
      rw [hr] at hcame hquiet
      cases hs : w.input.request t with
      | none =>
          rw [hs] at hcame
          obtain rfl : o = .waiting := hcame
          exact Exits.waiting_bind (attempt_of_waiting hr) hquiet (hwaits hs)
      | some r =>
          obtain ⟨resp, rest⟩ := r
          rw [hs] at hcame
          cases resp with
          | none =>
              obtain ⟨⟨error, rfl⟩, rfl⟩ := hcame
              have hattempt : attempt (sendAndReceive t payload)
                  { w with seqNumber := w.seqNumber + 1 } = (.ok (.error error), w1) := by
                simp [attempt, hr]
              exact Exits.ok_bind hattempt hquiet (hfails error w1 hs)
          | some resp =>
              obtain ⟨rfl, rfl⟩ := hcame
              exact Exits.ok_bind (attempt_ok.mpr hr) hquiet (hreply resp w1 hs)

/-- The operation goes on at another point. -/
theorem exits_goes {p p' : SessionPoint} {x : Client α} {i i' : Input}
    (hnext : p.next t i = .goes p' i') (h : ExitsOpen t session (Leaks t p' i') N x w) :
    ExitsOpen t session (Leaks t p i) N x w := h.congr (leaks_goes hnext)

/-! ## 3. TerminateSession -/

theorem sendAndReceiveLoop_sends (payload : FtpPayload) (attempts : Nat) (lastError : FtpFailure)
    (w : World) : ∃ l, (sendAndReceiveLoop t payload (attempts + 1) lastError w).2.trace =
      w.trace ++ .sent (buildFtpMessage t payload) :: l := by
  have later : ∀ (error : FtpFailure) (rest : List HubEvent), ∃ l,
      (sendAndReceiveLoop t payload attempts error (w.sending t payload rest)).2.trace =
        w.trace ++ .sent (buildFtpMessage t payload) :: l := by
    intro error rest
    obtain ⟨l, hl, _⟩ := (emits_sendAndReceiveLoop (t := t) (P := Asks fun _ => True) trivial attempts
      error (w.sending t payload rest)).trace
    exact ⟨l, by rw [hl]; simp [World.sending]⟩
  cases hr : recvFtp t (some payload.seqNumber) w.inbox with
  | none =>
      rw [sendAndReceiveLoop_waits hr]
      exact ⟨[], rfl⟩
  | some p =>
      obtain ⟨r, rest⟩ := p
      cases r with
      | reply resp =>
          rw [sendAndReceiveLoop_reply hr]
          exact ⟨[.accepted payload resp], by simp [World.sending]⟩
      | failed error =>
          rw [sendAndReceiveLoop_failed hr]
          exact later error rest
      | elapsed =>
          rw [sendAndReceiveLoop_elapsed hr]
          exact later .timedOut rest

theorem exits_terminateRequest {payload : FtpPayload} (hop : payload.opcode = .terminateSession)
    (hsession : payload.session = session) (w : World) :
    ExitsOpen t session (w.input.answered = false) (fun _ _ => True)
      (sendAndReceive t payload) w := by
  by_cases ha : w.input.answered = true
  · obtain ⟨w1, hsub, _, htrace⟩ := subscribe_answered ha
    obtain ⟨l, hl⟩ := sendAndReceiveLoop_sends (t := t) payload 4 .timedOut w1
    refine .inl ⟨⟨.sent (buildFtpMessage t payload) :: l, ?_, ?_⟩, by simp [ha]⟩
    · unfold sendAndReceive
      rw [bind_of_ok hsub, ← htrace]
      exact hl
    · simp [terminates_sent, hop, hsession]
  · have ha' : w.input.answered = false := by simpa using ha
    obtain ⟨w1, hsub, _, htrace⟩ := subscribe_unanswered ha'
    have hrun : sendAndReceive t payload w = (.err .hubUnavailable, w1) := by
      unfold sendAndReceive
      rw [bind_apply, hsub]
    refine .inr ⟨?_, ?_⟩
    · rw [hrun]
      exact .of_eq htrace
    · simp [hrun, ha', owed]

theorem exits_terminateSession (w : World) :
    ExitsOpen t session (Leaks t .close w.input) (fun _ _ => True)
      (terminateSession t session) w := by
  refine Exits.congr leaks_close (exits_newRequest ?_)
  refine Exits.bind (exits_terminateRequest rfl rfl _) fun resp w1 _ => ?_
  unfold checked
  split
  · exact Exits.pure Iff.rfl
  · exact Exits.fail trivial

/-- **The way out of a failed operation.** -/
theorem exits_terminated (error : FtpFailure) (w : World) :
    ExitsOpen t session (Leaks t .close w.input) N
      (do terminateSessionBestEffort t session; (fail error : Client α)) w := by
  have hbest : ExitsOpen t session (Leaks t .close w.input) (fun _ _ => True)
      (terminateSessionBestEffort t session) w :=
    Exits.bind (exits_terminateSession w).attempt fun _ _ _ => Exits.pure Iff.rfl
  exact hbest.bind fun _ _ _ => Exits.fail trivial

theorem exits_withContext {text : String} {x : Client α}
    (h : ExitsOpen t session L (fun _ _ => True) x w) :
    ExitsOpen t session L (fun _ _ => True) (withContext text x) w := by
  refine Exits.bind h.attempt fun r w1 _ => ?_
  cases r with
  | ok a => exact Exits.pure Iff.rfl
  | error error => exact Exits.fail trivial

/-- An event that terminates nothing is recorded. -/
theorem exits_note {e : FtpEvent} {f : Unit → Client α} (he : terminates t session e = false)
    (h : ExitsOpen t session L N (f ()) { w with trace := w.trace ++ [e] }) :
    ExitsOpen t session L N (note e >>= f) w :=
  Exits.ok_bind rfl ⟨[e], rfl, by simp [he]⟩ h

theorem exits_storeProgress {progress : Bool} {value : UInt64} {f : Unit → Client α}
    (h : ∀ w1, w1.input = w.input → ExitsOpen t session L N (f ()) w1) :
    ExitsOpen t session L N (storeProgress progress value >>= f) w := by
  cases progress with
  | true => exact exits_note rfl (h _ rfl)
  | false => exact Exits.ok_bind rfl (.refl w) (h w rfl)

theorem exits_finishReadSession {progress : Bool} {state : BurstReadState} (w : World) :
    ExitsOpen t session (Leaks t .close w.input) (fun _ _ => True)
      (finishReadSession t session progress state) w := by
  unfold finishReadSession
  refine Exits.bind (exits_withContext (exits_terminateSession w)) fun _ w1 _ => ?_
  exact exits_storeProgress fun _ _ => Exits.pure Iff.rfl

/-! ## 4. The repair -/

/-- Where a repair step leaves the operation. -/
def AfterChunk (t : Target) (missing : MissingBlock) (missingBlocks : List MissingBlock)
    (filled : UInt32) : GapFillChunkOutcome × BurstReadState → World → Prop
  | (.filled chunkSize, _), w =>
      Leaks t (.repair (missing :: missingBlocks) (filled + chunkSize)) w.input
  | (.noData, _), w | (.endOfFile, _), w => Leaks t (.repair missingBlocks 0) w.input

theorem isEof_eq {resp : FtpPayload} {nak : FtpNakError} (h : checkNak resp = .error nak) :
    isEof resp = decide (nak.errCode = .eof) := by
  simp [isEof, h]

theorem copyChunkIntoBuffer_short {fileData chunkData : List UInt8} {chunkOffset : UInt32}
    {chunkSize : Nat} (h : chunkData.length < chunkSize) :
    copyChunkIntoBuffer fileData chunkOffset chunkSize chunkData =
      .error (.shortChunk chunkSize chunkData.length) := by
  simp [copyChunkIntoBuffer, h]

theorem exits_readMissingBlockChunk {progress : Bool} {missing : MissingBlock}
    (missingBlocks : List MissingBlock) {filled : UInt32} (state : BurstReadState)
    (hlt : filled < missing.size) (w : World) :
    ExitsOpen t session
      (Leaks t (.repair (missing :: missingBlocks) filled) w.input)
      (AfterChunk t missing missingBlocks filled)
      (readMissingBlockChunk t session progress missing filled state) w := by
  unfold readMissingBlockChunk
  refine exits_newRequest (exits_request ?_ rfl ?_ ?_ ?_)
  · simp [repairRequest, FtpPayload.newRequest]
  · intro hs
    exact not_leaks_waits (by simp [SessionPoint.next, hlt, hs])
  · intro error w1 hs
    have hnext : SessionPoint.next t (.repair (missing :: missingBlocks) filled) w.input =
        .goes .close w1.input := by simp [SessionPoint.next, hlt, hs]
    exact exits_goes hnext (exits_terminated error w1)
  · intro resp w1 hs
    have hnext : SessionPoint.next t (.repair (missing :: missingBlocks) filled) w.input =
        SessionPoint.repaired missing missingBlocks filled w1.input resp := by
      simp [SessionPoint.next, hlt, hs]
    dsimp only
    cases hnak : checkNak resp with
    | error nak =>
        have hop : resp.opcode = .nak := checkNak_error hnak
        dsimp only
        by_cases heof : nak.errCode = .eof
        · rw [if_pos heof]
          have hgoes : SessionPoint.next t (.repair (missing :: missingBlocks) filled) w.input =
              .goes (.repair missingBlocks 0) w1.input := by
            simp [hnext, SessionPoint.repaired, hop, isEof_eq hnak, heof]
          exact Exits.pure (leaks_goes hgoes)
        · rw [if_neg heof]
          have hgoes : SessionPoint.next t (.repair (missing :: missingBlocks) filled) w.input =
              .goes .close w1.input := by
            simp [hnext, SessionPoint.repaired, hop, isEof_eq hnak, heof]
          exact exits_goes hgoes (exits_terminated _ w1)
    | ok u =>
        have hop : resp.opcode ≠ .nak := checkNak_ok.mp hnak
        dsimp only
        by_cases hsize : resp.size = 0
        · rw [if_pos hsize]
          have hgoes : SessionPoint.next t (.repair (missing :: missingBlocks) filled) w.input =
              .goes (.repair missingBlocks 0) w1.input := by
            simp [hnext, SessionPoint.repaired, hop, hsize]
          exact Exits.pure (leaks_goes hgoes)
        · rw [if_neg hsize]
          by_cases hshort : resp.data.length < resp.size.toNat
          · -- the error of the copy leaves the function at once
            rw [copyChunkIntoBuffer_short hshort]
            have hleaks : SessionPoint.next t (.repair (missing :: missingBlocks) filled) w.input =
                .leaks := by
              simp [hnext, SessionPoint.repaired, hop, hsize, hshort]
            exact Exits.fail (leaks_of_next hleaks)
          · have hgoes : SessionPoint.next t (.repair (missing :: missingBlocks) filled) w.input =
                .goes (.repair (missing :: missingBlocks) (filled + resp.size.toUInt32))
                  w1.input := by
              simp [hnext, SessionPoint.repaired, hop, hsize, hshort]
            rw [copyChunkIntoBuffer, if_neg hshort]
            refine exits_storeProgress fun w2 hinput => Exits.pure ?_
            rw [leaks_goes hgoes, ← hinput]
            rfl

theorem sendAndReceiveLoop_shorter {payload resp : FtpPayload} :
    ∀ {attempts : Nat} {lastError : FtpFailure} {w w1 : World},
      sendAndReceiveLoop t payload attempts lastError w = (.ok resp, w1) →
        w1.inbox.length < w.inbox.length := by
  intro attempts
  induction attempts with
  | zero =>
      intro lastError w w1 h
      exact (fail_ok.mp h).elim
  | succ attempts ih =>
      intro lastError w w1 h
      cases hr : recvFtp t (some payload.seqNumber) w.inbox with
      | none =>
          rw [sendAndReceiveLoop_waits hr] at h
          cases h
      | some p =>
          obtain ⟨r, rest⟩ := p
          have hrest : rest.length < w.inbox.length := recvFtp_shorter hr
          cases r with
          | reply resp' =>
              rw [sendAndReceiveLoop_reply hr] at h
              cases h
              exact hrest
          | failed error =>
              rw [sendAndReceiveLoop_failed hr] at h
              exact Nat.lt_trans (ih h) hrest
          | elapsed =>
              rw [sendAndReceiveLoop_elapsed hr] at h
              exact Nat.lt_trans (ih h) hrest

/-- A request that is answered has read something. -/
theorem sendAndReceive_shorter {payload resp : FtpPayload} {w w1 : World}
    (h : sendAndReceive t payload w = (.ok resp, w1)) : w1.inbox.length < w.inbox.length := by
  obtain ⟨_, w2, hsub, h⟩ := bind_ok.mp h
  rw [← subscribe_inbox hsub]
  exact sendAndReceiveLoop_shorter h

theorem exits_fillBlock {progress : Bool} {missing : MissingBlock}
    (missingBlocks : List MissingBlock) :
    ∀ (fuel : Nat) (filled : UInt32) (state : BurstReadState) (w : World),
      w.inbox.length < fuel →
        ExitsOpen t session
          (Leaks t (.repair (missing :: missingBlocks) filled) w.input)
          (fun _ w' => Leaks t (.repair missingBlocks 0) w'.input)
          (fillBlock t session progress missing fuel filled state) w := by
  intro fuel
  induction fuel with
  | zero =>
      intro filled state w hfuel
      omega
  | succ fuel ih =>
      intro filled state w hfuel
      unfold fillBlock
      by_cases hlt : filled < missing.size
      · rw [if_pos hlt]
        refine Exits.bind (exits_readMissingBlockChunk missingBlocks state hlt w) ?_
        rintro ⟨outcome, state'⟩ w1 hrun
        cases outcome with
        | filled chunkSize =>
            obtain ⟨_, _, _, _, hsend, hinbox, _, _⟩ := readMissingBlockChunk_ok hrun
            have hshorter := sendAndReceive_shorter hsend
            exact ih _ state' w1 (by rw [hinbox]; simp at hshorter; omega)
        | noData => exact Exits.pure Iff.rfl
        | endOfFile => exact Exits.pure Iff.rfl
      · rw [if_neg hlt]
        have hnext : SessionPoint.next t (.repair (missing :: missingBlocks) filled) w.input =
            .goes (.repair missingBlocks 0) w.input := by simp [SessionPoint.next, hlt]
        exact Exits.pure (leaks_goes hnext)

theorem exits_fillBlocks {progress : Bool} :
    ∀ (blocks : List MissingBlock) (state : BurstReadState) (w : World),
      ExitsOpen t session (Leaks t (.repair blocks 0) w.input)
        (fun _ w' => Leaks t .close w'.input)
        (fillBlocks t session progress blocks state) w := by
  intro blocks
  induction blocks with
  | nil =>
      intro state w
      exact Exits.pure (leaks_goes rfl)
  | cons missing rest ih =>
      intro state w
      unfold fillBlocks
      refine Exits.bind ?_ fun state' w1 _ => ih state' w1
      exact exits_fillBlock rest _ _ state w (Nat.lt_succ_self _)

/-! ## 5. The burst -/

/-- Where a cycle leaves the operation. -/
def AfterCycle (t : Target) : BurstCycleOutcome × BurstReadState × Nat → World → Prop
  | (.continue, state, retries), w =>
      Leaks t (.burst state.contiguousEnd state.missingBlocks retries) w.input.numbered
  | (.eof, state, _), w => Leaks t (.repair state.missingBlocks 0) w.input

theorem extendContiguous_skips {state : BurstReadState} {resp : FtpPayload}
    (h : resp.size = 0 ∨ resp.offset < state.contiguousEnd) :
    extendContiguous state resp = .ok none := by
  unfold extendContiguous
  by_cases hsize : resp.size = 0
  · simp [hsize]
  · simp [hsize, h.resolve_left hsize]

theorem extendContiguous_short {state : BurstReadState} {resp : FtpPayload}
    (hskip : ¬ (resp.size = 0 ∨ resp.offset < state.contiguousEnd))
    (h : resp.data.length < resp.size.toNat) :
    ∃ error, extendContiguous state resp = .error error := by
  rw [not_or] at hskip
  unfold extendContiguous
  rw [if_neg hskip.1, if_neg hskip.2, copyChunkIntoBuffer_short h]
  exact ⟨_, rfl⟩

theorem extendContiguous_takes {state : BurstReadState} {resp : FtpPayload}
    (hskip : ¬ (resp.size = 0 ∨ resp.offset < state.contiguousEnd))
    (h : ¬ resp.data.length < resp.size.toNat) :
    ∃ state', extendContiguous state resp = .ok (some state') ∧
      state'.contiguousEnd = resp.offset + resp.size.toUInt32 ∧
      state'.missingBlocks = blocksBehind state.contiguousEnd state.missingBlocks resp.offset := by
  rw [not_or] at hskip
  unfold extendContiguous
  rw [if_neg hskip.1, if_neg hskip.2, copyChunkIntoBuffer, if_neg h]
  exact ⟨_, rfl, rfl, rfl⟩

/-- **A burst packet**: it is skipped, it ends the function, or it is taken. -/
theorem exits_applyBurstChunk {state : BurstReadState} {resp : FtpPayload} {progress : Bool}
    {f : Option BurstReadState → Client α}
    (hskips : (resp.size = 0 ∨ resp.offset < state.contiguousEnd) →
      ExitsOpen t session L N (f none) w)
    (hshort : ¬ (resp.size = 0 ∨ resp.offset < state.contiguousEnd) →
      resp.data.length < resp.size.toNat → L)
    (htakes : ∀ state' w1, ¬ (resp.size = 0 ∨ resp.offset < state.contiguousEnd) →
      ¬ resp.data.length < resp.size.toNat →
      state'.contiguousEnd = resp.offset + resp.size.toUInt32 →
      state'.missingBlocks = blocksBehind state.contiguousEnd state.missingBlocks resp.offset →
      w1.input = w.input → ExitsOpen t session L N (f (some state')) w1) :
    ExitsOpen t session L N (applyBurstChunk state resp progress >>= f) w := by
  unfold applyBurstChunk
  by_cases hskip : resp.size = 0 ∨ resp.offset < state.contiguousEnd
  · rw [extendContiguous_skips hskip]
    exact Exits.ok_bind rfl (.refl w) (hskips hskip)
  · by_cases hlength : resp.data.length < resp.size.toNat
    · -- `?` on the error of the copy
      obtain ⟨error, herror⟩ := extendContiguous_short hskip hlength
      rw [herror]
      refine Exits.bind (M := fun _ _ => True) (Exits.fail (hshort hskip hlength)) ?_
      rintro _ _ ⟨⟩
    · obtain ⟨state', htaken, hend, hblocks⟩ := extendContiguous_takes hskip hlength
      rw [htaken]
      cases progress with
      | true =>
          exact Exits.ok_bind rfl
            ⟨[.copied resp, .progress state'.bytesWritten.toUInt64], by simp, rfl⟩
            (htakes state' _ hskip hlength hend hblocks rfl)
      | false =>
          exact Exits.ok_bind rfl ⟨[.copied resp], rfl, rfl⟩
            (htakes state' _ hskip hlength hend hblocks rfl)

theorem exits_burstLoop {progress : Bool} :
    ∀ (fuel : Nat) (state : BurstReadState) (retries : Nat) (w : World), w.inbox.length < fuel →
      ExitsOpen t session
        (Leaks t (.burst state.contiguousEnd state.missingBlocks retries) w.input) (AfterCycle t)
        (burstLoop t session progress fuel state retries) w := by
  intro fuel
  induction fuel with
  | zero =>
      intro state retries w hfuel
      omega
  | succ fuel ih =>
      intro state retries w hfuel
      unfold burstLoop
      cases hr : recvFtp t none w.inbox with
      | none =>
          exact Exits.waiting_bind (awaitFtp_waiting hr) (.of_eq rfl)
            (not_leaks_waits (by simp [SessionPoint.next, World.input, hr]))
      | some p =>
          obtain ⟨r, rest⟩ := p
          have hawait : awaitFtp t none w = (.ok r, { w with inbox := rest }) :=
            awaitFtp_ok.mpr ⟨rest, hr, rfl⟩
          have hnext : SessionPoint.next t
              (.burst state.contiguousEnd state.missingBlocks retries) w.input =
                SessionPoint.received state.contiguousEnd state.missingBlocks retries
                  (w.input.left rest) r := by
            simp [SessionPoint.next, World.input, hr]
          have hrest : rest.length < fuel :=
            Nat.lt_of_lt_of_le (recvFtp_shorter hr) (Nat.le_of_lt_succ hfuel)
          refine Exits.ok_bind hawait (.of_eq rfl) ?_
          cases r with
          | failed error =>
              exact exits_goes hnext (ih state retries { w with inbox := rest } hrest)
          | elapsed =>
              dsimp only
              by_cases hmax : retries + 1 > ftpMaxRetries
              · rw [if_pos hmax]
                rw [SessionPoint.received, if_pos hmax] at hnext
                exact exits_goes hnext (exits_terminated _ { w with inbox := rest })
              · rw [if_neg hmax]
                rw [SessionPoint.received, if_neg hmax] at hnext
                exact Exits.pure (leaks_goes hnext)
          | reply resp =>
              dsimp only
              cases hnak : checkNak resp with
              | error nak =>
                  have hop : resp.opcode = .nak := checkNak_error hnak
                  refine exits_note rfl ?_
                  by_cases heof : nak.errCode = .eof
                  · rw [if_pos heof]
                    simp only [SessionPoint.received, hop, isEof_eq hnak, heof, decide_true,
                      if_true] at hnext
                    exact Exits.pure (leaks_goes hnext)
                  · rw [if_neg heof]
                    simp only [SessionPoint.received, hop, isEof_eq hnak, heof, decide_false,
                      if_true, Bool.false_eq_true, if_false] at hnext
                    exact exits_goes hnext (exits_terminated _ _)
              | ok u =>
                  have hop : resp.opcode ≠ .nak := checkNak_ok.mp hnak
                  simp only [SessionPoint.received, hop, if_false] at hnext
                  dsimp only
                  by_cases hack : isBurstAck resp = true
                  · rw [if_neg fun hother => not_isBurstAck.mpr hother hack]
                    refine exits_applyBurstChunk (fun hskip => ?_) (fun hskip hshort => ?_)
                      fun state' w1 hskip hshort hend hblocks hinput => ?_
                    · rw [if_pos (.inr hskip)] at hnext
                      exact exits_goes hnext (ih state retries _ hrest)
                    · rw [if_neg (by simp [hack, hskip]), if_pos hshort] at hnext
                      exact leaks_of_next hnext
                    · have hinput : w1.input = w.input.left rest := hinput
                      rw [if_neg (by simp [hack, hskip]), if_neg hshort, ← hend, ← hblocks,
                        ← hinput] at hnext
                      dsimp only
                      by_cases hcomplete : resp.burstComplete = 1
                      · rw [if_pos hcomplete] at hnext ⊢
                        exact Exits.pure (leaks_goes hnext)
                      · rw [if_neg hcomplete] at hnext ⊢
                        have hinbox : w1.inbox = rest := congrArg Input.inbox hinput
                        exact exits_goes hnext
                          (ih { state' with totalPackets := state'.totalPackets + 1 } 0 w1
                            (by rw [hinbox]; exact hrest))
                  · rw [if_pos (.inl (Bool.not_eq_true _ ▸ hack))] at hnext
                    rw [if_pos (not_isBurstAck.mp hack)]
                    exact exits_goes hnext (ih state retries _ hrest)

theorem exits_runBurstCycle {progress : Bool} (state : BurstReadState) (retries : Nat) (w : World) :
    ExitsOpen t session
      (Leaks t (.burst state.contiguousEnd state.missingBlocks retries) w.input.numbered)
      (AfterCycle t) (runBurstCycle t session progress state retries) w := by
  unfold runBurstCycle
  refine exits_newRequest (exits_note ?_ ?_)
  · simp [terminates_sent, FtpPayload.newRequest]
  · exact exits_burstLoop _ state retries _ (Nat.lt_succ_self _)

theorem runBurstCycle_shorter {progress : Bool} {state : BurstReadState} {retries : Nat}
    {r : BurstCycleOutcome × BurstReadState × Nat} {w w' : World}
    (h : runBurstCycle t session progress state retries w = (.ok r, w')) :
    w'.inbox.length < w.inbox.length := by
  obtain ⟨req, w1, hreq, h⟩ := bind_ok.mp h
  obtain ⟨_, w2, hsent, h⟩ := bind_ok.mp h
  have hinbox : w2.inbox = w.inbox := by
    cases hreq
    rw [sendFtpMessage, note_ok] at hsent
    rw [hsent]
  rw [← hinbox]
  exact burstLoop_shorter h

theorem exits_burstPhase {progress : Bool} :
    ∀ (fuel : Nat) (state : BurstReadState) (retries : Nat) (w : World), w.inbox.length < fuel →
      ExitsOpen t session
        (Leaks t (.burst state.contiguousEnd state.missingBlocks retries) w.input.numbered)
        (fun state' w' => Leaks t (.repair state'.missingBlocks 0) w'.input)
        (burstPhase t session progress fuel state retries) w := by
  intro fuel
  induction fuel with
  | zero =>
      intro state retries w hfuel
      omega
  | succ fuel ih =>
      intro state retries w hfuel
      unfold burstPhase
      refine Exits.bind (exits_runBurstCycle state retries w) ?_
      rintro ⟨outcome, state', retries'⟩ w1 hrun
      have hshorter := runBurstCycle_shorter hrun
      cases outcome with
      | «continue» => exact ih state' retries' w1 (by omega)
      | eof => exact Exits.pure Iff.rfl

/-! ## 6. Behind the acknowledgement -/

/-- What is left of `burst_read_file_inner` behind `open_read_session`. -/
def readOpened (t : Target) (progress : Bool) (session : UInt8) (fileSize : Nat) :
    Client (List UInt8) := do
  subscribe
  let state ← fun w =>
    burstPhase t session progress (w.inbox.length + 1) (.new fileSize) 0 w
  let state ← fillMissingBlocks t session progress state
  finishReadSession t session progress state

/-- What is left of `open_read_session` behind the acknowledgement. -/
def admitted (t : Target) (maxSize : Option Nat) (resp : FtpPayload) : Client (UInt8 × Nat) :=
  match maxSize with
  | some max =>
      if announcedSize resp > max then do
        terminateSessionBestEffort t resp.session
        fail (.tooLarge (announcedSize resp) max)
      else do
        note (.opened resp.session (announcedSize resp))
        pure (resp.session, announcedSize resp)
  | none => do
      note (.opened resp.session (announcedSize resp))
      pure (resp.session, announcedSize resp)

/-- What is left of `write_file` behind the acknowledgement. -/
def writeOpened (t : Target) (data : List UInt8) (session : UInt8) : Client Unit := do
  writeChunks t session 0 (chunks ftpDataMaxLen data.length data)
  withContext "TerminateSession failed after WriteFile" (terminateSession t session)

theorem exits_readOpened {progress : Bool} {fileSize : Nat} (w : World) :
    ExitsOpen t session (Leaks t (.opened false) w.input) (fun _ _ => True)
      (readOpened t progress session fileSize) w := by
  unfold readOpened
  by_cases ha : w.input.answered = true
  · obtain ⟨w1, hsub, hinput, htrace⟩ := subscribe_answered ha
    have hnext : SessionPoint.next t (.opened false) w.input =
        .goes (.burst 0 [] 0) w1.input.numbered := by simp [SessionPoint.next, ha, hinput]
    refine Exits.ok_bind hsub (.of_eq htrace) (exits_goes hnext ?_)
    refine Exits.bind (exits_burstPhase _ (.new fileSize) 0 w1 (Nat.lt_succ_self _)) ?_
    intro state w2 _
    refine Exits.bind (exits_fillBlocks state.missingBlocks state w2) ?_
    exact fun state' w3 _ => exits_finishReadSession w3
  · have ha' : w.input.answered = false := by simpa using ha
    obtain ⟨w1, hsub, _, htrace⟩ := subscribe_unanswered ha'
    have hnext : SessionPoint.next t (.opened false) w.input = .leaks := by
      simp [SessionPoint.next, ha']
    refine .inr ?_
    rw [bind_apply, hsub]
    exact ⟨.of_eq htrace, by simp [owed, leaks_of_next hnext]⟩

theorem exits_admitted {progress : Bool} {maxSize : Option Nat} {resp : FtpPayload} (w : World) :
    ExitsOpen t resp.session
      (Leaks t (.opened (maxSize.any fun max => announcedSize resp > max)) w.input)
      (fun _ _ => True)
      (admitted t maxSize resp >>= fun r => readOpened t progress r.1 r.2) w := by
  have opened : ExitsOpen t resp.session (Leaks t (.opened false) w.input)
      (fun _ _ => True)
      ((do note (.opened resp.session (announcedSize resp))
           pure (resp.session, announcedSize resp) : Client (UInt8 × Nat)) >>=
        fun r => readOpened t progress r.1 r.2) w :=
    Exits.ok_bind rfl ⟨[.opened resp.session (announcedSize resp)], rfl, rfl⟩
      (exits_readOpened { w with trace := w.trace ++
        [.opened resp.session (announcedSize resp)] })
  cases maxSize with
  | none => exact opened
  | some max =>
      unfold admitted
      dsimp only
      by_cases hlarge : announcedSize resp > max
      · have hnext : SessionPoint.next t
            (.opened ((some max).any fun max => announcedSize resp > max)) w.input =
              .goes .close w.input := by simp [SessionPoint.next, hlarge]
        rw [if_pos hlarge]
        refine exits_goes hnext ?_
        refine Exits.bind (M := fun _ _ => True) (exits_terminated _ w) fun a w1 h => ?_
        obtain ⟨_, w2, _, h⟩ := bind_ok.mp h
        exact (fail_ok.mp h).elim
      · have hsmall : ((some max).any fun max => announcedSize resp > max) = false := by
          simpa using hlarge
        rw [if_neg hlarge, hsmall]
        exact opened

theorem exits_writeChunks :
    ∀ (chunks : List (List UInt8)) (offset : UInt32) (w : World),
      ExitsOpen t session (Leaks t (.write chunks.length) w.input)
        (fun _ w' => Leaks t .close w'.input) (writeChunks t session offset chunks) w := by
  intro chunks
  induction chunks with
  | nil => exact fun offset w => Exits.pure (leaks_goes rfl)
  | cons chunk rest ih =>
      intro offset w
      unfold writeChunks
      refine Exits.ok_bind (a := pathRequest .writeFile chunk offset w.seqNumber)
        rfl (.of_eq rfl) ?_
      refine exits_request ?_ rfl ?_ ?_ ?_
      · simp [pathRequest, FtpPayload.newRequest]
      · intro hs
        exact not_leaks_waits (by simp [SessionPoint.next, hs])
      · intro error w1 hs
        have hnext : SessionPoint.next t (.write (chunk :: rest).length) w.input =
            .goes .close w1.input := by simp [SessionPoint.next, hs]
        exact exits_goes hnext (exits_terminated error w1)
      · intro resp w1 hs
        dsimp only
        cases hnak : checkNak resp with
        | error nak =>
            have hop : resp.opcode = .nak := checkNak_error hnak
            have hnext : SessionPoint.next t (.write (chunk :: rest).length) w.input =
                .goes .close w1.input := by simp [SessionPoint.next, hs, hop]
            exact exits_goes hnext (exits_terminated _ w1)
        | ok u =>
            have hop : resp.opcode ≠ .nak := checkNak_ok.mp hnak
            have hnext : SessionPoint.next t (.write (chunk :: rest).length) w.input =
                .goes (.write rest.length) w1.input := by simp [SessionPoint.next, hs, hop]
            exact exits_goes hnext (ih _ w1)

theorem exits_writeOpened {data : List UInt8} (w : World) :
    ExitsOpen t session
      (Leaks t (.write (chunks ftpDataMaxLen data.length data).length) w.input)
      (fun _ _ => True) (writeOpened t data session) w := by
  refine Exits.bind (exits_writeChunks _ 0 w) fun _ w1 _ => ?_
  exact exits_withContext (exits_terminateSession w1)

end MavlinkServer.Ftp
