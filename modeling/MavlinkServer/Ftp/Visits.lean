/-
  File:      MavlinkServer/Ftp/Visits.lean
  Subject:   WHAT A DOWNLOAD PASSES: the points of ReadSteps.lean, one after the
             other, with the chunks that were copied into the buffer.

  * `Chunk`, `takes` -- the part of the file that the next reply brings, read
    off the events to come;
  * `Goes`, `goes_of_advance` -- all that a step can do, once and for all; a
    chunk is copied exactly when `takes` says so (`advance_of_takes`);
  * `Visited` -- the points of a download;
  * `visited_of_ok` -- a download that returns a file has come to its end.
-/
import MavlinkServer.Ftp.ReadSteps
import MavlinkServer.Lib.Run

namespace MavlinkServer.Ftp

open Lib Await

/-! ## 1. Chunks -/

/-- A part of the buffer that is written at once. -/
structure Chunk where
  offset : Nat
  size : Nat
  deriving DecidableEq, Repr

/-- The chunk of a packet of the burst, if it is taken. -/
def burstChunk (state : BurstReadState) (resp : FtpPayload) : Option Chunk :=
  if isBurstAck resp = true ∧ resp.size ≠ 0 ∧ state.contiguousEnd ≤ resp.offset ∧
      resp.size.toNat ≤ resp.data.length then
    some ⟨resp.offset.toNat, resp.size.toNat⟩
  else none

/-- The chunk of the reply to a ReadFile. -/
def repairChunk (missing : MissingBlock) (filled : UInt32) (resp : FtpPayload) : Option Chunk :=
  if resp.opcode ≠ .nak ∧ resp.size ≠ 0 ∧ resp.size.toNat ≤ resp.data.length then
    some ⟨(missing.offset + filled).toNat, resp.size.toNat⟩
  else none

/-- The chunk that the step from a point copies, by the events to come. -/
def ReadCall.takes (r : ReadCall) : ReadPoint → World → Option Chunk
  | .burst _ state _, w =>
      match recvFtp r.target none w.inbox with
      | some (.reply resp, _) => burstChunk state resp
      | _ => none
  | .repair _ (missing :: _) filled _, w =>
      if filled < missing.size then
        match w.input.request r.target with
        | some (some resp, _) => repairChunk missing filled resp
        | _ => none
      else none
  | _, _ => none

/-! ## 2. All that a step can do -/

/-- A step from one point to the next, and the chunk it copies. -/
inductive Goes (r : ReadCall) : ReadPoint → Option Chunk → ReadPoint → Prop where
  | reset : Goes r .reset none .openFile
  | rejected (session : UInt8) (error : FtpFailure) :
      Goes r .openFile none (.closing session error)
  | opened (session : UInt8) (fileSize : Nat) (h : ∀ max, r.maxSize = some max → fileSize ≤ max) :
      Goes r .openFile none (.opened session fileSize)
  | subscribed (session : UInt8) (fileSize : Nat) :
      Goes r (.opened session fileSize) none (.cycle session (.new fileSize) 0)
  | requested (session : UInt8) (state : BurstReadState) (retries : Nat) :
      Goes r (.cycle session state retries) none (.burst session state retries)
  | skipped (session : UInt8) (state : BurstReadState) (retries : Nat) :
      Goes r (.burst session state retries) none (.burst session state retries)
  | elapsed (session : UInt8) (state : BurstReadState) (retries : Nat) :
      Goes r (.burst session state retries) none (.cycle session state (retries + 1))
  | copied (session : UInt8) (state state' : BurstReadState) (retries : Nat) (resp : FtpPayload)
      (h : extendContiguous state resp = .ok (some state')) (p' : ReadPoint)
      (hp : p' = .cycle session { state' with totalPackets := state'.totalPackets + 1 } 0 ∨
        p' = .burst session { state' with totalPackets := state'.totalPackets + 1 } 0) :
      Goes r (.burst session state retries) (some ⟨resp.offset.toNat, resp.size.toNat⟩) p'
  | eof (session : UInt8) (state : BurstReadState) (retries : Nat) :
      Goes r (.burst session state retries) none (.repair session state.missingBlocks 0 state)
  | failed (session : UInt8) (state : BurstReadState) (retries : Nat) (error : FtpFailure) :
      Goes r (.burst session state retries) none (.closing session error)
  | blocksDone (session : UInt8) (filled : UInt32) (state : BurstReadState) :
      Goes r (.repair session [] filled state) none (.finish session state)
  | blockDone (session : UInt8) (missing : MissingBlock) (blocks : List MissingBlock)
      (filled : UInt32) (state : BurstReadState) :
      Goes r (.repair session (missing :: blocks) filled state) none
        (.repair session blocks 0 state)
  | repaired (session : UInt8) (missing : MissingBlock) (blocks : List MissingBlock)
      (filled : UInt32) (state : BurstReadState) (resp : FtpPayload) (fileData : List UInt8)
      (hlt : filled < missing.size)
      (h : copyChunkIntoBuffer state.fileData (missing.offset + filled) resp.size.toNat resp.data =
        .ok fileData) :
      Goes r (.repair session (missing :: blocks) filled state)
        (some ⟨(missing.offset + filled).toNat, resp.size.toNat⟩)
        (.repair session (missing :: blocks) (filled + resp.size.toUInt32)
          ({ state with fileData }.recordBytesWritten resp.size.toUInt32))
  | repairFailed (session : UInt8) (missing : MissingBlock) (blocks : List MissingBlock)
      (filled : UInt32) (state : BurstReadState) (error : FtpFailure) :
      Goes r (.repair session (missing :: blocks) filled state) none (.closing session error)
  | finished (session : UInt8) (state : BurstReadState) :
      Goes r (.finish session state) none
        (.done (state.fileData.take state.contiguousEnd.toNat))

section Steps

variable {r : ReadCall} {w w' : World} {p p' : ReadPoint} {session : UInt8}
  {state state' : BurstReadState} {resp : FtpPayload}

theorem burstChunk_other (h : isBurstAck resp ≠ true) : burstChunk state resp = none :=
  if_neg fun hc => h hc.1

/-- A packet that changes nothing brings no chunk. -/
theorem burstChunk_none (h : extendContiguous state resp = .ok none) :
    burstChunk state resp = none := by
  refine if_neg fun ⟨_, hsize, hle, hlen⟩ => ?_
  obtain ⟨_, htaken, _⟩ := extendContiguous_takes
    (not_or.mpr ⟨hsize, UInt32.not_lt.mpr hle⟩) (Nat.not_lt.mpr hlen)
  rw [h] at htaken
  cases htaken

theorem burstChunk_some (hop : isBurstAck resp = true)
    (h : extendContiguous state resp = .ok (some state')) :
    burstChunk state resp = some ⟨resp.offset.toNat, resp.size.toNat⟩ := by
  obtain ⟨hle, hcopy, _⟩ := extendContiguous_some h
  have hsize : resp.size ≠ 0 := fun hzero => by
    rw [extendContiguous_skips (.inl hzero)] at h
    cases h
  exact if_pos ⟨hop, hsize, hle, (copyChunkIntoBuffer_ok.mp hcopy).1⟩

theorem extendContiguous_of_chunk {chunk : Chunk} (h : burstChunk state resp = some chunk) :
    isBurstAck resp = true ∧ ∃ state', extendContiguous state resp = .ok (some state') := by
  simp only [burstChunk, Option.ite_none_right_eq_some] at h
  obtain ⟨⟨hop, hsize, hle, hlen⟩, _⟩ := h
  obtain ⟨state', htaken, _⟩ := extendContiguous_takes
    (not_or.mpr ⟨hsize, UInt32.not_lt.mpr hle⟩) (Nat.not_lt.mpr hlen)
  exact ⟨hop, state', htaken⟩

theorem goes_of_burst {retries : Nat}
    (h : r.advance (.burst session state retries) w = (.ok p', w')) :
    Goes r (.burst session state retries) (r.takes (.burst session state retries) w) p' := by
  obtain ⟨received, w1, hw, h⟩ := bind_ok.mp h
  obtain ⟨rest, hrecv, rfl⟩ := awaitFtp_ok.mp hw
  cases received with
  | failed error =>
      simp only [ReadCall.takes, hrecv]
      obtain ⟨rfl, _⟩ := pure_ok.mp h
      exact .skipped session state retries
  | elapsed =>
      simp only [ReadCall.takes, hrecv]
      simp only [ReadCall.takeBurst] at h
      split at h
      · obtain ⟨rfl, _⟩ := pure_ok.mp h
        exact .failed session state retries _
      · obtain ⟨rfl, _⟩ := pure_ok.mp h
        exact .elapsed session state retries
  | reply resp =>
      simp only [ReadCall.takes, hrecv]
      simp only [ReadCall.takeBurst] at h
      cases hnak : checkNak resp with
      | error nak =>
          rw [hnak] at h
          rw [burstChunk_other (by simp [isBurstAck, checkNak_error hnak])]
          obtain ⟨_, w2, _, h⟩ := bind_ok.mp h
          split at h
          · obtain ⟨rfl, _⟩ := pure_ok.mp h
            exact .eof session state retries
          · obtain ⟨rfl, _⟩ := pure_ok.mp h
            exact .failed session state retries _
      | ok u =>
          rw [hnak] at h
          dsimp only at h
          split at h
          · rename_i hother
            rw [burstChunk_other (not_isBurstAck.mpr hother)]
            obtain ⟨rfl, _⟩ := pure_ok.mp h
            exact .skipped session state retries
          · rename_i hother
            have hop : isBurstAck resp = true := isBurstAck_of_not hother
            obtain ⟨o, w2, happly, h⟩ := bind_ok.mp h
            obtain ⟨hextend, _⟩ := applyBurstChunk_ok happly
            cases o with
            | none =>
                rw [burstChunk_none hextend]
                obtain ⟨rfl, _⟩ := pure_ok.mp h
                exact .skipped session state retries
            | some state' =>
                rw [burstChunk_some hop hextend]
                dsimp only at h
                split at h
                · obtain ⟨rfl, _⟩ := pure_ok.mp h
                  exact .copied session state state' retries resp hextend _ (.inl rfl)
                · obtain ⟨rfl, _⟩ := pure_ok.mp h
                  exact .copied session state state' retries resp hextend _ (.inr rfl)

/-- A request of a download, by what its input says. -/
theorem attempt_request {payload : FtpPayload} (t : Target) (hseq : payload.seqNumber = w.seqNumber)
    {result : Except FtpFailure FtpPayload}
    (h : attempt (sendAndReceive t payload) { w with seqNumber := w.seqNumber + 1 } =
      (.ok result, w')) :
    w.input.request t = some (result.toOption, w'.input) := by
  have hcame := request_came (t := t) hseq
  cases hrun : sendAndReceive t payload { w with seqNumber := w.seqNumber + 1 } with
  | mk o w1 =>
      rw [hrun] at hcame
      rw [attempt, hrun] at h
      cases o with
      | ok resp =>
          cases h
          exact hcame.ok
      | err error =>
          cases h
          exact hcame.err
      | waiting => cases h

theorem goes_of_repair {missing : MissingBlock} {blocks : List MissingBlock} {filled : UInt32}
    (h : r.advance (.repair session (missing :: blocks) filled state) w = (.ok p', w')) :
    Goes r (.repair session (missing :: blocks) filled state)
      (r.takes (.repair session (missing :: blocks) filled state) w) p' := by
  rw [ReadCall.advance] at h
  by_cases hlt : filled < missing.size
  · rw [if_pos hlt] at h
    obtain ⟨req, w1, hreq, h⟩ := bind_ok.mp h
    cases hreq
    obtain ⟨result, w2, hsend, h⟩ := bind_ok.mp h
    have hrequest := attempt_request r.target (by rfl) hsend
    simp only [ReadCall.takes, if_pos hlt, hrequest]
    cases result with
    | error error =>
        obtain ⟨rfl, _⟩ := pure_ok.mp h
        exact .repairFailed session missing blocks filled state error
    | ok resp =>
        simp only [ReadCall.takeRepair] at h
        simp only [Except.toOption]
        cases hnak : checkNak resp with
        | error nak =>
            rw [hnak] at h
            rw [repairChunk, if_neg fun hc => hc.1 (checkNak_error hnak)]
            dsimp only at h
            split at h
            · obtain ⟨rfl, _⟩ := pure_ok.mp h
              exact .blockDone session missing blocks filled state
            · obtain ⟨rfl, _⟩ := pure_ok.mp h
              exact .repairFailed session missing blocks filled state _
        | ok u =>
            rw [hnak] at h
            dsimp only at h
            split at h
            · rename_i hsize
              rw [repairChunk, if_neg fun hc => hc.2.1 hsize]
              obtain ⟨rfl, _⟩ := pure_ok.mp h
              exact .blockDone session missing blocks filled state
            · rename_i hsize
              cases hcopy : copyChunkIntoBuffer state.fileData (missing.offset + filled)
                  resp.size.toNat resp.data with
              | error error =>
                  rw [hcopy] at h
                  exact (fail_ok.mp h).elim
              | ok fileData =>
                  rw [hcopy] at h
                  obtain ⟨hlen, _⟩ := copyChunkIntoBuffer_ok.mp hcopy
                  rw [repairChunk, if_pos ⟨checkNak_ok.mp hnak, hsize, hlen⟩]
                  obtain ⟨_, w3, _, h⟩ := bind_ok.mp h
                  obtain ⟨rfl, _⟩ := pure_ok.mp h
                  exact .repaired session missing blocks filled state resp fileData hlt hcopy
  · rw [if_neg hlt] at h
    simp only [ReadCall.takes, if_neg hlt]
    obtain ⟨rfl, _⟩ := pure_ok.mp h
    exact .blockDone session missing blocks filled state

theorem goes_of_takeOpen (h : r.takeOpen resp w = (.ok p', w')) : Goes r .openFile none p' := by
  unfold ReadCall.takeOpen at h
  cases hmax : r.maxSize with
  | none =>
      rw [hmax] at h
      obtain ⟨_, w1, _, h⟩ := bind_ok.mp h
      obtain ⟨rfl, _⟩ := pure_ok.mp h
      exact .opened _ _ fun max hsome => by rw [hmax] at hsome; cases hsome
  | some max =>
      rw [hmax] at h
      dsimp only at h
      split at h
      · obtain ⟨rfl, _⟩ := pure_ok.mp h
        exact .rejected _ _
      · rename_i hsmall
        obtain ⟨_, w1, _, h⟩ := bind_ok.mp h
        obtain ⟨rfl, _⟩ := pure_ok.mp h
        refine .opened _ _ fun max' hsome => ?_
        rw [hmax] at hsome
        cases hsome
        omega

/-- **All that a step can do.** -/
theorem goes_of_advance (h : r.advance p w = (.ok p', w')) : Goes r p (r.takes p w) p' := by
  cases p with
  | reset =>
      obtain ⟨_, w1, _, h⟩ := bind_ok.mp h
      obtain ⟨rfl, _⟩ := pure_ok.mp h
      exact .reset
  | openFile =>
      obtain ⟨_, w1, _, h⟩ := bind_ok.mp h
      obtain ⟨resp, w2, _, h⟩ := bind_ok.mp h
      obtain ⟨_, w3, _, h⟩ := bind_ok.mp h
      exact goes_of_takeOpen h
  | opened session fileSize =>
      obtain ⟨_, w1, _, h⟩ := bind_ok.mp h
      obtain ⟨rfl, _⟩ := pure_ok.mp h
      exact .subscribed session fileSize
  | cycle session state retries =>
      obtain ⟨_, w1, _, h⟩ := bind_ok.mp h
      obtain ⟨_, w2, _, h⟩ := bind_ok.mp h
      obtain ⟨rfl, _⟩ := pure_ok.mp h
      exact .requested session state retries
  | burst session state retries => exact goes_of_burst h
  | repair session blocks filled state =>
      cases blocks with
      | nil =>
          obtain ⟨rfl, _⟩ := pure_ok.mp h
          exact .blocksDone session filled state
      | cons missing blocks => exact goes_of_repair h
  | closing session error =>
      obtain ⟨_, w1, _, h⟩ := bind_ok.mp h
      exact (fail_ok.mp h).elim
  | finish session state =>
      obtain ⟨fileData, w1, hfinish, h⟩ := bind_ok.mp h
      obtain ⟨rfl, _⟩ := pure_ok.mp h
      obtain ⟨_, w2, _, hfinish⟩ := bind_ok.mp hfinish
      obtain ⟨_, w3, _, hfinish⟩ := bind_ok.mp hfinish
      obtain ⟨rfl, _⟩ := pure_ok.mp hfinish
      exact .finished session state
  | done data => exact (stuck_ok.mp h).elim

theorem storeProgress_goes (progress : Bool) (value : UInt64) (w : World) :
    ∃ w1, storeProgress progress value w = (.ok (), w1) := by
  unfold storeProgress
  split
  · exact ⟨_, rfl⟩
  · exact ⟨_, rfl⟩

theorem applyBurstChunk_goes (progress : Bool)
    (h : extendContiguous state resp = .ok (some state')) (w : World) :
    ∃ w1, applyBurstChunk state resp progress w = (.ok (some state'), w1) := by
  obtain ⟨w1, hstore⟩ := storeProgress_goes progress state'.bytesWritten.toUInt64
    { w with trace := w.trace ++ [.copied resp] }
  refine ⟨w1, ?_⟩
  rw [applyBurstChunk, h]
  exact (bind_of_ok rfl).trans (bind_of_ok hstore)

/-- A request that is answered, by what its input says. -/
theorem attempt_of_request (payload : FtpPayload) {rest : Input} (t : Target)
    (hseq : payload.seqNumber = w.seqNumber)
    (h : w.input.request t = some (some resp, rest)) :
    ∃ w1, attempt (sendAndReceive t payload) { w with seqNumber := w.seqNumber + 1 } =
      (.ok (.ok resp), w1) := by
  have hcame := request_came (t := t) hseq
  rw [h] at hcame
  exact ⟨_, attempt_ok.mpr (run_eq hcame.1)⟩

/-- A step that brings a chunk is taken. -/
theorem advance_of_takes {chunk : Chunk} (h : r.takes p w = some chunk) :
    ∃ p' w', r.advance p w = (.ok p', w') := by
  cases p with
  | burst session state retries =>
      simp only [ReadCall.takes] at h
      split at h
      · rename_i resp rest hrecv
        have hawait : awaitFtp r.target none w = (.ok (.reply resp), { w with inbox := rest }) :=
          awaitFtp_ok.mpr ⟨rest, hrecv, rfl⟩
        obtain ⟨hop, state', hextend⟩ := extendContiguous_of_chunk h
        have hack : resp.opcode = .ack ∧ resp.reqOpcode = .burstReadFile := by
          simpa [isBurstAck] using hop
        have hnak : checkNak resp = .ok () := checkNak_ok.mpr (by rw [hack.1]; decide)
        have hother : ¬ (resp.opcode ≠ .ack ∨ resp.reqOpcode ≠ .burstReadFile) := by
          simp [hack]
        obtain ⟨w1, happly⟩ := applyBurstChunk_goes r.progress hextend { w with inbox := rest }
        rw [ReadCall.advance, bind_of_ok hawait, ReadCall.takeBurst, hnak]
        dsimp only
        rw [if_neg hother, bind_of_ok happly]
        dsimp only
        split
        · exact ⟨_, _, rfl⟩
        · exact ⟨_, _, rfl⟩
      · cases h
  | repair session blocks filled state =>
      cases blocks with
      | nil => cases h
      | cons missing blocks =>
          simp only [ReadCall.takes, Option.ite_none_right_eq_some] at h
          obtain ⟨hlt, h⟩ := h
          split at h
          · rename_i resp rest hrequest
            simp only [repairChunk, Option.ite_none_right_eq_some] at h
            obtain ⟨⟨hop, hsize, hlen⟩, _⟩ := h
            obtain ⟨w1, hsend⟩ := attempt_of_request (repairRequest session missing filled
              (FtpPayload.newRequest .readFile w.seqNumber)) r.target rfl hrequest
            have hreq : newRequest .readFile w = (.ok (FtpPayload.newRequest .readFile w.seqNumber),
                { w with seqNumber := w.seqNumber + 1 }) := rfl
            have hcopy : copyChunkIntoBuffer state.fileData (missing.offset + filled)
                resp.size.toNat resp.data = .ok _ := copyChunkIntoBuffer_ok.mpr ⟨hlen, rfl⟩
            rw [ReadCall.advance, if_pos hlt, bind_of_ok hreq, bind_of_ok hsend,
              ReadCall.takeRepair, checkNak_ok.mpr hop]
            dsimp only
            rw [if_neg hsize, hcopy]
            obtain ⟨w2, hstore⟩ := storeProgress_goes r.progress _ w1
            exact ⟨_, w2, bind_of_ok hstore⟩
          · cases h
  | _ => cases h

/-! ## 3. A round reads something -/

theorem emits_takeBurst {retries : Nat} (received : Received) :
    Emits (Reads fun _ => True) (r.takeBurst session state retries received) := by
  cases received with
  | failed error => exact Moves.pure _
  | elapsed => exact Moves.ite (Moves.pure _) (Moves.pure _)
  | reply resp =>
      unfold ReadCall.takeBurst
      dsimp only
      split
      · exact Moves.bind (emits_note trivial) fun _ => Moves.ite (Moves.pure _) (Moves.pure _)
      · refine Moves.ite (Moves.pure _) ?_
        refine Moves.bind (emits_applyBurstChunk trivial fun _ => trivial) fun o => ?_
        cases o with
        | none => exact Moves.pure _
        | some state' => exact Moves.ite (Moves.pure _) (Moves.pure _)

theorem emits_takeRepair {missing : MissingBlock} {blocks : List MissingBlock} {filled : UInt32}
    (result : Except FtpFailure FtpPayload) :
    Emits (Reads fun _ => True) (r.takeRepair session missing blocks filled state result) := by
  unfold ReadCall.takeRepair
  split
  · exact Moves.pure _
  · split
    · exact Moves.ite (Moves.pure _) (Moves.pure _)
    · refine Moves.ite (Moves.pure _) ?_
      split
      · exact Moves.fail _
      · exact Moves.bind (emits_storeProgress fun _ => trivial) fun _ => Moves.pure _

theorem emits_advance (p : ReadPoint) : Emits (Reads fun _ => True) (r.advance p) := by
  cases p with
  | reset =>
      exact Moves.bind (emits_withContext (emits_resetSessions fun _ _ => trivial)) fun _ =>
        Moves.pure _
  | openFile =>
      refine emits_afterDataRequest fun seq => ?_
      refine Moves.bind (emits_withContext (emits_sendAndReceive trivial)) fun resp => ?_
      refine Moves.bind emits_checked fun _ => ?_
      unfold ReadCall.takeOpen
      split
      · exact Moves.ite (Moves.pure _) (Moves.bind (emits_note trivial) fun _ => Moves.pure _)
      · exact Moves.bind (emits_note trivial) fun _ => Moves.pure _
  | opened session fileSize => exact Moves.bind emits_subscribe fun _ => Moves.pure _
  | cycle session state retries =>
      refine emits_afterNewRequest fun seq => ?_
      exact Moves.bind (emits_note (Admits.sent _ trivial)) fun _ => Moves.pure _
  | burst session state retries => exact Moves.bind emits_awaitFtp emits_takeBurst
  | repair session blocks filled state =>
      cases blocks with
      | nil => exact Moves.pure _
      | cons missing blocks =>
          refine Moves.ite (emits_afterNewRequest fun seq => ?_) (Moves.pure _)
          exact Moves.bind (emits_sendAndReceive trivial).attempt emits_takeRepair
  | closing session error =>
      exact Moves.bind (emits_terminateSessionBestEffort (fun _ _ => trivial) session) fun _ =>
        Moves.fail _
  | finish session state =>
      exact Moves.bind (emits_finishReadSession fun _ _ => trivial) fun _ => Moves.pure _
  | done data => exact Moves.stuck

/-- How many steps a point is from the next wait, at most. -/
def ReadPoint.rank : ReadPoint → Nat
  | .reset => 4
  | .openFile => 3
  | .opened _ _ => 2
  | .cycle _ _ _ => 1
  | .burst _ _ _ => 0
  | .repair _ blocks _ _ => blocks.length + 2
  | .closing _ _ => 0
  | .finish _ _ => 1
  | .done _ => 0

theorem shorter_of_burst {retries : Nat}
    (h : r.advance (.burst session state retries) w = (.ok p', w')) :
    w'.inbox.length < w.inbox.length := by
  obtain ⟨received, w1, hw, h⟩ := bind_ok.mp h
  obtain ⟨rest, hrecv, rfl⟩ := awaitFtp_ok.mp hw
  exact Nat.lt_of_le_of_lt ((emits_takeBurst received).of_eq h).inbox.length_le
    (recvFtp_shorter hrecv)

theorem shorter_of_repair {missing : MissingBlock} {blocks : List MissingBlock} {filled : UInt32}
    (h : r.advance (.repair session (missing :: blocks) filled state) w = (.ok p', w')) :
    w'.inbox.length < w.inbox.length ∨ p'.rank < blocks.length + 3 := by
  rw [ReadCall.advance] at h
  by_cases hlt : filled < missing.size
  · rw [if_pos hlt] at h
    obtain ⟨req, w1, hreq, h⟩ := bind_ok.mp h
    cases hreq
    obtain ⟨result, w2, hsend, h⟩ := bind_ok.mp h
    cases result with
    | error error =>
        obtain ⟨rfl, _⟩ := pure_ok.mp h
        exact .inr (Nat.zero_lt_succ _)
    | ok resp =>
        have hshorter := sendAndReceive_shorter (attempt_ok.mp hsend)
        exact .inl (Nat.lt_of_le_of_lt ((emits_takeRepair _).of_eq h).inbox.length_le hshorter)
  · rw [if_neg hlt] at h
    obtain ⟨rfl, _⟩ := pure_ok.mp h
    exact .inr (Nat.lt_succ_self _)

/-- **Every step reads something or is closer to the next wait.** -/
theorem advance_shrinks (h : r.advance p w = (.ok p', w')) :
    w'.inbox.length ≤ w.inbox.length ∧
      (w'.inbox.length < w.inbox.length ∨ p'.rank < p.rank) := by
  refine ⟨((emits_advance p).of_eq h).inbox.length_le, ?_⟩
  cases p with
  | burst session state retries => exact .inl (shorter_of_burst h)
  | repair session blocks filled state =>
      cases blocks with
      | nil =>
          obtain ⟨rfl, _⟩ := pure_ok.mp h
          exact .inr (Nat.lt_succ_self _)
      | cons missing blocks => exact shorter_of_repair h
  | _ =>
      have hgoes := goes_of_advance h
      cases hgoes
      all_goals exact .inr (by simp only [ReadPoint.rank]; omega)

/-! ## 4. The points of a download -/

/-- A point, the world there, and what has been copied. -/
structure ReadState where
  point : ReadPoint
  world : World
  copied : List Chunk

namespace ReadCall

def start (r : ReadCall) (w : World) : ReadState where
  point := .reset
  world := { w with trace := w.trace ++ [.locked r.target] }
  copied := []

def step (r : ReadCall) (s : ReadState) (_ : Unit) : Option ReadState :=
  match r.advance s.point s.world with
  | (.ok p', w') => some ⟨p', w', s.copied ++ (r.takes s.point s.world).toList⟩
  | _ => none

/-- **A download from `w` passes this point.** -/
def Visited (r : ReadCall) (w : World) (s : ReadState) : Prop := Reach r.step Free (r.start w) s

end ReadCall

theorem step_some {s s' : ReadState} {u : Unit} :
    r.step s u = some s' ↔ r.advance s.point s.world = (.ok s'.point, s'.world) ∧
      s'.copied = s.copied ++ (r.takes s.point s.world).toList := by
  unfold ReadCall.step
  constructor
  · intro h
    split at h
    · rename_i p' w' hadvance
      cases h
      exact ⟨hadvance, rfl⟩
    · cases h
  · rintro ⟨hadvance, hcopied⟩
    rw [hadvance]
    dsimp only
    rw [← hcopied]

/-- What is left of the source's functions runs through the points. -/
theorem reach_of_ok {data : List UInt8} (p : ReadPoint) (w : World) (copied : List Chunk)
    (h : r.rest p w = (.ok data, w')) :
    ∃ s, Reach r.step Free ⟨p, w, copied⟩ s ∧ s.point = .done data := by
  by_cases hp : ∃ data, p = .done data
  · obtain ⟨data', rfl⟩ := hp
    obtain ⟨rfl, _⟩ := pure_ok.mp h
    exact ⟨_, .start, rfl⟩
  · rw [ReadCall.rest_advance p (fun data' heq => hp ⟨data', heq⟩) w] at h
    obtain ⟨p1, w1, hadvance, hrest⟩ := bind_ok.mp h
    have hshrinks := advance_shrinks hadvance
    obtain ⟨s, hs, hdone⟩ := reach_of_ok p1 w1 (copied ++ (r.takes p w).toList) hrest
    exact ⟨s, .before (a := ()) trivial (step_some.mpr ⟨hadvance, rfl⟩) hs, hdone⟩
termination_by (w.inbox.length, p.rank)
decreasing_by
  rw [Prod.lex_def]
  omega

/-- **A download that returns a file has come to its end.** -/
theorem visited_of_ok {data : List UInt8} (h : r.run w = (.ok data, w')) :
    ∃ s, r.Visited w s ∧ s.point = .done data := by
  rw [ReadCall.run_eq] at h
  obtain ⟨w1, hrest, _⟩ := withTargetLock_ok h
  exact reach_of_ok .reset _ [] hrest

end Steps

end MavlinkServer.Ftp
