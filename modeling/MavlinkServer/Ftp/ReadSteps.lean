/-
  File:      MavlinkServer/Ftp/ReadSteps.lean
  Subject:   A DOWNLOAD STEP BY STEP. `burst_read_file_inner` is cut into the
             points between its waits, so that something can be said of all it
             passes, and not only of what it returns.

  * `ReadCall` -- the arguments of a download;
  * `ReadPoint`, `advance` -- the points, and what is done from one to the next:
    one wait of the burst, or one request;
  * `rest` -- what is left of the source's functions at a point;
  * `burstLoop_fuel`, … -- the loops of the source do not depend on their fuel;
  * `rest_advance` -- what is left is one step and what is left at the next
    point, at every point and in every world.
-/
import MavlinkServer.Ftp.Release

namespace MavlinkServer.Ftp

open Lib Await

/-! ## 1. The points -/

/-- The arguments of `burst_read_file_inner`. -/
structure ReadCall where
  target : Target
  path : List UInt8
  progress : Bool
  maxSize : Option Nat
  deriving DecidableEq, Repr

inductive ReadPoint where
  | reset
  | openFile
  /-- behind `open_read_session` -/
  | opened (session : UInt8) (fileSize : Nat)
  /-- in front of a `run_burst_cycle` -/
  | cycle (session : UInt8) (state : BurstReadState) (retries : Nat)
  /-- in its loop, in front of a wait -/
  | burst (session : UInt8) (state : BurstReadState) (retries : Nat)
  /-- in `fill_missing_blocks`, with so much of the first block filled -/
  | repair (session : UInt8) (blocks : List MissingBlock) (filled : UInt32)
      (state : BurstReadState)
  /-- in front of the `terminate_session_best_effort` of a failure -/
  | closing (session : UInt8) (error : FtpFailure)
  | finish (session : UInt8) (state : BurstReadState)
  | done (fileData : List UInt8)
  deriving DecidableEq, Repr

namespace ReadCall

variable (r : ReadCall)

def run : Client (List UInt8) := burstReadFileInner r.target r.path r.progress r.maxSize

/-- Behind the reply to OpenFileRO. -/
def takeOpen (resp : FtpPayload) : Client ReadPoint :=
  match r.maxSize with
  | some max =>
      if announcedSize resp > max then
        pure (.closing resp.session (.tooLarge (announcedSize resp) max))
      else do
        note (.opened resp.session (announcedSize resp))
        pure (.opened resp.session (announcedSize resp))
  | none => do
      note (.opened resp.session (announcedSize resp))
      pure (.opened resp.session (announcedSize resp))

/-- Behind one wait of the burst. -/
def takeBurst (session : UInt8) (state : BurstReadState) (retries : Nat) :
    Received → Client ReadPoint
  | .failed _ => pure (.burst session state retries)
  | .elapsed =>
      if retries + 1 > ftpMaxRetries then pure (.closing session .timedOut)
      else pure (.cycle session state (retries + 1))
  | .reply resp =>
      match checkNak resp with
      | .error nak => do
          note (.ended resp)
          if nak.errCode = .eof then pure (.repair session state.missingBlocks 0 state)
          else pure (.closing session (.nak nak))
      | .ok () =>
          if resp.opcode ≠ .ack ∨ resp.reqOpcode ≠ .burstReadFile then
            pure (.burst session state retries)
          else do
            match ← applyBurstChunk state resp r.progress with
            | none => pure (.burst session state retries)
            | some state' =>
                let state' := { state' with totalPackets := state'.totalPackets + 1 }
                if resp.burstComplete = 1 then pure (.cycle session state' 0)
                else pure (.burst session state' 0)

/-- Behind the request for a part of the first block. -/
def takeRepair (session : UInt8) (missing : MissingBlock) (blocks : List MissingBlock)
    (filled : UInt32) (state : BurstReadState) :
    Except FtpFailure FtpPayload → Client ReadPoint
  | .error error => pure (.closing session error)
  | .ok resp =>
      match checkNak resp with
      | .error nak =>
          if nak.errCode = .eof then pure (.repair session blocks 0 state)
          else pure (.closing session (.nak nak))
      | .ok () =>
          if resp.size = 0 then pure (.repair session blocks 0 state)
          else
            match copyChunkIntoBuffer state.fileData (missing.offset + filled) resp.size.toNat
                resp.data with
            | .error error => fail error
            | .ok fileData => do
                let state' := { state with fileData }.recordBytesWritten resp.size.toUInt32
                storeProgress r.progress state'.bytesWritten.toUInt64
                pure (.repair session (missing :: blocks) (filled + resp.size.toUInt32) state')

/-- **One step of a download.** -/
def advance : ReadPoint → Client ReadPoint
  | .reset => do
      withContext "ResetSessions failed before OpenFileRO" (resetSessions r.target)
      pure .openFile
  | .openFile => do
      let req ← dataRequest .openFileRO r.path 0
      let resp ← withContext "OpenFileRO failed" (sendAndReceive r.target req)
      checked resp
      r.takeOpen resp
  | .opened session fileSize => do
      subscribe
      pure (.cycle session (.new fileSize) 0)
  | .cycle session state retries => do
      let req ← newRequest .burstReadFile
      sendFtpMessage r.target { req with
        session
        offset := state.contiguousEnd
        size := UInt8.ofNat ftpDataMaxLen }
      pure (.burst session state retries)
  | .burst session state retries => do
      let received ← awaitFtp r.target none
      r.takeBurst session state retries received
  | .repair session [] _ state => pure (.finish session state)
  | .repair session (missing :: blocks) filled state =>
      if filled < missing.size then do
        let req ← newRequest .readFile
        let resp ← attempt (sendAndReceive r.target (repairRequest session missing filled req))
        r.takeRepair session missing blocks filled state resp
      else pure (.repair session blocks 0 state)
  | .closing session error => do
      terminateSessionBestEffort r.target session
      fail error
  | .finish session state => do
      let fileData ← finishReadSession r.target session r.progress state
      pure (.done fileData)
  | .done _ => stuck

/-! ## 2. What is left -/

/-- What is left of `fill_missing_blocks`. -/
def fillFrom (session : UInt8) (filled : UInt32) (state : BurstReadState) :
    List MissingBlock → Client BurstReadState
  | [] => pure state
  | missing :: blocks => do
      let state' ← fun w =>
        fillBlock r.target session r.progress missing (w.inbox.length + 1) filled state w
      fillBlocks r.target session r.progress blocks state'

def repairFrom (session : UInt8) (blocks : List MissingBlock) (filled : UInt32)
    (state : BurstReadState) : Client (List UInt8) := do
  let state ← r.fillFrom session filled state blocks
  finishReadSession r.target session r.progress state

def cycleFrom (session : UInt8) (state : BurstReadState) (retries : Nat) :
    Client (List UInt8) := do
  let state ← fun w =>
    burstPhase r.target session r.progress (w.inbox.length + 1) state retries w
  r.repairFrom session state.missingBlocks 0 state

/-- What is left behind a cycle of the burst. -/
def behindCycle (session : UInt8) :
    BurstCycleOutcome × BurstReadState × Nat → Client (List UInt8)
  | (.continue, state', retries') => r.cycleFrom session state' retries'
  | (.eof, state', _) => r.repairFrom session state'.missingBlocks 0 state'

/-- What is left of the source's functions at a point. -/
def rest : ReadPoint → Client (List UInt8)
  | .reset =>
      opening r.target .openFileRO r.path "ResetSessions failed before OpenFileRO"
        "OpenFileRO failed" fun resp => admitted r.target r.maxSize resp >>= fun opened =>
          readOpened r.target r.progress opened.1 opened.2
  | .openFile => do
      let req ← dataRequest .openFileRO r.path 0
      let resp ← withContext "OpenFileRO failed" (sendAndReceive r.target req)
      checked resp
      let opened ← admitted r.target r.maxSize resp
      readOpened r.target r.progress opened.1 opened.2
  | .opened session fileSize => readOpened r.target r.progress session fileSize
  | .cycle session state retries => r.cycleFrom session state retries
  | .burst session state retries => do
      let ends ← fun w =>
        burstLoop r.target session r.progress (w.inbox.length + 1) state retries w
      r.behindCycle session ends
  | .repair session blocks filled state => r.repairFrom session blocks filled state
  | .closing session error => do
      terminateSessionBestEffort r.target session
      fail error
  | .finish session state => finishReadSession r.target session r.progress state
  | .done fileData => pure fileData

theorem run_eq : r.run = withTargetLock r.target (r.rest .reset) := burstReadFileInner_eq ..

end ReadCall

/-! ## 3. The fuel of the loops lasts -/

section Fuel

variable {t : Target} {session : UInt8} {progress : Bool}

theorem burstLoop_fuel : ∀ {n m : Nat} {state : BurstReadState} {retries : Nat} {w : World},
    w.inbox.length < n → w.inbox.length < m →
      burstLoop t session progress n state retries w =
        burstLoop t session progress m state retries w
  | 0, _, _, _, _, hn, _ => absurd hn (Nat.not_lt_zero _)
  | _, 0, _, _, _, _, hm => absurd hm (Nat.not_lt_zero _)
  | n + 1, m + 1, state, retries, w, hn, hm => by
      unfold burstLoop
      refine bind_congr_at fun received w1 hw => ?_
      obtain ⟨rest, hrecv, rfl⟩ := awaitFtp_ok.mp hw
      have hrest := recvFtp_shorter hrecv
      have again : ∀ (state : BurstReadState) (retries : Nat) (w2 : World), w2.inbox = rest →
          burstLoop t session progress n state retries w2 =
            burstLoop t session progress m state retries w2 :=
        fun state retries w2 h2 => burstLoop_fuel (by rw [h2]; omega) (by rw [h2]; omega)
      cases received with
      | failed error => exact again _ _ _ rfl
      | elapsed => rfl
      | reply resp =>
          dsimp only
          cases checkNak resp with
          | error nak => rfl
          | ok u =>
              dsimp only
              split
              · exact again _ _ _ rfl
              · refine bind_congr_at fun o w2 happly => ?_
                have h2 := (applyBurstChunk_ok happly).2
                cases o with
                | none => exact again _ _ _ h2
                | some state' =>
                    dsimp only
                    split
                    · rfl
                    · exact again _ _ _ h2

theorem burstPhase_fuel : ∀ {n m : Nat} {state : BurstReadState} {retries : Nat} {w : World},
    w.inbox.length < n → w.inbox.length < m →
      burstPhase t session progress n state retries w =
        burstPhase t session progress m state retries w
  | 0, _, _, _, _, hn, _ => absurd hn (Nat.not_lt_zero _)
  | _, 0, _, _, _, _, hm => absurd hm (Nat.not_lt_zero _)
  | n + 1, m + 1, state, retries, w, hn, hm => by
      unfold burstPhase
      refine bind_congr_at fun ends w1 hrun => ?_
      have hshorter := runBurstCycle_shorter hrun
      obtain ⟨outcome, state', retries'⟩ := ends
      cases outcome with
      | «continue» => exact burstPhase_fuel (by omega) (by omega)
      | eof => rfl

theorem fillBlock_fuel {missing : MissingBlock} : ∀ {n m : Nat} {filled : UInt32}
    {state : BurstReadState} {w : World}, w.inbox.length < n → w.inbox.length < m →
      fillBlock t session progress missing n filled state w =
        fillBlock t session progress missing m filled state w
  | 0, _, _, _, _, hn, _ => absurd hn (Nat.not_lt_zero _)
  | _, 0, _, _, _, _, hm => absurd hm (Nat.not_lt_zero _)
  | n + 1, m + 1, filled, state, w, hn, hm => by
      unfold fillBlock
      split
      · refine bind_congr_at fun ends w1 hrun => ?_
        obtain ⟨outcome, state'⟩ := ends
        cases outcome with
        | filled chunkSize =>
            obtain ⟨_, _, _, _, hsend, hinbox, _, _⟩ := readMissingBlockChunk_ok hrun
            have hshorter := sendAndReceive_shorter hsend
            rw [← hinbox] at hshorter
            have hshorter : w1.inbox.length < w.inbox.length := hshorter
            exact fillBlock_fuel (by omega) (by omega)
        | noData => rfl
        | endOfFile => rfl
      · rfl

end Fuel

/-! ## 4. Step by step -/

namespace ReadCall

variable {r : ReadCall} {session : UInt8} {state : BurstReadState}

theorem fillFrom_zero (blocks : List MissingBlock) :
    r.fillFrom session 0 state blocks = fillBlocks r.target session r.progress blocks state := by
  cases blocks <;> rfl

theorem takeOpen_rest (resp : FtpPayload) :
    r.takeOpen resp >>= r.rest = admitted r.target r.maxSize resp >>= fun opened =>
      readOpened r.target r.progress opened.1 opened.2 := by
  cases hmax : r.maxSize with
  | none => simp only [takeOpen, admitted, hmax, bind_assoc, pure_bind, rest]
  | some max =>
      simp only [takeOpen, admitted, hmax]
      split
      · simp only [bind_assoc, pure_bind, fail_bind, rest]
      · simp only [bind_assoc, pure_bind, rest]

/-- What a family of computations, one for each point, does behind a cycle of the burst. -/
def behindBurst {α : Type} (F : ReadPoint → Client α) (session : UInt8) :
    BurstCycleOutcome × BurstReadState × Nat → Client α
  | (.continue, state', retries') => F (.cycle session state' retries')
  | (.eof, state', _) => F (.repair session state'.missingBlocks 0 state')

/-- `while let Continue = run_burst_cycle(..)`, unrolled once. -/
theorem burstPhase_round {retries : Nat} (w : World) :
    burstPhase r.target session r.progress (w.inbox.length + 1) state retries w =
      (runBurstCycle r.target session r.progress state retries >>= fun ends =>
        match ends with
        | (.continue, state', retries') => fun w =>
            burstPhase r.target session r.progress (w.inbox.length + 1) state' retries' w
        | (.eof, state', _) => pure state') w := by
  unfold burstPhase
  refine bind_congr_at fun ends w1 hrun => ?_
  have hshorter := runBurstCycle_shorter hrun
  obtain ⟨outcome, state', retries'⟩ := ends
  cases outcome with
  | «continue» => exact burstPhase_fuel hshorter (Nat.lt_succ_self _)
  | eof => rfl

theorem rest_cycle {retries : Nat} (w : World) :
    r.rest (.cycle session state retries) w =
      (r.advance (.cycle session state retries) >>= r.rest) w := by
  refine (bind_congr_left (burstPhase_round w)).trans ?_
  simp only [advance, runBurstCycle, bind_assoc, pure_bind, rest]
  refine bind_congr_at fun req w1 _ => (congrFun (bind_assoc _ _ _) w1).trans ?_
  refine bind_congr_at fun _ w2 _ => bind_congr_at fun ends w3 _ => ?_
  obtain ⟨outcome, state', retries'⟩ := ends
  cases outcome with
  | «continue» => rfl
  | eof =>
      rw [pure_bind]
      rfl

/-- **One wait of the burst is one step**, for any family that goes on behind the loop, and closes
    the session behind a failure. -/
theorem burst_step {α : Type} {F : ReadPoint → Client α} {retries : Nat}
    (hburst : ∀ (state : BurstReadState) (retries : Nat) (w : World),
      F (.burst session state retries) w =
        (burstLoop r.target session r.progress (w.inbox.length + 1) state retries >>=
          behindBurst F session) w)
    (hclosing : ∀ error, F (.closing session error) = do
      terminateSessionBestEffort r.target session
      fail error) (w : World) :
    F (.burst session state retries) w =
      (r.advance (.burst session state retries) >>= F) w := by
  have again : ∀ (state : BurstReadState) (retries : Nat) (w1 : World),
      w1.inbox.length < w.inbox.length →
        (burstLoop r.target session r.progress w.inbox.length state retries >>=
          behindBurst F session) w1 = F (.burst session state retries) w1 :=
    fun state retries w1 hlt =>
      (bind_congr_left (burstLoop_fuel hlt (Nat.lt_succ_self _))).trans (hburst state retries w1).symm
  rw [hburst, burstLoop]
  simp only [advance, bind_assoc]
  refine bind_congr_at fun received w1 hw => ?_
  obtain ⟨rest, hrecv, rfl⟩ := awaitFtp_ok.mp hw
  have hrest : rest.length < w.inbox.length := recvFtp_shorter hrecv
  cases received with
  | failed error =>
      simp only [takeBurst, pure_bind]
      exact again _ _ _ hrest
  | elapsed =>
      simp only [takeBurst]
      split
      · simp only [bind_assoc, fail_bind, pure_bind, hclosing]
      · simp only [pure_bind]
        rfl
  | reply resp =>
      simp only [takeBurst]
      cases checkNak resp with
      | error nak =>
          simp only [bind_assoc]
          refine bind_congr_at fun _ w2 _ => ?_
          split
          · simp only [pure_bind]
            rfl
          · simp only [bind_assoc, fail_bind, pure_bind, hclosing]
      | ok u =>
          dsimp only
          split
          · simp only [pure_bind]
            exact again _ _ _ hrest
          · simp only [bind_assoc]
            refine bind_congr_at fun o w2 happly => ?_
            have h2 : w2.inbox.length < w.inbox.length := by
              rw [(applyBurstChunk_ok happly).2]
              exact hrest
            cases o with
            | none =>
                simp only [pure_bind]
                exact again _ _ _ h2
            | some state' =>
                dsimp only
                split
                · simp only [pure_bind]
                  rfl
                · simp only [pure_bind]
                  exact again _ _ _ h2

theorem rest_burst {retries : Nat} (w : World) :
    r.rest (.burst session state retries) w =
      (r.advance (.burst session state retries) >>= r.rest) w := by
  refine burst_step (fun state retries w => bind_congr_at fun ends w1 _ => ?_) (fun _ => rfl) w
  obtain ⟨outcome, state', retries'⟩ := ends
  cases outcome <;> rfl

/-- In front of the first block that is left. -/
theorem rest_repair_cons {missing : MissingBlock} {blocks : List MissingBlock} {filled : UInt32}
    (w : World) :
    r.rest (.repair session (missing :: blocks) filled state) w =
      (fillBlock r.target session r.progress missing (w.inbox.length + 1) filled state >>=
        fun state' => r.repairFrom session blocks 0 state') w := by
  simp only [rest, repairFrom, fillFrom_zero]
  refine Eq.trans (congrFun (bind_assoc _ _ _) w) ?_
  exact bind_congr_left rfl

theorem rest_repair {missing : MissingBlock} {blocks : List MissingBlock} {filled : UInt32}
    (w : World) :
    r.rest (.repair session (missing :: blocks) filled state) w =
      (r.advance (.repair session (missing :: blocks) filled state) >>= r.rest) w := by
  rw [rest_repair_cons, fillBlock, advance]
  split
  · have again : ∀ (chunkSize : UInt32) (state : BurstReadState) (w1 : World),
        w1.inbox.length < w.inbox.length →
          (fillBlock r.target session r.progress missing w.inbox.length (filled + chunkSize)
              state >>= fun state' => r.repairFrom session blocks 0 state') w1 =
            r.rest (.repair session (missing :: blocks) (filled + chunkSize) state) w1 := by
      intro chunkSize state w1 hlt
      rw [rest_repair_cons]
      exact bind_congr_left (fillBlock_fuel hlt (Nat.lt_succ_self _))
    simp only [readMissingBlockChunk, bind_assoc]
    refine bind_congr_at fun req w1 hreq => bind_congr_at fun result w2 hsend => ?_
    cases result with
    | error error => simp only [takeRepair, bind_assoc, fail_bind, pure_bind, rest]
    | ok resp =>
        have h2 : w2.inbox.length < w.inbox.length := by
          cases hreq
          have hshorter := sendAndReceive_shorter (attempt_ok.mp hsend)
          exact hshorter
        simp only [takeRepair]
        cases checkNak resp with
        | error nak =>
            dsimp only
            split
            · simp only [pure_bind, rest]
            · simp only [bind_assoc, fail_bind, pure_bind, rest]
        | ok u =>
            dsimp only
            split
            · simp only [pure_bind, rest]
            · cases copyChunkIntoBuffer state.fileData (missing.offset + filled) resp.size.toNat
                  resp.data with
              | error error => simp only [fail_bind]
              | ok fileData =>
                  simp only [bind_assoc, pure_bind]
                  refine bind_congr_at fun _ w3 hstore => ?_
                  exact again _ _ _ (by rw [storeProgress_inbox hstore]; exact h2)
  · simp only [pure_bind, rest]

/-- **The points are those of the source**: what is left at a point is one step, and then what is
    left at the next one, whatever the step comes to. -/
theorem rest_advance (p : ReadPoint) (hp : ∀ data, p ≠ .done data) (w : World) :
    r.rest p w = (r.advance p >>= r.rest) w := by
  cases p with
  | reset => simp only [rest, advance, opening, bind_assoc, pure_bind]
  | openFile =>
      simp only [rest, advance, bind_assoc, takeOpen_rest]
  | opened session fileSize =>
      simp only [rest, advance, readOpened, fillMissingBlocks, cycleFrom, repairFrom, fillFrom_zero,
        bind_assoc, pure_bind]
  | cycle session state retries => exact rest_cycle w
  | burst session state retries => exact rest_burst w
  | repair session blocks filled state =>
      cases blocks with
      | nil => simp only [rest, repairFrom, fillFrom, advance, pure_bind]
      | cons missing blocks => exact rest_repair w
  | closing session error => simp only [rest, advance, bind_assoc, fail_bind]
  | finish session state => simp only [rest, advance, bind_assoc, pure_bind, bind_pure]
  | done data => exact absurd rfl (hp data)

end ReadCall

end MavlinkServer.Ftp
