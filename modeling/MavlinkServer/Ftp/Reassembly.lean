/-
  File:      MavlinkServer/Ftp/Reassembly.lean
  Subject:   THE BURST PHASE PUTS A FILE TOGETHER, against a server whose burst
             packets are slices of one file.

  * `deliveredBeforeEof` -- the replies a burst takes from its input, up to
    the first Eof; `absorb` -- what one of them does to the state.
    `burstPhase_ok`: the burst phase, with its cycles, timeouts and lags, is
    the fold of `absorb` over them;
  * `HonestBurst`, `HonestReads` -- what the server promises;
  * `Held` -- the invariant of the burst: outside the recorded blocks the
    buffer agrees with the file up to `contiguous_end` (`absorb_held` for one
    packet, `burstPhase_held` for the whole phase);
  * `keptEnd` -- the frontier, read off the packets alone.
-/
import MavlinkServer.Ftp.Requests

namespace MavlinkServer.Ftp

open Lib Await

/-! ## 1. The burst phase as a fold -/

/-- A Nak with code Eof, as `run_burst_cycle` reads it. -/
def isEof (resp : FtpPayload) : Bool :=
  match checkNak resp with
  | .error nak => nak.errCode = .eof
  | .ok () => false

/-- The replies a burst takes from the events, up to the first Eof. -/
def deliveredBeforeEof (t : Target) : List HubEvent → List FtpPayload
  | [] => []
  | .message m :: rest =>
      match examine t none m with
      | .reply resp => if isEof resp then [] else resp :: deliveredBeforeEof t rest
      | .skip => deliveredBeforeEof t rest
      | .failed _ => deliveredBeforeEof t rest
  | _ :: rest => deliveredBeforeEof t rest

/-- A packet of a burst. -/
def isBurstAck (resp : FtpPayload) : Bool := resp.opcode = .ack ∧ resp.reqOpcode = .burstReadFile

/-- The test by which the loop passes a reply over. -/
theorem not_isBurstAck {resp : FtpPayload} :
    ¬ isBurstAck resp = true ↔ resp.opcode ≠ .ack ∨ resp.reqOpcode ≠ .burstReadFile := by
  unfold isBurstAck
  rw [decide_eq_true_eq, not_and_or]

theorem isBurstAck_of_not {resp : FtpPayload}
    (h : ¬ (resp.opcode ≠ .ack ∨ resp.reqOpcode ≠ .burstReadFile)) : isBurstAck resp = true :=
  Decidable.not_not.mp fun hack => h (not_isBurstAck.mp hack)

/-- What one reply does to the state of a burst that goes on. -/
def absorb (state : BurstReadState) (resp : FtpPayload) : BurstReadState :=
  if isBurstAck resp then
    match extendContiguous state resp with
    | .ok (some state') => { state' with totalPackets := state'.totalPackets + 1 }
    | _ => state
  else state

/-- What is delivered after one wait. -/
def deliveredAfter (t : Target) (r : Received) (rest : List HubEvent) : List FtpPayload :=
  match r with
  | .reply resp => if isEof resp then [] else resp :: deliveredBeforeEof t rest
  | _ => deliveredBeforeEof t rest

/-- One wait reads the next delivered reply, or ends without one. -/
theorem deliveredBeforeEof_recvFtp {t : Target} {r : Received} {rest : List HubEvent} :
    ∀ {events : List HubEvent}, recvFtp t none events = some (r, rest) →
      deliveredBeforeEof t events = deliveredAfter t r rest
  | [], h => by cases h
  | .elapsed :: _, h => by cases h; rfl
  | .closed :: _, h => by cases h; rfl
  | .lagged _ :: events, h => by
      simp only [recvFtp] at h
      show deliveredBeforeEof t events = _
      exact deliveredBeforeEof_recvFtp h
  | .message m :: events, h => by
      simp only [recvFtp] at h
      unfold deliveredBeforeEof
      split at h
      · rename_i hex
        rw [hex]
        exact deliveredBeforeEof_recvFtp h
      · rename_i hex
        rw [hex]
        cases h
        rfl
      · rename_i hex
        rw [hex]
        cases h
        rfl

theorem storeProgress_inbox {progress : Bool} {value : UInt64} {u : Unit} {w w' : World}
    (h : storeProgress progress value w = (.ok u, w')) : w'.inbox = w.inbox := by
  unfold storeProgress at h
  split at h
  · rw [updateProgress, note_ok] at h
    rw [h]
  · rw [pure_ok] at h
    rw [h.2]

/-- A burst packet that is taken up does what `extendContiguous` says and reads no input. -/
theorem applyBurstChunk_ok {state : BurstReadState} {resp : FtpPayload} {progress : Bool}
    {o : Option BurstReadState} {w w' : World}
    (h : applyBurstChunk state resp progress w = (.ok o, w')) :
    extendContiguous state resp = .ok o ∧ w'.inbox = w.inbox := by
  unfold applyBurstChunk at h
  cases hx : extendContiguous state resp with
  | error error =>
      rw [hx] at h
      exact (fail_ok.mp h).elim
  | ok o' =>
      rw [hx] at h
      cases o' with
      | none =>
          obtain ⟨rfl, rfl⟩ := pure_ok.mp h
          exact ⟨rfl, rfl⟩
      | some state' =>
          obtain ⟨_, w1, h1, h⟩ := bind_ok.mp h
          obtain ⟨_, w2, h2, h⟩ := bind_ok.mp h
          obtain ⟨rfl, rfl⟩ := pure_ok.mp h
          refine ⟨rfl, ?_⟩
          rw [storeProgress_inbox h2, note_ok.mp h1]

/-- The state a burst arrives at when what is left of its input is delivered too. -/
def burstResult (t : Target) (state : BurstReadState) (events : List HubEvent) : BurstReadState :=
  (deliveredBeforeEof t events).foldl absorb state

/-- What the end of one cycle says about the end of the burst. -/
def CycleEnds (t : Target) (final : BurstReadState) (events : List HubEvent) :
    BurstCycleOutcome → BurstReadState → Prop
  | .eof, state' => state' = final
  | .continue, state' => burstResult t state' events = final

/-- What the state of a burst is behind one wait. -/
def absorbReceived (state : BurstReadState) : Received → BurstReadState
  | .reply resp => absorb state resp
  | .failed _ | .elapsed => state

def Received.isEof : Received → Bool
  | .reply resp => Ftp.isEof resp
  | .failed _ | .elapsed => false

theorem absorb_of_not {state : BurstReadState} {resp : FtpPayload}
    (h : resp.opcode ≠ .ack ∨ resp.reqOpcode ≠ .burstReadFile) : absorb state resp = state :=
  if_neg (not_isBurstAck.mpr h)

/-- **One turn of the loop**, where the function goes on: the Eof ends the burst; anything else is
    absorbed, and ends the cycle or leads to the next turn. -/
theorem burstLoop_cases {t : Target} {session : UInt8} {progress : Bool} {fuel : Nat}
    {state : BurstReadState} {retries : Nat} {r : BurstCycleOutcome × BurstReadState × Nat}
    {w w' : World}
    (h : burstLoop t session progress (fuel + 1) state retries w = (.ok r, w')) :
    ∃ received rest, recvFtp t none w.inbox = some (received, rest) ∧
      ((received.isEof = true ∧ r = (.eof, state, retries) ∧ w'.inbox = rest) ∨
        received.isEof = false ∧
          ((∃ retries', r = (.continue, absorbReceived state received, retries') ∧
              w'.inbox = rest) ∨
            ∃ retries' w1, w1.inbox = rest ∧
              burstLoop t session progress fuel (absorbReceived state received) retries' w1 =
                (.ok r, w'))) := by
  unfold burstLoop at h
  obtain ⟨received, w1, hw, h⟩ := bind_ok.mp h
  obtain ⟨rest, hrecv, rfl⟩ := awaitFtp_ok.mp hw
  refine ⟨received, rest, hrecv, ?_⟩
  cases received with
  | failed error => exact Or.inr ⟨rfl, Or.inr ⟨_, _, rfl, h⟩⟩
  | elapsed =>
      dsimp only at h
      split at h
      · obtain ⟨_, w2, _, h⟩ := bind_ok.mp h
        exact (fail_ok.mp h).elim
      · obtain ⟨rfl, rfl⟩ := pure_ok.mp h
        exact Or.inr ⟨rfl, Or.inl ⟨_, rfl, rfl⟩⟩
  | reply resp =>
      dsimp only at h
      cases hnak : checkNak resp with
      | error nak =>
          rw [hnak] at h
          obtain ⟨_, w2, hnote, h⟩ := bind_ok.mp h
          obtain rfl := note_ok.mp hnote
          split at h
          · rename_i heof
            obtain ⟨rfl, rfl⟩ := pure_ok.mp h
            exact Or.inl ⟨by simp [Received.isEof, Ftp.isEof, hnak, heof], rfl, rfl⟩
          · obtain ⟨_, w3, _, h⟩ := bind_ok.mp h
            exact (fail_ok.mp h).elim
      | ok u =>
          rw [hnak] at h
          dsimp only at h
          refine Or.inr ⟨by simp [Received.isEof, Ftp.isEof, hnak], ?_⟩
          simp only [absorbReceived]
          split at h
          · rename_i hother
            rw [absorb_of_not hother]
            exact Or.inr ⟨_, _, rfl, h⟩
          · rename_i hother
            have hack : isBurstAck resp = true := isBurstAck_of_not hother
            obtain ⟨o, w2, happly, h⟩ := bind_ok.mp h
            obtain ⟨hextend, hin⟩ := applyBurstChunk_ok happly
            cases o with
            | none =>
                have habsorb : absorb state resp = state := by simp [absorb, hack, hextend]
                rw [habsorb]
                exact Or.inr ⟨_, w2, hin, h⟩
            | some state' =>
                have habsorb : absorb state resp =
                    { state' with totalPackets := state'.totalPackets + 1 } := by
                  simp [absorb, hack, hextend]
                rw [habsorb]
                dsimp only at h
                split at h
                · obtain ⟨rfl, rfl⟩ := pure_ok.mp h
                  exact Or.inl ⟨0, rfl, hin⟩
                · exact Or.inr ⟨0, w2, hin, h⟩

/-- Behind anything but the Eof the rest is delivered to what has absorbed it. -/
theorem foldl_deliveredAfter {t : Target} {received : Received} {rest : List HubEvent}
    (h : received.isEof = false) (state : BurstReadState) :
    (deliveredAfter t received rest).foldl absorb state =
      burstResult t (absorbReceived state received) rest := by
  cases received with
  | failed error => rfl
  | elapsed => rfl
  | reply resp =>
      have heof : Ftp.isEof resp = false := h
      simp only [deliveredAfter, heof, Bool.false_eq_true, if_false, List.foldl_cons]
      rfl

theorem deliveredAfter_eof {t : Target} {received : Received} {rest : List HubEvent}
    (h : received.isEof = true) : deliveredAfter t received rest = [] := by
  cases received with
  | failed error => cases h
  | elapsed => cases h
  | reply resp => exact if_pos h

theorem burstLoop_ok {t : Target} {session : UInt8} {progress : Bool} :
    ∀ {fuel : Nat} {state state' : BurstReadState} {retries retries' : Nat}
      {outcome : BurstCycleOutcome} {w w' : World},
      burstLoop t session progress fuel state retries w = (.ok (outcome, state', retries'), w') →
        CycleEnds t (burstResult t state w.inbox) w'.inbox outcome state' := by
  intro fuel
  induction fuel with
  | zero =>
      intro state state' retries retries' outcome w w' h
      exact (stuck_ok.mp h).elim
  | succ fuel ih =>
      intro state state' retries retries' outcome w w' h
      obtain ⟨received, rest, hrecv, hturn⟩ := burstLoop_cases h
      unfold burstResult
      rw [deliveredBeforeEof_recvFtp hrecv]
      rcases hturn with ⟨heof, hr, _⟩ | ⟨hgoes, ⟨_, hr, hin⟩ | ⟨_, w1, hin, hloop⟩⟩
      · cases hr
        rw [deliveredAfter_eof heof]
        rfl
      · cases hr
        rw [foldl_deliveredAfter hgoes, ← hin]
        rfl
      · rw [foldl_deliveredAfter hgoes, ← hin]
        exact ih hloop

/-- A cycle that ends has read something. -/
theorem burstLoop_shorter {t : Target} {session : UInt8} {progress : Bool} :
    ∀ {fuel : Nat} {state : BurstReadState} {retries : Nat}
      {r : BurstCycleOutcome × BurstReadState × Nat} {w w' : World},
      burstLoop t session progress fuel state retries w = (.ok r, w') →
        w'.inbox.length < w.inbox.length := by
  intro fuel
  induction fuel with
  | zero =>
      intro state retries r w w' h
      exact (stuck_ok.mp h).elim
  | succ fuel ih =>
      intro state retries r w w' h
      obtain ⟨received, rest, hrecv, hturn⟩ := burstLoop_cases h
      have hshorter : rest.length < w.inbox.length := recvFtp_shorter hrecv
      rcases hturn with ⟨_, _, hin⟩ | ⟨_, ⟨_, _, hin⟩ | ⟨_, w1, hin, hloop⟩⟩
      · rw [hin]
        exact hshorter
      · rw [hin]
        exact hshorter
      · have hlater := ih hloop
        rw [hin] at hlater
        exact Nat.lt_trans hlater hshorter

/-- Sending a burst request reads no input. -/
theorem runBurstCycle_ok {t : Target} {session : UInt8} {progress : Bool}
    {state state' : BurstReadState} {retries retries' : Nat} {outcome : BurstCycleOutcome}
    {w w' : World}
    (h : runBurstCycle t session progress state retries w = (.ok (outcome, state', retries'), w')) :
    CycleEnds t (burstResult t state w.inbox) w'.inbox outcome state' := by
  unfold runBurstCycle at h
  obtain ⟨req, w1, h1, h⟩ := bind_ok.mp h
  obtain ⟨_, w2, h2, h⟩ := bind_ok.mp h
  have hin1 : w1.inbox = w.inbox := by
    obtain ⟨_, w0, h0, h1⟩ := bind_ok.mp h1
    rw [pure_ok] at h1
    cases h0
    rw [← h1.2]
  have hin2 : w2.inbox = w1.inbox := by
    rw [sendFtpMessage, note_ok] at h2
    rw [h2]
  rw [← hin1, ← hin2]
  exact burstLoop_ok h

/-- **The burst phase is the fold over the delivered replies**, however many cycles, timeouts and
    lags it took. -/
theorem burstPhase_ok {t : Target} {session : UInt8} {progress : Bool} :
    ∀ {fuel : Nat} {state state' : BurstReadState} {retries : Nat} {w w' : World},
      burstPhase t session progress fuel state retries w = (.ok state', w') →
        state' = burstResult t state w.inbox := by
  intro fuel
  induction fuel with
  | zero =>
      intro state state' retries w w' h
      simp [burstPhase] at h
  | succ fuel ih =>
      intro state state' retries w w' h
      unfold burstPhase at h
      obtain ⟨⟨outcome, s, r⟩, w1, hc, h⟩ := bind_ok.mp h
      have hends := runBurstCycle_ok hc
      cases outcome with
      | «continue» =>
          have hres : burstResult t s w1.inbox = burstResult t state w.inbox := hends
          rw [← hres]
          exact ih h
      | eof =>
          rw [pure_ok] at h
          obtain ⟨rfl, _⟩ := h
          exact hends

/-- Whatever is delivered is a reply of the target, and no Eof. -/
theorem mem_deliveredBeforeEof {t : Target} {resp : FtpPayload} :
    ∀ {events : List HubEvent}, resp ∈ deliveredBeforeEof t events → resp ∈ replies t events
  | [], h => absurd h List.not_mem_nil
  | .elapsed :: rest, h | .closed :: rest, h | .lagged _ :: rest, h => by
      have h : resp ∈ deliveredBeforeEof t rest := h
      have later : resp ∈ replies t rest := mem_deliveredBeforeEof h
      exact later
  | .message m :: rest, h => by
      have later : resp ∈ deliveredBeforeEof t rest → resp ∈ replies t (.message m :: rest) := by
        intro h
        obtain ⟨m', hm', he⟩ := mem_replies.mp (mem_deliveredBeforeEof h)
        exact mem_replies.mpr ⟨m', List.mem_cons_of_mem _ hm', he⟩
      unfold deliveredBeforeEof at h
      split at h
      · rename_i r hex
        split at h
        · exact absurd h List.not_mem_nil
        · rcases List.mem_cons.mp h with rfl | h
          · exact mem_replies.mpr ⟨m, List.mem_cons_self, hex⟩
          · exact later h
      · exact later h
      · exact later h

/-! ## 2. An honest server -/

variable {file : List UInt8}

/-- The payloads a server sends: an Ack with data, a Nak with its code. -/
def serverAck (seqNumber : UInt16) (reqOpcode : FtpOpcode) (session : UInt8) (offset : UInt32)
    (data : List UInt8) : FtpPayload where
  seqNumber := seqNumber
  session := session
  opcode := .ack
  size := UInt8.ofNat data.length
  reqOpcode := reqOpcode
  burstComplete := 0
  offset := offset
  data := data

def serverNak (seqNumber : UInt16) (reqOpcode : FtpOpcode) (session : UInt8) (offset : UInt32)
    (code : UInt8) : FtpPayload :=
  { serverAck seqNumber reqOpcode session offset [code] with opcode := .nak }

/-- A burst packet with a non-empty slice of the file at its stated offset. -/
structure HonestChunk (file : List UInt8) (resp : FtpPayload) : Prop where
  nonempty : resp.size ≠ 0
  inside : resp.offset.toNat + resp.size.toNat ≤ file.length
  bytes : resp.data = slice file resp.offset.toNat resp.size.toNat

instance (file : List UInt8) (resp : FtpPayload) : Decidable (HonestChunk file resp) :=
  decidable_of_iff (resp.size ≠ 0 ∧ resp.offset.toNat + resp.size.toNat ≤ file.length ∧
      resp.data = slice file resp.offset.toNat resp.size.toNat)
    ⟨fun h => ⟨h.1, h.2.1, h.2.2⟩, fun h => ⟨h.nonempty, h.inside, h.bytes⟩⟩

/-- Every burst packet of the target is one of the file. -/
def HonestBurst (t : Target) (file : List UInt8) (events : List HubEvent) : Prop :=
  ∀ resp ∈ replies t events, isBurstAck resp → HonestChunk file resp

instance (t : Target) (file : List UInt8) (events : List HubEvent) :
    Decidable (HonestBurst t file events) :=
  inferInstanceAs (Decidable (∀ resp ∈ replies t events, isBurstAck resp → HonestChunk file resp))

/-- `resp` answers the ReadFile request `req`: it refuses (but not with an Eof), or carries
    between 1 and the requested number of bytes from the requested offset. -/
structure AnswersRead (file : List UInt8) (req resp : FtpPayload) : Prop where
  notEof : isEof resp = false
  bytes : resp.opcode ≠ .nak → 1 ≤ resp.size.toNat ∧ resp.size.toNat ≤ req.size.toNat ∧
    resp.data = slice file req.offset.toNat resp.size.toNat

instance (file : List UInt8) (req resp : FtpPayload) : Decidable (AnswersRead file req resp) :=
  decidable_of_iff (isEof resp = false ∧ (resp.opcode ≠ .nak → 1 ≤ resp.size.toNat ∧
      resp.size.toNat ≤ req.size.toNat ∧ resp.data = slice file req.offset.toNat resp.size.toNat))
    ⟨fun h => ⟨h.1, h.2⟩, fun h => ⟨h.notEof, h.bytes⟩⟩

/-- The requests of a run with the replies accepted for them. -/
def acceptedPairs (trace : List FtpEvent) : List (FtpPayload × FtpPayload) :=
  trace.filterMap fun
    | .accepted req resp => some (req, resp)
    | _ => none

theorem mem_acceptedPairs {trace : List FtpEvent} {req resp : FtpPayload}
    (h : .accepted req resp ∈ trace) : (req, resp) ∈ acceptedPairs trace :=
  List.mem_filterMap.mpr ⟨_, h, rfl⟩

/-- Every ReadFile reply that was accepted answers its request. -/
def HonestReads (file : List UInt8) (trace : List FtpEvent) : Prop :=
  ∀ p ∈ acceptedPairs trace, p.1.opcode = .readFile → AnswersRead file p.1 p.2

instance (file : List UInt8) (trace : List FtpEvent) : Decidable (HonestReads file trace) :=
  inferInstanceAs (Decidable
    (∀ p ∈ acceptedPairs trace, p.1.opcode = .readFile → AnswersRead file p.1 p.2))

/-! ## 3. The burst keeps the buffer right outside the recorded blocks -/

/-- The recorded blocks as holes. -/
def holes (blocks : List MissingBlock) : List (Nat × Nat) :=
  blocks.map fun b => (b.offset.toNat, b.size.toNat)

/-- **The invariant of the burst**: below `contiguous_end` and outside the recorded blocks the
    buffer holds the file. -/
structure Held (file : List UInt8) (state : BurstReadState) : Prop where
  agrees : AgreesOn state.fileData file
    (known state.contiguousEnd.toNat (holes state.missingBlocks))
  inFile : state.contiguousEnd.toNat ≤ file.length
  room : state.contiguousEnd.toNat ≤ state.fileData.length
  below : ∀ b ∈ state.missingBlocks, b.offset.toNat + b.size.toNat ≤ state.contiguousEnd.toNat

theorem held_new (file : List UInt8) (fileSize : Nat) : Held file (.new fileSize) where
  agrees := by
    show AgreesOn _ _ (known 0 [])
    rw [known_nil]
    exact fun i hi => absurd hi (Nat.not_lt_zero i)
  inFile := Nat.zero_le _
  room := Nat.zero_le _
  below := fun _ hb => absurd hb List.not_mem_nil

theorem copyChunkIntoBuffer_ok {fileData fileData' chunkData : List UInt8} {chunkOffset : UInt32}
    {chunkSize : Nat} :
    copyChunkIntoBuffer fileData chunkOffset chunkSize chunkData = .ok fileData' ↔
      chunkSize ≤ chunkData.length ∧
        fileData' = overlay (padTo fileData (chunkOffset.toNat + chunkSize) 0) chunkOffset.toNat
          (chunkData.take chunkSize) := by
  unfold copyChunkIntoBuffer
  split
  · rename_i hlt
    constructor
    · intro h
      cases h
    · intro h
      omega
  · rename_i hlt
    constructor
    · intro h
      cases h
      exact ⟨Nat.not_lt.mp hlt, rfl⟩
    · intro h
      rw [h.2]

theorem length_copyChunkIntoBuffer {fileData fileData' chunkData : List UInt8}
    {chunkOffset : UInt32} {chunkSize : Nat}
    (h : copyChunkIntoBuffer fileData chunkOffset chunkSize chunkData = .ok fileData') :
    fileData'.length = max fileData.length (chunkOffset.toNat + chunkSize) := by
  obtain ⟨hlen, rfl⟩ := copyChunkIntoBuffer_ok.mp h
  exact length_overlay_padTo 0 (by rw [List.length_take, Nat.min_eq_left hlen])

/-- A chunk of the file that is copied where it stands in it. -/
theorem copyChunkIntoBuffer_agrees {fileData fileData' chunkData : List UInt8}
    {chunkOffset : UInt32} {chunkSize : Nat} {K : Set Nat}
    (h : copyChunkIntoBuffer fileData chunkOffset chunkSize chunkData = .ok fileData')
    (hbytes : chunkData = slice file chunkOffset.toNat chunkSize)
    (hin : chunkOffset.toNat + chunkSize ≤ file.length) (hagrees : AgreesOn fileData file K) :
    AgreesOn fileData' file
      (K ∪ Set.Ico chunkOffset.toNat (chunkOffset.toNat + chunkSize)) := by
  obtain ⟨_, rfl⟩ := copyChunkIntoBuffer_ok.mp h
  rw [hbytes, List.take_of_length_le (Nat.le_of_eq (length_slice hin))]
  exact hagrees.overlay_slice hin 0

/-- **What a chunk that is taken up does to the state.** -/
theorem extendContiguous_some {state state' : BurstReadState} {resp : FtpPayload}
    (h : extendContiguous state resp = .ok (some state')) :
    state.contiguousEnd ≤ resp.offset ∧
      copyChunkIntoBuffer state.fileData resp.offset resp.size.toNat resp.data =
        .ok state'.fileData ∧
      state'.contiguousEnd = resp.offset + resp.size.toUInt32 ∧
      state'.missingBlocks = state.missingBlocks ++
        if resp.offset > state.contiguousEnd then
          [⟨state.contiguousEnd, resp.offset - state.contiguousEnd⟩] else [] := by
  unfold extendContiguous at h
  split at h
  · cases h
  · split at h
    · cases h
    · rename_i hlt
      cases hcopy : copyChunkIntoBuffer state.fileData resp.offset resp.size.toNat resp.data with
      | error error =>
          rw [hcopy] at h
          cases h
      | ok fileData =>
          rw [hcopy] at h
          cases h
          refine ⟨UInt32.not_lt.mp hlt, rfl, rfl, ?_⟩
          show (if _ then _ else _) = _
          split
          · rfl
          · rw [List.append_nil]

/-- A chunk of the file is taken up exactly when it starts at or past the frontier. -/
theorem extendContiguous_chunk (state : BurstReadState) {resp : FtpPayload}
    (hc : HonestChunk file resp) :
    (resp.offset < state.contiguousEnd → extendContiguous state resp = .ok none) ∧
      (state.contiguousEnd ≤ resp.offset →
        ∃ state', extendContiguous state resp = .ok (some state')) := by
  have hlen : ¬ resp.data.length < resp.size.toNat := by
    rw [hc.bytes, length_slice hc.inside]
    exact Nat.lt_irrefl _
  unfold extendContiguous
  rw [if_neg hc.nonempty]
  constructor
  · intro hlt
    rw [if_pos hlt]
  · intro hle
    rw [if_neg (UInt32.not_lt.mpr hle)]
    unfold copyChunkIntoBuffer
    rw [if_neg hlen]
    exact ⟨_, rfl⟩

/-- No wrap in the new frontier of a chunk of a file below 2^32 bytes. -/
theorem HonestChunk.end_toNat {resp : FtpPayload} (hc : HonestChunk file resp)
    (hfile : file.length < 2 ^ 32) :
    (resp.offset + resp.size.toUInt32).toNat = resp.offset.toNat + resp.size.toNat := by
  have := hc.inside
  rw [UInt32.toNat_add, UInt8.toNat_toUInt32]
  omega

/-- One chunk keeps the invariant. -/
theorem extendContiguous_held {state state' : BurstReadState} {resp : FtpPayload}
    (hfile : file.length < 2 ^ 32) (hs : Held file state) (hc : HonestChunk file resp)
    (h : extendContiguous state resp = .ok (some state')) : Held file state' := by
  obtain ⟨hle, hcopy, hend, hblocks⟩ := extendContiguous_some h
  have hle' : state.contiguousEnd.toNat ≤ resp.offset.toNat := UInt32.le_iff_toNat_le.mp hle
  have hin := hc.inside
  have hend' := hc.end_toNat hfile
  have hwritten := copyChunkIntoBuffer_agrees hcopy hc.bytes hin hs.agrees
  refine ⟨?_, by rw [hend, hend']; omega, ?_, ?_⟩
  · rw [hend, hend', hblocks]
    refine hwritten.mono ?_
    split
    · rename_i hgt
      have hsub : (resp.offset - state.contiguousEnd).toNat =
          resp.offset.toNat - state.contiguousEnd.toNat := UInt32.toNat_sub_of_le _ _ hle
      rw [holes, List.map_append, List.map_singleton, hsub]
      exact known_extend
    · rename_i hgt
      have heq : resp.offset.toNat = state.contiguousEnd.toNat :=
        Nat.le_antisymm (UInt32.le_iff_toNat_le.mp (UInt32.not_lt.mp hgt)) hle'
      rw [List.append_nil, heq]
      exact known_append
  · rw [hend, hend', length_copyChunkIntoBuffer hcopy]
    exact Nat.le_max_right _ _
  · intro b hb
    rw [hend, hend']
    rw [hblocks] at hb
    rcases List.mem_append.mp hb with hb | hb
    · have := hs.below b hb
      omega
    · split at hb
      · have hsub : (resp.offset - state.contiguousEnd).toNat =
            resp.offset.toNat - state.contiguousEnd.toNat := UInt32.toNat_sub_of_le _ _ hle
        have e : b = ⟨state.contiguousEnd, resp.offset - state.contiguousEnd⟩ :=
          List.mem_singleton.mp hb
        subst e
        show state.contiguousEnd.toNat + (resp.offset - state.contiguousEnd).toNat ≤ _
        rw [hsub]
        omega
      · exact absurd hb List.not_mem_nil

/-- The frontier of the packets kept: a burst packet counts when it starts at or past the end of
    the last one kept. -/
def keptEnd (e : Nat) : List FtpPayload → Nat
  | [] => e
  | resp :: rest =>
      if isBurstAck resp ∧ e ≤ resp.offset.toNat then
        keptEnd (resp.offset.toNat + resp.size.toNat) rest
      else keptEnd e rest

/-- One delivered reply: the invariant stays, and the frontier moves as `keptEnd` says. -/
theorem absorb_held {state : BurstReadState} {resp : FtpPayload} (hfile : file.length < 2 ^ 32)
    (hs : Held file state) (hc : isBurstAck resp → HonestChunk file resp) :
    Held file (absorb state resp) ∧ ∀ rest, keptEnd state.contiguousEnd.toNat (resp :: rest) =
      keptEnd (absorb state resp).contiguousEnd.toNat rest := by
  unfold absorb
  by_cases hb : isBurstAck resp = true
  · have hchunk := hc hb
    obtain ⟨hstale, htaken⟩ := extendContiguous_chunk state hchunk
    by_cases hlt : resp.offset < state.contiguousEnd
    · have hlt' : resp.offset.toNat < state.contiguousEnd.toNat := UInt32.lt_iff_toNat_lt.mp hlt
      rw [if_pos hb, hstale hlt]
      refine ⟨hs, fun rest => ?_⟩
      rw [keptEnd, if_neg (by omega)]
    · have hle : state.contiguousEnd ≤ resp.offset := UInt32.not_lt.mp hlt
      obtain ⟨state', hx⟩ := htaken hle
      have hheld := extendContiguous_held hfile hs hchunk hx
      rw [if_pos hb, hx]
      refine ⟨⟨hheld.agrees, hheld.inFile, hheld.room, hheld.below⟩, fun rest => ?_⟩
      obtain ⟨_, _, hend, _⟩ := extendContiguous_some hx
      rw [keptEnd, if_pos ⟨hb, UInt32.le_iff_toNat_le.mp hle⟩]
      show _ = keptEnd state'.contiguousEnd.toNat rest
      rw [hend, hchunk.end_toNat hfile]
  · rw [if_neg hb]
    refine ⟨hs, fun rest => ?_⟩
    rw [keptEnd, if_neg (fun h => hb h.1)]

theorem foldl_absorb_held (hfile : file.length < 2 ^ 32) :
    ∀ (resps : List FtpPayload) {state : BurstReadState}, Held file state →
      (∀ resp ∈ resps, isBurstAck resp → HonestChunk file resp) →
      Held file (resps.foldl absorb state) ∧
        (resps.foldl absorb state).contiguousEnd.toNat =
          keptEnd state.contiguousEnd.toNat resps := by
  intro resps
  induction resps with
  | nil => exact fun hs _ => ⟨hs, rfl⟩
  | cons resp rest ih =>
      intro state hs hall
      obtain ⟨hheld, hkept⟩ := absorb_held hfile hs (hall resp List.mem_cons_self)
      rw [hkept rest]
      exact ih hheld fun r hr => hall r (List.mem_cons_of_mem _ hr)

/-- **The burst phase against an honest server**: the invariant holds at its end, and the frontier
    is that of the packets kept before the first Eof. -/
theorem burstPhase_held {t : Target} {session : UInt8} {progress : Bool} {fuel fileSize : Nat}
    {state : BurstReadState} {w w' : World} (hfile : file.length < 2 ^ 32)
    (hb : HonestBurst t file w.inbox)
    (h : burstPhase t session progress fuel (.new fileSize) 0 w = (.ok state, w')) :
    Held file state ∧
      state.contiguousEnd.toNat = keptEnd 0 (deliveredBeforeEof t w.inbox) := by
  rw [burstPhase_ok h]
  exact foldl_absorb_held hfile _ (held_new file fileSize) fun resp hr =>
    hb resp (mem_deliveredBeforeEof hr)

end MavlinkServer.Ftp
