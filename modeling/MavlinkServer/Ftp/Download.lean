/-
  File:      MavlinkServer/Ftp/Download.lean
  Subject:   WHAT A READ RETURNS: integrity and completeness of the download.

  * `readMissingBlockChunk_ok`, `fillBlock_held`, `fillBlocks_held` -- the
    repair closes the recorded blocks one by one and writes nothing else;
  * `burstReadFileInner_prefix` -- the data returned is a front part of the
    file, without holes;
  * `burstReadFileInner_length_iff` -- it is the whole file exactly when the
    packets kept before the first Eof reach its end: the repair knows the
    blocks in front of a packet, not a tail that no packet followed.
-/
import MavlinkServer.Ftp.Reassembly

namespace MavlinkServer.Ftp

open Lib Await

variable {file : List UInt8}

/-! ## 1. Replies that are accepted -/

/-- A request that is answered took its reply from a message of the target with the expected
    number. -/
theorem sendAndReceiveLoop_ok {t : Target} {payload resp : FtpPayload} :
    ∀ {attempts : Nat} {lastError : FtpFailure} {w w' : World},
      sendAndReceiveLoop t payload attempts lastError w = (.ok resp, w') →
        .accepted payload resp ∈ w'.trace ∧
          ∃ m, .message m ∈ w.inbox ∧ examine t (some payload.seqNumber) m = .reply resp := by
  intro attempts
  induction attempts with
  | zero =>
      intro lastError w w' h
      exact (fail_ok.mp h).elim
  | succ attempts ih =>
      intro lastError w w' h
      cases hr : recvFtp t (some payload.seqNumber) w.inbox with
      | none =>
          rw [sendAndReceiveLoop_waits hr] at h
          cases h
      | some p =>
          obtain ⟨r, rest⟩ := p
          have again : (∃ m, .message m ∈ rest ∧
              examine t (some payload.seqNumber) m = .reply resp) →
                ∃ m, .message m ∈ w.inbox ∧ examine t (some payload.seqNumber) m = .reply resp := by
            rintro ⟨m, hm, he⟩
            obtain ⟨event, used, hsplit⟩ := recvFtp_suffix hr
            rw [hsplit]
            exact ⟨m, List.mem_append_right _ hm, he⟩
          cases r with
          | failed error =>
              rw [sendAndReceiveLoop_failed hr] at h
              obtain ⟨hacc, hm⟩ := ih h
              exact ⟨hacc, again hm⟩
          | elapsed =>
              rw [sendAndReceiveLoop_elapsed hr] at h
              obtain ⟨hacc, hm⟩ := ih h
              exact ⟨hacc, again hm⟩
          | reply resp' =>
              rw [sendAndReceiveLoop_reply hr] at h
              cases h
              exact ⟨List.mem_append_right _ (List.mem_singleton_self _), recvFtp_reply hr⟩

theorem subscribe_inbox {u : Unit} {w w' : World} (h : subscribe w = (.ok u, w')) :
    w'.inbox = w.inbox := by
  unfold subscribe at h
  split at h
  · cases h
    rfl
  · cases h
    rfl
  · cases h

theorem sendAndReceive_ok {t : Target} {payload resp : FtpPayload} {w w' : World}
    (h : sendAndReceive t payload w = (.ok resp, w')) :
    .accepted payload resp ∈ w'.trace ∧
      ∃ m, .message m ∈ w.inbox ∧ examine t (some payload.seqNumber) m = .reply resp := by
  obtain ⟨_, w1, h1, h⟩ := bind_ok.mp h
  rw [← subscribe_inbox h1]
  exact sendAndReceiveLoop_ok h

/-- Every function of a read keeps what was recorded before. -/
theorem Emits.keeps {α : Type} {P : FtpEvent → Prop} {x : Client α} (hx : Emits P x)
    {o : Outcome FtpFailure α} {w w' : World} (h : x w = (o, w')) {e : FtpEvent}
    (he : e ∈ w.trace) : e ∈ w'.trace := (hx.of_eq h).mem he

/-- What is asked of the replies accepted in a run is asked of a part of it. -/
theorem HonestReads.earlier {trace trace' : List FtpEvent} (h : HonestReads file trace')
    (hsub : ∀ e ∈ trace, e ∈ trace') : HonestReads file trace := by
  intro p hp hop
  obtain ⟨e, he, heq⟩ := List.mem_filterMap.mp hp
  exact h p (List.mem_filterMap.mpr ⟨e, hsub e he, heq⟩) hop

/-! ## 2. The repair -/

/-- What a finished repair step did. -/
def RepairStep (missing : MissingBlock) (filled : UInt32) (state : BurstReadState)
    (resp : FtpPayload) : GapFillChunkOutcome → BurstReadState → Prop
  | .filled chunkSize, state' =>
      resp.opcode ≠ .nak ∧ chunkSize = resp.size.toUInt32 ∧
        copyChunkIntoBuffer state.fileData (missing.offset + filled) resp.size.toNat resp.data =
          .ok state'.fileData ∧ state'.contiguousEnd = state.contiguousEnd
  | .noData, state' => resp.opcode ≠ .nak ∧ resp.size = 0 ∧ state' = state
  | .endOfFile, state' => isEof resp = true ∧ state' = state

/-- **A repair step** copies the reply it accepted at the offset it asked for, or changes
    nothing. -/
theorem readMissingBlockChunk_ok {t : Target} {session : UInt8} {progress : Bool}
    {missing : MissingBlock} {filled : UInt32} {state state' : BurstReadState}
    {outcome : GapFillChunkOutcome} {w w' : World}
    (h : readMissingBlockChunk t session progress missing filled state w =
      (.ok (outcome, state'), w')) :
    ∃ req resp w1, req = repairRequest session missing filled
        (FtpPayload.newRequest .readFile w.seqNumber) ∧
      sendAndReceive t req { w with seqNumber := w.seqNumber + 1 } = (.ok resp, w1) ∧
      w'.inbox = w1.inbox ∧ .accepted req resp ∈ w'.trace ∧
      RepairStep missing filled state resp outcome state' := by
  unfold readMissingBlockChunk at h
  have hreq : newRequest .readFile w = (.ok (FtpPayload.newRequest .readFile w.seqNumber),
      { w with seqNumber := w.seqNumber + 1 }) := rfl
  rw [bind_of_ok hreq] at h
  obtain ⟨r, w2, h2, h⟩ := bind_ok.mp h
  cases r with
  | error error =>
      obtain ⟨_, w3, _, h⟩ := bind_ok.mp h
      exact (fail_ok.mp h).elim
  | ok resp =>
      have hsend := attempt_ok.mp h2
      obtain ⟨hacc, _⟩ := sendAndReceive_ok hsend
      dsimp only at h
      cases hnak : checkNak resp with
      | error nak =>
          rw [hnak] at h
          dsimp only at h
          split at h
          · rename_i heof
            obtain ⟨heq, rfl⟩ := pure_ok.mp h
            cases heq
            exact ⟨_, resp, _, rfl, hsend, rfl, hacc, by simp [isEof, hnak, heof], rfl⟩
          · obtain ⟨_, w3, _, h⟩ := bind_ok.mp h
            exact (fail_ok.mp h).elim
      | ok u =>
          have hop : resp.opcode ≠ .nak := checkNak_ok.mp hnak
          rw [hnak] at h
          dsimp only at h
          split at h
          · rename_i hsize
            obtain ⟨heq, rfl⟩ := pure_ok.mp h
            cases heq
            exact ⟨_, resp, _, rfl, hsend, rfl, hacc, hop, hsize, rfl⟩
          · cases hcopy : copyChunkIntoBuffer state.fileData (missing.offset + filled)
                resp.size.toNat resp.data with
            | error error =>
                rw [hcopy] at h
                exact (fail_ok.mp h).elim
            | ok fileData =>
                rw [hcopy] at h
                obtain ⟨_, w3, h3, h⟩ := bind_ok.mp h
                obtain ⟨heq, rfl⟩ := pure_ok.mp h
                cases heq
                have hkeep := (emits_storeProgress (P := fun _ => True) fun _ => trivial).keeps h3 hacc
                exact ⟨_, resp, _, rfl, hsend, storeProgress_inbox h3, hkeep, hop, rfl, hcopy, rfl⟩

/-- The number of bytes a repair request asks for, as a number. -/
theorem repairRequest_size {session : UInt8} {missing : MissingBlock} {filled : UInt32}
    {req : FtpPayload} (h : filled ≤ missing.size) :
    (repairRequest session missing filled req).size.toNat ≤
      missing.size.toNat - filled.toNat := by
  show (min (missing.size - filled) (UInt32.ofNat ftpDataMaxLen)).toUInt8.toNat ≤ _
  rw [UInt32.toNat_toUInt8, ← UInt32.toNat_sub_of_le _ _ h]
  have hmin : (min (missing.size - filled) (UInt32.ofNat ftpDataMaxLen)).toNat ≤
      (missing.size - filled).toNat := UInt32.le_iff_toNat_le.mp (Std.min_le_left)
  exact Nat.le_trans (Nat.mod_le _ _) hmin

/-- **One honest chunk**, copied where it was asked for, closes so much of the first hole. -/
theorem copied_held {missing : MissingBlock} {filled : UInt32} {e : Nat} {rest : List (Nat × Nat)}
    {size : UInt8} {data fileData fileData' : List UInt8} (hfile : file.length < 2 ^ 32)
    (hin : e ≤ file.length) (hblock : missing.offset.toNat + missing.size.toNat ≤ e)
    (hle : filled ≤ missing.size) (hsize : size.toNat ≤ missing.size.toNat - filled.toNat)
    (hbytes : data = slice file (missing.offset + filled).toNat size.toNat)
    (hcopy : copyChunkIntoBuffer fileData (missing.offset + filled) size.toNat data = .ok fileData')
    (hroom : e ≤ fileData.length)
    (hagrees : AgreesOn fileData file (known e
      ((missing.offset.toNat + filled.toNat, missing.size.toNat - filled.toNat) :: rest))) :
    filled + size.toUInt32 ≤ missing.size ∧ e ≤ fileData'.length ∧
      AgreesOn fileData' file (known e ((missing.offset.toNat + (filled + size.toUInt32).toNat,
        missing.size.toNat - (filled + size.toUInt32).toNat) :: rest)) := by
  have hle' := UInt32.le_iff_toNat_le.mp hle
  -- neither the offset nor the counter wraps, as both stay inside the file
  have hoff : (missing.offset + filled).toNat = missing.offset.toNat + filled.toNat := by
    rw [UInt32.toNat_add]
    omega
  have hnext : (filled + size.toUInt32).toNat = filled.toNat + size.toNat := by
    rw [UInt32.toNat_add, UInt8.toNat_toUInt32]
    omega
  have hwritten := copyChunkIntoBuffer_agrees hcopy hbytes (by omega) hagrees
  rw [hoff] at hwritten
  refine ⟨by rw [UInt32.le_iff_toNat_le]; omega, ?_, ?_⟩
  · rw [length_copyChunkIntoBuffer hcopy]
    exact Nat.le_trans hroom (Nat.le_max_left _ _)
  · rw [hnext, ← Nat.add_assoc, ← Nat.sub_sub]
    exact hwritten.mono (known_fill (by omega))

/-- **Filling one block.** `e` is the frontier the burst left; the block in hand is the first
    hole, of which `filled` bytes are closed already. -/
theorem fillBlock_held {t : Target} {session : UInt8} {progress : Bool} {missing : MissingBlock}
    {e : Nat} {rest : List (Nat × Nat)} (hfile : file.length < 2 ^ 32) (hin : e ≤ file.length)
    (hblock : missing.offset.toNat + missing.size.toNat ≤ e) :
    ∀ {fuel : Nat} {filled : UInt32} {state state' : BurstReadState} {w w' : World},
      fillBlock t session progress missing fuel filled state w = (.ok state', w') →
      HonestReads file w'.trace → filled ≤ missing.size → e ≤ state.fileData.length →
      AgreesOn state.fileData file (known e
        ((missing.offset.toNat + filled.toNat, missing.size.toNat - filled.toNat) :: rest)) →
        e ≤ state'.fileData.length ∧ AgreesOn state'.fileData file (known e rest) ∧
          state'.contiguousEnd = state.contiguousEnd := by
  intro fuel
  induction fuel with
  | zero =>
      intro filled state state' w w' h
      exact (stuck_ok.mp h).elim
  | succ fuel ih =>
      intro filled state state' w w' h hreads hle hroom hagrees
      unfold fillBlock at h
      split at h
      · rename_i hlt
        obtain ⟨⟨outcome, s⟩, w1, h1, h⟩ := bind_ok.mp h
        obtain ⟨req, resp, _, rfl, _, _, hacc, hstep⟩ := readMissingBlockChunk_ok h1
        -- the reply was honest, whatever happened after it
        have hacc' : .accepted (repairRequest session missing filled
            (FtpPayload.newRequest .readFile w.seqNumber)) resp ∈ w'.trace := by
          cases outcome with
          | filled chunkSize =>
              exact (emits_fillBlock (P := Reads fun _ => True) (fun _ _ => trivial)
                (fun _ _ => trivial) _ _ _).keeps h hacc
          | noData | endOfFile =>
              obtain ⟨_, rfl⟩ := pure_ok.mp h
              exact hacc
        have hans : AnswersRead file (repairRequest session missing filled
            (FtpPayload.newRequest .readFile w.seqNumber)) resp :=
          hreads _ (mem_acceptedPairs hacc') rfl
        cases outcome with
        | endOfFile => exact absurd hstep.1 (by rw [hans.notEof]; exact Bool.false_ne_true)
        | noData =>
            have := (hans.bytes hstep.1).1
            rw [hstep.2.1] at this
            exact absurd this (by decide)
        | filled chunkSize =>
            obtain ⟨hop, rfl, hcopy, hend⟩ := hstep
            obtain ⟨_, hsize, hbytes⟩ := hans.bytes hop
            obtain ⟨hle', hroom', hagrees'⟩ := copied_held hfile hin hblock hle
              (Nat.le_trans hsize (repairRequest_size hle)) hbytes hcopy hroom hagrees
            obtain ⟨hroom2, hagrees2, hend2⟩ := ih h hreads hle' hroom' hagrees'
            exact ⟨hroom2, hagrees2, hend2.trans hend⟩
      · rename_i hge
        obtain ⟨rfl, rfl⟩ := pure_ok.mp h
        have hge' := UInt32.le_iff_toNat_le.mp (UInt32.not_lt.mp hge)
        exact ⟨hroom, hagrees.mono (known_filled (by omega)), rfl⟩

/-- The repair, of whatever the server sends, leaves the frontier and never shortens the
    buffer. -/
theorem fillBlock_frontier {t : Target} {session : UInt8} {progress : Bool}
    {missing : MissingBlock} :
    ∀ {fuel : Nat} {filled : UInt32} {state state' : BurstReadState} {w w' : World},
      fillBlock t session progress missing fuel filled state w = (.ok state', w') →
        state'.contiguousEnd = state.contiguousEnd ∧
          state.fileData.length ≤ state'.fileData.length := by
  intro fuel
  induction fuel with
  | zero =>
      intro filled state state' w w' h
      exact (stuck_ok.mp h).elim
  | succ fuel ih =>
      intro filled state state' w w' h
      unfold fillBlock at h
      split at h
      · obtain ⟨⟨outcome, s⟩, w1, h1, h⟩ := bind_ok.mp h
        obtain ⟨_, resp, _, _, _, _, _, hstep⟩ := readMissingBlockChunk_ok h1
        cases outcome with
        | endOfFile =>
            obtain ⟨rfl, _⟩ := pure_ok.mp h
            rw [hstep.2]
            exact ⟨rfl, Nat.le_refl _⟩
        | noData =>
            obtain ⟨rfl, _⟩ := pure_ok.mp h
            rw [hstep.2.2]
            exact ⟨rfl, Nat.le_refl _⟩
        | filled chunkSize =>
            obtain ⟨_, _, hcopy, hend⟩ := hstep
            obtain ⟨hend', hlen⟩ := ih h
            refine ⟨hend'.trans hend, Nat.le_trans ?_ hlen⟩
            rw [length_copyChunkIntoBuffer hcopy]
            exact Nat.le_max_left _ _
      · obtain ⟨rfl, _⟩ := pure_ok.mp h
        exact ⟨rfl, Nat.le_refl _⟩

theorem fillBlocks_frontier {t : Target} {session : UInt8} {progress : Bool} :
    ∀ {blocks : List MissingBlock} {state state' : BurstReadState} {w w' : World},
      fillBlocks t session progress blocks state w = (.ok state', w') →
        state'.contiguousEnd = state.contiguousEnd ∧
          state.fileData.length ≤ state'.fileData.length := by
  intro blocks
  induction blocks with
  | nil =>
      intro state state' w w' h
      obtain ⟨rfl, _⟩ := pure_ok.mp h
      exact ⟨rfl, Nat.le_refl _⟩
  | cons missing rest ih =>
      intro state state' w w' h
      obtain ⟨s, w1, h1, h⟩ := bind_ok.mp h
      obtain ⟨hend1, hlen1⟩ := fillBlock_frontier h1
      obtain ⟨hend2, hlen2⟩ := ih h
      exact ⟨hend2.trans hend1, Nat.le_trans hlen1 hlen2⟩

/-- **The repair closes every block**: the buffer agrees with the file up to the frontier. -/
theorem fillBlocks_held {t : Target} {session : UInt8} {progress : Bool} {e : Nat}
    (hfile : file.length < 2 ^ 32) (hin : e ≤ file.length) :
    ∀ {blocks : List MissingBlock} {state state' : BurstReadState} {w w' : World},
      fillBlocks t session progress blocks state w = (.ok state', w') →
      HonestReads file w'.trace → (∀ b ∈ blocks, b.offset.toNat + b.size.toNat ≤ e) →
      e ≤ state.fileData.length → AgreesOn state.fileData file (known e (holes blocks)) →
        e ≤ state'.fileData.length ∧ AgreesOn state'.fileData file (known e []) ∧
          state'.contiguousEnd = state.contiguousEnd := by
  intro blocks
  induction blocks with
  | nil =>
      intro state state' w w' h _ _ hroom hagrees
      obtain ⟨rfl, rfl⟩ := pure_ok.mp h
      exact ⟨hroom, hagrees, rfl⟩
  | cons missing rest ih =>
      intro state state' w w' h hreads hbelow hroom hagrees
      obtain ⟨s, w1, h1, h⟩ := bind_ok.mp h
      have hreads1 : HonestReads file w1.trace := hreads.earlier fun _ he =>
        (emits_fillBlocks (P := Reads fun _ => True) (fun _ _ => trivial) (fun _ _ => trivial)
          _ _).keeps h he
      obtain ⟨hroom1, hagrees1, hend1⟩ := fillBlock_held hfile hin
        (hbelow missing List.mem_cons_self) h1 hreads1 (UInt32.zero_le) hroom hagrees
      obtain ⟨hroom2, hagrees2, hend2⟩ := ih h hreads
        (fun b hb => hbelow b (List.mem_cons_of_mem _ hb)) hroom1 hagrees1
      exact ⟨hroom2, hagrees2, hend2.trans hend1⟩

/-! ## 3. The whole read -/

theorem withTargetLock_ok {α : Type} {t : Target} {x : Client α} {a : α} {w w' : World}
    (h : withTargetLock t x w = (.ok a, w')) :
    ∃ w1, x { w with trace := w.trace ++ [.locked t] } = (.ok a, w1) ∧
      w' = { w1 with trace := w1.trace ++ [.unlocked t] } := by
  obtain ⟨_, w0, h0, h⟩ := bind_ok.mp h
  obtain ⟨r, w1, h1, h⟩ := bind_ok.mp h
  cases r with
  | error error =>
      obtain ⟨_, w2, _, h⟩ := bind_ok.mp h
      exact (fail_ok.mp h).elim
  | ok a' =>
      obtain ⟨_, w2, h2, h⟩ := bind_ok.mp h
      obtain ⟨rfl, rfl⟩ := pure_ok.mp h
      rw [note_ok.mp h0] at h1
      exact ⟨w1, attempt_ok.mp h1, note_ok.mp h2⟩

/-- The files opened in a run: session and announced size. -/
def openings (trace : List FtpEvent) : List (UInt8 × Nat) :=
  trace.filterMap fun
    | .opened session fileSize => some (session, fileSize)
    | _ => none

theorem mem_openings {trace : List FtpEvent} {session : UInt8} {fileSize : Nat} :
    (session, fileSize) ∈ openings trace ↔ .opened session fileSize ∈ trace := by
  unfold openings
  rw [List.mem_filterMap]
  constructor
  · rintro ⟨e, he, heq⟩
    cases e <;> cases heq
    exact he
  · intro h
    exact ⟨_, h, rfl⟩

theorem openReadSession_ok {t : Target} {path : List UInt8} {maxSize : Option Nat}
    {session : UInt8} {fileSize : Nat} {w w' : World}
    (h : openReadSession t path maxSize w = (.ok (session, fileSize), w')) :
    .opened session fileSize ∈ w'.trace := by
  obtain ⟨_, w1, _, h⟩ := bind_ok.mp h
  obtain ⟨req, w2, _, h⟩ := bind_ok.mp h
  obtain ⟨resp, w3, _, h⟩ := bind_ok.mp h
  obtain ⟨_, w4, _, h⟩ := bind_ok.mp h
  have opened : (do note (.opened resp.session (announcedSize resp))
                    pure (resp.session, announcedSize resp) : Client (UInt8 × Nat)) w4 =
      (.ok (session, fileSize), w') → .opened session fileSize ∈ w'.trace := by
    intro h
    obtain ⟨_, w5, h5, h⟩ := bind_ok.mp h
    obtain ⟨heq, rfl⟩ := pure_ok.mp h
    cases heq
    rw [note_ok.mp h5]
    exact List.mem_append_right _ (List.mem_singleton_self _)
  cases maxSize with
  | none => exact opened h
  | some max =>
      dsimp only at h
      split at h
      · obtain ⟨_, w5, _, h⟩ := bind_ok.mp h
        exact (fail_ok.mp h).elim
      · exact opened h

/-- The events still to come when the burst starts: what the opening left. -/
def burstInput (t : Target) (path : List UInt8) (maxSize : Option Nat) (w : World) :
    List HubEvent :=
  (openReadSession t path maxSize { w with trace := w.trace ++ [.locked t] }).2.inbox

/-- **The parts of a read that returned data**: the burst from the events the opening left, the
    repair, and the buffer up to the frontier. -/
theorem burstReadFileInner_ok {t : Target} {path data : List UInt8} {progress : Bool}
    {maxSize : Option Nat} {w w' : World}
    (h : burstReadFileInner t path progress maxSize w = (.ok data, w')) :
    ∃ session fileSize fuel state state' wb ws wf,
      .opened session fileSize ∈ w'.trace ∧ wb.inbox = burstInput t path maxSize w ∧
      burstPhase t session progress fuel (.new fileSize) 0 wb = (.ok state, ws) ∧
      fillBlocks t session progress state.missingBlocks state ws = (.ok state', wf) ∧
      (∀ e ∈ wf.trace, e ∈ w'.trace) ∧
      data = state'.fileData.take state'.contiguousEnd.toNat := by
  obtain ⟨w1, h, hw'⟩ := withTargetLock_ok h
  obtain ⟨⟨session, fileSize⟩, wo, hopen, h⟩ := bind_ok.mp h
  obtain ⟨_, wb, hsub, h⟩ := bind_ok.mp h
  obtain ⟨state, ws, hburst, h⟩ := bind_ok.mp h
  obtain ⟨state', wf, hfill, h⟩ := bind_ok.mp h
  obtain ⟨_, w2, hterm, hrest⟩ := bind_ok.mp h
  obtain ⟨_, w3, _, hdata⟩ := bind_ok.mp hrest
  obtain ⟨hdata, _⟩ := pure_ok.mp hdata
  have last : ∀ e ∈ w1.trace, e ∈ w'.trace := by
    intro e he
    rw [hw']
    exact List.mem_append_left _ he
  have kept : ∀ e ∈ wf.trace, e ∈ w'.trace := fun e he =>
    last e ((emits_finishReadSession (P := Reads fun _ => True) fun _ _ => trivial).keeps h he)
  refine ⟨session, fileSize, _, state, state', wb, ws, wf, ?_, ?_, hburst, hfill, kept,
    hdata.symm⟩
  · have ho := openReadSession_ok hopen
    have hsub' := (emits_subscribe (P := Asks fun _ => True)).keeps hsub ho
    have hburst' := (emits_burstPhase (P := Reads fun _ => True) (fun _ _ => trivial)
      (fun _ _ => trivial) _ _ _).keeps hburst hsub'
    exact kept _ ((emits_fillBlocks (P := Reads fun _ => True) (fun _ _ => trivial)
      (fun _ _ => trivial) _ _).keeps hfill hburst')
  · rw [subscribe_inbox hsub, burstInput, hopen]

/-- The opening reads a front part of the input. -/
theorem burstInput_suffix (t : Target) (path : List UInt8) (maxSize : Option Nat) (w : World) :
    burstInput t path maxSize w <:+ w.inbox :=
  (emits_openReadSession (P := Reads fun _ => True) (fun _ _ => trivial)
    (fun _ => trivial) (fun _ _ => trivial) (fun _ _ => trivial)
    { w with trace := w.trace ++ [.locked t] }).inbox

theorem HonestBurst.suffix {t : Target} {events rest : List HubEvent}
    (h : HonestBurst t file events) (hs : rest <:+ events) : HonestBurst t file rest := by
  intro resp hr
  obtain ⟨m, hm, he⟩ := mem_replies.mp hr
  exact h resp (mem_replies.mpr ⟨m, hs.subset hm, he⟩)

/-- **What an honest server leaves in the buffer of a read that returned**: the file up to the
    frontier of the packets kept, and the data is that part. -/
theorem burstReadFileInner_kept {t : Target} {path data : List UInt8} {progress : Bool}
    {maxSize : Option Nat} {w w' : World} (hfile : file.length < 2 ^ 32)
    (hb : HonestBurst t file w.inbox)
    (h : burstReadFileInner t path progress maxSize w = (.ok data, w')) :
    (∃ session fileSize, .opened session fileSize ∈ w'.trace) ∧
      data.length = keptEnd 0 (deliveredBeforeEof t (burstInput t path maxSize w)) ∧
      (HonestReads file w'.trace → data = file.take data.length) := by
  obtain ⟨session, fileSize, fuel, state, state', wb, ws, wf, hopen, hin, hburst, hfill, hkept,
    rfl⟩ := burstReadFileInner_ok h
  have hb' : HonestBurst t file wb.inbox := by
    rw [hin]
    exact hb.suffix (burstInput_suffix t path maxSize w)
  obtain ⟨hheld, hend⟩ := burstPhase_held hfile hb' hburst
  obtain ⟨hend', hroom'⟩ := fillBlocks_frontier hfill
  have hlen : (state'.fileData.take state'.contiguousEnd.toNat).length =
      state.contiguousEnd.toNat := by
    rw [List.length_take, hend']
    have := hheld.room
    omega
  refine ⟨⟨session, fileSize, hopen⟩, by rw [hlen, hend, hin], fun hreads => ?_⟩
  obtain ⟨_, hagrees, _⟩ := fillBlocks_held hfile hheld.inFile hfill
    (hreads.earlier hkept) hheld.below hheld.room hheld.agrees
  rw [known_nil] at hagrees
  rw [hlen, hend']
  exact hagrees.take_eq

/-- **Integrity of a download.** Whatever was lost, repeated or reordered in the burst, and
    however short the repair replies were: data that is returned is a front part of the file,
    with no hole in it. -/
theorem burstReadFileInner_prefix {t : Target} {path data : List UInt8} {progress : Bool}
    {maxSize : Option Nat} {w w' : World} (hfile : file.length < 2 ^ 32)
    (hb : HonestBurst t file w.inbox) (hr : HonestReads file w'.trace)
    (h : burstReadFileInner t path progress maxSize w = (.ok data, w')) :
    data = file.take data.length :=
  (burstReadFileInner_kept hfile hb h).2.2 hr

section Runs

def vehicle : Target := ⟨1, 1⟩

/-- A file of three bytes, its middle one lost in the burst and read again. -/
def repairedRun : World where
  seqNumber := 0
  hubAnswers := []
  inbox := [serverAck 1 .resetSessions 0 0 [], serverAck 2 .openFileRO 1 0 [3, 0, 0, 0],
    serverAck 3 .burstReadFile 1 0 [7], serverAck 5 .burstReadFile 1 2 [9],
    serverNak 6 .burstReadFile 1 3 6, serverAck 4 .readFile 1 1 [8],
    serverAck 5 .terminateSession 1 0 []].map (packet vehicle)
  trace := []

theorem burstReadFileInner_prefix_repaired :
    (burstReadFileInner vehicle [97] false none repairedRun).1 = .ok [7, 8, 9] ∧
      ([7, 8, 9] : List UInt8) = ([7, 8, 9] : List UInt8).take 3 := by
  have hrun : (burstReadFileInner vehicle [97] false none repairedRun).1 = .ok [7, 8, 9] := by
    decide +kernel
  have hb : HonestBurst vehicle [7, 8, 9] repairedRun.inbox := by decide +kernel
  have hr : HonestReads [7, 8, 9]
      (burstReadFileInner vehicle [97] false none repairedRun).2.trace := by
    decide +kernel
  exact ⟨hrun, burstReadFileInner_prefix (by decide) hb hr (run_eq hrun)⟩

end Runs

/-- **When a download is complete.** Against a server that announces the true size and sends
    honest packets, data that is returned has the announced length exactly when the packets kept
    before the first Eof reach the end of the file. No block is recorded behind the last packet,
    so a tail lost there is not read again. -/
theorem burstReadFileInner_length_iff {t : Target} {path data : List UInt8} {progress : Bool}
    {maxSize : Option Nat} {w w' : World} (hfile : file.length < 2 ^ 32)
    (hb : HonestBurst t file w.inbox) (hopen : ∀ o ∈ openings w'.trace, o.2 = file.length)
    (h : burstReadFileInner t path progress maxSize w = (.ok data, w')) :
    (∀ o ∈ openings w'.trace, data.length = o.2) ↔
      keptEnd 0 (deliveredBeforeEof t (burstInput t path maxSize w)) = file.length := by
  obtain ⟨⟨session, fileSize, ho⟩, hlen, _⟩ := burstReadFileInner_kept hfile hb h
  rw [← hlen]
  constructor
  · intro hall
    have ho' := mem_openings.mpr ho
    rw [hall _ ho', hopen _ ho']
  · intro hfull o ho'
    rw [hfull, hopen o ho']

/-- An Eof Nak speaks of an offset at or past the end of the file. -/
def HonestEof (t : Target) (file : List UInt8) (events : List HubEvent) : Prop :=
  ∀ resp ∈ replies t events, isEof resp → file.length ≤ resp.offset.toNat

instance (t : Target) (file : List UInt8) (events : List HubEvent) :
    Decidable (HonestEof t file events) :=
  inferInstanceAs (Decidable
    (∀ resp ∈ replies t events, isEof resp → file.length ≤ resp.offset.toNat))

section Runs

/-- The same file; the packet with its last byte is lost, the Eof arrives. -/
def cutRun : World where
  seqNumber := 0
  hubAnswers := []
  inbox := [serverAck 1 .resetSessions 0 0 [], serverAck 2 .openFileRO 1 0 [3, 0, 0, 0],
    serverAck 3 .burstReadFile 1 0 [7, 8], serverNak 5 .burstReadFile 1 3 6,
    serverAck 4 .terminateSession 1 0 []].map (packet vehicle)
  trace := []

theorem cutRun_ok : (burstReadFileInner vehicle [97] false none cutRun).1 = .ok [7, 8] := by
  decide +kernel

theorem cutRun_openings : openings (burstReadFileInner vehicle [97] false none cutRun).2.trace =
    [(1, 3)] := by
  decide +kernel

theorem burstReadFileInner_length_iff_cut :
    (∀ o ∈ openings (burstReadFileInner vehicle [97] false none cutRun).2.trace,
      ([7, 8] : List UInt8).length = o.2) ↔
      keptEnd 0 (deliveredBeforeEof vehicle (burstInput vehicle [97] none cutRun)) = 3 := by
  have hb : HonestBurst vehicle [7, 8, 9] cutRun.inbox := by decide +kernel
  have hopen : ∀ o ∈ openings (burstReadFileInner vehicle [97] false none cutRun).2.trace,
      o.2 = ([7, 8, 9] : List UInt8).length := by
    rw [cutRun_openings]
    decide
  exact burstReadFileInner_length_iff (by decide) hb hopen (run_eq cutRun_ok)

/-- **A download that returns short.** Every promise of the server holds in `cutRun`, and two of
    the three bytes come back as the file. -/
theorem burstReadFileInner_short :
    ¬ ∀ (file : List UInt8) (t : Target) (path data : List UInt8) (progress : Bool)
        (maxSize : Option Nat) (w w' : World),
      file.length < 2 ^ 32 → HonestBurst t file w.inbox → HonestEof t file w.inbox →
      HonestReads file w'.trace → (∀ o ∈ openings w'.trace, o.2 = file.length) →
      burstReadFileInner t path progress maxSize w = (.ok data, w') →
        ∀ o ∈ openings w'.trace, data.length = o.2 := by
  intro hall
  have hb : HonestBurst vehicle [7, 8, 9] cutRun.inbox := by decide +kernel
  have he : HonestEof vehicle [7, 8, 9] cutRun.inbox := by decide +kernel
  have hr : HonestReads [7, 8, 9] (burstReadFileInner vehicle [97] false none cutRun).2.trace := by
    decide +kernel
  have hopen : ∀ o ∈ openings (burstReadFileInner vehicle [97] false none cutRun).2.trace,
      o.2 = ([7, 8, 9] : List UInt8).length := by
    rw [cutRun_openings]
    decide
  have hshort := hall [7, 8, 9] vehicle [97] [7, 8] false none cutRun _ (by decide) hb he hr hopen
    (run_eq cutRun_ok) (1, 3) (by rw [cutRun_openings]; decide)
  exact absurd hshort (by decide)

end Runs

end MavlinkServer.Ftp
