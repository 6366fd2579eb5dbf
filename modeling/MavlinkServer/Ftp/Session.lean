/-
  File:      MavlinkServer/Ftp/Session.lean
  Subject:   WHERE AN OPERATION STANDS WITH AN OPEN SESSION: an abstract model
             of `burst_read_file_inner` and `write_file` behind the reply that
             acknowledged OpenFileRO or CreateFile. It keeps what decides which
             way the operation goes on, and neither buffers nor messages.

  * `Input` -- the number of the next request, the hub's answers and the
    events to come;
  * `Input.request` -- one request: its reply, a failure, or a wait;
  * `SessionPoint`, `next` -- the points an operation passes, one step each;
  * `Input.Unanswered`, `Input.BurstOversized`, `Input.RepairOversized` -- what
    of an input lets a session leak, and `LeakPoint`, at which points;
  * `Leaks` -- from this point the operation comes to such a one;
  * `Input.opened`, `ReadLeaks`, `WriteLeaks` -- from the first request on.
-/
import MavlinkServer.Ftp.Paths
import MavlinkServer.Ftp.Download

namespace MavlinkServer.Ftp

open Lib Await

/-! ## 1. The input of an operation -/

/-- A world without its trace. -/
structure Input where
  seqNumber : UInt16
  hubAnswers : List Bool
  inbox : List HubEvent
  deriving DecidableEq, Repr

def World.input (w : World) : Input := ⟨w.seqNumber, w.hubAnswers, w.inbox⟩

namespace Input

/-- Whether the hub answers the next request for its sender. -/
def answered (i : Input) : Bool := i.hubAnswers.head?.getD true

/-- Behind that request. -/
def asked (i : Input) : Input := { i with hubAnswers := i.hubAnswers.tail }

/-- Behind `new_request`. -/
def numbered (i : Input) : Input := { i with seqNumber := i.seqNumber + 1 }

/-- With these events to come. -/
def left (i : Input) (rest : List HubEvent) : Input := { i with inbox := rest }

end Input

/-- The attempts of `send_and_receive` on the events to come: `none` while they do not decide it,
    else the reply, if there was one, and the events left. -/
def exchange (t : Target) (seq : UInt16) :
    Nat → List HubEvent → Option (Option FtpPayload × List HubEvent)
  | 0, events => some (none, events)
  | attempts + 1, events =>
      match recvFtp t (some seq) events with
      | none => none
      | some (.reply resp, rest) => some (some resp, rest)
      | some (.failed _, rest) => exchange t seq attempts rest
      | some (.elapsed, rest) => exchange t seq attempts rest

namespace Input

/-- `send_and_receive` for a request with this number. -/
def sent (t : Target) (seq : UInt16) (i : Input) : Option (Option FtpPayload × Input) :=
  if i.answered then
    (exchange t seq ftpMaxRetries i.inbox).map fun r => (r.1, i.asked.left r.2)
  else some (none, i.asked)

/-- `new_request` and `send_and_receive`. -/
def request (t : Target) (i : Input) : Option (Option FtpPayload × Input) :=
  i.numbered.sent t i.seqNumber

/-- A request whose reply is not a Nak. -/
def acknowledged (t : Target) (i : Input) : Option (FtpPayload × Input) :=
  match i.request t with
  | some (some resp, rest) => if resp.opcode = .nak then none else some (resp, rest)
  | _ => none

/-- ResetSessions, then OpenFileRO or CreateFile: the reply that opened the session. -/
def opened (t : Target) (i : Input) : Option (FtpPayload × Input) :=
  (i.acknowledged t).bind fun r => r.2.acknowledged t

end Input

/-! ## 2. The points of an operation -/

inductive SessionPoint where
  /-- a read: the file is open, `tooLarge` if it exceeds the limit -/
  | opened (tooLarge : Bool)
  /-- `run_burst_cycle` waits for a packet -/
  | burst (contiguousEnd : UInt32) (missingBlocks : List MissingBlock) (retries : Nat)
  /-- `fill_missing_blocks`, with so much of the first block filled -/
  | repair (missingBlocks : List MissingBlock) (filled : UInt32)
  /-- `write_file`, with so many chunks left -/
  | write (chunks : Nat)
  /-- `terminate_session` -/
  | close
  deriving DecidableEq, Repr

inductive SessionStep where
  | waits
  /-- the operation returns, and has sent nothing -/
  | leaks
  | closes
  | goes (point : SessionPoint) (rest : Input)
  deriving DecidableEq, Repr

/-- The blocks a packet at this offset leaves open. -/
def blocksBehind (contiguousEnd : UInt32) (missingBlocks : List MissingBlock) (offset : UInt32) :
    List MissingBlock :=
  if offset > contiguousEnd then missingBlocks ++ [⟨contiguousEnd, offset - contiguousEnd⟩]
  else missingBlocks

namespace SessionPoint

/-- What one wait of the burst leads to. -/
def received (contiguousEnd : UInt32) (missingBlocks : List MissingBlock) (retries : Nat)
    (i : Input) : Received → SessionStep
  | .failed _ => .goes (.burst contiguousEnd missingBlocks retries) i
  | .elapsed =>
      if retries + 1 > ftpMaxRetries then .goes .close i
      else .goes (.burst contiguousEnd missingBlocks (retries + 1)) i.numbered
  | .reply resp =>
      if resp.opcode = .nak then
        if isEof resp then .goes (.repair missingBlocks 0) i else .goes .close i
      else if isBurstAck resp = false ∨ resp.size = 0 ∨ resp.offset < contiguousEnd then
        .goes (.burst contiguousEnd missingBlocks retries) i
      else if resp.data.length < resp.size.toNat then .leaks
      else
        .goes (.burst (resp.offset + resp.size.toUInt32)
            (blocksBehind contiguousEnd missingBlocks resp.offset) 0)
          (if resp.burstComplete = 1 then i.numbered else i)

/-- What the reply to a ReadFile leads to; the first block is `missing`. -/
def repaired (missing : MissingBlock) (missingBlocks : List MissingBlock) (filled : UInt32)
    (i : Input) (resp : FtpPayload) : SessionStep :=
  if resp.opcode = .nak then
    if isEof resp then .goes (.repair missingBlocks 0) i else .goes .close i
  else if resp.size = 0 then .goes (.repair missingBlocks 0) i
  else if resp.data.length < resp.size.toNat then .leaks
  else .goes (.repair (missing :: missingBlocks) (filled + resp.size.toUInt32)) i

def next (t : Target) : SessionPoint → Input → SessionStep
  | .opened tooLarge, i =>
      if tooLarge then .goes .close i
      else if i.answered then .goes (.burst 0 [] 0) i.asked.numbered
      else .leaks
  | .burst contiguousEnd missingBlocks retries, i =>
      match recvFtp t none i.inbox with
      | none => .waits
      | some (r, rest) => received contiguousEnd missingBlocks retries (i.left rest) r
  | .repair [] _, i => .goes .close i
  | .repair (missing :: missingBlocks) filled, i =>
      if filled < missing.size then
        match i.request t with
        | none => .waits
        | some (none, rest) => .goes .close rest
        | some (some resp, rest) => repaired missing missingBlocks filled rest resp
      else .goes (.repair missingBlocks 0) i
  | .write 0, i => .goes .close i
  | .write (chunks + 1), i =>
      match i.request t with
      | none => .waits
      | some (none, rest) => .goes .close rest
      | some (some resp, rest) =>
          if resp.opcode = .nak then .goes .close rest else .goes (.write chunks) rest
  | .close, i => if i.answered then .closes else .leaks

end SessionPoint

/-! ## 3. Where a session leaks -/

/-- The payload carries fewer bytes than it declares. -/
def FtpPayload.Oversized (resp : FtpPayload) : Prop := resp.data.length < resp.size.toNat

/-- A burst with this frontier takes the payload: an Ack of BurstReadFile with bytes at the
    frontier or past it. -/
def BurstTakes (contiguousEnd : UInt32) (resp : FtpPayload) : Prop :=
  isBurstAck resp = true ∧ resp.size ≠ 0 ∧ contiguousEnd ≤ resp.offset

namespace Input

/-- The hub does not answer the next request for its sender. -/
def Unanswered (i : Input) : Prop := i.answered = false

/-- What the burst receives next is a packet that it takes, and oversized. -/
def BurstOversized (t : Target) (contiguousEnd : UInt32) (i : Input) : Prop :=
  ∃ resp rest, recvFtp t none i.inbox = some (.reply resp, rest) ∧
    BurstTakes contiguousEnd resp ∧ resp.Oversized

/-- The next request, a ReadFile of the repair, is acknowledged by an oversized reply. -/
def RepairOversized (t : Target) (i : Input) : Prop :=
  ∃ resp rest, i.acknowledged t = some (resp, rest) ∧ resp.Oversized

end Input

/-- **The four points at which a session leaks.** -/
inductive LeakPoint (t : Target) : SessionPoint → Input → Prop where
  /-- the burst gets no receiver -/
  | subscribe {i : Input} (h : i.Unanswered) : LeakPoint t (.opened false) i
  | burst {contiguousEnd : UInt32} {missingBlocks : List MissingBlock} {retries : Nat} {i : Input}
      (h : i.BurstOversized t contiguousEnd) :
      LeakPoint t (.burst contiguousEnd missingBlocks retries) i
  | repair {missing : MissingBlock} {missingBlocks : List MissingBlock} {filled : UInt32}
      {i : Input} (hgap : filled < missing.size) (h : i.RepairOversized t) :
      LeakPoint t (.repair (missing :: missingBlocks) filled) i
  /-- TerminateSession gets no receiver -/
  | terminate {i : Input} (h : i.Unanswered) : LeakPoint t .close i

/-- **From this point the operation returns with the session open**: it comes to a leak. -/
inductive Leaks (t : Target) : SessionPoint → Input → Prop where
  | here {p : SessionPoint} {i : Input} (h : LeakPoint t p i) : Leaks t p i
  | goes {p p' : SessionPoint} {i i' : Input} (h : p.next t i = .goes p' i')
      (later : Leaks t p' i') : Leaks t p i

/-- A read whose file is opened and leaks from there. -/
def ReadLeaks (t : Target) (maxSize : Option Nat) (i : Input) : Prop :=
  ∃ resp rest, i.opened t = some (resp, rest) ∧
    Leaks t (.opened (maxSize.any fun max => announcedSize resp > max)) rest

def WriteLeaks (t : Target) (data : List UInt8) (i : Input) : Prop :=
  ∃ resp rest, i.opened t = some (resp, rest) ∧
    Leaks t (.write (chunks ftpDataMaxLen data.length data).length) rest

section Steps

variable {t : Target} {p p' : SessionPoint} {i i' : Input}

theorem FtpPayload.Oversized.size_ne_zero {resp : FtpPayload} (h : resp.Oversized) :
    resp.size ≠ 0 := by
  intro hzero
  rw [FtpPayload.Oversized, hzero] at h
  exact Nat.not_lt_zero _ h

/-- What the burst receives is a leak if it is a packet that it takes, and oversized. -/
theorem received_leaks {contiguousEnd : UInt32} {missingBlocks : List MissingBlock} {retries : Nat}
    {r : Received} :
    SessionPoint.received contiguousEnd missingBlocks retries i r = .leaks ↔
      ∃ resp, r = .reply resp ∧ BurstTakes contiguousEnd resp ∧ resp.Oversized := by
  cases r with
  | failed error => simp [SessionPoint.received]
  | elapsed => simp [SessionPoint.received, apply_ite (· = SessionStep.leaks)]
  | reply resp =>
      have hack : isBurstAck resp = true → resp.opcode ≠ .nak := by
        intro h hnak
        simp [isBurstAck, hnak] at h
      simp only [SessionPoint.received, BurstTakes, FtpPayload.Oversized]
      grind

theorem repaired_leaks {missing : MissingBlock} {missingBlocks : List MissingBlock}
    {filled : UInt32} {resp : FtpPayload} :
    SessionPoint.repaired missing missingBlocks filled i resp = .leaks ↔
      resp.opcode ≠ .nak ∧ resp.Oversized := by
  have hzero : resp.Oversized → resp.size ≠ 0 := FtpPayload.Oversized.size_ne_zero
  simp only [SessionPoint.repaired, FtpPayload.Oversized] at hzero ⊢
  grind

/-- **The step of a point leaks at the four points, and nowhere else.** -/
theorem leakPoint_iff : LeakPoint t p i ↔ p.next t i = .leaks := by
  constructor
  · rintro (h | ⟨resp, rest, hrecv, htakes, hover⟩ | ⟨hgap, resp, rest, hack, hover⟩ | h)
    · simp only [SessionPoint.next, Input.Unanswered] at h ⊢
      rw [h, if_neg nofun, if_neg nofun]
    · simp only [SessionPoint.next, hrecv]
      exact received_leaks.mpr ⟨resp, rfl, htakes, hover⟩
    · unfold Input.acknowledged at hack
      split at hack
      · rename_i reply left hrequest
        obtain ⟨hop, heq⟩ := Option.ite_none_left_eq_some.mp hack
        cases heq
        simp only [SessionPoint.next, hgap, hrequest, if_true]
        exact repaired_leaks.mpr ⟨hop, hover⟩
      · cases hack
    · simp only [SessionPoint.next, Input.Unanswered] at h ⊢
      rw [h, if_neg nofun]
  · intro h
    cases p with
    | opened tooLarge =>
        cases tooLarge with
        | true => cases h
        | false =>
            simp only [SessionPoint.next, Bool.false_eq_true, if_false] at h
            split at h
            · cases h
            · rename_i ha
              exact .subscribe (Bool.eq_false_iff.mpr ha)
    | burst contiguousEnd missingBlocks retries =>
        simp only [SessionPoint.next] at h
        split at h
        · cases h
        · rename_i r rest hrecv
          obtain ⟨resp, rfl, htakes, hover⟩ := received_leaks.mp h
          exact .burst ⟨resp, rest, hrecv, htakes, hover⟩
    | repair missingBlocks filled =>
        cases missingBlocks with
        | nil => cases h
        | cons missing missingBlocks =>
            simp only [SessionPoint.next] at h
            split at h
            · rename_i hgap
              split at h
              · cases h
              · cases h
              · rename_i resp rest hrequest
                obtain ⟨hop, hover⟩ := repaired_leaks.mp h
                have hack : i.acknowledged t = some (resp, rest) := by
                  rw [Input.acknowledged, hrequest]
                  exact if_neg hop
                exact .repair hgap ⟨resp, rest, hack, hover⟩
            · cases h
    | write chunks =>
        cases chunks with
        | zero => cases h
        | succ chunks =>
            simp only [SessionPoint.next] at h
            split at h
            · cases h
            · cases h
            · split at h
              · cases h
              · cases h
    | close =>
        simp only [SessionPoint.next] at h
        split at h
        · cases h
        · rename_i ha
          exact .terminate (Bool.eq_false_iff.mpr ha)

theorem leaks_goes (h : p.next t i = .goes p' i') : Leaks t p i ↔ Leaks t p' i' := by
  constructor
  · intro hl
    cases hl with
    | here h' => cases h.symm.trans (leakPoint_iff.mp h')
    | goes h' later =>
        rw [h] at h'
        cases h'
        exact later
  · exact .goes h

theorem not_leaks_waits (h : p.next t i = .waits) : ¬ Leaks t p i := by
  intro hl
  cases hl with
  | here h' => cases h.symm.trans (leakPoint_iff.mp h')
  | goes h' _ => simp [h] at h'

theorem not_leaks_closes (h : p.next t i = .closes) : ¬ Leaks t p i := by
  intro hl
  cases hl with
  | here h' => cases h.symm.trans (leakPoint_iff.mp h')
  | goes h' _ => simp [h] at h'

theorem leaks_of_next (h : p.next t i = .leaks) : Leaks t p i := .here (leakPoint_iff.mpr h)

theorem leaks_close : Leaks t .close i ↔ i.answered = false := by
  by_cases ha : i.answered
  · have hnext : SessionPoint.next t .close i = .closes := by simp [SessionPoint.next, ha]
    simp [not_leaks_closes hnext, ha]
  · have hunanswered : i.answered = false := Bool.eq_false_iff.mpr ha
    simp [Leaks.here (t := t) (.terminate hunanswered), hunanswered]

end Steps

end MavlinkServer.Ftp
