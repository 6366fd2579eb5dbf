/-
  File:      MavlinkServer/Ftp/Upload.lean
  Subject:   WHAT AN UPLOAD LEAVES ON THE SERVER (`write_file` in
             `src/lib/drivers/rest/mavftp/client.rs`).

  * `FileServer`, `execute` -- a server that empties the file on CreateFile and
    writes `data[..size]` at the offset of a WriteFile;
  * `Served` -- it sees the transmissions of a run in order; each may be lost or
    executed, also one that was executed before, and an Ack that is taken
    answers a request that was executed;
  * `NoGap` -- spans that follow each other, each sent any number of times;
  * `writeFile_spans` -- the spans a run sends, whatever it ends in;
  * `writeFile_uploads` -- a run that returns Ok leaves the caller's bytes.
-/
import MavlinkServer.Ftp.Release

namespace MavlinkServer.Ftp

open Lib Await

/-! ## 1. The server -/

/-- `executed` has the requests the server executed, each with the session its reply names. -/
structure FileServer where
  files : List UInt8 → Option (List UInt8)
  sessions : UInt8 → Option (List UInt8)
  executed : List (FtpPayload × UInt8)

/-- Writing past the end fills up with zeros. -/
def writeAt (content : List UInt8) (offset : Nat) (chunk : List UInt8) : List UInt8 :=
  overlay (padTo content offset 0) offset chunk

namespace FileServer

/-- `data[..size]`. -/
def payloadOf (req : FtpPayload) : List UInt8 := req.data.take req.size.toNat

/-- What a request changes, where the server does not refuse it; a CreateFile is given `session`. -/
def execute (s : FileServer) (req : FtpPayload) (session : UInt8) : Option FileServer :=
  match req.opcode with
  | .resetSessions =>
      some { s with sessions := fun _ => none, executed := s.executed ++ [(req, session)] }
  | .createFile =>
      some { files := Function.update s.files (payloadOf req) (some [])
             sessions := Function.update s.sessions session (some (payloadOf req))
             executed := s.executed ++ [(req, session)] }
  | .writeFile =>
      (s.sessions req.session).bind fun name => (s.files name).map fun content =>
        { s with
          files := Function.update s.files name
            (some (writeAt content req.offset.toNat (payloadOf req)))
          executed := s.executed ++ [(req, session)] }
  | .terminateSession =>
      some { s with
        sessions := Function.update s.sessions req.session none
        executed := s.executed ++ [(req, session)] }
  | _ => none

/-- The reply answers the request: the server has executed it, and a CreateFile is told the session
    it was given. -/
def Answers (s : FileServer) (request reply : FtpPayload) : Prop :=
  ∃ req session, FtpPayload.decode request.encode = .ok req ∧ (req, session) ∈ s.executed ∧
    (req.opcode = .createFile → reply.session = session)

end FileServer

/-- **The server over a run.** -/
inductive Served : FileServer → List FtpEvent → FileServer → Prop where
  | nil (s : FileServer) : Served s [] s
  | lost (s s' : FileServer) (message : MavMessage) (rest : List FtpEvent) (h : Served s rest s') :
      Served s (.sent message :: rest) s'
  | executed (s s1 s' : FileServer) (message : MavMessage) (req : FtpPayload) (session : UInt8)
      (rest : List FtpEvent) (hread : requestRead (.sent message) = some req)
      (hx : s.execute req session = some s1) (h : Served s1 rest s') :
      Served s (.sent message :: rest) s'
  | accepted (s s' : FileServer) (request reply : FtpPayload) (rest : List FtpEvent)
      (ha : reply.opcode = .ack → s.Answers request reply) (h : Served s rest s') :
      Served s (.accepted request reply :: rest) s'
  | locked (s s' : FileServer) (t : Target) (rest : List FtpEvent) (h : Served s rest s') :
      Served s (.locked t :: rest) s'
  | unlocked (s s' : FileServer) (t : Target) (rest : List FtpEvent) (h : Served s rest s') :
      Served s (.unlocked t :: rest) s'

/-! ## 2. The spans that are sent -/

/-- Offset and size of a WriteFile, as the server reads it. -/
def writeSpan (e : FtpEvent) : Option (Nat × Nat) :=
  (requestRead e).bind fun req =>
    if req.opcode = .writeFile then some (req.offset.toNat, req.size.toNat) else none

/-- The spans of the WriteFile requests in a run, in order. -/
def writeSpans (events : List FtpEvent) : List (Nat × Nat) := events.filterMap writeSpan

/-- **Spans without a gap** from an offset on: each is sent any number of times, the next one begins
    where it ends. -/
inductive NoGap : Nat → List (Nat × Nat) → Prop where
  | nil (offset : Nat) : NoGap offset []
  | span (offset size times : Nat) (rest : List (Nat × Nat)) (h : NoGap (offset + size) rest) :
      NoGap offset (List.replicate (times + 1) (offset, size) ++ rest)

section Spans

variable {t : Target} {session : UInt8} {α : Type}

/-- Requests of another opcode send no span. -/
def WritesNothing (req : FtpPayload) : Prop := req.opcode ≠ .writeFile

theorem writesNothing_of_eq {opcode : FtpOpcode} (h : opcode ≠ .writeFile) :
    ∀ req : FtpPayload, req.opcode = opcode → WritesNothing req := by
  intro req hreq
  rw [WritesNothing, hreq]
  exact h

theorem writeSpan_asks {e : FtpEvent} (h : Asks WritesNothing e) : writeSpan e = none := by
  cases e with
  | sent message =>
      obtain ⟨t, req, rfl, hop⟩ := h
      rw [writeSpan, requestRead_sent]
      exact if_neg hop
  | _ => rfl

theorem writeSpans_append (l l' : List FtpEvent) :
    writeSpans (l ++ l') = writeSpans l ++ writeSpans l' := List.filterMap_append

/-- What such a computation adds to the trace has no span. -/
theorem Emits.spanless {x : Client α} (h : Emits (Asks WritesNothing) x) (w : World) :
    ∃ l, (x w).2.trace = w.trace ++ l ∧ writeSpans l = [] := by
  obtain ⟨l, hl, hP⟩ := (h w).trace
  exact ⟨l, hl, List.filterMap_eq_nil_iff.mpr fun e he => writeSpan_asks (hP e he)⟩

theorem writeSpans_sends {req : FtpPayload} (hop : req.opcode = .writeFile) (n : Nat) :
    writeSpans (List.replicate n (.sent (buildFtpMessage t req))) =
      List.replicate n (req.offset.toNat, req.size.toNat) := by
  have hspan : writeSpan (.sent (buildFtpMessage t req)) =
      some (req.offset.toNat, req.size.toNat) := by
    rw [writeSpan, requestRead_sent]
    exact if_pos hop
  induction n with
  | zero => rfl
  | succ n ih =>
      rw [List.replicate_succ, List.replicate_succ, ← ih, writeSpans, writeSpans,
        List.filterMap_cons, hspan]

theorem writeSpans_acceptance (req : FtpPayload) (o : Outcome FtpFailure FtpPayload) :
    writeSpans (acceptance req o) = [] := by
  cases o <;> rfl

/-- The WriteFile request for one chunk. -/
def chunkRequest (chunk : List UInt8) (offset : UInt32) (session : UInt8) (seq : UInt16) :
    FtpPayload :=
  { pathRequest .writeFile chunk offset seq with session }

/-- Sizes and offsets of the chunks fit their fields. -/
theorem chunk_size {chunk : List UInt8} (h : chunk.length ≤ 239) :
    (UInt8.ofNat chunk.length).toNat = chunk.length := by
  rw [UInt8.toNat_ofNat']
  omega

/-- Spans from an offset on that stay within the data. -/
def SpansWithin (total offset : Nat) (l : List FtpEvent) : Prop :=
  NoGap offset (writeSpans l) ∧ ∀ p ∈ writeSpans l, p.2 ≤ 239 ∧ p.1 + p.2 ≤ total

theorem SpansWithin.of_nil {total offset : Nat} {l : List FtpEvent} (h : writeSpans l = []) :
    SpansWithin total offset l := by
  refine ⟨?_, fun p hp => ?_⟩
  · rw [h]
    exact .nil offset
  · rw [h] at hp
    cases hp

/-- The transmissions of one chunk, and what comes behind them. -/
theorem SpansWithin.cons {total n : Nat} {chunk : List UInt8} {offset : UInt32} {seq : UInt16}
    {o : Outcome FtpFailure FtpPayload} {l : List FtpEvent} (hchunk : chunk.length ≤ 239)
    (hfit : offset.toNat + chunk.length ≤ total)
    (hl : SpansWithin total (offset.toNat + chunk.length) l) (hn : n = 0 → writeSpans l = []) :
    SpansWithin total offset.toNat
      ((List.replicate n (.sent (buildFtpMessage t (chunkRequest chunk offset session seq))) ++
        acceptance (chunkRequest chunk offset session seq) o) ++ l) := by
  have hspans : writeSpans
      ((List.replicate n (.sent (buildFtpMessage t (chunkRequest chunk offset session seq))) ++
        acceptance (chunkRequest chunk offset session seq) o) ++ l) =
      List.replicate n (offset.toNat, chunk.length) ++ writeSpans l := by
    have hsize : (chunkRequest chunk offset session seq).size.toNat = chunk.length :=
      chunk_size hchunk
    rw [writeSpans_append, writeSpans_append, writeSpans_sends rfl, writeSpans_acceptance,
      List.append_nil, hsize]
    rfl
  refine ⟨?_, fun p hp => ?_⟩
  · rw [hspans]
    cases n with
    | zero =>
        rw [hn rfl]
        exact .nil _
    | succ n => exact .span _ _ n _ hl.1
  · rw [hspans] at hp
    rcases List.mem_append.mp hp with hp | hp
    · obtain rfl := List.eq_of_mem_replicate hp
      exact ⟨hchunk, hfit⟩
    · exact hl.2 p hp

/-- The computation adds spans from this offset on. -/
def SendsSpans (total offset : Nat) (x : Client α) (w : World) : Prop :=
  ∃ l, (x w).2.trace = w.trace ++ l ∧ SpansWithin total offset l

/-- No span comes in front. -/
theorem SendsSpans.after {β : Type} {total offset : Nat} {x : Client α} {f : α → Client β}
    {w : World} (hx : Emits (Asks WritesNothing) x)
    (hf : ∀ a w1, x w = (.ok a, w1) → SendsSpans total offset (f a) w1) :
    SendsSpans total offset (x >>= f) w := by
  obtain ⟨l, hl, hnone⟩ := hx.spanless w
  have stop : ∃ l', w.trace ++ l = w.trace ++ l' ∧ SpansWithin total offset l' :=
    ⟨l, rfl, .of_nil hnone⟩
  unfold SendsSpans
  rw [bind_apply]
  cases hr : x w with
  | mk o w1 =>
      rw [hr] at hl
      cases o with
      | ok a =>
          obtain ⟨l', hl', hspans⟩ := hf a w1 hr
          refine ⟨l ++ l', by rw [hl', hl, List.append_assoc], ?_⟩
          unfold SpansWithin
          rw [writeSpans_append, hnone, List.nil_append]
          exact hspans
      | err error => rw [← hl] at stop; exact stop
      | waiting => rw [← hl] at stop; exact stop

/-- No span comes behind. -/
theorem SendsSpans.before {β : Type} {total offset : Nat} {x : Client α} {f : α → Client β}
    {w : World} (hx : SendsSpans total offset x w) (hf : ∀ a, Emits (Asks WritesNothing) (f a)) :
    SendsSpans total offset (x >>= f) w := by
  obtain ⟨l, hl, hspans⟩ := hx
  have stop : ∃ l', w.trace ++ l = w.trace ++ l' ∧ SpansWithin total offset l' := ⟨l, rfl, hspans⟩
  unfold SendsSpans
  rw [bind_apply]
  cases hr : x w with
  | mk o w1 =>
      rw [hr] at hl
      cases o with
      | ok a =>
          obtain ⟨l', hl', hnone⟩ := (hf a).spanless w1
          refine ⟨l ++ l', by rw [hl', hl, List.append_assoc], ?_⟩
          unfold SpansWithin
          rw [writeSpans_append, hnone, List.append_nil]
          exact hspans
      | err error => rw [← hl] at stop; exact stop
      | waiting => rw [← hl] at stop; exact stop

/-- The first chunk of what is left, and the chunks behind it. -/
theorem chunks_cons (fuel : Nat) (b : UInt8) (data : List UInt8) :
    ∃ chunk rest, chunks ftpDataMaxLen (fuel + 1) (b :: data) =
        chunk :: chunks ftpDataMaxLen fuel rest ∧
      chunk ++ rest = b :: data ∧ chunk ≠ [] ∧ chunk.length ≤ 239 :=
  ⟨(b :: data).take 239, (b :: data).drop 239, rfl, List.take_append_drop .., by simp,
    List.length_take_le ..⟩

/-- **The spans of the chunks that are left**, whatever the run ends in. The induction is on the
    chunks; a run that stops sends no further span. -/
theorem writeChunks_spans {total : Nat} (htotal : total < 2 ^ 32) :
    ∀ (fuel : Nat) (data : List UInt8) (offset : UInt32) (w : World),
      offset.toNat + data.length ≤ total →
      SendsSpans total offset.toNat (writeChunks t session offset (chunks ftpDataMaxLen fuel data))
        w := by
  have terminate : ∀ req : FtpPayload, req.opcode = .terminateSession → WritesNothing req :=
    writesNothing_of_eq (by decide)
  have stop : ∀ (error : FtpFailure) (w : World), ∃ l,
      ((do terminateSessionBestEffort t session; fail error : Client Unit) w).2.trace =
        w.trace ++ l ∧ writeSpans l = [] := fun error w =>
    Emits.spanless (Moves.bind (emits_terminateSessionBestEffort terminate session)
      fun _ => Moves.fail error) w
  have done : ∀ (offset : UInt32) (w : World),
      SendsSpans total offset.toNat (writeChunks t session offset []) w := fun offset w =>
    ⟨[], (List.append_nil _).symm, .of_nil rfl⟩
  intro fuel
  induction fuel with
  | zero => exact fun data offset w _ => done offset w
  | succ fuel ih =>
      intro data offset w hfit
      cases data with
      | nil => exact done offset w
      | cons b data =>
          obtain ⟨chunk, rest, hchunks, hsplit, _, hchunk⟩ := chunks_cons fuel b data
          rw [hchunks]
          have hsum : chunk.length + rest.length = (b :: data).length := by
            rw [← List.length_append, hsplit]
          have hfit' : offset.toNat + chunk.length ≤ total := by omega
          have hnext := toNat_advance hfit' htotal
          obtain ⟨n, htrace, hsent⟩ := sendAndReceive_events (t := t)
            (chunkRequest chunk offset session w.seqNumber) { w with seqNumber := w.seqNumber + 1 }
          -- what comes behind the request decides how far the spans go on
          have assemble : ∀ (w1 w2 : World) (l : List FtpEvent),
              (sendAndReceive t (chunkRequest chunk offset session w.seqNumber)
                { w with seqNumber := w.seqNumber + 1 }).2 = w1 →
              w2.trace = w1.trace ++ l → SpansWithin total (offset.toNat + chunk.length) l →
              (n = 0 → writeSpans l = []) →
              ∃ l, w2.trace = w.trace ++ l ∧ SpansWithin total offset.toNat l := by
            intro w1 w2 l hw1 hw2 hl hn
            rw [hw2, ← hw1, htrace, List.append_assoc]
            exact ⟨_, rfl, SpansWithin.cons hchunk hfit' hl hn⟩
          have hreq : dataRequest .writeFile chunk offset w =
              (.ok (pathRequest .writeFile chunk offset w.seqNumber),
                { w with seqNumber := w.seqNumber + 1 }) := rfl
          unfold SendsSpans writeChunks
          rw [bind_of_ok hreq, bind_apply, attempt]
          cases hrun : sendAndReceive t (chunkRequest chunk offset session w.seqNumber)
              { w with seqNumber := w.seqNumber + 1 } with
          | mk o w1 =>
              have hrun' : sendAndReceive t
                  { pathRequest .writeFile chunk offset w.seqNumber with session }
                  { w with seqNumber := w.seqNumber + 1 } = (o, w1) := hrun
              rw [hrun']
              have hw1 : (sendAndReceive t (chunkRequest chunk offset session w.seqNumber)
                  { w with seqNumber := w.seqNumber + 1 }).2 = w1 := by rw [hrun]
              cases o with
              | waiting =>
                  exact assemble w1 w1 [] hw1 (List.append_nil _).symm (.of_nil rfl) fun _ => rfl
              | err error =>
                  obtain ⟨l, hl, hnone⟩ := stop error w1
                  exact assemble w1 _ l hw1 hl (.of_nil hnone) fun _ => hnone
              | ok resp =>
                  dsimp only
                  cases hnak : checkNak resp with
                  | error nak =>
                      obtain ⟨l, hl, hnone⟩ := stop (.nak nak) w1
                      exact assemble w1 _ l hw1 hl (.of_nil hnone) fun _ => hnone
                  | ok u =>
                      obtain ⟨l, hl, hspans⟩ := ih rest (offset + UInt32.ofNat chunk.length) w1
                        (by rw [hnext]; omega)
                      rw [hnext] at hspans
                      refine assemble w1 _ l hw1 hl hspans fun hn => ?_
                      obtain ⟨error, herror⟩ := hsent hn
                      rw [hrun] at herror
                      cases herror

/-- **The spans of an upload**: they follow each other without a gap from 0 on, none reaches past
    the data, and no offset or size is cut to its field. -/
theorem writeFile_spans (path data : List UInt8) (hdata : data.length < 2 ^ 32) (w : World) :
    SpansWithin data.length 0 (eventsOf (writeFile t path data) w) := by
  have silent : ∀ {opcode : FtpOpcode}, opcode ≠ .writeFile →
      ∀ req : FtpPayload, req.opcode = opcode → WritesNothing req := writesNothing_of_eq
  have body : ∀ w, SendsSpans data.length 0 (opening t .createFile path
      "ResetSessions failed before CreateFile" "CreateFile failed"
      fun resp => writeOpened t data resp.session) w := by
    intro w
    unfold opening
    refine SendsSpans.after (emits_withContext (emits_resetSessions (silent (by decide))))
      fun _ w1 _ => ?_
    have hnew : Emits (Asks WritesNothing) (dataRequest .createFile path 0) := fun w =>
      .quiet rfl (List.suffix_refl _)
    refine SendsSpans.after hnew fun req w2 hreq => ?_
    cases hreq
    refine SendsSpans.after (emits_withContext (emits_sendAndReceive
      (@writesNothing_of_eq .createFile (by decide) _ rfl))) fun resp w3 _ => ?_
    refine SendsSpans.after emits_checked fun _ w4 _ => ?_
    refine SendsSpans.before (writeChunks_spans hdata _ _ 0 w4 (by simp)) fun _ => ?_
    exact emits_withContext (emits_terminateSession (silent (by decide)) _)
  have hemits : Emits (Asks fun _ => True) (opening t .createFile path
      "ResetSessions failed before CreateFile" "CreateFile failed"
      fun resp => writeOpened t data resp.session) :=
    emits_opening (fun _ => trivial) fun resp =>
      emits_writeOpened (fun _ _ => trivial) fun _ _ => trivial
  obtain ⟨l, _, hl, _, hevents⟩ := eventsOf_withTargetLock (t := t) hemits w
  obtain ⟨l', hl', hspans⟩ := body { w with trace := w.trace ++ [.locked t] }
  obtain rfl : l' = l := by rw [← hl, eventsOf_eq hl']
  rw [writeFile_eq]
  rcases hevents with ⟨_, hevents⟩ | hevents
  · rw [hevents]
    exact hspans
  · rw [hevents]
    have hsame : writeSpans (.locked t :: (l' ++ [.unlocked t])) = writeSpans l' := by
      show writeSpans (l' ++ [.unlocked t]) = _
      rw [writeSpans_append]
      exact List.append_nil _
    unfold SpansWithin
    rw [hsame]
    exact hspans

end Spans

/-! ## 3. What the server has -/

theorem Served.append {s s' : FileServer} {l l' : List FtpEvent} (h : Served s (l ++ l') s') :
    ∃ s1, Served s l s1 ∧ Served s1 l' s' := by
  induction l generalizing s with
  | nil => exact ⟨s, .nil s, h⟩
  | cons e l ih =>
      cases h with
      | lost _ _ message _ h =>
          obtain ⟨s1, h1, h2⟩ := ih h
          exact ⟨s1, .lost _ _ message _ h1, h2⟩
      | executed _ s0 _ message req session _ hread hx h =>
          obtain ⟨s1, h1, h2⟩ := ih h
          exact ⟨s1, .executed _ s0 _ message req session _ hread hx h1, h2⟩
      | accepted _ _ request reply _ ha h =>
          obtain ⟨s1, h1, h2⟩ := ih h
          exact ⟨s1, .accepted _ _ request reply _ ha h1, h2⟩
      | locked _ _ t _ h =>
          obtain ⟨s1, h1, h2⟩ := ih h
          exact ⟨s1, .locked _ _ t _ h1, h2⟩
      | unlocked _ _ t _ h =>
          obtain ⟨s1, h1, h2⟩ := ih h
          exact ⟨s1, .unlocked _ _ t _ h1, h2⟩

/-- What the server reads of a request. -/
def FtpPayload.asRead (req : FtpPayload) : FtpPayload :=
  { req with data := req.dataArea.take (min req.size.toNat ftpDataMaxLen) }

/-- A request whose data fits is read whole. -/
theorem FtpPayload.asRead_of_fits {req : FtpPayload} (hfit : req.data.length ≤ 239)
    (hsize : req.size.toNat = req.data.length) : req.asRead = req := by
  rw [asRead, dataArea_take hfit hsize]

/-- `I` is kept by every execution of the request. -/
def KeptBy (I : FileServer → Prop) (req : FtpPayload) : Prop :=
  ∀ (s s' : FileServer) (session : UInt8), I s → s.execute req session = some s' → I s'

section Leading

variable {I J K : FileServer → Prop} {t : Target} {req resp : FtpPayload} {w w1 w2 : World}

/-- **Retransmissions**: however many of them are executed, what each execution keeps holds. -/
theorem Served.sends {s s' : FileServer} {n : Nat} (hk : KeptBy I req.asRead) (hI : I s)
    (h : Served s (List.replicate n (.sent (buildFtpMessage t req))) s') : I s' := by
  induction n generalizing s with
  | zero =>
      cases h
      exact hI
  | succ n ih =>
      rw [List.replicate_succ] at h
      cases h with
      | lost _ _ _ _ h => exact ih hI h
      | executed _ s1 _ _ r session _ hread hx h =>
          rw [requestRead_sent] at hread
          cases hread
          exact ih (hk s s1 session hI hx) h

/-- Behind this part of the run the server meets `J`, if it met `I` in front of it. -/
def Leads (I J : FileServer → Prop) (w w1 : World) : Prop :=
  ∃ l, w1.trace = w.trace ++ l ∧ ∀ s s', I s → Served s l s' → J s'

theorem Leads.same (h : w1.trace = w.trace) : Leads I I w w1 :=
  ⟨[], by rw [h, List.append_nil], fun s s' hI hs => by cases hs; exact hI⟩

theorem Leads.trans (h1 : Leads I J w w1) (h2 : Leads J K w1 w2) : Leads I K w w2 := by
  obtain ⟨l, hl, hIJ⟩ := h1
  obtain ⟨l', hl', hJK⟩ := h2
  refine ⟨l ++ l', by rw [hl', hl, List.append_assoc], fun s s' hI hs => ?_⟩
  obtain ⟨s1, hs1, hs2⟩ := hs.append
  exact hJK s1 s' (hIJ s s1 hI hs1) hs2

theorem Leads.imp (hJ : ∀ s, J s → K s) (h : Leads I J w w1) : Leads I K w w1 := by
  obtain ⟨l, hl, hIJ⟩ := h
  exact ⟨l, hl, fun s s' hI hs => hJ s' (hIJ s s' hI hs)⟩

/-- **A request that was acknowledged** has been executed, once or several times. -/
theorem sendAndReceive_leads (hk : KeptBy I req.asRead)
    (h : sendAndReceive t req w = (.ok resp, w1)) (hnak : resp.opcode ≠ .nak) :
    Leads I (fun s => I s ∧ s.Answers req resp) w w1 := by
  obtain ⟨n, htrace, _⟩ := sendAndReceive_events (t := t) req w
  rw [h] at htrace
  refine ⟨_, htrace, fun s s' hI hs => ?_⟩
  obtain ⟨s1, hs1, hs2⟩ := hs.append
  have hI1 := hs1.sends hk hI
  cases hs2 with
  | accepted _ _ _ _ _ ha hs2 =>
      cases hs2
      exact ⟨hI1, ha (sendAndReceive_kind h hnak)⟩

/-- What an answered request left in the server's log. -/
theorem FileServer.Answers.executed {s : FileServer} (h : s.Answers req resp) :
    ∃ session, (req.asRead, session) ∈ s.executed ∧
      (req.opcode = .createFile → resp.session = session) := by
  obtain ⟨r, session, hdecode, hmem, hsession⟩ := h
  rw [FtpPayload.decode_encode] at hdecode
  cases hdecode
  exact ⟨session, hmem, hsession⟩

end Leading

/-! ## 4. The run -/

/-- Nothing but ResetSessions so far. -/
def Fresh (s : FileServer) : Prop := ∀ p ∈ s.executed, p.1.opcode = .resetSessions

/-- Every CreateFile so far was for this path, and its session is open on the empty file. -/
def Created (path : List UInt8) (s : FileServer) : Prop :=
  ∀ p ∈ s.executed, p.1.opcode ≠ .writeFile ∧
    (p.1.opcode = .createFile → s.sessions p.2 = some path ∧ s.files path = some [])

/-- The session is open on the file, which has this content; nothing behind it was written. -/
structure Holding (path : List UInt8) (session : UInt8) (content : List UInt8) (s : FileServer) :
    Prop where
  session : s.sessions session = some path
  file : s.files path = some content
  below : ∀ p ∈ s.executed, p.1.opcode = .writeFile → p.1.offset.toNat < content.length

/-- Writing where the content ends appends. -/
theorem writeAt_end (content chunk : List UInt8) :
    writeAt content content.length chunk = content ++ chunk := by
  simp [writeAt, overlay, padTo]

/-- **Writing the same bytes again changes nothing.** -/
theorem writeAt_again (content chunk : List UInt8) :
    writeAt (content ++ chunk) content.length chunk = content ++ chunk := by
  simp [writeAt, overlay, padTo]

section Requests

variable {s s' : FileServer} {req : FtpPayload} {path : List UInt8} {session : UInt8}

theorem FileServer.execute_of_resetSessions (h : req.opcode = .resetSessions) :
    s.execute req session =
      some { s with sessions := fun _ => none, executed := s.executed ++ [(req, session)] } := by
  simp only [execute, h]

theorem FileServer.execute_of_createFile (h : req.opcode = .createFile) :
    s.execute req session =
      some { files := Function.update s.files (payloadOf req) (some [])
             sessions := Function.update s.sessions session (some (payloadOf req))
             executed := s.executed ++ [(req, session)] } := by
  simp only [execute, h]

theorem FileServer.execute_of_terminateSession (h : req.opcode = .terminateSession) :
    s.execute req session = some { s with
      sessions := Function.update s.sessions req.session none
      executed := s.executed ++ [(req, session)] } := by
  simp only [execute, h]

/-- A WriteFile that is executed goes to the file of its session. -/
theorem FileServer.execute_of_writeFile (h : req.opcode = .writeFile)
    (hx : s.execute req session = some s') :
    ∃ name content, s.sessions req.session = some name ∧ s.files name = some content ∧
      s' = { s with
        files := Function.update s.files name
          (some (writeAt content req.offset.toNat (payloadOf req)))
        executed := s.executed ++ [(req, session)] } := by
  simp only [execute, h] at hx
  obtain ⟨name, hname, hx⟩ := Option.bind_eq_some_iff.mp hx
  obtain ⟨content, hcontent, rfl⟩ := Option.map_eq_some_iff.mp hx
  exact ⟨name, content, hname, hcontent, rfl⟩

theorem keptBy_resetSessions (h : req.opcode = .resetSessions) : KeptBy Fresh req := by
  intro s s' session hI hx
  rw [FileServer.execute_of_resetSessions h] at hx
  cases hx
  intro p hp
  rcases List.mem_append.mp hp with hp | hp
  · exact hI p hp
  · cases List.mem_singleton.mp hp
    exact h

/-- **CreateFile again** opens one more session on the same empty file. -/
theorem keptBy_createFile (h : req.opcode = .createFile) (hname : FileServer.payloadOf req = path) :
    KeptBy (Created path) req := by
  intro s s' session hI hx
  rw [FileServer.execute_of_createFile h, hname] at hx
  cases hx
  intro p hp
  rcases List.mem_append.mp hp with hp | hp
  · obtain ⟨hwrite, hcreate⟩ := hI p hp
    refine ⟨hwrite, fun hop => ⟨?_, Function.update_self ..⟩⟩
    by_cases hsession : p.2 = session
    · rw [hsession]
      exact Function.update_self ..
    · exact (Function.update_of_ne hsession ..).trans (hcreate hop).1
  · cases List.mem_singleton.mp hp
    refine ⟨by rw [h]; decide, fun _ => ⟨Function.update_self .., Function.update_self ..⟩⟩

/-- **A WriteFile, once or again**: the content is there without the chunk or with it. -/
theorem keptBy_writeFile {content chunk : List UInt8} (h : req.opcode = .writeFile)
    (hsession : req.session = session) (hoffset : req.offset.toNat = content.length)
    (hchunk : FileServer.payloadOf req = chunk) (hne : chunk ≠ []) :
    KeptBy (fun s => Holding path session content s ∨
      Holding path session (content ++ chunk) s) req := by
  intro s s' answer hI hx
  obtain ⟨name, old, hname, hold, rfl⟩ := FileServer.execute_of_writeFile h hx
  rw [hsession] at hname
  have hlt : content.length < (content ++ chunk).length := by
    have hpos := List.length_pos_iff.mpr hne
    rw [List.length_append]
    omega
  have after : ∀ content', Holding path session content' s →
      content'.length ≤ (content ++ chunk).length →
      writeAt content' content.length chunk = content ++ chunk →
      Holding path session (content ++ chunk) { s with
        files := Function.update s.files name
          (some (writeAt old req.offset.toNat (FileServer.payloadOf req)))
        executed := s.executed ++ [(req, answer)] } := by
    intro content' hh hle hwrite
    obtain rfl : path = name := Option.some.inj (hh.session.symm.trans hname)
    obtain rfl : content' = old := Option.some.inj (hh.file.symm.trans hold)
    refine ⟨hh.session, ?_, fun p hp hop => ?_⟩
    · rw [hoffset, hchunk, hwrite]
      exact Function.update_self ..
    · rcases List.mem_append.mp hp with hp | hp
      · exact Nat.lt_of_lt_of_le (hh.below p hp hop) hle
      · cases List.mem_singleton.mp hp
        rw [hoffset]
        exact hlt
  rcases hI with hh | hh
  · exact Or.inr (after content hh hlt.le (writeAt_end content chunk))
  · exact Or.inr (after _ hh (Nat.le_refl _) (writeAt_again content chunk))

theorem keptBy_terminateSession {content : List UInt8} (h : req.opcode = .terminateSession) :
    KeptBy (fun s => s.files path = some content) req := by
  intro s s' session hI hx
  rw [FileServer.execute_of_terminateSession h] at hx
  cases hx
  exact hI

end Requests

section Uploading

variable {t : Target} {path : List UInt8} {w w1 : World}

theorem resetSessions_leads {u : Unit} (h : resetSessions t w = (.ok u, w1)) :
    Leads Fresh Fresh w w1 := by
  obtain ⟨req, w2, hreq, h⟩ := bind_ok.mp h
  cases hreq
  obtain ⟨resp, w3, hsend, h⟩ := bind_ok.mp h
  obtain ⟨hop, rfl⟩ := checked_ok.mp h
  have hsends := sendAndReceive_leads (keptBy_resetSessions rfl) hsend hop
  exact hsends.imp fun _ hs => hs.1

/-- **CreateFile**: the session of the reply is open on the empty file. -/
theorem createFile_leads {resp : FtpPayload} {seq : UInt16} (hpath : path.length ≤ 239)
    (h : sendAndReceive t (pathRequest .createFile path 0 seq) w = (.ok resp, w1))
    (hnak : resp.opcode ≠ .nak) : Leads Fresh (Holding path resp.session []) w w1 := by
  have hread : (pathRequest .createFile path 0 seq).asRead = pathRequest .createFile path 0 seq :=
    FtpPayload.asRead_of_fits hpath (chunk_size hpath)
  have hname : FileServer.payloadOf (pathRequest .createFile path 0 seq) = path := by
    show path.take (UInt8.ofNat path.length).toNat = path
    rw [chunk_size hpath, List.take_length]
  have hcreates : Leads (Created path) (Holding path resp.session []) w w1 := by
    refine (sendAndReceive_leads (I := Created path) ?_ h hnak).imp fun s hs => ?_
    · rw [hread]
      exact keptBy_createFile rfl hname
    · obtain ⟨hcreated, hanswers⟩ := hs
      obtain ⟨session, hmem, hsession⟩ := hanswers.executed
      rw [hread] at hmem
      obtain ⟨hopen, hempty⟩ := (hcreated _ hmem).2 rfl
      refine ⟨by rw [hsession rfl]; exact hopen, hempty, fun p hp hop => ?_⟩
      exact absurd hop (hcreated p hp).1
  obtain ⟨l, hl, hleads⟩ := hcreates
  refine ⟨l, hl, fun s s' hfresh hs => hleads s s' (fun p hp => ?_) hs⟩
  rw [hfresh p hp]
  exact ⟨by decide, fun hop => by cases hop⟩

/-- **One chunk**: it is behind the content once its WriteFile is acknowledged. -/
theorem chunk_leads {resp : FtpPayload} {session : UInt8} {seq : UInt16} {offset : UInt32}
    {content chunk : List UInt8} (hoffset : offset.toNat = content.length) (hne : chunk ≠ [])
    (hfit : chunk.length ≤ 239)
    (h : sendAndReceive t (chunkRequest chunk offset session seq) w = (.ok resp, w1))
    (hnak : resp.opcode ≠ .nak) :
    Leads (Holding path session content) (Holding path session (content ++ chunk)) w w1 := by
  have hread : (chunkRequest chunk offset session seq).asRead =
      chunkRequest chunk offset session seq :=
    FtpPayload.asRead_of_fits hfit (chunk_size hfit)
  have hpayload : FileServer.payloadOf (chunkRequest chunk offset session seq) = chunk := by
    show chunk.take (UInt8.ofNat chunk.length).toNat = chunk
    rw [chunk_size hfit, List.take_length]
  have hk : KeptBy (fun s => Holding path session content s ∨
      Holding path session (content ++ chunk) s) (chunkRequest chunk offset session seq) :=
    keptBy_writeFile rfl rfl hoffset hpayload hne
  rw [← hread] at hk
  obtain ⟨l, hl, hleads⟩ := sendAndReceive_leads hk h hnak
  refine ⟨l, hl, fun s s' hh hs => ?_⟩
  obtain ⟨hbefore | hafter, hanswers⟩ := hleads s s' (Or.inl hh) hs
  · -- an acknowledged chunk has been written
    obtain ⟨answer, hmem, _⟩ := hanswers.executed
    rw [hread] at hmem
    have hbelow := hbefore.below _ hmem rfl
    exact absurd hbelow (by show ¬ offset.toNat < _; omega)
  · exact hafter

/-- **The chunks**: the content grows by each of them. -/
theorem writeChunks_leads {session : UInt8} :
    ∀ (fuel : Nat) (rest content : List UInt8) (offset : UInt32) (w w1 : World),
      rest.length ≤ fuel → offset.toNat = content.length → (content ++ rest).length < 2 ^ 32 →
      writeChunks t session offset (chunks ftpDataMaxLen fuel rest) w = (.ok (), w1) →
      Leads (Holding path session content) (Holding path session (content ++ rest)) w w1 := by
  have done : ∀ (content : List UInt8) (offset : UInt32) (w w1 : World),
      writeChunks t session offset [] w = (.ok (), w1) →
      Leads (Holding path session content) (Holding path session (content ++ [])) w w1 := by
    intro content offset w w1 h
    obtain ⟨_, rfl⟩ := pure_ok.mp h
    rw [List.append_nil]
    exact .same rfl
  intro fuel
  induction fuel with
  | zero =>
      intro rest content offset w w1 hfuel _ _ h
      obtain rfl := List.eq_nil_of_length_eq_zero (Nat.le_zero.mp hfuel)
      exact done content offset w w1 h
  | succ fuel ih =>
      intro rest content offset w w1 hfuel hoffset htotal h
      cases rest with
      | nil => exact done content offset w w1 h
      | cons b rest =>
          obtain ⟨chunk, left, hchunks, hsplit, hne, hfit⟩ := chunks_cons fuel b rest
          rw [hchunks] at h
          rw [← hsplit, ← List.append_assoc] at htotal ⊢
          have hlength : chunk.length + left.length = rest.length + 1 := by
            rw [← List.length_append, hsplit, List.length_cons]
          have hpos := List.length_pos_iff.mpr hne
          simp only [List.length_append] at htotal
          obtain ⟨req, w2, hreq, h⟩ := bind_ok.mp h
          cases hreq
          obtain ⟨r, w3, hsend, h⟩ := bind_ok.mp h
          cases r with
          | error error =>
              obtain ⟨_, _, _, h⟩ := bind_ok.mp h
              exact (fail_ok.mp h).elim
          | ok resp =>
              have hsend' : sendAndReceive t (chunkRequest chunk offset session w.seqNumber)
                  { w with seqNumber := w.seqNumber + 1 } = (.ok resp, w3) := attempt_ok.mp hsend
              dsimp only at h
              cases hnak : checkNak resp with
              | error nak =>
                  rw [hnak] at h
                  obtain ⟨_, _, _, h⟩ := bind_ok.mp h
                  exact (fail_ok.mp h).elim
              | ok u =>
                  rw [hnak] at h
                  have hnext : (offset + UInt32.ofNat chunk.length).toNat =
                      offset.toNat + chunk.length := toNat_advance (Nat.le_refl _) (by omega)
                  have hone : Leads (Holding path session content)
                      (Holding path session (content ++ chunk))
                      { w with seqNumber := w.seqNumber + 1 } w3 :=
                    chunk_leads hoffset hne hfit hsend' (checkNak_ok.mp hnak)
                  refine Leads.trans (.trans (.same rfl) hone) ?_
                  refine ih left (content ++ chunk) _ w3 w1 ?_ ?_ ?_ h
                  · rw [List.length_cons] at hfuel
                    omega
                  · rw [hnext, hoffset, List.length_append]
                  · simp only [List.length_append]
                    omega

theorem terminateSession_leads {u : Unit} {session : UInt8} {content : List UInt8}
    (h : terminateSession t session w = (.ok u, w1)) :
    Leads (fun s => s.files path = some content) (fun s => s.files path = some content) w w1 := by
  obtain ⟨req, w2, hreq, h⟩ := bind_ok.mp h
  cases hreq
  obtain ⟨resp, w3, hsend, h⟩ := bind_ok.mp h
  obtain ⟨hop, rfl⟩ := checked_ok.mp h
  have hsends := sendAndReceive_leads (I := fun s => s.files path = some content)
    (keptBy_terminateSession rfl) hsend hop
  exact hsends.imp fun _ hs => hs.1

/-- **A run that returns Ok** leaves the caller's bytes in the file. -/
theorem writeFile_leads {data : List UInt8} (hpath : path.length ≤ 239)
    (hdata : data.length < 2 ^ 32)
    (h : writeFile t path data w = (.ok (), w1)) :
    ∃ l, w1.trace = w.trace ++ .locked t :: (l ++ [.unlocked t]) ∧
      ∀ s s', Fresh s → Served s l s' → s'.files path = some data := by
  obtain ⟨w2, hlocked, rfl⟩ := withTargetLock_ok h
  obtain ⟨_, w3, hreset, h⟩ := bind_ok.mp hlocked
  obtain ⟨req, w4, hreq, h⟩ := bind_ok.mp h
  cases hreq
  obtain ⟨resp, w5, hcreate, h⟩ := bind_ok.mp h
  obtain ⟨_, w6, hcheck, h⟩ := bind_ok.mp h
  obtain ⟨hnak, rfl⟩ := checked_ok.mp hcheck
  obtain ⟨_, w7, hchunks, hterminate⟩ := bind_ok.mp h
  have hleads1 := resetSessions_leads (withContext_ok.mp hreset)
  have hleads2 := createFile_leads hpath (withContext_ok.mp hcreate) hnak
  have hleads3 := @writeChunks_leads t path resp.session data.length data [] 0 _ _
    (Nat.le_refl _) rfl hdata hchunks
  have hleads4 := @terminateSession_leads t path _ _ _ _ data (withContext_ok.mp hterminate)
  obtain ⟨l, hl, hall⟩ := hleads1.trans (.trans (.same rfl) (hleads2.trans
    ((hleads3.imp fun s hs => hs.file).trans hleads4)))
  refine ⟨l, ?_, hall⟩
  simp [hl]

end Uploading

/-- **An upload is what the caller gave.** Whatever requests and replies are lost, and however
    often a retransmission is executed again: when `write_file` returns Ok, the file has the
    caller's bytes. In every run, offsets and sizes reach the server as they were meant, and no
    span leaves a gap. -/
theorem writeFile_uploads (t : Target) {path data : List UInt8} (hpath : path.length ≤ 239)
    (hdata : data.length < 2 ^ 32) (w : World) :
    SpansWithin data.length 0 (eventsOf (writeFile t path data) w) ∧
      ∀ w', writeFile t path data w = (.ok (), w') →
        ∀ (files : List UInt8 → Option (List UInt8)) (sessions : UInt8 → Option (List UInt8))
          (server : FileServer),
          Served ⟨files, sessions, []⟩ (eventsOf (writeFile t path data) w) server →
          server.files path = some data := by
  refine ⟨writeFile_spans path data hdata w, fun w' h files sessions server hs => ?_⟩
  obtain ⟨l, hl, hleads⟩ := writeFile_leads hpath hdata h
  have hevents : eventsOf (writeFile t path data) w = .locked t :: (l ++ [.unlocked t]) :=
    eventsOf_eq (by rw [h, hl])
  rw [hevents] at hs
  cases hs with
  | locked _ _ _ _ hs =>
      obtain ⟨s1, hs1, hs2⟩ := hs.append
      have hfile := hleads _ s1 (fun p hp => by cases hp) hs1
      cases hs2 with
      | unlocked _ _ _ _ hs2 =>
          cases hs2
          exact hfile

section Runs

/-- The replies to the first CreateFile and to the first WriteFile are lost. -/
def resentRun : World where
  seqNumber := 0
  hubAnswers := []
  inbox := [packet vehicle (serverAck 1 .resetSessions 0 0 []), .elapsed,
    packet vehicle (serverAck 2 .createFile 5 0 []), .elapsed,
    packet vehicle (serverAck 3 .writeFile 5 0 []),
    packet vehicle (serverAck 4 .terminateSession 5 0 [])]
  trace := []

/-- The transmissions of `resentRun`, each executed; the file is created twice. -/
theorem resentRun_served : ∃ server, Served ⟨fun _ => none, fun _ => none, []⟩
    (eventsOf (writeFile vehicle [97] [7, 8, 9]) resentRun) server := by
  have hevents : eventsOf (writeFile vehicle [97] [7, 8, 9]) resentRun =
      [.locked vehicle,
        .sent (buildFtpMessage vehicle (FtpPayload.newRequest .resetSessions 0)),
        .accepted (FtpPayload.newRequest .resetSessions 0) (serverAck 1 .resetSessions 0 0 []),
        .sent (buildFtpMessage vehicle (pathRequest .createFile [97] 0 1)),
        .sent (buildFtpMessage vehicle (pathRequest .createFile [97] 0 1)),
        .accepted (pathRequest .createFile [97] 0 1) (serverAck 2 .createFile 5 0 []),
        .sent (buildFtpMessage vehicle (chunkRequest [7, 8, 9] 0 5 2)),
        .sent (buildFtpMessage vehicle (chunkRequest [7, 8, 9] 0 5 2)),
        .accepted (chunkRequest [7, 8, 9] 0 5 2) (serverAck 3 .writeFile 5 0 []),
        .sent (buildFtpMessage vehicle
          { FtpPayload.newRequest .terminateSession 3 with session := 5 }),
        .accepted { FtpPayload.newRequest .terminateSession 3 with session := 5 }
          (serverAck 4 .terminateSession 5 0 []),
        .unlocked vehicle] := by
    decide +kernel
  have executed : ∀ {s s1 : FileServer} {message : MavMessage} {req : FtpPayload}
      {rest : List FtpEvent} (session : UInt8), requestRead (.sent message) = some req →
      s.execute req session = some s1 → (∃ server, Served s1 rest server) →
      ∃ server, Served s (.sent message :: rest) server :=
    fun _ hread hx ⟨server, h⟩ => ⟨server, .executed _ _ _ _ _ _ _ hread hx h⟩
  have accepted : ∀ {s : FileServer} {request reply : FtpPayload} {rest : List FtpEvent},
      s.Answers request reply → (∃ server, Served s rest server) →
      ∃ server, Served s (.accepted request reply :: rest) server :=
    fun ha ⟨server, h⟩ => ⟨server, .accepted _ _ _ _ _ (fun _ => ha) h⟩
  suffices h : ∃ server, Served ⟨fun _ => none, fun _ => none, []⟩ (List.drop 1
      (eventsOf (writeFile vehicle [97] [7, 8, 9]) resentRun)) server by
    obtain ⟨server, hs⟩ := h
    rw [hevents] at hs ⊢
    exact ⟨server, .locked _ _ _ _ hs⟩
  rw [hevents]
  refine executed 0 rfl rfl (accepted ?_ ?_)
  · exact ⟨_, 0, FtpPayload.decode_encode _, List.mem_cons_self .., by decide⟩
  refine executed 4 rfl rfl (executed 5 rfl rfl (accepted ?_ ?_))
  · exact ⟨_, 5, FtpPayload.decode_encode _, by simp; decide, fun _ => rfl⟩
  refine executed 5 rfl rfl (executed 5 rfl rfl (accepted ?_ ?_))
  · exact ⟨_, 5, FtpPayload.decode_encode _, by simp; decide, by decide⟩
  refine executed 5 rfl rfl (accepted ?_ ⟨_, .unlocked _ _ _ _ (.nil _)⟩)
  exact ⟨_, 5, FtpPayload.decode_encode _, by simp; decide, by decide⟩

theorem writeFile_uploads_resent :
    SpansWithin 3 0 (eventsOf (writeFile vehicle [97] [7, 8, 9]) resentRun) ∧
      ∃ server, Served ⟨fun _ => none, fun _ => none, []⟩
        (eventsOf (writeFile vehicle [97] [7, 8, 9]) resentRun) server ∧
        server.files [97] = some [7, 8, 9] := by
  have hrun : (writeFile vehicle [97] [7, 8, 9] resentRun).1 = .ok () := by decide +kernel
  have hpath : ([97] : List UInt8).length ≤ 239 := by decide
  have hdata : ([7, 8, 9] : List UInt8).length < 2 ^ 32 := by decide
  obtain ⟨server, hs⟩ := resentRun_served
  obtain ⟨hspans, hfile⟩ := writeFile_uploads vehicle hpath hdata resentRun
  exact ⟨hspans, server, hs, hfile _ (run_eq hrun) _ _ server hs⟩

end Runs

end MavlinkServer.Ftp
