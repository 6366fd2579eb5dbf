/-
  File:      MavlinkServer/Ftp/Arithmetic.lean
  Subject:   THE SUMS OF A DOWNLOAD (`recv_ftp`, `apply_burst_chunk`,
             `fill_missing_blocks` and `read_missing_block_chunk` in
             `src/lib/drivers/rest/mavftp`). They are written with `+`, which
             is a panic or a wrap where the sum does not fit its type.

  * `Addition`, `sums` -- the sums that the step from a point makes;
  * `waited` -- the events that a request reads (`waited_append`), whose FTP
    payloads `recv_ftp` compares with `seq + 1`;
  * `Counted` -- the invariant: `bytes_written` is what was copied, and a block
    ends below 2^32;
  * `fits_iff` -- every sum of a download fits exactly when three things hold of
    what arrives.
-/
import MavlinkServer.Ftp.Visits

namespace MavlinkServer.Ftp

open Lib Await

/-! ## 1. The sums -/

/-- `a + b` in a type of so many bits. -/
structure Addition where
  bits : Nat
  a : Nat
  b : Nat
  deriving DecidableEq, Repr

def Addition.Fits (s : Addition) : Prop := s.a + s.b < 2 ^ s.bits

instance (s : Addition) : Decidable s.Fits := inferInstanceAs (Decidable (_ < _))

/-- The events that a request reads. -/
def Input.waited (t : Target) (i : Input) : List HubEvent :=
  match i.request t with
  | none => i.inbox
  | some (_, rest) => i.inbox.take (i.inbox.length - rest.inbox.length)

/-- The points whose step is a request with a number of its own. -/
def ReadPoint.asks : ReadPoint → Bool
  | .reset => true
  | .openFile => true
  | .opened _ _ => false
  | .cycle _ _ _ => false
  | .burst _ _ _ => false
  | .repair _ [] _ _ => false
  | .repair _ (missing :: _) filled _ => filled < missing.size
  | .closing _ _ => true
  | .finish _ _ => true
  | .done _ => false

/-- `seq + 1` in `recv_ftp`, once for every FTP payload of the target. -/
def ReadCall.seqSums (r : ReadCall) (p : ReadPoint) (w : World) : List Addition :=
  if p.asks then
    (replies r.target (w.input.waited r.target)).map fun _ => ⟨16, w.seqNumber.toNat, 1⟩
  else []

/-- The sums of offsets and sizes. -/
def ReadPoint.sizeSums : ReadPoint → Option Chunk → List Addition
  | .burst _ state _, some chunk =>
      -- `chunk_offset + chunk_size as u32`, `self.bytes_written += chunk_size`
      [⟨32, chunk.offset, chunk.size⟩, ⟨32, state.bytesWritten.toNat, chunk.size⟩]
  | .repair _ (missing :: _) filled state, chunk =>
      if filled < missing.size then
        -- `missing.offset + filled`
        ⟨32, missing.offset.toNat, filled.toNat⟩ ::
          match chunk with
          | some chunk =>
              -- `self.bytes_written += chunk_size`, `filled += chunk_size`
              [⟨32, state.bytesWritten.toNat, chunk.size⟩, ⟨32, filled.toNat, chunk.size⟩]
          | none => []
      else []
  | _, _ => []

/-- **The sums of the step from a point.** -/
def ReadCall.sums (r : ReadCall) (p : ReadPoint) (w : World) : List Addition :=
  r.seqSums p w ++ p.sizeSums (r.takes p w)

/-- **No sum of a download overflows its type.** -/
def NoOverflow (r : ReadCall) (w : World) : Prop :=
  ∀ s, r.Visited w s → ∀ sum ∈ r.sums s.point s.world, sum.Fits

/-- The bytes that have been copied. -/
def ReadState.total (s : ReadState) : Nat := (s.copied.map (·.size)).sum

/-- What has to hold of the replies. -/
structure Moderate (r : ReadCall) (w : World) : Prop where
  /-- no FTP payload of the target arrives while a request with the last number waits -/
  number : ∀ s, r.Visited w s → s.point.asks = true → s.world.seqNumber = 65535 →
    replies r.target (s.world.input.waited r.target) = []
  /-- a packet of the burst that is taken ends below 2^32 -/
  ends : ∀ s, r.Visited w s → ∀ session state retries, s.point = .burst session state retries →
    ∀ chunk, r.takes s.point s.world = some chunk → chunk.offset + chunk.size < 2 ^ 32
  /-- fewer than 2^32 bytes are copied -/
  total : ∀ s, r.Visited w s → s.total < 2 ^ 32

/-! ## 2. What a request reads -/

section Requests

variable {r : ReadCall} {p p' : ReadPoint} {w w' : World}

theorem request_of_ok {payload resp : FtpPayload} {t : Target}
    (hseq : payload.seqNumber = w.seqNumber)
    (h : sendAndReceive t payload { w with seqNumber := w.seqNumber + 1 } = (.ok resp, w')) :
    w.input.request t = some (some resp, w'.input) :=
  attempt_request t hseq (attempt_ok.mpr h)

/-- Nothing is read. -/
def Unread (w w' : World) : Prop := w'.inbox = w.inbox

instance : Std.Refl Unread := ⟨fun _ => rfl⟩
instance : IsTrans World Unread := ⟨fun _ _ _ h h' => Eq.trans h' h⟩

theorem unread_note (e : FtpEvent) : Moves Unread (note e) := fun _ => rfl

theorem unread_storeProgress (progress : Bool) (value : UInt64) :
    Moves Unread (storeProgress progress value) :=
  Moves.ite (unread_note _) (Moves.pure _)

theorem unread_takeRepair {session : UInt8} {missing : MissingBlock} {blocks : List MissingBlock}
    {filled : UInt32} {state : BurstReadState} (result : Except FtpFailure FtpPayload) :
    Moves Unread (r.takeRepair session missing blocks filled state result) := by
  unfold ReadCall.takeRepair
  split
  · exact Moves.pure _
  · split
    · exact Moves.ite (Moves.pure _) (Moves.pure _)
    · refine Moves.ite (Moves.pure _) ?_
      split
      · exact Moves.fail _
      · exact Moves.bind (unread_storeProgress _ _) fun _ => Moves.pure _

theorem unread_takeOpen (resp : FtpPayload) : Moves Unread (r.takeOpen resp) := by
  unfold ReadCall.takeOpen
  split
  · exact Moves.ite (Moves.pure _) (Moves.bind (unread_note _) fun _ => Moves.pure _)
  · exact Moves.bind (unread_note _) fun _ => Moves.pure _

/-- The step from a point that asks makes one request, with the next number. -/
theorem request_of_asks (hp : p.asks = true) (h : r.advance p w = (.ok p', w')) :
    ∃ reply i, w.input.request r.target = some (reply, i) ∧ i.inbox = w'.inbox := by
  cases p with
  | reset =>
      obtain ⟨_, w1, hreset, h⟩ := bind_ok.mp h
      obtain ⟨_, rfl⟩ := pure_ok.mp h
      obtain ⟨req, w2, hreq, hreset⟩ := bind_ok.mp (withContext_ok.mp hreset)
      cases hreq
      obtain ⟨resp, w3, hsend, hreset⟩ := bind_ok.mp hreset
      obtain ⟨_, rfl⟩ := checked_ok.mp hreset
      exact ⟨_, _, request_of_ok rfl hsend, rfl⟩
  | openFile =>
      obtain ⟨req, w1, hreq, h⟩ := bind_ok.mp h
      cases hreq
      obtain ⟨resp, w2, hsend, h⟩ := bind_ok.mp h
      obtain ⟨_, w3, hchecked, h⟩ := bind_ok.mp h
      obtain ⟨_, rfl⟩ := checked_ok.mp hchecked
      have hunread := (unread_takeOpen resp).of_eq h
      exact ⟨_, _, request_of_ok rfl (withContext_ok.mp hsend), hunread.symm⟩
  | repair session blocks filled state =>
      cases blocks with
      | nil => cases hp
      | cons missing blocks =>
          rw [ReadCall.advance, if_pos (of_decide_eq_true hp)] at h
          obtain ⟨req, w1, hreq, h⟩ := bind_ok.mp h
          cases hreq
          obtain ⟨result, w2, hsend, h⟩ := bind_ok.mp h
          have hunread := (unread_takeRepair result).of_eq h
          exact ⟨_, _, attempt_request r.target (by rfl) hsend, hunread.symm⟩
  | closing session error =>
      obtain ⟨_, w1, _, h⟩ := bind_ok.mp h
      exact (fail_ok.mp h).elim
  | finish session state =>
      obtain ⟨_, w1, hfinish, h⟩ := bind_ok.mp h
      obtain ⟨_, rfl⟩ := pure_ok.mp h
      obtain ⟨_, w2, hclose, hfinish⟩ := bind_ok.mp hfinish
      obtain ⟨req, w3, hreq, hclose⟩ := bind_ok.mp (withContext_ok.mp hclose)
      cases hreq
      obtain ⟨resp, w4, hsend, hclose⟩ := bind_ok.mp hclose
      obtain ⟨_, rfl⟩ := checked_ok.mp hclose
      obtain ⟨_, w5, hstore, hfinish⟩ := bind_ok.mp hfinish
      obtain ⟨_, rfl⟩ := pure_ok.mp hfinish
      exact ⟨_, _, request_of_ok rfl hsend, ((unread_storeProgress _ _).of_eq hstore).symm⟩
  | _ => cases hp

/-- **`waited` is what the request reads**: the events of the step are those, and what is left. -/
theorem waited_append (hp : p.asks = true) (h : r.advance p w = (.ok p', w')) :
    w.inbox = w.input.waited r.target ++ w'.inbox := by
  obtain ⟨reply, i, hrequest, hinbox⟩ := request_of_asks hp h
  obtain ⟨read, hread⟩ := ((emits_advance p).of_eq h).inbox
  have hwaited : w.input.waited r.target =
      w.inbox.take (w.inbox.length - w'.inbox.length) := by
    rw [Input.waited, hrequest, ← hinbox]
    rfl
  rw [hwaited, ← hread, List.length_append, Nat.add_sub_cancel, List.take_left]

end Requests

/-! ## 3. What is counted -/

/-- The blocks end below 2^32. -/
def Bounded (blocks : List MissingBlock) : Prop :=
  ∀ b ∈ blocks, b.offset.toNat + b.size.toNat < 2 ^ 32

/-- **The counters at a point**, when so many bytes were copied. -/
def ReadPoint.Counted (total : Nat) : ReadPoint → Prop
  | .reset | .openFile | .opened _ _ => total = 0
  | .cycle _ state _ | .burst _ state _ =>
      state.bytesWritten.toNat = total ∧ Bounded state.missingBlocks
  | .repair _ blocks filled state =>
      state.bytesWritten.toNat = total ∧ Bounded blocks ∧ filled.toNat ≤ total
  | .closing _ _ | .finish _ _ | .done _ => True

/-- A block that a packet leaves open ends where the packet begins. -/
theorem bounded_extend {state state' : BurstReadState} {resp : FtpPayload}
    (h : extendContiguous state resp = .ok (some state')) (hb : Bounded state.missingBlocks) :
    Bounded state'.missingBlocks := by
  obtain ⟨hle, _, _, hblocks⟩ := extendContiguous_some h
  rw [hblocks]
  intro b hmem
  rcases List.mem_append.mp hmem with hmem | hmem
  · exact hb b hmem
  · split at hmem
    · rw [List.mem_singleton.mp hmem]
      have hoffset := resp.offset.toNat_lt
      have hsub : (resp.offset - state.contiguousEnd).toNat =
          resp.offset.toNat - state.contiguousEnd.toNat := UInt32.toNat_sub_of_le _ _ hle
      have hle' : state.contiguousEnd.toNat ≤ resp.offset.toNat := UInt32.le_iff_toNat_le.mp hle
      show state.contiguousEnd.toNat + (resp.offset - state.contiguousEnd).toNat < 2 ^ 32
      omega
    · cases hmem

theorem bytesWritten_extend {state state' : BurstReadState} {resp : FtpPayload}
    (h : extendContiguous state resp = .ok (some state')) :
    state'.bytesWritten = state.bytesWritten + resp.size.toUInt32 := by
  unfold extendContiguous at h
  split at h
  · cases h
  · split at h
    · cases h
    · dsimp only at h
      split at h
      · cases h
      · cases h
        rfl

/-- A counter that takes a size without a wrap. -/
theorem toNat_add_size {n : UInt32} {size : UInt8} (h : n.toNat + size.toNat < 2 ^ 32) :
    (n + size.toUInt32).toNat = n.toNat + size.toNat := by
  rw [UInt32.toNat_add, UInt8.toNat_toUInt32]
  exact Nat.mod_eq_of_lt h

section Steps

variable {r : ReadCall} {p p' : ReadPoint} {w : World} {total : Nat}

/-- Without a chunk nothing is counted. -/
theorem counted_none (hp : p.Counted total) (h : Goes r p none p') : p'.Counted total := by
  cases h with
  | subscribed session fileSize => exact ⟨hp.symm, fun b hb => (List.not_mem_nil hb).elim⟩
  | eof session state retries => exact ⟨hp.1, hp.2, Nat.zero_le _⟩
  | blockDone session missing blocks filled state =>
      exact ⟨hp.1, fun b hb => hp.2.1 b (.tail _ hb), Nat.zero_le _⟩
  | reset | opened | requested | skipped | elapsed => exact hp
  | rejected | failed | blocksDone | repairFailed | finished => exact trivial

/-- **A chunk is counted once**, if its size still fits. -/
theorem counted_some {chunk : Chunk} (hp : p.Counted total) (hfit : total + chunk.size < 2 ^ 32)
    (h : Goes r p (some chunk) p') : p'.Counted (total + chunk.size) := by
  cases h with
  | copied session state state' retries resp hextend p' hq =>
      have hbytes : state'.bytesWritten.toNat = total + resp.size.toNat := by
        rw [bytesWritten_extend hextend, ← hp.1]
        exact toNat_add_size (by rw [hp.1]; exact hfit)
      have hblocks := bounded_extend hextend hp.2
      rcases hq with rfl | rfl
      · exact ⟨hbytes, hblocks⟩
      · exact ⟨hbytes, hblocks⟩
  | repaired session missing blocks filled state resp fileData hlt hcopy =>
      obtain ⟨hbytes, hblocks, hfilled⟩ := hp
      have hfit : total + resp.size.toNat < 2 ^ 32 := hfit
      refine ⟨?_, hblocks, ?_⟩
      · show (state.bytesWritten + resp.size.toUInt32).toNat = total + resp.size.toNat
        rw [← hbytes]
        exact toNat_add_size (by rw [hbytes]; exact hfit)
      · rw [toNat_add_size (by omega)]
        exact Nat.add_le_add_right hfilled _

/-- A chunk is added to the bytes that were counted. -/
theorem total_mem_sums {chunk : Chunk} (hp : p.Counted total) (h : r.takes p w = some chunk) :
    ⟨32, total, chunk.size⟩ ∈ r.sums p w := by
  refine List.mem_append_right _ ?_
  rw [h]
  cases p with
  | burst session state retries =>
      rw [← hp.1]
      exact .tail _ (.head _)
  | repair session blocks filled state =>
      cases blocks with
      | nil => cases h
      | cons missing blocks =>
          simp only [ReadCall.takes, Option.ite_none_right_eq_some] at h
          rw [← hp.1]
          simp only [ReadPoint.sizeSums, if_pos h.1]
          exact .tail _ (.head _)
  | _ => cases h

/-- `seq + 1` fits unless the number is the last one. -/
theorem seqSums_fit :
    (∀ sum ∈ r.seqSums p w, sum.Fits) ↔
      (p.asks = true → w.seqNumber = 65535 → replies r.target (w.input.waited r.target) = []) := by
  have hlast : w.seqNumber = 65535 ↔ ¬ (⟨16, w.seqNumber.toNat, 1⟩ : Addition).Fits := by
    have hlt := w.seqNumber.toNat_lt
    rw [← UInt16.toNat_inj]
    show w.seqNumber.toNat = 65535 ↔ ¬ w.seqNumber.toNat + 1 < 2 ^ 16
    omega
  unfold ReadCall.seqSums
  cases p.asks with
  | false =>
      rw [if_neg Bool.false_ne_true]
      exact ⟨fun _ h => (Bool.false_ne_true h).elim, fun _ _ hsum => (List.not_mem_nil hsum).elim⟩
  | true =>
      rw [if_pos rfl]
      constructor
      · intro h _ heq
        refine List.eq_nil_iff_forall_not_mem.mpr fun resp hresp => ?_
        exact hlast.mp heq (h _ (List.mem_map.mpr ⟨resp, hresp, rfl⟩))
      · intro h sum hsum
        obtain ⟨resp, hresp, rfl⟩ := List.mem_map.mp hsum
        by_contra hfit
        rw [h rfl (hlast.mpr hfit)] at hresp
        cases hresp

/-- **The other sums fit** where the counters are right, the end of a packet of the burst is below
    2^32 and the bytes copied so far are, with the chunk. -/
theorem sizeSums_fit (hp : p.Counted total)
    (hends : ∀ session state retries, p = .burst session state retries →
      ∀ chunk, r.takes p w = some chunk → chunk.offset + chunk.size < 2 ^ 32)
    (htotal : ∀ chunk, r.takes p w = some chunk → total + chunk.size < 2 ^ 32) :
    ∀ sum ∈ p.sizeSums (r.takes p w), sum.Fits := by
  cases p with
  | burst session state retries =>
      intro sum hsum
      cases htakes : r.takes (.burst session state retries) w with
      | none =>
          rw [htakes] at hsum
          exact (List.not_mem_nil hsum).elim
      | some chunk =>
          rw [htakes] at hsum
          rcases List.mem_cons.mp hsum with rfl | hsum
          · exact hends session state retries rfl chunk htakes
          · rw [List.mem_singleton.mp hsum]
            have hroom := htotal chunk htakes
            rw [← hp.1] at hroom
            exact hroom
  | repair session blocks filled state =>
      cases blocks with
      | nil => exact fun _ hsum => (List.not_mem_nil hsum).elim
      | cons missing blocks =>
          obtain ⟨hbytes, hblocks, hfilled⟩ := hp
          intro sum hsum
          simp only [ReadPoint.sizeSums] at hsum
          split at hsum
          · rename_i hlt
            have hlt : filled.toNat < missing.size.toNat := UInt32.lt_iff_toNat_lt.mp hlt
            have hblock := hblocks missing (.head _)
            rcases List.mem_cons.mp hsum with rfl | hsum
            · show missing.offset.toNat + filled.toNat < 2 ^ 32
              omega
            · split at hsum
              · rename_i chunk htakes
                have hroom := htotal chunk htakes
                rcases List.mem_cons.mp hsum with rfl | hsum
                · rw [← hbytes] at hroom
                  exact hroom
                · rw [List.mem_singleton.mp hsum]
                  exact Nat.lt_of_le_of_lt (Nat.add_le_add_right hfilled _) hroom
              · cases hsum
          · cases hsum
  | _ => exact fun _ hsum => (List.not_mem_nil hsum).elim

end Steps

/-! ## 4. The sums of a download -/

section Runs

variable {r : ReadCall} {w : World}

theorem total_none {s s' : ReadState} {u : Unit} (h : r.step s u = some s')
    (htakes : r.takes s.point s.world = none) : s'.total = s.total := by
  rw [ReadState.total, (step_some.mp h).2, htakes, Option.toList_none, List.append_nil,
    ReadState.total]

theorem total_some {s s' : ReadState} {u : Unit} {chunk : Chunk} (h : r.step s u = some s')
    (htakes : r.takes s.point s.world = some chunk) : s'.total = s.total + chunk.size := by
  rw [ReadState.total, (step_some.mp h).2, htakes, Option.toList_some, List.map_append,
    List.sum_append, ReadState.total, List.map_singleton, List.sum_singleton]

/-- **The counters are right at every point**, while no counted byte is one too many. -/
theorem counted_visited (hfit : ∀ s, r.Visited w s → s.point.Counted s.total →
      ∀ chunk, r.takes s.point s.world = some chunk → s.total + chunk.size < 2 ^ 32)
    {s : ReadState} (hs : r.Visited w s) : s.point.Counted s.total ∧ s.total < 2 ^ 32 := by
  induction hs with
  | start => exact ⟨rfl, Nat.two_pow_pos 32⟩
  | next s s' a hs _ hstep ih =>
      obtain ⟨hcounted, hlt⟩ := ih
      have hgoes := goes_of_advance (step_some.mp hstep).1
      cases htakes : r.takes s.point s.world with
      | none =>
          rw [htakes] at hgoes
          rw [total_none hstep htakes]
          exact ⟨counted_none hcounted hgoes, hlt⟩
      | some chunk =>
          rw [htakes] at hgoes
          rw [total_some hstep htakes]
          have hroom := hfit s hs hcounted chunk htakes
          exact ⟨counted_some hcounted hroom hgoes, hroom⟩

/-- **Every sum of a download fits exactly when** no FTP payload of the target arrives while a
    request numbered 65535 waits, every packet of the burst that is taken ends below 2^32, and fewer
    than 2^32 bytes are copied. The sums of the blocks (`missing.offset + filled` and
    `filled += chunk_size`) ask for nothing else. -/
theorem fits_iff (r : ReadCall) (w : World) : NoOverflow r w ↔ Moderate r w := by
  constructor
  · intro h
    refine ⟨fun s hs => ?_, fun s hs session state retries hp chunk htakes => ?_, fun s hs => ?_⟩
    · exact seqSums_fit.mp fun sum hsum => h s hs sum (List.mem_append_left _ hsum)
    · refine h s hs ⟨32, chunk.offset, chunk.size⟩ (List.mem_append_right _ ?_)
      rw [htakes, hp]
      exact .head _
    · refine (counted_visited (fun s hs hcounted chunk htakes => ?_) hs).2
      exact h s hs _ (total_mem_sums hcounted htakes)
  · intro h s hs sum hsum
    have hfit : ∀ s, r.Visited w s → ∀ chunk, r.takes s.point s.world = some chunk →
        s.total + chunk.size < 2 ^ 32 := by
      intro s hs chunk htakes
      obtain ⟨p', w', hadvance⟩ := advance_of_takes htakes
      have hstep : r.step s () = some ⟨p', w', _⟩ := step_some.mpr ⟨hadvance, rfl⟩
      rw [← total_some hstep htakes]
      exact h.total _ (.next s _ () hs trivial hstep)
    have hcounted := (counted_visited (fun s hs _ => hfit s hs) hs).1
    rcases List.mem_append.mp hsum with hsum | hsum
    · exact seqSums_fit.mpr (h.number s hs) sum hsum
    · exact sizeSums_fit hcounted (h.ends s hs) (hfit s hs) sum hsum

end Runs

section Examples

/-- A download with a gap, begun with the number 65532: the ReadFile that repairs it is numbered
    65535. -/
def lastNumberRun : World where
  seqNumber := 65532
  hubAnswers := []
  inbox := [serverAck 65533 .resetSessions 0 0 [], serverAck 65534 .openFileRO 1 0 [3, 0, 0, 0],
    serverAck 65535 .burstReadFile 1 0 [7], serverAck 1 .burstReadFile 1 2 [9],
    serverNak 2 .burstReadFile 1 3 6, serverAck 0 .readFile 1 1 [8],
    serverAck 1 .terminateSession 1 0 []].map (packet vehicle)
  trace := []

/-- **A sum that does not fit**: `seq + 1` for the reply to that ReadFile. -/
theorem noOverflow_lastNumber : ¬ NoOverflow ⟨vehicle, [97], false, none⟩ lastNumberRun := by
  intro h
  obtain ⟨s, hs, hsum⟩ : ∃ s, ReadCall.Visited ⟨vehicle, [97], false, none⟩ lastNumberRun s ∧
      (⟨16, 65535, 1⟩ : Addition) ∈ ReadCall.sums ⟨vehicle, [97], false, none⟩ s.point s.world :=
    exists_of_execC (List.replicate 7 ()) (by decide +kernel)
  exact absurd (h s hs _ hsum) (by decide)

end Examples

end MavlinkServer.Ftp
