/-
  File:      MavlinkServer/Ftp/Termination.lean
  Subject:   WHEN THE BURST PHASE TERMINATES (`burst_read_file_inner`,
             `run_burst_cycle`, `recv_ftp`).

  A timeout counts towards the retries, a failed wait does not: on a closed
  channel every wait fails at once, and `run_burst_cycle` only warns of it.

  * `stops`, `sendAndReceive_ends` -- a request is over behind five waits that
    end without a message;
  * `ReadCall.untilRepair` -- what is left of the burst at a point, and what the
    next event does to it;
  * `burstEnds` -- the replies that end a burst by themselves;
  * `Aftermath` -- the receiver falls silent, or reports the channel closed;
  * `burst_terminates_iff` -- when the burst phase ends.
-/
import MavlinkServer.Ftp.ReadSteps

namespace MavlinkServer.Ftp

open Lib Await

/-! ## 1. Requests end -/

/-- Whether a wait ends with this event whatever it waits for. -/
def HubEvent.stops : HubEvent → Bool
  | .closed | .elapsed => true
  | .message _ | .lagged _ => false

/-- How many waits the events end at least. -/
def stops (events : List HubEvent) : Nat := events.countP HubEvent.stops

section Requests

variable {t : Target} {w : World}

@[simp] theorem stops_message (m : Protocol) (events : List HubEvent) :
    stops (.message m :: events) = stops events := List.countP_cons_of_neg Bool.false_ne_true

@[simp] theorem stops_lagged (count : UInt64) (events : List HubEvent) :
    stops (.lagged count :: events) = stops events := List.countP_cons_of_neg Bool.false_ne_true

theorem recvFtp_stops {e : Option UInt16} {events : List HubEvent} (h : 0 < stops events) :
    ∃ r rest, recvFtp t e events = some (r, rest) ∧ stops events ≤ stops rest + 1 := by
  induction events with
  | nil => exact absurd h (Nat.lt_irrefl 0)
  | cons event events ih =>
      cases event with
      | elapsed => exact ⟨.elapsed, events, rfl, Nat.le_of_eq (List.countP_cons_of_pos rfl)⟩
      | closed =>
          exact ⟨.failed .channelClosed, events, rfl, Nat.le_of_eq (List.countP_cons_of_pos rfl)⟩
      | lagged count =>
          rw [stops_lagged] at h ⊢
          exact ih h
      | message m =>
          rw [stops_message] at h ⊢
          simp only [recvFtp]
          cases examine t e m with
          | skip => exact ih h
          | failed error => exact ⟨_, _, rfl, Nat.le_succ _⟩
          | reply resp => exact ⟨_, _, rfl, Nat.le_succ _⟩

theorem sendAndReceiveLoop_ends (payload : FtpPayload) :
    ∀ (attempts : Nat) (lastError : FtpFailure) (w : World), attempts ≤ stops w.inbox →
      Ends (sendAndReceiveLoop t payload attempts lastError) w
  | 0, lastError, _, _ => Ends.fail lastError
  | attempts + 1, lastError, w, h => by
      obtain ⟨r, rest, hr, hrest⟩ := recvFtp_stops (t := t) (e := some payload.seqNumber)
        (Nat.lt_of_lt_of_le (Nat.succ_pos attempts) h)
      have hleft : attempts ≤ stops rest := by omega
      cases r with
      | reply resp => exact Ends.of_ok (sendAndReceiveLoop_reply hr)
      | failed error =>
          exact (Ends.congr (sendAndReceiveLoop_failed hr)).mpr
            (sendAndReceiveLoop_ends payload attempts error _ hleft)
      | elapsed =>
          exact (Ends.congr (sendAndReceiveLoop_elapsed hr)).mpr
            (sendAndReceiveLoop_ends payload attempts .timedOut _ hleft)

/-- **A request is over behind five waits without a message.** -/
theorem sendAndReceive_ends (payload : FtpPayload) (h : ftpMaxRetries ≤ stops w.inbox) :
    Ends (sendAndReceive t payload) w := by
  cases hs : subscribe w with
  | mk o w1 =>
      have hin : w1.inbox = w.inbox := by
        unfold subscribe at hs
        split at hs <;> cases hs <;> rfl
      cases o with
      | ok u =>
          refine (Ends.congr (bind_of_ok hs)).mpr ?_
          exact sendAndReceiveLoop_ends payload _ _ w1 (by rw [hin]; exact h)
      | err error => exact Ends.of_err (by rw [sendAndReceive, bind_apply, hs])
      | waiting =>
          unfold subscribe at hs
          split at hs <;> cases hs

theorem checked_ends (resp : FtpPayload) : Ends (checked resp) w := by
  unfold checked
  split
  · exact Ends.pure ()
  · exact Ends.fail _

theorem terminateSessionBestEffort_ends (session : UInt8) (h : ftpMaxRetries ≤ stops w.inbox) :
    Ends (terminateSessionBestEffort t session) w := by
  refine Ends.bind (Ends.attempt ?_) fun _ _ _ => Ends.pure ()
  refine Ends.bind (Ends.of_ok rfl) fun req w1 hreq => ?_
  have hin : w1.inbox = w.inbox := by
    cases hreq
    rfl
  exact Ends.bind (sendAndReceive_ends _ (by rw [hin]; exact h)) fun resp _ _ => checked_ends resp

end Requests

/-! ## 2. The burst, event by event -/

/-- What is left of the burst phase at its points, its end included. -/
def ReadCall.untilRepair (r : ReadCall) : ReadPoint → Client BurstReadState
  | .cycle session state retries => fun w =>
      burstPhase r.target session r.progress (w.inbox.length + 1) state retries w
  | .burst session state retries => fun w =>
      (burstLoop r.target session r.progress (w.inbox.length + 1) state retries >>= fun ends =>
        match ends with
        | (.continue, state', retries') => fun w =>
            burstPhase r.target session r.progress (w.inbox.length + 1) state' retries' w
        | (.eof, state', _) => pure state') w
  | .closing session error => do
      terminateSessionBestEffort r.target session
      fail error
  | .repair _ _ _ state => pure state
  | .reset | .openFile | .opened _ _ | .finish _ _ | .done _ => stuck

section Burst

variable {r : ReadCall} {session : UInt8} {state : BurstReadState} {retries : Nat} {w : World}
  {rest : List HubEvent} {resp : FtpPayload}

theorem untilRepair_burst (w : World) : r.untilRepair (.burst session state retries) w =
    (r.advance (.burst session state retries) >>= r.untilRepair) w := by
  refine ReadCall.burst_step (fun state retries w => bind_congr_at fun ends w1 _ => ?_)
    (fun _ => rfl) w
  obtain ⟨outcome, state', retries'⟩ := ends
  cases outcome <;> rfl

/-- A request, and the burst goes on in front of a wait. -/
theorem untilRepair_cycle (r : ReadCall) (session : UInt8) (state : BurstReadState) (retries : Nat)
    (w : World) : ∃ w1, w1.inbox = w.inbox ∧
    r.untilRepair (.cycle session state retries) w =
      r.untilRepair (.burst session state retries) w1 :=
  ⟨(r.advance (.cycle session state retries) w).2, rfl, ReadCall.burstPhase_round w⟩

/-- The burst ends as it does behind the next step. -/
theorem ends_step {p : ReadPoint} {w' : World}
    (h : r.advance (.burst session state retries) w = (.ok p, w')) :
    Ends (r.untilRepair (.burst session state retries)) w ↔ Ends (r.untilRepair p) w' :=
  Ends.congr ((untilRepair_burst w).trans (bind_of_ok h))

/-- A request reads nothing: the burst ends as it does in front of the next wait. -/
theorem ends_cycle (r : ReadCall) (session : UInt8) (state : BurstReadState) (retries : Nat)
    (w : World) : ∃ w1, w1.inbox = w.inbox ∧
    (Ends (r.untilRepair (.cycle session state retries)) w ↔
      Ends (r.untilRepair (.burst session state retries)) w1) := by
  obtain ⟨w1, hw1, heq⟩ := untilRepair_cycle r session state retries w
  exact ⟨w1, hw1, Ends.congr heq⟩

/-- An event that no wait looks at. -/
theorem ends_passed (h : recvFtp r.target none w.inbox = recvFtp r.target none rest) :
    Ends (r.untilRepair (.burst session state retries)) w ↔
      Ends (r.untilRepair (.burst session state retries)) { w with inbox := rest } := by
  have hawait : awaitFtp r.target none w = awaitFtp r.target none { w with inbox := rest } := by
    simp only [awaitFtp, h]
  have hadvance : r.advance (.burst session state retries) w =
      r.advance (.burst session state retries) { w with inbox := rest } := by
    have hwait : r.advance (.burst session state retries) =
        awaitFtp r.target none >>= r.takeBurst session state retries := rfl
    rw [hwait, bind_apply, bind_apply, hawait]
  refine Ends.congr ?_
  rw [untilRepair_burst, untilRepair_burst, bind_apply, bind_apply, hadvance]

/-- One wait, by what it comes to. -/
theorem advance_burst (session : UInt8) (state : BurstReadState) (retries : Nat)
    {received : Received} (h : recvFtp r.target none w.inbox = some (received, rest)) :
    r.advance (.burst session state retries) w =
      r.takeBurst session state retries received { w with inbox := rest } :=
  bind_of_ok (awaitFtp_ok.mpr ⟨rest, h, rfl⟩)

/-- A failed wait is only warned of. -/
theorem ends_failed {error : FtpFailure}
    (h : recvFtp r.target none w.inbox = some (.failed error, rest)) :
    Ends (r.untilRepair (.burst session state retries)) w ↔
      Ends (r.untilRepair (.burst session state retries)) { w with inbox := rest } :=
  ends_step (advance_burst session state retries h)

theorem ends_closing (error : FtpFailure) (h : ftpMaxRetries ≤ stops w.inbox) :
    Ends (r.untilRepair (.closing session error)) w :=
  Ends.bind (terminateSessionBestEffort_ends session h) fun _ _ _ => Ends.fail error

end Burst

/-! ## 3. The replies that end a burst -/

/-- The frontier behind a reply, none where the reply ends the burst: a Nak, or a packet that is
    taken and carries fewer bytes than it declares. -/
def frontierBehind (contiguousEnd : UInt32) (resp : FtpPayload) : Option UInt32 :=
  if resp.opcode = .nak then none
  else if isBurstAck resp = false ∨ resp.size = 0 ∨ resp.offset < contiguousEnd then
    some contiguousEnd
  else if resp.data.length < resp.size.toNat then none
  else some (resp.offset + resp.size.toUInt32)

/-- **One of the replies ends the burst.** -/
def burstEnds : UInt32 → List FtpPayload → Bool
  | _, [] => false
  | contiguousEnd, resp :: rest =>
      match frontierBehind contiguousEnd resp with
      | none => true
      | some contiguousEnd' => burstEnds contiguousEnd' rest

section Replies

variable (r : ReadCall) (session : UInt8) (state : BurstReadState) (retries : Nat) (w : World)
  {rest : List HubEvent} {resp : FtpPayload}

/-- A Nak leads out of the burst. -/
theorem takeBurst_nak (h : resp.opcode = .nak) : ∃ p w',
    r.takeBurst session state retries (.reply resp) w = (.ok p, w') ∧ w'.inbox = w.inbox ∧
      (p = .repair session state.missingBlocks 0 state ∨ ∃ error, p = .closing session error) := by
  cases hnak : checkNak resp with
  | ok u => exact absurd h (checkNak_ok.mp hnak)
  | error nak =>
      simp only [ReadCall.takeBurst, hnak]
      by_cases heof : nak.errCode = .eof
      · simp only [heof, if_true]
        exact ⟨_, _, rfl, rfl, Or.inl rfl⟩
      · simp only [heof, if_false]
        exact ⟨_, _, rfl, rfl, Or.inr ⟨_, rfl⟩⟩

theorem takeBurst_other (hnak : resp.opcode ≠ .nak)
    (h : isBurstAck resp = false ∨ resp.size = 0 ∨ resp.offset < state.contiguousEnd) :
    r.takeBurst session state retries (.reply resp) w =
      (.ok (.burst session state retries), w) := by
  simp only [ReadCall.takeBurst, checkNak_ok.mpr hnak]
  by_cases hack : isBurstAck resp = true
  · have hskip := h.resolve_left (by simp [hack])
    have happly : applyBurstChunk state resp r.progress w = (.ok none, w) := by
      simp only [applyBurstChunk, extendContiguous_skips hskip]
      rfl
    rw [if_neg fun hother => not_isBurstAck.mpr hother hack]
    exact bind_of_ok happly
  · rw [if_pos (not_isBurstAck.mp hack)]
    rfl

/-- A packet that declares more than it carries ends the read. -/
theorem takeBurst_short (hnak : resp.opcode ≠ .nak)
    (hskip : ¬ (isBurstAck resp = false ∨ resp.size = 0 ∨ resp.offset < state.contiguousEnd))
    (h : resp.data.length < resp.size.toNat) : ∃ error w',
      r.takeBurst session state retries (.reply resp) w = (.err error, w') := by
  rw [not_or, Bool.not_eq_false] at hskip
  obtain ⟨error, herror⟩ := extendContiguous_short hskip.2 h
  refine ⟨error, w, ?_⟩
  simp only [ReadCall.takeBurst, checkNak_ok.mpr hnak]
  rw [if_neg fun hother => not_isBurstAck.mpr hother hskip.1, bind_apply]
  simp only [applyBurstChunk, herror]
  rfl

theorem takeBurst_taken (hnak : resp.opcode ≠ .nak)
    (hskip : ¬ (isBurstAck resp = false ∨ resp.size = 0 ∨ resp.offset < state.contiguousEnd))
    (h : ¬ resp.data.length < resp.size.toNat) : ∃ state' p w',
      r.takeBurst session state retries (.reply resp) w = (.ok p, w') ∧ w'.inbox = w.inbox ∧
      state'.contiguousEnd = resp.offset + resp.size.toUInt32 ∧
      (p = .cycle session state' 0 ∨ p = .burst session state' 0) := by
  rw [not_or, Bool.not_eq_false] at hskip
  obtain ⟨state', htaken, hend, _⟩ := extendContiguous_takes hskip.2 h
  have happly : ∃ w', applyBurstChunk state resp r.progress w = (.ok (some state'), w') ∧
      w'.inbox = w.inbox := by
    unfold applyBurstChunk
    rw [htaken]
    cases r.progress with
    | true => exact ⟨_, rfl, rfl⟩
    | false => exact ⟨_, rfl, rfl⟩
  obtain ⟨w', happly, hin⟩ := happly
  simp only [ReadCall.takeBurst, checkNak_ok.mpr hnak]
  rw [if_neg fun hother => not_isBurstAck.mpr hother hskip.1, bind_of_ok happly]
  by_cases hcomplete : resp.burstComplete = 1
  · simp only [hcomplete, if_true]
    exact ⟨{ state' with totalPackets := state'.totalPackets + 1 }, _, _, rfl, hin, hend,
      Or.inl rfl⟩
  · simp only [hcomplete, if_false]
    exact ⟨{ state' with totalPackets := state'.totalPackets + 1 }, _, _, rfl, hin, hend,
      Or.inr rfl⟩

variable {r session state retries w}

theorem ends_reply (h : recvFtp r.target none w.inbox = some (.reply resp, rest))
    (hstops : ftpMaxRetries ≤ stops rest)
    (hfrontier : frontierBehind state.contiguousEnd resp = none) :
    Ends (r.untilRepair (.burst session state retries)) w := by
  have hadvance := advance_burst session state retries h
  unfold frontierBehind at hfrontier
  by_cases hnak : resp.opcode = .nak
  · obtain ⟨p, w', htake, hin, hp⟩ := takeBurst_nak r session state retries
      { w with inbox := rest } hnak
    refine (ends_step (hadvance.trans htake)).mpr ?_
    rcases hp with rfl | ⟨error, rfl⟩
    · exact Ends.pure state
    · exact ends_closing error (by rw [hin]; exact hstops)
  · rw [if_neg hnak] at hfrontier
    split at hfrontier
    · cases hfrontier
    · rename_i hskip
      split at hfrontier
      · rename_i hshort
        obtain ⟨error, w', htake⟩ := takeBurst_short r session state
          retries { w with inbox := rest } hnak hskip hshort
        have herr : r.untilRepair (.burst session state retries) w = (.err error, w') := by
          rw [untilRepair_burst, bind_apply, hadvance.trans htake]
        exact Ends.of_err herr
      · cases hfrontier

theorem ends_goes (session : UInt8) (retries : Nat) {contiguousEnd : UInt32}
    (h : recvFtp r.target none w.inbox = some (.reply resp, rest))
    (hfrontier : frontierBehind state.contiguousEnd resp = some contiguousEnd) :
    ∃ state' retries' w', state'.contiguousEnd = contiguousEnd ∧ w'.inbox = rest ∧
      (Ends (r.untilRepair (.burst session state retries)) w ↔
        Ends (r.untilRepair (.burst session state' retries')) w') := by
  have hadvance := advance_burst session state retries h
  unfold frontierBehind at hfrontier
  by_cases hnak : resp.opcode = .nak
  · rw [if_pos hnak] at hfrontier
    cases hfrontier
  · rw [if_neg hnak] at hfrontier
    split at hfrontier
    · rename_i hskip
      cases hfrontier
      exact ⟨state, retries, { w with inbox := rest }, rfl, rfl,
        ends_step (hadvance.trans (takeBurst_other r session state retries _ hnak hskip))⟩
    · rename_i hskip
      split at hfrontier
      · cases hfrontier
      · rename_i hlength
        cases hfrontier
        obtain ⟨state', p, w', htake, hin, hend, hp⟩ := takeBurst_taken r session
          state retries { w with inbox := rest } hnak hskip hlength
        have hstep := ends_step (hadvance.trans htake)
        rcases hp with rfl | rfl
        · obtain ⟨w1, hw1, hcycle⟩ := ends_cycle r session state' 0 w'
          exact ⟨state', 0, w1, hend, hw1.trans hin, hstep.trans hcycle⟩
        · exact ⟨state', 0, w', hend, hin, hstep⟩

end Replies

/-! ## 4. Messages, and what comes behind them -/

section Events

variable {r : ReadCall} {session : UInt8} {events tail : List HubEvent}

theorem replies_lagged (t : Target) (count : UInt64) :
    replies t (.lagged count :: events) = replies t events := rfl

theorem replies_reply {t : Target} {m : Protocol} {resp : FtpPayload}
    (h : examine t none m = .reply resp) :
    replies t (.message m :: events) = resp :: replies t events := by
  simp only [replies, List.filterMap_cons, h]

theorem replies_other {t : Target} {m : Protocol} (h : ∀ resp, examine t none m ≠ .reply resp) :
    replies t (.message m :: events) = replies t events := by
  cases hex : examine t none m with
  | reply resp => exact absurd hex (h resp)
  | skip => simp only [replies, List.filterMap_cons, hex]
  | failed error => simp only [replies, List.filterMap_cons, hex]

/-- The burst ends with one of the replies among the events, or goes on as from what comes behind
    them. -/
structure Settles (r : ReadCall) (session : UInt8) (events tail : List HubEvent)
    (state : BurstReadState) (retries : Nat) (w : World) : Prop where
  ends : burstEnds state.contiguousEnd (replies r.target events) = true →
    Ends (r.untilRepair (.burst session state retries)) w
  goesOn : burstEnds state.contiguousEnd (replies r.target events) = false →
    ∃ state' retries' w', w'.inbox = tail ∧
      (Ends (r.untilRepair (.burst session state retries)) w ↔
        Ends (r.untilRepair (.burst session state' retries')) w')

/-- One more event, behind which the burst goes on from another state. -/
theorem Settles.cons {event : HubEvent} {state state' : BurstReadState} {retries retries' : Nat}
    {w w' : World} (h : Settles r session events tail state' retries' w')
    (hends : Ends (r.untilRepair (.burst session state retries)) w ↔
      Ends (r.untilRepair (.burst session state' retries')) w')
    (hburst : burstEnds state.contiguousEnd (replies r.target (event :: events)) =
      burstEnds state'.contiguousEnd (replies r.target events)) :
    Settles r session (event :: events) tail state retries w := by
  refine ⟨fun hover => hends.mpr (h.ends (hburst ▸ hover)), fun hgoes => ?_⟩
  obtain ⟨state'', retries'', w'', hw'', hends'⟩ := h.goesOn (hburst ▸ hgoes)
  exact ⟨state'', retries'', w'', hw'', hends.trans hends'⟩

/-- **Messages and lags settle a burst**, whatever they are. -/
theorem settles_heard (htail : ftpMaxRetries ≤ stops tail)
    (hevents : ∀ event ∈ events, event.stops = false) (state : BurstReadState) (retries : Nat)
    (w : World) (hw : w.inbox = events ++ tail) :
    Settles r session events tail state retries w := by
  induction events generalizing state retries w with
  | nil => exact ⟨fun h => absurd h Bool.false_ne_true, fun _ => ⟨state, retries, w, hw, Iff.rfl⟩⟩
  | cons event events ih =>
      have hbehind := ih fun e he => hevents e (List.mem_cons_of_mem event he)
      cases event with
      | closed => exact absurd (hevents _ (List.mem_cons_self ..)) (by decide)
      | elapsed => exact absurd (hevents _ (List.mem_cons_self ..)) (by decide)
      | lagged count =>
          refine (hbehind state retries { w with inbox := events ++ tail } rfl).cons
            (ends_passed ?_) (by rw [replies_lagged])
          rw [hw]
          rfl
      | message m =>
          have hrecv : recvFtp r.target none w.inbox =
              recvFtp r.target none (.message m :: (events ++ tail)) := by
            rw [hw]
            rfl
          cases hex : examine r.target none m with
          | skip =>
              refine (hbehind state retries { w with inbox := events ++ tail } rfl).cons
                (ends_passed ?_) ?_
              · rw [hrecv, recvFtp, hex]
              · rw [replies_other (fun resp h => by rw [hex] at h; cases h)]
          | failed error =>
              have hfailed : recvFtp r.target none w.inbox =
                  some (.failed error, events ++ tail) := by
                rw [hrecv, recvFtp, hex]
              refine (hbehind state retries { w with inbox := events ++ tail } rfl).cons
                (ends_failed hfailed) ?_
              · rw [replies_other (fun resp h => by rw [hex] at h; cases h)]
          | reply resp =>
              have hreply : recvFtp r.target none w.inbox = some (.reply resp, events ++ tail) := by
                rw [hrecv, recvFtp, hex]
              cases hfrontier : frontierBehind state.contiguousEnd resp with
              | none =>
                  have hburst : burstEnds state.contiguousEnd
                      (replies r.target (.message m :: events)) = true := by
                    rw [replies_reply hex, burstEnds, hfrontier]
                  have hstops : ftpMaxRetries ≤ stops (events ++ tail) := by
                    simp only [stops, List.countP_append]
                    exact Nat.le_trans htail (Nat.le_add_left _ _)
                  exact ⟨fun _ => ends_reply hreply hstops hfrontier,
                    fun h => absurd (hburst.symm.trans h) (by decide)⟩
              | some contiguousEnd =>
                  obtain ⟨state', retries', w', hend, hw', hends⟩ :=
                    ends_goes session retries hreply hfrontier
                  refine (hbehind state' retries' w' hw').cons hends ?_
                  rw [replies_reply hex, burstEnds, hfrontier, hend]

/-- **Behind the last message every wait times out**: six waits and the five of
    `terminate_session` are enough. -/
theorem ends_silent : ∀ (n retries : Nat) (state : BurstReadState) (w : World),
    w.inbox = List.replicate n .elapsed → 6 ≤ n → 11 ≤ n + retries →
      Ends (r.untilRepair (.burst session state retries)) w
  | 0, _, _, _, _, hn, _ => absurd hn (by decide)
  | n + 1, retries, state, w, hw, hn, hleft => by
      have hrecv : recvFtp r.target none w.inbox = some (.elapsed, List.replicate n .elapsed) := by
        rw [hw, List.replicate_succ]
        rfl
      have hadvance := advance_burst session state retries hrecv
      simp only [ReadCall.takeBurst] at hadvance
      by_cases hmax : retries + 1 > ftpMaxRetries
      · rw [if_pos hmax] at hadvance
        refine (ends_step hadvance).mpr (ends_closing .timedOut ?_)
        have hstops : stops (List.replicate n .elapsed) = n := by
          simp [stops, List.countP_replicate, HubEvent.stops]
        simp only [hstops, ftpMaxRetries]
        omega
      · rw [if_neg hmax] at hadvance
        obtain ⟨w1, hw1, hcycle⟩ := ends_cycle r session state (retries + 1)
          { w with inbox := List.replicate n .elapsed }
        simp only [ftpMaxRetries] at hmax
        exact (ends_step hadvance).mpr
          (hcycle.mpr (ends_silent n (retries + 1) state w1 hw1 (by omega) (by omega)))

/-- **On a closed channel the burst goes on for ever.** -/
theorem not_ends_closed : ∀ (n retries : Nat) (state : BurstReadState) (w : World),
    w.inbox = List.replicate n .closed →
      ¬ Ends (r.untilRepair (.burst session state retries)) w
  | 0, retries, state, w, hw => by
      intro hends
      refine hends ?_
      have hrecv : recvFtp r.target none w.inbox = none := by
        rw [hw]
        rfl
      have hadvance : r.advance (.burst session state retries) w =
          (.waiting, { w with inbox := [] }) := bind_of_waiting (awaitFtp_waiting hrecv)
      rw [untilRepair_burst, bind_of_waiting hadvance]
  | n + 1, retries, state, w, hw => by
      have hrecv : recvFtp r.target none w.inbox =
          some (.failed .channelClosed, List.replicate n .closed) := by
        rw [hw, List.replicate_succ]
        rfl
      rw [ends_failed hrecv]
      exact not_ends_closed n retries state _ rfl

end Events

/-! ## 5. Behind the last message -/

/-- What the receiver does behind the last message, for ever. -/
inductive Aftermath where
  | silent
  | closed
  deriving DecidableEq, Repr

def Aftermath.event : Aftermath → HubEvent
  | .silent => .elapsed
  | .closed => .closed

/-- **The burst phase terminates**: so many waits of the aftermath are enough, and so are more. -/
def BurstTerminates (t : Target) (session : UInt8) (progress : Bool) (state : BurstReadState)
    (retries : Nat) (w : World) (events : List HubEvent) (a : Aftermath) : Prop :=
  ∃ n, ∀ m ≥ n,
    let world := { w with inbox := events ++ List.replicate m a.event }
    (burstPhase t session progress (world.inbox.length + 1) state retries world).1 ≠ .waiting

/-- **The burst terminates on a silent channel; on a closed one exactly when the messages before
    end it.** -/
theorem burst_terminates_iff (t : Target) (session : UInt8) (progress : Bool)
    (state : BurstReadState) (retries : Nat) (w : World) (events : List HubEvent)
    (hevents : ∀ event ∈ events, event.stops = false) (a : Aftermath) :
    BurstTerminates t session progress state retries w events a ↔
      a = .silent ∨ burstEnds state.contiguousEnd (replies t events) = true := by
  have hsettles : ∀ m, ftpMaxRetries ≤ m → ∃ w1 : World,
      (Ends ((ReadCall.mk t [] progress none).untilRepair (.cycle session state retries))
          { w with inbox := events ++ List.replicate m a.event } ↔
        Ends ((ReadCall.mk t [] progress none).untilRepair (.burst session state retries)) w1) ∧
      Settles ⟨t, [], progress, none⟩ session events (List.replicate m a.event) state retries
        w1 := by
    intro m hm
    have hstops : ftpMaxRetries ≤ stops (List.replicate m a.event) := by
      cases a <;> simpa [stops, List.countP_replicate, Aftermath.event, HubEvent.stops] using hm
    obtain ⟨w1, hw1, hcycle⟩ := ends_cycle ⟨t, [], progress, none⟩ session state retries
      { w with inbox := events ++ List.replicate m a.event }
    exact ⟨w1, hcycle, settles_heard hstops hevents state retries w1 hw1⟩
  constructor
  · rintro ⟨n, hn⟩
    obtain ⟨w1, hcycle, hsettled⟩ := hsettles (max n ftpMaxRetries) (Nat.le_max_right _ _)
    have hends := hcycle.mp (hn _ (Nat.le_max_left _ _))
    cases a with
    | silent => exact Or.inl rfl
    | closed =>
        refine Or.inr ((Bool.eq_false_or_eq_true _).resolve_right fun hgoes => ?_)
        obtain ⟨state', retries', w', hw', hiff⟩ := hsettled.goesOn hgoes
        exact not_ends_closed _ retries' state' w' hw' (hiff.mp hends)
  · intro h
    refine ⟨11, fun m hm => ?_⟩
    obtain ⟨w1, hcycle, hsettled⟩ := hsettles m (Nat.le_trans (by decide) hm)
    refine hcycle.mpr ?_
    by_cases hover : burstEnds state.contiguousEnd (replies t events) = true
    · exact hsettled.ends hover
    · obtain ⟨state', retries', w', hw', hiff⟩ := hsettled.goesOn (by simpa using hover)
      obtain rfl := h.resolve_right hover
      exact hiff.mpr (ends_silent m retries' state' w' hw' (by omega) (by omega))

/-- A lag and the Eof before the channel closes. -/
theorem burst_terminates_eof :
    BurstTerminates vehicle 1 false (.new 3) 0 ⟨1, [], [], []⟩
      [.lagged 2, packet vehicle ⟨2, 1, .nak, 1, .burstReadFile, 0, 0, [6]⟩] .closed :=
  (burst_terminates_iff vehicle 1 false (.new 3) 0 ⟨1, [], [], []⟩
    [.lagged 2, packet vehicle ⟨2, 1, .nak, 1, .burstReadFile, 0, 0, [6]⟩] (by decide) .closed).mpr
      (Or.inr (by decide +kernel))

/-- The channel closes behind the request. -/
theorem not_burstTerminates_closed :
    ¬ BurstTerminates vehicle 1 false (.new 3) 0 ⟨1, [], [], []⟩ [] .closed := by
  rintro ⟨n, hn⟩
  obtain ⟨w1, hw1, hcycle⟩ := ends_cycle ⟨vehicle, [], false, none⟩ 1 (.new 3) 0
    ⟨1, [], List.replicate n .closed, []⟩
  exact not_ends_closed n 0 (.new 3) w1 hw1 (hcycle.mp (hn n (Nat.le_refl n)))

end MavlinkServer.Ftp
