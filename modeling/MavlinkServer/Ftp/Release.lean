/-
  File:      MavlinkServer/Ftp/Release.lean
  Subject:   A SESSION THAT WAS OPENED IS RELEASED: behind the reply that
             acknowledged it, an operation that returns has asked the vehicle
             to terminate the session.

  * `Released`, `Releases` -- the statement, on the events of a run;
  * `opening_cases` -- up to the acknowledgement nothing is opened, and behind
    it the operation goes on;
  * `releases_iff` -- an operation releases its session unless it leaks: the
    hub does not answer where the burst subscribes or where the session is
    terminated, or a chunk declares more bytes than it carries;
  * `releases_oversizedChunk` -- a chunk that does.
-/
import MavlinkServer.Ftp.Exits

namespace MavlinkServer.Ftp

open Lib Await

/-! ## 1. Released sessions -/

/-- The session that an event opens: the acknowledgement of OpenFileRO or CreateFile. -/
def sessionOpened : FtpEvent → Option UInt8
  | .accepted req resp =>
      if (req.opcode = .openFileRO ∨ req.opcode = .createFile) ∧ resp.opcode = .ack then
        some resp.session
      else none
  | _ => none

/-- **Released**: behind every acknowledgement stands a TerminateSession of its session. -/
def Released (t : Target) : List FtpEvent → Prop
  | [] => True
  | e :: later =>
      (∀ session ∈ sessionOpened e, later.any (terminates t session) = true) ∧ Released t later

instance (t : Target) : ∀ l, Decidable (Released t l)
  | [] => .isTrue trivial
  | e :: later =>
      have : Decidable (Released t later) := instDecidableReleased t later
      inferInstanceAs (Decidable ((∀ session ∈ sessionOpened e,
        later.any (terminates t session) = true) ∧ Released t later))

/-- **An operation releases its sessions**: when it returns, whatever the result, they are
    released. -/
def Releases {α : Type} (t : Target) (x : Client α) (w : World) : Prop :=
  (x w).1 ≠ .waiting → Released t (eventsOf x w)

instance {α : Type} [DecidableEq α] (t : Target) (x : Client α) (w : World) :
    Decidable (Releases t x w) :=
  inferInstanceAs (Decidable ((x w).1 ≠ .waiting → Released t (eventsOf x w)))

variable {t : Target} {session : UInt8} {α : Type}

theorem released_append {l l' : List FtpEvent} (h : ∀ e ∈ l, sessionOpened e = none) :
    Released t (l ++ l') ↔ Released t l' := by
  induction l with
  | nil => simp
  | cons e l ih =>
      have he := h e List.mem_cons_self
      have hl := ih fun e' he' => h e' (List.mem_cons_of_mem _ he')
      simp [Released, he, hl]

theorem released_of_none {l : List FtpEvent} (h : ∀ e ∈ l, sessionOpened e = none) :
    Released t l := by
  have happend : Released t (l ++ []) ↔ Released t [] := released_append h
  simpa [Released] using happend

/-- A request that opens no session. -/
def OpensNothing (req : FtpPayload) : Prop := req.opcode ≠ .openFileRO ∧ req.opcode ≠ .createFile

theorem opensNothing_of_eq {opcode : FtpOpcode} (h1 : opcode ≠ .openFileRO)
    (h2 : opcode ≠ .createFile) : ∀ req : FtpPayload, req.opcode = opcode → OpensNothing req := by
  rintro req rfl
  exact ⟨h1, h2⟩

/-- What the request layer records of such requests. -/
theorem sessionOpened_asks {e : FtpEvent} (h : Asks OpensNothing e) : sessionOpened e = none := by
  cases e with
  | accepted req resp => simp [sessionOpened, h.1, h.2]
  | _ => rfl

theorem reads_true {Q : FtpPayload → Prop} (e : FtpEvent) (h : Reads Q e) :
    Reads (fun _ => True) e := by
  cases e with
  | sent message =>
      obtain ⟨t', req, heq, _⟩ := h
      exact ⟨t', req, heq, trivial⟩
  | _ => trivial

theorem sessionOpened_reads {e : FtpEvent} (h : Reads OpensNothing e) :
    sessionOpened e = none := by
  cases e with
  | accepted req resp => exact sessionOpened_asks h
  | _ => rfl

/-! ## 2. Up to the acknowledgement -/

/-- An event that opens no session. -/
def Unopened (e : FtpEvent) : Prop := sessionOpened e = none

/-- `w1` comes right behind the acknowledgement `resp` of the first request that opens. -/
structure OpenedBy (w : World) (resp : FtpPayload) (w1 : World) : Prop where
  ack : resp.opcode = .ack
  trace : ∃ events req, w1.trace = w.trace ++ (events ++ [.accepted req resp]) ∧
    (∀ e ∈ events, Unopened e) ∧ (req.opcode = .openFileRO ∨ req.opcode = .createFile)

/-- A request whose reply passes `check_nak`. -/
theorem acknowledged_eq_some (payload : FtpPayload) {resp : FtpPayload} {w : World} {rest : Input}
    (hseq : payload.seqNumber = w.seqNumber) :
    w.input.acknowledged t = some (resp, rest) ↔
      ∃ w1, sendAndReceive t payload { w with seqNumber := w.seqNumber + 1 } = (.ok resp, w1) ∧
        w1.input = rest ∧ resp.opcode ≠ .nak := by
  have hcame := request_came (t := t) hseq
  cases hrun : sendAndReceive t payload { w with seqNumber := w.seqNumber + 1 } with
  | mk o w1 =>
      rw [hrun] at hcame
      unfold Input.acknowledged
      cases hs : w.input.request t with
      | none =>
          rw [hs] at hcame
          obtain rfl : o = .waiting := hcame
          simp
      | some r =>
          obtain ⟨reply, left⟩ := r
          rw [hs] at hcame
          cases reply with
          | none =>
              obtain ⟨⟨error, rfl⟩, _⟩ := hcame
              simp
          | some reply =>
              obtain ⟨rfl, rfl⟩ := hcame
              by_cases hop : reply.opcode = .nak
              · simp only [hop, if_true, reduceCtorEq, false_iff]
                rintro ⟨w2, heq, _, hack⟩
                cases heq
                exact hack hop
              · simp only [hop, if_false]
                constructor
                · intro h
                  cases h
                  exact ⟨w1, rfl, rfl, hop⟩
                · rintro ⟨w2, heq, rfl, _⟩
                  cases heq
                  rfl

/-- What `open_read_session` and `write_file` begin with; `f` goes on behind the
    acknowledgement. -/
def opening (t : Target) (opcode : FtpOpcode) (path : List UInt8) (text text' : String)
    (f : FtpPayload → Client α) : Client α := do
  withContext text (resetSessions t)
  let req ← dataRequest opcode path 0
  let resp ← withContext text' (sendAndReceive t req)
  checked resp
  f resp

theorem openReadSession_eq (path : List UInt8) (maxSize : Option Nat) :
    openReadSession t path maxSize = opening t .openFileRO path
      "ResetSessions failed before OpenFileRO" "OpenFileRO failed" (admitted t maxSize) := rfl

theorem opening_bind {β : Type} {opcode : FtpOpcode} {path : List UInt8} {text text' : String}
    {f : FtpPayload → Client α} {g : α → Client β} :
    opening t opcode path text text' f >>= g =
      opening t opcode path text text' fun resp => f resp >>= g := by
  simp only [opening, bind_assoc]

theorem burstReadFileInner_eq (path : List UInt8) (progress : Bool) (maxSize : Option Nat) :
    burstReadFileInner t path progress maxSize = withTargetLock t
      (opening t .openFileRO path "ResetSessions failed before OpenFileRO" "OpenFileRO failed"
        fun resp => admitted t maxSize resp >>= fun r => readOpened t progress r.1 r.2) := by
  rw [← opening_bind, ← openReadSession_eq]
  rfl

theorem writeFile_eq (path data : List UInt8) :
    writeFile t path data = withTargetLock t
      (opening t .createFile path "ResetSessions failed before CreateFile" "CreateFile failed"
        fun resp => writeOpened t data resp.session) := rfl

/-- What `send_and_receive` records last. -/
def acceptance (payload : FtpPayload) : Outcome FtpFailure FtpPayload → List FtpEvent
  | .ok resp => [.accepted payload resp]
  | _ => []

/-- **What one request records**: its transmissions, and the reply it took. Without a transmission
    there is no reply. -/
theorem sendAndReceiveLoop_events (payload : FtpPayload) :
    ∀ (attempts : Nat) (lastError : FtpFailure) (w : World), ∃ n,
      (sendAndReceiveLoop t payload attempts lastError w).2.trace = w.trace ++
        (List.replicate n (.sent (buildFtpMessage t payload)) ++
          acceptance payload (sendAndReceiveLoop t payload attempts lastError w).1) ∧
      (n = 0 → ∃ error, (sendAndReceiveLoop t payload attempts lastError w).1 = .err error) := by
  intro attempts
  induction attempts with
  | zero =>
      intro lastError w
      exact ⟨0, by simp [sendAndReceiveLoop, fail, acceptance], fun _ => ⟨_, rfl⟩⟩
  | succ attempts ih =>
      intro lastError w
      have again : ∀ (error : FtpFailure) (rest : List HubEvent), ∃ n,
          (sendAndReceiveLoop t payload attempts error (w.sending t payload rest)).2.trace =
            w.trace ++ (List.replicate (n + 1) (.sent (buildFtpMessage t payload)) ++
              acceptance payload
                (sendAndReceiveLoop t payload attempts error (w.sending t payload rest)).1) := by
        intro error rest
        obtain ⟨n, heq, _⟩ := ih error (w.sending t payload rest)
        refine ⟨n, ?_⟩
        rw [heq]
        simp [World.sending, List.replicate_succ]
      cases hr : recvFtp t (some payload.seqNumber) w.inbox with
      | none =>
          rw [sendAndReceiveLoop_waits hr]
          exact ⟨1, rfl, fun h => absurd h Nat.one_ne_zero⟩
      | some p =>
          obtain ⟨r, rest⟩ := p
          cases r with
          | reply resp =>
              rw [sendAndReceiveLoop_reply hr]
              exact ⟨1, by simp [World.sending, acceptance], fun h => absurd h Nat.one_ne_zero⟩
          | failed error =>
              rw [sendAndReceiveLoop_failed hr]
              obtain ⟨n, heq⟩ := again error rest
              exact ⟨n + 1, heq, fun h => absurd h n.succ_ne_zero⟩
          | elapsed =>
              rw [sendAndReceiveLoop_elapsed hr]
              obtain ⟨n, heq⟩ := again .timedOut rest
              exact ⟨n + 1, heq, fun h => absurd h n.succ_ne_zero⟩

theorem sendAndReceive_events (payload : FtpPayload) (w : World) : ∃ n,
    (sendAndReceive t payload w).2.trace = w.trace ++
      (List.replicate n (.sent (buildFtpMessage t payload)) ++
        acceptance payload (sendAndReceive t payload w).1) ∧
    (n = 0 → ∃ error, (sendAndReceive t payload w).1 = .err error) := by
  unfold sendAndReceive
  by_cases ha : w.input.answered = true
  · obtain ⟨w1, hsub, _, htrace⟩ := subscribe_answered ha
    rw [bind_of_ok hsub, ← htrace]
    exact sendAndReceiveLoop_events payload _ _ w1
  · obtain ⟨w1, hsub, _, htrace⟩ := subscribe_unanswered (by simpa using ha)
    rw [bind_apply, hsub]
    exact ⟨0, by simp [htrace, acceptance], fun _ => ⟨_, rfl⟩⟩

/-- Transmissions open nothing. -/
theorem unopened_replicate {n : Nat} {message : MavMessage} :
    ∀ e ∈ List.replicate n (FtpEvent.sent message), Unopened e := by
  intro e he
  rw [List.eq_of_mem_replicate he]
  rfl

/-- A reply that is taken is an Ack or a Nak. -/
theorem sendAndReceive_kind {payload resp : FtpPayload} {w w1 : World}
    (h : sendAndReceive t payload w = (.ok resp, w1)) (hnak : resp.opcode ≠ .nak) :
    resp.opcode = .ack := by
  obtain ⟨_, m, _, hex⟩ := sendAndReceive_ok h
  obtain ⟨_, _, _, _, hexpected⟩ := examine_reply hex
  simp only [expected, Bool.and_eq_true, Bool.or_eq_true, beq_iff_eq] at hexpected
  exact hexpected.2.resolve_right hnak

/-- As long as nothing is acknowledged, nothing is opened. -/
theorem sendAndReceive_unopened {payload : FtpPayload} {w : World}
    (h : ∀ resp w1, sendAndReceive t payload w = (.ok resp, w1) → resp.opcode = .nak) :
    Emitted Unopened w (sendAndReceive t payload w).2 := by
  obtain ⟨n, heq, _⟩ := sendAndReceive_events (t := t) payload w
  refine ⟨⟨_, heq, ?_⟩, (emits_sendAndReceive (P := Asks fun _ => True) trivial w).inbox⟩
  intro e he
  rcases List.mem_append.mp he with he | he
  · exact unopened_replicate e he
  · cases hrun : sendAndReceive t payload w with
    | mk o w1 =>
        rw [hrun] at he
        cases o with
        | ok resp =>
            obtain rfl := List.mem_singleton.mp he
            simp [Unopened, sessionOpened, h resp w1 hrun]
        | err error => cases he
        | waiting => cases he

theorem emits_unopened {x : Client α} (h : Emits (Reads OpensNothing) x) :
    Emits Unopened x := h.imp fun _ => sessionOpened_reads

theorem checked_ok {resp : FtpPayload} {u : Unit} {w w1 : World} :
    checked resp w = (.ok u, w1) ↔ resp.opcode ≠ .nak ∧ w = w1 := by
  unfold checked
  cases hnak : checkNak resp with
  | ok v => simp [checkNak_ok.mp hnak]
  | error nak => simp [checkNak_error hnak]

theorem resetSessions_ok {u : Unit} {w w1 : World} (h : resetSessions t w = (.ok u, w1)) :
    ∃ resp, w.input.acknowledged t = some (resp, w1.input) := by
  obtain ⟨req, w2, hreq, h⟩ := bind_ok.mp h
  cases hreq
  obtain ⟨resp, w3, hsend, h⟩ := bind_ok.mp h
  obtain ⟨hop, rfl⟩ := checked_ok.mp h
  exact ⟨resp, (acknowledged_eq_some _ rfl).mpr ⟨w3, hsend, rfl, hop⟩⟩

theorem resetSessions_of_acknowledged {resp : FtpPayload} {w : World} {rest : Input}
    (h : w.input.acknowledged t = some (resp, rest)) :
    ∃ w1, resetSessions t w = (.ok (), w1) ∧ w1.input = rest := by
  obtain ⟨w1, hsend, hinput, hop⟩ :=
    (acknowledged_eq_some (FtpPayload.newRequest .resetSessions w.seqNumber) rfl).mp h
  refine ⟨w1, ?_, hinput⟩
  have hreq : newRequest .resetSessions w = (.ok (FtpPayload.newRequest .resetSessions w.seqNumber),
      { w with seqNumber := w.seqNumber + 1 }) := rfl
  unfold resetSessions
  rw [bind_of_ok hreq, bind_of_ok hsend]
  exact checked_ok.mpr ⟨hop, rfl⟩

theorem withContext_ok {text : String} {x : Client α} {a : α} {w w1 : World} :
    withContext text x w = (.ok a, w1) ↔ x w = (.ok a, w1) := by
  unfold withContext
  rw [bind_ok]
  constructor
  · rintro ⟨r, w2, hr, h⟩
    cases r with
    | ok b =>
        obtain ⟨rfl, rfl⟩ := pure_ok.mp h
        exact attempt_ok.mp hr
    | error error => exact (fail_ok.mp h).elim
  · exact fun h => ⟨.ok a, w1, attempt_ok.mpr h, rfl⟩

theorem withContext_snd (text : String) (x : Client α) (w : World) :
    (withContext text x w).2 = (x w).2 := by
  have hsnd := attempt_snd x w
  unfold withContext
  rw [bind_apply]
  cases hr : attempt x w with
  | mk o w1 =>
      rw [hr] at hsnd
      rcases o with ⟨_ | _⟩ | _ | _ <;> exact hsnd

/-- **The opening**: it is acknowledged, and the operation goes on, or nothing is opened. -/
theorem opening_cases {opcode : FtpOpcode} (hopcode : opcode = .openFileRO ∨ opcode = .createFile)
    (path : List UInt8) (text text' : String) (f : FtpPayload → Client α) (w : World) :
    (∃ resp w1, w.input.opened t = some (resp, w1.input) ∧ OpenedBy w resp w1 ∧
        opening t opcode path text text' f w = f resp w1) ∨
      (w.input.opened t = none ∧ Emitted Unopened w (opening t opcode path text text' f w).2) := by
  have hreset : Emitted Unopened w (resetSessions t w).2 :=
    emits_unopened (emits_resetSessions (opensNothing_of_eq nofun nofun)) w
  cases ho : w.input.opened t with
  | some r =>
      obtain ⟨resp, rest⟩ := r
      obtain ⟨⟨resp0, i⟩, hack0, hack⟩ := Option.bind_eq_some_iff.mp ho
      obtain ⟨w1, hrun0, hinput0⟩ := resetSessions_of_acknowledged hack0
      have hack : w1.input.acknowledged t = some (resp, rest) := by rw [hinput0]; exact hack
      obtain ⟨w2, hsend, hinput, hop⟩ := (acknowledged_eq_some
        (pathRequest opcode path 0 w1.seqNumber) rfl).mp hack
      have hreq : dataRequest opcode path 0 w1 = (.ok (pathRequest opcode path 0 w1.seqNumber),
          { w1 with seqNumber := w1.seqNumber + 1 }) := rfl
      refine .inl ⟨resp, w2, by rw [hinput], ⟨sendAndReceive_kind hsend hop, ?_⟩, ?_⟩
      · rw [hrun0] at hreset
        obtain ⟨events0, heq0, hevents0⟩ := hreset.trace
        obtain ⟨n, heq, _⟩ := sendAndReceive_events (t := t)
          (pathRequest opcode path 0 w1.seqNumber) { w1 with seqNumber := w1.seqNumber + 1 }
        rw [hsend] at heq
        refine ⟨events0 ++ List.replicate n (.sent (buildFtpMessage t
          (pathRequest opcode path 0 w1.seqNumber))), pathRequest opcode path 0 w1.seqNumber, ?_, ?_,
          hopcode⟩
        · simp only [acceptance] at heq
          rw [heq, heq0]
          simp
        · intro e he
          rcases List.mem_append.mp he with he | he
          · exact hevents0 e he
          · exact unopened_replicate e he
      · unfold opening
        have hcheck : checked resp w2 = (.ok (), w2) := checked_ok.mpr ⟨hop, rfl⟩
        rw [bind_of_ok (withContext_ok.mpr hrun0), bind_of_ok hreq,
          bind_of_ok (withContext_ok.mpr hsend), bind_of_ok hcheck]
  | none =>
      refine .inr ⟨rfl, ?_⟩
      unfold opening
      refine Moves.bind_at (by rw [withContext_snd]; exact hreset) fun _ w1 h0 => ?_
      obtain ⟨resp0, hack0⟩ := resetSessions_ok (withContext_ok.mp h0)
      have hnone : w1.input.acknowledged t = none := by
        rw [Input.opened, hack0] at ho
        exact ho
      -- the reply, if there is one, is a Nak
      have hnak : ∀ resp w2, sendAndReceive t (pathRequest opcode path 0 w1.seqNumber)
          { w1 with seqNumber := w1.seqNumber + 1 } = (.ok resp, w2) → resp.opcode = .nak := by
        intro resp w2 hsend
        by_contra hop
        rw [(acknowledged_eq_some _ rfl).mpr ⟨w2, hsend, rfl, hop⟩] at hnone
        cases hnone
      have hquiet : Emitted Unopened w1 { w1 with seqNumber := w1.seqNumber + 1 } :=
        .quiet rfl (List.suffix_refl _)
      refine Moves.bind_at hquiet fun req w2 hreq => ?_
      cases hreq
      refine Moves.bind_at (by rw [withContext_snd]; exact sendAndReceive_unopened hnak) ?_
      intro resp w3 hsend
      refine Moves.bind_at (emits_checked w3) fun _ w4 hcheck => ?_
      exact absurd (hnak resp w3 (withContext_ok.mp hsend)) (checked_ok.mp hcheck).1

/-! ## 3. Every way out -/

theorem eventsOf_eq {x : Client α} {w : World} {l : List FtpEvent}
    (h : (x w).2.trace = w.trace ++ l) : eventsOf x w = l := by
  rw [eventsOf, h, List.drop_left]

theorem Emitted.releases {x : Client α} {w : World} (h : Emitted Unopened w (x w).2) :
    Releases t x w := by
  obtain ⟨l, heq, hl⟩ := h.trace
  intro _
  rw [eventsOf_eq heq]
  exact released_of_none hl

/-- Behind the acknowledgement, to release is to terminate. -/
theorem releases_of_opened {x y : Client α} {resp : FtpPayload} {w w1 : World}
    (hrun : x w = y w1) (hopen : OpenedBy w resp w1) (hquiet : Emitted Unopened w1 (y w1).2) :
    Releases t x w ↔
      ((y w1).1 ≠ .waiting → Settled World.trace (terminates t resp.session) w1 (y w1).2) := by
  obtain ⟨events, req, htrace, hevents, hreq⟩ := hopen.trace
  obtain ⟨later, heq, hlater⟩ := hquiet.trace
  have hall : eventsOf x w = events ++ (.accepted req resp :: later) :=
    eventsOf_eq (by rw [hrun, heq, htrace]; simp)
  have hsession : sessionOpened (.accepted req resp) = some resp.session := by
    simp [sessionOpened, hreq, hopen.ack]
  have hsettled : Settled World.trace (terminates t resp.session) w1 (y w1).2 ↔
      later.any (terminates t resp.session) = true := by
    constructor
    · rintro ⟨l, hl, hany⟩
      obtain rfl : later = l := List.append_cancel_left (heq.symm.trans hl)
      exact hany
    · exact fun hany => ⟨later, heq, hany⟩
  have hreleased : Released t (eventsOf x w) ↔ later.any (terminates t resp.session) = true := by
    rw [hall, released_append hevents]
    simp only [Released, hsession, Option.mem_some_iff, forall_eq', and_iff_left_iff_imp]
    exact fun _ => released_of_none hlater
  unfold Releases
  rw [hrun, hreleased, hsettled]

theorem released_unlocked {l : List FtpEvent} :
    Released t (l ++ [.unlocked t]) ↔ Released t l := by
  induction l with
  | nil => simp [Released, sessionOpened]
  | cons e l ih =>
      have hany : ∀ session, (l ++ [FtpEvent.unlocked t]).any (terminates t session) =
          l.any (terminates t session) := by
        intro session
        have hunlocked : terminates t session (.unlocked t) = false := rfl
        simp [List.any_append, hunlocked]
      simp only [List.cons_append, Released, ih, hany]

/-- An operation under the lock, by how the rest of it ends. -/
theorem withTargetLock_apply (t : Target) (x : Client α) (w : World) :
    withTargetLock t x w = match x { w with trace := w.trace ++ [.locked t] } with
      | (.ok a, w1) => (.ok a, { w1 with trace := w1.trace ++ [.unlocked t] })
      | (.err error, w1) => (.err error, { w1 with trace := w1.trace ++ [.unlocked t] })
      | (.waiting, w1) => (.waiting, w1) := by
  have hlock : note (.locked t) w = (.ok (), { w with trace := w.trace ++ [.locked t] }) := rfl
  unfold withTargetLock
  rw [bind_of_ok hlock, bind_apply, attempt]
  cases x { w with trace := w.trace ++ [.locked t] } with
  | mk o w1 => cases o <;> rfl

/-- **The lock is taken first and given back last**, whatever the rest ends in; while it waits, it
    is held. -/
theorem eventsOf_withTargetLock {P : FtpEvent → Prop} {x : Client α} (hx : Emits P x) (w : World) :
    ∃ l, (∀ e ∈ l, P e) ∧ eventsOf x { w with trace := w.trace ++ [.locked t] } = l ∧
      (x { w with trace := w.trace ++ [.locked t] }).1 = (withTargetLock t x w).1 ∧
      (((withTargetLock t x w).1 = .waiting ∧
          eventsOf (withTargetLock t x) w = .locked t :: l) ∨
        eventsOf (withTargetLock t x) w = .locked t :: (l ++ [.unlocked t])) := by
  obtain ⟨l, hl, hP⟩ := (hx { w with trace := w.trace ++ [.locked t] }).trace
  refine ⟨l, hP, eventsOf_eq hl, ?_⟩
  have hrun := withTargetLock_apply t x w
  cases hr : x { w with trace := w.trace ++ [.locked t] } with
  | mk o w1 =>
      rw [hr] at hl hrun
      have htrace : w1.trace = w.trace ++ .locked t :: l := by simpa using hl
      cases o with
      | waiting => exact ⟨by rw [hrun], Or.inl ⟨by rw [hrun], eventsOf_eq (by rw [hrun, htrace])⟩⟩
      | ok a => exact ⟨by rw [hrun], Or.inr (eventsOf_eq (by rw [hrun]; simp [htrace]))⟩
      | err error => exact ⟨by rw [hrun], Or.inr (eventsOf_eq (by rw [hrun]; simp [htrace]))⟩

/-- The lock opens and terminates nothing. -/
theorem releases_withTargetLock {P : FtpEvent → Prop} {x : Client α} (hx : Emits P x) (w : World) :
    Releases t (withTargetLock t x) w ↔
      Releases t x { w with trace := w.trace ++ [.locked t] } := by
  have hlocked : ∀ events, Released t (.locked t :: events) ↔ Released t events := by
    intro events
    simp [Released, sessionOpened]
  obtain ⟨l, _, hl, hout, ⟨_, hevents⟩ | hevents⟩ := eventsOf_withTargetLock (t := t) hx w
  · simp only [Releases, hl, hout, hevents, hlocked]
  · simp only [Releases, hl, hout, hevents, hlocked, released_unlocked]

theorem emits_opening {P : FtpEvent → Prop} {Q : FtpPayload → Prop} [Admits P t Q]
    {opcode : FtpOpcode} {path : List UInt8} {text text' : String} {f : FtpPayload → Client α}
    (hQ : ∀ req, Q req) (hf : ∀ resp, Emits P (f resp)) :
    Emits P (opening t opcode path text text' f) := by
  refine Moves.bind (emits_withContext (emits_resetSessions fun req _ => hQ req)) fun _ => ?_
  refine emits_afterDataRequest fun seq => ?_
  refine Moves.bind (emits_withContext (emits_sendAndReceive (hQ _))) fun resp => ?_
  exact Moves.bind emits_checked fun _ => hf resp

/-- **An operation that opens a session** releases it unless it leaks, given what is exact for
    the rest of it. -/
theorem releases_opening_iff {opcode : FtpOpcode}
    (hopcode : opcode = .openFileRO ∨ opcode = .createFile) {path : List UInt8}
    {text text' : String} {f : FtpPayload → Client α} {L : FtpPayload → Input → Prop}
    (hf : ∀ resp w1, ExitsOpen t resp.session (L resp w1.input)
      (fun _ _ => True) (f resp) w1)
    (hopens : ∀ resp, Emits (Reads OpensNothing) (f resp)) (w : World) :
    Releases t (withTargetLock t (opening t opcode path text text' f)) w ↔
      ¬ ∃ resp rest, w.input.opened t = some (resp, rest) ∧ L resp rest := by
  have hopening : Emits (Reads fun _ => True) (opening t opcode path text text' f) :=
    emits_opening (fun _ => trivial) fun resp => (hopens resp).imp reads_true
  rw [releases_withTargetLock hopening]
  rcases opening_cases (t := t) hopcode path text text' f
      { w with trace := w.trace ++ [.locked t] } with
    ⟨resp, w1, ho, hopen, hrun⟩ | ⟨ho, hunopened⟩
  · have ho : w.input.opened t = some (resp, w1.input) := ho
    rw [releases_of_opened hrun hopen (emits_unopened (hopens resp) w1),
      (hf resp w1).returns_iff]
    simp [ho]
  · have ho : w.input.opened t = none := ho
    simp [ho, hunopened.releases]

section Opened

variable {P : FtpEvent → Prop} {Q : FtpPayload → Prop}

theorem emits_readOpened [AdmitsRead P t Q] {progress : Bool} {fileSize : Nat}
    (hb : ∀ req, req.opcode = .burstReadFile → Q req) (hr : ∀ req, req.opcode = .readFile → Q req)
    (ht : ∀ req, req.opcode = .terminateSession → Q req) :
    Emits P (readOpened t progress session fileSize) := by
  refine Moves.bind emits_subscribe fun _ => ?_
  refine Moves.bind (fun w => emits_burstPhase hb ht _ _ _ w) fun state => ?_
  refine Moves.bind (emits_fillBlocks hr ht _ _) fun state' => ?_
  exact emits_finishReadSession ht

theorem emits_admitted [AdmitsRead P t Q] {maxSize : Option Nat} {resp : FtpPayload}
    (ht : ∀ req, req.opcode = .terminateSession → Q req) :
    Emits P (admitted t maxSize resp) := by
  have opened : Emits P
      (do note (.opened resp.session (announcedSize resp))
          pure (resp.session, announcedSize resp)) :=
    Moves.bind (emits_note (AdmitsRead.opened t _ _)) fun _ => Moves.pure _
  cases maxSize with
  | none => exact opened
  | some max =>
      refine Moves.ite ?_ opened
      exact Moves.bind (emits_terminateSessionBestEffort ht _) fun _ => Moves.fail _

theorem emits_writeOpened [Admits P t Q] {data : List UInt8}
    (hw : ∀ req, req.opcode = .writeFile → Q req)
    (ht : ∀ req, req.opcode = .terminateSession → Q req) :
    Emits P (writeOpened t data session) := by
  refine Moves.bind (emits_writeChunks hw ht _ _) fun _ => ?_
  exact emits_withContext (emits_terminateSession ht _)

end Opened

/-- **Every session is released, unless it leaks.** A read leaks where the hub does not answer for
    the burst's receiver or for TerminateSession, and where a chunk that is taken declares more
    bytes than it carries; a write only at TerminateSession. -/
theorem releases_iff (t : Target) (path data : List UInt8) (progress : Bool)
    (maxSize : Option Nat) (w : World) :
    (Releases t (burstReadFileInner t path progress maxSize) w ↔
        ¬ ReadLeaks t maxSize w.input) ∧
      (Releases t (writeFile t path data) w ↔ ¬ WriteLeaks t data w.input) := by
  have terminate : ∀ req : FtpPayload, req.opcode = .terminateSession → OpensNothing req :=
    opensNothing_of_eq nofun nofun
  constructor
  · rw [burstReadFileInner_eq]
    exact releases_opening_iff (.inl rfl) (fun _ w1 => exits_admitted w1)
      (fun _ => Moves.bind (emits_admitted terminate) fun _ =>
        emits_readOpened (opensNothing_of_eq nofun nofun) (opensNothing_of_eq nofun nofun)
          terminate) w
  · rw [writeFile_eq]
    exact releases_opening_iff (.inr rfl) (fun _ w1 => exits_writeOpened w1)
      (fun _ => emits_writeOpened (opensNothing_of_eq nofun nofun) terminate) w

example : Releases vehicle (burstReadFileInner vehicle [97] false none) cutRun := by
  decide +kernel

section Runs

/-- A burst packet says it carries 240 bytes; a payload has room for 239. -/
def oversizedRun : World where
  seqNumber := 0
  hubAnswers := []
  inbox := [serverAck 1 .resetSessions 0 0 [], serverAck 2 .openFileRO 1 0 [240, 0, 0, 0],
    { serverAck 3 .burstReadFile 1 0 [7] with size := 240 }].map (packet vehicle)
  trace := []

/-- **A session that is not released**: the read returns the error of the copy, and the hub is
    well. -/
theorem releases_oversizedChunk :
    ¬ Releases vehicle (burstReadFileInner vehicle [97] false none) oversizedRun := by
  decide +kernel

end Runs

end MavlinkServer.Ftp
