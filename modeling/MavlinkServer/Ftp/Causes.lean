/-
  File:      MavlinkServer/Ftp/Causes.lean
  Subject:   WHAT BRINGS AN ERROR OF THE FTP CLIENT ABOUT. Whatever function of
             the client an error comes from: something that the operation has
             read or taken brought it about, and a Nak that refuses one of its
             requests is the error.

  * `Past`, `Since` -- what an operation has read and recorded so far;
  * `FtpEvent.refusal?` -- the Nak with which an event ends an operation;
  * `Caused` -- the part of a past that brings an error about;
  * `Known` -- the state of an operation: its past has a property, and no
    refusal but the one named; `Clear`, `Responded`, `Failed` -- the three that
    occur;
  * `Explained` -- from there a function of the client ends in a value with no
    refusal, or in an error that is the refusal, if there is one; one lemma for
    each function.
-/
import MavlinkServer.Lib.Triples
import MavlinkServer.Ftp.Requests
import MavlinkServer.Ftp.WireFormat

namespace MavlinkServer.Ftp

open Lib Await

/-! ## 1. The past of an operation -/

/-- What an operation has read, and what it has recorded. -/
structure Past where
  inbox : List HubEvent
  hubAnswers : List Bool
  events : List FtpEvent

namespace Past

def empty : Past := ⟨[], [], []⟩

def append (past more : Past) : Past where
  inbox := past.inbox ++ more.inbox
  hubAnswers := past.hubAnswers ++ more.hubAnswers
  events := past.events ++ more.events

/-- The reply with which the target has answered this request. -/
structure Replied (t : Target) (past : Past) (req resp : FtpPayload) : Prop where
  accepted : .accepted req resp ∈ past.events
  heard : resp ∈ replies t past.inbox

/-- A reply of the target that the operation has acted on: one to a request of its own, or the one
    that has ended its burst. -/
structure Acted (t : Target) (past : Past) (resp : FtpPayload) : Prop where
  event : (∃ req, .accepted req resp ∈ past.events) ∨ .ended resp ∈ past.events
  heard : resp ∈ replies t past.inbox

theorem Replied.acted {t : Target} {past : Past} {req resp : FtpPayload}
    (h : past.Replied t req resp) : past.Acted t resp :=
  ⟨.inl ⟨req, h.accepted⟩, h.heard⟩

end Past

/-- **From `w0` to `w` an operation has this past.** -/
structure Since (w0 w : World) (past : Past) : Prop where
  inbox : w0.inbox = past.inbox ++ w.inbox
  hubAnswers : w0.hubAnswers = past.hubAnswers ++ w.hubAnswers
  trace : w.trace = w0.trace ++ past.events

theorem Since.refl (w : World) : Since w w .empty := ⟨rfl, rfl, (List.append_nil _).symm⟩

theorem Since.trans {w0 w1 w2 : World} {past more : Past} (h : Since w0 w1 past)
    (hmore : Since w1 w2 more) : Since w0 w2 (past.append more) where
  inbox := by rw [h.inbox, hmore.inbox, Past.append, List.append_assoc]
  hubAnswers := by rw [h.hubAnswers, hmore.hubAnswers, Past.append, List.append_assoc]
  trace := by rw [hmore.trace, h.trace, Past.append, List.append_assoc]

/-- A property of pasts that no later event takes away. -/
def Lasting (F : Past → Prop) : Prop := ∀ past more, F past → F (past.append more)

theorem Lasting.trivial : Lasting fun _ => True := fun _ _ _ => ⟨⟩

theorem mem_replies_append {t : Target} {events more : List HubEvent} {resp : FtpPayload}
    (h : resp ∈ replies t events) : resp ∈ replies t (events ++ more) := by
  obtain ⟨m, hm, hex⟩ := mem_replies.mp h
  exact mem_replies.mpr ⟨m, List.mem_append_left _ hm, hex⟩

theorem lasting_replied (t : Target) (req resp : FtpPayload) :
    Lasting fun past => past.Replied t req resp :=
  fun _ _ h => ⟨List.mem_append_left _ h.accepted, mem_replies_append h.heard⟩

theorem lasting_acted (t : Target) (resp : FtpPayload) : Lasting fun past => past.Acted t resp :=
  fun _ _ h => ⟨h.event.imp (fun ⟨req, hreq⟩ => ⟨req, List.mem_append_left _ hreq⟩)
    (List.mem_append_left _), mem_replies_append h.heard⟩

/-! ## 2. Refusals and causes -/

/-- `error.downcast_ref::<FtpNakError>()`, which looks through contexts. -/
def FtpFailure.nak? : FtpFailure → Option FtpNakError
  | .nak error => some error
  | .context _ cause => cause.nak?
  | _ => none

/-- The error of a Nak. -/
def FtpPayload.nak? (resp : FtpPayload) : Option FtpNakError :=
  match checkNak resp with
  | .error nak => some nak
  | .ok () => none

/-- The requests that read up to the end: there, an Eof is no refusal. -/
def FtpOpcode.readsToEnd : FtpOpcode → Bool
  | .listDirectory | .readFile => true
  | _ => false

/-- **The Nak with which an event ends an operation**: a reply to one of its requests, or the end of
    its burst. What TerminateSession is answered is no matter. -/
def FtpEvent.refusal? : FtpEvent → Option FtpNakError
  | .accepted req resp =>
      if req.opcode = .terminateSession then none
      else resp.nak?.filter fun nak => !(req.opcode.readsToEnd && nak.errCode = .eof)
  | .ended resp => resp.nak?.filter fun nak => nak.errCode ≠ .eof
  | _ => none

theorem refusal?_accepted {req resp : FtpPayload} {nak : FtpNakError}
    (h : (FtpEvent.accepted req resp).refusal? = some nak) : resp.nak? = some nak := by
  unfold FtpEvent.refusal? at h
  dsimp only at h
  split at h
  · cases h
  · exact (Option.filter_eq_some_iff.mp h).1

/-- **Caused**: the part of a past that brings an error about. -/
def Caused (t : Target) (past : Past) : FtpFailure → Prop
  | .timedOut => .elapsed ∈ past.inbox
  | .nak error => ∃ resp, past.Acted t resp ∧ resp.nak? = some error
  | .unknownOpcode v =>
      ∃ m, .message m ∈ past.inbox ∧ examine t none m = .failed (.unknownOpcode v)
  | .unexpectedEof => False
  | .channelClosed => .closed ∈ past.inbox
  | .hubUnavailable => false ∈ past.hubAnswers
  | .shortChunk declared provided =>
      ∃ resp, (resp ∈ replies t past.inbox ∧ resp.reqOpcode = .burstReadFile ∨
          ∃ req, past.Replied t req resp ∧ req.opcode = .readFile) ∧
        resp.size.toNat = declared ∧ resp.data.length = provided ∧ provided < declared
  | .crcTooShort =>
      ∃ req resp, past.Replied t req resp ∧ req.opcode = .calcFileCRC32 ∧ resp.data.length < 4
  | .tooLarge fileSize max =>
      ∃ req resp, past.Replied t req resp ∧ req.opcode = .openFileRO ∧
        announcedSize resp = fileSize ∧ max < fileSize
  | .slicePanic =>
      ∃ req resp, past.Replied t req resp ∧ req.opcode = .listDirectory ∧
        parseListingEntries resp.data = none
  | .context _ cause => Caused t past cause

theorem lasting_caused (t : Target) (error : FtpFailure) :
    Lasting fun past => Caused t past error := by
  intro past more h
  induction error with
  | timedOut | channelClosed | hubUnavailable => exact List.mem_append_left _ h
  | nak nak =>
      obtain ⟨resp, hacted, hnak⟩ := h
      exact ⟨resp, lasting_acted t resp past more hacted, hnak⟩
  | unknownOpcode v =>
      obtain ⟨m, hm, hex⟩ := h
      exact ⟨m, List.mem_append_left _ hm, hex⟩
  | unexpectedEof => exact h
  | shortChunk declared provided =>
      obtain ⟨resp, hsource, hshort⟩ := h
      refine ⟨resp, hsource.imp (fun h => ⟨mem_replies_append h.1, h.2⟩) ?_, hshort⟩
      rintro ⟨req, hreplied, hreq⟩
      exact ⟨req, lasting_replied t req resp past more hreplied, hreq⟩
  | crcTooShort | tooLarge fileSize max | slicePanic =>
      obtain ⟨req, resp, hreplied, hrest⟩ := h
      exact ⟨req, resp, lasting_replied t req resp past more hreplied, hrest⟩
  | context text cause ih => exact ih h

section Waits

variable {t : Target}

theorem FtpPayload.decode_error {b : FtpBuffer} {e : FtpFailure}
    (h : FtpPayload.decode b = .error e) : ∃ v, e = .unknownOpcode v := by
  have tried : ∀ {v : UInt8} {e : FtpFailure}, FtpOpcode.tryFrom v = .error e →
      e = .unknownOpcode v := by
    intro v e h
    unfold FtpOpcode.tryFrom at h
    split at h
    · cases h
    · cases h
      rfl
  rw [FtpPayload.decode_eq] at h
  cases h3 : FtpOpcode.tryFrom (b.byte 3) with
  | error e3 =>
      rw [h3] at h
      cases h
      exact ⟨_, tried h3⟩
  | ok opcode =>
      cases h5 : FtpOpcode.tryFrom (b.byte 5) with
      | error e5 =>
          rw [h3, h5] at h
          cases h
          exact ⟨_, tried h5⟩
      | ok reqOpcode =>
          rw [h3, h5] at h
          cases h

/-- The number a reply must have plays no part in an error. -/
theorem examine_failed {e : Option UInt16} {m : Protocol} {error : FtpFailure}
    (h : examine t e m = .failed error) :
    examine t none m = .failed error ∧ ∃ v, error = .unknownOpcode v := by
  unfold examine at h ⊢
  split at h
  · cases h
  · rename_i hid
    rw [if_neg hid]
    split at h
    · cases h
    · cases h
    · rename_i net sys comp payload hm
      split at h
      · rename_i error' hd
        cases h
        obtain ⟨v, rfl⟩ := FtpPayload.decode_error hd
        exact ⟨rfl, v, rfl⟩
      · split at h <;> cases h

theorem examine_reply_none {e : Option UInt16} {m : Protocol} {resp : FtpPayload}
    (h : examine t e m = .reply resp) : examine t none m = .reply resp := by
  obtain ⟨hid, hsys, hcomp, ⟨net, sys, comp, payload, hm, hd⟩, _⟩ := examine_reply h
  simp [examine, hid, hsys, hcomp, hm, hd, expected]

/-- What one wait may end in. -/
def ReceivedFrom (t : Target) (past : Past) : Received → Prop
  | .reply resp => resp ∈ replies t past.inbox
  | .failed error => Caused t past error ∧ error.nak? = none
  | .elapsed => .elapsed ∈ past.inbox

/-- **What a wait ends in is among what it has read.** -/
theorem recvFtp_received {e : Option UInt16} {r : Received} {rest : List HubEvent} :
    ∀ {events : List HubEvent}, recvFtp t e events = some (r, rest) →
      ∃ used, events = used ++ rest ∧
        ∀ past : Past, used ⊆ past.inbox → ReceivedFrom t past r
  | [], h => by cases h
  | .elapsed :: _, h => by
      cases h
      exact ⟨[.elapsed], rfl, fun _ hused => hused List.mem_cons_self⟩
  | .closed :: _, h => by
      cases h
      exact ⟨[.closed], rfl, fun _ hused => ⟨hused List.mem_cons_self, rfl⟩⟩
  | .lagged n :: events, h => by
      have hrest : recvFtp t e events = some (r, rest) := h
      obtain ⟨used, heq, hreceived⟩ := recvFtp_received hrest
      exact ⟨.lagged n :: used, by rw [heq]; rfl, fun past hused =>
        hreceived past fun _ he => hused (List.mem_cons_of_mem _ he)⟩
  | .message m :: events, h => by
      simp only [recvFtp] at h
      split at h
      · obtain ⟨used, heq, hreceived⟩ := recvFtp_received h
        exact ⟨.message m :: used, by rw [heq]; rfl, fun past hused =>
          hreceived past fun _ he => hused (List.mem_cons_of_mem _ he)⟩
      · rename_i error hex
        cases h
        obtain ⟨hnone, v, rfl⟩ := examine_failed hex
        exact ⟨[.message m], rfl, fun _ hused => ⟨⟨m, hused List.mem_cons_self, hnone⟩, rfl⟩⟩
      · rename_i resp hex
        cases h
        exact ⟨[.message m], rfl, fun _ hused =>
          mem_replies.mpr ⟨m, hused List.mem_cons_self, examine_reply_none hex⟩⟩

end Waits

/-! ## 3. The states of an operation -/

/-- **Known**: the past has the property `F`, and every refusal in it is `refusal`. -/
def Known (w0 : World) (refusal : Option FtpNakError) (F : Past → Prop) (w : World) : Prop :=
  ∃ past, Since w0 w past ∧
    (∀ event ∈ past.events, ∀ nak, event.refusal? = some nak → refusal = some nak) ∧ F past

/-- Nothing has been refused. -/
abbrev Clear (w0 : World) : World → Prop := Known w0 none fun _ => True

/-- A request has been answered; the reply may refuse it. -/
abbrev Responded (t : Target) (w0 : World) (req resp : FtpPayload) : World → Prop :=
  Known w0 (FtpEvent.accepted req resp).refusal? fun past => past.Replied t req resp

/-- A request has been answered, and the reply does not refuse it. -/
abbrev Granted (t : Target) (w0 : World) (req resp : FtpPayload) : World → Prop :=
  Known w0 none fun past => past.Replied t req resp

/-- The past has brought an error about, which is the refusal, if there is one. -/
abbrev Failed (t : Target) (w0 : World) (error : FtpFailure) : World → Prop :=
  Known w0 error.nak? fun past => Caused t past error

section Known

variable {t : Target} {w0 w w1 : World} {refusal : Option FtpNakError} {F G : Past → Prop}

theorem known_start (w0 : World) : Clear w0 w0 :=
  ⟨.empty, .refl w0, fun _ h => absurd h List.not_mem_nil, ⟨⟩⟩

theorem Known.imp (h : Known w0 refusal F w) (hFG : ∀ past, F past → G past) :
    Known w0 refusal G w := by
  obtain ⟨past, hsince, hrefusal, hF⟩ := h
  exact ⟨past, hsince, hrefusal, hFG past hF⟩

theorem Known.clear (h : Known w0 none F w) : Clear w0 w := h.imp fun _ _ => ⟨⟩

/-- Where nothing has been refused, any refusal may be named. -/
theorem Known.of_none (h : Known w0 none F w) (refusal : Option FtpNakError) :
    Known w0 refusal F w := by
  obtain ⟨past, hsince, hnone, hF⟩ := h
  exact ⟨past, hsince, fun event he nak hnak => absurd (hnone event he nak hnak) nofun, hF⟩

/-- **More is read and recorded**, and no more is refused. -/
theorem Known.more (h : Known w0 refusal F w) (hF : Lasting F) {more : Past}
    (hmore : Since w w1 more) (hquiet : ∀ event ∈ more.events, event.refusal? = none) :
    Known w0 refusal F w1 := by
  obtain ⟨past, hsince, hrefusal, hpast⟩ := h
  refine ⟨past.append more, hsince.trans hmore, fun event he nak hnak => ?_, hF past more hpast⟩
  rcases List.mem_append.mp he with he | he
  · exact hrefusal event he nak hnak
  · rw [hquiet event he] at hnak
    cases hnak

/-- A reply that does not refuse its request. -/
theorem Known.granted {req resp : FtpPayload} (h : Responded t w0 req resp w)
    (hnone : (FtpEvent.accepted req resp).refusal? = none) : Granted t w0 req resp w := by
  unfold Responded at h
  rwa [hnone] at h

/-- A Nak is an error, whether it refuses the request or not. -/
theorem Known.failed {req resp : FtpPayload} {nak : FtpNakError} (h : Responded t w0 req resp w)
    (hnak : checkNak resp = .error nak) : Failed t w0 (.nak nak) w := by
  have hresp : resp.nak? = some nak := by rw [FtpPayload.nak?, hnak]
  obtain ⟨past, hsince, hrefusal, hreplied⟩ := h
  refine ⟨past, hsince, fun event he nak' hnak' => ?_, ⟨resp, hreplied.acted, hresp⟩⟩
  exact hresp.symm.trans (refusal?_accepted (hrefusal event he nak' hnak'))

theorem refusal?_of_ok {req resp : FtpPayload} (h : checkNak resp = .ok ()) :
    (FtpEvent.accepted req resp).refusal? = none := by
  have hresp : resp.nak? = none := by rw [FtpPayload.nak?, h]
  simp [FtpEvent.refusal?, hresp]

/-- Behind the end of what is read, an Eof refuses nothing. -/
theorem refusal?_of_eof {req resp : FtpPayload} {nak : FtpNakError}
    (h : checkNak resp = .error nak) (heof : nak.errCode = .eof)
    (hreads : req.opcode.readsToEnd = true) : (FtpEvent.accepted req resp).refusal? = none := by
  have hresp : resp.nak? = some nak := by rw [FtpPayload.nak?, h]
  simp [FtpEvent.refusal?, hresp, heof, hreads]

end Known

/-! ## 4. The functions of the client -/

/-- **Explained**: from `P` on, `x` ends in a value with no refusal, or in an error that its past
    has brought about, and that is the refusal, if there is one. -/
abbrev Explained {α : Type} (t : Target) (w0 : World) (P : World → Prop) (x : Client α) : Prop :=
  Triple P (fun _ => Clear w0) (Failed t w0) x

section Functions

variable {t : Target} {w0 : World} {refusal : Option FtpNakError} {F : Past → Prop} {α : Type}
  {P : World → Prop} {V : α → World → Prop} {Q : FtpFailure → World → Prop}

theorem triple_note (hF : Lasting F) {event : FtpEvent} (h : event.refusal? = none) :
    Triple (Known w0 refusal F) (fun _ => Known w0 refusal F) Q (note event) :=
  .modify fun w hw => by
    have hmore : Since w { w with trace := w.trace ++ [event] } ⟨[], [], [event]⟩ :=
      ⟨rfl, rfl, rfl⟩
    exact hw.more hF hmore fun _ he => List.mem_singleton.mp he ▸ h

theorem Known.numbered {w : World} (hF : Lasting F) (h : Known w0 refusal F w) :
    Known w0 refusal F { w with seqNumber := w.seqNumber + 1 } := by
  have hmore : Since w { w with seqNumber := w.seqNumber + 1 } .empty :=
    ⟨rfl, rfl, (List.append_nil _).symm⟩
  exact h.more hF hmore fun _ he => absurd he List.not_mem_nil

/-- What goes on with a new request may be looked at with its fields known. -/
theorem triple_afterNewRequest (hF : Lasting F) {opcode : FtpOpcode} {f : FtpPayload → Client α}
    (h : ∀ seq, Triple (Known w0 refusal F) V Q (f (FtpPayload.newRequest opcode seq))) :
    Triple (Known w0 refusal F) V Q (newRequest opcode >>= f) := fun w hw =>
  h w.seqNumber _ (hw.numbered hF)

theorem triple_afterDataRequest (hF : Lasting F) {opcode : FtpOpcode} {data : List UInt8}
    {offset : UInt32} {f : FtpPayload → Client α}
    (h : ∀ seq, Triple (Known w0 refusal F) V Q (f (pathRequest opcode data offset seq))) :
    Triple (Known w0 refusal F) V Q (dataRequest opcode data offset >>= f) := fun w hw =>
  h w.seqNumber _ (hw.numbered hF)

/-- An error of the transport, behind which nothing more has been refused. -/
def Transport (t : Target) (w0 : World) (refusal : Option FtpNakError) (F : Past → Prop)
    (error : FtpFailure) : World → Prop :=
  Known w0 refusal fun past => F past ∧ Caused t past error ∧ error.nak? = none

theorem Transport.failed {error : FtpFailure} {w : World} (h : Transport t w0 none F error w) :
    Failed t w0 error w := by
  obtain ⟨past, hsince, hnone, _, hcaused, _⟩ := h
  exact Known.of_none ⟨past, hsince, hnone, hcaused⟩ _

theorem triple_subscribe (hF : Lasting F) :
    Triple (Known w0 refusal F) (fun _ => Known w0 refusal F) (Transport t w0 refusal F)
      subscribe := fun w hw => by
  have answer : ∀ {b : Bool} {answers : List Bool}, w.hubAnswers = b :: answers →
      Since w { w with hubAnswers := answers } ⟨[], [b], []⟩ :=
    fun h => ⟨rfl, h, (List.append_nil _).symm⟩
  unfold subscribe
  split
  · exact hw
  · rename_i answers h
    exact hw.more hF (answer h) fun _ he => absurd he List.not_mem_nil
  · rename_i answers h
    obtain ⟨past, hsince, hrefusal, hpast⟩ := hw
    refine ⟨past.append ⟨[], [false], []⟩, hsince.trans (answer h), fun event he => ?_,
      hF _ _ hpast, List.mem_append_right _ List.mem_cons_self, rfl⟩
    exact hrefusal event (by simpa [Past.append] using he)

theorem triple_awaitFtp (hF : Lasting F) (e : Option UInt16) :
    Triple (Known w0 refusal F)
      (fun r => Known w0 refusal fun past => F past ∧ ReceivedFrom t past r) Q
      (awaitFtp t e) := fun w hw => by
  unfold awaitFtp
  split
  · trivial
  · rename_i r rest hr
    obtain ⟨used, heq, hreceived⟩ := recvFtp_received hr
    obtain ⟨past, hsince, hrefusal, hpast⟩ := hw
    refine ⟨past.append ⟨used, [], []⟩,
      hsince.trans ⟨heq, rfl, (List.append_nil _).symm⟩, fun event he => ?_, hF _ _ hpast,
      hreceived _ (List.subset_append_right _ _)⟩
    exact hrefusal event (by simpa [Past.append] using he)

/-- A reply is taken. Either nothing has been refused before, or a reply to this request does not
    matter. -/
theorem triple_accepted (hF : Lasting F) {payload resp : FtpPayload}
    (hone : refusal = none ∨ (FtpEvent.accepted payload resp).refusal? = none) :
    Triple (Known w0 refusal fun past => F past ∧ resp ∈ replies t past.inbox)
      (fun _ => Known w0 (refusal.or (FtpEvent.accepted payload resp).refusal?) fun past =>
        F past ∧ past.Replied t payload resp) Q (note (.accepted payload resp)) :=
  .modify fun w ⟨past, hsince, hrefusal, hpast, hheard⟩ => by
    have hmore : Since w { w with trace := w.trace ++ [.accepted payload resp] }
        ⟨[], [], [.accepted payload resp]⟩ := ⟨rfl, rfl, rfl⟩
    refine ⟨_, hsince.trans hmore, fun event he nak hnak => ?_, hF _ _ hpast,
      ⟨List.mem_append_right _ List.mem_cons_self, mem_replies_append hheard⟩⟩
    rcases List.mem_append.mp he with he | he
    · rw [hrefusal event he nak hnak, Option.some_or]
    · obtain rfl := List.mem_singleton.mp he
      rcases hone with hnone | hnone
      · rw [hnone, Option.none_or, hnak]
      · rw [hnone] at hnak
        cases hnak

theorem triple_sendAndReceiveLoop (hF : Lasting F) {payload : FtpPayload}
    (hone : refusal = none ∨ ∀ resp, (FtpEvent.accepted payload resp).refusal? = none) :
    ∀ (attempts : Nat) (lastError : FtpFailure),
      Triple (fun w => Known w0 refusal F w ∧
          (attempts = 0 → Transport t w0 refusal F lastError w))
        (fun resp => Known w0 (refusal.or (FtpEvent.accepted payload resp).refusal?) fun past =>
          F past ∧ past.Replied t payload resp)
        (Transport t w0 refusal F) (sendAndReceiveLoop t payload attempts lastError)
  | 0, lastError => .fail fun w hw => hw.2 rfl
  | attempts + 1, lastError => by
      refine .bind (.pre (triple_note hF rfl) fun w hw => hw.1) fun _ => ?_
      refine .bind (triple_awaitFtp hF (some payload.seqNumber)) fun r => ?_
      cases r with
      | reply resp =>
          exact .bind (triple_accepted hF (hone.imp_right fun h => h resp)) fun _ =>
            .pure fun _ hw => hw
      | failed error =>
          exact (triple_sendAndReceiveLoop hF hone attempts error).pre fun w hw =>
            ⟨hw.imp fun _ h => h.1, fun _ => hw⟩
      | elapsed =>
          exact (triple_sendAndReceiveLoop hF hone attempts .timedOut).pre fun w hw =>
            ⟨hw.imp fun _ h => h.1, fun _ => hw.imp fun _ h => ⟨h.1, h.2, rfl⟩⟩

/-- **One request**, whatever has been read before. -/
theorem triple_sendAndReceive (hF : Lasting F) {payload : FtpPayload}
    (hone : refusal = none ∨ ∀ resp, (FtpEvent.accepted payload resp).refusal? = none) :
    Triple (Known w0 refusal F)
      (fun resp => Known w0 (refusal.or (FtpEvent.accepted payload resp).refusal?) fun past =>
        F past ∧ past.Replied t payload resp)
      (Transport t w0 refusal F) (sendAndReceive t payload) :=
  .bind (triple_subscribe hF) fun _ =>
    (triple_sendAndReceiveLoop hF hone ftpMaxRetries .timedOut).pre fun _ hw =>
      ⟨hw, fun h => absurd h (by decide)⟩

/-- Where nothing has been refused so far, the request is answered, or the operation fails. -/
theorem triple_request (payload : FtpPayload) :
    Triple (Clear w0) (Responded t w0 payload) (Failed t w0) (sendAndReceive t payload) :=
  (triple_sendAndReceive Lasting.trivial (.inl rfl)).weaken (fun _ hw => hw)
    (fun _ _ hw => hw.imp fun _ h => h.2) fun _ _ hw => hw.failed

/-- A TerminateSession changes nothing that is known. -/
theorem triple_terminateSession (hF : Lasting F) (session : UInt8) :
    Triple (Known w0 refusal F) (fun _ => Known w0 refusal F) (fun _ => Known w0 refusal F)
      (terminateSession t session) := by
  refine triple_afterNewRequest hF fun seq => ?_
  have hquiet : ∀ resp, (FtpEvent.accepted
      { FtpPayload.newRequest .terminateSession seq with session } resp).refusal? = none :=
    fun _ => rfl
  refine .bind (V := fun _ => Known w0 refusal F) ?_ fun resp => ?_
  · refine (triple_sendAndReceive hF (.inr hquiet)).weaken (fun _ hw => hw) (fun resp w hw => ?_)
      fun _ _ hw => hw.imp fun _ h => h.1
    rw [hquiet resp, Option.or_none] at hw
    exact hw.imp fun _ h => h.1
  · unfold checked
    split
    · exact .pure fun _ hw => hw
    · exact .fail fun _ hw => hw

theorem triple_terminateSessionBestEffort (hF : Lasting F) (session : UInt8) :
    Triple (Known w0 refusal F) (fun _ => Known w0 refusal F) Q
      (terminateSessionBestEffort t session) :=
  .bind (triple_terminateSession hF session).attempt fun r => .pure fun w hw => by
    cases r with
    | ok u => exact hw
    | error error => exact hw

/-- Behind a TerminateSession whose failure is only logged, the error is the one before it. -/
theorem triple_terminating (session : UInt8) {error : FtpFailure} :
    Triple (Failed t w0 error) V (Failed t w0) (do
      terminateSessionBestEffort t session
      fail error) :=
  .bind (triple_terminateSessionBestEffort (lasting_caused t error) session) fun _ =>
    .fail fun _ hw => hw

theorem triple_checked {req resp : FtpPayload} :
    Triple (Responded t w0 req resp) (fun _ => Granted t w0 req resp) (Failed t w0)
      (checked resp) := by
  unfold checked
  split
  · rename_i hok
    exact .pure fun _ hw => hw.granted (refusal?_of_ok hok)
  · rename_i nak hnak
    exact .fail fun _ hw => hw.failed hnak

theorem triple_withContext {x : Client α} (text : String) (h : Triple P V (Failed t w0) x) :
    Triple P V (Failed t w0) (withContext text x) := by
  refine .bind h.attempt fun r => ?_
  cases r with
  | ok a => exact .pure fun _ hw => hw
  | error error => exact .fail fun _ hw => hw

theorem explained_withTargetLock {x : Client α} (h : Explained t w0 (Clear w0) x) :
    Explained t w0 (Clear w0) (withTargetLock t x) := by
  refine .bind (triple_note Lasting.trivial rfl) fun _ => .bind h.attempt fun r => ?_
  cases r with
  | ok a => exact .bind (triple_note Lasting.trivial rfl) fun _ => .pure fun _ hw => hw
  | error error =>
      exact .bind (triple_note (lasting_caused t error) rfl) fun _ => .fail fun _ hw => hw

/-- One request and its checked reply. -/
theorem explained_exchange {req : FtpPayload} {f : FtpPayload → Client α}
    (hf : ∀ resp, Explained t w0 (Granted t w0 req resp) (f resp)) :
    Explained t w0 (Clear w0) (do
      let resp ← sendAndReceive t req
      checked resp
      f resp) :=
  .bind (triple_request req) fun resp => .bind triple_checked fun _ => hf resp

/-- The same with nothing behind it. -/
theorem explained_check (req : FtpPayload) :
    Explained t w0 (Clear w0) (do
      let resp ← sendAndReceive t req
      checked resp) :=
  .bind (triple_request req) fun _ =>
    triple_checked.weaken (fun _ hw => hw) (fun _ _ hw => hw.clear) fun _ _ hw => hw

theorem explained_resetSessions : Explained t w0 (Clear w0) (resetSessions t) :=
  triple_afterNewRequest Lasting.trivial fun _ => explained_check _

theorem explained_terminateSession (session : UInt8) :
    Explained t w0 (Clear w0) (terminateSession t session) :=
  triple_afterNewRequest Lasting.trivial fun _ => explained_check _

theorem explained_dataOperation {opcode : FtpOpcode} {data : List UInt8} {offset : UInt32}
    {finish : FtpPayload → Client α}
    (h : ∀ seq resp, Explained t w0 (Granted t w0 (pathRequest opcode data offset seq) resp)
      (finish resp)) :
    Explained t w0 (Clear w0) (dataOperation t opcode data offset finish) :=
  explained_withTargetLock <| triple_afterDataRequest Lasting.trivial fun seq =>
    explained_exchange fun resp => h seq resp

/-- The operations that return nothing. -/
theorem explained_unitOperation {opcode : FtpOpcode} {data : List UInt8} {offset : UInt32} :
    Explained t w0 (Clear w0) (dataOperation t opcode data offset fun _ => pure ()) :=
  explained_dataOperation fun _ _ => .pure fun _ hw => hw.clear

theorem explained_calcCrc32 (path : List UInt8) :
    Explained t w0 (Clear w0) (calcCrc32 t path) := by
  refine explained_dataOperation fun seq resp => ?_
  split
  · exact .pure fun _ hw => hw.clear
  · rename_i hshort
    refine .fail fun w hw => hw.imp fun _ h => ?_
    exact ⟨_, resp, h, rfl, Nat.lt_of_not_le hshort⟩

theorem explained_listLoop (path : List UInt8) :
    ∀ (fuel : Nat) (offset : UInt32) (allEntries : List ListingEntry),
      Explained t w0 (Clear w0) (listLoop t path fuel offset allEntries)
  | 0, _, _ => .stuck
  | fuel + 1, offset, allEntries => by
      refine triple_afterDataRequest Lasting.trivial fun seq => ?_
      refine .bind (triple_request _) fun resp => ?_
      split
      · rename_i nak hnak
        split
        · rename_i heof
          exact .pure fun w hw => (hw.granted (refusal?_of_eof hnak heof rfl)).clear
        · exact .fail fun w hw => hw.failed hnak
      · rename_i hok
        split
        · rename_i hpanic
          exact .fail fun w hw => (hw.granted (refusal?_of_ok hok)).imp fun _ h =>
            ⟨_, resp, h, rfl, hpanic⟩
        · exact .pure fun w hw => (hw.granted (refusal?_of_ok hok)).clear
        · exact (explained_listLoop path fuel _ _).pre fun w hw =>
            (hw.granted (refusal?_of_ok hok)).clear

theorem explained_listDirectoryEntries (path : List UInt8) :
    Explained t w0 (Clear w0) (listDirectoryEntries t path) :=
  explained_withTargetLock (.read fun w => explained_listLoop path (w.inbox.length + 1) 0 [])

theorem explained_writeChunks (session : UInt8) :
    ∀ (offset : UInt32) (rest : List (List UInt8)),
      Explained t w0 (Clear w0) (writeChunks t session offset rest)
  | _, [] => .pure fun _ hw => hw
  | offset, chunk :: rest => by
      refine triple_afterDataRequest Lasting.trivial fun seq => ?_
      refine .bind (triple_request _).attempt fun r => ?_
      cases r with
      | ok resp =>
          dsimp only
          split
          · rename_i nak hnak
            exact (triple_terminating session).pre fun w hw => hw.failed hnak
          · rename_i hok
            exact (explained_writeChunks session _ rest).pre fun w hw =>
              (hw.granted (refusal?_of_ok hok)).clear
      | error error => exact triple_terminating session

theorem explained_writeFile (path data : List UInt8) :
    Explained t w0 (Clear w0) (writeFile t path data) := by
  refine explained_withTargetLock ?_
  refine .bind (triple_withContext _ explained_resetSessions) fun _ => ?_
  refine triple_afterDataRequest Lasting.trivial fun seq => ?_
  refine .bind (triple_withContext _ (triple_request _)) fun resp => ?_
  refine .bind triple_checked fun _ => ?_
  refine .bind ((explained_writeChunks _ _ _).pre fun _ hw => hw.clear) fun _ => ?_
  exact triple_withContext _ (explained_terminateSession _)

/-- The only error of a copy is a chunk shorter than its `size`. -/
theorem copyChunkIntoBuffer_error {fileData : List UInt8} {offset : UInt32} {resp : FtpPayload}
    {error : FtpFailure}
    (h : copyChunkIntoBuffer fileData offset resp.size.toNat resp.data = .error error) :
    error = .shortChunk resp.size.toNat resp.data.length ∧
      resp.data.length < resp.size.toNat := by
  unfold copyChunkIntoBuffer at h
  split at h
  · rename_i hshort
    cases h
    exact ⟨rfl, hshort⟩
  · cases h

theorem extendContiguous_error {state : BurstReadState} {resp : FtpPayload} {error : FtpFailure}
    (h : extendContiguous state resp = .error error) :
    error = .shortChunk resp.size.toNat resp.data.length ∧
      resp.data.length < resp.size.toNat := by
  unfold extendContiguous at h
  split at h
  · cases h
  split at h
  · cases h
  dsimp only at h
  split at h
  · rename_i error' hcopy
    cases h
    exact copyChunkIntoBuffer_error hcopy
  · cases h

theorem explained_storeProgress (progress : Bool) (value : UInt64) :
    Explained t w0 (Clear w0) (storeProgress progress value) :=
  .ite (triple_note Lasting.trivial rfl) (.pure fun _ hw => hw)

/-- What the burst has just read. -/
abbrev Heard (t : Target) (w0 : World) (r : Received) : World → Prop :=
  Known w0 none fun past => ReceivedFrom t past r

theorem explained_applyBurstChunk {state : BurstReadState} {resp : FtpPayload} (progress : Bool)
    (hburst : resp.reqOpcode = .burstReadFile) :
    Explained t w0 (Heard t w0 (.reply resp)) (applyBurstChunk state resp progress) := by
  unfold applyBurstChunk
  split
  · rename_i error herror
    obtain ⟨rfl, hshort⟩ := extendContiguous_error herror
    exact .fail fun w hw => hw.imp fun past hheard =>
      ⟨resp, .inl ⟨hheard, hburst⟩, rfl, rfl, hshort⟩
  · exact .pure fun _ hw => hw.clear
  · refine .bind ((triple_note Lasting.trivial rfl).pre fun _ hw => hw.clear) fun _ => ?_
    exact .bind (explained_storeProgress _ _) fun _ => .pure fun _ hw => hw

/-- A Nak ends the burst. It is a refusal, but for an Eof. -/
theorem triple_ended {resp : FtpPayload} {nak : FtpNakError} (hnak : checkNak resp = .error nak) :
    Triple (Heard t w0 (.reply resp))
      (fun _ w => if nak.errCode = .eof then Clear w0 w else Failed t w0 (.nak nak) w) Q
      (note (.ended resp)) := by
  have hresp : resp.nak? = some nak := by rw [FtpPayload.nak?, hnak]
  refine .modify fun w hw => ?_
  split
  · rename_i heof
    have hmore : Since w { w with trace := w.trace ++ [.ended resp] } ⟨[], [], [.ended resp]⟩ :=
      ⟨rfl, rfl, rfl⟩
    refine hw.clear.more Lasting.trivial hmore fun event he => ?_
    obtain rfl := List.mem_singleton.mp he
    simp [FtpEvent.refusal?, hresp, heof]
  · obtain ⟨past, hsince, hnone, hheard⟩ := hw
    have hmore : Since w { w with trace := w.trace ++ [.ended resp] } ⟨[], [], [.ended resp]⟩ :=
      ⟨rfl, rfl, rfl⟩
    refine ⟨_, hsince.trans hmore, fun event he nak' hnak' => ?_, resp,
      ⟨.inr (List.mem_append_right _ List.mem_cons_self), mem_replies_append hheard⟩, hresp⟩
    rcases List.mem_append.mp he with he | he
    · cases hnone event he nak' hnak'
    · obtain rfl := List.mem_singleton.mp he
      have hnak' : resp.nak? = some nak' := (Option.filter_eq_some_iff.mp hnak').1
      exact hresp.symm.trans hnak'

theorem explained_burstLoop (session : UInt8) (progress : Bool) :
    ∀ (fuel : Nat) (state : BurstReadState) (retries : Nat),
      Explained t w0 (Clear w0) (burstLoop t session progress fuel state retries)
  | 0, _, _ => .stuck
  | fuel + 1, state, retries => by
      have again : ∀ {F : Past → Prop} state retries, Explained t w0 (Known w0 none F)
          (burstLoop t session progress fuel state retries) := fun state retries =>
        (explained_burstLoop session progress fuel state retries).pre fun _ hw => hw.clear
      refine .bind (V := Heard t w0) ((triple_awaitFtp Lasting.trivial none).weaken
        (fun _ hw => hw) (fun _ _ hw => hw.imp fun _ h => h.2) fun _ _ hw => hw) fun r => ?_
      cases r with
      | reply resp =>
          dsimp only
          split
          · rename_i nak hnak
            refine .bind (triple_ended hnak) fun _ => ?_
            split
            · exact .pure fun _ hw => hw
            · exact triple_terminating session
          · split
            · exact again _ _
            · rename_i hburst
              have hburst : resp.reqOpcode = .burstReadFile := by
                by_contra hne
                exact hburst (.inr hne)
              refine .bind (explained_applyBurstChunk progress hburst) fun kept => ?_
              cases kept with
              | none => exact again _ _
              | some state' =>
                  dsimp only
                  split
                  · exact .pure fun _ hw => hw
                  · exact again _ _
      | failed error => exact again _ _
      | elapsed =>
          dsimp only
          split
          · exact (triple_terminating session).pre fun _ hw => hw.of_none _
          · exact .pure fun _ hw => hw.clear

theorem explained_runBurstCycle (session : UInt8) (progress : Bool) (state : BurstReadState)
    (retries : Nat) :
    Explained t w0 (Clear w0) (runBurstCycle t session progress state retries) :=
  triple_afterNewRequest Lasting.trivial fun _ => .bind (triple_note Lasting.trivial rfl) fun _ =>
    .read fun w => explained_burstLoop session progress (w.inbox.length + 1) state retries

theorem explained_burstPhase (session : UInt8) (progress : Bool) :
    ∀ (fuel : Nat) (state : BurstReadState) (retries : Nat),
      Explained t w0 (Clear w0) (burstPhase t session progress fuel state retries)
  | 0, _, _ => .stuck
  | fuel + 1, state, retries => by
      refine .bind (explained_runBurstCycle session progress state retries) fun r => ?_
      obtain ⟨outcome, state', retries'⟩ := r
      cases outcome with
      | «continue» => exact explained_burstPhase session progress fuel state' retries'
      | eof => exact .pure fun _ hw => hw

theorem explained_readMissingBlockChunk (session : UInt8) (progress : Bool)
    (missing : MissingBlock) (filled : UInt32) (state : BurstReadState) :
    Explained t w0 (Clear w0)
      (readMissingBlockChunk t session progress missing filled state) := by
  refine triple_afterNewRequest Lasting.trivial fun seq => ?_
  refine .bind (triple_request _).attempt fun r => ?_
  cases r with
  | error error => exact triple_terminating session
  | ok resp =>
      dsimp only
      split
      · rename_i nak hnak
        split
        · rename_i heof
          exact .pure fun w hw => (hw.granted (refusal?_of_eof hnak heof rfl)).clear
        · exact (triple_terminating session).pre fun w hw => hw.failed hnak
      · rename_i hok
        split
        · exact .pure fun w hw => (hw.granted (refusal?_of_ok hok)).clear
        · split
          · rename_i error hcopy
            obtain ⟨rfl, hshort⟩ := copyChunkIntoBuffer_error hcopy
            exact .fail fun w hw => (hw.granted (refusal?_of_ok hok)).imp fun _ h =>
              ⟨resp, .inr ⟨_, h, rfl⟩, rfl, rfl, hshort⟩
          · refine .bind ((explained_storeProgress _ _).pre fun w hw =>
              (hw.granted (refusal?_of_ok hok)).clear) fun _ => ?_
            exact .pure fun _ hw => hw

theorem explained_fillBlock (session : UInt8) (progress : Bool) (missing : MissingBlock) :
    ∀ (fuel : Nat) (filled : UInt32) (state : BurstReadState),
      Explained t w0 (Clear w0) (fillBlock t session progress missing fuel filled state)
  | 0, _, _ => .stuck
  | fuel + 1, filled, state => by
      unfold fillBlock
      split
      · refine .bind (explained_readMissingBlockChunk _ _ _ _ _) fun r => ?_
        obtain ⟨outcome, state'⟩ := r
        cases outcome with
        | filled chunkSize => exact explained_fillBlock session progress missing fuel _ _
        | noData => exact .pure fun _ hw => hw
        | endOfFile => exact .pure fun _ hw => hw
      · exact .pure fun _ hw => hw

theorem explained_fillBlocks (session : UInt8) (progress : Bool) :
    ∀ (blocks : List MissingBlock) (state : BurstReadState),
      Explained t w0 (Clear w0) (fillBlocks t session progress blocks state)
  | [], _ => .pure fun _ hw => hw
  | missing :: rest, state =>
      .bind (.read fun w =>
          explained_fillBlock session progress missing (w.inbox.length + 1) 0 state) fun _ =>
        explained_fillBlocks session progress rest _

theorem explained_openReadSession (path : List UInt8) (maxSize : Option Nat) :
    Explained t w0 (Clear w0) (openReadSession t path maxSize) := by
  refine .bind (triple_withContext _ explained_resetSessions) fun _ => ?_
  refine triple_afterDataRequest Lasting.trivial fun seq => ?_
  refine .bind (triple_withContext _ (triple_request _)) fun resp => ?_
  refine .bind triple_checked fun _ => ?_
  have opened : ∀ r : UInt8 × Nat, Explained t w0
      (Granted t w0 (pathRequest .openFileRO path 0 seq) resp) (do
        note (.opened resp.session (announcedSize resp))
        pure r) := fun r =>
    .bind ((triple_note Lasting.trivial rfl).pre fun _ hw => hw.clear) fun _ =>
      .pure fun _ hw => hw
  dsimp only
  split
  · split
    · rename_i max hlarge
      refine (triple_terminating _).pre fun w hw => hw.imp fun _ h => ?_
      exact ⟨_, resp, h, rfl, rfl, hlarge⟩
    · exact opened _
  · exact opened _

theorem explained_finishReadSession (session : UInt8) (progress : Bool) (state : BurstReadState) :
    Explained t w0 (Clear w0) (finishReadSession t session progress state) :=
  .bind (triple_withContext _ (explained_terminateSession session)) fun _ =>
    .bind (explained_storeProgress _ _) fun _ => .pure fun _ hw => hw

theorem explained_burstReadFileInner (path : List UInt8) (progress : Bool) (maxSize : Option Nat) :
    Explained t w0 (Clear w0) (burstReadFileInner t path progress maxSize) := by
  refine explained_withTargetLock ?_
  refine .bind (explained_openReadSession path maxSize) fun opened => ?_
  obtain ⟨session, fileSize⟩ := opened
  refine .bind ((triple_subscribe Lasting.trivial).weaken (fun _ hw => hw) (fun _ _ hw => hw)
    fun _ _ hw => hw.failed) fun _ => ?_
  refine .bind (.read fun w => explained_burstPhase session progress (w.inbox.length + 1) _ 0)
    fun state => ?_
  refine .bind (explained_fillBlocks session progress _ state) fun state' => ?_
  exact explained_finishReadSession session progress state'

end Functions

end MavlinkServer.Ftp
