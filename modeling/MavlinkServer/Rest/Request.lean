/-
  File:      MavlinkServer/Rest/Request.lean
  Subject:   A REQUEST AND ITS REPLY (`set_parameter`, `version`,
             `wait_for_message`, `send_mavlink_message` and `update` in
             `src/lib/drivers/rest/control.rs`; `control_send_task` and
             `send_task` in `src/lib/drivers/rest/mod.rs`).

  The caller puts its request into BROADCAST and then subscribes to
  BROADCAST_INNER. Meanwhile the driver takes the request to the hub, the
  vehicle answers, and the driver passes the answer to `update`.

  * `Exchange`, `step` -- the caller, the two tasks of the driver and the two
    channels between them, one action each;
  * `replies` -- what the wait would accept of a part of BROADCAST_INNER;
  * `NoReplyMissed` -- the caller returns the first reply behind its request;
  * `Waits` -- what every run keeps; `noReplyMissed_iff` -- a reply is missed
    exactly when it comes between request and subscription;
  * `noReplyMissed_reach` -- runs in which none does.

  The vehicles are part of the environment: any message may come to the hub at
  any time.
-/
import MavlinkServer.Lib.Broadcast
import MavlinkServer.Lib.Run
import MavlinkServer.Rest.Wait

namespace MavlinkServer.Rest

open Lib

/-! ## 1. The machine -/

/-- What `control_send_task` makes of the request: PARAM_SET or COMMAND_LONG. -/
def Command.message : Command → MavMessage
  | .paramSet _ => .other 23
  | .requestMessage _ _ _ => .other 76

/-- Where the call stands. It keeps how many messages had gone into BROADCAST_INNER when its request
    was sent. -/
inductive Caller where
  | idle
  /-- between `send_mavlink_message` and `wait_for_message` -/
  | requested (sent : Nat)
  | waiting (sent : Nat) (receiver : Receiver)
  | returned (sent : Nat) (receiver : Receiver) (message : MavMessage)
  | timedOut (sent : Nat) (receiver : Receiver)

structure Exchange where
  /-- BROADCAST, as far as `control_send_task` has not taken it -/
  broadcast : List MavMessage := []
  /-- the hub, as far as `send_task` has not taken it -/
  hub : List (MavHeader × MavMessage) := []
  /-- everything that went into BROADCAST_INNER -/
  inner : List (MavHeader × MavMessage) := []
  caller : Caller := .idle

inductive ExchangeAction where
  | send
  /-- another call, or `Vehicle::update`, puts a request into BROADCAST -/
  | request (message : MavMessage)
  | forward
  /-- a driver sends a message into the hub -/
  | arrive (header : MavHeader) (message : MavMessage)
  /-- `send_task` passes over a message: its own, a refused or an unreadable one -/
  | pass
  | update
  /-- the tasks of the driver end and are started again -/
  | restart
  | subscribe
  | recv
  | timeout

namespace Exchange

/-- The header of `control_send_task`: system 255, MAV_COMP_ID_MISSIONPLANNER. -/
def controlHeader : MavHeader := ⟨255, 190, 0⟩

/-- The loop of `wait_for_message` on one message. -/
def heard (call : WaitCall) (s : Exchange) (sent : Nat) :
    (MavHeader × MavMessage) × Receiver → Exchange
  | ((header, message), receiver) =>
      if call.accepts header message then { s with caller := .returned sent receiver message }
      else { s with caller := .waiting sent receiver }

/-- The timer is looked at only when the receiver has nothing to give. -/
def step (call : WaitCall) (s : Exchange) : ExchangeAction → Option Exchange
  | .send =>
      match s.caller with
      | .idle => some { s with
          broadcast := s.broadcast ++ [call.command.message], caller := .requested s.inner.length }
      | _ => none
  | .request message => some { s with broadcast := s.broadcast ++ [message] }
  | .forward =>
      match s.broadcast with
      | [] => none
      | message :: rest =>
          some { s with broadcast := rest, hub := s.hub ++ [(controlHeader, message)] }
  | .arrive header message => some { s with hub := s.hub ++ [(header, message)] }
  | .pass =>
      match s.hub with
      | [] => none
      | _ :: rest => some { s with hub := rest }
  | .update =>
      match s.hub with
      | [] => none
      | entry :: rest => some { s with hub := rest, inner := s.inner ++ [entry] }
  | .restart => some { s with broadcast := [], hub := [] }
  | .subscribe =>
      match s.caller with
      | .requested sent => some { s with caller := .waiting sent (.subscribe s.inner) }
      | _ => none
  | .recv =>
      match s.caller with
      | .waiting sent receiver => (receiver.recv? s.inner).map (s.heard call sent)
      | _ => none
  | .timeout =>
      match s.caller with
      | .waiting sent receiver =>
          match receiver.recv? s.inner with
          | none => some { s with caller := .timedOut sent receiver }
          | some _ => none
      | _ => none

end Exchange

/-! ## 2. Replies -/

/-- What the wait would accept of these messages. -/
def replies (call : WaitCall) (log : List (MavHeader × MavMessage)) : List MavMessage :=
  log.filterMap fun entry => if call.accepts entry.1 entry.2 then some entry.2 else none

section Replies

variable {call : WaitCall}

@[simp] theorem replies_nil : replies call [] = [] := rfl

theorem replies_append (log more : List (MavHeader × MavMessage)) :
    replies call (log ++ more) = replies call log ++ replies call more := List.filterMap_append

theorem replies_singleton (entry : MavHeader × MavMessage) :
    replies call [entry] = if call.accepts entry.1 entry.2 then [entry.2] else [] := by
  by_cases haccepts : call.accepts entry.1 entry.2 <;> simp [replies, haccepts]

/-- Messages that a wait hears before its timer. -/
theorem accepted_map (call : WaitCall) (log : List (MavHeader × MavMessage)) (rest : List Heard) :
    accepted call (log.map (fun entry => .message entry.1 entry.2) ++ rest) =
      replies call log ++ accepted call rest := by
  induction log with
  | nil => rfl
  | cons entry log ih =>
      rw [← List.singleton_append, replies_append, replies_singleton, List.append_assoc, ← ih]
      show accepted call (.message entry.1 entry.2 :: _) = _
      rw [accepted]
      cases call.accepts entry.1 entry.2 <;> rfl

/-- The wait goes on behind messages it does not accept. -/
theorem waitForMessage_map {log : List (MavHeader × MavMessage)} (h : replies call log = [])
    (rest : List Heard) :
    waitForMessage call (log.map (fun entry => .message entry.1 entry.2) ++ rest) =
      waitForMessage call rest := by
  induction log with
  | nil => rfl
  | cons entry log ih =>
      rw [← List.singleton_append, replies_append, replies_singleton, List.append_eq_nil_iff] at h
      obtain ⟨hentry, hlog⟩ := h
      split at hentry
      · cases hentry
      · rename_i haccepts
        show waitForMessage call (.message entry.1 entry.2 :: _) = _
        rw [waitForMessage, if_neg haccepts]
        exact ih hlog

end Replies

/-- **No reply is missed**: from its request up to the message it returns, this is the only one the
    call would accept; and until its timer ends it there is none. -/
def NoReplyMissed (call : WaitCall) (s : Exchange) : Prop :=
  match s.caller with
  | .returned sent receiver message =>
      replies call ((s.inner.take receiver.next).drop sent) = [message]
  | .timedOut sent receiver => replies call ((s.inner.take receiver.next).drop sent) = []
  | .idle | .requested _ | .waiting _ _ => True

/-! ## 3. What a step does -/

/-- **All that a step can do** to the caller and BROADCAST_INNER. -/
inductive Goes (call : WaitCall) (s : Exchange) : ExchangeAction → Exchange → Prop where
  | quiet (a : ExchangeAction) (s' : Exchange) (hinner : s'.inner = s.inner)
      (hcaller : s'.caller = s.caller) : Goes call s a s'
  | send (s' : Exchange) (hat : s.caller = .idle) (hinner : s'.inner = s.inner)
      (hcaller : s'.caller = .requested s.inner.length) : Goes call s .send s'
  | update (entry : MavHeader × MavMessage) (rest : List (MavHeader × MavMessage))
      (hat : s.hub = entry :: rest) :
      Goes call s .update { s with hub := rest, inner := s.inner ++ [entry] }
  | subscribe (sent : Nat) (hat : s.caller = .requested sent) :
      Goes call s .subscribe { s with caller := .waiting sent (.subscribe s.inner) }
  | returned (sent : Nat) (receiver receiver' : Receiver) (entry : MavHeader × MavMessage)
      (hat : s.caller = .waiting sent receiver)
      (hrecv : receiver.recv? s.inner = some (entry, receiver'))
      (haccepts : call.accepts entry.1 entry.2 = true) :
      Goes call s .recv { s with caller := .returned sent receiver' entry.2 }
  | passed (sent : Nat) (receiver receiver' : Receiver) (entry : MavHeader × MavMessage)
      (hat : s.caller = .waiting sent receiver)
      (hrecv : receiver.recv? s.inner = some (entry, receiver'))
      (haccepts : call.accepts entry.1 entry.2 = false) :
      Goes call s .recv { s with caller := .waiting sent receiver' }
  | timeout (sent : Nat) (receiver : Receiver) (hat : s.caller = .waiting sent receiver)
      (hrecv : receiver.recv? s.inner = none) :
      Goes call s .timeout { s with caller := .timedOut sent receiver }

theorem goes_of_step {call : WaitCall} {s s' : Exchange} {a : ExchangeAction}
    (h : s.step call a = some s') : Goes call s a s' := by
  cases a with
  | send =>
      simp only [Exchange.step] at h
      split at h
      · rename_i hat
        cases h
        exact .send _ hat rfl rfl
      · cases h
  | forward | pass =>
      simp only [Exchange.step] at h
      split at h
      · cases h
      · cases h
        exact .quiet _ _ rfl rfl
  | request | arrive | restart =>
      cases h
      exact .quiet _ _ rfl rfl
  | update =>
      simp only [Exchange.step] at h
      split at h
      · cases h
      · rename_i entry rest hat
        cases h
        exact .update entry rest hat
  | subscribe =>
      simp only [Exchange.step] at h
      split at h
      · rename_i sent hat
        cases h
        exact .subscribe sent hat
      · cases h
  | recv =>
      simp only [Exchange.step] at h
      split at h
      · rename_i sent receiver hat
        obtain ⟨⟨entry, receiver'⟩, hrecv, rfl⟩ := Option.map_eq_some_iff.mp h
        cases haccepts : call.accepts entry.1 entry.2 with
        | true =>
            rw [Exchange.heard, if_pos haccepts]
            exact .returned sent receiver receiver' entry hat hrecv haccepts
        | false =>
            rw [Exchange.heard, if_neg (by rw [haccepts]; exact Bool.false_ne_true)]
            exact .passed sent receiver receiver' entry hat hrecv haccepts
      · cases h
  | timeout =>
      simp only [Exchange.step] at h
      split at h
      · rename_i sent receiver hat
        split at h
        · rename_i hrecv
          cases h
          exact .timeout sent receiver hat hrecv
        · cases h
      · cases h

/-! ## 4. What every run keeps -/

/-- When the request was sent, the receiver of the wait, and what it has accepted. -/
def Caller.wait? : Caller → Option (Nat × Receiver × List MavMessage)
  | .idle => none
  | .requested _ => none
  | .waiting sent receiver => some (sent, receiver, [])
  | .returned sent receiver message => some (sent, receiver, [message])
  | .timedOut sent receiver => some (sent, receiver, [])

/-- **Waits**: the wait subscribes behind the request, and has heard nothing it accepts but what it
    returns. -/
structure Waits (call : WaitCall) (s : Exchange) : Prop where
  requested : ∀ sent, s.caller = .requested sent → sent ≤ s.inner.length
  heard : ∀ sent receiver found, s.caller.wait? = some (sent, receiver, found) →
    sent ≤ receiver.start ∧ receiver.Within s.inner ∧
      replies call (receiver.seen s.inner) = found

section Steps

variable {call : WaitCall} {s s' : Exchange} {a : ExchangeAction}

/-- One message more that the wait hears. -/
theorem replies_recv {receiver receiver' : Receiver} {entry : MavHeader × MavMessage}
    (hwithin : receiver.Within s.inner) (hnone : replies call (receiver.seen s.inner) = [])
    (hrecv : receiver.recv? s.inner = some (entry, receiver')) :
    replies call (receiver'.seen s.inner) =
      if call.accepts entry.1 entry.2 then [entry.2] else [] := by
  rw [hwithin.seen_recv hrecv, replies_append, hnone, List.nil_append, replies_singleton]

theorem start_recv {receiver receiver' : Receiver} {entry : MavHeader × MavMessage}
    (hrecv : receiver.recv? s.inner = some (entry, receiver')) :
    receiver'.start = receiver.start := by
  obtain ⟨_, rfl⟩ := Receiver.recv?_eq_some.mp hrecv
  rfl

theorem waits_step (h : Waits call s) (hstep : s.step call a = some s') : Waits call s' := by
  cases goes_of_step hstep with
  | quiet _ _ hinner hcaller =>
      constructor
      · rw [hinner, hcaller]
        exact h.requested
      · rw [hinner, hcaller]
        exact h.heard
  | send _ hat hinner hcaller =>
      constructor
      · rw [hinner, hcaller]
        rintro _ ⟨⟩
        exact Nat.le_refl _
      · rw [hcaller]
        rintro _ _ _ ⟨⟩
  | update entry rest hat =>
      constructor
      · intro sent hcaller
        have hle := h.requested sent hcaller
        show sent ≤ (s.inner ++ [entry]).length
        rw [List.length_append]
        omega
      · intro sent receiver found hcaller
        obtain ⟨hle, hwithin, hseen⟩ := h.heard sent receiver found hcaller
        exact ⟨hle, hwithin.send [entry], by rw [hwithin.seen_send]; exact hseen⟩
  | subscribe sent hat =>
      constructor
      · rintro _ ⟨⟩
      · rintro _ _ _ ⟨⟩
        refine ⟨h.requested sent hat, Receiver.within_subscribe, ?_⟩
        rw [Receiver.seen_subscribe]
        rfl
  | returned sent receiver receiver' entry hat hrecv haccepts =>
      obtain ⟨hle, hwithin, hseen⟩ := h.heard sent receiver [] (by rw [hat]; rfl)
      constructor
      · rintro _ ⟨⟩
      · rintro _ _ _ ⟨⟩
        refine ⟨by rw [start_recv hrecv]; exact hle, hwithin.recv hrecv, ?_⟩
        rw [replies_recv hwithin hseen hrecv, if_pos haccepts]
  | passed sent receiver receiver' entry hat hrecv haccepts =>
      obtain ⟨hle, hwithin, hseen⟩ := h.heard sent receiver [] (by rw [hat]; rfl)
      constructor
      · rintro _ ⟨⟩
      · rintro _ _ _ ⟨⟩
        refine ⟨by rw [start_recv hrecv]; exact hle, hwithin.recv hrecv, ?_⟩
        rw [replies_recv hwithin hseen hrecv, haccepts]
        rfl
  | timeout sent receiver hat hrecv =>
      constructor
      · rintro _ ⟨⟩
      · rintro _ _ _ ⟨⟩
        exact h.heard sent receiver [] (by rw [hat]; rfl)

end Steps

theorem waits_start {call : WaitCall} : Waits call {} where
  requested := by rintro _ ⟨⟩
  heard := by rintro _ _ _ ⟨⟩

theorem waits_reach {call : WaitCall} {C : Exchange → ExchangeAction → Prop} {s : Exchange}
    (h : Reach (Exchange.step call) C {} s) : Waits call s :=
  h.inv waits_start fun _ _ _ hs _ hstep => waits_step hs hstep

section Outcomes

variable {call : WaitCall} {s : Exchange} {sent : Nat} {receiver : Receiver}

/-- The wait of the machine is `wait_for_message` on what its receiver has given. -/
theorem waitForMessage_of_returned {message : MavMessage} (h : Waits call s)
    (hcaller : s.caller = .returned sent receiver message) :
    waitForMessage call ((receiver.seen s.inner).map fun entry => .message entry.1 entry.2) =
      some (.ok message) := by
  obtain ⟨_, _, hseen⟩ := h.heard sent receiver [message] (by rw [hcaller]; rfl)
  have haccepted := accepted_map call (receiver.seen s.inner) []
  rw [List.append_nil, hseen] at haccepted
  rw [waitForMessage_ok, haccepted]
  rfl

theorem waitForMessage_of_timedOut (h : Waits call s)
    (hcaller : s.caller = .timedOut sent receiver) :
    waitForMessage call
        ((receiver.seen s.inner).map (fun entry => .message entry.1 entry.2) ++ [.elapsed]) =
      some (.error "deadline has elapsed") := by
  obtain ⟨_, _, hseen⟩ := h.heard sent receiver [] (by rw [hcaller]; rfl)
  rw [waitForMessage_map hseen]
  rfl

/-- The timer does not end a wait that has a message to look at. -/
theorem step_timeout_of_pending (hcaller : s.caller = .waiting sent receiver)
    (hpending : s.inner.drop receiver.next ≠ []) : s.step call .timeout = none := by
  have hlt : receiver.next < s.inner.length := by
    rw [ne_eq, List.drop_eq_nil_iff] at hpending
    omega
  simp [Exchange.step, hcaller, Receiver.recv?, hlt]

/-- **A wait that has a reply to look at returns it**, by receiving alone. -/
theorem returns_of_pending {message : MavMessage} (hcaller : s.caller = .waiting sent receiver)
    (hreply : (replies call (s.inner.drop receiver.next)).head? = some message) :
    ∃ receiver', Reach (Exchange.step call) (fun _ a => a = .recv) s
      { s with caller := .returned sent receiver' message } := by
  induction hpending : s.inner.drop receiver.next generalizing s receiver with
  | nil =>
      rw [hpending] at hreply
      cases hreply
  | cons entry rest ih =>
      have hentry : s.inner[receiver.next]? = some entry := by
        rw [← List.head?_drop, hpending]
        rfl
      have hrest : s.inner.drop (receiver.next + 1) = rest := by
        rw [← List.drop_drop, hpending]
        rfl
      have hstep : s.step call .recv =
          some (s.heard call sent (entry, { receiver with next := receiver.next + 1 })) := by
        simp [Exchange.step, hcaller, Receiver.recv?, hentry]
      rw [hpending, ← List.singleton_append, replies_append, replies_singleton] at hreply
      by_cases haccepts : call.accepts entry.1 entry.2 = true
      · rw [if_pos haccepts] at hreply
        cases hreply
        rw [Exchange.heard, if_pos haccepts] at hstep
        exact ⟨_, .next _ _ _ .start rfl hstep⟩
      · rw [if_neg haccepts, List.nil_append] at hreply
        rw [Exchange.heard, if_neg haccepts] at hstep
        obtain ⟨receiver', hreach⟩ := ih
          (s := { s with caller := .waiting sent { receiver with next := receiver.next + 1 } })
          rfl (by rw [hrest]; exact hreply) hrest
        exact ⟨receiver', .before rfl hstep hreach⟩

end Outcomes

/-! ## 5. The gap -/

/-- The messages between the request and the subscription. -/
def Exchange.gap (s : Exchange) : List (MavHeader × MavMessage) :=
  match s.caller with
  | .idle => []
  | .requested sent => s.inner.drop sent
  | .waiting sent receiver | .returned sent receiver _ | .timedOut sent receiver =>
      (s.inner.take receiver.start).drop sent

def Caller.finished : Caller → Bool
  | .returned _ _ _ | .timedOut _ _ => true
  | .idle | .requested _ | .waiting _ _ => false

def Caller.isRequested : Caller → Bool
  | .requested _ => true
  | .idle | .waiting _ _ | .returned _ _ _ | .timedOut _ _ => false

/-- **A reply is missed exactly when it comes into the gap.** -/
theorem noReplyMissed_iff {call : WaitCall} {s : Exchange} (h : Waits call s)
    (hfinished : s.caller.finished = true) :
    NoReplyMissed call s ↔ replies call s.gap = [] := by
  cases hcaller : s.caller with
  | idle | requested | waiting =>
      rw [hcaller] at hfinished
      cases hfinished
  | returned sent receiver message =>
      obtain ⟨hle, hwithin, hseen⟩ := h.heard sent receiver [message] (by rw [hcaller]; rfl)
      simp only [NoReplyMissed, Exchange.gap, hcaller]
      rw [hwithin.drop_take hle, replies_append, hseen, List.append_left_eq_self]
  | timedOut sent receiver =>
      obtain ⟨hle, hwithin, hseen⟩ := h.heard sent receiver [] (by rw [hcaller]; rfl)
      simp only [NoReplyMissed, Exchange.gap, hcaller]
      rw [hwithin.drop_take hle, replies_append, hseen, List.append_nil]

/-- **No reply is passed to `update` between request and subscription.** -/
def NotInGap (call : WaitCall) (s : Exchange) : ExchangeAction → Prop
  | .update => s.caller.isRequested = true → ∀ entry ∈ s.hub.head?,
      call.accepts entry.1 entry.2 = false
  | _ => True

section Gap

variable {call : WaitCall} {s s' : Exchange} {a : ExchangeAction}

theorem gap_step (hwaits : Waits call s) (h : replies call s.gap = []) (hC : NotInGap call s a)
    (hstep : s.step call a = some s') : replies call s'.gap = [] := by
  cases goes_of_step hstep with
  | quiet _ _ hinner hcaller =>
      unfold Exchange.gap at h ⊢
      rw [hinner, hcaller]
      exact h
  | send _ hat hinner hcaller =>
      simp [Exchange.gap, hinner, hcaller]
  | update entry rest hat =>
      cases hcaller : s.caller with
      | idle => rfl
      | requested sent =>
          have hle := hwaits.requested sent hcaller
          have hentry := hC (by rw [hcaller]; rfl) entry (by rw [hat]; rfl)
          simp only [Exchange.gap, hcaller] at h ⊢
          rw [List.drop_append_of_le_length hle, replies_append, h, replies_singleton, hentry]
          rfl
      | waiting sent receiver | timedOut sent receiver =>
          have hwithin := (hwaits.heard sent receiver _ (by rw [hcaller]; rfl)).2.1
          simp only [Exchange.gap, hcaller] at h ⊢
          rw [List.take_append_of_le_length (hwithin.start_le.trans hwithin.next_le)]
          exact h
      | returned sent receiver message =>
          have hwithin := (hwaits.heard sent receiver _ (by rw [hcaller]; rfl)).2.1
          simp only [Exchange.gap, hcaller] at h ⊢
          rw [List.take_append_of_le_length (hwithin.start_le.trans hwithin.next_le)]
          exact h
  | subscribe sent hat =>
      simp only [Exchange.gap, hat] at h
      show replies call ((s.inner.take s.inner.length).drop sent) = []
      rw [List.take_length]
      exact h
  | returned sent receiver receiver' entry hat hrecv haccepts
  | passed sent receiver receiver' entry hat hrecv haccepts =>
      simp only [Exchange.gap, hat] at h
      show replies call ((s.inner.take receiver'.start).drop sent) = []
      rw [start_recv hrecv]
      exact h
  | timeout sent receiver hat hrecv =>
      simp only [Exchange.gap, hat] at h
      exact h

theorem gap_reach (h : Reach (Exchange.step call) (NotInGap call) {} s) :
    Waits call s ∧ replies call s.gap = [] :=
  h.inv (I := fun s => Waits call s ∧ replies call s.gap = []) ⟨waits_start, rfl⟩
    fun _ _ _ hs hC hstep => ⟨waits_step hs.1 hstep, gap_step hs.1 hs.2 hC hstep⟩

end Gap

/-- **No reply is missed in a run in which none comes between request and subscription.** -/
theorem noReplyMissed_reach (call : WaitCall) {s : Exchange}
    (h : Reach (Exchange.step call) (NotInGap call) {} s) : NoReplyMissed call s := by
  obtain ⟨hwaits, hgap⟩ := gap_reach h
  cases hfinished : s.caller.finished with
  | true => exact (noReplyMissed_iff hwaits hfinished).mpr hgap
  | false =>
      unfold NoReplyMissed
      cases hcaller : s.caller with
      | idle | requested | waiting => trivial
      | returned | timedOut =>
          rw [hcaller] at hfinished
          cases hfinished

instance (call : WaitCall) (s : Exchange) : ∀ a, Decidable (NotInGap call s a)
  | .update => inferInstanceAs (Decidable (_ → ∀ entry ∈ s.hub.head?,
      call.accepts entry.1 entry.2 = false))
  | .send | .request _ | .forward | .arrive _ _ | .pass | .restart | .subscribe | .recv
  | .timeout => .isTrue trivial

instance (s : Exchange) (a : ExchangeAction) : Decidable (Free s a) := .isTrue trivial

/-- The autopilot 1/1 answers with its version. -/
def versionReply : ExchangeAction :=
  .arrive ⟨1, 1, 0⟩ (.autopilotVersion ⟨0, 0x04050100⟩)

/-- The answer to `version` comes when the call waits for it. -/
theorem noReplyMissed_reach_version : ∃ s, NoReplyMissed (versionCall none none) s ∧
    s.caller.finished = true ∧ (replies (versionCall none none) s.inner).length = 1 := by
  obtain ⟨s, hreach, hversion⟩ : ∃ s, Reach (Exchange.step (versionCall none none))
      (NotInGap (versionCall none none)) {} s ∧ (s.caller.finished = true ∧
        (replies (versionCall none none) s.inner).length = 1) :=
    exists_of_execC [.send, .forward, .update, .subscribe, versionReply, .update, .recv]
      (by decide +kernel)
  exact ⟨s, noReplyMissed_reach _ hreach, hversion⟩

/-- **The gap**: the answer is there before the call subscribes, and the call times out. -/
theorem replyMissed : ∃ s, Reach (Exchange.step (versionCall none none)) Free {} s ∧
    ¬ NoReplyMissed (versionCall none none) s := by
  obtain ⟨s, hreach, hfinished, hgap⟩ : ∃ s,
      Reach (Exchange.step (versionCall none none)) Free {} s ∧
      (s.caller.finished = true ∧ (replies (versionCall none none) s.gap).length = 1) :=
    exists_of_execC [.send, .forward, versionReply, .update, .update, .subscribe, .timeout]
      (by decide +kernel)
  refine ⟨s, hreach, fun hmissed => ?_⟩
  rw [(noReplyMissed_iff (waits_reach hreach) hfinished).mp hmissed] at hgap
  cases hgap

end MavlinkServer.Rest
