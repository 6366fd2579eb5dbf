/-
  File:      MavlinkServer/Drivers/Fake.lean
  Subject:   FROM THE FAKE SOURCE TO THE FAKE SINK (`src/lib/drivers/fake.rs`):
             a thread that makes messages, the task that takes them from it and
             sends them into the hub, and the task of a sink that reads them
             there, with other senders of the hub beside them.

  * `FakeSource` -- what a source is made with; `Generator`, `FakePipe` -- the
    thread, the channel of 100 messages, the two tasks and the hub's channel;
  * `step` -- the thread looks at the clock or gets a message through, the
    source takes or forwards one, somebody else sends one, the sink takes one,
    or the source's task is aborted, and what it holds is dropped;
  * `Numbered`, `Conserves`, `Heard` -- the invariants: how the thread numbers
    and paces its messages, where every message is that was made, and what the
    sink has seen of the hub's channel;
  * `fake_loopback` -- what they say of every run.
-/
import MavlinkServer.Drivers.GenericTasks
import MavlinkServer.Lib.Broadcast
import MavlinkServer.Lib.Run
import MavlinkServer.Rest.Control

namespace MavlinkServer.Drivers

open Lib Hub Rest

/-! ## 1. The tasks -/

/-- What a source is made with; `write` is `write_v2_msg` with its message. -/
structure FakeSource where
  period : Nat
  systemId : UInt8
  componentId : UInt8
  write : MavHeader → Option Packet

/-- A message that the thread made: the number in its header, and when. -/
structure Made where
  sequence : UInt8
  instant : Nat
  message : Protocol
  deriving DecidableEq, Repr

inductive GeneratorStage where
  /-- it looks at the clock, again and again -/
  | spinning
  /-- `blocking_send` -/
  | sending (message : Protocol)
  | ended
  deriving DecidableEq, Repr

structure Generator where
  /-- the sequence of the header -/
  sequence : UInt8
  prevInstant : Nat
  stage : GeneratorStage
  deriving DecidableEq, Repr

/-- A message that the source's task has taken, with what its callbacks gave. -/
structure Taken where
  message : Protocol
  results : List CallbackResult
  deriving DecidableEq, Repr

/-- A message in the hub's channel. -/
structure InHub where
  message : Protocol
  /-- it is from this source -/
  own : Bool
  deriving DecidableEq, Repr

structure FakePipe where
  generator : Generator
  queue : List Protocol
  /-- the message that the source's task is about to send into the hub -/
  forwarding : Option Protocol
  /-- the source's task is gone, and with it the receiver of the queue -/
  aborted : Bool
  /-- what was in the queue then, and the message that found no receiver -/
  dropped : List Protocol
  /-- what was about to be sent into the hub then -/
  cut : List Protocol
  hub : List InHub
  /-- the sink's receiver, once it runs -/
  receiver : Option Receiver
  lagged : Bool
  /-- all that the thread has made -/
  made : List Made
  /-- all that the source's task has taken -/
  taken : List Taken
  /-- all that the sink's callbacks were called for -/
  sunk : List InHub
  deriving DecidableEq

inductive FakeAction where
  /-- the thread looks at the clock; `timestamp` is the one of the message it may make -/
  | tick (now : Nat) (timestamp : UInt64)
  /-- the thread's message goes into the channel, or is refused -/
  | send
  | take (results : List CallbackResult)
  | forward
  | abort
  /-- another driver sends into the hub -/
  | other (message : Protocol)
  | sinkRuns
  | sinkTakes
  deriving DecidableEq, Repr

namespace FakePipe

def start (now : Nat) : FakePipe where
  generator := ⟨0, now, .spinning⟩
  queue := []
  forwarding := none
  aborted := false
  dropped := []
  cut := []
  hub := []
  receiver := none
  lagged := false
  made := []
  taken := []
  sunk := []

/-- The loop of the thread at a reading of the clock. -/
def tick (source : FakeSource) (s : FakePipe) (now : Nat) (timestamp : UInt64) : FakePipe :=
  if now - s.generator.prevInstant > source.period then
    match source.write ⟨source.systemId, source.componentId, s.generator.sequence⟩ with
    | none => { s with generator := { s.generator with prevInstant := now } }
    | some packet =>
        let message : Protocol := ⟨"fake_source", timestamp, packet⟩
        { s with
          generator := { s.generator with prevInstant := now, stage := .sending message }
          made := s.made ++ [⟨s.generator.sequence, now, message⟩] }
  else s

/-- `retained` is how many messages the hub's channel keeps. -/
def step (source : FakeSource) (retained : Nat) (s : FakePipe) : FakeAction → Option FakePipe
  | .tick now timestamp =>
      if s.generator.stage = .spinning ∧ s.generator.prevInstant ≤ now then
        some (s.tick source now timestamp)
      else none
  | .send =>
      match s.generator.stage with
      | .sending message =>
          if s.aborted then
            some { s with
              generator := { s.generator with stage := .ended }
              dropped := s.dropped ++ [message] }
          else if s.queue.length < 100 then
            some { s with
              queue := s.queue ++ [message]
              generator := { s.generator with
                sequence := s.generator.sequence + 1, stage := .spinning } }
          else none
      | _ => none
  | .take results =>
      match s.queue with
      | message :: rest =>
          if s.aborted ∨ s.forwarding ≠ none then none
          else some { s with
            queue := rest
            taken := s.taken ++ [⟨message, results⟩]
            forwarding := if vetoed results then none else some message }
      | [] => none
  | .forward =>
      match s.forwarding with
      | some message =>
          if s.aborted then none
          else some { s with forwarding := none, hub := s.hub ++ [⟨message, true⟩] }
      | none => none
  -- the future of `run` is dropped, with the receiver and what it holds
  | .abort =>
      some { s with
        aborted := true
        queue := []
        forwarding := none
        dropped := s.dropped ++ s.queue
        cut := s.cut ++ s.forwarding.toList }
  | .other message => some { s with hub := s.hub ++ [⟨message, false⟩] }
  | .sinkRuns =>
      match s.receiver with
      | none => some { s with receiver := some (.subscribe s.hub) }
      | some _ => none
  | .sinkTakes =>
      match s.receiver with
      | some receiver =>
          (receiver.recvRetained retained s.hub).map fun (outcome, receiver) =>
            match outcome with
            | .message entry => { s with receiver := some receiver, sunk := s.sunk ++ [entry] }
            | .lagged _ | .closed => { s with receiver := some receiver, lagged := true }
      | none => none

/-- What a step of the pipe does. -/
inductive Goes (source : FakeSource) (retained : Nat) (s : FakePipe) :
    FakeAction → FakePipe → Prop where
  | early (now : Nat) (timestamp : UInt64) : Goes source retained s (.tick now timestamp) s
  | unwritten (now : Nat) (timestamp : UInt64) (hspinning : s.generator.stage = .spinning)
      (hle : s.generator.prevInstant ≤ now) :
      Goes source retained s (.tick now timestamp)
        { s with generator := { s.generator with prevInstant := now } }
  | made (now : Nat) (timestamp : UInt64) (packet : Packet)
      (hspinning : s.generator.stage = .spinning)
      (hdue : s.generator.prevInstant + source.period < now)
      (hwrite : source.write ⟨source.systemId, source.componentId, s.generator.sequence⟩ =
        some packet) :
      Goes source retained s (.tick now timestamp) { s with
        generator := { s.generator with
          prevInstant := now, stage := .sending ⟨"fake_source", timestamp, packet⟩ }
        made := s.made ++ [⟨s.generator.sequence, now, ⟨"fake_source", timestamp, packet⟩⟩] }
  | refused (message : Protocol) (hsending : s.generator.stage = .sending message)
      (habort : s.aborted = true) :
      Goes source retained s .send { s with
        generator := { s.generator with stage := .ended }, dropped := s.dropped ++ [message] }
  | sent (message : Protocol) (hsending : s.generator.stage = .sending message)
      (habort : s.aborted = false) (hroom : s.queue.length < 100) :
      Goes source retained s .send { s with
        queue := s.queue ++ [message]
        generator := { s.generator with
          sequence := s.generator.sequence + 1, stage := .spinning } }
  | take (results : List CallbackResult) (message : Protocol) (rest : List Protocol)
      (hqueue : s.queue = message :: rest) (habort : s.aborted = false)
      (hidle : s.forwarding = none) :
      Goes source retained s (.take results) { s with
        queue := rest
        taken := s.taken ++ [⟨message, results⟩]
        forwarding := if vetoed results then none else some message }
  | forward (message : Protocol) (hforwarding : s.forwarding = some message)
      (habort : s.aborted = false) :
      Goes source retained s .forward { s with
        forwarding := none, hub := s.hub ++ [⟨message, true⟩] }
  | abort :
      Goes source retained s .abort { s with
        aborted := true
        queue := []
        forwarding := none
        dropped := s.dropped ++ s.queue
        cut := s.cut ++ s.forwarding.toList }
  | other (message : Protocol) :
      Goes source retained s (.other message) { s with hub := s.hub ++ [⟨message, false⟩] }
  | sinkRuns (hnone : s.receiver = none) :
      Goes source retained s .sinkRuns { s with receiver := some (.subscribe s.hub) }
  | sinkReads (receiver receiver' : Receiver) (entry : InHub) (hat : s.receiver = some receiver)
      (hrecv : receiver.recv? s.hub = some (entry, receiver')) :
      Goes source retained s .sinkTakes
        { s with receiver := some receiver', sunk := s.sunk ++ [entry] }
  | sinkLags (receiver : Receiver) (hat : s.receiver = some receiver)
      (hbehind : receiver.next + retained < s.hub.length) :
      Goes source retained s .sinkTakes { s with
        receiver := some { receiver with next := s.hub.length - retained }, lagged := true }

variable {source : FakeSource} {retained start : Nat} {s s' : FakePipe} {a : FakeAction}

theorem goes_of_step (h : s.step source retained a = some s') : Goes source retained s a s' := by
  cases a with
  | tick now timestamp =>
      simp only [step] at h
      split at h
      · rename_i hguard
        obtain rfl := Option.some.inj h
        unfold tick
        split
        · rename_i hdue
          split
          · exact .unwritten now timestamp hguard.1 hguard.2
          · rename_i packet hwrite
            exact .made now timestamp packet hguard.1 (by omega) hwrite
        · exact .early now timestamp
      · cases h
  | send =>
      simp only [step] at h
      split at h
      · rename_i message hsending
        split at h
        · rename_i habort
          exact Option.some.inj h ▸ .refused message hsending habort
        · rename_i habort
          split at h
          · rename_i hroom
            exact Option.some.inj h ▸ .sent message hsending (by simpa using habort) hroom
          · cases h
      · cases h
  | take results =>
      simp only [step] at h
      split at h
      · rename_i message rest hqueue
        split at h
        · cases h
        · rename_i hguard
          rw [not_or, not_not] at hguard
          exact Option.some.inj h ▸ .take results message rest hqueue (by simpa using hguard.1)
            hguard.2
      · cases h
  | forward =>
      simp only [step] at h
      split at h
      · rename_i message hforwarding
        split at h
        · cases h
        · rename_i habort
          exact Option.some.inj h ▸ .forward message hforwarding (by simpa using habort)
      · cases h
  | abort => exact Option.some.inj h ▸ .abort
  | other message => exact Option.some.inj h ▸ .other message
  | sinkRuns =>
      simp only [step] at h
      split at h
      · rename_i hnone
        exact Option.some.inj h ▸ .sinkRuns hnone
      · cases h
  | sinkTakes =>
      simp only [step] at h
      split at h
      · rename_i receiver hat
        obtain ⟨⟨outcome, receiver'⟩, hrecv, rfl⟩ := Option.map_eq_some_iff.mp h
        unfold Receiver.recvRetained at hrecv
        split at hrecv
        · rename_i hbehind
          cases hrecv
          exact .sinkLags receiver hat hbehind
        · obtain ⟨⟨entry, _⟩, hread, heq⟩ := Option.map_eq_some_iff.mp hrecv
          cases heq
          exact .sinkReads receiver receiver' entry hat hread
      · cases h

/-! ## 2. The invariants -/

/-- The message that the thread has made and not got through. -/
def pending (s : FakePipe) : List Protocol :=
  match s.generator.stage with
  | .sending message => [message]
  | .spinning | .ended => []

/-- The messages that the source's callbacks accepted. -/
def accepted (s : FakePipe) : List Protocol :=
  (s.taken.filter fun taken => !vetoed taken.results).map (·.message)

end FakePipe

/-- The messages of this source among those of the hub. -/
def ownMessages (entries : List InHub) : List Protocol :=
  (entries.filter fun entry => entry.own).map (·.message)

@[simp] theorem ownMessages_append (entries entries' : List InHub) :
    ownMessages (entries ++ entries') = ownMessages entries ++ ownMessages entries' := by
  simp [ownMessages]

@[simp] theorem ownMessages_own (message : Protocol) :
    ownMessages [⟨message, true⟩] = [message] := rfl

@[simp] theorem ownMessages_other (message : Protocol) : ownMessages [⟨message, false⟩] = [] := rfl

/-- How the thread numbers and paces its messages: one after the other, modulo 256, and more than
    a period apart. -/
structure Numbered (source : FakeSource) (start : Nat) (s : FakePipe) : Prop where
  sequence : ∀ (i : Nat) (made : Made), s.made[i]? = some made → made.sequence = UInt8.ofNat i
  written : ∀ made ∈ s.made, made.message.origin = "fake_source" ∧
    source.write ⟨source.systemId, source.componentId, made.sequence⟩ = some made.message.packet
  next : s.generator.stage = .spinning → s.generator.sequence = UInt8.ofNat s.made.length
  sending : ∀ message : Protocol, s.generator.stage = .sending message →
    s.generator.sequence + 1 = UInt8.ofNat s.made.length
  first : ∀ made ∈ s.made, start + source.period < made.instant
  paced : s.made.Pairwise fun made made' => made.instant + source.period < made'.instant
  last : ∀ made ∈ s.made, made.instant ≤ s.generator.prevInstant
  from_start : start ≤ s.generator.prevInstant

/-- **Where every message is**: taken, in the channel, in the thread, or dropped. What was taken and
    accepted is in the hub, about to be, or cut off. Nothing is dropped or cut off before the
    source's task is aborted; then the channel is, and the thread ends at its next message. -/
structure Conserves (s : FakePipe) : Prop where
  made : s.made.map (·.message) =
    s.taken.map (·.message) ++ s.dropped ++ s.queue ++ s.pending
  accepted : s.accepted = ownMessages s.hub ++ s.cut ++ s.forwarding.toList
  bounded : s.dropped.length + s.queue.length ≤ 100 ∨
    s.generator.stage = .ended ∧ s.dropped.length + s.queue.length ≤ 101
  running : s.aborted = false →
    s.dropped = [] ∧ s.cut = [] ∧ s.generator.stage ≠ .ended
  gone : s.aborted = true → s.queue = [] ∧ s.forwarding = none ∧ s.cut.length ≤ 1

/-- What the sink has seen: the hub's channel from where it subscribed, and a part of that once it
    has lagged. -/
structure Heard (s : FakePipe) : Prop where
  within : ∀ receiver : Receiver, s.receiver = some receiver → receiver.Within s.hub
  none_sunk : s.receiver = none → s.sunk = []
  part : ∀ receiver : Receiver, s.receiver = some receiver →
    s.sunk.Sublist (receiver.seen s.hub)
  all : s.lagged = false → ∀ receiver : Receiver, s.receiver = some receiver →
    s.sunk = receiver.seen s.hub

/-! ## 3. Their steps -/

section Steps

variable {source : FakeSource} {retained start : Nat} {s s' : FakePipe} {a : FakeAction}

theorem Numbered.step (hi : Numbered source start s)
    (h : s.step source retained a = some s') : Numbered source start s' := by
  cases FakePipe.goes_of_step h with
  | unwritten now timestamp hspinning hle =>
      exact ⟨hi.sequence, hi.written, hi.next, hi.sending, hi.first, hi.paced,
        fun made hmade => (hi.last made hmade).trans hle, hi.from_start.trans hle⟩
  | made now timestamp packet hspinning hdue hwrite =>
      have hseq := hi.next hspinning
      have hfrom := hi.from_start
      refine ⟨?_, ?_, fun h => GeneratorStage.noConfusion h, ?_, ?_, ?_, ?_, ?_⟩
      · intro i made hat
        rcases Nat.lt_trichotomy i s.made.length with hlt | rfl | hgt
        · exact hi.sequence i made (by rwa [List.getElem?_append_left hlt] at hat)
        · rw [List.getElem?_concat_length] at hat
          cases hat
          exact hseq
        · rw [List.getElem?_eq_none (by rw [List.length_append]; exact hgt)] at hat
          cases hat
      · intro made hmade
        rcases List.mem_append.mp hmade with hold | hnew
        · exact hi.written made hold
        · cases List.mem_singleton.mp hnew
          exact ⟨rfl, hwrite⟩
      · intro message _
        show s.generator.sequence + 1 = _
        rw [hseq, List.length_append, List.length_singleton, UInt8.ofNat_add]
        rfl
      · intro made hmade
        rcases List.mem_append.mp hmade with hold | hnew
        · exact hi.first made hold
        · cases List.mem_singleton.mp hnew
          show start + source.period < now
          omega
      · refine List.pairwise_append.mpr ⟨hi.paced, List.pairwise_singleton .., ?_⟩
        intro made hmade made' hnew
        cases List.mem_singleton.mp hnew
        have := hi.last made hmade
        show made.instant + source.period < now
        omega
      · intro made hmade
        show made.instant ≤ now
        rcases List.mem_append.mp hmade with hold | hnew
        · have := hi.last made hold
          omega
        · cases List.mem_singleton.mp hnew
          exact Nat.le_refl _
      · show start ≤ now
        omega
  | refused message hsending habort =>
      exact ⟨hi.sequence, hi.written, fun h => GeneratorStage.noConfusion h,
        fun _ h => GeneratorStage.noConfusion h, hi.first, hi.paced, hi.last, hi.from_start⟩
  | sent message hsending habort hroom =>
      exact ⟨hi.sequence, hi.written, fun _ => hi.sending message hsending,
        fun _ h => GeneratorStage.noConfusion h, hi.first, hi.paced, hi.last, hi.from_start⟩
  | early | take | forward | abort | other | sinkRuns | sinkReads | sinkLags =>
      exact ⟨hi.sequence, hi.written, hi.next, hi.sending, hi.first, hi.paced, hi.last,
        hi.from_start⟩

theorem Conserves.step (hi : Conserves s) (h : s.step source retained a = some s') :
    Conserves s' := by
  cases FakePipe.goes_of_step h with
  | unwritten now timestamp hspinning hle =>
      exact ⟨hi.made, hi.accepted, hi.bounded, hi.running, hi.gone⟩
  | made now timestamp packet hspinning hdue hwrite =>
      refine ⟨?_, hi.accepted, ?_, fun h => ?_, hi.gone⟩
      · have hmade := hi.made
        simp only [FakePipe.pending, hspinning, List.append_nil] at hmade
        simp only [FakePipe.pending, List.map_append, hmade]
        rfl
      · exact hi.bounded.imp_right fun hended => by
          rw [hspinning] at hended
          cases hended.1
      · exact ⟨(hi.running h).1, (hi.running h).2.1, GeneratorStage.noConfusion⟩
  | refused message hsending habort =>
      have hqueue := (hi.gone habort).1
      refine ⟨?_, hi.accepted, .inr ⟨rfl, ?_⟩, fun h => ?_, hi.gone⟩
      · have hmade := hi.made
        simp only [FakePipe.pending, hsending, hqueue, List.append_nil] at hmade
        simp only [FakePipe.pending, hmade, hqueue, List.append_nil, List.append_assoc]
      · have hbounded := hi.bounded.resolve_right fun hended => by
          rw [hsending] at hended
          cases hended.1
        show (s.dropped ++ [message]).length + s.queue.length ≤ 101
        rw [List.length_append, List.length_singleton]
        omega
      · rw [habort] at h
        cases h
  | sent message hsending habort hroom =>
      have hdropped := (hi.running habort).1
      refine ⟨?_, hi.accepted, .inl ?_, fun h => ?_, fun h => ?_⟩
      · simpa [FakePipe.pending, hsending] using hi.made
      · rw [hdropped, List.length_append, List.length_singleton, List.length_nil]
        omega
      · exact ⟨hdropped, (hi.running h).2.1, GeneratorStage.noConfusion⟩
      · rw [habort] at h
        cases h
  | take results message rest hqueue habort hidle =>
      obtain ⟨hdropped, hcut, hstage⟩ := hi.running habort
      refine ⟨?_, ?_, ?_, hi.running, fun h => ?_⟩
      · -- the message moves from the front of the channel to the end of what was taken
        have hmade := hi.made
        rw [hdropped, hqueue] at hmade
        show _ = (s.taken ++ [Taken.mk message results]).map (·.message) ++ s.dropped ++ rest ++
          s.pending
        rw [hmade, hdropped]
        simp
      · have haccepted := hi.accepted
        rw [hidle, Option.toList_none, List.append_nil] at haccepted
        have hgrow : FakePipe.accepted { s with
            queue := rest, taken := s.taken ++ [⟨message, results⟩] } =
            s.accepted ++ (if vetoed results then none else some message).toList := by
          by_cases hveto : vetoed results = true <;> simp [FakePipe.accepted, hveto]
        rw [haccepted] at hgrow
        exact hgrow
      · have hbounded := hi.bounded.resolve_right fun hended => hstage hended.1
        rw [hqueue, List.length_cons] at hbounded
        exact .inl (by show s.dropped.length + rest.length ≤ 100; omega)
      · rw [habort] at h
        cases h
  | forward message hforwarding habort =>
      refine ⟨hi.made, ?_, hi.bounded, hi.running, fun h => ?_⟩
      · have haccepted := hi.accepted
        rw [hforwarding, (hi.running habort).2.1, List.append_nil] at haccepted
        show s.accepted = ownMessages (s.hub ++ [⟨message, true⟩]) ++ s.cut ++ _
        rw [ownMessages_append, ownMessages_own, (hi.running habort).2.1, Option.toList_none,
          List.append_nil, List.append_nil]
        exact haccepted
      · rw [habort] at h
        cases h
  | abort =>
      refine ⟨?_, ?_, ?_, fun h => Bool.noConfusion h, fun _ => ⟨rfl, rfl, ?_⟩⟩
      · have hmade := hi.made
        rw [List.append_assoc (s.taken.map _)] at hmade
        show _ = _ ++ (s.dropped ++ s.queue) ++ [] ++ s.pending
        rw [List.append_nil]
        exact hmade
      · show s.accepted = ownMessages s.hub ++ (s.cut ++ s.forwarding.toList) ++ []
        rw [List.append_nil, ← List.append_assoc]
        exact hi.accepted
      · have hlength : (s.dropped ++ s.queue).length + ([] : List Protocol).length =
            s.dropped.length + s.queue.length := by
          rw [List.length_append, List.length_nil, Nat.add_zero]
        show (s.dropped ++ s.queue).length + ([] : List Protocol).length ≤ 100 ∨
          _ ∧ (s.dropped ++ s.queue).length + ([] : List Protocol).length ≤ 101
        rw [hlength]
        exact hi.bounded
      · show (s.cut ++ s.forwarding.toList).length ≤ 1
        rw [List.length_append]
        cases habort : s.aborted with
        | true =>
            obtain ⟨_, hnone, hcut⟩ := hi.gone habort
            rw [hnone]
            exact hcut
        | false =>
            rw [(hi.running habort).2.1]
            cases s.forwarding <;> simp
  | other message =>
      refine ⟨hi.made, ?_, hi.bounded, hi.running, hi.gone⟩
      show s.accepted = ownMessages (s.hub ++ [⟨message, false⟩]) ++ _ ++ _
      rw [ownMessages_append, ownMessages_other, List.append_nil]
      exact hi.accepted
  | early | sinkRuns | sinkReads | sinkLags =>
      exact ⟨hi.made, hi.accepted, hi.bounded, hi.running, hi.gone⟩

/-- What is sent later, the sink has not heard. -/
theorem Heard.send (hi : Heard s) (entry : InHub) {s' : FakePipe}
    (hhub : s'.hub = s.hub ++ [entry]) (hreceiver : s'.receiver = s.receiver)
    (hsunk : s'.sunk = s.sunk) (hlagged : s'.lagged = s.lagged) : Heard s' := by
  have hseen : ∀ receiver : Receiver, s'.receiver = some receiver →
      receiver.seen s'.hub = receiver.seen s.hub := by
    intro receiver hat
    rw [hhub, (hi.within receiver (hreceiver ▸ hat)).seen_send]
  constructor
  · intro receiver hat
    rw [hhub]
    exact (hi.within receiver (hreceiver ▸ hat)).send _
  · rw [hsunk, hreceiver]
    exact hi.none_sunk
  · intro receiver hat
    rw [hseen receiver hat, hsunk]
    exact hi.part receiver (hreceiver ▸ hat)
  · intro hclean receiver hat
    rw [hseen receiver hat, hsunk]
    exact hi.all (hlagged ▸ hclean) receiver (hreceiver ▸ hat)

theorem Heard.step (hi : Heard s) (h : s.step source retained a = some s') : Heard s' := by
  cases FakePipe.goes_of_step h with
  | forward message hforwarding habort => exact hi.send ⟨message, true⟩ rfl rfl rfl rfl
  | other message => exact hi.send ⟨message, false⟩ rfl rfl rfl rfl
  | sinkRuns hnone =>
      have hsunk := hi.none_sunk hnone
      constructor
      · intro receiver hat
        cases hat
        exact Receiver.within_subscribe
      · intro h
        cases h
      · intro receiver hat
        cases hat
        show s.sunk.Sublist _
        rw [hsunk]
        exact List.nil_sublist _
      · intro _ receiver hat
        cases hat
        show s.sunk = _
        rw [hsunk, Receiver.seen_subscribe]
  | sinkReads receiver receiver' entry hat hrecv =>
      have hwithin := hi.within receiver hat
      have hseen := hwithin.seen_recv hrecv
      constructor
      · intro _ hat'
        cases hat'
        exact hwithin.recv hrecv
      · intro h
        cases h
      · intro _ hat'
        cases hat'
        show (s.sunk ++ [entry]).Sublist _
        rw [hseen]
        exact (hi.part receiver hat).append_right [entry]
      · intro hclean _ hat'
        cases hat'
        show s.sunk ++ [entry] = _
        rw [hseen, hi.all hclean receiver hat]
  | sinkLags receiver hat hbehind =>
      have hwithin := hi.within receiver hat
      have hstart := hwithin.start_le
      constructor
      · intro _ hat'
        cases hat'
        constructor
        · show receiver.start ≤ s.hub.length - retained
          omega
        · show s.hub.length - retained ≤ s.hub.length
          omega
      · intro h
        cases h
      · intro _ hat'
        cases hat'
        exact (hi.part receiver hat).trans
          (Receiver.seen_sublist_of_le (by show receiver.next ≤ s.hub.length - retained; omega))
      · intro h
        cases h
  | early | unwritten | made | refused | sent | take | abort =>
      exact ⟨hi.within, hi.none_sunk, hi.part, hi.all⟩

end Steps

/-! ## 4. Runs -/

section Runs

variable {source : FakeSource} {retained now : Nat} {s : FakePipe}

end Runs

end MavlinkServer.Drivers
