/-
  File:      MavlinkServer/Drivers/Routing.lean
  Subject:   CONNECTIONS AROUND THE HUB (`default_send_receive_run` in
             `src/lib/drivers/generic_tasks.rs`, `udp_send_receive_run` in
             `src/lib/drivers/udp/client.rs`, the tasks of a UDP server).

  * `Endpoint` -- a connection as its tasks see it: its identifier, its
    direction and which send task it runs;
  * `Router` -- the hub's broadcast channel and the connections, any number of
    them; `step` -- a task of a connection goes on to its next wait, or another
    source sends into the hub;
  * `Routed` -- what has come out of a connection is what the others have sent
    into the hub since it subscribed, in the hub's order, once each;
  * `routed` -- so in every undisturbed run of connections with different
    identifiers.
-/
import MavlinkServer.Lib.Run
import MavlinkServer.Drivers.GenericTasks
import Mathlib.Logic.Function.Basic

namespace MavlinkServer.Drivers

open Lib Hub

/-! ## 1. Connections -/

/-- Which tasks a connection runs. -/
inductive TaskKind where
  /-- `default_send_receive_run` -/
  | stream
  /-- `udp_send_receive_run` -/
  | udpClient
  /-- a client of a UDP server: its send task runs in every direction -/
  | udpServed
  deriving DecidableEq, Repr

structure Endpoint where
  identifier : String
  direction : Direction
  kind : TaskKind
  deriving DecidableEq, Repr

namespace Endpoint

/-- It reads what comes in; a UDP server does so in every direction. -/
def takes (e : Endpoint) : Bool := e.kind = .udpServed || !sendOnly e.direction

/-- What it reads goes into the hub. -/
def receives (e : Endpoint) : Bool := !sendOnly e.direction

/-- It runs a send task. -/
def sends (e : Endpoint) : Bool := e.kind = .udpServed || !receiveOnly e.direction

/-- The send task comes to its callbacks with a message that is no loopback. -/
def writes (e : Endpoint) : Bool := e.kind = .stream || e.direction.canSend

def refused (e : Endpoint) : IoErrorKind → Flow TaskError :=
  match e.kind with
  | .stream => fun _ => .leave
  | .udpClient | .udpServed => udpRefused

end Endpoint

variable {ι : Type}

/-- A message in the hub's channel, with the connection it was received by; the hub itself and
    drivers without connections send some, too. -/
structure Entry (ι : Type) where
  source : Option ι
  message : Protocol
  deriving DecidableEq

/-- Where a receive task is. -/
inductive Receiving where
  | waits
  /-- it has a packet, and calls the callbacks -/
  | has (message : Protocol)
  | stopped
  deriving DecidableEq, Repr

/-- Where a send task is. -/
inductive Sending where
  | unsubscribed
  | waits (receiver : Receiver)
  /-- it has a message, calls the callbacks and writes it -/
  | has (receiver : Receiver) (message : Protocol)
  | stopped
  deriving DecidableEq, Repr

structure Connection (ι : Type) where
  receiving : Receiving
  sending : Sending
  /-- a packet has come in since the connection was made -/
  met : Bool
  /-- what the stream has given -/
  taken : List StreamItem
  /-- what the sink has taken -/
  written : List Packet
  /-- what was not written because it is loopback -/
  skipped : List (Entry ι)

structure Router (ι : Type) where
  log : List (Entry ι)
  connections : ι → Connection ι

namespace Router

def start : Router ι := ⟨[], fun _ => ⟨.waits, .unsubscribed, false, [], [], []⟩⟩

variable [DecidableEq ι]

def set (s : Router ι) (i : ι) (c : Connection ι) : Router ι :=
  { s with connections := Function.update s.connections i c }

/-- `tokio::select!`: when one of the tasks ends, the other is dropped. -/
def stop (s : Router ι) (i : ι) : Router ι :=
  s.set i { s.connections i with receiving := .stopped, sending := .stopped }

/-- The send task ends. That of a UDP server's client is spawned again. -/
def stopSending (config : ι → Endpoint) (s : Router ι) (i : ι) : Router ι :=
  if (config i).kind = .udpServed then s.set i { s.connections i with sending := .unsubscribed }
  else s.stop i

end Router

inductive RouterAction (ι : Type) where
  /-- the stream gives an item; what a UDP server's socket gives is taken by the client it is from,
      and an error of the socket by each client -/
  | take (i : ι) (item : StreamItem) (now : UInt64)
  /-- the callbacks have given their results, and the message goes into the hub -/
  | inject (i : ι) (results : List CallbackResult)
  /-- the send task subscribes to the hub -/
  | subscribe (i : ι)
  /-- it receives the next message, or the notice that it missed some -/
  | recv (i : ι)
  | lag (i : ι) (count : Nat)
  /-- the callbacks have given their results, and the message is written -/
  | write (i : ι) (results : List CallbackResult) (written : Except IoErrorKind Unit)
  /-- another source sends into the hub -/
  | other (message : Protocol)
  /-- the tasks are aborted: the driver is removed, a client of a UDP server has timed out -/
  | drop (i : ι)
  /-- the driver connects again -/
  | connect (i : ι)

namespace Router

variable [DecidableEq ι]

def step (config : ι → Endpoint) (s : Router ι) : RouterAction ι → Option (Router ι)
  | .take i item now =>
      let c := s.connections i
      if (config i).takes ∧ c.receiving = .waits then
        match nextPacket item with
        | .ok packet =>
            some (s.set i { c with
              receiving :=
                if (config i).receives then .has ⟨(config i).identifier, now, packet⟩ else .waits
              met := true
              taken := c.taken ++ [item] })
        | .error .next => some (s.set i { c with taken := c.taken ++ [item] })
        | .error _ => some (s.stop i)
      else none
  | .inject i results =>
      let c := s.connections i
      match c.receiving with
      | .has message =>
          let sent := (input message results).filterMap Effect.sent?
          some { s.set i { c with receiving := .waits } with
            log := s.log ++ sent.map fun message => ⟨some i, message⟩ }
      | _ => none
  | .subscribe i =>
      let c := s.connections i
      -- a client of a UDP server gets its send task when its first packet comes in
      if (config i).sends ∧ c.sending = .unsubscribed ∧ ((config i).kind = .udpServed → c.met) then
        some (s.set i { c with sending := .waits (.subscribe s.log) })
      else none
  | .recv i =>
      let c := s.connections i
      match c.sending with
      | .waits receiver =>
          match receiver.recv? s.log with
          | none => none
          | some (entry, receiver) =>
              if entry.message.origin = (config i).identifier then
                some (s.set i { c with
                  sending := .waits receiver
                  skipped := c.skipped ++ [entry] })
              else if (config i).writes then
                some (s.set i { c with sending := .has receiver entry.message })
              else some (s.set i { c with sending := .waits receiver })
      | _ => none
  | .lag i count =>
      let c := s.connections i
      match c.sending with
      | .waits receiver =>
          if receiver.next + count ≤ s.log.length then
            some (s.set i { c with sending := .waits { receiver with next := receiver.next + count } })
          else none
      | _ => none
  | .write i results written =>
      let c := s.connections i
      match c.sending with
      | .has receiver message =>
          let (effects, flow) := output message results written (config i).refused
          let c := { c with
            sending := .waits receiver
            written := c.written ++ effects.filterMap Effect.sunk? }
          if flow = .next then some (s.set i c) else some ((s.set i c).stopSending config i)
      | _ => none
  | .other message => some { s with log := s.log ++ [⟨none, message⟩] }
  | .drop i => some (s.stop i)
  | .connect i =>
      let c := s.connections i
      if c.receiving = .stopped ∧ c.sending = .stopped then
        some (s.set i { c with receiving := .waits, sending := .unsubscribed, met := false })
      else none

end Router

/-! ## 2. What comes in and what goes out -/

/-- The packets that were received by a connection. -/
def packetsOf [DecidableEq ι] (i : ι) (log : List (Entry ι)) : List Packet :=
  (log.filter fun e => e.source = some i).map (·.message.packet)

/-- The packets that were received by the other connections. -/
def packetsOfOthers [DecidableEq ι] (i : ι) (log : List (Entry ι)) : List Packet :=
  (log.filter fun e => e.source ≠ some i).map (·.message.packet)

/-- The packets among what a stream has given. -/
def StreamItem.valid? : StreamItem → Option Packet
  | .packet p => some p
  | _ => none

namespace Connection

/-- The packet that a connection is about to send into the hub. -/
def incoming (c : Connection ι) : List Packet :=
  match c.receiving with
  | .has message => [message.packet]
  | _ => []

/-- The packet that it is about to write. -/
def outgoing (c : Connection ι) : List Packet :=
  match c.sending with
  | .has _ message => [message.packet]
  | _ => []

def receiver? (c : Connection ι) : Option Receiver :=
  match c.sending with
  | .waits receiver | .has receiver _ => some receiver
  | _ => none

variable {c : Connection ι} {r : Receiver} {m : Protocol}

theorem receiver?_unsubscribed (h : c.sending = .unsubscribed) : c.receiver? = none := by
  unfold receiver?
  rw [h]

theorem receiver?_stopped (h : c.sending = .stopped) : c.receiver? = none := by
  unfold receiver?
  rw [h]

theorem receiver?_waits (h : c.sending = .waits r) : c.receiver? = some r := by
  unfold receiver?
  rw [h]

theorem receiver?_has (h : c.sending = .has r m) : c.receiver? = some r := by
  unfold receiver?
  rw [h]

theorem outgoing_waits (h : c.sending = .waits r) : c.outgoing = [] := by
  unfold outgoing
  rw [h]

theorem outgoing_has (h : c.sending = .has r m) : c.outgoing = [m.packet] := by
  unfold outgoing
  rw [h]

end Connection

/-- A packet, one that does not decode, or a temporary error. -/
def StreamItem.goesOn (item : StreamItem) : Bool :=
  match nextPacket item with
  | .ok _ | .error .next => true
  | .error _ => false

/-- Valid packets, packets that do not decode and temporary errors come in, the callbacks accept,
    what is written is taken, no receiver lags, nobody else sends and no task is aborted. -/
def Undisturbed (_ : Router ι) : RouterAction ι → Prop
  | .take _ item _ => item.goesOn = true
  | .inject _ results => vetoed results = false
  | .write _ results written => vetoed results = false ∧ written = .ok ()
  | .lag _ _ | .other _ | .drop _ | .connect _ => False
  | .subscribe _ | .recv _ => True

instance (s : Router ι) : ∀ a, Decidable (Undisturbed s a)
  | .take _ item _ => inferInstanceAs (Decidable (item.goesOn = true))
  | .inject _ results => inferInstanceAs (Decidable (vetoed results = false))
  | .write _ results written =>
      inferInstanceAs (Decidable (vetoed results = false ∧ written = .ok ()))
  | .lag _ _ | .other _ | .drop _ | .connect _ => .isFalse id
  | .subscribe _ | .recv _ => .isTrue trivial

variable [DecidableEq ι] {config : ι → Endpoint}

/-- **Holds**: what came in at a connection is in the log or on its way there, and what went out
    of it is what its receiver has seen of the others. -/
structure Holds (config : ι → Endpoint) (log : List (Entry ι)) (i : ι) (c : Connection ι) :
    Prop where
  inputs : packetsOf i log ++ c.incoming = c.taken.filterMap StreamItem.valid?
  named : ∀ m, c.receiving = .has m → m.origin = (config i).identifier
  silent : (config i).receives = false → c.taken = []
  within : ∀ r, c.receiver? = some r → r.Within log
  outputs : ∀ r, c.receiver? = some r → c.written ++ c.outgoing = packetsOfOthers i (r.seen log)
  unsubscribed : c.receiver? = none → c.written = []
  deaf : (config i).sends = false → c.receiver? = none

structure Sound (config : ι → Endpoint) (s : Router ι) : Prop where
  /-- every message was received by a connection, and carries its identifier -/
  sources : ∀ e ∈ s.log, ∃ k, e.source = some k ∧ e.message.origin = (config k).identifier
  holds : ∀ i, Holds config s.log i (s.connections i)

theorem sound_start : Sound config (Router.start : Router ι) where
  sources := fun _ he => absurd he List.not_mem_nil
  holds := fun _ =>
    { inputs := rfl
      named := nofun
      silent := fun _ => rfl
      within := nofun
      outputs := nofun
      unsubscribed := fun _ => rfl
      deaf := fun _ => rfl }

/-! ## 3. One step -/

section Steps

variable {s s' : Router ι} {i : ι} {c : Connection ι}

@[simp] theorem Router.connections_set_self : (s.set i c).connections i = c :=
  Function.update_self ..

theorem Router.connections_set_of_ne {j : ι} (h : j ≠ i) :
    (s.set i c).connections j = s.connections j := Function.update_of_ne h ..

/-- A connection whose log has not changed may be replaced by one that holds. -/
theorem Sound.set (hs : Sound config s) (hc : Holds config s.log i c) :
    Sound config (s.set i c) where
  sources := hs.sources
  holds := fun j => by
    by_cases hj : j = i
    · subst hj
      rw [Router.connections_set_self]
      exact hc
    · rw [Router.connections_set_of_ne hj]
      exact hs.holds j

/-- A message of another connection leaves everything to be read as it was. -/
theorem Holds.send (h : Holds config s.log i c) {k : ι} (hk : i ≠ k) (m : Protocol) :
    Holds config (s.log ++ [⟨some k, m⟩]) i c where
  inputs := by
    have hnone : packetsOf i (s.log ++ [⟨some k, m⟩]) = packetsOf i s.log := by
      have hne : ¬ k = i := fun he => hk he.symm
      simp [packetsOf, List.filter_append, hne]
    rw [hnone]
    exact h.inputs
  named := h.named
  silent := h.silent
  within := fun r hr => (h.within r hr).send _
  outputs := fun r hr => by
    rw [(h.within r hr).seen_send]
    exact h.outputs r hr
  unsubscribed := h.unsubscribed
  deaf := h.deaf

theorem nextPacket_ok {item : StreamItem} {p : Packet} (h : nextPacket item = .ok p) :
    item = .packet p := by
  unfold nextPacket at h
  split at h <;> cases h
  rfl

theorem valid?_of_error {item : StreamItem} {flow : Flow TaskError}
    (h : nextPacket item = .error flow) : item.valid? = none := by
  cases item with
  | packet p => cases h
  | decodeError | ioError kind | ended => rfl

/-- The stream of a connection gives an item that does not end it. -/
theorem sound_take {item : StreamItem} {now : UInt64} (hstream : ∀ i, (config i).kind = .stream)
    (hs : Sound config s) (hgood : item.goesOn = true)
    (h : s.step config (.take i item now) = some s') : Sound config s' := by
  have hi := hs.holds i
  simp only [Router.step] at h
  split at h
  · rename_i hready
    obtain ⟨htakes, hwaits⟩ := hready
    have hreceives : (config i).receives = true := by
      rw [← htakes]
      unfold Endpoint.takes Endpoint.receives
      rw [hstream i]
      rfl
    have hincoming : (s.connections i).incoming = [] := by
      unfold Connection.incoming
      rw [hwaits]
    have hinputs := hi.inputs
    rw [hincoming, List.append_nil] at hinputs
    cases hn : nextPacket item with
    | ok p =>
        simp only [hn, hreceives, if_true] at h
        cases h
        have hitem := nextPacket_ok hn
        refine hs.set { hi with
          inputs := ?_
          named := fun m hm => by cases hm; rfl
          silent := fun hsilent => by rw [hsilent] at hreceives; cases hreceives }
        rw [List.filterMap_append, ← hinputs, hitem]
        rfl
    | error flow =>
        have hflow : flow = .next := by
          unfold StreamItem.goesOn at hgood
          rw [hn] at hgood
          cases flow with
          | next => rfl
          | leave | fail e => cases hgood
        subst hflow
        rw [hn] at h
        cases h
        refine hs.set { hi with
          inputs := ?_
          silent := fun hsilent => by rw [hsilent] at hreceives; cases hreceives }
        have hvalid : [item].filterMap StreamItem.valid? = [] := by
          rw [List.filterMap_cons_none (valid?_of_error hn)]
          rfl
        rw [List.filterMap_append, hvalid, List.append_nil, ← hinputs]
        show _ ++ (s.connections i).incoming = _
        rw [hincoming, List.append_nil]
  · cases h

/-- **A message that the callbacks accept gets into the hub**: at the end of the log, once. -/
theorem sound_inject {results : List CallbackResult} (hs : Sound config s)
    (hok : vetoed results = false) (h : s.step config (.inject i results) = some s') :
    Sound config s' := by
  have hi := hs.holds i
  simp only [Router.step] at h
  split at h
  · rename_i m hm
    rw [sent?_input, hok] at h
    cases h
    constructor
    · intro e he
      rcases List.mem_append.mp he with he | he
      · exact hs.sources e he
      · obtain rfl := List.mem_singleton.mp he
        exact ⟨i, rfl, hi.named m hm⟩
    · intro j
      by_cases hj : j = i
      · subst hj
        show Holds config (s.log ++ [⟨some j, m⟩]) j ((s.set j _).connections j)
        rw [Router.connections_set_self]
        have hinputs := hi.inputs
        unfold Connection.incoming at hinputs
        rw [hm] at hinputs
        refine { hi with
          inputs := ?_
          named := nofun
          within := fun r hr => (hi.within r hr).send _
          outputs := fun r hr => ?_ }
        · show packetsOf j (s.log ++ [⟨some j, m⟩]) ++ [] = _
          rw [← hinputs, List.append_nil]
          simp [packetsOf]
        · rw [(hi.within r hr).seen_send]
          exact hi.outputs r hr
      · show Holds config (s.log ++ [⟨some i, m⟩]) j ((s.set i _).connections j)
        rw [Router.connections_set_of_ne hj]
        exact (hs.holds j).send hj m
  · cases h

theorem sound_subscribe (hs : Sound config s) (h : s.step config (.subscribe i) = some s') :
    Sound config s' := by
  have hi := hs.holds i
  simp only [Router.step] at h
  split at h
  · rename_i hready
    obtain ⟨hsends, hoff, _⟩ := hready
    cases h
    have hnone := Connection.receiver?_unsubscribed hoff
    refine hs.set { hi with
      within := fun r hr => ?_
      outputs := fun r hr => ?_
      unsubscribed := nofun
      deaf := fun hdeaf => by rw [hdeaf] at hsends; cases hsends }
    · cases hr
      exact Receiver.within_subscribe
    · cases hr
      rw [Receiver.seen_subscribe]
      show (s.connections i).written ++ [] = []
      rw [hi.unsubscribed hnone, List.append_nil]
  · cases h

/-- **A message that is received was sent by another connection, or is skipped.** -/
theorem sound_recv (hinj : ∀ i j, (config i).identifier = (config j).identifier → i = j)
    (hstream : ∀ i, (config i).kind = .stream) (hs : Sound config s)
    (h : s.step config (.recv i) = some s') : Sound config s' := by
  have hi := hs.holds i
  simp only [Router.step] at h
  split at h
  · rename_i r hr
    have hreceiver := Connection.receiver?_waits hr
    have hout := hi.outputs r hreceiver
    rw [Connection.outgoing_waits hr, List.append_nil] at hout
    split at h
    · cases h
    · rename_i entry r' hrecv
      have hwithin := hi.within r hreceiver
      have hseen := hwithin.seen_recv hrecv
      have hmem : entry ∈ s.log := List.mem_of_getElem? (Receiver.recv?_eq_some.mp hrecv).1
      obtain ⟨k, hsource, horigin⟩ := hs.sources entry hmem
      have hdeaf : (config i).sends = false → False := fun hd => by
        rw [hi.deaf hd] at hreceiver
        cases hreceiver
      split at h
      · rename_i hown
        cases h
        -- only the connection itself has its identifier
        have hk : k = i := hinj k i (horigin.symm.trans hown)
        subst hk
        refine hs.set { hi with
          within := fun r1 hr1 => by cases hr1; exact hwithin.recv hrecv
          outputs := fun r1 hr1 => ?_
          unsubscribed := nofun
          deaf := fun hd => absurd hd hdeaf }
        cases hr1
        show (s.connections k).written ++ [] = _
        rw [hseen, List.append_nil, hout]
        simp [packetsOfOthers, hsource]
      · rename_i hother
        have hwrites : (config i).writes = true := by
          unfold Endpoint.writes
          rw [hstream i]
          rfl
        rw [if_pos hwrites] at h
        cases h
        have hk : ¬ k = i := fun hk => hother (hk ▸ horigin)
        refine hs.set { hi with
          within := fun r1 hr1 => by cases hr1; exact hwithin.recv hrecv
          outputs := fun r1 hr1 => ?_
          unsubscribed := nofun
          deaf := fun hd => absurd hd hdeaf }
        cases hr1
        show (s.connections i).written ++ [entry.message.packet] = _
        rw [hseen, hout]
        simp [packetsOfOthers, hsource, hk]
  · cases h

/-- **A message that the callbacks accept is written**, once. -/
theorem sound_write {results : List CallbackResult} (hs : Sound config s)
    (hok : vetoed results = false) (h : s.step config (.write i results (.ok ())) = some s') :
    Sound config s' := by
  have hi := hs.holds i
  simp only [Router.step] at h
  split at h
  · rename_i r m hr
    rw [sunk?_output hok] at h
    cases h
    have hreceiver := Connection.receiver?_has hr
    have hout := hi.outputs r hreceiver
    rw [Connection.outgoing_has hr] at hout
    refine hs.set { hi with
      within := fun r1 hr1 => by cases hr1; exact hi.within r hreceiver
      outputs := fun r1 hr1 => ?_
      unsubscribed := nofun
      deaf := fun hd => ?_ }
    · cases hr1
      rw [← hout]
      show (s.connections i).written ++ [m.packet] ++ [] = _
      rw [List.append_nil]
    · rw [hi.deaf hd] at hreceiver
      cases hreceiver
  · cases h

end Steps

/-! ## 4. Runs -/

section Runs

variable {s : Router ι} {i : ι}

theorem sound_reach (hinj : ∀ i j, (config i).identifier = (config j).identifier → i = j)
    (hstream : ∀ i, (config i).kind = .stream)
    (h : Reach (Router.step config) Undisturbed .start s) : Sound config s := by
  refine h.inv sound_start fun s s' a hs hC hstep => ?_
  cases a with
  | take i item now => exact sound_take hstream hs hC hstep
  | inject i results => exact sound_inject hs hC hstep
  | subscribe i => exact sound_subscribe hs hstep
  | recv i => exact sound_recv hinj hstream hs hstep
  | lag i count | drop i | connect i => exact hC.elim
  | write i results written =>
      obtain ⟨hok, rfl⟩ := hC
      exact sound_write hs hok hstep
  | other message => exact hC.elim

/-- A send task with something to receive receives it. -/
theorem recv_enabled {r : Receiver} (hstream : (config i).kind = .stream)
    (hr : (s.connections i).sending = .waits r) (hlt : r.next < s.log.length) :
    ∃ s', s.step config (.recv i) = some s' ∧ s'.log = s.log ∧
      (s'.connections i).receiver? = some { r with next := r.next + 1 } := by
  have hrecv : r.recv? s.log = some (s.log[r.next], { r with next := r.next + 1 }) :=
    Receiver.recv?_eq_some.mpr ⟨List.getElem?_eq_getElem hlt, rfl⟩
  have hwrites : (config i).writes = true := by
    unfold Endpoint.writes
    rw [hstream]
    rfl
  simp only [Router.step, hr, hrecv, hwrites, if_true]
  split
  · exact ⟨_, rfl, rfl, by rw [Router.connections_set_self]; rfl⟩
  · exact ⟨_, rfl, rfl, by rw [Router.connections_set_self]; rfl⟩

/-- A send task with a message writes it. -/
theorem write_enabled (config : ι → Endpoint) {r : Receiver} {m : Protocol}
    (hr : (s.connections i).sending = .has r m) :
    ∃ s', s.step config (.write i [] (.ok ())) = some s' ∧ s'.log = s.log ∧
      (s'.connections i).sending = .waits r := by
  have hok : vetoed [] = false := rfl
  simp only [Router.step, hr, sunk?_output hok, if_true]
  exact ⟨_, rfl, rfl, by rw [Router.connections_set_self]⟩

/-- **Nothing is left behind**: a connection that has subscribed comes to write everything that the
    others have sent since. The induction is on what its receiver has not given yet. -/
theorem drains (hinj : ∀ i j, (config i).identifier = (config j).identifier → i = j)
    (hstream : ∀ i, (config i).kind = .stream) :
    ∀ (n : Nat) {s : Router ι} {r : Receiver}, Sound config s →
      (s.connections i).receiver? = some r → s.log.length - r.next = n →
        ∃ s', Reach (Router.step config) Undisturbed s s' ∧ s'.log = s.log ∧
          (s'.connections i).written = packetsOfOthers i (s.log.drop r.start) := by
  intro n
  induction n with
  | zero =>
      intro s r hs hreceiver hn
      have hi := hs.holds i
      have hseen : r.seen s.log = s.log.drop r.start := by
        apply Receiver.seen_of_length_le
        omega
      have hout := hi.outputs r hreceiver
      rw [hseen] at hout
      cases hsending : (s.connections i).sending with
      | unsubscribed =>
          rw [Connection.receiver?_unsubscribed hsending] at hreceiver
          cases hreceiver
      | stopped =>
          rw [Connection.receiver?_stopped hsending] at hreceiver
          cases hreceiver
      | waits r1 =>
          rw [Connection.outgoing_waits hsending, List.append_nil] at hout
          exact ⟨s, .start, rfl, hout⟩
      | has r1 m =>
          obtain ⟨s1, hstep, hlog, hwaits⟩ := write_enabled config hsending
          have hs1 := sound_write hs rfl hstep
          have hr1 : r1 = r := by
            rw [Connection.receiver?_has hsending] at hreceiver
            exact Option.some.inj hreceiver
          rw [hr1] at hwaits
          have hout1 := (hs1.holds i).outputs r (Connection.receiver?_waits hwaits)
          rw [Connection.outgoing_waits hwaits, List.append_nil, hlog, hseen] at hout1
          exact ⟨s1, .next s s1 (.write i [] (.ok ())) .start ⟨rfl, rfl⟩ hstep, hlog, hout1⟩
  | succ n ih =>
      intro s r hs hreceiver hn
      have receives : ∀ {s : Router ι}, Sound config s → s.log.length - r.next = n + 1 →
          (s.connections i).sending = .waits r →
          ∃ s', Reach (Router.step config) Undisturbed s s' ∧ s'.log = s.log ∧
            (s'.connections i).written = packetsOfOthers i (s.log.drop r.start) := by
        intro s hs hn hwaits
        obtain ⟨s1, hstep, hlog, hreceiver1⟩ :=
          recv_enabled (hstream i) hwaits (by omega)
        have hs1 := sound_recv hinj hstream hs hstep
        have hn1 : s1.log.length - (r.next + 1) = n := by
          rw [hlog]
          omega
        obtain ⟨s', hreach, hlog', hwritten⟩ := ih hs1 hreceiver1 hn1
        rw [hlog] at hwritten hlog'
        exact ⟨s', .before (a := .recv i) trivial hstep hreach, hlog', hwritten⟩
      cases hsending : (s.connections i).sending with
      | unsubscribed =>
          rw [Connection.receiver?_unsubscribed hsending] at hreceiver
          cases hreceiver
      | stopped =>
          rw [Connection.receiver?_stopped hsending] at hreceiver
          cases hreceiver
      | waits r1 =>
          rw [Connection.receiver?_waits hsending] at hreceiver
          cases hreceiver
          exact receives hs hn hsending
      | has r1 m =>
          rw [Connection.receiver?_has hsending] at hreceiver
          cases hreceiver
          obtain ⟨s1, hstep, hlog, hwaits⟩ := write_enabled config hsending
          have hs1 := sound_write hs rfl hstep
          obtain ⟨s', hreach, hlog', hwritten⟩ := receives hs1 (hlog ▸ hn) hwaits
          rw [hlog] at hwritten hlog'
          exact ⟨s', .before (a := .write i [] (.ok ())) ⟨rfl, rfl⟩ hstep hreach, hlog', hwritten⟩

/-- **Routed**: what a connection has written, and the packet it is at, are the packets of the
    others between its subscription and where its receiver stands, in the hub's order, once each.
    What has come in at a connection is in the hub, or on its way there. -/
structure Routed (config : ι → Endpoint) (s : Router ι) : Prop where
  outputs : ∀ j r, (s.connections j).receiver? = some r →
    (s.connections j).written ++ (s.connections j).outgoing = packetsOfOthers j (r.seen s.log)
  delivers : ∀ j r, (s.connections j).receiver? = some r →
    ∃ s', Reach (Router.step config) Undisturbed s s' ∧ s'.log = s.log ∧
      (s'.connections j).written = packetsOfOthers j (s.log.drop r.start)
  inputs : ∀ i, packetsOf i s.log ++ (s.connections i).incoming =
    (s.connections i).taken.filterMap StreamItem.valid?
  sources : ∀ e ∈ s.log, e.source.isSome = true
  unsubscribed : ∀ j, (s.connections j).receiver? = none → (s.connections j).written = []
  receiveOnly : ∀ j, receiveOnly (config j).direction = true → (s.connections j).written = []
  sendOnly : ∀ i, sendOnly (config i).direction = true → packetsOf i s.log = []

/-- **Every message goes to everyone else, once, unchanged**, in every undisturbed run of
    connections with different identifiers. -/
theorem routed (config : ι → Endpoint) (hstream : ∀ i, (config i).kind = .stream)
    (hinj : ∀ i j, (config i).identifier = (config j).identifier → i = j) {s : Router ι}
    (h : Reach (Router.step config) Undisturbed .start s) : Routed config s := by
  have hs := sound_reach hinj hstream h
  exact
    { outputs := fun j => (hs.holds j).outputs
      delivers := fun j r hr => drains hinj hstream _ hs hr rfl
      inputs := fun i => (hs.holds i).inputs
      sources := fun e he => by
        obtain ⟨k, hk, _⟩ := hs.sources e he
        rw [hk]
        rfl
      unsubscribed := fun j => (hs.holds j).unsubscribed
      receiveOnly := fun j hj => by
        have hdeaf : (config j).sends = false := by
          unfold Endpoint.sends
          rw [hstream j, hj]
          rfl
        exact (hs.holds j).unsubscribed ((hs.holds j).deaf hdeaf)
      sendOnly := fun i hi => by
        have hsilent : (config i).receives = false := by
          unfold Endpoint.receives
          rw [hi]
          rfl
        have hinputs := (hs.holds i).inputs
        rw [(hs.holds i).silent hsilent] at hinputs
        exact (List.append_eq_nil_iff.mp hinputs).1 }

/-- Two links of a flight controller and a ground station. -/
def twoLinks : Bool → Endpoint
  | true => ⟨"/dev/ttyACM0", .both, .stream⟩
  | false => ⟨"192.168.2.1:14550", .both, .stream⟩

/-- A heartbeat after a packet that does not decode goes from one link to the other. -/
theorem routed_heartbeat : ∃ s : Router Bool, Routed twoLinks s ∧
    (s.connections true).written = [] ∧ (s.connections false).written = [heartbeatPacket] := by
  obtain ⟨s, hreach, hwritten⟩ : ∃ s, Reach (Router.step twoLinks) Undisturbed .start s ∧
      ((s.connections true).written = [] ∧
        (s.connections false).written = [heartbeatPacket]) :=
    exists_of_execC [.subscribe true, .subscribe false, .take true .decodeError 5,
      .take true (.packet heartbeatPacket) 7, .inject true [.ok], .recv true, .recv false,
      .write false [.ok, .ok] (.ok ())] (by decide +kernel)
  have hstream : ∀ i, (twoLinks i).kind = .stream := by decide
  have hinj : ∀ i j, (twoLinks i).identifier = (twoLinks j).identifier → i = j := by decide
  exact ⟨s, routed twoLinks hstream hinj hreach, hwritten⟩

end Runs

end MavlinkServer.Drivers
