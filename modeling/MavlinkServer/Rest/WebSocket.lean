/-
  File:      MavlinkServer/Rest/WebSocket.lean
  Subject:   THE TEXTS OF THE REST WEBSOCKET
             (`src/lib/web/routes/v1/rest/websocket.rs`, and `receive_task` and
             `send_task` in `src/lib/drivers/rest/mod.rs`).

  A text takes two ways: `broadcast` relays it to the other clients, and
  `message_tx` brings it to the driver, which sends it into the hub, from where
  `send_task` takes every message that does not come from "Ws" to all clients.

  * `WebSocket`, `step` -- the table of clients, their channels, their tasks,
    the two channels of the driver and its tasks, one action each; `Goes` --
    all that a step can do;
  * `Text` -- what is noted of a text: who sent it, the table its relay read,
    who is left, and whose channel was closed;
  * `NotReinjected` -- no other sender of the hub sends a text again;
  * `Relays`, `Loopback` -- the invariants of the two ways;
  * `relayed_once` -- in every reached state.

  Identifiers are numbers: `Uuid::new_v4` gives a new one, `Uuid::new_v5` none
  of these. A message carries its `Source`, which no step looks at.
-/
import MavlinkServer.Lib.Run
import Mathlib.Logic.Function.Basic

namespace MavlinkServer.Rest

open Lib

/-! ## 1. The machine -/

/-- Where a message came from. -/
inductive Source where
  /-- the text with this number -/
  | text (number : Nat)
  /-- `websocket::send` -/
  | posted
  /-- another sender of the hub -/
  | driver
  deriving DecidableEq, Repr

def Source.isText : Source → Bool
  | .text _ => true
  | _ => false

structure Tagged where
  text : String
  source : Source
  deriving DecidableEq, Repr

/-- The identifiers `broadcast` compares. -/
inductive Identifier where
  | v4 (client : Nat)
  /-- `Uuid::new_v5(NAMESPACE_URL, "Ws")` -/
  | v5
  deriving DecidableEq, Repr

/-- The channel of a client: what was put into it, and whether its receiver is gone. -/
structure Channel where
  queue : List Tagged := []
  closed : Bool := false
  deriving DecidableEq, Repr

/-- `tx.send`: an error, and nothing else, when the receiver is gone. -/
def Channel.send (channel : Channel) (message : Tagged) : Channel :=
  if channel.closed then channel else { channel with queue := channel.queue ++ [message] }

/-- How often a text was put into a channel. -/
def Channel.copies (channel : Channel) (number : Nat) : Nat :=
  channel.queue.countP fun message => message.source = .text number

/-- Where the task of a client stands. -/
inductive Connection where
  | absent
  /-- `receiver.next()` -/
  | reading
  /-- in front of the read lock of `broadcast` -/
  | waiting (message : Tagged)
  /-- in the loop of `broadcast`, with these clients left -/
  | sending (message : Tagged) (left : List Nat)
  /-- in front of the write lock behind the loop -/
  | leaving
  | gone
  deriving DecidableEq, Repr

/-- The message a task relays. -/
def Connection.message? : Connection → Option Tagged
  | .waiting message => some message
  | .sending message _ => some message
  | _ => none

structure HubMessage (Packet : Type) where
  origin : String
  packet : Packet
  source : Source
  deriving Repr

/-- Where `send_task` stands. -/
inductive SendTask where
  | idle
  /-- in front of `has_clients` -/
  | rendered (message : Tagged)
  | waiting (message : Tagged)
  | sending (message : Tagged) (left : List Nat)
  deriving DecidableEq, Repr

def SendTask.message? : SendTask → Option Tagged
  | .idle => none
  | .rendered message => some message
  | .waiting message => some message
  | .sending message _ => some message

/-- What is noted of a text. -/
structure Text where
  client : Nat
  text : String
  /-- the clients when its relay read the table -/
  table : Option (List Nat) := none
  left : List Nat := []
  /-- the clients whose channel was closed at their turn -/
  refused : List Nat := []
  finished : Bool := false
  deriving DecidableEq, Repr

/-- The turn of one client in the loop that relays the text. -/
def Text.turn (t : Text) (target : Nat) (closed : Bool) : Text :=
  { t with
    left := t.left.erase target
    refused := if closed ∧ target ≠ t.client then target :: t.refused else t.refused }

/-- The clients a text has been put into the channel of. -/
def Text.Relayed (t : Text) (client : Nat) : Prop :=
  client ∈ t.table.getD [] ∧ client ∉ t.left ∧ client ≠ t.client ∧ client ∉ t.refused

instance (t : Text) (client : Nat) : Decidable (t.Relayed client) :=
  inferInstanceAs (Decidable (_ ∧ _ ∧ _ ∧ _))

structure WebSocket (Packet : Type) where
  clients : List Nat := []
  /-- how many identifiers were given -/
  connected : Nat := 0
  channels : Nat → Channel := fun _ => {}
  connections : Nat → Connection := fun _ => .absent
  /-- read guards of `clients` that are out -/
  readers : Nat := 0
  messageTx : List Tagged := []
  /-- what `receive_task` has read of it -/
  received : Nat := 0
  hub : List (HubMessage Packet) := []
  /-- what `send_task` has read of it -/
  taken : Nat := 0
  sendTask : SendTask := .idle
  texts : Nat → Option Text := fun _ => none
  numbers : Nat := 0

inductive WebSocketAction (Packet : Type) where
  | connect
  | text (client : Nat) (text : String)
  /-- `clients.read()` in `broadcast`, one turn of its loop, and its end -/
  | read (client : Nat)
  | relay (client target : Nat)
  | finish (client : Nat)
  /-- a Close frame, or the end of the stream -/
  | close (client : Nat)
  | remove (client : Nat)
  /-- the send task of a client ends, and drops the receiver of its channel -/
  | drop (client : Nat)
  | post (text : String)
  | receive
  /-- another sender of the hub -/
  | hub (message : HubMessage Packet)
  /-- `hub_receiver.recv()`; a callback may refuse the message -/
  | take (vetoed : Bool)
  | hasClients
  | readAll
  | relayAll (target : Nat)
  | finishAll
  /-- the tasks of the driver end and are started again -/
  | restart
  deriving Repr

namespace WebSocket

variable {Packet : Type} (s : WebSocket Packet)

def setConnection (client : Nat) (connection : Connection) : WebSocket Packet :=
  { s with connections := Function.update s.connections client connection }

/-- Note something of the text that a message carries. -/
def noteSource (message : Tagged) (f : Text → Text) : WebSocket Packet :=
  { s with
    texts :=
      match message.source with
      | .text number => Function.update s.texts number ((s.texts number).map f)
      | .posted => s.texts
      | .driver => s.texts }

/-- One turn of the loop in `broadcast`. -/
def enqueue (sender : Identifier) (message : Tagged) (target : Nat) : WebSocket Packet :=
  { s with
    channels := Function.update s.channels target
      (if .v4 target ≠ sender then (s.channels target).send message else s.channels target) }

/-- What the turn means for the text it carries. -/
def noteTurn (message : Tagged) (target : Nat) : WebSocket Packet :=
  s.noteSource message fun t => t.turn target (s.channels target).closed

/-- `broadcast` up to its loop. -/
def readTable (client : Nat) (message : Tagged) : WebSocket Packet :=
  { (s.noteSource message fun t =>
      { t with table := some s.clients, left := s.clients }).setConnection
      client (.sending message s.clients) with readers := s.readers + 1 }

/-- The loop of `broadcast` at one client of the table. -/
def relayTo (client : Nat) (message : Tagged) (left : List Nat) (target : Nat) : WebSocket Packet :=
  ((s.noteTurn message target).enqueue (.v4 client) message target).setConnection client
    (.sending message (left.erase target))

/-- The end of `broadcast`. -/
def finishRelay (client : Nat) (message : Tagged) : WebSocket Packet :=
  { (s.noteSource message fun t => { t with finished := true }).setConnection client .reading with
    readers := s.readers - 1 }

/-- The text a client sent, on both of its ways. -/
def receiveText (client : Nat) (text : String) : WebSocket Packet :=
  { s.setConnection client (.waiting ⟨text, .text s.numbers⟩) with
    messageTx := s.messageTx ++ [⟨text, .text s.numbers⟩]
    texts := Function.update s.texts s.numbers (some { client, text })
    numbers := s.numbers + 1 }

/-- `receive_task` on one text; one that is no message is dropped. -/
def receiveTask (parse : String → Option Packet) (message : Tagged) : WebSocket Packet :=
  match parse message.text with
  | none => { s with received := s.received + 1 }
  | some packet =>
      { s with received := s.received + 1, hub := s.hub ++ [⟨"Ws", packet, message.source⟩] }

/-- `send_task` on one message: its own texts are left out, as are messages that a callback refuses
    or that have no JSON. -/
def sendTaskStep (render : Packet → Option String) (vetoed : Bool) (message : HubMessage Packet) :
    WebSocket Packet :=
  if message.origin = "Ws" ∨ vetoed then { s with taken := s.taken + 1 }
  else
    match render message.packet with
    | none => { s with taken := s.taken + 1 }
    | some text =>
        { s with taken := s.taken + 1, sendTask := .rendered ⟨text, message.source⟩ }

def step (parse : String → Option Packet) (render : Packet → Option String) (s : WebSocket Packet) :
    WebSocketAction Packet → Option (WebSocket Packet)
  | .connect =>
      if s.readers = 0 then
        some { s.setConnection s.connected .reading with
          clients := s.clients ++ [s.connected]
          connected := s.connected + 1 }
      else none
  | .text client text =>
      if s.connections client = .reading then some (s.receiveText client text) else none
  | .read client =>
      match s.connections client with
      | .waiting message => some (s.readTable client message)
      | _ => none
  | .relay client target =>
      match s.connections client with
      | .sending message left =>
          if target ∈ left then some (s.relayTo client message left target) else none
      | _ => none
  | .finish client =>
      match s.connections client with
      | .sending message [] => some (s.finishRelay client message)
      | _ => none
  | .close client =>
      if s.connections client = .reading then some (s.setConnection client .leaving) else none
  | .remove client =>
      if s.connections client = .leaving ∧ s.readers = 0 then
        some { s.setConnection client .gone with clients := s.clients.erase client }
      else none
  | .drop client =>
      some { s with
        channels := Function.update s.channels client { s.channels client with closed := true } }
  | .post text => some { s with messageTx := s.messageTx ++ [⟨text, .posted⟩] }
  | .receive => (s.messageTx[s.received]?).map (s.receiveTask parse)
  | .hub message => some { s with hub := s.hub ++ [message] }
  | .take vetoed =>
      if s.sendTask = .idle then (s.hub[s.taken]?).map (s.sendTaskStep render vetoed) else none
  | .hasClients =>
      match s.sendTask with
      | .rendered message =>
          some { s with sendTask := if s.clients.isEmpty then .idle else .waiting message }
      | _ => none
  | .readAll =>
      match s.sendTask with
      | .waiting message =>
          some { s with sendTask := .sending message s.clients, readers := s.readers + 1 }
      | _ => none
  | .relayAll target =>
      match s.sendTask with
      | .sending message left =>
          if target ∈ left then
            some { s.enqueue .v5 message target with
              sendTask := .sending message (left.erase target) }
          else none
      | _ => none
  | .finishAll =>
      match s.sendTask with
      | .sending _ [] => some { s with sendTask := .idle, readers := s.readers - 1 }
      | _ => none
  | .restart =>
      match s.sendTask with
      | .sending _ _ => none
      | _ => some { s with
          received := s.messageTx.length, taken := s.hub.length, sendTask := .idle }

/-- **No other sender of the hub sends one of the texts again.** -/
def NotReinjected (_ : WebSocket Packet) : WebSocketAction Packet → Prop
  | .hub message => message.source.isText = false
  | _ => True

instance (s : WebSocket Packet) : ∀ a, Decidable (s.NotReinjected a)
  | .hub message => inferInstanceAs (Decidable (message.source.isText = false))
  | .connect | .text _ _ | .read _ | .relay _ _ | .finish _ | .close _ | .remove _ | .drop _
  | .post _ | .receive | .take _ | .hasClients | .readAll | .relayAll _ | .finishAll | .restart =>
      isTrue trivial

/-- **All that a step can do.** -/
inductive Goes (parse : String → Option Packet) (render : Packet → Option String)
    (s : WebSocket Packet) : WebSocketAction Packet → WebSocket Packet → Prop where
  | connect (hfree : s.readers = 0) :
      Goes parse render s .connect { s.setConnection s.connected .reading with
        clients := s.clients ++ [s.connected]
        connected := s.connected + 1 }
  | text (client : Nat) (text : String) (hat : s.connections client = .reading) :
      Goes parse render s (.text client text) (s.receiveText client text)
  | read (client : Nat) (message : Tagged) (hat : s.connections client = .waiting message) :
      Goes parse render s (.read client) (s.readTable client message)
  | relay (client target : Nat) (message : Tagged) (left : List Nat)
      (hat : s.connections client = .sending message left) (hmem : target ∈ left) :
      Goes parse render s (.relay client target) (s.relayTo client message left target)
  | finish (client : Nat) (message : Tagged) (hat : s.connections client = .sending message []) :
      Goes parse render s (.finish client) (s.finishRelay client message)
  | close (client : Nat) (hat : s.connections client = .reading) :
      Goes parse render s (.close client) (s.setConnection client .leaving)
  | remove (client : Nat) (hat : s.connections client = .leaving) (hfree : s.readers = 0) :
      Goes parse render s (.remove client)
        { s.setConnection client .gone with clients := s.clients.erase client }
  | drop (client : Nat) :
      Goes parse render s (.drop client) { s with
        channels := Function.update s.channels client { s.channels client with closed := true } }
  | post (text : String) :
      Goes parse render s (.post text) { s with messageTx := s.messageTx ++ [⟨text, .posted⟩] }
  | unparsed (message : Tagged) (hat : s.messageTx[s.received]? = some message) :
      Goes parse render s .receive { s with received := s.received + 1 }
  | received (message : Tagged) (packet : Packet) (hat : s.messageTx[s.received]? = some message) :
      Goes parse render s .receive
        { s with received := s.received + 1, hub := s.hub ++ [⟨"Ws", packet, message.source⟩] }
  | hub (message : HubMessage Packet) :
      Goes parse render s (.hub message) { s with hub := s.hub ++ [message] }
  | ignored (vetoed : Bool) (message : HubMessage Packet) (hat : s.hub[s.taken]? = some message) :
      Goes parse render s (.take vetoed) { s with taken := s.taken + 1 }
  | taken (vetoed : Bool) (message : HubMessage Packet) (hat : s.hub[s.taken]? = some message)
      (horigin : message.origin ≠ "Ws") (text : String) :
      Goes parse render s (.take vetoed)
        { s with taken := s.taken + 1, sendTask := .rendered ⟨text, message.source⟩ }
  | hasClients (message : Tagged) (hat : s.sendTask = .rendered message) :
      Goes parse render s .hasClients
        { s with sendTask := if s.clients.isEmpty then .idle else .waiting message }
  | readAll (message : Tagged) (hat : s.sendTask = .waiting message) :
      Goes parse render s .readAll
        { s with sendTask := .sending message s.clients, readers := s.readers + 1 }
  | relayAll (target : Nat) (message : Tagged) (left : List Nat)
      (hat : s.sendTask = .sending message left) (hmem : target ∈ left) :
      Goes parse render s (.relayAll target)
        { s.enqueue .v5 message target with sendTask := .sending message (left.erase target) }
  | finishAll (message : Tagged) (hat : s.sendTask = .sending message []) :
      Goes parse render s .finishAll { s with sendTask := .idle, readers := s.readers - 1 }
  | restart :
      Goes parse render s .restart
        { s with received := s.messageTx.length, taken := s.hub.length, sendTask := .idle }

theorem goes_of_step {parse : String → Option Packet} {render : Packet → Option String}
    {s s' : WebSocket Packet} {a : WebSocketAction Packet} (h : s.step parse render a = some s') :
    s.Goes parse render a s' := by
  cases a with
  | connect =>
      simp only [step, Option.ite_none_right_eq_some, Option.some.injEq] at h
      exact h.2 ▸ .connect h.1
  | text client text =>
      simp only [step, Option.ite_none_right_eq_some, Option.some.injEq] at h
      exact h.2 ▸ .text client text h.1
  | read client =>
      simp only [step] at h
      split at h <;> cases h
      exact .read client _ ‹_›
  | relay client target =>
      simp only [step] at h
      split at h
      · rename_i message left hat
        simp only [Option.ite_none_right_eq_some, Option.some.injEq] at h
        exact h.2 ▸ .relay client target message left hat h.1
      · cases h
  | finish client =>
      simp only [step] at h
      split at h <;> cases h
      exact .finish client _ ‹_›
  | close client =>
      simp only [step, Option.ite_none_right_eq_some, Option.some.injEq] at h
      exact h.2 ▸ .close client h.1
  | remove client =>
      simp only [step, Option.ite_none_right_eq_some, Option.some.injEq] at h
      exact h.2 ▸ .remove client h.1.1 h.1.2
  | drop client =>
      cases h
      exact .drop client
  | post text =>
      cases h
      exact .post text
  | receive =>
      obtain ⟨message, hat, rfl⟩ := Option.map_eq_some_iff.mp h
      unfold receiveTask
      split
      · exact .unparsed message hat
      · exact .received message _ hat
  | hub message =>
      cases h
      exact .hub message
  | take vetoed =>
      simp only [step, Option.ite_none_right_eq_some] at h
      obtain ⟨message, hat, rfl⟩ := Option.map_eq_some_iff.mp h.2
      unfold sendTaskStep
      split
      · exact .ignored vetoed message hat
      · rename_i horigin
        split
        · exact .ignored vetoed message hat
        · exact .taken vetoed message hat (fun ho => horigin (.inl ho)) _
  | hasClients =>
      simp only [step] at h
      split at h <;> cases h
      exact .hasClients _ ‹_›
  | readAll =>
      simp only [step] at h
      split at h <;> cases h
      exact .readAll _ ‹_›
  | relayAll target =>
      simp only [step] at h
      split at h
      · rename_i message left hat
        simp only [Option.ite_none_right_eq_some, Option.some.injEq] at h
        exact h.2 ▸ .relayAll target message left hat h.1
      · cases h
  | finishAll =>
      simp only [step] at h
      split at h <;> cases h
      exact .finishAll _ ‹_›
  | restart =>
      simp only [step] at h
      split at h <;> cases h
      exact .restart

end WebSocket

/-! ## 2. The way through `broadcast` -/

/-- **Where a text stands** is where the task of its client stands. -/
inductive Stage (connections : Nat → Connection) (number : Nat) (t : Text) : Prop where
  | waiting (hfinished : t.finished = false) (htable : t.table = none) (hleft : t.left = [])
      (hat : connections t.client = .waiting ⟨t.text, .text number⟩)
  | sending (table : List Nat) (hfinished : t.finished = false) (htable : t.table = some table)
      (hnodup : t.left.Nodup) (hsub : t.left ⊆ table)
      (hat : connections t.client = .sending ⟨t.text, .text number⟩ t.left)
  | finished (table : List Nat) (hfinished : t.finished = true) (htable : t.table = some table)
      (hleft : t.left = [])

/-- What the channels hold of one text. -/
structure Accounted (connections : Nat → Connection) (channels : Nat → Channel) (number : Nat)
    (t : Text) : Prop where
  stage : Stage connections number t
  copies : ∀ client, (channels client).copies number = if t.Relayed client then 1 else 0
  same : ∀ client, ∀ message ∈ (channels client).queue, message.source = .text number →
    message.text = t.text
  refused : ∀ client ∈ t.refused, (channels client).closed = true

/-- **The relays account for every text.** -/
structure Relays {Packet : Type} (s : WebSocket Packet) : Prop where
  nodup : s.clients.Nodup
  given : ∀ client ∈ s.clients, client < s.connected
  absent : ∀ client, s.connected ≤ client → s.connections client = .absent
  fresh : ∀ number, s.numbers ≤ number → s.texts number = none
  unsent : ∀ client number, s.texts number = none → (s.channels client).copies number = 0
  carried : ∀ client message, (s.connections client).message? = some message →
    ∃ number t, s.texts number = some t ∧ t.client = client ∧ t.finished = false ∧
      message = ⟨t.text, .text number⟩
  accounted : ∀ number t, s.texts number = some t → Accounted s.connections s.channels number t

section Broadcast

variable {Packet : Type} {s : WebSocket Packet} {connections : Nat → Connection}
  {channels channels' : Nat → Channel} {number : Nat} {t : Text}

theorem Stage.carries (h : Stage connections number t) (hf : t.finished = false) :
    (connections t.client).message? = some ⟨t.text, .text number⟩ := by
  cases h with
  | waiting _ _ _ hat => rw [hat]; rfl
  | sending _ _ _ _ _ hat => rw [hat]; rfl
  | finished _ hfinished => rw [hf] at hfinished; cases hfinished

/-- A task moves no other text than the one it relays. -/
theorem Stage.update {client : Nat} {connection : Connection}
    (h : Stage connections number t)
    (hc : t.finished = false → t.client ≠ client) :
    Stage (Function.update connections client connection) number t := by
  have hat : t.finished = false →
      Function.update connections client connection t.client = connections t.client :=
    fun hf => Function.update_of_ne (hc hf) _ _
  cases h with
  | waiting hf htable hleft h => exact .waiting hf htable hleft ((hat hf).trans h)
  | sending table hf htable hnodup hsub h =>
      exact .sending table hf htable hnodup hsub ((hat hf).trans h)
  | finished table hf htable hleft => exact .finished table hf htable hleft

/-- The channel has taken messages, all with such a source; it may have been closed. -/
def Channel.Takes (p : Source → Prop) (channel channel' : Channel) : Prop :=
  (channel.closed = true → channel'.closed = true) ∧
  ∃ added, channel'.queue = channel.queue ++ added ∧ ∀ message ∈ added, p message.source

theorem Channel.Takes.refl (p : Source → Prop) (channel : Channel) : channel.Takes p channel :=
  ⟨id, [], (List.append_nil _).symm, fun _ h => absurd h List.not_mem_nil⟩

theorem Channel.takes_send (channel : Channel) (message : Tagged) {p : Source → Prop}
    (h : p message.source) : channel.Takes p (channel.send message) := by
  unfold Channel.send
  split
  · exact .refl p channel
  · exact ⟨id, [message], rfl, fun m hm => by rw [List.mem_singleton.mp hm]; exact h⟩

theorem Channel.Takes.mono {p q : Source → Prop} (hpq : ∀ source, p source → q source)
    {channel channel' : Channel} (h : channel.Takes p channel') : channel.Takes q channel' :=
  ⟨h.1, h.2.imp fun _ hadded => ⟨hadded.1, fun m hm => hpq _ (hadded.2 m hm)⟩⟩

theorem Channel.Takes.copies {channel channel' : Channel} {number : Nat}
    (h : channel.Takes (· ≠ .text number) channel') :
    channel'.copies number = channel.copies number := by
  obtain ⟨_, added, hqueue, hadded⟩ := h
  have hzero : added.countP (fun m => decide (m.source = .text number)) = 0 :=
    List.countP_eq_zero.mpr fun m hm => by simp [hadded m hm]
  rw [Channel.copies, hqueue, List.countP_append, hzero]
  rfl

theorem Channel.Takes.mem {channel channel' : Channel} {number : Nat} {message : Tagged}
    (h : channel.Takes (· ≠ .text number) channel') (hm : message ∈ channel'.queue)
    (hs : message.source = .text number) : message ∈ channel.queue := by
  obtain ⟨_, added, hqueue, hadded⟩ := h
  rw [hqueue] at hm
  rcases List.mem_append.mp hm with hm | hm
  · exact hm
  · exact absurd hs (hadded message hm)

/-- A turn puts the message into one channel at most. -/
theorem WebSocket.enqueue_takes (sender : Identifier) (message : Tagged) (target client : Nat)
    {p : Source → Prop} (h : p message.source) :
    (s.channels client).Takes p ((s.enqueue sender message target).channels client) := by
  by_cases hc : client = target
  · subst hc
    simp only [WebSocket.enqueue, Function.update_self]
    split
    · exact Channel.takes_send _ _ h
    · exact .refl p _
  · simp only [WebSocket.enqueue, Function.update_of_ne hc]
    exact .refl p _

/-- Other messages are nothing to a text. -/
theorem Accounted.takes (h : Accounted connections channels number t)
    (htakes : ∀ client, (channels client).Takes (· ≠ .text number) (channels' client)) :
    Accounted connections channels' number t where
  stage := h.stage
  copies client := by rw [(htakes client).copies, h.copies]
  same client message hm hs := h.same client message ((htakes client).mem hm hs) hs
  refused client hc := (htakes client).1 (h.refused client hc)

theorem Accounted.update {client : Nat} {connection : Connection}
    (h : Accounted connections channels number t) (hc : t.finished = false → t.client ≠ client) :
    Accounted (Function.update connections client connection) channels number t :=
  { h with stage := h.stage.update hc }

theorem Text.turn_relayed_of_ne {target client : Nat} {closed : Bool} (hc : client ≠ target) :
    (t.turn target closed).Relayed client ↔ t.Relayed client := by
  unfold Text.Relayed Text.turn
  simp only [List.mem_erase_of_ne hc]
  split
  · simp only [List.mem_cons, hc, false_or]
  · exact Iff.rfl

theorem Text.turn_relayed {target : Nat} {closed : Bool} {table : List Nat}
    (htable : t.table = some table) (hnodup : t.left.Nodup) (hmem : target ∈ table) :
    (t.turn target closed).Relayed target ↔
      target ≠ t.client ∧ closed = false ∧ target ∉ t.refused := by
  have hleft : target ∉ t.left.erase target := hnodup.not_mem_erase
  unfold Text.Relayed Text.turn
  simp only [htable, Option.getD_some, hmem, hleft, true_and, not_false_eq_true]
  by_cases hc : target = t.client
  · simp [hc]
  · cases closed <;> simp [hc]

theorem Channel.send_copies (channel : Channel) (text : String) (number : Nat) :
    (channel.send ⟨text, .text number⟩).copies number =
      channel.copies number + if channel.closed then 0 else 1 := by
  unfold Channel.send
  split
  · rfl
  · simp [Channel.copies, List.countP_append]

@[simp] theorem Channel.send_closed (channel : Channel) (message : Tagged) :
    (channel.send message).closed = channel.closed := by
  unfold Channel.send
  split <;> rfl

theorem Channel.mem_send {channel : Channel} {message m : Tagged}
    (hm : m ∈ (channel.send message).queue) : m ∈ channel.queue ∨ m = message := by
  unfold Channel.send at hm
  split at hm
  · exact .inl hm
  · exact (List.mem_append.mp hm).imp_right List.mem_singleton.mp

/-- **A turn of the loop keeps the account of its text.** -/
theorem Accounted.turn {target : Nat} {table : List Nat} {connection : Connection}
    (h : Accounted connections channels number t) (hf : t.finished = false)
    (htable : t.table = some table) (hnodup : t.left.Nodup) (hsub : t.left ⊆ table)
    (hmem : target ∈ t.left)
    (hat : connection = .sending ⟨t.text, .text number⟩ (t.left.erase target)) :
    Accounted (Function.update connections t.client connection)
      (Function.update channels target
        (if Identifier.v4 target ≠ .v4 t.client then
          (channels target).send ⟨t.text, .text number⟩ else channels target))
      number (t.turn target (channels target).closed) where
  stage := .sending table hf htable (hnodup.erase target)
    (fun _ hc => hsub (List.mem_of_mem_erase hc)) (by rw [hat]; exact Function.update_self ..)
  copies client := by
    by_cases hc : client = target
    · subst hc
      have hzero : (channels client).copies number = 0 :=
        (h.copies client).trans (if_neg fun hr => hr.2.1 hmem)
      rw [Function.update_self,
        if_congr (Text.turn_relayed htable hnodup (hsub hmem)) (Eq.refl 1) (Eq.refl 0)]
      by_cases hself : client = t.client
      · rw [if_neg (not_not_intro (congrArg _ hself)), if_neg fun hr => hr.1 hself, hzero]
      · rw [if_pos fun e => hself (Identifier.v4.inj e), Channel.send_copies, hzero]
        cases hclosed : (channels client).closed with
        | true => simp
        | false =>
            have hrefused : client ∉ t.refused := fun hr => by
              rw [h.refused client hr] at hclosed
              cases hclosed
            simp [hself, hrefused]
    · rw [Function.update_of_ne hc, h.copies client]
      exact if_congr (Text.turn_relayed_of_ne hc).symm rfl rfl
  same client message hm hs := by
    by_cases hc : client = target
    · subst hc
      rw [Function.update_self] at hm
      split at hm
      · rcases Channel.mem_send hm with hm | rfl
        · exact h.same client message hm hs
        · rfl
      · exact h.same client message hm hs
    · rw [Function.update_of_ne hc] at hm
      exact h.same client message hm hs
  refused client hc := by
    have hold : client ∈ t.refused ∨ client = target ∧ (channels target).closed = true := by
      unfold Text.turn at hc
      split at hc
      · rename_i hclosed
        exact (List.mem_cons.mp hc).symm.imp_right fun e => ⟨e, hclosed.1⟩
      · exact .inl hc
    have hclosed : (channels client).closed = true :=
      hold.elim (h.refused client) fun ⟨e, hclosed⟩ => e ▸ hclosed
    by_cases hct : client = target
    · subst hct
      rw [Function.update_self]
      split
      · rw [Channel.send_closed, hclosed]
      · exact hclosed
    · rw [Function.update_of_ne hct, hclosed]

end Broadcast

namespace Relays

variable {Packet : Type} {s : WebSocket Packet}

/-- The driver's side is nothing to the relays. -/
theorem frame (h : Relays s) (readers received taken : Nat) (messageTx : List Tagged)
    (hub : List (HubMessage Packet)) (sendTask : SendTask) :
    Relays { s with readers, messageTx, received, hub, taken, sendTask } :=
  ⟨h.nodup, h.given, h.absent, h.fresh, h.unsent, h.carried, h.accounted⟩

/-- A task that relays nothing goes on to where it relays nothing. -/
theorem setConnection (h : Relays s) {client : Nat} {connection : Connection}
    (hc : client < s.connected) (hbefore : (s.connections client).message? = none)
    (hafter : connection.message? = none) : Relays (s.setConnection client connection) where
  nodup := h.nodup
  given := h.given
  absent c hle :=
    (Function.update_of_ne (Nat.ne_of_gt (Nat.lt_of_lt_of_le hc hle)) _ _).trans (h.absent c hle)
  fresh := h.fresh
  unsent := h.unsent
  carried c message hm := by
    by_cases hcc : c = client
    · subst hcc
      simp only [WebSocket.setConnection, Function.update_self, hafter] at hm
      cases hm
    · simp only [WebSocket.setConnection, Function.update_of_ne hcc] at hm
      exact h.carried c message hm
  accounted number t ht := by
    refine (h.accounted number t ht).update fun hf hcc => ?_
    have := (h.accounted number t ht).stage.carries hf
    rw [hcc, hbefore] at this
    cases this

/-- Channels may take what is no text, and be closed. -/
theorem setChannels (h : Relays s) {channels' : Nat → Channel}
    (htakes : ∀ client, (s.channels client).Takes (·.isText = false) (channels' client)) :
    Relays { s with channels := channels' } where
  nodup := h.nodup
  given := h.given
  absent := h.absent
  fresh := h.fresh
  unsent client number hn := by
    rw [((htakes client).mono fun _ hp hs => by rw [hs] at hp; cases hp).copies]
    exact h.unsent client number hn
  carried := h.carried
  accounted number t ht :=
    (h.accounted number t ht).takes fun client =>
      (htakes client).mono fun _ hp hs => by rw [hs] at hp; cases hp

theorem connect (h : Relays s) :
    Relays { s.setConnection s.connected .reading with
      clients := s.clients ++ [s.connected], connected := s.connected + 1 } := by
  have entered : Relays { s with
      clients := s.clients ++ [s.connected], connected := s.connected + 1 } := by
    refine ⟨?_, fun c hc => ?_, fun c hle => h.absent c (Nat.le_of_succ_le hle), h.fresh, h.unsent,
      h.carried, h.accounted⟩
    · refine List.nodup_append.mpr ⟨h.nodup, List.pairwise_singleton _ _, fun c hc c' hc' => ?_⟩
      have hlt := h.given c hc
      have heq := List.mem_singleton.mp hc'
      omega
    · show c < s.connected + 1
      rcases List.mem_append.mp hc with hc | hc
      · have hlt := h.given c hc
        omega
      · have heq := List.mem_singleton.mp hc
        omega
  refine entered.setConnection (Nat.lt_succ_self _) ?_ rfl
  show (s.connections s.connected).message? = none
  rw [h.absent _ (Nat.le_refl _)]
  rfl

/-- A task that stands somewhere has an identifier. -/
theorem connected_of (h : Relays s) {client : Nat} (hc : s.connections client ≠ .absent) :
    client < s.connected :=
  Nat.lt_of_not_le fun hle => hc (h.absent client hle)

theorem remove (h : Relays s) {client : Nat} (hc : s.connections client = .leaving) :
    Relays { s.setConnection client .gone with clients := s.clients.erase client } := by
  have gone : Relays (s.setConnection client .gone) :=
    h.setConnection (h.connected_of (by rw [hc]; decide)) (by rw [hc]; rfl) rfl
  exact ⟨h.nodup.erase client, fun c hc => h.given c (List.mem_of_mem_erase hc), gone.absent,
    gone.fresh, gone.unsent, gone.carried, gone.accounted⟩

/-- **One text goes on**, together with the task that relays it. -/
theorem advance (h : Relays s) {number : Nat} {t : Text} (t' : Text) (connection : Connection)
    (channels' : Nat → Channel) (ht : s.texts number = some t) (hf : t.finished = false)
    (hclient : t'.client = t.client)
    (hcarried : ∀ message, connection.message? = some message →
      t'.finished = false ∧ message = ⟨t'.text, .text number⟩)
    (htakes : ∀ client, (s.channels client).Takes (· = .text number) (channels' client))
    (haccounted : Accounted (Function.update s.connections t.client connection) channels' number
      t') :
    Relays { s with
      connections := Function.update s.connections t.client connection
      channels := channels'
      texts := Function.update s.texts number (some t') } := by
  have hother : ∀ m, m ≠ number → ∀ client,
      (s.channels client).Takes (· ≠ .text m) (channels' client) :=
    fun m hm client => (htakes client).mono fun source hs hs' =>
      hm (Source.text.inj ((Eq.symm hs').trans hs))
  have hconnected : t.client < s.connected := by
    refine h.connected_of fun habsent => ?_
    have := (h.accounted number t ht).stage.carries hf
    rw [habsent] at this
    cases this
  refine ⟨h.nodup, h.given, fun c hle => ?_, fun m hle => ?_, fun c m hm => ?_,
    fun c message hm => ?_, fun m u hu => ?_⟩
  · exact (Function.update_of_ne (Nat.ne_of_gt (Nat.lt_of_lt_of_le hconnected hle)) _ _).trans
      (h.absent c hle)
  · have hne : m ≠ number := fun e => by
      rw [← e, h.fresh m hle] at ht
      cases ht
    exact (Function.update_of_ne hne _ _).trans (h.fresh m hle)
  · by_cases hmn : m = number
    · subst hmn
      simp only [Function.update_self, reduceCtorEq] at hm
    · simp only [Function.update_of_ne hmn] at hm
      exact (hother m hmn c).copies.trans (h.unsent c m hm)
  · by_cases hc : c = t.client
    · subst hc
      simp only [Function.update_self] at hm
      exact ⟨number, t', Function.update_self .., hclient, hcarried message hm⟩
    · simp only [Function.update_of_ne hc] at hm
      obtain ⟨m, u, hu, huc, hrest⟩ := h.carried c message hm
      have hmn : m ≠ number := fun e => by
        rw [e, ht] at hu
        exact hc (huc.symm.trans (congrArg Text.client (Option.some.inj hu).symm))
      exact ⟨m, u, (Function.update_of_ne hmn _ _).trans hu, huc, hrest⟩
  · by_cases hmn : m = number
    · subst hmn
      simp only [Function.update_self, Option.some.injEq] at hu
      exact hu ▸ haccounted
    · simp only [Function.update_of_ne hmn] at hu
      refine ((h.accounted m u hu).takes (hother m hmn)).update fun huf huc => hmn ?_
      -- one task carries one text
      have hm := (h.accounted m u hu).stage.carries huf
      rw [huc, (h.accounted number t ht).stage.carries hf] at hm
      exact (Source.text.inj (congrArg Tagged.source (Option.some.inj hm))).symm

theorem receiveText (h : Relays s) {client : Nat} (text : String)
    (hc : s.connections client = .reading) : Relays (s.receiveText client text) := by
  have hnew := h.fresh s.numbers (Nat.le_refl _)
  refine ⟨h.nodup, h.given, fun c hle => ?_, fun m hle => ?_, fun c m hm => ?_,
    fun c message hm => ?_, fun m u hu => ?_⟩
  · have hlt : client < s.connected := h.connected_of (by rw [hc]; decide)
    exact (Function.update_of_ne (Nat.ne_of_gt (Nat.lt_of_lt_of_le hlt hle)) _ _).trans
      (h.absent c hle)
  · exact (Function.update_of_ne (Nat.ne_of_gt hle) _ _).trans (h.fresh m (Nat.le_of_succ_le hle))
  · by_cases hmn : m = s.numbers
    · subst hmn
      exact h.unsent c s.numbers hnew
    · simp only [WebSocket.receiveText, Function.update_of_ne hmn] at hm
      exact h.unsent c m hm
  · by_cases hcc : c = client
    · subst hcc
      simp only [WebSocket.receiveText, WebSocket.setConnection, Function.update_self,
        Connection.message?, Option.some.injEq] at hm
      exact ⟨s.numbers, { client := c, text }, Function.update_self .., rfl, rfl, hm.symm⟩
    · simp only [WebSocket.receiveText, WebSocket.setConnection, Function.update_of_ne hcc] at hm
      obtain ⟨m, u, hu, hrest⟩ := h.carried c message hm
      have hmn : m ≠ s.numbers := fun e => by
        rw [e, hnew] at hu
        cases hu
      exact ⟨m, u, (Function.update_of_ne hmn _ _).trans hu, hrest⟩
  · by_cases hmn : m = s.numbers
    · subst hmn
      simp only [WebSocket.receiveText, Function.update_self, Option.some.injEq] at hu
      subst hu
      have hzero := fun c => h.unsent c s.numbers hnew
      refine ⟨.waiting rfl rfl rfl (Function.update_self ..), hzero, fun c message hm hs => ?_,
        fun c hc => absurd hc List.not_mem_nil⟩
      · refine absurd hs ?_
        simpa using List.countP_eq_zero.mp (hzero c) message hm
    · simp only [WebSocket.receiveText, Function.update_of_ne hmn] at hu
      refine (h.accounted m u hu).update fun huf huc => ?_
      have hm := (h.accounted m u hu).stage.carries huf
      rw [huc, hc] at hm
      cases hm

theorem readTable (h : Relays s) {client : Nat} {message : Tagged}
    (hc : s.connections client = .waiting message) : Relays (s.readTable client message) := by
  obtain ⟨number, t, ht, rfl, hf, rfl⟩ := h.carried client message (by rw [hc]; rfl)
  obtain ⟨hstage, hcopies, hsame, hrefused⟩ := h.accounted number t ht
  have htable : t.table = none := by
    cases hstage with
    | waiting _ htable => exact htable
    | sending _ _ _ _ _ hat => rw [hat] at hc; cases hc
    | finished _ hfinished => rw [hf] at hfinished; cases hfinished
  have advanced := h.advance { t with table := some s.clients, left := s.clients }
    (.sending ⟨t.text, .text number⟩ s.clients) s.channels ht hf rfl
    (fun message hm => ⟨hf, (Option.some.inj hm).symm⟩) (fun c => .refl _ _)
    ⟨.sending s.clients hf rfl h.nodup (List.Subset.refl _) (Function.update_self ..), fun c => ?_,
      hsame, hrefused⟩
  · simpa only [WebSocket.readTable, WebSocket.noteSource,
      WebSocket.setConnection, ht, Option.map_some] using
      advanced.frame (s.readers + 1) s.received s.taken s.messageTx s.hub s.sendTask
  · -- whoever is in the table is still left
    rw [hcopies, if_neg fun hr => ?_, if_neg fun hr => hr.2.1 hr.1]
    rw [Text.Relayed, htable] at hr
    exact List.not_mem_nil hr.1

theorem finish (h : Relays s) {client : Nat} {message : Tagged}
    (hc : s.connections client = .sending message []) :
    Relays (s.finishRelay client message) := by
  obtain ⟨number, t, ht, rfl, hf, rfl⟩ := h.carried client message (by rw [hc]; rfl)
  obtain ⟨hstage, hcopies, hsame, hrefused⟩ := h.accounted number t ht
  obtain ⟨table, htable, hleft⟩ : ∃ table, t.table = some table ∧ t.left = [] := by
    cases hstage with
    | waiting _ _ _ hat => rw [hat] at hc; cases hc
    | sending table _ htable _ _ hat =>
        exact ⟨table, htable, (Connection.sending.inj (hat.symm.trans hc)).2⟩
    | finished _ hfinished => rw [hf] at hfinished; cases hfinished
  have advanced := h.advance { t with finished := true } .reading s.channels ht hf rfl
    (fun message hm => by cases hm) (fun c => .refl _ _)
    ⟨.finished table rfl htable hleft, hcopies, hsame, hrefused⟩
  simpa only [WebSocket.finishRelay, WebSocket.noteSource, WebSocket.setConnection, ht,
    Option.map_some] using
    advanced.frame (s.readers - 1) s.received s.taken s.messageTx s.hub s.sendTask

/-- **One turn of the loop**: the text is put into the channel, or the channel is closed, or it is
    the sender's. -/
theorem relay (h : Relays s) {client target : Nat} {message : Tagged} {left : List Nat}
    (hc : s.connections client = .sending message left) (hmem : target ∈ left) :
    Relays (s.relayTo client message left target) := by
  obtain ⟨number, t, ht, rfl, hf, rfl⟩ := h.carried client message (by rw [hc]; rfl)
  obtain ⟨hstage, hcopies, hsame, hrefused⟩ := h.accounted number t ht
  obtain ⟨table, htable, hnodup, hsub, rfl⟩ :
      ∃ table, t.table = some table ∧ t.left.Nodup ∧ t.left ⊆ table ∧ left = t.left := by
    cases hstage with
    | waiting _ _ _ hat => rw [hat] at hc; cases hc
    | sending table _ htable hnodup hsub hat =>
        exact ⟨table, htable, hnodup, hsub, (Connection.sending.inj (hc.symm.trans hat)).2⟩
    | finished _ hfinished => rw [hf] at hfinished; cases hfinished
  have advanced := h.advance (t.turn target (s.channels target).closed)
    (.sending ⟨t.text, .text number⟩ (t.left.erase target))
    (s.enqueue (.v4 t.client) ⟨t.text, .text number⟩ target).channels ht hf rfl
    (fun message hm => ⟨hf, (Option.some.inj hm).symm⟩)
    (fun c => WebSocket.enqueue_takes _ _ _ _ rfl)
    ((h.accounted number t ht).turn hf htable hnodup hsub hmem rfl)
  simpa only [WebSocket.relayTo, WebSocket.noteTurn, WebSocket.noteSource, WebSocket.enqueue,
    WebSocket.setConnection, ht, Option.map_some] using advanced

end Relays

/-! ## 3. The way through the hub -/

/-- **What comes back from the hub is no text**: the driver sends its texts as "Ws". -/
structure Loopback {Packet : Type} (s : WebSocket Packet) : Prop where
  hub : ∀ message ∈ s.hub, message.source.isText = true → message.origin = "Ws"
  sendTask : ∀ message, s.sendTask.message? = some message → message.source.isText = false

section Runs

variable {Packet : Type} {parse : String → Option Packet} {render : Packet → Option String}
  {s s' : WebSocket Packet} {a : WebSocketAction Packet}

theorem Loopback.step (h : Loopback s) (hC : s.NotReinjected a)
    (hs : WebSocket.step parse render s a = some s') : Loopback s' := by
  cases WebSocket.goes_of_step hs with
  | received message packet hat =>
      refine ⟨fun m hm ht => ?_, h.sendTask⟩
      rcases List.mem_append.mp hm with hm | hm
      · exact h.hub m hm ht
      · rw [List.mem_singleton.mp hm]
  | hub message =>
      refine ⟨fun m hm ht => ?_, h.sendTask⟩
      rcases List.mem_append.mp hm with hm | hm
      · exact h.hub m hm ht
      · rw [List.mem_singleton.mp hm, show message.source.isText = false from hC] at ht
        cases ht
  | taken vetoed message hat horigin text =>
      refine ⟨h.hub, fun m hm => ?_⟩
      obtain rfl := Option.some.inj hm
      -- a text would have the origin "Ws"
      exact Bool.eq_false_iff.mpr fun ht =>
        horigin (h.hub message (List.mem_of_getElem? hat) ht)
  | hasClients message hat =>
      refine ⟨h.hub, fun m hm => h.sendTask m ?_⟩
      rw [hat]
      dsimp only at hm
      split at hm
      · cases hm
      · exact hm
  | readAll message hat => exact ⟨h.hub, fun m hm => h.sendTask m (by rw [hat]; exact hm)⟩
  | relayAll target message left hat =>
      exact ⟨h.hub, fun m hm => h.sendTask m (by rw [hat]; exact hm)⟩
  | finishAll | restart => exact ⟨h.hub, fun m hm => by cases hm⟩
  | _ => exact ⟨h.hub, h.sendTask⟩

theorem Relays.step (h : Relays s) (hl : Loopback s)
    (hs : WebSocket.step parse render s a = some s') : Relays s' := by
  cases WebSocket.goes_of_step hs with
  | connect => exact h.connect
  | text client text hat => exact h.receiveText text hat
  | read client message hat => exact h.readTable hat
  | relay client target message left hat hmem => exact h.relay hat hmem
  | finish client message hat => exact h.finish hat
  | close client hat =>
      exact h.setConnection (h.connected_of (by rw [hat]; decide)) (by rw [hat]; rfl) rfl
  | remove client hat => exact h.remove hat
  | drop client =>
      refine h.setChannels fun c => ?_
      by_cases hc : c = client
      · subst hc
        rw [Function.update_self]
        exact ⟨fun _ => rfl, [], (List.append_nil _).symm, fun _ hm => absurd hm List.not_mem_nil⟩
      · rw [Function.update_of_ne hc]
        exact .refl _ _
  | relayAll target message left hat =>
      have hother : message.source.isText = false := hl.sendTask message (by rw [hat]; rfl)
      exact (h.setChannels fun c => WebSocket.enqueue_takes .v5 message target c hother).frame ..
  | _ => exact h.frame ..

theorem relays_start : Relays ({} : WebSocket Packet) where
  nodup := .nil
  given _ hc := absurd hc List.not_mem_nil
  absent _ _ := rfl
  fresh _ _ := rfl
  unsent _ _ _ := rfl
  carried _ _ hm := by cases hm
  accounted _ _ ht := by cases ht

theorem loopback_start : Loopback ({} : WebSocket Packet) where
  hub _ hm := absurd hm List.not_mem_nil
  sendTask _ hm := by cases hm

/-- **In every reached state the texts are accounted for.** -/
theorem reach_relays (h : Reach (WebSocket.step parse render) WebSocket.NotReinjected {} s) :
    Relays s ∧ Loopback s :=
  Reach.inv (I := fun s => Relays s ∧ Loopback s) ⟨relays_start, loopback_start⟩
    (fun _ _ _ hI hC hs => ⟨hI.1.step hI.2 hs, hI.2.step hC hs⟩) h

/-! ## 4. Once -/

/-- The steps of the relay of one client. -/
def OfRelay (client : Nat) (_ : WebSocket Packet) : WebSocketAction Packet → Prop
  | .read c => c = client
  | .relay c _ => c = client
  | .finish c => c = client
  | _ => False

/-- The loop of `broadcast` comes to its end, whatever the others do not do. -/
theorem loop_finishes {client number : Nat} {text : String} : ∀ (left : List Nat)
    (s : WebSocket Packet), (s.texts number).isSome = true →
    s.connections client = .sending ⟨text, .text number⟩ left →
    ∃ s', Reach (WebSocket.step parse render) (OfRelay client) s s' ∧
      ∃ t', s'.texts number = some t' ∧ t'.finished = true := by
  intro left
  induction left with
  | nil =>
      intro s ht hat
      obtain ⟨t, ht⟩ := Option.isSome_iff_exists.mp ht
      have hs : WebSocket.step parse render s (.finish client) =
          some (s.finishRelay client ⟨text, .text number⟩) := by
        simp only [WebSocket.step, hat]
      refine ⟨_, .before (a := .finish client) rfl hs .start, { t with finished := true }, ?_, rfl⟩
      simp only [WebSocket.finishRelay, WebSocket.noteSource, WebSocket.setConnection,
        Function.update_self, ht, Option.map_some]
  | cons target left ih =>
      intro s ht hat
      have hs : WebSocket.step parse render s (.relay client target) =
          some (s.relayTo client ⟨text, .text number⟩ (target :: left) target) := by
        simp only [WebSocket.step, hat, List.mem_cons, true_or, if_true]
      obtain ⟨s', hreach, hdone⟩ :=
        ih (s.relayTo client ⟨text, .text number⟩ (target :: left) target)
          (by simp only [WebSocket.relayTo, WebSocket.noteTurn, WebSocket.noteSource,
            WebSocket.enqueue, WebSocket.setConnection, Function.update_self, Option.isSome_map,
            ht])
          (by simp only [WebSocket.relayTo, WebSocket.setConnection, Function.update_self,
            List.erase_cons_head])
      exact ⟨s', .before (a := .relay client target) rfl hs hreach, hdone⟩

/-- A text that is not relayed to the end can be, by steps of its own relay. -/
theorem relay_finishes (h : Relays s) {number : Nat} {t : Text} (ht : s.texts number = some t)
    (hf : t.finished = false) :
    ∃ s', Reach (WebSocket.step parse render) (OfRelay t.client) s s' ∧
      ∃ t', s'.texts number = some t' ∧ t'.finished = true := by
  cases (h.accounted number t ht).stage with
  | waiting _ htable hleft hat =>
      have hs : WebSocket.step parse render s (.read t.client) =
          some (s.readTable t.client ⟨t.text, .text number⟩) := by
        simp only [WebSocket.step, hat]
      obtain ⟨s', hreach, hdone⟩ := loop_finishes s.clients
        (s.readTable t.client ⟨t.text, .text number⟩)
        (by simp only [WebSocket.readTable, WebSocket.noteSource, WebSocket.setConnection,
          Function.update_self, ht, Option.map_some, Option.isSome_some])
        (Function.update_self ..)
      exact ⟨s', .before (a := .read t.client) rfl hs hreach, hdone⟩
  | sending table _ _ _ _ hat =>
      exact loop_finishes t.left s (Option.isSome_iff_exists.mpr ⟨t, ht⟩) hat
  | finished _ hfinished => rw [hf] at hfinished; cases hfinished

/-- **What a text leaves in the channels.** -/
structure RelayedOnce (s : WebSocket Packet) (number : Nat) (t : Text) : Prop where
  notEchoed : (s.channels t.client).copies number = 0
  notTwice : ∀ client, (s.channels client).copies number ≤ 1
  same : ∀ client, ∀ message ∈ (s.channels client).queue, message.source = .text number →
    message.text = t.text
  refused : ∀ client ∈ t.refused, (s.channels client).closed = true
  once : t.finished = true → ∃ table, t.table = some table ∧ ∀ client,
    (s.channels client).copies number =
      if client ∈ table ∧ client ≠ t.client ∧ client ∉ t.refused then 1 else 0

theorem Accounted.once {number : Nat} {t : Text}
    (h : Accounted s.connections s.channels number t) : RelayedOnce s number t where
  notEchoed := (h.copies t.client).trans (if_neg fun hr => hr.2.2.1 rfl)
  notTwice client := by
    rw [h.copies]
    split <;> omega
  same := h.same
  refused := h.refused
  once hf := by
    obtain ⟨table, htable, hleft⟩ : ∃ table, t.table = some table ∧ t.left = [] := by
      cases h.stage with
      | waiting hfinished => rw [hf] at hfinished; cases hfinished
      | sending _ hfinished => rw [hf] at hfinished; cases hfinished
      | finished table _ htable hleft => exact ⟨table, htable, hleft⟩
    refine ⟨table, htable, fun client => (h.copies client).trans (if_congr ?_ rfl rfl)⟩
    simp only [Text.Relayed, htable, hleft, Option.getD_some, List.not_mem_nil, not_false_eq_true,
      true_and]

/-- **A text of the WebSocket is relayed exactly once**, in every run in which no other sender of
    the hub sends it again: to whoever was in the table and was not found closed, and not to its
    sender. A relay that is on its way can go on to its end. -/
theorem relayed_once
    (h : Reach (WebSocket.step parse render) WebSocket.NotReinjected {} s) {number : Nat} {t : Text}
    (ht : s.texts number = some t) :
    RelayedOnce s number t ∧
    (t.finished = false →
      ∃ s', Reach (WebSocket.step parse render) (OfRelay t.client) s s' ∧
        ∃ t', s'.texts number = some t' ∧ t'.finished = true) :=
  ⟨((reach_relays h).1.accounted number t ht).once, relay_finishes (reach_relays h).1 ht⟩

end Runs

/-- Three clients; the text of the first is on its way through the hub while it is relayed, the
    channel of the third is closed, and another driver's message goes to everyone. -/
def threeClients : List (WebSocketAction Unit) :=
  [.connect, .connect, .connect, .text 0 "a", .receive, .read 0, .drop 2, .relay 0 2, .take false,
    .relay 0 1, .hub ⟨"UdpServer", (), .driver⟩, .take false, .hasClients, .relay 0 0, .readAll,
    .finish 0, .relayAll 0, .relayAll 1, .relayAll 2, .finishAll]

theorem relayed_once_three :
    ∃ s : WebSocket Unit,
      s.texts 0 = some ⟨0, "a", some [0, 1, 2], [], [2], true⟩ ∧
      (s.channels 0).queue = [⟨"b", .driver⟩] ∧
      (s.channels 1).queue = [⟨"a", .text 0⟩, ⟨"b", .driver⟩] ∧
      RelayedOnce s 0 ⟨0, "a", some [0, 1, 2], [], [2], true⟩ := by
  obtain ⟨s, hs, ht, h0, h1⟩ :
      ∃ s, Reach (WebSocket.step (fun _ => some ()) fun _ => some "b")
          WebSocket.NotReinjected {} s ∧
        s.texts 0 = some ⟨0, "a", some [0, 1, 2], [], [2], true⟩ ∧
        (s.channels 0).queue = [⟨"b", .driver⟩] ∧
        (s.channels 1).queue = [⟨"a", .text 0⟩, ⟨"b", .driver⟩] :=
    exists_of_execC threeClients (by decide)
  exact ⟨s, ht, h0, h1, (relayed_once hs ht).1⟩

end MavlinkServer.Rest
