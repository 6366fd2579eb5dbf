/-
  File:      MavlinkServer/Drivers/Loopback.lean
  Subject:   "DON'T DO LOOPBACK": which messages a send task skips
             (`default_send_task`, `udp_send_task`, `generate_uuid` in
             `src/lib/drivers/mod.rs` and what the drivers give it).

  The hub tells drivers apart by a uuid made of their type and their address; a
  send task tells messages apart by their origin, a text that each driver makes
  in its own way.

  * `Link` -- a driver with connections, and what it gives to `generate_uuid`;
  * `Fleet` -- the connections of drivers that the hub accepts together;
  * `Apart` -- no connection that is sent messages has the identifier of
    another one that is received from, or the origin of another source;
  * `skipsOwn_iff` -- in every run a send task skips the messages of its own
    connection only, exactly when the connections are apart;
  * `identifier_ne` -- for which drivers different uuids make them so;
  * `skipsOwn_collision` -- a TCP and a UDP client of one address.
-/
import MavlinkServer.Drivers.Routing

namespace MavlinkServer.Drivers

open Lib Hub

/-! ## 1. Drivers and their connections -/

/-- A driver with connections, as its builder makes it. -/
inductive Link where
  | tcpClient (remoteAddr : String) (direction : Direction)
  | udpClient (remoteAddr : String) (direction : Direction)
  | serial (portName : String) (baudRate : UInt32)
  | webSocketClient (remoteAddr : String) (direction : Direction)
  | zenohRaw (name : String)
  | tcpServer (localAddr : String) (direction : Direction)
  | udpServer (localAddr : String) (direction : Direction)
  | webSocketServer (localAddr : String) (direction : Direction)
  deriving DecidableEq, Repr

namespace Link

/-- `std::any::type_name`. -/
def typeName : Link → String
  | tcpClient _ _ => "mavlink_server::drivers::tcp::client::TcpClient"
  | udpClient _ _ => "mavlink_server::drivers::udp::client::UdpClient"
  | serial _ _ => "mavlink_server::drivers::serial::Serial"
  | webSocketClient _ _ => "mavlink_server::drivers::websocket::client::WebSocketClientDriver"
  | zenohRaw _ => "mavlink_server::drivers::zenoh::raw::ZenohRaw"
  | tcpServer _ _ => "mavlink_server::drivers::tcp::server::TcpServer"
  | udpServer _ _ => "mavlink_server::drivers::udp::server::UdpServer"
  | webSocketServer _ _ => "mavlink_server::drivers::websocket::server::WebSocketServerDriver"

/-- What the builder gives to `generate_uuid`. -/
def uuidName : Link → String
  | tcpClient addr _ | udpClient addr _ | tcpServer addr _ | udpServer addr _ => addr
  | serial portName baudRate => portName ++ ":" ++ toString baudRate.toNat
  | webSocketClient addr _ => "websocket-client:" ++ addr
  | zenohRaw name => name
  | webSocketServer addr _ => "websocket:" ++ addr

/-- `generate_uuid`, with `Uuid::new_v5` of `NAMESPACE_DNS` for `newV5`. -/
def uuid (newV5 : String → DriverUuid) (link : Link) : DriverUuid :=
  newV5 (link.typeName ++ ":" ++ link.uuidName)

def direction : Link → Direction
  | tcpClient _ d | udpClient _ d | webSocketClient _ d => d
  | tcpServer _ d | udpServer _ d | webSocketServer _ d => d
  | serial _ _ | zenohRaw _ => .both

def kind : Link → TaskKind
  | udpClient _ _ => .udpClient
  | udpServer _ _ => .udpServed
  | _ => .stream

/-- The identifier of the driver's connections, where the driver determines it. A UDP client has
    the address that its host is resolved to, a client of a TCP or UDP server its own address, and
    one of a WebSocket server a fresh uuid. -/
def identifier? : Link → Option String
  | tcpClient addr _ | webSocketClient addr _ => some addr
  | serial portName _ => some portName
  | zenohRaw _ => some "zenohraw"
  | udpClient _ _ | tcpServer _ _ | udpServer _ _ | webSocketServer _ _ => none

end Link

/-- A connection of a driver. -/
structure Linked where
  link : Link
  identifier : String
  own : ∀ name ∈ link.identifier?, identifier = name

def Linked.endpoint (c : Linked) : Endpoint := ⟨c.identifier, c.link.direction, c.link.kind⟩

/-- What else sends into the hub. -/
inductive OtherSource where
  /-- `HubActor::heartbeat_task` -/
  | heartbeat
  /-- `Rest::receive_task` -/
  | rest
  /-- `Rest::control_send_task` -/
  | control
  | zenoh
  | fakeSource
  | tlogReader (path : String)
  deriving DecidableEq, Repr

def OtherSource.origin : OtherSource → String
  | heartbeat => ""
  | rest => "Ws"
  | control => "Control"
  | zenoh => "zenoh"
  | fakeSource => "fake_source"
  | tlogReader path => path

variable {ι : Type}

/-- The connections of the drivers of a hub, and what else sends into it. No two drivers have the
    same uuid, and no two connections of a driver the same identifier. -/
structure Fleet (newV5 : String → DriverUuid) (ι : Type) where
  linked : ι → Linked
  others : List OtherSource
  accepted : ∀ i j, (linked i).link.uuid newV5 = (linked j).link.uuid newV5 →
    (linked i).link = (linked j).link
  told : ∀ i j, (linked i).link = (linked j).link →
    (linked i).identifier = (linked j).identifier → i = j

namespace Fleet

variable {newV5 : String → DriverUuid}

def endpoints (fleet : Fleet newV5 ι) (i : ι) : Endpoint := (fleet.linked i).endpoint

def origins (fleet : Fleet newV5 ι) : List String := fleet.others.map OtherSource.origin

/-- The other sources send with their origins; everything else is free. -/
def Allowed (fleet : Fleet newV5 ι) (_ : Router ι) : RouterAction ι → Prop
  | .other message => message.origin ∈ fleet.origins
  | _ => True

instance (fleet : Fleet newV5 ι) (s : Router ι) : ∀ a, Decidable (fleet.Allowed s a)
  | .other message => inferInstanceAs (Decidable (message.origin ∈ fleet.origins))
  | .take .. | .inject .. | .subscribe _ | .recv _ | .lag .. | .write .. | .drop _
  | .connect _ => .isTrue trivial

/-- **Apart**: no connection with a send task has the identifier of another one that is received
    from, or the origin of another source. -/
structure Apart (fleet : Fleet newV5 ι) : Prop where
  connections : ∀ i j, (fleet.endpoints i).sends = true → (fleet.endpoints j).receives = true →
    (fleet.linked i).identifier = (fleet.linked j).identifier → i = j
  others : ∀ i, (fleet.endpoints i).sends = true → (fleet.linked i).identifier ∉ fleet.origins

/-- **Skips its own**: in every run, what a send task has skipped as loopback was received from its
    own connection. -/
def SkipsOwn [DecidableEq ι] (fleet : Fleet newV5 ι) : Prop :=
  ∀ s, Reach (Router.step fleet.endpoints) fleet.Allowed .start s →
    ∀ i, ∀ entry ∈ (s.connections i).skipped, entry.source = some i

end Fleet

/-- The drivers whose uuid and whose identifier are made of one address. -/
def Link.byAddress : Link → Bool
  | tcpClient _ _ | webSocketClient _ _ => true
  | _ => false

/-- What such a driver puts in front of the address. -/
def addressPrefix (typeName : String) : String :=
  if typeName = "mavlink_server::drivers::tcp::client::TcpClient" then "" else "websocket-client:"

theorem Linked.uuidName_eq (c : Linked) (h : c.link.byAddress = true) :
    c.link.uuidName = addressPrefix c.link.typeName ++ c.identifier := by
  obtain ⟨link, identifier, own⟩ := c
  cases link with
  | tcpClient addr d =>
      obtain rfl := own addr rfl
      exact String.empty_append.symm
  | webSocketClient addr d =>
      obtain rfl := own addr rfl
      rfl
  | udpClient _ _ | serial _ _ | zenohRaw _ | tcpServer _ _ | udpServer _ _ | webSocketServer _ _ =>
      cases h

/-- **What the uuids keep apart**: TCP clients, and WebSocket clients, among themselves. A serial
    port opened at two baud rates, a host name beside its address and drivers of different types are
    not. -/
theorem identifier_ne {newV5 : String → DriverUuid} {a b : Linked} (ha : a.link.byAddress = true)
    (hb : b.link.byAddress = true) (htype : a.link.typeName = b.link.typeName)
    (h : a.link.uuid newV5 ≠ b.link.uuid newV5) : a.identifier ≠ b.identifier := by
  intro hsame
  apply h
  have hname : a.link.uuidName = b.link.uuidName := by
    rw [a.uuidName_eq ha, b.uuidName_eq hb, htype, hsame]
  unfold Link.uuid
  rw [htype, hname]

/-! ## 2. Connections that are apart -/

section Apart

variable {newV5 : String → DriverUuid} {fleet : Fleet newV5 ι} {s s' : Router ι} {i : ι}
  {c : Connection ι}

/-- A message carries the identifier of the connection it was received from, or the origin of
    another source. -/
def Sourced (fleet : Fleet newV5 ι) (entry : Entry ι) : Prop :=
  match entry.source with
  | some k => (fleet.endpoints k).receives = true ∧
      entry.message.origin = (fleet.linked k).identifier
  | none => entry.message.origin ∈ fleet.origins

structure Marked (fleet : Fleet newV5 ι) (i : ι) (c : Connection ι) : Prop where
  named : ∀ m, c.receiving = .has m →
    (fleet.endpoints i).receives = true ∧ m.origin = (fleet.linked i).identifier
  sends : ∀ r, c.receiver? = some r → (fleet.endpoints i).sends = true
  skipped : ∀ entry ∈ c.skipped, entry.source = some i

structure Labelled (fleet : Fleet newV5 ι) (s : Router ι) : Prop where
  log : ∀ entry ∈ s.log, Sourced fleet entry
  connections : ∀ i, Marked fleet i (s.connections i)

theorem labelled_start : Labelled fleet .start where
  log := fun _ h => absurd h List.not_mem_nil
  connections := fun _ =>
    { named := nofun
      sends := nofun
      skipped := fun _ h => absurd h List.not_mem_nil }

theorem Labelled.send (hs : Labelled fleet s) {more : List (Entry ι)}
    (hmore : ∀ entry ∈ more, Sourced fleet entry) :
    Labelled fleet { s with log := s.log ++ more } where
  log := fun entry he => by
    rcases List.mem_append.mp he with he | he
    · exact hs.log entry he
    · exact hmore entry he
  connections := hs.connections

/-- A message with the identifier of a connection with a send task was received from it. -/
theorem Sourced.own (hapart : fleet.Apart) {entry : Entry ι} (h : Sourced fleet entry)
    (hsends : (fleet.endpoints i).sends = true)
    (horigin : entry.message.origin = (fleet.linked i).identifier) : entry.source = some i := by
  unfold Sourced at h
  split at h
  · rename_i k hk
    obtain ⟨hreceives, hname⟩ := h
    rw [hk, hapart.connections i k hsends hreceives (horigin.symm.trans hname)]
  · rw [horigin] at h
    exact absurd h (hapart.others i hsends)

variable [DecidableEq ι]

theorem Labelled.set (hs : Labelled fleet s) (hc : Marked fleet i c) :
    Labelled fleet (s.set i c) where
  log := hs.log
  connections := fun j => by
    by_cases hj : j = i
    · subst hj
      rw [Router.connections_set_self]
      exact hc
    · rw [Router.connections_set_of_ne hj]
      exact hs.connections j

theorem Labelled.stop (hs : Labelled fleet s) : Labelled fleet (s.stop i) :=
  hs.set { hs.connections i with named := nofun, sends := nofun }

theorem Labelled.stopSending (hs : Labelled fleet s) :
    Labelled fleet (s.stopSending fleet.endpoints i) := by
  unfold Router.stopSending
  split
  · exact hs.set { hs.connections i with sends := nofun }
  · exact hs.stop

theorem labelled_take {item : StreamItem} {now : UInt64} (hs : Labelled fleet s)
    (h : s.step fleet.endpoints (.take i item now) = some s') : Labelled fleet s' := by
  have hi := hs.connections i
  simp only [Router.step] at h
  split at h
  · split at h
    · cases h
      refine hs.set { hi with named := fun m hm => ?_ }
      by_cases hreceives : (fleet.endpoints i).receives = true
      · rw [if_pos hreceives] at hm
        cases hm
        exact ⟨hreceives, rfl⟩
      · rw [if_neg hreceives] at hm
        cases hm
    · cases h
      exact hs.set { hi with }
    · cases h
      exact hs.stop
  · cases h

theorem labelled_inject {results : List CallbackResult} (hs : Labelled fleet s)
    (h : s.step fleet.endpoints (.inject i results) = some s') : Labelled fleet s' := by
  have hi := hs.connections i
  simp only [Router.step] at h
  split at h
  · rename_i m hm
    cases h
    have hset : Labelled fleet (s.set i { s.connections i with receiving := .waits }) :=
      hs.set { hi with named := by rintro _ ⟨⟩ }
    refine hset.send fun entry he => ?_
    obtain ⟨m', hm', rfl⟩ := List.mem_map.mp he
    rw [sent?_input] at hm'
    have hsame : m' = m := by
      split at hm'
      · exact absurd hm' List.not_mem_nil
      · exact List.mem_singleton.mp hm'
    rw [hsame]
    exact hi.named m hm
  · cases h

/-- What a send task skips carries its own identifier, and so was received by it. -/
theorem labelled_recv (hapart : fleet.Apart) (hs : Labelled fleet s)
    (h : s.step fleet.endpoints (.recv i) = some s') : Labelled fleet s' := by
  have hi := hs.connections i
  simp only [Router.step] at h
  split at h
  · rename_i r hr
    have hsends := hi.sends r (Connection.receiver?_waits hr)
    split at h
    · cases h
    · rename_i entry r' hrecv
      have hmem : entry ∈ s.log := List.mem_of_getElem? (Receiver.recv?_eq_some.mp hrecv).1
      split at h
      · rename_i horigin
        cases h
        refine hs.set { hi with sends := fun _ _ => hsends, skipped := fun e he => ?_ }
        rcases List.mem_append.mp he with he | he
        · exact hi.skipped e he
        · obtain rfl := List.mem_singleton.mp he
          exact (hs.log e hmem).own hapart hsends horigin
      · split at h <;> cases h <;> exact hs.set { hi with sends := fun _ _ => hsends }
  · cases h

theorem labelled_write {results : List CallbackResult} {written : Except IoErrorKind Unit}
    (hs : Labelled fleet s) (h : s.step fleet.endpoints (.write i results written) = some s') :
    Labelled fleet s' := by
  have hi := hs.connections i
  simp only [Router.step] at h
  split at h
  · rename_i r m hr
    have hsends := hi.sends r (Connection.receiver?_has hr)
    split at h
    · cases h
      exact hs.set { hi with sends := fun _ _ => hsends }
    · cases h
      refine Labelled.stopSending ?_
      exact hs.set { hi with sends := fun _ _ => hsends }
  · cases h

theorem labelled_step (hapart : fleet.Apart) {a : RouterAction ι} (hs : Labelled fleet s)
    (hC : fleet.Allowed s a) (h : s.step fleet.endpoints a = some s') : Labelled fleet s' := by
  cases a with
  | take i item now => exact labelled_take hs h
  | inject i results => exact labelled_inject hs h
  | subscribe i =>
      have hi := hs.connections i
      simp only [Router.step] at h
      split at h
      · rename_i hready
        cases h
        exact hs.set { hi with sends := fun _ _ => hready.1 }
      · cases h
  | recv i => exact labelled_recv hapart hs h
  | lag i count =>
      have hi := hs.connections i
      simp only [Router.step] at h
      split at h
      · rename_i r hr
        split at h
        · cases h
          exact hs.set { hi with
            sends := fun _ _ => hi.sends r (Connection.receiver?_waits hr) }
        · cases h
      · cases h
  | write i results written => exact labelled_write hs h
  | other message =>
      simp only [Router.step] at h
      cases h
      refine hs.send fun entry he => ?_
      obtain rfl := List.mem_singleton.mp he
      exact hC
  | drop i =>
      simp only [Router.step] at h
      cases h
      exact hs.stop
  | connect i =>
      have hi := hs.connections i
      simp only [Router.step] at h
      split at h
      · cases h
        exact hs.set { hi with named := by rintro _ ⟨⟩, sends := by rintro _ ⟨⟩ }
      · cases h

theorem skipsOwn_of_apart (hapart : fleet.Apart) : fleet.SkipsOwn := fun s h =>
  have hs : Labelled fleet s :=
    h.inv labelled_start fun _ _ _ hs hC hstep => labelled_step hapart hs hC hstep
  fun i => (hs.connections i).skipped

end Apart

/-! ## 3. Connections that are not -/

section Collision

variable [DecidableEq ι] {newV5 : String → DriverUuid} {fleet : Fleet newV5 ι}

/-- A connection with a send task comes to wait for messages. The first packet of a UDP server's
    client is any packet. -/
theorem subscribes {i : ι} (hsends : (fleet.endpoints i).sends = true) (packet : Packet) :
    ∃ s : Router ι, Reach (Router.step fleet.endpoints) fleet.Allowed .start s ∧ s.log = [] ∧
      (s.connections i).sending = .waits ⟨0, 0⟩ ∧
      ∀ j, j ≠ i → s.connections j = Router.start.connections j := by
  have hfirst : ∃ s1 : Router ι, Reach (Router.step fleet.endpoints) fleet.Allowed .start s1 ∧
      s1.log = [] ∧ (s1.connections i).sending = .unsubscribed ∧
      ((fleet.endpoints i).kind = .udpServed → (s1.connections i).met = true) ∧
      ∀ j, j ≠ i → s1.connections j = Router.start.connections j := by
    by_cases hserved : (fleet.endpoints i).kind = .udpServed
    · have htakes : (fleet.endpoints i).takes = true := by
        unfold Endpoint.takes
        rw [hserved]
        rfl
      have hstep : Router.start.step fleet.endpoints (.take i (.packet packet) 0) = some _ :=
        if_pos ⟨htakes, rfl⟩
      refine ⟨_, .next _ _ (.take i (.packet packet) 0) .start trivial hstep, rfl, ?_, ?_, ?_⟩
      · rw [Router.connections_set_self]
        rfl
      · rw [Router.connections_set_self]
        exact fun _ => rfl
      · exact fun j hj => Router.connections_set_of_ne hj
    · exact ⟨.start, .start, rfl, rfl, fun h => absurd h hserved, fun _ _ => rfl⟩
  obtain ⟨s1, hreach, hlog, hoff, hmet, hothers⟩ := hfirst
  have hstep : s1.step fleet.endpoints (.subscribe i) = some _ := if_pos ⟨hsends, hoff, hmet⟩
  refine ⟨_, .next _ _ (.subscribe i) hreach trivial hstep, hlog, ?_, ?_⟩
  · rw [Router.connections_set_self, hlog]
    rfl
  · intro j hj
    rw [Router.connections_set_of_ne hj]
    exact hothers j hj

/-- A message with the identifier of the connection is skipped, wherever it is from. -/
theorem skips {s : Router ι} {i : ι} {entry : Entry ι}
    (hreach : Reach (Router.step fleet.endpoints) fleet.Allowed .start s)
    (hwaits : (s.connections i).sending = .waits ⟨0, 0⟩) (hlog : s.log = [entry])
    (horigin : entry.message.origin = (fleet.linked i).identifier) (hown : fleet.SkipsOwn) :
    entry.source = some i := by
  have hrecv : Receiver.recv? ⟨0, 0⟩ s.log = some (entry, ⟨0, 1⟩) := by
    rw [hlog]
    rfl
  have horigin' : entry.message.origin = (fleet.endpoints i).identifier := horigin
  obtain ⟨s1, hstep, hskipped⟩ : ∃ s1, s.step fleet.endpoints (.recv i) = some s1 ∧
      entry ∈ (s1.connections i).skipped := by
    simp only [Router.step, hwaits, hrecv, horigin', if_true]
    refine ⟨_, rfl, ?_⟩
    rw [Router.connections_set_self]
    exact List.mem_append_right _ (List.mem_singleton.mpr rfl)
  exact hown s1 (.next _ _ (.recv i) hreach trivial hstep) i entry hskipped

theorem apart_of_skipsOwn (hown : fleet.SkipsOwn) : fleet.Apart where
  connections := fun i j hsends hreceives hsame => by
    by_contra hne
    obtain ⟨s, hreach, hlog, hwaits, hothers⟩ := subscribes hsends ⟨[], 0, 0, 0, []⟩
    have hready : (s.connections j).receiving = .waits := by
      rw [hothers j fun h => hne h.symm]
      rfl
    have htakes : (fleet.endpoints j).takes = true := by
      unfold Endpoint.takes
      unfold Endpoint.receives at hreceives
      rw [hreceives, Bool.or_true]
    let message : Protocol := ⟨(fleet.linked j).identifier, 0, ⟨[], 0, 0, 0, []⟩⟩
    -- the other connection receives a packet ...
    obtain ⟨s1, hstep1, hlog1, hhas, hwaits1⟩ : ∃ s1,
        s.step fleet.endpoints (.take j (.packet ⟨[], 0, 0, 0, []⟩) 0) = some s1 ∧ s1.log = [] ∧
          (s1.connections j).receiving = .has message ∧
          (s1.connections i).sending = .waits ⟨0, 0⟩ := by
      simp only [Router.step, htakes, hready, nextPacket, hreceives, if_true, and_self]
      refine ⟨_, rfl, hlog, ?_, ?_⟩
      · rw [Router.connections_set_self]
        rfl
      · rw [Router.connections_set_of_ne hne]
        exact hwaits
    have hreach1 : Reach (Router.step fleet.endpoints) fleet.Allowed .start s1 :=
      .next _ _ (.take j (.packet ⟨[], 0, 0, 0, []⟩) 0) hreach trivial hstep1
    -- ... and sends it into the hub
    obtain ⟨s2, hstep2, hlog2, hwaits2⟩ : ∃ s2,
        s1.step fleet.endpoints (.inject j []) = some s2 ∧ s2.log = [⟨some j, message⟩] ∧
          (s2.connections i).sending = .waits ⟨0, 0⟩ := by
      simp only [Router.step, hhas]
      refine ⟨_, rfl, ?_, ?_⟩
      · rw [sent?_input, hlog1]
        rfl
      · show ((s1.set j _).connections i).sending = _
        rw [Router.connections_set_of_ne hne]
        exact hwaits1
    have hreach2 : Reach (Router.step fleet.endpoints) fleet.Allowed .start s2 :=
      .next _ _ (.inject j []) hreach1 trivial hstep2
    have hsource := skips hreach2 hwaits2 hlog2 hsame.symm hown
    exact hne (Option.some.inj hsource).symm
  others := fun i hsends horigin => by
    obtain ⟨s, hreach, hlog, hwaits, _⟩ := subscribes hsends ⟨[], 0, 0, 0, []⟩
    let message : Protocol := ⟨(fleet.linked i).identifier, 0, ⟨[], 0, 0, 0, []⟩⟩
    have hstep : s.step fleet.endpoints (.other message) =
      some { s with log := s.log ++ [⟨none, message⟩] } := rfl
    have hreach1 : Reach (Router.step fleet.endpoints) fleet.Allowed .start _ :=
      .next _ _ (RouterAction.other message) hreach horigin hstep
    have hsource := skips hreach1 hwaits (by rw [hlog]; rfl) rfl hown
    cases hsource

/-- **A send task skips the messages of its own connection only, exactly when the connections are
    apart**: for any drivers that the hub accepts together, over all runs. -/
theorem skipsOwn_iff (fleet : Fleet newV5 ι) : fleet.SkipsOwn ↔ fleet.Apart :=
  ⟨apart_of_skipsOwn, skipsOwn_of_apart⟩

/-- A TCP client and a UDP client of one address. -/
def tcpAndUdp : Bool → Linked
  | true => ⟨.tcpClient "127.0.0.1:14550" .both, "127.0.0.1:14550", by decide⟩
  | false => ⟨.udpClient "127.0.0.1:14550" .both, "127.0.0.1:14550", by decide⟩

/-- `Uuid::new_v5`, on the names of the two. -/
def newV5OfNames (name : String) : DriverUuid :=
  if name = "mavlink_server::drivers::tcp::client::TcpClient:127.0.0.1:14550" then
    0x9825208c1fd05241837c54419c50153c
  else if name = "mavlink_server::drivers::udp::client::UdpClient:127.0.0.1:14550" then
    0x88f75b2e37bb550ea96cfd4c99b493c3
  else 0

def tcpAndUdpFleet : Fleet newV5OfNames Bool where
  linked := tcpAndUdp
  others := [.heartbeat]
  accepted := by decide +kernel
  told := by decide +kernel

/-- **The two starve each other**: the hub accepts both, and each skips what the other receives. -/
theorem skipsOwn_collision : ¬ tcpAndUdpFleet.SkipsOwn ∧
    (tcpAndUdpFleet.linked true).link.uuid newV5OfNames ≠
      (tcpAndUdpFleet.linked false).link.uuid newV5OfNames := by
  constructor
  · intro hown
    have hsame := (apart_of_skipsOwn hown).connections true false (by decide) (by decide)
      (by decide)
    cases hsame
  · decide +kernel

end Collision

end MavlinkServer.Drivers
