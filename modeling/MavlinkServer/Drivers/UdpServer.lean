/-
  File:      MavlinkServer/Drivers/UdpServer.lean
  Subject:   THE CLIENTS OF A UDP SERVER (`udp_receive_task` in
             `src/lib/drivers/udp/server.rs`, `udp_send_task` in
             `src/lib/drivers/udp/mod.rs`).

  A client is an address that a packet has come from. It has a send task, and is
  discarded when it has been silent for too long; the receive loop looks for
  such clients behind the callbacks of a packet, and nowhere else.

  * `UdpServer`, `step` -- the receive loop, the send tasks of the clients, the
    hub and the time;
  * `ServesActive` -- no message goes to a client that has been silent for
    longer than the timeout;
  * `Traffic` -- what an onlooker sees of the socket, the callbacks and the
    clock; `Attended` -- when a message of the hub goes out, a packet has been
    accepted since any address became silent;
  * **`servesActive_reach`** -- so in every run that is attended, and
    `servesActive_write_iff` -- what is asked of the address that is written to
    is exact;
  * `servesActive_quiet` -- a client that is the only one, and gone.
-/
import MavlinkServer.Drivers.Routing

namespace MavlinkServer.Drivers

open Lib Hub

/-! ## 1. The server -/

/-- `cli::udp_server_timeout`, in nanoseconds. -/
def udpServerTimeout (seconds : Int16) : Option Nat :=
  if seconds < 0 then none else some (seconds.toNatClampNeg * 1000000000)

structure UdpServerConfig where
  direction : Direction
  /-- the argument `--udp-server-timeout` -/
  timeout : Int16
  deriving DecidableEq

/-- `UdpClient`, with the state of its send task. -/
structure ServedClient where
  lastUpdate : Nat
  task : Sending
  deriving DecidableEq, Repr

/-- A packet that was written to an address: when, and when the last one from it had come. -/
structure Served where
  clientAddr : String
  time : Nat
  arrived : Option Nat
  packet : Packet
  deriving DecidableEq, Repr

structure UdpServer where
  now : Nat
  log : List Protocol
  receiving : Receiving
  clients : String → Option ServedClient
  /-- when the last packet of an address came -/
  arrived : String → Option Nat
  written : List Served

inductive UdpServerAction where
  | tick (duration : Nat)
  /-- something else sends into the hub -/
  | send (message : Protocol)
  /-- the socket gives an item, from this address -/
  | take (item : StreamItem) (clientAddr : String) (now : UInt64)
  /-- the callbacks have given their results -/
  | called (results : List CallbackResult)
  /-- the receive loop has ended, and `run` binds again -/
  | bind
  /-- the send task of a client: it subscribes, receives, is lagging, writes -/
  | subscribe (clientAddr : String)
  | recv (clientAddr : String)
  | lag (clientAddr : String) (count : Nat)
  | write (clientAddr : String) (results : List CallbackResult) (written : Except IoErrorKind Unit)
  deriving DecidableEq

namespace UdpServer

def start : UdpServer := ⟨0, [], .waits, fun _ => none, fun _ => none, []⟩

/-- "Update clients": the time is refreshed, or a client is added and its task spawned. -/
def update (s : UdpServer) (clientAddr : String) : UdpServer :=
  let task := ((s.clients clientAddr).map (·.task)).getD .unsubscribed
  { s with
    clients := Function.update s.clients clientAddr (some ⟨s.now, task⟩)
    arrived := Function.update s.arrived clientAddr (some s.now) }

/-- The closure of `clients.retain`: "Client Timeout", "Client task recreation". -/
def retained (timeout : Option Nat) (now : Nat) (client : ServedClient) : Option ServedClient :=
  if timeout.any fun timeout => now - client.lastUpdate > timeout then none
  else some { client with task := if client.task = .stopped then .unsubscribed else client.task }

def check (timeout : Option Nat) (s : UdpServer) : UdpServer :=
  { s with clients := fun addr => (s.clients addr).bind (retained timeout s.now) }

def setTask (s : UdpServer) (clientAddr : String) (client : ServedClient) (task : Sending) :
    UdpServer :=
  { s with clients := Function.update s.clients clientAddr (some { client with task := task }) }

def step (config : UdpServerConfig) (s : UdpServer) : UdpServerAction → Option UdpServer
  | .tick duration => some { s with now := s.now + duration }
  | .send message => some { s with log := s.log ++ [message] }
  | .take item clientAddr now =>
      if s.receiving = .waits then
        match nextPacket item with
        | .ok packet =>
            let s := s.update clientAddr
            if config.direction.canReceive then
              some { s with receiving := .has ⟨clientAddr, now, packet⟩ }
            else some (s.check (udpServerTimeout config.timeout))
        | .error .next => some s
        -- the clients are dropped, and with each its task
        | .error _ => some { s with receiving := .stopped, clients := fun _ => none }
      else none
  | .called results =>
      match s.receiving with
      | .has message =>
          -- `continue 'mainloop`
          if vetoed results then some { s with receiving := .waits }
          else
            some { s.check (udpServerTimeout config.timeout) with
              receiving := .waits
              log := s.log ++ [message] }
      | _ => none
  | .bind => if s.receiving = .stopped then some { s with receiving := .waits } else none
  | .subscribe clientAddr =>
      match s.clients clientAddr with
      | some client =>
          if client.task = .unsubscribed then
            some (s.setTask clientAddr client (.waits (.subscribe s.log)))
          else none
      | none => none
  | .recv clientAddr =>
      match s.clients clientAddr with
      | some client =>
          match client.task with
          | .waits receiver =>
              match receiver.recv? s.log with
              | none => none
              | some (message, receiver) =>
                  if message.origin ≠ clientAddr ∧ config.direction.canSend = true then
                    some (s.setTask clientAddr client (.has receiver message))
                  else some (s.setTask clientAddr client (.waits receiver))
          | _ => none
      | none => none
  | .lag clientAddr count =>
      match s.clients clientAddr with
      | some client =>
          match client.task with
          | .waits receiver =>
              if receiver.next + count ≤ s.log.length then
                some (s.setTask clientAddr client
                  (.waits { receiver with next := receiver.next + count }))
              else none
          | _ => none
      | none => none
  | .write clientAddr results written =>
      match s.clients clientAddr with
      | some client =>
          match client.task with
          | .has receiver message =>
              let done := output message results written udpRefused
              let task := if done.2 = .next then .waits receiver else .stopped
              some { s.setTask clientAddr client task with
                written := s.written ++ (done.1.filterMap Effect.sunk?).map fun packet =>
                  ⟨clientAddr, s.now, s.arrived clientAddr, packet⟩ }
          | _ => none
      | none => none

end UdpServer

/-! ## 2. Active clients -/

/-- **Serves active clients**: what was written to an address was written no later than the timeout
    after a packet had come from it. -/
def ServesActive (timeout : Nat) (s : UdpServer) : Prop :=
  ∀ w ∈ s.written, ∃ time ∈ w.arrived, w.time ≤ time + timeout

instance (timeout : Nat) (s : UdpServer) : Decidable (ServesActive timeout s) :=
  inferInstanceAs (Decidable (∀ w ∈ s.written, ∃ time ∈ w.arrived, w.time ≤ time + timeout))

/-! ## 3. What happens outside -/

/-- The clock, and what has come in at the socket since it was bound: when the last packet of each
    address came, and when one was last accepted, which decodes and no callback refuses. -/
structure Traffic where
  now : Nat
  heard : IndexMap String Nat
  accepted : Nat
  deriving DecidableEq

namespace Traffic

def start : Traffic := ⟨0, .empty, 0⟩

def hear (t : Traffic) (clientAddr : String) : Traffic :=
  { t with heard := (t.heard.insert clientAddr t.now).2 }

def accept (t : Traffic) : Traffic := { t with accepted := t.now }

def see (config : UdpServerConfig) (t : Traffic) : UdpServerAction → Traffic
  | .tick duration => { t with now := t.now + duration }
  | .take item clientAddr _ =>
      match nextPacket item with
      -- without a direction that receives no callback is asked
      | .ok _ => if config.direction.canReceive then t.hear clientAddr else (t.hear clientAddr).accept
      | .error .next => t
      | .error _ => { t with heard := .empty }
  | .called results => if vetoed results then t else t.accept
  | .send _ | .bind | .subscribe _ | .recv _ | .lag .. | .write .. => t

end Traffic

/-- **Attended**: when a message of the hub goes out, whoever has been heard of and been silent for
    longer than the timeout was silent for longer when a packet was last accepted, from anyone. -/
def Attended (timeout : Nat) (t : Traffic) : UdpServerAction → Prop
  | .write _ results (.ok ()) => vetoed results = false →
      ∀ e ∈ t.heard.entries, e.2 + timeout < t.now → e.2 + timeout < t.accepted
  | _ => True

instance (timeout : Nat) (t : Traffic) : ∀ a, Decidable (Attended timeout t a)
  | .write _ results (.ok ()) => inferInstanceAs (Decidable (vetoed results = false →
      ∀ e ∈ t.heard.entries, e.2 + timeout < t.now → e.2 + timeout < t.accepted))
  | .write _ _ (.error _) | .tick _ | .send _ | .take .. | .called _ | .bind | .subscribe _ | .recv _
  | .lag .. => .isTrue trivial

/-- A client is an address that was heard of, and was not silent for too long when a packet was last
    accepted. -/
structure Kept (timeout : Nat) (arrived : String → Option Nat) (t : Traffic) (clientAddr : String)
    (client : ServedClient) : Prop where
  arrived : arrived clientAddr = some client.lastUpdate
  heard : t.heard.get? clientAddr = some client.lastUpdate
  accepted : t.accepted ≤ client.lastUpdate + timeout

structure Tended (timeout : Nat) (s : UdpServer) (t : Traffic) : Prop where
  now : t.now = s.now
  past : t.accepted ≤ t.now
  clients : ∀ clientAddr client, s.clients clientAddr = some client →
    Kept timeout s.arrived t clientAddr client
  active : ServesActive timeout s

section Steps

variable {config : UdpServerConfig} {timeout : Nat} {s s' : UdpServer} {t : Traffic}
  {clientAddr : String}

theorem Tended.setTask (h : Tended timeout s t) {client : ServedClient} {task : Sending}
    (hc : s.clients clientAddr = some client) :
    Tended timeout (s.setTask clientAddr client task) t where
  now := h.now
  past := h.past
  active := h.active
  clients := by
    intro addr client' hc'
    by_cases he : addr = clientAddr
    · subst he
      have hkept := h.clients addr client hc
      obtain rfl : { client with task := task } = client' := by
        unfold UdpServer.setTask at hc'
        simpa using hc'
      exact ⟨hkept.arrived, hkept.heard, hkept.accepted⟩
    · have hsame : s.clients addr = some client' := by
        rw [← hc']
        exact (Function.update_of_ne he ..).symm
      exact h.clients addr client' hsame

theorem Tended.update (h : Tended timeout s t) (clientAddr : String) :
    Tended timeout (s.update clientAddr) (t.hear clientAddr) where
  now := h.now
  past := h.past
  active := h.active
  clients := by
    intro addr client hc
    by_cases he : addr = clientAddr
    · subst he
      have hclient : client.lastUpdate = s.now := by
        unfold UdpServer.update at hc
        dsimp only at hc
        rw [Function.update_self] at hc
        cases hc
        rfl
      have harrived : (s.update addr).arrived addr = some s.now := Function.update_self ..
      have hheard : (t.hear addr).heard.get? addr = some t.now := IndexMap.get?_insert_self
      refine ⟨by rw [harrived, hclient], by rw [hheard, hclient, h.now], ?_⟩
      have hpast := h.past
      rw [hclient, ← h.now]
      show t.accepted ≤ _
      omega
    · have hsame : s.clients addr = some client := by
        rw [← hc]
        exact (Function.update_of_ne he ..).symm
      have hkept := h.clients addr client hsame
      have harrived : (s.update clientAddr).arrived addr = s.arrived addr :=
        Function.update_of_ne he ..
      have hheard : (t.hear clientAddr).heard.get? addr = t.heard.get? addr :=
        IndexMap.get?_insert_of_ne he
      exact ⟨by rw [harrived, hkept.arrived], by rw [hheard, hkept.heard], hkept.accepted⟩

/-- **A check discards the silent clients.** -/
theorem Tended.check (h : Tended timeout s t) :
    Tended timeout (s.check (some timeout)) t.accept where
  now := h.now
  past := Nat.le_refl _
  active := h.active
  clients := by
    intro addr client' hc'
    obtain ⟨client, hc, hretained⟩ := Option.bind_eq_some_iff.mp hc'
    have hkept := h.clients addr client hc
    unfold UdpServer.retained at hretained
    split at hretained
    · cases hretained
    · rename_i hactive
      cases hretained
      have hsilence : ¬ s.now - client.lastUpdate > timeout := by simpa using hactive
      refine ⟨hkept.arrived, hkept.heard, ?_⟩
      show t.now ≤ client.lastUpdate + timeout
      rw [h.now]
      omega

/-- The clients do not depend on the hub, nor on where the receive loop is. -/
theorem Tended.elsewhere (h : Tended timeout s t) (receiving : Receiving) (log : List Protocol) :
    Tended timeout { s with receiving := receiving, log := log } t :=
  ⟨h.now, h.past, h.clients, h.active⟩

theorem tended_take (hT : udpServerTimeout config.timeout = some timeout) {item : StreamItem}
    {now : UInt64} (h : Tended timeout s t)
    (hstep : s.step config (.take item clientAddr now) = some s') :
    Tended timeout s' (t.see config (.take item clientAddr now)) := by
  simp only [UdpServer.step] at hstep
  unfold Traffic.see
  dsimp only
  split at hstep
  · cases hitem : nextPacket item with
    | ok packet =>
        rw [hitem] at hstep
        dsimp only at hstep ⊢
        have hupdate := h.update clientAddr
        split at hstep
        · rename_i hreceives
          cases hstep
          rw [if_pos hreceives]
          exact hupdate.elsewhere ..
        · rename_i hreceives
          cases hstep
          rw [if_neg hreceives, hT]
          exact hupdate.check
    | error flow =>
        rw [hitem] at hstep
        cases flow with
        | next =>
            cases hstep
            exact h
        | leave | fail e =>
            cases hstep
            exact ⟨h.now, h.past, nofun, h.active⟩
  · cases hstep

/-- Who is written to has not been silent for too long, as long as no packet was accepted since. -/
theorem served_iff (h : Tended timeout s t) {client : ServedClient}
    (hc : s.clients clientAddr = some client) :
    s.now ≤ client.lastUpdate + timeout ↔
      ∀ time, t.heard.get? clientAddr = some time → time + timeout < t.now →
        time + timeout < t.accepted := by
  have hkept := h.clients clientAddr client hc
  have haccepted := hkept.accepted
  rw [hkept.heard, h.now]
  constructor
  · rintro hactive time ⟨⟩ hsilent
    omega
  · intro hattended
    by_contra hsilent
    have hfound := hattended client.lastUpdate rfl (by omega)
    omega

/-- **A write serves an active client exactly when its silence is attended.** -/
theorem servesActive_write {results : List CallbackResult} {written : Except IoErrorKind Unit}
    (h : Tended timeout s t) (hstep : s.step config (.write clientAddr results written) = some s') :
    ServesActive timeout s' ↔ (written = .ok () → vetoed results = false →
      ∀ time, t.heard.get? clientAddr = some time → time + timeout < t.now →
        time + timeout < t.accepted) := by
  simp only [UdpServer.step] at hstep
  split at hstep
  · rename_i client hc
    have hkept := h.clients clientAddr client hc
    split at hstep
    · rename_i receiver message hphase
      cases hstep
      rw [← served_iff h hc]
      unfold ServesActive
      dsimp only [UdpServer.setTask]
      rw [filterMap_sunk?_output]
      by_cases hwritten : vetoed results = false ∧ written = .ok ()
      · rw [if_pos hwritten]
        constructor
        · intro hactive _ _
          obtain ⟨time, harrived, hle⟩ := hactive _ (List.mem_append_right _ List.mem_cons_self)
          obtain rfl : client.lastUpdate = time := Option.some.inj (hkept.arrived.symm.trans harrived)
          exact hle
        · intro hactive w hw
          rcases List.mem_append.mp hw with hw | hw
          · exact h.active w hw
          · rw [List.mem_singleton.mp hw]
            exact ⟨client.lastUpdate, hkept.arrived, hactive hwritten.2 hwritten.1⟩
      · rw [if_neg hwritten]
        constructor
        · exact fun _ hok hveto => absurd ⟨hveto, hok⟩ hwritten
        · intro _ w hw
          rw [List.map_nil, List.append_nil] at hw
          exact h.active w hw
    · cases hstep
  · cases hstep

/-- What is written leaves the clients what they are. -/
theorem tended_write {results : List CallbackResult} {written : Except IoErrorKind Unit}
    (h : Tended timeout s t) (hC : Attended timeout t (.write clientAddr results written))
    (hstep : s.step config (.write clientAddr results written) = some s') : Tended timeout s' t := by
  have hactive : ServesActive timeout s' := by
    refine (servesActive_write h hstep).mpr ?_
    rintro rfl hveto time hheard
    exact hC hveto _ (IndexMap.get?_eq_some.mp hheard)
  simp only [UdpServer.step] at hstep
  split at hstep
  · rename_i client hc
    split at hstep
    · cases hstep
      exact { h.setTask hc with active := hactive }
    · cases hstep
  · cases hstep

theorem tended_step (hT : udpServerTimeout config.timeout = some timeout) {a : UdpServerAction}
    (h : Tended timeout s t) (hC : Attended timeout t a) (hstep : s.step config a = some s') :
    Tended timeout s' (t.see config a) := by
  cases a with
  | tick duration =>
      cases hstep
      have hlater : t.now ≤ t.now + duration := Nat.le_add_right ..
      exact ⟨congrArg (· + duration) h.now, Nat.le_trans h.past hlater,
        fun addr client hc => { h.clients addr client hc with }, h.active⟩
  | send message =>
      cases hstep
      exact h.elsewhere ..
  | take item clientAddr now => exact tended_take hT h hstep
  | called results =>
      simp only [UdpServer.step] at hstep
      unfold Traffic.see
      dsimp only
      split at hstep
      · split at hstep
        · rename_i hveto
          cases hstep
          rw [if_pos hveto]
          exact h.elsewhere ..
        · rename_i hveto
          cases hstep
          rw [if_neg hveto, hT]
          exact h.check.elsewhere ..
      · cases hstep
  | bind =>
      simp only [UdpServer.step] at hstep
      split at hstep
      · cases hstep
        exact h.elsewhere ..
      · cases hstep
  | subscribe clientAddr =>
      simp only [UdpServer.step] at hstep
      split at hstep
      · rename_i client hc
        split at hstep
        · cases hstep
          exact h.setTask hc
        · cases hstep
      · cases hstep
  | recv clientAddr =>
      simp only [UdpServer.step] at hstep
      split at hstep
      · rename_i client hc
        split at hstep
        · split at hstep
          · cases hstep
          · split at hstep <;> cases hstep <;> exact h.setTask hc
        · cases hstep
      · cases hstep
  | lag clientAddr count =>
      simp only [UdpServer.step] at hstep
      split at hstep
      · rename_i client hc
        split at hstep
        · split at hstep
          · cases hstep
            exact h.setTask hc
          · cases hstep
        · cases hstep
      · cases hstep
  | write clientAddr results written => exact tended_write h hC hstep

theorem tended_reach (hT : udpServerTimeout config.timeout = some timeout) {p : UdpServer × Traffic}
    (h : Reach (watched (UdpServer.step config) (Traffic.see config))
      (fun p => Attended timeout p.2) (.start, .start) p) : Tended timeout p.1 p.2 := by
  have hstart : Tended timeout .start .start :=
    ⟨rfl, Nat.le_refl _, nofun, fun _ hw => absurd hw List.not_mem_nil⟩
  refine h.inv (I := fun p => Tended timeout p.1 p.2) hstart fun p p' a htended hC hstep => ?_
  obtain ⟨hserver, hsee⟩ := watched_eq_some.mp hstep
  rw [hsee]
  exact tended_step hT htended hC hserver

end Steps

/-- **In every run that is attended, only active clients are served.** -/
theorem servesActive_reach (config : UdpServerConfig) {timeout : Nat}
    (hT : udpServerTimeout config.timeout = some timeout) {p : UdpServer × Traffic}
    (h : Reach (watched (UdpServer.step config) (Traffic.see config))
      (fun p => Attended timeout p.2) (.start, .start) p) : ServesActive timeout p.1 :=
  (tended_reach hT h).active

/-- **For the address that is written to, what is asked is exact**: behind every such run the next
    message that goes out to it leaves this true exactly when its silence is attended. -/
theorem servesActive_write_iff (config : UdpServerConfig) {timeout : Nat}
    (hT : udpServerTimeout config.timeout = some timeout) {p : UdpServer × Traffic}
    (h : Reach (watched (UdpServer.step config) (Traffic.see config))
      (fun p => Attended timeout p.2) (.start, .start) p)
    {clientAddr : String} {results : List CallbackResult} (hveto : vetoed results = false)
    {s' : UdpServer} (hstep : p.1.step config (.write clientAddr results (.ok ())) = some s') :
    ServesActive timeout s' ↔ ∀ time, p.2.heard.get? clientAddr = some time →
      time + timeout < p.2.now → time + timeout < p.2.accepted :=
  (servesActive_write (tended_reach hT h) hstep).trans
    ⟨fun hattended => hattended rfl hveto, fun hattended _ _ => hattended⟩

/-- The default of ten seconds. -/
def tenSeconds : UdpServerConfig := ⟨.both, 10⟩

/-- A ground station that sends, and is sent a heartbeat nine seconds later. -/
theorem servesActive_reach_station : ∃ s, ServesActive 10000000000 s ∧
    s.written = [⟨"192.168.2.1:14550", 9000000000, some 0, heartbeatPacket⟩] := by
  have hT : udpServerTimeout tenSeconds.timeout = some 10000000000 := by decide
  obtain ⟨p, hreach, hwritten⟩ : ∃ p : UdpServer × Traffic,
      Reach (watched (UdpServer.step tenSeconds) (Traffic.see tenSeconds))
        (fun p => Attended 10000000000 p.2) (.start, .start) p ∧
          p.1.written = [⟨"192.168.2.1:14550", 9000000000, some 0, heartbeatPacket⟩] :=
    exists_of_execC [.take (.packet heartbeatPacket) "192.168.2.1:14550" 0,
      .subscribe "192.168.2.1:14550", .called [.ok], .tick 9000000000,
      .send ⟨"/dev/ttyACM0", 9, heartbeatPacket⟩, .recv "192.168.2.1:14550",
      .recv "192.168.2.1:14550", .write "192.168.2.1:14550" [] (.ok ())] (by decide +kernel)
  exact ⟨p.1, servesActive_reach tenSeconds hT hreach, hwritten⟩

/-- **A client that has gone**: it was the only one, so no packet comes in and nothing looks at the
    clients; an hour later it is still sent heartbeats. -/
theorem servesActive_quiet : ∃ s, Reach (UdpServer.step tenSeconds) Free .start s ∧
    ¬ ServesActive 10000000000 s :=
  exists_of_execC [.take (.packet heartbeatPacket) "192.168.2.1:14550" 0,
    .subscribe "192.168.2.1:14550", .called [.ok], .tick 3600000000000,
    .send ⟨"/dev/ttyACM0", 9, heartbeatPacket⟩, .recv "192.168.2.1:14550",
    .recv "192.168.2.1:14550", .write "192.168.2.1:14550" [] (.ok ())] (by decide +kernel)

end MavlinkServer.Drivers
