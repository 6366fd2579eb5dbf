/-
  File:      MavlinkServer/Drivers/Veto.lean
  Subject:   THE CALLBACKS' VETO in the loops that bring messages into the hub
             (`src/lib/drivers/generic_tasks.rs`, `udp/client.rs`,
             `udp/server.rs`, `zenoh/json.rs`, `tlog/reader.rs`, `rest/mod.rs`).

  Each of them has the callbacks called and, when one gives an error, is to go
  on with the next message: `continue 'mainloop`. The two loops of `Rest` say
  `continue`, which goes on with the next callback.

  * `InputRun` -- a run of one of the seven loops, and its effects;
  * `Uniform` -- a message that all callbacks accept is the next thing sent, and
    nothing else is sent;
  * `uniform_iff` -- the runs that are uniform: all of them, but for the two
    loops in which a callback gives an error;
  * `uniform_rest` -- a message that is refused, and sent.
-/
import MavlinkServer.Tlog.Reader

namespace MavlinkServer.Drivers

open Lib Hub Tlog

/-! ## 1. The loops -/

/-- `udp_receive_task` of a client: the address in a datagram is not looked at. -/
def udpClientReceiveBody (remoteAddr : String) : ReceiveInput → List Effect × Flow TaskError :=
  defaultReceiveBody remoteAddr

/-- What the socket of a UDP server gives, with the address it is from. -/
structure UdpReceiveInput extends ReceiveInput where
  clientAddr : String
  deriving DecidableEq, Repr

/-- `udp_receive_task` of a server. -/
def udpServerReceiveBody (direction : Direction) (i : UdpReceiveInput) :
    List Effect × Flow TaskError :=
  match nextPacket i.item with
  | .ok packet =>
      (if direction.canReceive then input ⟨i.clientAddr, i.now, packet⟩ i.results else [], .next)
  | .error flow => ([], flow)

/-- What the subscriber of a Zenoh session gives. -/
inductive ZenohSample where
  | message (packet : Packet)
  /-- the payload is not a MAVLink message in JSON -/
  | invalid
  /-- the payload is not UTF-8, and `unwrap` panics -/
  | notUtf8
  | closed
  deriving DecidableEq, Repr

structure ZenohInput where
  sample : ZenohSample
  now : UInt64
  results : List CallbackResult
  deriving DecidableEq, Repr

/-- `Zenoh::receive_task`. -/
def zenohReceiveBody (i : ZenohInput) : List Effect × Flow TaskError :=
  match i.sample with
  | .message packet => (input ⟨"zenoh", i.now, packet⟩ i.results, .next)
  | .invalid => ([], .next)
  | .notUtf8 => ([], .fail .panic)
  | .closed => ([], .leave)

/-- The `continue` of `Rest` is that of the loop over the callbacks: the message is sent. -/
def inputAnyway (message : Protocol) (results : List CallbackResult) : List Effect :=
  [.updateInput message, .callAll message results, .toHub message]

/-- What comes over the WebSocket, as it is parsed. -/
structure RestInput where
  outcome : Recv (Option Packet)
  now : UInt64
  results : List CallbackResult
  deriving DecidableEq

/-- `Rest::receive_task`: `while let Ok(message)` is left by a lag, too. -/
def restReceiveBody (i : RestInput) : List Effect × Flow TaskError :=
  match i.outcome with
  | .message (some packet) => (inputAnyway ⟨"Ws", i.now, packet⟩ i.results, .next)
  | .message none => ([], .next)
  | .lagged _ | .closed => ([], .leave)

structure ControlInput where
  outcome : Recv Packet
  now : UInt64
  results : List CallbackResult
  deriving DecidableEq

/-- `Rest::control_send_task`. -/
def controlSendBody (i : ControlInput) : List Effect × Flow TaskError :=
  match i.outcome with
  | .message packet => (inputAnyway ⟨"Control", i.now, packet⟩ i.results, .next)
  | .lagged _ | .closed => ([], .leave)

/-- A run of a loop that brings messages into the hub. -/
inductive InputRun where
  | default (identifier : String) (inputs : List ReceiveInput)
  | udpClient (remoteAddr : String) (inputs : List ReceiveInput)
  | udpServer (direction : Direction) (inputs : List UdpReceiveInput)
  | zenoh (inputs : List ZenohInput)
  | tlogReader (m : MavlinkReader) (path : String) (file : List UInt8)
      (results : Nat → List CallbackResult)
  | restReceive (inputs : List RestInput)
  | restControl (inputs : List ControlInput)

def InputRun.effects : InputRun → List Effect
  | default identifier inputs => (defaultReceiveTask identifier inputs).effects
  | udpClient remoteAddr inputs =>
      (runLoop (loopOf (udpClientReceiveBody remoteAddr)) () inputs).effects
  | udpServer direction inputs =>
      (runLoop (loopOf (udpServerReceiveBody direction)) () inputs).effects
  | zenoh inputs => (runLoop (loopOf zenohReceiveBody) () inputs).effects
  | tlogReader m path file results => (playFile m path file).1.flatMap (Played.effects results)
  | restReceive inputs => (runLoop (loopOf restReceiveBody) () inputs).effects
  | restControl inputs => (runLoop (loopOf controlSendBody) () inputs).effects

/-! ## 2. Uniform runs -/

/-- **Uniform**: when the callbacks have been called for a message and all accept it, the message is
    due, and it is the next thing that is sent; nothing else is sent. -/
def Uniform : Option Protocol → List Effect → Prop
  | due, [] => due = none
  | due, .callAll message results :: rest =>
      due = none ∧ Uniform (if vetoed results then none else some message) rest
  | due, .toHub message :: rest => due = some message ∧ Uniform none rest
  | due, _ :: rest => Uniform due rest

theorem uniform_input (message : Protocol) (results : List CallbackResult) (rest : List Effect) :
    Uniform none (input message results ++ rest) ↔ Uniform none rest := by
  unfold input
  cases hv : vetoed results with
  | true => simp [Uniform, hv]
  | false => simp [Uniform, hv]

theorem uniform_inputAnyway (message : Protocol) (results : List CallbackResult)
    (rest : List Effect) : Uniform none (inputAnyway message results ++ rest) ↔
      vetoed results = false ∧ Uniform none rest := by
  unfold inputAnyway
  cases hv : vetoed results with
  | true => simp [Uniform, hv]
  | false => simp [Uniform, hv]

/-- What holds of the effects of an input, whatever comes after, holds of those of a list. -/
theorem uniform_flatMap {α : Type} {f : α → List Effect} {ok : α → Prop}
    (h : ∀ a rest, Uniform none (f a ++ rest) ↔ ok a ∧ Uniform none rest) (l : List α) :
    Uniform none (l.flatMap f) ↔ ∀ a ∈ l, ok a := by
  induction l with
  | nil => simp [Uniform]
  | cons a l ih => rw [List.flatMap_cons, h, ih, List.forall_mem_cons]

/-- A loop whose inputs send what they are to send is uniform. -/
theorem uniform_loop {ι : Type} {body : ι → List Effect × Flow TaskError} {ok : ι → Prop}
    (h : ∀ i rest, Uniform none ((body i).1 ++ rest) ↔ ok i ∧ Uniform none rest) (inputs : List ι) :
    Uniform none (runLoop (loopOf body) () inputs).effects ↔ ∀ i ∈ heard body inputs, ok i := by
  rw [effects_heard]
  exact uniform_flatMap h _

/-! ## 3. The seven loops -/

/-- No callback gives an error for a message that a loop of `Rest` receives; the other loops ask for
    nothing. -/
def InputRun.Unopposed : InputRun → Prop
  | restReceive inputs => ∀ i ∈ heard restReceiveBody inputs, ∀ packet,
      i.outcome = .message (some packet) → vetoed i.results = false
  | restControl inputs => ∀ i ∈ heard controlSendBody inputs, ∀ packet,
      i.outcome = .message packet → vetoed i.results = false
  | _ => True

theorem uniform_defaultReceiveBody (identifier : String) (i : ReceiveInput) (rest : List Effect) :
    Uniform none ((defaultReceiveBody identifier i).1 ++ rest) ↔ True ∧ Uniform none rest := by
  rw [true_and]
  unfold defaultReceiveBody
  cases nextPacket i.item with
  | ok packet => exact uniform_input ..
  | error flow => exact Iff.rfl

theorem uniform_udpServerReceiveBody (direction : Direction) (i : UdpReceiveInput)
    (rest : List Effect) : Uniform none ((udpServerReceiveBody direction i).1 ++ rest) ↔
      True ∧ Uniform none rest := by
  rw [true_and]
  unfold udpServerReceiveBody
  cases nextPacket i.item with
  | ok packet =>
      cases direction.canReceive with
      | true => exact uniform_input ..
      | false => exact Iff.rfl
  | error flow => exact Iff.rfl

theorem uniform_zenohReceiveBody (i : ZenohInput) (rest : List Effect) :
    Uniform none ((zenohReceiveBody i).1 ++ rest) ↔ True ∧ Uniform none rest := by
  rw [true_and]
  unfold zenohReceiveBody
  cases i.sample with
  | message packet => exact uniform_input ..
  | invalid | notUtf8 | closed => exact Iff.rfl

theorem uniform_restReceiveBody (i : RestInput) (rest : List Effect) :
    Uniform none ((restReceiveBody i).1 ++ rest) ↔
      (∀ packet, i.outcome = .message (some packet) → vetoed i.results = false) ∧
        Uniform none rest := by
  unfold restReceiveBody
  cases i.outcome with
  | message parsed =>
      cases parsed with
      | some packet =>
          rw [uniform_inputAnyway]
          have hone : (∀ p, Recv.message (some packet) = .message (some p) →
              vetoed i.results = false) ↔ vetoed i.results = false :=
            ⟨fun h => h packet rfl, fun h _ _ => h⟩
          rw [hone]
      | none => simp
  | lagged count | closed => simp

theorem uniform_controlSendBody (i : ControlInput) (rest : List Effect) :
    Uniform none ((controlSendBody i).1 ++ rest) ↔
      (∀ packet, i.outcome = .message packet → vetoed i.results = false) ∧ Uniform none rest := by
  unfold controlSendBody
  cases i.outcome with
  | message packet =>
      rw [uniform_inputAnyway]
      have hone : (∀ p, Recv.message packet = .message p → vetoed i.results = false) ↔
          vetoed i.results = false := ⟨fun h => h packet rfl, fun h _ _ => h⟩
      rw [hone]
  | lagged count | closed => simp

/-- **The veto is uniform but for `Rest`**: in every run of the seven loops, what all callbacks accept
    is sent once and what one of them refuses is not, exactly when it is a run of another loop or no
    callback refuses anything. -/
theorem uniform_iff (run : InputRun) : Uniform none run.effects ↔ run.Unopposed := by
  have always : ∀ {α : Type} {l : List α}, (∀ a ∈ l, True) ↔ True := by simp
  cases run with
  | default identifier inputs =>
      exact (uniform_loop (uniform_defaultReceiveBody identifier) inputs).trans always
  | udpClient remoteAddr inputs =>
      exact (uniform_loop (uniform_defaultReceiveBody remoteAddr) inputs).trans always
  | udpServer direction inputs =>
      exact (uniform_loop (uniform_udpServerReceiveBody direction) inputs).trans always
  | zenoh inputs => exact (uniform_loop uniform_zenohReceiveBody inputs).trans always
  | tlogReader m path file results =>
      have heach : ∀ (p : Played) rest, Uniform none (p.effects results ++ rest) ↔
          True ∧ Uniform none rest := fun p rest => by
        rw [true_and]
        exact uniform_input ..
      exact (uniform_flatMap heach _).trans always
  | restReceive inputs => exact uniform_loop uniform_restReceiveBody inputs
  | restControl inputs => exact uniform_loop uniform_controlSendBody inputs

/-- **Refused, and sent**: one callback gives an error for what comes over the WebSocket. -/
theorem uniform_rest :
    ¬ Uniform none
      (InputRun.restReceive [⟨.message (some heartbeatPacket), 0, [.err]⟩]).effects := by
  have heffects : (InputRun.restReceive [⟨.message (some heartbeatPacket), 0, [.err]⟩]).effects =
      inputAnyway ⟨"Ws", 0, heartbeatPacket⟩ [.err] ++ [] := rfl
  rw [heffects, uniform_inputAnyway]
  exact fun h => absurd h.1 (by decide)

end MavlinkServer.Drivers
