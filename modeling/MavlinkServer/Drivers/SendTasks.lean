/-
  File:      MavlinkServer/Drivers/SendTasks.lean
  Subject:   THE SEND TASKS OF THE CONNECTIONS. The machines of `Routing` and
             `UdpServer` take a send task apart, into its waits; put together
             again they are the loops of `GenericTasks`.

  * `Endpoint.sendBody`, `Endpoint.sendTask` -- the loop a connection runs;
  * `Met` -- what the send tasks of a connection have met, task by task;
    `writtenBy` -- what the loops write on it;
  * `Runs` -- a connection has written just that; one lemma for each way in
    which a machine moves a task;
  * **`Router.written_eq`**, **`UdpServer.written_eq`** -- so in every run, with
    any lags, refusals, aborts and reconnections.
-/
import MavlinkServer.Drivers.UdpServer

namespace MavlinkServer.Drivers

open Lib Hub

/-! ## 1. The loop of an endpoint -/

namespace Endpoint

def sendTask (e : Endpoint) (inputs : List SendInput) : Iteration Unit Effect TaskError :=
  match e.kind with
  | .stream => defaultSendTask e.identifier inputs
  | .udpClient | .udpServed => udpSendTask e.identifier e.direction inputs

def sendBody (e : Endpoint) : SendInput → List Effect × Flow TaskError :=
  match e.kind with
  | .stream => defaultSendBody e.identifier
  | .udpClient | .udpServed => udpSendBody e.identifier e.direction

theorem sendTask_eq (e : Endpoint) (inputs : List SendInput) :
    e.sendTask inputs = runLoop (loopOf e.sendBody) () inputs := by
  unfold sendTask sendBody
  cases e.kind <;> rfl

theorem sendBody_lagged (e : Endpoint) (count : UInt64) (results : List CallbackResult)
    (written : Except IoErrorKind Unit) :
    e.sendBody ⟨.lagged count, results, written⟩ = ([], .next) := by
  unfold sendBody
  cases e.kind <;> rfl

/-- The loop does not come to the callbacks: the message is loopback, or the direction is wrong. -/
def passesOver (e : Endpoint) (message : Protocol) : Bool :=
  message.origin = e.identifier || !e.writes

/-- **One message**: it is passed over, or goes through the callbacks to the sink. -/
theorem sendBody_message (e : Endpoint) (message : Protocol) (results : List CallbackResult)
    (written : Except IoErrorKind Unit) :
    e.sendBody ⟨.message message, results, written⟩ =
      if message.origin = e.identifier then ([.loopback message], .next)
      else if e.writes then output message results written e.refused
      else ([], .next) := by
  unfold sendBody writes refused
  cases e.kind with
  | stream => simp [defaultSendBody]
  | udpClient | udpServed => simp [udpSendBody]

theorem sendBody_passedOver {e : Endpoint} {message : Protocol}
    (h : e.passesOver message = true) (results : List CallbackResult)
    (written : Except IoErrorKind Unit) :
    (e.sendBody ⟨.message message, results, written⟩).1.filterMap Effect.sunk? = [] ∧
      (e.sendBody ⟨.message message, results, written⟩).2 = .next := by
  rw [sendBody_message]
  unfold passesOver at h
  split
  · exact ⟨rfl, rfl⟩
  · rename_i horigin
    have hwrites : ¬ e.writes = true := by simpa [horigin] using h
    rw [if_neg hwrites]
    exact ⟨rfl, rfl⟩

theorem sendBody_written {e : Endpoint} {message : Protocol}
    (h : e.passesOver message = false) (results : List CallbackResult)
    (written : Except IoErrorKind Unit) :
    e.sendBody ⟨.message message, results, written⟩ =
      output message results written e.refused := by
  have hpass : message.origin ≠ e.identifier ∧ e.writes = true := by
    simpa [passesOver] using h
  rw [sendBody_message, if_neg hpass.1, if_pos hpass.2]

end Endpoint

/-! ## 2. What a connection's tasks have met -/

/-- The inputs of each send task that has subscribed, the newest task first. -/
abbrev Met : Type := List (List SendInput)

/-- The newest task has met this input. -/
def Met.add (input : SendInput) : Met → Met
  | [] => []
  | inputs :: earlier => (inputs ++ [input]) :: earlier

/-- It has received this message. One that goes through the callbacks is met when they are
    through. -/
def Met.receive (e : Endpoint) (message : Protocol) (met : Met) : Met :=
  if e.passesOver message then met.add ⟨.message message, [], .ok ()⟩ else met

/-- **What the loops write.** -/
def writtenBy (e : Endpoint) : Met → List Packet
  | [] => []
  | inputs :: earlier =>
      writtenBy e earlier ++ (e.sendTask inputs).effects.filterMap Effect.sunk?

def Sending.subscribed : Sending → Bool
  | .waits _ | .has _ _ => true
  | .unsubscribed | .stopped => false

/-- **A connection has written what the loops write**, and as long as its task is subscribed no
    input has ended the newest one. A message that the task has goes to the sink. -/
structure Runs (e : Endpoint) (sending : Sending) (written : List Packet) (met : Met) : Prop where
  written : written = writtenBy e met
  running : sending.subscribed = true →
    ∃ inputs earlier, met = inputs :: earlier ∧ ∀ i ∈ inputs, (e.sendBody i).2 = .next
  passed : ∀ receiver message, sending = .has receiver message → e.passesOver message = false

namespace Runs

variable {e : Endpoint} {sending sending' : Sending} {written : List Packet} {met : Met}

theorem start : Runs e .unsubscribed [] [] where
  written := rfl
  running := nofun
  passed := nofun

/-- The task stops, is aborted, or gives way to one that has yet to subscribe. -/
theorem stop (h : Runs e sending written met) (hstop : sending'.subscribed = false) :
    Runs e sending' written met where
  written := h.written
  running := fun hsub => by
    rw [hstop] at hsub
    cases hsub
  passed := fun receiver message heq => by
    subst heq
    cases hstop

theorem subscribe (h : Runs e sending written met) (receiver : Receiver) :
    Runs e (.waits receiver) written ([] :: met) where
  written := by
    have hnone : (e.sendTask []).effects = [] := by
      rw [Endpoint.sendTask_eq]
      rfl
    rw [writtenBy, hnone, h.written]
    exact (List.append_nil _).symm
  running := fun _ => ⟨[], met, rfl, fun _ hi => absurd hi List.not_mem_nil⟩
  passed := nofun

/-- **One iteration**: the loop on one input more writes what the body writes on it. -/
theorem add (h : Runs e sending written met) (hsub : sending.subscribed = true)
    (input : SendInput) (hflow : sending'.subscribed = true → (e.sendBody input).2 = .next)
    (hhas : ∀ receiver message, sending' ≠ .has receiver message) :
    Runs e sending' (written ++ (e.sendBody input).1.filterMap Effect.sunk?) (met.add input) := by
  obtain ⟨inputs, earlier, rfl, hnext⟩ := h.running hsub
  have heffects : (e.sendTask (inputs ++ [input])).effects =
      (e.sendTask inputs).effects ++ (e.sendBody input).1 := by
    rw [Endpoint.sendTask_eq, Endpoint.sendTask_eq, effects_heard, effects_heard,
      heard_append hnext, heard_of_next hnext, heard_singleton, List.flatMap_append,
      List.flatMap_singleton]
  refine ⟨?_, fun hsub' => ?_, fun receiver message heq => absurd heq (hhas receiver message)⟩
  · rw [Met.add, writtenBy, heffects, List.filterMap_append, ← List.append_assoc, h.written]
    rfl
  · refine ⟨inputs ++ [input], earlier, rfl, fun i hi => ?_⟩
    rcases List.mem_append.mp hi with hi | hi
    · exact hnext i hi
    · obtain rfl := List.mem_singleton.mp hi
      exact hflow hsub'

theorem lag (h : Runs e sending written met) (hsub : sending.subscribed = true)
    (receiver : Receiver) (count : UInt64) :
    Runs e (.waits receiver) written (met.add ⟨.lagged count, [], .ok ()⟩) := by
  have hbody := e.sendBody_lagged count [] (.ok ())
  have hadd : Runs e (.waits receiver) _ _ :=
    h.add hsub ⟨.lagged count, [], .ok ()⟩ (fun _ => by rw [hbody]) nofun
  rw [hbody] at hadd
  simpa using hadd

/-- A message is received, and passed over. -/
theorem pass (h : Runs e sending written met) (hsub : sending.subscribed = true)
    {message : Protocol} (hpass : e.passesOver message = true) (receiver : Receiver) :
    Runs e (.waits receiver) written (met.receive e message) := by
  obtain ⟨hnone, hflow⟩ := Endpoint.sendBody_passedOver hpass [] (.ok ())
  have hadd : Runs e (.waits receiver) _ _ :=
    h.add hsub ⟨.message message, [], .ok ()⟩ (fun _ => hflow) nofun
  rw [hnone, List.append_nil] at hadd
  rw [Met.receive, if_pos hpass]
  exact hadd

/-- A message is received, and goes to the callbacks. -/
theorem receive (h : Runs e sending written met) (hsub : sending.subscribed = true)
    {message : Protocol} (hpass : e.passesOver message = false) (receiver : Receiver) :
    Runs e (.has receiver message) written (met.receive e message) := by
  rw [Met.receive, if_neg (by simp [hpass])]
  exact ⟨h.written, fun _ => h.running hsub, fun _ _ heq => by cases heq; exact hpass⟩

/-- The callbacks are through, and the message is written or not. -/
theorem write {receiver : Receiver} {message : Protocol}
    (h : Runs e (.has receiver message) written met) (results : List CallbackResult)
    (result : Except IoErrorKind Unit)
    (hflow : sending'.subscribed = true → (output message results result e.refused).2 = .next)
    (hhas : ∀ receiver message, sending' ≠ .has receiver message) :
    Runs e sending'
      (written ++ (output message results result e.refused).1.filterMap Effect.sunk?)
      (met.add ⟨.message message, results, result⟩) := by
  have hbody := Endpoint.sendBody_written (h.passed receiver message rfl) results result
  have hadd : Runs e sending' _ _ := h.add rfl ⟨.message message, results, result⟩
    (fun hsub => by rw [hbody]; exact hflow hsub) hhas
  rwa [hbody] at hadd

end Runs

/-! ## 3. Connections around the hub -/

section Router

variable {ι : Type} [DecidableEq ι] {config : ι → Endpoint} {s s' : Router ι} {met : ι → Met}

/-- What a step lets the send task of its connection meet. -/
def Router.seeMet (config : ι → Endpoint) (s : Router ι) (met : ι → Met) :
    RouterAction ι → ι → Met
  | .subscribe i => Function.update met i ([] :: met i)
  | .lag i count => Function.update met i ((met i).add ⟨.lagged (.ofNat count), [], .ok ()⟩)
  | .recv i =>
      match (s.connections i).sending with
      | .waits receiver =>
          match receiver.recv? s.log with
          | some (entry, _) =>
              Function.update met i ((met i).receive (config i) entry.message)
          | none => met
      | _ => met
  | .write i results written =>
      match (s.connections i).sending with
      | .has _ message =>
          Function.update met i ((met i).add ⟨.message message, results, written⟩)
      | _ => met
  | .take .. | .inject .. | .other _ | .drop _ | .connect _ => met

/-- Every connection runs its send tasks. -/
def Router.AllRun (config : ι → Endpoint) (s : Router ι) (met : ι → Met) : Prop :=
  ∀ i, Runs (config i) (s.connections i).sending (s.connections i).written (met i)

namespace Router.AllRun

/-- One connection is moved. -/
theorem update (h : s.AllRun config met) {i : ι} {c : Connection ι} {new : Met}
    (hi : Runs (config i) c.sending c.written new) :
    (s.set i c).AllRun config (Function.update met i new) := by
  intro j
  by_cases hj : j = i
  · subst hj
    rw [Router.connections_set_self, Function.update_self]
    exact hi
  · rw [Router.connections_set_of_ne hj, Function.update_of_ne hj]
    exact h j

/-- One connection is moved, and its send task has met nothing. -/
theorem set (h : s.AllRun config met) {i : ι} {c : Connection ι}
    (hi : Runs (config i) c.sending c.written (met i)) : (s.set i c).AllRun config met := by
  have hupdate := h.update hi
  rwa [Function.update_eq_self] at hupdate

/-- The end of a send task keeps what was written. -/
theorem stopSending_set (s : Router ι) (i : ι) (c : Connection ι) (config : ι → Endpoint) :
    ∃ c', (s.set i c).stopSending config i = s.set i c' ∧ c'.sending.subscribed = false ∧
      c'.written = c.written := by
  have hset : ∀ c', (s.set i c).set i c' = s.set i c' := fun c' => by
    unfold Router.set
    rw [Function.update_idem]
  unfold Router.stopSending Router.stop
  rw [Router.connections_set_self, hset, hset]
  split
  · exact ⟨_, rfl, rfl, rfl⟩
  · exact ⟨_, rfl, rfl, rfl⟩

theorem stop (h : s.AllRun config met) (i : ι) : (s.stop i).AllRun config met :=
  h.set ((h i).stop rfl)

theorem recv (h : s.AllRun config met) {i : ι} (hstep : s.step config (.recv i) = some s') :
    s'.AllRun config (s.seeMet config met (.recv i)) := by
  have hi := h i
  cases hsending : (s.connections i).sending with
  | waits receiver =>
      rw [hsending] at hi
      cases hrecv : receiver.recv? s.log with
      | none =>
          simp only [Router.step, hsending, hrecv] at hstep
          cases hstep
      | some r =>
          obtain ⟨entry, receiver'⟩ := r
          simp only [Router.step, hsending, hrecv] at hstep
          simp only [Router.seeMet, hsending, hrecv]
          split at hstep
          · rename_i hown
            cases hstep
            exact h.update (hi.pass rfl (by simp [Endpoint.passesOver, hown]) receiver')
          · rename_i hown
            split at hstep
            · rename_i hwrites
              cases hstep
              exact h.update
                (hi.receive rfl (by simp [Endpoint.passesOver, hown, hwrites]) receiver')
            · rename_i hwrites
              cases hstep
              exact h.update (hi.pass rfl (by simp [Endpoint.passesOver, hwrites]) receiver')
  | unsubscribed | has receiver message | stopped =>
      simp only [Router.step, hsending] at hstep
      cases hstep

theorem write (h : s.AllRun config met) {i : ι} {results : List CallbackResult}
    {written : Except IoErrorKind Unit}
    (hstep : s.step config (.write i results written) = some s') :
    s'.AllRun config (s.seeMet config met (.write i results written)) := by
  have hi := h i
  cases hsending : (s.connections i).sending with
  | has receiver message =>
      rw [hsending] at hi
      simp only [Router.step, hsending] at hstep
      simp only [Router.seeMet, hsending]
      split at hstep
      · rename_i hflow
        cases hstep
        exact h.update (hi.write results written (fun _ => hflow) (by simp))
      · cases hstep
        obtain ⟨c, hset, hstop, hwritten⟩ := stopSending_set s i _ config
        rw [hset]
        refine h.update ?_
        rw [hwritten]
        exact hi.write results written (fun hsub => by rw [hstop] at hsub; cases hsub)
          fun _ _ heq => by rw [heq] at hstop; cases hstop
  | unsubscribed | waits receiver | stopped =>
      simp only [Router.step, hsending] at hstep
      cases hstep

theorem step {a : RouterAction ι} (h : s.AllRun config met) (hstep : s.step config a = some s') :
    s'.AllRun config (s.seeMet config met a) := by
  cases a with
  | take i item now =>
      simp only [Router.step] at hstep
      split at hstep
      · split at hstep
        · cases hstep
          exact h.set (h i)
        · cases hstep
          exact h.set (h i)
        · cases hstep
          exact h.stop i
      · cases hstep
  | inject i results =>
      simp only [Router.step] at hstep
      split at hstep
      · cases hstep
        exact h.set (h i)
      · cases hstep
  | subscribe i =>
      simp only [Router.step] at hstep
      split at hstep
      · cases hstep
        exact h.update ((h i).subscribe _)
      · cases hstep
  | recv i => exact h.recv hstep
  | lag i count =>
      have hi := h i
      simp only [Router.step] at hstep
      split at hstep
      · rename_i receiver hwaits
        rw [hwaits] at hi
        split at hstep
        · cases hstep
          exact h.update (hi.lag rfl _ _)
        · cases hstep
      · cases hstep
  | write i results written => exact h.write hstep
  | other message =>
      cases hstep
      exact h
  | drop i =>
      cases hstep
      exact h.stop i
  | connect i =>
      simp only [Router.step] at hstep
      split at hstep
      · cases hstep
        exact h.set ((h i).stop rfl)
      · cases hstep

end Router.AllRun

/-- **In every run every connection writes what its loops write** on what they have met, and none
    goes on behind an input that ends it. -/
theorem Router.written_eq (config : ι → Endpoint) (h : Reach (Router.step config) Free .start s) :
    ∃ met : ι → Met, Reach (observed (Router.step config) (Router.seeMet config)) Free
        (.start, fun _ => []) (s, met) ∧
      ∀ i, (s.connections i).written = writtenBy (config i) (met i) ∧
        ((s.connections i).sending.subscribed = true → ∃ inputs earlier,
          met i = inputs :: earlier ∧ ∀ input ∈ inputs, ((config i).sendBody input).2 = .next) := by
  obtain ⟨met, hmet⟩ := h.observed (Router.seeMet config) (fun _ => [])
  refine ⟨met, hmet, fun i => ?_⟩
  have hruns : s.AllRun config met := hmet.inv (I := fun p => p.1.AllRun config p.2)
    (fun _ => .start) fun _ _ _ hall _ hstep => by
      obtain ⟨hrouter, hsee⟩ := observed_eq_some.mp hstep
      rw [hsee]
      exact hall.step hrouter
  exact ⟨(hruns i).written, (hruns i).running⟩

end Router

/-! ## 4. The clients of a UDP server -/

section UdpServer

variable {config : UdpServerConfig} {s s' : UdpServer} {met : String → Met} {clientAddr : String}

/-- What the send task of a client is to the others. -/
def UdpServerConfig.endpoint (config : UdpServerConfig) (clientAddr : String) : Endpoint :=
  ⟨clientAddr, config.direction, .udpServed⟩

theorem passesOver_endpoint (config : UdpServerConfig) (clientAddr : String)
    (message : Protocol) : (config.endpoint clientAddr).passesOver message = true ↔
      ¬ (message.origin ≠ clientAddr ∧ config.direction.canSend = true) := by
  have hwrites : (config.endpoint clientAddr).writes = config.direction.canSend := rfl
  rw [Endpoint.passesOver, hwrites, UdpServerConfig.endpoint]
  by_cases horigin : message.origin = clientAddr
  · simp [horigin]
  · simp [horigin]

namespace UdpServer

/-- Where the send task of an address is; without a client there is none. -/
def sending (s : UdpServer) (clientAddr : String) : Sending :=
  ((s.clients clientAddr).map (·.task)).getD .unsubscribed

def writtenTo (s : UdpServer) (clientAddr : String) : List Packet :=
  (s.written.filter fun w => w.clientAddr = clientAddr).map (·.packet)

/-- What a step lets the send task of its client meet. -/
def seeMet (config : UdpServerConfig) (s : UdpServer) (met : String → Met) :
    UdpServerAction → String → Met
  | .subscribe clientAddr => Function.update met clientAddr ([] :: met clientAddr)
  | .lag clientAddr count =>
      Function.update met clientAddr ((met clientAddr).add ⟨.lagged (.ofNat count), [], .ok ()⟩)
  | .recv clientAddr =>
      match s.sending clientAddr with
      | .waits receiver =>
          match receiver.recv? s.log with
          | some (message, _) => Function.update met clientAddr
              ((met clientAddr).receive (config.endpoint clientAddr) message)
          | none => met
      | _ => met
  | .write clientAddr results written =>
      match s.sending clientAddr with
      | .has _ message => Function.update met clientAddr
          ((met clientAddr).add ⟨.message message, results, written⟩)
      | _ => met
  | .tick _ | .send _ | .take .. | .called _ | .bind => met

theorem sending_of_client {client : ServedClient} (h : s.clients clientAddr = some client) :
    s.sending clientAddr = client.task := by
  rw [sending, h]
  rfl

theorem sending_setTask_self (client : ServedClient) (task : Sending) :
    (s.setTask clientAddr client task).sending clientAddr = task := by
  simp [sending, setTask]

theorem sending_setTask_of_ne {addr : String} (h : addr ≠ clientAddr) (client : ServedClient)
    (task : Sending) : (s.setTask clientAddr client task).sending addr = s.sending addr := by
  simp [sending, setTask, Function.update_of_ne h]

/-- A packet refreshes a client, or adds one whose task has yet to subscribe. -/
theorem sending_update (clientAddr addr : String) :
    (s.update clientAddr).sending addr = s.sending addr := by
  by_cases h : addr = clientAddr
  · subst h
    simp [sending, update]
  · simp [sending, update, Function.update_of_ne h]

/-- A check discards a client with its task, or has a task that stopped spawned again. -/
theorem sending_check (timeout : Option Nat) (addr : String) :
    (s.check timeout).sending addr = s.sending addr ∨
      ((s.check timeout).sending addr).subscribed = false := by
  cases hc : s.clients addr with
  | none => exact Or.inl (by simp [sending, check, hc])
  | some client =>
      have hchecked : (s.check timeout).clients addr = retained timeout s.now client := by
        simp [check, hc]
      rw [sending, hchecked, sending, hc]
      unfold retained
      split
      · exact Or.inr rfl
      · by_cases hstopped : client.task = .stopped
        · exact Or.inr (by simp [hstopped, Sending.subscribed])
        · exact Or.inl (by simp [hstopped])

/-- Every client runs its send tasks. -/
def AllRun (config : UdpServerConfig) (s : UdpServer) (met : String → Met) : Prop :=
  ∀ clientAddr, Runs (config.endpoint clientAddr) (s.sending clientAddr) (s.writtenTo clientAddr)
    (met clientAddr)

namespace AllRun

theorem check (h : s.AllRun config met) (timeout : Option Nat) :
    (s.check timeout).AllRun config met := by
  intro addr
  have hi := h addr
  rcases s.sending_check timeout addr with hsame | hstop
  · rw [hsame]
    exact hi
  · exact hi.stop hstop

/-- The task of one client is moved, and nothing is written. -/
theorem setTask (h : s.AllRun config met) {client : ServedClient} {task : Sending} {new : Met}
    (hi : Runs (config.endpoint clientAddr) task (s.writtenTo clientAddr) new) :
    (s.setTask clientAddr client task).AllRun config (Function.update met clientAddr new) := by
  intro addr
  by_cases hne : addr = clientAddr
  · subst hne
    rw [sending_setTask_self, Function.update_self]
    exact hi
  · rw [sending_setTask_of_ne hne, Function.update_of_ne hne]
    exact h addr

theorem recv (h : s.AllRun config met)
    (hstep : s.step config (.recv clientAddr) = some s') :
    s'.AllRun config (s.seeMet config met (.recv clientAddr)) := by
  have hi := h clientAddr
  cases hc : s.clients clientAddr with
  | none =>
      simp only [UdpServer.step, hc] at hstep
      cases hstep
  | some client =>
      rw [sending_of_client hc] at hi
      cases htask : client.task with
      | waits receiver =>
          rw [htask] at hi
          cases hrecv : receiver.recv? s.log with
          | none =>
              simp only [UdpServer.step, hc, htask, hrecv] at hstep
              cases hstep
          | some r =>
              obtain ⟨message, receiver'⟩ := r
              simp only [UdpServer.step, hc, htask, hrecv] at hstep
              simp only [seeMet, sending_of_client hc, htask, hrecv]
              split at hstep
              · rename_i hpass
                cases hstep
                have hcalls : (config.endpoint clientAddr).passesOver message = false :=
                  Bool.eq_false_iff.mpr fun h => (passesOver_endpoint ..).mp h hpass
                exact h.setTask (hi.receive rfl hcalls receiver')
              · rename_i hpass
                cases hstep
                exact h.setTask (hi.pass rfl ((passesOver_endpoint ..).mpr hpass) receiver')
      | unsubscribed | has receiver message | stopped =>
          simp only [UdpServer.step, hc, htask] at hstep
          cases hstep

/-- What goes out goes to one client. -/
theorem writtenTo_append {packets : List Packet} {time : Nat} {arrived : Option Nat}
    (addr : String)
    (hwritten : s'.written = s.written ++ packets.map fun p => ⟨clientAddr, time, arrived, p⟩) :
    s'.writtenTo addr = s.writtenTo addr ++ if addr = clientAddr then packets else [] := by
  unfold writtenTo
  rw [hwritten, List.filter_append, List.map_append, List.filter_map]
  split
  · rename_i heq
    subst heq
    simp [Function.comp_def]
  · rename_i hne
    simp [Function.comp_def, Ne.symm hne]

theorem write (h : s.AllRun config met) {results : List CallbackResult}
    {written : Except IoErrorKind Unit}
    (hstep : s.step config (.write clientAddr results written) = some s') :
    s'.AllRun config (s.seeMet config met (.write clientAddr results written)) := by
  have hi := h clientAddr
  cases hc : s.clients clientAddr with
  | none =>
      simp only [UdpServer.step, hc] at hstep
      cases hstep
  | some client =>
      rw [sending_of_client hc] at hi
      cases htask : client.task with
      | has receiver message =>
          rw [htask] at hi
          simp only [UdpServer.step, hc, htask] at hstep
          simp only [seeMet, sending_of_client hc, htask]
          cases hstep
          intro addr
          rw [writtenTo_append addr rfl]
          by_cases hne : addr = clientAddr
          · subst hne
            rw [if_pos rfl, Function.update_self]
            show Runs _ ((s.setTask addr client _).sending addr) _ _
            rw [sending_setTask_self]
            by_cases hflow : (output message results written udpRefused).2 = .next
            · rw [if_pos hflow]
              exact hi.write results written (fun _ => hflow) (by simp)
            · rw [if_neg hflow]
              exact hi.write results written (fun hsub => by cases hsub) (by simp)
          · rw [if_neg hne, List.append_nil, Function.update_of_ne hne]
            show Runs _ ((s.setTask clientAddr client _).sending addr) _ _
            rw [sending_setTask_of_ne hne]
            exact h addr
      | unsubscribed | waits receiver | stopped =>
          simp only [UdpServer.step, hc, htask] at hstep
          cases hstep

theorem step {a : UdpServerAction} (h : s.AllRun config met)
    (hstep : s.step config a = some s') : s'.AllRun config (s.seeMet config met a) := by
  cases a with
  | tick duration | send message =>
      cases hstep
      exact h
  | take item clientAddr now =>
      have hupdate : (s.update clientAddr).AllRun config met := fun addr => by
        rw [sending_update]
        exact h addr
      simp only [UdpServer.step] at hstep
      split at hstep
      · split at hstep
        · split at hstep
          · cases hstep
            exact hupdate
          · cases hstep
            exact hupdate.check _
        · cases hstep
          exact h
        · cases hstep
          exact fun addr => (h addr).stop rfl
      · cases hstep
  | called results =>
      simp only [UdpServer.step] at hstep
      split at hstep
      · split at hstep
        · cases hstep
          exact h
        · cases hstep
          exact h.check _
      · cases hstep
  | bind =>
      simp only [UdpServer.step] at hstep
      split at hstep
      · cases hstep
        exact h
      · cases hstep
  | subscribe clientAddr =>
      simp only [UdpServer.step] at hstep
      split at hstep
      · split at hstep
        · cases hstep
          exact h.setTask ((h clientAddr).subscribe _)
        · cases hstep
      · cases hstep
  | recv clientAddr => exact h.recv hstep
  | lag clientAddr count =>
      simp only [UdpServer.step] at hstep
      split at hstep
      · rename_i client hc
        split at hstep
        · rename_i receiver hwaits
          split at hstep
          · cases hstep
            have hi := h clientAddr
            rw [sending_of_client hc, hwaits] at hi
            exact h.setTask (hi.lag rfl _ _)
          · cases hstep
        · cases hstep
      · cases hstep
  | write clientAddr results written => exact h.write hstep

end AllRun

/-- **In every run every client is written what its loops write** on what they have met. -/
theorem written_eq (config : UdpServerConfig) (h : Reach (UdpServer.step config) Free .start s) :
    ∃ met : String → Met, Reach (observed (UdpServer.step config) (UdpServer.seeMet config)) Free
        (.start, fun _ => []) (s, met) ∧
      ∀ clientAddr, s.writtenTo clientAddr =
          writtenBy (config.endpoint clientAddr) (met clientAddr) ∧
        ((s.sending clientAddr).subscribed = true → ∃ inputs earlier,
          met clientAddr = inputs :: earlier ∧
            ∀ input ∈ inputs, ((config.endpoint clientAddr).sendBody input).2 = .next) := by
  obtain ⟨met, hmet⟩ := h.observed (UdpServer.seeMet config) (fun _ => [])
  refine ⟨met, hmet, fun clientAddr => ?_⟩
  have hruns : s.AllRun config met := hmet.inv (I := fun p => p.1.AllRun config p.2)
    (fun _ => .start) fun _ _ _ hall _ hstep => by
      obtain ⟨hserver, hsee⟩ := observed_eq_some.mp hstep
      rw [hsee]
      exact hall.step hserver
  exact ⟨(hruns clientAddr).written, (hruns clientAddr).running⟩

end UdpServer

end UdpServer

end MavlinkServer.Drivers
