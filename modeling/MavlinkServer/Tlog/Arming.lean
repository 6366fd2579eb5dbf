/-
  File:      MavlinkServer/Tlog/Arming.lean
  Subject:   THE ARMING STATE MACHINE (`run`, `wait_for_arm` and `handle_client`
             of `src/lib/drivers/tlog/writer.rs`, in the mode `WhileArmed`).

  `Tlog/Writer` follows the messages into the files. Here the loop is followed
  through every place where the expected system is read or set, with the two
  assertions that are made there, and nothing of the files is kept but whether
  one could be created.

  * `Arming`, `Arming.step` -- where the task is, what is behind the lock of
    the expected system, and what has happened so far, newest first;
  * `Awaited` -- the last message that was heard, when it arms a vehicle;
  * `Arming.Sound` -- the invariant, `sound_step` -- every step keeps it;
  * **`arming_sound`** -- so neither assertion fails, the expected system is set
    once at most, and every session starts behind a heartbeat that arms it;
  * `writer_arming` -- the steps of `Tlog/Writer` are steps of this machine.
-/
import MavlinkServer.Tlog.Armed

namespace MavlinkServer.Tlog

open Lib Drivers

/-! ## 1. The machine -/

inductive Assertion where
  /-- `expect_err("This should never be Ok")` in `wait_for_arm` -/
  | unset
  /-- `expect("System ID should always be Some at this point ...")` in `handle_client` -/
  | set
  deriving DecidableEq, Repr

inductive ArmingPc where
  /-- at the head of the loop of `run` -/
  | head
  /-- in `wait_for_arm`, before `recv` -/
  | waiting
  /-- there, with a message of the component that is armed, before the lock is read -/
  | heard (message : Protocol)
  /-- there, where nothing was behind the lock, before it is written -/
  | replacing (message : Protocol)
  /-- before `create_tlog_file` -/
  | creating
  /-- in `handle_client`, before `recv` -/
  | recording
  /-- there, with a message that was written, before the lock is read -/
  | written (message : Protocol)
  | panicked (assertion : Assertion)
  deriving DecidableEq, Repr

inductive ArmingEvent where
  /-- `wait_for_arm` has received a message -/
  | heard (message : Protocol)
  /-- the expected system was set -/
  | expects (systemId : UInt8)
  /-- a file was created, and `handle_client` is called -/
  | session
  deriving DecidableEq, Repr

structure Arming where
  /-- what is behind the lock of `ExpectedOrigin` -/
  systemId : Option UInt8
  armed : Bool
  pc : ArmingPc
  /-- what has happened, newest first -/
  events : List ArmingEvent
  deriving DecidableEq, Repr

inductive ArmingAction where
  /-- the loop goes round -/
  | tick
  /-- `wait_for_arm` receives -/
  | hear (outcome : Recv Protocol)
  /-- a lock is read, or written -/
  | lock
  | create (created : Bool)
  /-- `handle_client` receives; the callbacks give their results, and the message is written -/
  | record (outcome : Recv Protocol) (results : List CallbackResult) (written : Except Unit Unit)
  deriving DecidableEq

/-- A heartbeat of the component that says it is armed. -/
def Arms (componentId : UInt8) (message : Protocol) : Prop :=
  message.packet.componentId = componentId ∧ checkArmState message.packet = some .armed

instance (componentId : UInt8) (message : Protocol) : Decidable (Arms componentId message) :=
  inferInstanceAs (Decidable (_ ∧ _))

namespace Arming

/-- What `TlogWriter::run` begins with. -/
def new (systemId : Option UInt8) : Arming := ⟨systemId, false, .head, []⟩

/-- `armed = true`. -/
def arm (s : Arming) : Arming := { s with armed := true, pc := .creating }

/-- `handle_client` is left, and the loop goes round. -/
def finish (s : Arming) : Arming := { s with armed := false, pc := .head }

def step (componentId : UInt8) (s : Arming) : ArmingAction → Option Arming
  | .tick =>
      match s.pc with
      | .head => some { s with pc := if s.armed then .creating else .waiting }
      | _ => none
  | .hear outcome =>
      match s.pc with
      | .waiting =>
          match outcome with
          | .message message =>
              some { s with
                pc := if Arms componentId message then .heard message else .waiting
                events := .heard message :: s.events }
          -- `recv().await?` leaves `wait_for_arm`, and the loop goes round
          | .lagged _ | .closed => some { s with pc := .head }
      | _ => none
  | .lock =>
      match s.pc with
      | .heard message =>
          match s.systemId with
          | some systemId =>
              if message.packet.systemId = systemId then some s.arm
              else some { s with pc := .waiting }
          | none => some { s with pc := .replacing message }
      | .replacing message =>
          let old := s.systemId
          let s := { s with
            systemId := some message.packet.systemId
            events := .expects message.packet.systemId :: s.events }
          if old.isSome then some { s with pc := .panicked .unset }
          -- the message is of the system that was set just now
          else some s.arm
      | .written message =>
          match s.systemId with
          | none => some { s with pc := .panicked .set }
          | some systemId =>
              if message.packet.systemId ≠ systemId ∨ message.packet.componentId ≠ componentId then
                some { s with pc := .recording }
              else if checkArmState message.packet = some .disarmed then some s.finish
              else some { s with pc := .recording }
      | _ => none
  | .create created =>
      match s.pc with
      | .creating =>
          if created then some { s with pc := .recording, events := .session :: s.events }
          else some { s with pc := .head }
      | _ => none
  | .record outcome results written =>
      match s.pc with
      | .recording =>
          match outcome with
          | .message message =>
              if vetoed results then some s
              else
                match written with
                | .ok () => some { s with pc := .written message }
                | .error () => some s.finish
          | .lagged _ => some s
          | .closed => some s.finish
      | _ => none

end Arming

/-! ## 2. What has happened -/

/-- The last message that was heard since the last session. -/
def lastHeard : List ArmingEvent → Option Protocol
  | .heard message :: _ => some message
  | .expects _ :: events => lastHeard events
  | .session :: _ => none
  | [] => none

/-- The systems that the expected system was set to. -/
def settings (events : List ArmingEvent) : List UInt8 :=
  events.filterMap fun
    | .expects systemId => some systemId
    | _ => none

/-- **Awaited**: the last message that was heard arms the expected system. -/
def Awaited (componentId : UInt8) (systemId : Option UInt8) (events : List ArmingEvent) : Prop :=
  ∃ message, lastHeard events = some message ∧ Arms componentId message ∧
    systemId = some message.packet.systemId

/-- Every session has started behind a heartbeat that arms the expected system. -/
def Sessions (componentId : UInt8) (systemId : Option UInt8) (events : List ArmingEvent) : Prop :=
  ∀ later earlier, events = later ++ .session :: earlier → Awaited componentId systemId earlier

variable {componentId : UInt8} {systemId : Option UInt8} {events : List ArmingEvent}

/-- Something else that happens is no session. -/
theorem Sessions.cons (h : Sessions componentId systemId events) {e : ArmingEvent}
    (he : e ≠ .session) : Sessions componentId systemId (e :: events) := by
  intro later earlier hsplit
  cases later with
  | nil => exact absurd (List.cons.inj hsplit).1 he
  | cons e' later => exact h later earlier (List.cons.inj hsplit).2

theorem Sessions.session (h : Sessions componentId systemId events)
    (hawaited : Awaited componentId systemId events) :
    Sessions componentId systemId (.session :: events) := by
  intro later earlier hsplit
  cases later with
  | nil =>
      obtain rfl : events = earlier := (List.cons.inj hsplit).2
      exact hawaited
  | cons e' later => exact h later earlier (List.cons.inj hsplit).2

/-- As long as no system is expected there has been no session. -/
theorem Sessions.of_none (h : Sessions componentId none events) (systemId : Option UInt8) :
    Sessions componentId systemId events := by
  intro later earlier hsplit
  obtain ⟨message, _, _, hnone⟩ := h later earlier hsplit
  cases hnone

/-! ## 3. The invariant -/

/-- What holds where the task is. -/
def Arming.At (componentId : UInt8) (s : Arming) : Prop :=
  match s.pc with
  | .head => s.armed = true → Awaited componentId s.systemId s.events
  | .waiting => s.armed = false
  | .heard message =>
      s.armed = false ∧ lastHeard s.events = some message ∧ Arms componentId message
  | .replacing message =>
      s.armed = false ∧ lastHeard s.events = some message ∧ Arms componentId message ∧
        s.systemId = none
  | .creating => s.armed = true ∧ Awaited componentId s.systemId s.events
  | .recording | .written _ => s.systemId.isSome = true
  | .panicked _ => False

/-- **The invariant**: the expected system is the one that was given, or was set once; the sessions
    so far were awaited. -/
structure Arming.Sound (componentId : UInt8) (initial : Option UInt8) (s : Arming) : Prop where
  expected : settings s.events = [] ∧ s.systemId = initial ∨
    initial = none ∧ ∃ x, settings s.events = [x] ∧ s.systemId = some x
  sessions : Sessions componentId s.systemId s.events
  here : s.At componentId

section Steps

variable {initial : Option UInt8} {s s' : Arming}

theorem sound_tick (h : s.Sound componentId initial) (hs : s.step componentId .tick = some s') :
    s'.Sound componentId initial := by
  obtain ⟨hexpected, hsessions, hhere⟩ := h
  simp only [Arming.step] at hs
  split at hs
  · rename_i hpc
    cases hs
    refine ⟨hexpected, hsessions, ?_⟩
    simp only [Arming.At, hpc] at hhere
    cases harmed : s.armed with
    | true => exact ⟨rfl, hhere harmed⟩
    | false => exact rfl
  · cases hs

theorem sound_hear (h : s.Sound componentId initial) {outcome : Recv Protocol}
    (hs : s.step componentId (.hear outcome) = some s') : s'.Sound componentId initial := by
  obtain ⟨hexpected, hsessions, hhere⟩ := h
  simp only [Arming.step] at hs
  split at hs
  · rename_i hpc
    simp only [Arming.At, hpc] at hhere
    split at hs
    · rename_i message
      cases hs
      refine ⟨hexpected, hsessions.cons (by simp), ?_⟩
      by_cases harms : Arms componentId message
      · simp only [Arming.At, if_pos harms]
        exact ⟨hhere, rfl, harms⟩
      · simp only [Arming.At, if_neg harms]
        exact hhere
    all_goals
      cases hs
      refine ⟨hexpected, hsessions, ?_⟩
      simp only [Arming.At, hhere]
      exact Bool.noConfusion
  · cases hs

/-- Where the lock is read or written. -/
theorem sound_lock (h : s.Sound componentId initial) (hs : s.step componentId .lock = some s') :
    s'.Sound componentId initial := by
  obtain ⟨hexpected, hsessions, hhere⟩ := h
  simp only [Arming.step] at hs
  split at hs
  · rename_i message hpc
    simp only [Arming.At, hpc] at hhere
    obtain ⟨hdisarmed, hheard, harms⟩ := hhere
    split at hs
    · rename_i systemId hsystem
      split at hs
      · rename_i hsame
        cases hs
        exact ⟨hexpected, hsessions, rfl, message, hheard, harms, by rw [hsame]; exact hsystem⟩
      · cases hs
        exact ⟨hexpected, hsessions, hdisarmed⟩
    · rename_i hsystem
      cases hs
      exact ⟨hexpected, hsessions, hdisarmed, hheard, harms, hsystem⟩
  · rename_i message hpc
    simp only [Arming.At, hpc] at hhere
    obtain ⟨_, hheard, harms, hnone⟩ := hhere
    -- nothing was behind the lock, so it has not been set before
    rw [hnone] at hs hsessions
    rw [if_neg (by decide)] at hs
    cases hs
    refine ⟨Or.inr ?_, (hsessions.of_none _).cons (by simp), rfl, message, hheard, harms, rfl⟩
    rcases hexpected with ⟨hsettings, hinitial⟩ | ⟨_, x, _, hx⟩
    · refine ⟨hinitial.symm.trans hnone, message.packet.systemId, ?_, rfl⟩
      show message.packet.systemId :: settings s.events = _
      rw [hsettings]
    · rw [hnone] at hx
      cases hx
  · rename_i message hpc
    simp only [Arming.At, hpc] at hhere
    split at hs
    · rename_i hnone
      rw [hnone] at hhere
      cases hhere
    · split at hs
      · cases hs
        exact ⟨hexpected, hsessions, hhere⟩
      · split at hs
        · cases hs
          exact ⟨hexpected, hsessions, fun harmed => Bool.noConfusion harmed⟩
        · cases hs
          exact ⟨hexpected, hsessions, hhere⟩
  · cases hs

theorem sound_create (h : s.Sound componentId initial) {created : Bool}
    (hs : s.step componentId (.create created) = some s') : s'.Sound componentId initial := by
  obtain ⟨hexpected, hsessions, hhere⟩ := h
  simp only [Arming.step] at hs
  split at hs
  · rename_i hpc
    simp only [Arming.At, hpc] at hhere
    obtain ⟨_, hawaited⟩ := hhere
    split at hs
    · cases hs
      refine ⟨hexpected, hsessions.session hawaited, ?_⟩
      obtain ⟨message, _, _, hsystem⟩ := hawaited
      show s.systemId.isSome = true
      rw [hsystem]
      rfl
    · cases hs
      exact ⟨hexpected, hsessions, fun _ => hawaited⟩
  · cases hs

theorem sound_record (h : s.Sound componentId initial) {outcome : Recv Protocol}
    {results : List CallbackResult} {written : Except Unit Unit}
    (hs : s.step componentId (.record outcome results written) = some s') :
    s'.Sound componentId initial := by
  have hfinish : s.finish.Sound componentId initial :=
    ⟨h.expected, h.sessions, fun harmed => Bool.noConfusion harmed⟩
  simp only [Arming.step] at hs
  split at hs
  · rename_i hpc
    split at hs
    · rename_i message
      split at hs
      · cases hs
        exact h
      · split at hs
        · cases hs
          have hhere := h.here
          simp only [Arming.At, hpc] at hhere
          exact ⟨h.expected, h.sessions, hhere⟩
        · cases hs
          exact hfinish
    · cases hs
      exact h
    · cases hs
      exact hfinish
  · cases hs

theorem sound_step (h : s.Sound componentId initial) {a : ArmingAction}
    (hs : s.step componentId a = some s') : s'.Sound componentId initial := by
  cases a with
  | tick => exact sound_tick h hs
  | hear outcome => exact sound_hear h hs
  | lock => exact sound_lock h hs
  | create created => exact sound_create h hs
  | record outcome results written => exact sound_record h hs

theorem sound_new (componentId : UInt8) (initial : Option UInt8) :
    (Arming.new initial).Sound componentId initial := by
  refine ⟨Or.inl ⟨rfl, rfl⟩, fun later earlier hsplit => ?_, fun harmed => Bool.noConfusion harmed⟩
  cases later with
  | nil => cases hsplit
  | cons e later => cases hsplit

theorem sound_reach (h : Reach (Arming.step componentId) Free (.new initial) s) :
    s.Sound componentId initial :=
  h.inv (sound_new componentId initial) fun _ _ _ hsound _ hs => sound_step hsound hs

/-- Nothing sets the expected system but `replace`. -/
theorem systemId_kept {a : ArmingAction} (hs : s.step componentId a = some s')
    (hpc : ∀ message, s.pc ≠ .replacing message) : s'.systemId = s.systemId := by
  cases a with
  | tick =>
      simp only [Arming.step] at hs
      split at hs
      · cases hs
        rfl
      · cases hs
  | hear outcome =>
      simp only [Arming.step] at hs
      split at hs
      · split at hs
        all_goals
          cases hs
          rfl
      · cases hs
  | lock =>
      simp only [Arming.step] at hs
      split at hs
      · split at hs
        · split at hs
          all_goals
            cases hs
            rfl
        · cases hs
          rfl
      · rename_i message hreplacing
        exact absurd hreplacing (hpc message)
      · split at hs
        · cases hs
          rfl
        · split at hs
          · cases hs
            rfl
          · split at hs
            all_goals
              cases hs
              rfl
      · cases hs
  | create created =>
      simp only [Arming.step] at hs
      split at hs
      · split at hs
        all_goals
          cases hs
          rfl
      · cases hs
  | record outcome results written =>
      simp only [Arming.step] at hs
      split at hs
      · split at hs
        · split at hs
          · cases hs
            rfl
          · split at hs
            all_goals
              cases hs
              rfl
        all_goals
          cases hs
          rfl
      · cases hs

/-- **The expected system stays**, from any state of a run on. -/
theorem systemId_stays (h : s.Sound componentId initial)
    (hreach : Reach (Arming.step componentId) Free s s') {x : UInt8} (hx : s.systemId = some x) :
    s'.Sound componentId initial ∧ s'.systemId = some x := by
  refine hreach.inv (I := fun s => s.Sound componentId initial ∧ s.systemId = some x) ⟨h, hx⟩ ?_
  rintro s₁ s₂ a ⟨hsound, hsystem⟩ _ hs
  refine ⟨sound_step hsound hs, (systemId_kept hs fun message hpc => ?_).trans hsystem⟩
  -- where `replace` is called, nothing has been expected so far
  have hhere := hsound.here
  simp only [Arming.At, hpc] at hhere
  rw [hhere.2.2.2] at hsystem
  cases hsystem

/-- **The arming state machine is sound.** In every run, from a given system or none, with any
    messages, lags, failures and callbacks: neither assertion fails, and where they are made the
    expected system is there, or is not there yet; it is set once at most, and not at all when it
    was given; once it is there it stays; and every session has started behind a heartbeat of that
    system and of the configured component that says it is armed, and no other session between. -/
theorem arming_sound (h : Reach (Arming.step componentId) Free (.new initial) s) :
    (∀ assertion, s.pc ≠ .panicked assertion) ∧
      (∀ message, s.pc = .replacing message → s.systemId = none) ∧
      (∀ message, s.pc = .written message → s.systemId.isSome = true) ∧
      (settings s.events).length ≤ 1 ∧ (initial.isSome = true → settings s.events = []) ∧
      (∀ s' x, Reach (Arming.step componentId) Free s s' → s.systemId = some x →
        s'.systemId = some x) ∧
      ∀ later earlier, s.events = later ++ .session :: earlier →
        ∃ message, lastHeard earlier = some message ∧ Arms componentId message ∧
          s.systemId = some message.packet.systemId := by
  have hsound := sound_reach h
  have hhere := hsound.here
  refine ⟨fun assertion hpc => ?_, fun message hpc => ?_, fun message hpc => ?_, ?_, ?_, ?_,
    hsound.sessions⟩
  · simp only [Arming.At, hpc] at hhere
  · simp only [Arming.At, hpc] at hhere
    exact hhere.2.2.2
  · simp only [Arming.At, hpc] at hhere
    exact hhere
  · rcases hsound.expected with ⟨hnone, _⟩ | ⟨_, x, hone, _⟩
    · rw [hnone]
      exact Nat.zero_le _
    · rw [hone]
      exact Nat.le_refl _
  · intro hgiven
    rcases hsound.expected with ⟨hnone, _⟩ | ⟨hinitial, _⟩
    · exact hnone
    · rw [hinitial] at hgiven
      cases hgiven
  · exact fun s' x hreach hx => (systemId_stays hsound hreach hx).2

end Steps

/-! ## 4. A run -/

/-- An armed vehicle, and another one. -/
def armedMessage (systemId : UInt8) : Protocol :=
  ⟨"", 0, { heartbeatPacket with systemId, payload := [0, 0, 0, 0, 2, 3, 209, 4, 3] }⟩

/-- The receiver lags; the first vehicle is armed; a file cannot be created at first. -/
def armingRun : List ArmingAction :=
  [.tick, .hear (.lagged 3), .tick, .hear (.message (armedMessage 7)), .lock, .lock, .create false,
    .tick, .create true, .record (.message (armedMessage 7)) [] (.ok ())]

theorem arming_sound_lag :
    ∃ s, Reach (Arming.step 1) Free (.new none) s ∧ s.pc = .written (armedMessage 7) ∧
      s.systemId.isSome = true := by
  obtain ⟨s, hreach, hpc⟩ : ∃ s, Reach (Arming.step 1) Free (.new none) s ∧
      s.pc = .written (armedMessage 7) := exists_of_execC armingRun (by decide)
  exact ⟨s, hreach, hpc, (arming_sound hreach).2.2.1 _ hpc⟩

/-! ## 5. The writer of `Tlog/Writer` -/

/-- The same place. A message that was received, but not shown to the callbacks yet, is still to be
    received here. -/
def WriterPhase.pc : WriterPhase → ArmingPc
  | .ready => .head
  | .waiting _ => .waiting
  | .creating => .creating
  | .opened _ | .recording _ _ | .taken _ _ _ => .recording

def Writer.arming (w : Writer) (events : List ArmingEvent) : Arming :=
  ⟨w.systemId, w.armed, w.phase.pc, events⟩

section Writer

variable {d : DigitClass} {path : TlogPath} {w w' : Writer} {s s' : Arming}

theorem reach_one {a : ArmingAction} (hs : s.step componentId a = some s') :
    Reach (Arming.step componentId) Free s s' := .next s s' a .start trivial hs

theorem arming_start (events : List ArmingEvent)
    (hs : w.step d ⟨path, .whileArmed componentId⟩ .start = some w') :
    Reach (Arming.step componentId) Free (w.arming events) (w'.arming events) := by
  simp only [Writer.step] at hs
  split at hs
  · rename_i hphase
    refine reach_one (a := .tick) ?_
    split at hs
    · rename_i harmed
      cases hs
      simp only [Writer.arming, Arming.step, hphase, harmed, WriterPhase.pc]
      rfl
    · rename_i hnot
      have harmed : w.armed = true := by
        cases h : w.armed with
        | false => exact absurd h (hnot componentId rfl)
        | true => rfl
      cases hs
      simp only [Writer.arming, Arming.step, hphase, harmed, WriterPhase.pc]
      rfl
  · cases hs

/-- The state in which `wait_for_arm` looks at the lock. -/
def Writer.hearing (w : Writer) (message : Protocol) (events : List ArmingEvent) : Arming :=
  ⟨w.systemId, w.armed, .heard message, .heard message :: events⟩

/-- A message that arms the expected system, or the first system, is taken for it. -/
theorem hearing_arms (componentId : UInt8) {message : Protocol} (events : List ArmingEvent)
    (hsame : w.systemId.getD message.packet.systemId = message.packet.systemId) :
    ∃ events', Reach (Arming.step componentId) Free (w.hearing message events)
      ⟨some message.packet.systemId, true, .creating, events'⟩ := by
  cases hsystem : w.systemId with
  | none =>
      have hreplacing : (w.hearing message events).step componentId .lock =
          some ⟨none, w.armed, .replacing message, .heard message :: events⟩ := by
        simp only [Writer.hearing, Arming.step, hsystem]
      exact ⟨.expects message.packet.systemId :: .heard message :: events,
        .before trivial hreplacing (reach_one (a := .lock) rfl)⟩
  | some x =>
      rw [hsystem] at hsame
      obtain rfl : x = message.packet.systemId := hsame
      refine ⟨.heard message :: events, reach_one (a := .lock) ?_⟩
      simp only [Writer.hearing, Arming.step, hsystem]
      rfl

/-- A message of another system is left. -/
theorem hearing_leaves {message : Protocol} (events : List ArmingEvent)
    (hother : w.systemId.getD message.packet.systemId ≠ message.packet.systemId) :
    Reach (Arming.step componentId) Free (w.hearing message events)
      ⟨w.systemId, w.armed, .waiting, .heard message :: events⟩ := by
  cases hsystem : w.systemId with
  | none =>
      rw [hsystem] at hother
      exact absurd rfl hother
  | some x =>
      rw [hsystem] at hother
      have hne : message.packet.systemId ≠ x := fun h => hother h.symm
      refine reach_one (a := .lock) ?_
      simp only [Writer.hearing, Arming.step, hsystem, if_neg hne]

/-- `wait_for_arm` from one message to the next. -/
theorem arming_hear (events : List ArmingEvent)
    (hs : w.step d ⟨path, .whileArmed componentId⟩ .hear = some w') :
    ∃ events', Reach (Arming.step componentId) Free (w.arming events) (w'.arming events') := by
  simp only [Writer.step] at hs
  split at hs
  · rename_i receiver componentId' hphase hcondition
    cases hcondition
    split at hs
    · cases hs
    · rename_i message receiver' _
      have hheard : (w.arming events).step componentId (.hear (.message message)) =
          some { w.arming events with
            pc := if Arms componentId message then .heard message else .waiting
            events := .heard message :: events } := by
        simp only [Writer.arming, Arming.step, hphase, WriterPhase.pc]
      unfold Writer.armsBy at hs
      by_cases harms : Arms componentId message
      · rw [if_pos harms] at hheard
        by_cases hsame : w.systemId.getD message.packet.systemId = message.packet.systemId
        · rw [if_pos ⟨harms.1, harms.2, hsame⟩] at hs
          cases hs
          obtain ⟨events', hreach⟩ := hearing_arms componentId events hsame
          exact ⟨events', .before trivial hheard hreach⟩
        · rw [if_neg fun h => hsame h.2.2] at hs
          cases hs
          exact ⟨_, .before trivial hheard (hearing_leaves events hsame)⟩
      · rw [if_neg harms] at hheard
        rw [if_neg fun h => harms ⟨h.1, h.2.1⟩] at hs
        cases hs
        exact ⟨_, reach_one hheard⟩
  · cases hs

theorem disarmsBy_iff {file : FileName} {receiver : Receiver} {message : Protocol}
    {bytes : List UInt8} {x : UInt8} (hx : w.systemId = some x) :
    Writer.disarmsBy ⟨path, .whileArmed componentId⟩ (w.put file receiver message bytes) message =
      true ↔ message.packet.systemId = x ∧ message.packet.componentId = componentId ∧
        checkArmState message.packet = some .disarmed := by
  refine decide_eq_true_iff.trans ?_
  show heartbeatOf w.systemId componentId message = some .disarmed ↔ _
  unfold heartbeatOf
  rw [hx]
  constructor
  · intro h
    split at h
    · rename_i horigin
      exact ⟨(Option.some.inj horigin.1).symm, horigin.2, h⟩
    · cases h
  · rintro ⟨hsystem, hcomponent, hstate⟩
    rw [if_pos ⟨congrArg some hsystem.symm, hcomponent⟩]
    exact hstate

/-- `handle_client` behind a message that was received. -/
theorem arming_write (events : List ArmingEvent) {results : List CallbackResult} {now : UInt64}
    {written : Except Nat Unit}
    (hs : w.step d ⟨path, .whileArmed componentId⟩ (.write results now written) = some w')
    (hknown : w.systemId.isSome = true) :
    Reach (Arming.step componentId) Free (w.arming events) (w'.arming events) := by
  obtain ⟨x, hx⟩ := Option.isSome_iff_exists.mp hknown
  simp only [Writer.step] at hs
  split at hs
  · rename_i file receiver message hphase
    have hpc : (w.arming events).pc = .recording := by
      simp only [Writer.arming, hphase, WriterPhase.pc]
    split at hs
    · rename_i hveto
      cases hs
      refine reach_one (a := .record (.message message) results (.ok ())) ?_
      simp only [Arming.step, hpc, if_pos hveto]
      simp only [Writer.arming, hphase, WriterPhase.pc]
    · rename_i hveto
      split at hs
      · cases hs
        refine reach_one (a := .record (.message message) results (.error ())) ?_
        simp only [Arming.step, hpc, if_neg hveto]
        rfl
      · have hwritten : (w.arming events).step componentId
            (.record (.message message) results (.ok ())) =
              some ⟨some x, w.armed, .written message, events⟩ := by
          simp only [Arming.step, hpc, if_neg hveto]
          rw [← hx]
          rfl
        refine .before trivial hwritten (reach_one (a := .lock) ?_)
        have hdisarms : Writer.disarmsBy ⟨path, .whileArmed componentId⟩
            (w.put file receiver message (Writer.recordBytes now message)) message = true ↔ _ :=
          disarmsBy_iff hx
        simp only [Arming.step]
        by_cases hother : message.packet.systemId ≠ x ∨ message.packet.componentId ≠ componentId
        · rw [if_pos hother]
          rw [if_neg fun h => hother.elim (absurd (hdisarms.mp h).1) (absurd (hdisarms.mp h).2.1)]
            at hs
          cases hs
          rw [← hx]
          rfl
        · obtain ⟨hsystem, hcomponent⟩ := not_or.mp hother
          rw [if_neg hother]
          by_cases hdisarmed : checkArmState message.packet = some .disarmed
          · rw [if_pos hdisarmed]
            rw [if_pos (hdisarms.mpr ⟨not_not.mp hsystem, not_not.mp hcomponent, hdisarmed⟩)] at hs
            cases hs
            rw [← hx]
            rfl
          · rw [if_neg hdisarmed]
            rw [if_neg fun h => hdisarmed (hdisarms.mp h).2.2] at hs
            cases hs
            rw [← hx]
            rfl
  · cases hs

/-- **A step of the writer is some steps of the machine**, unless its driver is made anew. -/
theorem writer_arming {a : WriterAction} (events : List ArmingEvent)
    (hs : w.step d ⟨path, .whileArmed componentId⟩ a = some w') (ha : ∀ x, a ≠ .restart x)
    (hknown : ∀ file receiver message, w.phase = .taken file receiver message →
      w.systemId.isSome = true) :
    ∃ events', Reach (Arming.step componentId) Free (w.arming events) (w'.arming events') := by
  cases a with
  | send message =>
      cases hs
      exact ⟨events, .start⟩
  | start => exact ⟨events, arming_start events hs⟩
  | hear => exact arming_hear events hs
  | hearFails =>
      simp only [Writer.step] at hs
      split at hs
      · rename_i receiver hphase
        cases hs
        refine ⟨events, reach_one (a := .hear .closed) ?_⟩
        simp only [Writer.arming, Arming.step, hphase, WriterPhase.pc]
      · cases hs
  | create c =>
      simp only [Writer.step] at hs
      split at hs
      · rename_i hphase
        have hpc : (w.arming events).pc = .creating := by
          simp only [Writer.arming, hphase, WriterPhase.pc]
        split at hs
        · cases hs
          refine ⟨.session :: events, reach_one (a := .create true) ?_⟩
          simp only [Arming.step, hpc]
          rfl
        · cases hs
          refine ⟨events, reach_one (a := .create false) ?_⟩
          simp only [Arming.step, hpc]
          rfl
      · cases hs
  | subscribe =>
      simp only [Writer.step] at hs
      split at hs
      · rename_i file hphase
        cases hs
        refine ⟨events, ?_⟩
        simp only [Writer.arming, hphase, WriterPhase.pc]
        exact .start
      · cases hs
  | take =>
      simp only [Writer.step] at hs
      split at hs
      · rename_i file receiver hphase
        split at hs
        · cases hs
        · cases hs
          refine ⟨events, ?_⟩
          simp only [Writer.arming, hphase, WriterPhase.pc]
          exact .start
      · cases hs
  | lag count =>
      simp only [Writer.step] at hs
      split at hs
      · rename_i file receiver hphase
        split at hs
        · cases hs
          refine ⟨events, ?_⟩
          simp only [Writer.arming, hphase, WriterPhase.pc]
          exact .start
        · cases hs
      · cases hs
  | write results now written =>
      refine ⟨events, arming_write events hs ?_⟩
      simp only [Writer.step] at hs
      split at hs
      · rename_i file receiver message hphase
        exact hknown file receiver message hphase
      · cases hs
  | close =>
      simp only [Writer.step] at hs
      split at hs
      · rename_i file receiver hphase
        cases hs
        refine ⟨events, reach_one (a := .record .closed [] (.ok ())) ?_⟩
        simp only [Writer.arming, Arming.step, hphase, WriterPhase.pc]
        rfl
      · cases hs
  | restart x => exact absurd rfl (ha x)

end Writer

end MavlinkServer.Tlog
