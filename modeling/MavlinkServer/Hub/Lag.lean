/-
  File:      MavlinkServer/Hub/Lag.lean
  Subject:   THE COUNTERS OF THE HUB AND A LAG (`src/lib/hub/actor.rs`:
             `stats_task`). Its loop is `while let Ok(message) = recv()`.

  * `statsTask` -- the loop on what the receiver gives, a refinement of the
    steps of `HubStats` (`statsTask_reach`);
  * `Counted`, `CountsReceived` -- the totals count every message that was
    received, at the end and all the time;
  * `countsReceived_iff` -- they do exactly when no message is received after
    a notice that the receiver lagged. The notice ends the loop; the loops
    that send to a connection go on.
-/
import MavlinkServer.Lib.Broadcast
import MavlinkServer.Lib.Loop
import MavlinkServer.Hub.Stats

namespace MavlinkServer.Hub

open Lib Stats

/-! ## 1. The loop -/

/-- What an iteration meets: the receiver, and the clock at the two updates. -/
structure StatsInput where
  outcome : Recv Protocol
  totalAt : UInt64
  detailAt : UInt64
  deriving DecidableEq

/-- An iteration; its effect is the message that is counted. -/
def statsBody (s : HubStats) (i : StatsInput) : Iteration HubStats Protocol Empty :=
  match i.outcome with
  | .message message =>
      { state := { s with
          hubStats := s.hubStats.update i.totalAt message
          hubMessagesStats := s.hubMessagesStats.update i.detailAt message }
        effects := [message]
        flow := .next }
  | .lagged _ => ⟨{ s with task := .ended }, [], .leave⟩
  | .closed => ⟨{ s with task := .ended }, [], .leave⟩

def statsTask (s : HubStats) (inputs : List StatsInput) : Iteration HubStats Protocol Empty :=
  runLoop statsBody s inputs

/-- The messages among the inputs. -/
def received (inputs : List StatsInput) : List Protocol :=
  Recv.messages (inputs.map (·.outcome))

/-- No clear of a reset. -/
def NoReset (_ : HubStats) : HubStatsAction → Prop
  | .resetAllStats | .clear _ => False
  | _ => True

variable {s : HubStats} {i : StatsInput} {inputs : List StatsInput} {message : Protocol}

theorem statsTask_message (h : i.outcome = .message message) :
    (statsTask s (i :: inputs)).state =
        (statsTask { s with
          hubStats := s.hubStats.update i.totalAt message
          hubMessagesStats := s.hubMessagesStats.update i.detailAt message } inputs).state := by
  have hbody : statsBody s i = ⟨{ s with
      hubStats := s.hubStats.update i.totalAt message
      hubMessagesStats := s.hubMessagesStats.update i.detailAt message }, [message], .next⟩ := by
    unfold statsBody
    rw [h]
  unfold statsTask
  rw [runLoop_cons_next (by rw [hbody]), hbody]

theorem statsTask_lagged {count : UInt64} (h : i.outcome = .lagged count) :
    (statsTask s (i :: inputs)).state = { s with task := .ended } := by
  have hbody : statsBody s i = ⟨{ s with task := .ended }, [], .leave⟩ := by
    unfold statsBody
    rw [h]
  unfold statsTask
  rw [runLoop_cons_stop (by rw [hbody]; nofun), hbody]

theorem received_message (h : i.outcome = .message message) :
    received (i :: inputs) = message :: received inputs := by
  unfold received
  rw [List.map_cons, h]
  rfl

theorem received_lagged {count : UInt64} (h : i.outcome = .lagged count) :
    received (i :: inputs) = received inputs := by
  unfold received
  rw [List.map_cons, h]
  rfl

/-- **The loop refines the steps of `stats_task`**: it is a run of them, without a reset. -/
theorem statsTask_reach (hw : s.task = .waiting) (hopen : ∀ i ∈ inputs, i.outcome ≠ .closed) :
    Reach HubStats.step NoReset s (statsTask s inputs).state := by
  induction inputs generalizing s with
  | nil => exact .start
  | cons i inputs ih =>
      have hrest : ∀ j ∈ inputs, j.outcome ≠ .closed :=
        fun j hj => hopen j (List.mem_cons_of_mem _ hj)
      cases ho : i.outcome with
      | closed => exact absurd ho (hopen i List.mem_cons_self)
      | lagged count =>
          rw [statsTask_lagged ho]
          refine .before (a := .lagged) trivial ?_ .start
          simp only [HubStats.step, hw, if_true]
      | message message =>
          rw [statsTask_message ho]
          have h1 : s.step (.recv message) = some { s with task := .received message } := by
            simp only [HubStats.step, hw, if_true]
          have h2 : HubStats.step { s with task := .received message } (.total i.totalAt) =
              some { s with
                hubStats := s.hubStats.update i.totalAt message
                task := .totalled message } := rfl
          have h3 : HubStats.step { s with
                hubStats := s.hubStats.update i.totalAt message
                task := .totalled message } (.detail i.detailAt) =
              some { s with
                hubStats := s.hubStats.update i.totalAt message
                hubMessagesStats := s.hubMessagesStats.update i.detailAt message } := by
            cases s
            cases hw
            rfl
          exact .before (a := .recv message) trivial h1 (.before (a := .total i.totalAt) trivial h2
            (.before (a := .detail i.detailAt) trivial h3 (ih hw hrest)))

/-! ## 2. What is counted -/

/-- The totals have grown by every message that was received. -/
def Counted (s : HubStats) (inputs : List StatsInput) : Prop :=
  (statsTask s inputs).state.hubStats.messages =
      s.hubStats.messages + UInt64.ofNat (received inputs).length ∧
    (statsTask s inputs).state.hubStats.bytes =
      s.hubStats.bytes + ((received inputs).map Protocol.size).sum

/-- **Counted all the time**: after any number of the inputs. -/
def CountsReceived (s : HubStats) (inputs : List StatsInput) : Prop :=
  ∀ front, front <+: inputs → Counted s front

/-- The messages that are received after the first notice of a lag. -/
def receivedAfterLag : List StatsInput → List Protocol
  | [] => []
  | i :: rest =>
      match i.outcome with
      | .lagged _ => received rest
      | _ => receivedAfterLag rest

theorem counted_nil : Counted s [] := ⟨(add_zero _).symm, (add_zero _).symm⟩

/-- A message that is received first is counted, and the others are counted after it. -/
theorem counted_message (h : i.outcome = .message message) :
    Counted s (i :: inputs) ↔ Counted { s with
      hubStats := s.hubStats.update i.totalAt message
      hubMessagesStats := s.hubMessagesStats.update i.detailAt message } inputs := by
  unfold Counted
  rw [statsTask_message h, received_message h]
  have hone : ∀ a : UInt64, a + UInt64.ofNat ((received inputs).length + 1) =
      a + 1 + UInt64.ofNat (received inputs).length := by
    intro a
    rw [UInt64.ofNat_add, add_comm (UInt64.ofNat _), ← add_assoc]
    rfl
  have hsize : ∀ a : UInt64, a + (message.size + ((received inputs).map Protocol.size).sum) =
      a + message.size + ((received inputs).map Protocol.size).sum :=
    fun a => (add_assoc _ _ _).symm
  rw [List.length_cons, List.map_cons, List.sum_cons, hone, hsize]
  rfl

/-- After the notice nothing is counted. -/
theorem counted_lagged {count : UInt64} (h : i.outcome = .lagged count) :
    Counted s (i :: inputs) ↔ UInt64.ofNat (received inputs).length = 0 ∧
      ((received inputs).map Protocol.size).sum = 0 := by
  unfold Counted
  rw [statsTask_lagged h, received_lagged h]
  constructor
  · rintro ⟨hm, hb⟩
    exact ⟨left_eq_add.mp hm, left_eq_add.mp hb⟩
  · rintro ⟨hm, hb⟩
    rw [hm, hb]
    exact ⟨(add_zero _).symm, (add_zero _).symm⟩

theorem countsReceived_message (h : i.outcome = .message message) :
    CountsReceived s (i :: inputs) ↔ CountsReceived { s with
      hubStats := s.hubStats.update i.totalAt message
      hubMessagesStats := s.hubMessagesStats.update i.detailAt message } inputs := by
  constructor
  · intro hall front hfront
    exact (counted_message h).mp (hall (i :: front) (List.cons_prefix_cons.mpr ⟨rfl, hfront⟩))
  · intro hall front hfront
    cases front with
    | nil => exact counted_nil
    | cons j front =>
        obtain ⟨rfl, hrest⟩ := List.cons_prefix_cons.mp hfront
        exact (counted_message h).mpr (hall front hrest)

/-- Inputs with a message in them have a first one. -/
theorem first_received (hne : received inputs ≠ []) :
    ∃ front message, front <+: inputs ∧ received front = [message] := by
  induction inputs with
  | nil => exact absurd rfl hne
  | cons i inputs ih =>
      have skip : received (i :: inputs) = received inputs → (∀ front, received (i :: front) =
          received front) → ∃ front message, front <+: i :: inputs ∧ received front = [message] := by
        intro hrest hskip
        obtain ⟨front, message, hfront, hone⟩ := ih (hrest ▸ hne)
        exact ⟨i :: front, message, List.cons_prefix_cons.mpr ⟨rfl, hfront⟩,
          (hskip front).trans hone⟩
      cases ho : i.outcome with
      | message message =>
          refine ⟨[i], message, ?_, received_message ho⟩
          exact List.cons_prefix_cons.mpr ⟨rfl, List.nil_prefix⟩
      | lagged count => exact skip (received_lagged ho) fun front => received_lagged ho
      | closed =>
          refine skip ?_ fun front => ?_
          · unfold received
            rw [List.map_cons, ho]
            rfl
          · unfold received
            rw [List.map_cons, ho]
            rfl

theorem countsReceived_lagged {count : UInt64} (h : i.outcome = .lagged count) :
    CountsReceived s (i :: inputs) ↔ received inputs = [] := by
  constructor
  · intro hall
    by_contra hne
    obtain ⟨front, message, hfront, hone⟩ := first_received hne
    have hcounted := hall (i :: front) (List.cons_prefix_cons.mpr ⟨rfl, hfront⟩)
    have hzero := ((counted_lagged h).mp hcounted).1
    rw [hone] at hzero
    have hne : UInt64.ofNat 1 ≠ 0 := by decide
    exact absurd hzero hne
  · intro hnone front hfront
    cases front with
    | nil => exact counted_nil
    | cons j front =>
        obtain ⟨rfl, hprefix⟩ := List.cons_prefix_cons.mp hfront
        have hfront_none : received front = [] := by
          obtain ⟨rest, rfl⟩ := hprefix
          unfold received Recv.messages at hnone ⊢
          rw [List.map_append, List.filterMap_append] at hnone
          exact (List.append_eq_nil_iff.mp hnone).1
        rw [counted_lagged h, hfront_none]
        exact ⟨rfl, rfl⟩

/-- **The totals count every message that is received exactly when none is received after a lag.**
    Until then every message is counted; the notice ends the loop. -/
theorem countsReceived_iff (s : HubStats) (inputs : List StatsInput)
    (hopen : ∀ i ∈ inputs, i.outcome ≠ .closed) :
    CountsReceived s inputs ↔ receivedAfterLag inputs = [] := by
  induction inputs generalizing s with
  | nil =>
      refine iff_of_true (fun front hfront => ?_) rfl
      rw [List.prefix_nil.mp hfront]
      exact counted_nil
  | cons i inputs ih =>
      have hrest : ∀ j ∈ inputs, j.outcome ≠ .closed :=
        fun j hj => hopen j (List.mem_cons_of_mem _ hj)
      unfold receivedAfterLag
      cases ho : i.outcome with
      | closed => exact absurd ho (hopen i List.mem_cons_self)
      | message message =>
          rw [countsReceived_message ho]
          exact ih _ hrest
      | lagged count => exact countsReceived_lagged ho

section Runs

/-- A message before the notice is counted. -/
theorem countsReceived_iff_before :
    CountsReceived (.new 0) [⟨.message heartbeat, 1, 2⟩, ⟨.lagged 3, 0, 0⟩] ↔
      receivedAfterLag [⟨.message heartbeat, 1, 2⟩, ⟨.lagged 3, 0, 0⟩] = [] :=
  countsReceived_iff (.new 0) _ (by decide)

/-- **The message after the notice is not counted**, nor is any other one. -/
theorem countsReceived_lost : ¬ ∀ s inputs, (∀ i ∈ inputs, i.outcome ≠ .closed) →
    Counted s inputs := by
  intro hall
  have hcounted := hall (.new 0) [⟨.lagged 3, 0, 0⟩, ⟨.message heartbeat, 1, 2⟩] (by decide)
  exact absurd hcounted.1 (by decide +kernel)

end Runs

end MavlinkServer.Hub
