/-
  File:      MavlinkServer/Lib/Broadcast.lean
  Subject:   A BROADCAST CHANNEL: one log of everything that was sent, and
             receivers that read it from where they subscribed. Nothing here
             names a program.

  * `Recv α` -- what a receiver gives: a value, a notice that it lagged behind
    and missed some, or that the channel is closed;
  * `Recv.untilError` -- the values in front of the first such notice;
  * `Receiver` -- where it subscribed and what it gives next;
  * `Receiver.seen` -- the part of the log between the two. It does not change
    when more is sent, and grows by the value that is received.
-/
import Mathlib.Tactic.Common

namespace Lib

variable {α : Type}

/-- What a receiver of the channel gives. -/
inductive Recv (α : Type) where
  | message (a : α)
  | lagged (count : UInt64)
  | closed
  deriving DecidableEq, Repr

/-- The values among the outcomes. -/
def Recv.messages (outcomes : List (Recv α)) : List α :=
  outcomes.filterMap fun
    | .message a => some a
    | _ => none

/-- The values in front of the first outcome that is none. -/
def Recv.untilError : List (Recv α) → List α
  | .message a :: outcomes => a :: untilError outcomes
  | _ => []

/-- Every outcome is a value. -/
def Recv.Clean (outcomes : List (Recv α)) : Prop := ∀ o ∈ outcomes, ∃ a, o = .message a

theorem Recv.Clean.messages_eq : ∀ {outcomes : List (Recv α)}, Clean outcomes →
    messages outcomes = untilError outcomes
  | [], _ => rfl
  | o :: outcomes, h => by
      obtain ⟨a, rfl⟩ := h o List.mem_cons_self
      exact congrArg (a :: ·) (messages_eq fun o ho => h o (List.mem_cons_of_mem _ ho))

theorem Recv.Clean.untilError_append : ∀ {outcomes : List (Recv α)}, Clean outcomes →
    ∀ more, untilError (outcomes ++ more) = untilError outcomes ++ untilError more
  | [], _, _ => rfl
  | o :: outcomes, h, more => by
      obtain ⟨a, rfl⟩ := h o List.mem_cons_self
      exact congrArg (a :: ·) (untilError_append (fun o ho => h o (List.mem_cons_of_mem _ ho)) more)

/-- Nothing counts after the first error. -/
theorem Recv.untilError_append_of_not_clean : ∀ {outcomes : List (Recv α)}, ¬ Clean outcomes →
    ∀ more, untilError (outcomes ++ more) = untilError outcomes
  | [], h, _ => absurd (fun _ ho => absurd ho List.not_mem_nil) h
  | .message a :: _, h, more =>
      congrArg (a :: ·) (untilError_append_of_not_clean (fun hrest => h fun o ho =>
        (List.mem_cons.mp ho).elim (fun e => ⟨a, e⟩) (hrest o)) more)
  | .lagged _ :: _, _, _ => rfl
  | .closed :: _, _, _ => rfl

structure Receiver where
  start : Nat
  next : Nat
  deriving DecidableEq, Repr

namespace Receiver

variable {log : List α} {r r' : Receiver} {a : α}

/-- A receiver that gives what is sent from now on. -/
def subscribe (log : List α) : Receiver := ⟨log.length, log.length⟩

/-- The next value, when there is one. -/
def recv? (r : Receiver) (log : List α) : Option (α × Receiver) :=
  (log[r.next]?).map fun a => (a, { r with next := r.next + 1 })

/-- What a receiver gives of a channel that keeps the last `retained` values: one that is further
    behind gets a notice, and goes on with the oldest value kept. -/
def recvRetained (r : Receiver) (retained : Nat) (log : List α) : Option (Recv α × Receiver) :=
  if r.next + retained < log.length then
    some (.lagged (UInt64.ofNat (log.length - retained - r.next)),
      { r with next := log.length - retained })
  else (r.recv? log).map fun (a, r') => (.message a, r')

theorem ne_closed_of_recvRetained {r r' : Receiver} {retained : Nat} {log : List α} {o : Recv α}
    (h : r.recvRetained retained log = some (o, r')) : o ≠ .closed := by
  unfold recvRetained at h
  split at h
  · cases h
    simp
  · obtain ⟨_, _, heq⟩ := Option.map_eq_some_iff.mp h
    cases heq
    simp

/-- The values between the subscription and the next one. -/
def seen (r : Receiver) (log : List α) : List α := (log.take r.next).drop r.start

/-- The receiver stands in the log. -/
structure Within (r : Receiver) (log : List α) : Prop where
  start_le : r.start ≤ r.next
  next_le : r.next ≤ log.length

theorem within_subscribe : (subscribe log).Within log := ⟨Nat.le_refl _, Nat.le_refl _⟩

theorem Within.send (h : r.Within log) (more : List α) : r.Within (log ++ more) := by
  have := h.next_le
  exact ⟨h.start_le, by rw [List.length_append]; omega⟩

theorem recv?_eq_some : r.recv? log = some (a, r') ↔
    log[r.next]? = some a ∧ r' = { r with next := r.next + 1 } := by
  unfold recv?
  constructor
  · intro h
    obtain ⟨b, hb, he⟩ := Option.map_eq_some_iff.mp h
    cases he
    exact ⟨hb, rfl⟩
  · rintro ⟨ha, rfl⟩
    rw [ha]
    rfl

theorem Within.recv (h : r.Within log) (hr : r.recv? log = some (a, r')) : r'.Within log := by
  obtain ⟨ha, rfl⟩ := recv?_eq_some.mp hr
  have hlt := (List.getElem?_eq_some_iff.mp ha).1
  have hle := h.start_le
  constructor
  · show r.start ≤ r.next + 1
    omega
  · show r.next + 1 ≤ log.length
    omega

@[simp] theorem seen_subscribe : (subscribe log).seen log = [] := by
  simp [seen, subscribe]

/-- What is sent later was not seen. -/
theorem Within.seen_send (h : r.Within log) (more : List α) :
    r.seen (log ++ more) = r.seen log := by
  unfold seen
  rw [List.take_append_of_le_length h.next_le]

/-- What was sent between an earlier point and the next value: up to the subscription, and seen. -/
theorem Within.drop_take (h : r.Within log) {earlier : Nat} (hle : earlier ≤ r.start) :
    (log.take r.next).drop earlier = (log.take r.start).drop earlier ++ r.seen log := by
  have hsplit : log.take r.next = log.take r.start ++ r.seen log := by
    rw [seen, ← Nat.min_eq_left h.start_le, ← List.take_take, Nat.min_eq_left h.start_le,
      List.take_append_drop]
  have hlen : earlier ≤ (log.take r.start).length := by
    have h1 := h.start_le
    have h2 := h.next_le
    rw [List.length_take]
    omega
  rw [hsplit, List.drop_append_of_le_length hlen]

/-- The log, cut at the subscription and at the next value. -/
theorem Within.split (h : r.Within log) :
    log = log.take r.start ++ r.seen log ++ log.drop r.next := by
  have hcut := h.drop_take (Nat.zero_le _)
  rw [List.drop_zero, List.drop_zero] at hcut
  rw [← hcut, List.take_append_drop]

/-- **One value received is one value more seen.** -/
theorem Within.seen_recv (h : r.Within log) (hr : r.recv? log = some (a, r')) :
    r'.seen log = r.seen log ++ [a] := by
  obtain ⟨ha, rfl⟩ := recv?_eq_some.mp hr
  have hlen : r.start ≤ (log.take r.next).length := by
    have h1 := h.start_le
    have h2 := h.next_le
    rw [List.length_take]
    omega
  show (log.take (r.next + 1)).drop r.start = _
  rw [List.take_add_one, ha, Option.toList_some, List.drop_append_of_le_length hlen]
  rfl

/-- A receiver that has given all there is has seen everything sent since it subscribed. -/
theorem seen_of_length_le (h : log.length ≤ r.next) : r.seen log = log.drop r.start := by
  unfold seen
  rw [List.take_of_length_le h]

/-- A receiver that goes on from further ahead counts what it skipped as seen. -/
theorem seen_sublist_of_le {next : Nat} (h : r.next ≤ next) :
    (r.seen log).Sublist (seen { r with next := next } log) := by
  have hsplit : log.take r.next = (log.take next).take r.next := by
    rw [List.take_take, Nat.min_eq_left h]
  unfold seen
  rw [hsplit]
  exact (List.take_sublist ..).drop r.start

end Receiver

end Lib
