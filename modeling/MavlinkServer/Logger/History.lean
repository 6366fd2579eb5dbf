/-
  File:      MavlinkServer/Logger/History.lean
  Subject:   THE HISTORY OF THE LOG AND ITS SUBSCRIBERS (`src/lib/logger.rs`, and
             `src/lib/web/routes/v1/log.rs`).

  A message is pushed into a ring buffer and then sent on a channel, and a
  subscriber takes a receiver of the channel and then a copy of the buffer. Each
  of the four is a step of its own here; `HISTORY` is a mutex around each pair.

  * `History`, `step` -- the mutex, the two stores, and the subscribers with all
    that their receivers gave;
  * `Seam` -- the invariant: the buffer holds the newest of what was pushed, the
    channel all of it but the message in hand;
  * `gapless` -- the snapshot and what is received make one piece of the log;
  * `logWebsocketConnection` -- what a client of the web page is sent; it is
    gapless also when its receiver lags, because it stops there.

  The ring buffer and how much the channel keeps are parameters.
-/
import MavlinkServer.Lib.Broadcast
import MavlinkServer.Lib.Ring
import MavlinkServer.Lib.Run

namespace MavlinkServer.Logger

open Lib

/-! ## 1. The machine -/

/-- `AllocRingBuffer::new(10 * 1024)` -/
def historyCapacity : Nat := 10 * 1024

/-- Where the holder of `HISTORY` stands. -/
inductive Guard where
  | free
  /-- `History::push`, in front of `history.push` and of `sender.send` -/
  | pushing (message : String)
  | sending (message : String)
  /-- `History::subscribe`, in front of `sender.subscribe` and of `history.to_vec` -/
  | subscribing
  | copying (reader : Receiver)
  deriving DecidableEq, Repr

/-- What a call of `History::subscribe` gave, and all that came of its receiver. -/
structure Subscriber where
  /-- how many messages had been pushed -/
  before : Nat
  snapshot : List String
  receiver : Receiver
  outcomes : List (Recv String) := []
  deriving DecidableEq, Repr

structure History (ring : Ring String historyCapacity) where
  guard : Guard := .free
  history : ring.Buffer := ring.new
  /-- what was sent on the channel -/
  sent : List String := []
  /-- the messages of the calls of `History::push` -/
  pushed : List String := []
  subscribers : List Subscriber := []

inductive HistoryAction where
  | lockPush (message : String)
  | push
  | send
  | lockSubscribe
  | subscribe
  | toVec
  /-- `receiver.recv()` of a subscriber -/
  | recv (subscriber : Nat)
  deriving DecidableEq, Repr

variable {ring : Ring String historyCapacity}

def Subscriber.recv? (retained : Nat) (log : List String) (c : Subscriber) : Option Subscriber :=
  (c.receiver.recvRetained retained log).map fun (outcome, receiver) =>
    { c with receiver, outcomes := c.outcomes ++ [outcome] }

def step (retained : Nat) (s : History ring) : HistoryAction → Option (History ring)
  | .lockPush message =>
      if s.guard = .free then
        some { s with guard := .pushing message, pushed := s.pushed ++ [message] }
      else none
  | .push =>
      match s.guard with
      | .pushing message =>
          some { s with guard := .sending message, history := ring.push s.history message }
      | _ => none
  | .send =>
      match s.guard with
      | .sending message => some { s with guard := .free, sent := s.sent ++ [message] }
      | _ => none
  | .lockSubscribe => if s.guard = .free then some { s with guard := .subscribing } else none
  | .subscribe =>
      match s.guard with
      | .subscribing => some { s with guard := .copying (Receiver.subscribe s.sent) }
      | _ => none
  | .toVec =>
      match s.guard with
      | .copying reader =>
          some { s with
            guard := .free
            subscribers := s.subscribers ++
              [{ before := s.pushed.length, snapshot := ring.content s.history,
                 receiver := reader }] }
      | _ => none
  | .recv i =>
      (s.subscribers[i]?).bind fun c =>
        (c.recv? retained s.sent).map fun c' => { s with subscribers := s.subscribers.set i c' }

/-! ## 2. The seam -/

/-- What the two stores hold, by where the holder of the mutex stands. -/
def History.Stores (s : History ring) : Prop :=
  match s.guard with
  | .pushing message =>
      s.pushed = s.sent ++ [message] ∧ ring.content s.history = newest historyCapacity s.sent
  | .sending message =>
      s.pushed = s.sent ++ [message] ∧ ring.content s.history = newest historyCapacity s.pushed
  | .free | .subscribing =>
      s.pushed = s.sent ∧ ring.content s.history = newest historyCapacity s.sent
  | .copying reader =>
      s.pushed = s.sent ∧ ring.content s.history = newest historyCapacity s.sent ∧
        reader = Receiver.subscribe s.sent

/-- The snapshot ends where the receiver starts. -/
structure Subscriber.Joined (c : Subscriber) (sent : List String) : Prop where
  snapshot : c.snapshot = newest historyCapacity (sent.take c.before)
  opened : .closed ∉ c.outcomes
  heard : ∃ r : Receiver, r.start = c.before ∧ r.Within sent ∧
    Recv.untilError c.outcomes = r.seen sent ∧ (Recv.Clean c.outcomes → c.receiver = r)

structure Seam (s : History ring) : Prop where
  stores : s.Stores
  subscribers : ∀ c ∈ s.subscribers, c.Joined s.sent

section Seams

variable {retained : Nat} {s s' : History ring} {a : HistoryAction} {c c' : Subscriber}
  {sent : List String}

/-- What is sent later is behind the seam. -/
theorem Subscriber.Joined.send (h : c.Joined sent) (message : String) :
    c.Joined (sent ++ [message]) := by
  obtain ⟨r, hstart, hwithin, hheard, hclean⟩ := h.heard
  have hle : c.before ≤ sent.length := hstart ▸ Nat.le_trans hwithin.start_le hwithin.next_le
  exact ⟨by rw [List.take_append_of_le_length hle, h.snapshot], h.opened, r, hstart,
    hwithin.send _, by rw [hwithin.seen_send, hheard], hclean⟩

theorem Subscriber.Joined.recv (h : c.Joined sent) (hr : c.recv? retained sent = some c') :
    c'.Joined sent := by
  obtain ⟨r, hstart, hwithin, hheard, hclean⟩ := h.heard
  obtain ⟨⟨outcome, r'⟩, hgiven, rfl⟩ := Option.map_eq_some_iff.mp hr
  have hopened : .closed ∉ c.outcomes ++ [outcome] := fun hmem =>
    (List.mem_append.mp hmem).elim h.opened fun hlast =>
      Receiver.ne_closed_of_recvRetained hgiven (List.mem_singleton.mp hlast).symm
  by_cases hc : Recv.Clean c.outcomes
  · rw [hclean hc] at hgiven
    unfold Receiver.recvRetained at hgiven
    split at hgiven
    · -- a notice: nothing counts from here on
      cases hgiven
      refine ⟨h.snapshot, hopened, r, hstart, hwithin, ?_, fun hclean' => ?_⟩
      · rw [hc.untilError_append, hheard]
        exact List.append_nil _
      · obtain ⟨_, hlagged⟩ := hclean' _ (List.mem_append_right _ List.mem_cons_self)
        cases hlagged
    · obtain ⟨⟨message, r''⟩, hmessage, heq⟩ := Option.map_eq_some_iff.mp hgiven
      cases heq
      have hsame : r'.start = r.start := (Receiver.recv?_eq_some.mp hmessage).2 ▸ rfl
      refine ⟨h.snapshot, hopened, r', hsame.trans hstart, hwithin.recv hmessage,
        ?_, fun _ => rfl⟩
      rw [hc.untilError_append, hheard, hwithin.seen_recv hmessage]
      rfl
  · refine ⟨h.snapshot, hopened, r, hstart, hwithin, ?_, fun hclean' => ?_⟩
    · rw [Recv.untilError_append_of_not_clean hc, hheard]
    · exact absurd (fun o ho => hclean' o (List.mem_append_left _ ho)) hc

theorem seam_step (h : Seam s) (hs : step retained s a = some s') : Seam s' := by
  have hstores := h.stores
  unfold History.Stores at hstores
  cases a with
  | lockPush message =>
      simp only [step, Option.ite_none_right_eq_some, Option.some.injEq] at hs
      obtain ⟨hfree, rfl⟩ := hs
      simp only [hfree] at hstores
      exact ⟨⟨by rw [hstores.1], hstores.2⟩, h.subscribers⟩
  | push =>
      simp only [step] at hs
      split at hs <;> cases hs
      rename_i message hat
      simp only [hat] at hstores
      refine ⟨⟨hstores.1, ?_⟩, h.subscribers⟩
      rw [ring.content_push_newest hstores.2, ← hstores.1]
  | send =>
      simp only [step] at hs
      split at hs <;> cases hs
      rename_i message hat
      simp only [hat] at hstores
      exact ⟨⟨hstores.1, hstores.1 ▸ hstores.2⟩, fun c hc => (h.subscribers c hc).send message⟩
  | lockSubscribe =>
      simp only [step, Option.ite_none_right_eq_some, Option.some.injEq] at hs
      obtain ⟨hfree, rfl⟩ := hs
      simp only [hfree] at hstores
      exact ⟨hstores, h.subscribers⟩
  | subscribe =>
      simp only [step] at hs
      split at hs <;> cases hs
      rename_i hat
      simp only [hat] at hstores
      exact ⟨⟨hstores.1, hstores.2, rfl⟩, h.subscribers⟩
  | toVec =>
      simp only [step] at hs
      split at hs <;> cases hs
      rename_i reader hat
      simp only [hat] at hstores
      obtain ⟨hpushed, hcontent, rfl⟩ := hstores
      refine ⟨⟨hpushed, hcontent⟩, fun c hc => ?_⟩
      rcases List.mem_append.mp hc with hc | hc
      · exact h.subscribers c hc
      · obtain rfl := List.mem_singleton.mp hc
        refine ⟨?_, List.not_mem_nil, Receiver.subscribe s.sent, ?_, Receiver.within_subscribe,
          Receiver.seen_subscribe.symm, fun _ => rfl⟩
        · show ring.content s.history = newest historyCapacity (s.sent.take s.pushed.length)
          rw [hcontent, hpushed, List.take_length]
        · show s.sent.length = s.pushed.length
          rw [hpushed]
  | recv i =>
      obtain ⟨c, hi, hs⟩ := Option.bind_eq_some_iff.mp hs
      obtain ⟨c', hc', rfl⟩ := Option.map_eq_some_iff.mp hs
      refine ⟨h.stores, fun d hd => ?_⟩
      rcases List.mem_or_eq_of_mem_set hd with hd | rfl
      · exact h.subscribers d hd
      · exact (h.subscribers c (List.mem_of_getElem? hi)).recv hc'

theorem reach_seam (h : Reach (step retained) Free ({} : History ring) s) : Seam s :=
  h.inv ⟨⟨rfl, ring.content_new.trans (newest_nil _).symm⟩,
    fun _ hc => absurd hc List.not_mem_nil⟩ fun _ _ _ hI _ hs => seam_step hI hs

/-- The channel holds all that was pushed but the message in hand. -/
theorem Seam.pushed_eq (h : Seam s) : ∃ inHand, s.pushed = s.sent ++ inHand := by
  have hstores := h.stores
  unfold History.Stores at hstores
  split at hstores
  · exact ⟨_, hstores.1⟩
  · exact ⟨_, hstores.1⟩
  · exact ⟨[], hstores.1.trans (List.append_nil _).symm⟩
  · exact ⟨[], hstores.1.trans (List.append_nil _).symm⟩
  · exact ⟨[], hstores.1.trans (List.append_nil _).symm⟩

theorem Seam.pushed_eq_sent (h : Seam s) (hfree : s.guard = .free) : s.pushed = s.sent := by
  have hstores := h.stores
  unfold History.Stores at hstores
  simp only [hfree] at hstores
  exact hstores.1

/-! ## 3. No gap -/

/-- **Snapshot and stream are one piece of the log**: the newest messages before the subscription,
    and behind them every later one. -/
structure Gapless (s : History ring) (c : Subscriber) : Prop where
  before_le : c.before ≤ c.receiver.next
  next_le : c.receiver.next ≤ s.pushed.length
  snapshot : c.snapshot = newest historyCapacity (s.pushed.take c.before)
  received : Recv.messages c.outcomes = (s.pushed.take c.receiver.next).drop c.before
  joined : c.snapshot ++ Recv.messages c.outcomes =
    (s.pushed.take c.receiver.next).drop (c.before - historyCapacity)
  caughtUp : s.guard = .free → s.sent.length ≤ c.receiver.next →
    c.snapshot ++ Recv.messages c.outcomes = s.pushed.drop (c.before - historyCapacity)

/-- What a subscriber was told up to the first notice is a piece of the log. -/
theorem Seam.heard (h : Seam s) (hc : c ∈ s.subscribers) :
    ∃ n, c.before ≤ n ∧ n ≤ s.sent.length ∧
      c.snapshot = newest historyCapacity (s.pushed.take c.before) ∧
      Recv.untilError c.outcomes = (s.pushed.take n).drop c.before ∧
      c.snapshot ++ Recv.untilError c.outcomes =
        (s.pushed.take n).drop (c.before - historyCapacity) ∧
      (Recv.Clean c.outcomes → c.receiver.next = n) := by
  obtain ⟨inHand, hpushed⟩ := h.pushed_eq
  obtain ⟨hsnapshot, _, r, hstart, hwithin, hheard, hclean⟩ := h.subscribers c hc
  have hnext := hwithin.next_le
  have hbefore : c.before ≤ r.next := hstart ▸ hwithin.start_le
  have hsent : s.pushed.take r.next = s.sent.take r.next := by
    rw [hpushed, List.take_append_of_le_length hnext]
  have hlen : (s.sent.take r.next).length = r.next := by
    rw [List.length_take, Nat.min_eq_left hnext]
  have hold : s.sent.take c.before = (s.sent.take r.next).take c.before := by
    rw [List.take_take, Nat.min_eq_left hbefore]
  rw [Receiver.seen, hstart] at hheard
  refine ⟨r.next, hbefore, hnext, ?_, ?_, ?_, fun hclean' => congrArg _ (hclean hclean')⟩
  · rw [hpushed, List.take_append_of_le_length (by omega), hsnapshot]
  · rw [hsent, hheard]
  · rw [hsent, hsnapshot, hheard, hold]
    exact newest_take_append_drop historyCapacity (by omega)

theorem Seam.sees_all (h : Seam s) (hc : c ∈ s.subscribers)
    (hlag : ∀ count, .lagged count ∉ c.outcomes) : Gapless s c := by
  have hclean : Recv.Clean c.outcomes := fun o ho => by
    cases o with
    | message message => exact ⟨message, rfl⟩
    | lagged count => exact absurd ho (hlag count)
    | closed => exact absurd ho (h.subscribers c hc).opened
  obtain ⟨n, hbefore, hn, hsnapshot, hheard, hjoined, hnext⟩ := h.heard hc
  obtain rfl := hnext hclean
  rw [← hclean.messages_eq] at hheard hjoined
  have hnext : c.receiver.next ≤ s.pushed.length := by
    obtain ⟨inHand, hpushed⟩ := h.pushed_eq
    rw [hpushed, List.length_append]
    omega
  refine ⟨hbefore, hnext, hsnapshot, hheard, hjoined, fun hfree hall => ?_⟩
  rw [hjoined, List.take_of_length_le (h.pushed_eq_sent hfree ▸ hall)]

/-- **Every subscriber that does not lag sees a gapless log**, in every run. -/
theorem gapless (h : Reach (step retained) Free ({} : History ring) s) (hc : c ∈ s.subscribers)
    (hlag : ∀ count, .lagged count ∉ c.outcomes) : Gapless s c :=
  (reach_seam h).sees_all hc hlag

end Seams

/-- A run in which one subscription stands between two pushes, and one behind both; the second
    message is received while its push still holds the mutex. -/
def twoSubscribers : List HistoryAction :=
  [.lockPush "a", .push, .send, .lockSubscribe, .subscribe, .toVec, .lockPush "b", .push, .send,
    .recv 0, .lockSubscribe, .subscribe, .toVec, .lockPush "c", .push, .send, .recv 1, .recv 0]

theorem gapless_twoSubscribers :
    ∃ (s : History (Circular.ring (by decide))) (c d : Subscriber), s.subscribers = [c, d] ∧
      c.snapshot = ["a"] ∧ Recv.messages c.outcomes = ["b", "c"] ∧ Gapless s c ∧
      d.snapshot = ["a", "b"] ∧ Recv.messages d.outcomes = ["c"] ∧ Gapless s d := by
  obtain ⟨s, hs, hsubscribers⟩ :
      ∃ s : History (Circular.ring (by decide)), Reach (step 100) Free {} s ∧
        s.subscribers =
          [⟨1, ["a"], ⟨1, 3⟩, [.message "b", .message "c"]⟩,
            ⟨2, ["a", "b"], ⟨2, 3⟩, [.message "c"]⟩] :=
    exists_of_execC twoSubscribers (by decide)
  refine ⟨s, _, _, hsubscribers, rfl, rfl, gapless hs ?_ (by simp), rfl, rfl,
    gapless hs ?_ (by simp)⟩
  · rw [hsubscribers]
    exact List.mem_cons_self
  · rw [hsubscribers]
    exact List.mem_cons_of_mem _ List.mem_cons_self

/-! ## 4. The page of the log -/

/-- The messages `log_websocket_connection` sends; each send succeeds or ends it, as does the first
    error of the receiver. -/
def logWebsocketConnection : List Bool → List String → List (Recv String) → List String
  | ok :: oks, message :: history, outcomes =>
      message :: if ok then logWebsocketConnection oks history outcomes else []
  | ok :: oks, [], .message message :: outcomes =>
      message :: if ok then logWebsocketConnection oks [] outcomes else []
  | _, _, _ => []

theorem logWebsocketConnection_prefix : ∀ (oks : List Bool) (history : List String)
    (outcomes : List (Recv String)),
    logWebsocketConnection oks history outcomes <+: history ++ Recv.untilError outcomes
  | [], _, _ => List.nil_prefix
  | ok :: oks, message :: history, outcomes => by
      refine (List.prefix_cons_inj message).mpr ?_
      split
      · exact logWebsocketConnection_prefix oks history outcomes
      · exact List.nil_prefix
  | ok :: oks, [], .message message :: outcomes => by
      refine (List.prefix_cons_inj message).mpr ?_
      split
      · exact logWebsocketConnection_prefix oks [] outcomes
      · exact List.nil_prefix
  | _ :: _, [], [] => List.nil_prefix
  | _ :: _, [], .lagged _ :: _ => List.nil_prefix
  | _ :: _, [], .closed :: _ => List.nil_prefix

/-- **The page of the log shows no gap**, whether or not its receiver lags. -/
theorem logWebsocketConnection_gapless {retained : Nat} {s : History ring} {c : Subscriber}
    (h : Reach (step retained) Free ({} : History ring) s) (hc : c ∈ s.subscribers)
    (oks : List Bool) :
    logWebsocketConnection oks c.snapshot c.outcomes <+:
      s.pushed.drop (c.before - historyCapacity) := by
  obtain ⟨n, _, _, _, _, hjoined, _⟩ := (reach_seam h).heard hc
  have hsent := logWebsocketConnection_prefix oks c.snapshot c.outcomes
  rw [hjoined, List.drop_take] at hsent
  exact hsent.trans (List.take_prefix ..)

end MavlinkServer.Logger
