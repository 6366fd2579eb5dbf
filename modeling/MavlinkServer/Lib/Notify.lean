/-
  File:      MavlinkServer/Lib/Notify.lean
  Subject:   WATCHERS OF A VALUE. A machine keeps a value; one of its tasks
             publishes it from time to time and then wakes whoever waits
             (`notify_waiters`, which leaves no permit behind). A watcher waits,
             reads the value when it can be read, and sends what it read through
             a bounded channel. Nothing here names a program.

  * `Announcer` -- the machine, its value, and which steps publish it;
  * `Delivery` -- a value on its way, with the times of the notification and of
    the read; time is counted in steps;
  * `Watcher`, `Watched`, `step` -- one watcher, and the machine with all;
  * `Fresh` -- the invariant of a watcher, kept by every step (`fresh_step`);
  * `past_pairwise`, `Fresh.values_pairwise` -- a relation that the steps of the
    machine keep relates every value to those delivered behind it.
-/
import Mathlib.Data.List.Basic
import MavlinkServer.Lib.Run

namespace Lib

/-- A machine with a value that a task of it publishes. -/
structure Announcer (S A π : Type) where
  step : S → A → Option S
  value : S → π
  /-- nobody is writing the value -/
  readable : S → Bool
  /-- the action is one of the task that publishes -/
  own : A → Bool
  /-- with this action it has published -/
  publishes : S → A → Bool

/-- A value that was read, and when: the notification and the read are numbers of steps. -/
structure Delivery (π : Type) where
  value : π
  notifiedAt : Nat
  readAt : Nat
  deriving DecidableEq, Repr

inductive WatcherStage (π : Type) where
  /-- between two turns of its loop -/
  | starting
  | waiting
  | woken (at_ : Nat)
  /-- waits for room in the channel -/
  | sending (d : Delivery π)
  | ended
  deriving DecidableEq, Repr

structure Watcher (π : Type) where
  stage : WatcherStage π
  channel : List (Delivery π)
  /-- what the other side has taken out of the channel -/
  received : List (Delivery π)
  /-- the other side is gone -/
  closed : Bool
  deriving DecidableEq, Repr

structure Watched (S π : Type) where
  host : S
  /-- the task has published and has not notified yet -/
  due : Bool
  /-- the states of the host, one a step -/
  past : List S
  /-- the times of the notifications -/
  notices : List Nat
  watchers : List (Watcher π)
  deriving DecidableEq

inductive WatcherAction where
  | wait
  | read
  | send
  | receive
  | close
  deriving DecidableEq, Repr

inductive WatchAction (A : Type) where
  | host (a : A)
  | notify
  /-- another watcher -/
  | watch
  | watcher (id : Nat) (a : WatcherAction)
  deriving DecidableEq, Repr

variable {S A π : Type}

/-! ## 1. The steps -/

namespace Watcher

def new : Watcher π := ⟨.starting, [], [], false⟩

/-- `notify_waiters`: who does not wait is not woken, and will not be. -/
def wake (w : Watcher π) (now : Nat) : Watcher π :=
  match w.stage with
  | .waiting => { w with stage := .woken now }
  | _ => w

/-- A step of a watcher, or of the other side of its channel. -/
def step (w : Watcher π) (value : π) (readable : Bool) (now capacity : Nat) :
    WatcherAction → Option (Watcher π)
  | .wait =>
      match w.stage with
      | .starting => some { w with stage := .waiting }
      | _ => none
  | .read =>
      match w.stage with
      | .woken at_ =>
          if readable then some { w with stage := .sending ⟨value, at_, now⟩ } else none
      | _ => none
  | .send =>
      match w.stage with
      | .sending d =>
          if w.closed then some { w with stage := .ended }
          else if w.channel.length < capacity then
            some { w with stage := .starting, channel := w.channel ++ [d] }
          else none
      | _ => none
  | .receive =>
      match w.channel with
      | d :: rest => some { w with channel := rest, received := w.received ++ [d] }
      | [] => none
  | .close => some { w with closed := true }

/-- What is on its way or has arrived, the oldest first. -/
def deliveries (w : Watcher π) : List (Delivery π) :=
  w.received ++ w.channel ++ match w.stage with
    | .sending d => [d]
    | _ => []

end Watcher

namespace Watched

def start (s0 : S) : Watched S π := ⟨s0, false, [s0], [], []⟩

/-- The number of the step that comes. -/
def now (m : Watched S π) : Nat := m.past.length

def step (source : Announcer S A π) (capacity : Nat) (m : Watched S π) :
    WatchAction A → Option (Watched S π)
  | .host a =>
      -- the task notifies before it does anything else
      if m.due && source.own a then none
      else (source.step m.host a).map fun host =>
        { m with host, due := m.due || source.publishes m.host a, past := m.past ++ [host] }
  | .notify =>
      if m.due then some { m with
        due := false
        past := m.past ++ [m.host]
        notices := m.notices ++ [m.now]
        watchers := m.watchers.map (·.wake m.now) }
      else none
  | .watch => some { m with past := m.past ++ [m.host], watchers := m.watchers ++ [.new] }
  | .watcher id a =>
      match m.watchers[id]? with
      | some w =>
          (w.step (source.value m.host) (source.readable m.host) m.now capacity a).map fun w =>
            { m with past := m.past ++ [m.host], watchers := m.watchers.set id w }
      | none => none

/-- A side condition on the steps of the host. -/
def hostMeets (C : S → A → Prop) (m : Watched S π) : WatchAction A → Prop
  | .host a => C m.host a
  | _ => True

instance {C : S → A → Prop} [∀ s a, Decidable (C s a)] (m : Watched S π) :
    ∀ a, Decidable (hostMeets C m a)
  | .host a => inferInstanceAs (Decidable (C m.host a))
  | .notify | .watch | .watcher _ _ => isTrue trivial

end Watched

/-! ## 2. The invariant -/

/-- **Fresh**: what a watcher delivers is the value of the machine at a time when it could be read,
    behind the notification it goes back to; and each goes back to a notification behind the read
    of the one before. -/
structure Watcher.Fresh (source : Announcer S A π) (m : Watched S π) (w : Watcher π) : Prop where
  read : ∀ d ∈ w.deliveries, d.notifiedAt ∈ m.notices ∧ d.notifiedAt < d.readAt ∧
    ∃ s, m.past[d.readAt]? = some s ∧ d.value = source.value s ∧ source.readable s = true
  ordered : w.deliveries.Pairwise fun d d' => d.readAt < d'.notifiedAt
  woken : ∀ at_, w.stage = .woken at_ →
    at_ ∈ m.notices ∧ at_ < m.now ∧ ∀ d ∈ w.deliveries, d.readAt < at_

namespace Watcher

variable {source : Announcer S A π} {m m' : Watched S π} {w w' : Watcher π}

theorem fresh_new : (new : Watcher π).Fresh source m where
  read := fun _ h => absurd h List.not_mem_nil
  ordered := List.Pairwise.nil
  woken := fun _ h => by cases h

/-- What was delivered was read before. -/
theorem Fresh.readAt_lt (h : w.Fresh source m) {d : Delivery π} (hd : d ∈ w.deliveries) :
    d.readAt < m.now := by
  obtain ⟨_, _, s, hs, _⟩ := h.read d hd
  exact (List.getElem?_eq_some_iff.mp hs).1

/-- Time goes on. -/
theorem Fresh.later (h : w.Fresh source m) (hpast : m.past <+: m'.past)
    (hnotices : m.notices <+: m'.notices) : w.Fresh source m' := by
  obtain ⟨more, hmore⟩ := hpast
  refine ⟨fun d hd => ?_, h.ordered, fun at_ hst => ?_⟩
  · obtain ⟨hn, hlt, s, hs, hv⟩ := h.read d hd
    refine ⟨hnotices.subset hn, hlt, s, ?_, hv⟩
    rw [← hmore, List.getElem?_append_left (List.getElem?_eq_some_iff.mp hs).1]
    exact hs
  · obtain ⟨hn, hlt, hall⟩ := h.woken at_ hst
    refine ⟨hnotices.subset hn, ?_, hall⟩
    unfold Watched.now at hlt ⊢
    rw [← hmore, List.length_append]
    exact Nat.lt_add_right _ hlt

/-- A watcher that keeps what it delivers and is not woken stays fresh. -/
theorem Fresh.keep (h : w.Fresh source m) (hsame : w'.deliveries = w.deliveries)
    (hst : ∀ at_, w'.stage ≠ .woken at_) : w'.Fresh source m where
  read := fun d hd => h.read d (hsame ▸ hd)
  ordered := hsame ▸ h.ordered
  woken := fun at_ he => absurd he (hst at_)

theorem deliveries_of_stage {stage : WatcherStage π} (hold : ∀ d, w.stage ≠ .sending d)
    (hnew : ∀ d, stage ≠ .sending d) : { w with stage }.deliveries = w.deliveries := by
  unfold deliveries
  dsimp only
  cases hw : w.stage <;> cases stage <;>
    first
    | rfl
    | exact absurd hw (hold _)
    | exact absurd rfl (hnew _)

/-- A watcher is woken, by a notification behind everything it has read. -/
theorem Fresh.wake (h : w.Fresh source m)
    (hpast : m'.past = m.past ++ [m.host]) (hnotices : m'.notices = m.notices ++ [m.now]) :
    (w.wake m.now).Fresh source m' := by
  have hlater : w.Fresh source m' :=
    h.later (hpast ▸ List.prefix_append _ _) (hnotices ▸ List.prefix_append _ _)
  unfold Watcher.wake
  split
  · rename_i hst
    have hsame : { w with stage := .woken m.now }.deliveries = w.deliveries :=
      deliveries_of_stage (fun d he => by rw [hst] at he; cases he) fun d he => by cases he
    refine ⟨fun d hd => hlater.read d (hsame ▸ hd), hsame ▸ hlater.ordered, fun at_ he => ?_⟩
    cases he
    refine ⟨?_, ?_, fun d hd => h.readAt_lt (hsame ▸ hd)⟩
    · rw [hnotices]
      exact List.mem_append_right _ (List.mem_singleton.mpr rfl)
    · unfold Watched.now
      rw [hpast, List.length_append]
      exact Nat.lt_succ_self _
  · exact hlater

/-- **Every step of a watcher keeps it fresh.** -/
theorem fresh_watcherStep {capacity : Nat} {a : WatcherAction} (h : w.Fresh source m)
    (hpast : m'.past = m.past ++ [m.host]) (hnotices : m'.notices = m.notices)
    (hs : w.step (source.value m.host) (source.readable m.host) m.now capacity a = some w') :
    w'.Fresh source m' := by
  have hlater : w.Fresh source m' :=
    h.later (hpast ▸ List.prefix_append _ _) (hnotices ▸ List.prefix_rfl)
  cases a with
  | wait =>
      simp only [step] at hs
      split at hs
      · rename_i hst
        cases hs
        exact hlater.keep (deliveries_of_stage (fun d he => by rw [hst] at he; cases he)
          fun d he => by cases he) fun at_ he => by cases he
      · cases hs
  | read =>
      simp only [step] at hs
      split at hs
      · rename_i at_ hst
        split at hs
        · rename_i hread
          cases hs
          obtain ⟨hn, hlt, hall⟩ := h.woken at_ hst
          have hsame : { w with stage := .sending ⟨source.value m.host, at_, m.now⟩ }.deliveries =
              w.deliveries ++ [⟨source.value m.host, at_, m.now⟩] := by
            unfold deliveries
            rw [hst]
            simp
          refine ⟨fun d hd => ?_, ?_, fun at_ he => by cases he⟩
          · rw [hsame] at hd
            rcases List.mem_append.mp hd with hd | hd
            · exact hlater.read d hd
            · obtain rfl := List.mem_singleton.mp hd
              refine ⟨hnotices ▸ hn, hlt, m.host, ?_, rfl, hread⟩
              rw [hpast]
              exact List.getElem?_concat_length
          · rw [hsame]
            refine List.pairwise_append.mpr ⟨h.ordered, List.pairwise_singleton _ _,
              fun d hd d' hd' => ?_⟩
            obtain rfl := List.mem_singleton.mp hd'
            exact hall d hd
        · cases hs
      · cases hs
  | send =>
      simp only [step] at hs
      split at hs
      · rename_i d hst
        split at hs
        · -- the other side is gone, and so is what was to be sent
          cases hs
          have hsub : { w with stage := .ended }.deliveries.Sublist w.deliveries := by
            unfold deliveries
            rw [hst]
            simp
          exact ⟨fun d hd => hlater.read d (hsub.subset hd), hlater.ordered.sublist hsub,
            fun at_ he => by cases he⟩
        · split at hs
          · cases hs
            refine hlater.keep ?_ fun at_ he => by cases he
            unfold deliveries
            rw [hst]
            simp
          · cases hs
      · cases hs
  | receive =>
      simp only [step] at hs
      split at hs
      · rename_i d rest hch
        cases hs
        have hsame : { w with channel := rest, received := w.received ++ [d] }.deliveries =
            w.deliveries := by
          unfold deliveries
          rw [hch]
          simp
        exact ⟨fun d hd => hlater.read d (hsame ▸ hd), hsame ▸ hlater.ordered,
          fun at_ he => (hlater.woken at_ he).imp_right fun h => h.imp_right fun h d hd =>
            h d (hsame ▸ hd)⟩
      · cases hs
  | close =>
      cases hs
      exact ⟨hlater.read, hlater.ordered, hlater.woken⟩

end Watcher

namespace Watched

variable {source : Announcer S A π} {capacity : Nat} {s0 : S} {C : S → A → Prop}
  {m m' : Watched S π}

/-- **Every step keeps every watcher fresh.** -/
theorem fresh_step {a : WatchAction A} (h : ∀ w ∈ m.watchers, w.Fresh source m)
    (hs : m.step source capacity a = some m') : ∀ w ∈ m'.watchers, w.Fresh source m' := by
  cases a with
  | host a =>
      simp only [step] at hs
      split at hs
      · cases hs
      · obtain ⟨host, _, rfl⟩ := Option.map_eq_some_iff.mp hs
        exact fun w hw => (h w hw).later (List.prefix_append _ _) List.prefix_rfl
  | notify =>
      simp only [step] at hs
      split at hs
      · cases hs
        intro w hw
        obtain ⟨w', hw', rfl⟩ := List.mem_map.mp hw
        exact (h w' hw').wake rfl rfl
      · cases hs
  | watch =>
      cases hs
      intro w hw
      rcases List.mem_append.mp hw with hw | hw
      · exact (h w hw).later (List.prefix_append _ _) List.prefix_rfl
      · obtain rfl := List.mem_singleton.mp hw
        exact Watcher.fresh_new
  | watcher id a =>
      simp only [step] at hs
      split at hs
      · rename_i w hget
        obtain ⟨w', hstep, rfl⟩ := Option.map_eq_some_iff.mp hs
        intro v hv
        rcases List.mem_or_eq_of_mem_set hv with hv | rfl
        · exact (h v hv).later (List.prefix_append _ _) List.prefix_rfl
        · exact Watcher.fresh_watcherStep (h w (List.mem_of_getElem? hget)) rfl rfl hstep
      · cases hs

theorem fresh_reach {D : Watched S π → WatchAction A → Prop}
    (h : Reach (step source capacity) D (start s0) m) : ∀ w ∈ m.watchers, w.Fresh source m :=
  h.inv (fun _ h => absurd h List.not_mem_nil) fun _ _ _ hi _ hs => fresh_step hi hs

/-! ## 3. What was there before -/

/-- The host takes a step of its own, or none. -/
theorem host_step {a : WatchAction A} (hs : m.step source capacity a = some m') :
    m'.past = m.past ++ [m'.host] ∧
      (m'.host = m.host ∨ ∃ b, a = .host b ∧ source.step m.host b = some m'.host) := by
  cases a with
  | host a =>
      simp only [step] at hs
      split at hs
      · cases hs
      · obtain ⟨host, hstep, rfl⟩ := Option.map_eq_some_iff.mp hs
        exact ⟨rfl, Or.inr ⟨a, rfl, hstep⟩⟩
  | notify =>
      simp only [step] at hs
      split at hs
      · cases hs
        exact ⟨rfl, Or.inl rfl⟩
      · cases hs
  | watch =>
      cases hs
      exact ⟨rfl, Or.inl rfl⟩
  | watcher id a =>
      simp only [step] at hs
      split at hs
      · obtain ⟨w', _, rfl⟩ := Option.map_eq_some_iff.mp hs
        exact ⟨rfl, Or.inl rfl⟩
      · cases hs

/-- **A relation that the steps of the host keep** relates each of its states to those behind. -/
theorem past_pairwise {I : S → Prop} {R : S → S → Prop} (hrefl : ∀ s, R s s)
    (htrans : ∀ s s' s'', R s s' → R s' s'' → R s s'') (h0 : I s0)
    (hkeep : ∀ s s' a, I s → C s a → source.step s a = some s' → I s' ∧ R s s')
    (h : Reach (step source capacity) (hostMeets C) (start s0 : Watched S π) m) :
    I m.host ∧ m.past.Pairwise R ∧ (∀ s ∈ m.past, R s m.host) ∧ ∀ s ∈ m.past, I s := by
  refine Reach.inv (I := fun m : Watched S π => I m.host ∧ m.past.Pairwise R ∧
    (∀ s ∈ m.past, R s m.host) ∧ ∀ s ∈ m.past, I s)
    ⟨h0, List.pairwise_singleton _ _, fun s hs => ?_, fun s hs => ?_⟩
    (fun m m' a ⟨hi, hpair, hlast, hall⟩ hC hs => ?_) h
  · rw [List.mem_singleton.mp hs]
    exact hrefl s0
  · rw [List.mem_singleton.mp hs]
    exact h0
  · obtain ⟨hpast, hhost⟩ := host_step hs
    have hnext : I m'.host ∧ R m.host m'.host := by
      rcases hhost with hsame | ⟨b, rfl, hstep⟩
      · rw [hsame]
        exact ⟨hi, hrefl m.host⟩
      · exact hkeep m.host m'.host b hi hC hstep
    have hnew : ∀ s ∈ m.past, R s m'.host := fun s hin =>
      htrans s m.host m'.host (hlast s hin) hnext.2
    refine ⟨hnext.1, ?_, fun s hin => ?_, fun s hin => ?_⟩
    · rw [hpast]
      refine List.pairwise_append.mpr ⟨hpair, List.pairwise_singleton _ _, fun s hin s' hin' => ?_⟩
      rw [List.mem_singleton.mp hin']
      exact hnew s hin
    · rw [hpast] at hin
      rcases List.mem_append.mp hin with hin | hin
      · exact hnew s hin
      · rw [List.mem_singleton.mp hin]
        exact hrefl _
    · rw [hpast] at hin
      rcases List.mem_append.mp hin with hin | hin
      · exact hall s hin
      · rw [List.mem_singleton.mp hin]
        exact hnext.1

end Watched

/-- **What is delivered behind a value is related to it** as the states are that they were read
    in. -/
theorem Watcher.Fresh.values_pairwise {source : Announcer S A π} {m : Watched S π} {w : Watcher π}
    (h : w.Fresh source m) {Q : π → π → Prop}
    (hpast : m.past.Pairwise fun s s' => Q (source.value s) (source.value s')) :
    w.deliveries.Pairwise fun d d' => Q d.value d'.value := by
  refine h.ordered.imp_of_mem fun {d d'} hd hd' hlt => ?_
  obtain ⟨_, _, s, hs, hv, _⟩ := h.read d hd
  obtain ⟨_, hlt', s', hs', hv', _⟩ := h.read d' hd'
  obtain ⟨hi, rfl⟩ := List.getElem?_eq_some_iff.mp hs
  obtain ⟨hj, rfl⟩ := List.getElem?_eq_some_iff.mp hs'
  rw [hv, hv']
  exact List.pairwise_iff_getElem.mp hpast _ _ hi hj (by omega)

end Lib
