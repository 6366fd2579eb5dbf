/-
  File:      MavlinkServer/Lib/Feed.lean
  Subject:   A TABLE FOLLOWED BY A SNAPSHOT AND A FEED OF ITS CHANGES. A follower
             subscribes to the feed first and takes its snapshot later, so it
             is told some changes that the snapshot already has. Nothing here
             names a program.

  * `patch` -- a table after changes, each of which sets one entry;
    `patch_replay` -- changes that are in a table already may be made again,
    from any point on, if all later ones follow;
  * `Follower` -- where it subscribed, its snapshot, and what it was told;
  * `Follower.Follows` -- the invariant, and that it is kept by a change, a
    snapshot, a change received and the end of the feed;
  * **`Follows.view_eq`** -- a follower that was told as much as its snapshot
    has shows the table as it was when the last change it was told was made.
-/
import MavlinkServer.Lib.Broadcast
import MavlinkServer.Lib.Keyed

namespace Lib

variable {K V : Type} [DecidableEq K]

/-! ## 1. Changes -/

def patch (table : K → Option V) (changes : List (K × V)) : K → Option V :=
  Keyed.run (fun change : K × V => change.1) (fun change _ => some change.2) table changes

/-- The last value that a key is set to. -/
def lastValue (changes : List (K × V)) (k : K) : Option V :=
  ((changes.filter fun change => change.1 = k).getLast?).map (·.2)

@[simp] theorem patch_nil (table : K → Option V) : patch table [] = table := rfl

theorem patch_append (table : K → Option V) (changes more : List (K × V)) :
    patch table (changes ++ more) = patch (patch table changes) more := List.foldl_append

theorem patch_at (table : K → Option V) (changes : List (K × V)) (k : K) :
    patch table changes k = (lastValue changes k).or (table k) := by
  have hfold : ∀ (l : List (K × V)) (v : Option V),
      l.foldl (fun _ change => some change.2) v = (l.getLast?.map (·.2)).or v := by
    intro l
    induction l with
    | nil => exact fun _ => rfl
    | cons change l ih =>
        intro v
        rw [List.foldl_cons, ih, List.getLast?_cons]
        cases l.getLast? <;> rfl
  rw [patch, Keyed.run_at, hfold]
  rfl

theorem lastValue_append (changes more : List (K × V)) (k : K) :
    lastValue (changes ++ more) k = (lastValue more k).or (lastValue changes k) := by
  rw [lastValue, lastValue, lastValue, List.filter_append, List.getLast?_append]
  cases (more.filter fun change => change.1 = k).getLast? <;> rfl

/-- **Changes may be made again**, from any point on, if all later ones follow. -/
theorem patch_replay (table : K → Option V) (before again after : List (K × V)) :
    patch (patch table (before ++ again)) (again ++ after) =
      patch table (before ++ again ++ after) := by
  funext k
  simp only [patch_at, lastValue_append]
  cases lastValue after k <;> cases lastValue again k <;> rfl

/-! ## 2. A follower -/

structure Follower (K V : Type) where
  receiver : Receiver
  /-- the snapshot, and after how many changes it was taken -/
  snapshot : Option ((K → Option V) × Nat)
  /-- the changes that it was told behind the snapshot -/
  told : List (K × V)
  ended : Bool

namespace Follower

variable {table : K → Option V} {log : List (K × V)} {f : Follower K V}

def subscribe (log : List (K × V)) : Follower K V where
  receiver := .subscribe log
  snapshot := none
  told := []
  ended := false

/-- The first thing that it is told. -/
def takeSnapshot (f : Follower K V) (current : K → Option V) (log : List (K × V)) : Follower K V :=
  { f with snapshot := some (current, log.length) }

/-- A change is told; the feed ends with the first notice that some were missed. -/
def recv (f : Follower K V) (retained : Nat) (log : List (K × V)) : Option (Follower K V) :=
  (f.receiver.recvRetained retained log).map fun (outcome, receiver) =>
    match outcome with
    | .message change => { f with receiver, told := f.told ++ [change] }
    | .lagged _ | .closed => { f with ended := true }

/-- What it shows. -/
def view (f : Follower K V) : K → Option V :=
  match f.snapshot with
  | some (snapshot, _) => patch snapshot f.told
  | none => fun _ => none

/-- It was told as much as its snapshot has. -/
def CaughtUp (f : Follower K V) : Prop :=
  ∃ snapshot before, f.snapshot = some (snapshot, before) ∧ before ≤ f.receiver.next

structure Follows (table : K → Option V) (log : List (K × V)) (f : Follower K V) : Prop where
  within : f.receiver.Within log
  snapshot : ∀ (snapshot : K → Option V) (before : Nat), f.snapshot = some (snapshot, before) →
    f.receiver.start ≤ before ∧ before ≤ log.length ∧ snapshot = patch table (log.take before)
  told : f.told = f.receiver.seen log
  silent : f.snapshot = none → f.told = []

theorem follows_subscribe : (subscribe log).Follows table log where
  within := Receiver.within_subscribe
  snapshot := fun _ _ h => by cases h
  told := (Receiver.seen_subscribe).symm
  silent := fun _ => rfl

/-- What is changed later is behind all that it has. -/
theorem Follows.change (h : f.Follows table log) (more : List (K × V)) :
    f.Follows table (log ++ more) := by
  refine ⟨h.within.send more, fun snapshot before hat => ?_, ?_, h.silent⟩
  · obtain ⟨hstart, hlen, hsnapshot⟩ := h.snapshot snapshot before hat
    rw [List.take_append_of_le_length hlen, List.length_append]
    exact ⟨hstart, Nat.le_trans hlen (Nat.le_add_right ..), hsnapshot⟩
  · rw [h.told, h.within.seen_send]

theorem Follows.takeSnapshot (h : f.Follows table log) {current : K → Option V}
    (hcurrent : current = patch table log) : (f.takeSnapshot current log).Follows table log := by
  refine ⟨h.within, fun snapshot before hat => ?_, h.told, fun hnone => by cases hnone⟩
  cases hat
  refine ⟨Nat.le_trans h.within.start_le h.within.next_le, Nat.le_refl _, ?_⟩
  rw [List.take_length, hcurrent]

theorem Follows.recv {f' : Follower K V} {retained : Nat} (h : f.Follows table log)
    (hsnapshot : f.snapshot ≠ none) (hr : f.recv retained log = some f') :
    f'.Follows table log := by
  obtain ⟨⟨outcome, receiver⟩, hgiven, rfl⟩ := Option.map_eq_some_iff.mp hr
  unfold Receiver.recvRetained at hgiven
  split at hgiven
  · cases hgiven
    exact ⟨h.within, h.snapshot, h.told, h.silent⟩
  · obtain ⟨⟨change, receiver'⟩, hread, heq⟩ := Option.map_eq_some_iff.mp hgiven
    cases heq
    have hstart : receiver.start = f.receiver.start := (Receiver.recv?_eq_some.mp hread).2 ▸ rfl
    refine ⟨h.within.recv hread, fun snapshot before hat => ?_, ?_,
      fun hnone => absurd hnone hsnapshot⟩
    · obtain ⟨hle, hrest⟩ := h.snapshot snapshot before hat
      exact ⟨hstart ▸ hle, hrest⟩
    · show f.told ++ [change] = receiver.seen log
      rw [h.told, h.within.seen_recv hread]

theorem Follows.stop (h : f.Follows table log) : ({ f with ended := true } : Follower K V).Follows
    table log := ⟨h.within, h.snapshot, h.told, h.silent⟩

/-- The values up to a later point are those up to an earlier one and some behind them. -/
theorem take_eq_append {α : Type} (l : List α) {m n : Nat} (h : m ≤ n) :
    l.take n = l.take m ++ (l.take n).drop m := by
  conv_lhs => rw [← List.take_append_drop m (l.take n)]
  rw [List.take_take, Nat.min_eq_left h]

/-- **What a follower shows**: the table as it was when the last change it was told was made. -/
theorem Follows.view_eq (h : f.Follows table log) (hcaught : f.CaughtUp) :
    f.view = patch table (log.take f.receiver.next) := by
  obtain ⟨snapshot, before, hat, hle⟩ := hcaught
  obtain ⟨hstart, _, rfl⟩ := h.snapshot snapshot before hat
  obtain ⟨again, hagain⟩ : ∃ again, log.take before = log.take f.receiver.start ++ again :=
    ⟨_, take_eq_append log hstart⟩
  obtain ⟨after, hafter⟩ : ∃ after, log.take f.receiver.next = log.take before ++ after :=
    ⟨_, take_eq_append log hle⟩
  have htold : f.told = again ++ after := by
    have hall : log.take f.receiver.next = log.take f.receiver.start ++ f.told := by
      rw [h.told]
      exact take_eq_append log (Nat.le_trans hstart hle)
    rw [hafter, hagain, List.append_assoc] at hall
    exact (List.append_cancel_left hall).symm
  rw [view, hat]
  show patch (patch table (log.take before)) f.told = _
  rw [htold, hafter, hagain, patch_replay]

/-- A follower that was told everything shows the table. -/
theorem Follows.view_of_all (h : f.Follows table log) (hcaught : f.CaughtUp)
    (hall : log.length ≤ f.receiver.next) : f.view = patch table log := by
  rw [h.view_eq hcaught, List.take_of_length_le hall]

end Follower

end Lib
