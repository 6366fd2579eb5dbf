/-
  File:      MavlinkServer/Lib/Ring.lean
  Subject:   RING BUFFERS. A buffer of fixed capacity that drops its oldest
             value for a new one shows the last values of everything that was
             pushed. Nothing here names a program.

  * `newest n log` -- the last `n` values of a log, and `newest_append_newest`:
    dropping old values early loses nothing that would be shown later;
  * `Ring α capacity` -- a ring buffer by what its content is after a push;
    `Ring.content_push_newest`, what it keeps of a log;
  * `Circular` -- slots and two counters that are taken modulo the capacity;
    the invariant that every counted slot is filled is a field;
  * `Circular.ring` -- it is a `Ring`.
-/
import Mathlib.Logic.Function.Basic
import Mathlib.Data.List.Basic
import Mathlib.Tactic.Common

namespace Lib

variable {α : Type}

/-! ## 1. The newest values -/

/-- The last `n` values of a log. -/
def newest (n : Nat) (log : List α) : List α := log.drop (log.length - n)

@[simp] theorem newest_nil (n : Nat) : newest n ([] : List α) = [] := List.drop_nil

/-- What was dropped would not be among the newest later either. -/
theorem newest_append_newest (n : Nat) (log more : List α) :
    newest n (newest n log ++ more) = newest n (log ++ more) := by
  have hdrop : newest n log ++ more = (log ++ more).drop (log.length - n) :=
    (List.drop_append_of_le_length (Nat.sub_le ..)).symm
  have hindex : log.length - n + ((log ++ more).length - (log.length - n) - n) =
      (log ++ more).length - n := by
    rw [List.length_append]
    omega
  rw [hdrop, newest, List.length_drop, List.drop_drop, hindex]
  rfl

/-- The newest values up to a point, and all that follow. -/
theorem newest_take_append_drop (n : Nat) {log : List α} {k : Nat} (hk : k ≤ log.length) :
    newest n (log.take k) ++ log.drop k = log.drop (k - n) := by
  have hlen : (log.take k).length = k := by rw [List.length_take, Nat.min_eq_left hk]
  rw [newest, hlen, ← List.drop_append_of_le_length (by omega), List.take_append_drop]

/-! ## 2. A ring buffer by its content -/

/-- **A ring buffer**: a push on a full one drops the oldest value. -/
structure Ring (α : Type) (capacity : Nat) where
  Buffer : Type
  new : Buffer
  push : Buffer → α → Buffer
  content : Buffer → List α
  content_new : content new = []
  content_push : ∀ b a, content (push b a) = newest capacity (content b ++ [a])

namespace Ring

variable {capacity : Nat} (ring : Ring α capacity)

/-- **One push**: a ring that holds the newest of a log holds the newest of the longer log. -/
theorem content_push_newest {b : ring.Buffer} {log : List α}
    (h : ring.content b = newest capacity log) (a : α) :
    ring.content (ring.push b a) = newest capacity (log ++ [a]) := by
  rw [ring.content_push, h, newest_append_newest]

end Ring

/-! ## 3. Slots and counters -/

/-- **A circular buffer**: the values from `read` to `write` stand in their slots. -/
structure Circular (α : Type) (capacity : Nat) where
  slots : Nat → Option α
  read : Nat
  write : Nat
  read_le : read ≤ write
  write_le : write ≤ read + capacity
  filled : ∀ i, read ≤ i → i < write → (slots (i % capacity)).isSome = true

namespace Circular

variable {capacity : Nat}

def new (α : Type) (capacity : Nat) : Circular α capacity where
  slots _ := none
  read := 0
  write := 0
  read_le := Nat.le_refl 0
  write_le := Nat.zero_le _
  filled _ _ h := absurd h (Nat.not_lt_zero _)

/-- The counter of the oldest value after a push. -/
def readAfter (b : Circular α capacity) : Nat :=
  if b.write = b.read + capacity then b.read + 1 else b.read

theorem readAfter_eq (b : Circular α capacity) :
    b.readAfter = max b.read (b.write + 1 - capacity) := by
  have h1 := b.read_le
  have h2 := b.write_le
  unfold readAfter
  split <;> omega

/-- Two counters less than a capacity apart stand for different slots. -/
theorem mod_ne {i j : Nat} (hlt : i < j) (hle : j < i + capacity) :
    i % capacity ≠ j % capacity := by
  intro h
  have hdvd : capacity ∣ j - i := Nat.dvd_of_mod_eq_zero (Nat.sub_mod_eq_zero_of_mod_eq h.symm)
  have := Nat.le_of_dvd (by omega) hdvd
  omega

def push (hpos : 0 < capacity) (b : Circular α capacity) (a : α) : Circular α capacity where
  slots := Function.update b.slots (b.write % capacity) (some a)
  read := b.readAfter
  write := b.write + 1
  read_le := by
    have := b.read_le
    rw [readAfter_eq]
    omega
  write_le := by
    have := b.write_le
    rw [readAfter_eq]
    omega
  filled i hread hwrite := by
    rw [readAfter_eq] at hread
    rcases Nat.lt_succ_iff_lt_or_eq.mp hwrite with hlt | rfl
    · rw [Function.update_of_ne (mod_ne hlt (by omega))]
      exact b.filled i (by omega) hlt
    · rw [Function.update_self]
      rfl

/-- The values, the oldest first. -/
def content (b : Circular α capacity) : List α :=
  (List.range' b.read (b.write - b.read)).filterMap fun i => b.slots (i % capacity)

/-- Counted slots give a value each. -/
theorem length_filled {f : Nat → Option α} : ∀ {n start : Nat},
    (∀ i, start ≤ i → i < start + n → (f i).isSome = true) →
    ((List.range' start n).filterMap f).length = n
  | 0, _, _ => rfl
  | n + 1, start, h => by
      obtain ⟨a, ha⟩ := Option.isSome_iff_exists.mp (h start (Nat.le_refl _) (by omega))
      rw [List.range'_succ, List.filterMap_cons_some ha, List.length_cons,
        length_filled fun i hi hlt => h i (by omega) (by omega)]

theorem length_content (b : Circular α capacity) : b.content.length = b.write - b.read := by
  have := b.read_le
  exact length_filled fun i hi hlt => b.filled i hi (by omega)

/-- The values from a later counter on. -/
theorem drop_content (b : Circular α capacity) {k : Nat} (hk : k ≤ b.write - b.read) :
    b.content.drop k =
      (List.range' (b.read + k) (b.write - b.read - k)).filterMap
        fun i => b.slots (i % capacity) := by
  have hsplit : List.range' b.read (b.write - b.read) =
      List.range' b.read k ++ List.range' (b.read + k) (b.write - b.read - k) := by
    rw [List.range'_append_1, Nat.add_sub_cancel' hk]
  have hlen : ((List.range' b.read k).filterMap fun i => b.slots (i % capacity)).length = k :=
    length_filled fun i hi hlt => b.filled i hi (by omega)
  rw [content, hsplit, List.filterMap_append, List.drop_left' hlen]

/-- **A push** drops the oldest value of a full buffer and puts the new one behind the others. -/
theorem content_push (hpos : 0 < capacity) (b : Circular α capacity) (a : α) :
    (b.push hpos a).content = newest capacity (b.content ++ [a]) := by
  have h1 := b.read_le
  have h2 := b.write_le
  have hlen := b.length_content
  have hk : b.content.length + 1 - capacity ≤ b.write - b.read := by omega
  have hread : b.readAfter = b.read + (b.content.length + 1 - capacity) := by
    rw [readAfter_eq]
    omega
  have hnew : newest capacity (b.content ++ [a]) =
      b.content.drop (b.content.length + 1 - capacity) ++ [a] := by
    rw [newest, List.length_append]
    exact List.drop_append_of_le_length (hlen ▸ hk)
  have hcount : b.write + 1 - b.readAfter =
      b.write - b.read - (b.content.length + 1 - capacity) + 1 := by omega
  rw [hnew, drop_content b hk, content]
  show (List.range' b.readAfter (b.write + 1 - b.readAfter)).filterMap
    (fun i => Function.update b.slots (b.write % capacity) (some a) (i % capacity)) = _
  rw [hcount, hread, List.range'_1_concat, List.filterMap_append]
  congr 1
  · refine List.filterMap_congr fun i hi => ?_
    have hi := List.mem_range'_1.mp hi
    exact Function.update_of_ne (mod_ne (by omega) (by omega)) _ _
  · have hlast : b.read + (b.content.length + 1 - capacity) +
        (b.write - b.read - (b.content.length + 1 - capacity)) = b.write := by omega
    rw [hlast, List.filterMap_cons, Function.update_self]
    rfl

/-- **The circular buffer is a ring buffer.** -/
def ring (hpos : 0 < capacity) : Ring α capacity where
  Buffer := Circular α capacity
  new := new α capacity
  push := push hpos
  content := content
  content_new := rfl
  content_push := content_push hpos

/-- Three slots after five pushes. -/
example : content ([1, 2, 3, 4, 5].foldl (push (by decide)) (new Nat 3)) = [3, 4, 5] := by decide

end Circular

end Lib
