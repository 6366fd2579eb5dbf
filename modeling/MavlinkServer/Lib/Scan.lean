/-
  File:      MavlinkServer/Lib/Scan.lean
  Subject:   LOOKING FOR SOMETHING IN A LIST, position by position. Nothing here
             names a program.

  * `scan f l` -- the first position whose suffix `f` recognises, and what it
    makes of it;
  * `scan_eq_some`, `scan_eq_none` -- what that says of the suffixes;
  * `scan_of_hit` -- a suffix that is recognised bounds the position.
-/
import Mathlib.Tactic.Common

namespace Lib

variable {α β : Type} {f : List α → Option β} {l : List α} {a : α} {b : β} {k : Nat}

/-- The first position whose suffix `f` recognises. -/
def scan (f : List α → Option β) : List α → Option (Nat × β)
  | [] => (f []).map fun b => (0, b)
  | a :: l =>
      match f (a :: l) with
      | some b => some (0, b)
      | none => (scan f l).map fun (k, b) => (k + 1, b)

theorem scan_hit (h : f l = some b) : scan f l = some (0, b) := by
  cases l with
  | nil => rw [scan, h]; rfl
  | cons a l => rw [scan, h]

theorem scan_cons_miss (h : f (a :: l) = none) :
    scan f (a :: l) = (scan f l).map fun (k, b) => (k + 1, b) := by
  rw [scan, h]

theorem scan_eq_none : scan f l = none ↔ ∀ j, f (l.drop j) = none := by
  induction l with
  | nil => simp [scan]
  | cons a l ih =>
      cases h : f (a :: l) with
      | some b =>
          rw [scan_hit h]
          constructor
          · intro h'
            cases h'
          · intro h'
            have h0 := h' 0
            rw [List.drop_zero, h] at h0
            cases h0
      | none =>
          rw [scan_cons_miss h, Option.map_eq_none_iff, ih]
          constructor
          · intro h' j
            cases j with
            | zero => exact h
            | succ j => exact h' j
          · exact fun h' j => h' (j + 1)

theorem scan_eq_some : scan f l = some (k, b) ↔
    k ≤ l.length ∧ f (l.drop k) = some b ∧ ∀ j, j < k → f (l.drop j) = none := by
  induction l generalizing k with
  | nil =>
      constructor
      · intro h
        obtain ⟨b', hb, he⟩ := Option.map_eq_some_iff.mp h
        cases he
        exact ⟨Nat.le_refl _, hb, fun j hj => absurd hj (Nat.not_lt_zero j)⟩
      · rintro ⟨hk, hb, _⟩
        obtain rfl : k = 0 := Nat.le_zero.mp hk
        exact scan_hit hb
  | cons a l ih =>
      cases h : f (a :: l) with
      | some b' =>
          rw [scan_hit h]
          constructor
          · intro he
            cases he
            exact ⟨Nat.zero_le _, h, fun j hj => absurd hj (Nat.not_lt_zero j)⟩
          · rintro ⟨_, hb, hmiss⟩
            rcases Nat.eq_zero_or_pos k with rfl | hk
            · rw [List.drop_zero, h] at hb
              cases hb
              rfl
            · have h0 := hmiss 0 hk
              rw [List.drop_zero, h] at h0
              cases h0
      | none =>
          rw [scan_cons_miss h]
          constructor
          · intro he
            obtain ⟨⟨k', b'⟩, hk', he⟩ := Option.map_eq_some_iff.mp he
            cases he
            obtain ⟨hle, hb, hmiss⟩ := ih.mp hk'
            refine ⟨Nat.succ_le_succ hle, hb, fun j hj => ?_⟩
            cases j with
            | zero => exact h
            | succ j => exact hmiss j (Nat.lt_of_succ_lt_succ hj)
          · rintro ⟨hle, hb, hmiss⟩
            cases k with
            | zero =>
                rw [List.drop_zero, h] at hb
                cases hb
            | succ k =>
                have hk : scan f l = some (k, b) :=
                  ih.mpr ⟨Nat.le_of_succ_le_succ hle, hb,
                    fun j hj => hmiss (j + 1) (Nat.succ_lt_succ hj)⟩
                rw [hk]
                rfl

/-- A suffix that is recognised is found, unless there is one before it. -/
theorem scan_of_hit (h : f (l.drop k) = some b) :
    ∃ j c, j ≤ k ∧ scan f l = some (j, c) := by
  cases hs : scan f l with
  | none =>
      rw [scan_eq_none.mp hs k] at h
      cases h
  | some found =>
      obtain ⟨j, c⟩ := found
      refine ⟨j, c, ?_, rfl⟩
      by_contra hlt
      rw [(scan_eq_some.mp hs).2.2 k (by omega)] at h
      cases h

/-- The same position is the same find. -/
theorem scan_eq_some_of_hit (h : f (l.drop k) = some b) {c : β} (hs : scan f l = some (k, c)) :
    c = b := by
  have hc := (scan_eq_some.mp hs).2.1
  rw [h] at hc
  exact (Option.some.inj hc).symm

end Lib
