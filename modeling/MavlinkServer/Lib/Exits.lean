/-
  File:      MavlinkServer/Lib/Exits.lean
  Subject:   WHAT A COMPUTATION OWES. The world of a computation keeps a trace;
             some events settle a debt, and the question is whether a run that
             returns has settled it. Nothing here names a program.

  * `Quiet`, `Settled` -- the part of the trace a run has added holds no such
    event, or one;
  * `Exits L M x w` -- `L` says exactly whether the computation returns from
    `w` with the debt open, given that `M` says so of the world behind `x`;
  * `Exits.bind`, … -- the rules for composed computations;
  * `Exits.returns_iff` -- the whole: it settles before it returns, or `L`.
-/
import MavlinkServer.Lib.Await
import Mathlib.Data.List.Basic

namespace Lib.Await

variable {σ ε α β E : Type}

/-- The world behind has added nothing to the trace that settles the debt. -/
def Quiet (trace : σ → List E) (p : E → Bool) (w w' : σ) : Prop :=
  ∃ added, trace w' = trace w ++ added ∧ added.any p = false

/-- It has added something that does. -/
def Settled (trace : σ → List E) (p : E → Bool) (w w' : σ) : Prop :=
  ∃ added, trace w' = trace w ++ added ∧ added.any p = true

section Traces

variable {trace : σ → List E} {p : E → Bool} {w w1 w2 : σ}

theorem Quiet.of_eq (h : trace w1 = trace w) : Quiet trace p w w1 :=
  ⟨[], by simp [h], rfl⟩

theorem Quiet.refl (w : σ) : Quiet trace p w w := .of_eq rfl

theorem Quiet.trans (h1 : Quiet trace p w w1) (h2 : Quiet trace p w1 w2) :
    Quiet trace p w w2 := by
  obtain ⟨l1, e1, q1⟩ := h1
  obtain ⟨l2, e2, q2⟩ := h2
  exact ⟨l1 ++ l2, by simp [e2, e1], by simp [List.any_append, q1, q2]⟩

theorem Quiet.settled (h1 : Quiet trace p w w1) (h2 : Settled trace p w1 w2) :
    Settled trace p w w2 := by
  obtain ⟨l1, e1, q1⟩ := h1
  obtain ⟨l2, e2, q2⟩ := h2
  exact ⟨l1 ++ l2, by simp [e2, e1], by simp [List.any_append, q2]⟩

/-- Nothing that comes later opens a debt that is settled. -/
theorem Settled.later (h1 : Settled trace p w w1) {l : List E} (h2 : trace w2 = trace w1 ++ l) :
    Settled trace p w w2 := by
  obtain ⟨l1, e1, q1⟩ := h1
  exact ⟨l1 ++ l, by simp [h2, e1], by simp [List.any_append, q1]⟩

theorem Quiet.not_settled (h : Quiet trace p w w1) : ¬ Settled trace p w w1 := by
  obtain ⟨l1, e1, q1⟩ := h
  rintro ⟨l2, e2, q2⟩
  obtain rfl : l1 = l2 := List.append_cancel_left (e1.symm.trans e2)
  simp [q1] at q2

end Traces

/-- What is still owed behind a run: an error returns at once, a wait never does. -/
def owed (M : α → σ → Prop) : Outcome ε α → σ → Prop
  | .ok a, w => M a w
  | .err _, _ => True
  | .waiting, _ => False

/-- **`L` is exact for `x` at `w`**: the run settles and `L` is false, or it does not and `L` is
    what is owed behind it. -/
def Exits (trace : σ → List E) (p : E → Bool) (L : Prop) (M : α → σ → Prop) (x : Await σ ε α)
    (w : σ) : Prop :=
  (Settled trace p w (x w).2 ∧ ¬ L) ∨ (Quiet trace p w (x w).2 ∧ (L ↔ owed M (x w).1 (x w).2))

namespace Exits

variable {trace : σ → List E} {p : E → Bool} {L L1 : Prop} {M : α → σ → Prop} {N : β → σ → Prop}
  {x : Await σ ε α} {f : α → Await σ ε β} {w w1 : σ}

theorem congr (hL : L ↔ L1) (h : Exits trace p L1 M x w) : Exits trace p L M x w := by
  unfold Exits
  rw [hL]
  exact h

theorem pure {a : α} (h : L ↔ M a w) : Exits trace p L M (pure a : Await σ ε α) w :=
  .inr ⟨.refl w, h⟩

theorem fail {e : ε} (h : L) : Exits trace p L M (fail e) w :=
  .inr ⟨.refl w, by simp [h, owed, Await.fail]⟩

/-- A first part that ended with a value and settled nothing. -/
theorem ok_bind {a : α} (hx : x w = (.ok a, w1)) (hq : Quiet trace p w w1)
    (hf : Exits trace p L N (f a) w1) : Exits trace p L N (x >>= f) w := by
  unfold Exits
  rw [bind_of_ok hx]
  rcases hf with ⟨hs, hn⟩ | ⟨hq', hL⟩
  · exact .inl ⟨hq.settled hs, hn⟩
  · exact .inr ⟨hq.trans hq', hL⟩

/-- A first part that waits for ever. -/
theorem waiting_bind (hx : x w = (.waiting, w1)) (hq : Quiet trace p w w1) (hL : ¬ L) :
    Exits trace p L N (x >>= f) w := by
  refine .inr ?_
  rw [bind_of_waiting hx]
  exact ⟨hq, by simp [hL, owed]⟩

/-- A run only adds to what is recorded. -/
theorem later (h : Exits trace p L M x w) : ∃ l, trace (x w).2 = trace w ++ l := by
  rcases h with ⟨⟨l, hl, _⟩, _⟩ | ⟨⟨l, hl, _⟩, _⟩
  · exact ⟨l, hl⟩
  · exact ⟨l, hl⟩

/-- **Composition.** -/
theorem bind (hx : Exits trace p L M x w)
    (hf : ∀ a w1, x w = (.ok a, w1) → Exits trace p (M a w1) N (f a) w1) :
    Exits trace p L N (x >>= f) w := by
  unfold Exits at hx ⊢
  rw [bind_apply]
  cases hr : x w with
  | mk o w1 =>
      rw [hr] at hx
      cases o with
      | ok a =>
          have hrest := hf a w1 hr
          rcases hx with ⟨hs, hn⟩ | ⟨hq, hL⟩
          · obtain ⟨l, hl⟩ := hrest.later
            exact .inl ⟨hs.later hl, hn⟩
          · rw [hL]
            rcases hrest with ⟨hs, hn⟩ | ⟨hq', hM⟩
            · exact .inl ⟨hq.settled hs, hn⟩
            · exact .inr ⟨hq.trans hq', hM⟩
      | err e => exact hx
      | waiting => exact hx

/-- An error that is caught owes what an error that is returned does. -/
theorem attempt (hx : Exits trace p L (fun _ _ => True) x w) :
    Exits trace p L (fun _ _ => True) (attempt x) w := by
  unfold Exits at hx ⊢
  rw [attempt_snd]
  have howed : owed (fun _ _ => True) (Await.attempt x w).1 (x w).2 ↔
      owed (fun _ _ => True) (x w).1 (x w).2 := by
    unfold Await.attempt
    cases hr : x w with
    | mk o w1 => cases o <;> simp [owed]
  rw [howed]
  exact hx

/-- **A run settles before it returns exactly when `L` is false.** -/
theorem returns_iff (h : Exits trace p L (fun _ _ => True) x w) :
    ((x w).1 ≠ .waiting → Settled trace p w (x w).2) ↔ ¬ L := by
  rcases h with ⟨hs, hn⟩ | ⟨hq, hL⟩
  · simp [hs, hn]
  · rw [hL]
    cases hr : (x w).1 <;> simp [owed, hq.not_settled]

end Exits

end Lib.Await
