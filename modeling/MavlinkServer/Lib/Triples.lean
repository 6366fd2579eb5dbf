/-
  File:      MavlinkServer/Lib/Triples.lean
  Subject:   TRIPLES OF COMPUTATIONS THAT WAIT. From a world that meets the
             precondition, a run that ends in a value leaves a world that meets
             the one postcondition, and a run that ends in an error one that
             meets the other; of a run that still waits nothing is said.
             Nothing here names a program.

  * `Triple P V Q x` -- `V` is about the value and the world it comes with, `Q`
    about the error and its world;
  * `Triple.bind`, `Triple.attempt`, … -- one rule for each way of composing;
  * `Triple.value` -- what a finished run says.
-/
import MavlinkServer.Lib.Await

namespace Lib.Await

variable {σ ε α β : Type}

/-- How a run ends, and with which world: a value that meets `V`, an error that meets `Q`. -/
def outcomeIn (V : α → σ → Prop) (Q : ε → σ → Prop) : Outcome ε α × σ → Prop
  | (.ok a, w) => V a w
  | (.err e, w) => Q e w
  | (.waiting, _) => True

/-- The same of an outcome that was read as a value. -/
def resultIn (V : α → σ → Prop) (Q : ε → σ → Prop) : Except ε α → σ → Prop
  | .ok a => V a
  | .error e => Q e

/-- **From every world that meets `P` a run ends in `V` or in `Q`**, if it ends. -/
def Triple (P : σ → Prop) (V : α → σ → Prop) (Q : ε → σ → Prop) (x : Await σ ε α) : Prop :=
  ∀ w, P w → outcomeIn V Q (x w)

namespace Triple

variable {P P' : σ → Prop} {V V' : α → σ → Prop} {W : β → σ → Prop} {Q Q' : ε → σ → Prop}
  {x y : Await σ ε α}

theorem pure {a : α} (h : ∀ w, P w → V a w) : Triple P V Q (pure a : Await σ ε α) := h

theorem fail {e : ε} (h : ∀ w, P w → Q e w) : Triple P V Q (fail e : Await σ ε α) := h

theorem stuck : Triple P V Q (stuck : Await σ ε α) := fun _ _ => trivial

theorem modify {f : σ → σ} (h : ∀ w, P w → P' (f w)) :
    Triple P (fun _ => P') Q (modify f : Await σ ε Unit) := h

/-- The consequence rule. -/
theorem weaken (h : Triple P V Q x) (hP : ∀ w, P' w → P w) (hV : ∀ a w, V a w → V' a w)
    (hQ : ∀ e w, Q e w → Q' e w) : Triple P' V' Q' x := fun w hw => by
  have hout := h w (hP w hw)
  cases hr : x w with
  | mk o w1 =>
      rw [hr] at hout
      cases o with
      | ok a => exact hV a w1 hout
      | err e => exact hQ e w1 hout
      | waiting => trivial

/-- From less than it asks for. -/
theorem pre (h : Triple P V Q x) (hP : ∀ w, P' w → P w) : Triple P' V Q x :=
  h.weaken hP (fun _ _ h => h) fun _ _ h => h

/-- **Composition**: the second part starts in what the first says of its value. -/
theorem bind {f : α → Await σ ε β} (hx : Triple P V Q x) (hf : ∀ a, Triple (V a) W Q (f a)) :
    Triple P W Q (x >>= f) := fun w hw => by
  have hout := hx w hw
  rw [bind_apply]
  cases hr : x w with
  | mk o w1 =>
      rw [hr] at hout
      cases o with
      | ok a => exact hf a w1 hout
      | err e => exact hout
      | waiting => trivial

/-- An error that is read as a value. -/
theorem attempt (hx : Triple P V Q x) : Triple P (resultIn V Q) Q' (attempt x) := fun w hw => by
  have hout := hx w hw
  unfold Await.attempt
  cases hr : x w with
  | mk o w1 =>
      rw [hr] at hout
      cases o with
      | ok a => exact hout
      | err e => exact hout
      | waiting => trivial

theorem ite {p : Prop} [Decidable p] (hx : Triple P V Q x) (hy : Triple P V Q y) :
    Triple P V Q (if p then x else y) := by
  split
  · exact hx
  · exact hy

/-- A computation that reads the world first. -/
theorem read {f : σ → Await σ ε α} (h : ∀ w, Triple P V Q (f w)) :
    Triple P V Q (fun w => f w w) := fun w hw => h w w hw

theorem value {a : α} {w w1 : σ} (h : Triple P V Q x) (hw : P w) (hr : x w = (.ok a, w1)) :
    V a w1 := by
  have hout := h w hw
  rw [hr] at hout
  exact hout

end Triple

end Lib.Await
