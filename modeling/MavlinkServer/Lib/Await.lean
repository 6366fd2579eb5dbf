/-
  File:      MavlinkServer/Lib/Await.lean
  Subject:   COMPUTATIONS THAT WAIT. A computation reads and changes a world,
             and ends in a value, in an error, or still waiting for input the
             world does not hold yet. Nothing here names a program.

  * `Await σ ε α`, its `Monad` instance, `fail` and `attempt` (an error read
    as a value, the counterpart of matching on a `Result`);
  * `bind_ok` -- inversion: which parts a run that gave a value is made of;
  * `Moves R x` -- every run of `x`, finished or not, moves the world along
    `R`; the rules for each way of composing computations (`Moves.bind`, …);
  * `Ends x w` -- the run from `w` does not wait for more input.
-/
import Mathlib.Order.Defs.Unbundled
import Mathlib.Tactic.Common

namespace Lib

/-- How a run ends: with a value, with an error, or still waiting. -/
inductive Outcome (ε α : Type) where
  | ok (a : α)
  | err (e : ε)
  | waiting
  deriving DecidableEq, Repr

/-- A computation over the world `σ`. -/
def Await (σ ε α : Type) : Type := σ → Outcome ε α × σ

namespace Await

variable {σ ε α β : Type}

protected def pure (a : α) : Await σ ε α := fun w => (.ok a, w)

protected def bind (x : Await σ ε α) (f : α → Await σ ε β) : Await σ ε β := fun w =>
  match x w with
  | (.ok a, w') => f a w'
  | (.err e, w') => (.err e, w')
  | (.waiting, w') => (.waiting, w')

instance : Monad (Await σ ε) where
  pure := Await.pure
  bind := Await.bind

instance : LawfulMonad (Await σ ε) :=
  .mk' _
    (fun x => funext fun w => by
      show Await.bind x (fun a => Await.pure (id a)) w = x w
      unfold Await.bind
      cases hr : x w with
      | mk o w1 => cases o <;> rfl)
    (fun _ _ => rfl)
    (fun x f g => funext fun w => by
      show Await.bind (Await.bind x f) g w = Await.bind x (fun a => Await.bind (f a) g) w
      unfold Await.bind
      cases hr : x w with
      | mk o w1 => cases o <;> rfl)

/-- End with an error (`return Err(e)`, or `?` on an error). -/
def fail (e : ε) : Await σ ε α := fun w => (.err e, w)

/-- Wait for input that never comes. -/
def stuck : Await σ ε α := fun w => (.waiting, w)

/-- Change the world and go on. -/
def modify (f : σ → σ) : Await σ ε Unit := fun w => (.ok (), f w)

/-- Read an error as a value (`match x.await { Ok .. Err .. }`). -/
def attempt (x : Await σ ε α) : Await σ ε (Except ε α) := fun w =>
  match x w with
  | (.ok a, w') => (.ok (.ok a), w')
  | (.err e, w') => (.ok (.error e), w')
  | (.waiting, w') => (.waiting, w')

/-! ## 1. Inversion -/

/-- A run by what it ends in. -/
theorem run_eq {x : Await σ ε α} {w : σ} {o : Outcome ε α} (h : (x w).1 = o) :
    x w = (o, (x w).2) := by
  rw [← h]

theorem pure_apply (a : α) (w : σ) : (pure a : Await σ ε α) w = (.ok a, w) := rfl

theorem bind_apply (x : Await σ ε α) (f : α → Await σ ε β) (w : σ) :
    (x >>= f) w = match x w with
      | (.ok a, w') => f a w'
      | (.err e, w') => (.err e, w')
      | (.waiting, w') => (.waiting, w') := rfl

/-- A computation that ends with a value ran its first part to a value. -/
theorem bind_ok {x : Await σ ε α} {f : α → Await σ ε β} {w w' : σ} {b : β} :
    (x >>= f) w = (.ok b, w') ↔ ∃ a w1, x w = (.ok a, w1) ∧ f a w1 = (.ok b, w') := by
  rw [bind_apply]
  constructor
  · intro h
    split at h
    · rename_i a w1 hx
      exact ⟨a, w1, hx, h⟩
    · cases h
    · cases h
  · rintro ⟨a, w1, hx, hf⟩
    rw [hx]
    exact hf

theorem bind_of_ok {x : Await σ ε α} {f : α → Await σ ε β} {w w1 : σ} {a : α}
    (h : x w = (.ok a, w1)) : (x >>= f) w = f a w1 := by
  rw [bind_apply, h]

/-- Whatever would come next, a computation whose first part waits is waiting. -/
theorem bind_of_waiting {x : Await σ ε α} {f : α → Await σ ε β} {w w1 : σ}
    (h : x w = (.waiting, w1)) : (x >>= f) w = (.waiting, w1) := by
  rw [bind_apply, h]

/-- What follows matters only behind the values the first part ends with. -/
theorem bind_congr_at {x : Await σ ε α} {f g : α → Await σ ε β} {w : σ}
    (h : ∀ a w1, x w = (.ok a, w1) → f a w1 = g a w1) : (x >>= f) w = (x >>= g) w := by
  rw [bind_apply, bind_apply]
  cases hx : x w with
  | mk o w1 =>
      cases o with
      | ok a => exact h a w1 hx
      | err e => rfl
      | waiting => rfl

theorem bind_congr_left {x y : Await σ ε α} {f : α → Await σ ε β} {w : σ} (h : x w = y w) :
    (x >>= f) w = (y >>= f) w := by
  rw [bind_apply, bind_apply, h]

/-- Behind an error nothing is done. -/
@[simp] theorem fail_bind (e : ε) (f : α → Await σ ε β) : (fail e >>= f) = fail e := rfl

@[simp] theorem pure_ok {a b : α} {w w' : σ} :
    (pure a : Await σ ε α) w = (.ok b, w') ↔ a = b ∧ w = w' := by
  simp [pure_apply]

@[simp] theorem fail_ok {e : ε} {b : α} {w w' : σ} :
    (fail e : Await σ ε α) w = (.ok b, w') ↔ False := by
  simp [fail]

@[simp] theorem stuck_ok {b : α} {w w' : σ} :
    (stuck : Await σ ε α) w = (.ok b, w') ↔ False := by
  simp [stuck]

@[simp] theorem modify_ok {f : σ → σ} {u : Unit} {w w' : σ} :
    (modify f : Await σ ε Unit) w = (.ok u, w') ↔ f w = w' := by
  simp [modify]

/-- An attempt that ends with a value `ok a` is a run that ended with `a`. -/
theorem attempt_ok {x : Await σ ε α} {a : α} {w w' : σ} :
    attempt x w = (.ok (.ok a), w') ↔ x w = (.ok a, w') := by
  unfold attempt
  split <;> rename_i h <;> simp [h]

theorem attempt_of_waiting {x : Await σ ε α} {w w1 : σ} (h : x w = (.waiting, w1)) :
    attempt x w = (.waiting, w1) := by
  unfold attempt
  rw [h]

/-- An attempt leaves the world the computation leaves. -/
theorem attempt_snd (x : Await σ ε α) (w : σ) : (attempt x w).2 = (x w).2 := by
  unfold attempt
  cases hr : x w with
  | mk o w1 => cases o <;> rfl

/-! ## 2. Where a run may move the world -/

/-- **Every run of `x` moves the world along `R`**, whatever it ends in. -/
def Moves (R : σ → σ → Prop) (x : Await σ ε α) : Prop := ∀ w, R w (x w).2

namespace Moves

variable {R : σ → σ → Prop}

theorem pure [Std.Refl R] (a : α) : Moves R (pure a : Await σ ε α) := fun w => Std.Refl.refl w

theorem fail [Std.Refl R] (e : ε) : Moves R (fail e : Await σ ε α) := fun w => Std.Refl.refl w

theorem stuck [Std.Refl R] : Moves R (stuck : Await σ ε α) := fun w => Std.Refl.refl w

theorem modify {f : σ → σ} (h : ∀ w, R w (f w)) : Moves R (modify f : Await σ ε Unit) := h

/-- At one world: what goes on after `x` may use how `x` ended there. -/
theorem bind_at [IsTrans σ R] {x : Await σ ε α} {f : α → Await σ ε β} {w : σ}
    (hx : R w (x w).2) (hf : ∀ a w1, x w = (.ok a, w1) → R w1 (f a w1).2) :
    R w ((x >>= f) w).2 := by
  rw [bind_apply]
  cases hr : x w with
  | mk o w1 =>
      rw [hr] at hx
      cases o with
      | ok a => exact IsTrans.trans _ _ _ hx (hf a w1 hr)
      | err e => exact hx
      | waiting => exact hx

theorem bind [IsTrans σ R] {x : Await σ ε α} {f : α → Await σ ε β} (hx : Moves R x)
    (hf : ∀ a, Moves R (f a)) : Moves R (x >>= f) := fun w =>
  bind_at (hx w) fun a w1 _ => hf a w1

theorem attempt {x : Await σ ε α} (hx : Moves R x) : Moves R (attempt x) := fun w => by
  rw [attempt_snd]
  exact hx w

theorem ite {p : Prop} [Decidable p] {x y : Await σ ε α} (hx : Moves R x) (hy : Moves R y) :
    Moves R (if p then x else y) := by
  split
  · exact hx
  · exact hy

/-- What a run that ended with a value says about the world. -/
theorem of_eq {x : Await σ ε α} (hx : Moves R x) {o : Outcome ε α} {w w' : σ}
    (h : x w = (o, w')) : R w w' := by
  have := hx w
  rw [h] at this
  exact this

end Moves

/-! ## 3. Runs that end -/

/-- From `w` on, `x` needs no more input than there is. -/
def Ends (x : Await σ ε α) (w : σ) : Prop := (x w).1 ≠ .waiting

namespace Ends

variable {w : σ}

theorem of_ok {x : Await σ ε α} {a : α} {w1 : σ} (h : x w = (.ok a, w1)) : Ends x w := by
  intro hw
  rw [h] at hw
  cases hw

theorem of_err {x : Await σ ε α} {e : ε} {w1 : σ} (h : x w = (.err e, w1)) : Ends x w := by
  intro hw
  rw [h] at hw
  cases hw

theorem pure (a : α) : Ends (pure a : Await σ ε α) w := of_ok rfl

theorem fail (e : ε) : Ends (fail e : Await σ ε α) w := of_err rfl

theorem bind {x : Await σ ε α} {f : α → Await σ ε β} (hx : Ends x w)
    (hf : ∀ a w1, x w = (.ok a, w1) → Ends (f a) w1) : Ends (x >>= f) w := by
  cases hr : x w with
  | mk o w1 =>
      cases o with
      | ok a =>
          have hbind := bind_of_ok (f := f) hr
          unfold Ends
          rw [hbind]
          exact hf a w1 hr
      | err e =>
          have hbind : (x >>= f) w = (.err e, w1) := by rw [bind_apply, hr]
          exact of_err hbind
      | waiting => exact absurd (by rw [hr]) hx

theorem attempt {x : Await σ ε α} (hx : Ends x w) : Ends (attempt x) w := by
  cases hr : x w with
  | mk o w1 =>
      cases o with
      | ok a => exact of_ok (attempt_ok.mpr hr)
      | err e =>
          have hattempt : Await.attempt x w = (.ok (.error e), w1) := by rw [Await.attempt, hr]
          exact of_ok hattempt
      | waiting => exact absurd (by rw [hr]) hx

/-- What ends does so whatever is put behind the same run. -/
theorem congr {x y : Await σ ε α} {w' : σ} (h : x w = y w') : Ends x w ↔ Ends y w' := by
  unfold Ends
  rw [h]

end Ends

end Await

end Lib
