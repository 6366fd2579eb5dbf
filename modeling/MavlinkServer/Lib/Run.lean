/-
  File:      MavlinkServer/Lib/Run.lean
  Subject:   RUNS OF A GUARDED STEP FUNCTION. A machine is a partial function
             `step : S → A → Option S`: the action either is not enabled or
             gives the next state. Nothing here names a program.

  * `Reach step C s0` -- the states reached from `s0` by actions that are
    enabled and meet the side condition `C` in the state they are taken in;
  * `Reach.inv` -- the invariant rule, one step at a time;
  * `Reach.before` -- a run started by one more step;
  * `observed` -- the machine with an observer, who keeps a record of its steps;
    `watched` -- with an onlooker, who sees the actions and not the states;
    `Reach.observed` -- every run can be observed;
  * `execC` -- the executable run of a list of actions, and `reach_of_execC`,
    which turns an evaluated run into a reachability proof.
-/
import Mathlib.Tactic.Common

namespace Lib

variable {S A : Type} {step : S → A → Option S} {C : S → A → Prop} {s0 : S}

/-- **The states reached from `s0`** by actions that meet `C` where they are taken. -/
inductive Reach (step : S → A → Option S) (C : S → A → Prop) (s0 : S) : S → Prop where
  | start : Reach step C s0 s0
  | next (s s' : S) (a : A) (h : Reach step C s0 s) (hC : C s a) (hs : step s a = some s') :
      Reach step C s0 s'

/-- The side condition of a run that may take every action. -/
abbrev Free (_ : S) (_ : A) : Prop := True

/-- **The invariant rule**: what holds at the start and is kept by every admitted step holds in
    every reached state. -/
theorem Reach.inv {I : S → Prop} (h0 : I s0)
    (hstep : ∀ s s' a, I s → C s a → step s a = some s' → I s') {s : S}
    (h : Reach step C s0 s) : I s := by
  induction h with
  | start => exact h0
  | next s s' a _ hC hs ih => exact hstep s s' a ih hC hs

/-- A run that meets a side condition meets every weaker one. -/
theorem Reach.mono {C' : S → A → Prop} (hC : ∀ s a, C s a → C' s a) {s : S}
    (h : Reach step C s0 s) : Reach step C' s0 s := by
  induction h with
  | start => exact .start
  | next s s' a _ ha hs ih => exact .next s s' a ih (hC s a ha) hs

/-- Runs compose. -/
theorem Reach.trans {s1 s : S} (h1 : Reach step C s0 s1) (h2 : Reach step C s1 s) :
    Reach step C s0 s := by
  induction h2 with
  | start => exact h1
  | next s s' a _ hC hs ih => exact .next s s' a ih hC hs

/-- A run may be started by one more step. -/
theorem Reach.before {s1 s : S} {a : A} (hC : C s0 a) (hs : step s0 a = some s1)
    (h : Reach step C s1 s) : Reach step C s0 s :=
  Reach.trans (.next s0 s1 a .start hC hs) h

variable {T : Type}

/-- **A machine with an observer**, who sees each action and the state it is taken in. -/
def observed (step : S → A → Option S) (see : S → T → A → T) (p : S × T) (a : A) :
    Option (S × T) :=
  (step p.1 a).map fun s => (s, see p.1 p.2 a)

/-- **A machine with an onlooker**, who sees the actions that are taken and nothing else. -/
def watched (step : S → A → Option S) (see : T → A → T) : S × T → A → Option (S × T) :=
  observed step fun _ => see

theorem observed_eq_some {see : S → T → A → T} {p p' : S × T} {a : A} :
    observed step see p a = some p' ↔ step p.1 a = some p'.1 ∧ p'.2 = see p.1 p.2 a := by
  unfold observed
  constructor
  · intro h
    obtain ⟨s, hs, rfl⟩ := Option.map_eq_some_iff.mp h
    exact ⟨hs, rfl⟩
  · rintro ⟨hs, hsee⟩
    exact Option.map_eq_some_iff.mpr ⟨p'.1, hs, Prod.ext rfl hsee.symm⟩

theorem watched_eq_some {see : T → A → T} {p p' : S × T} {a : A} :
    watched step see p a = some p' ↔ step p.1 a = some p'.1 ∧ p'.2 = see p.2 a :=
  observed_eq_some

/-- Every run can be observed. -/
theorem Reach.observed (see : S → T → A → T) (t0 : T) {s : S} (h : Reach step Free s0 s) :
    ∃ t, Reach (observed step see) Free (s0, t0) (s, t) := by
  induction h with
  | start => exact ⟨t0, .start⟩
  | next s s' a _ _ hs ih =>
      obtain ⟨t, ht⟩ := ih
      exact ⟨see s t a, .next (s, t) (s', see s t a) a ht trivial
        (observed_eq_some.mpr ⟨hs, rfl⟩)⟩

/-- The run of a list of actions: `none` as soon as one is not enabled or misses `C`. -/
def execC (step : S → A → Option S) (C : S → A → Prop) [∀ s a, Decidable (C s a)] :
    S → List A → Option S
  | s, [] => some s
  | s, a :: as => if C s a then (step s a).bind fun s' => execC step C s' as else none

theorem reach_of_execC [∀ s a, Decidable (C s a)] :
    ∀ {s s' : S} {as : List A}, execC step C s as = some s' → Reach step C s s'
  | s, s', [], h => by
      simp only [execC, Option.some.injEq] at h
      exact h ▸ .start
  | s, s', a :: as, h => by
      simp only [execC] at h
      split at h
      · rename_i hC
        obtain ⟨s1, hs, h'⟩ := Option.bind_eq_some_iff.mp h
        exact .before hC hs (reach_of_execC h')
      · cases h

/-- A test that an evaluated run passes holds in a reached state. -/
theorem exists_of_execC [∀ s a, Decidable (C s a)] (as : List A) {p : S → Prop}
    [DecidablePred p] (h : ((execC step C s0 as).any fun s => decide (p s)) = true) :
    ∃ s, Reach step C s0 s ∧ p s := by
  cases he : execC step C s0 as with
  | none => rw [he] at h; cases h
  | some s =>
      rw [he] at h
      exact ⟨s, reach_of_execC he, of_decide_eq_true h⟩

end Lib
