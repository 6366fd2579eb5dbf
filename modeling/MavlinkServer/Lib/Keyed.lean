/-
  File:      MavlinkServer/Lib/Keyed.lean
  Subject:   TABLES WHOSE INPUTS EACH CHANGE ONE ENTRY.

  * `apply` -- an input changes the entry of its key, as a function of that
    entry alone;
  * `run_at` -- the entry of a key comes from the inputs with that key, in
    their order.
-/
import Mathlib.Logic.Function.Basic

namespace Lib.Keyed

variable {K V I : Type} [DecidableEq K] (key : I → K) (f : I → Option V → Option V)

def apply (table : K → Option V) (i : I) : K → Option V :=
  Function.update table (key i) (f i (table (key i)))

def run (table : K → Option V) (inputs : List I) : K → Option V :=
  inputs.foldl (apply key f) table

variable {key f} {table : K → Option V} {i : I} {inputs : List I} {k : K}

@[simp] theorem run_nil : run key f table [] = table := rfl

@[simp] theorem run_cons : run key f table (i :: inputs) = run key f (apply key f table i) inputs :=
  rfl

theorem apply_same (h : key i = k) : apply key f table i k = f i (table k) := by
  subst h
  exact Function.update_self ..

theorem apply_of_ne (h : key i ≠ k) : apply key f table i k = table k :=
  Function.update_of_ne (Ne.symm h) ..

/-- **The entry of a key** comes from the inputs with that key. -/
theorem run_at (table : K → Option V) (inputs : List I) (k : K) :
    run key f table inputs k =
      (inputs.filter fun i => key i = k).foldl (fun v i => f i v) (table k) := by
  induction inputs generalizing table with
  | nil => rfl
  | cons i inputs ih =>
      rw [run_cons, ih]
      by_cases h : key i = k
      · rw [List.filter_cons_of_pos (by simpa using h), List.foldl_cons, apply_same h]
      · rw [List.filter_cons_of_neg (by simpa using h), apply_of_ne h]

end Lib.Keyed
