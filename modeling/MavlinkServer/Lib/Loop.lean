/-
  File:      MavlinkServer/Lib/Loop.lean
  Subject:   A LOOP OVER ITS INPUTS. An iteration takes one input, has effects,
             and the loop goes on or is left. Nothing here names a program.

  * `Iteration` -- what one input does: the next state, the effects in order,
    and how the loop goes on (`Flow`);
  * `runLoop body` -- the loop over a list of inputs, up to the input that
    leaves it;
  * `heard`, `effects_heard` -- the effects of a loop without a state of its own
    are those of the inputs it looks at, one after the other;
  * `heard_append` -- which are taken one more at a time.
-/
import Mathlib.Tactic.Common

namespace Lib

variable {σ ι ω ε : Type}

/-- How an iteration ends: with the next one, by leaving the loop, or with an error that leaves it. -/
inductive Flow (ε : Type) where
  | next
  | leave
  | fail (e : ε)
  deriving DecidableEq, Repr

structure Iteration (σ ω ε : Type) where
  state : σ
  effects : List ω
  flow : Flow ε
  deriving DecidableEq, Repr

/-- The loop on the inputs; those after the input that leaves it are not looked at. -/
def runLoop (body : σ → ι → Iteration σ ω ε) (s : σ) : List ι → Iteration σ ω ε
  | [] => ⟨s, [], .next⟩
  | i :: rest =>
      match (body s i).flow with
      | .next =>
          let after := runLoop body (body s i).state rest
          { after with effects := (body s i).effects ++ after.effects }
      | _ => body s i

section

variable {body : σ → ι → Iteration σ ω ε} {s : σ} {i : ι} {rest : List ι}

@[simp] theorem runLoop_nil : runLoop body s [] = ⟨s, [], .next⟩ := rfl

theorem runLoop_cons_next (h : (body s i).flow = .next) :
    runLoop body s (i :: rest) =
      { runLoop body (body s i).state rest with
        effects := (body s i).effects ++ (runLoop body (body s i).state rest).effects } := by
  rw [runLoop, h]

theorem runLoop_cons_stop (h : (body s i).flow ≠ .next) :
    runLoop body s (i :: rest) = body s i := by
  rw [runLoop]
  cases hf : (body s i).flow with
  | next => exact absurd hf h
  | leave | fail e => rfl

end

/-- A loop that keeps no state of its own. -/
def loopOf (body : ι → List ω × Flow ε) (_ : Unit) (i : ι) : Iteration Unit ω ε :=
  ⟨(), (body i).1, (body i).2⟩

/-- The inputs that the loop looks at: up to the one that leaves it. -/
def heard (body : ι → List ω × Flow ε) : List ι → List ι
  | [] => []
  | i :: rest =>
      match (body i).2 with
      | .next => i :: heard body rest
      | _ => [i]

/-- **The effects of a loop** are those of the inputs it looks at, one after the other. -/
theorem effects_heard (body : ι → List ω × Flow ε) (inputs : List ι) :
    (runLoop (loopOf body) () inputs).effects = (heard body inputs).flatMap fun i => (body i).1 := by
  induction inputs with
  | nil => rfl
  | cons i rest ih =>
      cases hi : (body i).2 with
      | next =>
          have hnext : (loopOf body () i).flow = .next := hi
          rw [runLoop_cons_next hnext, heard, hi, List.flatMap_cons]
          exact congrArg ((body i).1 ++ ·) ih
      | leave | fail e =>
          have hstop : (loopOf body () i).flow ≠ .next := fun h => by
            rw [show (loopOf body () i).flow = (body i).2 from rfl, hi] at h
            cases h
          rw [runLoop_cons_stop hstop, heard, hi, List.flatMap_cons]
          exact (List.append_nil _).symm

/-- Behind inputs that do not leave the loop it looks at further ones. -/
theorem heard_append {body : ι → List ω × Flow ε} {inputs : List ι}
    (h : ∀ i ∈ inputs, (body i).2 = .next) (more : List ι) :
    heard body (inputs ++ more) = inputs ++ heard body more := by
  induction inputs with
  | nil => rfl
  | cons i rest ih =>
      rw [List.cons_append, heard, h i List.mem_cons_self,
        ih fun j hj => h j (List.mem_cons_of_mem _ hj)]
      rfl

/-- A loop that no input leaves looks at all of them. -/
theorem heard_of_next {body : ι → List ω × Flow ε} {inputs : List ι}
    (h : ∀ i ∈ inputs, (body i).2 = .next) : heard body inputs = inputs := by
  have happend := heard_append h []
  rwa [List.append_nil, heard, List.append_nil] at happend

theorem heard_singleton (body : ι → List ω × Flow ε) (i : ι) : heard body [i] = [i] := by
  unfold heard
  split <;> rfl

end Lib
