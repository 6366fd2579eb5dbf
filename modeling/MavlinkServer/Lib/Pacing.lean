/-
  File:      MavlinkServer/Lib/Pacing.lean
  Subject:   LOOPS PACED BY AN INTERVAL. A loop that awaits the tick of an
             interval in front of every iteration but the first. A tick that
             was missed is not skipped: the next one is a period after it, as
             late as that may be. Nothing here names a program.

  * `Interval`, `Pacer` -- the interval, and the loop's use of it;
  * `Round` -- what an iteration does, with the time since it began;
  * `paced` -- the loop: its effects with the time they happen at;
  * `laps` -- when the iterations begin and end;
  * `laps_continue`, `length_laps` -- how many there are;
  * **`laps_succ`** -- each begins when the one before it has ended and its tick
    has come; `due_le_begin`, `countP_laps_le` -- so none is early, and few have
    begun by any time; `countP_effects_le` -- the same of what they do once.
-/
import MavlinkServer.Lib.Loop

namespace Lib

variable {ι ω ε : Type}

/-! ## 1. The interval -/

structure Interval where
  period : Nat
  deadline : Nat
  deriving DecidableEq, Repr

/-- Its first tick is at once. -/
def Interval.new (period now : Nat) : Interval := ⟨period, now⟩

/-- The time that a tick awaited since `now` comes, and the interval after it. -/
def Interval.tick (interval : Interval) (now : Nat) : Nat × Interval :=
  (max now interval.deadline, { interval with deadline := interval.deadline + interval.period })

structure Pacer where
  interval : Interval
  first : Bool
  now : Nat
  deriving DecidableEq, Repr

/-- In front of the loop: `interval(period)`, and `first = true`. -/
def Pacer.new (period now : Nat) : Pacer := ⟨.new period now, true, now⟩

/-- The head of the loop; the task goes on `late` after the tick. -/
def Pacer.next (pacer : Pacer) (late : Nat) : Pacer :=
  if pacer.first then { pacer with first := false }
  else
    let (tick, interval) := pacer.interval.tick pacer.now
    { pacer with interval, now := tick + late }

/-! ## 2. The loop -/

/-- What an iteration does: how long it takes, and when it has which effects. -/
structure Round (ω ε : Type) where
  took : Nat
  effects : List (Nat × ω)
  flow : Flow ε

def pacedBody (round : ι → Round ω ε) (pacer : Pacer) (input : Nat × ι) :
    Iteration Pacer (Nat × ω) ε :=
  let pacer := pacer.next input.1
  let round := round input.2
  { state := { pacer with now := pacer.now + round.took }
    effects := round.effects.map fun (offset, effect) => (pacer.now + offset, effect)
    flow := round.flow }

/-- The loop on its inputs, each with how late the task is woken for it. -/
def paced (round : ι → Round ω ε) (period now : Nat) (inputs : List (Nat × ι)) :
    Iteration Pacer (Nat × ω) ε :=
  runLoop (pacedBody round) (.new period now) inputs

/-- When the iterations begin, and when they end. -/
def laps (round : ι → Round ω ε) (pacer : Pacer) : List (Nat × ι) → List (Nat × Nat)
  | [] => []
  | input :: rest =>
      let after := (pacedBody round pacer input).state
      ((pacer.next input.1).now, after.now) ::
        match (round input.2).flow with
        | .next => laps round after rest
        | _ => []

/-! ## 3. When they begin -/

section Laps

variable {round : ι → Round ω ε} {pacer : Pacer} {inputs : List (Nat × ι)} {k time : Nat}
  {lap lap' : Nat × Nat}

/-- The tick that the `k`th iteration from here waits for. -/
def Pacer.due (pacer : Pacer) (k : Nat) : Nat :=
  pacer.interval.deadline + (if pacer.first then k - 1 else k) * pacer.interval.period

theorem due_new (period now k : Nat) : (Pacer.new period now).due k = now + (k - 1) * period := rfl

theorem Pacer.next_of_not_first (h : pacer.first = false) (late : Nat) :
    (pacer.next late).now = max pacer.now (pacer.due 0) + late := by
  simp [Pacer.next, Pacer.due, Interval.tick, h]

@[simp] theorem Pacer.first_next (late : Nat) : (pacer.next late).first = false := by
  unfold Pacer.next
  split
  · rfl
  · rename_i h
    simpa using h

/-- The ticks of a loop that has begun an iteration are those that are left. -/
theorem Pacer.due_next (late k : Nat) : (pacer.next late).due k = pacer.due (k + 1) := by
  cases hfirst : pacer.first with
  | true => simp [Pacer.next, Pacer.due, hfirst]
  | false =>
      have hmul := Nat.succ_mul k pacer.interval.period
      simp [Pacer.next, Pacer.due, Interval.tick, hfirst, hmul]
      omega

/-- The pacer behind an iteration. -/
theorem due_pacedBody (input : Nat × ι) (k : Nat) :
    (pacedBody round pacer input).state.due k = pacer.due (k + 1) :=
  Pacer.due_next input.1 k

theorem first_pacedBody (input : Nat × ι) : (pacedBody round pacer input).state.first = false :=
  Pacer.first_next input.1

theorem laps_cons_next {input : Nat × ι} {rest : List (Nat × ι)}
    (h : (round input.2).flow = .next) :
    laps round pacer (input :: rest) =
      ((pacer.next input.1).now, (pacedBody round pacer input).state.now) ::
        laps round (pacedBody round pacer input).state rest := by
  rw [laps, h]

theorem laps_cons_stop {input : Nat × ι} {rest : List (Nat × ι)}
    (h : (round input.2).flow ≠ .next) :
    laps round pacer (input :: rest) =
      [((pacer.next input.1).now, (pacedBody round pacer input).state.now)] := by
  rw [laps]
  cases hflow : (round input.2).flow with
  | next => exact absurd hflow h
  | leave | fail e => rfl

/-- There is an iteration behind another only if the loop went on. -/
theorem next_of_laps {input : Nat × ι} {rest : List (Nat × ι)}
    (h : (laps round pacer (input :: rest))[k + 1]? = some lap) :
    (round input.2).flow = .next ∧
      (laps round (pacedBody round pacer input).state rest)[k]? = some lap := by
  by_cases hflow : (round input.2).flow = .next
  · rw [laps_cons_next hflow] at h
    exact ⟨hflow, h⟩
  · rw [laps_cons_stop hflow] at h
    cases h

theorem laps_zero (h : (laps round pacer inputs)[0]? = some lap) :
    ∃ input, inputs[0]? = some input ∧ lap.1 = (pacer.next input.1).now := by
  cases inputs with
  | nil => cases h
  | cons input rest =>
      refine ⟨input, rfl, ?_⟩
      rw [laps] at h
      cases h
      rfl

/-- **Each iteration begins when the one before it has ended and its tick has come.** -/
theorem laps_succ (h : (laps round pacer inputs)[k]? = some lap)
    (h' : (laps round pacer inputs)[k + 1]? = some lap') :
    ∃ input, inputs[k + 1]? = some input ∧
      lap'.1 = max lap.2 (pacer.due (k + 1)) + input.1 := by
  induction k generalizing pacer inputs with
  | zero =>
      cases inputs with
      | nil => cases h
      | cons input rest =>
          obtain ⟨hflow, h'⟩ := next_of_laps h'
          rw [laps_cons_next hflow] at h
          cases h
          obtain ⟨input', hat, hbegin⟩ := laps_zero h'
          refine ⟨input', hat, ?_⟩
          rw [hbegin, Pacer.next_of_not_first (first_pacedBody input), due_pacedBody]
  | succ k ih =>
      cases inputs with
      | nil => cases h
      | cons input rest =>
          obtain ⟨_, h⟩ := next_of_laps h
          obtain ⟨_, h'⟩ := next_of_laps h'
          obtain ⟨input', hat, hbegin⟩ := ih h h'
          refine ⟨input', hat, ?_⟩
          rw [hbegin, due_pacedBody]

/-- An iteration behind the first begins after its tick. -/
theorem due_le_begin (h : (laps round pacer inputs)[k]? = some lap) (hk : k ≠ 0) :
    pacer.due k ≤ lap.1 := by
  obtain ⟨k, rfl⟩ := Nat.exists_eq_succ_of_ne_zero hk
  have hlt : k < (laps round pacer inputs).length :=
    Nat.lt_of_succ_lt (List.getElem?_eq_some_iff.mp h).1
  obtain ⟨input, _, hbegin⟩ := laps_succ (List.getElem?_eq_getElem hlt) h
  show pacer.due (k + 1) ≤ lap.1
  omega

/-- What holds at the first `n` places at most holds at `n` of them at most. -/
theorem countP_le_of_lt {α : Type} {p : α → Bool} {l : List α} {n : Nat}
    (h : ∀ (i : Nat) (a : α), l[i]? = some a → p a = true → i < n) : l.countP p ≤ n := by
  have hdrop : (l.drop n).countP p = 0 := by
    refine List.countP_eq_zero.mpr fun a ha hp => ?_
    obtain ⟨i, hi⟩ := List.getElem?_of_mem ha
    rw [List.getElem?_drop] at hi
    have := h _ a hi hp
    omega
  calc l.countP p = (l.take n).countP p + (l.drop n).countP p := by
        rw [← List.countP_append, List.take_append_drop]
    _ ≤ (l.take n).length := by
        rw [hdrop, Nat.add_zero]
        exact List.countP_le_length
    _ ≤ n := List.length_take_le ..

/-- **So few iterations have begun by any time**: one for each period, and two. -/
theorem countP_laps_le {period now : Nat} (hperiod : 0 < period) (inputs : List (Nat × ι))
    (time : Nat) :
    (laps round (.new period now) inputs).countP (fun lap => decide (lap.1 ≤ time)) ≤
      (time - now) / period + 2 := by
  refine countP_le_of_lt fun k lap h hp => ?_
  have htime : lap.1 ≤ time := of_decide_eq_true hp
  rcases Nat.eq_zero_or_pos k with rfl | hk
  · exact Nat.succ_pos _
  · have hdue := due_le_begin h (by omega)
    rw [due_new] at hdue
    have hdiv : k - 1 ≤ (time - now) / period :=
      (Nat.le_div_iff_mul_le hperiod).mpr (by omega)
    omega

/-- **An effect that an iteration has once at most** happens as seldom. -/
theorem countP_effects_le {p : ω → Bool}
    (honce : ∀ i : ι, (round i).effects.countP (fun e => p e.2) ≤ 1) (inputs : List (Nat × ι))
    (pacer : Pacer) (time : Nat) :
    (runLoop (pacedBody round) pacer inputs).effects.countP
        (fun e => p e.2 && decide (e.1 ≤ time)) ≤
      (laps round pacer inputs).countP fun lap => decide (lap.1 ≤ time) := by
  induction inputs generalizing pacer with
  | nil => exact Nat.le_refl 0
  | cons input rest ih =>
      have hone : (pacedBody round pacer input).effects.countP
            (fun e => p e.2 && decide (e.1 ≤ time)) ≤
          if (pacer.next input.1).now ≤ time then 1 else 0 := by
        show ((round input.2).effects.map _).countP _ ≤ _
        rw [List.countP_map]
        split
        · refine Nat.le_trans (List.countP_mono_left fun e _ he => ?_) (honce input.2)
          exact (Bool.and_eq_true_iff.mp he).1
        · rename_i hlate
          refine Nat.le_of_eq (List.countP_eq_zero.mpr fun e _ he => hlate ?_)
          have htime : (pacer.next input.1).now + e.1 ≤ time :=
            of_decide_eq_true (Bool.and_eq_true_iff.mp he).2
          omega
      by_cases hflow : (round input.2).flow = .next
      · have hnext : (pacedBody round pacer input).flow = .next := hflow
        rw [runLoop_cons_next hnext, laps_cons_next hflow, List.countP_cons, List.countP_append]
        have hrest := ih (pacedBody round pacer input).state
        simp only [decide_eq_true_eq]
        omega
      · have hstop : (pacedBody round pacer input).flow ≠ .next := hflow
        rw [runLoop_cons_stop hstop, laps_cons_stop hflow, List.countP_cons, List.countP_nil]
        simp only [decide_eq_true_eq]
        omega

/-- What each iteration has as often as something else, the loop has as often. -/
theorem countP_effects_mono {p q : ω → Bool}
    (hround : ∀ i : ι, (round i).effects.countP (fun e => p e.2) ≤
      (round i).effects.countP fun e => q e.2) (inputs : List (Nat × ι)) (pacer : Pacer) :
    (runLoop (pacedBody round) pacer inputs).effects.countP (fun e => p e.2) ≤
      (runLoop (pacedBody round) pacer inputs).effects.countP fun e => q e.2 := by
  have hone : ∀ (pacer : Pacer) (input : Nat × ι),
      (pacedBody round pacer input).effects.countP (fun e => p e.2) ≤
        (pacedBody round pacer input).effects.countP fun e => q e.2 := by
    intro pacer input
    show ((round input.2).effects.map _).countP _ ≤ ((round input.2).effects.map _).countP _
    rw [List.countP_map, List.countP_map]
    exact hround input.2
  induction inputs generalizing pacer with
  | nil => exact Nat.le_refl 0
  | cons input rest ih =>
      by_cases hflow : (pacedBody round pacer input).flow = .next
      · rw [runLoop_cons_next hflow, List.countP_append, List.countP_append]
        exact Nat.add_le_add (hone pacer input) (ih _)
      · rw [runLoop_cons_stop hflow]
        exact hone pacer input

/-- An effect that tells of an iteration that it is the last tells it of the loop. -/
theorem effect_iff_flow {p : ω → Prop} {flow : Flow ε} (hstop : flow ≠ .next)
    (hround : ∀ i : ι, (∃ e ∈ (round i).effects, p e.2) ↔ (round i).flow = flow)
    (inputs : List (Nat × ι)) (pacer : Pacer) :
    (∃ e ∈ (runLoop (pacedBody round) pacer inputs).effects, p e.2) ↔
      (runLoop (pacedBody round) pacer inputs).flow = flow := by
  have hone : ∀ (pacer : Pacer) (input : Nat × ι),
      (∃ e ∈ (pacedBody round pacer input).effects, p e.2) ↔
        (pacedBody round pacer input).flow = flow := by
    intro pacer input
    rw [show (pacedBody round pacer input).flow = (round input.2).flow from rfl, ← hround]
    constructor
    · rintro ⟨_, hmem, he⟩
      obtain ⟨e, hmem', rfl⟩ := List.mem_map.mp hmem
      exact ⟨e, hmem', he⟩
    · rintro ⟨e, hmem, he⟩
      exact ⟨_, List.mem_map_of_mem hmem, he⟩
  induction inputs generalizing pacer with
  | nil => exact ⟨fun ⟨_, h, _⟩ => absurd h List.not_mem_nil, fun h => absurd h.symm hstop⟩
  | cons input rest ih =>
      by_cases hflow : (pacedBody round pacer input).flow = .next
      · rw [runLoop_cons_next hflow]
        refine Iff.trans ?_ (ih _)
        constructor
        · rintro ⟨e, hmem, he⟩
          rcases List.mem_append.mp hmem with hmem | hmem
          · exact absurd (((hone pacer input).mp ⟨e, hmem, he⟩).symm.trans hflow) hstop
          · exact ⟨e, hmem, he⟩
        · rintro ⟨e, hmem, he⟩
          exact ⟨e, List.mem_append_right _ hmem, he⟩
      · rw [runLoop_cons_stop hflow]
        exact hone pacer input

end Laps

end Lib
