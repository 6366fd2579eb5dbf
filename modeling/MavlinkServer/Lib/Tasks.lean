/-
  File:      MavlinkServer/Lib/Tasks.lean
  Subject:   TASKS OF AN ASYNCHRONOUS RUNTIME. Nothing here names a program.

  * `Runtime` -- the tasks spawned so far, each with what it does (`label`)
    and the tasks whose state owns its handle (`owners`, empty for a detached
    task): a task stops when it is aborted or ends, and with it the tasks it
    owns, whose handles are dropped and abort them;
  * `live` -- spawned, not stopped, and no owner stopped;
  * `spawn`, `stop`, `stopOwned`, and what each does to `live`.
-/
import Mathlib.Tactic.Common

namespace Lib

structure Task (α : Type) where
  label : α
  owners : List Nat
  done : Bool
  deriving DecidableEq, Repr

structure Runtime (α : Type) where
  tasks : List (Task α)
  deriving DecidableEq, Repr

namespace Runtime

variable {α : Type} {r : Runtime α} {id id' : Nat}

def empty : Runtime α := ⟨[]⟩

/-- The task has stopped (or was never spawned). -/
def isDone (r : Runtime α) (id : Nat) : Bool :=
  match r.tasks[id]? with
  | some task => task.done
  | none => true

def live (r : Runtime α) (id : Nat) : Bool :=
  match r.tasks[id]? with
  | some task => !task.done && task.owners.all fun o => !r.isDone o
  | none => false

def label? (r : Runtime α) (id : Nat) : Option α := (r.tasks[id]?).map (·.label)

def owners (r : Runtime α) (id : Nat) : List Nat :=
  match r.tasks[id]? with
  | some task => task.owners
  | none => []

/-- A new task, and its handle. -/
def spawn (r : Runtime α) (label : α) (owners : List Nat) : Nat × Runtime α :=
  (r.tasks.length, ⟨r.tasks ++ [⟨label, owners, false⟩]⟩)

/-- The task is aborted, or ends. -/
def stop (r : Runtime α) (id : Nat) : Runtime α :=
  ⟨r.tasks.modify id fun task => { task with done := true }⟩

/-- Everything a task owns is dropped while the task goes on. -/
def stopOwned (r : Runtime α) (id : Nat) : Runtime α :=
  ⟨r.tasks.map fun task => if id ∈ task.owners then { task with done := true } else task⟩

/-- What live means. -/
theorem live_iff : r.live id = true ↔ r.isDone id = false ∧ ∀ o ∈ r.owners id, r.isDone o = false := by
  unfold live isDone owners
  cases h : r.tasks[id]? with
  | none => simp
  | some task =>
      simp only [Bool.and_eq_true, Bool.not_eq_true', List.all_eq_true]

theorem isDone_of_le (h : r.tasks.length ≤ id) : r.isDone id = true := by
  unfold isDone
  rw [List.getElem?_eq_none h]

theorem lt_of_not_done (h : r.isDone id = false) : id < r.tasks.length := by
  by_contra hge
  rw [isDone_of_le (Nat.le_of_not_lt hge)] at h
  cases h

/-! ## 1. Spawning -/

section Spawn

variable {a : α} {os : List Nat}

theorem tasks_spawn_old (h : id < r.tasks.length) :
    (r.spawn a os).2.tasks[id]? = r.tasks[id]? := List.getElem?_append_left h

theorem tasks_spawn_new : (r.spawn a os).2.tasks[r.tasks.length]? = some ⟨a, os, false⟩ := by
  show (r.tasks ++ [⟨a, os, false⟩])[r.tasks.length]? = _
  rw [List.getElem?_append_right (Nat.le_refl _), Nat.sub_self]
  rfl

theorem isDone_spawn_old (h : id < r.tasks.length) :
    (r.spawn a os).2.isDone id = r.isDone id := by
  unfold isDone
  rw [tasks_spawn_old h]

theorem label?_spawn_old (h : id < r.tasks.length) :
    (r.spawn a os).2.label? id = r.label? id := by
  unfold label?
  rw [tasks_spawn_old h]

theorem label?_spawn_new : (r.spawn a os).2.label? r.tasks.length = some a := by
  unfold label?
  rw [tasks_spawn_new]
  rfl

theorem owners_spawn_old (h : id < r.tasks.length) :
    (r.spawn a os).2.owners id = r.owners id := by
  unfold owners
  rw [tasks_spawn_old h]

theorem owners_spawn_new : (r.spawn a os).2.owners r.tasks.length = os := by
  unfold owners
  rw [tasks_spawn_new]

theorem lt_spawn (h : id < (r.spawn a os).2.tasks.length) :
    id < r.tasks.length ∨ id = r.tasks.length := by
  have hl : (r.spawn a os).2.tasks.length = r.tasks.length + 1 := List.length_append
  omega

/-- A new task whose owners all run is live. -/
theorem live_spawn_new (hos : ∀ o ∈ os, r.isDone o = false) :
    (r.spawn a os).2.live r.tasks.length = true := by
  rw [live_iff, owners_spawn_new]
  constructor
  · unfold isDone
    rw [tasks_spawn_new]
  · intro o ho
    rw [isDone_spawn_old (lt_of_not_done (hos o ho))]
    exact hos o ho

/-- A task that was there is live as before. -/
theorem live_spawn_old (h : id < r.tasks.length) (hos : ∀ o ∈ r.owners id, o < r.tasks.length) :
    (r.spawn a os).2.live id = r.live id := by
  rw [Bool.eq_iff_iff, live_iff, live_iff, isDone_spawn_old h, owners_spawn_old h]
  refine and_congr_right fun _ => forall₂_congr fun o ho => ?_
  rw [isDone_spawn_old (hos o ho)]

end Spawn

/-! ## 2. Stopping -/

theorem tasks_stop (r : Runtime α) (id id' : Nat) :
    (r.stop id).tasks[id']? = (r.tasks[id']?).map fun task =>
      if id = id' then { task with done := true } else task := by
  show (r.tasks.modify id _)[id']? = _
  rw [List.getElem?_modify]
  split <;> cases r.tasks[id']? <;> rfl

theorem isDone_stop (r : Runtime α) (id id' : Nat) :
    (r.stop id).isDone id' = (r.isDone id' || decide (id = id')) := by
  unfold isDone
  rw [tasks_stop]
  cases r.tasks[id']? with
  | none => rfl
  | some task => by_cases h : id = id' <;> simp [h]

theorem label?_stop (r : Runtime α) (id id' : Nat) : (r.stop id).label? id' = r.label? id' := by
  unfold label?
  rw [tasks_stop]
  cases r.tasks[id']? with
  | none => rfl
  | some task => by_cases h : id = id' <;> simp [h]

theorem owners_stop (r : Runtime α) (id id' : Nat) : (r.stop id).owners id' = r.owners id' := by
  unfold owners
  rw [tasks_stop]
  cases r.tasks[id']? with
  | none => rfl
  | some task => by_cases h : id = id' <;> simp [h]

theorem tasks_stopOwned (r : Runtime α) (id id' : Nat) :
    (r.stopOwned id).tasks[id']? = (r.tasks[id']?).map fun task =>
      if id ∈ task.owners then { task with done := true } else task := List.getElem?_map

theorem isDone_stopOwned (r : Runtime α) (id id' : Nat) :
    (r.stopOwned id).isDone id' = (r.isDone id' || decide (id ∈ r.owners id')) := by
  unfold isDone owners
  rw [tasks_stopOwned]
  cases r.tasks[id']? with
  | none => rfl
  | some task => by_cases h : id ∈ task.owners <;> simp [h]

theorem label?_stopOwned (r : Runtime α) (id id' : Nat) :
    (r.stopOwned id).label? id' = r.label? id' := by
  unfold label?
  rw [tasks_stopOwned]
  cases r.tasks[id']? with
  | none => rfl
  | some task => by_cases h : id ∈ task.owners <;> simp [h]

theorem owners_stopOwned (r : Runtime α) (id id' : Nat) :
    (r.stopOwned id).owners id' = r.owners id' := by
  unfold owners
  rw [tasks_stopOwned]
  cases r.tasks[id']? with
  | none => rfl
  | some task => by_cases h : id ∈ task.owners <;> simp [h]

end Runtime

end Lib
