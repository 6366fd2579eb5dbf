/-
  File:      MavlinkServer/Drivers/Callbacks.lean
  Subject:   THE CALLBACKS OF A DRIVER (`src/lib/callbacks.rs`): functions from
             messages to futures, under ids that one counter of the process
             gives out.

  * `addCallback`, `removeCallback`, `callAll` -- the methods, on the map of one
    value and the counter;
  * `CallbacksWorld` -- all values and the counter. An `add_callback` takes its
    id before it waits for the lock of the map, so that calls interleave
    between the two (`addCallback_steps` puts them together);
  * `standing` -- the purpose, read off what happened: the callbacks that were
    added and not removed since, in the order they were added;
  * `Issued` -- the invariant: no id was given out twice, by whichever value,
    and every map holds what stands;
  * `callAll_standing` -- `call_all` is that list, as long as there were fewer
    than 2^64 adds in the process.
-/
import MavlinkServer.Lib.IndexMap
import MavlinkServer.Lib.Run
import Mathlib.Logic.Function.Basic

namespace MavlinkServer.Drivers

open Lib

/-! ## 1. One value -/

/-- `Callbacks<T>`. A callback is what it makes of a message. -/
abbrev Callbacks (T Fut : Type) : Type := IndexMap UInt64 (T → Fut)

namespace Callbacks

variable {T Fut : Type}

/-- `add_callback`, on the value of COUNTER: the id, the counter and the map. -/
def addCallback (counter : UInt64) (callbacks : Callbacks T Fut) (callback : T → Fut) :
    UInt64 × UInt64 × Callbacks T Fut :=
  let callbackId := counter
  (callbackId, counter + 1, (callbacks.insert callbackId callback).2)

def removeCallback (callbacks : Callbacks T Fut) (id : UInt64) : Callbacks T Fut :=
  (callbacks.shiftRemove id).2

def callAll (callbacks : Callbacks T Fut) (msg : T) : List Fut :=
  callbacks.entries.map fun e => e.2 msg

end Callbacks

/-! ## 2. All values of a process -/

section World

variable {ι : Type} (T : ι → Type) (Fut : Type)

/-- What happened to the maps. -/
inductive CallbacksEvent where
  | added (value : ι) (id : UInt64) (callback : T value → Fut)
  | removed (value : ι) (id : UInt64)

/-- An `add_callback` that has its id and waits for the lock. -/
structure PendingAdd where
  value : ι
  id : UInt64
  callback : T value → Fut

structure CallbacksWorld where
  /-- COUNTER -/
  counter : UInt64
  /-- how often `add_callback` was called -/
  adds : Nat
  pending : List (PendingAdd T Fut)
  callbacks : (value : ι) → Callbacks (T value) Fut
  trace : List (CallbacksEvent T Fut)

inductive CallbacksAction where
  /-- `COUNTER.fetch_add(1)` of an `add_callback` -/
  | fetchAdd (value : ι) (callback : T value → Fut)
  /-- one of the waiting calls gets the lock and inserts -/
  | insert (call : Nat)
  | remove (value : ι) (id : UInt64)

end World

section Steps

variable {ι : Type} [DecidableEq ι] {T : ι → Type} {Fut : Type}

namespace CallbacksWorld

def start : CallbacksWorld T Fut where
  counter := 0
  adds := 0
  pending := []
  callbacks := fun _ => IndexMap.empty
  trace := []

def step (s : CallbacksWorld T Fut) : CallbacksAction T Fut → Option (CallbacksWorld T Fut)
  | .fetchAdd value callback =>
      some { s with
        counter := s.counter + 1
        adds := s.adds + 1
        pending := s.pending ++ [⟨value, s.counter, callback⟩] }
  | .insert call =>
      s.pending[call]?.map fun add =>
        { s with
          pending := s.pending.eraseIdx call
          callbacks := Function.update s.callbacks add.value
            ((s.callbacks add.value).insert add.id add.callback).2
          trace := s.trace ++ [.added add.value add.id add.callback] }
  | .remove value id =>
      some { s with
        callbacks := Function.update s.callbacks value ((s.callbacks value).removeCallback id)
        trace := s.trace ++ [.removed value id] }

/-- A whole `add_callback` with no other call between its two halves. -/
theorem addCallback_steps (s : CallbacksWorld T Fut) (value : ι) (callback : T value → Fut) :
    (s.step (.fetchAdd value callback)).bind (fun s' => s'.step (.insert s.pending.length)) =
      let (id, counter, callbacks) := (s.callbacks value).addCallback s.counter callback
      some { s with
        counter
        adds := s.adds + 1
        callbacks := Function.update s.callbacks value callbacks
        trace := s.trace ++ [.added value id callback] } := by
  have hlast (add : PendingAdd T Fut) : (s.pending ++ [add])[s.pending.length]? = some add := by
    rw [List.getElem?_append_right (Nat.le_refl _), Nat.sub_self]
    rfl
  have hrest (add : PendingAdd T Fut) :
      (s.pending ++ [add]).eraseIdx s.pending.length = s.pending := by
    rw [List.eraseIdx_append_of_length_le (Nat.le_refl _), Nat.sub_self]
    exact List.append_nil _
  simp only [step, Option.bind_some, hlast, Option.map_some, hrest]
  rfl

end CallbacksWorld

/-! ## 3. What stands -/

namespace CallbacksEvent

/-- The entry that an event adds to a value. -/
def added? (value : ι) : CallbacksEvent T Fut → Option (UInt64 × (T value → Fut))
  | .added value' id callback => if h : value' = value then some (id, h ▸ callback) else none
  | .removed _ _ => none

def removes (value : ι) (id : UInt64) : CallbacksEvent T Fut → Bool
  | .removed value' id' => value' = value ∧ id' = id
  | .added _ _ _ => false

/-- The id that an event gives out. -/
def id? : CallbacksEvent T Fut → Option UInt64
  | .added _ id _ => some id
  | .removed _ _ => none

@[simp] theorem added?_self {value : ι} {id : UInt64} {callback : T value → Fut} :
    added? value (.added value id callback) = some (id, callback) := dif_pos rfl

theorem added?_of_ne {value other : ι} (h : other ≠ value) {id : UInt64}
    {callback : T other → Fut} : added? value (.added other id callback) = none := dif_neg h

theorem added?_eq_some {value : ι} {event : CallbacksEvent T Fut}
    {entry : UInt64 × (T value → Fut)} :
    event.added? value = some entry ↔ event = .added value entry.1 entry.2 := by
  constructor
  · intro h
    cases event with
    | removed value' id => cases h
    | added value' id callback =>
        by_cases hvalue : value' = value
        · subst hvalue
          rw [added?_self] at h
          cases h
          rfl
        · rw [added?_of_ne hvalue] at h
          cases h
  · rintro rfl
    exact added?_self

end CallbacksEvent

/-- **The callbacks of a value that stand**: those that were added and not removed since, in the
    order they were added, each with its id. -/
def standing (value : ι) : List (CallbacksEvent T Fut) → List (UInt64 × (T value → Fut))
  | [] => []
  | event :: later =>
      match event.added? value with
      | some entry =>
          if later.any fun e => e.removes value entry.1 then standing value later
          else entry :: standing value later
      | none => standing value later

/-- **One more event**: it takes away what it removes, and adds what it adds at the end. -/
theorem standing_append (value : ι) (trace : List (CallbacksEvent T Fut))
    (event : CallbacksEvent T Fut) :
    standing value (trace ++ [event]) =
      ((standing value trace).filter fun entry => !event.removes value entry.1) ++
        (event.added? value).toList := by
  induction trace with
  | nil =>
      show standing value [event] = (event.added? value).toList
      unfold standing
      cases event.added? value with
      | none => rfl
      | some entry => rfl
  | cons first rest ih =>
      rw [List.cons_append]
      unfold standing
      cases first.added? value with
      | none => exact ih
      | some entry =>
          dsimp only
          rw [List.any_append, ih]
          by_cases hrest : rest.any fun e => e.removes value entry.1
          · rw [hrest, Bool.true_or, if_pos rfl, if_pos rfl]
          · rw [Bool.not_eq_true] at hrest
            rw [hrest, Bool.false_or, List.any_cons, List.any_nil, Bool.or_false,
              if_neg Bool.false_ne_true]
            cases hremoves : event.removes value entry.1 with
            | true => rw [if_pos rfl, List.filter_cons_of_neg (by simp [hremoves])]
            | false =>
                rw [if_neg Bool.false_ne_true, List.filter_cons_of_pos (by simp [hremoves])]
                rfl

theorem standing_added (value : ι) (trace : List (CallbacksEvent T Fut)) (id : UInt64)
    (callback : T value → Fut) :
    standing value (trace ++ [.added value id callback]) =
      standing value trace ++ [(id, callback)] := by
  rw [standing_append]
  simp [CallbacksEvent.removes, CallbacksEvent.added?]

theorem standing_added_of_ne {value other : ι} (h : other ≠ value)
    (trace : List (CallbacksEvent T Fut)) (id : UInt64) (callback : T other → Fut) :
    standing value (trace ++ [.added other id callback]) = standing value trace := by
  rw [standing_append]
  simp [CallbacksEvent.removes, CallbacksEvent.added?, h]

theorem standing_removed (value : ι) (trace : List (CallbacksEvent T Fut)) (id : UInt64) :
    standing value (trace ++ [.removed value id]) =
      (standing value trace).filter fun entry => entry.1 ≠ id := by
  rw [standing_append]
  simp only [CallbacksEvent.removes, CallbacksEvent.added?, Option.toList_none, List.append_nil,
    true_and]
  refine List.filter_congr fun entry _ => ?_
  by_cases h : entry.1 = id
  · simp [h]
  · simp [h, Ne.symm h]

theorem standing_removed_of_ne {value other : ι} (h : other ≠ value)
    (trace : List (CallbacksEvent T Fut)) (id : UInt64) :
    standing value (trace ++ [.removed other id]) = standing value trace := by
  rw [standing_append]
  simp [CallbacksEvent.removes, CallbacksEvent.added?, h]

/-- What stands was added. -/
theorem added_of_mem_standing {value : ι} {entry : UInt64 × (T value → Fut)}
    {trace : List (CallbacksEvent T Fut)} (h : entry ∈ standing value trace) :
    .added value entry.1 entry.2 ∈ trace := by
  induction trace with
  | nil => exact absurd h List.not_mem_nil
  | cons event later ih =>
      unfold standing at h
      cases hadded : event.added? value with
      | none =>
          rw [hadded] at h
          exact List.mem_cons_of_mem _ (ih h)
      | some first =>
          rw [hadded] at h
          dsimp only at h
          split at h
          · exact List.mem_cons_of_mem _ (ih h)
          · rcases List.mem_cons.mp h with rfl | hin
            · rw [CallbacksEvent.added?_eq_some.mp hadded]
              exact List.mem_cons_self
            · exact List.mem_cons_of_mem _ (ih hin)

theorem id_of_mem_standing {value : ι} {entry : UInt64 × (T value → Fut)}
    {trace : List (CallbacksEvent T Fut)} (h : entry ∈ standing value trace) :
    entry.1 ∈ trace.filterMap CallbacksEvent.id? :=
  List.mem_filterMap.mpr ⟨_, added_of_mem_standing h, rfl⟩

/-- **Once removed, always removed**: as its id is not given out again, a callback does not stand
    behind its removal. -/
theorem not_standing_of_removed {value : ι} {id : UInt64} {callback : T value → Fut}
    {before after : List (CallbacksEvent T Fut)}
    (honce : ((before ++ .removed value id :: after).filterMap CallbacksEvent.id?).Nodup)
    (hadded : .added value id callback ∈ before) :
    id ∉ (standing value (before ++ .removed value id :: after)).map (·.1) := by
  induction before with
  | nil => exact absurd hadded List.not_mem_nil
  | cons event rest ih =>
      rw [List.cons_append]
      rw [List.cons_append] at honce
      unfold standing
      rcases List.mem_cons.mp hadded with rfl | hin
      · -- its removal is behind it, and no later add has its id
        have hremoved : ((rest ++ .removed value id :: after).any fun e => e.removes value id) =
            true := by
          simp [CallbacksEvent.removes]
        rw [CallbacksEvent.added?_self]
        dsimp only
        rw [hremoved, if_pos rfl]
        intro hstands
        obtain ⟨entry, hentry, hid⟩ := List.mem_map.mp hstands
        have hagain := id_of_mem_standing hentry
        rw [hid] at hagain
        exact (List.nodup_cons.mp honce).1 hagain
      · have hrest := ih (honce.sublist ((List.sublist_cons_self event _).filterMap _)) hin
        cases hevent : event.added? value with
        | none => exact hrest
        | some entry =>
            have hid : id ∈ (rest ++ .removed value id :: after).filterMap CallbacksEvent.id? :=
              List.mem_filterMap.mpr ⟨_, List.mem_append_left _ hin, rfl⟩
            have hne : id ≠ entry.1 := by
              intro heq
              rw [CallbacksEvent.added?_eq_some.mp hevent] at honce
              have hfirst := (List.nodup_cons.mp honce).1
              rw [← heq] at hfirst
              exact hfirst hid
            dsimp only
            split
            · exact hrest
            · rw [List.map_cons, List.mem_cons, not_or]
              exact ⟨hne, hrest⟩

/-! ## 4. The maps hold what stands -/

namespace CallbacksWorld

/-- The ids that were given out: to calls that wait, and with what was added. -/
def issued (s : CallbacksWorld T Fut) : List UInt64 :=
  s.pending.map (·.id) ++ s.trace.filterMap CallbacksEvent.id?

/-- **The invariant**: every id once, and every map holds what stands. -/
structure Issued (s : CallbacksWorld T Fut) : Prop where
  counter : s.counter.toNat = s.adds
  below : ∀ id ∈ s.issued, id.toNat < s.adds
  nodup : s.issued.Nodup
  entries : ∀ value, (s.callbacks value).entries = standing value s.trace

theorem issued_start : Issued (start : CallbacksWorld T Fut) where
  counter := rfl
  below := fun _ h => absurd h List.not_mem_nil
  nodup := List.nodup_nil
  entries := fun _ => rfl

variable {s : CallbacksWorld T Fut}

/-- An `add_callback` that takes its id. -/
theorem issued_fetchAdd (h : s.Issued) {value : ι} {callback : T value → Fut}
    (hadds : s.adds + 1 < 2 ^ 64) :
    Issued { s with
      counter := s.counter + 1
      adds := s.adds + 1
      pending := s.pending ++ [⟨value, s.counter, callback⟩] } := by
  have hperm : (issued { s with
      counter := s.counter + 1
      adds := s.adds + 1
      pending := s.pending ++ [⟨value, s.counter, callback⟩] }).Perm (s.counter :: s.issued) := by
    unfold issued
    rw [List.map_append, List.append_assoc]
    exact List.perm_middle
  have hfresh : s.counter ∉ s.issued := by
    intro hin
    have hlt := h.below _ hin
    rw [h.counter] at hlt
    exact Nat.lt_irrefl _ hlt
  refine ⟨?_, fun id hid => ?_, ?_, h.entries⟩
  · show (s.counter + 1).toNat = s.adds + 1
    rw [UInt64.toNat_add, h.counter]
    exact Nat.mod_eq_of_lt hadds
  · show id.toNat < s.adds + 1
    rcases List.mem_cons.mp (hperm.mem_iff.mp hid) with rfl | hid
    · rw [h.counter]
      exact Nat.lt_succ_self _
    · exact Nat.lt_succ_of_lt (h.below id hid)
  · exact hperm.nodup_iff.mpr (List.nodup_cons.mpr ⟨hfresh, h.nodup⟩)

/-- A waiting `add_callback` that inserts: its id is under no entry yet. -/
theorem issued_insert (h : s.Issued) {call : Nat} {add : PendingAdd T Fut}
    (hadd : s.pending[call]? = some add) :
    Issued { s with
      pending := s.pending.eraseIdx call
      callbacks := Function.update s.callbacks add.value
        ((s.callbacks add.value).insert add.id add.callback).2
      trace := s.trace ++ [.added add.value add.id add.callback] } := by
  obtain ⟨hlt, hget⟩ := List.getElem?_eq_some_iff.mp hadd
  have hperm : (issued { s with
      pending := s.pending.eraseIdx call
      callbacks := Function.update s.callbacks add.value
        ((s.callbacks add.value).insert add.id add.callback).2
      trace := s.trace ++ [.added add.value add.id add.callback] }).Perm s.issued := by
    have hpending := (List.getElem_cons_eraseIdx_perm hlt).map (·.id)
    rw [hget] at hpending
    unfold issued
    show ((s.pending.eraseIdx call).map (·.id) ++
      (s.trace ++ [CallbacksEvent.added add.value add.id add.callback]).filterMap
        CallbacksEvent.id?).Perm _
    rw [List.filterMap_append, ← List.append_assoc]
    exact (List.perm_append_singleton add.id _).trans (hpending.append_right _)
  have hfresh : (s.callbacks add.value).get? add.id = none := by
    rw [IndexMap.get?_eq_none, h.entries]
    intro hin
    obtain ⟨entry, hentry, hid⟩ := List.mem_map.mp hin
    have hissued := id_of_mem_standing hentry
    rw [hid] at hissued
    have hwaits : add.id ∈ s.pending.map (·.id) :=
      List.mem_map.mpr ⟨add, List.mem_of_getElem? hadd, rfl⟩
    exact (List.nodup_append.mp h.nodup).2.2 _ hwaits _ hissued rfl
  refine ⟨h.counter, fun id hid => h.below id (hperm.mem_iff.mp hid), hperm.nodup_iff.mpr h.nodup,
    fun value => ?_⟩
  show (Function.update s.callbacks add.value _ value).entries = _
  by_cases hvalue : value = add.value
  · subst hvalue
    rw [Function.update_self, IndexMap.entries_insert_none hfresh, h.entries, standing_added]
  · rw [Function.update_of_ne hvalue, h.entries, standing_added_of_ne (Ne.symm hvalue)]

/-- A `remove_callback`. -/
theorem issued_remove (h : s.Issued) (value : ι) (id : UInt64) :
    Issued { s with
      callbacks := Function.update s.callbacks value ((s.callbacks value).removeCallback id)
      trace := s.trace ++ [.removed value id] } := by
  have hsame : issued { s with
      callbacks := Function.update s.callbacks value ((s.callbacks value).removeCallback id)
      trace := s.trace ++ [.removed value id] } = s.issued := by
    unfold issued
    rw [List.filterMap_append]
    exact congrArg _ (List.append_nil _)
  refine ⟨h.counter, hsame ▸ h.below, hsame ▸ h.nodup, fun value' => ?_⟩
  show (Function.update s.callbacks value _ value').entries = _
  by_cases hvalue : value' = value
  · subst hvalue
    rw [Function.update_self, standing_removed, ← h.entries]
    exact IndexMap.entries_shiftRemove _ _
  · rw [Function.update_of_ne hvalue, h.entries, standing_removed_of_ne (Ne.symm hvalue)]

/-- The invariant holds as long as there are fewer than 2^64 adds. -/
theorem issued_of_reach (h : Reach step Free start s) (hadds : s.adds < 2 ^ 64) : s.Issued := by
  refine h.inv (I := fun s => s.adds < 2 ^ 64 → s.Issued) (fun _ => issued_start) ?_ hadds
  intro s s' a ih _ hstep hadds
  cases a with
  | fetchAdd value callback =>
      cases hstep
      exact issued_fetchAdd (ih (Nat.lt_of_succ_lt hadds)) hadds
  | insert call =>
      obtain ⟨add, hadd, rfl⟩ := Option.map_eq_some_iff.mp hstep
      exact issued_insert (ih hadds) hadd
  | remove value id =>
      cases hstep
      exact issued_remove (ih hadds) value id

/-- What stands is what `call_all` calls, each callback once. -/
theorem Issued.callAll_eq (h : s.Issued) (value : ι) (msg : T value) :
    (s.callbacks value).callAll msg = (standing value s.trace).map fun entry => entry.2 msg := by
  unfold Callbacks.callAll
  rw [h.entries]

/-- A removal takes what stands under the id, and nothing else. -/
theorem Issued.removeCallback_entries (h : s.Issued) (value : ι) (id : UInt64) :
    ((s.callbacks value).removeCallback id).entries =
      (standing value s.trace).filter fun entry => entry.1 ≠ id := by
  rw [← h.entries]
  exact IndexMap.entries_shiftRemove _ _

/-- An id under which nothing stands. -/
theorem Issued.removeCallback_of_not_standing (h : s.Issued) {value : ι} {id : UInt64}
    (hid : id ∉ (standing value s.trace).map (·.1)) :
    (s.callbacks value).removeCallback id = s.callbacks value := by
  refine IndexMap.ext ?_
  rw [h.removeCallback_entries, h.entries]
  refine List.filter_eq_self.mpr fun entry hentry => decide_eq_true fun heq => ?_
  exact hid (List.mem_map.mpr ⟨entry, hentry, heq⟩)

theorem Issued.ids_nodup (h : s.Issued) : (s.trace.filterMap CallbacksEvent.id?).Nodup :=
  (List.nodup_append.mp h.nodup).2.1

/-- **`call_all` is the list of what stands**, for every value and every message. No id is given out
    twice, by whichever value. A removal takes the callback of its id and no other; one of an id
    that the value never gave out, or that was removed before, changes nothing. -/
theorem callAll_standing (h : Reach step Free start s) (hadds : s.adds < 2 ^ 64) (value : ι) :
    (∀ msg, (s.callbacks value).callAll msg =
        (standing value s.trace).map fun entry => entry.2 msg) ∧
      (s.trace.filterMap CallbacksEvent.id?).Nodup ∧
      (∀ id, ((s.callbacks value).removeCallback id).entries =
        (standing value s.trace).filter fun entry => entry.1 ≠ id) ∧
      (∀ id, (∀ callback, .added value id callback ∉ s.trace) →
        (s.callbacks value).removeCallback id = s.callbacks value) ∧
      ∀ id callback before after, s.trace = before ++ .removed value id :: after →
        .added value id callback ∈ before →
        (s.callbacks value).removeCallback id = s.callbacks value := by
  have hissued := issued_of_reach h hadds
  refine ⟨hissued.callAll_eq value, hissued.ids_nodup, hissued.removeCallback_entries value, ?_, ?_⟩
  · intro id hunknown
    refine hissued.removeCallback_of_not_standing fun hid => ?_
    obtain ⟨entry, hentry, rfl⟩ := List.mem_map.mp hid
    exact hunknown _ (added_of_mem_standing hentry)
  · intro id callback before after htrace hadded
    have honce := hissued.ids_nodup
    refine hissued.removeCallback_of_not_standing ?_
    rw [htrace] at honce ⊢
    exact not_standing_of_removed honce hadded

end CallbacksWorld

end Steps

section Examples

/-- A callback of a text, by its number. -/
def numbered (n : Nat) (msg : String) : Nat × String := (n, msg)

def addNumbered (value : Bool) (n : Nat) :
    List (CallbacksAction (fun _ : Bool => String) (Nat × String)) :=
  [.fetchAdd value (numbered n), .insert 0]

/-- The test of the repository, with a second value that takes an id in between, and removals of an
    id that is gone and of one that is the other's. -/
def callbacksTest : List (CallbacksAction (fun _ : Bool => String) (Nat × String)) :=
  addNumbered true 1 ++ addNumbered true 2 ++ addNumbered true 3 ++ [.remove true 1] ++
    addNumbered false 9 ++ addNumbered true 4 ++ [.remove true 2, .remove true 2, .remove true 3]

def callbacksTested : CallbacksWorld (fun _ : Bool => String) (Nat × String) :=
  (execC CallbacksWorld.step Free .start callbacksTest).getD .start

theorem reach_callbacksTested : Reach CallbacksWorld.step Free .start callbacksTested := by
  have hruns : (execC CallbacksWorld.step Free
      (.start : CallbacksWorld (fun _ : Bool => String) (Nat × String))
      callbacksTest).isSome = true := by
    decide +kernel
  obtain ⟨s, hs⟩ := Option.isSome_iff_exists.mp hruns
  unfold callbacksTested
  rw [hs]
  exact reach_of_execC hs

theorem callAll_standing_test :
    (callbacksTested.callbacks true).callAll "test" = [(1, "test"), (4, "test")] ∧
      (callbacksTested.callbacks true).removeCallback 1 = callbacksTested.callbacks true := by
  obtain ⟨hcalls, _, _, _, htwice⟩ := CallbacksWorld.callAll_standing reach_callbacksTested
    (by decide +kernel) true
  refine ⟨?_, ?_⟩
  · rw [hcalls]
    decide +kernel
  · exact htwice 1 (numbered 2)
      [.added true 0 (numbered 1), .added true 1 (numbered 2), .added true 2 (numbered 3)]
      [.added false 3 (numbered 9), .added true 4 (numbered 4), .removed true 2, .removed true 2,
        .removed true 3] rfl (List.mem_cons_of_mem _ List.mem_cons_self)

end Examples

end MavlinkServer.Drivers
