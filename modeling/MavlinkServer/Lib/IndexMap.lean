/-
  File:      MavlinkServer/Lib/IndexMap.lean
  Subject:   AN INSERTION-ORDERED MAP: entries in order, every key once.
             Nothing here names a program.

  * `IndexMap κ ν` -- the entries with the proof that no key is there twice;
  * `get?`, `insert` (the value under the key is replaced in place, or a new
    entry is appended), `swapRemove` (the last entry takes the removed place),
    `entry` (the value under the key is made from the one that is there);
  * what `get?` finds after each of them;
  * `extend`, `collect` -- an `entry` for every entry of another map, and a map
    of what is made of another's values;
  * `sum`, over the values in any commutative monoid, and `sum_entry`: a value
    that grows by `d` lets the sum grow by `d`;
  * `shiftRemove` (the entries behind the removed one move up) and what is left
    after it, in its order.
-/
import Mathlib.Algebra.BigOperators.Group.List.Basic
import Mathlib.Data.List.Perm.Basic
import Mathlib.Data.List.Nodup

namespace Lib

variable {α : Type}

/-! ## 1. Removing an element by swapping in the last -/

/-- `l` with element `i` taken out and the last element in its place. -/
def swapRemoveAt (l : List α) (i : Nat) : List α :=
  match l.getLast? with
  | none => []
  | some last => (l.set i last).dropLast

/-- The elements that are left are those but the `i`-th, in some order. -/
theorem swapRemoveAt_perm {l : List α} {i : Nat} (h : i < l.length) :
    (swapRemoveAt l i).Perm (l.eraseIdx i) := by
  obtain ⟨front, last, rfl⟩ : ∃ front last, l = front ++ [last] := by
    have hne : l ≠ [] := by
      intro e
      rw [e] at h
      cases h
    exact ⟨l.dropLast, l.getLast hne, (List.dropLast_append_getLast hne).symm⟩
  have hswap : swapRemoveAt (front ++ [last]) i = ((front ++ [last]).set i last).dropLast := by
    unfold swapRemoveAt
    rw [List.getLast?_concat]
  rw [hswap]
  by_cases hi : i < front.length
  · rw [List.set_append_left _ _ hi, List.dropLast_concat, List.eraseIdx_append_of_lt_length hi]
    exact (List.set_perm_cons_eraseIdx hi last).trans (List.perm_append_singleton last _).symm
  · have hlast : i = front.length := by
      rw [List.length_append, List.length_singleton] at h
      omega
    subst hlast
    rw [List.set_append_right _ _ (Nat.le_refl _), Nat.sub_self, List.set_cons_zero,
      List.dropLast_concat, List.eraseIdx_append_of_length_le (Nat.le_refl _), Nat.sub_self,
      List.eraseIdx_cons_zero, List.append_nil]

/-! ## 2. The map -/

variable {κ ν : Type}

structure IndexMap (κ ν : Type) where
  entries : List (κ × ν)
  /-- no key is there twice -/
  nodup : (entries.map (·.1)).Nodup

namespace IndexMap

variable {m : IndexMap κ ν}

@[ext] theorem ext {m m' : IndexMap κ ν} (h : m.entries = m'.entries) : m = m' := by
  cases m
  cases m'
  cases h
  rfl

instance [DecidableEq κ] [DecidableEq ν] : DecidableEq (IndexMap κ ν) := fun m m' =>
  decidable_of_iff (m.entries = m'.entries) ⟨ext, fun h => by rw [h]⟩

def empty : IndexMap κ ν := ⟨[], List.nodup_nil⟩

variable [DecidableEq κ]

def get? (m : IndexMap κ ν) (k : κ) : Option ν := (m.entries.find? fun e => e.1 = k).map (·.2)

/-- A key has one value, so what is found under it is what is stored with it. -/
theorem get?_eq_some {k : κ} {v : ν} : m.get? k = some v ↔ (k, v) ∈ m.entries := by
  unfold get?
  constructor
  · intro h
    obtain ⟨e, he, rfl⟩ := Option.map_eq_some_iff.mp h
    have hk : e.1 = k := by simpa using List.find?_some he
    rw [← hk]
    exact List.mem_of_find?_eq_some he
  · intro h
    cases hf : m.entries.find? fun e => e.1 = k with
    | none =>
        have hne := List.find?_eq_none.mp hf _ h
        exact absurd (decide_eq_true rfl) hne
    | some e =>
        have hk : e.1 = k := by simpa using List.find?_some hf
        have hsame : e = (k, v) :=
          List.inj_on_of_nodup_map m.nodup (List.mem_of_find?_eq_some hf) h hk
        rw [hsame]
        rfl

theorem get?_eq_none {k : κ} : m.get? k = none ↔ k ∉ m.entries.map (·.1) := by
  unfold get?
  rw [Option.map_eq_none_iff, List.find?_eq_none]
  constructor
  · intro h hk
    obtain ⟨e, he, rfl⟩ := List.mem_map.mp hk
    exact absurd (h e he) (by simp)
  · intro h e he hk
    exact h (List.mem_map.mpr ⟨e, he, of_decide_eq_true hk⟩)

/-- The keys do not change when values do. -/
theorem map_fst_map (l : List (κ × ν)) (k : κ) (v : ν) :
    (l.map fun e => if e.1 = k then (k, v) else e).map (·.1) = l.map (·.1) := by
  rw [List.map_map]
  refine List.map_congr_left fun e _ => ?_
  show (if e.1 = k then (k, v) else e).1 = e.1
  split
  · rename_i hk
    exact hk.symm
  · rfl

/-- `IndexMap::insert`: the old value, if there was one, and the map. -/
def insert (m : IndexMap κ ν) (k : κ) (v : ν) : Option ν × IndexMap κ ν :=
  match h : m.get? k with
  | some old => (some old, ⟨m.entries.map fun e => if e.1 = k then (k, v) else e, by
      rw [map_fst_map]
      exact m.nodup⟩)
  | none => (none, ⟨m.entries ++ [(k, v)], by
      rw [List.map_append, List.nodup_append]
      refine ⟨m.nodup, List.nodup_singleton _, ?_⟩
      intro a ha b hb hab
      rw [List.map_singleton, List.mem_singleton] at hb
      rw [hab, hb] at ha
      exact get?_eq_none.mp h ha⟩)

theorem insert_fst (m : IndexMap κ ν) (k : κ) (v : ν) : (m.insert k v).1 = m.get? k := by
  unfold insert
  split
  · rename_i old h
    exact h.symm
  · rename_i h
    exact h.symm

theorem entries_insert_some {k : κ} {v old : ν} (h : m.get? k = some old) :
    (m.insert k v).2.entries = m.entries.map fun e => if e.1 = k then (k, v) else e := by
  unfold insert
  split
  · rfl
  · rename_i hno
    rw [hno] at h
    cases h

theorem entries_insert_none {k : κ} {v : ν} (h : m.get? k = none) :
    (m.insert k v).2.entries = m.entries ++ [(k, v)] := by
  unfold insert
  split
  · rename_i old hold
    rw [hold] at h
    cases h
  · rfl

/-- The entries after an insertion: the new one, and the old ones of other keys. -/
theorem mem_insert {k k' : κ} {v v' : ν} :
    (k', v') ∈ (m.insert k v).2.entries ↔ k' = k ∧ v' = v ∨ k' ≠ k ∧ (k', v') ∈ m.entries := by
  cases h : m.get? k with
  | some old =>
      rw [entries_insert_some h]
      constructor
      · intro hm
        obtain ⟨e, he, heq⟩ := List.mem_map.mp hm
        split at heq
        · cases heq
          exact Or.inl ⟨rfl, rfl⟩
        · rename_i hne
          subst heq
          exact Or.inr ⟨hne, he⟩
      · intro hm
        rcases hm with ⟨rfl, rfl⟩ | ⟨hne, hm⟩
        · exact List.mem_map.mpr ⟨_, get?_eq_some.mp h, if_pos rfl⟩
        · exact List.mem_map.mpr ⟨_, hm, if_neg hne⟩
  | none =>
      rw [entries_insert_none h, List.mem_append, List.mem_singleton, Prod.mk.injEq]
      constructor
      · intro hm
        rcases hm with hm | hm
        · refine Or.inr ⟨?_, hm⟩
          intro e
          rw [e] at hm
          exact get?_eq_none.mp h (List.mem_map.mpr ⟨_, hm, rfl⟩)
        · exact Or.inl hm
      · intro hm
        rcases hm with hm | ⟨_, hm⟩
        · exact Or.inr hm
        · exact Or.inl hm

theorem get?_insert_self {k : κ} {v : ν} : (m.insert k v).2.get? k = some v :=
  get?_eq_some.mpr (mem_insert.mpr (Or.inl ⟨rfl, rfl⟩))

theorem get?_insert_of_ne {k k' : κ} {v : ν} (h : k' ≠ k) :
    (m.insert k v).2.get? k' = m.get? k' := by
  refine Option.ext fun v' => ?_
  rw [get?_eq_some, get?_eq_some, mem_insert]
  constructor
  · intro hm
    rcases hm with ⟨e, _⟩ | ⟨_, hm⟩
    · exact absurd e h
    · exact hm
  · exact fun hm => Or.inr ⟨h, hm⟩

/-- `IndexMap::swap_remove`: the removed value, if there was one, and the map. -/
def swapRemove (m : IndexMap κ ν) (k : κ) : Option ν × IndexMap κ ν :=
  match h : m.entries.findIdx? fun e => e.1 = k with
  | some i =>
      have hi : i < m.entries.length := (List.findIdx?_eq_some_iff_getElem.mp h).1
      (some m.entries[i].2, ⟨swapRemoveAt m.entries i, by
        rw [((swapRemoveAt_perm hi).map _).nodup_iff]
        exact m.nodup.sublist ((List.eraseIdx_sublist _ _).map _)⟩)
  | none => (none, m)

theorem swapRemove_fst (m : IndexMap κ ν) (k : κ) : (m.swapRemove k).1 = m.get? k := by
  unfold swapRemove
  split
  · rename_i i h
    obtain ⟨hi, hk, _⟩ := List.findIdx?_eq_some_iff_getElem.mp h
    have hkey : m.entries[i].1 = k := of_decide_eq_true hk
    have hmem : (k, m.entries[i].2) ∈ m.entries := by
      have hin := List.getElem_mem hi
      rw [← hkey]
      exact hin
    exact (get?_eq_some.mpr hmem).symm
  · rename_i h
    refine (get?_eq_none.mpr fun hk => ?_).symm
    obtain ⟨e, he, rfl⟩ := List.mem_map.mp hk
    exact absurd (decide_eq_true rfl) (Bool.eq_false_iff.mp (List.findIdx?_eq_none_iff.mp h e he))

theorem swapRemove_of_none {k : κ} (h : m.get? k = none) : (m.swapRemove k).2 = m := by
  have hfst := swapRemove_fst m k
  rw [h] at hfst
  revert hfst
  unfold swapRemove
  split
  · intro hfst
    cases hfst
  · intro _
    rfl

/-- The entries after a removal: those of other keys. -/
theorem mem_swapRemove {k k' : κ} {v' : ν} :
    (k', v') ∈ (m.swapRemove k).2.entries ↔ k' ≠ k ∧ (k', v') ∈ m.entries := by
  unfold swapRemove
  split
  · rename_i i h
    obtain ⟨hi, hk, _⟩ := List.findIdx?_eq_some_iff_getElem.mp h
    have hkey : m.entries[i].1 = k := of_decide_eq_true hk
    have hall := List.getElem_cons_eraseIdx_perm hi
    have honce : m.entries[i].1 ∉ (m.entries.eraseIdx i).map (·.1) := by
      have hnodup := ((hall.map (·.1)).nodup_iff).mpr m.nodup
      exact (List.nodup_cons.mp hnodup).1
    show (k', v') ∈ swapRemoveAt m.entries i ↔ _
    rw [(swapRemoveAt_perm hi).mem_iff]
    constructor
    · intro hm
      refine ⟨fun e => honce ?_, hall.mem_iff.mp (List.mem_cons_of_mem _ hm)⟩
      rw [hkey, ← e]
      exact List.mem_map.mpr ⟨_, hm, rfl⟩
    · intro hm
      rcases List.mem_cons.mp (hall.mem_iff.mpr hm.2) with e | hm'
      · exact absurd (by rw [← e] at hkey; exact hkey) hm.1
      · exact hm'
  · rename_i h
    constructor
    · intro hm
      refine ⟨fun e => ?_, hm⟩
      have hne := List.findIdx?_eq_none_iff.mp h _ hm
      exact absurd (decide_eq_true e) (Bool.eq_false_iff.mp hne)
    · exact fun hm => hm.2

theorem get?_swapRemove_self {k : κ} : (m.swapRemove k).2.get? k = none := by
  rw [get?_eq_none]
  intro hk
  obtain ⟨e, he, hek⟩ := List.mem_map.mp hk
  exact (mem_swapRemove.mp he).1 hek

theorem get?_swapRemove_of_ne {k k' : κ} (h : k' ≠ k) :
    (m.swapRemove k).2.get? k' = m.get? k' := by
  refine Option.ext fun v' => ?_
  rw [get?_eq_some, get?_eq_some, mem_swapRemove]
  exact ⟨fun hm => hm.2, fun hm => ⟨h, hm⟩⟩

/-! ## 3. Values made from the ones that are there -/

/-- `IndexMap::entry` with what is done to the value: `f none` is put under a new key. -/
def entry (m : IndexMap κ ν) (k : κ) (f : Option ν → ν) : IndexMap κ ν :=
  (m.insert k (f (m.get? k))).2

theorem get?_entry_self {k : κ} {f : Option ν → ν} :
    (m.entry k f).get? k = some (f (m.get? k)) := get?_insert_self

theorem get?_entry_of_ne {k k' : κ} {f : Option ν → ν} (h : k' ≠ k) :
    (m.entry k f).get? k' = m.get? k' := get?_insert_of_ne h

/-- `IndexMap::get_mut` with what is done to the value. -/
def modify (m : IndexMap κ ν) (k : κ) (f : ν → ν) : IndexMap κ ν :=
  match m.get? k with
  | some v => (m.insert k (f v)).2
  | none => m

theorem get?_modify (m : IndexMap κ ν) (k k' : κ) (f : ν → ν) :
    (m.modify k f).get? k' = if k' = k then (m.get? k').map f else m.get? k' := by
  unfold modify
  by_cases h : k' = k
  · subst h
    rw [if_pos rfl]
    cases hv : m.get? k' with
    | none => exact hv
    | some v => exact get?_insert_self
  · rw [if_neg h]
    cases m.get? k with
    | none => rfl
    | some v => exact get?_insert_of_ne h

/-- An `entry` for every entry of another map, in its order. -/
def extend {ν' : Type} (m : IndexMap κ ν) (n : IndexMap κ ν') (f : ν' → Option ν → ν) :
    IndexMap κ ν :=
  n.entries.foldl (fun m e => m.entry e.1 (f e.2)) m

theorem get?_foldl_entry {ν' : Type} (f : ν' → Option ν → ν) {k : κ} :
    ∀ (l : List (κ × ν')) (m : IndexMap κ ν), (l.map (·.1)).Nodup →
      (∀ v, (k, v) ∈ l → (l.foldl (fun m e => m.entry e.1 (f e.2)) m).get? k =
        some (f v (m.get? k))) ∧
      (k ∉ l.map (·.1) → (l.foldl (fun m e => m.entry e.1 (f e.2)) m).get? k = m.get? k)
  | [], m, _ => ⟨fun v h => absurd h List.not_mem_nil, fun _ => rfl⟩
  | (k', v') :: l, m, hnodup => by
      rw [List.map_cons, List.nodup_cons] at hnodup
      obtain ⟨hin, hout⟩ := get?_foldl_entry f l (m.entry k' (f v')) hnodup.2
      rw [List.foldl_cons]
      refine ⟨fun v h => ?_, fun h => ?_⟩
      · rcases List.mem_cons.mp h with e | h
        · cases e
          rw [hout hnodup.1, get?_entry_self]
        · have hne : k ≠ k' := by
            intro e
            rw [e] at h
            exact hnodup.1 (List.mem_map.mpr ⟨_, h, rfl⟩)
          rw [hin v h, get?_entry_of_ne hne]
      · rw [List.map_cons, List.mem_cons, not_or] at h
        rw [hout h.2, get?_entry_of_ne h.1]

/-- **What is under a key of an extended map.** -/
theorem get?_extend {ν' : Type} (m : IndexMap κ ν) (n : IndexMap κ ν') (f : ν' → Option ν → ν)
    (k : κ) : (m.extend n f).get? k =
      match n.get? k with
      | some v => some (f v (m.get? k))
      | none => m.get? k := by
  obtain ⟨hin, hout⟩ := get?_foldl_entry f (k := k) n.entries m n.nodup
  cases hv : n.get? k with
  | some v => exact hin v (get?_eq_some.mp hv)
  | none => exact hout (get?_eq_none.mp hv)

/-- A new map of what is made of the values, without those of which nothing is made. -/
def collect {ν' : Type} (m : IndexMap κ ν) (f : ν → Option ν') : IndexMap κ ν' :=
  m.entries.foldl (fun new e => match f e.2 with
    | some v => (new.insert e.1 v).2
    | none => new) empty

/-- As no key comes twice, every insertion appends. -/
theorem entries_foldl_insert {ν' : Type} (f : ν → Option ν') :
    ∀ (l : List (κ × ν)) (new : IndexMap κ ν'), (l.map (·.1)).Nodup →
      (∀ e ∈ l, new.get? e.1 = none) →
      (l.foldl (fun new e => match f e.2 with
        | some v => (new.insert e.1 v).2
        | none => new) new).entries =
      new.entries ++ l.filterMap fun e => (f e.2).map (e.1, ·)
  | [], new, _, _ => (List.append_nil _).symm
  | (k, v) :: l, new, hnodup, hfresh => by
      rw [List.map_cons, List.nodup_cons] at hnodup
      rw [List.foldl_cons, List.filterMap_cons]
      cases hv : f v with
      | none => exact entries_foldl_insert f l new hnodup.2 fun e he =>
          hfresh e (List.mem_cons_of_mem _ he)
      | some v' =>
          have hrest : ∀ e ∈ l, (new.insert k v').2.get? e.1 = none := by
            intro e he
            have hne : e.1 ≠ k := fun h => hnodup.1 (List.mem_map.mpr ⟨e, he, h⟩)
            rw [get?_insert_of_ne hne]
            exact hfresh e (List.mem_cons_of_mem _ he)
          have hk : new.get? k = none := hfresh (k, v) List.mem_cons_self
          refine (entries_foldl_insert f l _ hnodup.2 hrest).trans ?_
          rw [entries_insert_none hk, List.append_assoc]
          rfl

theorem entries_collect {ν' : Type} (m : IndexMap κ ν) (f : ν → Option ν') :
    (m.collect f).entries = m.entries.filterMap fun e => (f e.2).map (e.1, ·) :=
  entries_foldl_insert f m.entries empty m.nodup fun _ _ => rfl

/-- **What is under a key of a collected map.** -/
theorem get?_collect {ν' : Type} (m : IndexMap κ ν) (f : ν → Option ν') (k : κ) :
    (m.collect f).get? k = (m.get? k).bind f := by
  refine Option.ext fun v' => ?_
  rw [get?_eq_some, entries_collect, List.mem_filterMap, Option.bind_eq_some_iff]
  constructor
  · rintro ⟨⟨k', v⟩, hmem, hv⟩
    obtain ⟨w, hw, he⟩ := Option.map_eq_some_iff.mp hv
    cases he
    exact ⟨v, get?_eq_some.mpr hmem, hw⟩
  · rintro ⟨v, hv, hv'⟩
    refine ⟨(k, v), get?_eq_some.mp hv, ?_⟩
    show (f v).map (k, ·) = _
    rw [hv']
    rfl

/-- The keys of two maps that find something under the same keys. -/
theorem keys_perm {ν' : Type} {m : IndexMap κ ν} {n : IndexMap κ ν'}
    (h : ∀ k, m.get? k = none ↔ n.get? k = none) :
    (m.entries.map (·.1)).Perm (n.entries.map (·.1)) := by
  refine (List.perm_ext_iff_of_nodup m.nodup n.nodup).mpr fun k => ?_
  have hk := h k
  rw [get?_eq_none, get?_eq_none] at hk
  exact not_iff_not.mp hk

/-- The entries around a key that is there. -/
theorem entries_of_get? {k : κ} {old : ν} (h : m.get? k = some old) :
    ∃ front back, m.entries = front ++ (k, old) :: back ∧
      (∀ e ∈ front, e.1 ≠ k) ∧ ∀ e ∈ back, e.1 ≠ k := by
  obtain ⟨front, back, hsplit⟩ := List.append_of_mem (get?_eq_some.mp h)
  have hnodup := m.nodup
  rw [hsplit, List.map_append, List.map_cons, List.nodup_append, List.nodup_cons] at hnodup
  obtain ⟨_, ⟨hback, _⟩, hfront⟩ := hnodup
  refine ⟨front, back, hsplit, fun e he hk => ?_, fun e he hk => ?_⟩
  · exact hfront e.1 (List.mem_map.mpr ⟨e, he, rfl⟩) k List.mem_cons_self hk
  · exact hback (List.mem_map.mpr ⟨e, he, hk⟩)

theorem map_of_ne {l : List (κ × ν)} {k : κ} {v : ν} (h : ∀ e ∈ l, e.1 ≠ k) :
    (l.map fun e => if e.1 = k then (k, v) else e) = l := by
  have hsame : ∀ e ∈ l, (if e.1 = k then (k, v) else e) = e := fun e he => if_neg (h e he)
  exact (List.map_congr_left hsame).trans (List.map_id' l)

/-- What is stored after an insertion: in place of the old value, or at the end. -/
theorem entries_insert (m : IndexMap κ ν) (k : κ) (v : ν) :
    (∃ old front back, m.get? k = some old ∧ m.entries = front ++ (k, old) :: back ∧
        (m.insert k v).2.entries = front ++ (k, v) :: back) ∨
      m.get? k = none ∧ (m.insert k v).2.entries = m.entries ++ [(k, v)] := by
  cases h : m.get? k with
  | some old =>
      obtain ⟨front, back, hsplit, hf, hb⟩ := entries_of_get? h
      refine Or.inl ⟨old, front, back, rfl, hsplit, ?_⟩
      rw [entries_insert_some h, hsplit, List.map_append, List.map_cons, map_of_ne hf,
        map_of_ne hb, if_pos rfl]
  | none => exact Or.inr ⟨rfl, entries_insert_none h⟩

/-! ## 4. Mapped values -/

section Map

variable {ν' : Type} {f : ν → ν'}

omit [DecidableEq κ] in
theorem map_keys (m : IndexMap κ ν) (f : ν → ν') :
    (m.entries.map fun e => (e.1, f e.2)).map (·.1) = m.entries.map (·.1) := by
  rw [List.map_map]
  rfl

omit [DecidableEq κ] in
def map (m : IndexMap κ ν) (f : ν → ν') : IndexMap κ ν' :=
  ⟨m.entries.map fun e => (e.1, f e.2), by rw [map_keys]; exact m.nodup⟩

theorem get?_map (m : IndexMap κ ν) (f : ν → ν') (k : κ) : (m.map f).get? k = (m.get? k).map f := by
  unfold get? map
  rw [List.find?_map, Option.map_map, Option.map_map]
  rfl

theorem map_insert (m : IndexMap κ ν) (f : ν → ν') (k : κ) (v : ν) :
    (m.insert k v).2.map f = ((m.map f).insert k (f v)).2 := by
  refine ext ?_
  show (m.insert k v).2.entries.map _ = _
  cases hk : m.get? k with
  | some old =>
      have hk' : (m.map f).get? k = some (f old) := by rw [get?_map, hk]; rfl
      rw [entries_insert_some hk, entries_insert_some hk']
      show (m.entries.map _).map _ = (m.entries.map _).map _
      rw [List.map_map, List.map_map]
      refine List.map_congr_left fun e _ => ?_
      by_cases he : e.1 = k
      · simp [he]
      · simp [he]
  | none =>
      have hk' : (m.map f).get? k = none := by rw [get?_map, hk]; rfl
      rw [entries_insert_none hk, entries_insert_none hk', List.map_append]
      rfl

theorem map_swapRemove (m : IndexMap κ ν) (f : ν → ν') (k : κ) :
    (m.swapRemove k).2.map f = ((m.map f).swapRemove k).2 := by
  have hat : ∀ (l : List (κ × ν)) (i : Nat),
      (swapRemoveAt l i).map (fun e => (e.1, f e.2)) =
        swapRemoveAt (l.map fun e => (e.1, f e.2)) i := by
    intro l i
    unfold swapRemoveAt
    rw [List.getLast?_map]
    cases l.getLast? with
    | none => rfl
    | some last => rw [List.map_dropLast, List.map_set]; rfl
  have hfind : (m.map f).entries.findIdx? (fun e => e.1 = k) =
      m.entries.findIdx? fun e => e.1 = k := by
    show (m.entries.map _).findIdx? _ = _
    rw [List.findIdx?_map]
    rfl
  refine ext ?_
  show (m.swapRemove k).2.entries.map _ = _
  unfold swapRemove
  split
  · rename_i i hi
    split
    · rename_i i' hi'
      rw [hfind, hi] at hi'
      cases hi'
      exact hat m.entries i
    · rename_i hno
      rw [hfind, hi] at hno
      cases hno
  · rename_i hno
    split
    · rename_i i' hi'
      rw [hfind, hno] at hi'
      cases hi'
    · rfl

end Map

/-! ## 5. Sums over the values -/

section Sum

variable {M : Type} [AddCommMonoid M] {g : ν → M}

omit [DecidableEq κ] in
def sum (m : IndexMap κ ν) (g : ν → M) : M := (m.entries.map fun e => g e.2).sum

/-- **The sum grows with the value**: by `d`, if the value under the key does, whichever it was. -/
theorem sum_entry {k : κ} {f : Option ν → ν} {d : M} (hnone : g (f none) = d)
    (hsome : ∀ v, g (f (some v)) = g v + d) : (m.entry k f).sum g = m.sum g + d := by
  unfold entry sum
  rcases entries_insert m k (f (m.get? k)) with ⟨old, front, back, hold, hsplit, hins⟩ | ⟨hno, hins⟩
  · rw [hins, hsplit, hold]
    simp only [List.map_append, List.map_cons, List.sum_append, List.sum_cons, hsome]
    ac_rfl
  · rw [hins, hno]
    simp only [List.map_append, List.map_cons, List.map_nil, List.sum_append, List.sum_cons,
      List.sum_nil, add_zero, hnone]

end Sum

/-! ## 6. Removing with the order kept -/

/-- `IndexMap::shift_remove`: the removed value, if there was one, and the map. -/
def shiftRemove (m : IndexMap κ ν) (k : κ) : Option ν × IndexMap κ ν :=
  (m.get? k, ⟨m.entries.eraseP fun e => e.1 = k,
    m.nodup.sublist (List.eraseP_sublist.map _)⟩)

/-- What is left after it: the entries of other keys, in their order. -/
theorem entries_shiftRemove (m : IndexMap κ ν) (k : κ) :
    (m.shiftRemove k).2.entries = m.entries.filter fun e => e.1 ≠ k := by
  show m.entries.eraseP _ = _
  cases h : m.get? k with
  | none =>
      have hne : ∀ e ∈ m.entries, e.1 ≠ k := fun e he hk =>
        get?_eq_none.mp h (List.mem_map.mpr ⟨e, he, hk⟩)
      rw [List.eraseP_of_forall_not fun e he => by simpa using hne e he,
        List.filter_eq_self.mpr fun e he => decide_eq_true (hne e he)]
  | some old =>
      obtain ⟨front, back, hsplit, hf, hb⟩ := entries_of_get? h
      rw [hsplit, List.eraseP_append_right _ fun e he => by simpa using hf e he,
        List.eraseP_cons_of_pos (by simp), List.filter_append,
        List.filter_cons_of_neg (by simp),
        List.filter_eq_self.mpr fun e he => decide_eq_true (hf e he),
        List.filter_eq_self.mpr fun e he => decide_eq_true (hb e he)]

end IndexMap

end Lib
