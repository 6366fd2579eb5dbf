/-
  File:      MavlinkServer/Lib/Tiling.lean
  Subject:   PIECES LAID END TO END. Pieces of two kinds, each with a start and
             a size, that fill a range of positions without a hole and without
             an overlap. Nothing here names a program.

  * `Within i t` -- position `i` lies in piece `t`;
  * `Tiles a ts b` -- the pieces `ts` fill `[a, b)` from left to right, none of
    them empty: they stand in order (`Tiles.pairwise`), their sizes add up to
    `b - a` (`Tiles.sum`), and every position of the range lies in exactly one
    of them (`Tiles.countP`);
  * `lefts`, `rights` -- the pieces of one kind. `Tiles.countP_rights`: a
    position of the range that no piece of the first kind holds lies in exactly
    one of the second.
-/
import Mathlib.Algebra.BigOperators.Group.List.Basic
import Mathlib.Algebra.GroupWithZero.Nat
import Mathlib.Data.List.Pairwise

namespace Lib

variable {α β τ : Type}

/-! ## 1. A range filled by pieces -/

/-- Position `i` lies in the piece. -/
def Within (start size : τ → Nat) (i : Nat) (t : τ) : Prop := start t ≤ i ∧ i < start t + size t

instance (start size : τ → Nat) (i : Nat) (t : τ) : Decidable (Within start size i t) :=
  inferInstanceAs (Decidable (_ ∧ _))

/-- **The pieces fill `[a, b)`**: each starts where the one before it ends, and none is empty. -/
def Tiles (start size : τ → Nat) : Nat → List τ → Nat → Prop
  | a, [], b => a = b
  | a, t :: ts, b => start t = a ∧ 0 < size t ∧ Tiles start size (a + size t) ts b

namespace Tiles

variable {start size : τ → Nat} {a b : Nat} {ts : List τ} {t : τ}

/-- One more piece, laid where the others end. -/
theorem concat (h : Tiles start size a ts b) (hstart : start t = b) (hsize : 0 < size t) :
    Tiles start size a (ts ++ [t]) (b + size t) := by
  induction ts generalizing a with
  | nil =>
      cases h
      exact ⟨hstart, hsize, rfl⟩
  | cons u us ih => exact ⟨h.1, h.2.1, ih h.2.2⟩

/-- The sizes add up to the length of the range. -/
theorem sum (h : Tiles start size a ts b) : a + (ts.map size).sum = b := by
  induction ts generalizing a with
  | nil => exact h
  | cons u us ih =>
      have := ih h.2.2
      rw [List.map_cons, List.sum_cons]
      omega

/-- Every piece is non-empty and stands inside the range. -/
theorem mem (h : Tiles start size a ts b) (ht : t ∈ ts) :
    0 < size t ∧ a ≤ start t ∧ start t + size t ≤ b := by
  induction ts generalizing a with
  | nil => exact absurd ht List.not_mem_nil
  | cons u us ih =>
      obtain ⟨hstart, hsize, hrest⟩ := h
      rcases List.mem_cons.mp ht with rfl | ht
      · have := hrest.sum
        exact ⟨hsize, by omega, by omega⟩
      · obtain ⟨hpos, hle, hend⟩ := ih hrest ht
        exact ⟨hpos, by omega, hend⟩

/-- The pieces stand in order: each ends at or before the start of every later one. -/
theorem pairwise (h : Tiles start size a ts b) :
    ts.Pairwise fun t t' => start t + size t ≤ start t' := by
  induction ts generalizing a with
  | nil => exact .nil
  | cons u us ih =>
      obtain ⟨hstart, _, hrest⟩ := h
      refine List.pairwise_cons.mpr ⟨fun t ht => ?_, ih hrest⟩
      rw [hstart]
      exact (hrest.mem ht).2.1

/-- **Every position of the range lies in exactly one piece**, and no other position in any. -/
theorem countP (h : Tiles start size a ts b) (i : Nat) :
    ts.countP (fun t => Within start size i t) = if a ≤ i ∧ i < b then 1 else 0 := by
  induction ts generalizing a with
  | nil =>
      cases h
      rw [List.countP_nil, if_neg (by omega)]
  | cons u us ih =>
      obtain ⟨hstart, hsize, hrest⟩ := h
      have hend := hrest.sum
      rw [List.countP_cons, ih hrest]
      -- `i` lies in the first piece, or where the others are
      by_cases hi : Within start size i u
      · have hin : start u ≤ i ∧ i < start u + size u := hi
        rw [decide_eq_true hi, if_neg (by omega), if_pos rfl, if_pos (by omega)]
      · have hout : ¬ (start u ≤ i ∧ i < start u + size u) := hi
        rw [decide_eq_false hi, if_neg Bool.false_ne_true, Nat.add_zero]
        congr 1
        rw [eq_iff_iff]
        omega

end Tiles

/-! ## 2. Pieces of two kinds -/

def lefts (ts : List (α ⊕ β)) : List α := ts.filterMap Sum.getLeft?

def rights (ts : List (α ⊕ β)) : List β := ts.filterMap Sum.getRight?

section

variable {ts : List (α ⊕ β)} {x : α} {y : β}

@[simp] theorem lefts_inl : lefts (ts ++ [Sum.inl x]) = lefts ts ++ [x] := List.filterMap_append

@[simp] theorem lefts_inr : lefts (ts ++ [Sum.inr y]) = lefts ts :=
  List.filterMap_append.trans (List.append_nil _)

@[simp] theorem rights_inl : rights (ts ++ [Sum.inl x]) = rights ts :=
  List.filterMap_append.trans (List.append_nil _)

@[simp] theorem rights_inr : rights (ts ++ [Sum.inr y]) = rights ts ++ [y] := List.filterMap_append

theorem mem_lefts : x ∈ lefts ts ↔ Sum.inl x ∈ ts := by
  simp [lefts, List.mem_filterMap, Sum.getLeft?_eq_some_iff]

theorem mem_rights : y ∈ rights ts ↔ Sum.inr y ∈ ts := by
  simp [rights, List.mem_filterMap, Sum.getRight?_eq_some_iff]

/-- A sum over the pieces is one over each kind. -/
theorem sum_lefts_rights (f : α ⊕ β → Nat) (ts : List (α ⊕ β)) :
    (ts.map f).sum =
      ((lefts ts).map fun x => f (.inl x)).sum + ((rights ts).map fun y => f (.inr y)).sum := by
  induction ts with
  | nil => rfl
  | cons t ts ih =>
      rw [List.map_cons, List.sum_cons, ih]
      cases t with
      | inl x => exact (Nat.add_assoc _ _ _).symm
      | inr y => exact Nat.add_left_comm _ _ _

/-- The pieces with a property, counted over each kind. -/
theorem countP_lefts_rights (p : α ⊕ β → Bool) (ts : List (α ⊕ β)) :
    ts.countP p = (lefts ts).countP (fun x => p (.inl x)) +
      (rights ts).countP fun y => p (.inr y) := by
  induction ts with
  | nil => rfl
  | cons t ts ih =>
      cases t with
      | inl x =>
          show _ = (x :: lefts ts).countP _ + _
          rw [List.countP_cons, List.countP_cons, ih]
          exact Nat.add_right_comm _ _ _
      | inr y =>
          show _ = _ + (y :: rights ts).countP _
          rw [List.countP_cons, List.countP_cons, ih]
          exact Nat.add_assoc _ _ _

end

namespace Tiles

variable {start size : α ⊕ β → Nat} {a b : Nat} {ts : List (α ⊕ β)}

/-- The pieces of the first kind stand in order. -/
theorem pairwise_lefts (h : Tiles start size a ts b) :
    (lefts ts).Pairwise fun x x' => start (.inl x) + size (.inl x) ≤ start (.inl x') := by
  refine h.pairwise.filterMap Sum.getLeft? fun t t' htt x hx x' hx' => ?_
  rw [Sum.getLeft?_eq_some_iff] at hx hx'
  subst hx hx'
  exact htt

/-- **What no piece of the first kind holds** lies in exactly one of the second. -/
theorem countP_rights (h : Tiles start size a ts b) {i : Nat} (hi : a ≤ i ∧ i < b)
    (hout : ∀ x ∈ lefts ts, ¬ Within start size i (.inl x)) :
    (rights ts).countP (fun y => Within start size i (.inr y)) = 1 := by
  have hall := h.countP i
  have hnone : (lefts ts).countP (fun x => Within start size i (.inl x)) = 0 :=
    List.countP_eq_zero.mpr fun x hx => by simpa using hout x hx
  rw [countP_lefts_rights, hnone, Nat.zero_add, if_pos hi] at hall
  exact hall

end Tiles

end Lib
