/-
  File:      MavlinkServer/Lib/Overlay.lean
  Subject:   WRITING PIECES OF A SOURCE INTO A BUFFER. The mathematics of
             assembling a list from slices that arrive in any order. Nothing
             here names a program.

  * `overlay buf off chunk` -- `buf` with `chunk` written from position `off`;
  * `slice src off n` -- the `n` elements of `src` from position `off`;
  * `AgreesOn buf src K` -- `buf` holds the elements of `src` at the positions
    of the set `K`. It grows with every slice written (`AgreesOn.overlay`) and
    is not touched by padding (`AgreesOn.padTo`);
  * `AgreesOn.take_eq` -- agreement on a whole initial segment is equality;
  * `known` -- the positions of `[0, e)` outside a list of holes, and how
    filling the first hole piece by piece moves it (`known_fill`).
-/
import Mathlib.Data.Set.Basic
import Mathlib.Order.Interval.Set.Basic

namespace Lib

variable {α : Type}

/-- `buf` with `chunk` written from position `off` on. -/
def overlay (buf : List α) (off : Nat) (chunk : List α) : List α :=
  buf.take off ++ chunk ++ buf.drop (off + chunk.length)

/-- The `n` elements of `src` from position `off` on. -/
def slice (src : List α) (off n : Nat) : List α := (src.drop off).take n

/-- `buf`, padded with `x` to length `n` when it is shorter. -/
def padTo (buf : List α) (n : Nat) (x : α) : List α := buf ++ List.replicate (n - buf.length) x

/-! ## 1. Lengths and elements -/

theorem length_overlay {buf chunk : List α} {off : Nat} (h : off + chunk.length ≤ buf.length) :
    (overlay buf off chunk).length = buf.length := by
  simp only [overlay, List.length_append, List.length_take, List.length_drop]
  omega

/-- Inside the written range the buffer holds the chunk. -/
theorem getElem?_overlay_inside {buf chunk : List α} {off i : Nat} (hoff : off ≤ buf.length)
    (h1 : off ≤ i) (h2 : i < off + chunk.length) : (overlay buf off chunk)[i]? = chunk[i - off]? := by
  have hl : (buf.take off).length = off := by rw [List.length_take]; omega
  rw [overlay, List.append_assoc, List.getElem?_append_right (by omega), hl,
    List.getElem?_append_left (by omega)]

/-- Outside the written range the buffer is unchanged. -/
theorem getElem?_overlay_outside {buf chunk : List α} {off i : Nat} (hoff : off ≤ buf.length)
    (h : i < off ∨ off + chunk.length ≤ i) : (overlay buf off chunk)[i]? = buf[i]? := by
  have hl : (buf.take off).length = off := by rw [List.length_take]; omega
  rw [overlay, List.append_assoc]
  rcases h with h | h
  · rw [List.getElem?_append_left (by omega), List.getElem?_take_of_lt h]
  · rw [List.getElem?_append_right (by omega), List.getElem?_append_right (by omega),
      List.getElem?_drop, hl]
    congr 1
    omega

theorem getElem?_slice {src : List α} {off n i : Nat} (h : i < n) :
    (slice src off n)[i]? = src[off + i]? := by
  rw [slice, List.getElem?_take_of_lt h, List.getElem?_drop]

theorem length_slice {src : List α} {off n : Nat} (h : off + n ≤ src.length) :
    (slice src off n).length = n := by
  rw [slice, List.length_take, List.length_drop]
  omega

@[simp] theorem length_padTo (buf : List α) (n : Nat) (x : α) :
    (padTo buf n x).length = max buf.length n := by
  simp only [padTo, List.length_append, List.length_replicate]
  omega

/-- The buffer is as long as what is written into it ends. -/
theorem length_overlay_padTo {buf chunk : List α} {off n : Nat} (x : α) (h : chunk.length = n) :
    (overlay (padTo buf (off + n) x) off chunk).length = max buf.length (off + n) := by
  rw [length_overlay (by rw [h, length_padTo]; exact Nat.le_max_right _ _), length_padTo]

theorem getElem?_padTo {buf : List α} {n i : Nat} {x : α} (h : i < buf.length) :
    (padTo buf n x)[i]? = buf[i]? := List.getElem?_append_left h

/-! ## 2. Agreement with the source on a set of positions -/

/-- `buf` holds the elements of `src` at every position of `K`. -/
def AgreesOn (buf src : List α) (K : Set Nat) : Prop :=
  ∀ i ∈ K, i < buf.length ∧ buf[i]? = src[i]?

namespace AgreesOn

variable {buf src chunk : List α} {K K' : Set Nat} {off n : Nat}

theorem mono (h : AgreesOn buf src K) (hK : K' ⊆ K) : AgreesOn buf src K' :=
  fun i hi => h i (hK hi)

/-- Padding keeps every agreement. -/
theorem padTo (h : AgreesOn buf src K) (x : α) : AgreesOn (padTo buf n x) src K := fun i hi => by
  obtain ⟨hlt, he⟩ := h i hi
  exact ⟨by rw [length_padTo]; omega, by rw [getElem?_padTo hlt, he]⟩

/-- **Writing a slice of the source adds its positions** and loses none. -/
theorem overlay (h : AgreesOn buf src K) (hfit : off + chunk.length ≤ buf.length)
    (hc : chunk = slice src off chunk.length) :
    AgreesOn (overlay buf off chunk) src (K ∪ Set.Ico off (off + chunk.length)) := fun i hi => by
  by_cases hin : off ≤ i ∧ i < off + chunk.length
  · refine ⟨by rw [length_overlay hfit]; omega, ?_⟩
    rw [getElem?_overlay_inside (by omega) hin.1 hin.2, hc, getElem?_slice (by omega)]
    congr 1
    omega
  · have hK : i ∈ K := hi.resolve_right hin
    obtain ⟨hlt, he⟩ := h i hK
    exact ⟨by rw [length_overlay hfit]; exact hlt,
      by rw [getElem?_overlay_outside (by omega) (by omega), he]⟩

/-- A slice, written where it stands in the source. -/
theorem overlay_slice (h : AgreesOn buf src K) (hin : off + n ≤ src.length) (x : α) :
    AgreesOn (Lib.overlay (Lib.padTo buf (off + n) x) off (slice src off n)) src
      (K ∪ Set.Ico off (off + n)) := by
  have hchunk : (slice src off n).length = n := length_slice hin
  have hfit : off + (slice src off n).length ≤ (Lib.padTo buf (off + n) x).length := by
    rw [hchunk, length_padTo]
    exact Nat.le_max_right _ _
  have hwritten := (h.padTo (n := off + n) x).overlay hfit (by rw [hchunk])
  rwa [hchunk] at hwritten

/-- **Agreement on `[0, n)` is equality of the first `n` elements.** -/
theorem take_eq (h : AgreesOn buf src (Set.Iio n)) : buf.take n = src.take n := by
  apply List.ext_getElem?
  intro i
  by_cases hi : i < n
  · rw [List.getElem?_take_of_lt hi, List.getElem?_take_of_lt hi, (h i hi).2]
  · rw [List.getElem?_take, List.getElem?_take, if_neg hi, if_neg hi]

end AgreesOn

/-! ## 3. Holes -/

/-- The positions a list of holes `(offset, size)` leaves out. -/
def inHoles (holes : List (Nat × Nat)) : Set Nat :=
  {i | ∃ b ∈ holes, b.1 ≤ i ∧ i < b.1 + b.2}

/-- The positions below `e` that lie in no hole. -/
def known (e : Nat) (holes : List (Nat × Nat)) : Set Nat := {i | i < e ∧ i ∉ inHoles holes}

theorem known_nil (e : Nat) : known e [] = Set.Iio e := by
  ext i
  simp [known, inHoles]

/-- Appending a chunk at or past the frontier `e` leaves the gap in front of it as a hole. -/
theorem known_extend {e off n : Nat} {holes : List (Nat × Nat)} :
    known (off + n) (holes ++ [(e, off - e)]) ⊆ known e holes ∪ Set.Ico off (off + n) := by
  rintro i ⟨hi, hh⟩
  by_cases hoff : off ≤ i
  · exact Or.inr ⟨hoff, hi⟩
  · refine Or.inl ⟨?_, fun ⟨b, hb, hbi⟩ => hh ⟨b, List.mem_append_left _ hb, hbi⟩⟩
    by_contra he
    exact hh ⟨(e, off - e), List.mem_append_right _ (List.mem_singleton_self _), by
      show e ≤ i ∧ i < e + (off - e)
      omega⟩

/-- Appending a chunk exactly at the frontier makes no hole. -/
theorem known_append {e n : Nat} {holes : List (Nat × Nat)} :
    known (e + n) holes ⊆ known e holes ∪ Set.Ico e (e + n) := by
  rintro i ⟨hi, hh⟩
  by_cases he : i < e
  · exact Or.inl ⟨he, hh⟩
  · exact Or.inr ⟨by omega, hi⟩

/-- Filling `k` positions at the front of the first hole shortens it. -/
theorem known_fill {e o n k : Nat} {holes : List (Nat × Nat)} (hk : k ≤ n) :
    known e ((o + k, n - k) :: holes) ⊆ known e ((o, n) :: holes) ∪ Set.Ico o (o + k) := by
  rintro i ⟨hi, hh⟩
  by_cases hin : o ≤ i ∧ i < o + k
  · exact Or.inr hin
  · refine Or.inl ⟨hi, fun ⟨b, hb, hbi⟩ => ?_⟩
    rcases List.mem_cons.mp hb with rfl | hb
    · exact hh ⟨(o + k, n - k), List.mem_cons_self, by
        show o + k ≤ i ∧ i < o + k + (n - k)
        omega⟩
    · exact hh ⟨b, List.mem_cons_of_mem _ hb, hbi⟩

/-- A filled hole is no hole. -/
theorem known_filled {e o n : Nat} {holes : List (Nat × Nat)} (h : n = 0) :
    known e holes ⊆ known e ((o, n) :: holes) := by
  rintro i ⟨hi, hh⟩
  refine ⟨hi, fun ⟨b, hb, hbi⟩ => ?_⟩
  rcases List.mem_cons.mp hb with rfl | hb
  · have : o ≤ i ∧ i < o + n := hbi
    omega
  · exact hh ⟨b, hb, hbi⟩

end Lib
