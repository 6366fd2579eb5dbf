/-
  File:      MavlinkServer/Lib/LittleEndian.lean
  Subject:   NUMBERS AS LITTLE-ENDIAN BYTES, for any width, and as big-endian
             ones, which are the same the other way round. Nothing here names a
             program.

  * `toLe w v` -- the `w` low bytes of `v`, least significant first;
  * `ofLe bs` -- the number a byte string denotes;
  * `ofLe_toLe` -- reading back what was written, for every value that fits;
    `toLe_ofLe` -- writing what was read;
  * `toBe`, `ofBe`, `ofBe_toBe` -- most significant first.
-/
import Mathlib.Algebra.Order.Ring.Nat

namespace Lib

/-- The `w` low bytes of `v`, least significant first. -/
def toLe : Nat → Nat → List UInt8
  | 0, _ => []
  | w + 1, v => UInt8.ofNat v :: toLe w (v / 256)

/-- The number a little-endian byte string denotes. -/
def ofLe : List UInt8 → Nat
  | [] => 0
  | b :: bs => b.toNat + 256 * ofLe bs

@[simp] theorem length_toLe (w v : Nat) : (toLe w v).length = w := by
  induction w generalizing v with
  | zero => rfl
  | succ w ih => simp only [toLe, List.length_cons, ih]

/-- What is written in `w` bytes is read back, as far as it fits. -/
theorem ofLe_toLe_mod (w v : Nat) : ofLe (toLe w v) = v % 256 ^ w := by
  induction w generalizing v with
  | zero => simp [toLe, ofLe, Nat.mod_one]
  | succ w ih =>
      have hb : (UInt8.ofNat v).toNat = v % 256 := UInt8.toNat_ofNat'
      rw [toLe, ofLe, ih, hb, pow_succ', Nat.mod_mul]

/-- **A number that fits is read back unchanged.** -/
theorem ofLe_toLe {w v : Nat} (h : v < 256 ^ w) : ofLe (toLe w v) = v := by
  rw [ofLe_toLe_mod, Nat.mod_eq_of_lt h]

theorem ofLe_lt (bs : List UInt8) : ofLe bs < 256 ^ bs.length := by
  induction bs with
  | nil => exact Nat.one_pos
  | cons b bs ih =>
      have hb := b.toNat_lt
      rw [ofLe, List.length_cons, pow_succ']
      omega

/-- **Bytes that are read are what would be written.** -/
theorem toLe_ofLe (bs : List UInt8) : toLe bs.length (ofLe bs) = bs := by
  induction bs with
  | nil => rfl
  | cons b bs ih =>
      have hb := b.toNat_lt
      have hlow : UInt8.ofNat (b.toNat + 256 * ofLe bs) = b := by
        apply UInt8.toNat_inj.mp
        rw [UInt8.toNat_ofNat']
        omega
      have hhigh : (b.toNat + 256 * ofLe bs) / 256 = ofLe bs := by omega
      rw [List.length_cons, ofLe, toLe, hlow, hhigh, ih]

/-- The `w` low bytes of `v`, most significant first. -/
def toBe (w v : Nat) : List UInt8 := (toLe w v).reverse

/-- The number a big-endian byte string denotes. -/
def ofBe (bs : List UInt8) : Nat := ofLe bs.reverse

@[simp] theorem length_toBe (w v : Nat) : (toBe w v).length = w := by
  rw [toBe, List.length_reverse, length_toLe]

theorem ofBe_toBe {w v : Nat} (h : v < 256 ^ w) : ofBe (toBe w v) = v := by
  rw [ofBe, toBe, List.reverse_reverse, ofLe_toLe h]

end Lib
