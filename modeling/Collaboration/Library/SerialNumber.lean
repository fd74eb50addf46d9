import Mathlib.Data.BitVec
import Mathlib.Algebra.Order.Ring.Int

/-! # Numbers that wrap around

A counter of `w` bits shows a position on the integers modulo `2 ^ w`. Positions that are less
than half of the range apart are ordered by the difference of what the counter shows. -/

namespace SerialNumber

variable {w half : ℕ} {x y : ℤ}

/-- The second number is less than `half` steps after the first one. -/
def Ahead (half : ℕ) (a b : BitVec w) : Prop := (b - a).toNat < half

instance (half : ℕ) (a b : BitVec w) : Decidable (Ahead half a b) :=
  inferInstanceAs (Decidable ((b - a).toNat < half))

/-- Less than `half` steps apart. -/
def Near (half : ℕ) (x y : ℤ) : Prop := |x - y| < half

theorem Near.symm (h : Near half x y) : Near half y x := by
  unfold Near at h ⊢
  rwa [abs_sub_comm]

theorem toNat_sub_ofInt (x y : ℤ) :
    ((BitVec.ofInt w y - BitVec.ofInt w x).toNat : ℤ) = (y - x) % 2 ^ w := by
  have hsum : BitVec.ofInt w (y - x) + BitVec.ofInt w x = BitVec.ofInt w y := by
    rw [← BitVec.ofInt_add, Int.sub_add_cancel]
  have hsub : BitVec.ofInt w y - BitVec.ofInt w x = BitVec.ofInt w (y - x) := by
    rw [← hsum, BitVec.add_sub_cancel]
  rw [hsub, BitVec.toNat_ofInt]
  push_cast
  exact Int.toNat_of_nonneg (Int.emod_nonneg _ (pow_ne_zero w two_ne_zero))

/-- Numbers of near positions compare as the positions do. -/
theorem ahead_iff (hhalf : 2 * half ≤ 2 ^ w) (h : Near half x y) :
    Ahead half (BitVec.ofInt w x) (BitVec.ofInt w y) ↔ x ≤ y := by
  obtain ⟨hlow, hhigh⟩ := abs_lt.mp h
  have hrange : (2 * half : ℤ) ≤ 2 ^ w := by exact_mod_cast hhalf
  have hdiff := toNat_sub_ofInt (w := w) x y
  unfold Ahead
  by_cases hle : x ≤ y
  · rw [Int.emod_eq_of_lt (by omega) (by omega)] at hdiff
    omega
  · rw [← Int.add_emod_right, Int.emod_eq_of_lt (by omega) (by omega)] at hdiff
    omega

/-- Near positions have the same number only when they are the same. -/
theorem ofInt_inj (hhalf : half ≤ 2 ^ w) (h : Near half x y) :
    BitVec.ofInt w x = BitVec.ofInt w y ↔ x = y := by
  constructor
  · intro heq
    obtain ⟨hlow, hhigh⟩ := abs_lt.mp h
    have hrange : (half : ℤ) ≤ 2 ^ w := by exact_mod_cast hhalf
    have hdiff := toNat_sub_ofInt (w := w) x y
    rw [heq, BitVec.sub_self] at hdiff
    by_cases hle : x ≤ y
    · rw [Int.emod_eq_of_lt (by omega) (by omega)] at hdiff
      simp at hdiff
      omega
    · rw [← Int.add_emod_right, Int.emod_eq_of_lt (by omega) (by omega)] at hdiff
      simp at hdiff
      omega
  · exact fun heq => heq ▸ rfl

end SerialNumber
