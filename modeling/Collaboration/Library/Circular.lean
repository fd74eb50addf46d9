import Mathlib.Data.List.Basic
import Mathlib.Data.Nat.ModEq
import Mathlib.Tactic.Ring

/-! # Streams in a circular block of memory

A block of `N` cells keeps the last `N` items of a stream, each at its number modulo `N`. -/

namespace Circular

variable {α : Type*} {data data' stream : List α} {pos n j : ℕ}

/-- Copies into a block, from a position on; `none` when the copy leaves the block. -/
def overwrite (data : List α) (pos : ℕ) (src : List α) : Option (List α) :=
  if pos + src.length ≤ data.length then
    some (data.take pos ++ src ++ data.drop (pos + src.length))
  else none

/-- The `n` cells from a position on; `none` when they leave the block. -/
def region (data : List α) (pos n : ℕ) : Option (List α) :=
  if pos + n ≤ data.length then some ((data.drop pos).take n) else none

/-- The block keeps the last items of the stream. -/
structure Mirrors (data stream : List α) : Prop where
  filled : data.length ≤ stream.length
  get : ∀ j, j < stream.length → stream.length < j + data.length + 1 →
    data[j % data.length]? = stream[j]?

theorem overwrite_eq_some {src : List α} (h : overwrite data pos src = some data') :
    pos + src.length ≤ data.length ∧
      data' = data.take pos ++ src ++ data.drop (pos + src.length) := by
  unfold overwrite at h
  split at h
  · next hle => exact ⟨hle, (Option.some.inj h).symm⟩
  · cases h

theorem length_of_overwrite {src : List α} (h : overwrite data pos src = some data') :
    data'.length = data.length := by
  obtain ⟨hle, rfl⟩ := overwrite_eq_some h
  simp
  omega

/-- A block filled with the stream. -/
theorem Mirrors.refl (data : List α) : Mirrors data data where
  filled := le_rfl
  get j hj _ := by rw [Nat.mod_eq_of_lt hj]

/-- A copy to where the stream ends extends the stream. -/
theorem Mirrors.overwrite (h : Mirrors data stream) (hpos : pos ≡ stream.length [MOD data.length])
    (src : List α) (hle : pos + src.length ≤ data.length) :
    ∃ data', overwrite data pos src = some data' ∧ data'.length = data.length ∧
      Mirrors data' (stream ++ src) := by
  have hover : Circular.overwrite data pos src =
      some (data.take pos ++ src ++ data.drop (pos + src.length)) := if_pos hle
  have hlength := length_of_overwrite hover
  refine ⟨_, hover, hlength, ?_, fun j hj hlast => ?_⟩
  · rw [hlength, List.length_append]
    exact h.filled.trans (Nat.le_add_right _ _)
  rw [hlength] at hlast ⊢
  rw [List.length_append] at hj hlast
  have hN : 0 < data.length := by omega
  have htake : (data.take pos).length = pos := List.length_take_of_le (by omega)
  by_cases hnew : stream.length ≤ j
  · -- An item of the copied block: its cell is as far from `pos` as it is from the end.
    have hmod : j % data.length = pos + (j - stream.length) := by
      have hcell : pos + (j - stream.length) < data.length := by omega
      rw [← Nat.mod_eq_of_lt hcell]
      have hadd := hpos.add_right (j - stream.length)
      rw [Nat.add_sub_cancel' hnew] at hadd
      exact hadd.symm
    rw [hmod, List.append_assoc, List.getElem?_append_right (by omega), htake,
      Nat.add_sub_cancel_left, List.getElem?_append_left (by omega),
      List.getElem?_append_right hnew]
  · -- An earlier item that is still kept: its cell lies outside of the copied block.
    have hold : j < stream.length := by omega
    have hget := h.get j hold (by omega)
    have hlt : j % data.length < data.length := Nat.mod_lt _ hN
    have houtside : j % data.length < pos ∨ pos + src.length ≤ j % data.length := by
      by_contra hinside
      have hi : j % data.length = pos + (j % data.length - pos) := by omega
      have hmod : j ≡ stream.length + (j % data.length - pos) [MOD data.length] := by
        calc j ≡ j % data.length [MOD data.length] := (Nat.mod_modEq _ _).symm
          _ ≡ pos + (j % data.length - pos) [MOD data.length] := by rw [← hi]
          _ ≡ stream.length + (j % data.length - pos) [MOD data.length] := hpos.add_right _
      have hdvd := (Nat.modEq_iff_dvd' (by omega)).mp hmod
      have := Nat.le_of_dvd (by omega) hdvd
      omega
    rw [List.getElem?_append_left hold, ← hget]
    rcases houtside with hlow | hhigh
    · rw [List.append_assoc, List.getElem?_append_left (by omega), List.getElem?_take_of_lt hlow]
    · rw [List.getElem?_append_right (by simp [htake]; omega), List.getElem?_drop]
      congr 1
      simp [htake]
      omega

/-- A part of the block that does not leave it is the part of the stream there. -/
theorem Mirrors.region (h : Mirrors data stream) (hpos : pos ≡ j [MOD data.length])
    (hle : pos + n ≤ data.length) (hj : j + n ≤ stream.length)
    (hlast : stream.length ≤ j + data.length) :
    region data pos n = some ((stream.drop j).take n) := by
  unfold Circular.region
  rw [if_pos hle]
  congr 1
  apply List.ext_getElem?
  intro i
  by_cases hi : i < n
  · have hcell : (j + i) % data.length = pos + i := by
      rw [← Nat.mod_eq_of_lt (show pos + i < data.length by omega)]
      exact (hpos.add_right i).symm
    have hget := h.get (j + i) (by omega) (by omega)
    rw [hcell] at hget
    rw [List.getElem?_take_of_lt hi, List.getElem?_take_of_lt hi, List.getElem?_drop,
      List.getElem?_drop, hget]
  · rw [List.getElem?_eq_none (by simp; omega), List.getElem?_eq_none (by simp; omega)]

end Circular
