import Mathlib.Data.List.AList
import Mathlib.Data.List.Induction
import Mathlib.Logic.Function.Basic

/-! # The last write to a key, and codes of fixed width

A map that is only ever written key by key holds for each key what was last written under
it; a concatenation of codewords of one width has only one reading. -/

namespace LastWrite

variable {κ ν ω : Type*}

/-- `v` is the last value that the sequence writes under `k`. -/
def Last (writes : List (κ × ν)) (k : κ) (v : ν) : Prop :=
  ∃ before after, writes = before ++ (k, v) :: after ∧ ∀ w ∈ after, w.1 ≠ k

theorem last_concat_self (writes : List (κ × ν)) (k : κ) (v v' : ν) :
    Last (writes ++ [(k, v')]) k v ↔ v' = v := by
  constructor
  · rintro ⟨before, after, hwrites, hafter⟩
    cases after using List.reverseRecOn with
    | nil =>
        obtain ⟨-, hlast⟩ := List.append_inj' hwrites rfl
        simpa using hlast
    | append_singleton after w =>
        rw [← List.cons_append, ← List.append_assoc] at hwrites
        obtain ⟨-, hlast⟩ := List.append_inj' hwrites rfl
        obtain rfl : (k, v') = w := by simpa using hlast
        exact absurd rfl (hafter (k, v') (by simp))
  · rintro rfl
    exact ⟨writes, [], rfl, by simp⟩

theorem last_concat_of_ne (writes : List (κ × ν)) {k k' : κ} (h : k' ≠ k) (v v' : ν) :
    Last (writes ++ [(k', v')]) k v ↔ Last writes k v := by
  constructor
  · rintro ⟨before, after, hwrites, hafter⟩
    cases after using List.reverseRecOn with
    | nil =>
        obtain ⟨-, hlast⟩ := List.append_inj' hwrites rfl
        simp only [List.cons.injEq, Prod.mk.injEq] at hlast
        exact absurd hlast.1.1 h
    | append_singleton after w =>
        rw [← List.cons_append, ← List.append_assoc] at hwrites
        obtain ⟨rfl, -⟩ := List.append_inj' hwrites rfl
        exact ⟨before, after, rfl, fun w hw => hafter w (by simp [hw])⟩
  · rintro ⟨before, after, rfl, hafter⟩
    refine ⟨before, after ++ [(k', v')], by simp, ?_⟩
    intro w hw
    rcases List.mem_append.mp hw with hw | hw
    · exact hafter w hw
    · obtain rfl := List.mem_singleton.mp hw
      exact h

/-- At most one value is the last one. -/
theorem Last.unique {writes : List (κ × ν)} {k : κ} {v v' : ν} (h : Last writes k v)
    (h' : Last writes k v') : v = v' := by
  induction writes using List.reverseRecOn with
  | nil => simp [Last] at h
  | append_singleton writes w ih =>
      obtain ⟨k', x⟩ := w
      by_cases hk : k' = k
      · subst hk
        rw [last_concat_self] at h h'
        exact h.symm.trans h'
      · rw [last_concat_of_ne _ hk] at h h'
        exact ih h h'

/-- Writes under other keys. -/
theorem last_append_of_forall_ne (writes : List (κ × ν)) {others : List (κ × ν)} {k : κ}
    (h : ∀ w ∈ others, w.1 ≠ k) (v : ν) : Last (writes ++ others) k v ↔ Last writes k v := by
  induction others using List.reverseRecOn with
  | nil => simp
  | append_singleton others w ih =>
      obtain ⟨k', x⟩ := w
      rw [← List.append_assoc, last_concat_of_ne _ (h (k', x) (by simp))]
      exact ih fun w hw => h w (by simp [hw])

/-- One value written under several keys. -/
theorem last_append_map_of_mem (writes : List (κ × ν)) {keys : List κ} {k : κ} (h : k ∈ keys)
    (v : ν) : Last (writes ++ keys.map fun k => (k, v)) k v := by
  induction keys using List.reverseRecOn with
  | nil => simp at h
  | append_singleton keys k' ih =>
      rw [List.map_append, List.map_singleton, ← List.append_assoc]
      by_cases hk : k' = k
      · subst hk
        rw [last_concat_self]
      · rw [last_concat_of_ne _ hk]
        exact ih (by simpa [Ne.symm hk] using h)

/-- The last value after every value was replaced by its image. -/
theorem last_map_iff (f : ν → ω) (writes : List (κ × ν)) (k : κ) (x : ω) :
    Last (writes.map fun w => (w.1, f w.2)) k x ↔ ∃ v, Last writes k v ∧ f v = x := by
  induction writes using List.reverseRecOn with
  | nil => simp [Last]
  | append_singleton writes w ih =>
      obtain ⟨k', v'⟩ := w
      rw [List.map_append, List.map_singleton]
      by_cases h : k' = k
      · subst h
        simp [last_concat_self]
      · simpa [last_concat_of_ne _ h] using ih

variable [DecidableEq κ]

/-- The map after a sequence of writes. -/
def writeAll (store : κ → Option ν) (writes : List (κ × ν)) : κ → Option ν :=
  writes.foldl (fun s w => Function.update s w.1 (some w.2)) store

@[simp] theorem writeAll_nil (store : κ → Option ν) : writeAll store [] = store := rfl

@[simp] theorem writeAll_concat (store : κ → Option ν) (writes : List (κ × ν)) (w : κ × ν) :
    writeAll store (writes ++ [w]) = Function.update (writeAll store writes) w.1 (some w.2) := by
  simp [writeAll]

/-- An empty map holds after any writes exactly the last value written under each key. -/
theorem writeAll_eq_some_iff (writes : List (κ × ν)) (k : κ) (v : ν) :
    writeAll (fun _ => none) writes k = some v ↔ Last writes k v := by
  induction writes using List.reverseRecOn with
  | nil => simp [Last]
  | append_singleton writes w ih =>
      obtain ⟨k', v'⟩ := w
      by_cases h : k' = k
      · subst h
        simp [last_concat_self]
      · simpa [Function.update_of_ne (Ne.symm h), last_concat_of_ne _ h] using ih

end LastWrite

namespace FixedWidth

variable {α β : Type*}

/-- Codewords of one positive width can be told apart in a concatenation. -/
theorem flatMap_injective {code : α → List β} {width : ℕ} (hpos : 0 < width)
    (hwidth : ∀ a, (code a).length = width) (hcode : Function.Injective code) :
    Function.Injective (List.flatMap code) := by
  intro xs ys h
  induction xs generalizing ys with
  | nil =>
      cases ys with
      | nil => rfl
      | cons y ys =>
          have hlength := congrArg List.length h
          simp [hwidth] at hlength
          omega
  | cons x xs ih =>
      cases ys with
      | nil =>
          have hlength := congrArg List.length h
          simp [hwidth] at hlength
          omega
      | cons y ys =>
          rw [List.flatMap_cons, List.flatMap_cons] at h
          obtain ⟨hhead, htail⟩ := List.append_inj h (by rw [hwidth, hwidth])
          rw [hcode hhead, ih htail]

end FixedWidth

/-! ## Look-ups in a finite map

What is found under a key after an entry was written or taken away, as one case distinction on
the key. -/

namespace FiniteMap

variable {κ ν : Type*} [DecidableEq κ] {m : AList fun _ : κ => ν} {k k' : κ} {v w : ν}

theorem lookup_insert : (m.insert k v).lookup k' = if k' = k then some v else m.lookup k' := by
  split
  · rename_i h
    rw [h, AList.lookup_insert]
  · rename_i h
    exact AList.lookup_insert_ne h

theorem lookup_erase : (m.erase k).lookup k' = if k' = k then none else m.lookup k' := by
  split
  · rename_i h
    rw [h, AList.lookup_erase]
  · rename_i h
    exact AList.lookup_erase_ne h

theorem lookup_insert_eq_some_iff :
    (m.insert k v).lookup k' = some w ↔ k' = k ∧ w = v ∨ k' ≠ k ∧ m.lookup k' = some w := by
  rw [lookup_insert]
  split <;> simp_all [eq_comm]

theorem lookup_erase_eq_some_iff :
    (m.erase k).lookup k' = some w ↔ k' ≠ k ∧ m.lookup k' = some w := by
  rw [lookup_erase]
  split <;> simp_all

end FiniteMap
