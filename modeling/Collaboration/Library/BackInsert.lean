import Mathlib.Data.List.DropRight
import Mathlib.Data.List.Perm.Basic

/-! # Queues that are searched from the back

A new element goes behind the last one that it does not come before. -/

namespace BackInsert

variable {α : Type*} {before : α → α → Bool} {le : α → α → Prop} {p : α} {l : List α}

def insert (before : α → α → Bool) (p : α) (l : List α) : List α :=
  l.rdropWhile (before p) ++ p :: l.rtakeWhile (before p)

theorem insert_perm (before : α → α → Bool) (p : α) (l : List α) :
    (insert before p l).Perm (p :: l) := by
  unfold insert
  refine List.perm_middle.trans ?_
  rw [List.rdropWhile_append_rtakeWhile]

@[simp] theorem length_insert (before : α → α → Bool) (p : α) (l : List α) :
    (insert before p l).length = l.length + 1 :=
  (insert_perm before p l).length_eq

@[simp] theorem mem_insert {q : α} : q ∈ insert before p l ↔ q = p ∨ q ∈ l := by
  rw [(insert_perm before p l).mem_iff, List.mem_cons]

/-- A queue in order stays in order, when the search compares as the order does. -/
theorem pairwise_insert (htrans : ∀ {a b c}, le a b → le b c → le a c) (hl : l.Pairwise le)
    (hle : ∀ e ∈ l, before p e = true → le p e) (hge : ∀ e ∈ l, before p e = false → le e p) :
    (insert before p l).Pairwise le := by
  have hsplit : l.rdropWhile (before p) ++ l.rtakeWhile (before p) = l :=
    List.rdropWhile_append_rtakeWhile
  have hmem {e : α} (h : e ∈ l.rdropWhile (before p) ∨ e ∈ l.rtakeWhile (before p)) : e ∈ l := by
    rw [← hsplit]
    exact List.mem_append.mpr h
  rw [← hsplit, List.pairwise_append] at hl
  obtain ⟨hfront, hback, hcross⟩ := hl
  -- All in front of `p` are in front of the last of them, where the search has stopped.
  have hbefore : ∀ e ∈ l.rdropWhile (before p), le e p := by
    intro e he
    have hne : l.rdropWhile (before p) ≠ [] := List.ne_nil_of_mem he
    have hlast := List.rdropWhile_last_not (before p) l hne
    have hlastle : le ((l.rdropWhile (before p)).getLast hne) p :=
      hge _ (hmem (.inl (List.getLast_mem hne))) (by simpa using hlast)
    rw [← List.dropLast_append_getLast hne, List.pairwise_append] at hfront
    rw [← List.dropLast_append_getLast hne, List.mem_append, List.mem_singleton] at he
    rcases he with he | rfl
    · exact htrans (hfront.2.2 e he _ (List.mem_singleton_self _)) hlastle
    · exact hlastle
  have hafter : ∀ e ∈ l.rtakeWhile (before p), le p e := by
    intro e he
    exact hle e (hmem (.inr he)) (List.mem_rtakeWhile_imp he)
  unfold insert
  rw [List.pairwise_append]
  refine ⟨hfront, List.pairwise_cons.mpr ⟨hafter, hback⟩, ?_⟩
  intro a ha b hb
  rcases List.mem_cons.mp hb with rfl | hb
  · exact hbefore a ha
  · exact hcross a ha b hb

/-- In a queue where the elements with a property come first, they are what is dropped. -/
theorem dropWhile_eq_filter {cond : α → Bool}
    (h : l.Pairwise fun a b => cond b = true → cond a = true) :
    l.dropWhile cond = l.filter fun a => !cond a := by
  induction l with
  | nil => rfl
  | cons a l ih =>
      obtain ⟨ha, hl⟩ := List.pairwise_cons.mp h
      cases hcond : cond a with
      | true => simp [hcond, ih hl]
      | false =>
          have hall : ∀ b ∈ l, cond b = false := by
            intro b hb
            by_contra hne
            have := ha b hb (by simpa using hne)
            simp [hcond] at this
          rw [List.dropWhile_cons_of_neg (by simp [hcond]), List.filter_eq_self.mpr]
          intro b hb
          rcases List.mem_cons.mp hb with rfl | hb
          · simp [hcond]
          · simp [hall b hb]

end BackInsert
