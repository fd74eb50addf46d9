import Mathlib.Data.List.Pairwise

/-! # Order of service

Numbered items wait in a list, are taken out one at a time and appended to a log.
Serving the first waiting item keeps the log in order; serving the last one does so
only when it waits alone. -/

namespace ServiceOrder

variable {β : Type*} {num : β → ℕ}

/-- The waiting items stand in the order of their numbers, all below the next one. -/
structure Waiting (num : β → ℕ) (waiting : List β) (next : ℕ) : Prop where
  sorted : waiting.Pairwise fun a b => num a < num b
  fresh : ∀ a ∈ waiting, num a < next

/-- The log is in order, and nothing waits that should have been logged earlier. -/
structure InOrder (num : β → ℕ) (served waiting : List β) : Prop where
  sorted : served.Pairwise fun a b => num a < num b
  ahead : ∀ a ∈ served, ∀ b ∈ waiting, num a < num b

theorem Waiting.nil (next : ℕ) : Waiting num [] next := ⟨.nil, by simp⟩

theorem InOrder.nil (waiting : List β) : InOrder num [] waiting := ⟨.nil, by simp⟩

theorem Waiting.put {waiting : List β} {x : β} (h : Waiting num waiting (num x)) :
    Waiting num (waiting ++ [x]) (num x + 1) := by
  constructor
  · refine List.pairwise_append.mpr ⟨h.sorted, List.pairwise_singleton _ _, ?_⟩
    intro a ha b hb
    obtain rfl := List.mem_singleton.mp hb
    exact h.fresh a ha
  · intro a ha
    rcases List.mem_append.mp ha with ha | ha
    · exact Nat.lt_succ_of_lt (h.fresh a ha)
    · rw [List.mem_singleton.mp ha]
      exact Nat.lt_succ_self _

theorem Waiting.sublist {waiting rest : List β} {next : ℕ} (h : Waiting num waiting next)
    (hs : rest.Sublist waiting) : Waiting num rest next :=
  ⟨h.sorted.sublist hs, fun a ha => h.fresh a (hs.subset ha)⟩

theorem InOrder.put {served waiting : List β} {x : β} (h : InOrder num served waiting)
    (hx : ∀ a ∈ served, num a < num x) : InOrder num served (waiting ++ [x]) := by
  refine ⟨h.sorted, ?_⟩
  intro a ha b hb
  rcases List.mem_append.mp hb with hb | hb
  · exact h.ahead a ha b hb
  · rw [List.mem_singleton.mp hb]
    exact hx a ha

theorem InOrder.log {served rest : List β} {x : β} (h : InOrder num served [x])
    (hx : ∀ b ∈ rest, num x < num b) (hr : ∀ a ∈ served, ∀ b ∈ rest, num a < num b) :
    InOrder num (served ++ [x]) rest := by
  constructor
  · refine List.pairwise_append.mpr ⟨h.sorted, List.pairwise_singleton _ _, h.ahead⟩
  · intro a ha b hb
    rcases List.mem_append.mp ha with ha | ha
    · exact hr a ha b hb
    · rw [List.mem_singleton.mp ha]
      exact hx b hb

/-- First in, first out. -/
theorem InOrder.serve_first {served waiting : List β} {x : β} {next : ℕ}
    (hw : Waiting num (x :: waiting) next) (h : InOrder num served (x :: waiting)) :
    InOrder num (served ++ [x]) waiting := by
  refine InOrder.log ⟨h.sorted, ?_⟩ (List.pairwise_cons.mp hw.sorted).1 ?_
  · intro a ha b hb
    obtain rfl := List.mem_singleton.mp hb
    exact h.ahead a ha b (by simp)
  · intro a ha b hb
    exact h.ahead a ha b (by simp [hb])

/-- Last in, first out keeps the order exactly when nothing else waits. -/
theorem InOrder.serve_last_iff {served waiting : List β} {x : β} {next : ℕ}
    (hw : Waiting num (waiting ++ [x]) next) (h : InOrder num served (waiting ++ [x])) :
    InOrder num (served ++ [x]) waiting ↔ waiting = [] := by
  constructor
  · intro hlog
    apply List.eq_nil_iff_forall_not_mem.mpr
    intro a ha
    have hlt : num a < num x := (List.pairwise_append.mp hw.sorted).2.2 a ha x (by simp)
    have hgt : num x < num a := hlog.ahead x (by simp) a ha
    omega
  · rintro rfl
    exact InOrder.serve_first hw h

end ServiceOrder
