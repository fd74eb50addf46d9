import Collaboration.Library.Link
import Mathlib.Algebra.BigOperators.Group.Finset.Basic
import Mathlib.Algebra.Ring.Nat
import Mathlib.Logic.Function.Basic

/-! # Two systems joined by many wires

A step of a system writes at most one object and reads at most one, each on some channel. What
one system writes on a channel travels to the other, which reads it in the same order. Either
system may be a family of systems of its own. -/

namespace Transition

variable {σ τ α γ κ β ι : Type*}

/-! ## Counting along a run -/

section Counting

variable {step : σ → α → Option σ}

/-- The sum over the steps of a run. -/
def total (step : σ → α → Option σ) (f : σ → α → ℕ) : σ → List α → ℕ
  | _, [] => 0
  | s, l :: ls => f s l + (step s l).elim 0 fun t => total step f t ls

theorem total_sum {κ : Type*} (S : Finset κ) (f : κ → σ → α → ℕ) (s : σ) (ls : List α) :
    total step (fun s l => ∑ k ∈ S, f k s l) s ls = ∑ k ∈ S, total step (f k) s ls := by
  induction ls generalizing s with
  | nil => simp [total]
  | cons l ls ih =>
      cases hstep : step s l with
      | none => simp [total, hstep]
      | some t => simp [total, hstep, ih t, Finset.sum_add_distrib]

/-- When each step spends at most what it finds and gains, so does a run. -/
theorem exec_budget {stock : σ → ℕ} {spend : σ → α → ℕ} {gain : α → ℕ}
    (h : ∀ s l t, step s l = some t → stock t + spend s l ≤ stock s + gain l)
    {s t : σ} {ls : List α} (he : exec step s ls = some t) :
    stock t + total step spend s ls ≤ stock s + (ls.map gain).sum := by
  induction ls generalizing s with
  | nil =>
      obtain rfl : s = t := by simpa using he
      simp [total]
  | cons l ls ih =>
      obtain ⟨u, hu, he⟩ := exec_cons_eq_some.mp he
      have hstep := h s l u hu
      have hrest := ih he
      simp only [total, hu, Option.elim_some, List.map_cons, List.sum_cons]
      omega

/-- The same rule where nothing is spent. -/
theorem exec_gain {stock : σ → ℕ} {gain : α → ℕ}
    (h : ∀ s l t, step s l = some t → stock t ≤ stock s + gain l)
    {s t : σ} {ls : List α} (he : exec step s ls = some t) :
    stock t ≤ stock s + (ls.map gain).sum := by
  have hbudget : stock t + total step (fun _ _ => 0) s ls ≤ stock s + (ls.map gain).sum :=
    exec_budget h he
  omega

/-- The same rule under an invariant. -/
theorem exec_gain_of_invariant {I : σ → Prop} {stock : σ → ℕ} {gain : α → ℕ}
    (hinv : ∀ s l t, I s → step s l = some t → I t)
    (h : ∀ s l t, I s → step s l = some t → stock t ≤ stock s + gain l)
    {s t : σ} {ls : List α} (h0 : I s) (he : exec step s ls = some t) :
    stock t ≤ stock s + (ls.map gain).sum := by
  induction ls generalizing s with
  | nil =>
      obtain rfl : s = t := by simpa using he
      simp
  | cons l ls ih =>
      obtain ⟨u, hu, he⟩ := exec_cons_eq_some.mp he
      have hstep := h s l u h0 hu
      have hrest := ih (hinv s l u h0 hu) he
      simp only [List.map_cons, List.sum_cons]
      omega

theorem sum_map_toNat (p : α → Bool) (ls : List α) :
    (ls.map fun l => (p l).toNat).sum = ls.countP p := by
  induction ls with
  | nil => rfl
  | cons l ls ih =>
      rw [List.map_cons, List.sum_cons, ih, List.countP_cons, Nat.add_comm]
      cases p l <;> rfl

/-- A member changes, and the sum of all with it. -/
theorem sum_update_add_le [Fintype ι] [DecidableEq ι] (f : ι → τ) (g : τ → ℕ) (i : ι) (x : τ)
    {a b : ℕ} (h : g x + a ≤ g (f i) + b) :
    ∑ k, g (Function.update f i x k) + a ≤ ∑ k, g (f k) + b := by
  have hothers : ∑ k ∈ Finset.univ.erase i, g (Function.update f i x k) =
      ∑ k ∈ Finset.univ.erase i, g (f k) :=
    Finset.sum_congr rfl fun k hk => by
      rw [Function.update_of_ne (Finset.ne_of_mem_erase hk)]
  rw [← Finset.add_sum_erase _ _ (Finset.mem_univ i), hothers, Function.update_self,
    ← Finset.add_sum_erase _ (fun k => g (f k)) (Finset.mem_univ i)]
  omega

end Counting

/-! ## Families -/

section Family

variable [DecidableEq ι]

/-- A step of one member. -/
def family (step : ι → τ → γ → Option τ) (f : ι → τ) (l : ι × γ) : Option (ι → τ) :=
  (step l.1 (f l.1) l.2).map (Function.update f l.1)

/-- The entries of one member, or of one channel. -/
def entries (i : ι) (es : List (ι × γ)) : List γ :=
  es.filterMap fun e => if e.1 = i then some e.2 else none

@[simp] theorem entries_nil (i : ι) : entries i ([] : List (ι × γ)) = [] := rfl

@[simp] theorem entries_append (i : ι) (es es' : List (ι × γ)) :
    entries i (es ++ es') = entries i es ++ entries i es' := List.filterMap_append

@[simp] theorem entries_cons_self (i : ι) (l : γ) (es : List (ι × γ)) :
    entries i ((i, l) :: es) = l :: entries i es := by
  simp [entries]

theorem entries_cons_of_ne {i j : ι} (h : j ≠ i) (l : γ) (es : List (ι × γ)) :
    entries i ((j, l) :: es) = entries i es := by
  simp [entries, h]

/-- A run of a family is a run of each member. -/
theorem exec_family {step : ι → τ → γ → Option τ} {f g : ι → τ} {ls : List (ι × γ)}
    (h : exec (family step) f ls = some g) (i : ι) :
    exec (step i) (f i) (entries i ls) = some (g i) := by
  induction ls generalizing f with
  | nil =>
      obtain rfl : f = g := by simpa using h
      rfl
  | cons l ls ih =>
      obtain ⟨u, hu, h⟩ := exec_cons_eq_some.mp h
      obtain ⟨x, hx, rfl⟩ := Option.map_eq_some_iff.mp hu
      obtain ⟨j, l⟩ := l
      have hrest := ih h
      by_cases hj : j = i
      · subst hj
        rw [entries_cons_self, exec_cons_eq_some]
        exact ⟨x, hx, by simpa using hrest⟩
      · rw [entries_cons_of_ne hj]
        simpa [Function.update_of_ne (Ne.symm hj)] using hrest

end Family

/-! ## Networks -/

/-- A system with what its steps write, and what its labels read. -/
structure Port (σ α κ β : Type*) where
  step : σ → α → Option σ
  writes : σ → α → Option (κ × β)
  reads : α → Option (κ × β)

/-- What a run writes. -/
def Port.written (A : Port σ α κ β) : σ → List α → List (κ × β)
  | _, [] => []
  | s, l :: ls => (A.writes s l).toList ++ (A.step s l).elim [] fun t => A.written t ls

/-- Counting what a run writes on a channel, step by step. -/
theorem Port.countP_written [DecidableEq κ] (A : Port σ α κ β) {ls : List α} (a : σ) (k : κ)
    (p : β → Bool) :
    (entries k (A.written a ls)).countP p =
      total A.step (fun s l => (entries k (A.writes s l).toList).countP p) a ls := by
  induction ls generalizing a with
  | nil => rfl
  | cons l ls ih =>
      simp only [Port.written, total, entries_append, List.countP_append]
      cases hstep : A.step a l with
      | none => simp
      | some b => simp [ih b]

/-- The wires hold what one system has written and the other has not yet read. -/
structure Network (σ τ κ β : Type*) where
  left : σ
  right : τ
  toLeft : κ → List β
  toRight : κ → List β

namespace Network

open Link (lefts rights)

def start (a : σ) (b : τ) : Network σ τ κ β := ⟨a, b, fun _ => [], fun _ => []⟩

variable [DecidableEq κ]

/-- Puts what is written at the end of its wire. -/
def put : Option (κ × β) → (κ → List β) → κ → List β
  | none, wires => wires
  | some (k, x), wires => Function.update wires k (wires k ++ [x])

/-- Takes what is read from the front of its wire. -/
def take [DecidableEq β] : Option (κ × β) → (κ → List β) → Option (κ → List β)
  | none, wires => some wires
  | some (k, x), wires =>
    match wires k with
    | [] => none
    | y :: wire => if x = y then some (Function.update wires k wire) else none

def step [DecidableEq β] (A : Port σ α κ β) (B : Port τ γ κ β) (s : Network σ τ κ β) :
    α ⊕ γ → Option (Network σ τ κ β)
  | .inl l =>
    (take (A.reads l) s.toLeft).bind fun wires => (A.step s.left l).map fun t =>
      { s with left := t, toLeft := wires, toRight := put (A.writes s.left l) s.toRight }
  | .inr l =>
    (take (B.reads l) s.toRight).bind fun wires => (B.step s.right l).map fun t =>
      { s with right := t, toRight := wires, toLeft := put (B.writes s.right l) s.toLeft }

theorem put_apply (e : Option (κ × β)) (wires : κ → List β) (k : κ) :
    put e wires k = wires k ++ entries k e.toList := by
  cases e with
  | none => simp [put]
  | some e =>
      obtain ⟨j, x⟩ := e
      by_cases hj : j = k
      · subst hj
        simp [put]
      · simp [put, entries_cons_of_ne hj, Function.update_of_ne (Ne.symm hj)]

variable [DecidableEq β] {A : Port σ α κ β} {B : Port τ γ κ β} {s t : Network σ τ κ β}

theorem take_eq_some {e : Option (κ × β)} {wires rest : κ → List β}
    (h : take e wires = some rest) (k : κ) : wires k = entries k e.toList ++ rest k := by
  cases e with
  | none =>
      obtain rfl : wires = rest := by simpa [take] using h
      rfl
  | some e =>
      obtain ⟨j, x⟩ := e
      cases hwire : wires j with
      | nil => simp [take, hwire] at h
      | cons y wire =>
          obtain ⟨rfl, rfl⟩ : x = y ∧ Function.update wires j wire = rest := by
            simpa [take, hwire] using h
          by_cases hj : j = k
          · subst hj
            simp [hwire]
          · simp [entries_cons_of_ne hj, Function.update_of_ne (Ne.symm hj)]

theorem step_inl {l : α} (h : step A B s (.inl l) = some t) :
    ∃ wires a, take (A.reads l) s.toLeft = some wires ∧ A.step s.left l = some a ∧
      t = ⟨a, s.right, wires, put (A.writes s.left l) s.toRight⟩ := by
  obtain ⟨wires, hwires, h⟩ := Option.bind_eq_some_iff.mp h
  obtain ⟨a, ha, rfl⟩ := Option.map_eq_some_iff.mp h
  exact ⟨wires, a, hwires, ha, rfl⟩

theorem step_inr {l : γ} (h : step A B s (.inr l) = some t) :
    ∃ wires b, take (B.reads l) s.toRight = some wires ∧ B.step s.right l = some b ∧
      t = ⟨s.left, b, put (B.writes s.right l) s.toLeft, wires⟩ := by
  obtain ⟨wires, hwires, h⟩ := Option.bind_eq_some_iff.mp h
  obtain ⟨b, hb, rfl⟩ := Option.map_eq_some_iff.mp h
  exact ⟨wires, b, hwires, hb, rfl⟩

/-- A run of the network is a run of each side. -/
theorem exec_sides {ls : List (α ⊕ γ)} (h : exec (step A B) s ls = some t) :
    exec A.step s.left (lefts ls) = some t.left ∧
      exec B.step s.right (rights ls) = some t.right := by
  induction ls generalizing s with
  | nil =>
      obtain rfl : s = t := by simpa using h
      exact ⟨rfl, rfl⟩
  | cons l ls ih =>
      obtain ⟨u, hu, h⟩ := exec_cons_eq_some.mp h
      obtain ⟨hleft, hright⟩ := ih h
      cases l with
      | inl l =>
          obtain ⟨_, a, -, ha, rfl⟩ := step_inl hu
          exact ⟨exec_cons_eq_some.mpr ⟨a, ha, hleft⟩, hright⟩
      | inr l =>
          obtain ⟨_, b, -, hb, rfl⟩ := step_inr hu
          exact ⟨hleft, exec_cons_eq_some.mpr ⟨b, hb, hright⟩⟩

/-- On each channel, what the left side writes is what the right side reads, and then what is
still on the wire. -/
theorem written_eq_read_append {ls : List (α ⊕ γ)} (h : exec (step A B) s ls = some t) (k : κ) :
    s.toRight k ++ entries k (A.written s.left (lefts ls)) =
      entries k ((rights ls).filterMap B.reads) ++ t.toRight k := by
  induction ls generalizing s with
  | nil =>
      obtain rfl : s = t := by simpa using h
      simp [Port.written, lefts, rights]
  | cons l ls ih =>
      obtain ⟨u, hu, h⟩ := exec_cons_eq_some.mp h
      have hrest := ih h
      cases l with
      | inl l =>
          obtain ⟨_, a, -, ha, rfl⟩ := step_inl hu
          simp only [put_apply] at hrest
          rw [Link.lefts_cons_inl, Link.rights_cons_inl, ← hrest]
          simp [Port.written, ha]
      | inr l =>
          obtain ⟨_, b, hwires, -, rfl⟩ := step_inr hu
          rw [Link.lefts_cons_inr, Link.rights_cons_inr, take_eq_some hwires k,
            List.append_assoc, hrest]
          cases hread : B.reads l with
          | none => simp [hread]
          | some e => simp [hread, ← List.append_assoc, ← entries_append]

/-- Whatever is counted, no more of it is read than was written. -/
theorem countP_read_le {a : σ} {b : τ} {ls : List (α ⊕ γ)}
    (h : exec (step A B) (start a b) ls = some t) (k : κ) (p : β → Bool) :
    (entries k ((rights ls).filterMap B.reads)).countP p ≤
      (entries k (A.written a (lefts ls))).countP p := by
  have hwires := written_eq_read_append h k
  simp only [start, List.nil_append] at hwires
  rw [hwires, List.countP_append]
  exact Nat.le_add_right _ _

/-! ## The other direction -/

/-- The network seen from its other side. -/
def swap (s : Network σ τ κ β) : Network τ σ κ β := ⟨s.right, s.left, s.toRight, s.toLeft⟩

theorem step_swap {l : α ⊕ γ} (h : step A B s l = some t) :
    step B A s.swap l.swap = some t.swap := by
  cases l with
  | inl l =>
      obtain ⟨wires, a, hwires, ha, rfl⟩ := step_inl h
      simp [step, swap, hwires, ha]
  | inr l =>
      obtain ⟨wires, b, hwires, hb, rfl⟩ := step_inr h
      simp [step, swap, hwires, hb]

theorem exec_swap {ls : List (α ⊕ γ)} (h : exec (step A B) s ls = some t) :
    exec (step B A) s.swap (ls.map Sum.swap) = some t.swap := by
  induction ls generalizing s with
  | nil =>
      obtain rfl : s = t := by simpa using h
      rfl
  | cons l ls ih =>
      obtain ⟨u, hu, h⟩ := exec_cons_eq_some.mp h
      exact exec_cons_eq_some.mpr ⟨u.swap, step_swap hu, ih h⟩

theorem lefts_map_swap (ls : List (α ⊕ γ)) : lefts (ls.map Sum.swap) = rights ls := by
  induction ls with
  | nil => rfl
  | cons l ls ih => cases l <;> simp [ih]

theorem rights_map_swap (ls : List (α ⊕ γ)) : rights (ls.map Sum.swap) = lefts ls := by
  induction ls with
  | nil => rfl
  | cons l ls ih => cases l <;> simp [ih]

/-- What the left side reads was written by the right side. -/
theorem countP_read_le' {a : σ} {b : τ} {ls : List (α ⊕ γ)}
    (h : exec (step A B) (start a b) ls = some t) (k : κ) (p : β → Bool) :
    (entries k ((lefts ls).filterMap A.reads)).countP p ≤
      (entries k (B.written b (rights ls))).countP p := by
  have hswap := countP_read_le (exec_swap h) k p
  rwa [lefts_map_swap, rights_map_swap] at hswap

end Network

end Transition
