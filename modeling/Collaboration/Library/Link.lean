import Collaboration.Library.Transition

/-! # Two systems joined by two wires

Each system keeps a log of what it has written. What it appends to the log travels to the
other system, which reads it in the same order. -/

namespace Transition

variable {σ τ α γ β : Type*}

/-- A system with the log of what it has written, and what each of its labels reads. -/
structure Endpoint (σ α β : Type*) where
  step : σ → α → Option σ
  sent : σ → List β
  reads : α → Option β

/-- A step that only appends to the log. -/
def Endpoint.Grows (A : Endpoint σ α β) (s : σ) (_ : α) (t : σ) : Prop := A.sent s <+: A.sent t

/-- The wires hold what one system has written and the other has not yet read. -/
structure Link (σ τ β : Type*) where
  left : σ
  right : τ
  toLeft : List β
  toRight : List β

namespace Link

def start (a : σ) (b : τ) : Link σ τ β := ⟨a, b, [], []⟩

/-- Takes what is read from the front of a wire. -/
def take [DecidableEq β] : Option β → List β → Option (List β)
  | none, wire => some wire
  | some x, y :: wire => if x = y then some wire else none
  | some _, [] => none

def step [DecidableEq β] (A : Endpoint σ α β) (B : Endpoint τ γ β) (s : Link σ τ β) :
    α ⊕ γ → Option (Link σ τ β)
  | .inl l =>
    (take (A.reads l) s.toLeft).bind fun wire => (A.step s.left l).map fun t =>
      { s with
        left := t
        toLeft := wire
        toRight := s.toRight ++ (A.sent t).drop (A.sent s.left).length }
  | .inr l =>
    (take (B.reads l) s.toRight).bind fun wire => (B.step s.right l).map fun t =>
      { s with
        right := t
        toRight := wire
        toLeft := s.toLeft ++ (B.sent t).drop (B.sent s.right).length }

/-- The labels of the left system in a schedule of both; likewise of the right one. -/
def lefts (ls : List (α ⊕ γ)) : List α := ls.filterMap Sum.getLeft?

def rights (ls : List (α ⊕ γ)) : List γ := ls.filterMap Sum.getRight?

@[simp] theorem lefts_cons_inl (l : α) (ls : List (α ⊕ γ)) :
    lefts (.inl l :: ls) = l :: lefts ls := rfl

@[simp] theorem lefts_cons_inr (l : γ) (ls : List (α ⊕ γ)) :
    lefts (.inr l :: ls) = lefts ls := rfl

@[simp] theorem rights_cons_inl (l : α) (ls : List (α ⊕ γ)) :
    rights (.inl l :: ls) = rights ls := rfl

@[simp] theorem rights_cons_inr (l : γ) (ls : List (α ⊕ γ)) :
    rights (.inr l :: ls) = l :: rights ls := rfl

variable [DecidableEq β] {A : Endpoint σ α β} {B : Endpoint τ γ β} {s t : Link σ τ β}

theorem take_eq_some {x : Option β} {wire rest : List β} (h : take x wire = some rest) :
    wire = x.toList ++ rest := by
  cases x with
  | none => simpa [take] using h
  | some x =>
      cases wire with
      | nil => simp [take] at h
      | cons y wire =>
          obtain ⟨rfl, rfl⟩ : x = y ∧ wire = rest := by simpa [take] using h
          rfl

theorem step_inl {l : α} (h : step A B s (.inl l) = some t) :
    ∃ wire a, take (A.reads l) s.toLeft = some wire ∧ A.step s.left l = some a ∧
      t = ⟨a, s.right, wire, s.toRight ++ (A.sent a).drop (A.sent s.left).length⟩ := by
  obtain ⟨wire, hwire, h⟩ := Option.bind_eq_some_iff.mp h
  obtain ⟨a, ha, rfl⟩ := Option.map_eq_some_iff.mp h
  exact ⟨wire, a, hwire, ha, rfl⟩

theorem step_inr {l : γ} (h : step A B s (.inr l) = some t) :
    ∃ wire b, take (B.reads l) s.toRight = some wire ∧ B.step s.right l = some b ∧
      t = ⟨s.left, b, s.toLeft ++ (B.sent b).drop (B.sent s.right).length, wire⟩ := by
  obtain ⟨wire, hwire, h⟩ := Option.bind_eq_some_iff.mp h
  obtain ⟨b, hb, rfl⟩ := Option.map_eq_some_iff.mp h
  exact ⟨wire, b, hwire, hb, rfl⟩

/-- A run of both systems is a run of the left one. -/
theorem exec_left {ls : List (α ⊕ γ)} (h : exec (step A B) s ls = some t) :
    exec A.step s.left (lefts ls) = some t.left := by
  induction ls generalizing s with
  | nil =>
      obtain rfl : s = t := by simpa using h
      rfl
  | cons l ls ih =>
      obtain ⟨u, hu, hrest⟩ := exec_cons_eq_some.mp h
      cases l with
      | inl l =>
          obtain ⟨_, a, -, ha, rfl⟩ := step_inl hu
          exact exec_cons_eq_some.mpr ⟨a, ha, ih hrest⟩
      | inr l =>
          obtain ⟨wire, b, -, -, rfl⟩ := step_inr hu
          exact ih (s := ⟨s.left, b, _, wire⟩) hrest

/-- A run of both systems is a run of the right one. -/
theorem exec_right {ls : List (α ⊕ γ)} (h : exec (step A B) s ls = some t) :
    exec B.step s.right (rights ls) = some t.right := by
  induction ls generalizing s with
  | nil =>
      obtain rfl : s = t := by simpa using h
      rfl
  | cons l ls ih =>
      obtain ⟨u, hu, hrest⟩ := exec_cons_eq_some.mp h
      cases l with
      | inl l =>
          obtain ⟨wire, a, -, -, rfl⟩ := step_inl hu
          exact ih (s := ⟨a, s.right, wire, _⟩) hrest
      | inr l =>
          obtain ⟨_, b, -, hb, rfl⟩ := step_inr hu
          exact exec_cons_eq_some.mpr ⟨b, hb, ih hrest⟩

/-- What the left system has written is what the right one has read, and then what is
still on the wire. -/
theorem sent_eq_read_append {ls : List (α ⊕ γ)} {read : List β}
    (h0 : A.sent s.left = read ++ s.toRight) (hg : Along A.step A.Grows s.left (lefts ls))
    (h : exec (step A B) s ls = some t) :
    A.sent t.left = read ++ (rights ls).filterMap B.reads ++ t.toRight := by
  induction ls generalizing s read with
  | nil =>
      obtain rfl : s = t := by simpa using h
      simpa [rights] using h0
  | cons l ls ih =>
      obtain ⟨u, hu, hrest⟩ := exec_cons_eq_some.mp h
      cases l with
      | inl l =>
          obtain ⟨wire, a, -, ha, rfl⟩ := step_inl hu
          rw [lefts_cons_inl, along_cons_of_step ha] at hg
          obtain ⟨hgrow, hg⟩ := hg
          have hsent :
              A.sent a = read ++ (s.toRight ++ (A.sent a).drop (A.sent s.left).length) := by
            rw [← List.append_assoc, ← h0]
            exact (List.prefix_iff_eq_append.mp hgrow).symm
          simpa using ih hsent hg hrest
      | inr l =>
          obtain ⟨wire, b, hwire, -, rfl⟩ := step_inr hu
          have hsent : A.sent s.left = (read ++ (B.reads l).toList) ++ wire := by
            rw [h0, take_eq_some hwire, List.append_assoc]
          have hrun := ih (s := ⟨s.left, b, _, wire⟩) hsent hg hrest
          rw [rights_cons_inr, hrun]
          cases hl : B.reads l with
          | none => simp [hl]
          | some x => simp [hl]

end Link

end Transition
