import Mathlib.Data.List.Basic

/-! # Schedules of a labelled transition system

A system is a partial step function; a label fixes every choice of the environment
and of the scheduler, so that a schedule determines its run. -/

namespace Transition

variable {σ α : Type*}

/-- Executes a schedule label by label; `none` when some label is not enabled. -/
def exec (step : σ → α → Option σ) : σ → List α → Option σ
  | s, [] => some s
  | s, l :: ls => (step s l).bind fun t => exec step t ls

/-- `P` holds of every step `s --l--> t` that the schedule takes from the given state. -/
def Along (step : σ → α → Option σ) (P : σ → α → σ → Prop) : σ → List α → Prop
  | _, [] => True
  | s, l :: ls =>
    match step s l with
    | none => True
    | some t => P s l t ∧ Along step P t ls

instance Along.decidable (step : σ → α → Option σ) (P : σ → α → σ → Prop)
    [∀ s l t, Decidable (P s l t)] : ∀ s ls, Decidable (Along step P s ls)
  | _, [] => .isTrue trivial
  | s, l :: ls =>
    match h : step s l with
    | none => .isTrue (by simp [Along, h])
    | some t =>
      have := Along.decidable step P t ls
      decidable_of_iff (P s l t ∧ Along step P t ls) (by simp [Along, h])

/-- The states that some schedule leads to. -/
def Reachable (step : σ → α → Option σ) (s t : σ) : Prop :=
  ∃ ls, exec step s ls = some t

variable {step : σ → α → Option σ} {P Q : σ → α → σ → Prop}

@[simp] theorem exec_nil (s : σ) : exec step s [] = some s := rfl

@[simp] theorem exec_cons (s : σ) (l : α) (ls : List α) :
    exec step s (l :: ls) = (step s l).bind fun t => exec step t ls := rfl

theorem exec_append (s : σ) (ls ms : List α) :
    exec step s (ls ++ ms) = (exec step s ls).bind fun t => exec step t ms := by
  induction ls generalizing s with
  | nil => rfl
  | cons l ls ih =>
      simp only [List.cons_append, exec_cons, Option.bind_assoc]
      exact Option.bind_congr fun t _ => ih t

theorem exec_cons_eq_some {s u : σ} {l : α} {ls : List α} :
    exec step s (l :: ls) = some u ↔ ∃ t, step s l = some t ∧ exec step t ls = some u := by
  simp [Option.bind_eq_some_iff]

theorem exec_concat_eq_some {s u : σ} {l : α} {ls : List α} :
    exec step s (ls ++ [l]) = some u ↔ ∃ t, exec step s ls = some t ∧ step t l = some u := by
  simp [exec_append, Option.bind_eq_some_iff]

@[simp] theorem along_nil (s : σ) : Along step P s [] := trivial

theorem along_cons_of_step {s t : σ} {l : α} (h : step s l = some t) (ls : List α) :
    Along step P s (l :: ls) ↔ P s l t ∧ Along step P t ls := by
  simp [Along, h]

theorem along_true (s : σ) (ls : List α) : Along step (fun _ _ _ => True) s ls := by
  induction ls generalizing s with
  | nil => trivial
  | cons l ls ih =>
      cases h : step s l with
      | none => simp [Along, h]
      | some t => exact (along_cons_of_step h ls).mpr ⟨trivial, ih t⟩

/-- A condition on the labels alone. -/
theorem along_of_forall {A : α → Prop} {ls : List α} (h : ∀ l ∈ ls, A l) (s : σ) :
    Along step (fun _ l _ => A l) s ls := by
  induction ls generalizing s with
  | nil => trivial
  | cons l ls ih =>
      obtain ⟨hl, hls⟩ := List.forall_mem_cons.mp h
      cases hs : step s l with
      | none => simp [Along, hs]
      | some t => exact (along_cons_of_step hs ls).mpr ⟨hl, ih hls t⟩

/-- A property of every step. -/
theorem along_of_step (h : ∀ s l t, step s l = some t → P s l t) (s : σ) (ls : List α) :
    Along step P s ls := by
  induction ls generalizing s with
  | nil => trivial
  | cons l ls ih =>
      cases hs : step s l with
      | none => simp [Along, hs]
      | some t => exact (along_cons_of_step hs ls).mpr ⟨h s l t hs, ih t⟩

theorem Along.and {s : σ} {ls : List α} (hP : Along step P s ls) (hQ : Along step Q s ls) :
    Along step (fun s l t => P s l t ∧ Q s l t) s ls := by
  induction ls generalizing s with
  | nil => trivial
  | cons l ls ih =>
      cases h : step s l with
      | none => simp [Along, h]
      | some t =>
          rw [along_cons_of_step h] at hP hQ ⊢
          exact ⟨⟨hP.1, hQ.1⟩, ih hP.2 hQ.2⟩

theorem Along.of_append {s t : σ} {ls ms : List α} (h : Along step P s (ls ++ ms))
    (he : exec step s ls = some t) : Along step P t ms := by
  induction ls generalizing s with
  | nil =>
      obtain rfl : s = t := by simpa using he
      exact h
  | cons l ls ih =>
      obtain ⟨u, hu, he⟩ := exec_cons_eq_some.mp he
      rw [List.cons_append, along_cons_of_step hu] at h
      exact ih h.2 he

theorem Reachable.refl (s : σ) : Reachable step s s := ⟨[], rfl⟩

theorem Reachable.snoc {s t u : σ} {l : α} (h : Reachable step s t) (hs : step t l = some u) :
    Reachable step s u := by
  obtain ⟨ls, h⟩ := h
  exact ⟨ls ++ [l], exec_concat_eq_some.mpr ⟨t, h, hs⟩⟩

/-! ## Invariants -/

/-- An invariant that also speaks about the labels executed so far, of the steps that meet `P`,
holds at the end of every run whose steps all meet `P`. -/
theorem history_along {I : List α → σ → Prop}
    (hstep : ∀ past s l t, I past s → step s l = some t → P s l t → I (past ++ [l]) t)
    {s t : σ} {past ls : List α} (h0 : I past s) (ha : Along step P s ls)
    (he : exec step s ls = some t) : I (past ++ ls) t := by
  induction ls generalizing s past with
  | nil =>
      obtain rfl : s = t := by simpa using he
      simpa using h0
  | cons l ls ih =>
      obtain ⟨u, hu, he⟩ := exec_cons_eq_some.mp he
      rw [along_cons_of_step hu] at ha
      simpa using ih (hstep past s l u h0 hu ha.1) ha.2 he

theorem history {I : List α → σ → Prop}
    (hstep : ∀ past s l t, I past s → step s l = some t → I (past ++ [l]) t)
    {s t : σ} {past ls : List α} (h0 : I past s) (he : exec step s ls = some t) :
    I (past ++ ls) t :=
  history_along (fun past s l t hi hs _ => hstep past s l t hi hs) h0 (along_true s ls) he

/-- The same for a run from its start. -/
theorem history_nil {I : List α → σ → Prop}
    (hstep : ∀ past s l t, I past s → step s l = some t → I (past ++ [l]) t)
    {s t : σ} {ls : List α} (h0 : I [] s) (he : exec step s ls = some t) : I ls t :=
  @history σ α step I hstep s t [] ls h0 he

/-- The same rules for an invariant of the states alone. -/
theorem invariant_along {I : σ → Prop}
    (hstep : ∀ s l t, I s → step s l = some t → P s l t → I t)
    {s t : σ} {ls : List α} (h0 : I s) (ha : Along step P s ls)
    (he : exec step s ls = some t) : I t :=
  @history_along σ α step P (fun _ => I) (fun _ => hstep) s t [] ls h0 ha he

theorem invariant {I : σ → Prop} (hstep : ∀ s l t, I s → step s l = some t → I t)
    {s t : σ} {ls : List α} (h0 : I s) (he : exec step s ls = some t) : I t :=
  invariant_along (fun s l t hi hs _ => hstep s l t hi hs) h0 (along_true s ls) he

/-! ## Properties of every step of a run -/

theorem Along.imp_of_invariant {I : σ → Prop}
    (hstep : ∀ s l t, I s → step s l = some t → P s l t → I t)
    (himp : ∀ s l t, I s → step s l = some t → P s l t → Q s l t)
    {s : σ} {ls : List α} (h0 : I s) (ha : Along step P s ls) : Along step Q s ls := by
  induction ls generalizing s with
  | nil => trivial
  | cons l ls ih =>
      cases h : step s l with
      | none => simp [Along, h]
      | some u =>
          rw [along_cons_of_step h] at ha ⊢
          exact ⟨himp s l u h0 h ha.1, ih (hstep s l u h0 h ha.1) ha.2⟩

/-- A property of every step from a state where the invariant holds. -/
theorem along_of_invariant {I : σ → Prop} (hstep : ∀ s l t, I s → step s l = some t → I t)
    (himp : ∀ s l t, I s → step s l = some t → P s l t) {s : σ} (h0 : I s) (ls : List α) :
    Along step P s ls :=
  Along.imp_of_invariant (fun s l t hi h _ => hstep s l t hi h)
    (fun s l t hi h _ => himp s l t hi h) h0 (along_true s ls)

/-- Two step properties that agree as long as one of them keeps an invariant hold along the
same runs. -/
theorem along_congr {I : σ → Prop}
    (hstep : ∀ s l t, I s → step s l = some t → P s l t → I t)
    (hiff : ∀ s l t, I s → step s l = some t → (P s l t ↔ Q s l t))
    {s : σ} (h0 : I s) (ls : List α) : Along step P s ls ↔ Along step Q s ls := by
  constructor
  · exact Along.imp_of_invariant hstep (fun s l t hi h => (hiff s l t hi h).mp) h0
  · apply Along.imp_of_invariant _ (fun s l t hi h => (hiff s l t hi h).mpr) h0
    exact fun s l t hi h hq => hstep s l t hi h ((hiff s l t hi h).mpr hq)

/-- A property that a step keeps if and only if the step meets `P` holds at the end of a run
if and only if all steps of the run meet `P`. The labels may be restricted to those in `A`. -/
theorem iff_along {I G : σ → Prop} {A : α → Prop}
    (hinv : ∀ s l t, I s → step s l = some t → I t)
    (hiff : ∀ s l t, I s → A l → step s l = some t → (G t ↔ G s ∧ P s l t))
    {s t : σ} {ls : List α} (h0 : I s) (hA : ∀ l ∈ ls, A l) (he : exec step s ls = some t) :
    G t ↔ G s ∧ Along step P s ls := by
  induction ls generalizing s with
  | nil =>
      obtain rfl : s = t := by simpa using he
      simp
  | cons l ls ih =>
      obtain ⟨u, hu, he⟩ := exec_cons_eq_some.mp he
      obtain ⟨hl, hA⟩ := List.forall_mem_cons.mp hA
      rw [along_cons_of_step hu, ih (hinv s l u h0 hu) hA he, hiff s l u h0 hl hu, and_assoc]

/-- Two step properties that agree under an invariant hold along the same runs. -/
theorem along_congr_of_invariant {I : σ → Prop}
    (hstep : ∀ s l t, I s → step s l = some t → I t)
    (hiff : ∀ s l t, I s → step s l = some t → (P s l t ↔ Q s l t))
    {s : σ} (h0 : I s) (ls : List α) : Along step P s ls ↔ Along step Q s ls :=
  along_congr (fun s l t hi h _ => hstep s l t hi h) hiff h0 ls

/-- When each step appends entries to a log, and `P` says of a step that its entries
satisfy `R`, then `P` along a run says that all entries of the run satisfy `R`. -/
theorem forall_log_iff_along {β : Type*} (log : σ → List β) {R : β → Prop} {I : σ → Prop}
    (hinv : ∀ s l t, I s → step s l = some t → I t)
    (hlog : ∀ s l t, I s → step s l = some t →
      ∃ new, log t = log s ++ new ∧ ((∀ e ∈ new, R e) ↔ P s l t))
    {s t : σ} {ls : List α} (h0 : I s) (he : exec step s ls = some t) :
    (∀ e ∈ log t, R e) ↔ (∀ e ∈ log s, R e) ∧ Along step P s ls := by
  induction ls generalizing s with
  | nil =>
      obtain rfl : s = t := by simpa using he
      simp
  | cons l ls ih =>
      obtain ⟨u, hu, he⟩ := exec_cons_eq_some.mp he
      obtain ⟨new, hnew, hR⟩ := hlog s l u h0 hu
      rw [along_cons_of_step hu, ih (hinv s l u h0 hu) he, hnew, List.forall_mem_append, hR,
        and_assoc]

/-! ## Histories -/

section History

variable {γ : Type*} {record : γ → σ → α → γ}

/-- The system with a history beside its state, kept of the steps. -/
def withHistory (step : σ → α → Option σ) (record : γ → σ → α → γ) (s : σ × γ) (l : α) :
    Option (σ × γ) :=
  (step s.1 l).map fun t => (t, record s.2 s.1 l)

theorem withHistory_eq_some {s t : σ × γ} {l : α} :
    withHistory step record s l = some t ↔
      step s.1 l = some t.1 ∧ t.2 = record s.2 s.1 l := by
  obtain ⟨t, h⟩ := t
  simp only [withHistory, Option.map_eq_some_iff, Prod.mk.injEq]
  constructor
  · rintro ⟨u, hu, rfl, rfl⟩
    exact ⟨hu, rfl⟩
  · rintro ⟨ht, rfl⟩
    exact ⟨t, ht, rfl, rfl⟩

/-- A history restricts no run: what does not mention it holds along the same schedules. -/
theorem along_withHistory (step : σ → α → Option σ) (record : γ → σ → α → γ)
    (P : σ → α → σ → Prop) (s : σ × γ) (ls : List α) :
    Along (withHistory step record) (fun s l t => P s.1 l t.1) s ls ↔ Along step P s.1 ls := by
  induction ls generalizing s with
  | nil => exact Iff.rfl
  | cons l ls ih =>
      cases h : step s.1 l with
      | none => simp [Along, withHistory, h]
      | some t =>
          have hs : withHistory step record s l = some (t, record s.2 s.1 l) := by
            simp [withHistory, h]
          rw [along_cons_of_step h, along_cons_of_step hs, ih]

end History

/-! ## Simulations -/

/-- A step of `step` is a step of `step'` with the label given to it, or leaves the view alone. -/
structure Simulates {τ β : Type*} (step : σ → α → Option σ) (step' : τ → β → Option τ)
    (view : σ → τ) (label : σ → α → Option β) : Prop where
  moves : ∀ s l t m, step s l = some t → label s l = some m → step' (view s) m = some (view t)
  rests : ∀ s l t, step s l = some t → label s l = none → view t = view s

section Simulation

variable {τ β : Type*} {step' : τ → β → Option τ} {view : σ → τ} {label : σ → α → Option β}

/-- A run is a run of the simulating system, and a property holds along the one as it holds,
of the steps that are seen, along the other. -/
theorem Simulates.exec (h : Simulates step step' view label) (R : τ → β → τ → Prop) {s t : σ}
    {ls : List α} (he : exec step s ls = some t) :
    ∃ ms, Transition.exec step' (view s) ms = some (view t) ∧
      (Along step' R (view s) ms ↔
        Along step (fun s l t => ∀ m ∈ label s l, R (view s) m (view t)) s ls) := by
  induction ls generalizing s with
  | nil =>
      obtain rfl : s = t := by simpa using he
      exact ⟨[], rfl, by simp⟩
  | cons l ls ih =>
      obtain ⟨u, hu, he⟩ := exec_cons_eq_some.mp he
      obtain ⟨ms, hms, hR⟩ := ih he
      rw [along_cons_of_step hu]
      cases hl : label s l with
      | none =>
          have hview := h.rests s l u hu hl
          rw [hview] at hms hR
          exact ⟨ms, hms, by simpa using hR⟩
      | some m =>
          have hm := h.moves s l u m hu hl
          refine ⟨m :: ms, exec_cons_eq_some.mpr ⟨view u, hm, hms⟩, ?_⟩
          rw [along_cons_of_step hm, hR]
          simp

end Simulation

/-! ## Schedules of admissible labels

What the environment promises of a label may depend on the state in which the label comes. Where a
system takes every admissible label and keeps an invariant by it, it takes every schedule of them. -/

section Admissible

variable {step : σ → α → Option σ} {P : σ → α → Prop} {I : σ → Prop}

/-- Each label of the schedule is admissible in the state in which it comes. -/
def Admissible (step : σ → α → Option σ) (P : σ → α → Prop) : σ → List α → Prop
  | _, [] => True
  | s, l :: ls => P s l ∧ ∀ t, step s l = some t → Admissible step P t ls

/-- Labels may be admissible whatever the state is. -/
theorem admissible_of_forall {A : α → Prop} {ls : List α} (h : ∀ l ∈ ls, A l) (s : σ) :
    Admissible step (fun _ l => A l) s ls := by
  induction ls generalizing s with
  | nil => exact trivial
  | cons l ls ih =>
      obtain ⟨hl, hls⟩ := List.forall_mem_cons.mp h
      exact ⟨hl, fun t _ => ih hls t⟩

/-- Progress and preservation of a step carry over to a schedule. -/
theorem exec_of_admissible (hstep : ∀ s l, I s → P s l → ∃ t, step s l = some t ∧ I t)
    {s : σ} {ls : List α} (hs : I s) (h : Admissible step P s ls) :
    ∃ t, exec step s ls = some t ∧ I t := by
  induction ls generalizing s with
  | nil => exact ⟨s, rfl, hs⟩
  | cons l ls ih =>
      obtain ⟨hl, hls⟩ := h
      obtain ⟨t, ht, hkeep⟩ := hstep s l hs hl
      obtain ⟨u, hu, hend⟩ := ih hkeep (hls t ht)
      exact ⟨u, exec_cons_eq_some.mpr ⟨t, ht, hu⟩, hend⟩

end Admissible

end Transition

/-! ## Objects that answer calls

An object is refined by an implementation that gives the same answers to every list of calls. -/

namespace Calls

variable {σ τ α β : Type*}

/-- The answers to a list of calls; `none` when a call goes wrong. -/
def answers (perform : σ → α → Option (σ × β)) : σ → List α → Option (List β)
  | _, [] => some []
  | s, a :: as =>
    (perform s a).bind fun r => (answers perform r.1 as).map (r.2 :: ·)

/-- The state after a list of calls to an object that always answers. -/
def after (spec : τ → α → τ × β) (u : τ) (as : List α) : τ :=
  as.foldl (fun u a => (spec u a).1) u

/-- The answers of an object that always answers. -/
def replies (spec : τ → α → τ × β) : τ → List α → List β
  | _, [] => []
  | u, a :: as => (spec u a).2 :: replies spec (spec u a).1 as

variable {perform : σ → α → Option (σ × β)} {spec : τ → α → τ × β}

/-- Each call of the implementation answers as the object does and keeps the two related. -/
def Refines (perform : σ → α → Option (σ × β)) (spec : τ → α → τ × β) (R : σ → τ → Prop) : Prop :=
  ∀ s u a, R s u → ∃ t, perform s a = some (t, (spec u a).2) ∧ R t (spec u a).1

theorem Refines.answers_eq {R : σ → τ → Prop} (h : Refines perform spec R) {s : σ} {u : τ}
    (h0 : R s u) (as : List α) : answers perform s as = some (replies spec u as) := by
  induction as generalizing s u with
  | nil => rfl
  | cons a as ih =>
      obtain ⟨t, ht, hR⟩ := h s u a h0
      simp [answers, replies, ht, ih hR]

end Calls
