import Collaboration.Library.Transition

/-! # A thread that serves a queue until it is told to stop

The thread sleeps while its queue is empty, is woken by submissions only, and looks at the
stop flag between two services. Telling it to stop sets the flag and wakes nobody. -/

namespace QueueThread

open Transition

/-- Where the thread is. -/
inductive Pc where
  | created
  /-- before the flag is cleared, in threads that do so first -/
  | started
  | looping
  | locking
  | waiting
  | exited
  deriving DecidableEq, Repr

structure Thread where
  pending : ℕ
  stopped : Bool
  pc : Pc
  /-- the number of services begun so far -/
  served : ℕ
  deriving DecidableEq, Repr

inductive Label where
  | start
  | submit
  | stop
  | run
  /-- anything that the thread does not notice -/
  | other
  deriving DecidableEq, Repr

/-- What the thread does next. -/
def Thread.run (t : Thread) : Option Thread :=
  match t.pc with
  | .created | .waiting | .exited => none
  | .started => some { t with stopped := false, pc := .looping }
  | .looping => some { t with pc := if t.stopped then .exited else .locking }
  | .locking =>
    some (if t.pending = 0 then { t with pc := .waiting }
      else { t with pending := t.pending - 1, served := t.served + 1, pc := .looping })

/-- `clears` tells whether the thread clears the flag when it begins. -/
def step (clears : Bool) (t : Thread) : Label → Option Thread
  | .start =>
    if t.pc = .created then some { t with pc := if clears then .started else .looping } else none
  | .submit =>
    some { t with
      pending := t.pending + 1
      pc := if t.pc = .waiting then .locking else t.pc }
  | .stop => some { t with stopped := true }
  | .run => t.run
  | .other => some t

/-- What the thread can do next, case by case. -/
inductive Runs (t : Thread) : Thread → Prop
  | clears (hpc : t.pc = .started) : Runs t { t with stopped := false, pc := .looping }
  | leaves (hpc : t.pc = .looping) (hstop : t.stopped = true) : Runs t { t with pc := .exited }
  | loops (hpc : t.pc = .looping) (hstop : t.stopped = false) : Runs t { t with pc := .locking }
  | sleeps (hpc : t.pc = .locking) (hempty : t.pending = 0) : Runs t { t with pc := .waiting }
  | serves (hpc : t.pc = .locking) (hne : t.pending ≠ 0) :
      Runs t { t with pending := t.pending - 1, served := t.served + 1, pc := .looping }

theorem runs_of_run {t u : Thread} (h : t.run = some u) : Runs t u := by
  unfold Thread.run at h
  split at h
  · cases h
  · cases h
  · cases h
  · rename_i hpc
    obtain rfl := Option.some.inj h
    exact .clears hpc
  · rename_i hpc
    obtain rfl := Option.some.inj h
    split
    · rename_i hstop
      exact .leaves hpc hstop
    · rename_i hstop
      exact .loops hpc (by simpa using hstop)
  · rename_i hpc
    obtain rfl := Option.some.inj h
    split
    · rename_i hempty
      exact .sleeps hpc hempty
    · rename_i hne
      exact .serves hpc hne

/-! ## The thread on its own -/

/-- A thread sleeps only on an empty queue, and leaves only when told to. -/
structure Ok (t : Thread) : Prop where
  waiting : t.pc = .waiting → t.pending = 0
  exited : t.pc = .exited → t.stopped = true

theorem ok_run {t u : Thread} (h : t.run = some u) : Ok u := by
  cases runs_of_run h with
  | clears | loops | serves => exact ⟨by simp, by simp⟩
  | leaves _ hstop => exact ⟨by simp, fun _ => hstop⟩
  | sleeps _ hempty => exact ⟨fun _ => hempty, by simp⟩

theorem ok_step {clears : Bool} {t u : Thread} {l : Label} (h : Ok t)
    (hs : step clears t l = some u) : Ok u := by
  cases l with
  | start =>
      simp only [step, Option.ite_none_right_eq_some, Option.some.injEq] at hs
      obtain ⟨-, rfl⟩ := hs
      cases clears <;> exact ⟨by simp, by simp⟩
  | submit =>
      obtain rfl := Option.some.inj hs
      by_cases hpc : t.pc = .waiting
      · exact ⟨by simp [hpc], by simp [hpc]⟩
      · exact ⟨by simp [hpc], by simpa [hpc] using h.exited⟩
  | stop =>
      obtain rfl := Option.some.inj hs
      exact ⟨h.waiting, fun _ => rfl⟩
  | run => exact ok_run hs
  | other =>
      obtain rfl := Option.some.inj hs
      exact h

/-- Nothing but a call of stop sets the flag. -/
theorem stopped_step {clears : Bool} {t u : Thread} {l : Label} (h : t.stopped = false)
    (hs : step clears t l = some u) (hl : l ≠ .stop) : u.stopped = false := by
  cases l with
  | start =>
      simp only [step, Option.ite_none_right_eq_some, Option.some.injEq] at hs
      obtain ⟨-, rfl⟩ := hs
      exact h
  | submit | other =>
      obtain rfl := Option.some.inj hs
      exact h
  | stop => exact absurd rfl hl
  | run => cases runs_of_run hs with
    | clears => rfl
    | leaves | loops | sleeps | serves => exact h

/-- A thread at its test that was told to stop, or has left. -/
structure Ending (served : ℕ) (t : Thread) : Prop where
  stopped : t.stopped = true
  pc : t.pc = .looping ∨ t.pc = .exited
  served_eq : t.served = served

theorem ending_step {clears : Bool} {served : ℕ} {t u : Thread} {l : Label}
    (h : Ending served t) (hs : step clears t l = some u) : Ending served u := by
  cases l with
  | start =>
      simp only [step, Option.ite_none_right_eq_some, Option.some.injEq] at hs
      obtain ⟨hpc, -⟩ := hs
      rcases h.pc with hpc' | hpc' <;> simp [hpc] at hpc'
  | submit =>
      obtain rfl := Option.some.inj hs
      refine ⟨h.stopped, ?_, h.served_eq⟩
      rcases h.pc with hpc | hpc <;> simp [hpc]
  | stop =>
      obtain rfl := Option.some.inj hs
      exact ⟨rfl, h.pc, h.served_eq⟩
  | run =>
      rcases h.pc with hpc | hpc
      · cases runs_of_run hs with
        | leaves => exact ⟨h.stopped, .inr rfl, h.served_eq⟩
        | loops _ hstop => simp [h.stopped] at hstop
        | clears hpc' | sleeps hpc' | serves hpc' => simp [hpc] at hpc'
      · simp [step, Thread.run, hpc] at hs
  | other =>
      obtain rfl := Option.some.inj hs
      exact h

/-- A thread that has not cleared the flag yet, or was not told to stop since, never leaves. -/
def Restless (t : Thread) : Prop := t.pc = .started ∨ t.stopped = false ∧ t.pc ≠ .exited

theorem restless_run {t u : Thread} (h : Restless t) (hs : t.run = some u) : Restless u := by
  cases runs_of_run hs with
  | clears => exact .inr ⟨rfl, by simp⟩
  | leaves hpc hstop =>
      rcases h with hpc' | ⟨hstop', -⟩
      · simp [hpc] at hpc'
      · simp [hstop] at hstop'
  | loops hpc hstop => exact .inr ⟨hstop, by simp⟩
  | sleeps hpc | serves hpc =>
      rcases h with hpc' | ⟨hstop, -⟩
      · simp [hpc] at hpc'
      · exact .inr ⟨hstop, by simp⟩

theorem Restless.pc_ne_exited {t : Thread} (h : Restless t) : t.pc ≠ .exited := by
  rcases h with hpc | ⟨-, hpc⟩
  · simp [hpc]
  · exact hpc

/-! ## A system that contains such a thread -/

/-- `view` is what the thread sees of the system, and `label` what it sees of its steps. -/
structure Implements {σ α : Type*} (clears : Bool) (sys : σ → α → Option σ) (view : σ → Thread)
    (label : α → Label) : Prop where
  step : ∀ s l t, sys s l = some t → step clears (view s) (label l) = some (view t)
  run : ∀ s, (view s).run.isSome = true → ∃ l t, label l = .run ∧ sys s l = some t

section Stop

variable {σ α : Type*} {clears : Bool} {sys : σ → α → Option σ} {view : σ → Thread}
  {label : α → Label}

/-- Whatever follows a single call of stop, which leads to `s`: the thread begins no further
service, does not sleep on an empty queue, and can leave by its own steps. -/
def StopTakesEffect (sys : σ → α → Option σ) (view : σ → Thread) (label : α → Label) (s : σ) :
    Prop :=
  ∀ ls t, (∀ l ∈ ls, label l ≠ .stop) → exec sys s ls = some t →
    (view t).served = (view s).served ∧
    ¬((view t).pc = .waiting ∧ (view t).stopped = true ∧ (view t).pending = 0) ∧
    ∃ ms u, (∀ m ∈ ms, label m = .run) ∧ exec sys t ms = some u ∧ (view u).pc = .exited

theorem Implements.ending (h : Implements clears sys view label) {s t : σ} {ls : List α}
    {served : ℕ} (hs : Ending served (view s)) (he : exec sys s ls = some t) :
    Ending served (view t) :=
  invariant (I := fun s => Ending served (view s))
    (fun _ _ _ hi hs => ending_step hi (h.step _ _ _ hs)) hs he

theorem Implements.restless (h : Implements clears sys view label) {s t : σ} {ls : List α}
    (hls : ∀ l ∈ ls, label l = .run) (hs : Restless (view s)) (he : exec sys s ls = some t) :
    Restless (view t) :=
  invariant_along (I := fun s => Restless (view s))
    (fun s l t hi hst hl => by
      have hrun := h.step s l t hst
      rw [hl] at hrun
      exact restless_run hi hrun)
    hs (along_of_forall hls s) he

/-- Until the call of stop the flag is down. -/
theorem Implements.not_stopped (h : Implements clears sys view label) {s t : σ} {ls : List α}
    (hls : ∀ l ∈ ls, label l ≠ .stop) (hs : (view s).stopped = false)
    (he : exec sys s ls = some t) : (view t).stopped = false :=
  invariant_along (I := fun s => (view s).stopped = false)
    (fun s l t hi hst hl => stopped_step hi (h.step s l t hst) hl) hs (along_of_forall hls s) he

theorem Implements.ok (h : Implements clears sys view label) {s t : σ} {ls : List α}
    (hs : Ok (view s)) (he : exec sys s ls = some t) : Ok (view t) :=
  invariant (I := fun s => Ok (view s)) (fun s l t hi hst => ok_step hi (h.step s l t hst)) hs he

/-- A thread at its test that was told to stop leaves with its next step. -/
theorem Implements.leaves (h : Implements clears sys view label) {s : σ} {served : ℕ}
    (hs : Ending served (view s)) :
    ∃ ms u, (∀ m ∈ ms, label m = .run) ∧ exec sys s ms = some u ∧ (view u).pc = .exited := by
  rcases hs.pc with hpc | hpc
  · obtain ⟨l, t, hl, ht⟩ := h.run s (by simp [Thread.run, hpc])
    have hrun := h.step _ _ _ ht
    rw [hl] at hrun
    refine ⟨[l], t, by simp [hl], by simp [ht], ?_⟩
    generalize view t = v at hrun
    cases runs_of_run hrun with
    | leaves => rfl
    | loops _ hstop => simp [hs.stopped] at hstop
    | clears hpc' | sleeps hpc' | serves hpc' => simp [hpc] at hpc'
  · exact ⟨[], s, by simp, rfl, hpc⟩

/-- A call of stop takes effect exactly if it finds the thread at its test, or gone. -/
theorem Implements.stopTakesEffect_iff (h : Implements clears sys view label) {s : σ}
    (hok : Ok (view s)) (hstop : (view s).stopped = true) (hstarted : (view s).pc ≠ .created) :
    StopTakesEffect sys view label s ↔ (view s).pc = .looping ∨ (view s).pc = .exited := by
  constructor
  · intro heffect
    cases hpc : (view s).pc with
    | created => exact absurd hpc hstarted
    | started =>
        obtain ⟨-, -, ms, u, hms, he, hexit⟩ := heffect [] s (by simp) rfl
        exact absurd hexit (h.restless hms (.inl hpc) he).pc_ne_exited
    | looping => exact .inl rfl
    | locking =>
        obtain ⟨l, t, hl, ht⟩ := h.run s (by simp [Thread.run, hpc])
        have hrun := h.step _ _ _ ht
        rw [hl] at hrun
        obtain ⟨hserved, hsleeps, -⟩ := heffect [l] t (by simp [hl]) (by simp [ht])
        generalize view t = v at hrun hserved hsleeps
        cases runs_of_run hrun with
        | sleeps _ hempty => exact absurd ⟨rfl, hstop, hempty⟩ hsleeps
        | serves => simp at hserved
        | clears hpc' | leaves hpc' | loops hpc' => simp [hpc] at hpc'
    | waiting =>
        obtain ⟨-, hsleeps, -⟩ := heffect [] s (by simp) rfl
        exact absurd ⟨hpc, hstop, hok.waiting hpc⟩ hsleeps
    | exited => exact .inr rfl
  · intro hpc ls t _ he
    have hending := h.ending ⟨hstop, hpc, rfl⟩ he
    refine ⟨hending.served_eq, ?_, h.leaves hending⟩
    rintro ⟨hwaiting, -⟩
    rcases hending.pc with hpc | hpc <;> simp [hwaiting] at hpc

/-- The first call of stop in a run, after the start of the thread, takes effect exactly if it
finds the thread at its test. -/
theorem Implements.first_stop_iff (h : Implements clears sys view label) {s₀ s t : σ}
    {ls : List α} {l : α} (hok : Ok (view s₀)) (hdown : (view s₀).stopped = false)
    (hls : ∀ l ∈ ls, label l ≠ .stop) (he : exec sys s₀ ls = some s)
    (hstarted : (view s).pc ≠ .created) (hl : label l = .stop) (hs : sys s l = some t) :
    StopTakesEffect sys view label t ↔ (view s).pc = .looping := by
  have hok := h.ok hok he
  have hdown := h.not_stopped hls hdown he
  have hview : { view s with stopped := true } = view t := by
    have hstep := h.step s l t hs
    rw [hl] at hstep
    exact Option.some.inj hstep
  have hnot : (view s).pc ≠ .exited := fun hpc => by simpa [hdown] using hok.exited hpc
  have hiff := h.stopTakesEffect_iff (s := t) (hview ▸ ⟨hok.waiting, fun _ => rfl⟩) (hview ▸ rfl)
    (hview ▸ hstarted)
  rw [hiff, ← hview]
  exact or_iff_left hnot

end Stop

end QueueThread
