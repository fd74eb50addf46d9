import Collaboration.Library.ServiceOrder
import Collaboration.Sender.Semantics

/-! # The order in which a connection's objects reach the stream

`run()` removes the newest task, so the submission order survives exactly as long as
no task has to wait behind another one. -/

namespace Collaboration.Sender

open Transition ServiceOrder

/-- The tasks taken out of the queue so far. -/
def served (s : Sender) : List SocketDataSendTask := s.attempts.map (·.1)

/-- The written objects appear in the order in which they were submitted. -/
def InSubmissionOrder (s : Sender) : Prop :=
  s.written.Pairwise fun a b => a.ordinal < b.ordinal

instance (s : Sender) : Decidable (InSubmissionOrder s) :=
  inferInstanceAs (Decidable (s.written.Pairwise fun a b => a.ordinal < b.ordinal))

/-- An iteration of `run()` finds at most one task in the queue. -/
def LoneDequeue (s : Sender) : Label → Sender → Prop
  | .run _, _ => s.pc = .locking → s.mMessageTask.length ≤ 1
  | _, _ => True

instance (s : Sender) (l : Label) (t : Sender) : Decidable (LoneDequeue s l t) :=
  match l with
  | .run _ => inferInstanceAs (Decidable (s.pc = .locking → s.mMessageTask.length ≤ 1))
  | .start | .addMessage _ _ | .addHeartbeatPackage | .stopRuning | .closeStream =>
    .isTrue trivial

/-- Numbers are handed out in order and never twice. -/
structure Backlog (s : Sender) : Prop where
  waiting : Waiting SocketDataSendTask.ordinal s.mMessageTask s.submitted
  fresh : ∀ a ∈ s.served, a.ordinal < s.submitted

/-- The log of dequeued tasks is in order, and nothing older waits. -/
abbrev Ordered (s : Sender) : Prop :=
  InOrder SocketDataSendTask.ordinal s.served s.mMessageTask

theorem written_sublist_served (s : Sender) : s.written.Sublist s.served :=
  List.filter_sublist.map _

theorem Ordered.inSubmissionOrder {s : Sender} (h : Ordered s) : InSubmissionOrder s :=
  h.sorted.sublist s.written_sublist_served

theorem served_of_serves {s t : Sender} {l : Label} (h : Serves s l t) :
    ∃ task, s.mMessageTask = t.mMessageTask ++ [task] ∧ t.served = s.served ++ [task] := by
  obtain ⟨task, success, hq, ha⟩ := h.attempt
  exact ⟨task, hq, by simp [served, ha]⟩

theorem loneDequeue_iff_of_serves {s t : Sender} {l : Label} (h : Serves s l t) :
    LoneDequeue s l t ↔ t.mMessageTask = [] := by
  obtain ⟨written, rfl⟩ := h.label
  obtain ⟨task, hq, -⟩ := served_of_serves h
  simp [LoneDequeue, h.locking, hq]

theorem loneDequeue_of_submits {s t : Sender} {l : Label} (hs : s.step l = some t)
    (h : Submits s t) : LoneDequeue s l t := by
  cases l with
  | run written =>
      rcases run_backlog hs with hv | hk
      · have := hv.submitted_eq.symm.trans h.submitted_eq
        omega
      · have := hk.submitted_eq.symm.trans h.submitted_eq
        omega
  | _ => trivial

theorem loneDequeue_of_keepsBacklog {s t : Sender} {l : Label} (h : KeepsBacklog s l t) :
    LoneDequeue s l t := by
  cases l with
  | run written =>
      intro hpc
      simp [h.idle hpc ⟨written, rfl⟩]
  | _ => trivial

theorem backlog_new (enableHearbeat : Bool) : Backlog (new enableHearbeat) :=
  ⟨.nil _, by simp [served, new]⟩

theorem ordered_new (enableHearbeat : Bool) : Ordered (new enableHearbeat) :=
  .nil _

theorem backlog_step {s t : Sender} {l : Label} (hb : Backlog s)
    (hs : s.step l = some t) : Backlog t := by
  rcases step_backlog hs with h | h | h
  · obtain ⟨task, ho, hq⟩ := h.queue
    refine ⟨?_, ?_⟩
    · rw [hq, h.submitted_eq, ← ho]
      exact Waiting.put (ho ▸ hb.waiting)
    · intro a ha
      rw [h.submitted_eq]
      exact Nat.lt_succ_of_lt (hb.fresh a (by simpa [served, h.attempts_eq] using ha))
  · obtain ⟨task, hq, ha⟩ := served_of_serves h
    refine ⟨?_, ?_⟩
    · rw [h.submitted_eq]
      exact hb.waiting.sublist (by simp [hq])
    · intro a hmem
      rw [h.submitted_eq]
      rw [ha] at hmem
      rcases List.mem_append.mp hmem with hmem | hmem
      · exact hb.fresh a hmem
      · rw [List.mem_singleton.mp hmem]
        exact hb.waiting.fresh task (by simp [hq])
  · refine ⟨?_, ?_⟩
    · rw [h.queue_eq, h.submitted_eq]
      exact hb.waiting
    · simpa only [served, h.attempts_eq, h.submitted_eq] using hb.fresh

/-- While the log is in order, a step keeps it so exactly when it dequeues a lone task
or none at all. -/
theorem ordered_step_iff {s t : Sender} {l : Label} (hb : Backlog s) (ho : Ordered s)
    (hs : s.step l = some t) : Ordered t ↔ LoneDequeue s l t := by
  rcases step_backlog hs with h | h | h
  · obtain ⟨task, hn, hq⟩ := h.queue
    have hserved : t.served = s.served := by simp [served, h.attempts_eq]
    refine iff_of_true ?_ (loneDequeue_of_submits hs h)
    rw [Ordered, hserved, hq]
    exact ho.put fun a ha => hn ▸ hb.fresh a ha
  · obtain ⟨task, hq, ha⟩ := served_of_serves h
    rw [loneDequeue_iff_of_serves h, Ordered, ha]
    exact InOrder.serve_last_iff (hq ▸ hb.waiting) (hq ▸ ho)
  · refine iff_of_true ?_ (loneDequeue_of_keepsBacklog h)
    simpa only [Ordered, served, h.attempts_eq, h.queue_eq] using ho

/-! ## A task left behind -/

/-- `b` was dequeued while the older task `a` was still waiting. -/
def Overtaken (a b : SocketDataSendTask) (s : Sender) : Prop :=
  b ∈ s.served ∧ a ∈ s.mMessageTask ∨ ∃ pre post, s.served = pre ++ b :: post ∧ a ∈ post

theorem overtaken_step {a b : SocketDataSendTask} {s t : Sender} {l : Label}
    (h : Overtaken a b s) (hs : s.step l = some t) : Overtaken a b t := by
  have hmono : ∀ new, t.served = s.served ++ new →
      (∃ pre post, s.served = pre ++ b :: post ∧ a ∈ post) → Overtaken a b t := by
    rintro new hnew ⟨pre, post, hp, ha⟩
    exact .inr ⟨pre, post ++ new, by simp [hnew, hp], by simp [ha]⟩
  rcases step_backlog hs with hstep | hstep | hstep
  · obtain ⟨task, -, hq⟩ := hstep.queue
    have hserved : t.served = s.served := by simp [served, hstep.attempts_eq]
    rcases h with ⟨hb, ha⟩ | h
    · exact .inl ⟨hserved ▸ hb, by simp [hq, ha]⟩
    · exact hmono [] (by simp [hserved]) h
  · obtain ⟨task, hq, hserved⟩ := served_of_serves hstep
    rcases h with ⟨hb, ha⟩ | h
    · rw [hq] at ha
      rcases List.mem_append.mp ha with ha | ha
      · exact .inl ⟨by simp [hserved, hb], ha⟩
      · obtain ⟨pre, post, hp⟩ := List.append_of_mem hb
        rw [List.mem_singleton.mp ha]
        exact .inr ⟨pre, post ++ [task], by simp [hserved, hp], by simp⟩
    · exact hmono [task] hserved h
  · have hserved : t.served = s.served := by simp [served, hstep.attempts_eq]
    rcases h with ⟨hb, ha⟩ | h
    · exact .inl ⟨hserved ▸ hb, by simpa [hstep.queue_eq] using ha⟩
    · exact hmono [] (by simp [hserved]) h

/-- Serving the newest of several tasks leaves an older one behind. -/
theorem overtaken_of_not_loneDequeue {s t : Sender} {l : Label} (hb : Backlog s)
    (hs : s.step l = some t) (h : ¬ LoneDequeue s l t) :
    ∃ a b, a.ordinal < b.ordinal ∧ Overtaken a b t := by
  rcases step_backlog hs with hstep | hstep | hstep
  · exact (h (loneDequeue_of_submits hs hstep)).elim
  · obtain ⟨task, hq, hserved⟩ := served_of_serves hstep
    rw [loneDequeue_iff_of_serves hstep] at h
    obtain ⟨a, ha⟩ := List.exists_mem_of_ne_nil _ h
    have hsorted := hb.waiting.sorted
    rw [hq] at hsorted
    exact ⟨a, task, (List.pairwise_append.mp hsorted).2.2 a ha task (by simp),
      .inl ⟨by simp [hserved], ha⟩⟩
  · exact (h (loneDequeue_of_keepsBacklog hstep)).elim

theorem not_sorted_of_overtaken {a b : SocketDataSendTask} {s : Sender}
    (hlt : a.ordinal < b.ordinal) (h : Overtaken a b s) (hempty : s.mMessageTask = []) :
    ¬ s.served.Pairwise fun a b => a.ordinal < b.ordinal := by
  rcases h with ⟨-, ha⟩ | ⟨pre, post, hp, ha⟩
  · simp [hempty] at ha
  · intro hsorted
    rw [hp] at hsorted
    have := (List.pairwise_cons.mp (List.pairwise_append.mp hsorted).2.1).1 a ha
    omega

theorem served_eq_written {s : Sender} (h : ∀ p ∈ s.attempts, p.2 = true) :
    s.served = s.written := by
  rw [served, written, List.filter_eq_self.mpr h]

theorem along_loneDequeue_of_sorted {s t : Sender} {ls : List Label} (hb : Backlog s)
    (he : exec step s ls = some t) (hempty : t.mMessageTask = [])
    (hsorted : t.served.Pairwise fun a b => a.ordinal < b.ordinal) :
    Along step LoneDequeue s ls := by
  induction ls generalizing s with
  | nil => trivial
  | cons l ls ih =>
      obtain ⟨u, hu, he⟩ := exec_cons_eq_some.mp he
      rw [along_cons_of_step hu]
      refine ⟨?_, ih (backlog_step hb hu) he⟩
      by_contra hlone
      obtain ⟨a, b, hlt, hover⟩ := overtaken_of_not_loneDequeue hb hu hlone
      have hend := invariant (fun _ _ _ h hs => overtaken_step h hs) hover he
      exact not_sorted_of_overtaken hlt hend hempty hsorted

/-- In every run in which each iteration finds at most one task, the objects reach the
stream in submission order; a run that has written everything it was given did so in
submission order only if each iteration found at most one task. -/
theorem sends_in_submission_order (enableHearbeat : Bool) (ls : List Label) (s : Sender)
    (he : exec step (new enableHearbeat) ls = some s) :
    (Along step LoneDequeue (new enableHearbeat) ls → InSubmissionOrder s) ∧
    (s.mMessageTask = [] → (∀ p ∈ s.attempts, p.2 = true) → InSubmissionOrder s →
      Along step LoneDequeue (new enableHearbeat) ls) := by
  constructor
  · intro halong
    have h : Backlog s ∧ Ordered s :=
      invariant_along (I := fun s => Backlog s ∧ Ordered s)
        (fun _ _ _ hi hs hl => ⟨backlog_step hi.1 hs, (ordered_step_iff hi.1 hi.2 hs).mpr hl⟩)
        ⟨backlog_new _, ordered_new _⟩ halong he
    exact h.2.inSubmissionOrder
  · intro hempty hall hsorted
    refine along_loneDequeue_of_sorted (backlog_new _) he hempty ?_
    rw [served_eq_written hall]
    exact hsorted

/-- Two reports of one call, both submitted before the thread takes one. -/
def burst : List Label :=
  [.start, .run true, .addMessage (.string (JString.lit "INCOMING")) true,
    .addMessage (.string (JString.lit "ACTIVE")) true,
    .run true, .run true, .run true, .run true]

/-- The same reports, the first one written before the second is submitted. -/
def spaced : List Label :=
  [.start, .run true, .addMessage (.string (JString.lit "INCOMING")) true, .run true, .run true,
    .addMessage (.string (JString.lit "ACTIVE")) true, .run true, .run true]

theorem sends_in_submission_order_spaced :
    InSubmissionOrder ((exec step (new false) spaced).get (by decide)) :=
  (sends_in_submission_order false spaced _ (Option.some_get _).symm).1 (by decide)

theorem burst_out_of_order :
    ¬ ∀ ls s, exec step (new false) ls = some s → InSubmissionOrder s := by
  intro h
  have hburst := h burst _ (Option.some_get (by decide)).symm
  exact absurd hburst (by decide)

end Collaboration.Sender
