import Collaboration.Sender.Order
import Mathlib.Data.List.Nodup

/-! # Which messages have been reported to their listeners

The messages given to `addMessage` are those with a listener. Each waits in the queue or has been
served, and `onDataSendDone` has been called once for each one that was served. -/

namespace Collaboration.Sender

/-- The tasks in the queue, then those taken out of it. -/
def tasks (s : Sender) : List SocketDataSendTask := s.mMessageTask ++ s.served

/-- No message waits in the queue. -/
def NoneWaiting (s : Sender) : Prop := ∀ task ∈ s.mMessageTask, task.listener = false

instance (s : Sender) : Decidable s.NoneWaiting :=
  inferInstanceAs (Decidable (∀ task ∈ s.mMessageTask, task.listener = false))

/-- The account of the messages accepted so far. -/
structure Accounts (s : Sender) (accepted : List SocketDataSendTask) : Prop where
  perm : (s.tasks.filter (·.listener)).Perm accepted
  nodup : s.tasks.Nodup
  fresh : ∀ a ∈ s.tasks, a.ordinal < s.submitted
  callbacks : s.callbacks = (s.attempts.filter (·.1.listener)).map fun e => (e.1.id, e.2)

theorem accounts_new (enableHearbeat : Bool) : Accounts (new enableHearbeat) [] :=
  ⟨.refl _, .nil, by simp [tasks, served, new], rfl⟩

section Steps

variable {s t : Sender} {accepted : List SocketDataSendTask}

/-- A step that neither submits nor serves. -/
theorem Accounts.same (h : Accounts s accepted) (hqueue : t.mMessageTask = s.mMessageTask)
    (hattempts : t.attempts = s.attempts) (hcallbacks : t.callbacks = s.callbacks)
    (hsubmitted : t.submitted = s.submitted) : Accounts t accepted := by
  have htasks : t.tasks = s.tasks := by simp [tasks, served, hqueue, hattempts]
  exact ⟨htasks ▸ h.perm, htasks ▸ h.nodup, htasks ▸ hsubmitted ▸ h.fresh,
    by rw [hcallbacks, hattempts, h.callbacks]⟩

/-- The task that a submission appends is new. -/
theorem Accounts.enqueue (h : Accounts s accepted) (id : Int32) (d : Data) (listener : Bool) :
    Accounts (s.enqueue id d listener)
      (accepted ++ [⟨id, d, listener, s.submitted⟩].filter (·.listener)) := by
  let task : SocketDataSendTask := ⟨id, d, listener, s.submitted⟩
  have htasks : (s.enqueue id d listener).tasks.Perm (s.tasks ++ [task]) := by
    simp only [tasks, served, Sender.enqueue, List.append_assoc]
    exact List.Perm.append_left _ List.perm_append_comm
  refine ⟨?_, ?_, ?_, h.callbacks⟩
  · refine (htasks.filter _).trans ?_
    rw [List.filter_append]
    exact h.perm.append_right _
  · rw [htasks.nodup_iff, List.nodup_append]
    refine ⟨h.nodup, List.nodup_singleton _, ?_⟩
    rintro a ha b hb rfl
    obtain rfl := List.mem_singleton.mp hb
    exact Nat.lt_irrefl _ (h.fresh _ ha)
  · intro a ha
    rcases List.mem_append.mp (htasks.subset ha) with ha | ha
    · exact Nat.lt_succ_of_lt (h.fresh a ha)
    · obtain rfl := List.mem_singleton.mp ha
      exact Nat.lt_succ_self _

/-- Serving moves a task from the queue to those taken out. -/
theorem tasks_send {rest : List SocketDataSendTask} {task : SocketDataSendTask}
    (hqueue : s.mMessageTask = rest ++ [task]) (written : Bool) :
    (s.send task written).tasks.Perm s.tasks := by
  simp only [tasks, served, Sender.send, hqueue, List.dropLast_concat, List.map_append,
    List.map_cons, List.map_nil, List.append_assoc]
  exact List.Perm.append_left _ List.perm_append_comm

/-- Serving reports a task if it has a listener. -/
theorem Accounts.send (h : Accounts s accepted) {rest : List SocketDataSendTask}
    {task : SocketDataSendTask} (hqueue : s.mMessageTask = rest ++ [task]) (written : Bool) :
    Accounts (s.send task written) accepted := by
  have htasks := tasks_send hqueue written
  refine ⟨(htasks.filter _).trans h.perm, htasks.nodup_iff.mpr h.nodup, ?_, ?_⟩
  · exact fun a ha => h.fresh a (htasks.subset ha)
  · cases hlistener : task.listener <;>
      simp [Sender.send, hlistener, List.filter_append, h.callbacks]

theorem Accounts.run (h : Accounts s accepted) {written : Bool} (hs : s.run written = some t) :
    Accounts t accepted := by
  unfold Sender.run at hs
  cases hpc : s.pc with
  | created | waiting | exited => simp [hpc] at hs
  | started =>
      obtain rfl : _ = t := by simpa [hpc] using hs
      exact h.same rfl rfl rfl rfl
  | looping =>
      simp only [hpc] at hs
      split at hs <;> obtain rfl := Option.some.inj hs <;> exact h.same rfl rfl rfl rfl
  | locking =>
      simp only [hpc] at hs
      cases hlast : s.mMessageTask.getLast? with
      | none =>
          obtain rfl : _ = t := by simpa [hlast] using hs
          exact h.same rfl rfl rfl rfl
      | some task =>
          obtain rfl : s.send task written = t := by simpa [hlast] using hs
          obtain ⟨rest, hqueue⟩ := List.getLast?_eq_some_iff.mp hlast
          exact h.send hqueue written

end Steps

section Reports

variable {s : Sender} {accepted : List SocketDataSendTask}

/-- A message that was accepted waits or has been served, not both. -/
theorem Accounts.served_iff (h : Accounts s accepted) {task : SocketDataSendTask}
    (hmem : task ∈ accepted) : task ∈ s.served ↔ task ∉ s.mMessageTask := by
  have htask : task ∈ s.tasks := (List.mem_filter.mp (h.perm.mem_iff.mpr hmem)).1
  have hdisjoint := (List.nodup_append.mp h.nodup).2.2
  constructor
  · exact fun hserved hqueue => hdisjoint _ hqueue _ hserved rfl
  · exact fun hqueue => (List.mem_append.mp htask).resolve_left hqueue

theorem Accounts.listener (h : Accounts s accepted) {task : SocketDataSendTask}
    (hmem : task ∈ accepted) : task.listener = true :=
  (List.mem_filter.mp (h.perm.mem_iff.mpr hmem)).2

/-- `onDataSendDone` has been called once for the id of each accepted message exactly when no
message waits. -/
theorem Accounts.reported_iff (h : Accounts s accepted) :
    (s.callbacks.map (·.1)).Perm (accepted.map (·.id)) ↔ s.NoneWaiting := by
  have hids : s.callbacks.map (·.1) = (s.served.filter (·.listener)).map (·.id) := by
    simp [h.callbacks, served, List.filter_map, Function.comp_def]
  have hsplit : s.tasks.filter (·.listener) =
      s.mMessageTask.filter (·.listener) ++ s.served.filter (·.listener) :=
    List.filter_append ..
  constructor
  · intro hperm
    have hlength := hperm.length_eq
    have haccepted := h.perm.length_eq
    rw [hids] at hlength
    simp only [hsplit, List.length_append, List.length_map] at hlength haccepted
    have hnil : s.mMessageTask.filter (·.listener) = [] :=
      List.eq_nil_of_length_eq_zero (by omega)
    simpa [NoneWaiting] using List.filter_eq_nil_iff.mp hnil
  · intro hnone
    have hnil : s.mMessageTask.filter (·.listener) = [] :=
      List.filter_eq_nil_iff.mpr fun task hmem => by simp [hnone task hmem]
    have hperm := h.perm
    rw [hsplit, hnil, List.nil_append] at hperm
    rw [hids]
    exact hperm.map _

end Reports

end Collaboration.Sender
