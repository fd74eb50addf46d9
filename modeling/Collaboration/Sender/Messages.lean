import Collaboration.Sender.Semantics

/-! # What a sender has been given

Every message that was submitted is written, lost, or still in the queue. -/

namespace Collaboration

namespace Sender

variable {s t : Sender}

/-- The messages submitted so far. -/
def messages (s : Sender) : List Data :=
  s.attempts.map (·.1.dataToSend) ++ s.mMessageTask.map (·.dataToSend)

/-- The messages that reached the stream, in the order of the stream. -/
def delivered (s : Sender) : List Data := s.written.map (·.dataToSend)

/-- The messages whose write failed. -/
def lost (s : Sender) : List Data := (s.attempts.filter (!·.2)).map (·.1.dataToSend)

theorem mem_messages {d : Data} :
    d ∈ s.messages ↔
      d ∈ s.delivered ∨ d ∈ s.lost ∨ ∃ task ∈ s.mMessageTask, task.dataToSend = d := by
  have hattempts : d ∈ s.attempts.map (·.1.dataToSend) ↔ d ∈ s.delivered ∨ d ∈ s.lost := by
    simp only [delivered, written, lost, List.map_map, List.mem_map, List.mem_filter,
      Function.comp_apply, Bool.not_eq_eq_eq_not, Bool.not_true]
    constructor
    · rintro ⟨⟨task, success⟩, hmem, rfl⟩
      cases success with
      | true => exact .inl ⟨_, ⟨hmem, rfl⟩, rfl⟩
      | false => exact .inr ⟨_, ⟨hmem, rfl⟩, rfl⟩
    · rintro (⟨a, ⟨hmem, -⟩, rfl⟩ | ⟨a, ⟨hmem, -⟩, rfl⟩)
      · exact ⟨a, hmem, rfl⟩
      · exact ⟨a, hmem, rfl⟩
  rw [messages, List.mem_append, hattempts, or_assoc, List.mem_map]

@[simp] theorem messages_addMessage (s : Sender) (d : Data) (listener : Bool) :
    (s.addMessage d listener).1.messages = s.messages ++ [d] := by
  simp [messages, addMessage, enqueue]

@[simp] theorem messages_addHeartbeatPackage (s : Sender) :
    s.addHeartbeatPackage.messages = s.messages ++ [.inner .heartbeat] := by
  simp [messages, addHeartbeatPackage, enqueue]

@[simp] theorem delivered_addMessage (s : Sender) (d : Data) (listener : Bool) :
    (s.addMessage d listener).1.delivered = s.delivered := rfl

@[simp] theorem delivered_addHeartbeatPackage (s : Sender) :
    s.addHeartbeatPackage.delivered = s.delivered := rfl

/-- The thread only moves messages from the queue to the log. -/
theorem messages_run {written : Bool} (h : s.run written = some t) (d : Data) :
    d ∈ t.messages ↔ d ∈ s.messages := by
  rcases run_backlog h with hserves | hkeeps
  · obtain ⟨task, success, hqueue, hattempts⟩ := hserves.attempt
    simp only [messages, hqueue, hattempts, List.map_append, List.map_cons, List.map_nil,
      List.mem_append, List.mem_singleton]
    tauto
  · rw [messages, messages, hkeeps.queue_eq, hkeeps.attempts_eq]

theorem delivered_run {written : Bool} (h : s.run written = some t) :
    s.delivered <+: t.delivered := by
  rcases run_backlog h with hserves | hkeeps
  · obtain ⟨task, success, -, hattempts⟩ := hserves.attempt
    simp [delivered, Sender.written, hattempts]
  · simp [delivered, Sender.written, hkeeps.attempts_eq]

end Sender

end Collaboration
