import Collaboration.Library.Transition
import Collaboration.Model.Objects

/-! # The sender thread of a connection

`SocketDataSenderThread`: producers append tasks under the monitor of `mMessageTask`,
and the thread takes a task out, writes it and calls its listener in one stay inside
that monitor. -/

namespace Collaboration

/-- `ordinal` is no field of the source: it numbers the submissions. -/
structure SocketDataSendTask where
  id : Int32
  dataToSend : Data
  /-- whether a `MessageSendListener` was given -/
  listener : Bool
  ordinal : ℕ
  deriving DecidableEq, Repr

/-- The statement of `run()` that comes next. -/
inductive SenderPc where
  | created
  /-- `start()` was called, `run()` has not yet cleared the stop flag -/
  | started
  | looping
  /-- about to look at the queue inside the monitor -/
  | locking
  | waiting
  | exited
  deriving DecidableEq, Repr

structure Sender where
  mMessageTask : List SocketDataSendTask
  mThreadStop : Bool
  mCurrentId : Int32
  mHeartbeatEnabled : Bool
  /-- whether the timer of the `HeartbeatThread` is scheduled -/
  mHeartbeatThread : Bool
  /-- whether `mOutputStream` still accepts objects -/
  streamOpen : Bool
  pc : SenderPc
  /-- the write attempts so far, with their success -/
  attempts : List (SocketDataSendTask × Bool)
  /-- the calls of `onDataSendDone` so far -/
  callbacks : List (Int32 × Bool)
  /-- the number of submissions so far -/
  submitted : ℕ
  deriving DecidableEq, Repr

namespace Sender

/-- The constructor, over a stream that is open. -/
def new (enableHearbeat : Bool) : Sender where
  mMessageTask := []
  mThreadStop := false
  mCurrentId := 0
  mHeartbeatEnabled := enableHearbeat
  mHeartbeatThread := false
  streamOpen := true
  pc := .created
  attempts := []
  callbacks := []
  submitted := 0

/-- `mMessageTask.add(task)` followed by `notify`, which wakes the thread out of `wait`. -/
def enqueue (s : Sender) (id : Int32) (dataToSend : Data) (listener : Bool) : Sender :=
  { s with
    mMessageTask := s.mMessageTask ++ [⟨id, dataToSend, listener, s.submitted⟩]
    submitted := s.submitted + 1
    pc := if s.pc = .waiting then .locking else s.pc }

/-- Returns the id given to the message. -/
def addMessage (s : Sender) (dataToSend : Data) (listener : Bool) : Sender × Int32 :=
  let id := s.mCurrentId + 1
  ({ s with mCurrentId := id }.enqueue id dataToSend listener, id)

def addHeartbeatPackage (s : Sender) : Sender :=
  s.enqueue (-1) (.inner .heartbeat) false

def stopRuning (s : Sender) : Sender := { s with mThreadStop := true }

/-- Removes the task at `mMessageTask.size() - 1`, writes it and reports to its listener. -/
def send (s : Sender) (task : SocketDataSendTask) (written : Bool) : Sender :=
  let success := written && s.streamOpen
  { s with
    mMessageTask := s.mMessageTask.dropLast
    attempts := s.attempts ++ [(task, success)]
    callbacks := if task.listener then s.callbacks ++ [(task.id, success)] else s.callbacks
    pc := .looping }

/-- One step of `run()`; `written` tells whether `writeObject` and `flush` succeed. -/
def run (s : Sender) (written : Bool) : Option Sender :=
  match s.pc with
  | .created | .waiting | .exited => none
  | .started =>
    some { s with
      mHeartbeatThread := s.mHeartbeatEnabled
      mThreadStop := false
      pc := .looping }
  | .looping =>
    if s.mThreadStop then some { s with mHeartbeatThread := false, pc := .exited }
    else some { s with pc := .locking }
  | .locking =>
    match s.mMessageTask.getLast? with
    | none => some { s with pc := .waiting }
    | some task => some (s.send task written)

inductive Label where
  | start
  | addMessage (dataToSend : Data) (listener : Bool)
  | addHeartbeatPackage
  | stopRuning
  | closeStream
  | run (written : Bool)
  deriving DecidableEq, Repr

def step (s : Sender) : Label → Option Sender
  | .start => if s.pc = .created then some { s with pc := .started } else none
  | .addMessage d listener => some (s.addMessage d listener).1
  | .addHeartbeatPackage => some s.addHeartbeatPackage
  | .stopRuning => some s.stopRuning
  | .closeStream => some { s with streamOpen := false }
  | .run written => s.run written

/-- The tasks whose object reached the stream, in the order of the stream. -/
def written (s : Sender) : List SocketDataSendTask :=
  (s.attempts.filter (·.2)).map (·.1)

/-! ## What a step does to the backlog -/

/-- A step that submits a task appends it, with the next number, and serves nothing. -/
structure Submits (s t : Sender) : Prop where
  queue : ∃ task, task.ordinal = s.submitted ∧ t.mMessageTask = s.mMessageTask ++ [task]
  submitted_eq : t.submitted = s.submitted + 1
  attempts_eq : t.attempts = s.attempts

/-- A step that serves a task takes it from the end of the queue and attempts to write it. -/
structure Serves (s : Sender) (l : Label) (t : Sender) : Prop where
  locking : s.pc = .locking
  label : ∃ written, l = .run written
  attempt : ∃ task success, s.mMessageTask = t.mMessageTask ++ [task] ∧
    t.attempts = s.attempts ++ [(task, success)]
  submitted_eq : t.submitted = s.submitted

/-- Every other step leaves the backlog alone. -/
structure KeepsBacklog (s : Sender) (l : Label) (t : Sender) : Prop where
  idle : s.pc = .locking → (∃ written, l = .run written) → s.mMessageTask = []
  queue_eq : t.mMessageTask = s.mMessageTask
  attempts_eq : t.attempts = s.attempts
  submitted_eq : t.submitted = s.submitted

theorem enqueue_submits (s : Sender) (id : Int32) (d : Data) (listener : Bool) :
    Submits s (s.enqueue id d listener) :=
  ⟨⟨_, rfl, rfl⟩, rfl, rfl⟩

theorem addMessage_submits (s : Sender) (d : Data) (listener : Bool) :
    Submits s (s.addMessage d listener).1 :=
  ⟨⟨_, rfl, rfl⟩, rfl, rfl⟩

theorem run_backlog {s t : Sender} {written : Bool} (h : s.run written = some t) :
    Serves s (.run written) t ∨ KeepsBacklog s (.run written) t := by
  unfold run at h
  cases hpc : s.pc with
  | created | waiting | exited => simp [hpc] at h
  | started =>
      obtain rfl : _ = t := by simpa [hpc] using h
      exact .inr ⟨by simp [hpc], rfl, rfl, rfl⟩
  | looping =>
      simp only [hpc] at h
      split at h <;> obtain rfl := Option.some.inj h
      · exact .inr ⟨by simp [hpc], rfl, rfl, rfl⟩
      · exact .inr ⟨by simp [hpc], rfl, rfl, rfl⟩
  | locking =>
      simp only [hpc] at h
      cases hl : s.mMessageTask.getLast? with
      | none =>
          obtain rfl : _ = t := by simpa [hl] using h
          exact .inr ⟨fun _ _ => List.getLast?_eq_none_iff.mp hl, rfl, rfl, rfl⟩
      | some task =>
          obtain rfl : s.send task written = t := by simpa [hl] using h
          obtain ⟨rest, hq⟩ := List.getLast?_eq_some_iff.mp hl
          refine .inl ⟨hpc, ⟨written, rfl⟩, ⟨task, written && s.streamOpen, ?_, rfl⟩, rfl⟩
          simp [send, hq]

theorem step_backlog {s t : Sender} {l : Label} (h : s.step l = some t) :
    Submits s t ∨ Serves s l t ∨ KeepsBacklog s l t := by
  cases l with
  | start =>
      simp only [step] at h
      split at h
      · obtain rfl := Option.some.inj h
        exact .inr (.inr ⟨by simp, rfl, rfl, rfl⟩)
      · cases h
  | addMessage d listener =>
      obtain rfl := Option.some.inj h
      exact .inl (addMessage_submits s d listener)
  | addHeartbeatPackage =>
      obtain rfl := Option.some.inj h
      exact .inl (enqueue_submits s _ _ _)
  | stopRuning | closeStream =>
      obtain rfl := Option.some.inj h
      exact .inr (.inr ⟨by simp, rfl, rfl, rfl⟩)
  | run written => exact .inr (run_backlog h)

end Sender

end Collaboration
