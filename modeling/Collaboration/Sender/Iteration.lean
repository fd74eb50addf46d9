import Collaboration.Sender.Semantics

/-! # An iteration of the sender thread, statement by statement

What `Sender.run` takes in one step inside the monitor of `mMessageTask`, with the stream
operations and the call of the listener apart. The monitor keeps producers out; the stop flag
and the stream it does not protect. -/

namespace Collaboration

/-- Where the thread is with the task that it has removed from the queue. -/
inductive SendPlace where
  | outside
  | writing (task : SocketDataSendTask)
  | flushing (task : SocketDataSendTask)
  /-- before the listener is called -/
  | reporting (task : SocketDataSendTask) (success : Bool)
  deriving DecidableEq, Repr

/-- The task in hand. -/
def SendPlace.task : SendPlace → Option SocketDataSendTask
  | .outside => none
  | .writing task | .flushing task | .reporting task _ => some task

/-- The lists record what has been observed so far: the tasks submitted, the ids that
`addMessage` returned for them, the tasks removed from the queue, the calls of `writeObject`
and `flush` with their outcome, and the calls of a task's `onDataSendDone`. -/
structure SenderThread where
  sender : Sender
  place : SendPlace
  submissions : List SocketDataSendTask
  returned : List (SocketDataSendTask × Int32)
  dequeued : List SocketDataSendTask
  writes : List (SocketDataSendTask × Bool)
  flushes : List (SocketDataSendTask × Bool)
  reports : List (SocketDataSendTask × Int32 × Bool)
  deriving DecidableEq, Repr

/-- The end of an iteration. -/
def Sender.finish (s : Sender) (task : SocketDataSendTask) (success : Bool) : Sender :=
  { s with
    attempts := s.attempts ++ [(task, success)]
    callbacks := if task.listener then s.callbacks ++ [(task.id, success)] else s.callbacks
    pc := .looping }

namespace SenderThread

def new (enableHearbeat : Bool) : SenderThread :=
  ⟨.new enableHearbeat, .outside, [], [], [], [], [], []⟩

def addMessage (t : SenderThread) (dataToSend : Data) (listener : Bool) : SenderThread :=
  let (sender, id) := t.sender.addMessage dataToSend listener
  let task := ⟨id, dataToSend, listener, t.sender.submitted⟩
  { t with
    sender := sender
    submissions := t.submissions ++ [task]
    returned := t.returned ++ [(task, id)] }

def addHeartbeatPackage (t : SenderThread) : SenderThread :=
  { t with
    sender := t.sender.addHeartbeatPackage
    submissions := t.submissions ++ [⟨-1, .inner .heartbeat, false, t.sender.submitted⟩] }

/-- The statements up to `mMessageTask.remove(mMessageTask.size() - 1)`. -/
def run (t : SenderThread) : Option SenderThread :=
  if t.sender.pc = .locking then
    match t.sender.mMessageTask.getLast? with
    | none => some { t with sender := { t.sender with pc := .waiting } }
    | some task =>
      some { t with
        sender := { t.sender with mMessageTask := t.sender.mMessageTask.dropLast }
        place := .writing task
        dequeued := t.dequeued ++ [task] }
  else (t.sender.run false).map fun s => { t with sender := s }

inductive Label where
  | start
  | addMessage (dataToSend : Data) (listener : Bool)
  | addHeartbeatPackage
  | stopRuning
  | closeStream
  | run
  /-- `writeObject` returns or throws an `IOException`, which it does on a closed stream -/
  | writeObject (ok : Bool)
  | flush (ok : Bool)
  | report
  deriving DecidableEq, Repr

def step (t : SenderThread) : Label → Option SenderThread
  | .start => (t.sender.step .start).map fun s => { t with sender := s }
  | .addMessage d listener => if t.place = .outside then some (t.addMessage d listener) else none
  | .addHeartbeatPackage => if t.place = .outside then some t.addHeartbeatPackage else none
  | .stopRuning => some { t with sender := t.sender.stopRuning }
  | .closeStream => some { t with sender := { t.sender with streamOpen := false } }
  | .run => if t.place = .outside then t.run else none
  | .writeObject ok =>
    match t.place with
    | .writing task =>
      let ok := ok && t.sender.streamOpen
      some { t with
        place := if ok then .flushing task else .reporting task false
        writes := t.writes ++ [(task, ok)] }
    | _ => none
  | .flush ok =>
    match t.place with
    | .flushing task =>
      let ok := ok && t.sender.streamOpen
      some { t with place := .reporting task ok, flushes := t.flushes ++ [(task, ok)] }
    | _ => none
  | .report =>
    match t.place with
    | .reporting task success =>
      some { t with
        sender := t.sender.finish task success
        place := .outside
        reports :=
          if task.listener then t.reports ++ [(task, task.id, success)] else t.reports }
    | _ => none

/-- A step of `run()` that removes no task. -/
structure KeepsQueue (s t : Sender) : Prop where
  queue_eq : t.mMessageTask = s.mMessageTask
  submitted_eq : t.submitted = s.submitted
  mCurrentId_eq : t.mCurrentId = s.mCurrentId

theorem keepsQueue_of_run {s t : Sender} (hpc : s.pc ≠ .locking) (h : s.run false = some t) :
    KeepsQueue s t := by
  unfold Sender.run at h
  cases hc : s.pc with
  | created | waiting | exited => simp [hc] at h
  | started =>
      obtain rfl : _ = t := by simpa [hc] using h
      exact ⟨rfl, rfl, rfl⟩
  | looping =>
      simp only [hc] at h
      split at h <;> obtain rfl := Option.some.inj h
      · exact ⟨rfl, rfl, rfl⟩
      · exact ⟨rfl, rfl, rfl⟩
  | locking => exact absurd hc hpc

inductive Steps (t : SenderThread) : Label → SenderThread → Prop
  | start (hpc : t.sender.pc = .created) :
      Steps t .start { t with sender := { t.sender with pc := .started } }
  | addMessage {d : Data} {listener : Bool} (hplace : t.place = .outside) :
      Steps t (.addMessage d listener) (t.addMessage d listener)
  | addHeartbeatPackage (hplace : t.place = .outside) :
      Steps t .addHeartbeatPackage t.addHeartbeatPackage
  | stopRuning : Steps t .stopRuning { t with sender := t.sender.stopRuning }
  | closeStream : Steps t .closeStream { t with sender := { t.sender with streamOpen := false } }
  | run {s : Sender} (hplace : t.place = .outside) (hstep : t.sender.run false = some s)
      (hkeeps : KeepsQueue t.sender s) : Steps t .run { t with sender := s }
  | dequeue {task : SocketDataSendTask} {rest : List SocketDataSendTask}
      (hplace : t.place = .outside) (hpc : t.sender.pc = .locking)
      (hqueue : t.sender.mMessageTask = rest ++ [task]) :
      Steps t .run
        { t with
          sender := { t.sender with mMessageTask := rest }
          place := .writing task
          dequeued := t.dequeued ++ [task] }
  | writes {task : SocketDataSendTask} (hplace : t.place = .writing task)
      (hopen : t.sender.streamOpen = true) :
      Steps t (.writeObject true)
        { t with place := .flushing task, writes := t.writes ++ [(task, true)] }
  | writeFails {task : SocketDataSendTask} {ok : Bool} (hplace : t.place = .writing task)
      (hfails : (ok && t.sender.streamOpen) = false) :
      Steps t (.writeObject ok)
        { t with place := .reporting task false, writes := t.writes ++ [(task, false)] }
  | flush {task : SocketDataSendTask} {ok : Bool} (hplace : t.place = .flushing task) :
      Steps t (.flush ok)
        { t with
          place := .reporting task (ok && t.sender.streamOpen)
          flushes := t.flushes ++ [(task, ok && t.sender.streamOpen)] }
  | report {task : SocketDataSendTask} {success : Bool}
      (hplace : t.place = .reporting task success) :
      Steps t .report
        { t with
          sender := t.sender.finish task success
          place := .outside
          reports :=
            if task.listener then t.reports ++ [(task, task.id, success)] else t.reports }

theorem steps_of_run {t u : SenderThread} (hplace : t.place = .outside) (h : t.run = some u) :
    Steps t .run u := by
  unfold SenderThread.run at h
  split at h
  · rename_i hpc
    split at h
    · rename_i hlast
      obtain rfl := Option.some.inj h
      refine .run hplace ?_ ⟨rfl, rfl, rfl⟩
      simp [Sender.run, hpc, hlast]
    · rename_i task hlast
      obtain rfl := Option.some.inj h
      obtain ⟨rest, hqueue⟩ := List.getLast?_eq_some_iff.mp hlast
      have hrest : t.sender.mMessageTask.dropLast = rest := by simp [hqueue]
      rw [hrest]
      exact .dequeue hplace hpc hqueue
  · rename_i hpc
    obtain ⟨s, hs, rfl⟩ := Option.map_eq_some_iff.mp h
    exact .run hplace hs (keepsQueue_of_run hpc hs)

theorem steps_of_step {t u : SenderThread} {l : Label} (h : t.step l = some u) : Steps t l u := by
  cases l with
  | start =>
      obtain ⟨s, hs, rfl⟩ := Option.map_eq_some_iff.mp h
      simp only [Sender.step, Option.ite_none_right_eq_some, Option.some.injEq] at hs
      obtain ⟨hpc, rfl⟩ := hs
      exact .start hpc
  | addMessage d listener =>
      simp only [step, Option.ite_none_right_eq_some, Option.some.injEq] at h
      obtain ⟨hplace, rfl⟩ := h
      exact .addMessage hplace
  | addHeartbeatPackage =>
      simp only [step, Option.ite_none_right_eq_some, Option.some.injEq] at h
      obtain ⟨hplace, rfl⟩ := h
      exact .addHeartbeatPackage hplace
  | stopRuning =>
      obtain rfl := Option.some.inj h
      exact .stopRuning
  | closeStream =>
      obtain rfl := Option.some.inj h
      exact .closeStream
  | run =>
      simp only [step, Option.ite_none_right_eq_some] at h
      exact steps_of_run h.1 h.2
  | writeObject ok =>
      simp only [step] at h
      split at h
      · rename_i task hplace
        obtain rfl := Option.some.inj h
        cases hok : ok && t.sender.streamOpen with
        | true =>
            obtain ⟨rfl, hopen⟩ := Bool.and_eq_true_iff.mp hok
            exact .writes hplace hopen
        | false => exact .writeFails hplace hok
      · cases h
  | flush ok =>
      simp only [step] at h
      split at h
      · rename_i task hplace
        obtain rfl := Option.some.inj h
        exact .flush hplace
      · cases h
  | report =>
      simp only [step] at h
      split at h
      · rename_i task success hplace
        obtain rfl := Option.some.inj h
        exact .report hplace
      · cases h

/-! ## The iterations as single steps -/

/-- The sender before or after the iteration in progress: the outcome is settled by the last
operation on the stream. -/
def toSender (t : SenderThread) : Sender :=
  match t.place with
  | .outside => t.sender
  | .writing task | .flushing task =>
    { t.sender with mMessageTask := t.sender.mMessageTask ++ [task] }
  | .reporting task success => t.sender.finish task success

/-- The thread holds the monitor while it has a task in hand. -/
def HoldsMonitor (t : SenderThread) : Prop := t.place ≠ .outside → t.sender.pc = .locking

theorem holdsMonitor_new (enableHearbeat : Bool) : HoldsMonitor (new enableHearbeat) :=
  fun h => absurd rfl h

theorem holdsMonitor_step {t u : SenderThread} {l : Label} (h : HoldsMonitor t)
    (hs : t.step l = some u) : HoldsMonitor u := by
  cases steps_of_step hs with
  | start hpc =>
      intro hplace
      exact absurd (h hplace) (by simp [hpc])
  | addMessage hplace | addHeartbeatPackage hplace | run hplace =>
      exact fun hne => absurd hplace hne
  | stopRuning | closeStream => exact h
  | dequeue _ hpc => exact fun _ => hpc
  | writes hplace | writeFails hplace | flush hplace => exact fun _ => h (by simp [hplace])
  | report => exact fun hne => absurd rfl hne

/-- The step of the sender that an iteration amounts to. -/
theorem run_eq_finish {s : Sender} (hpc : s.pc = .locking) (task : SocketDataSendTask)
    (written : Bool) :
    Sender.run { s with mMessageTask := s.mMessageTask ++ [task] } written =
      some (s.finish task (written && s.streamOpen)) := by
  simp [Sender.run, hpc, Sender.send, Sender.finish]

/-- Every statement is a step of the sender or leaves it where it is. -/
theorem step_toSender {t u : SenderThread} {l : Label} (h : HoldsMonitor t)
    (hs : t.step l = some u) :
    u.toSender = t.toSender ∨ ∃ m, t.toSender.step m = some u.toSender := by
  cases steps_of_step hs with
  | start hpc =>
      have hplace : t.place = .outside := by
        by_contra hne
        exact absurd (h hne) (by simp [hpc])
      exact .inr ⟨.start, by simp [toSender, hplace, Sender.step, hpc]⟩
  | @addMessage d listener hplace =>
      exact .inr ⟨.addMessage d listener, by
        simp [toSender, hplace, Sender.step, SenderThread.addMessage]⟩
  | addHeartbeatPackage hplace =>
      exact .inr ⟨.addHeartbeatPackage, by
        simp [toSender, hplace, Sender.step, SenderThread.addHeartbeatPackage]⟩
  | stopRuning =>
      refine .inr ⟨.stopRuning, ?_⟩
      cases hplace : t.place <;>
        simp [toSender, hplace, Sender.step, Sender.stopRuning, Sender.finish]
  | closeStream =>
      refine .inr ⟨.closeStream, ?_⟩
      cases hplace : t.place <;> simp [toSender, hplace, Sender.step, Sender.finish]
  | run hplace hstep =>
      exact .inr ⟨.run false, by simpa [toSender, hplace, Sender.step] using hstep⟩
  | dequeue hplace _ hqueue => exact .inl (by simp [toSender, hplace, ← hqueue])
  | writes hplace => exact .inl (by simp [toSender, hplace])
  | @writeFails task ok hplace hfails =>
      have hrun := run_eq_finish (h (by simp [hplace])) task ok
      exact .inr ⟨.run ok, by simpa [toSender, hplace, Sender.step, hfails] using hrun⟩
  | @flush task ok hplace =>
      have hrun := run_eq_finish (h (by simp [hplace])) task ok
      exact .inr ⟨.run ok, by simpa [toSender, hplace, Sender.step] using hrun⟩
  | report hplace => exact .inl (by simp [toSender, hplace])

end SenderThread

end Collaboration
