import Collaboration.Model.Objects

/-! # The discovery threads

`BroadcastReceiveThread` and `BroadcastSenderThread`: each `start()` of a `Connection` that
takes effect creates one of each, and nothing waits for the earlier ones. -/

namespace Collaboration

/-! ## The receiver -/

/-- The statement of `BroadcastReceiveThread.run()` that comes next. -/
inductive ReceiverPc where
  | created
  /-- `start()` was called, the socket is not yet open -/
  | started
  /-- before `mThreadRuning = true` -/
  | opened
  /-- before `mStopReceive = false` -/
  | clearing
  | testing
  | receiving
  | handling (message : JString)
  /-- in the `finally` block -/
  | closing
  | finished
  deriving DecidableEq, Repr

structure BroadcastReceiveThread where
  mThreadRuning : Bool
  mStopReceive : Bool
  mClientRecevieSocket : Bool
  pc : ReceiverPc
  deriving DecidableEq, Repr

namespace BroadcastReceiveThread

def new : BroadcastReceiveThread := ⟨false, false, false, .created⟩

def isAlive (t : BroadcastReceiveThread) : Bool := t.pc != .created && t.pc != .finished

def start (t : BroadcastReceiveThread) : BroadcastReceiveThread := { t with pc := .started }

def stopReceive (t : BroadcastReceiveThread) : BroadcastReceiveThread :=
  { t with mStopReceive := true, mClientRecevieSocket := false }

inductive Label where
  | bind (ok : Bool)
  | run
  | receive (message : JString)
  | receiveFails
  deriving DecidableEq, Repr

/-- The steps of a receiver that involve no other object. -/
def step (t : BroadcastReceiveThread) : Label → Option BroadcastReceiveThread
  | .bind ok =>
    if t.pc = .started then
      some (if ok then { t with mClientRecevieSocket := true, pc := .opened }
        else { t with pc := .finished })
    else none
  | .run =>
    match t.pc with
    | .opened => some { t with mThreadRuning := true, pc := .clearing }
    | .clearing => some { t with mStopReceive := false, pc := .testing }
    | .testing => some { t with pc := if t.mStopReceive then .closing else .receiving }
    | .closing => some ⟨false, t.mStopReceive, false, .finished⟩
    | .created | .started | .receiving | .handling _ | .finished => none
  | .receive message =>
    if t.pc = .receiving ∧ t.mClientRecevieSocket = true then
      some { t with pc := .handling message }
    else none
  | .receiveFails => if t.pc = .receiving then some { t with pc := .closing } else none

inductive Steps (t : BroadcastReceiveThread) : Label → BroadcastReceiveThread → Prop
  | bind (hpc : t.pc = .started) :
      Steps t (.bind true) { t with mClientRecevieSocket := true, pc := .opened }
  | bindFails (hpc : t.pc = .started) : Steps t (.bind false) { t with pc := .finished }
  | runs (hpc : t.pc = .opened) : Steps t .run { t with mThreadRuning := true, pc := .clearing }
  | clears (hpc : t.pc = .clearing) : Steps t .run { t with mStopReceive := false, pc := .testing }
  | loops (hpc : t.pc = .testing) (hstop : t.mStopReceive = false) :
      Steps t .run { t with pc := .receiving }
  | leaves (hpc : t.pc = .testing) (hstop : t.mStopReceive = true) :
      Steps t .run { t with pc := .closing }
  | close (hpc : t.pc = .closing) : Steps t .run ⟨false, t.mStopReceive, false, .finished⟩
  | receive {message : JString} (hpc : t.pc = .receiving) (hopen : t.mClientRecevieSocket = true) :
      Steps t (.receive message) { t with pc := .handling message }
  | receiveFails (hpc : t.pc = .receiving) : Steps t .receiveFails { t with pc := .closing }

theorem steps_of_step {t u : BroadcastReceiveThread} {l : Label} (h : t.step l = some u) :
    Steps t l u := by
  cases l with
  | bind ok =>
      simp only [step, Option.ite_none_right_eq_some, Option.some.injEq] at h
      obtain ⟨hpc, rfl⟩ := h
      cases ok with
      | true => exact .bind hpc
      | false => exact .bindFails hpc
  | run =>
      simp only [step] at h
      split at h
      · rename_i hpc
        obtain rfl := Option.some.inj h
        exact .runs hpc
      · rename_i hpc
        obtain rfl := Option.some.inj h
        exact .clears hpc
      · rename_i hpc
        obtain rfl := Option.some.inj h
        split
        · rename_i hstop
          exact .leaves hpc hstop
        · rename_i hstop
          exact .loops hpc (by simpa using hstop)
      · rename_i hpc
        obtain rfl := Option.some.inj h
        exact .close hpc
      · cases h
      · cases h
      · cases h
      · cases h
      · cases h
  | receive message =>
      simp only [step, Option.ite_none_right_eq_some, Option.some.injEq] at h
      obtain ⟨⟨hpc, hopen⟩, rfl⟩ := h
      exact .receive hpc hopen
  | receiveFails =>
      simp only [step, Option.ite_none_right_eq_some, Option.some.injEq] at h
      obtain ⟨hpc, rfl⟩ := h
      exact .receiveFails hpc

end BroadcastReceiveThread

/-! ## The sender -/

structure BroadcastTask where
  id : Int32
  port : Int32
  message : JString
  deriving DecidableEq, Repr

/-- The statement of `BroadcastSenderThread.run()` that comes next. -/
inductive BroadcastSenderPc where
  | created
  | looping
  /-- about to look at the queue inside the monitor -/
  | locking
  /-- in `mBroadcastTasks.wait()` -/
  | waiting
  | exited
  deriving DecidableEq, Repr

structure BroadcastSenderThread where
  mBroadcastTasks : List BroadcastTask
  mCurrentId : Int32
  mThreadStop : Bool
  mThreadRunning : Bool
  pc : BroadcastSenderPc
  /-- the calls of `onDataSendDone` so far, each with its task -/
  sent : List (BroadcastTask × Bool)
  deriving DecidableEq, Repr

namespace BroadcastSenderThread

def new : BroadcastSenderThread := ⟨[], 0, false, false, .created, []⟩

def isAlive (t : BroadcastSenderThread) : Bool := t.pc != .created && t.pc != .exited

def start (t : BroadcastSenderThread) : BroadcastSenderThread := { t with pc := .looping }

/-- `addBroadcastTask`, whose `notify` wakes the thread out of `wait`. -/
def addBroadcastTask (t : BroadcastSenderThread) (port : Int32) (message : JString) :
    BroadcastSenderThread :=
  let id := t.mCurrentId + 1
  { t with
    mCurrentId := id
    mBroadcastTasks := t.mBroadcastTasks ++ [⟨id, port, message⟩]
    pc := if t.pc = .waiting then .locking else t.pc }

def stopThread (t : BroadcastSenderThread) : BroadcastSenderThread := { t with mThreadStop := true }

/-- Removes the task at `mBroadcastTasks.size() - 1`, sends it and reports to its listener. -/
def sendBroadcast (t : BroadcastSenderThread) (task : BroadcastTask) (sendSuccess : Bool) :
    BroadcastSenderThread :=
  { t with
    mBroadcastTasks := t.mBroadcastTasks.dropLast
    sent := t.sent ++ [(task, sendSuccess)]
    pc := .looping }

/-- One step of `run()`; `sendSuccess` tells whether the datagram is sent. -/
def run (t : BroadcastSenderThread) (sendSuccess : Bool) : Option BroadcastSenderThread :=
  match t.pc with
  | .created | .waiting | .exited => none
  | .looping =>
    some (if t.mThreadStop then { t with mThreadRunning := false, pc := .exited }
      else { t with mThreadRunning := true, pc := .locking })
  | .locking =>
    match t.mBroadcastTasks.getLast? with
    | none => some { t with pc := .waiting }
    | some task => some (t.sendBroadcast task sendSuccess)

/-- Only a sender that is alive takes a step, its stop flag stays as it is, and it stays alive
unless it finds that flag set. -/
theorem run_spec {t u : BroadcastSenderThread} {sendSuccess : Bool}
    (h : t.run sendSuccess = some u) :
    t.isAlive = true ∧ u.mThreadStop = t.mThreadStop ∧
      (t.mThreadStop = false → u.isAlive = true) := by
  unfold run at h
  split at h
  · cases h
  · cases h
  · cases h
  · rename_i hpc
    obtain rfl := Option.some.inj h
    cases hstop : t.mThreadStop <;> simp [isAlive, hpc]
  · rename_i hpc
    split at h
    · obtain rfl := Option.some.inj h
      simp [isAlive, hpc]
    · obtain rfl := Option.some.inj h
      simp [isAlive, hpc, sendBroadcast]

end BroadcastSenderThread

/-! ## The threads of a `Connection` -/

/-- The discovery threads are numbered by the `start()` that created them; `none` is null. -/
structure Discovery where
  mBroadcastReceiveThread : Option ℕ
  mBroadcastSenderThread : Option ℕ
  receivers : ℕ → BroadcastReceiveThread
  senders : ℕ → BroadcastSenderThread
  /-- the number of receivers, and of senders, created so far -/
  created : ℕ

namespace Discovery

/-- Before the first `start()`. -/
def new : Discovery := ⟨none, none, fun _ => .new, fun _ => .new, 0⟩

def setReceiver (d : Discovery) (n : ℕ) (t : BroadcastReceiveThread) : Discovery :=
  { d with receivers := Function.update d.receivers n t }

def setSender (d : Discovery) (n : ℕ) (t : BroadcastSenderThread) : Discovery :=
  { d with senders := Function.update d.senders n t }

/-- The discovery threads that `Connection.init()` creates. -/
def init (d : Discovery) : Discovery :=
  { d with
    mBroadcastReceiveThread := some d.created
    mBroadcastSenderThread := some d.created
    senders := Function.update d.senders d.created (.start .new)
    receivers := Function.update d.receivers d.created .new
    created := d.created + 1 }

/-- The start of the receiver, where `startClient` asks `isThreadRuning()` first and
`startServer` asks `isAlive()`. -/
def startReceiver (d : Discovery) (running : BroadcastReceiveThread → Bool) : Discovery :=
  match d.mBroadcastReceiveThread with
  | some n => if !running (d.receivers n) then d.setReceiver n (d.receivers n).start else d
  | none => d

def addBroadcastTask (d : Discovery) (port : Int32) (message : JString) : Discovery :=
  match d.mBroadcastSenderThread with
  | some n => d.setSender n ((d.senders n).addBroadcastTask port message)
  | none => d

/-- The discovery threads in `start()`: `init()`, then `startClient` or `startServer`. -/
def restart (d : Discovery) (running : BroadcastReceiveThread → Bool) (port : Int32)
    (message : JString) : Discovery :=
  (d.init.startReceiver running).addBroadcastTask port message

/-- The receiver in `stop()`. -/
def stopReceive (d : Discovery) : Discovery :=
  match d.mBroadcastReceiveThread with
  | some n =>
    if (d.receivers n).mThreadRuning then d.setReceiver n (d.receivers n).stopReceive else d
  | none => d

/-- The sender in `stop()`. -/
def stopThread (d : Discovery) : Discovery :=
  match d.mBroadcastSenderThread with
  | some n => { d.setSender n (d.senders n).stopThread with mBroadcastSenderThread := none }
  | none => d

/-- No receiver of this `Connection` holds the port; all of them ask for the same. -/
def portFree (d : Discovery) : Bool :=
  (List.range d.created).all fun n => !(d.receivers n).mClientRecevieSocket

inductive Label where
  | receiver (n : ℕ) (l : BroadcastReceiveThread.Label)
  | sender (n : ℕ) (sendSuccess : Bool)
  deriving DecidableEq, Repr

/-- The steps of the threads; a port that is bound cannot be bound again. -/
def step (d : Discovery) : Label → Option Discovery
  | .receiver n l =>
    if l = .bind true ∧ d.portFree = false then none
    else ((d.receivers n).step l).map (d.setReceiver n)
  | .sender n sendSuccess => ((d.senders n).run sendSuccess).map (d.setSender n)

/-- A thread that handed a datagram over goes on, or ends with the exception. -/
def handled (d : Discovery) (n : ℕ) (returns : Bool) : Discovery :=
  d.setReceiver n { d.receivers n with pc := if returns then .testing else .closing }

end Discovery

end Collaboration
