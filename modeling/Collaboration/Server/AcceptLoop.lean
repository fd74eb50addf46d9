import Collaboration.Server.Acceptance

/-! # The accept loop and its flag

`SocketServerConnectionThread.run()` with every way out of it: a port that is taken, a stop
request, and an exception from any statement of the loop. Start-up, sending and stopping in
`Connection` ask `isThreadRunning()`. -/

namespace Collaboration

open Transition

/-- The statement of `run()` that comes next. -/
inductive AcceptLoopPc where
  | notStarted
  | binding
  /-- at `while (!mStopRuning)` for the first time -/
  | entering
  /-- at `while (!mStopRuning)` after a turn of the loop -/
  | testing
  | accepting
  | settingTimeout
  | constructing
  | startingRun
  | registering
  | storing
  | closing
  | ended
  deriving DecidableEq, Repr

namespace AcceptLoopPc

/-- The loop is being executed: it has been entered and not left. -/
def inLoop : AcceptLoopPc → Bool
  | .notStarted | .binding | .entering | .closing | .ended => false
  | _ => true

/-- The statement after this one, where it is a statement of the loop's body. -/
def next : AcceptLoopPc → Option AcceptLoopPc
  | .accepting => some .settingTimeout
  | .settingTimeout => some .constructing
  | .constructing => some .startingRun
  | .startingRun => some .registering
  | .registering => some .storing
  | .storing => some .testing
  | _ => none

end AcceptLoopPc

structure AcceptLoop where
  mStopRuning : Bool
  mThreadRunning : Bool
  pc : AcceptLoopPc
  deriving DecidableEq, Repr

namespace AcceptLoop

variable {s t : AcceptLoop}

def new : AcceptLoop := ⟨false, false, .notStarted⟩

def isThreadRunning (s : AcceptLoop) : Bool := s.mThreadRunning

def stopRuning (s : AcceptLoop) : AcceptLoop := { s with mStopRuning := true }

/-- The test of the loop, with the assignment to `mThreadRunning` that follows it: the first of
the body, or the one behind the loop. -/
def test (s : AcceptLoop) : AcceptLoop :=
  if s.mStopRuning then { s with mThreadRunning := false, pc := .closing }
  else { s with mThreadRunning := true, pc := .accepting }

inductive Label where
  | start
  /-- the next statement of `run()`, which returns or throws -/
  | run (returns : Bool)
  | stopRuning
  deriving DecidableEq, Repr

def step (s : AcceptLoop) : Label → Option AcceptLoop
  | .start => if s.pc = .notStarted then some { s with pc := .binding } else none
  | .run returns =>
    match s.pc with
    | .notStarted | .ended => none
    | .binding => some { s with pc := if returns then .entering else .closing }
    | .entering | .testing => some s.test
    -- `serverSocket.close()` may throw, which is caught as well.
    | .closing => some { s with pc := .ended }
    | pc => pc.next.map fun next => { s with pc := if returns then next else .closing }
  | .stopRuning => some s.stopRuning

inductive Steps (s : AcceptLoop) : Label → AcceptLoop → Prop
  | start (hpc : s.pc = .notStarted) : Steps s .start { s with pc := .binding }
  | bind (hpc : s.pc = .binding) : Steps s (.run true) { s with pc := .entering }
  | bindThrows (hpc : s.pc = .binding) : Steps s (.run false) { s with pc := .closing }
  | test {returns : Bool} (hpc : s.pc = .entering ∨ s.pc = .testing) :
      Steps s (.run returns) s.test
  | body {next : AcceptLoopPc} (hnext : s.pc.next = some next) :
      Steps s (.run true) { s with pc := next }
  | bodyThrows {next : AcceptLoopPc} (hnext : s.pc.next = some next) :
      Steps s (.run false) { s with pc := .closing }
  | close {returns : Bool} (hpc : s.pc = .closing) : Steps s (.run returns) { s with pc := .ended }
  | stopRuning : Steps s .stopRuning s.stopRuning

theorem steps_of_step {l : Label} (h : s.step l = some t) : Steps s l t := by
  cases l with
  | start =>
      obtain ⟨hpc, h⟩ := Option.ite_none_right_eq_some.mp h
      obtain rfl := Option.some.inj h
      exact .start hpc
  | stopRuning =>
      obtain rfl := Option.some.inj h
      exact .stopRuning
  | run returns =>
      cases hpc : s.pc with
      | notStarted | ended => simp [step, hpc] at h
      | binding =>
          obtain rfl : _ = t := by simpa [step, hpc] using h
          cases returns with
          | true => exact .bind hpc
          | false => exact .bindThrows hpc
      | entering | testing =>
          obtain rfl : _ = t := by simpa [step, hpc] using h
          exact .test (by simp [hpc])
      | closing =>
          obtain rfl : _ = t := by simpa [step, hpc] using h
          exact .close hpc
      | _ =>
          obtain rfl : _ = t := by simpa [step, hpc, AcceptLoopPc.next] using h
          have hnext := congrArg AcceptLoopPc.next hpc
          cases returns with
          | true => exact .body hnext
          | false => exact .bodyThrows hnext

/-! ## The flag and the loop -/

/-- `isThreadRunning()` is true exactly while the loop is being executed. -/
def FlagAgrees (s : AcceptLoop) : Prop := s.isThreadRunning = true ↔ s.pc.inLoop = true

instance : DecidablePred FlagAgrees := fun s =>
  inferInstanceAs (Decidable (s.isThreadRunning = true ↔ s.pc.inLoop = true))

/-- An exception leaves the body of the loop. -/
def ThrowsInLoop (s : AcceptLoop) (l : Label) (_ : AcceptLoop) : Prop :=
  l = .run false ∧ s.pc.next.isSome = true

theorem inLoop_of_next {pc next : AcceptLoopPc} (h : pc.next = some next) :
    pc.inLoop = true ∧ next.inLoop = true := by
  cases pc with
  | accepting | settingTimeout | constructing | startingRun | registering | storing =>
      obtain rfl := Option.some.inj h
      exact ⟨rfl, rfl⟩
  | _ => cases h

theorem flagAgrees_test (s : AcceptLoop) : FlagAgrees s.test := by
  unfold test
  split
  · exact iff_of_false Bool.false_ne_true Bool.false_ne_true
  · exact iff_of_true rfl rfl

/-- A step keeps the flag in agreement unless an exception leaves the loop. -/
theorem FlagAgrees.step_iff (h : FlagAgrees s) {l : Label} (hs : s.step l = some t) :
    FlagAgrees t ↔ ¬ ThrowsInLoop s l t := by
  cases steps_of_step hs with
  | start hpc =>
      refine iff_of_true ?_ (by simp [ThrowsInLoop])
      simpa [FlagAgrees, isThreadRunning, hpc, AcceptLoopPc.inLoop] using h
  | bind hpc | bindThrows hpc | close hpc =>
      refine iff_of_true ?_ (by simp [ThrowsInLoop, hpc, AcceptLoopPc.next])
      simpa [FlagAgrees, isThreadRunning, hpc, AcceptLoopPc.inLoop] using h
  | test hpc =>
      refine iff_of_true (flagAgrees_test s) ?_
      rcases hpc with hpc | hpc <;> simp [ThrowsInLoop, hpc, AcceptLoopPc.next]
  | body hnext =>
      refine iff_of_true ?_ (by simp [ThrowsInLoop])
      obtain ⟨hloop, hloop'⟩ := inLoop_of_next hnext
      exact iff_of_true (h.mpr hloop) hloop'
  | bodyThrows hnext =>
      refine iff_of_false ?_ (by simp [ThrowsInLoop, hnext])
      intro hagrees
      exact Bool.false_ne_true (hagrees.mp (h.mpr (inLoop_of_next hnext).1))
  | stopRuning => exact iff_of_true h (by simp [ThrowsInLoop])

/-- However binding, accepting, handling and stop requests follow one another, the flag is set
exactly while the loop is being executed, and so not before `run()` or after it, if and only if
no exception leaves the loop. -/
theorem flag_follows_loop_iff (ls : List Label) :
    (FlagAgrees new ∧ Along step (fun _ _ t => FlagAgrees t) new ls) ↔
      Along step (fun s l t => ¬ ThrowsInLoop s l t) new ls := by
  have hnew : FlagAgrees new := iff_of_false Bool.false_ne_true Bool.false_ne_true
  rw [and_iff_right hnew]
  refine along_congr (I := FlagAgrees) ?_ ?_ hnew ls
  · exact fun _ _ _ _ _ hagrees => hagrees
  · exact fun _ _ _ h hs => h.step_iff hs

/-- `accept()` throws: the thread ends, and the flag stays set. -/
theorem failed_accept_leaves_flag :
    (exec step new [.start, .run true, .run true, .run false, .run true]).map
        (fun s => (s.pc, s.isThreadRunning)) = some (.ended, true) ∧
      ¬ ∀ ls, FlagAgrees new ∧ Along step (fun _ _ t => FlagAgrees t) new ls := by
  refine ⟨by decide, fun h => ?_⟩
  exact absurd (h [.start, .run true, .run true, .run false, .run true]) (by decide)

/-! ## The accept thread of the server -/

/-- What the server's accept thread is to this module. Its first test of the loop is the one
that finds the flag cleared. -/
def ofThread (thread : SocketServerConnectionThread) : AcceptLoop where
  mStopRuning := thread.mStopRuning
  mThreadRunning := thread.mThreadRunning
  pc := match thread.pc with
    | .notStarted => .notStarted
    | .looping => if thread.mThreadRunning then .testing else .entering
    | .accepting => .accepting
    | .executing _ _ | .naming _ _ => .startingRun
    | .registering _ _ _ => .registering
    | .storing _ _ => .storing
    | .ended => .ended

/-- What a step of the server is to the loop: `accept` covers the statements up to the
constructor, and an exception ends the thread at once. -/
def labels (s : Server) : Server.Label → List Label
  | .bind ok => if ok then [.start, .run true] else [.start, .run false, .run true]
  | .accept remoteIp =>
    if remoteIp.isSome then [.run true, .run true, .run true] else [.run false, .run true]
  | .runAccept =>
    match s.mSocketServerThread.pc with
    | .looping => if s.mSocketServerThread.mStopRuning then [.run true, .run true] else [.run true]
    | .executing _ _ => if s.mConnectionThreads.hasRoom then [] else [.run false, .run true]
    | _ => [.run true]
  | .stop =>
    if s.mNetWorkInfo.mStatus = .connected ∧ s.mSocketServerThread.mThreadRunning = true then
      [.stopRuning]
    else []
  | _ => []

/-- The accept thread has set the flag once it is past the test of the loop. -/
structure Flagged (thread : SocketServerConnectionThread) : Prop where
  notStarted : thread.pc = .notStarted → thread.mThreadRunning = false
  inLoop : thread.pc ≠ .notStarted → thread.pc ≠ .looping → thread.pc ≠ .ended →
    thread.mThreadRunning = true

theorem execute_flags (s : Server) (c : ℕ) (remoteIp : JString) :
    (s.execute c remoteIp).mSocketServerThread.mThreadRunning =
      s.mSocketServerThread.mThreadRunning :=
  Server.execute_cases s c remoteIp (fun _ => rfl) (fun _ _ => rfl) fun _ _ => rfl

theorem ofThread_execute (s : Server) (c : ℕ) (remoteIp : JString) :
    ofThread (s.execute c remoteIp).mSocketServerThread =
      { mStopRuning := s.mSocketServerThread.mStopRuning
        mThreadRunning := s.mSocketServerThread.mThreadRunning
        pc := if s.mConnectionThreads.hasRoom then .startingRun else .ended } := by
  rw [ofThread, Server.execute_pc, execute_flags, Server.execute_mStopRuning]
  cases s.mConnectionThreads.hasRoom <;> rfl

/-- Every step of the server is a run of the loop. -/
theorem exec_labels {cfg : Config} {s t : Server} {l : Server.Label}
    (h : Flagged s.mSocketServerThread) (hs : s.step cfg l = some t) :
    Flagged t.mSocketServerThread ∧
      exec step (ofThread s.mSocketServerThread) (labels s l) =
        some (ofThread t.mSocketServerThread) := by
  cases Server.steps_of_step hs with
  | @bind ok hpc =>
      have hflag := h.notStarted hpc
      cases ok with
      | true =>
          refine ⟨⟨by simp [Server.setAcceptPc], by simp [Server.setAcceptPc]⟩, ?_⟩
          simp [labels, ofThread, step, Server.setAcceptPc, hpc, hflag]
      | false =>
          refine ⟨⟨by simp [Server.setAcceptPc], by simp [Server.setAcceptPc]⟩, ?_⟩
          simp [labels, ofThread, step, Server.setAcceptPc, hpc]
  | accept hpc =>
      have hflag := h.inLoop (by simp [hpc]) (by simp [hpc]) (by simp [hpc])
      refine ⟨⟨by simp [Server.accept], fun _ _ _ => hflag⟩, ?_⟩
      simp [labels, ofThread, step, Server.accept, hpc, AcceptLoopPc.next]
  | acceptFails hpc =>
      refine ⟨⟨by simp [Server.setAcceptPc], by simp [Server.setAcceptPc]⟩, ?_⟩
      simp [labels, ofThread, step, Server.setAcceptPc, hpc, AcceptLoopPc.next]
  | loops hpc hstop =>
      refine ⟨⟨by simp, fun _ _ _ => rfl⟩, ?_⟩
      cases hflag : s.mSocketServerThread.mThreadRunning <;>
        simp [labels, ofThread, step, test, hpc, hstop, hflag]
  | leaves hpc hstop =>
      refine ⟨⟨by simp, by simp⟩, ?_⟩
      cases hflag : s.mSocketServerThread.mThreadRunning <;>
        simp [labels, ofThread, step, test, hpc, hstop, hflag]
  | @execute c remoteIp hpc =>
      have hflag := h.inLoop (by simp [hpc]) (by simp [hpc]) (by simp [hpc])
      refine ⟨⟨?_, fun _ _ _ => (execute_flags s c remoteIp).trans hflag⟩, ?_⟩
      · intro hpc'
        rw [Server.execute_pc] at hpc'
        split at hpc' <;> cases hpc'
      · rw [ofThread_execute]
        cases hroom : s.mConnectionThreads.hasRoom <;>
          simp [labels, ofThread, step, hpc, hroom, AcceptLoopPc.next]
  | setThreadName hpc | onNewConnection hpc =>
      have hflag := h.inLoop (by simp [hpc]) (by simp [hpc]) (by simp [hpc])
      refine ⟨⟨by simp [Server.setThreadName, Server.setAcceptPc], fun _ _ _ => hflag⟩, ?_⟩
      simp [labels, ofThread, step, Server.setThreadName, Server.onNewConnection,
        Server.setAcceptPc, Server.setConnection, hpc, AcceptLoopPc.next]
  | put hpc =>
      have hflag := h.inLoop (by simp [hpc]) (by simp [hpc]) (by simp [hpc])
      refine ⟨⟨by simp [Server.setAcceptPc], fun _ _ _ => hflag⟩, ?_⟩
      simp [labels, ofThread, step, Server.put, Server.setAcceptPc, hpc, hflag, AcceptLoopPc.next]
  | stop hstatus hrunning =>
      refine ⟨⟨h.notStarted, h.inLoop⟩, ?_⟩
      simp [labels, ofThread, step, stopRuning, hstatus, hrunning]
  | stopIdle hidle =>
      refine ⟨h, ?_⟩
      rcases hidle with hidle | hidle <;> simp [labels, hidle]
  | take => exact ⟨h, rfl⟩
  | _ =>
      rw [(Server.step_keepsRegistry hs rfl).thread]
      exact ⟨h, rfl⟩

/-- The accept thread of a server runs through the loop. -/
theorem ofThread_of_run {cfg : Config} {free : Int32 → Bool} {s : Server}
    {ls : List Server.Label} (he : exec (Server.step cfg) (Server.init cfg free) ls = some s) :
    Reachable step new (ofThread s.mSocketServerThread) := by
  have hstep : ∀ s l t,
      Flagged s.mSocketServerThread ∧ Reachable step new (ofThread s.mSocketServerThread) →
        Server.step cfg s l = some t →
          Flagged t.mSocketServerThread ∧ Reachable step new (ofThread t.mSocketServerThread) := by
    rintro s l t ⟨hflagged, ls, hls⟩ hs
    obtain ⟨hflagged', hexec⟩ := exec_labels hflagged hs
    refine ⟨hflagged', ls ++ labels s l, ?_⟩
    rw [exec_append, hls]
    exact hexec
  exact (invariant hstep ⟨⟨fun _ => rfl, fun hpc => absurd rfl hpc⟩, .refl _⟩ he).2

end AcceptLoop

end Collaboration
