import Collaboration.Server.Registry

/-! # Whether the accept loop goes on

`execute` throws once five workers are there and 128 connections wait, and the `catch`
around the whole loop then ends it. -/

namespace Collaboration

open Transition

/-- `mExecutor.execute` finds a worker or a place in the queue. -/
def ConnectionThreads.hasRoom (pool : ConnectionThreads) : Bool :=
  pool.workers < MAX_THREAD_SIZE || pool.sPoolWorkQueue.length < QUEUE_SIZE

/-- The accept thread is about to call `execute`. -/
def AcceptPc.isExecuting : AcceptPc → Bool
  | .executing _ _ => true
  | _ => false

namespace Server

variable {cfg : Config} {s t : Server} {free : Int32 → Bool} {ls : List Label}

/-- The server socket does not fail in this step. -/
def Label.SocketHolds : Label → Prop
  | .bind ok => ok = true
  | .accept remoteIp => remoteIp.isSome = true
  | _ => True

instance : DecidablePred Label.SocketHolds
  | .bind ok => inferInstanceAs (Decidable (ok = true))
  | .accept remoteIp => inferInstanceAs (Decidable (remoteIp.isSome = true))
  | .runAccept | .take | .connection _ _ | .unauthorized _ | .read _ _ _ | .authorize _ _ _
  | .reply _ | .decide _ | .finish _ | .sendDataToTarget _ | .stop => .isTrue trivial

/-- The accept thread is about to bind its port, waits for the next client, or has a next
statement that nothing keeps it from. -/
def LoopGoesOn (cfg : Config) (s : Server) : Prop :=
  s.mSocketServerThread.pc = .notStarted ∨ s.mSocketServerThread.pc = .accepting ∨
    (s.runAccept cfg).isSome = true

instance (cfg : Config) : DecidablePred (LoopGoesOn cfg) := fun s =>
  inferInstanceAs (Decidable (s.mSocketServerThread.pc = .notStarted ∨
    s.mSocketServerThread.pc = .accepting ∨ (s.runAccept cfg).isSome = true))

/-- When an accepted connection is handed to the pool, the pool has room for it. -/
def HasRoom (s : Server) (l : Label) (_ : Server) : Prop :=
  l = .runAccept → s.mSocketServerThread.pc.isExecuting = true →
    s.mConnectionThreads.hasRoom = true

instance (s : Server) (l : Label) (t : Server) : Decidable (HasRoom s l t) :=
  inferInstanceAs (Decidable (l = .runAccept → s.mSocketServerThread.pc.isExecuting = true →
    s.mConnectionThreads.hasRoom = true))

theorem loopGoesOn_iff : LoopGoesOn cfg s ↔ s.mSocketServerThread.pc ≠ .ended := by
  cases hpc : s.mSocketServerThread.pc <;> simp [LoopGoesOn, runAccept, hpc]

theorem execute_pc (s : Server) (c : ℕ) (remoteIp : JString) :
    (s.execute c remoteIp).mSocketServerThread.pc =
      if s.mConnectionThreads.hasRoom then .naming c remoteIp else .ended := by
  refine execute_cases s c remoteIp ?_ ?_ ?_
  · intro hworkers
    simp [ConnectionThreads.hasRoom, hworkers, setAcceptPc]
  · intro _ hqueue
    simp [ConnectionThreads.hasRoom, hqueue, setAcceptPc]
  · intro hworkers hqueue
    simp [ConnectionThreads.hasRoom, hworkers, hqueue, setAcceptPc]

/-- `stop()` never gets to `stopRuning()` on a server. -/
structure NotStopped (s : Server) : Prop where
  mStopRuning : s.mSocketServerThread.mStopRuning = false
  mNetWorkInfo : s.mNetWorkInfo.mStatus ≠ .connected

theorem notStopped_init (cfg : Config) (free : Int32 → Bool) : NotStopped (init cfg free) :=
  ⟨rfl, cfg.checkPort_ne_connected free⟩

theorem execute_mStopRuning (s : Server) (c : ℕ) (remoteIp : JString) :
    (s.execute c remoteIp).mSocketServerThread.mStopRuning = s.mSocketServerThread.mStopRuning :=
  execute_cases s c remoteIp (fun _ => rfl) (fun _ _ => rfl) fun _ _ => rfl

theorem notStopped_step {l : Label} (h : NotStopped s) (hs : s.step cfg l = some t) :
    NotStopped t := by
  refine ⟨?_, mNetWorkInfo_of_step hs ▸ h.mNetWorkInfo⟩
  cases steps_of_step hs with
  | bind | accept | acceptFails | loops | leaves | setThreadName | onNewConnection | put | take
  | stopIdle => exact h.mStopRuning
  | execute => exact (execute_mStopRuning s _ _).trans h.mStopRuning
  | stop hstatus => exact absurd hstatus h.mNetWorkInfo
  | _ => exact (step_keepsRegistry hs rfl).thread ▸ h.mStopRuning

/-- A step keeps the loop going unless it hands a connection to a pool without room. -/
theorem not_ended_step {l : Label} (h : NotStopped s) (hl : l.SocketHolds)
    (hs : s.step cfg l = some t) :
    t.mSocketServerThread.pc ≠ .ended ↔
      s.mSocketServerThread.pc ≠ .ended ∧ HasRoom s l t := by
  cases steps_of_step hs with
  | bind hpc =>
      obtain rfl : _ = true := hl
      simp [hpc, HasRoom, setAcceptPc]
  | accept hpc => simp [hpc, HasRoom, Server.accept]
  | acceptFails => simp [Label.SocketHolds] at hl
  | loops hpc => simp [hpc, HasRoom, AcceptPc.isExecuting]
  | leaves _ hstop => simp [h.mStopRuning] at hstop
  | execute hpc => simp [execute_pc, hpc, HasRoom, AcceptPc.isExecuting]
  | setThreadName hpc =>
      simp [hpc, HasRoom, AcceptPc.isExecuting, Server.setThreadName, setAcceptPc]
  | onNewConnection hpc => simp [hpc, HasRoom, AcceptPc.isExecuting, setAcceptPc]
  | put hpc => simp [hpc, HasRoom, AcceptPc.isExecuting, Server.put, setAcceptPc]
  | take => simp [HasRoom, setPc, setConnection]
  | stop hstatus => exact absurd hstatus h.mNetWorkInfo
  | stopIdle => simp [HasRoom]
  | _ =>
      rw [(step_keepsRegistry hs rfl).thread]
      simp [HasRoom]

/-- As long as the server socket does not fail, the accept loop goes on if and only if the
pool had room for every connection that was handed to it. -/
theorem accept_loop_goes_on_iff
    (he : exec (step cfg) (init cfg free) ls = some s) (hsocket : ∀ l ∈ ls, l.SocketHolds) :
    LoopGoesOn cfg s ↔ Along (step cfg) HasRoom (init cfg free) ls := by
  rw [loopGoesOn_iff, iff_along (fun _ _ _ => notStopped_step) (fun _ _ _ => not_ended_step)
    (notStopped_init cfg free) hsocket he]
  simp [init]

theorem accept_loop_goes_on_oneClient :
    let cfg := Config.connectionImpl none true
    let s := (exec (step cfg) (init cfg fun _ => true) oneClient).get (by decide)
    LoopGoesOn cfg s ↔ Along (step cfg) HasRoom (init cfg fun _ => true) oneClient :=
  accept_loop_goes_on_iff (Option.some_get _).symm (by decide)

/-! ## A crowd of clients -/

/-- `n` connections have been handed to the pool, and none of them has finished. -/
structure Crowded (n : ℕ) (s : Server) : Prop where
  mStopRuning : s.mSocketServerThread.mStopRuning = false
  workers : s.mConnectionThreads.workers = min n ConnectionThreads.MAX_THREAD_SIZE
  queue : s.mConnectionThreads.sPoolWorkQueue.length = n - ConnectionThreads.MAX_THREAD_SIZE

theorem Crowded.hasRoom_iff {n : ℕ} (h : Crowded n s) :
    s.mConnectionThreads.hasRoom = true ↔
      n < ConnectionThreads.MAX_THREAD_SIZE + ConnectionThreads.QUEUE_SIZE := by
  simp only [ConnectionThreads.hasRoom, h.workers, h.queue, ConnectionThreads.MAX_THREAD_SIZE,
    ConnectionThreads.QUEUE_SIZE, Bool.or_eq_true, decide_eq_true_eq]
  omega

theorem Crowded.execute {n : ℕ} (h : Crowded n s) (c : ℕ) (remoteIp : JString)
    (hn : n < ConnectionThreads.MAX_THREAD_SIZE + ConnectionThreads.QUEUE_SIZE) :
    Crowded (n + 1) (s.execute c remoteIp) := by
  obtain ⟨hstop, hworkers, hqueue⟩ := h
  by_cases hfree : n < ConnectionThreads.MAX_THREAD_SIZE
  · have hlt : s.mConnectionThreads.workers < ConnectionThreads.MAX_THREAD_SIZE := by omega
    simp only [Server.execute, hlt, if_true, setAcceptPc, setPc, setConnection]
    exact ⟨hstop, by simp only; omega, by simp only; omega⟩
  · have hge : ¬ s.mConnectionThreads.workers < ConnectionThreads.MAX_THREAD_SIZE := by omega
    have hlt : s.mConnectionThreads.sPoolWorkQueue.length < ConnectionThreads.QUEUE_SIZE := by
      omega
    simp only [Server.execute, hge, hlt, if_true, if_false, setAcceptPc, setPc, setConnection]
    refine ⟨hstop, by simp only; omega, ?_⟩
    simp only [List.length_append, List.length_singleton]
    omega

/-- After `execute` the accept thread registers the connection and is back at `accept()`. -/
theorem exec_runAccept_of_naming (cfg : Config) {c : ℕ} {remoteIp : JString}
    (hpc : s.mSocketServerThread.pc = .naming c remoteIp)
    (hstop : s.mSocketServerThread.mStopRuning = false) :
    ∃ t, exec (step cfg) s [.runAccept, .runAccept, .runAccept, .runAccept] = some t ∧
      t.mSocketServerThread.pc = .accepting ∧ t.mSocketServerThread.mStopRuning = false ∧
      t.mConnectionThreads = s.mConnectionThreads := by
  simp [step, runAccept, hpc, hstop, Server.setThreadName, setAcceptPc, setConnection,
    onNewConnection, put]

theorem step_accept (hpc : s.mSocketServerThread.pc = .accepting) (remoteIp : JString) :
    s.step cfg (.accept (some remoteIp)) = some (s.accept remoteIp) := by
  simp [step, hpc]

theorem step_execute (c : ℕ) (remoteIp : JString)
    (hpc : s.mSocketServerThread.pc = .executing c remoteIp) :
    s.step cfg .runAccept = some (s.execute c remoteIp) := by
  simp [step, runAccept, hpc]

/-- With room in the pool, the accept thread serves the next client and is back at
`accept()`. -/
theorem Crowded.register (cfg : Config) {n : ℕ} (h : Crowded n s)
    (hpc : s.mSocketServerThread.pc = .accepting)
    (hn : n < ConnectionThreads.MAX_THREAD_SIZE + ConnectionThreads.QUEUE_SIZE) :
    ∃ t, exec (step cfg) s register = some t ∧ t.mSocketServerThread.pc = .accepting ∧
      Crowded (n + 1) t := by
  let remoteIp := JString.lit "/10.0.0.2"
  let c := s.mSocketServerThread.accepted
  have haccepted : Crowded n (s.accept remoteIp) := ⟨h.mStopRuning, h.workers, h.queue⟩
  have hexecuted := haccepted.execute c remoteIp hn
  have hnaming : ((s.accept remoteIp).execute c remoteIp).mSocketServerThread.pc =
      .naming c remoteIp := by
    rw [execute_pc, haccepted.hasRoom_iff.mpr hn, if_pos rfl]
  obtain ⟨t, ht, hpct, hstop, hpool⟩ :=
    exec_runAccept_of_naming cfg hnaming hexecuted.mStopRuning
  refine ⟨t, ?_, hpct, hstop, hpool ▸ hexecuted.workers, hpool ▸ hexecuted.queue⟩
  rw [Server.register, exec_cons, step_accept hpc, Option.bind_some, exec_cons,
    step_execute c remoteIp rfl, Option.bind_some]
  exact ht

/-- `n` clients arrive one after the other, and none of them leaves. -/
def arrivals (n : ℕ) : List Label := (List.replicate n register).flatten

theorem crowded_of_arrivals (cfg : Config) (free : Int32 → Bool) (n : ℕ)
    (hn : n ≤ ConnectionThreads.MAX_THREAD_SIZE + ConnectionThreads.QUEUE_SIZE) :
    ∃ t, exec (step cfg) (init cfg free) (boot ++ arrivals n) = some t ∧
      t.mSocketServerThread.pc = .accepting ∧ Crowded n t := by
  induction n with
  | zero => exact ⟨_, rfl, rfl, rfl, rfl, rfl⟩
  | succ n ih =>
      obtain ⟨t, ht, hpc, hcrowded⟩ := ih (Nat.le_of_succ_le hn)
      obtain ⟨u, hu, hpcu, hcrowdedu⟩ := hcrowded.register cfg hpc hn
      refine ⟨u, ?_, hpcu, hcrowdedu⟩
      rw [arrivals, List.replicate_succ', List.flatten_append, List.flatten_singleton,
        ← List.append_assoc, exec_append, ← arrivals, ht]
      exact hu

theorem socketHolds_of_arrivals (n : ℕ) : ∀ l ∈ arrivals n, l.SocketHolds := by
  intro l hl
  obtain ⟨_, hr, hl⟩ := List.mem_flatten.mp hl
  obtain rfl := List.eq_of_mem_replicate hr
  have hregister : ∀ l ∈ register, l.SocketHolds := by decide
  exact hregister l hl

/-- The client for whom the pool has no room left ends the accept loop. -/
theorem full_pool_ends_accept_loop :
    ¬ ∀ ls s, exec (step (.connectionImpl none true))
        (init (.connectionImpl none true) fun _ => true) ls = some s →
      (∀ l ∈ ls, l.SocketHolds) → LoopGoesOn (.connectionImpl none true) s := by
  intro h
  let remoteIp := JString.lit "/10.0.0.2"
  obtain ⟨t, ht, hpc, hcrowded⟩ :=
    crowded_of_arrivals (.connectionImpl none true) (fun _ => true) 133 (by decide)
  have hfull : (t.accept remoteIp).mConnectionThreads.hasRoom = false := by
    have haccepted : Crowded 133 (t.accept remoteIp) :=
      ⟨hcrowded.mStopRuning, hcrowded.workers, hcrowded.queue⟩
    rw [Bool.eq_false_iff, ne_eq, haccepted.hasRoom_iff]
    decide
  have hexec : exec (step (.connectionImpl none true))
      (init (.connectionImpl none true) fun _ => true)
      (boot ++ arrivals 133 ++ [.accept (some remoteIp), .runAccept]) =
        some ((t.accept remoteIp).execute t.mSocketServerThread.accepted remoteIp) := by
    rw [exec_append, ht, Option.bind_some, exec_cons, step_accept hpc, Option.bind_some,
      exec_cons, step_execute _ _ rfl, Option.bind_some, exec_nil]
  have hsocket : ∀ l ∈ boot ++ arrivals 133 ++ [.accept (some remoteIp), .runAccept],
      l.SocketHolds := by
    rw [List.forall_mem_append, List.forall_mem_append]
    exact ⟨⟨by decide, socketHolds_of_arrivals 133⟩, by simp [Label.SocketHolds]⟩
  have hends := h _ _ hexec hsocket
  rw [loopGoesOn_iff, execute_pc, hfull] at hends
  exact hends rfl

end Server

end Collaboration
