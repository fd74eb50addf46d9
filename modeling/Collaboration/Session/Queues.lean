import Collaboration.Session.Heartbeats

/-! # How the queues of the senders move

What a step of a server or of a client does to the queue of each sender, in any run. -/

namespace Collaboration

open Transition

namespace Sender

/-- A step leaves a queue alone, empties it, takes out its last task, whose object may reach the
stream, or appends a task with one of the objects that it may queue. -/
inductive QueueMove (queues : Data → Prop) (queue : List SocketDataSendTask) :
    List Data → List SocketDataSendTask → Prop
  | same : QueueMove queues queue [] queue
  | emptied : QueueMove queues queue [] []
  | served {rest : List SocketDataSendTask} {task : SocketDataSendTask} (success : Bool)
      (hqueue : queue = rest ++ [task]) :
      QueueMove queues queue (if success then [task.dataToSend] else []) rest
  | queued {task : SocketDataSendTask} (h : queues task.dataToSend) :
      QueueMove queues queue [] (queue ++ [task])

/-- The objects of a kind in a queue. -/
def pending (p : Data → Bool) (queue : List SocketDataSendTask) : ℕ :=
  queue.countP fun task => p task.dataToSend

/-- What leaves a queue or reaches the stream was in the queue, or has just come in. -/
theorem QueueMove.pending_le {queues : Data → Prop} {queue queue' : List SocketDataSendTask}
    {written : List Data} (h : QueueMove queues queue written queue') {p : Data → Bool} {gain : ℕ}
    (hgain : ∀ d, queues d → p d = true → 1 ≤ gain) :
    pending p queue' + written.countP p ≤ pending p queue + gain := by
  cases h with
  | same => simp
  | emptied => simp [pending]
  | served success hqueue =>
      subst hqueue
      simp only [pending, List.countP_append, List.countP_singleton]
      cases success <;> simp [Nat.add_assoc]
  | @queued task hd =>
      simp only [pending, List.countP_append, List.countP_singleton, List.countP_nil]
      split
      · rename_i hp
        exact Nat.add_le_add_left (hgain _ hd hp) _
      · exact Nat.le_add_right _ _

theorem queueMove_run {queues : Data → Prop} {s t : Sender} {written : Bool}
    (h : s.run written = some t) :
    QueueMove queues s.mMessageTask (s.writes written).toList t.mMessageTask := by
  unfold run at h
  cases hpc : s.pc with
  | created | waiting | exited => simp [hpc] at h
  | started =>
      obtain rfl : _ = t := by simpa [hpc] using h
      simpa [writes, hpc] using QueueMove.same
  | looping =>
      simp only [hpc] at h
      split at h <;> obtain rfl := Option.some.inj h <;> simpa [writes, hpc] using QueueMove.same
  | locking =>
      simp only [hpc] at h
      cases hlast : s.mMessageTask.getLast? with
      | none =>
          obtain rfl : _ = t := by simpa [hlast] using h
          simpa [writes, hpc, hlast] using QueueMove.same
      | some task =>
          obtain rfl : s.send task written = t := by simpa [hlast] using h
          obtain ⟨rest, hqueue⟩ := List.getLast?_eq_some_iff.mp hlast
          have hwrites : (s.writes written).toList =
              if written && s.streamOpen then [task.dataToSend] else [] := by
            unfold writes
            by_cases hsuccess : (written && s.streamOpen) = true <;> simp [hpc, hlast, hsuccess]
          rw [hwrites, show (s.send task written).mMessageTask = rest by simp [send, hqueue]]
          exact .served _ hqueue

theorem queueMove_enqueue {queues : Data → Prop} (s : Sender) (id : Int32) {d : Data}
    (listener : Bool) (h : queues d) :
    QueueMove queues s.mMessageTask [] (s.enqueue id d listener).mMessageTask :=
  .queued h

end Sender

open Sender (QueueMove pending)

/-! ## The queues of a server -/

namespace ServerConnection

/-- `mMessageTask` of the connection's sender. -/
def backlog (c : ServerConnection) : List SocketDataSendTask :=
  c.mDataSenderThread.elim [] Sender.mMessageTask

variable {queues : Data → Prop}

@[simp] theorem backlog_releaseServerSocket (c : ServerConnection) :
    c.releaseServerSocket.backlog = c.backlog := by
  cases hc : c.mDataSenderThread <;> simp [backlog, releaseServerSocket, hc, Sender.stopRuning]

theorem queueMove_sendDataToTarget (c : ServerConnection) {d : Data} (h : queues d) :
    QueueMove queues c.backlog [] (c.sendDataToTarget d).backlog := by
  unfold sendDataToTarget
  split
  · rename_i sender hc
    split
    · simp only [backlog, hc, Option.elim_some]
      exact Sender.queueMove_enqueue _ _ _ h
    · exact .same
  · exact .same

theorem queueMove_own {c d : ServerConnection} {l : Label}
    (hbeat : l = .heartbeat → queues (.inner .heartbeat)) (h : c.step l = some d) :
    QueueMove queues c.backlog (c.writes l).toList d.backlog := by
  cases steps_of_step h with
  | openOutput => exact .emptied
  | openInput =>
      cases hc : c.mDataSenderThread <;> simpa [backlog, writes, hc] using QueueMove.same
  | openOutputFails | openInputFails | clearStop | loops | leaves => exact .same
  | readFails =>
      have hqueue : c.failReading.backlog = c.backlog := backlog_releaseServerSocket c
      rw [hqueue]
      exact .same
  | heartbeat hc =>
      simp only [backlog, hc, Option.elim_some]
      exact Sender.queueMove_enqueue _ _ _ (hbeat rfl)
  | send hc hrun => simpa [backlog, writes, hc] using Sender.queueMove_run hrun

end ServerConnection

namespace Server

variable {cfg : Config} {s t : Server} {queues : Data → Prop}

/-- The objects that a step may queue on a connection. -/
def Label.Queues (c : ℕ) : Label → Data → Prop
  | .connection d .heartbeat, data => d = c ∧ data = .inner .heartbeat
  | .reply _, data => ∃ authorize, data = authorizePackage authorize
  | .sendDataToTarget data, data' => data' = data
  | _, _ => False

theorem queueMove_setConnection {d : ℕ} {x : ServerConnection}
    (h : QueueMove queues (s.connections d).backlog [] x.backlog) :
    ∀ c, QueueMove queues (s.connections c).backlog []
      ((s.setConnection d x).connections c).backlog :=
  (Function.forall_update_iff s.connections fun c y =>
    QueueMove queues (s.connections c).backlog [] y.backlog).mpr ⟨h, fun _ _ => .same⟩

theorem backlog_setPc (s : Server) (d : ℕ) (pc : ServerPc) (c : ℕ) :
    ((s.setPc d pc).connections c).backlog = (s.connections c).backlog := by
  by_cases hc : c = d
  · subst hc
    simp [ServerConnection.backlog]
  · simp [hc]

theorem queueMove_setPc (s : Server) (d : ℕ) (pc : ServerPc) (c : ℕ) :
    QueueMove queues (s.connections c).backlog [] ((s.setPc d pc).connections c).backlog :=
  (backlog_setPc s d pc c).symm ▸ .same

theorem queueMove_failReading (s : Server) (d c : ℕ) :
    QueueMove queues (s.connections c).backlog []
      ((s.setConnection d (s.connections d).failReading).connections c).backlog := by
  refine queueMove_setConnection ?_ c
  have hqueue : (s.connections d).failReading.backlog = (s.connections d).backlog :=
    ServerConnection.backlog_releaseServerSocket _
  rw [hqueue]
  exact .same

theorem queueMove_execute (s : Server) (d : ℕ) (remoteIp : JString) (c : ℕ) :
    QueueMove queues (s.connections c).backlog []
      ((s.execute d remoteIp).connections c).backlog := by
  refine execute_cases s d remoteIp ?_ ?_ ?_
  · exact fun _ => queueMove_setPc s d .opening c
  · exact fun _ _ => queueMove_setPc s d .queued c
  · exact fun _ _ => .same

theorem queueMove_onNewDataReceived (s : Server) (d : ℕ) (data : Data) (throws : Bool) (c : ℕ) :
    QueueMove queues (s.connections c).backlog []
      ((s.onNewDataReceived cfg d data throws).connections c).backlog := by
  refine onNewDataReceived_cases cfg s d data throws ?_ ?_ ?_ ?_ ?_
  · exact fun _ _ => queueMove_failReading s d c
  · exact fun _ _ => queueMove_setPc s d .testing c
  · exact fun _ => queueMove_setPc s d .testing c
  · exact fun pkg _ _ _ =>
      queueMove_setPc s d (.authorizing (s.connections d).mThreadName pkg.message) c
  · exact fun _ _ _ _ => queueMove_setPc s d (.deciding (s.connections d).mThreadName true) c

theorem queueMove_decide (s : Server) (d : ℕ) (name : Option ThreadName) (authorize : Bool)
    (c : ℕ) :
    QueueMove queues (s.connections c).backlog []
      (((s.decide cfg name authorize).setPc d .testing).connections c).backlog := by
  rw [backlog_setPc]
  refine decide_cases cfg s name authorize ?_ ?_ ?_
  · exact fun _ => .same
  · intro target _ _
    rw [setAutorizeCheckPass_connections]
    exact queueMove_setConnection (d := target) (x := { s.connections target with
      mConnectStatus := .connected, mStopConnection := false }) .same c
  · intro target _ _
    exact queueMove_setConnection (d := target)
      (x := (s.connections target).stopConnection) .same c

/-- What a step writes on a connection, and what it does to the queue there. -/
theorem queueMove_of_step {l : Label} (hs : s.step cfg l = some t) (c : ℕ) :
    QueueMove (l.Queues c) (s.connections c).backlog (entries c (s.writes l).toList)
      (t.connections c).backlog := by
  cases steps_of_step hs with
  | bind | acceptFails | loops | leaves | onNewConnection | put | stop | stopIdle => exact .same
  | accept => exact queueMove_setConnection .emptied c
  | execute => exact queueMove_execute s _ _ c
  | @setThreadName d =>
      exact queueMove_setConnection (d := d)
        (x := { s.connections d with
          mThreadName := some (.connection (s.mConnectionThreads.mCount - 1)) }) .same c
  | @take d => exact queueMove_setPc s d .opening c
  | @connection d l x hx =>
      by_cases hd : d = c
      · subst hd
        have hwrites : entries d (s.writes (.connection d l)).toList =
            ((s.connections d).writes l).toList := by
          cases hw : (s.connections d).writes l <;> simp [Server.writes, hw]
        rw [setConnection_connections_self, hwrites]
        exact ServerConnection.queueMove_own (fun hl => hl ▸ ⟨rfl, rfl⟩) hx
      · have hwrites : entries c (s.writes (.connection d l)).toList = [] := by
          cases hw : (s.connections d).writes l <;>
            simp [Server.writes, hw, entries_cons_of_ne hd]
        rw [hwrites, setConnection_connections_of_ne s (Ne.symm hd)]
        exact .same
  | @unauthorized d =>
      rw [backlog_setPc, changeConnectStatus_connections]
      exact queueMove_setConnection (d := d)
        (x := { s.connections d with mConnectStatus := .unauthorized }) .same c
  | read => exact queueMove_onNewDataReceived s _ _ _ c
  | @authorize d name message authorize => exact queueMove_setPc s d (.replying name authorize) c
  | authorizeThrows => exact queueMove_failReading s _ c
  | @reply d name authorize =>
      rw [backlog_setPc, sendDataToTargetInner_connections]
      split
      · exact ServerConnection.queueMove_sendDataToTarget _ ⟨authorize, rfl⟩
      · exact .same
  | decide => exact queueMove_decide s _ _ _ c
  | @finish d =>
      refine queueMove_setConnection (d := d)
        (x := { (s.connections d).releaseServerSocket with pc := .finished }) ?_ c
      exact (ServerConnection.backlog_releaseServerSocket (s.connections d)).symm ▸ .same
  | @sendDataToTarget data =>
      unfold Server.sendDataToTarget
      split
      · simp only [broadcast]
        split
        · exact ServerConnection.queueMove_sendDataToTarget _ rfl
        · exact .same
      · exact .same

end Server

/-! ## The queues of a client -/

namespace SocketClientConnectionThread

/-- `mMessageTask` of the thread's sender. -/
def backlog (x : SocketClientConnectionThread) : List SocketDataSendTask :=
  x.mDataSenderThread.elim [] Sender.mMessageTask

variable {queues : Data → Prop}

theorem queueMove_sendDataToTarget (x : SocketClientConnectionThread) {d : Data} (h : queues d) :
    QueueMove queues x.backlog [] (x.sendDataToTarget d).backlog := by
  unfold sendDataToTarget
  split
  · rename_i sender hx
    split
    · simp only [backlog, hx, Option.elim_some]
      exact Sender.queueMove_enqueue _ _ _ h
    · exact .same
  · exact .same

theorem queueMove_sendHeartbeatPackages (x : SocketClientConnectionThread)
    (h : queues (.inner .heartbeat)) :
    QueueMove queues x.backlog [] x.sendHeartbeatPackages.backlog := by
  unfold sendHeartbeatPackages
  split
  · rename_i sender hx
    split
    · simp only [backlog, hx, Option.elim_some]
      exact Sender.queueMove_enqueue _ _ _ h
    · exact .same
  · exact .same

theorem queueMove_own {x y : SocketClientConnectionThread} {l : Label}
    (hclose : l = .close → queues farewell) (h : x.step l = some y) :
    QueueMove queues x.backlog (x.writes l).toList y.backlog := by
  cases steps_of_step h with
  | init | connectFails | loops | leaves | readTimesOut | readFails => exact .same
  | connect => exact .emptied
  | close => exact queueMove_sendDataToTarget x (hclose rfl)
  | release =>
      cases hx : x.mDataSenderThread <;>
        simpa [backlog, writes, releaseServerSocket, hx, Sender.stopRuning] using QueueMove.same
  | send hx hrun => simpa [backlog, writes, hx] using Sender.queueMove_run hrun

end SocketClientConnectionThread

namespace Client

variable {cfg : ClientConfig} {s t : Client} {Q : ℕ → Data → Prop}

/-- The objects that a step may queue on a thread. -/
def Queues (s : Client) (n : ℕ) : Label → Data → Prop
  | .thread m .close, data => m = n ∧ data = SocketClientConnectionThread.farewell
  | .unauthorized _, data => ∃ deviceId, data = .inner (.createAuthorizePackage deviceId)
  | .read _ _ _, data => data = .inner .heartbeat
  | .sendDataToTarget data, data' => s.mSocketClientThread = n ∧ data' = data
  | _, _ => False

/-- What a step writes, with the thread that writes it. -/
def writes (s : Client) : Label → Option (ℕ × Data)
  | .thread n l => ((s.threads n).writes l).map (n, ·)
  | _ => none

theorem queueMove_setThread {m : ℕ} {x : SocketClientConnectionThread}
    (h : QueueMove (Q m) (s.threads m).backlog [] x.backlog) :
    ∀ n, QueueMove (Q n) (s.threads n).backlog [] ((s.setThread m x).threads n).backlog :=
  (Function.forall_update_iff s.threads fun n y =>
    QueueMove (Q n) (s.threads n).backlog [] y.backlog).mpr ⟨h, fun _ _ => .same⟩

theorem backlog_setPc (s : Client) (m : ℕ) (pc : ClientPc) (n : ℕ) :
    ((s.setPc m pc).threads n).backlog = (s.threads n).backlog := by
  by_cases hn : n = m
  · subst hn
    simp [SocketClientConnectionThread.backlog]
  · simp [hn]

theorem backlog_changeConnectStatus (cfg : ClientConfig) (s : Client) (m : ℕ)
    (status : ConnectStatus) (n : ℕ) :
    ((s.changeConnectStatus cfg m status).threads n).backlog = (s.threads n).backlog := by
  rw [changeConnectStatus_threads]
  by_cases hn : n = m
  · subst hn
    simp [SocketClientConnectionThread.backlog]
  · simp [hn]

theorem queueMove_setPc (s : Client) (m : ℕ) (pc : ClientPc) (n : ℕ) :
    QueueMove (Q n) (s.threads n).backlog [] ((s.setPc m pc).threads n).backlog :=
  (backlog_setPc s m pc n).symm ▸ .same

theorem queueMove_announce (s : Client) (m n : ℕ)
    (h : ∀ i deviceId, Q i (.inner (.createAuthorizePackage deviceId))) :
    QueueMove (Q n) (s.threads n).backlog [] ((s.announce cfg m).threads n).backlog := by
  refine announce_cases cfg s m ?_ ?_ ?_
  · intro _
    rw [backlog_setPc, backlog_changeConnectStatus]
    exact .same
  · intro deviceId _ _
    rw [backlog_setPc, ← backlog_changeConnectStatus cfg s m .unauthorized]
    unfold sendDataToTargetInner
    split
    · exact queueMove_setThread
        (SocketClientConnectionThread.queueMove_sendDataToTarget _ (h _ deviceId)) n
    · exact .same
  · intro _ _
    rw [backlog_setPc, backlog_changeConnectStatus]
    exact .same

theorem queueMove_receive (s : Client) (m : ℕ) (data : Data) (throws : Bool) (n : ℕ)
    (h : ∀ i, Q i (.inner .heartbeat)) :
    QueueMove (Q n) (s.threads n).backlog []
      ((s.receive cfg m data throws).threads n).backlog := by
  refine receive_cases cfg s m data throws ?_ ?_ ?_ ?_
  · intro _ _
    rw [backlog_setPc, backlog_changeConnectStatus]
    exact .same
  · intro _ _ _
    exact queueMove_setThread (m := m)
      (x := { (s.threads m).stopConnection with pc := .testing }) .same n
  · exact fun _ _ => queueMove_setPc s m .testing n
  · intro _ _
    refine onNewDataReceived_cases cfg s m data throws ?_ ?_ ?_
    · exact fun _ => queueMove_setPc s m _ n
    · intro _ _
      rw [backlog_setPc]
      exact queueMove_setThread
        (SocketClientConnectionThread.queueMove_sendHeartbeatPackages _ (h _)) n
    · exact fun _ => queueMove_setPc s m .testing n

/-- What a step writes on a thread, and what it does to the queue there. -/
theorem queueMove_of_step {l : Label} (hs : s.step cfg l = some t) (n : ℕ) :
    QueueMove (s.Queues n l) (s.threads n).backlog (entries n (s.writes l).toList)
      (t.threads n).backlog := by
  cases steps_of_step hs with
  | announced =>
      unfold onServerAnnounced
      split
      · exact .same
      · exact queueMove_setThread (Q := fun n => s.Queues n _) .emptied n
  | @thread m l x hx =>
      by_cases hm : m = n
      · subst hm
        have hwrites : entries m (s.writes (.thread m l)).toList =
            ((s.threads m).writes l).toList := by
          cases hw : (s.threads m).writes l <;> simp [Client.writes, hw]
        rw [setThread_threads_self, hwrites]
        exact SocketClientConnectionThread.queueMove_own (fun hl => hl ▸ ⟨rfl, rfl⟩) hx
      · have hwrites : entries n (s.writes (.thread m l)).toList = [] := by
          cases hw : (s.threads m).writes l <;>
            simp [Client.writes, hw, entries_cons_of_ne hm]
        rw [hwrites, setThread_threads_of_ne s (Ne.symm hm)]
        exact .same
  | @unauthorized m =>
      exact queueMove_announce (Q := fun n => s.Queues n (.unauthorized m)) s m n
        fun _ deviceId => ⟨deviceId, rfl⟩
  | @read m data throws =>
      exact queueMove_receive (Q := fun n => s.Queues n (.read m data throws)) s m data throws
        n fun _ => rfl
  | @disconnected m =>
      rw [backlog_setPc, backlog_changeConnectStatus]
      exact .same
  | @sendDataToTarget data =>
      unfold Client.sendDataToTarget
      split
      · exact queueMove_setThread (Q := fun n => s.Queues n (.sendDataToTarget data))
          (SocketClientConnectionThread.queueMove_sendDataToTarget _ ⟨rfl, rfl⟩) n
      · exact .same
  | stop =>
      exact queueMove_setThread (Q := fun n => s.Queues n .stop)
        (x := s.current.stopRuning) .same n
  | stopIdle => exact .same

end Client

end Collaboration
