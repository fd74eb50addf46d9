import Collaboration.Client.Steps
import Collaboration.Library.Network
import Collaboration.Sender.Callbacks
import Collaboration.Session.Agreement
import Mathlib.Algebra.BigOperators.Group.Finset.Piecewise
import Mathlib.Algebra.Order.BigOperators.Group.Finset

/-! # Heartbeats between a server and its clients

One server and any number of clients, whose objects travel on one pair of wires for each
connection. A server takes its heartbeats from timers, and a client queues at most one for each
one that it reads. -/

namespace Collaboration

open Transition

/-! ## What a sender has been given to send -/

namespace Sender

/-- The heartbeats in the queue. -/
def pendingHeartbeats (s : Sender) : ℕ := s.mMessageTask.countP (·.dataToSend.isHeartbeat)

/-- What the next step of the thread puts on the stream. -/
def writes (s : Sender) (written : Bool) : Option Data :=
  if s.pc = .locking ∧ (written && s.streamOpen) = true then
    s.mMessageTask.getLast?.map (·.dataToSend)
  else none

/-- The tasks of a kind that have been queued so far; the kind may depend on the object and on
whether there is a listener. -/
def count (q : Data → Bool → Bool) (s : Sender) : ℕ :=
  s.tasks.countP fun task => q task.dataToSend task.listener

theorem pendingHeartbeats_run {s t : Sender} {written : Bool} (h : s.run written = some t) :
    t.pendingHeartbeats + (s.writes written).toList.countP (·.isHeartbeat) ≤
      s.pendingHeartbeats := by
  rcases run_backlog h with hserves | hkeeps
  · obtain ⟨task, success, hqueue, -⟩ := hserves.attempt
    simp only [pendingHeartbeats, writes, hqueue, List.countP_append, List.getLast?_concat]
    split <;> simp
  · have hwrites : s.writes written = none := by
      unfold writes
      split
      · rename_i hlock
        simp [hkeeps.idle hlock.1 ⟨written, rfl⟩]
      · rfl
    simp [pendingHeartbeats, hkeeps.queue_eq, hwrites]

theorem count_run {q : Data → Bool → Bool} {s t : Sender} {written : Bool}
    (h : s.run written = some t) : t.count q = s.count q := by
  rcases run_backlog h with hserves | hkeeps
  · obtain ⟨task, success, hqueue, hattempts⟩ := hserves.attempt
    simp only [count, tasks, served, hqueue, hattempts, List.map_append, List.map_cons,
      List.map_nil, List.countP_append]
    omega
  · simp [count, tasks, served, hkeeps.queue_eq, hkeeps.attempts_eq]

theorem count_enqueue (q : Data → Bool → Bool) (s : Sender) (id : Int32) (d : Data)
    (listener : Bool) :
    (s.enqueue id d listener).count q = s.count q + if q d listener then 1 else 0 := by
  simp only [count, tasks, served, enqueue, List.countP_append, List.countP_singleton]
  omega

end Sender

/-! ## The server -/

namespace ServerConnection

def pendingHeartbeats (c : ServerConnection) : ℕ :=
  c.mDataSenderThread.elim 0 Sender.pendingHeartbeats

/-- What a step of the connection writes. -/
def writes (c : ServerConnection) : Label → Option Data
  | .send written => c.mDataSenderThread.bind (·.writes written)
  | _ => none

theorem pendingHeartbeats_own {c d : ServerConnection} {l : Label} (h : c.step l = some d) :
    d.pendingHeartbeats + (c.writes l).toList.countP (·.isHeartbeat) ≤
      c.pendingHeartbeats + if l = .heartbeat then 1 else 0 := by
  cases steps_of_step h with
  | openOutput =>
      simp [pendingHeartbeats, writes, Sender.pendingHeartbeats, Sender.new]
  | openInput =>
      cases hc : c.mDataSenderThread <;>
        simp [pendingHeartbeats, writes, hc, Sender.pendingHeartbeats]
  | openOutputFails | openInputFails | clearStop | loops | leaves =>
      simp [pendingHeartbeats, writes]
  | readFails =>
      cases hc : c.mDataSenderThread <;>
        simp [pendingHeartbeats, writes, failReading, releaseServerSocket, hc,
          Sender.pendingHeartbeats, Sender.stopRuning]
  | heartbeat hc =>
      simp [pendingHeartbeats, writes, hc, Sender.pendingHeartbeats, Sender.addHeartbeatPackage,
        Sender.enqueue, Data.isHeartbeat]
  | send hc hrun => simpa [pendingHeartbeats, writes, hc] using Sender.pendingHeartbeats_run hrun

theorem pendingHeartbeats_sendDataToTarget (c : ServerConnection) (d : Data) :
    (c.sendDataToTarget d).pendingHeartbeats ≤
      c.pendingHeartbeats + if d.isHeartbeat then 1 else 0 := by
  unfold sendDataToTarget
  split
  · rename_i sender hc
    split
    · simp [pendingHeartbeats, hc, Sender.pendingHeartbeats, Sender.addMessage, Sender.enqueue,
        List.countP_singleton]
    · exact Nat.le_add_right _ _
  · exact Nat.le_add_right _ _

@[simp] theorem pendingHeartbeats_releaseServerSocket (c : ServerConnection) :
    c.releaseServerSocket.pendingHeartbeats = c.pendingHeartbeats := by
  cases hc : c.mDataSenderThread <;>
    simp [pendingHeartbeats, releaseServerSocket, hc, Sender.pendingHeartbeats, Sender.stopRuning]

end ServerConnection

namespace Server

variable {cfg : Config} {s t : Server}

/-- What a step writes, with the connection that it goes to. -/
def writes (s : Server) : Label → Option (ℕ × Data)
  | .connection c l => ((s.connections c).writes l).map (c, ·)
  | _ => none

/-- What a step reads, with the connection that it comes from. -/
def Label.readFrom : Label → Option (ℕ × Data)
  | .read c data _ => some (c, data)
  | _ => none

/-- The heartbeats that a step may queue on a connection: one at its timer, and one that the
application itself submits. -/
def Label.heartbeats (c : ℕ) : Label → ℕ
  | .connection d .heartbeat => if d = c then 1 else 0
  | .sendDataToTarget data => if data.isHeartbeat then 1 else 0
  | _ => 0

theorem pendingHeartbeats_setConnection {d : ℕ} {x : ServerConnection}
    (h : x.pendingHeartbeats ≤ (s.connections d).pendingHeartbeats) (c : ℕ) :
    ((s.setConnection d x).connections c).pendingHeartbeats ≤
      (s.connections c).pendingHeartbeats := by
  by_cases hc : c = d
  · subst hc
    simpa using h
  · simp [hc]

theorem pendingHeartbeats_setPc (s : Server) (d : ℕ) (pc : ServerPc) (c : ℕ) :
    ((s.setPc d pc).connections c).pendingHeartbeats ≤ (s.connections c).pendingHeartbeats :=
  pendingHeartbeats_setConnection (x := { s.connections d with pc := pc }) le_rfl c

theorem pendingHeartbeats_execute (s : Server) (d : ℕ) (remoteIp : JString) (c : ℕ) :
    ((s.execute d remoteIp).connections c).pendingHeartbeats ≤
      (s.connections c).pendingHeartbeats := by
  refine execute_cases s d remoteIp ?_ ?_ ?_
  · exact fun _ => pendingHeartbeats_setPc s d _ c
  · exact fun _ _ => pendingHeartbeats_setPc s d _ c
  · exact fun _ _ => le_rfl

theorem pendingHeartbeats_failReading (x : ServerConnection) :
    x.failReading.pendingHeartbeats ≤ x.pendingHeartbeats :=
  le_of_eq x.pendingHeartbeats_releaseServerSocket

theorem pendingHeartbeats_onNewDataReceived (s : Server) (d : ℕ) (data : Data) (throws : Bool)
    (c : ℕ) :
    ((s.onNewDataReceived cfg d data throws).connections c).pendingHeartbeats ≤
      (s.connections c).pendingHeartbeats := by
  refine onNewDataReceived_cases cfg s d data throws ?_ ?_ ?_ ?_ ?_
  · exact fun _ _ => pendingHeartbeats_setConnection (s := { s with received := _ })
      (pendingHeartbeats_failReading _) c
  · exact fun _ _ => pendingHeartbeats_setPc { s with received := _ } d _ c
  · exact fun _ => pendingHeartbeats_setPc s d _ c
  · exact fun _ _ _ _ => pendingHeartbeats_setPc s d _ c
  · exact fun _ _ _ _ => pendingHeartbeats_setPc s d _ c

/-- The answer to a request is no heartbeat. -/
theorem pendingHeartbeats_reply (s : Server) (d : ℕ) (name : Option ThreadName)
    (authorize : Bool) (c : ℕ) :
    (((s.sendDataToTargetInner name (authorizePackage authorize)).setPc d
      (.deciding name authorize)).connections c).pendingHeartbeats ≤
      (s.connections c).pendingHeartbeats := by
  refine le_trans (pendingHeartbeats_setPc _ d _ c) ?_
  rw [sendDataToTargetInner_connections]
  split
  · simpa [authorizePackage, Data.isHeartbeat] using
      (s.connections c).pendingHeartbeats_sendDataToTarget (authorizePackage authorize)
  · exact le_rfl

theorem pendingHeartbeats_decide (s : Server) (d : ℕ) (name : Option ThreadName)
    (authorize : Bool) (c : ℕ) :
    (((s.decide cfg name authorize).setPc d .testing).connections c).pendingHeartbeats ≤
      (s.connections c).pendingHeartbeats := by
  refine le_trans (pendingHeartbeats_setPc _ d _ c) ?_
  refine decide_cases cfg s name authorize ?_ ?_ ?_
  · exact fun _ => le_rfl
  · intro target _ _
    rw [setAutorizeCheckPass_connections]
    exact pendingHeartbeats_setConnection (d := target) (x := { s.connections target with
      mConnectStatus := .connected, mStopConnection := false }) le_rfl c
  · intro target _ _
    exact pendingHeartbeats_setConnection (d := target)
      (x := (s.connections target).stopConnection) le_rfl c

/-- The heartbeats of a connection that wait or are written come from its timer and from the
application. -/
theorem pendingHeartbeats_step {l : Label} (hs : s.step cfg l = some t) (c : ℕ) :
    (t.connections c).pendingHeartbeats +
        (entries c (s.writes l).toList).countP (·.isHeartbeat) ≤
      (s.connections c).pendingHeartbeats + l.heartbeats c := by
  cases steps_of_step hs with
  | bind | acceptFails | loops | leaves | onNewConnection | put | stop | stopIdle =>
      exact Nat.le_add_right _ _
  | accept => exact pendingHeartbeats_setConnection (Nat.zero_le _) c
  | execute => exact pendingHeartbeats_execute s _ _ c
  | @setThreadName d =>
      exact pendingHeartbeats_setConnection (d := d)
        (x := { s.connections d with
          mThreadName := some (.connection (s.mConnectionThreads.mCount - 1)) }) le_rfl c
  | @take d => exact pendingHeartbeats_setPc s d .opening c
  | @connection d l x hx =>
      have hown := ServerConnection.pendingHeartbeats_own hx
      by_cases hd : d = c
      · subst hd
        have hwrites : (entries d (s.writes (.connection d l)).toList).countP (·.isHeartbeat) =
            ((s.connections d).writes l).toList.countP (·.isHeartbeat) := by
          cases hw : (s.connections d).writes l <;> simp [Server.writes, hw]
        have hgain : (if l = .heartbeat then 1 else 0) ≤
            Label.heartbeats d (.connection d l) := by
          cases l <;> simp [Label.heartbeats]
        rw [setConnection_connections_self, hwrites]
        omega
      · have hwrites : entries c (s.writes (.connection d l)).toList = [] := by
          cases hw : (s.connections d).writes l <;>
            simp [Server.writes, hw, entries_cons_of_ne hd]
        simp [hwrites, Ne.symm hd]
  | @unauthorized d =>
      refine le_trans (pendingHeartbeats_setPc _ d .clearing c) ?_
      rw [changeConnectStatus_connections]
      exact pendingHeartbeats_setConnection (d := d)
        (x := { s.connections d with mConnectStatus := .unauthorized }) le_rfl c
  | read => exact pendingHeartbeats_onNewDataReceived s _ _ _ c
  | @authorize d name message authorize =>
      exact pendingHeartbeats_setPc s d (.replying name authorize) c
  | authorizeThrows => exact pendingHeartbeats_setConnection (pendingHeartbeats_failReading _) c
  | reply => exact pendingHeartbeats_reply s _ _ _ c
  | decide => exact pendingHeartbeats_decide s _ _ _ c
  | @finish d =>
      have hrelease := (s.connections d).pendingHeartbeats_releaseServerSocket
      exact pendingHeartbeats_setConnection (d := d)
        (x := { (s.connections d).releaseServerSocket with pc := .finished }) (le_of_eq hrelease) c
  | @sendDataToTarget data =>
      have hdata := (s.connections c).pendingHeartbeats_sendDataToTarget data
      unfold Server.sendDataToTarget
      split
      · simp only [broadcast]
        split
        · exact hdata
        · exact Nat.le_add_right _ _
      · exact Nat.le_add_right _ _

/-- A heartbeat only takes its reader back to the test of its loop. -/
def IgnoresHeartbeats (s : Server) (l : Label) (t : Server) : Prop :=
  ∀ e ∈ l.readFrom, e.2.isHeartbeat = true → t = s.setPc e.1 .testing

theorem ignoresHeartbeats_of_step {l : Label} (hs : s.step cfg l = some t) :
    IgnoresHeartbeats s l t := by
  intro e he hbeat
  cases steps_of_step hs with
  | @read c data throws =>
      obtain rfl := Option.some.inj he
      cases data with
      | inner pkg =>
          have hpkg : pkg.isHeatbeatPackage = true := hbeat
          simp [onNewDataReceived, Config.handsOver, hpkg]
      | string str | object n => cases hbeat
  | _ => cases he

end Server

/-! ## A client -/

/-- A kind of task that covers no package and no text that the library itself submits. -/
structure SparesLibrary (q : Data → Bool → Bool) : Prop where
  package : ∀ message, q (.inner (.ofMessage message)) true = false
  farewell : q SocketClientConnectionThread.farewell true = false

namespace SocketClientConnectionThread

variable {q : Data → Bool → Bool}

def count (q : Data → Bool → Bool) (x : SocketClientConnectionThread) : ℕ :=
  x.mDataSenderThread.elim 0 (Sender.count q)

/-- What a step of the thread writes. -/
def writes (x : SocketClientConnectionThread) : Label → Option Data
  | .send written => x.mDataSenderThread.bind (·.writes written)
  | _ => none

theorem count_sendDataToTarget (x : SocketClientConnectionThread) (d : Data) :
    (x.sendDataToTarget d).count q ≤ x.count q + if q d true then 1 else 0 := by
  unfold sendDataToTarget
  split
  · rename_i sender hx
    split
    · have henqueue := Sender.count_enqueue q
        { sender with mCurrentId := sender.mCurrentId + 1 } (sender.mCurrentId + 1) d true
      simp only [count, hx, Option.elim_some, Sender.addMessage]
      exact le_of_eq henqueue
    · exact Nat.le_add_right _ _
  · exact Nat.le_add_right _ _

theorem count_sendHeartbeatPackages (x : SocketClientConnectionThread) :
    x.sendHeartbeatPackages.count q ≤ x.count q + 1 := by
  unfold sendHeartbeatPackages
  split
  · rename_i sender hx
    split
    · have henqueue := Sender.count_enqueue q sender (-1) (.inner .heartbeat) false
      simp only [count, hx, Option.elim_some, Sender.addHeartbeatPackage, henqueue]
      split <;> simp
    · exact Nat.le_add_right _ _
  · exact Nat.le_add_right _ _

theorem count_own {x y : SocketClientConnectionThread} {l : Label} (hq : SparesLibrary q)
    (h : x.step l = some y) : y.count q ≤ x.count q := by
  cases steps_of_step h with
  | init | connectFails | loops | leaves | readTimesOut | readFails => exact le_rfl
  | connect => simp [count, Sender.count, Sender.tasks, Sender.served, Sender.new]
  | close =>
      have hsend := x.count_sendDataToTarget (q := q) farewell
      rw [hq.farewell] at hsend
      exact hsend
  | release =>
      cases hx : x.mDataSenderThread <;>
        simp [count, releaseServerSocket, hx, Sender.count, Sender.tasks, Sender.served,
          Sender.stopRuning]
  | send hx hrun => simp [count, hx, Sender.count_run hrun]

end SocketClientConnectionThread

namespace Client

variable {cfg : ClientConfig} {s t : Client} {q : Data → Bool → Bool}

/-- The tasks of a kind that the first threads of a client have queued so far. -/
def queued (q : Data → Bool → Bool) (s : Client) (threads : ℕ) : ℕ :=
  ∑ n ∈ Finset.range threads, (s.threads n).count q

/-- What a step reads, with the thread that it comes to. -/
def Label.readFrom : Label → Option (ℕ × Data)
  | .read n data _ => some (n, data)
  | _ => none

/-- The heartbeats that a step reads, and the objects of a kind that the application submits. -/
def Label.heartbeats (l : Label) : ℕ := l.readFrom.toList.countP (·.2.isHeartbeat)

def Label.submits (q : Data → Bool → Bool) : Label → ℕ
  | .sendDataToTarget data => if q data true then 1 else 0
  | _ => 0

theorem queued_setThread {n k : ℕ} {x : SocketClientConnectionThread}
    (h : x.count q ≤ (s.threads n).count q + k) (threads : ℕ) :
    (s.setThread n x).queued q threads ≤ s.queued q threads + k := by
  have heach : ∀ m ∈ Finset.range threads, ((s.setThread n x).threads m).count q ≤
      (s.threads m).count q + if m = n then k else 0 := by
    intro m _
    by_cases hm : m = n
    · subst hm
      simpa using h
    · simp [hm]
  refine (Finset.sum_le_sum heach).trans ?_
  rw [Finset.sum_add_distrib, Finset.sum_ite_eq']
  refine Nat.add_le_add_left ?_ _
  split
  · exact le_rfl
  · exact Nat.zero_le k

theorem queued_setPc (s : Client) (n : ℕ) (pc : ClientPc) (threads : ℕ) :
    (s.setPc n pc).queued q threads ≤ s.queued q threads :=
  queued_setThread (k := 0) (x := { s.threads n with pc := pc }) le_rfl threads

theorem queued_changeConnectStatus (s : Client) (n : ℕ) (status : ConnectStatus) (threads : ℕ) :
    (s.changeConnectStatus cfg n status).queued q threads ≤ s.queued q threads :=
  queued_setThread (k := 0) (x := { s.threads n with mConnectStatus := status }) le_rfl threads

/-- The request of a client is no object of the kind. -/
theorem queued_announce (hq : SparesLibrary q) (s : Client) (n threads : ℕ) :
    (s.announce cfg n).queued q threads ≤ s.queued q threads := by
  have hstatus : (s.changeConnectStatus cfg n .unauthorized).queued q threads ≤
      s.queued q threads := queued_changeConnectStatus s n .unauthorized threads
  refine announce_cases cfg s n ?_ ?_ ?_
  · exact fun _ => (queued_setPc _ n .testing threads).trans hstatus
  · intro deviceId _ _
    refine (queued_setPc _ n .testing threads).trans (le_trans ?_ hstatus)
    unfold sendDataToTargetInner
    split
    · have hsend := (s.changeConnectStatus cfg n .unauthorized).current.count_sendDataToTarget
        (q := q) (.inner (.createAuthorizePackage deviceId))
      rw [InnerPackage.createAuthorizePackage, hq.package] at hsend
      exact queued_setThread hsend threads
    · exact le_rfl
  · exact fun _ _ => (queued_setPc _ n .disconnecting threads).trans hstatus

/-- An object that is read brings at most one heartbeat into a queue, and only a heartbeat does. -/
theorem queued_receive (s : Client) (n : ℕ) (data : Data) (throws : Bool) (threads : ℕ) :
    (s.receive cfg n data throws).queued q threads ≤
      s.queued q threads + if data.isHeartbeat then 1 else 0 := by
  have hkept : ∀ pc, (s.setPc n pc).queued q threads ≤
      s.queued q threads + if data.isHeartbeat then 1 else 0 :=
    fun pc => (queued_setPc s n pc threads).trans (Nat.le_add_right _ _)
  have hplain : (s.onNewDataReceived cfg n data throws).queued q threads ≤
      s.queued q threads + if data.isHeartbeat then 1 else 0 := by
    refine onNewDataReceived_cases cfg s n data throws ?_ ?_ ?_
    · exact fun _ => hkept _
    · intro _ hbeat
      rw [if_pos hbeat]
      exact (queued_setPc _ n .testing threads).trans
        (queued_setThread s.current.count_sendHeartbeatPackages threads)
    · exact fun _ => hkept .testing
  refine receive_cases cfg s n data throws ?_ ?_ ?_ ?_
  · intro _ _
    exact ((queued_setPc _ n .testing threads).trans
      (queued_changeConnectStatus s n .connected threads)).trans (Nat.le_add_right _ _)
  · intro _ _ _
    exact (queued_setThread (k := 0) (x := { (s.threads n).stopConnection with pc := .testing })
      le_rfl threads).trans (Nat.le_add_right _ _)
  · exact fun _ _ => hkept .testing
  · exact fun _ _ => hplain

theorem queued_step (hq : SparesLibrary q) {l : Label} (hs : s.step cfg l = some t)
    (threads : ℕ) :
    t.queued q threads ≤ s.queued q threads + (l.heartbeats + l.submits q) := by
  cases steps_of_step hs with
  | announced =>
      unfold onServerAnnounced
      split
      · exact Nat.le_add_right _ _
      · exact queued_setThread (k := 0) (Nat.zero_le _) threads
  | thread hx =>
      have hown := SocketClientConnectionThread.count_own hq hx
      exact queued_setThread (k := 0) hown threads
  | @unauthorized n => exact queued_announce hq s n threads
  | @read n data throws =>
      have hreceive : (s.receive cfg n data throws).queued q threads ≤
          s.queued q threads + if data.isHeartbeat then 1 else 0 :=
        queued_receive s n data throws threads
      simpa [Label.heartbeats, Label.readFrom, Label.submits, List.countP_singleton] using hreceive
  | @disconnected n =>
      exact (queued_setPc _ n .releasing threads).trans
        (queued_changeConnectStatus s n .disconnected threads)
  | @sendDataToTarget data =>
      unfold Client.sendDataToTarget
      split
      · have hsend := queued_setThread (s.current.count_sendDataToTarget (q := q) data) threads
        simpa [Label.heartbeats, Label.readFrom, Label.submits] using hsend
      · exact Nat.le_add_right _ _
  | stop => exact queued_setThread (k := 0) (x := s.current.stopRuning) le_rfl threads
  | stopIdle => exact Nat.le_add_right _ _

end Client

/-! ## What the listeners are told -/

/-- Packages are never handed over. -/
theorem Config.isApplication_of_handsOver {cfg : Config} {info : NetWorkInfo} {data : Data}
    (h : cfg.handsOver info data = true) : data.isApplication = true := by
  cases data with
  | inner pkg => simp [Config.handsOver] at h
  | string str | object n => rfl

theorem Server.received_of_run {cfg : Config} {free : Int32 → Bool} {ls : List Server.Label}
    {s : Server} (h : exec (Server.step cfg) (.init cfg free) ls = some s) :
    ∀ e ∈ s.received, e.2.isApplication = true := by
  refine invariant (I := fun s => ∀ e ∈ s.received, e.2.isApplication = true) ?_
    (by simp [Server.init]) h
  intro s l t hall hs e he
  rw [Server.received_of_step hs] at he
  rcases List.mem_append.mp he with he | he
  · exact hall e he
  · cases l <;> simp only [Server.handed, List.not_mem_nil] at he
    split at he
    · rename_i hover
      obtain rfl := List.mem_singleton.mp he
      exact Config.isApplication_of_handsOver hover
    · cases he

theorem Client.received_of_run {cfg : ClientConfig} {free : Int32 → Bool} {ls : List Client.Label}
    {s : Client} (h : exec (Client.step cfg) (.init cfg free) ls = some s) :
    ∀ e ∈ s.received, e.2.isApplication = true := by
  refine invariant (I := fun s => ∀ e ∈ s.received, e.2.isApplication = true) ?_
    (by simp [Client.init]) h
  intro s l t hall hs e he
  rw [Client.received_of_step hs] at he
  rcases List.mem_append.mp he with he | he
  · exact hall e he
  · cases l <;> simp only [Client.handed, List.not_mem_nil] at he
    split at he
    · rename_i hover
      obtain rfl := List.mem_singleton.mp he
      exact Config.isApplication_of_handsOver hover
    · cases he

/-! ## One server and any number of clients -/

namespace Party

variable {ι : Type} [DecidableEq ι]

def server (cfg : Config) : Port Server Server.Label ℕ Data where
  step := Server.step cfg
  writes := Server.writes
  reads := Server.Label.readFrom

/-- Thread `n` of client `k` is the peer of connection `peer k n` of the server. -/
def clients (cfg : ι → ClientConfig) (peer : ι → ℕ → ℕ) :
    Port (ι → Client) (ι × Client.Label) ℕ Data where
  step := family fun k => Client.step (cfg k)
  writes f l :=
    match l.2 with
    | .thread n m => (((f l.1).threads n).writes m).map (peer l.1 n, ·)
    | _ => none
  reads l := l.2.readFrom.map fun e => (peer l.1 e.1, e.2)

def step (serverCfg : Config) (clientCfg : ι → ClientConfig) (peer : ι → ℕ → ℕ) :
    Network Server (ι → Client) ℕ Data → Server.Label ⊕ (ι × Client.Label) →
      Option (Network Server (ι → Client) ℕ Data) :=
  Network.step (server serverCfg) (clients clientCfg peer)

/-- Everyone right after `start()`. -/
def init (serverCfg : Config) (clientCfg : ι → ClientConfig) (serverFree : Int32 → Bool)
    (clientFree : ι → Int32 → Bool) : Network Server (ι → Client) ℕ Data :=
  .start (.init serverCfg serverFree) fun k => .init (clientCfg k) (clientFree k)

/-- The packages that `addHeartbeatPackage` queues, which have no listener. -/
def viaHeartbeat (_ : Data) (listener : Bool) : Bool := !listener

/-- The heartbeats, however they are queued. -/
def anyHeartbeat (data : Data) (_ : Bool) : Bool := data.isHeartbeat

theorem sparesLibrary_viaHeartbeat : SparesLibrary viaHeartbeat := ⟨fun _ => rfl, rfl⟩

theorem sparesLibrary_anyHeartbeat : SparesLibrary anyHeartbeat := ⟨fun _ => rfl, rfl⟩

/-- The labels of one client in a schedule of all. -/
def labelsOf (k : ι) (ls : List (Server.Label ⊕ (ι × Client.Label))) : List Client.Label :=
  entries k (Link.rights ls)

/-- The heartbeats that all clients read on a connection of the server. -/
def heartbeatsRead (peer : ι → ℕ → ℕ) (c : ℕ) (ls : List (Server.Label ⊕ (ι × Client.Label))) :
    ℕ :=
  (entries c ((Link.rights ls).filterMap fun l =>
    l.2.readFrom.map fun e => (peer l.1 e.1, e.2))).countP (·.isHeartbeat)

theorem queued_of_run {cfg : ClientConfig} {free : Int32 → Bool} {ls : List Client.Label}
    {s : Client} {q : Data → Bool → Bool} (hq : SparesLibrary q)
    (h : exec (Client.step cfg) (.init cfg free) ls = some s) (threads : ℕ) :
    s.queued q threads ≤ (ls.map fun l => l.heartbeats + l.submits q).sum := by
  have hstep : ∀ s l t, Client.step cfg s l = some t →
      t.queued q threads ≤ s.queued q threads + (l.heartbeats + l.submits q) :=
    fun _ _ _ hs => Client.queued_step hq hs threads
  have hrun := exec_gain hstep h
  have hinit : (Client.init cfg free).queued q threads = 0 := by
    simp [Client.queued, Client.init, SocketClientConnectionThread.count,
      SocketClientConnectionThread.new]
  simpa [hinit] using hrun

/-- The heartbeats read on a connection are those of its timer, and those that the application of
the server submits itself. -/
theorem heartbeatsRead_le {serverCfg : Config} {clientCfg : ι → ClientConfig}
    {serverFree : Int32 → Bool} {clientFree : ι → Int32 → Bool} {peer : ι → ℕ → ℕ}
    {ls : List (Server.Label ⊕ (ι × Client.Label))} {s : Network Server (ι → Client) ℕ Data}
    (h : exec (step serverCfg clientCfg peer) (init serverCfg clientCfg serverFree clientFree) ls =
      some s) (c : ℕ) :
    heartbeatsRead peer c ls ≤ ((Link.lefts ls).map (Server.Label.heartbeats c)).sum := by
  have hwritten := Network.countP_read_le h c (·.isHeartbeat)
  have hstep : ∀ s l t, Server.step serverCfg s l = some t →
      (t.connections c).pendingHeartbeats +
          (entries c (s.writes l).toList).countP (·.isHeartbeat) ≤
        (s.connections c).pendingHeartbeats + l.heartbeats c :=
    fun _ _ _ hs => Server.pendingHeartbeats_step hs c
  have hbudget := exec_budget hstep (Network.exec_sides h).1
  have hinit : ((Server.init serverCfg serverFree).connections c).pendingHeartbeats = 0 := rfl
  rw [Port.countP_written] at hwritten
  simp only [init, Network.start, hinit, Nat.zero_add] at hbudget
  exact hwritten.trans ((Nat.le_add_left _ _).trans hbudget)

/-- In every run of a server and its clients: no listener receives a package; a heartbeat that the
server reads only takes the reader back to its loop test; the heartbeat packages that a client has
queued, over all its threads, are at most the heartbeats that it has read, up to those that its
application submits as objects of its own; and no more heartbeats are read on a connection than
its timer on the server has brought forth, and the server's application. -/
theorem heartbeats_do_not_echo (serverCfg : Config) (clientCfg : ι → ClientConfig)
    (serverFree : Int32 → Bool) (clientFree : ι → Int32 → Bool) (peer : ι → ℕ → ℕ)
    (ls : List (Server.Label ⊕ (ι × Client.Label))) (s : Network Server (ι → Client) ℕ Data)
    (h : exec (step serverCfg clientCfg peer) (init serverCfg clientCfg serverFree clientFree) ls =
      some s) :
    ((∀ e ∈ s.left.received, e.2.isApplication = true) ∧
      ∀ k, ∀ e ∈ (s.right k).received, e.2.isApplication = true) ∧
    Along (Server.step serverCfg) Server.IgnoresHeartbeats (.init serverCfg serverFree)
      (Link.lefts ls) ∧
    (∀ k threads, (s.right k).queued viaHeartbeat threads ≤
        ((labelsOf k ls).map Client.Label.heartbeats).sum ∧
      (s.right k).queued anyHeartbeat threads ≤
        ((labelsOf k ls).map Client.Label.heartbeats).sum +
          ((labelsOf k ls).map (Client.Label.submits anyHeartbeat)).sum) ∧
    ∀ c, heartbeatsRead peer c ls ≤ ((Link.lefts ls).map (Server.Label.heartbeats c)).sum := by
  obtain ⟨hserver, hclients⟩ := Network.exec_sides h
  have hclient : ∀ k, exec (Client.step (clientCfg k)) (.init (clientCfg k) (clientFree k))
      (labelsOf k ls) = some (s.right k) := exec_family hclients
  refine ⟨⟨Server.received_of_run hserver, fun k => Client.received_of_run (hclient k)⟩, ?_,
    fun k threads => ⟨?_, ?_⟩, heartbeatsRead_le h⟩
  · refine along_of_step ?_ _ _
    exact fun _ _ _ hs => Server.ignoresHeartbeats_of_step hs
  · have hqueued := queued_of_run sparesLibrary_viaHeartbeat (hclient k) threads
    have hsubmits : (Client.Label.submits viaHeartbeat) = fun _ => 0 := by
      funext l
      cases l <;> rfl
    rw [List.sum_map_add, hsubmits] at hqueued
    simpa using hqueued
  · have hqueued := queued_of_run sparesLibrary_anyHeartbeat (hclient k) threads
    rwa [List.sum_map_add] at hqueued

/-! ## Runs -/

/-- The sample client, whose first thread is the peer of the first connection, is let in. -/
def letIn : List (Server.Label ⊕ (ℕ × Client.Label)) :=
  (Session.meet ++ Session.ask ++ Session.answer ++ Session.conclude).map
    (Sum.map id fun l => (0, l))

/-- A heartbeat of the timer reaches the client, and the answer to it the server. -/
def beat : List (Server.Label ⊕ (ℕ × Client.Label)) :=
  [.inl (.connection 0 .heartbeat), .inl (.connection 0 (.send true)),
    .inl (.connection 0 (.send true)), .inr (0, .thread 1 .test),
    .inr (0, .read 1 (.inner .heartbeat) false), .inr (0, .thread 1 (.send true)),
    .inr (0, .thread 1 (.send true)), .inl (.connection 0 .test),
    .inl (.read 0 (.inner .heartbeat) false)]

theorem heartbeats_do_not_echo_beat :
    let s := (exec (step (.connectionImpl none true) (fun _ : ℕ => sampleClient) fun _ _ => 0)
      (init (.connectionImpl none true) (fun _ => sampleClient) (fun _ => true) fun _ _ => true)
      (letIn ++ beat)).get (by decide)
    (s.right 0).queued viaHeartbeat 2 ≤ 1 ∧
      heartbeatsRead (fun _ _ => 0) 0 (letIn ++ beat) ≤ 1 := by
  obtain ⟨-, -, hqueued, hread⟩ := heartbeats_do_not_echo (.connectionImpl none true)
    (fun _ : ℕ => sampleClient) (fun _ => true) (fun _ _ => true) (fun _ _ => 0) (letIn ++ beat) _
    (Option.some_get (by decide)).symm
  exact ⟨(hqueued 0 2).1.trans (by decide), (hread 0).trans (by decide)⟩

end Party

end Collaboration
