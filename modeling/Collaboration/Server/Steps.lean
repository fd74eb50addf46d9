import Collaboration.Server.Semantics

/-! # What the steps of a server do

One inversion for the steps of a connection and one for the steps of the server, and what
each operation does to a connection. -/

namespace Collaboration

namespace ServerConnection

inductive Steps (c : ServerConnection) : Label → ServerConnection → Prop
  | openOutput (hpc : c.pc = .opening) :
      Steps c (.openOutput true)
        { c with mDataSenderThread := some (.new true), pc := .openingInput }
  | openOutputFails (hpc : c.pc = .opening) :
      Steps c (.openOutput false) { c with pc := .releasing }
  | openInput (hpc : c.pc = .openingInput) :
      Steps c (.openInput true)
        { c with
          mObjectInputStream := true
          mDataSenderThread := c.mDataSenderThread.map fun s => { s with pc := .started }
          pc := .announcing }
  | openInputFails (hpc : c.pc = .openingInput) :
      Steps c (.openInput false) { c with pc := .releasing }
  | clearStop (hpc : c.pc = .clearing) :
      Steps c .clearStop { c with mStopConnection := false, pc := .testing }
  | loops (hpc : c.pc = .testing) (hstop : c.mStopConnection = false) :
      Steps c .test { c with pc := .reading }
  | leaves (hpc : c.pc = .testing) (hstop : c.mStopConnection = true) :
      Steps c .test { c with pc := .releasing }
  | readFails (hpc : c.pc = .reading) : Steps c .readFails c.failReading
  | heartbeat {s : Sender} (hs : c.mDataSenderThread = some s) (hbeat : s.mHeartbeatThread = true) :
      Steps c .heartbeat { c with mDataSenderThread := some s.addHeartbeatPackage }
  | send {s t : Sender} {written : Bool} (hs : c.mDataSenderThread = some s)
      (hrun : s.run written = some t) :
      Steps c (.send written) { c with mDataSenderThread := some t }

theorem steps_of_step {c d : ServerConnection} {l : Label} (h : c.step l = some d) :
    Steps c l d := by
  cases l with
  | openOutput ok =>
      simp only [step, Option.ite_none_right_eq_some, Option.some.injEq] at h
      obtain ⟨hpc, rfl⟩ := h
      cases ok with
      | true => exact .openOutput hpc
      | false => exact .openOutputFails hpc
  | openInput ok =>
      simp only [step, Option.ite_none_right_eq_some, Option.some.injEq] at h
      obtain ⟨hpc, rfl⟩ := h
      cases ok with
      | true => exact .openInput hpc
      | false => exact .openInputFails hpc
  | clearStop =>
      simp only [step, Option.ite_none_right_eq_some, Option.some.injEq] at h
      obtain ⟨hpc, rfl⟩ := h
      exact .clearStop hpc
  | test =>
      simp only [step, Option.ite_none_right_eq_some, Option.some.injEq] at h
      obtain ⟨hpc, rfl⟩ := h
      split
      · rename_i hstop
        exact .leaves hpc hstop
      · rename_i hstop
        exact .loops hpc (by simpa using hstop)
  | readFails =>
      simp only [step, Option.ite_none_right_eq_some, Option.some.injEq] at h
      obtain ⟨hpc, rfl⟩ := h
      exact .readFails hpc
  | heartbeat =>
      simp only [step] at h
      split at h
      · rename_i s hs
        obtain ⟨hbeat, rfl⟩ := by simpa using h
        exact .heartbeat hs hbeat
      · cases h
  | send written =>
      simp only [step] at h
      split at h
      · rename_i s hs
        obtain ⟨t, hrun, rfl⟩ := Option.map_eq_some_iff.mp h
        exact .send hs hrun
      · cases h

end ServerConnection

namespace Server

inductive Steps (cfg : Config) (s : Server) : Label → Server → Prop
  | bind {ok : Bool} (hpc : s.mSocketServerThread.pc = .notStarted) :
      Steps cfg s (.bind ok) (s.setAcceptPc (if ok then .looping else .ended))
  | accept {remoteIp : JString} (hpc : s.mSocketServerThread.pc = .accepting) :
      Steps cfg s (.accept (some remoteIp)) (s.accept remoteIp)
  | acceptFails (hpc : s.mSocketServerThread.pc = .accepting) :
      Steps cfg s (.accept none) (s.setAcceptPc .ended)
  | loops (hpc : s.mSocketServerThread.pc = .looping)
      (hstop : s.mSocketServerThread.mStopRuning = false) :
      Steps cfg s .runAccept
        { s with mSocketServerThread :=
            { s.mSocketServerThread with mThreadRunning := true, pc := .accepting } }
  | leaves (hpc : s.mSocketServerThread.pc = .looping)
      (hstop : s.mSocketServerThread.mStopRuning = true) :
      Steps cfg s .runAccept
        { s with mSocketServerThread :=
            { s.mSocketServerThread with mThreadRunning := false, pc := .ended } }
  | execute {c : ℕ} {remoteIp : JString}
      (hpc : s.mSocketServerThread.pc = .executing c remoteIp) :
      Steps cfg s .runAccept (s.execute c remoteIp)
  | setThreadName {c : ℕ} {remoteIp : JString}
      (hpc : s.mSocketServerThread.pc = .naming c remoteIp) :
      Steps cfg s .runAccept (s.setThreadName c remoteIp)
  | onNewConnection {c : ℕ} {threadName : ThreadName} {remoteIp : JString}
      (hpc : s.mSocketServerThread.pc = .registering c threadName remoteIp) :
      Steps cfg s .runAccept
        ((s.onNewConnection cfg threadName remoteIp).setAcceptPc (.storing c threadName))
  | put {c : ℕ} {threadName : ThreadName}
      (hpc : s.mSocketServerThread.pc = .storing c threadName) :
      Steps cfg s .runAccept ((s.put threadName c).setAcceptPc .looping)
  | take {c : ℕ} {rest : List ℕ} (hqueue : s.mConnectionThreads.sPoolWorkQueue = c :: rest)
      (hidle : s.mConnectionThreads.busy < s.mConnectionThreads.workers) :
      Steps cfg s .take
        { s.setPc c .opening with
          mConnectionThreads :=
            { s.mConnectionThreads with
              busy := s.mConnectionThreads.busy + 1, sPoolWorkQueue := rest } }
  | connection {c : ℕ} {l : ServerConnection.Label} {x : ServerConnection}
      (hstep : (s.connections c).step l = some x) :
      Steps cfg s (.connection c l) (s.setConnection c x)
  | unauthorized {c : ℕ} (hpc : (s.connections c).pc = .announcing) :
      Steps cfg s (.unauthorized c) ((s.changeConnectStatus cfg c .unauthorized).setPc c .clearing)
  | read {c : ℕ} {data : Data} {throws : Bool} (hpc : (s.connections c).pc = .reading)
      (hstream : (s.connections c).mObjectInputStream = true) :
      Steps cfg s (.read c data throws) (s.onNewDataReceived cfg c data throws)
  | authorize {c : ℕ} {threadName : Option ThreadName} {message : Option JString}
      {authorize : Bool} (hpc : (s.connections c).pc = .authorizing threadName message) :
      Steps cfg s (.authorize c message (some authorize))
        (s.setPc c (.replying threadName authorize))
  | authorizeThrows {c : ℕ} {threadName : Option ThreadName} {message : Option JString}
      (hpc : (s.connections c).pc = .authorizing threadName message) :
      Steps cfg s (.authorize c message none) (s.setConnection c (s.connections c).failReading)
  | reply {c : ℕ} {threadName : Option ThreadName} {authorize : Bool}
      (hpc : (s.connections c).pc = .replying threadName authorize) :
      Steps cfg s (.reply c)
        ((s.sendDataToTargetInner threadName (authorizePackage authorize)).setPc c
          (.deciding threadName authorize))
  | decide {c : ℕ} {threadName : Option ThreadName} {authorize : Bool}
      (hpc : (s.connections c).pc = .deciding threadName authorize) :
      Steps cfg s (.decide c) ((s.decide cfg threadName authorize).setPc c .testing)
  | finish {c : ℕ} (hpc : (s.connections c).pc = .releasing) :
      Steps cfg s (.finish c)
        { s.setConnection c { (s.connections c).releaseServerSocket with pc := .finished } with
          mConnectionThreads :=
            { s.mConnectionThreads with busy := s.mConnectionThreads.busy - 1 } }
  | sendDataToTarget {data : Data} : Steps cfg s (.sendDataToTarget data) (s.sendDataToTarget data)
  | stop (hstatus : s.mNetWorkInfo.mStatus = .connected)
      (hrunning : s.mSocketServerThread.mThreadRunning = true) :
      Steps cfg s .stop
        { s with mSocketServerThread := { s.mSocketServerThread with mStopRuning := true } }
  | stopIdle (hidle : s.mNetWorkInfo.mStatus ≠ .connected ∨
        s.mSocketServerThread.mThreadRunning = false) :
      Steps cfg s .stop s

theorem steps_of_runAccept {cfg : Config} {s t : Server} (h : s.runAccept cfg = some t) :
    Steps cfg s .runAccept t := by
  unfold runAccept at h
  split at h
  case h_1 | h_2 | h_3 => cases h
  case h_4 hpc =>
      obtain rfl := Option.some.inj h
      cases hstop : s.mSocketServerThread.mStopRuning with
      | true => simpa [hstop] using Steps.leaves hpc hstop
      | false => simpa [hstop] using Steps.loops hpc hstop
  case h_5 hpc =>
      obtain rfl := Option.some.inj h
      exact .execute hpc
  case h_6 hpc =>
      obtain rfl := Option.some.inj h
      exact .setThreadName hpc
  case h_7 hpc =>
      obtain rfl := Option.some.inj h
      exact .onNewConnection hpc
  case h_8 hpc =>
      obtain rfl := Option.some.inj h
      exact .put hpc

theorem steps_of_step {cfg : Config} {s t : Server} {l : Label} (h : s.step cfg l = some t) :
    Steps cfg s l t := by
  cases l with
  | bind ok =>
      simp only [step, Option.ite_none_right_eq_some, Option.some.injEq] at h
      obtain ⟨hpc, rfl⟩ := h
      exact .bind hpc
  | accept remoteIp =>
      simp only [step, Option.ite_none_right_eq_some] at h
      obtain ⟨hpc, h⟩ := h
      cases remoteIp with
      | some remoteIp =>
          obtain rfl := Option.some.inj h
          exact .accept hpc
      | none =>
          obtain rfl := Option.some.inj h
          exact .acceptFails hpc
  | runAccept => exact steps_of_runAccept h
  | take =>
      simp only [step] at h
      split at h
      · rename_i c rest hqueue
        simp only [Option.ite_none_right_eq_some, Option.some.injEq] at h
        obtain ⟨hidle, rfl⟩ := h
        exact .take hqueue hidle
      · cases h
  | connection c l =>
      obtain ⟨x, hx, rfl⟩ := Option.map_eq_some_iff.mp h
      exact .connection hx
  | unauthorized c =>
      simp only [step, Option.ite_none_right_eq_some, Option.some.injEq] at h
      obtain ⟨hpc, rfl⟩ := h
      exact .unauthorized hpc
  | read c data throws =>
      simp only [step, Option.ite_none_right_eq_some, Option.some.injEq] at h
      obtain ⟨⟨hpc, hstream⟩, rfl⟩ := h
      exact .read hpc hstream
  | authorize c message result =>
      simp only [step] at h
      split at h
      · rename_i threadName m hpc
        simp only [Option.ite_none_right_eq_some] at h
        obtain ⟨rfl, h⟩ := h
        cases result with
        | some authorize =>
            obtain rfl := Option.some.inj h
            exact .authorize hpc
        | none =>
            obtain rfl := Option.some.inj h
            exact .authorizeThrows hpc
      · cases h
  | reply c =>
      simp only [step] at h
      split at h
      · rename_i threadName authorize hpc
        obtain rfl := Option.some.inj h
        exact .reply hpc
      · cases h
  | decide c =>
      simp only [step] at h
      split at h
      · rename_i threadName authorize hpc
        obtain rfl := Option.some.inj h
        exact .decide hpc
      · cases h
  | finish c =>
      simp only [step, Option.ite_none_right_eq_some, Option.some.injEq] at h
      obtain ⟨hpc, rfl⟩ := h
      exact .finish hpc
  | sendDataToTarget data =>
      obtain rfl := Option.some.inj h
      exact .sendDataToTarget
  | stop =>
      obtain rfl := Option.some.inj h
      split
      · rename_i hstop
        obtain ⟨hstatus, hrunning⟩ := by simpa using hstop
        exact .stop hstatus hrunning
      · rename_i hstop
        apply Steps.stopIdle
        by_cases hstatus : s.mNetWorkInfo.mStatus = .connected
        · exact .inr (by simpa [hstatus] using hstop)
        · exact .inl hstatus

/-! ## How an operation ends -/

section Cases

variable {motive : Server → Prop} (cfg : Config) (s : Server) (c : ℕ)

/-- An object is handed over, dropped, or a request. -/
@[elab_as_elim] theorem onNewDataReceived_cases (data : Data) (throws : Bool)
    (failed : cfg.handsOver s.mNetWorkInfo data = true → throws = true →
      motive ({ s with received := s.received ++ [(c, data)] }.setConnection c
        (s.connections c).failReading))
    (handed : cfg.handsOver s.mNetWorkInfo data = true → throws = false →
      motive ({ s with received := s.received ++ [(c, data)] }.setPc c .testing))
    (dropped : cfg.handsOver s.mNetWorkInfo data = false → motive (s.setPc c .testing))
    (asked : ∀ pkg, data = .inner pkg → pkg.isHeatbeatPackage = false →
      cfg.mNeedCheckAuthorize = true →
        motive (s.setPc c (.authorizing (s.connections c).mThreadName pkg.message)))
    (unasked : ∀ pkg, data = .inner pkg → pkg.isHeatbeatPackage = false →
      cfg.mNeedCheckAuthorize = false →
        motive (s.setPc c (.deciding (s.connections c).mThreadName true))) :
    motive (s.onNewDataReceived cfg c data throws) := by
  unfold onNewDataReceived
  by_cases hover : cfg.handsOver s.mNetWorkInfo data = true
  · cases throws with
    | true => simpa [hover] using failed hover rfl
    | false => simpa [hover] using handed hover rfl
  · rw [if_neg hover]
    rw [Bool.not_eq_true] at hover
    cases data with
    | inner pkg =>
        simp only
        split
        · rename_i hhandled
          have hbeat : pkg.isHeatbeatPackage = false := by
            simpa using (Bool.and_eq_true_iff.mp hhandled).2
          cases hauth : cfg.mNeedCheckAuthorize with
          | true => exact asked pkg rfl hbeat hauth
          | false => exact unasked pkg rfl hbeat hauth
        · exact dropped hover
    | string str | object n => exact dropped hover

/-- The pool gives a connection to a new worker, puts it into its queue, or rejects it. -/
@[elab_as_elim] theorem execute_cases (remoteIp : JString)
    (starts : s.mConnectionThreads.workers < ConnectionThreads.MAX_THREAD_SIZE →
      motive { (s.setPc c .opening).setAcceptPc (.naming c remoteIp) with
        mConnectionThreads :=
          { s.mConnectionThreads with
            mCount := s.mConnectionThreads.mCount + 1
            workers := s.mConnectionThreads.workers + 1
            busy := s.mConnectionThreads.busy + 1 } })
    (queues : ¬s.mConnectionThreads.workers < ConnectionThreads.MAX_THREAD_SIZE →
      s.mConnectionThreads.sPoolWorkQueue.length < ConnectionThreads.QUEUE_SIZE →
        motive { (s.setPc c .queued).setAcceptPc (.naming c remoteIp) with
          mConnectionThreads :=
            { s.mConnectionThreads with
              sPoolWorkQueue := s.mConnectionThreads.sPoolWorkQueue ++ [c] } })
    (rejects : ¬s.mConnectionThreads.workers < ConnectionThreads.MAX_THREAD_SIZE →
      ¬s.mConnectionThreads.sPoolWorkQueue.length < ConnectionThreads.QUEUE_SIZE →
        motive (s.setAcceptPc .ended)) :
    motive (s.execute c remoteIp) := by
  unfold execute
  simp only
  split
  · rename_i hworkers
    exact starts hworkers
  · rename_i hworkers
    split
    · rename_i hspace
      exact queues hworkers hspace
    · rename_i hspace
      exact rejects hworkers hspace

/-- A decision takes effect on the connection that is found under the name, if any is. -/
@[elab_as_elim] theorem decide_cases (threadName : Option ThreadName) (authorize : Bool)
    (lost : s.getConnection threadName = none → motive s)
    (passed : ∀ target, s.getConnection threadName = some target → authorize = true →
      motive (s.setAutorizeCheckPass cfg target))
    (refused : ∀ target, s.getConnection threadName = some target → authorize = false →
      motive (s.setConnection target (s.connections target).stopConnection)) :
    motive (s.decide cfg threadName authorize) := by
  unfold decide
  cases hget : s.getConnection threadName with
  | none => exact lost hget
  | some target =>
      cases authorize with
      | true => exact passed target hget rfl
      | false => exact refused target hget rfl

/-- Data is sent to no connection, to all those of the map, or to one of them. -/
@[elab_as_elim] theorem sendDataToTargetInner_cases (targetThread : Option ThreadName) (data : Data)
    (unsent : motive s) (broadcast : motive (s.broadcast data))
    (sent : ∀ target, s.getConnection targetThread = some target →
      motive (s.setConnection target ((s.connections target).sendDataToTarget data))) :
    motive (s.sendDataToTargetInner targetThread data) := by
  unfold sendDataToTargetInner
  split
  · split
    · exact broadcast
    · split
      · rename_i target hget
        exact sent target hget
      · exact unsent
  · exact unsent

end Cases

/-! ## What the operations do to a connection -/

@[simp] theorem setConnection_connections_self (s : Server) (c : ℕ) (x : ServerConnection) :
    (s.setConnection c x).connections c = x := by
  simp [setConnection]

@[simp] theorem setConnection_connections_of_ne (s : Server) {c d : ℕ} (h : d ≠ c)
    (x : ServerConnection) : (s.setConnection c x).connections d = s.connections d := by
  simp [setConnection, h]

@[simp] theorem setPc_connections_self (s : Server) (c : ℕ) (pc : ServerPc) :
    (s.setPc c pc).connections c = { s.connections c with pc := pc } := by
  simp [setPc]

@[simp] theorem setPc_connections_of_ne (s : Server) {c d : ℕ} (h : d ≠ c) (pc : ServerPc) :
    (s.setPc c pc).connections d = s.connections d := by
  simp [setPc, h]

@[simp] theorem setAcceptPc_connections (s : Server) (pc : AcceptPc) :
    (s.setAcceptPc pc).connections = s.connections := rfl

@[simp] theorem onConnectionStatutChange_connections (cfg : Config) (s : Server) (c : ℕ)
    (status : ConnectStatus) :
    (s.onConnectionStatutChange cfg c status).connections = s.connections := by
  unfold onConnectionStatutChange
  split <;> rfl

@[simp] theorem changeConnectStatus_connections (cfg : Config) (s : Server) (c : ℕ)
    (status : ConnectStatus) :
    (s.changeConnectStatus cfg c status).connections =
      (s.setConnection c { s.connections c with mConnectStatus := status }).connections := by
  simp [changeConnectStatus]

theorem setAutorizeCheckPass_connections (cfg : Config) (s : Server) (c : ℕ) :
    (s.setAutorizeCheckPass cfg c).connections =
      (s.setConnection c { s.connections c with
        mConnectStatus := .connected, mStopConnection := false }).connections := by
  simp [setAutorizeCheckPass, setConnection]

/-- The connections that `sendDataToTargetInner` addresses under a name. -/
def addressees (s : Server) : Option ThreadName → List ℕ
  | none => s.mSocketServerThread.mConnectionMap.entries.map (·.2)
  | some name => (s.getConnection (some name)).toList

theorem isRegistered_iff (s : Server) (c : ℕ) :
    s.isRegistered c = true ↔ c ∈ s.addressees none := by
  simp [isRegistered, addressees]

theorem sendDataToTargetInner_connections (s : Server) (name : Option ThreadName) (data : Data)
    (c : ℕ) :
    (s.sendDataToTargetInner name data).connections c =
      if s.mSocketServerThread.mThreadRunning = true ∧ c ∈ s.addressees name then
        (s.connections c).sendDataToTarget data
      else s.connections c := by
  unfold sendDataToTargetInner
  by_cases hrun : s.mSocketServerThread.mThreadRunning = true
  · cases name with
    | none => simp [hrun, broadcast, isRegistered_iff]
    | some name =>
        cases hget : s.getConnection (some name) with
        | none => simp [hrun, addressees, hget]
        | some d =>
            by_cases hd : c = d
            · simp [hrun, addressees, hget, hd]
            · simp [hrun, addressees, hget, hd]
  · simp [hrun]

theorem onNewDataReceived_connections_of_ne (cfg : Config) (s : Server) {c d : ℕ} (h : d ≠ c)
    (data : Data) (throws : Bool) :
    (s.onNewDataReceived cfg c data throws).connections d = s.connections d := by
  refine onNewDataReceived_cases cfg s c data throws ?_ ?_ ?_ ?_ ?_
  all_goals
    intros
    simp [h]

end Server

end Collaboration
