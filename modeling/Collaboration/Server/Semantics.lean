import Collaboration.Sender.Semantics
import Collaboration.Model.Utils
import Mathlib.Data.List.AList

/-! # The server side of a connection

One accept thread (`SocketServerConnectionThread`), the workers of `ConnectionThreads`
that run the accepted `ServerConnection`s, their sender threads, and the application
that broadcasts.

A step is what one thread does up to the next point where it waits or is taken to be
interrupted. Taken together are a broadcast to all connections of the map, a look-up with
what is done to the connection found, and a change of status with the calls of the listeners.
`Server.LockedMap` takes the broadcast and the look-up apart. -/

namespace Collaboration

/-! ## One connection -/

/-- The statement of `ServerConnection.run()` that comes next. `queued` is in the queue of the
pool. From the hand-over of a package on, the worker carries the thread name that it read
when the package arrived. -/
inductive ServerPc where
  | absent
  | constructed
  | queued
  /-- before the output stream and the sender are created -/
  | opening
  | openingInput
  /-- before `changeConnectStatus(UNAUTHORIZED)` -/
  | announcing
  /-- before `mStopConnection = false` -/
  | clearing
  | testing
  | reading
  | authorizing (threadName : Option ThreadName) (message : Option JString)
  | replying (threadName : Option ThreadName) (authorize : Bool)
  /-- before `setAutorizeCheckPass` or `stopConnection` -/
  | deciding (threadName : Option ThreadName) (authorize : Bool)
  | releasing
  | finished
  deriving DecidableEq, Repr

structure ServerConnection where
  mConnectStatus : ConnectStatus
  mStopConnection : Bool
  mThreadName : Option ThreadName
  mDataSenderThread : Option Sender
  mObjectInputStream : Bool
  pc : ServerPc
  deriving DecidableEq, Repr

namespace ServerConnection

def absent : ServerConnection := ⟨.notInit, false, none, none, false, .absent⟩

def new : ServerConnection := { absent with pc := .constructed }

def isConnected (c : ServerConnection) : Bool := c.mConnectStatus == .connected

def canSendData (c : ServerConnection) : Bool :=
  c.isConnected || c.mConnectStatus == .unauthorized

def sendDataToTarget (c : ServerConnection) (o : Data) : ServerConnection :=
  match c.mDataSenderThread with
  | some sender =>
    if c.canSendData then { c with mDataSenderThread := some (sender.addMessage o true).1 }
    else c
  | none => c

def stopConnection (c : ServerConnection) : ServerConnection := { c with mStopConnection := true }

/-- `releaseServerSocket`: closes the streams and asks the sender to stop. -/
def releaseServerSocket (c : ServerConnection) : ServerConnection :=
  { c with
    mObjectInputStream := false
    mDataSenderThread :=
      c.mDataSenderThread.map fun s => { s.stopRuning with streamOpen := false } }

/-- An exception inside the read loop: the loop is told to stop, the sockets are closed. -/
def failReading (c : ServerConnection) : ServerConnection :=
  { c.releaseServerSocket with mStopConnection := true, pc := .testing }

/-- The steps of a connection that involve no other object. -/
inductive Label where
  | openOutput (ok : Bool)
  | openInput (ok : Bool)
  | clearStop
  | test
  | readFails
  /-- the timer of the `HeartbeatThread` fires -/
  | heartbeat
  | send (written : Bool)
  deriving DecidableEq, Repr

def step (c : ServerConnection) : Label → Option ServerConnection
  | .openOutput ok =>
    if c.pc = .opening then
      some (if ok then { c with mDataSenderThread := some (.new true), pc := .openingInput }
        else { c with pc := .releasing })
    else none
  | .openInput ok =>
    if c.pc = .openingInput then
      some (if ok then
          { c with
            mObjectInputStream := true
            mDataSenderThread := c.mDataSenderThread.map fun s => { s with pc := .started }
            pc := .announcing }
        else { c with pc := .releasing })
    else none
  | .clearStop =>
    if c.pc = .clearing then some { c with mStopConnection := false, pc := .testing } else none
  | .test =>
    if c.pc = .testing then
      some { c with pc := if c.mStopConnection then .releasing else .reading }
    else none
  | .readFails => if c.pc = .reading then some c.failReading else none
  | .heartbeat =>
    match c.mDataSenderThread with
    | some s =>
      if s.mHeartbeatThread then some { c with mDataSenderThread := some s.addHeartbeatPackage }
      else none
    | none => none
  | .send written =>
    match c.mDataSenderThread with
    | some s => (s.run written).map fun s => { c with mDataSenderThread := some s }
    | none => none

end ServerConnection

/-! ## The threads -/

/-- `ConnectionThreads`: the thread pool and the counter of its thread factory. -/
structure ConnectionThreads where
  mCount : ℕ
  workers : ℕ
  /-- the workers that are running a connection -/
  busy : ℕ
  sPoolWorkQueue : List ℕ
  deriving DecidableEq, Repr

namespace ConnectionThreads

def MAX_THREAD_SIZE : ℕ := 5

/-- The capacity of `sPoolWorkQueue`. -/
def QUEUE_SIZE : ℕ := 128

def new : ConnectionThreads := ⟨1, 0, 0, []⟩

end ConnectionThreads

/-- The statement of `SocketServerConnectionThread.run()` that comes next. -/
inductive AcceptPc where
  | notStarted
  | looping
  | accepting
  | executing (c : ℕ) (remoteIp : JString)
  | naming (c : ℕ) (remoteIp : JString)
  | registering (c : ℕ) (threadName : ThreadName) (remoteIp : JString)
  | storing (c : ℕ) (threadName : ThreadName)
  | ended
  deriving DecidableEq, Repr

structure SocketServerConnectionThread where
  mStopRuning : Bool
  mThreadRunning : Bool
  mConnectionMap : AList fun _ : ThreadName => ℕ
  pc : AcceptPc
  /-- the number of connections accepted so far -/
  accepted : ℕ

/-- Connections are numbered in the order in which they are accepted. `received` and
`reported` are what the `ConnectionListener` has been told: the objects handed over, and
the status changes, with the connection they came from. -/
structure Server where
  mSocketServerThread : SocketServerConnectionThread
  mConnectionThreads : ConnectionThreads
  mNetWorkInfo : NetWorkInfo
  mNetWorkInfos : AList fun _ : ThreadName => NetWorkInfo
  connections : ℕ → ServerConnection
  received : List (ℕ × Data)
  reported : List (ℕ × ConnectStatus)

namespace Server

/-- The server right after `start()`. -/
def init (cfg : Config) (free : Int32 → Bool) : Server where
  mSocketServerThread := ⟨false, false, ∅, .notStarted, 0⟩
  mConnectionThreads := .new
  mNetWorkInfo := cfg.netWorkInfo free
  mNetWorkInfos := ∅
  connections _ := .absent
  received := []
  reported := []

def setConnection (s : Server) (c : ℕ) (x : ServerConnection) : Server :=
  { s with connections := Function.update s.connections c x }

def setPc (s : Server) (c : ℕ) (pc : ServerPc) : Server :=
  s.setConnection c { s.connections c with pc := pc }

def setAcceptPc (s : Server) (pc : AcceptPc) : Server :=
  { s with mSocketServerThread := { s.mSocketServerThread with pc := pc } }

/-- `getConnection`: a look-up under the lock of the map; a null name is in no map. -/
def getConnection (s : Server) (threadName : Option ThreadName) : Option ℕ :=
  threadName.bind s.mSocketServerThread.mConnectionMap.lookup

/-- Whether the connection is a value of `mConnectionMap`. -/
def isRegistered (s : Server) (c : ℕ) : Bool :=
  s.mSocketServerThread.mConnectionMap.entries.any fun e => e.2 == c

/-! ## Sending -/

/-- `SocketServerConnectionThread.sendDataToTarget(data)`: to every connection of the map. -/
def broadcast (s : Server) (data : Data) : Server :=
  { s with connections := fun c =>
      if s.isRegistered c then (s.connections c).sendDataToTarget data else s.connections c }

/-- `sendDataToTargetInner`; a null name means every connection of the map. Where
the first of the two look-ups of the source finds an entry, the second one does, as no entry
is taken out. -/
def sendDataToTargetInner (s : Server) (targetThread : Option ThreadName) (data : Data) :
    Server :=
  if s.mSocketServerThread.mThreadRunning then
    match targetThread with
    | none => s.broadcast data
    | some _ =>
      match s.getConnection targetThread with
      | some c => s.setConnection c ((s.connections c).sendDataToTarget data)
      | none => s
  else s

def sendDataToTarget (s : Server) (data : Data) : Server :=
  if s.mSocketServerThread.mThreadRunning then s.broadcast data else s

/-! ## Status changes -/

/-- `onConnectionStatutChange` of the accept thread and then of the `Connection`. The
listener's `onConnectionStatusChanged` is taken to return. -/
def onConnectionStatutChange (cfg : Config) (s : Server) (c : ℕ) (newStatus : ConnectStatus) :
    Server :=
  let threadName := (s.connections c).mThreadName
  let s := if newStatus = .disconnected then
      { s with
        mSocketServerThread.mConnectionMap :=
          threadName.elim s.mSocketServerThread.mConnectionMap
            s.mSocketServerThread.mConnectionMap.erase
        mNetWorkInfos := threadName.elim s.mNetWorkInfos s.mNetWorkInfos.erase }
    else s
  { s with
    mNetWorkInfos :=
      match threadName with
      | some name =>
        match s.mNetWorkInfos.lookup name with
        | some info => s.mNetWorkInfos.replace name { info with mStatus := newStatus }
        | none => s.mNetWorkInfos
      | none => s.mNetWorkInfos
    reported := if cfg.mConnectionListener then s.reported ++ [(c, newStatus)] else s.reported }

def changeConnectStatus (cfg : Config) (s : Server) (c : ℕ) (status : ConnectStatus) :
    Server :=
  onConnectionStatutChange cfg
    (s.setConnection c { s.connections c with mConnectStatus := status }) c status

def setAutorizeCheckPass (cfg : Config) (s : Server) (c : ℕ) : Server :=
  changeConnectStatus cfg
    (s.setConnection c { s.connections c with mStopConnection := false }) c .connected

/-! ## Receiving -/

/-- `Connection.onNewDataReceived` on a connection thread; none of these threads has the
name of the broadcast receiver. `throws` is the outcome of the listener's method. -/
def onNewDataReceived (cfg : Config) (s : Server) (c : ℕ) (data : Data) (throws : Bool) :
    Server :=
  if cfg.handsOver s.mNetWorkInfo data then
    let s := { s with received := s.received ++ [(c, data)] }
    if throws then s.setConnection c (s.connections c).failReading else s.setPc c .testing
  else
    match data with
    | .inner pkg =>
      if cfg.mConnectionListener && !pkg.isHeatbeatPackage then
        let threadName := (s.connections c).mThreadName
        if cfg.mNeedCheckAuthorize then s.setPc c (.authorizing threadName pkg.message)
        else s.setPc c (.deciding threadName true)
      else s.setPc c .testing
    | _ => s.setPc c .testing

/-- The package that answers a request. -/
def authorizePackage (authorize : Bool) : Data :=
  .inner (.ofMessage (if authorize then InnerPackage.PASS else InnerPackage.FAILED))

/-- The last statement of `handleAuthorizePackage`: looks the connection up again. -/
def decide (cfg : Config) (s : Server) (threadName : Option ThreadName) (authorize : Bool) :
    Server :=
  match s.getConnection threadName with
  | some target =>
    if authorize then s.setAutorizeCheckPass cfg target
    else s.setConnection target (s.connections target).stopConnection
  | none => s

/-! ## The accept thread -/

/-- `mExecutor.execute`: a new worker below the maximum, else the queue, else the
`RejectedExecutionException` that ends the accept thread. -/
def execute (s : Server) (c : ℕ) (remoteIp : JString) : Server :=
  let pool := s.mConnectionThreads
  if pool.workers < ConnectionThreads.MAX_THREAD_SIZE then
    { (s.setPc c .opening).setAcceptPc (.naming c remoteIp) with
      mConnectionThreads :=
        { pool with
          mCount := pool.mCount + 1, workers := pool.workers + 1, busy := pool.busy + 1 } }
  else if pool.sPoolWorkQueue.length < ConnectionThreads.QUEUE_SIZE then
    { (s.setPc c .queued).setAcceptPc (.naming c remoteIp) with
      mConnectionThreads := { pool with sPoolWorkQueue := pool.sPoolWorkQueue ++ [c] } }
  else s.setAcceptPc .ended

/-- The rest of `startRun`. -/
def setThreadName (s : Server) (c : ℕ) (remoteIp : JString) : Server :=
  let name := ThreadName.connection (s.mConnectionThreads.mCount - 1)
  (s.setConnection c { s.connections c with mThreadName := some name }).setAcceptPc
    (.registering c name remoteIp)

def onNewConnection (cfg : Config) (s : Server) (thread : ThreadName) (remoteIp : JString) :
    Server :=
  { s with
    mNetWorkInfos := s.mNetWorkInfos.insert thread
      { cfg.createGenerat with mRemoteIp := Utils.changeIp remoteIp } }

def put (s : Server) (threadName : ThreadName) (c : ℕ) : Server :=
  { s with
    mSocketServerThread.mConnectionMap :=
      s.mSocketServerThread.mConnectionMap.insert threadName c }

/-- A client is accepted: the `ServerConnection` is constructed. -/
def accept (s : Server) (remoteIp : JString) : Server :=
  let c := s.mSocketServerThread.accepted
  { s.setConnection c .new with
    mSocketServerThread :=
      { s.mSocketServerThread with pc := .executing c remoteIp, accepted := c + 1 } }

/-- The next statement of the accept thread, where it does not wait for the network. -/
def runAccept (cfg : Config) (s : Server) : Option Server :=
  match s.mSocketServerThread.pc with
  | .notStarted | .accepting | .ended => none
  | .looping =>
    let thread := s.mSocketServerThread
    some { s with
      mSocketServerThread :=
        if thread.mStopRuning then { thread with mThreadRunning := false, pc := .ended }
        else { thread with mThreadRunning := true, pc := .accepting } }
  | .executing c remoteIp => some (s.execute c remoteIp)
  | .naming c remoteIp => some (s.setThreadName c remoteIp)
  | .registering c threadName remoteIp =>
    some ((s.onNewConnection cfg threadName remoteIp).setAcceptPc (.storing c threadName))
  | .storing c threadName => some ((s.put threadName c).setAcceptPc .looping)

/-! ## Steps -/

inductive Label where
  | bind (ok : Bool)
  | accept (remoteIp : Option JString)
  | runAccept
  /-- an idle worker takes the next connection out of the queue of the pool -/
  | take
  | connection (c : ℕ) (l : ServerConnection.Label)
  | unauthorized (c : ℕ)
  | read (c : ℕ) (data : Data) (throws : Bool)
  /-- the `Authorizer` answers, or throws -/
  | authorize (c : ℕ) (message : Option JString) (result : Option Bool)
  | reply (c : ℕ)
  | decide (c : ℕ)
  | finish (c : ℕ)
  | sendDataToTarget (data : Data)
  /-- `Connection.stop()` -/
  | stop
  deriving DecidableEq, Repr

def step (cfg : Config) (s : Server) : Label → Option Server
  | .bind ok =>
    if s.mSocketServerThread.pc = .notStarted then
      some (s.setAcceptPc (if ok then .looping else .ended))
    else none
  | .accept remoteIp =>
    if s.mSocketServerThread.pc = .accepting then
      match remoteIp with
      | some remoteIp => some (s.accept remoteIp)
      | none => some (s.setAcceptPc .ended)
    else none
  | .runAccept => s.runAccept cfg
  | .take =>
    match s.mConnectionThreads.sPoolWorkQueue with
    | c :: rest =>
      if s.mConnectionThreads.busy < s.mConnectionThreads.workers then
        some { s.setPc c .opening with
          mConnectionThreads :=
            { s.mConnectionThreads with
              busy := s.mConnectionThreads.busy + 1, sPoolWorkQueue := rest } }
      else none
    | [] => none
  | .connection c l => ((s.connections c).step l).map (s.setConnection c)
  | .unauthorized c =>
    if (s.connections c).pc = .announcing then
      some ((s.changeConnectStatus cfg c .unauthorized).setPc c .clearing)
    else none
  | .read c data throws =>
    if (s.connections c).pc = .reading ∧ (s.connections c).mObjectInputStream = true then
      some (s.onNewDataReceived cfg c data throws)
    else none
  | .authorize c message result =>
    match (s.connections c).pc with
    | .authorizing threadName m =>
      if m = message then
        match result with
        | some authorize => some (s.setPc c (.replying threadName authorize))
        | none => some (s.setConnection c (s.connections c).failReading)
      else none
    | _ => none
  | .reply c =>
    match (s.connections c).pc with
    | .replying threadName authorize =>
      some ((s.sendDataToTargetInner threadName (authorizePackage authorize)).setPc c
        (.deciding threadName authorize))
    | _ => none
  | .decide c =>
    match (s.connections c).pc with
    | .deciding threadName authorize => some ((s.decide cfg threadName authorize).setPc c .testing)
    | _ => none
  | .finish c =>
    if (s.connections c).pc = .releasing then
      some { s.setConnection c { (s.connections c).releaseServerSocket with pc := .finished } with
        mConnectionThreads :=
          { s.mConnectionThreads with busy := s.mConnectionThreads.busy - 1 } }
    else none
  | .sendDataToTarget data => some (s.sendDataToTarget data)
  | .stop =>
    some (if s.mNetWorkInfo.mStatus = .connected && s.mSocketServerThread.mThreadRunning then
        { s with mSocketServerThread := { s.mSocketServerThread with mStopRuning := true } }
      else s)

end Server

end Collaboration
