import Collaboration.Discovery.Semantics
import Collaboration.Library.Monitors
import Collaboration.Server.Acceptance

/-! # The server's threads and their monitors

Everything the server's process runs that enters a monitor: the user interface in
`ApplicationManager`, the accept thread, the workers with their connections, the senders and the
timers of their heartbeats, and the two broadcast threads. A statement of the source that calls
others is replaced by them; in between, the threads run in any order. The server never calls
`Connection.stop()`, and the flags that only `stop()` sets are left out. -/

namespace Collaboration.Threads

open Monitors

/-! ## Monitors and threads -/

/-- The objects that threads are synchronized on. -/
inductive Monitor where
  | mLock
  | mAuthorizeLock
  | mConnectionMap
  | mNetWorkInfos
  | mThreadNameLocker
  | mBroadcastTasks
  | connectionThreads
  | mMessageTask (c : ℕ)
  deriving DecidableEq, Repr

inductive Thread where
  | userInterface (n : ℕ)
  | accept
  | connection (c : ℕ)
  | sender (c : ℕ)
  /-- the timer of the sender's `HeartbeatThread` -/
  | timer (c : ℕ)
  | broadcastSender
  | broadcastReceiver
  deriving DecidableEq, Repr

/-! ## The shared data -/

structure Task where
  id : Int32
  dataToSend : Data
  listener : Bool
  deriving DecidableEq, Repr

structure SocketDataSenderThread where
  mMessageTask : List Task
  mThreadStop : Bool
  mCurrentId : Int32
  mHeartbeatThread : Bool
  started : Bool
  deriving DecidableEq, Repr

/-- The constructor, with the heartbeat enabled. -/
def SocketDataSenderThread.new : SocketDataSenderThread := ⟨[], false, 0, false, false⟩

/-- The last three fields belong to the worker: whether it has been given the connection, what
`getConnection` last returned to it, and what `authorize` did, `none` being an exception. -/
structure ServerConnection where
  mConnectStatus : ConnectStatus
  mStopConnection : Bool
  mThreadName : Option ThreadName
  mDataSenderThread : Option SocketDataSenderThread
  mObjectInputStream : Bool
  handed : Bool
  found : Option ℕ
  authorized : Option Bool
  deriving DecidableEq, Repr

namespace ServerConnection

def new : ServerConnection := ⟨.notInit, false, none, none, false, false, none, none⟩

def canSendData (x : ServerConnection) : Bool :=
  x.mConnectStatus == .connected || x.mConnectStatus == .unauthorized

/-- The test in `sendDataToTarget`. -/
def takesData (x : ServerConnection) : Bool := x.canSendData && x.mDataSenderThread.isSome

def releaseServerSocket (x : ServerConnection) : ServerConnection :=
  { x with
    mObjectInputStream := false
    mDataSenderThread := x.mDataSenderThread.map fun sender => { sender with mThreadStop := true } }

end ServerConnection

/-- `accepted` is the number of connections constructed so far, `startRun` the name that
`startRun` last returned to the accept thread, `none` if it was left by an exception. -/
structure Process where
  mInstance : Bool
  mAuthorizeChecker : Bool
  mCheckResult : Bool
  mNetWorkInfo : NetWorkInfo
  mNetWorkInfos : AList fun _ : ThreadName => NetWorkInfo
  acceptStarted : Bool
  mThreadRunning : Bool
  mConnectionMap : AList fun _ : ThreadName => ℕ
  accepted : ℕ
  startRun : Option ThreadName
  mConnectionThreads : ConnectionThreads
  connections : ℕ → ServerConnection
  broadcastSenderStarted : Bool
  broadcastReceiverStarted : Bool
  mBroadcastTasks : List BroadcastTask
  mBroadcastId : Int32

namespace Process

/-- Before the first call of `getInstance`. -/
def init (cfg : Config) (free : Int32 → Bool) : Process where
  mInstance := false
  mAuthorizeChecker := false
  mCheckResult := false
  mNetWorkInfo := cfg.netWorkInfo free
  mNetWorkInfos := ∅
  acceptStarted := false
  mThreadRunning := false
  mConnectionMap := ∅
  accepted := 0
  startRun := none
  mConnectionThreads := .new
  connections _ := .new
  broadcastSenderStarted := false
  broadcastReceiverStarted := false
  mBroadcastTasks := []
  mBroadcastId := 0

def setConnection (p : Process) (c : ℕ) (x : ServerConnection) : Process :=
  { p with connections := Function.update p.connections c x }

/-- Changes the sender of a connection, where there is one. -/
def mapSender (p : Process) (c : ℕ) (f : SocketDataSenderThread → SocketDataSenderThread) :
    Process :=
  let x := p.connections c
  p.setConnection c { x with mDataSenderThread := x.mDataSenderThread.map f }

end Process

/-! ## The statements -/

/-- What a connection that was looked up is told. -/
inductive Told where
  | sendDataToTarget (data : Data)
  | stopConnection
  | setAutorizeCheckPass
  deriving DecidableEq, Repr

/-- What the user interface is asked to do. -/
inductive Event where
  /-- `CollaborationService.onCreate` -/
  | onCreate
  /-- `sendDataToClient`, with the object that is sent -/
  | sendDataToClient (data : Data)
  /-- the user presses a button of the `AuthorizeCheckerActivity` -/
  | checkPass
  | checkFail
  deriving DecidableEq, Repr

/-- The statements and calls of the source, with their arguments. -/
inductive Call where
  | event
  | getInstance
  | createInstance
  | setInstance
  | setAuthorize
  | onCheckFinish (checkResult : Bool)
  | setCheckResult (checkResult : Bool)
  -- `Connection`
  | start
  | startBroadcastSender
  | startServer
  | startReceiver
  | getNetWorkInfo
  | sendDataToTarget (data : Data)
  | sendDataToTargetInner (worker : ℕ) (targetThread : Option ThreadName) (data : Data)
  | onNewConnection (thread : ThreadName) (remoteIp : JString)
  | putInfo (thread : ThreadName) (remoteIp : JString)
  | onRemoveConnection (thread : Option ThreadName)
  | removeInfo (thread : Option ThreadName)
  /-- `Connection.onConnectionStatutChange` -/
  | statusChanged (threadName : Option ThreadName) (newStatus : ConnectStatus)
  | setStatus (threadName : Option ThreadName) (newStatus : ConnectStatus)
  -- `SocketServerConnectionThread`
  | acceptRun
  | acceptLoop
  | accept
  | startRun (c : ℕ)
  | execute (c : ℕ)
  | setThreadName (c : ℕ)
  /-- what the loop does after `startRun` -/
  | register (c : ℕ) (remoteIp : JString)
  | putConnection (threadName : ThreadName) (c : ℕ)
  | put (threadName : ThreadName) (c : ℕ)
  | getConnection (worker : ℕ) (threadName : Option ThreadName)
  | lookup (worker : ℕ) (threadName : Option ThreadName)
  /-- `sendDataToTarget(data)` -/
  | broadcast (data : Data)
  | sendToAll (data : Data)
  | sendToKey (key : ThreadName) (data : Data)
  /-- `sendDataToTarget`, `stopConnection` and `setAutorizeCheckPass` with a thread name -/
  | tell (worker : ℕ) (threadName : Option ThreadName) (told : Told)
  | tellFound (worker : ℕ) (threadName : Option ThreadName) (told : Told)
  | tellConnection (worker : ℕ) (told : Told)
  /-- `SocketServerConnectionThread.onConnectionStatutChange` -/
  | onConnectionStatutChange (threadName : Option ThreadName) (newStatus : ConnectStatus)
  | removeConnection (threadName : Option ThreadName)
  -- `ServerConnection`
  | serve (c : ℕ)
  | openOutput (c : ℕ)
  | openInput (c : ℕ)
  | clearStop (c : ℕ)
  | readLoop (c : ℕ)
  | read (c : ℕ)
  | failReading (c : ℕ)
  | finish (c : ℕ)
  | setAutorizeCheckPass (c : ℕ)
  | changeConnectStatus (c : ℕ) (connectStatus : ConnectStatus)
  /-- `onNewDataReceive(String)` of the `ConnectionListener` -/
  | onDeliverData (c : ℕ)
  -- `mAuthorizer.authorize` and what follows it in `handleAuthorizePackage`
  | authorize (c : ℕ)
  | checkAuthorize (c : ℕ)
  | returnCheckResult (c : ℕ)
  | answer (c : ℕ) (threadName : Option ThreadName)
  -- `SocketDataSenderThread` and `HeartbeatThread`
  | addMessage (c : ℕ) (data : Data)
  | queueMessage (c : ℕ) (data : Data)
  | addHeartbeatPackage (c : ℕ)
  | queueHeartbeat (c : ℕ)
  | senderRun (c : ℕ)
  | senderLoop (c : ℕ)
  | takeTask (c : ℕ)
  /-- `writeObject` and `flush`, and the listener, which only logs -/
  | writeObject (c : ℕ) (task : Task)
  | timer (c : ℕ)
  -- `BroadcastSenderThread` and `BroadcastReceiveThread`
  | addBroadcastTask (message : JString)
  | queueBroadcast (message : JString)
  | broadcastRun
  | broadcastLoop
  | takeBroadcast
  /-- `sendBroadcast`, with the listener, which only logs -/
  | sendBroadcast (task : BroadcastTask)
  | receiveRun
  | receive
  deriving DecidableEq, Repr

/-- What the environment decides about a statement. -/
inductive Outcome where
  | returns
  | throws
  | event (e : Event)
  | accepts (remoteIp : JString)
  | reads (data : Data)
  /-- an answered call is among the messages: the listener asks for the `NetWorkInfo` -/
  | answersCall
  /-- `isKnownDevice` -/
  | isKnownDevice (known : Bool)
  deriving DecidableEq, Repr

abbrev Code := Monitors.Code Monitor Call

/-! ## What the statements do -/

/-- What an event of the user interface calls. -/
def Event.calls : Event → Code
  | .onCreate => [.run .getInstance, .run .getInstance, .run .setAuthorize]
  | .sendDataToClient data => [.run .getInstance, .run (.sendDataToTarget data)]
  | .checkPass => [.run .getInstance, .run (.onCheckFinish true)]
  | .checkFail => [.run .getInstance, .run (.onCheckFinish false)]

/-- `currentIp + ":" + SERVER_PORT`. -/
def announcement (cfg : Config) : JString :=
  JString.valueOf cfg.localHostIp ++ JString.lit ":" ++ JString.ofInt cfg.SERVER_PORT

namespace Process

def sendDataToTarget (p : Process) (c : ℕ) (data : Data) : Code :=
  if (p.connections c).takesData then [.run (.addMessage c data)] else []

/-- What a connection does with what it is told. -/
def tell (p : Process) (c : ℕ) : Told → Process × Code
  | .sendDataToTarget data => (p, p.sendDataToTarget c data)
  | .stopConnection => (p.setConnection c { p.connections c with mStopConnection := true }, [])
  | .setAutorizeCheckPass => (p, [.run (.setAutorizeCheckPass c)])

/-- `mExecutor.execute`: a new worker below the maximum, else the queue; else it throws. -/
def execute (p : Process) (c : ℕ) : Process :=
  let pool := p.mConnectionThreads
  if pool.workers < ConnectionThreads.MAX_THREAD_SIZE then
    { p.setConnection c { p.connections c with handed := true } with
      mConnectionThreads :=
        { pool with
          mCount := pool.mCount + 1, workers := pool.workers + 1, busy := pool.busy + 1 }
      startRun := some (.connection pool.mCount) }
  else if pool.sPoolWorkQueue.length < ConnectionThreads.QUEUE_SIZE then
    { p with
      mConnectionThreads := { pool with sPoolWorkQueue := pool.sPoolWorkQueue ++ [c] }
      startRun := some (.connection (pool.mCount - 1)) }
  else { p with startRun := none }

/-- A worker begins with a connection: it was given it, or takes it out of the queue. -/
def serve (p : Process) (c : ℕ) : Option Process :=
  let x := p.connections c
  if x.handed then some (p.setConnection c { x with handed := false })
  else
    match p.mConnectionThreads.sPoolWorkQueue with
    | d :: rest =>
      if d = c ∧ p.mConnectionThreads.busy < p.mConnectionThreads.workers then
        some { p with
          mConnectionThreads :=
            { p.mConnectionThreads with
              busy := p.mConnectionThreads.busy + 1, sPoolWorkQueue := rest } }
      else none
    | [] => none

/-- `Connection.onNewDataReceived` on a connection thread. -/
def onNewDataReceived (cfg : Config) (p : Process) (c : ℕ) : Data → Code
  | .inner pkg =>
    if cfg.mConnectionListener && !pkg.isHeatbeatPackage then
      let threadName := (p.connections c).mThreadName
      if cfg.mNeedCheckAuthorize then [.run (.authorize c), .run (.answer c threadName)]
      else [.run (.tell c threadName .setAutorizeCheckPass)]
    else []
  | .string _ => if cfg.mConnectionListener then [.run (.onDeliverData c)] else []
  -- `onNewDataReceive(Object)` only logs.
  | .object _ => []

def failReading (p : Process) (c : ℕ) : Process :=
  p.setConnection c { (p.connections c).releaseServerSocket with mStopConnection := true }

/-- The end of a worker's `run()`. -/
def finish (p : Process) (c : ℕ) : Process :=
  { p.setConnection c (p.connections c).releaseServerSocket with
    mConnectionThreads := { p.mConnectionThreads with busy := p.mConnectionThreads.busy - 1 } }

/-- The next statements of the sender's loop inside its monitor. -/
def takeTask (p : Process) (c : ℕ) : Process × Code :=
  match (p.connections c).mDataSenderThread.bind (·.mMessageTask.getLast?) with
  | none => (p, [.wait (.mMessageTask c), .run (.takeTask c)])
  | some task =>
    (p.mapSender c fun sender => { sender with mMessageTask := sender.mMessageTask.dropLast },
      [.run (.writeObject c task)])

def takeBroadcast (p : Process) : Process × Code :=
  match p.mBroadcastTasks.getLast? with
  | none => (p, [.wait .mBroadcastTasks, .run .takeBroadcast])
  | some task =>
    ({ p with mBroadcastTasks := p.mBroadcastTasks.dropLast }, [.run (.sendBroadcast task)])

end Process

/-- A statement that can only return. -/
def returning (p : Process) (body : Code) : Outcome → Option (Process × Code)
  | .returns => some (p, body)
  | _ => none

/-- A statement that returns or throws, and where its thread goes on then. -/
def trying (returned thrown : Process × Code) : Outcome → Option (Process × Code)
  | .returns => some returned
  | .throws => some thrown
  | _ => none

/-- What a statement does, and the statements it is replaced by. -/
def run (cfg : Config) (p : Process) : Call → Outcome → Option (Process × Code)
  | .event => fun
    | .event e => some (p, e.calls ++ [.run .event])
    | _ => none
  | .getInstance => returning p (synchronized .mLock [.run .createInstance])
  | .createInstance =>
    returning p (if p.mInstance then [] else [.run .start, .run .setInstance])
  | .setInstance => returning { p with mInstance := true } []
  | .setAuthorize => returning { p with mAuthorizeChecker := true } []
  | .onCheckFinish checkResult =>
    returning p
      (synchronized .mAuthorizeLock [.run (.setCheckResult checkResult), .notify .mAuthorizeLock])
  | .setCheckResult checkResult => returning { p with mCheckResult := checkResult } []
  | .start =>
    returning p
      (if p.mNetWorkInfo.mStatus = .connected then []
        -- `init` calls `ConnectionThreads.getInstance`.
        else synchronized .connectionThreads [] ++ [.run .startBroadcastSender, .run .startServer])
  | .startBroadcastSender => returning { p with broadcastSenderStarted := true } []
  | .startServer =>
    returning { p with acceptStarted := true }
      [.run .startReceiver, .run (.addBroadcastTask (announcement cfg))]
  | .startReceiver => returning { p with broadcastReceiverStarted := true } []
  | .getNetWorkInfo => returning p (synchronized .mNetWorkInfos [])
  | .sendDataToTarget data =>
    returning p (if p.mThreadRunning then [.run (.broadcast data)] else [])
  | .sendDataToTargetInner worker targetThread data =>
    returning p
      (if p.mThreadRunning then
        match targetThread with
        | none => [.run (.broadcast data)]
        | some name => [.run (.tell worker (some name) (.sendDataToTarget data))]
      else [])
  | .onNewConnection thread remoteIp =>
    returning p (synchronized .mNetWorkInfos [.run (.putInfo thread remoteIp)])
  | .putInfo thread remoteIp =>
    let info := { cfg.createGenerat with mRemoteIp := Utils.changeIp remoteIp }
    returning { p with mNetWorkInfos := p.mNetWorkInfos.insert thread info } []
  | .onRemoveConnection thread =>
    returning p (synchronized .mNetWorkInfos [.run (.removeInfo thread)])
  | .removeInfo thread =>
    returning
      { p with mNetWorkInfos := thread.elim p.mNetWorkInfos (p.mNetWorkInfos.erase ·) } []
  | .statusChanged threadName newStatus =>
    returning p (synchronized .mNetWorkInfos [.run (.setStatus threadName newStatus)])
  | .setStatus threadName newStatus =>
    returning
      (match threadName with
      | none => p
      | some name =>
        match p.mNetWorkInfos.lookup name with
        | none => p
        | some info =>
          { p with
            mNetWorkInfos := p.mNetWorkInfos.insert name { info with mStatus := newStatus } }) []
  | .acceptRun => fun outcome =>
    if p.acceptStarted then trying (p, [.run .acceptLoop]) (p, []) outcome else none
  | .acceptLoop => returning { p with mThreadRunning := true } [.run .accept]
  | .accept => fun
    | .accepts remoteIp =>
      some ({ p with accepted := p.accepted + 1 },
        [.run (.startRun p.accepted), .run (.register p.accepted remoteIp)])
    | .throws => some (p, [])
    | _ => none
  | .startRun c =>
    returning p (synchronized .mThreadNameLocker [.run (.execute c), .run (.setThreadName c)])
  | .execute c => returning (p.execute c) []
  | .setThreadName c =>
    returning
      (if p.startRun.isSome then
        p.setConnection c { p.connections c with mThreadName := p.startRun }
      else p) []
  | .register c remoteIp =>
    returning p
      (match p.startRun with
      | none => []
      | some threadName =>
        [.run (.onNewConnection threadName remoteIp), .run (.putConnection threadName c),
          .run .acceptLoop])
  | .putConnection threadName c =>
    returning p (synchronized .mConnectionMap [.run (.put threadName c)])
  | .put threadName c =>
    returning { p with mConnectionMap := p.mConnectionMap.insert threadName c } []
  | .getConnection worker threadName =>
    returning p (synchronized .mConnectionMap [.run (.lookup worker threadName)])
  | .lookup worker threadName =>
    returning
      (p.setConnection worker
        { p.connections worker with found := threadName.bind p.mConnectionMap.lookup }) []
  | .broadcast data => returning p (synchronized .mConnectionMap [.run (.sendToAll data)])
  | .sendToAll data =>
    returning p (p.mConnectionMap.keys.map fun key => .run (.sendToKey key data))
  | .sendToKey key data =>
    returning p ((p.mConnectionMap.lookup key).elim [] fun c => p.sendDataToTarget c data)
  | .tell worker threadName told =>
    returning p [.run (.getConnection worker threadName), .run (.tellFound worker threadName told)]
  | .tellFound worker threadName told =>
    returning p
      (if (p.connections worker).found.isSome then
        [.run (.getConnection worker threadName), .run (.tellConnection worker told)]
      else [])
  | .tellConnection worker told => fun outcome =>
    match (p.connections worker).found with
    | some c => returning (p.tell c told).1 (p.tell c told).2 outcome
    -- The connection was removed in between: a `NullPointerException`.
    | none => returning (p.failReading worker) [] outcome
  | .onConnectionStatutChange threadName newStatus =>
    returning p
      ((if newStatus = .disconnected then
        synchronized .mConnectionMap
          [.run (.removeConnection threadName), .run (.onRemoveConnection threadName)]
      else []) ++ [.run (.statusChanged threadName newStatus)])
  | .removeConnection threadName =>
    returning
      { p with mConnectionMap := threadName.elim p.mConnectionMap (p.mConnectionMap.erase ·) } []
  | .serve c => fun outcome =>
    (p.serve c).bind fun p => returning p [.run (.openOutput c)] outcome
  | .openOutput c =>
    trying
      (p.setConnection c { p.connections c with mDataSenderThread := some .new },
        [.run (.openInput c)])
      (p, [.run (.finish c)])
  | .openInput c =>
    trying
      ((p.setConnection c { p.connections c with mObjectInputStream := true }).mapSender c
          fun sender => { sender with started := true },
        [.run (.changeConnectStatus c .unauthorized), .run (.clearStop c), .run (.readLoop c)])
      (p, [.run (.finish c)])
  | .clearStop c =>
    returning (p.setConnection c { p.connections c with mStopConnection := false }) []
  | .readLoop c =>
    returning p [.run (if (p.connections c).mStopConnection then .finish c else .read c)]
  | .read c => fun
    | .reads data =>
      if (p.connections c).mObjectInputStream then
        some (p, p.onNewDataReceived cfg c data ++ [.run (.readLoop c)])
      else none
    | .throws => some (p, [.run (.failReading c), .run (.readLoop c)])
    | _ => none
  | .failReading c => returning (p.failReading c) []
  | .finish c => returning (p.finish c) []
  | .setAutorizeCheckPass c =>
    returning (p.setConnection c { p.connections c with mStopConnection := false })
      [.run (.changeConnectStatus c .connected)]
  | .changeConnectStatus c connectStatus =>
    let x := p.connections c
    returning (p.setConnection c { x with mConnectStatus := connectStatus })
      [.run (.onConnectionStatutChange x.mThreadName connectStatus)]
  | .onDeliverData c => fun
    | .returns => some (p, [])
    | .throws => some (p, [.run (.failReading c)])
    -- `getNetworkInfo().getRemoteIp()`: `mNetWorkInfos.get(0)` is null.
    | .answersCall => some (p, [.run .getInstance, .run .getNetWorkInfo, .run (.failReading c)])
    | _ => none
  | .authorize c => fun
    | .isKnownDevice true =>
      some ({ p.setConnection c { p.connections c with authorized := some true } with
        mCheckResult := false }, [])
    | .isKnownDevice false =>
      some (p, synchronized .mAuthorizeLock [.run (.checkAuthorize c)])
    | .throws => some (p.setConnection c { p.connections c with authorized := none }, [])
    | _ => none
  | .checkAuthorize c =>
    returning { p with mCheckResult := false }
      ((if p.mAuthorizeChecker then [.wait .mAuthorizeLock] else []) ++
        [.run (.returnCheckResult c)])
  | .returnCheckResult c =>
    returning (p.setConnection c { p.connections c with authorized := some p.mCheckResult }) []
  | .answer c threadName =>
    returning p
      (match (p.connections c).authorized with
      | none => [.run (.failReading c)]
      | some authorize =>
        [.run (.sendDataToTargetInner c threadName (Server.authorizePackage authorize)),
          .run (.tell c threadName (if authorize then .setAutorizeCheckPass else .stopConnection))])
  | .addMessage c data =>
    returning p
      (synchronized (.mMessageTask c) [.run (.queueMessage c data), .notify (.mMessageTask c)])
  | .queueMessage c data =>
    returning
      (p.mapSender c fun sender =>
        let id := sender.mCurrentId + 1
        { sender with
          mCurrentId := id, mMessageTask := sender.mMessageTask ++ [⟨id, data, true⟩] }) []
  | .addHeartbeatPackage c =>
    returning p
      (synchronized (.mMessageTask c) [.run (.queueHeartbeat c), .notify (.mMessageTask c)])
  | .queueHeartbeat c =>
    returning
      (p.mapSender c fun sender =>
        { sender with
          mMessageTask := sender.mMessageTask ++ [⟨-1, .inner .heartbeat, false⟩] }) []
  | .senderRun c => fun outcome =>
    if (p.connections c).mDataSenderThread.any (·.started) then
      returning
        (p.mapSender c fun sender => { sender with mHeartbeatThread := true, mThreadStop := false })
        [.run (.senderLoop c)] outcome
    else none
  | .senderLoop c =>
    if (p.connections c).mDataSenderThread.any (·.mThreadStop) then
      returning (p.mapSender c fun sender => { sender with mHeartbeatThread := false }) []
    else
      returning p
        (synchronized (.mMessageTask c) [.run (.takeTask c)] ++ [.run (.senderLoop c)])
  | .takeTask c => returning (p.takeTask c).1 (p.takeTask c).2
  | .writeObject _ _ => trying (p, []) (p, [])
  | .timer c => fun outcome =>
    if (p.connections c).mDataSenderThread.any (·.mHeartbeatThread) then
      returning p [.run (.addHeartbeatPackage c), .run (.timer c)] outcome
    else none
  | .addBroadcastTask message =>
    returning p
      (synchronized .mBroadcastTasks [.run (.queueBroadcast message), .notify .mBroadcastTasks])
  | .queueBroadcast message =>
    let id := p.mBroadcastId + 1
    let task : BroadcastTask := ⟨id, cfg.SERVER_PROADCAST_THREAD_PORT, message⟩
    returning { p with mBroadcastId := id, mBroadcastTasks := p.mBroadcastTasks ++ [task] } []
  | .broadcastRun => fun outcome =>
    if p.broadcastSenderStarted then returning p [.run .broadcastLoop] outcome else none
  | .broadcastLoop =>
    returning p
      (synchronized .mBroadcastTasks [.run .takeBroadcast] ++ [.run .broadcastLoop])
  | .takeBroadcast => returning p.takeBroadcast.1 p.takeBroadcast.2
  | .sendBroadcast _ => trying (p, []) (p, [])
  | .receiveRun => fun outcome =>
    if p.broadcastReceiverStarted then trying (p, [.run .receive]) (p, []) outcome else none
  | .receive => trying (p, [.run (.addBroadcastTask (announcement cfg)), .run .receive]) (p, [])

def program (cfg : Config) : Program Monitor Call Outcome Process where
  run := run cfg

/-- What each thread begins with. -/
def Thread.main : Thread → Call
  | .userInterface _ => .event
  | .accept => .acceptRun
  | .connection c => .serve c
  | .sender c => .senderRun c
  | .timer c => .timer c
  | .broadcastSender => .broadcastRun
  | .broadcastReceiver => .receiveRun

abbrev State := Monitors.State Thread Monitor Call Process

abbrev Label := Monitors.Label Thread Outcome

def init (cfg : Config) (free : Int32 → Bool) : State := .start (.init cfg free) Thread.main

def step (cfg : Config) (s : State) (l : Label) : Option State := Monitors.step (program cfg) s l

end Collaboration.Threads
