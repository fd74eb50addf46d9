import Collaboration.Client.Semantics
import Collaboration.Discovery.Semantics
import Collaboration.Server.Semantics

/-! # A `Connection` over repeated calls of `start()` and `stop()`

The client and the server of the modules before, with their discovery threads and with
every thread that an earlier `start()` left behind. A call of `start()` is one step, and so is
the handling of a datagram, from its tests to the start of the new thread; for the client
`Lifecycle.Receiving` takes both apart. A call of `stop()` is one step for each thread that it
turns to. -/

namespace Collaboration

/-- What a call of `Connection.stop()` turns to next. -/
inductive StopPc where
  | idle
  | stoppingSocketThread
  | stoppingReceiver
  | stoppingSender
  deriving DecidableEq, Repr

/-! ## The client -/

namespace Client

/-- Before the first `start()`. The thread that `mSocketClientThread` numbers does not exist;
null and a thread that never ran are treated alike. -/
def constructed (cfg : ClientConfig) (free : Int32 → Bool) : Client :=
  { init cfg free with created := 0 }

/-- The connection thread that `Connection.init()` creates, and does not start. -/
def initThread (s : Client) : Client :=
  { s.setThread s.created .new with
    mSocketClientThread := s.created
    created := s.created + 1 }

def stopClient (s : Client) : Client :=
  if s.current.isConnected then s.setThread s.mSocketClientThread s.current.stopRuning else s

/-- The steps that connection threads and the application take. -/
def Label.ofConnection : Label → Bool
  | .announced _ _ | .stop => false
  | _ => true

end Client

/-- A `Connection` of type `TYPE_CLIENT`. -/
structure ClientConnection where
  client : Client
  discovery : Discovery
  mServerIp : Option JString
  mServerPort : Int32
  stopping : StopPc

namespace ClientConnection

def new (cfg : ClientConfig) (free : Int32 → Bool) : ClientConnection :=
  ⟨.constructed cfg free, .new, none, 0, .idle⟩

def start (cfg : ClientConfig) (s : ClientConnection) : ClientConnection :=
  if s.client.mNetWorkInfo.mStatus = .connected then s
  else
    { s with
      client := s.client.initThread
      discovery :=
        s.discovery.restart (·.mThreadRuning) cfg.CLIENT_BROADCAST_THREAD_PORT
          (.lit "New_Client_In") }

/-- The next statement of a call of `stop()`. -/
def stopNext (s : ClientConnection) : Option ClientConnection :=
  match s.stopping with
  | .idle => none
  | .stoppingSocketThread =>
    some { s with client := s.client.stopClient, stopping := .stoppingReceiver }
  | .stoppingReceiver =>
    some { s with discovery := s.discovery.stopReceive, stopping := .stoppingSender }
  | .stoppingSender => some { s with discovery := s.discovery.stopThread, stopping := .idle }

/-- `onNewDataReceived` on the receiver `n`; every receiver has the name of the current one.
An exception ends the receiver, after what was assigned before it. -/
def onNewDataReceived (digits : JString.DigitTable) (s : ClientConnection) (n : ℕ)
    (messageStr : JString) : ClientConnection :=
  let colon := messageStr.indexOf (JString.unit ':')
  match messageStr.substring 0 colon with
  | none => { s with discovery := s.discovery.handled n false }
  | some serverIp =>
    let s := { s with mServerIp := some serverIp }
    match (messageStr.substring (colon + 1) messageStr.length).bind digits.parseInt with
    | none => { s with discovery := s.discovery.handled n false }
    | some serverPort =>
      { s with
        mServerPort := serverPort
        client := s.client.onServerAnnounced serverIp serverPort
        discovery := s.discovery.handled n true }

inductive Label where
  | start
  | stop
  | stopNext
  | discovery (l : Discovery.Label)
  /-- a receiver hands its datagram to the `Connection` -/
  | handle (n : ℕ)
  | client (l : Client.Label)
  deriving DecidableEq, Repr

def step (cfg : ClientConfig) (digits : JString.DigitTable) (s : ClientConnection) :
    Label → Option ClientConnection
  | .start => if s.stopping = .idle then some (s.start cfg) else none
  | .stop =>
    if s.stopping = .idle then
      some (if s.client.mNetWorkInfo.mStatus = .connected then
          { s with stopping := .stoppingSocketThread }
        else s)
    else none
  | .stopNext => s.stopNext
  | .discovery l => (s.discovery.step l).map fun d => { s with discovery := d }
  | .handle n =>
    match (s.discovery.receivers n).pc with
    | .handling message => some (s.onNewDataReceived digits n message)
    | _ => none
  | .client l =>
    if l.ofConnection then (s.client.step cfg l).map fun c => { s with client := c } else none

end ClientConnection

/-! ## The server -/

/-- What a server announces to its clients. -/
def Config.announcement (cfg : Config) : JString :=
  .valueOf cfg.localHostIp ++ .lit ":" ++ .ofInt cfg.SERVER_PORT

/-- The server socket is there. -/
def AcceptPc.isBound : AcceptPc → Bool
  | .notStarted | .ended => false
  | _ => true

namespace Server

/-- Before the first `start()`; null and an accept thread that has ended are treated alike. -/
def constructed (cfg : Config) (free : Int32 → Bool) : Server :=
  (init cfg free).setAcceptPc .ended

/-- The accept thread that `Connection.init()` creates and `startServer` starts: nothing is
alive or running about a new thread. The count of accepted connections is that of all. -/
def initThread (s : Server) : Server :=
  { s with mSocketServerThread := ⟨false, false, ∅, .notStarted, s.mSocketServerThread.accepted⟩ }

def stopServer (s : Server) : Server :=
  if s.mSocketServerThread.mThreadRunning then
    { s with mSocketServerThread := { s.mSocketServerThread with mStopRuning := true } }
  else s

/-- The steps of the accept thread. -/
def Label.isAccept : Label → Bool
  | .bind _ | .accept _ | .runAccept => true
  | _ => false

end Server

/-- A `Connection` of type `TYPE_SERVER`. `replaced n` is the accept thread that the `n`-th
effective `start()` took out of `mSocketServerThread`. Its connections report to it, and it
forwards to the `Connection`, which turns to the current thread. -/
structure ServerHost where
  server : Server
  replaced : ℕ → SocketServerConnectionThread
  discovery : Discovery
  stopping : StopPc

namespace ServerHost

def new (cfg : Config) (free : Int32 → Bool) : ServerHost :=
  ⟨.constructed cfg free, fun _ => (Server.constructed cfg free).mSocketServerThread, .new, .idle⟩

def start (cfg : Config) (s : ServerHost) : ServerHost :=
  if s.server.mNetWorkInfo.mStatus = .connected then s
  else
    { s with
      server := s.server.initThread
      replaced := Function.update s.replaced s.discovery.created s.server.mSocketServerThread
      discovery :=
        s.discovery.restart (·.isAlive) cfg.SERVER_PROADCAST_THREAD_PORT cfg.announcement }

/-- The next statement of a call of `stop()`. -/
def stopNext (s : ServerHost) : Option ServerHost :=
  match s.stopping with
  | .idle => none
  | .stoppingSocketThread =>
    some { s with server := s.server.stopServer, stopping := .stoppingReceiver }
  | .stoppingReceiver =>
    some { s with discovery := s.discovery.stopReceive, stopping := .stoppingSender }
  | .stoppingSender => some { s with discovery := s.discovery.stopThread, stopping := .idle }

/-- `onNewDataReceived` on the receiver `n`: the server answers with its address. Without a
sender the `NullPointerException` ends the receiver. -/
def onNewDataReceived (cfg : Config) (s : ServerHost) (n : ℕ) : ServerHost :=
  { s with
    discovery :=
      if s.discovery.mBroadcastSenderThread.isSome then
        (s.discovery.addBroadcastTask cfg.SERVER_PROADCAST_THREAD_PORT cfg.announcement).handled
          n true
      else s.discovery.handled n false }

/-- No accept thread of this `Connection` holds the port. -/
def portFree (s : ServerHost) : Bool :=
  !s.server.mSocketServerThread.pc.isBound &&
    (List.range s.discovery.created).all fun n => !(s.replaced n).pc.isBound

/-- A step of a replaced accept thread: the step of a server in which it is the current one.
Only the count of accepted connections is shared. -/
def stepReplaced (cfg : Config) (s : ServerHost) (n : ℕ) (l : Server.Label) : Option ServerHost :=
  let thread := s.server.mSocketServerThread
  (Server.step cfg
      { s.server with mSocketServerThread := { s.replaced n with accepted := thread.accepted } }
      l).map fun t =>
    { s with
      server :=
        { t with
          mSocketServerThread := { thread with accepted := t.mSocketServerThread.accepted } }
      replaced := Function.update s.replaced n t.mSocketServerThread }

inductive Label where
  | start
  | stop
  | stopNext
  | discovery (l : Discovery.Label)
  /-- a receiver hands its datagram to the `Connection` -/
  | handle (n : ℕ)
  /-- a step of the current accept thread, of a connection or of the application -/
  | server (l : Server.Label)
  /-- a step of a replaced accept thread -/
  | replaced (n : ℕ) (l : Server.Label)
  deriving DecidableEq, Repr

def step (cfg : Config) (s : ServerHost) : Label → Option ServerHost
  | .start => if s.stopping = .idle then some (s.start cfg) else none
  | .stop =>
    if s.stopping = .idle then
      some (if s.server.mNetWorkInfo.mStatus = .connected then
          { s with stopping := .stoppingSocketThread }
        else s)
    else none
  | .stopNext => s.stopNext
  | .discovery l => (s.discovery.step l).map fun d => { s with discovery := d }
  | .handle n =>
    match (s.discovery.receivers n).pc with
    | .handling _ => some (s.onNewDataReceived cfg n)
    | _ => none
  | .server l =>
    if l = .stop ∨ l = .bind true ∧ s.portFree = false then none
    else (s.server.step cfg l).map fun t => { s with server := t }
  | .replaced n l =>
    if n < s.discovery.created ∧ l.isAccept = true ∧ ¬(l = .bind true ∧ s.portFree = false) then
      s.stepReplaced cfg n l
    else none

end ServerHost

end Collaboration
