import Collaboration.Sender.Semantics
import Collaboration.Model.Utils

/-! # The client side of a connection

Each announcement of the server that finds the current thread unconnected replaces it by
a new `SocketClientConnectionThread`; older threads go on running.

A step is what one thread does up to the next point where it waits or is taken to be
interrupted. Taken together are the tests, the replacement and the start that follow an
announcement, a test of the status with the sending it guards, and a change of status with
the call of the listener. `Lifecycle.Receiving` takes the announcement apart. -/

namespace Collaboration

/-! ## One thread -/

/-- The statement of `SocketClientConnectionThread.run()` that comes next. -/
inductive ClientPc where
  | created
  | started
  | connecting
  /-- before `changeConnectStatus(UNAUTHORIZED)` -/
  | announcing
  | testing
  | reading
  /-- before the farewell -/
  | closing
  | disconnecting
  | releasing
  | finished
  deriving DecidableEq, Repr

structure SocketClientConnectionThread where
  mStopRuning : Bool
  mStopConnection : Bool
  mConnectStatus : ConnectStatus
  mServerPort : Int32
  mServerIp : Option JString
  mDataSenderThread : Option Sender
  mObjectInputStream : Bool
  pc : ClientPc
  deriving DecidableEq, Repr

namespace SocketClientConnectionThread

def new : SocketClientConnectionThread :=
  ⟨false, false, .notInit, 0, none, none, false, .created⟩

def startConnection (t : SocketClientConnectionThread) (port : Int32) (serverIp : JString) :
    SocketClientConnectionThread :=
  { t with mServerPort := port, mServerIp := some serverIp, pc := .started }

def initRunningArgument (t : SocketClientConnectionThread) : SocketClientConnectionThread :=
  { t with mStopRuning := true, mStopConnection := false }

def isConnected (t : SocketClientConnectionThread) : Bool := t.mConnectStatus == .connected

def canSendData (t : SocketClientConnectionThread) : Bool :=
  t.isConnected || t.mConnectStatus == .unauthorized

def sendDataToTarget (t : SocketClientConnectionThread) (o : Data) :
    SocketClientConnectionThread :=
  match t.mDataSenderThread with
  | some sender =>
    if t.canSendData then { t with mDataSenderThread := some (sender.addMessage o true).1 }
    else t
  | none => t

def sendHeartbeatPackages (t : SocketClientConnectionThread) : SocketClientConnectionThread :=
  match t.mDataSenderThread with
  | some sender =>
    if t.isConnected then { t with mDataSenderThread := some sender.addHeartbeatPackage } else t
  | none => t

def stopConnection (t : SocketClientConnectionThread) : SocketClientConnectionThread :=
  { t with mStopConnection := true }

def stopRuning (t : SocketClientConnectionThread) : SocketClientConnectionThread :=
  { t with mStopConnection := true, mStopRuning := true }

/-- `releaseServerSocket`: closes the streams and asks the sender to stop. -/
def releaseServerSocket (t : SocketClientConnectionThread) : SocketClientConnectionThread :=
  { t with
    mObjectInputStream := false
    mDataSenderThread :=
      t.mDataSenderThread.map fun s => { s.stopRuning with streamOpen := false } }

/-- What the thread sends when its loop ends. -/
def farewell : Data := .string (JString.lit "beybey! close by server")

/-- The steps of a thread that involve no other object. -/
inductive Label where
  | init
  | connect (ok : Bool)
  | test
  /-- `readObject` throws `SocketTimeoutException` -/
  | readTimesOut
  | readFails
  | close
  | release
  | send (written : Bool)
  deriving DecidableEq, Repr

def step (t : SocketClientConnectionThread) : Label → Option SocketClientConnectionThread
  | .init =>
    if t.pc = .started then some { t.initRunningArgument with pc := .connecting } else none
  | .connect ok =>
    if t.pc = .connecting then
      some (if ok then
          { t with
            mObjectInputStream := true
            mDataSenderThread := some { Sender.new false with pc := .started }
            pc := .announcing }
        else { t with pc := .disconnecting })
    else none
  | .test =>
    if t.pc = .testing then
      some { t with pc := if t.mStopConnection then .closing else .reading }
    else none
  | .readTimesOut => if t.pc = .reading then some { t with pc := .closing } else none
  | .readFails => if t.pc = .reading then some { t with pc := .disconnecting } else none
  | .close =>
    if t.pc = .closing then some { t.sendDataToTarget farewell with pc := .disconnecting }
    else none
  | .release =>
    if t.pc = .releasing then some { t.releaseServerSocket with pc := .finished } else none
  | .send written =>
    match t.mDataSenderThread with
    | some s => (s.run written).map fun s => { t with mDataSenderThread := some s }
    | none => none

end SocketClientConnectionThread

/-! ## The `Connection` -/

/-- What a client `Connection` is built from, with the identity of its device. -/
structure ClientConfig extends Config where
  getDeviceName : Option JString
  getDeviceMac : Option JString
  deriving DecidableEq, Repr

namespace ClientConfig

/-- `ConnectionImpl` on a device, with a listener registered. -/
def connectionImpl (deviceName deviceMac : Option JString) : ClientConfig :=
  { Config.connectionImpl none false with getDeviceName := deviceName, getDeviceMac := deviceMac }

/-- `checkDeviceNameAndMac`: the name or the mac is missing. -/
def checkDeviceNameAndMac (cfg : ClientConfig) : Bool :=
  Utils.isEmpty cfg.getDeviceName || Utils.isEmpty cfg.getDeviceMac

/-- `createDeviceInfo` of the device; `none` is the exception for a mac that is too short. -/
def deviceId (cfg : ClientConfig) : Option JString := do
  Utils.createDeviceInfo (← cfg.getDeviceName) (← cfg.getDeviceMac)

end ClientConfig

/-- Threads are numbered in the order in which they are created. `received` and `reported`
are what the `ConnectionListener` has been told, with the thread it came from. -/
structure Client where
  mSocketClientThread : ℕ
  mNetWorkInfo : NetWorkInfo
  threads : ℕ → SocketClientConnectionThread
  /-- the number of threads created so far -/
  created : ℕ
  received : List (ℕ × Data)
  reported : List (ℕ × ConnectStatus)

namespace Client

/-- The client right after `start()`. -/
def init (cfg : ClientConfig) (free : Int32 → Bool) : Client where
  mSocketClientThread := 0
  mNetWorkInfo := cfg.netWorkInfo free
  threads _ := .new
  created := 1
  received := []
  reported := []

def setThread (s : Client) (t : ℕ) (x : SocketClientConnectionThread) : Client :=
  { s with threads := Function.update s.threads t x }

def setPc (s : Client) (t : ℕ) (pc : ClientPc) : Client :=
  s.setThread t { s.threads t with pc := pc }

/-- The current thread, to which everything that is sent goes. -/
def current (s : Client) : SocketClientConnectionThread := s.threads s.mSocketClientThread

/-- `Connection.onNewDataReceived` on the thread of the broadcast receiver, with the address
that the message of the server carries. Nothing interrupts a thread. -/
def onServerAnnounced (s : Client) (mServerIp : JString) (mServerPort : Int32) : Client :=
  if s.current.isConnected then s
  else
    { s.setThread s.created (.startConnection .new mServerPort mServerIp) with
      mSocketClientThread := s.created
      created := s.created + 1 }

/-- `sendDataToTargetInner`, which ignores its name on a client. -/
def sendDataToTargetInner (s : Client) (object : Data) : Client :=
  if s.current.canSendData then
    s.setThread s.mSocketClientThread (s.current.sendDataToTarget object)
  else s

def sendDataToTarget (s : Client) (object : Data) : Client :=
  if s.current.isConnected then
    s.setThread s.mSocketClientThread (s.current.sendDataToTarget object)
  else s

/-- `changeConnectStatus` of a thread and `onConnectionStatutChange` of the `Connection`, up
to the authorization request. The listener's `onConnectionStatusChanged` is taken to return. -/
def changeConnectStatus (cfg : ClientConfig) (s : Client) (t : ℕ) (newStatus : ConnectStatus) :
    Client :=
  { s.setThread t { s.threads t with mConnectStatus := newStatus } with
    mNetWorkInfo :=
      { s.mNetWorkInfo with mStatus := newStatus, mRemoteIp := s.current.mServerIp }
    reported := if cfg.mConnectionListener then s.reported ++ [(t, newStatus)] else s.reported }

/-- The request for authorization; `none` is an exception. -/
def requestAuthorize (cfg : ClientConfig) (s : Client) : Option Client :=
  if cfg.checkDeviceNameAndMac then some s
  else
    cfg.deviceId.map fun deviceId =>
      s.sendDataToTargetInner (.inner (.createAuthorizePackage deviceId))

/-- `changeConnectStatus(UNAUTHORIZED)` in `run()`. -/
def announce (cfg : ClientConfig) (s : Client) (t : ℕ) : Client :=
  let s := s.changeConnectStatus cfg t .unauthorized
  match s.requestAuthorize cfg with
  | some s => s.setPc t .testing
  | none => s.setPc t .disconnecting

/-- `Connection.onNewDataReceived` on a connection thread. `throws` is the outcome of the
listener's method. -/
def onNewDataReceived (cfg : ClientConfig) (s : Client) (t : ℕ) (data : Data) (throws : Bool) :
    Client :=
  if cfg.handsOver s.mNetWorkInfo data then
    { s.setPc t (if throws then .disconnecting else .testing) with
      received := s.received ++ [(t, data)] }
  else
    match data with
    | .inner pkg =>
      if cfg.mConnectionListener && pkg.isHeatbeatPackage then
        (s.setThread s.mSocketClientThread s.current.sendHeartbeatPackages).setPc t .testing
      else s.setPc t .testing
    | _ => s.setPc t .testing

/-- The body of the read loop: decisions are taken out before the `Connection` sees them. -/
def receive (cfg : ClientConfig) (s : Client) (t : ℕ) (data : Data) (throws : Bool) : Client :=
  match data with
  | .inner pkg =>
    if !pkg.isHeatbeatPackage then
      if pkg.message = some InnerPackage.PASS then
        (s.changeConnectStatus cfg t .connected).setPc t .testing
      else if pkg.message = some InnerPackage.FAILED then
        s.setThread t { (s.threads t).stopConnection with pc := .testing }
      else s.setPc t .testing
    else s.onNewDataReceived cfg t data throws
  | _ => s.onNewDataReceived cfg t data throws

inductive Label where
  /-- the broadcast receiver delivers an announcement of the server -/
  | announced (serverIp : JString) (serverPort : Int32)
  | thread (t : ℕ) (l : SocketClientConnectionThread.Label)
  | unauthorized (t : ℕ)
  | read (t : ℕ) (data : Data) (throws : Bool)
  | disconnected (t : ℕ)
  | sendDataToTarget (data : Data)
  /-- `Connection.stop()` -/
  | stop
  deriving DecidableEq, Repr

def step (cfg : ClientConfig) (s : Client) : Label → Option Client
  | .announced serverIp serverPort => some (s.onServerAnnounced serverIp serverPort)
  | .thread t l => ((s.threads t).step l).map (s.setThread t)
  | .unauthorized t => if (s.threads t).pc = .announcing then some (s.announce cfg t) else none
  | .read t data throws =>
    if (s.threads t).pc = .reading then some (s.receive cfg t data throws) else none
  | .disconnected t =>
    if (s.threads t).pc = .disconnecting then
      some ((s.changeConnectStatus cfg t .disconnected).setPc t .releasing)
    else none
  | .sendDataToTarget data => some (s.sendDataToTarget data)
  | .stop =>
    some (if s.mNetWorkInfo.mStatus = .connected && s.current.isConnected then
        s.setThread s.mSocketClientThread s.current.stopRuning
      else s)

end Client

end Collaboration
