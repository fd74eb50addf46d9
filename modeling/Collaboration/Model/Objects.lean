import Collaboration.Model.JavaString

/-! # What travels on a connection, and what a connection is recorded as -/

namespace Collaboration

inductive ConnectStatus where
  | notInit
  | unauthorized
  | connected
  | errorClientBroadcastConflict
  | errorServerBroadcastConflict
  | errorConnectionConflict
  | errorException
  | disconnected
  deriving DecidableEq, Repr

/-- The package class shared by heartbeats, requests and decisions. -/
structure InnerPackage where
  value : Int32
  message : Option JString
  deriving DecidableEq, Repr

namespace InnerPackage

def PASS : JString := JString.lit "pass"

def FAILED : JString := JString.lit "failed"

def heartbeat : InnerPackage := ⟨0x01, none⟩

/-- `new InnerPackage(message)`, whose constructor increments the counter. -/
def ofMessage (message : JString) : InnerPackage := ⟨0x01 + 1, some message⟩

def isHeatbeatPackage (pkg : InnerPackage) : Bool := pkg.value == 0x01

def createAuthorizePackage (message : JString) : InnerPackage := ofMessage message

@[simp] theorem isHeatbeatPackage_heartbeat : heartbeat.isHeatbeatPackage := rfl

@[simp] theorem isHeatbeatPackage_ofMessage (message : JString) :
    (ofMessage message).isHeatbeatPackage = false := rfl

end InnerPackage

/-- An object read from or written to an object stream. An object that is neither a
package nor a string is opaque to the library and kept by its identity. -/
inductive Data where
  | inner (pkg : InnerPackage)
  | string (s : JString)
  | object (n : ℕ)
  deriving DecidableEq, Repr

/-- Application objects: everything that is not an `InnerPackage`. -/
def Data.isApplication : Data → Bool
  | .inner _ => false
  | .string _ => true
  | .object _ => true

/-- The packages that make a client thread connected. -/
def Data.isPass : Data → Bool
  | .inner pkg => !pkg.isHeatbeatPackage && pkg.message == some InnerPackage.PASS
  | .string _ => false
  | .object _ => false

/-- The packages that refuse a client. -/
def Data.isFailed : Data → Bool
  | .inner pkg => !pkg.isHeatbeatPackage && pkg.message == some InnerPackage.FAILED
  | .string _ => false
  | .object _ => false

/-- Whether a package is a heartbeat. -/
def Data.isHeartbeat : Data → Bool
  | .inner pkg => pkg.isHeatbeatPackage
  | .string _ => false
  | .object _ => false

theorem Data.isPass_eq_false {d : Data} (h : d.isApplication = true) : d.isPass = false := by
  cases d with
  | inner pkg => simp [isApplication] at h
  | string str | object n => rfl

@[simp] theorem Data.isPass_heartbeat : (Data.inner .heartbeat).isPass = false := rfl

/-- The names that threads of the library run under. -/
inductive ThreadName where
  /-- `"Connection#" + n`, given by the thread factory of `ConnectionThreads` -/
  | connection (n : ℕ)
  /-- `"client_connection_thread"` -/
  | clientConnection
  /-- `"client_receive_thread_port_" + port`, the broadcast receiver -/
  | broadcastReceive (port : ℕ)
  deriving DecidableEq, Repr

/-- `NetWorkInfo`, without its connection number, which nothing sets. -/
structure NetWorkInfo where
  mStatus : ConnectStatus
  mLocalIp : Option JString
  mRemoteIp : Option JString
  mClientBroadcastPort : Int32
  mServerBroadcastPort : Int32
  mConnectionPort : Int32
  deriving DecidableEq, Repr

/-- What a `Connection` is built from: its ports, its address, whether an `Authorizer` was
given and whether a `ConnectionListener` is registered. -/
structure Config where
  SERVER_PORT : Int32
  CLIENT_BROADCAST_THREAD_PORT : Int32
  SERVER_PROADCAST_THREAD_PORT : Int32
  localHostIp : Option JString
  mNeedCheckAuthorize : Bool
  mConnectionListener : Bool
  deriving DecidableEq, Repr

namespace Config

/-- `ConnectionImpl` at a local address, with a listener registered. -/
def connectionImpl (localHostIp : Option JString) (authorizer : Bool) : Config :=
  ⟨10083, 10082, 10081, localHostIp, authorizer, true⟩

/-- `createGenerat`, which the constructor repeats for `mNetWorkInfo`. -/
def createGenerat (cfg : Config) : NetWorkInfo where
  mStatus := .notInit
  mLocalIp := cfg.localHostIp
  mRemoteIp := none
  mClientBroadcastPort := cfg.CLIENT_BROADCAST_THREAD_PORT
  mServerBroadcastPort := cfg.SERVER_PROADCAST_THREAD_PORT
  mConnectionPort := cfg.SERVER_PORT

/-- The status left by `checkPort`, given which ports are free. -/
def checkPort (free : Int32 → Bool) (cfg : Config) : ConnectStatus :=
  if !free cfg.SERVER_PORT then .errorConnectionConflict
  else if !free cfg.CLIENT_BROADCAST_THREAD_PORT then .errorClientBroadcastConflict
  else if !free cfg.SERVER_PROADCAST_THREAD_PORT then .errorServerBroadcastConflict
  else .notInit

/-- `mNetWorkInfo` after the constructor. -/
def netWorkInfo (cfg : Config) (free : Int32 → Bool) : NetWorkInfo :=
  { cfg.createGenerat with mStatus := cfg.checkPort free }

/-- Whether `Connection.onNewDataReceived` hands an object that arrived on a connection
thread to the `ConnectionListener`. -/
def handsOver (cfg : Config) (mNetWorkInfo : NetWorkInfo) : Data → Bool
  | .inner _ => false
  | .string _ => cfg.mConnectionListener
  | .object _ => cfg.mConnectionListener && mNetWorkInfo.mStatus != .connected

theorem checkPort_ne_connected (cfg : Config) (free : Int32 → Bool) :
    cfg.checkPort free ≠ .connected := by
  unfold checkPort
  repeat' split
  all_goals simp

end Config

end Collaboration
