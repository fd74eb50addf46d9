import Collaboration.Client.Steps
import Collaboration.Server.Routing

/-! # What reaches the application

Both read loops hand objects on before the authorization is decided, and
`Connection.onNewDataReceived` looks at the status for objects other than strings only. -/

namespace Collaboration

open Transition

/-! ## The server -/

namespace Server

variable {cfg : Config} {s t : Server}

/-- The objects that a step hands to the application. -/
def handed (cfg : Config) (s : Server) : Label → List (ℕ × Data)
  | .read c data _ => if cfg.handsOver s.mNetWorkInfo data then [(c, data)] else []
  | _ => []

/-- The objects that it should hand over: application data on a connected connection. -/
def due (s : Server) : Label → List (ℕ × Data)
  | .read c data _ =>
    if data.isApplication && (s.connections c).isConnected then [(c, data)] else []
  | _ => []

/-- A step hands over what is due. -/
def Delivers (s : Server) (l : Label) (t : Server) : Prop := t.received = s.received ++ due s l

instance (s : Server) (l : Label) (t : Server) : Decidable (Delivers s l t) :=
  inferInstanceAs (Decidable (t.received = s.received ++ due s l))

/-- Application data arrives on connected connections only. -/
def ArrivesConnected (s : Server) : Label → Server → Prop
  | .read c data _, _ => data.isApplication = true → (s.connections c).isConnected = true
  | _, _ => True

instance (s : Server) (l : Label) (t : Server) : Decidable (ArrivesConnected s l t) :=
  match l with
  | .read c data _ =>
    inferInstanceAs (Decidable (data.isApplication = true → (s.connections c).isConnected = true))
  | .bind _ | .accept _ | .runAccept | .take | .connection _ _ | .unauthorized _
  | .authorize _ _ _ | .reply _ | .decide _ | .finish _ | .sendDataToTarget _ | .stop =>
    .isTrue trivial

@[simp] theorem setConnection_received (s : Server) (c : ℕ) (x : ServerConnection) :
    (s.setConnection c x).received = s.received := rfl

@[simp] theorem setPc_received (s : Server) (c : ℕ) (pc : ServerPc) :
    (s.setPc c pc).received = s.received := rfl

@[simp] theorem onConnectionStatutChange_received (cfg : Config) (s : Server) (c : ℕ)
    (status : ConnectStatus) : (s.onConnectionStatutChange cfg c status).received = s.received := by
  unfold onConnectionStatutChange
  split <;> rfl

@[simp] theorem changeConnectStatus_received (cfg : Config) (s : Server) (c : ℕ)
    (status : ConnectStatus) : (s.changeConnectStatus cfg c status).received = s.received := by
  simp [changeConnectStatus]

theorem sendDataToTargetInner_received (s : Server) (name : Option ThreadName) (data : Data) :
    (s.sendDataToTargetInner name data).received = s.received :=
  sendDataToTargetInner_cases s name data rfl rfl fun _ _ => rfl

theorem decide_received (cfg : Config) (s : Server) (name : Option ThreadName)
    (authorize : Bool) : (s.decide cfg name authorize).received = s.received := by
  refine decide_cases cfg s name authorize ?_ ?_ ?_
  · exact fun _ => rfl
  · intro target _ _
    simp [setAutorizeCheckPass]
  · exact fun _ _ _ => rfl

theorem execute_received (s : Server) (c : ℕ) (remoteIp : JString) :
    (s.execute c remoteIp).received = s.received := by
  exact execute_cases s c remoteIp (fun _ => rfl) (fun _ _ => rfl) fun _ _ => rfl

theorem onNewDataReceived_received (cfg : Config) (s : Server) (c : ℕ) (data : Data)
    (throws : Bool) :
    (s.onNewDataReceived cfg c data throws).received =
      s.received ++ if cfg.handsOver s.mNetWorkInfo data then [(c, data)] else [] := by
  refine onNewDataReceived_cases cfg s c data throws ?_ ?_ ?_ ?_ ?_
  · intro hover _
    rw [if_pos hover]
    rfl
  · intro hover _
    rw [if_pos hover]
    rfl
  · intro hover
    rw [hover]
    exact (List.append_nil _).symm
  · rintro pkg rfl _ _
    exact (List.append_nil _).symm
  · rintro pkg rfl _ _
    exact (List.append_nil _).symm

theorem received_of_step {l : Label} (h : s.step cfg l = some t) :
    t.received = s.received ++ handed cfg s l := by
  cases steps_of_step h with
  | @read c data throws => exact onNewDataReceived_received cfg s c data throws
  | execute => simpa [handed] using execute_received s _ _
  | reply => simp [handed, sendDataToTargetInner_received]
  | decide => simp [handed, decide_received]
  | sendDataToTarget =>
      unfold Server.sendDataToTarget
      split <;> simp [handed, broadcast]
  | unauthorized => simp [handed]
  | _ => exact (List.append_nil _).symm

theorem delivers_iff (hl : cfg.mConnectionListener = true)
    (hinfo : s.mNetWorkInfo.mStatus ≠ .connected) {l : Label} (h : s.step cfg l = some t) :
    Delivers s l t ↔ ArrivesConnected s l t := by
  unfold Delivers
  rw [received_of_step h, List.append_cancel_left_eq]
  cases l with
  | read c data throws =>
      cases data with
      | inner pkg => simp [handed, due, ArrivesConnected, Config.handsOver, Data.isApplication]
      | string str | object n =>
          by_cases hc : (s.connections c).isConnected = true
          · simp [handed, due, ArrivesConnected, Config.handsOver, Data.isApplication, hl, hinfo,
              hc]
          · simp [handed, due, ArrivesConnected, Config.handsOver, Data.isApplication, hl, hinfo,
              hc]
  | _ => exact iff_of_true rfl trivial

theorem along_delivers_iff (hl : cfg.mConnectionListener = true) (free : Int32 → Bool)
    (ls : List Label) :
    Along (step cfg) Delivers (init cfg free) ls ↔
      Along (step cfg) ArrivesConnected (init cfg free) ls :=
  along_congr_of_invariant (P := Delivers) (Q := ArrivesConnected)
    (I := fun s => s.mNetWorkInfo.mStatus ≠ .connected)
    (fun s l t h hs => by rwa [mNetWorkInfo_of_step hs])
    (fun s l t h hs => delivers_iff hl h hs) (cfg.checkPort_ne_connected free) ls

end Server

/-! ## The client -/

namespace Client

variable {cfg : ClientConfig} {s t : Client}

def handed (cfg : ClientConfig) (s : Client) : Label → List (ℕ × Data)
  | .read n data _ => if cfg.handsOver s.mNetWorkInfo data then [(n, data)] else []
  | _ => []

def due (s : Client) : Label → List (ℕ × Data)
  | .read n data _ => if data.isApplication && (s.threads n).isConnected then [(n, data)] else []
  | _ => []

def Delivers (s : Client) (l : Label) (t : Client) : Prop := t.received = s.received ++ due s l

instance (s : Client) (l : Label) (t : Client) : Decidable (Delivers s l t) :=
  inferInstanceAs (Decidable (t.received = s.received ++ due s l))

/-- Strings arrive on connected threads only; any other object arrives either on a connected
thread or while `mNetWorkInfo` says connected, but not both. -/
def ArrivesConnected (s : Client) : Label → Client → Prop
  | .read n (.string _) _, _ => (s.threads n).isConnected = true
  | .read n (.object _) _, _ =>
    (s.threads n).isConnected = true ↔ s.mNetWorkInfo.mStatus ≠ .connected
  | _, _ => True

instance (s : Client) (l : Label) (t : Client) : Decidable (ArrivesConnected s l t) :=
  match l with
  | .read n (.string _) _ => inferInstanceAs (Decidable ((s.threads n).isConnected = true))
  | .read n (.object _) _ =>
    inferInstanceAs (Decidable ((s.threads n).isConnected = true ↔
      s.mNetWorkInfo.mStatus ≠ .connected))
  | .read _ (.inner _) _ | .announced _ _ | .thread _ _ | .unauthorized _ | .disconnected _
  | .sendDataToTarget _ | .stop => .isTrue trivial

theorem changeConnectStatus_received (cfg : ClientConfig) (s : Client) (n : ℕ)
    (status : ConnectStatus) : (s.changeConnectStatus cfg n status).received = s.received := rfl

theorem announce_received (cfg : ClientConfig) (s : Client) (n : ℕ) :
    (s.announce cfg n).received = s.received := by
  refine announce_cases cfg s n ?_ ?_ ?_
  · exact fun _ => rfl
  · intro deviceId _ _
    unfold sendDataToTargetInner
    split <;> rfl
  · exact fun _ _ => rfl

theorem onNewDataReceived_received (cfg : ClientConfig) (s : Client) (n : ℕ) (data : Data)
    (throws : Bool) :
    (s.onNewDataReceived cfg n data throws).received =
      s.received ++ if cfg.handsOver s.mNetWorkInfo data then [(n, data)] else [] := by
  refine onNewDataReceived_cases cfg s n data throws ?_ ?_ ?_
  · intro hover
    rw [if_pos hover]
  · intro hover _
    rw [hover]
    exact (List.append_nil _).symm
  · intro hover
    rw [hover]
    exact (List.append_nil _).symm

theorem receive_received (cfg : ClientConfig) (s : Client) (n : ℕ) (data : Data)
    (throws : Bool) :
    (s.receive cfg n data throws).received =
      s.received ++ if cfg.handsOver s.mNetWorkInfo data then [(n, data)] else [] := by
  refine receive_cases cfg s n data throws ?_ ?_ ?_ ?_
  · intro _ hover
    rw [hover]
    exact (List.append_nil _).symm
  · intro _ _ hover
    rw [hover]
    exact (List.append_nil _).symm
  · intro _ hover
    rw [hover]
    exact (List.append_nil _).symm
  · exact fun _ _ => onNewDataReceived_received cfg s n data throws

theorem received_of_step {l : Label} (h : s.step cfg l = some t) :
    t.received = s.received ++ handed cfg s l := by
  cases steps_of_step h with
  | announced =>
      unfold onServerAnnounced
      split <;> simp [handed, setThread]
  | unauthorized => simp [handed, announce_received]
  | @read n data throws => exact receive_received cfg s n data throws
  | sendDataToTarget =>
      unfold Client.sendDataToTarget
      split <;> simp [handed, setThread]
  | thread | disconnected | stop | stopIdle => exact (List.append_nil _).symm

theorem delivers_iff (hl : cfg.mConnectionListener = true) {l : Label}
    (h : s.step cfg l = some t) : Delivers s l t ↔ ArrivesConnected s l t := by
  unfold Delivers
  rw [received_of_step h, List.append_cancel_left_eq]
  cases l with
  | read n data throws =>
      cases data with
      | inner pkg => simp [handed, due, ArrivesConnected, Config.handsOver, Data.isApplication]
      | string str =>
          by_cases hc : (s.threads n).isConnected = true
          · simp [handed, due, ArrivesConnected, Config.handsOver, Data.isApplication, hl, hc]
          · simp [handed, due, ArrivesConnected, Config.handsOver, Data.isApplication, hl, hc]
      | object k =>
          by_cases hc : (s.threads n).isConnected = true <;>
            by_cases hi : s.mNetWorkInfo.mStatus = .connected <;>
            simp [handed, due, ArrivesConnected, Config.handsOver, Data.isApplication, hl, hc, hi]
  | _ => exact iff_of_true rfl trivial

theorem along_delivers_iff (hl : cfg.mConnectionListener = true) (free : Int32 → Bool)
    (ls : List Label) :
    Along (step cfg) Delivers (init cfg free) ls ↔
      Along (step cfg) ArrivesConnected (init cfg free) ls :=
  along_congr_of_invariant (P := Delivers) (Q := ArrivesConnected) (I := fun _ => True)
    (fun _ _ _ _ _ => trivial) (fun _ _ _ _ hs => delivers_iff hl hs) trivial ls

/-- The first announcement of the server, up to the thread's first `readObject()`. -/
def connect : List Label :=
  [.announced (JString.lit "10.0.0.1") 10083, .thread 1 .init, .thread 1 (.connect true),
    .unauthorized 1, .thread 1 .test]

/-- The server lets the client in. -/
def admitted : List Label :=
  [.read 1 (.inner (.ofMessage InnerPackage.PASS)) false, .thread 1 .test]

end Client

/-! ## Both sides -/

/-- With a listener registered on both sides, every run hands over exactly the application
data that arrives on connected connections if and only if no other arrives and, on a client,
no object other than a string arrives while its `mNetWorkInfo` says connected. -/
theorem delivers_iff_arrivesConnected (serverCfg : Config) (clientCfg : ClientConfig)
    (hserver : serverCfg.mConnectionListener = true)
    (hclient : clientCfg.mConnectionListener = true) (free : Int32 → Bool)
    (ls : List Server.Label) (ms : List Client.Label) :
    (Along (Server.step serverCfg) Server.Delivers (.init serverCfg free) ls ∧
      Along (Client.step clientCfg) Client.Delivers (.init clientCfg free) ms) ↔
    (Along (Server.step serverCfg) Server.ArrivesConnected (.init serverCfg free) ls ∧
      Along (Client.step clientCfg) Client.ArrivesConnected (.init clientCfg free) ms) :=
  and_congr (Server.along_delivers_iff hserver free ls) (Client.along_delivers_iff hclient free ms)

/-- The device of the sample client. -/
def sampleClient : ClientConfig :=
  .connectionImpl (some (JString.lit "htc one2")) (some (JString.lit "1234567890"))

theorem delivers_iff_arrivesConnected_admitted :
    Along (Server.step (.connectionImpl none true)) Server.Delivers
        (.init (.connectionImpl none true) fun _ => true)
        (Server.oneClient ++ Server.approve 0 ++
          [.connection 0 .test, .read 0 (.object 7) false]) ∧
      Along (Client.step sampleClient) Client.Delivers (.init sampleClient fun _ => true)
        (Client.connect ++ Client.admitted ++ [.read 1 (.string (JString.lit "idle")) false]) :=
  (delivers_iff_arrivesConnected _ _ rfl rfl _ _ _).mpr (by decide)

/-- A server takes orders from a client that nobody has authorized, and a client drops the
objects that arrive after it was let in. -/
theorem delivers_regardless_of_status :
    (¬ ∀ ls, Along (Server.step (.connectionImpl none true)) Server.Delivers
      (.init (.connectionImpl none true) fun _ => true) ls) ∧
    ¬ ∀ ms, Along (Client.step sampleClient) Client.Delivers
      (.init sampleClient fun _ => true) ms := by
  constructor
  · intro h
    have hread := h (Server.oneClient ++ [.read 0 (.string (JString.lit "idle")) false])
    exact absurd hread (by decide)
  · intro h
    have hread := h (Client.connect ++ Client.admitted ++ [.read 1 (.object 7) false])
    exact absurd hread (by decide)

end Collaboration
