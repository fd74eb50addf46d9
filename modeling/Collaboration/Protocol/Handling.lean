import Collaboration.Protocol.RoundTrip
import Collaboration.Client.Steps
import Collaboration.Server.Routing

/-! # What a string from the peer does to its connection

A string passes the read loop, the `Connection`, the `ApplicationManager`, the envelope
parser and the module listener. Only the `JSONException` of the envelope is caught on the
way; whatever else is thrown ends the read loop. -/

namespace Collaboration

open OrgJson Transition

/-! ## The listeners -/

namespace Call

inductive State where
  | IDLE | ACTIVE | HOLDING | DIALING | ALERTING | INCOMING | WAITING | DISCONNECTED
  | DISCONNECTING
  deriving DecidableEq, Repr

def numToState (num : Int32) : State :=
  match num.toInt with
  | 0 => .IDLE
  | 1 => .ACTIVE
  | 2 => .HOLDING
  | 3 => .DIALING
  | 4 => .ALERTING
  | 5 => .INCOMING
  | 6 => .WAITING
  | 7 => .DISCONNECTED
  | 8 => .DISCONNECTING
  | _ => .IDLE

theorem numToState_eq_ACTIVE_iff (num : Int32) : numToState num = .ACTIVE ↔ num = 1 := by
  unfold numToState
  constructor
  · intro h
    split at h <;> simp only [reduceCtorEq] at h
    rename_i hnum
    exact Int32.toInt_inj.mp hnum
  · rintro rfl
    rfl

end Call

/-- The argument of `Map.get(Object)` on a map from thread names. -/
inductive MapKey where
  | string (name : ThreadName)
  | integer (n : Int32)

/-- `mNetWorkInfos.get`: no `String` equals an `Integer`. -/
def netWorkInfosGet (infos : AList fun _ : ThreadName => NetWorkInfo) :
    MapKey → Option NetWorkInfo
  | .string name => infos.lookup name
  | .integer _ => none

/-- `Connection.getNetWorkInfo` on a server. -/
def Server.getNetWorkInfo (s : Server) : Option NetWorkInfo :=
  netWorkInfosGet s.mNetWorkInfos (.integer 0)

/-- What `CollaborationService` makes of a message. -/
inductive PhoneAction where
  | answerCall (remoteIp : Option JString)
  | endCall
  deriving DecidableEq, Repr

/-- `CollaborationService.onMessage`; its `AudioManager` is there before it is registered. -/
def CollaborationService.onMessage (J : OrgJson) (t : JString.CaseTable)
    (networkInfo : Option NetWorkInfo) (dataObj : Option JSONObject) :
    Except JavaException (Option PhoneAction) :=
  match parser J t dataObj with
  | .error e => .error e
  | .ok none => .ok none
  | .ok (some phoneJsonObj) =>
    if Call.numToState phoneJsonObj.CallType = .ACTIVE then
      match networkInfo with
      | some info => .ok (some (.answerCall info.mRemoteIp))
      | none => .error .nullPointer
    else if Call.numToState phoneJsonObj.CallType = .DISCONNECTING then .ok (some .endCall)
    else .ok none

/-- `sent` is what the handler has been given. -/
structure PhoneMsgListener where
  jsonList : List (Option PhoneJson)
  /-- whether `mHandler` is set; otherwise the service that sets it is started -/
  mHandler : Bool
  sent : List (Option PhoneJson)

def PhoneMsgListener.onMessage (J : OrgJson) (t : JString.CaseTable) (l : PhoneMsgListener)
    (dataObj : Option JSONObject) : Except JavaException PhoneMsgListener :=
  match parser J t dataObj with
  | .error e => .error e
  | .ok phoneJsonObj =>
    let jsonList := l.jsonList ++ [phoneJsonObj]
    .ok (if l.mHandler then { l with jsonList := [], sent := l.sent ++ jsonList }
      else { l with jsonList := jsonList })

def PhoneMsgListener.new : PhoneMsgListener := ⟨[], false, []⟩

/-- `deliverMsg`: what it takes out of `jsonList` is lost while there is no handler. -/
def PhoneMsgListener.deliverMsg (l : PhoneMsgListener) : PhoneMsgListener :=
  { l with jsonList := [], sent := if l.mHandler then l.sent ++ l.jsonList else l.sent }

/-- `setHandler`, given whether the handler is set or cleared. -/
def PhoneMsgListener.setHandler (l : PhoneMsgListener) (handler : Bool) : PhoneMsgListener :=
  { l with mHandler := handler }.deliverMsg

/-- `ApplicationManager.onDeliverData`, the same on both sides: the module object with which
the registered listener is called, if it is. The map is given by its names. -/
def onDeliverData (J : OrgJson) (mModuleMap : List JString) (data : JString) :
    Option (Option JSONObject) :=
  match JsonParser.parse J data with
  | none => none
  | some combineObj =>
    match combineObj.mCommObj.Module with
    | some module => if module ∈ mModuleMap then some combineObj.mModuleJSONObj else none
    | none => none

/-- Whether `onNewDataReceive` throws, given when the listener's `onMessage` does. -/
def deliveryThrows (J : OrgJson) (mModuleMap : List JString) (throws : Option JSONObject → Bool)
    (data : JString) : Bool :=
  match onDeliverData J mModuleMap data with
  | some moduleObj => throws moduleObj
  | none => false

def Server.deliveryThrows (J : OrgJson) (t : JString.CaseTable) (mModuleMap : List JString)
    (s : Server) : JString → Bool :=
  Collaboration.deliveryThrows J mModuleMap fun obj =>
    !(CollaborationService.onMessage J t s.getNetWorkInfo obj).isOk

def Client.deliveryThrows (J : OrgJson) (t : JString.CaseTable) (mModuleMap : List JString)
    (l : PhoneMsgListener) : JString → Bool :=
  Collaboration.deliveryThrows J mModuleMap fun obj => !(l.onMessage J t obj).isOk

/-! ## The strings that throw -/

variable (J : OrgJson) (t : JString.CaseTable) (mModuleMap : List JString)

/-- The string is a JSON object with a registered module name, and its module object does
not name the phone module or is otherwise `bad`. -/
def Fatal (bad : JSONObject → Prop) (data : JString) : Prop :=
  ∃ json obj, J.ofText data = some json ∧
    J.optString json CommonJSONConstant.MODULE ∈ mModuleMap ∧
    optJSONObject json CommonJSONConstant.MODULE_OBJ = some obj ∧
    (t.equalsIgnoreCase PHONE (some (J.optString obj PhoneJSONConstant.MODULE)) = false ∨ bad obj)

/-- On the server the order to answer a call is fatal too. -/
def Answers (obj : JSONObject) : Prop := J.optInt obj PhoneJSONConstant.CALL_TYPE = 1

theorem parser_of_phone {obj : JSONObject}
    (h : t.equalsIgnoreCase PHONE (some (J.optString obj PhoneJSONConstant.MODULE)) = true) :
    ∃ p : PhoneJson, p.CallType = J.optInt obj PhoneJSONConstant.CALL_TYPE ∧
      parser J t (some obj) = .ok (some p) := by
  simp only [parser, h, if_true]
  exact ⟨_, rfl, rfl⟩

theorem parser_of_other {obj : JSONObject}
    (h : t.equalsIgnoreCase PHONE (some (J.optString obj PhoneJSONConstant.MODULE)) = false) :
    ∃ e, parser J t (some obj) = .error e := by
  simp only [parser, h, Bool.false_eq_true, if_false]
  exact ⟨_, rfl⟩

/-- The server never knows its network information, so it cannot answer a call. -/
theorem CollaborationService.onMessage_throws_iff (s : Server) (obj : JSONObject) :
    (CollaborationService.onMessage J t s.getNetWorkInfo (some obj)).isOk = false ↔
      t.equalsIgnoreCase PHONE (some (J.optString obj PhoneJSONConstant.MODULE)) = false ∨
        Answers J obj := by
  have hinfo : s.getNetWorkInfo = none := rfl
  by_cases h : t.equalsIgnoreCase PHONE (some (J.optString obj PhoneJSONConstant.MODULE)) = true
  · obtain ⟨p, hp, hparse⟩ := parser_of_phone J t h
    have hanswer : Answers J obj ↔ Call.numToState p.CallType = .ACTIVE := by
      rw [Call.numToState_eq_ACTIVE_iff, hp]
      rfl
    by_cases hactive : Call.numToState p.CallType = .ACTIVE
    · simp [onMessage, hparse, hactive, hinfo, hanswer, Except.isOk, Except.toBool]
    · simp only [onMessage, hparse, hactive, if_false, h, Bool.true_eq_false, false_or, hanswer,
        iff_false, Bool.not_eq_false]
      split <;> rfl
  · rw [Bool.not_eq_true] at h
    obtain ⟨e, he⟩ := parser_of_other J t h
    simp [onMessage, he, h, Except.isOk, Except.toBool]

theorem PhoneMsgListener.onMessage_throws_iff (l : PhoneMsgListener) (obj : JSONObject) :
    (l.onMessage J t (some obj)).isOk = false ↔
      t.equalsIgnoreCase PHONE (some (J.optString obj PhoneJSONConstant.MODULE)) = false := by
  by_cases h : t.equalsIgnoreCase PHONE (some (J.optString obj PhoneJSONConstant.MODULE)) = true
  · obtain ⟨p, -, hparse⟩ := parser_of_phone J t h
    simp [onMessage, hparse, h, Except.isOk, Except.toBool]
  · rw [Bool.not_eq_true] at h
    obtain ⟨e, he⟩ := parser_of_other J t h
    simp [onMessage, he, h, Except.isOk, Except.toBool]

theorem onDeliverData_eq_some_iff (data : JString) (moduleObj : Option JSONObject) :
    onDeliverData J mModuleMap data = some moduleObj ↔
      ∃ json, J.ofText data = some json ∧
        J.optString json CommonJSONConstant.MODULE ∈ mModuleMap ∧
        optJSONObject json CommonJSONConstant.MODULE_OBJ = moduleObj := by
  unfold onDeliverData JsonParser.parse
  cases h : J.ofText data with
  | none => simp
  | some json =>
      by_cases hm : J.optString json CommonJSONConstant.MODULE ∈ mModuleMap <;> simp [hm]

theorem deliveryThrows_iff {throws : Option JSONObject → Bool} {bad : JSONObject → Prop}
    (hnone : throws none = false)
    (hsome : ∀ obj, throws (some obj) = true ↔
      t.equalsIgnoreCase PHONE (some (J.optString obj PhoneJSONConstant.MODULE)) = false ∨ bad obj)
    (data : JString) :
    deliveryThrows J mModuleMap throws data = true ↔ Fatal J t mModuleMap bad data := by
  unfold deliveryThrows Fatal
  cases h : onDeliverData J mModuleMap data with
  | none =>
      simp only [Bool.false_eq_true, false_iff]
      rintro ⟨json, obj, hjson, hmem, hobj, -⟩
      have hhanded := (onDeliverData_eq_some_iff J mModuleMap data (some obj)).mpr
        ⟨json, hjson, hmem, hobj⟩
      rw [h] at hhanded
      cases hhanded
  | some moduleObj =>
      obtain ⟨json, hjson, hmem, rfl⟩ := (onDeliverData_eq_some_iff J mModuleMap data _).mp h
      cases hobj : optJSONObject json CommonJSONConstant.MODULE_OBJ with
      | none => simp [hnone, hjson, hobj]
      | some obj =>
          rw [hsome]
          constructor
          · intro hbad
            exact ⟨json, obj, hjson, hmem, hobj, hbad⟩
          · rintro ⟨json', obj', hjson', -, hobj', hbad⟩
            obtain rfl := Option.some.inj (hjson.symm.trans hjson')
            obtain rfl := Option.some.inj (hobj.symm.trans hobj')
            exact hbad

theorem Server.deliveryThrows_iff (s : Server) (data : JString) :
    s.deliveryThrows J t mModuleMap data = true ↔ Fatal J t mModuleMap (Answers J) data :=
  Collaboration.deliveryThrows_iff J t mModuleMap rfl
    (fun obj => by rw [Bool.not_eq_true', CollaborationService.onMessage_throws_iff]) data

theorem Client.deliveryThrows_iff (l : PhoneMsgListener) (data : JString) :
    Client.deliveryThrows J t mModuleMap l data = true ↔
      Fatal J t mModuleMap (fun _ => False) data :=
  Collaboration.deliveryThrows_iff J t mModuleMap rfl
    (fun obj => by rw [Bool.not_eq_true', PhoneMsgListener.onMessage_throws_iff, or_false]) data

/-! ## The read loops -/

/-- The loop of a server connection goes on, with nothing else changed. -/
def Server.GoesOn (s : Server) (c : ℕ) (u : Server) : Prop :=
  u.connections c = { s.connections c with pc := .testing }

instance (s : Server) (c : ℕ) (u : Server) : Decidable (s.GoesOn c u) :=
  inferInstanceAs (Decidable (_ = _))

/-- The loop of a client thread goes on, with nothing else changed. -/
def Client.GoesOn (s : Client) (n : ℕ) (u : Client) : Prop :=
  u.threads n = { s.threads n with pc := .testing } ∧ u.mNetWorkInfo = s.mNetWorkInfo

theorem Server.goesOn_iff {cfg : Config} {s u : Server} {c : ℕ} {data : JString} {throws : Bool}
    (hl : cfg.mConnectionListener = true)
    (h : s.step cfg (.read c (.string data) throws) = some u) :
    s.GoesOn c u ↔ throws = false := by
  cases Server.steps_of_step h with | read _ hstream
  cases throws with
  | false => simp [Server.GoesOn, Server.onNewDataReceived, Config.handsOver, hl, Server.setPc,
      Server.setConnection]
  | true =>
      refine iff_of_false (fun hgo => ?_) (by simp)
      have hclosed := congrArg ServerConnection.mObjectInputStream hgo
      simp [Server.onNewDataReceived, Config.handsOver, hl, ServerConnection.failReading,
        ServerConnection.releaseServerSocket, hstream] at hclosed

theorem Client.goesOn_iff {cfg : ClientConfig} {s u : Client} {n : ℕ} {data : JString}
    {throws : Bool} (hl : cfg.mConnectionListener = true)
    (h : s.step cfg (.read n (.string data) throws) = some u) :
    s.GoesOn n u ↔ throws = false := by
  cases Client.steps_of_step h with | read
  cases throws with
  | false => simp [Client.GoesOn, Client.receive, Client.onNewDataReceived, Config.handsOver, hl,
      Client.setPc, Client.setThread]
  | true =>
      simp [Client.GoesOn, Client.receive, Client.onNewDataReceived, Config.handsOver, hl,
        Client.setPc, Client.setThread]

/-- A string that is read on a connection leaves its loop running if and only if it is not
fatal: it is handed to the listener once or dropped, whatever it contains. -/
theorem string_goesOn_iff (serverCfg : Config) (clientCfg : ClientConfig)
    (hserver : serverCfg.mConnectionListener = true)
    (hclient : clientCfg.mConnectionListener = true) (l : PhoneMsgListener) (data : JString) :
    (∀ (s u : Server) c,
      s.step serverCfg (.read c (.string data) (s.deliveryThrows J t mModuleMap data)) = some u →
        (s.GoesOn c u ↔ ¬ Fatal J t mModuleMap (Answers J) data)) ∧
    (∀ (s u : Client) n,
      s.step clientCfg (.read n (.string data) (Client.deliveryThrows J t mModuleMap l data)) =
        some u → (s.GoesOn n u ↔ ¬ Fatal J t mModuleMap (fun _ => False) data)) := by
  constructor
  · intro s u c h
    rw [Server.goesOn_iff hserver h, ← Server.deliveryThrows_iff J t mModuleMap s, Bool.not_eq_true]
  · intro s u n h
    rw [Client.goesOn_iff hclient h, ← Client.deliveryThrows_iff J t mModuleMap l,
      Bool.not_eq_true]

/-! ## Runs -/

/-- A server whose only client was let in and is being read from. -/
def connectedServer : Server :=
  (exec (Server.step (.connectionImpl none true)) (.init (.connectionImpl none true) fun _ => true)
    (Server.oneClient ++ Server.approve 0 ++ [.connection 0 .test])).get (by decide)

/-- The report of an incoming call goes to the listener, and the loop goes on. -/
theorem string_goesOn_iff_incomingCall :
    connectedServer.GoesOn 0 ((connectedServer.step (.connectionImpl none true)
      (.read 0 (.string incomingCallText) (connectedServer.deliveryThrows incomingCallJson .ascii
        [PHONE] incomingCallText))).get (by decide)) := by
  refine ((string_goesOn_iff incomingCallJson .ascii [PHONE] (.connectionImpl none true)
    (.connectionImpl none none) rfl rfl ⟨[], false, []⟩ _).1 _ _ 0 (Option.some_get _).symm).mpr ?_
  rintro ⟨json, obj, hjson, -, hobj, hbad⟩
  obtain rfl := Option.some.inj ((OrgJson.only_ofText incomingCallText _).symm.trans hjson)
  obtain rfl := Option.some.inj ((optJSONObject_of_object rfl).symm.trans hobj)
  unfold Answers at hbad
  revert hbad
  decide

/-- A phone message with an empty module object. -/
def emptyModuleObj : JSONObject :=
  (JSONObject.empty.put CommonJSONConstant.MODULE (some (.string PHONE))).put
    CommonJSONConstant.MODULE_OBJ (some (.object JSONObject.empty))

def emptyModuleObjText : JString :=
  JString.lit "\x7b\"Module\":\"Phone\",\"ModuleObj\":\x7b\x7d\x7d"

def emptyModuleObjJson : OrgJson := .only emptyModuleObjText emptyModuleObj

/-- The message ends the connection on which it was read. -/
theorem emptyModuleObj_ends_connection :
    ¬ ∀ data u, connectedServer.step (.connectionImpl none true)
        (.read 0 (.string data)
          (connectedServer.deliveryThrows emptyModuleObjJson .ascii [PHONE] data)) = some u →
      connectedServer.GoesOn 0 u := by
  intro h
  have hfatal : Fatal emptyModuleObjJson .ascii [PHONE] (Answers emptyModuleObjJson)
      emptyModuleObjText :=
    ⟨emptyModuleObj, JSONObject.empty, OrgJson.only_inverts emptyModuleObjText _, by decide, rfl,
      .inl (by decide)⟩
  have hgo := h emptyModuleObjText
  rw [(Server.deliveryThrows_iff _ _ _ connectedServer _).mpr hfatal] at hgo
  obtain ⟨u, hstep⟩ := Option.isSome_iff_exists.mp
    (show (connectedServer.step (.connectionImpl none true)
      (.read 0 (.string emptyModuleObjText) true)).isSome = true by decide)
  exact absurd ((Server.goesOn_iff rfl hstep).mp (hgo u hstep)) (by simp)

end Collaboration
