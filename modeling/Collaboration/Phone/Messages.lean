import Collaboration.Protocol.Handling

/-! # The phone messages of both sides

What the server makes of a telephony callback and of an order of the client, and the
messages in which both are written. -/

namespace Collaboration

namespace Call

def stateToNum : State → Int32
  | .IDLE => 0
  | .ACTIVE => 1
  | .HOLDING => 2
  | .DIALING => 3
  | .ALERTING => 4
  | .INCOMING => 5
  | .WAITING => 6
  | .DISCONNECTED => 7
  | .DISCONNECTING => 8

@[simp] theorem numToState_stateToNum (s : State) : numToState (stateToNum s) = s := by
  cases s <;> rfl

end Call

/-- `ApplicationManager.sendData`, the same on both sides: the text that is handed to
`sendDataToTarget`. -/
def sendData (J : OrgJson) (t : JString.CaseTable) (module : JString)
    (upLevelJsonObj : JSONObject) : Except JavaException JString :=
  JsonPacker.packToJson J t (CommonJson.new.setModule (some module)) (some upLevelJsonObj)

/-! ## The server -/

/-- The values `TelephonyManager.CALL_STATE_…` of the state in a telephony callback. -/
inductive PhoneState where
  | IDLE
  | RINGING
  | OFFHOOK
  deriving DecidableEq, Repr

def PhoneState.value : PhoneState → Int32
  | .IDLE => 0
  | .RINGING => 1
  | .OFFHOOK => 2

namespace CollaborationService

/-- What `CollaborationService` orders, in the order of the source. -/
inductive Order where
  | sendDataToClient (jsonObj : JSONObject)
  | setRemoteIP (remoteIP : Option JString)
  | prepareAudio
  | startAudio
  | stopAudio
  | answerCall
  | endCall

def Order.isSendDataToClient : Order → Bool
  | .sendDataToClient _ => true
  | _ => false

def stateFromPhoneToCall (phoneState : Int32) : Int32 :=
  Call.stateToNum <|
    if PhoneState.IDLE.value = phoneState then .IDLE
    else if PhoneState.RINGING.value = phoneState then .INCOMING
    else if PhoneState.OFFHOOK.value = phoneState then .ACTIVE
    else .IDLE

/-- The message of `packPhoneJson`, whose serial number is the number of the callback. -/
def phoneJson (callState : Int32) (incomingNumber : Option JString) : PhoneJson :=
  { PhoneJson.new with
    CallType := stateFromPhoneToCall callState
    Number := incomingNumber
    Serailno := incomingNumber }

def packPhoneJson (callState : Int32) (incomingNumber : Option JString) : JSONObject :=
  getPhoneJsonObject (phoneJson callState incomingNumber)

def onCallStateChanged (state : Int32) (incomingNumber : Option JString) : List Order :=
  match state.toInt with
  | 0 => [.sendDataToClient (packPhoneJson state incomingNumber), .stopAudio]
  | 1 | 2 => [.sendDataToClient (packPhoneJson state incomingNumber)]
  | _ => []

/-- The orders of `onMessage`. -/
def orders : Option PhoneAction → List Order
  | some (.answerCall remoteIP) =>
    [.setRemoteIP remoteIP, .prepareAudio, .startAudio, .answerCall]
  | some .endCall => [.endCall, .stopAudio]
  | none => []

end CollaborationService

/-! ## The client -/

/-- The message of `InCallUIService.packPhoneJson`. -/
def InCallUIService.phoneJson (callState : Call.State) (serialNo : Option JString) : PhoneJson :=
  { PhoneJson.new with
    CallType := Call.stateToNum callState
    Serailno := serialNo }

def InCallUIService.packPhoneJson (callState : Call.State) (serialNo : Option JString) :
    JSONObject :=
  getPhoneJsonObject (phoneJson callState serialNo)

/-! ## What the other side reads -/

variable (J : OrgJson) (t : JString.CaseTable)

theorem equalsIgnoreCase_self (s : JString) : t.equalsIgnoreCase s (some s) = true := by
  have hunits : ∀ s : JString, (s.zip s).all fun p => t.sameUnit p.1 p.2 := by
    intro s
    induction s with
    | nil => rfl
    | cons u s ih => simpa [JString.CaseTable.sameUnit] using ih
  simpa [JString.CaseTable.equalsIgnoreCase] using hunits s

/-- The object whose text is sent for a phone message. -/
def phoneEnvelope (p : PhoneJson) : JSONObject :=
  JsonPacker.envelope phoneCommonJson (some (getPhoneJsonObject p))

theorem sendData_phoneJson {p : PhoneJson} (h : p.Module = some PHONE) :
    sendData J t PHONE (getPhoneJsonObject p) = .ok (J.toText (phoneEnvelope p)) :=
  packToJson_getPhoneJsonObject J t (h ▸ equalsIgnoreCase_self t PHONE)

/-- A message that keeps the module of the constructor reaches the listener of that module. -/
theorem onDeliverData_phoneEnvelope {p : PhoneJson} {mModuleMap : List JString} {text : JString}
    (hphone : PHONE ∈ mModuleMap) (htext : J.ofText text = some (phoneEnvelope p)) :
    onDeliverData J mModuleMap text = some (some (getPhoneJsonObject p)) := by
  rw [onDeliverData, parse_envelope J htext]
  exact if_pos hphone

theorem parser_phoneJson {p : PhoneJson} (h : p.Module = some PHONE) :
    parser J t (some (getPhoneJsonObject p)) = .ok (some p.readBack) :=
  parser_getPhoneJsonObject J t (h ▸ equalsIgnoreCase_self t PHONE)

end Collaboration
