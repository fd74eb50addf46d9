import Collaboration.Phone.AudioManager
import Collaboration.Phone.CallManager
import Collaboration.Phone.Messages

/-! # The call windows of the client

`InCallUIService` with its handler, whose queue it also posts to, its call manager and its
windows. A view stands for its `FloatViewHolder` and for the parent view in it. What an
operation throws ends the process: such an operation is `none`. -/

namespace Collaboration

/-- The texts `R.string.call_state_…`. -/
inductive CallStateText where
  | idle | incoming | active | holding
  deriving DecidableEq, Repr

/-- A message of `mHandler` with its `obj`. -/
inductive HandlerMessage where
  | devolveEvent (obj : Option PhoneJson)
  | idleCall (obj : PhoneJson)
  | incomingCall (obj : PhoneJson)
  | activeCall (obj : PhoneJson)
  deriving DecidableEq, Repr

def HandlerMessage.isDevolveEvent : HandlerMessage → Bool
  | .devolveEvent _ => true
  | _ => false

def HandlerMessage.isIdleCall : HandlerMessage → Bool
  | .idleCall _ => true
  | _ => false

def HandlerMessage.isActiveCall : HandlerMessage → Bool
  | .activeCall _ => true
  | _ => false

theorem HandlerMessage.isDevolveEvent_of_isIdleCall {message : HandlerMessage}
    (h : message.isIdleCall = true) : message.isDevolveEvent = false := by
  cases message with
  | idleCall => rfl
  | devolveEvent | incomingCall | activeCall => cases h

structure FloatViewHolder where
  mSerialNo : Option JString
  x : Int32
  y : Int32
  mCallInfo_tv : Option JString
  mTimerView : JString
  mCallStatusView : Option CallStateText
  /-- whether the layout and the button are visible -/
  mAnswerCallLayout : Bool
  mEndCallBtn : Bool
  deriving DecidableEq, Repr

inductive Button where
  | btn_accept | btn_reject | btn_endcall | btn_ignore
  deriving DecidableEq, Repr

/-- `InCallUIService`, with the queue of its handler and the listener it sets the handler at. -/
structure InCallUIService where
  /-- the service was started and has not stopped itself -/
  started : Bool
  /-- `unbindService` was not called since `bindService` -/
  bound : Bool
  mControlService : Bool
  mPhoneListener : PhoneMsgListener
  messages : List HandlerMessage
  mCallManager : CallManager PhoneJson
  mAudioManager : AudioManager
  mFloatViewHolder : Option ℕ
  mIsAnsweredByme : Bool
  mCallState : Option Call.State
  mFloatViewMap : AList fun _ : Option JString => ℕ
  views : ℕ → FloatViewHolder
  createdViews : ℕ
  /-- the views that the window manager shows -/
  attached : List ℕ
  /-- what was passed to `sendData` -/
  sentData : List JSONObject

namespace InCallUIService

/-- An instance before `onCreate`. -/
def new (mPhoneListener : PhoneMsgListener) : InCallUIService where
  started := false
  bound := false
  mControlService := false
  mPhoneListener := mPhoneListener
  messages := []
  mCallManager := .new
  mAudioManager := .new
  mFloatViewHolder := none
  mIsAnsweredByme := false
  mCallState := none
  mFloatViewMap := ∅
  views _ := ⟨none, 0, 0, none, [], none, true, false⟩
  createdViews := 0
  attached := []
  sentData := []

/-- `getResources().getString(Utils.stateToString(state))`; there is no text for `-1`. -/
def stateText : Option Call.State → Option CallStateText
  | some .IDLE => some .idle
  | some .INCOMING => some .incoming
  | some .ACTIVE => some .active
  | some .HOLDING => some .holding
  | _ => none

variable (s : InCallUIService)

/-! ## The listener and the handler -/

/-- The listener has posted what it newly says it has sent. -/
def post (listener : PhoneMsgListener) : InCallUIService :=
  { s with
    mPhoneListener := listener
    messages := s.messages ++
      (listener.sent.drop s.mPhoneListener.sent.length).map .devolveEvent }

/-- `startService`: `onCreate` of a new instance unless one is running. -/
def startService : InCallUIService :=
  if s.started then s
  else { new s.mPhoneListener with started := true, bound := true }

/-- A message for the phone listener; it starts the service while no handler is set. -/
def onPhoneMessage (J : OrgJson) (t : JString.CaseTable) (dataObj : Option JSONObject) :
    InCallUIService :=
  match s.mPhoneListener.onMessage J t dataObj with
  | .error _ => s
  | .ok listener => (if listener.mHandler then s else s.startService).post listener

def onServiceConnected : InCallUIService :=
  { s with mControlService := true }.post (s.mPhoneListener.setHandler true)

def updateState (message : HandlerMessage) (state : Call.State) : InCallUIService :=
  { s with messages := s.messages ++ [message], mCallState := some state }

def handleDevolveMsg : Option PhoneJson → InCallUIService
  | none => s
  | some phoneJsonObj =>
    match Call.numToState phoneJsonObj.CallType with
    | .IDLE => s.updateState (.idleCall phoneJsonObj) .IDLE
    | .INCOMING => s.updateState (.incomingCall phoneJsonObj) .INCOMING
    | .ACTIVE => s.updateState (.activeCall phoneJsonObj) .ACTIVE
    | _ => s

/-! ## The windows -/

def updateView (v : ℕ) (f : FloatViewHolder → FloatViewHolder) : InCallUIService :=
  { s with views := Function.update s.views v (f (s.views v)) }

/-- `createFloatView` with the entry of `mFloatViewMap` and `mFloatViewHolder` set to it. -/
def createFloatView (x y : Int32) (serialNo : Option JString) : InCallUIService :=
  { s with
    mFloatViewHolder := some s.createdViews
    mFloatViewMap := s.mFloatViewMap.insert serialNo s.createdViews
    views := Function.update s.views s.createdViews
      ⟨serialNo, x, y, none, [], none, true, false⟩
    createdViews := s.createdViews + 1
    attached := s.attached ++ [s.createdViews] }

/-- `removeView`; the view has to be attached. -/
def removeView (v : ℕ) : Option InCallUIService :=
  if v ∈ s.attached then some { s with attached := s.attached.erase v } else none

/-- `setHandler(null)` and `unbindService`; the service has to be bound. -/
def releaseControlService : Option InCallUIService :=
  if s.bound then some { s.post (s.mPhoneListener.setHandler false) with bound := false }
  else none

def dismissFloatUI (rootView : ℕ) (ss : Option JString) : Option InCallUIService := do
  let s ← { s with mFloatViewMap := s.mFloatViewMap.erase ss }.removeView rootView
  let s ← if s.mControlService ∧ s.mCallManager.getCallsCount = 0 then s.releaseControlService
    else some s
  return { s with mIsAnsweredByme := false }

/-- Only the entry of the view itself has the string object of its listener as key. -/
def updateOtherFloat (serialNo : Option JString) (text : CallStateText) : InCallUIService :=
  s.mFloatViewMap.entries.foldl
    (fun s e => if e.1 = serialNo then s
      else s.updateView e.2 fun holder => { holder with mCallStatusView := some text }) s

/-! ## Audio -/

/-- `startAudio`, given the remote IP of the client's network information and what
`VoE_CreateChannel` and `VoE_GetCodecs` return. -/
def startAudio (remoteIp : Option JString) (channel : Int32) (codecs : List JString) :
    InCallUIService :=
  let remoteIP := if s.mControlService then remoteIp else some []
  { s with
    mAudioManager := ((s.mAudioManager.setRemoteIP remoteIP).startVoiceEngine channel codecs).1 }

def stopAudio : InCallUIService :=
  { s with mAudioManager := s.mAudioManager.stopVoiceEngine.1 }

/-! ## The messages of the handler -/

def clearInCallUI : Option InCallUIService :=
  if s.mCallManager.getCallsCount = 0 then
    (s.mCallManager.removeAll PhoneJson.Serailno).map fun mCallManager =>
      { { s with mCallManager := mCallManager }.stopAudio with started := false }
  else some s

/-- The window of a call is dismissed if there is one. -/
def dismissCall (serialNum : Option JString) : Option InCallUIService :=
  match s.mFloatViewMap.lookup serialNum with
  | some mParentView => s.dismissFloatUI mParentView serialNum
  | none => some s

def idleCall (phoneJsonidle : PhoneJson) : Option InCallUIService := do
  let s ← s.dismissCall phoneJsonidle.Serailno
  { s with mCallManager := s.mCallManager.removeCall phoneJsonidle.Serailno }.clearInCallUI

/-- The `FloatViewHolder` of the call, which is created where there is none. -/
def floatView (serialNo : Option JString) : InCallUIService :=
  match s.mFloatViewMap.lookup serialNo with
  | some holder => { s with mFloatViewHolder := some holder }
  | none => s.createFloatView 5 (if s.mCallManager.getCallsCount = 0 then 10 else 300) serialNo

def incomingCall (phoneJson : PhoneJson) : Option InCallUIService := do
  let serialNo := phoneJson.Serailno
  let s := s.floatView serialNo
  let holder ← s.mFloatViewHolder
  let text ← stateText s.mCallState
  let s := s.updateView holder fun h =>
    { h with mCallInfo_tv := phoneJson.Number, mCallStatusView := some text }
  return { s with mCallManager := s.mCallManager.addCall serialNo phoneJson }

def activeCall : Option InCallUIService :=
  if s.mIsAnsweredByme then do
    let holder ← s.mFloatViewHolder
    let text ← stateText s.mCallState
    return s.updateView holder fun h =>
      { h with
        mAnswerCallLayout := false
        mEndCallBtn := true
        mTimerView := JString.lit "0:06"
        mCallStatusView := some text }
  else some s

def handleMessage : HandlerMessage → Option InCallUIService
  | .devolveEvent obj => some (s.handleDevolveMsg obj)
  | .idleCall obj => s.idleCall obj
  | .incomingCall obj => s.incomingCall obj
  | .activeCall _ => s.activeCall

/-! ## The buttons -/

def sendData (callState : Call.State) (serialNo : Option JString) : InCallUIService :=
  { s with sentData := s.sentData ++ [packPhoneJson callState serialNo] }

def acceptCall (serialNo : Option JString) (remoteIp : Option JString) (channel : Int32)
    (codecs : List JString) : InCallUIService :=
  ({ s with mIsAnsweredByme := true }.sendData .ACTIVE serialNo).startAudio remoteIp channel codecs

def rejectCall (serialNo : Option JString) : InCallUIService := s.sendData .DISCONNECTING serialNo

/-- `onClick` of the buttons of a view. -/
def onClick (v : ℕ) (button : Button) (remoteIp : Option JString) (channel : Int32)
    (codecs : List JString) : Option InCallUIService :=
  let mSerialNo := (s.views v).mSerialNo
  match button with
  | .btn_accept =>
    some ((s.acceptCall mSerialNo remoteIp channel codecs).updateOtherFloat mSerialNo .holding)
  | .btn_endcall | .btn_reject =>
    ((s.rejectCall mSerialNo).dismissFloatUI v mSerialNo).map
      (·.updateOtherFloat mSerialNo .active)
  | .btn_ignore => s.dismissFloatUI v mSerialNo

end InCallUIService

end Collaboration
