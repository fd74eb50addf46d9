import Collaboration.Phone.Handler
import Collaboration.Library.Transition

/-! # The reports of the telephony callbacks

The server reports every callback, the reports arrive in order, and the client's handler takes
each through two stages. The text of a report is left out: `onDeliverData_phoneEnvelope` gives
the client the object that the server packed. -/

namespace Collaboration

open Transition InCallUIService

/-- A call of `onCallStateChanged`. -/
structure Callback where
  state : PhoneState
  incomingNumber : Option JString
  deriving DecidableEq, Repr

namespace Callback

/-- The number as the client reads it. -/
def number (cb : Callback) : JString := cb.incomingNumber.getD []

/-- The report as the client reads it. -/
def report (cb : Callback) : PhoneJson :=
  (CollaborationService.phoneJson cb.state.value cb.incomingNumber).readBack

def dataObj (cb : Callback) : JSONObject :=
  CollaborationService.packPhoneJson cb.state.value cb.incomingNumber

/-- The message that the handler posts to itself for the report. -/
def secondStage (cb : Callback) : HandlerMessage :=
  match cb.state with
  | .IDLE => .idleCall cb.report
  | .RINGING => .incomingCall cb.report
  | .OFFHOOK => .activeCall cb.report

def callState (cb : Callback) : Call.State :=
  match cb.state with
  | .IDLE => .IDLE
  | .RINGING => .INCOMING
  | .OFFHOOK => .ACTIVE

/-- The callbacks after the last one with `CALL_STATE_IDLE`, the latest first. -/
def sinceIdle (cbs : List Callback) : List Callback :=
  cbs.reverse.takeWhile (·.state ≠ .IDLE)

theorem sinceIdle_concat (cbs : List Callback) (cb : Callback) :
    sinceIdle (cbs ++ [cb]) = if cb.state = .IDLE then [] else cb :: sinceIdle cbs := by
  simp only [sinceIdle, List.reverse_append, List.reverse_cons, List.reverse_nil, List.nil_append,
    List.singleton_append, List.takeWhile_cons]
  by_cases h : cb.state = .IDLE <;> simp [h]

@[simp] theorem report_Serailno (cb : Callback) : cb.report.Serailno = some cb.number := rfl

@[simp] theorem isDevolveEvent_secondStage (cb : Callback) :
    cb.secondStage.isDevolveEvent = false := by
  obtain ⟨state, incomingNumber⟩ := cb
  cases state <;> rfl

theorem isIdleCall_secondStage_iff (cb : Callback) :
    cb.secondStage.isIdleCall = true ↔ cb.state = .IDLE := by
  cases hstate : cb.state <;> simp [secondStage, hstate, HandlerMessage.isIdleCall]

theorem handleDevolveMsg_report (s : InCallUIService) (cb : Callback) :
    s.handleDevolveMsg (some cb.report) = s.updateState cb.secondStage cb.callState := by
  obtain ⟨state, incomingNumber⟩ := cb
  cases state <;> rfl

end Callback

def CollaborationService.Order.dataToClient : Order → Option JSONObject
  | .sendDataToClient jsonObj => some jsonObj
  | _ => none

/-! ## The system -/

structure CallReports where
  callbacks : List Callback
  /-- the reports on their way to the client -/
  transit : List JSONObject
  ui : InCallUIService
  /-- history: how many reports the handler has been through with -/
  handled : ℕ
  crashed : Bool

namespace CallReports

inductive Label where
  | onCallStateChanged (cb : Callback)
  /-- the next report reaches the listener of the client -/
  | deliver
  | onServiceConnected
  | handleMessage
  | onClick (v : ℕ) (button : Button) (remoteIp : Option JString) (channel : Int32)
      (codecs : List JString)
  deriving DecidableEq, Repr

/-- Before the first call; the phone listener of the client is registered. -/
def init : CallReports := ⟨[], [], .new .new, 0, false⟩

def finish (s : CallReports) : Option InCallUIService → CallReports
  | some ui => { s with ui := ui }
  | none => { s with crashed := true }

def onCallStateChanged (s : CallReports) (cb : Callback) : CallReports :=
  { s with
    callbacks := s.callbacks ++ [cb]
    transit := s.transit ++
      (CollaborationService.onCallStateChanged cb.state.value cb.incomingNumber).filterMap
        (·.dataToClient) }

def handleMessage (s : CallReports) (message : HandlerMessage) (messages : List HandlerMessage) :
    CallReports :=
  { s with handled := if message.isDevolveEvent then s.handled else s.handled + 1 }.finish
    ({ s.ui with messages := messages }.handleMessage message)

def step (J : OrgJson) (t : JString.CaseTable) (s : CallReports) (l : Label) :
    Option CallReports :=
  if s.crashed then none
  else match l with
    | .onCallStateChanged cb => some (s.onCallStateChanged cb)
    | .deliver =>
      match s.transit with
      | [] => none
      | dataObj :: transit =>
        some { s with transit := transit, ui := s.ui.onPhoneMessage J t (some dataObj) }
    | .onServiceConnected =>
      if s.ui.bound then some { s with ui := s.ui.onServiceConnected } else none
    | .handleMessage =>
      match s.ui.messages with
      | [] => none
      | message :: messages => some (s.handleMessage message messages)
    | .onClick v button remoteIp channel codecs =>
      if v ∈ s.ui.attached then
        some (s.finish (s.ui.onClick v button remoteIp channel codecs))
      else none

/-! ## Where the reports are -/

/-- The reports that the handler is not through with, in their order: those in the second and
in the first stage, those that wait for a handler, those on their way. -/
structure Pending (s : CallReports) (second first waiting travelling : List Callback) : Prop where
  order : s.callbacks.drop s.handled = second ++ first ++ waiting ++ travelling
  second : s.ui.messages.filter (!·.isDevolveEvent) = second.map (·.secondStage)
  first : s.ui.messages.filter (·.isDevolveEvent) =
    first.map fun cb => .devolveEvent (some cb.report)
  waiting : s.ui.mPhoneListener.jsonList = waiting.map fun cb => some cb.report
  travelling : s.transit = travelling.map (·.dataObj)

structure Invariant (s : CallReports) : Prop where
  not_crashed : s.crashed = false
  wellFormed : s.ui.WellFormed
  pending : ∃ second first waiting travelling, s.Pending second first waiting travelling
  handled_le : s.handled ≤ s.callbacks.length
  /-- a second stage finds a call state to show -/
  text : ∀ message ∈ s.ui.messages, message.isDevolveEvent = false →
    (stateText s.ui.mCallState).isSome = true
  /-- without a handler nothing has happened yet -/
  unset : s.ui.mPhoneListener.mHandler = false →
    s.ui = { new s.ui.mPhoneListener with started := s.ui.started, bound := s.ui.bound }

/-- The calls of the client are those that rang since the last idle report. -/
def CallsRang (s : CallReports) : Prop :=
  ∀ k, k ∈ s.ui.mCallManager.mCallMap ↔
    ∃ cb ∈ Callback.sinceIdle (s.callbacks.take s.handled),
      cb.state = .RINGING ∧ some cb.number = k

variable {J : OrgJson} {t : JString.CaseTable} {s u : CallReports}

theorem invariant_init : Invariant init where
  not_crashed := rfl
  wellFormed := wellFormed_new _
  pending := ⟨[], [], [], [], rfl, rfl, rfl, rfl, rfl⟩
  handled_le := Nat.le_refl 0
  text := fun _ h => absurd h (List.not_mem_nil)
  unset := fun _ => rfl

theorem callsRang_init : CallsRang init := by
  intro k
  simp [init, InCallUIService.new, Callback.sinceIdle]

/-! ## The invariant -/

theorem parser_dataObj (cb : Callback) : parser J t (some cb.dataObj) = .ok (some cb.report) :=
  parser_phoneJson J t rfl

@[simp] theorem filter_posted (posted : List (Option PhoneJson)) :
    (posted.map HandlerMessage.devolveEvent).filter (·.isDevolveEvent) =
      posted.map .devolveEvent := by
  simp [List.filter_map, Function.comp_def]

@[simp] theorem filter_not_posted (posted : List (Option PhoneJson)) :
    (posted.map HandlerMessage.devolveEvent).filter (!·.isDevolveEvent) = [] := by
  simp [List.filter_map, Function.comp_def]

theorem transit_onCallStateChanged (cb : Callback) :
    (CollaborationService.onCallStateChanged cb.state.value cb.incomingNumber).filterMap
      (·.dataToClient) = [cb.dataObj] := by
  obtain ⟨state, incomingNumber⟩ := cb
  cases state <;> rfl

theorem Invariant.sound (h : Invariant s) : s.ui.Sound := ⟨h.wellFormed, h.text, h.unset⟩

theorem Invariant.onCallStateChanged (h : Invariant s) (cb : Callback) :
    Invariant (s.onCallStateChanged cb) := by
  obtain ⟨second, first, waiting, travelling, hp⟩ := h.pending
  refine ⟨h.not_crashed, h.wellFormed, ⟨second, first, waiting, travelling ++ [cb], ?_⟩, ?_,
    h.text, h.unset⟩
  · refine ⟨?_, hp.second, hp.first, hp.waiting, ?_⟩
    · simp [CallReports.onCallStateChanged, List.drop_append_of_le_length h.handled_le, hp.order]
    · rw [CallReports.onCallStateChanged, transit_onCallStateChanged, hp.travelling]
      simp
  · exact Nat.le_trans h.handled_le (by simp [CallReports.onCallStateChanged])

/-- The next report reaches the listener and, with a handler, the queue. -/
theorem Invariant.deliver (h : Invariant s) {dataObj : JSONObject} {transit : List JSONObject}
    (htransit : s.transit = dataObj :: transit) :
    Invariant { s with
      transit := transit
      ui := s.ui.onPhoneMessage J t (some dataObj) } := by
  obtain ⟨second, first, waiting, travelling, hp⟩ := h.pending
  obtain _ | ⟨cb, travelling⟩ := travelling
  · simp [hp.travelling] at htransit
  · obtain ⟨rfl, rfl⟩ := List.cons.inj (hp.travelling.symm.trans htransit)
    have hsound := h.sound.onPhoneMessage (J := J) (t := t) (some cb.dataObj)
    cases hset : s.ui.mPhoneListener.mHandler with
    | true =>
        rw [onPhoneMessage_of_handler (parser_dataObj cb) hset] at hsound ⊢
        refine ⟨h.not_crashed, hsound.wellFormed,
          ⟨second, first ++ waiting ++ [cb], [], travelling, ?_⟩, h.handled_le, hsound.text,
          hsound.unset⟩
        refine ⟨by simp [hp.order], ?_, ?_, rfl, rfl⟩
        · rw [List.filter_append, hp.second, filter_not_posted, List.append_nil]
        · rw [List.filter_append, hp.first, filter_posted, hp.waiting]
          simp
    | false =>
        obtain ⟨bound, heq⟩ :=
          onPhoneMessage_of_unset (J := J) (t := t) (parser_dataObj cb) hset h.unset
        rw [heq] at hsound ⊢
        have hmessages : s.ui.messages = [] := by rw [h.unset hset]; rfl
        refine ⟨h.not_crashed, hsound.wellFormed, ⟨second, first, waiting ++ [cb], travelling, ?_⟩,
          h.handled_le, hsound.text, hsound.unset⟩
        refine ⟨by simp [hp.order], ?_, ?_, ?_, rfl⟩
        · rw [← hp.second, hmessages]
          rfl
        · rw [← hp.first, hmessages]
          rfl
        · simp [new, hp.waiting]

theorem Invariant.onServiceConnected (h : Invariant s) :
    Invariant { s with ui := s.ui.onServiceConnected } := by
  obtain ⟨second, first, waiting, travelling, hp⟩ := h.pending
  have hsound := h.sound.onServiceConnected
  rw [onServiceConnected_eq] at hsound ⊢
  refine ⟨h.not_crashed, hsound.wellFormed, ⟨second, first ++ waiting, [], travelling, ?_⟩,
    h.handled_le, hsound.text, hsound.unset⟩
  refine ⟨by simp [hp.order], ?_, ?_, rfl, hp.travelling⟩
  · rw [List.filter_append, hp.second, filter_not_posted, List.append_nil]
  · rw [List.filter_append, hp.first, filter_posted, hp.waiting]
    simp

/-- The first stage posts the second one behind everything that is in the queue. -/
theorem Invariant.devolveEvent (h : Invariant s) {obj : Option PhoneJson}
    {messages : List HandlerMessage} (hm : s.ui.messages = .devolveEvent obj :: messages) :
    Invariant (s.handleMessage (.devolveEvent obj) messages) ∧
      (s.handleMessage (.devolveEvent obj) messages).ui.mCallManager = s.ui.mCallManager := by
  obtain ⟨second, first, waiting, travelling, hp⟩ := h.pending
  have hfirst := hp.first
  have hsecond := hp.second
  simp only [hm, List.filter_cons, HandlerMessage.isDevolveEvent_devolveEvent, if_true] at hfirst
  simp only [hm, List.filter_cons, HandlerMessage.isDevolveEvent_devolveEvent, Bool.not_true,
    Bool.false_eq_true, if_false] at hsecond
  obtain _ | ⟨cb, first⟩ := first
  · cases hfirst
  · obtain ⟨hobj, hrest⟩ := List.cons.inj hfirst
    obtain rfl := HandlerMessage.devolveEvent.inj hobj
    have hsound := h.sound.devolveEvent hm
    have heq : s.handleMessage (.devolveEvent (some cb.report)) messages =
        { s with ui :=
          { s.ui with
            messages := messages ++ [cb.secondStage]
            mCallState := some cb.callState } } := by
      simp only [CallReports.handleMessage, InCallUIService.handleMessage,
        Callback.handleDevolveMsg_report]
      rfl
    rw [Callback.handleDevolveMsg_report] at hsound
    rw [heq]
    refine ⟨⟨h.not_crashed, hsound.wellFormed,
      ⟨second ++ [cb], first, waiting, travelling, ?_⟩, h.handled_le, hsound.text,
      hsound.unset⟩, rfl⟩
    refine ⟨by simp [hp.order], ?_, ?_, hp.waiting, hp.travelling⟩
    · rw [List.filter_append, List.map_append]
      exact congrArg₂ _ hsecond (by simp)
    · rw [List.filter_append]
      simpa using hrest

/-- The message of the second stage is that of the first report that is not handled. -/
theorem Invariant.next_report (h : Invariant s) {message : HandlerMessage}
    {messages : List HandlerMessage} (hm : s.ui.messages = message :: messages)
    (hsecond : message.isDevolveEvent = false) :
    ∃ cb, s.callbacks[s.handled]? = some cb ∧ message = cb.secondStage ∧
      ∀ ui : InCallUIService, ui.WellFormed → { s.ui with messages := messages }.Quiet ui →
        Invariant { s with ui := ui, handled := s.handled + 1 } := by
  obtain ⟨second, first, waiting, travelling, hp⟩ := h.pending
  have hfirst := hp.first
  have hfilter := hp.second
  simp only [hm, List.filter_cons, hsecond, Bool.false_eq_true, if_false] at hfirst
  simp only [hm, List.filter_cons, hsecond, Bool.not_false, if_true] at hfilter
  obtain _ | ⟨cb, second⟩ := second
  · cases hfilter
  · obtain ⟨hmessage, hrest⟩ := List.cons.inj hfilter
    have hnext : s.callbacks[s.handled]? = some cb := by
      rw [← List.head?_drop, hp.order]
      rfl
    refine ⟨cb, hnext, hmessage, fun ui hwf hquiet => ?_⟩
    have hsound := h.sound.of_quiet (hm ▸ List.subset_cons_self _ _)
      (h.sound.handler_of_mem (hm ▸ List.mem_cons_self)) hwf hquiet
    refine ⟨h.not_crashed, hwf, ⟨second, first, waiting, travelling, ?_⟩,
      (List.getElem?_eq_some_iff.mp hnext).1, hsound.text, hsound.unset⟩
    refine ⟨?_, ?_, ?_, ?_, hp.travelling⟩
    · rw [← List.tail_drop, hp.order]
      rfl
    · rw [hquiet.messages]
      exact hrest
    · rw [hquiet.messages]
      exact hfirst
    · rw [hquiet.mPhoneListener]
      exact hp.waiting

/-- What the second stage of a report does to the calls. -/
def AfterReport (cb : Callback) (before after : CallManager PhoneJson) : Prop :=
  ∀ k, k ∈ after.mCallMap ↔
    match cb.state with
    | .IDLE => k ≠ some cb.number ∧ k ∈ before.mCallMap
    | .RINGING => k = some cb.number ∨ k ∈ before.mCallMap
    | .OFFHOOK => k ∈ before.mCallMap

theorem Invariant.secondStage (h : Invariant s) {message : HandlerMessage}
    {messages : List HandlerMessage} (hm : s.ui.messages = message :: messages)
    (hsecond : message.isDevolveEvent = false) :
    ∃ cb ui, s.callbacks[s.handled]? = some cb ∧ message = cb.secondStage ∧
      s.handleMessage message messages = { s with ui := ui, handled := s.handled + 1 } ∧
      Invariant { s with ui := ui, handled := s.handled + 1 } ∧
      AfterReport cb s.ui.mCallManager ui.mCallManager ∧
      (cb.state = .IDLE → ui.mCallManager.getCallsCount = 0 →
        ui.mAudioManager.voERunning = false) := by
  obtain ⟨cb, hnext, hmessage, hinv⟩ := h.next_report hm hsecond
  have hwf : { s.ui with messages := messages }.WellFormed :=
    h.wellFormed.withOthers _ _ _ _ _ _ _ _
  have htext := h.text message (hm ▸ List.mem_cons_self) hsecond
  have hdone : ∀ ui, { s.ui with messages := messages }.handleMessage message = some ui →
      s.handleMessage message messages = { s with ui := ui, handled := s.handled + 1 } := by
    intro ui hui
    simp [CallReports.handleMessage, hui, hsecond, finish]
  obtain rfl := hmessage
  cases hstate : cb.state with
  | IDLE =>
      have hmsg : cb.secondStage = .idleCall cb.report := by simp [Callback.secondStage, hstate]
      obtain ⟨ui, hui, hwf', hquiet, hcalls, haudio⟩ := idleCall_spec hwf cb.report
      refine ⟨cb, ui, hnext, rfl, hdone ui ?_, hinv ui hwf' hquiet, ?_, fun _ => haudio⟩
      · rw [hmsg]
        exact hui
      · simpa [AfterReport, hstate] using hcalls
  | RINGING =>
      have hmsg : cb.secondStage = .incomingCall cb.report := by
        simp [Callback.secondStage, hstate]
      obtain ⟨ui, hui, hwf', hquiet, hcalls⟩ := incomingCall_spec hwf htext cb.report
      refine ⟨cb, ui, hnext, rfl, hdone ui ?_, hinv ui hwf' hquiet, ?_, ?_⟩
      · rw [hmsg]
        exact hui
      · simpa [AfterReport, hstate] using hcalls
      · simp [hstate]
  | OFFHOOK =>
      have hmsg : cb.secondStage = .activeCall cb.report := by simp [Callback.secondStage, hstate]
      obtain ⟨ui, hui, hwf', hquiet, hcalls⟩ := activeCall_spec hwf htext
      refine ⟨cb, ui, hnext, rfl, hdone ui ?_, hinv ui hwf' hquiet, ?_, ?_⟩
      · rw [hmsg]
        exact hui
      · simp [AfterReport, hstate, hcalls]
      · simp [hstate]

theorem Invariant.onClick (h : Invariant s) {v : ℕ} (hv : v ∈ s.ui.attached) (button : Button)
    (remoteIp : Option JString) (channel : Int32) (codecs : List JString) :
    ∃ ui, s.finish (s.ui.onClick v button remoteIp channel codecs) = { s with ui := ui } ∧
      Invariant { s with ui := ui } ∧ ui.mCallManager = s.ui.mCallManager := by
  obtain ⟨ui, hui, hwf, hquiet, hcalls⟩ :=
    onClick_spec h.wellFormed hv button remoteIp channel codecs
  refine ⟨ui, by rw [hui]; rfl, ?_, hcalls⟩
  have hsound := h.sound.of_quiet (List.Subset.refl _) (h.sound.handler_of_attached hv) hwf hquiet
  obtain ⟨second, first, waiting, travelling, hp⟩ := h.pending
  refine ⟨h.not_crashed, hwf, ⟨second, first, waiting, travelling, ?_⟩, h.handled_le,
    hsound.text, hsound.unset⟩
  refine ⟨hp.order, ?_, ?_, ?_, hp.travelling⟩
  · rw [hquiet.messages]
    exact hp.second
  · rw [hquiet.messages]
    exact hp.first
  · rw [hquiet.mPhoneListener]
    exact hp.waiting

end CallReports

end Collaboration
