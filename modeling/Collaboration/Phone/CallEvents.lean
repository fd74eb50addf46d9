import Collaboration.Library.Transition
import Collaboration.Phone.Handler
import Collaboration.Phone.WindowEffects

/-! # The events of the call windows

Messages of any kind reach the phone listener, the main thread works the handler's queue off,
and the user clicks on the windows that are shown. -/

namespace Collaboration

open Transition InCallUIService

structure CallEvents where
  ui : InCallUIService
  crashed : Bool

namespace CallEvents

inductive Label where
  /-- a message for the phone listener -/
  | onMessage (dataObj : Option JSONObject)
  | onServiceConnected
  | handleMessage
  | onClick (v : ℕ) (button : Button) (remoteIp : Option JString) (channel : Int32)
      (codecs : List JString)

/-- Before the first message; the phone listener of the client is registered. -/
def init : CallEvents := ⟨.new .new, false⟩

def finish (s : CallEvents) : Option InCallUIService → CallEvents
  | some ui => { s with ui := ui }
  | none => { s with crashed := true }

def step (J : OrgJson) (t : JString.CaseTable) (s : CallEvents) (l : Label) : Option CallEvents :=
  if s.crashed then none
  else match l with
    | .onMessage dataObj => some { s with ui := s.ui.onPhoneMessage J t dataObj }
    | .onServiceConnected =>
      if s.ui.bound then some { s with ui := s.ui.onServiceConnected } else none
    | .handleMessage =>
      match s.ui.messages with
      | [] => none
      | message :: messages =>
        some (s.finish ({ s.ui with messages := messages }.handleMessage message))
    | .onClick v button remoteIp channel codecs =>
      if v ∈ s.ui.attached then
        some (s.finish (s.ui.onClick v button remoteIp channel codecs))
      else none

variable {J : OrgJson} {t : JString.CaseTable} {s u : CallEvents}

inductive Steps (J : OrgJson) (t : JString.CaseTable) (s : CallEvents) :
    Label → CallEvents → Prop where
  | onMessage (dataObj : Option JSONObject) :
      Steps J t s (.onMessage dataObj) { s with ui := s.ui.onPhoneMessage J t dataObj }
  | onServiceConnected (hbound : s.ui.bound = true) :
      Steps J t s .onServiceConnected { s with ui := s.ui.onServiceConnected }
  | handleMessage {message messages} (hmessages : s.ui.messages = message :: messages) :
      Steps J t s .handleMessage
        (s.finish ({ s.ui with messages := messages }.handleMessage message))
  | onClick {v : ℕ} (hv : v ∈ s.ui.attached) (button : Button) (remoteIp : Option JString)
      (channel : Int32) (codecs : List JString) :
      Steps J t s (.onClick v button remoteIp channel codecs)
        (s.finish (s.ui.onClick v button remoteIp channel codecs))

theorem steps_of_step {l : Label} (h : s.step J t l = some u) : Steps J t s l u := by
  unfold step at h
  split at h
  · cases h
  · cases l with
    | onMessage dataObj =>
        obtain rfl := Option.some.inj h
        exact .onMessage dataObj
    | onServiceConnected =>
        simp only [Option.ite_none_right_eq_some, Option.some.injEq] at h
        obtain ⟨hbound, rfl⟩ := h
        exact .onServiceConnected hbound
    | handleMessage =>
        simp only at h
        split at h
        · cases h
        · rename_i hmessages
          obtain rfl := Option.some.inj h
          exact .handleMessage hmessages
    | onClick v button remoteIp channel codecs =>
        simp only [Option.ite_none_right_eq_some, Option.some.injEq] at h
        obtain ⟨hv, rfl⟩ := h
        exact .onClick hv button remoteIp channel codecs

/-! ## What reaches the queue -/

/-- The listener posts, which concerns neither calls nor windows. -/
def Posts (s u : InCallUIService) : Prop :=
  ∃ started bound mControlService mPhoneListener, ∃ posted : List (Option PhoneJson),
    u = { s with
      started := started
      bound := bound
      mControlService := mControlService
      mPhoneListener := mPhoneListener
      messages := s.messages ++ posted.map .devolveEvent }

/-! ## The invariant -/

structure Invariant (s : CallEvents) : Prop where
  not_crashed : s.crashed = false
  sound : s.ui.Sound
  carries : ∀ k p, s.ui.mCallManager.mCallMap.lookup k = some p → p.Serailno = k
  connected : s.ui.mControlService = true →
    s.ui.bound = true ∧ s.ui.mPhoneListener.mHandler = true

theorem Invariant.wellFormed (h : Invariant s) : s.ui.WellFormed := h.sound.wellFormed

/-- The service with the rest of the queue. -/
abbrev taken (s : CallEvents) (messages : List HandlerMessage) : InCallUIService :=
  { s.ui with messages := messages }

/-- What a step does under the invariant. -/
inductive Effect (s : CallEvents) : Label → CallEvents → Prop where
  | onMessage {dataObj ui} (h : Posts s.ui ui) : Effect s (.onMessage dataObj) ⟨ui, false⟩
  | onServiceConnected {ui} (h : Posts s.ui ui) : Effect s .onServiceConnected ⟨ui, false⟩
  | devolveEvent {obj messages} (hm : s.ui.messages = .devolveEvent obj :: messages) :
      Effect s .handleMessage ⟨(s.taken messages).handleDevolveMsg obj, false⟩
  | idleCall {p messages ui} (hm : s.ui.messages = .idleCall p :: messages)
      (hquiet : Quiet (s.taken messages) ui)
      (hdismisses : Dismisses s.ui p.Serailno ui)
      (hcalls : ui.mCallManager = s.ui.mCallManager.removeCall p.Serailno)
      (hstops : ui.mCallManager.getCallsCount = 0 → ui.started = false) :
      Effect s .handleMessage ⟨ui, false⟩
  | incomingCall {p messages ui} (hm : s.ui.messages = .incomingCall p :: messages)
      (hquiet : Quiet (s.taken messages) ui) (hrings : Rings s.ui p ui) :
      Effect s .handleMessage ⟨ui, false⟩
  | activeCall {p messages ui} (hm : s.ui.messages = .activeCall p :: messages)
      (hquiet : Quiet (s.taken messages) ui) (hactive : (s.taken messages).activeCall = some ui) :
      Effect s .handleMessage ⟨ui, false⟩
  | accept {v remoteIp channel codecs ui} (hv : v ∈ s.ui.attached) (hquiet : Quiet s.ui ui)
      (hwindows : SameWindows { s.ui with mIsAnsweredByme := true } ui)
      (hcalls : ui.mCallManager = s.ui.mCallManager) :
      Effect s (.onClick v .btn_accept remoteIp channel codecs) ⟨ui, false⟩
  | dismiss {v button remoteIp channel codecs ui} (hv : v ∈ s.ui.attached)
      (hbutton : button ≠ .btn_accept) (hquiet : Quiet s.ui ui)
      (hdismisses : Dismisses s.ui (s.ui.views v).mSerialNo ui)
      (hcalls : ui.mCallManager = s.ui.mCallManager) :
      Effect s (.onClick v button remoteIp channel codecs) ⟨ui, false⟩

theorem invariant_init : Invariant init where
  not_crashed := rfl
  sound := .new _
  carries := by simp [init, InCallUIService.new, CallManager.new]
  connected := by simp [init, InCallUIService.new]

namespace Invariant

theorem wellFormed_taken (h : Invariant s) (messages : List HandlerMessage) :
    (s.taken messages).WellFormed :=
  h.wellFormed.withOthers _ _ _ _ _ _ _ _

/-- A message is handled or a button clicked, with nothing new in the queue. -/
theorem of_quiet (h : Invariant s) {messages : List HandlerMessage} {ui : InCallUIService}
    (hsub : messages ⊆ s.ui.messages) (hset : s.ui.mPhoneListener.mHandler = true)
    (hwf : ui.WellFormed) (hquiet : Quiet (s.taken messages) ui)
    (hbinding : SameBinding (s.taken messages) ui)
    (hcarries : ∀ k p, ui.mCallManager.mCallMap.lookup k = some p → p.Serailno = k) :
    Invariant ⟨ui, false⟩ where
  not_crashed := rfl
  sound := h.sound.of_quiet hsub hset hwf hquiet
  carries := hcarries
  connected := by
    intro hconnected
    rw [hbinding.mControlService] at hconnected
    rw [hbinding.bound, hquiet.mPhoneListener]
    exact h.connected hconnected

theorem devolveEvent (h : Invariant s) {obj : Option PhoneJson} {messages : List HandlerMessage}
    (hm : s.ui.messages = .devolveEvent obj :: messages) :
    Invariant ⟨(s.taken messages).handleDevolveMsg obj, false⟩ := by
  have hsound := h.sound.devolveEvent hm
  obtain ⟨-, heq⟩ | ⟨message, state, -, -, -, heq⟩ :=
    handleDevolveMsg_cases (s.taken messages) obj
  · rw [heq] at hsound ⊢
    exact ⟨rfl, hsound, h.carries, h.connected⟩
  · rw [heq] at hsound ⊢
    exact ⟨rfl, hsound, h.carries, h.connected⟩

theorem onMessage (h : Invariant s) (dataObj : Option JSONObject) :
    Posts s.ui (s.ui.onPhoneMessage J t dataObj) ∧
      Invariant ⟨s.ui.onPhoneMessage J t dataObj, false⟩ := by
  have hsound := h.sound.onPhoneMessage (J := J) (t := t) dataObj
  obtain ⟨started, bound, listener, posted, heq, hlistener, hset, -⟩ :=
    onPhoneMessage_eq (J := J) (t := t) h.sound.unset dataObj
  rw [heq] at hsound ⊢
  refine ⟨⟨started, bound, s.ui.mControlService, listener, posted, rfl⟩, rfl, hsound, h.carries, ?_⟩
  intro hconnected
  obtain ⟨hbound, hhandler⟩ := h.connected hconnected
  exact ⟨(hset hhandler).1.trans hbound, hlistener.trans hhandler⟩

theorem onServiceConnected (h : Invariant s) (hbound : s.ui.bound = true) :
    Posts s.ui s.ui.onServiceConnected ∧ Invariant ⟨s.ui.onServiceConnected, false⟩ := by
  have hsound := h.sound.onServiceConnected
  rw [onServiceConnected_eq] at hsound ⊢
  exact ⟨⟨s.ui.started, s.ui.bound, true, _, s.ui.mPhoneListener.jsonList, rfl⟩, rfl, hsound,
    h.carries, fun _ => ⟨hbound, setHandler_true_mHandler _⟩⟩

/-- The second stage of a report. -/
theorem secondStage (h : Invariant s) {message : HandlerMessage}
    {messages : List HandlerMessage} (hm : s.ui.messages = message :: messages)
    (hsecond : message.isDevolveEvent = false) :
    ∃ ui, (s.taken messages).handleMessage message = some ui ∧
      Effect s .handleMessage ⟨ui, false⟩ ∧ Invariant ⟨ui, false⟩ := by
  have hset : s.ui.mPhoneListener.mHandler = true :=
    h.sound.handler_of_mem (hm ▸ List.mem_cons_self)
  have hsub : messages ⊆ s.ui.messages := hm ▸ List.subset_cons_self _ _
  have hwf := h.wellFormed_taken messages
  have htext := h.sound.text message (hm ▸ List.mem_cons_self) hsecond
  cases message with
  | devolveEvent => cases hsecond
  | idleCall p =>
      obtain ⟨ui, hui, hwf', hquiet, -⟩ := idleCall_spec hwf p
      obtain ⟨hdismisses, hcalls, hstops⟩ := idleCall_dismisses hwf hui
      refine ⟨ui, hui, .idleCall hm hquiet hdismisses.of_messages hcalls hstops,
        h.of_quiet hsub hset hwf' hquiet hdismisses.binding fun k q hq => ?_⟩
      rw [hcalls] at hq
      exact h.carries k q (CallManager.lookup_removeCall.mp hq).2
  | incomingCall p =>
      obtain ⟨ui, hui, hwf', hquiet, -⟩ := incomingCall_spec hwf htext p
      have hrings := incomingCall_rings hwf hui
      refine ⟨ui, hui, .incomingCall hm hquiet hrings.of_messages,
        h.of_quiet hsub hset hwf' hquiet hrings.binding fun k q hq => ?_⟩
      rw [hrings.mCallManager] at hq
      obtain ⟨rfl, rfl⟩ | ⟨-, hq⟩ := CallManager.lookup_addCall.mp hq
      · rfl
      · exact h.carries k q hq
  | activeCall p =>
      obtain ⟨ui, hui, hwf', hquiet, hcalls⟩ := activeCall_spec hwf htext
      refine ⟨ui, hui, .activeCall hm hquiet hui, h.of_quiet hsub hset hwf' hquiet ?_ ?_⟩
      · obtain ⟨-, rfl⟩ | ⟨v, text, -, -, -, rfl⟩ := activeCall_cases hui <;> exact ⟨rfl, rfl⟩
      · rw [hcalls]
        exact h.carries

theorem onClick (h : Invariant s) {v : ℕ} (hv : v ∈ s.ui.attached) (button : Button)
    (remoteIp : Option JString) (channel : Int32) (codecs : List JString) :
    ∃ ui, s.ui.onClick v button remoteIp channel codecs = some ui ∧
      Effect s (.onClick v button remoteIp channel codecs) ⟨ui, false⟩ ∧
      Invariant ⟨ui, false⟩ := by
  obtain ⟨ui, hui, hwf, hquiet, hcalls⟩ :=
    onClick_spec h.wellFormed hv button remoteIp channel codecs
  have hset := h.sound.handler_of_attached hv
  have hcarries : ∀ k p, ui.mCallManager.mCallMap.lookup k = some p → p.Serailno = k :=
    hcalls ▸ h.carries
  refine ⟨ui, hui, ?_⟩
  by_cases hbutton : button = .btn_accept
  · subst hbutton
    have hwindows := onClick_accepts hui
    exact ⟨.accept hv hquiet hwindows hcalls, h.of_quiet (List.Subset.refl _) hset hwf hquiet
      ⟨hwindows.binding.bound, hwindows.binding.mControlService⟩ hcarries⟩
  · have hdismisses := (onClick_dismisses h.wellFormed hv hbutton hui).1
    exact ⟨.dismiss hv hbutton hquiet hdismisses hcalls,
      h.of_quiet (List.Subset.refl _) hset hwf hquiet hdismisses.binding hcarries⟩

end Invariant

theorem effect_of_step (h : Invariant s) {l : Label} (hs : s.step J t l = some u) :
    Effect s l u ∧ Invariant u := by
  cases steps_of_step hs with
  | onMessage dataObj =>
      obtain ⟨hposts, hinv⟩ := h.onMessage (J := J) (t := t) dataObj
      rw [h.not_crashed]
      exact ⟨.onMessage hposts, hinv⟩
  | onServiceConnected hbound =>
      obtain ⟨hposts, hinv⟩ := h.onServiceConnected hbound
      rw [h.not_crashed]
      exact ⟨.onServiceConnected hposts, hinv⟩
  | @handleMessage message messages hmessages =>
      cases hsecond : message.isDevolveEvent with
      | true =>
          cases message with
          | devolveEvent obj =>
              simp only [InCallUIService.handleMessage, finish, h.not_crashed]
              exact ⟨.devolveEvent hmessages, h.devolveEvent hmessages⟩
          | idleCall | incomingCall | activeCall => cases hsecond
      | false =>
          obtain ⟨ui, hui, heffect, hinv⟩ := h.secondStage hmessages hsecond
          rw [hui]
          simp only [finish, h.not_crashed]
          exact ⟨heffect, hinv⟩
  | onClick hv button remoteIp channel codecs =>
      obtain ⟨ui, hui, heffect, hinv⟩ := h.onClick hv button remoteIp channel codecs
      rw [hui]
      simp only [finish, h.not_crashed]
      exact ⟨heffect, hinv⟩

end CallEvents

end Collaboration
