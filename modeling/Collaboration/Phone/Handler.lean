import Collaboration.Phone.Windows

/-! # The queue of the handler

What the listener posts and what the two stages leave of the service: a second stage always
finds a text to show and its window in place, and nothing has happened while no handler was set. -/

namespace Collaboration

/-- The state that the first stage of a report sets. -/
def HandlerMessage.callState : HandlerMessage → Option Call.State
  | .devolveEvent (some p) =>
    match Call.numToState p.CallType with
    | .IDLE => some .IDLE
    | .INCOMING => some .INCOMING
    | .ACTIVE => some .ACTIVE
    | _ => none
  | _ => none

/-- The state of the report in a second stage. -/
def HandlerMessage.reported : HandlerMessage → Option Call.State
  | .devolveEvent _ => none
  | .idleCall p | .incomingCall p | .activeCall p => some (Call.numToState p.CallType)

@[simp] theorem HandlerMessage.isDevolveEvent_devolveEvent (obj : Option PhoneJson) :
    (HandlerMessage.devolveEvent obj).isDevolveEvent = true := rfl

namespace InCallUIService

/-- Without a handler nothing has happened yet. -/
def Unset (s : InCallUIService) : Prop :=
  s.mPhoneListener.mHandler = false →
    s = { new s.mPhoneListener with started := s.started, bound := s.bound }

structure Sound (s : InCallUIService) : Prop where
  wellFormed : s.WellFormed
  /-- a second stage finds a call state to show -/
  text : ∀ message ∈ s.messages, message.isDevolveEvent = false →
    (stateText s.mCallState).isSome = true
  unset : Unset s

variable {J : OrgJson} {t : JString.CaseTable} {s u : InCallUIService}

/-! ## What the listener posts -/

theorem post_of_append (s : InCallUIService) {listener : PhoneMsgListener}
    {posted : List (Option PhoneJson)} (h : listener.sent = s.mPhoneListener.sent ++ posted) :
    s.post listener =
      { s with
        mPhoneListener := listener
        messages := s.messages ++ posted.map .devolveEvent } := by
  simp [post, h]

theorem post_of_sent (s : InCallUIService) {listener : PhoneMsgListener}
    (h : listener.sent = s.mPhoneListener.sent) :
    s.post listener = { s with mPhoneListener := listener } := by
  simp [post, h]

theorem mem_of_posted {messages : List HandlerMessage} {posted : List (Option PhoneJson)}
    {message : HandlerMessage} (h : message ∈ messages ++ posted.map .devolveEvent)
    (hsecond : message.isDevolveEvent = false) : message ∈ messages := by
  rcases List.mem_append.mp h with h | h
  · exact h
  · obtain ⟨obj, -, rfl⟩ := List.mem_map.mp h
    simp at hsecond

section Parsed

variable {dataObj : Option JSONObject} {phoneJsonObj : Option PhoneJson}
  (hparse : parser J t dataObj = .ok phoneJsonObj)

include hparse

/-- With a handler everything in `jsonList` is posted. -/
theorem onPhoneMessage_of_handler (h : s.mPhoneListener.mHandler = true) :
    s.onPhoneMessage J t dataObj =
      { s with
        mPhoneListener :=
          { s.mPhoneListener with
            jsonList := []
            sent := s.mPhoneListener.sent ++ (s.mPhoneListener.jsonList ++ [phoneJsonObj]) }
        messages := s.messages ++
          (s.mPhoneListener.jsonList ++ [phoneJsonObj]).map .devolveEvent } := by
  simp only [onPhoneMessage, PhoneMsgListener.onMessage, hparse, h, if_true]
  exact post_of_append s rfl

/-- Without a handler the message waits, and the service is started. -/
theorem onPhoneMessage_of_unset (h : s.mPhoneListener.mHandler = false) (hunset : Unset s) :
    ∃ bound, s.onPhoneMessage J t dataObj =
      { new { s.mPhoneListener with
          jsonList := s.mPhoneListener.jsonList ++ [phoneJsonObj] } with
        started := true
        bound := bound } := by
  have hstart : ∃ bound, s.startService =
      { new s.mPhoneListener with started := true, bound := bound } := by
    unfold startService
    split
    · rename_i hstarted
      exact ⟨s.bound, by rw [← hstarted]; exact hunset h⟩
    · exact ⟨true, rfl⟩
  obtain ⟨bound, hstart⟩ := hstart
  refine ⟨bound, ?_⟩
  simp only [onPhoneMessage, PhoneMsgListener.onMessage, hparse, h, Bool.false_eq_true, if_false,
    hstart]
  refine (post_of_sent _ ?_).trans ?_ <;> rfl

end Parsed

/-- A message is posted to the handler, or waits for one and starts the service. -/
theorem onPhoneMessage_eq (h : Unset s) (dataObj : Option JSONObject) :
    ∃ started bound listener, ∃ posted : List (Option PhoneJson),
      s.onPhoneMessage J t dataObj =
        { s with
          started := started
          bound := bound
          mPhoneListener := listener
          messages := s.messages ++ posted.map .devolveEvent } ∧
      listener.mHandler = s.mPhoneListener.mHandler ∧
      (s.mPhoneListener.mHandler = true → bound = s.bound ∧ started = s.started) ∧
      (s.mPhoneListener.mHandler = false → posted = []) := by
  cases hparse : parser J t dataObj with
  | error e =>
      refine ⟨s.started, s.bound, s.mPhoneListener, [], ?_, rfl, fun _ => ⟨rfl, rfl⟩,
        fun _ => rfl⟩
      simp [onPhoneMessage, PhoneMsgListener.onMessage, hparse]
  | ok phoneJsonObj =>
      cases hset : s.mPhoneListener.mHandler with
      | true =>
          exact ⟨s.started, s.bound, _, _, onPhoneMessage_of_handler hparse hset, hset,
            fun _ => ⟨rfl, rfl⟩, by simp⟩
      | false =>
          obtain ⟨bound, heq⟩ := onPhoneMessage_of_unset hparse hset h
          refine ⟨true, bound, { s.mPhoneListener with
            jsonList := s.mPhoneListener.jsonList ++ [phoneJsonObj] }, [], heq.trans ?_, hset,
            by simp, fun _ => rfl⟩
          rw [h hset]
          simp [new]

theorem onServiceConnected_eq (s : InCallUIService) :
    s.onServiceConnected =
      { s with
        mControlService := true
        mPhoneListener := s.mPhoneListener.setHandler true
        messages := s.messages ++ s.mPhoneListener.jsonList.map .devolveEvent } :=
  post_of_append { s with mControlService := true } rfl

theorem setHandler_true_mHandler (l : PhoneMsgListener) : (l.setHandler true).mHandler = true := by
  simp [PhoneMsgListener.setHandler, PhoneMsgListener.deliverMsg]

/-! ## The first stage -/

/-- The first stage of a report sets a state and posts the second stage, unless there is nothing
to do for the state of the report. -/
theorem handleDevolveMsg_cases (s : InCallUIService) (obj : Option PhoneJson) :
    (HandlerMessage.devolveEvent obj).callState = none ∧ s.handleDevolveMsg obj = s ∨
    ∃ message state, (HandlerMessage.devolveEvent obj).callState = some state ∧
      message.reported = some state ∧ (stateText (some state)).isSome = true ∧
      s.handleDevolveMsg obj = s.updateState message state := by
  cases obj with
  | none => exact .inl ⟨rfl, rfl⟩
  | some p =>
      cases hstate : Call.numToState p.CallType with
      | IDLE =>
          exact .inr ⟨.idleCall p, .IDLE, by simp [HandlerMessage.callState, hstate],
            congrArg some hstate, rfl, by simp [handleDevolveMsg, hstate]⟩
      | INCOMING =>
          exact .inr ⟨.incomingCall p, .INCOMING, by simp [HandlerMessage.callState, hstate],
            congrArg some hstate, rfl, by simp [handleDevolveMsg, hstate]⟩
      | ACTIVE =>
          exact .inr ⟨.activeCall p, .ACTIVE, by simp [HandlerMessage.callState, hstate],
            congrArg some hstate, rfl, by simp [handleDevolveMsg, hstate]⟩
      | HOLDING | DIALING | ALERTING | WAITING | DISCONNECTED | DISCONNECTING =>
          exact .inl ⟨by simp [HandlerMessage.callState, hstate],
            by simp [handleDevolveMsg, hstate]⟩

/-! ## What stays sound -/

namespace Sound

theorem new (l : PhoneMsgListener) : Sound (.new l) where
  wellFormed := wellFormed_new l
  text := fun _ h => absurd h List.not_mem_nil
  unset := fun _ => rfl

theorem handler_of_mem (h : Sound s) {message : HandlerMessage} (hm : message ∈ s.messages) :
    s.mPhoneListener.mHandler = true := by
  by_contra hset
  rw [Bool.not_eq_true] at hset
  have hempty : s.messages = [] := by rw [h.unset hset]; rfl
  simp [hempty] at hm

theorem handler_of_attached (h : Sound s) {v : ℕ} (hv : v ∈ s.attached) :
    s.mPhoneListener.mHandler = true := by
  by_contra hset
  rw [Bool.not_eq_true] at hset
  have hempty : s.attached = [] := by rw [h.unset hset]; rfl
  simp [hempty] at hv

theorem onPhoneMessage (h : Sound s) (dataObj : Option JSONObject) :
    Sound (s.onPhoneMessage J t dataObj) := by
  obtain ⟨started, bound, listener, posted, heq, hlistener, -, hunset⟩ :=
    onPhoneMessage_eq (J := J) (t := t) h.unset dataObj
  rw [heq]
  refine ⟨h.wellFormed.withOthers _ _ _ _ _ _ _ _,
    fun message hmem hsecond => h.text message (mem_of_posted hmem hsecond) hsecond, ?_⟩
  intro hhandler
  have hold : s.mPhoneListener.mHandler = false := hlistener.symm.trans hhandler
  rw [hunset hold, h.unset hold]
  rfl

theorem onServiceConnected (h : Sound s) : Sound s.onServiceConnected := by
  rw [onServiceConnected_eq]
  refine ⟨h.wellFormed.withOthers _ _ _ _ _ _ _ _,
    fun message hmem hsecond => h.text message (mem_of_posted hmem hsecond) hsecond, ?_⟩
  intro hhandler
  rw [setHandler_true_mHandler] at hhandler
  cases hhandler

/-- The first stage posts the second one with a state that has a text. -/
theorem devolveEvent (h : Sound s) {obj : Option PhoneJson} {messages : List HandlerMessage}
    (hm : s.messages = .devolveEvent obj :: messages) :
    Sound ({ s with messages := messages }.handleDevolveMsg obj) := by
  have hset : s.mPhoneListener.mHandler = true := h.handler_of_mem (hm ▸ List.mem_cons_self)
  have hunset : ∀ P : Prop, s.mPhoneListener.mHandler = false → P := by simp [hset]
  have hwf : WellFormed { s with messages := messages } := h.wellFormed.withOthers _ _ _ _ _ _ _ _
  obtain ⟨-, heq⟩ | ⟨message, state, -, -, htext, heq⟩ :=
    handleDevolveMsg_cases { s with messages := messages } obj
  · rw [heq]
    refine ⟨hwf, fun message hmem hsecond => ?_, hunset _⟩
    exact h.text message (hm ▸ List.mem_cons_of_mem _ hmem) hsecond
  · rw [heq]
    exact ⟨hwf.withOthers _ _ _ _ _ _ _ _, fun _ _ _ => htext, hunset _⟩

/-- A message is handled or a button clicked, with nothing new in the queue. -/
theorem of_quiet (h : Sound s) {messages : List HandlerMessage} (hsub : messages ⊆ s.messages)
    (hset : s.mPhoneListener.mHandler = true) (hwf : u.WellFormed)
    (hquiet : Quiet { s with messages := messages } u) : Sound u where
  wellFormed := hwf
  text := by
    intro message hmem hsecond
    rw [hquiet.messages] at hmem
    rw [hquiet.mCallState]
    exact h.text message (hsub hmem) hsecond
  unset := by
    intro hunset
    rw [hquiet.mPhoneListener, hset] at hunset
    cases hunset

end Sound

end InCallUIService

end Collaboration
