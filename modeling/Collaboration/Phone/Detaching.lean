import Collaboration.Phone.CallEvents

/-! # The end of the last call

The handler is released only by the dismissal of a window, and only if there is no call. But
every window belongs to a call, which is removed after its window, so the service stops with
its handler registered. -/

namespace Collaboration.CallEvents

open Transition InCallUIService

/-- When the last call has been removed after the service was bound, the handler is cleared and
the binding released. -/
def Detaches (s : CallEvents) (_ : Label) (u : CallEvents) : Prop :=
  s.ui.mControlService = true → s.ui.mCallManager.getCallsCount ≠ 0 →
    u.ui.mCallManager.getCallsCount = 0 →
      u.ui.mPhoneListener.mHandler = false ∧ u.ui.bound = false

instance (s : CallEvents) (l : Label) (u : CallEvents) : Decidable (Detaches s l u) :=
  inferInstanceAs (Decidable (_ → _))

/-- The second stage of an idle report for the only call, after the service was bound. -/
def EndsLastCall (s : CallEvents) (l : Label) : Prop :=
  l = .handleMessage ∧ s.ui.mControlService = true ∧ s.ui.mCallManager.getCallsCount = 1 ∧
    ∃ p, s.ui.messages.head? = some (.idleCall p) ∧ p.Serailno ∈ s.ui.mCallManager.mCallMap

/-- The service has stopped itself and stays registered and bound: the next message is posted to
the handler and starts nothing. -/
structure Lingers (J : OrgJson) (t : JString.CaseTable) (ui : InCallUIService) : Prop where
  stopped : ui.started = false
  mHandler : ui.mPhoneListener.mHandler = true
  bound : ui.bound = true
  next : ∀ dataObj obj, parser J t dataObj = .ok obj →
    (ui.onPhoneMessage J t dataObj).started = false ∧
      .devolveEvent obj ∈ (ui.onPhoneMessage J t dataObj).messages

variable {J : OrgJson} {t : JString.CaseTable} {s u : CallEvents}

theorem lingers_of_handler {ui : InCallUIService} (hstopped : ui.started = false)
    (hhandler : ui.mPhoneListener.mHandler = true) (hbound : ui.bound = true) :
    Lingers J t ui where
  stopped := hstopped
  mHandler := hhandler
  bound := hbound
  next := by
    intro dataObj obj hparse
    rw [onPhoneMessage_of_handler hparse hhandler]
    exact ⟨hstopped, by simp⟩

theorem handleDevolveMsg_mCallManager (ui : InCallUIService) (obj : Option PhoneJson) :
    (ui.handleDevolveMsg obj).mCallManager = ui.mCallManager := by
  obtain ⟨-, heq⟩ | ⟨message, state, -, -, -, heq⟩ := handleDevolveMsg_cases ui obj <;> rw [heq]
  rfl

/-- Only an idle report takes the last call away. -/
theorem endsLastCall_of_removed (h : Invariant s) {l : Label} (hs : s.step J t l = some u)
    (hconnected : s.ui.mControlService = true) (hcount : s.ui.mCallManager.getCallsCount ≠ 0)
    (hzero : u.ui.mCallManager.getCallsCount = 0) : EndsLastCall s l := by
  obtain ⟨heffect, -⟩ := effect_of_step h hs
  cases heffect with
  | onMessage hposts | onServiceConnected hposts =>
      obtain ⟨_, _, _, _, _, rfl⟩ := hposts
      exact absurd hzero hcount
  | @devolveEvent obj messages hm =>
      have hsame := handleDevolveMsg_mCallManager (s.taken messages) obj
      exact absurd (hsame ▸ hzero) hcount
  | @idleCall p messages ui hm hquiet hdismisses hcalls =>
      simp only [hcalls] at hzero
      by_cases hmem : p.Serailno ∈ s.ui.mCallManager.mCallMap
      · rw [CallManager.getCallsCount_removeCall, if_pos hmem] at hzero
        exact ⟨rfl, hconnected, by omega, p, by simp [hm], hmem⟩
      · rw [CallManager.getCallsCount_removeCall, if_neg hmem] at hzero
        exact absurd hzero hcount
  | @incomingCall p messages ui hm hquiet hrings =>
      have hmem : p.Serailno ∈ ui.mCallManager.mCallMap := by
        rw [hrings.mCallManager]
        exact CallManager.mem_addCall.mpr (.inl rfl)
      exact absurd hzero (CallManager.getCallsCount_ne_zero hmem)
  | @activeCall p messages ui hm hquiet hactive =>
      obtain ⟨-, rfl⟩ | ⟨v, text, -, -, -, rfl⟩ := activeCall_cases hactive <;>
        exact absurd hzero hcount
  | accept hv hquiet hwindows hcalls | dismiss hv hbutton hquiet hdismisses hcalls =>
      exact absurd (hcalls ▸ hzero) hcount

/-- After the last call the service lingers. -/
theorem lingers_of_endsLastCall (h : Invariant s) {l : Label} (hs : s.step J t l = some u)
    (hends : EndsLastCall s l) :
    Lingers J t u.ui ∧ u.ui.mCallManager.getCallsCount = 0 := by
  obtain ⟨rfl, hconnected, hcount, p, hhead, hmem⟩ := hends
  obtain ⟨heffect, hinv⟩ := effect_of_step h hs
  cases heffect with
  | devolveEvent hm | incomingCall hm | activeCall hm => simp [hm] at hhead
  | @idleCall q messages ui hm hquiet hdismisses hcalls hstops =>
      obtain rfl : q = p := by simpa [hm] using hhead
      have hzero : ui.mCallManager.getCallsCount = 0 := by
        rw [hcalls, CallManager.getCallsCount_removeCall, if_pos hmem, hcount]
      obtain ⟨hbound, hhandler⟩ :=
        hinv.connected (hdismisses.binding.mControlService.trans hconnected)
      exact ⟨lingers_of_handler (hstops hzero) hhandler hbound, hzero⟩

theorem detaches_iff (h : Invariant s) {l : Label} (hs : s.step J t l = some u) :
    Detaches s l u ↔ ¬ EndsLastCall s l := by
  constructor
  · intro hdetaches hends
    obtain ⟨hlingers, hzero⟩ := lingers_of_endsLastCall h hs hends
    obtain ⟨-, hconnected, hcount, -⟩ := hends
    obtain ⟨hhandler, -⟩ := hdetaches hconnected (by omega) hzero
    simp [hlingers.mHandler] at hhandler
  · intro hnot hconnected hcount hzero
    exact absurd (endsLastCall_of_removed h hs hconnected hcount hzero) hnot

/-- However messages and clicks follow one another, the service never detaches when its last
call ends: a run in which it does is one in which the last call never ends, and wherever it
ends the service has stopped with its handler registered, which gets the next message. -/
theorem last_call_never_detaches (J : OrgJson) (t : JString.CaseTable) (ls : List Label) :
    (Along (step J t) Detaches init ls ↔
        Along (step J t) (fun s l _ => ¬ EndsLastCall s l) init ls) ∧
      Along (step J t) (fun s l u => EndsLastCall s l → Lingers J t u.ui) init ls := by
  have hstep : ∀ s l u, Invariant s → s.step J t l = some u → Invariant u :=
    fun _ _ _ h hs => (effect_of_step h hs).2
  exact ⟨along_congr_of_invariant hstep (fun _ _ _ h hs => detaches_iff h hs) invariant_init ls,
    along_of_invariant hstep (fun _ _ _ h hs hends => (lingers_of_endsLastCall h hs hends).1)
      invariant_init ls⟩

/-- A call rings and ends. -/
theorem ended_call_keeps_handler :
    ¬ Along (step noJson .ascii) Detaches init
      ([.onMessage (some (CollaborationService.packPhoneJson 1 (some (JString.lit "10086")))),
        .onServiceConnected, .handleMessage, .handleMessage,
        .onMessage (some (CollaborationService.packPhoneJson 0 (some (JString.lit "10086")))),
        .handleMessage, .handleMessage]) := by
  decide

end Collaboration.CallEvents
