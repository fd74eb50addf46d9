import Collaboration.Phone.CallEvents

/-! # The state that a window shows

The state of a report travels beside it: the first stage sets `mCallState`, the second one shows
what is there. Between the two the first stages of the messages behind it are handled. -/

namespace Collaboration.CallEvents

open Transition InCallUIService

/-- History: for each second stage in the queue what was behind its first stage. -/
def behind (b : List (List HandlerMessage)) (s : CallEvents) : Label → List (List HandlerMessage)
  | .handleMessage =>
    match s.ui.messages with
    | [] => b
    | message :: messages =>
      if message.isDevolveEvent then
        if message.callState.isSome then b ++ [messages] else b
      else b.tail
  | _ => b

/-- The report whose state the handler shows. -/
def shownReport (s : CallEvents) : Label → Option PhoneJson
  | .handleMessage =>
    match s.ui.messages.head? with
    | some (.incomingCall p) => some p
    | some (.activeCall p) => if s.ui.mIsAnsweredByme then some p else none
    | _ => none
  | _ => none

/-- The current window shows the state of the report that is handled. -/
def ShowsOwnState (s : CallEvents) (l : Label) (u : CallEvents) : Prop :=
  ∀ p ∈ s.shownReport l, ∃ v ∈ u.ui.mFloatViewHolder,
    (u.ui.views v).mCallStatusView = stateText (some (Call.numToState p.CallType))

instance (s : CallEvents) (l : Label) (u : CallEvents) : Decidable (ShowsOwnState s l u) :=
  inferInstanceAs (Decidable (∀ p ∈ s.shownReport l, _))

/-- The last call state that was behind the first stage of a report that is shown, if there was
one, is that of the report. -/
def SameStateBehind (s : CallEvents × List (List HandlerMessage)) (l : Label)
    (_ : CallEvents × List (List HandlerMessage)) : Prop :=
  ∀ p ∈ s.1.shownReport l, ∀ messages ∈ s.2.head?,
    ∀ state ∈ (messages.filterMap (·.callState)).getLast?, state = Call.numToState p.CallType

/-! ## What is ahead of a second stage -/

/-- The state of each second stage in the queue, with the states that first stages ahead of it
will set. -/
def seconds (ahead : List Call.State) :
    List HandlerMessage → List (Call.State × List Call.State)
  | [] => []
  | message :: messages =>
    match message.reported with
    | some state => (state, ahead) :: seconds ahead messages
    | none => seconds (ahead ++ message.callState.toList) messages

/-- Of what was behind a first stage, that which is still ahead of the second one will be set,
and the last of what was not is the state that is set. -/
def Fits (mCallState : Option Call.State) (second : Call.State × List Call.State)
    (messages : List HandlerMessage) : Prop :=
  ∃ done, messages.filterMap (·.callState) = done ++ second.2 ∧
    mCallState = (second.1 :: done).getLast?

structure Tracks (s : CallEvents × List (List HandlerMessage)) : Prop where
  invariant : Invariant s.1
  fits : List.Forall₂ (Fits s.1.ui.mCallState) (seconds [] s.1.ui.messages) s.2

variable {J : OrgJson} {t : JString.CaseTable} {s u : CallEvents}
  {b : List (List HandlerMessage)}

theorem callState_of_reported {message : HandlerMessage} {state : Call.State}
    (h : message.reported = some state) : message.callState = none := by
  cases message with
  | devolveEvent => cases h
  | idleCall | incomingCall | activeCall => rfl

theorem seconds_append (ahead : List Call.State) (messages others : List HandlerMessage) :
    seconds ahead (messages ++ others) =
      seconds ahead messages ++
        seconds (ahead ++ messages.filterMap (·.callState)) others := by
  induction messages generalizing ahead with
  | nil => simp [seconds]
  | cons message messages ih =>
      cases hreported : message.reported with
      | some state =>
          simp [seconds, hreported, ih, callState_of_reported hreported]
      | none =>
          cases hstate : message.callState <;>
            simp [seconds, hreported, ih, hstate]

theorem seconds_posted (ahead : List Call.State) (posted : List (Option PhoneJson)) :
    seconds ahead (posted.map .devolveEvent) = [] := by
  induction posted generalizing ahead with
  | nil => rfl
  | cons obj posted ih => exact ih _

theorem seconds_cons_ahead (state : Call.State) (ahead : List Call.State)
    (messages : List HandlerMessage) :
    seconds (state :: ahead) messages =
      (seconds ahead messages).map fun second => (second.1, state :: second.2) := by
  induction messages generalizing ahead with
  | nil => rfl
  | cons message messages ih =>
      cases hreported : message.reported <;> simp [seconds, hreported, ih]

/-- A first stage sets the state that was ahead. -/
theorem Fits.set {mCallState : Option Call.State} {state : Call.State}
    {second : Call.State × List Call.State} {messages : List HandlerMessage}
    (h : Fits mCallState (second.1, state :: second.2) messages) :
    Fits (some state) second messages := by
  obtain ⟨done, hstates, -⟩ := h
  refine ⟨done ++ [state], by simp [hstates], ?_⟩
  rw [← List.cons_append, List.getLast?_concat]

theorem tracks_init : Tracks (init, []) := ⟨invariant_init, .nil⟩

/-- What was behind the first stage of the message that is handled comes first in the history. -/
theorem Tracks.second (h : Tracks (s, b)) {message : HandlerMessage}
    {messages : List HandlerMessage} {state : Call.State}
    (hm : s.ui.messages = message :: messages) (hreported : message.reported = some state) :
    ∃ own others, b = own :: others ∧
      s.ui.mCallState = (state :: own.filterMap (·.callState)).getLast? ∧
      List.Forall₂ (Fits s.ui.mCallState) (seconds [] messages) others := by
  have hfits := h.fits
  simp only [hm, seconds, hreported] at hfits
  obtain _ | ⟨⟨done, hstates, hstate⟩, hrest⟩ := hfits
  rw [List.append_nil] at hstates
  exact ⟨_, _, rfl, hstates ▸ hstate, hrest⟩

theorem Tracks.of_posts (h : Tracks (s, b)) {ui : InCallUIService} (hposts : Posts s.ui ui)
    (hinv : Invariant ⟨ui, false⟩) : Tracks (⟨ui, false⟩, b) := by
  obtain ⟨_, _, _, _, posted, rfl⟩ := hposts
  refine ⟨hinv, ?_⟩
  simp only [seconds_append, seconds_posted, List.append_nil]
  exact h.fits

theorem Tracks.devolveEvent (h : Tracks (s, b)) {obj : Option PhoneJson}
    {messages : List HandlerMessage} (hm : s.ui.messages = .devolveEvent obj :: messages)
    (hinv : Invariant ⟨(s.taken messages).handleDevolveMsg obj, false⟩) :
    Tracks (⟨(s.taken messages).handleDevolveMsg obj, false⟩, behind b s .handleMessage) := by
  have hfits := h.fits
  refine ⟨hinv, ?_⟩
  simp only [hm, seconds, HandlerMessage.reported, List.nil_append] at hfits
  simp only [behind, hm, HandlerMessage.isDevolveEvent_devolveEvent, if_true]
  obtain ⟨hnone, heq⟩ | ⟨message, state, hstate, hreported, -, heq⟩ :=
    handleDevolveMsg_cases (s.taken messages) obj
  · rw [heq, hnone]
    simpa [hnone] using hfits
  · rw [heq, hstate]
    rw [hstate, Option.toList_some, seconds_cons_ahead, List.forall₂_map_left_iff] at hfits
    simp only [updateState, seconds_append, Option.isSome_some, if_true, List.nil_append]
    refine List.rel_append (hfits.imp fun _ _ hfit => hfit.set) ?_
    simp only [seconds, hreported]
    exact .cons ⟨[], rfl, rfl⟩ .nil

theorem Tracks.of_step (h : Tracks (s, b)) {l : Label} (hs : s.step J t l = some u) :
    Tracks (u, behind b s l) := by
  obtain ⟨heffect, hinv⟩ := effect_of_step (show Invariant s from h.invariant) hs
  cases heffect with
  | onMessage hposts | onServiceConnected hposts => exact h.of_posts hposts hinv
  | devolveEvent hm => exact h.devolveEvent hm hinv
  | idleCall hm hquiet | incomingCall hm hquiet | activeCall hm hquiet =>
      obtain ⟨own, others, rfl, -, hrest⟩ := h.second hm rfl
      refine ⟨hinv, ?_⟩
      simp only [behind, hm, hquiet.messages, hquiet.mCallState]
      exact hrest
  | accept hv hquiet | dismiss hv hbutton hquiet =>
      refine ⟨hinv, ?_⟩
      simp only [behind, hquiet.messages, hquiet.mCallState]
      exact h.fits

/-! ## What is shown -/

theorem getLast?_cons_eq_self_iff {α : Type*} (x : α) (xs : List α) :
    (x :: xs).getLast? = some x ↔ ∀ y ∈ xs.getLast?, y = x := by
  rw [List.getLast?_cons]
  cases xs.getLast? <;> simp

theorem stateText_inj {a c : Option Call.State} (h : (stateText a).isSome = true) :
    stateText a = stateText c ↔ a = c := by
  refine ⟨fun heq => ?_, fun heq => heq ▸ rfl⟩
  obtain _ | a := a
  · cases h
  · obtain _ | c := c
    · cases a <;> simp [stateText] at heq h
    · cases a <;> cases c <;> first | rfl | simp [stateText] at heq h

/-- The second stage of a report shows `mCallState`. -/
theorem shows_mCallState (h : Invariant s) {l : Label} (hs : s.step J t l = some u)
    {p : PhoneJson} (hp : p ∈ s.shownReport l) :
    ∃ message messages v, s.ui.messages = message :: messages ∧
      message.reported = some (Call.numToState p.CallType) ∧
      u.ui.mFloatViewHolder = some v ∧
      (u.ui.views v).mCallStatusView = stateText s.ui.mCallState := by
  obtain ⟨heffect, -⟩ := effect_of_step h hs
  cases heffect with
  | onMessage | onServiceConnected | accept | dismiss => simp [shownReport] at hp
  | devolveEvent hm | idleCall hm => simp [shownReport, hm] at hp
  | @incomingCall q messages ui hm hquiet hrings =>
      obtain rfl : q = p := by simpa [shownReport, hm] using hp
      obtain ⟨v, hv, -, htext⟩ := hrings.shows
      exact ⟨_, messages, v, hm, rfl, hv, htext⟩
  | @activeCall q messages ui hm hquiet hactive =>
      obtain ⟨hanswered, rfl⟩ : s.ui.mIsAnsweredByme = true ∧ q = p := by
        simpa [shownReport, hm] using hp
      obtain ⟨hnot, -⟩ | ⟨v, text, -, hholder, htext, rfl⟩ := activeCall_cases hactive
      · simp [hanswered] at hnot
      · exact ⟨_, messages, v, hm, rfl, hholder, by simpa [updateView] using htext.symm⟩

theorem Tracks.showsOwnState_iff (h : Tracks (s, b)) {l : Label} (hs : s.step J t l = some u) :
    ShowsOwnState s l u ↔ SameStateBehind (s, b) l (u, behind b s l) := by
  refine forall₂_congr fun p hp => ?_
  have hinv : Invariant s := h.invariant
  obtain ⟨message, messages, v, hm, hreported, hv, hshown⟩ := shows_mCallState hinv hs hp
  obtain ⟨own, others, rfl, hstate, -⟩ := h.second hm hreported
  have htext := hinv.sound.text message (hm ▸ List.mem_cons_self) (by
    cases message with
    | devolveEvent => cases hreported
    | idleCall | incomingCall | activeCall => rfl)
  have hshows : (∃ w ∈ u.ui.mFloatViewHolder,
      (u.ui.views w).mCallStatusView = stateText (some (Call.numToState p.CallType))) ↔
      s.ui.mCallState = some (Call.numToState p.CallType) := by
    rw [← stateText_inj htext, ← hshown, hv]
    simp
  rw [hshows, hstate, getLast?_cons_eq_self_iff]
  simp

/-- However messages and clicks follow one another, every report is shown with its own state if
and only if, whenever a report is shown, the last call state that was in the queue behind its
first stage, if there was one, is the same. -/
theorem shows_own_state_iff (J : OrgJson) (t : JString.CaseTable) (ls : List Label) :
    Along (step J t) ShowsOwnState init ls ↔
      Along (withHistory (step J t) behind) SameStateBehind (init, []) ls := by
  have hhistory := along_withHistory (step J t) behind ShowsOwnState (init, []) ls
  rw [← hhistory]
  refine along_congr_of_invariant (I := Tracks) ?_ ?_ tracks_init ls
  · rintro ⟨s, b⟩ l ⟨u, b'⟩ h hs
    obtain ⟨hs, rfl⟩ := withHistory_eq_some.mp hs
    exact h.of_step hs
  · rintro ⟨s, b⟩ l ⟨u, b'⟩ h hs
    obtain ⟨hs, rfl⟩ := withHistory_eq_some.mp hs
    exact h.showsOwnState_iff hs

/-- A call rings and is taken elsewhere while the service starts. -/
theorem batch_shows_later_state :
    ¬ Along (step noJson .ascii) ShowsOwnState init
      ([.onMessage (some (CollaborationService.packPhoneJson 1 (some (JString.lit "10086")))),
        .onMessage (some (CollaborationService.packPhoneJson 2 (some (JString.lit "10086")))),
        .onServiceConnected] ++ List.replicate 3 .handleMessage) := by
  decide

end Collaboration.CallEvents
