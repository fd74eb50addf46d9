import Collaboration.Phone.Windows

/-! # What each event leaves of the windows

One structure for each kind of event, with the fields that later results speak about. -/

namespace Collaboration

/-- The form of a window during a call. -/
def FloatViewHolder.InCall (holder : FloatViewHolder) : Prop :=
  holder.mAnswerCallLayout = false ∧ holder.mEndCallBtn = true

instance (holder : FloatViewHolder) : Decidable holder.InCall :=
  inferInstanceAs (Decidable (_ ∧ _))

namespace InCallUIService

variable {s u w : InCallUIService}

/-- The binding stays. -/
structure SameBinding (s u : InCallUIService) : Prop where
  bound : u.bound = s.bound
  mControlService : u.mControlService = s.mControlService

theorem SameBinding.trans (h : SameBinding s u) (h' : SameBinding u w) : SameBinding s w :=
  ⟨h'.bound.trans h.bound, h'.mControlService.trans h.mControlService⟩

/-- Of the windows only texts have changed. -/
structure SameWindows (s u : InCallUIService) : Prop where
  binding : SameBinding s u
  mFloatViewMap : u.mFloatViewMap = s.mFloatViewMap
  mIsAnsweredByme : u.mIsAnsweredByme = s.mIsAnsweredByme
  inCall_iff : ∀ v, (u.views v).InCall ↔ (s.views v).InCall
  mFloatViewHolder : u.mFloatViewHolder = s.mFloatViewHolder
  createdViews : u.createdViews = s.createdViews

theorem SameWindows.refl (s : InCallUIService) : SameWindows s s :=
  ⟨⟨rfl, rfl⟩, rfl, rfl, fun _ => Iff.rfl, rfl, rfl⟩

theorem SameWindows.trans (h : SameWindows s u) (h' : SameWindows u w) : SameWindows s w where
  binding := h.binding.trans h'.binding
  mFloatViewMap := h'.mFloatViewMap.trans h.mFloatViewMap
  mIsAnsweredByme := h'.mIsAnsweredByme.trans h.mIsAnsweredByme
  inCall_iff := fun v => (h'.inCall_iff v).trans (h.inCall_iff v)
  mFloatViewHolder := h'.mFloatViewHolder.trans h.mFloatViewHolder
  createdViews := h'.createdViews.trans h.createdViews

theorem sameWindows_updateOtherFloat (s : InCallUIService) (serialNo : Option JString)
    (text : CallStateText) : SameWindows s (s.updateOtherFloat serialNo text) := by
  unfold updateOtherFloat
  induction s.mFloatViewMap.entries generalizing s with
  | nil => exact .refl s
  | cons e entries ih =>
      rw [List.foldl_cons]
      split
      · exact ih s
      · refine SameWindows.trans (u := s.updateView e.2 _)
          ⟨⟨rfl, rfl⟩, rfl, rfl, fun v => ?_, rfl, rfl⟩ (ih _)
        by_cases hv : v = e.2
        · subst hv
          simp [updateView, FloatViewHolder.InCall]
        · simp [updateView, hv]

/-! ## Dismissals -/

/-- What a dismissal does, of the window of `k` if there is one. -/
structure Dismisses (s : InCallUIService) (k : Option JString) (u : InCallUIService) : Prop where
  binding : SameBinding s u
  lookup_iff : ∀ k' v, u.mFloatViewMap.lookup k' = some v ↔
    k' ≠ k ∧ s.mFloatViewMap.lookup k' = some v
  mIsAnsweredByme : u.mIsAnsweredByme =
    (s.mIsAnsweredByme && (s.mFloatViewMap.lookup k).isNone)
  inCall_iff : ∀ v, (u.views v).InCall ↔ (s.views v).InCall

theorem Dismisses.of_same {k : Option JString} (h : Dismisses s k u) (hs : SameWindows u w) :
    Dismisses s k w where
  binding := h.binding.trans hs.binding
  lookup_iff := hs.mFloatViewMap ▸ h.lookup_iff
  mIsAnsweredByme := hs.mIsAnsweredByme.trans h.mIsAnsweredByme
  inCall_iff := fun v => (hs.inCall_iff v).trans (h.inCall_iff v)

/-- What is in the queue does not matter. -/
theorem Dismisses.of_messages {messages : List HandlerMessage} {k : Option JString}
    (h : Dismisses { s with messages := messages } k u) : Dismisses s k u :=
  ⟨⟨h.binding.bound, h.binding.mControlService⟩, h.lookup_iff, h.mIsAnsweredByme, h.inCall_iff⟩

theorem dismissed_dismisses {k : Option JString} {v : ℕ}
    (hv : s.mFloatViewMap.lookup k = some v) : Dismisses s k (s.dismissed v k) where
  binding := ⟨rfl, rfl⟩
  lookup_iff := fun _ _ => lookup_dismissed
  mIsAnsweredByme := by simp [dismissed, hv]
  inCall_iff := fun _ => Iff.rfl

theorem dismissCall_dismisses (h : WellFormed s) {k : Option JString}
    (hu : s.dismissCall k = some u) : Dismisses s k u := by
  unfold dismissCall at hu
  cases hv : s.mFloatViewMap.lookup k with
  | some v =>
      rw [hv] at hu
      obtain rfl := Option.some.inj ((dismissFloatUI_eq h hv).symm.trans hu)
      exact dismissed_dismisses hv
  | none =>
      rw [hv] at hu
      obtain rfl := Option.some.inj hu
      refine ⟨⟨rfl, rfl⟩, fun k' v => ?_, by simp [hv], fun _ => Iff.rfl⟩
      refine (and_iff_right_of_imp fun hk' => ?_).symm
      rintro rfl
      rw [hv] at hk'
      cases hk'

/-- The call goes with its window, and the last one ends the service. -/
theorem idleCall_dismisses (h : WellFormed s) {p : PhoneJson} (hu : s.idleCall p = some u) :
    Dismisses s p.Serailno u ∧ u.mCallManager = s.mCallManager.removeCall p.Serailno ∧
      (u.mCallManager.getCallsCount = 0 → u.started = false) := by
  obtain ⟨w, hw, -, -, hcalls, -⟩ := dismissCall_spec h p.Serailno
  have hdismisses := dismissCall_dismisses h hw
  simp only [idleCall, hw, Option.bind_eq_bind, Option.bind_some, clearInCallUI_eq,
    Option.some.injEq] at hu
  subst hu
  rw [← hcalls]
  split
  · exact ⟨hdismisses.of_same ⟨⟨rfl, rfl⟩, rfl, rfl, fun _ => Iff.rfl, rfl, rfl⟩, rfl,
      fun _ => rfl⟩
  · rename_i hcount
    exact ⟨hdismisses.of_same ⟨⟨rfl, rfl⟩, rfl, rfl, fun _ => Iff.rfl, rfl, rfl⟩, rfl,
      fun hzero => absurd hzero hcount⟩

/-- A click that dismisses the window it is on. -/
theorem onClick_dismisses (h : WellFormed s) {v : ℕ} (hv : v ∈ s.attached) {button : Button}
    (hbutton : button ≠ .btn_accept) {remoteIp : Option JString} {channel : Int32}
    {codecs : List JString} (hu : s.onClick v button remoteIp channel codecs = some u) :
    Dismisses s (s.views v).mSerialNo u ∧ u.mCallManager = s.mCallManager := by
  have hlookup := h.lookup_of_attached hv
  obtain ⟨w, hw, -, -, hcalls⟩ := onClick_spec h hv button remoteIp channel codecs
  obtain rfl := Option.some.inj (hw.symm.trans hu)
  refine ⟨?_, hcalls⟩
  cases button with
  | btn_accept => exact absurd rfl hbutton
  | btn_reject | btn_endcall =>
      have hrejected : WellFormed (s.rejectCall (s.views v).mSerialNo) :=
        h.withOthers _ _ _ _ _ _ _ _
      simp only [onClick, dismissFloatUI_eq hrejected hlookup, Option.map_some,
        Option.some.injEq] at hu
      subst hu
      have hdismisses : Dismisses s (s.views v).mSerialNo
          ((s.rejectCall (s.views v).mSerialNo).dismissed v (s.views v).mSerialNo) :=
        (dismissed_dismisses hlookup).of_same ⟨⟨rfl, rfl⟩, rfl, rfl, fun _ => Iff.rfl, rfl, rfl⟩
      exact hdismisses.of_same (sameWindows_updateOtherFloat _ _ _)
  | btn_ignore =>
      obtain rfl := Option.some.inj ((dismissFloatUI_eq h hlookup).symm.trans hu)
      exact dismissed_dismisses hlookup

/-- A click that accepts a call answers it, and changes texts only. -/
theorem onClick_accepts {v : ℕ} {remoteIp : Option JString} {channel : Int32}
    {codecs : List JString} (hu : s.onClick v .btn_accept remoteIp channel codecs = some u) :
    SameWindows { s with mIsAnsweredByme := true } u := by
  obtain rfl := Option.some.inj hu
  refine SameWindows.trans (u := s.acceptCall (s.views v).mSerialNo remoteIp channel codecs)
    ⟨⟨rfl, rfl⟩, rfl, rfl, fun _ => Iff.rfl, rfl, rfl⟩ (sameWindows_updateOtherFloat _ _ _)

/-! ## Reports of a call -/

/-- What an incoming call does. -/
structure Rings (s : InCallUIService) (p : PhoneJson) (u : InCallUIService) : Prop where
  binding : SameBinding s u
  mCallManager : u.mCallManager = s.mCallManager.addCall p.Serailno p
  mIsAnsweredByme : u.mIsAnsweredByme = s.mIsAnsweredByme
  lookup_of_some : ∀ k v, s.mFloatViewMap.lookup k = some v → u.mFloatViewMap.lookup k = some v
  inCall_iff : ∀ v, v < s.createdViews → ((u.views v).InCall ↔ (s.views v).InCall)
  shows : ∃ v, u.mFloatViewHolder = some v ∧ u.mFloatViewMap.lookup p.Serailno = some v ∧
    (u.views v).mCallStatusView = stateText s.mCallState

theorem Rings.of_messages {messages : List HandlerMessage} {p : PhoneJson}
    (h : Rings { s with messages := messages } p u) : Rings s p u :=
  ⟨⟨h.binding.bound, h.binding.mControlService⟩, h.mCallManager, h.mIsAnsweredByme,
    h.lookup_of_some, h.inCall_iff, h.shows⟩

theorem floatView_rings (s : InCallUIService) (k : Option JString) :
    SameBinding s (s.floatView k) ∧ (s.floatView k).mIsAnsweredByme = s.mIsAnsweredByme ∧
      (∀ k' v, s.mFloatViewMap.lookup k' = some v →
        (s.floatView k).mFloatViewMap.lookup k' = some v) ∧
      (∀ v, v < s.createdViews → (s.floatView k).views v = s.views v) ∧
      ∃ v, (s.floatView k).mFloatViewHolder = some v ∧
        (s.floatView k).mFloatViewMap.lookup k = some v := by
  unfold floatView
  cases hv : s.mFloatViewMap.lookup k with
  | some v => exact ⟨⟨rfl, rfl⟩, rfl, fun _ _ hk' => hk', fun _ _ => rfl, v, rfl, hv⟩
  | none =>
      refine ⟨⟨rfl, rfl⟩, rfl, fun k' v hk' => ?_, fun v hlt => ?_, s.createdViews, rfl,
        AList.lookup_insert _⟩
      · have hne : k' ≠ k := by
          rintro rfl
          rw [hv] at hk'
          cases hk'
        exact (lookup_createFloatView 5 _).mpr (.inr ⟨hne, hk'⟩)
      · exact Function.update_of_ne (Nat.ne_of_lt hlt) _ _

theorem incomingCall_rings (h : WellFormed s) {p : PhoneJson} (hu : s.incomingCall p = some u) :
    Rings s p u := by
  obtain ⟨hbinding, hanswered, hlookup, hviews, v, hholder, hv⟩ := floatView_rings s p.Serailno
  obtain ⟨hquiet, hcalls, -, -⟩ := floatView_spec h p.Serailno
  cases htext : stateText s.mCallState with
  | none => simp [incomingCall, hholder, hquiet.mCallState, htext] at hu
  | some text =>
      simp only [incomingCall, hholder, hquiet.mCallState, htext, Option.bind_eq_bind,
        Option.bind_some, Option.pure_def, Option.some.injEq] at hu
      subst hu
      refine ⟨⟨hbinding.bound, hbinding.mControlService⟩, ?_, hanswered, hlookup, ?_,
        v, hholder, hv, ?_⟩
      · rw [← hcalls]
        rfl
      · intro w hlt
        rw [← hviews w hlt]
        by_cases hw : w = v
        · subst hw
          simp [updateView, FloatViewHolder.InCall]
        · simp [updateView, hw]
      · rw [htext]
        simp [updateView]

/-- An active report is shown if a call was answered, in the window of the last incoming call. -/
theorem activeCall_cases (hu : s.activeCall = some u) :
    s.mIsAnsweredByme = false ∧ u = s ∨
    ∃ v text, s.mIsAnsweredByme = true ∧ s.mFloatViewHolder = some v ∧
      stateText s.mCallState = some text ∧
      u = s.updateView v fun holder =>
        { holder with
          mAnswerCallLayout := false
          mEndCallBtn := true
          mTimerView := JString.lit "0:06"
          mCallStatusView := some text } := by
  unfold activeCall at hu
  split at hu
  · rename_i hanswered
    cases hholder : s.mFloatViewHolder with
    | none => simp [hholder] at hu
    | some v =>
        cases htext : stateText s.mCallState with
        | none => simp [hholder, htext] at hu
        | some text =>
            simp only [hholder, htext, Option.bind_eq_bind, Option.bind_some, Option.pure_def,
              Option.some.injEq] at hu
            exact .inr ⟨v, text, hanswered, rfl, rfl, hu.symm⟩
  · rename_i hanswered
    exact .inl ⟨Bool.eq_false_iff.mpr hanswered, (Option.some.inj hu).symm⟩

end InCallUIService

end Collaboration
