import Collaboration.Phone.InCallUI

/-! # The windows follow the calls

Every window that is shown belongs to one entry of `mFloatViewMap`, and every entry to a call
of the call manager. So a window is dismissed while there is still a call, and neither the
handler nor the binding is given up. -/

namespace Collaboration.InCallUIService

variable {s u : InCallUIService}

structure WellFormed (s : InCallUIService) : Prop where
  attached_nodup : s.attached.Nodup
  attached_iff : ∀ v, v ∈ s.attached ↔ ∃ k, s.mFloatViewMap.lookup k = some v
  serial_of_lookup : ∀ k v, s.mFloatViewMap.lookup k = some v → (s.views v).mSerialNo = k
  attached_created : ∀ v ∈ s.attached, v < s.createdViews
  mem_calls : ∀ k ∈ s.mFloatViewMap, k ∈ s.mCallManager.mCallMap
  holder_of_created : 0 < s.createdViews → s.mFloatViewHolder.isSome = true
  created_of_answered : s.mIsAnsweredByme = true → 0 < s.createdViews

/-- Queue, listener and call state stay. -/
structure Quiet (s u : InCallUIService) : Prop where
  messages : u.messages = s.messages
  mPhoneListener : u.mPhoneListener = s.mPhoneListener
  mCallState : u.mCallState = s.mCallState

theorem Quiet.trans {w : InCallUIService} (h : Quiet s u) (h' : Quiet u w) : Quiet s w :=
  ⟨h'.messages.trans h.messages, h'.mPhoneListener.trans h.mPhoneListener,
    h'.mCallState.trans h.mCallState⟩

theorem wellFormed_new (l : PhoneMsgListener) : WellFormed (new l) where
  attached_nodup := List.nodup_nil
  attached_iff := by simp [new]
  serial_of_lookup := by simp [new]
  attached_created := by simp [new]
  mem_calls := fun k hk => absurd hk (AList.notMem_empty k)
  holder_of_created := by simp [new]
  created_of_answered := by simp [new]

namespace WellFormed

theorem attached_of_lookup (h : WellFormed s) {k : Option JString} {v : ℕ}
    (hv : s.mFloatViewMap.lookup k = some v) : v ∈ s.attached :=
  (h.attached_iff v).mpr ⟨k, hv⟩

theorem lookup_of_attached (h : WellFormed s) {v : ℕ} (hv : v ∈ s.attached) :
    s.mFloatViewMap.lookup (s.views v).mSerialNo = some v := by
  obtain ⟨k, hk⟩ := (h.attached_iff v).mp hv
  obtain rfl := h.serial_of_lookup k v hk
  exact hk

theorem getCallsCount_ne_zero (h : WellFormed s) {k : Option JString} {v : ℕ}
    (hv : s.mFloatViewMap.lookup k = some v) : s.mCallManager.getCallsCount ≠ 0 := by
  have hmem : k ∈ s.mFloatViewMap := AList.lookup_isSome.mp (by simp [hv])
  exact CallManager.getCallsCount_ne_zero (h.mem_calls k hmem)

/-- What says nothing about windows and calls may change. -/
theorem withOthers (h : WellFormed s) (started bound mControlService : Bool)
    (mPhoneListener : PhoneMsgListener) (messages : List HandlerMessage)
    (mAudioManager : AudioManager) (mCallState : Option Call.State) (sentData : List JSONObject) :
    WellFormed { s with
      started := started
      bound := bound
      mControlService := mControlService
      mPhoneListener := mPhoneListener
      messages := messages
      mAudioManager := mAudioManager
      mCallState := mCallState
      sentData := sentData } :=
  ⟨h.attached_nodup, h.attached_iff, h.serial_of_lookup, h.attached_created, h.mem_calls,
    h.holder_of_created, h.created_of_answered⟩

end WellFormed

/-! ## Texts -/

theorem updateView_mSerialNo {v : ℕ} {f : FloatViewHolder → FloatViewHolder}
    (hf : ∀ holder, (f holder).mSerialNo = holder.mSerialNo) (w : ℕ) :
    ((s.updateView v f).views w).mSerialNo = (s.views w).mSerialNo := by
  by_cases hw : w = v
  · subst hw
    simp [updateView, hf]
  · simp [updateView, hw]

theorem WellFormed.updateView (h : WellFormed s) {v : ℕ} {f : FloatViewHolder → FloatViewHolder}
    (hf : ∀ holder, (f holder).mSerialNo = holder.mSerialNo) :
    WellFormed (s.updateView v f) := by
  refine ⟨h.attached_nodup, h.attached_iff, ?_, h.attached_created, h.mem_calls,
    h.holder_of_created, h.created_of_answered⟩
  intro k w hw
  rw [updateView_mSerialNo hf]
  exact h.serial_of_lookup k w hw

theorem updateOtherFloat_spec (h : WellFormed s) (serialNo : Option JString)
    (text : CallStateText) :
    WellFormed (s.updateOtherFloat serialNo text) ∧
      Quiet s (s.updateOtherFloat serialNo text) ∧
      (s.updateOtherFloat serialNo text).mCallManager = s.mCallManager := by
  unfold updateOtherFloat
  induction s.mFloatViewMap.entries generalizing s with
  | nil => exact ⟨h, ⟨rfl, rfl, rfl⟩, rfl⟩
  | cons e entries ih =>
      rw [List.foldl_cons]
      split
      · exact ih h
      · obtain ⟨hwf, hquiet, hcalls⟩ := ih (h.updateView (v := e.2)
          (f := fun holder => { holder with mCallStatusView := some text }) fun _ => rfl)
        exact ⟨hwf, ⟨hquiet.messages, hquiet.mPhoneListener, hquiet.mCallState⟩, hcalls⟩

/-! ## Dismissing a window -/

/-- The state without the window of a call. -/
def dismissed (s : InCallUIService) (v : ℕ) (k : Option JString) : InCallUIService :=
  { s with
    mFloatViewMap := s.mFloatViewMap.erase k
    attached := s.attached.erase v
    mIsAnsweredByme := false }

/-- The window is there, and its call keeps the service bound. -/
theorem dismissFloatUI_eq (h : WellFormed s) {k : Option JString} {v : ℕ}
    (hv : s.mFloatViewMap.lookup k = some v) :
    s.dismissFloatUI v k = some (s.dismissed v k) := by
  simp [dismissFloatUI, removeView, h.attached_of_lookup hv, h.getCallsCount_ne_zero hv, dismissed]

theorem lookup_dismissed {k k' : Option JString} {v w : ℕ} :
    (s.dismissed v k).mFloatViewMap.lookup k' = some w ↔
      k' ≠ k ∧ s.mFloatViewMap.lookup k' = some w :=
  FiniteMap.lookup_erase_eq_some_iff

theorem WellFormed.dismissed (h : WellFormed s) {k : Option JString} {v : ℕ}
    (hv : s.mFloatViewMap.lookup k = some v) : WellFormed (s.dismissed v k) where
  attached_nodup := h.attached_nodup.erase v
  attached_iff := by
    intro w
    refine h.attached_nodup.mem_erase_iff.trans ?_
    simp only [lookup_dismissed, h.attached_iff w]
    constructor
    · rintro ⟨hne, k', hk'⟩
      refine ⟨k', ?_, hk'⟩
      rintro rfl
      exact hne (Option.some.inj (hk'.symm.trans hv))
    · rintro ⟨k', hne, hk'⟩
      refine ⟨?_, k', hk'⟩
      rintro rfl
      exact hne ((h.serial_of_lookup k' w hk').symm.trans (h.serial_of_lookup k w hv))
  serial_of_lookup := fun k' w hw => h.serial_of_lookup k' w (lookup_dismissed.mp hw).2
  attached_created := fun w hw => h.attached_created w (List.mem_of_mem_erase hw)
  mem_calls := fun k' hk' => h.mem_calls k' (AList.mem_erase.mp hk').2
  holder_of_created := h.holder_of_created
  created_of_answered := by simp [InCallUIService.dismissed]

/-! ## The messages of the handler -/

theorem clearInCallUI_eq (s : InCallUIService) :
    s.clearInCallUI =
      some (if s.mCallManager.getCallsCount = 0 then { s.stopAudio with started := false }
        else s) := by
  unfold clearInCallUI
  split
  · rename_i hcount
    rw [CallManager.removeAll_of_getCallsCount _ hcount]
    rfl
  · rfl

theorem WellFormed.removeCall (h : WellFormed s) {k : Option JString}
    (hk : k ∉ s.mFloatViewMap) :
    WellFormed { s with mCallManager := s.mCallManager.removeCall k } where
  attached_nodup := h.attached_nodup
  attached_iff := h.attached_iff
  serial_of_lookup := h.serial_of_lookup
  attached_created := h.attached_created
  mem_calls := by
    intro k' hk'
    refine CallManager.mem_removeCall.mpr ⟨?_, h.mem_calls k' hk'⟩
    rintro rfl
    exact hk hk'
  holder_of_created := h.holder_of_created
  created_of_answered := h.created_of_answered

/-- What is left of the calls decides whether the audio is stopped. -/
theorem clearInCallUI_spec (h : WellFormed s) :
    ∃ u, s.clearInCallUI = some u ∧ WellFormed u ∧ Quiet s u ∧
      u.mCallManager = s.mCallManager ∧
      (u.mCallManager.getCallsCount = 0 → u.mAudioManager.voERunning = false) := by
  rw [clearInCallUI_eq]
  refine ⟨_, rfl, ?_⟩
  split
  · exact ⟨h.withOthers _ _ _ _ _ _ _ _, ⟨rfl, rfl, rfl⟩, rfl, fun _ => rfl⟩
  · rename_i hcount
    exact ⟨h, ⟨rfl, rfl, rfl⟩, rfl, fun hzero => absurd hzero hcount⟩

theorem dismissCall_spec (h : WellFormed s) (k : Option JString) :
    ∃ u, s.dismissCall k = some u ∧ WellFormed u ∧ Quiet s u ∧
      u.mCallManager = s.mCallManager ∧ k ∉ u.mFloatViewMap := by
  unfold dismissCall
  cases hv : s.mFloatViewMap.lookup k with
  | none => exact ⟨s, rfl, h, ⟨rfl, rfl, rfl⟩, rfl, AList.lookup_eq_none.mp hv⟩
  | some v =>
      exact ⟨_, dismissFloatUI_eq h hv, h.dismissed hv, ⟨rfl, rfl, rfl⟩, rfl,
        AList.lookup_eq_none.mp (AList.lookup_erase _ _)⟩

/-- The call and its window go. -/
theorem idleCall_spec (h : WellFormed s) (p : PhoneJson) :
    ∃ u, s.idleCall p = some u ∧ WellFormed u ∧ Quiet s u ∧
      (∀ k, k ∈ u.mCallManager.mCallMap ↔ k ≠ p.Serailno ∧ k ∈ s.mCallManager.mCallMap) ∧
      (u.mCallManager.getCallsCount = 0 → u.mAudioManager.voERunning = false) := by
  obtain ⟨w, hw, hwf, hquiet, hcalls, hgone⟩ := dismissCall_spec h p.Serailno
  obtain ⟨u, hu, huf, hq, hsame, haudio⟩ := clearInCallUI_spec (hwf.removeCall hgone)
  refine ⟨u, by simp [idleCall, hw, hu], huf,
    hquiet.trans ⟨hq.messages, hq.mPhoneListener, hq.mCallState⟩, ?_, haudio⟩
  intro k
  rw [hsame, ← hcalls]
  exact CallManager.mem_removeCall

theorem lookup_createFloatView (x y : Int32) {k k' : Option JString} {w : ℕ} :
    (s.createFloatView x y k).mFloatViewMap.lookup k' = some w ↔
      k' = k ∧ w = s.createdViews ∨ k' ≠ k ∧ s.mFloatViewMap.lookup k' = some w :=
  FiniteMap.lookup_insert_eq_some_iff

theorem WellFormed.createFloatView (h : WellFormed s) {k : Option JString}
    (hk : s.mFloatViewMap.lookup k = none) (x y : Int32) (json : PhoneJson) :
    WellFormed { s.createFloatView x y k with
      mCallManager := s.mCallManager.addCall k json } where
  attached_nodup := by
    have hnew : s.createdViews ∉ s.attached := fun hmem =>
      Nat.lt_irrefl _ (h.attached_created _ hmem)
    have hnodup := List.Nodup.concat hnew h.attached_nodup
    rw [List.concat_eq_append] at hnodup
    exact hnodup
  attached_iff := by
    intro w
    have hmem : w ∈ s.attached ++ [s.createdViews] ↔ w ∈ s.attached ∨ w = s.createdViews := by
      simp
    refine hmem.trans ?_
    simp only [lookup_createFloatView, h.attached_iff w]
    constructor
    · rintro (⟨k', hk'⟩ | rfl)
      · refine ⟨k', .inr ⟨?_, hk'⟩⟩
        rintro rfl
        simp [hk] at hk'
      · exact ⟨k, .inl ⟨rfl, rfl⟩⟩
    · rintro ⟨k', ⟨-, rfl⟩ | ⟨-, hk'⟩⟩
      · exact .inr rfl
      · exact .inl ⟨k', hk'⟩
  serial_of_lookup := by
    intro k' w hw
    obtain ⟨rfl, rfl⟩ | ⟨-, hlookup⟩ := (lookup_createFloatView x y).mp hw
    · simp [InCallUIService.createFloatView]
    · have hne : w ≠ s.createdViews :=
        Nat.ne_of_lt (h.attached_created w (h.attached_of_lookup hlookup))
      simpa [InCallUIService.createFloatView, hne] using h.serial_of_lookup k' w hlookup
  attached_created := by
    intro w hw
    rcases List.mem_append.mp hw with hw | hw
    · exact Nat.lt_succ_of_lt (h.attached_created w hw)
    · rw [List.mem_singleton.mp hw]
      exact Nat.lt_succ_self _
  mem_calls := by
    intro k' hk'
    rw [CallManager.mem_addCall]
    rcases (AList.mem_insert _).mp hk' with rfl | hk'
    · exact .inl rfl
    · exact .inr (h.mem_calls k' hk')
  holder_of_created := fun _ => rfl
  created_of_answered := fun _ => Nat.succ_pos _

theorem floatView_spec (h : WellFormed s) (k : Option JString) :
    Quiet s (s.floatView k) ∧ (s.floatView k).mCallManager = s.mCallManager ∧
      (∃ v, (s.floatView k).mFloatViewHolder = some v) ∧
      ∀ json, WellFormed { s.floatView k with
        mCallManager := (s.floatView k).mCallManager.addCall k json } := by
  unfold floatView
  cases hv : s.mFloatViewMap.lookup k with
  | some v =>
      refine ⟨⟨rfl, rfl, rfl⟩, rfl, ⟨v, rfl⟩, fun json => ?_⟩
      refine ⟨h.attached_nodup, h.attached_iff, h.serial_of_lookup, h.attached_created, ?_,
        fun _ => rfl, h.created_of_answered⟩
      exact fun k' hk' => CallManager.mem_addCall.mpr (.inr (h.mem_calls k' hk'))
  | none => exact ⟨⟨rfl, rfl, rfl⟩, rfl, ⟨s.createdViews, rfl⟩, h.createFloatView hv 5 _⟩

/-- The call is recorded, with a window. -/
theorem incomingCall_spec (h : WellFormed s) (htext : (stateText s.mCallState).isSome = true)
    (p : PhoneJson) :
    ∃ u, s.incomingCall p = some u ∧ WellFormed u ∧ Quiet s u ∧
      ∀ k, k ∈ u.mCallManager.mCallMap ↔ k = p.Serailno ∨ k ∈ s.mCallManager.mCallMap := by
  obtain ⟨text, htext⟩ := Option.isSome_iff_exists.mp htext
  obtain ⟨hquiet, hcalls, ⟨v, hholder⟩, hwf⟩ := floatView_spec h p.Serailno
  unfold incomingCall
  simp only [hholder, hquiet.mCallState, htext]
  refine ⟨_, rfl, ?_, ⟨hquiet.messages, hquiet.mPhoneListener, hquiet.mCallState⟩, ?_⟩
  · exact (hwf p).updateView (v := v) (f := fun holder =>
      { holder with mCallInfo_tv := p.Number, mCallStatusView := some text }) fun _ => rfl
  · intro k
    rw [← hcalls]
    exact CallManager.mem_addCall

theorem activeCall_spec (h : WellFormed s) (htext : (stateText s.mCallState).isSome = true) :
    ∃ u, s.activeCall = some u ∧ WellFormed u ∧ Quiet s u ∧ u.mCallManager = s.mCallManager := by
  unfold activeCall
  split
  · rename_i hanswered
    obtain ⟨text, htext⟩ := Option.isSome_iff_exists.mp htext
    obtain ⟨v, hholder⟩ := Option.isSome_iff_exists.mp
      (h.holder_of_created (h.created_of_answered hanswered))
    simp only [hholder, htext]
    exact ⟨_, rfl, h.updateView fun _ => rfl, ⟨rfl, rfl, rfl⟩, rfl⟩
  · exact ⟨s, rfl, h, ⟨rfl, rfl, rfl⟩, rfl⟩

/-! ## The buttons -/

/-- A click on a window that is shown leaves the calls alone. -/
theorem onClick_spec (h : WellFormed s) {v : ℕ} (hv : v ∈ s.attached) (button : Button)
    (remoteIp : Option JString) (channel : Int32) (codecs : List JString) :
    ∃ u, s.onClick v button remoteIp channel codecs = some u ∧ WellFormed u ∧ Quiet s u ∧
      u.mCallManager = s.mCallManager := by
  have hlookup := h.lookup_of_attached hv
  cases button with
  | btn_accept =>
      have haccepted : WellFormed (s.acceptCall (s.views v).mSerialNo remoteIp channel codecs) :=
        ⟨h.attached_nodup, h.attached_iff, h.serial_of_lookup, h.attached_created, h.mem_calls,
          h.holder_of_created, fun _ => Nat.zero_lt_of_lt (h.attached_created v hv)⟩
      obtain ⟨hwf, hquiet, hcalls⟩ :=
        updateOtherFloat_spec haccepted (s.views v).mSerialNo .holding
      exact ⟨_, rfl, hwf, ⟨hquiet.messages, hquiet.mPhoneListener, hquiet.mCallState⟩, hcalls⟩
  | btn_reject | btn_endcall =>
      have hrejected : WellFormed (s.rejectCall (s.views v).mSerialNo) :=
        h.withOthers _ _ _ _ _ _ _ _
      have heq := dismissFloatUI_eq hrejected hlookup
      obtain ⟨hwf, hquiet, hcalls⟩ :=
        updateOtherFloat_spec (hrejected.dismissed hlookup) (s.views v).mSerialNo .active
      exact ⟨_, by simp only [onClick, heq, Option.map_some], hwf,
        ⟨hquiet.messages, hquiet.mPhoneListener, hquiet.mCallState⟩, hcalls⟩
  | btn_ignore =>
      exact ⟨_, dismissFloatUI_eq h hlookup, h.dismissed hlookup, ⟨rfl, rfl, rfl⟩, rfl⟩

end Collaboration.InCallUIService
