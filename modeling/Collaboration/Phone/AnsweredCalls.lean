import Collaboration.Phone.CallEvents

/-! # Which calls are answered

The client has one flag for all calls and one current window. A dismissal clears the flag,
whichever call was answered, and an active report is shown in the current window, whichever call
the user accepted. -/

namespace Collaboration.CallEvents

open Transition InCallUIService

/-- What the user has accepted. -/
structure Answers where
  /-- the calls that were accepted and are not over -/
  accepted : List (Option JString)
  /-- those of them that were accepted after the last active report -/
  awaiting : List (Option JString)

namespace Answers

/-- Before the first click. -/
def new : Answers := ⟨[], []⟩

/-- The call is over. -/
def forget (a : Answers) (k : Option JString) : Answers :=
  ⟨a.accepted.filter (· ≠ k), a.awaiting.filter (· ≠ k)⟩

/-- The button that accepts a call is hidden during the call. -/
def accept (a : Answers) (k : Option JString) (inCall : Bool) : Answers :=
  ⟨k :: a.accepted, if inCall then a.awaiting else k :: a.awaiting⟩

def record (a : Answers) (s : CallEvents) : Label → Answers
  | .handleMessage =>
    match s.ui.messages.head? with
    | some (.idleCall p) => a.forget p.Serailno
    | some (.activeCall _) => { a with awaiting := [] }
    | _ => a
  | .onClick v .btn_accept _ _ _ =>
    a.accept (s.ui.views v).mSerialNo (decide (s.ui.views v).InCall)
  | .onClick v _ _ _ _ => a.forget (s.ui.views v).mSerialNo
  | _ => a

end Answers

/-- The call is answered by the user, as far as the client knows. -/
def Answered (s : CallEvents × Answers) (k : Option JString) : Prop :=
  s.1.ui.mIsAnsweredByme = true ∧ k ∈ s.2.accepted

instance (s : CallEvents × Answers) (k : Option JString) : Decidable (Answered s k) :=
  inferInstanceAs (Decidable (_ ∧ _))

/-- The call that an event is about: an incoming or idle report or a click that dismisses. -/
def concerns (s : CallEvents) : Label → Option (Option JString)
  | .handleMessage =>
    match s.ui.messages.head? with
    | some (.devolveEvent obj) => obj.map (·.Serailno)
    | some (.idleCall p) => some p.Serailno
    | some (.incomingCall p) => some p.Serailno
    | _ => none
  | .onClick v button _ _ _ =>
    if button = .btn_accept then none else some (s.ui.views v).mSerialNo
  | _ => none

/-- An event that is about one call leaves the others answered or not as they were. -/
def KeepsOthers (s : CallEvents × Answers) (l : Label) (u : CallEvents × Answers) : Prop :=
  ∀ k ∈ concerns s.1 l, ∀ k', k' ≠ k → (Answered u k' ↔ Answered s k')

/-- What was never accepted is not answered. -/
instance (s : CallEvents × Answers) (l : Label) (u : CallEvents × Answers) :
    Decidable (KeepsOthers s l u) :=
  decidable_of_iff (∀ k ∈ concerns s.1 l, ∀ k' ∈ s.2.accepted ++ u.2.accepted, k' ≠ k →
      (Answered u k' ↔ Answered s k')) <| by
    refine forall₂_congr fun k _ => ⟨fun h k' hne => ?_, fun h k' _ => h k'⟩
    by_cases hk' : k' ∈ s.2.accepted ++ u.2.accepted
    · exact h k' hk' hne
    · rw [List.mem_append, not_or] at hk'
      exact iff_of_false (fun ha => hk'.2 ha.2) fun ha => hk'.1 ha.2

/-- The handler takes the second stage of an active report. -/
def atActiveReport (s : CallEvents) : Label → Bool
  | .handleMessage => s.ui.messages.head?.any (·.isActiveCall)
  | _ => false

/-- The active report gives the window of an accepted call, and no other, its form during the
call. -/
def SwitchesAccepted (s : CallEvents × Answers) (l : Label) (u : CallEvents × Answers) : Prop :=
  atActiveReport s.1 l = true → ∀ a ∈ s.2.awaiting,
    (∃ v ∈ u.1.ui.mFloatViewMap.lookup a, (u.1.ui.views v).InCall) ∧
      ∀ e ∈ s.1.ui.mFloatViewMap.entries, e.1 ≠ a →
        ((u.1.ui.views e.2).InCall ↔ (s.1.ui.views e.2).InCall)

instance (s : CallEvents × Answers) (l : Label) (u : CallEvents × Answers) :
    Decidable (SwitchesAccepted s l u) :=
  inferInstanceAs (Decidable (_ → _))

/-- The call whose window an event takes away. -/
def dismissedCall (s : CallEvents) : Label → Option (Option JString)
  | .handleMessage =>
    match s.ui.messages.head? with
    | some (.idleCall p) =>
      if (s.ui.mFloatViewMap.lookup p.Serailno).isSome then some p.Serailno else none
    | _ => none
  | .onClick v button _ _ _ =>
    if button = .btn_accept then none else some (s.ui.views v).mSerialNo
  | _ => none

/-- While a call is answered no window goes but that of the accepted call, and an active report
finds the window of an accepted call to be the current one. -/
def OnlyAccepted (s : CallEvents × Answers) (l : Label) (_ : CallEvents × Answers) : Prop :=
  (∀ k ∈ dismissedCall s.1 l, s.1.ui.mIsAnsweredByme = true → ∀ k' ∈ s.2.accepted, k' = k) ∧
    (atActiveReport s.1 l = true → ∀ a ∈ s.2.awaiting,
      s.1.ui.mFloatViewMap.lookup a = s.1.ui.mFloatViewHolder)

variable {J : OrgJson} {t : JString.CaseTable} {s u : CallEvents} {a : Answers}

namespace Answers

variable {k k' : Option JString}

@[simp] theorem mem_accepted_forget : k' ∈ (a.forget k).accepted ↔ k' ∈ a.accepted ∧ k' ≠ k := by
  simp [forget]

@[simp] theorem mem_awaiting_forget : k' ∈ (a.forget k).awaiting ↔ k' ∈ a.awaiting ∧ k' ≠ k := by
  simp [forget]

theorem record_dismiss {s : CallEvents} {v : ℕ} {button : Button} (h : button ≠ .btn_accept)
    (remoteIp : Option JString) (channel : Int32) (codecs : List JString) :
    a.record s (.onClick v button remoteIp channel codecs) =
      a.forget (s.ui.views v).mSerialNo := by
  cases button with
  | btn_accept => exact absurd rfl h
  | btn_reject | btn_endcall | btn_ignore => rfl

end Answers

/-- The first stage concerns no window. -/
theorem handleDevolveMsg_sameWindows (ui : InCallUIService) (obj : Option PhoneJson) :
    SameWindows ui (ui.handleDevolveMsg obj) := by
  obtain ⟨-, heq⟩ | ⟨message, state, -, -, -, heq⟩ := handleDevolveMsg_cases ui obj
  · rw [heq]
    exact .refl ui
  · rw [heq]
    exact ⟨⟨rfl, rfl⟩, rfl, rfl, fun _ => Iff.rfl, rfl, rfl⟩

/-- To dismiss a window takes the answer of every accepted call away. -/
theorem keeps_answers_iff {k : Option JString} {ui : InCallUIService} {crashed : Bool}
    (hdismisses : Dismisses s.ui k ui) :
    (∀ k', k' ≠ k → (Answered (⟨ui, crashed⟩, a.forget k) k' ↔ Answered (s, a) k')) ↔
      ((s.ui.mFloatViewMap.lookup k).isSome = true → s.ui.mIsAnsweredByme = true →
        ∀ k' ∈ a.accepted, k' = k) := by
  simp only [Answered, hdismisses.mIsAnsweredByme, Answers.mem_accepted_forget]
  cases hv : s.ui.mFloatViewMap.lookup k with
  | none => simp +contextual
  | some v =>
      simp only [Option.isNone_some, Bool.and_false, Bool.false_eq_true, false_and, false_iff,
        Option.isSome_some, true_implies, not_and]
      constructor
      · intro hkeeps hanswered k' hk'
        by_contra hne
        exact hkeeps k' hne hanswered hk'
      · intro honly k' hne hanswered hk'
        exact hne (honly hanswered k' hk')

theorem keepsOthers_iff (h : Invariant s) {l : Label} (hs : s.step J t l = some u) :
    KeepsOthers (s, a) l (u, a.record s l) ↔ ∀ k ∈ dismissedCall s l,
      s.ui.mIsAnsweredByme = true → ∀ k' ∈ a.accepted, k' = k := by
  obtain ⟨heffect, -⟩ := effect_of_step h hs
  cases heffect with
  | onMessage | onServiceConnected => simp [KeepsOthers, concerns, dismissedCall]
  | @devolveEvent obj messages hm =>
      simp [KeepsOthers, dismissedCall, hm, Answered, Answers.record,
        (handleDevolveMsg_sameWindows _ obj).mIsAnsweredByme]
  | @idleCall p messages ui hm hquiet hdismisses hcalls hstops =>
      simpa [KeepsOthers, concerns, dismissedCall, Answers.record, hm] using
        keeps_answers_iff hdismisses
  | @incomingCall p messages ui hm hquiet hrings =>
      simp [KeepsOthers, dismissedCall, hm, Answered, Answers.record, hrings.mIsAnsweredByme]
  | activeCall hm => simp [KeepsOthers, concerns, dismissedCall, hm]
  | accept => simp [KeepsOthers, concerns, dismissedCall]
  | @dismiss v button remoteIp channel codecs ui hv hbutton hquiet hdismisses hcalls =>
      have hlookup := h.wellFormed.lookup_of_attached hv
      simpa [KeepsOthers, concerns, dismissedCall, hbutton, hlookup,
        Answers.record_dismiss hbutton] using keeps_answers_iff hdismisses

/-- As long as no answer is lost, what was accepted waits in a window of its own that does not
have the form of a call yet. -/
structure Waits (s : CallEvents × Answers) : Prop where
  invariant : Invariant s.1
  accepted : ∀ k ∈ s.2.awaiting, k ∈ s.2.accepted
  answered : ∀ k ∈ s.2.awaiting, s.1.ui.mIsAnsweredByme = true
  window : ∀ k ∈ s.2.awaiting, ∃ v, s.1.ui.mFloatViewMap.lookup k = some v ∧
    ¬ (s.1.ui.views v).InCall

/-- The current window, and no other, gets the form that a window has during a call. -/
theorem inCall_activeCall_iff {ui w : InCallUIService} (h : ui.activeCall = some w)
    (hanswered : ui.mIsAnsweredByme = true) :
    w.mFloatViewMap = ui.mFloatViewMap ∧
      ∀ v, (w.views v).InCall ↔ ui.mFloatViewHolder = some v ∨ (ui.views v).InCall := by
  obtain ⟨hnot, -⟩ | ⟨v, text, -, hholder, -, rfl⟩ := activeCall_cases h
  · simp [hanswered] at hnot
  · refine ⟨rfl, fun v' => ?_⟩
    rw [hholder]
    by_cases hv : v' = v
    · subst hv
      simp [updateView, FloatViewHolder.InCall]
    · simp [updateView, hv, Ne.symm hv]

theorem Waits.switchesAccepted_iff (h : Waits (s, a)) {l : Label}
    (hs : s.step J t l = some u) :
    SwitchesAccepted (s, a) l (u, a.record s l) ↔ (atActiveReport s l = true →
      ∀ k ∈ a.awaiting, s.ui.mFloatViewMap.lookup k = s.ui.mFloatViewHolder) := by
  refine imp_congr_right fun hreport => forall₂_congr fun k hk => ?_
  have hinv : Invariant s := h.invariant
  obtain ⟨heffect, -⟩ := effect_of_step hinv hs
  cases heffect with
  | onMessage | onServiceConnected | accept | dismiss => simp [atActiveReport] at hreport
  | devolveEvent hm | idleCall hm | incomingCall hm =>
      simp [atActiveReport, hm, HandlerMessage.isActiveCall] at hreport
  | @activeCall p messages ui hm hquiet hactive =>
      obtain ⟨v, hv, hnot⟩ := h.window k hk
      obtain ⟨hmap, hviews⟩ := inCall_activeCall_iff hactive (h.answered k hk)
      simp only [hmap, hv, hviews]
      constructor
      · rintro ⟨⟨w, hw, hin⟩, -⟩
        obtain rfl := Option.some.inj hw
        exact (hin.resolve_right hnot).symm
      · intro hholder
        refine ⟨⟨v, rfl, .inl hholder.symm⟩, fun e he hne => or_iff_right fun he' => ?_⟩
        -- two calls do not share a window
        obtain rfl : v = e.2 := Option.some.inj (hholder.trans he')
        have hlookup := AList.mem_lookup_iff.mpr he
        exact hne ((hinv.wellFormed.serial_of_lookup _ _ hlookup).symm.trans
          (hinv.wellFormed.serial_of_lookup _ _ hv))

/-- The window of a call that waits stays, and so does the answer. -/
theorem Waits.of_dismisses (h : Waits (s, a)) {k : Option JString} {ui : InCallUIService}
    (hinv : Invariant ⟨ui, false⟩) (hdismisses : Dismisses s.ui k ui)
    (honly : (s.ui.mFloatViewMap.lookup k).isSome = true → s.ui.mIsAnsweredByme = true →
      ∀ k' ∈ a.accepted, k' = k) : Waits (⟨ui, false⟩, a.forget k) where
  invariant := hinv
  accepted := by
    intro k' hk'
    obtain ⟨hk', hne⟩ := Answers.mem_awaiting_forget.mp hk'
    exact Answers.mem_accepted_forget.mpr ⟨h.accepted k' hk', hne⟩
  answered := by
    intro k' hk'
    obtain ⟨hk', hne⟩ := Answers.mem_awaiting_forget.mp hk'
    have hanswered := h.answered k' hk'
    rw [hdismisses.mIsAnsweredByme, hanswered, Bool.true_and, Option.isNone_iff_eq_none,
      ← Option.not_isSome_iff_eq_none]
    exact fun hsome => hne (honly hsome hanswered k' (h.accepted k' hk'))
  window := by
    intro k' hk'
    obtain ⟨hk', hne⟩ := Answers.mem_awaiting_forget.mp hk'
    obtain ⟨v, hv, hnot⟩ := h.window k' hk'
    exact ⟨v, (hdismisses.lookup_iff k' v).mpr ⟨hne, hv⟩,
      fun hin => hnot ((hdismisses.inCall_iff v).mp hin)⟩

/-- What concerns no window that waits. -/
theorem Waits.of_same (h : Waits (s, a)) (hinv : Invariant u)
    (hanswered : u.ui.mIsAnsweredByme = s.ui.mIsAnsweredByme)
    (hlookup : ∀ k v, s.ui.mFloatViewMap.lookup k = some v →
      u.ui.mFloatViewMap.lookup k = some v ∧ ((u.ui.views v).InCall ↔ (s.ui.views v).InCall)) :
    Waits (u, a) where
  invariant := hinv
  accepted := h.accepted
  answered := fun k hk => hanswered.trans (h.answered k hk)
  window := by
    intro k hk
    obtain ⟨v, hv, hnot⟩ := h.window k hk
    obtain ⟨hv', hin⟩ := hlookup k v hv
    exact ⟨v, hv', fun h' => hnot (hin.mp h')⟩

theorem Waits.accept (h : Waits (s, a)) {v : ℕ} (hv : v ∈ s.ui.attached) {ui : InCallUIService}
    (hinv : Invariant ⟨ui, false⟩)
    (hwindows : SameWindows { s.ui with mIsAnsweredByme := true } ui) :
    Waits (⟨ui, false⟩, a.accept (s.ui.views v).mSerialNo (decide (s.ui.views v).InCall)) where
  invariant := hinv
  accepted := by
    intro k hk
    simp only [Answers.accept] at hk ⊢
    split at hk
    · exact List.mem_cons_of_mem _ (h.accepted k hk)
    · rcases List.mem_cons.mp hk with rfl | hk
      · exact List.mem_cons_self
      · exact List.mem_cons_of_mem _ (h.accepted k hk)
  answered := fun _ _ => hwindows.mIsAnsweredByme
  window := by
    intro k hk
    have hwindow : ∃ w, s.ui.mFloatViewMap.lookup k = some w ∧ ¬ (s.ui.views w).InCall := by
      simp only [Answers.accept] at hk
      split at hk
      · exact h.window k hk
      · rename_i hin
        rcases List.mem_cons.mp hk with rfl | hk
        · exact ⟨v, h.invariant.wellFormed.lookup_of_attached hv, by simpa using hin⟩
        · exact h.window k hk
    obtain ⟨w, hw, hnot⟩ := hwindow
    exact ⟨w, hwindows.mFloatViewMap ▸ hw, fun hin => hnot ((hwindows.inCall_iff w).mp hin)⟩

theorem waits_init : Waits (init, .new) where
  invariant := invariant_init
  accepted := fun _ h => absurd h List.not_mem_nil
  answered := fun _ h => absurd h List.not_mem_nil
  window := fun _ h => absurd h List.not_mem_nil

theorem Waits.of_step (h : Waits (s, a)) {l : Label} (hs : s.step J t l = some u)
    (honly : OnlyAccepted (s, a) l (u, a.record s l)) : Waits (u, a.record s l) := by
  have hwf : s.ui.WellFormed := h.invariant.wellFormed
  obtain ⟨heffect, hinv⟩ := effect_of_step (show Invariant s from h.invariant) hs
  have hdismissed := honly.1
  cases heffect with
  | onMessage hposts | onServiceConnected hposts =>
      obtain ⟨_, _, _, _, _, rfl⟩ := hposts
      exact h.of_same hinv rfl fun k v hv => ⟨hv, Iff.rfl⟩
  | @devolveEvent obj messages hm =>
      simp only [Answers.record, hm, List.head?_cons]
      have hsame := handleDevolveMsg_sameWindows (s.taken messages) obj
      exact h.of_same hinv hsame.mIsAnsweredByme fun k v hv =>
        ⟨hsame.mFloatViewMap ▸ hv, hsame.inCall_iff v⟩
  | @idleCall p messages ui hm hquiet hdismisses hcalls hstops =>
      simp only [Answers.record, hm, List.head?_cons]
      refine h.of_dismisses hinv hdismisses fun hsome => hdismissed p.Serailno ?_
      simp [dismissedCall, hm, hsome]
  | @incomingCall p messages ui hm hquiet hrings =>
      simp only [Answers.record, hm, List.head?_cons]
      refine h.of_same hinv hrings.mIsAnsweredByme fun k v hv => ⟨hrings.lookup_of_some k v hv, ?_⟩
      exact hrings.inCall_iff v (hwf.attached_created v (hwf.attached_of_lookup hv))
  | @activeCall p messages ui hm hquiet hactive =>
      simp only [Answers.record, hm, List.head?_cons]
      exact ⟨hinv, fun _ hk => absurd hk List.not_mem_nil, fun _ hk => absurd hk List.not_mem_nil,
        fun _ hk => absurd hk List.not_mem_nil⟩
  | accept hv hquiet hwindows hcalls => exact h.accept hv hinv hwindows
  | @dismiss v button remoteIp channel codecs ui hv hbutton hquiet hdismisses hcalls =>
      rw [Answers.record_dismiss hbutton]
      refine h.of_dismisses hinv hdismisses fun _ => hdismissed _ ?_
      simp [dismissedCall, hbutton]

/-- However messages of any kind and clicks follow one another, every event that is about one
call leaves the answers to the others alone and every active report after an accepted call is
shown in the window of that call, if and only if no window of another call is dismissed while
a call is answered and the current window is that of the accepted call when an active report
comes. -/
theorem answers_kept_iff (J : OrgJson) (t : JString.CaseTable) (ls : List Label) :
    Along (withHistory (step J t) Answers.record)
        (fun s l u => KeepsOthers s l u ∧ SwitchesAccepted s l u) (init, .new) ls ↔
      Along (withHistory (step J t) Answers.record) OnlyAccepted (init, .new) ls := by
  refine (along_congr (I := Waits) ?_ ?_ waits_init ls).symm
  · rintro ⟨s, a⟩ l ⟨u, b⟩ h hs honly
    obtain ⟨hs, rfl⟩ := withHistory_eq_some.mp hs
    exact h.of_step hs honly
  · rintro ⟨s, a⟩ l ⟨u, b⟩ h hs
    obtain ⟨hs, rfl⟩ := withHistory_eq_some.mp hs
    exact (and_congr (keepsOthers_iff h.invariant hs) (h.switchesAccepted_iff hs)).symm

/-- Two calls ring, the user accepts the first and ignores the second. -/
theorem ignored_call_takes_answer :
    ¬ Along (withHistory (step noJson .ascii) Answers.record)
        (fun s l u => KeepsOthers s l u ∧ SwitchesAccepted s l u) (init, .new)
      ([.onMessage (some (CollaborationService.packPhoneJson 1 (some (JString.lit "10086")))),
        .onServiceConnected,
        .onMessage (some (CollaborationService.packPhoneJson 1 (some (JString.lit "10010"))))] ++
      List.replicate 4 .handleMessage ++
      [.onClick 0 .btn_accept none 0 [], .onClick 1 .btn_ignore none 0 []]) := by
  decide

-- the second call rings last, so its window gets the form of a call when the first is accepted
example : ¬ Along (withHistory (step noJson .ascii) Answers.record) SwitchesAccepted (init, .new)
    ([.onMessage (some (CollaborationService.packPhoneJson 1 (some (JString.lit "10086")))),
        .onServiceConnected,
        .onMessage (some (CollaborationService.packPhoneJson 1 (some (JString.lit "10010"))))] ++
      List.replicate 4 .handleMessage ++
      [.onClick 0 .btn_accept none 0 [],
        .onMessage (some (CollaborationService.packPhoneJson 2 (some (JString.lit "10086")))),
        .handleMessage, .handleMessage]) := by
  decide

end Collaboration.CallEvents
