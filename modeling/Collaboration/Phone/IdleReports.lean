import Collaboration.Phone.CallReports

/-! # What an idle report leaves behind

The server reports the state of the phone, the client keeps one entry for each number. An idle
report takes away the entry of its own number only. -/

namespace Collaboration.CallReports

open Transition InCallUIService

/-- The handler takes the second stage of an idle report. -/
def atIdleReport (s : CallReports) (l : Label) : Bool :=
  l == .handleMessage && s.ui.messages.head?.any fun message => message.isIdleCall

/-- After the second stage of an idle report there is no call and no window, and the audio is
stopped. -/
def IdleClears (s : CallReports) (l : Label) (u : CallReports) : Prop :=
  s.atIdleReport l = true →
    u.crashed = false ∧ u.ui.mCallManager.getCallsCount = 0 ∧ u.ui.mFloatViewMap.keys = [] ∧
      u.ui.mAudioManager.voERunning = false

instance (s : CallReports) (l : Label) (u : CallReports) : Decidable (IdleClears s l u) :=
  inferInstanceAs (Decidable (_ → _))

/-- An idle callback whose report goes through the second stage has the number of every callback
that rang since the idle callback before it. -/
def NamesItsCalls (s : CallReports) (l : Label) (_ : CallReports) : Prop :=
  s.atIdleReport l = true → ∀ idle ∈ s.callbacks[s.handled]?,
    ∀ cb ∈ Callback.sinceIdle (s.callbacks.take s.handled), cb.state = .RINGING →
      cb.number = idle.number

variable {J : OrgJson} {t : JString.CaseTable} {s u : CallReports}

inductive Steps (J : OrgJson) (t : JString.CaseTable) (s : CallReports) :
    Label → CallReports → Prop where
  | onCallStateChanged (cb : Callback) :
      Steps J t s (.onCallStateChanged cb) (s.onCallStateChanged cb)
  | deliver {dataObj transit} (htransit : s.transit = dataObj :: transit) :
      Steps J t s .deliver
        { s with transit := transit, ui := s.ui.onPhoneMessage J t (some dataObj) }
  | onServiceConnected :
      Steps J t s .onServiceConnected { s with ui := s.ui.onServiceConnected }
  | handleMessage {message messages} (hmessages : s.ui.messages = message :: messages) :
      Steps J t s .handleMessage (s.handleMessage message messages)
  | onClick {v : ℕ} (hv : v ∈ s.ui.attached) (button : Button) (remoteIp : Option JString)
      (channel : Int32) (codecs : List JString) :
      Steps J t s (.onClick v button remoteIp channel codecs)
        (s.finish (s.ui.onClick v button remoteIp channel codecs))

theorem steps_of_step {l : Label} (h : s.step J t l = some u) : Steps J t s l u := by
  unfold step at h
  split at h
  · cases h
  · cases l with
    | onCallStateChanged cb =>
        obtain rfl := Option.some.inj h
        exact .onCallStateChanged cb
    | deliver =>
        simp only at h
        split at h
        · cases h
        · rename_i htransit
          obtain rfl := Option.some.inj h
          exact .deliver htransit
    | onServiceConnected =>
        simp only at h
        split at h
        · obtain rfl := Option.some.inj h
          exact .onServiceConnected
        · cases h
    | handleMessage =>
        simp only at h
        split at h
        · cases h
        · rename_i hmessages
          obtain rfl := Option.some.inj h
          exact .handleMessage hmessages
    | onClick v button remoteIp channel codecs =>
        simp only at h
        split at h
        · rename_i hv
          obtain rfl := Option.some.inj h
          exact .onClick hv button remoteIp channel codecs
        · cases h

theorem Invariant.of_step (h : Invariant s) {l : Label} (hs : s.step J t l = some u) :
    Invariant u := by
  cases steps_of_step hs with
  | onCallStateChanged cb => exact h.onCallStateChanged cb
  | deliver htransit => exact h.deliver htransit
  | onServiceConnected => exact h.onServiceConnected
  | @handleMessage message messages hmessages =>
      cases hsecond : message.isDevolveEvent with
      | true =>
          cases message with
          | devolveEvent obj => exact (h.devolveEvent hmessages).1
          | idleCall | incomingCall | activeCall => cases hsecond
      | false =>
          obtain ⟨cb, ui, -, -, heq, hinv, -⟩ := h.secondStage hmessages hsecond
          exact heq ▸ hinv
  | onClick hv button remoteIp channel codecs =>
      obtain ⟨ui, heq, hinv, -⟩ := h.onClick hv button remoteIp channel codecs
      exact heq ▸ hinv

/-! ## The calls are those that rang -/

theorem CallsRang.of_same (h : CallsRang s)
    (hcalls : u.ui.mCallManager = s.ui.mCallManager)
    (htake : u.callbacks.take u.handled = s.callbacks.take s.handled) : CallsRang u := by
  intro k
  rw [hcalls, htake]
  exact h k

theorem onPhoneMessage_mCallManager (h : Invariant s) (dataObj : Option JSONObject) :
    (s.ui.onPhoneMessage J t dataObj).mCallManager = s.ui.mCallManager := by
  obtain ⟨_, _, _, _, heq, -⟩ := onPhoneMessage_eq (J := J) (t := t) h.unset dataObj
  rw [heq]

/-- A report that is handled adds its callback to those handled. -/
theorem CallsRang.afterReport (h : CallsRang s) {cb : Callback}
    (hcb : s.callbacks[s.handled]? = some cb) {ui : InCallUIService}
    (hcalls : AfterReport cb s.ui.mCallManager ui.mCallManager)
    (hempty : cb.state = .IDLE → ui.mCallManager.getCallsCount = 0) :
    CallsRang { s with ui := ui, handled := s.handled + 1 } := by
  intro k
  have htake : s.callbacks.take (s.handled + 1) = s.callbacks.take s.handled ++ [cb] := by
    rw [List.take_add_one, hcb]
    rfl
  rw [htake, Callback.sinceIdle_concat]
  cases hstate : cb.state with
  | IDLE =>
      have hnone := CallManager.getCallsCount_eq_zero_iff.mp (hempty hstate) k
      simpa using hnone
  | RINGING =>
      rw [hcalls k, hstate]
      simp [h k, hstate, eq_comm]
  | OFFHOOK =>
      rw [hcalls k, hstate]
      simp [h k, hstate]

/-- An idle report leaves no call if and only if its number is that of every call. -/
theorem CallsRang.idle_iff (h : CallsRang s) {cb : Callback} (hstate : cb.state = .IDLE)
    {ui : InCallUIService} (hcalls : AfterReport cb s.ui.mCallManager ui.mCallManager) :
    ui.mCallManager.getCallsCount = 0 ↔
      ∀ r ∈ Callback.sinceIdle (s.callbacks.take s.handled), r.state = .RINGING →
        r.number = cb.number := by
  simp only [AfterReport, hstate] at hcalls
  rw [CallManager.getCallsCount_eq_zero_iff]
  constructor
  · intro hnone r hr hring
    by_contra hne
    refine hnone (some r.number) ((hcalls _).mpr ⟨?_, (h _).mpr ⟨r, hr, hring, rfl⟩⟩)
    simpa using hne
  · intro hnumber k hk
    obtain ⟨hne, hmem⟩ := (hcalls k).mp hk
    obtain ⟨r, hr, hring, rfl⟩ := (h k).mp hmem
    exact hne (congrArg some (hnumber r hr hring))

theorem keys_of_getCallsCount {ui : InCallUIService} (h : ui.WellFormed)
    (hzero : ui.mCallManager.getCallsCount = 0) : ui.mFloatViewMap.keys = [] := by
  rw [List.eq_nil_iff_forall_not_mem]
  intro k hk
  exact CallManager.getCallsCount_eq_zero_iff.mp hzero k (h.mem_calls k (AList.mem_keys.mp hk))

theorem idleClears_iff (h : Invariant s) (hrang : CallsRang s) {l : Label}
    (hs : s.step J t l = some u) : IdleClears s l u ↔ NamesItsCalls s l u := by
  refine imp_congr_right fun hidle => ?_
  obtain ⟨hl, hhead⟩ := Bool.and_eq_true_iff.mp hidle
  obtain rfl := eq_of_beq hl
  cases steps_of_step hs with | @handleMessage message messages hmessages
  rw [hmessages] at hhead
  have hmessage : message.isIdleCall = true := hhead
  obtain ⟨cb, ui, hcb, rfl, heq, hinv, hcalls, haudio⟩ :=
    h.secondStage hmessages (HandlerMessage.isDevolveEvent_of_isIdleCall hmessage)
  have hstate := cb.isIdleCall_secondStage_iff.mp hmessage
  have hiff := hrang.idle_iff hstate hcalls
  rw [heq, hcb]
  constructor
  · rintro ⟨-, hzero, -, -⟩ idle hidle
    obtain rfl := Option.some.inj hidle
    exact hiff.mp hzero
  · intro hnames
    have hzero := hiff.mpr (hnames cb rfl)
    exact ⟨hinv.not_crashed, hzero, keys_of_getCallsCount hinv.wellFormed hzero,
      haudio hstate hzero⟩

theorem CallsRang.of_step (hrang : CallsRang s) (h : Invariant s) {l : Label}
    (hs : s.step J t l = some u) (hnames : NamesItsCalls s l u) : CallsRang u := by
  cases steps_of_step hs with
  | onCallStateChanged cb =>
      exact hrang.of_same rfl (List.take_append_of_le_length h.handled_le)
  | deliver htransit => exact hrang.of_same (onPhoneMessage_mCallManager h _) rfl
  | onServiceConnected => exact hrang.of_same (by rw [onServiceConnected_eq]) rfl
  | @handleMessage message messages hmessages =>
      cases hsecond : message.isDevolveEvent with
      | true =>
          cases message with
          | devolveEvent obj =>
              obtain ⟨-, hcalls⟩ := h.devolveEvent hmessages
              refine hrang.of_same hcalls ?_
              rfl
          | idleCall | incomingCall | activeCall => cases hsecond
      | false =>
          obtain ⟨cb, ui, hcb, hmessage, heq, hinv, hcalls, -⟩ := h.secondStage hmessages hsecond
          rw [heq]
          refine hrang.afterReport hcb hcalls ?_
          intro hstate
          refine (hrang.idle_iff hstate hcalls).mpr (hnames ?_ cb hcb)
          simpa [atIdleReport, hmessages, hmessage] using cb.isIdleCall_secondStage_iff.mpr hstate
  | onClick hv button remoteIp channel codecs =>
      obtain ⟨ui, heq, -, hcalls⟩ := h.onClick hv button remoteIp channel codecs
      rw [heq]
      exact hrang.of_same hcalls rfl

/-- However callbacks, reports and clicks follow one another, every idle report leaves the client
without calls, windows and audio if and only if each idle callback has the number of all
callbacks that rang since the last one. -/
theorem idle_report_clears_iff (J : OrgJson) (t : JString.CaseTable) (ls : List Label) :
    Along (step J t) IdleClears init ls ↔ Along (step J t) NamesItsCalls init ls :=
  (along_congr (I := fun s => Invariant s ∧ CallsRang s)
    (fun _ _ _ h hs hnames => ⟨h.1.of_step hs, h.2.of_step h.1 hs hnames⟩)
    (fun _ _ _ h hs => (idleClears_iff h.1 h.2 hs).symm) ⟨invariant_init, callsRang_init⟩ ls).symm

/-- A second call rings while the first is answered, and the idle callback has its number. -/
theorem waiting_call_leaves_first_call :
    ¬ Along (step noJson .ascii) IdleClears init
      ([.onCallStateChanged ⟨.RINGING, some (JString.lit "10086")⟩,
        .onCallStateChanged ⟨.OFFHOOK, some (JString.lit "10086")⟩,
        .onCallStateChanged ⟨.RINGING, some (JString.lit "10010")⟩,
        .onCallStateChanged ⟨.IDLE, some (JString.lit "10010")⟩,
        .deliver, .onServiceConnected, .deliver, .deliver, .deliver] ++
      List.replicate 8 .handleMessage) := by
  decide

end Collaboration.CallReports
