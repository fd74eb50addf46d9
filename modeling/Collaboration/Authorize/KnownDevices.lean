import Collaboration.Authorize.Steps

/-! # What confirmed prompts put into the known-device store

`checkPass(true)` saves whatever device the shared fields name when it gets there, which
is the confirmed one exactly if no other device was assigned to them in between. -/

namespace Collaboration.Authorize

open Transition

variable {md5 : JString → List UInt8}

/-- The saved device is the one whose prompt was confirmed. -/
def Save.Own (e : Save) : Prop :=
  Utils.getDeviceName e.confirmed = some e.deviceName ∧
    Utils.getDeviceMac e.confirmed = some e.mac

instance (e : Save) : Decidable e.Own :=
  inferInstanceAs (Decidable (_ ∧ _))

/-- The user confirmed a prompt raised for this message, with the save box checked. -/
def Confirmed (s : ApplicationManager) (message : JString) : Prop :=
  ∃ i < s.count, (s.calls i).message = message ∧ (s.calls i).answer = some true ∧
    (s.calls i).saveDeviceInfo = true

/-- The calls that last assigned the shared fields are requests of the given device. -/
def FieldsOf (s : ApplicationManager) (message : JString) : Prop :=
  (s.nameWriter.bind fun w => Utils.getDeviceName (s.calls w).message) =
      Utils.getDeviceName message ∧
    (s.macWriter.bind fun w => Utils.getDeviceMac (s.calls w).message) =
      Utils.getDeviceMac message

instance (s : ApplicationManager) (message : JString) : Decidable (FieldsOf s message) :=
  inferInstanceAs (Decidable (_ ∧ _))

/-- When `checkPass(true)` gets to `saveKnownDevice`, no request of another device has
assigned the shared fields since the confirmed one did. -/
def SaveUndisturbed (s : ApplicationManager) : Label → ApplicationManager → Prop
  | .save, _ => ∀ i ∈ s.saving, FieldsOf s (s.calls i).message
  | _, _ => True

instance (s : ApplicationManager) (l : Label) (t : ApplicationManager) :
    Decidable (SaveUndisturbed s l t) :=
  match l with
  | .save => inferInstanceAs (Decidable (∀ i ∈ s.saving, FieldsOf s (s.calls i).message))
  | .setAuthorize | .call _ | .assignName _ | .assignMac _ | .check _ | .returnKnown _ | .enter _
  | .answer _ _ _ _ | .resume _ => .isTrue trivial

/-- The store after a list of saves. -/
def storeAfter (md5 : JString → List UInt8) (saver : KnownDeviceSaver) (saves : List Save) :
    KnownDeviceSaver :=
  saves.foldl (fun k e => saveKnownDevice md5 k e.deviceName e.mac) saver

/-! ## Who wrote the shared fields -/

/-- A call that got past the assignments has left writers behind. -/
def PastAssignments (pc : AuthorizePc) : Prop :=
  pc = .checking ∨ pc = .unknown ∨ pc = .waiting ∨ pc = .notified

structure WriterInv (s : ApplicationManager) : Prop where
  name : ∀ w ∈ s.nameWriter, w < s.count ∧
    Utils.getDeviceName (s.calls w).message = some s.mDeviceName
  mac : ∀ w ∈ s.macWriter, w < s.count ∧
    Utils.getDeviceMac (s.calls w).message = some s.mDeviceMac
  named : ∀ i, (s.calls i).pc = .named → s.nameWriter.isSome
  past : ∀ i, PastAssignments (s.calls i).pc ∨ (s.calls i).prompt.isSome = true →
    s.nameWriter.isSome ∧ s.macWriter.isSome
  saving : ∀ i ∈ s.saving, i < s.count ∧ (s.calls i).prompt.isSome = true ∧
    (s.calls i).answer = some true ∧ (s.calls i).saveDeviceInfo = true
  idle : ∀ i, s.count ≤ i → s.calls i = .idle

theorem writerInv_init (checker : Bool) (name mac : JString) (saver : KnownDeviceSaver) :
    WriterInv (.init checker name mac saver) := by
  refine ⟨by simp [ApplicationManager.init], by simp [ApplicationManager.init], ?_, ?_,
    by simp [ApplicationManager.init], fun _ _ => rfl⟩
  · intro i h
    simp [ApplicationManager.init, AuthorizeCall.idle] at h
  · intro i h
    simp [ApplicationManager.init, AuthorizeCall.idle, PastAssignments] at h

theorem WriterInv.lt_count {s : ApplicationManager} (h : WriterInv s) {i : CallId}
    (hpc : (s.calls i).pc ≠ .idle) : i < s.count := by
  by_contra hi
  exact hpc (by rw [h.idle i (Nat.le_of_not_lt hi)]; rfl)

/-- The fields belong to a device exactly if its message was the last to be written. -/
theorem WriterInv.fieldsOf_iff {s : ApplicationManager} (h : WriterInv s)
    (hn : s.nameWriter.isSome) (hm : s.macWriter.isSome) (message : JString) :
    FieldsOf s message ↔ Utils.getDeviceName message = some s.mDeviceName ∧
      Utils.getDeviceMac message = some s.mDeviceMac := by
  obtain ⟨w, hw⟩ := Option.isSome_iff_exists.mp hn
  obtain ⟨v, hv⟩ := Option.isSome_iff_exists.mp hm
  simp only [FieldsOf, hw, hv, Option.bind_some, (h.name w hw).2, (h.mac v hv).2]
  exact and_congr eq_comm eq_comm

/-- What a step does to the message and the answer of a call that has begun. -/
structure Keeps (c d : AuthorizeCall) : Prop where
  message : d.message = c.message
  answer : ∀ a, c.answer = some a → d.answer = some a
  save : c.answer ≠ none → d.saveDeviceInfo = c.saveDeviceInfo

theorem Keeps.refl (c : AuthorizeCall) : Keeps c c := ⟨rfl, fun _ h => h, fun _ => rfl⟩

theorem Confirmed.mono {s t : ApplicationManager} {message : JString} (h : Confirmed s message)
    (hcount : s.count ≤ t.count) (hk : ∀ i < s.count, Keeps (s.calls i) (t.calls i)) :
    Confirmed t message := by
  obtain ⟨i, hi, hm, ha, hs⟩ := h
  have hki := hk i hi
  exact ⟨i, Nat.lt_of_lt_of_le hi hcount, hki.message.trans hm, hki.answer _ ha,
    (hki.save (by simp [ha])).trans hs⟩

/-- One call moves on, and the shared fields keep their writers or are written by it. -/
structure Moves (s : ApplicationManager) (i : CallId) (t : ApplicationManager) : Prop where
  calls : t.calls = Function.update s.calls i (t.calls i)
  count : t.count = s.count
  begun : i < s.count
  keeps : Keeps (s.calls i) (t.calls i)
  prompted : (s.calls i).prompt.isSome = true → (t.calls i).prompt.isSome = true
  name : t.nameWriter = s.nameWriter ∧ t.mDeviceName = s.mDeviceName ∨
    t.nameWriter = some i ∧ Utils.getDeviceName (t.calls i).message = some t.mDeviceName
  mac : t.macWriter = s.macWriter ∧ t.mDeviceMac = s.mDeviceMac ∨
    t.macWriter = some i ∧ Utils.getDeviceMac (t.calls i).message = some t.mDeviceMac
  named : (t.calls i).pc = .named → t.nameWriter.isSome
  past : PastAssignments (t.calls i).pc ∨ (t.calls i).prompt.isSome = true →
    t.nameWriter.isSome ∧ t.macWriter.isSome
  saving : ∀ j ∈ t.saving, j ∈ s.saving ∨ j = i ∧ (t.calls i).prompt.isSome = true ∧
    (t.calls i).answer = some true ∧ (t.calls i).saveDeviceInfo = true

theorem Moves.keeps_all {s t : ApplicationManager} {i : CallId} (h : Moves s i t) (j : CallId) :
    Keeps (s.calls j) (t.calls j) := by
  by_cases hj : j = i
  · rw [hj]
    exact h.keeps
  · rw [h.calls, Function.update_of_ne hj]
    exact .refl _

theorem Moves.writer_isSome {s t : ApplicationManager} {i : CallId} (h : Moves s i t) :
    (s.nameWriter.isSome → t.nameWriter.isSome) ∧ (s.macWriter.isSome → t.macWriter.isSome) := by
  constructor
  · rcases h.name with ⟨hn, -⟩ | ⟨hn, -⟩ <;> simp [hn]
  · rcases h.mac with ⟨hm, -⟩ | ⟨hm, -⟩ <;> simp [hm]

theorem WriterInv.move {s t : ApplicationManager} {i : CallId} (h : WriterInv s)
    (hm : Moves s i t) : WriterInv t := by
  have hi := hm.begun
  have hother : ∀ j, j ≠ i → t.calls j = s.calls j := fun j hj => by
    rw [hm.calls, Function.update_of_ne hj]
  refine ⟨?_, ?_, ?_, ?_, ?_, ?_⟩
  · intro w hw
    rw [hm.count, (hm.keeps_all w).message]
    rcases hm.name with ⟨hn, hd⟩ | ⟨hn, hd⟩
    · rw [hd]
      exact h.name w (hn ▸ hw)
    · obtain rfl : i = w := by simpa [hn] using hw
      exact ⟨hi, hm.keeps.message ▸ hd⟩
  · intro w hw
    rw [hm.count, (hm.keeps_all w).message]
    rcases hm.mac with ⟨hn, hd⟩ | ⟨hn, hd⟩
    · rw [hd]
      exact h.mac w (hn ▸ hw)
    · obtain rfl : i = w := by simpa [hn] using hw
      exact ⟨hi, hm.keeps.message ▸ hd⟩
  · intro j hj
    by_cases hji : j = i
    · exact hm.named (hji ▸ hj)
    · exact hm.writer_isSome.1 (h.named j (hother j hji ▸ hj))
  · intro j hj
    by_cases hji : j = i
    · exact hm.past (hji ▸ hj)
    · have hs := h.past j (hother j hji ▸ hj)
      exact ⟨hm.writer_isSome.1 hs.1, hm.writer_isSome.2 hs.2⟩
  · intro j hj
    rw [hm.count]
    rcases hm.saving j hj with hs | ⟨rfl, hp⟩
    · obtain ⟨hlt, hpr, ha, hsv⟩ := h.saving j hs
      have hk := hm.keeps_all j
      refine ⟨hlt, ?_, hk.answer _ ha, (hk.save (by simp [ha])).trans hsv⟩
      by_cases hji : j = i
      · exact hji ▸ hm.prompted (hji ▸ hpr)
      · rw [hother j hji]
        exact hpr
    · exact ⟨hi, hp⟩
  · intro j hj
    rw [hm.count] at hj
    have hji : j ≠ i := fun e => Nat.not_lt.mpr hj (e ▸ hi)
    rw [hother j hji]
    exact h.idle j hj

/-- A move that touches neither the shared device nor the answer of the call. -/
theorem WriterInv.moves {s : ApplicationManager} (h : WriterInv s) {i : CallId}
    {c : AuthorizeCall} {result : Bool} (hbegun : i < s.count)
    (hmessage : c.message = (s.calls i).message) (hanswer : c.answer = (s.calls i).answer)
    (hsave : c.saveDeviceInfo = (s.calls i).saveDeviceInfo)
    (hprompted : c.prompt = (s.calls i).prompt ∨
      c.prompt.isSome = true ∧ PastAssignments (s.calls i).pc) (hnamed : c.pc ≠ .named)
    (hpast : PastAssignments c.pc → PastAssignments (s.calls i).pc) :
    Moves s i ({ s with mCheckResult := result }.setCall i c) := by
  constructor
  · simp [ApplicationManager.setCall]
  · rfl
  · exact hbegun
  · exact ⟨by simp [hmessage], by simp [hanswer], by simp [hsave]⟩
  · intro hp
    rcases hprompted with h | h <;> simp [h, hp]
  · exact .inl ⟨rfl, rfl⟩
  · exact .inl ⟨rfl, rfl⟩
  · intro hpc
    simp [hnamed] at hpc
  · intro hpc
    refine h.past i ?_
    rcases hpc with hpc | hp
    · exact .inl (hpast (by simpa using hpc))
    · rcases hprompted with heq | ⟨-, hold⟩
      · exact .inr (heq ▸ by simpa using hp)
      · exact .inl hold
  · exact fun j hj => .inl hj

/-- What every step but a save does: calls keep what they recorded, nothing is saved. -/
structure Advances (s t : ApplicationManager) : Prop where
  inv : WriterInv t
  count : s.count ≤ t.count
  keeps : ∀ i < s.count, Keeps (s.calls i) (t.calls i)
  saves : t.saves = s.saves
  store : t.mKnownDeviceSaver = s.mKnownDeviceSaver

theorem WriterInv.advances {s t : ApplicationManager} {i : CallId} (h : WriterInv s)
    (hm : Moves s i t) (hsaves : t.saves = s.saves)
    (hstore : t.mKnownDeviceSaver = s.mKnownDeviceSaver) : Advances s t :=
  ⟨h.move hm, Nat.le_of_eq hm.count.symm, fun j _ => hm.keeps_all j, hsaves, hstore⟩

theorem Keeps.trans {c d e : AuthorizeCall} (h : Keeps c d) (k : Keeps d e) : Keeps c e := by
  refine ⟨k.message.trans h.message, fun a ha => k.answer a (h.answer a ha), fun hc => ?_⟩
  obtain ⟨a, ha⟩ := Option.ne_none_iff_exists'.mp hc
  exact (k.save (by simp [h.answer a ha])).trans (h.save hc)

theorem Advances.trans {s t u : ApplicationManager} (h : Advances s t) (k : Advances t u) :
    Advances s u :=
  ⟨k.inv, Nat.le_trans h.count k.count,
    fun i hi => (h.keeps i hi).trans (k.keeps i (Nat.lt_of_lt_of_le hi h.count)),
    k.saves.trans h.saves, k.store.trans h.store⟩

theorem advances_call {s : ApplicationManager} (h : WriterInv s) (message : JString) :
    Advances s { s.setCall s.count (.start message) with count := s.count + 1 } := by
  have hother : ∀ i < s.count,
      (s.setCall s.count (.start message)).calls i = s.calls i := fun i hi => by
    simp [Nat.ne_of_lt hi]
  refine ⟨⟨?_, ?_, ?_, ?_, ?_, ?_⟩, Nat.le_succ _, ?_, rfl, rfl⟩
  · intro w hw
    obtain ⟨hlt, hname⟩ := h.name w hw
    exact ⟨Nat.lt_succ_of_lt hlt, by simpa [hother w hlt] using hname⟩
  · intro w hw
    obtain ⟨hlt, hmac⟩ := h.mac w hw
    exact ⟨Nat.lt_succ_of_lt hlt, by simpa [hother w hlt] using hmac⟩
  · intro i hi
    by_cases hc : i = s.count
    · simp [hc, AuthorizeCall.start] at hi
    · exact h.named i (by simpa [hc] using hi)
  · intro i hi
    by_cases hc : i = s.count
    · simp [hc, AuthorizeCall.start, PastAssignments] at hi
    · exact h.past i (by simpa [hc] using hi)
  · intro i hi
    obtain ⟨hlt, hsaving⟩ := h.saving i hi
    exact ⟨Nat.lt_succ_of_lt hlt, by simpa [hother i hlt] using hsaving⟩
  · intro i hi
    have hc : i ≠ s.count := Nat.ne_of_gt (Nat.lt_of_succ_le hi)
    simpa [hc] using h.idle i (Nat.le_of_succ_le hi)
  · intro i hi
    exact hother i hi ▸ .refl _

theorem advances_assignName {s : ApplicationManager} {i : CallId} {name : JString}
    (h : WriterInv s) (hpc : (s.calls i).pc = .called)
    (hname : Utils.getDeviceName (s.calls i).message = some name) :
    Advances s ({ s with mDeviceName := name, nameWriter := some i }.setPc i .named) := by
  refine h.advances (i := i) ?_ rfl rfl
  constructor
  · simp [ApplicationManager.setPc, ApplicationManager.setCall]
  · rfl
  · exact h.lt_count (by simp [hpc])
  · exact ⟨by simp, by simp, by simp⟩
  · simp
  · exact .inr ⟨rfl, by simpa using hname⟩
  · exact .inl ⟨rfl, rfl⟩
  · exact fun _ => rfl
  · intro hp
    have hprompt : (s.calls i).prompt.isSome = true := by simpa [PastAssignments] using hp
    exact ⟨rfl, (h.past i (.inr hprompt)).2⟩
  · exact fun j hj => .inl hj

theorem advances_assignMac {s : ApplicationManager} {i : CallId} {mac : JString}
    (h : WriterInv s) (hpc : (s.calls i).pc = .named)
    (hmac : Utils.getDeviceMac (s.calls i).message = some mac) :
    Advances s ({ s with mDeviceMac := mac, macWriter := some i }.setPc i .checking) := by
  refine h.advances (i := i) ?_ rfl rfl
  constructor
  · simp [ApplicationManager.setPc, ApplicationManager.setCall]
  · rfl
  · exact h.lt_count (by simp [hpc])
  · exact ⟨by simp, by simp, by simp⟩
  · simp
  · exact .inl ⟨rfl, rfl⟩
  · exact .inr ⟨rfl, by simpa using hmac⟩
  · simp
  · exact fun _ => ⟨h.named i hpc, rfl⟩
  · exact fun j hj => .inl hj

theorem WriterInv.lt_count_of_prompted {s : ApplicationManager} (h : WriterInv s) {i : CallId}
    (hp : (s.calls i).prompt.isSome = true) : i < s.count := by
  by_contra hi
  simp [h.idle i (Nat.le_of_not_lt hi), AuthorizeCall.idle] at hp

theorem advances_recordAnswer {s : ApplicationManager} (h : WriterInv s) {i : CallId}
    (hp : (s.calls i).prompt.isSome = true) (ha : (s.calls i).answer = none) (result : Bool)
    (pass save : Bool) :
    Advances s { recordAnswer s i pass save with mCheckResult := result } := by
  refine h.advances (i := i) ?_ rfl rfl
  constructor
  · simp [recordAnswer, ApplicationManager.setCall]
  · rfl
  · exact h.lt_count_of_prompted hp
  · exact ⟨by simp, by simp [ha], by simp [ha]⟩
  · simp
  · exact .inl ⟨rfl, rfl⟩
  · exact .inl ⟨rfl, rfl⟩
  · intro hpc
    exact h.named i (by simpa using hpc)
  · intro _
    exact h.past i (.inr hp)
  · intro j hj
    simp only [recordAnswer, Option.mem_def, Option.ite_none_right_eq_some, Option.some.injEq]
      at hj
    obtain ⟨hs, rfl⟩ := hj
    obtain ⟨rfl, rfl⟩ := (Bool.and_eq_true _ _).mp hs
    exact .inr ⟨rfl, by simp [hp]⟩

/-- A call moves on while its prompt, its answer and the shared device stay as they are. -/
theorem WriterInv.advances_setPc {s : ApplicationManager} (h : WriterInv s) {i : CallId}
    {pc : AuthorizePc} (hpc : (s.calls i).pc ≠ .idle) (hnamed : pc ≠ .named)
    (hpast : PastAssignments pc → PastAssignments (s.calls i).pc) (result : Bool) :
    Advances s ({ s with mCheckResult := result }.setPc i pc) :=
  h.advances (h.moves (h.lt_count hpc) rfl rfl rfl (.inl rfl) hnamed hpast) rfl rfl

theorem advances_step {s t : ApplicationManager} {l : Label} (h : WriterInv s)
    (hs : step md5 s l = some t) (hl : l ≠ .save) : Advances s t := by
  cases steps_of_step hs with
  | setAuthorize =>
      exact ⟨⟨h.name, h.mac, h.named, h.past, h.saving, h.idle⟩, Nat.le_refl _,
        fun _ _ => .refl _, rfl, rfl⟩
  | call => exact advances_call h _
  | assignName hpc hname => exact advances_assignName h hpc hname
  | assignMac hpc hmac => exact advances_assignMac h hpc hmac
  | nameThrows hpc | macThrows hpc | resume hpc =>
      exact h.advances_setPc (by simp [hpc]) (by simp) (by simp [PastAssignments]) s.mCheckResult
  | @check i found known hpc _ =>
      refine h.advances (h.moves (h.lt_count (by simp [hpc])) rfl rfl rfl (.inl rfl) ?_ ?_) rfl rfl
      · cases found <;> simp
      · simp [PastAssignments, hpc]
  | returnKnown hpc | refuse hpc =>
      exact h.advances_setPc (by simp [hpc]) (by simp) (by simp [PastAssignments]) false
  | prompt hpc =>
      have hpast : PastAssignments .unknown := .inr (.inl rfl)
      exact h.advances (h.moves (h.lt_count (by simp [hpc])) rfl rfl rfl
        (.inr ⟨rfl, hpc ▸ hpast⟩) (by simp) fun _ => hpc ▸ hpast) rfl rfl
  | @answer i j pass save hprompt hanswer hwait =>
      -- the answered call moves first, then the notified one
      have hmove := advances_recordAnswer h hprompt hanswer pass pass save
      refine hmove.trans (hmove.inv.advances_setPc ?_ (by simp) ?_ pass)
      · simp [recordAnswer_pc, hwait]
      · simp [recordAnswer_pc, hwait, PastAssignments]
  | answerUnheard hprompt hanswer => exact advances_recordAnswer h hprompt hanswer _ _ _
  | save => exact (hl rfl).elim

/-! ## The saves -/

/-- A save stores the shared fields for the message whose prompt was confirmed. -/
theorem step_save {s t : ApplicationManager} (hs : step md5 s .save = some t) :
    ∃ i ∈ s.saving, t = { s with
      mKnownDeviceSaver := saveKnownDevice md5 s.mKnownDeviceSaver s.mDeviceName s.mDeviceMac
      saving := none
      saves := s.saves ++ [⟨(s.calls i).message, s.mDeviceName, s.mDeviceMac⟩] } := by
  cases steps_of_step hs with
  | save hsaving => exact ⟨_, hsaving, rfl⟩

theorem writerInv_step {s t : ApplicationManager} {l : Label} (h : WriterInv s)
    (hs : step md5 s l = some t) : WriterInv t := by
  by_cases hl : l = .save
  · subst hl
    obtain ⟨i, -, rfl⟩ := step_save hs
    exact ⟨h.name, h.mac, h.named, h.past, by simp, h.idle⟩
  · exact (advances_step h hs hl).inv

theorem own_save_iff {s t : ApplicationManager} {l : Label} (h : WriterInv s)
    (hs : step md5 s l = some t) : ∃ new, t.saves = s.saves ++ new ∧
      ((∀ e ∈ new, e.Own) ↔ SaveUndisturbed s l t) := by
  by_cases hl : l = .save
  · subst hl
    obtain ⟨i, hi, rfl⟩ := step_save hs
    refine ⟨_, rfl, ?_⟩
    have hwriters := h.past i (.inr (h.saving i hi).2.1)
    have hi' : s.saving = some i := hi
    simp [SaveUndisturbed, hi', h.fieldsOf_iff hwriters.1 hwriters.2, Save.Own]
  · refine ⟨[], by simp [(advances_step h hs hl).saves], ?_⟩
    cases l <;> simp_all [SaveUndisturbed]

/-- Every save follows a confirmed prompt, and the store is what the saves made it. -/
structure SavesConfirmed (md5 : JString → List UInt8) (saver : KnownDeviceSaver)
    (s : ApplicationManager) : Prop where
  confirmed : ∀ e ∈ s.saves, Confirmed s e.confirmed
  store : s.mKnownDeviceSaver = storeAfter md5 saver s.saves

theorem savesConfirmed_step {saver : KnownDeviceSaver} {s t : ApplicationManager} {l : Label}
    (h : WriterInv s) (hc : SavesConfirmed md5 saver s) (hs : step md5 s l = some t) :
    SavesConfirmed md5 saver t := by
  by_cases hl : l = .save
  · subst hl
    obtain ⟨i, hi, rfl⟩ := step_save hs
    obtain ⟨hlt, -, ha, hsave⟩ := h.saving i hi
    constructor
    · intro e he
      rcases List.mem_append.mp he with he | he
      · exact hc.confirmed e he
      · obtain rfl := List.mem_singleton.mp he
        exact ⟨i, hlt, rfl, ha, hsave⟩
    · simp [storeAfter, hc.store]
  · have hadv := advances_step h hs hl
    constructor
    · intro e he
      exact (hc.confirmed e (hadv.saves ▸ he)).mono hadv.count hadv.keeps
    · rw [hadv.store, hadv.saves, hc.store]

end Collaboration.Authorize
