import Collaboration.Authorize.Semantics

/-! # What the steps of the authorizer do

One inversion for the steps of all calls and prompts, and what moving one call does to the
others. -/

namespace Collaboration.Authorize

namespace ApplicationManager

@[simp] theorem setCall_calls_self (s : ApplicationManager) (i : CallId) (c : AuthorizeCall) :
    (s.setCall i c).calls i = c := by
  simp [setCall]

@[simp] theorem setCall_calls_of_ne (s : ApplicationManager) {i j : CallId} (h : j ≠ i)
    (c : AuthorizeCall) : (s.setCall i c).calls j = s.calls j := by
  simp [setCall, h]

@[simp] theorem setPc_calls_self (s : ApplicationManager) (i : CallId) (pc : AuthorizePc) :
    (s.setPc i pc).calls i = { s.calls i with pc := pc } := by
  simp [setPc]

@[simp] theorem setCall_mCheckResult (s : ApplicationManager) (i : CallId) (c : AuthorizeCall) :
    (s.setCall i c).mCheckResult = s.mCheckResult := rfl

@[simp] theorem setCall_mDeviceName (s : ApplicationManager) (i : CallId) (c : AuthorizeCall) :
    (s.setCall i c).mDeviceName = s.mDeviceName := rfl

@[simp] theorem setCall_mDeviceMac (s : ApplicationManager) (i : CallId) (c : AuthorizeCall) :
    (s.setCall i c).mDeviceMac = s.mDeviceMac := rfl

@[simp] theorem setPc_mDeviceName (s : ApplicationManager) (i : CallId) (pc : AuthorizePc) :
    (s.setPc i pc).mDeviceName = s.mDeviceName := rfl

@[simp] theorem setPc_mDeviceMac (s : ApplicationManager) (i : CallId) (pc : AuthorizePc) :
    (s.setPc i pc).mDeviceMac = s.mDeviceMac := rfl

end ApplicationManager

@[simp] theorem recordAnswer_calls_self (s : ApplicationManager) (i : CallId)
    (pass saveDeviceInfo : Bool) :
    (recordAnswer s i pass saveDeviceInfo).calls i =
      { s.calls i with answer := some pass, saveDeviceInfo := pass && saveDeviceInfo } := by
  simp [recordAnswer, ApplicationManager.setCall]

theorem recordAnswer_pc (s : ApplicationManager) (i j : CallId) (pass saveDeviceInfo : Bool) :
    ((recordAnswer s i pass saveDeviceInfo).calls j).pc = (s.calls j).pc := by
  by_cases hj : j = i
  · simp [hj]
  · simp [recordAnswer, ApplicationManager.setCall, hj]

variable {md5 : JString → List UInt8}

inductive Steps (md5 : JString → List UInt8) (s : ApplicationManager) :
    Label → ApplicationManager → Prop
  | setAuthorize : Steps md5 s .setAuthorize { s with mAuthorizeChecker := true }
  | call {message : JString} :
      Steps md5 s (.call message)
        { s.setCall s.count (.start message) with count := s.count + 1 }
  | assignName {i : CallId} {name : JString} (hpc : (s.calls i).pc = .called)
      (hname : Utils.getDeviceName (s.calls i).message = some name) :
      Steps md5 s (.assignName i)
        ({ s with mDeviceName := name, nameWriter := some i }.setPc i .named)
  | nameThrows {i : CallId} (hpc : (s.calls i).pc = .called) :
      Steps md5 s (.assignName i) (s.setPc i .threw)
  | assignMac {i : CallId} {mac : JString} (hpc : (s.calls i).pc = .named)
      (hmac : Utils.getDeviceMac (s.calls i).message = some mac) :
      Steps md5 s (.assignMac i)
        ({ s with mDeviceMac := mac, macWriter := some i }.setPc i .checking)
  | macThrows {i : CallId} (hpc : (s.calls i).pc = .named) :
      Steps md5 s (.assignMac i) (s.setPc i .threw)
  | check {i : CallId} {found known : Bool} (hpc : (s.calls i).pc = .checking)
      (hown : Utils.getDeviceName (s.calls i).message = some s.mDeviceName →
        Utils.getDeviceMac (s.calls i).message = some s.mDeviceMac → known = found) :
      Steps md5 s (.check i)
        (s.setCall i { s.calls i with
          pc := if found then .known else .unknown, wasKnown := known })
  | returnKnown {i : CallId} (hpc : (s.calls i).pc = .known) :
      Steps md5 s (.returnKnown i) ({ s with mCheckResult := false }.setPc i (.returned true))
  | prompt {i : CallId} (hpc : (s.calls i).pc = .unknown) :
      Steps md5 s (.enter i)
        ({ s with mCheckResult := false }.setCall i
          { s.calls i with pc := .waiting, prompt := some s.mDeviceName })
  | refuse {i : CallId} (hpc : (s.calls i).pc = .unknown) :
      Steps md5 s (.enter i) ({ s with mCheckResult := false }.setPc i (.returned false))
  | answer {i j : CallId} {pass saveDeviceInfo : Bool} (hprompt : (s.calls i).prompt.isSome = true)
      (hanswer : (s.calls i).answer = none) (hwait : (s.calls j).pc = .waiting) :
      Steps md5 s (.answer i pass saveDeviceInfo (some j))
        ({ recordAnswer s i pass saveDeviceInfo with mCheckResult := pass }.setPc j .notified)
  | answerUnheard {i : CallId} {pass saveDeviceInfo : Bool}
      (hprompt : (s.calls i).prompt.isSome = true) (hanswer : (s.calls i).answer = none) :
      Steps md5 s (.answer i pass saveDeviceInfo none)
        { recordAnswer s i pass saveDeviceInfo with mCheckResult := pass }
  | resume {i : CallId} (hpc : (s.calls i).pc = .notified) :
      Steps md5 s (.resume i) (s.setPc i (.returned s.mCheckResult))
  | save {i : CallId} (hsaving : s.saving = some i) :
      Steps md5 s .save
        { s with
          mKnownDeviceSaver := saveKnownDevice md5 s.mKnownDeviceSaver s.mDeviceName s.mDeviceMac
          saving := none
          saves := s.saves ++ [⟨(s.calls i).message, s.mDeviceName, s.mDeviceMac⟩] }

theorem steps_of_answer {s t : ApplicationManager} {i : CallId} {pass saveDeviceInfo : Bool}
    {woken : Option CallId} (h : answer s i pass saveDeviceInfo woken = some t) :
    Steps md5 s (.answer i pass saveDeviceInfo woken) t := by
  simp only [answer, Option.ite_none_right_eq_some] at h
  obtain ⟨⟨hprompt, hanswer, -⟩, h⟩ := h
  cases woken with
  | some j =>
      simp only [onCheckFinish, recordAnswer_pc, Option.ite_none_right_eq_some,
        Option.some.injEq] at h
      obtain ⟨hwait, rfl⟩ := h
      exact .answer hprompt hanswer hwait
  | none =>
      simp only [onCheckFinish, Option.ite_none_right_eq_some, Option.some.injEq] at h
      obtain ⟨-, rfl⟩ := h
      exact .answerUnheard hprompt hanswer

theorem steps_of_step {s t : ApplicationManager} {l : Label} (h : step md5 s l = some t) :
    Steps md5 s l t := by
  cases l with
  | setAuthorize =>
      obtain rfl := Option.some.inj h
      exact .setAuthorize
  | call message =>
      obtain rfl := Option.some.inj h
      exact .call
  | assignName i =>
      simp only [step, Option.ite_none_right_eq_some] at h
      obtain ⟨hpc, h⟩ := h
      split at h <;> obtain rfl := Option.some.inj h
      · rename_i name hname
        exact .assignName hpc hname
      · exact .nameThrows hpc
  | assignMac i =>
      simp only [step, Option.ite_none_right_eq_some] at h
      obtain ⟨hpc, h⟩ := h
      split at h <;> obtain rfl := Option.some.inj h
      · rename_i mac hmac
        exact .assignMac hpc hmac
      · exact .macThrows hpc
  | check i =>
      simp only [step, Option.ite_none_right_eq_some, Option.some.injEq] at h
      obtain ⟨hpc, rfl⟩ := h
      exact .check hpc fun hname hmac => by simp [hname, hmac]
  | returnKnown i =>
      simp only [step, Option.ite_none_right_eq_some, Option.some.injEq] at h
      obtain ⟨hpc, rfl⟩ := h
      exact .returnKnown hpc
  | enter i =>
      simp only [step, Option.ite_none_right_eq_some, Option.some.injEq] at h
      obtain ⟨hpc, rfl⟩ := h
      unfold enter
      split
      · exact .prompt hpc
      · exact .refuse hpc
  | answer i pass saveDeviceInfo woken => exact steps_of_answer h
  | resume i =>
      simp only [step, Option.ite_none_right_eq_some, Option.some.injEq] at h
      obtain ⟨hpc, rfl⟩ := h
      exact .resume hpc
  | save =>
      simp only [step] at h
      split at h
      · rename_i i hi
        obtain rfl := Option.some.inj h
        exact .save hi
      · cases h

end Collaboration.Authorize
