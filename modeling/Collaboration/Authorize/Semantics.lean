import Collaboration.Library.Transition
import Collaboration.Model.Utils
import Mathlib.Logic.Function.Basic

/-! # The server's authorizer and its prompts

The part of `ApplicationManager` that connection threads run in `mAuthorizer.authorize`
and that the user interface runs in `checkPass` and `checkFail`. A step is one
synchronized block or one statement outside of them; all calls share the fields
`mCheckResult`, `mDeviceName` and `mDeviceMac`. -/

namespace Collaboration.Authorize

/-! ## The known-device store -/

section KnownDeviceSaver

/-- The shared preferences, as a map from names to encrypted macs. -/
abbrev KnownDeviceSaver := JString → Option JString

variable (md5 : JString → List UInt8)

def isKnownDevice (saver : KnownDeviceSaver) (deviceName mac : JString) : Bool :=
  let saveMac := saver deviceName
  if Utils.isEmpty saveMac then false
  else saveMac == some (Utils.createEncrypyMac md5 mac)

def saveKnownDevice (saver : KnownDeviceSaver) (deviceName mac : JString) : KnownDeviceSaver :=
  Function.update saver deviceName (some (Utils.createEncrypyMac md5 mac))

end KnownDeviceSaver

/-! ## The calls in progress -/

/-- Where a thread is inside `authorize(message)`: `unknown` stands before the synchronized
block, `waiting` inside it. -/
inductive AuthorizePc where
  | idle
  /-- before `mDeviceName = Utils.getDeviceName(message)` -/
  | called
  /-- before `mDeviceMac = Utils.getDeviceMac(message)` -/
  | named
  /-- before the test `mKnownDeviceSaver.isKnownDevice(mDeviceName, mDeviceMac)` -/
  | checking
  /-- the test succeeded, before `mCheckResult = false; return true` -/
  | known
  | unknown
  | waiting
  /-- notified, before it has the lock again and returns `mCheckResult` -/
  | notified
  | returned (result : Bool)
  /-- left by the exception of `substring` -/
  | threw
  deriving DecidableEq, Repr

/-- One call of `authorize`. The fields after `pc` belong to the observer: whether the
device was known when the call checked it, the name its prompt was raised with, what the
user answered to that prompt, and whether the save box was checked. -/
structure AuthorizeCall where
  message : JString
  pc : AuthorizePc
  wasKnown : Bool
  prompt : Option JString
  answer : Option Bool
  saveDeviceInfo : Bool
  deriving DecidableEq, Repr

def AuthorizeCall.idle : AuthorizeCall := ⟨[], .idle, false, none, none, false⟩

def AuthorizeCall.start (message : JString) : AuthorizeCall :=
  ⟨message, .called, false, none, none, false⟩

/-- A call of `saveKnownDevice`, with the message whose prompt was confirmed. -/
structure Save where
  confirmed : JString
  deviceName : JString
  mac : JString
  deriving DecidableEq, Repr

abbrev CallId := ℕ

structure ApplicationManager where
  mAuthorizeChecker : Bool
  mCheckResult : Bool
  mDeviceName : JString
  mDeviceMac : JString
  mKnownDeviceSaver : KnownDeviceSaver
  calls : CallId → AuthorizeCall
  /-- calls are numbered in the order in which they begin -/
  count : ℕ
  /-- the confirmed call of a `checkPass(true)` that has not yet saved the device -/
  saving : Option CallId
  saves : List Save
  /-- the calls that last assigned `mDeviceName` and `mDeviceMac` -/
  nameWriter : Option CallId
  macWriter : Option CallId

namespace ApplicationManager

/-- Before any call; the name and mac fields are never read before they are assigned. -/
def init (checker : Bool) (deviceName mac : JString) (saver : KnownDeviceSaver) :
    ApplicationManager where
  mAuthorizeChecker := checker
  mCheckResult := false
  mDeviceName := deviceName
  mDeviceMac := mac
  mKnownDeviceSaver := saver
  calls _ := .idle
  count := 0
  saving := none
  saves := []
  nameWriter := none
  macWriter := none

def setCall (s : ApplicationManager) (i : CallId) (c : AuthorizeCall) : ApplicationManager :=
  { s with calls := Function.update s.calls i c }

def setPc (s : ApplicationManager) (i : CallId) (pc : AuthorizePc) : ApplicationManager :=
  s.setCall i { s.calls i with pc := pc }

end ApplicationManager

inductive Label where
  | setAuthorize
  | call (message : JString)
  | assignName (i : CallId)
  | assignMac (i : CallId)
  | check (i : CallId)
  | returnKnown (i : CallId)
  | enter (i : CallId)
  /-- the user answers the prompt of call `i`; `notify` wakes the call `woken` -/
  | answer (i : CallId) (pass saveDeviceInfo : Bool) (woken : Option CallId)
  | resume (i : CallId)
  | save
  deriving DecidableEq, Repr

variable (md5 : JString → List UInt8)

/-- `onCheckFinish`: the notified thread is any one of those that wait, if there is one. -/
def onCheckFinish (s : ApplicationManager) (checkResult : Bool) (woken : Option CallId) :
    Option ApplicationManager :=
  match woken with
  | some j =>
    if (s.calls j).pc = .waiting then
      some ({ s with mCheckResult := checkResult }.setPc j .notified)
    else none
  | none =>
    if ∀ j < s.count, (s.calls j).pc ≠ .waiting then
      some { s with mCheckResult := checkResult }
    else none

/-- The synchronized block of `authorize`, up to `wait` or to its return without a checker. -/
def enter (s : ApplicationManager) (i : CallId) : ApplicationManager :=
  if s.mAuthorizeChecker then
    { s with mCheckResult := false }.setCall i
      { s.calls i with pc := .waiting, prompt := some s.mDeviceName }
  else { s with mCheckResult := false }.setPc i (.returned false)

/-- The user answers the prompt of call `i`; a save follows `checkPass(true)` only. -/
def recordAnswer (s : ApplicationManager) (i : CallId) (pass saveDeviceInfo : Bool) :
    ApplicationManager :=
  let save := pass && saveDeviceInfo
  { s.setCall i { s.calls i with answer := some pass, saveDeviceInfo := save } with
    saving := if save then some i else none }

/-- The part of `checkPass` and `checkFail` up to the end of `onCheckFinish`. -/
def answer (s : ApplicationManager) (i : CallId) (pass saveDeviceInfo : Bool)
    (woken : Option CallId) : Option ApplicationManager :=
  if (s.calls i).prompt.isSome ∧ (s.calls i).answer = none ∧ s.saving = none then
    onCheckFinish (recordAnswer s i pass saveDeviceInfo) pass woken
  else none

def step (s : ApplicationManager) : Label → Option ApplicationManager
  | .setAuthorize => some { s with mAuthorizeChecker := true }
  | .call message =>
    some { s.setCall s.count (.start message) with count := s.count + 1 }
  | .assignName i =>
    if (s.calls i).pc = .called then
      match Utils.getDeviceName (s.calls i).message with
      | some n => some ({ s with mDeviceName := n, nameWriter := some i }.setPc i .named)
      | none => some (s.setPc i .threw)
    else none
  | .assignMac i =>
    if (s.calls i).pc = .named then
      match Utils.getDeviceMac (s.calls i).message with
      | some m => some ({ s with mDeviceMac := m, macWriter := some i }.setPc i .checking)
      | none => some (s.setPc i .threw)
    else none
  | .check i =>
    if (s.calls i).pc = .checking then
      let own := do
        let n ← Utils.getDeviceName (s.calls i).message
        let m ← Utils.getDeviceMac (s.calls i).message
        return isKnownDevice md5 s.mKnownDeviceSaver n m
      let found := isKnownDevice md5 s.mKnownDeviceSaver s.mDeviceName s.mDeviceMac
      some (s.setCall i { s.calls i with
        pc := if found then .known else .unknown
        wasKnown := own == some true })
    else none
  | .returnKnown i =>
    if (s.calls i).pc = .known then
      some ({ s with mCheckResult := false }.setPc i (.returned true))
    else none
  | .enter i => if (s.calls i).pc = .unknown then some (enter s i) else none
  | .answer i pass saveDeviceInfo woken => answer s i pass saveDeviceInfo woken
  | .resume i =>
    if (s.calls i).pc = .notified then some (s.setPc i (.returned s.mCheckResult)) else none
  | .save =>
    match s.saving with
    | some i =>
      some { s with
        mKnownDeviceSaver := saveKnownDevice md5 s.mKnownDeviceSaver s.mDeviceName s.mDeviceMac
        saving := none
        saves := s.saves ++ [⟨(s.calls i).message, s.mDeviceName, s.mDeviceMac⟩] }
    | none => none

/-! ## Two devices for runs on fixed inputs -/

def phoneA : JString := JString.lit "a_00001:00001"

def phoneB : JString := JString.lit "b_00002:00002"

/-- Brings call `i` to its prompt. -/
def request (i : CallId) (message : JString) : List Label :=
  [.call message, .assignName i, .assignMac i, .check i, .enter i]

end Collaboration.Authorize
