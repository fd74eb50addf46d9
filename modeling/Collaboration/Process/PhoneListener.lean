import Collaboration.Process.Registry

/-! # The phone listener of the client's service

`ControlCenterDeamonService` is created and destroyed, `InCallUIService` sets its handler at
the listener of the instance it is bound to, and messages arrive all the while. -/

namespace Collaboration

open Transition

structure ClientProcess where
  process : Process
  /-- the listener of each `ControlCenterDeamonService` -/
  mPhoneListener : ℕ → PhoneMsgListener
  mControlService : Option ℕ

namespace ClientProcess

inductive Label where
  | onCreate
  | onDestroy
  /-- `InCallUIService` gets the binder of the service -/
  | onServiceConnected
  | clearHandler
  | onNewDataReceive (data : JString)

def init : ClientProcess := ⟨.init, fun _ => .new, none⟩

def setHandler (s : ClientProcess) (n : ℕ) (handler : Bool) : ClientProcess :=
  { s with
    mPhoneListener :=
      Function.update s.mPhoneListener n ((s.mPhoneListener n).setHandler handler) }

/-- A message; an exception of the listener changes nothing here. -/
def onNewDataReceive (J : OrgJson) (t : JString.CaseTable) (s : ClientProcess) (data : JString) :
    ClientProcess :=
  match s.process.deliver J data with
  | none => s
  | some (n, dataObj) =>
    match (s.mPhoneListener n).onMessage J t dataObj with
    | .ok listener => { s with mPhoneListener := Function.update s.mPhoneListener n listener }
    | .error _ => s

def step (J : OrgJson) (t : JString.CaseTable) (s : ClientProcess) :
    Label → Option ClientProcess
  | .onCreate => s.process.onCreate.map fun p =>
      { s with
        process := p
        mPhoneListener := Function.update s.mPhoneListener s.process.created .new }
  | .onDestroy => s.process.onDestroy.map fun p => { s with process := p }
  | .onServiceConnected => s.process.live.map fun n =>
      { s with mControlService := some n }.setHandler n true
  | .clearHandler => s.mControlService.map fun n => s.setHandler n false
  | .onNewDataReceive data => some (s.onNewDataReceive J t data)

/-- A phone message that arrives while an instance is alive is handed to the listener of this
instance. -/
def DeliversToLive (J : OrgJson) (s : ClientProcess) (l : Label) (_ : ClientProcess) : Prop :=
  ∀ data dataObj n, l = .onNewDataReceive data → Process.IsPhoneMessage J data dataObj →
    s.process.live = some n → s.process.deliver J data = some (n, dataObj)

/-- No phone message arrives while a later instance than the first is alive. -/
def FirstIsAlive (J : OrgJson) (s : ClientProcess) (l : Label) (_ : ClientProcess) : Prop :=
  ∀ data dataObj, l = .onNewDataReceive data → Process.IsPhoneMessage J data dataObj →
    s.process.live ≠ none → s.process.created = 1

variable {J : OrgJson} {t : JString.CaseTable} {s u : ClientProcess}

theorem onNewDataReceive_process (s : ClientProcess) (data : JString) :
    (s.onNewDataReceive J t data).process = s.process := by
  unfold onNewDataReceive
  split
  · rfl
  · split <;> rfl

theorem firstRegistered_of_step {l : Label} (hs : s.process.FirstRegistered)
    (h : s.step J t l = some u) : u.process.FirstRegistered := by
  cases l with
  | onCreate =>
      obtain ⟨p, hp, rfl⟩ := Option.map_eq_some_iff.mp h
      exact hs.onCreate hp
  | onDestroy =>
      obtain ⟨p, hp, rfl⟩ := Option.map_eq_some_iff.mp h
      exact hs.onDestroy hp
  | onServiceConnected | clearHandler =>
      obtain ⟨n, -, rfl⟩ := Option.map_eq_some_iff.mp h
      exact hs
  | onNewDataReceive data =>
      obtain rfl := Option.some.inj h
      rwa [onNewDataReceive_process]

theorem deliversToLive_iff {l : Label} (hs : s.process.FirstRegistered) :
    DeliversToLive J s l u ↔ FirstIsAlive J s l u := by
  constructor
  · intro h data dataObj hl hphone hlive
    obtain ⟨n, hn⟩ := Option.ne_none_iff_exists'.mp hlive
    exact (hs.deliver_live_iff hphone hn).mp (h data dataObj n hl hphone hn)
  · intro h data dataObj n hl hphone hn
    exact (hs.deliver_live_iff hphone hn).mpr (h data dataObj hl hphone (by simp [hn]))

/-- Every phone message reaches the listener of the instance that is alive if and only if none
arrives after the service was created a second time. -/
theorem phone_messages_reach_live_listener_iff (J : OrgJson) (t : JString.CaseTable)
    (ls : List Label) :
    Along (step J t) (DeliversToLive J) init ls ↔ Along (step J t) (FirstIsAlive J) init ls :=
  along_congr_of_invariant (I := fun s => s.process.FirstRegistered)
    (fun _ _ _ hs h => firstRegistered_of_step hs h)
    (fun _ _ _ hs _ => deliversToLive_iff hs) Process.firstRegistered_init ls

/-- The service is created, destroyed and created again. -/
def recreated : List Label :=
  [.onCreate, .onServiceConnected, .onDestroy, .onCreate, .onServiceConnected]

/-- The phone rings after that. -/
theorem recreated_service_gets_no_message :
    ¬ Along (step incomingCallJson .ascii) (DeliversToLive incomingCallJson) init
      (recreated ++ [.onNewDataReceive incomingCallText]) := by
  intro h
  have hphone : Process.IsPhoneMessage incomingCallJson incomingCallText
      (some (getPhoneJsonObject incomingCall)) :=
    onDeliverData_phoneEnvelope incomingCallJson (List.mem_singleton_self PHONE)
      (OrgJson.only_ofText incomingCallText _)
  have hlast := h.of_append (Option.some_get (rfl : (exec _ init recreated).isSome = true)).symm
  have hreached := hlast.1 _ _ 1 rfl hphone rfl
  rw [Process.deliver_of_isPhoneMessage _ hphone] at hreached
  cases hreached

end ClientProcess

end Collaboration
