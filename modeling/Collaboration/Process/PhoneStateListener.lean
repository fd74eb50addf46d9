import Collaboration.Process.Registry

/-! # The telephony listener of the server's service

`CollaborationService.onCreate` registers two listeners: one for the telephony callbacks,
which `unregisterPhoneState` would undo but nothing calls, and itself for the messages of the
clients. The callbacks here are those for a change of the call state; the one that `listen` makes
at once for a new listener is not among them. -/

namespace Collaboration

open CollaborationService Transition

structure ServerProcess where
  process : Process
  /-- the instances whose `PhoneStateListener` is registered with the `TelephonyManager` -/
  listening : List ℕ
  /-- what the instances have ordered -/
  ordered : List (ℕ × Order)

namespace ServerProcess

inductive Label where
  | onCreate
  | onDestroy
  | onCallStateChanged (state : PhoneState) (incomingNumber : Option JString)
  /-- A string of a client, and what `getNetworkInfo` returns meanwhile. -/
  | onNewDataReceive (networkInfo : Option NetWorkInfo) (data : JString)

def init : ServerProcess := ⟨.init, [], []⟩

/-- The `TelephonyManager` calls every registered listener. -/
def callbackOrders (s : ServerProcess) (state : PhoneState) (incomingNumber : Option JString) :
    List (ℕ × Order) :=
  s.listening.flatMap fun n =>
    (CollaborationService.onCallStateChanged state.value incomingNumber).map (n, ·)

/-- The orders of the instance that handles a string; an exception leaves none. -/
def messageOrders (J : OrgJson) (t : JString.CaseTable) (s : ServerProcess)
    (networkInfo : Option NetWorkInfo) (data : JString) : List (ℕ × Order) :=
  match s.process.deliver J data with
  | none => []
  | some (n, dataObj) =>
    match CollaborationService.onMessage J t networkInfo dataObj with
    | .ok action => (orders action).map (n, ·)
    | .error _ => []

def step (J : OrgJson) (t : JString.CaseTable) (s : ServerProcess) :
    Label → Option ServerProcess
  | .onCreate => s.process.onCreate.map fun p =>
      { s with process := p, listening := s.listening ++ [s.process.created] }
  | .onDestroy => s.process.onDestroy.map fun p => { s with process := p }
  | .onCallStateChanged state incomingNumber =>
    some { s with ordered := s.ordered ++ s.callbackOrders state incomingNumber }
  | .onNewDataReceive networkInfo data =>
    some { s with ordered := s.ordered ++ s.messageOrders J t networkInfo data }

/-! ## What a callback sends -/

/-- While an instance is alive, a telephony callback passes one message to `sendData`, and a
phone message of a client is handled by this instance. -/
def ServesOnce (J : OrgJson) (s : ServerProcess) (l : Label) (_ : ServerProcess) : Prop :=
  ∀ n, s.process.live = some n →
    (∀ state incomingNumber, l = .onCallStateChanged state incomingNumber →
      (s.callbackOrders state incomingNumber).countP (·.2.isSendDataToClient) = 1) ∧
    ∀ networkInfo data dataObj, l = .onNewDataReceive networkInfo data →
      Process.IsPhoneMessage J data dataObj → s.process.deliver J data = some (n, dataObj)

/-- No callback and no phone message comes while a later instance than the first is alive. -/
def FirstIsAlive (J : OrgJson) (s : ServerProcess) (l : Label) (_ : ServerProcess) : Prop :=
  s.process.live ≠ none →
    (∀ state incomingNumber, l = .onCallStateChanged state incomingNumber →
      s.process.created = 1) ∧
    ∀ networkInfo data dataObj, l = .onNewDataReceive networkInfo data →
      Process.IsPhoneMessage J data dataObj → s.process.created = 1

/-- Every instance that was ever created is registered twice over. -/
structure Registered (s : ServerProcess) : Prop where
  firstRegistered : s.process.FirstRegistered
  listening_length : s.listening.length = s.process.created

variable {J : OrgJson} {t : JString.CaseTable} {s u : ServerProcess}

theorem registered_init : Registered init := ⟨Process.firstRegistered_init, rfl⟩

theorem countP_onCallStateChanged (state : PhoneState) (incomingNumber : Option JString) :
    (CollaborationService.onCallStateChanged state.value incomingNumber).countP
      Order.isSendDataToClient = 1 := by
  cases state <;> rfl

/-- Each registered listener sends one message. -/
theorem countP_callbackOrders (s : ServerProcess) (state : PhoneState)
    (incomingNumber : Option JString) :
    (s.callbackOrders state incomingNumber).countP (·.2.isSendDataToClient) =
      s.listening.length := by
  unfold callbackOrders
  induction s.listening with
  | nil => rfl
  | cons n listening ih =>
      have hone : ((CollaborationService.onCallStateChanged state.value incomingNumber).map
          (n, ·)).countP (·.2.isSendDataToClient) = 1 := by
        rw [List.countP_map]
        exact countP_onCallStateChanged state incomingNumber
      rw [List.flatMap_cons, List.countP_append, hone, ih, List.length_cons, Nat.add_comm]

theorem Registered.of_step {l : Label} (hs : Registered s) (h : s.step J t l = some u) :
    Registered u := by
  cases l with
  | onCreate =>
      obtain ⟨p, hp, rfl⟩ := Option.map_eq_some_iff.mp h
      obtain ⟨-, -, hcreated, -⟩ := Process.onCreate_spec hp
      exact ⟨hs.firstRegistered.onCreate hp, by simp [hs.listening_length, hcreated]⟩
  | onDestroy =>
      obtain ⟨p, hp, rfl⟩ := Option.map_eq_some_iff.mp h
      obtain rfl := Process.onDestroy_spec hp
      exact ⟨hs.firstRegistered.onDestroy hp, hs.listening_length⟩
  | onCallStateChanged | onNewDataReceive =>
      obtain rfl := Option.some.inj h
      exact ⟨hs.firstRegistered, hs.listening_length⟩

theorem Registered.servesOnce_iff (hs : Registered s) {l : Label} :
    ServesOnce J s l u ↔ FirstIsAlive J s l u := by
  have hsent : ∀ state incomingNumber,
      (s.callbackOrders state incomingNumber).countP (·.2.isSendDataToClient) = 1 ↔
        s.process.created = 1 := by
    intro state incomingNumber
    rw [countP_callbackOrders, hs.listening_length]
  constructor
  · intro h hlive
    obtain ⟨n, hn⟩ := Option.ne_none_iff_exists'.mp hlive
    obtain ⟨hcallback, hmessage⟩ := h n hn
    refine ⟨?_, ?_⟩
    · intro state incomingNumber hl
      exact (hsent state incomingNumber).mp (hcallback state incomingNumber hl)
    · intro networkInfo data dataObj hl hphone
      exact (hs.firstRegistered.deliver_live_iff hphone hn).mp
        (hmessage networkInfo data dataObj hl hphone)
  · intro h n hn
    obtain ⟨hcallback, hmessage⟩ := h (by simp [hn])
    refine ⟨?_, ?_⟩
    · intro state incomingNumber hl
      exact (hsent state incomingNumber).mpr (hcallback state incomingNumber hl)
    · intro networkInfo data dataObj hl hphone
      exact (hs.firstRegistered.deliver_live_iff hphone hn).mpr
        (hmessage networkInfo data dataObj hl hphone)

/-- Every callback sends one message and every phone message is handled by the instance that is
alive if and only if neither comes after the service was created a second time. -/
theorem callbacks_sent_once_iff (J : OrgJson) (t : JString.CaseTable) (ls : List Label) :
    Along (step J t) (ServesOnce J) init ls ↔ Along (step J t) (FirstIsAlive J) init ls :=
  along_congr_of_invariant (fun _ _ _ hs h => hs.of_step h)
    (fun _ _ _ hs _ => hs.servesOnce_iff) registered_init ls

/-- The service is created a second time, and the phone rings. -/
theorem recreated_service_sends_twice :
    ¬ Along (step noJson .ascii) (ServesOnce noJson) init
      [.onCreate, .onDestroy, .onCreate, .onCallStateChanged .RINGING (some [])] := by
  rintro ⟨-, -, -, h, -⟩
  exact absurd ((h 1 rfl).1 .RINGING (some []) rfl) (by decide)

end ServerProcess

end Collaboration
