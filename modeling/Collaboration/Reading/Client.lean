import Collaboration.Client.Semantics
import Collaboration.Reading.Streams

/-! # `SocketClientConnectionThread.run()`, statement by statement

Every statement that can fail does so at will. The other threads may ask the thread to stop,
send through it and run its sender at any time. -/

namespace Collaboration

/-- The statement of `run()` that comes next. -/
inductive ClientRunPc where
  | initializing
  | connecting
  | settingTimeout
  | openingInput
  | openingOutput
  | creatingSender
  | startingSender
  /-- before `changeConnectStatus(UNAUTHORIZED)` -/
  | announcing
  | testing
  | reading
  | handling
  /-- before `changeConnectStatus(CONNECTED)` -/
  | accepting
  /-- before the farewell -/
  | closing
  | disconnecting
  | releasing
  | left
  deriving DecidableEq, Repr

/-- What an observer sees of the thread: the objects that it reads, and its calls of the
`ConnectionThreadListener`. -/
inductive ReadEvent where
  | read (data : Data)
  | reported (status : ConnectStatus)
  | forwarded (data : Data)
  deriving DecidableEq, Repr

/-- `callers` counts the calls of `sendDataToTarget` by other threads that are past their
test of `canSendData()`. -/
structure ClientRun where
  streams : Streams
  mConnectStatus : ConnectStatus
  mStopConnection : Bool
  pc : ClientRunPc
  callers : ℕ
  trace : List ReadEvent
  deriving DecidableEq, Repr

namespace ClientRun

/-- A thread whose `start()` was called. -/
def new : ClientRun := ⟨.new .null, .notInit, false, .initializing, 0, []⟩

def isConnected (t : ClientRun) : Bool := t.mConnectStatus == .connected

def canSendData (t : ClientRun) : Bool :=
  (t.isConnected || t.mConnectStatus == .unauthorized) && t.streams.mDataSenderThread.isSome

/-- A statement that opens something, or throws. -/
def opens (t : ClientRun) (l : Streams.Label) (ok : Bool) (next : ClientRunPc) :
    Option ClientRun :=
  if ok then (t.streams.step l).map fun s => { t with streams := s, pc := next }
  else some { t with pc := .disconnecting }

def observe (t : ClientRun) (events : List ReadEvent) : ClientRun :=
  { t with trace := t.trace ++ events }

/-- `changeConnectStatus`; what follows depends on how its callback ends. -/
def changeConnectStatus (t : ClientRun) (newStatus : ConnectStatus) (next : ClientRunPc) :
    ClientRun :=
  { t.observe [.reported newStatus] with mConnectStatus := newStatus, pc := next }

/-- `onNewDataReceived` is called with an object that was read. -/
def forward (t : ClientRun) (data : Data) : ClientRun :=
  { t.observe [.read data, .forwarded data] with pc := .handling }

def receive (t : ClientRun) (data : Data) : ClientRun :=
  match data with
  | .inner pkg =>
    if !pkg.isHeatbeatPackage then
      let t := t.observe [.read data]
      if pkg.message = some InnerPackage.PASS then { t with pc := .accepting }
      else if pkg.message = some InnerPackage.FAILED then
        { t with mStopConnection := true, pc := .testing }
      else { t with pc := .testing }
    else t.forward data
  | _ => t.forward data

def close (t : ClientRun) : ClientRun :=
  match t.streams.addMessage SocketClientConnectionThread.farewell true with
  | some s => { t with streams := if t.canSendData then s else t.streams, pc := .disconnecting }
  | none => { t with pc := .disconnecting }

def release (t : ClientRun) : ClientRun :=
  { t with
    streams := t.streams.release
    pc := if t.streams.stage = .sender then .left else .releasing }

inductive Label where
  | init
  | connect (ok : Bool)
  | setSoTimeout (ok : Bool)
  | openInput (ok : Bool)
  | openOutput (ok : Bool)
  | createSender
  | startSender
  | announce (returns : Bool)
  | test
  | read (data : Data)
  /-- `readObject` throws `SocketTimeoutException` -/
  | readTimesOut
  | readFails
  | handled (returns : Bool)
  | accept (returns : Bool)
  | close
  | disconnect (returns : Bool)
  | release
  /-- another thread calls `stopConnection()` or `stopRuning()` -/
  | stopConnection
  /-- a call of `sendDataToTarget` passes its test -/
  | canSendData
  | addMessage (o : Data)
  | sendHeartbeatPackages
  | send (written : Bool)
  deriving DecidableEq, Repr

def step (t : ClientRun) : Label → Option ClientRun
  | .init =>
    if t.pc = .initializing then some { t with mStopConnection := false, pc := .connecting }
    else none
  | .connect ok => if t.pc = .connecting then t.opens .openSocket ok .settingTimeout else none
  | .setSoTimeout ok =>
    if t.pc = .settingTimeout then
      some { t with pc := if ok then .openingInput else .disconnecting }
    else none
  | .openInput ok => if t.pc = .openingInput then t.opens .openInput ok .openingOutput else none
  | .openOutput ok => if t.pc = .openingOutput then t.opens .openOutput ok .creatingSender else none
  | .createSender =>
    if t.pc = .creatingSender then t.opens (.createSender false) true .startingSender else none
  | .startSender => if t.pc = .startingSender then t.opens .startSender true .announcing else none
  | .announce returns =>
    if t.pc = .announcing then
      some (t.changeConnectStatus .unauthorized (if returns then .testing else .disconnecting))
    else none
  | .test =>
    if t.pc = .testing then some { t with pc := if t.mStopConnection then .closing else .reading }
    else none
  | .read data => if t.pc = .reading then some (t.receive data) else none
  | .readTimesOut => if t.pc = .reading then some { t with pc := .closing } else none
  | .readFails => if t.pc = .reading then some { t with pc := .disconnecting } else none
  | .handled returns =>
    if t.pc = .handling then some { t with pc := if returns then .testing else .disconnecting }
    else none
  | .accept returns =>
    if t.pc = .accepting then
      some (t.changeConnectStatus .connected (if returns then .testing else .disconnecting))
    else none
  | .close => if t.pc = .closing then some t.close else none
  | .disconnect returns =>
    -- an exception in the `finally` block leaves `run()` before the release
    if t.pc = .disconnecting then
      some (t.changeConnectStatus .disconnected (if returns then .releasing else .left))
    else none
  | .release => if t.pc = .releasing then some t.release else none
  | .stopConnection => some { t with mStopConnection := true }
  | .canSendData => if t.canSendData then some { t with callers := t.callers + 1 } else none
  | .addMessage o =>
    if 0 < t.callers then
      (t.streams.addMessage o false).map fun s => { t with streams := s, callers := t.callers - 1 }
    else none
  | .sendHeartbeatPackages =>
    if t.isConnected then
      (t.streams.step .addHeartbeatPackage).map fun s => { t with streams := s }
    else none
  | .send written => (t.streams.step (.send written)).map fun s => { t with streams := s }

/-! ## The steps, one by one -/

/-- What is opened at a place before the loop, and where the thread goes then. -/
def opening : ClientRunPc → Option (Streams.Label × ClientRunPc)
  | .connecting => some (.openSocket, .settingTimeout)
  | .openingInput => some (.openInput, .openingOutput)
  | .openingOutput => some (.openOutput, .creatingSender)
  | .creatingSender => some (.createSender false, .startingSender)
  | .startingSender => some (.startSender, .announcing)
  | _ => none

/-- What a step does to the streams and the sender. -/
def streamsLabel (t : ClientRun) : Label → Option Streams.Label
  | .connect true => some .openSocket
  | .openInput true => some .openInput
  | .openOutput true => some .openOutput
  | .createSender => some (.createSender false)
  | .startSender => some .startSender
  | .close =>
    if t.canSendData then some (.addMessage SocketClientConnectionThread.farewell true) else none
  | .release => some .release
  | .addMessage o => some (.addMessage o false)
  | .sendHeartbeatPackages => some .addHeartbeatPackage
  | .send written => some (.send written)
  | _ => none

/-- What other threads do: they may ask the thread to stop, and use its sender. -/
structure Disturbed (t u : ClientRun) : Prop where
  streams : Streams.SameFields t.streams u.streams
  pc : u.pc = t.pc
  trace : u.trace = t.trace
  mConnectStatus : u.mConnectStatus = t.mConnectStatus
  mStopConnection : t.mStopConnection = true → u.mStopConnection = true

/-- The labels of the failures that decide about the release. -/
def Label.isQuiet : Label → Bool
  | .connect false | .disconnect false => false
  | _ => true

inductive Steps (t : ClientRun) : Label → ClientRun → Prop
  | init (hpc : t.pc = .initializing) :
      Steps t .init { t with mStopConnection := false, pc := .connecting }
  | opens {l : Label} {m : Streams.Label} {next : ClientRunPc} {s : Streams}
      (hquiet : l.isQuiet = true) (hopening : opening t.pc = some (m, next))
      (hs : t.streams.step m = some s) : Steps t l { t with streams := s, pc := next }
  | connectFails (hpc : t.pc = .connecting) :
      Steps t (.connect false) { t with pc := .disconnecting }
  | openFails {l : Label} (hquiet : l.isQuiet = true)
      (hpc : t.pc = .settingTimeout ∨ t.pc = .openingInput ∨ t.pc = .openingOutput) :
      Steps t l { t with pc := .disconnecting }
  | setSoTimeout (hpc : t.pc = .settingTimeout) :
      Steps t (.setSoTimeout true) { t with pc := .openingInput }
  | announce {returns : Bool} (hpc : t.pc = .announcing) :
      Steps t (.announce returns)
        (t.changeConnectStatus .unauthorized (if returns then .testing else .disconnecting))
  | stops (hpc : t.pc = .testing) (hstop : t.mStopConnection = true) :
      Steps t .test { t with pc := .closing }
  | goesOn (hpc : t.pc = .testing) (hstop : t.mStopConnection = false) :
      Steps t .test { t with pc := .reading }
  | read {data : Data} (hpc : t.pc = .reading) : Steps t (.read data) (t.receive data)
  | readTimesOut (hpc : t.pc = .reading) : Steps t .readTimesOut { t with pc := .closing }
  | readFails (hpc : t.pc = .reading) : Steps t .readFails { t with pc := .disconnecting }
  | handled {returns : Bool} (hpc : t.pc = .handling) :
      Steps t (.handled returns) { t with pc := if returns then .testing else .disconnecting }
  | accept {returns : Bool} (hpc : t.pc = .accepting) :
      Steps t (.accept returns)
        (t.changeConnectStatus .connected (if returns then .testing else .disconnecting))
  | close (hpc : t.pc = .closing) : Steps t .close t.close
  | disconnect {returns : Bool} (hpc : t.pc = .disconnecting) :
      Steps t (.disconnect returns)
        (t.changeConnectStatus .disconnected (if returns then .releasing else .left))
  | release (hpc : t.pc = .releasing) : Steps t .release t.release
  | other {l : Label} {u : ClientRun} (hquiet : l.isQuiet = true) (hdisturbed : Disturbed t u) :
      Steps t l u

theorem steps_of_opens {t u : ClientRun} {l : Label} {m : Streams.Label} {ok : Bool}
    {next : ClientRunPc} (hquiet : l.isQuiet = true) (hopening : opening t.pc = some (m, next))
    (hpc : ok = false → t.pc = .settingTimeout ∨ t.pc = .openingInput ∨ t.pc = .openingOutput)
    (h : t.opens m ok next = some u) : Steps t l u := by
  cases ok with
  | true =>
      obtain ⟨s, hs, rfl⟩ := Option.map_eq_some_iff.mp h
      exact .opens hquiet hopening hs
  | false =>
      obtain rfl := Option.some.inj h
      exact .openFails hquiet (hpc rfl)

theorem steps_of_step {t u : ClientRun} {l : Label} (h : t.step l = some u) : Steps t l u := by
  cases l with
  | init =>
      simp only [step, Option.ite_none_right_eq_some, Option.some.injEq] at h
      obtain ⟨hpc, rfl⟩ := h
      exact .init hpc
  | connect ok =>
      simp only [step, Option.ite_none_right_eq_some] at h
      obtain ⟨hpc, h⟩ := h
      cases ok with
      | true => exact steps_of_opens rfl (by rw [hpc]; rfl) (by simp) h
      | false =>
          obtain rfl := Option.some.inj h
          exact .connectFails hpc
  | setSoTimeout ok =>
      simp only [step, Option.ite_none_right_eq_some, Option.some.injEq] at h
      obtain ⟨hpc, rfl⟩ := h
      cases ok with
      | true => exact .setSoTimeout hpc
      | false => exact .openFails rfl (.inl hpc)
  | openInput ok =>
      simp only [step, Option.ite_none_right_eq_some] at h
      exact steps_of_opens rfl (by rw [h.1]; rfl) (fun _ => .inr (.inl h.1)) h.2
  | openOutput ok =>
      simp only [step, Option.ite_none_right_eq_some] at h
      exact steps_of_opens rfl (by rw [h.1]; rfl) (fun _ => .inr (.inr h.1)) h.2
  | createSender =>
      simp only [step, Option.ite_none_right_eq_some] at h
      exact steps_of_opens rfl (by rw [h.1]; rfl) (by simp) h.2
  | startSender =>
      simp only [step, Option.ite_none_right_eq_some] at h
      exact steps_of_opens rfl (by rw [h.1]; rfl) (by simp) h.2
  | announce returns =>
      simp only [step, Option.ite_none_right_eq_some, Option.some.injEq] at h
      obtain ⟨hpc, rfl⟩ := h
      exact .announce hpc
  | test =>
      simp only [step, Option.ite_none_right_eq_some, Option.some.injEq] at h
      obtain ⟨hpc, rfl⟩ := h
      split
      · rename_i hstop
        exact .stops hpc hstop
      · rename_i hstop
        exact .goesOn hpc (by simpa using hstop)
  | read data =>
      simp only [step, Option.ite_none_right_eq_some, Option.some.injEq] at h
      obtain ⟨hpc, rfl⟩ := h
      exact .read hpc
  | readTimesOut =>
      simp only [step, Option.ite_none_right_eq_some, Option.some.injEq] at h
      obtain ⟨hpc, rfl⟩ := h
      exact .readTimesOut hpc
  | readFails =>
      simp only [step, Option.ite_none_right_eq_some, Option.some.injEq] at h
      obtain ⟨hpc, rfl⟩ := h
      exact .readFails hpc
  | handled returns =>
      simp only [step, Option.ite_none_right_eq_some, Option.some.injEq] at h
      obtain ⟨hpc, rfl⟩ := h
      exact .handled hpc
  | accept returns =>
      simp only [step, Option.ite_none_right_eq_some, Option.some.injEq] at h
      obtain ⟨hpc, rfl⟩ := h
      exact .accept hpc
  | close =>
      simp only [step, Option.ite_none_right_eq_some, Option.some.injEq] at h
      obtain ⟨hpc, rfl⟩ := h
      exact .close hpc
  | disconnect returns =>
      simp only [step, Option.ite_none_right_eq_some, Option.some.injEq] at h
      obtain ⟨hpc, rfl⟩ := h
      exact .disconnect hpc
  | release =>
      simp only [step, Option.ite_none_right_eq_some, Option.some.injEq] at h
      obtain ⟨hpc, rfl⟩ := h
      exact .release hpc
  | stopConnection =>
      obtain rfl := Option.some.inj h
      exact .other rfl ⟨.refl _, rfl, rfl, rfl, fun _ => rfl⟩
  | canSendData =>
      simp only [step, Option.ite_none_right_eq_some, Option.some.injEq] at h
      obtain ⟨-, rfl⟩ := h
      exact .other rfl ⟨.refl _, rfl, rfl, rfl, id⟩
  | addMessage o =>
      simp only [step, Option.ite_none_right_eq_some, Option.map_eq_some_iff] at h
      obtain ⟨-, s, hs, rfl⟩ := h
      exact .other rfl ⟨Streams.sameFields_of_addMessage hs, rfl, rfl, rfl, id⟩
  | sendHeartbeatPackages =>
      simp only [step, Option.ite_none_right_eq_some, Option.map_eq_some_iff] at h
      obtain ⟨-, s, hs, rfl⟩ := h
      exact .other rfl ⟨Streams.sameFields_of_onSender hs, rfl, rfl, rfl, id⟩
  | send written =>
      obtain ⟨s, hs, rfl⟩ := Option.map_eq_some_iff.mp h
      exact .other rfl ⟨Streams.sameFields_of_onSender hs, rfl, rfl, rfl, id⟩

/-! ## The streams of a step -/

@[simp] theorem receive_streams (t : ClientRun) (data : Data) :
    (t.receive data).streams = t.streams := by
  unfold receive
  split
  · dsimp only
    split
    · split
      · rfl
      · split <;> rfl
    · rfl
  · rfl

/-- The loop goes on behind an object that was read. -/
theorem receive_pc (t : ClientRun) (data : Data) :
    (t.receive data).pc = .testing ∨ (t.receive data).pc = .handling ∨
      (t.receive data).pc = .accepting := by
  unfold receive
  split
  · dsimp only
    split
    · split
      · simp
      · split <;> simp
    · simp [forward]
  · simp [forward]

@[simp] theorem close_pc (t : ClientRun) : t.close.pc = .disconnecting := by
  unfold ClientRun.close
  split <;> rfl

@[simp] theorem close_trace (t : ClientRun) : t.close.trace = t.trace := by
  unfold ClientRun.close
  split <;> rfl

theorem opening_ne_release {pc next : ClientRunPc} {m : Streams.Label}
    (h : opening pc = some (m, next)) : m ≠ .release := by
  cases pc <;> simp only [opening] at h <;> cases h <;> simp

theorem step_of_opens {t u : ClientRun} {m : Streams.Label} {next : ClientRunPc}
    (h : t.opens m true next = some u) : t.streams.step m = some u.streams := by
  obtain ⟨s, hs, rfl⟩ := Option.map_eq_some_iff.mp h
  exact hs

/-- A thread that may send has a sender. -/
theorem close_streams {t : ClientRun} (h : t.canSendData = true) :
    t.streams.addMessage SocketClientConnectionThread.farewell true = some t.close.streams := by
  obtain ⟨-, hsender⟩ := Bool.and_eq_true_iff.mp h
  obtain ⟨s, hs⟩ := Option.isSome_iff_exists.mp hsender
  simp [ClientRun.close, Streams.addMessage, hs, h]

theorem close_streams_of_not {t : ClientRun} (h : t.canSendData = false) :
    t.close.streams = t.streams := by
  unfold ClientRun.close
  split
  · simp [h]
  · rfl

/-- The thread handles its streams and its sender as `Streams` allows. -/
theorem simulates : Transition.Simulates step Streams.step (·.streams) streamsLabel where
  moves t l u m h hm := by
    cases l with
    | connect ok | openInput ok | openOutput ok =>
        simp only [step, Option.ite_none_right_eq_some] at h
        cases ok with
        | true =>
            obtain rfl := Option.some.inj hm
            exact step_of_opens h.2
        | false => cases hm
    | createSender | startSender =>
        simp only [step, Option.ite_none_right_eq_some] at h
        obtain rfl := Option.some.inj hm
        exact step_of_opens h.2
    | close =>
        simp only [step, Option.ite_none_right_eq_some, Option.some.injEq] at h
        obtain ⟨-, rfl⟩ := h
        simp only [streamsLabel, Option.ite_none_right_eq_some, Option.some.injEq] at hm
        obtain ⟨hsend, rfl⟩ := hm
        exact close_streams hsend
    | release =>
        simp only [step, Option.ite_none_right_eq_some, Option.some.injEq] at h
        obtain ⟨-, rfl⟩ := h
        obtain rfl := Option.some.inj hm
        rfl
    | addMessage o | sendHeartbeatPackages =>
        simp only [step, Option.ite_none_right_eq_some, Option.map_eq_some_iff] at h
        obtain ⟨-, s, hs, rfl⟩ := h
        obtain rfl := Option.some.inj hm
        exact hs
    | send written =>
        obtain ⟨s, hs, rfl⟩ := Option.map_eq_some_iff.mp h
        obtain rfl := Option.some.inj hm
        exact hs
    | _ => cases hm
  rests t l u h hl := by
    cases l with
    | connect ok | openInput ok | openOutput ok =>
        cases ok with
        | true => cases hl
        | false =>
            simp only [step, Option.ite_none_right_eq_some] at h
            obtain rfl := Option.some.inj h.2
            rfl
    | close =>
        simp only [step, Option.ite_none_right_eq_some, Option.some.injEq] at h
        obtain ⟨-, rfl⟩ := h
        exact close_streams_of_not (by simpa [streamsLabel] using hl)
    | read data =>
        simp only [step, Option.ite_none_right_eq_some, Option.some.injEq] at h
        obtain ⟨-, rfl⟩ := h
        exact receive_streams t data
    | init | setSoTimeout | announce | test | readTimesOut | readFails | handled | accept
    | disconnect | canSendData =>
        simp only [step, Option.ite_none_right_eq_some, Option.some.injEq] at h
        obtain ⟨-, rfl⟩ := h
        rfl
    | stopConnection =>
        obtain rfl := Option.some.inj h
        rfl
    | createSender | startSender | release | addMessage | sendHeartbeatPackages | send => cases hl

end ClientRun

end Collaboration
