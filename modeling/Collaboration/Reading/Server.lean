import Collaboration.Reading.Streams

/-! # `ServerConnection.run()`, statement by statement

Every statement that can fail does so at will. The other threads may stop the connection, let
it pass, send through it and run its sender at any time. -/

namespace Collaboration

/-- The statement of `run()` that comes next. -/
inductive ServerRunPc where
  | openingOutput
  | creatingSender
  | openingInput
  | startingSender
  /-- before `changeConnectStatus(UNAUTHORIZED)` -/
  | announcing
  | clearing
  | testing
  | reading
  | handling
  /-- in a `catch` clause of the loop, before `mStopConnection = true` -/
  | catching
  /-- in `releaseServerSocket()`, called by a `catch` clause of the loop or on leaving `run()` -/
  | releasing (leaving : Bool)
  | left
  deriving DecidableEq, Repr

/-- How a statement ends. -/
inductive Outcome where
  | returns
  | exception
  /-- a `Throwable` that is no `Exception` -/
  | error
  deriving DecidableEq, Repr

/-- Where the loop goes on after a statement. -/
def Outcome.next (outcome : Outcome) (next : ServerRunPc) : ServerRunPc :=
  match outcome with
  | .returns => next
  | .exception => .catching
  | .error => .releasing true

/-- `callers` counts the calls of `sendDataToTarget` that are past their test of
`canSendData()`. -/
structure ServerRun where
  streams : Streams
  mConnectStatus : ConnectStatus
  mStopConnection : Bool
  pc : ServerRunPc
  callers : ℕ
  deriving DecidableEq, Repr

namespace ServerRun

/-- A connection that a thread of the pool begins to run. -/
def new : ServerRun := ⟨.new .held, .notInit, false, .openingOutput, 0⟩

def canSendData (t : ServerRun) : Bool :=
  (t.mConnectStatus == .connected || t.mConnectStatus == .unauthorized) &&
    t.streams.mDataSenderThread.isSome

/-- The loop has not ended. -/
def inLoop (t : ServerRun) : Bool := t.pc ≠ .releasing true && t.pc ≠ .left

/-- A statement that opens something, or throws. -/
def opens (t : ServerRun) (l : Streams.Label) (ok : Bool) (next : ServerRunPc) :
    Option ServerRun :=
  if ok then (t.streams.step l).map fun s => { t with streams := s, pc := next }
  else some { t with pc := .releasing true }

def release (t : ServerRun) (leaving : Bool) : ServerRun :=
  { t with
    streams := t.streams.release
    pc :=
      if t.streams.stage = .sender then (if leaving then .left else .testing)
      else .releasing leaving }

inductive Label where
  | openOutput (ok : Bool)
  | createSender
  | openInput (ok : Bool)
  | startSender
  | announce (returns : Bool)
  | clear
  | test
  | read (data : Data)
  | readFails (error : Bool)
  | handled (outcome : Outcome)
  | caught
  | release
  | stopConnection
  | setAutorizeCheckPass
  /-- a call of `sendDataToTarget` passes its test -/
  | canSendData
  | addMessage (o : Data)
  /-- the timer of the sender's `HeartbeatThread` -/
  | heartbeat
  | send (written : Bool)
  deriving DecidableEq, Repr

def step (t : ServerRun) : Label → Option ServerRun
  | .openOutput ok => if t.pc = .openingOutput then t.opens .openOutput ok .creatingSender else none
  | .createSender =>
    if t.pc = .creatingSender then t.opens (.createSender true) true .openingInput else none
  | .openInput ok => if t.pc = .openingInput then t.opens .openInput ok .startingSender else none
  | .startSender => if t.pc = .startingSender then t.opens .startSender true .announcing else none
  | .announce returns =>
    if t.pc = .announcing then
      some { t with
        mConnectStatus := .unauthorized
        pc := if returns then .clearing else .releasing true }
    else none
  | .clear =>
    if t.pc = .clearing then some { t with mStopConnection := false, pc := .testing } else none
  | .test =>
    if t.pc = .testing then
      some { t with pc := if t.mStopConnection then .releasing true else .reading }
    else none
  | .read _ =>
    -- on a null stream `readObject` throws
    if t.pc = .reading ∧ t.streams.mObjectInputStream.isNull = false then
      some { t with pc := .handling }
    else none
  | .readFails error =>
    if t.pc = .reading then some { t with pc := if error then .releasing true else .catching }
    else none
  | .handled outcome =>
    if t.pc = .handling then some { t with pc := outcome.next .testing } else none
  | .caught =>
    if t.pc = .catching then some { t with mStopConnection := true, pc := .releasing false }
    else none
  | .release =>
    match t.pc with
    | .releasing leaving => some (t.release leaving)
    | _ => none
  | .stopConnection => some { t with mStopConnection := true }
  | .setAutorizeCheckPass => some { t with mStopConnection := false, mConnectStatus := .connected }
  | .canSendData => if t.canSendData then some { t with callers := t.callers + 1 } else none
  | .addMessage o =>
    if 0 < t.callers then
      (t.streams.addMessage o (o.isFailed && t.inLoop)).map fun s =>
        { t with streams := s, callers := t.callers - 1 }
    else none
  | .heartbeat => (t.streams.step .addHeartbeatPackage).map fun s => { t with streams := s }
  | .send written => (t.streams.step (.send written)).map fun s => { t with streams := s }

/-! ## The steps, one by one -/

/-- What is opened at a place before the loop, and where the thread goes then. -/
def opening : ServerRunPc → Option (Streams.Label × ServerRunPc)
  | .openingOutput => some (.openOutput, .creatingSender)
  | .creatingSender => some (.createSender true, .openingInput)
  | .openingInput => some (.openInput, .startingSender)
  | .startingSender => some (.startSender, .announcing)
  | _ => none

/-- What a step does to the streams and the sender. -/
def streamsLabel (t : ServerRun) : Label → Option Streams.Label
  | .openOutput true => some .openOutput
  | .createSender => some (.createSender true)
  | .openInput true => some .openInput
  | .startSender => some .startSender
  | .release => some .release
  | .addMessage o => some (.addMessage o (o.isFailed && t.inLoop))
  | .heartbeat => some .addHeartbeatPackage
  | .send written => some (.send written)
  | _ => none

/-- What other threads do. -/
structure Disturbed (t u : ServerRun) : Prop where
  streams : Streams.SameFields t.streams u.streams
  pc : u.pc = t.pc

/-- A statement that neither opens nor releases anything. -/
structure Moves (t u : ServerRun) : Prop where
  running : ∀ leaving, t.pc ≠ .releasing leaving
  notLeft : t.pc ≠ .left
  streams : u.streams = t.streams
  next : u.pc ≠ .left

/-- The steps of a connection, as far as its streams go. -/
inductive Steps (t : ServerRun) : ServerRun → Prop
  | opens {m : Streams.Label} {next : ServerRunPc} {s : Streams}
      (hopening : opening t.pc = some (m, next)) (hs : t.streams.step m = some s) :
      Steps t { t with streams := s, pc := next }
  | moves {u : ServerRun} (hmoves : Moves t u) : Steps t u
  | release {leaving : Bool} (hpc : t.pc = .releasing leaving) : Steps t (t.release leaving)
  | other {u : ServerRun} (hdisturbed : Disturbed t u) : Steps t u

theorem moves_of_pc {t u : ServerRun} {pc : ServerRunPc} (hpc : t.pc = pc)
    (hrunning : ∀ leaving, pc ≠ .releasing leaving) (hleft : pc ≠ .left)
    (hstreams : u.streams = t.streams) (hnext : u.pc ≠ .left) : Steps t u :=
  .moves ⟨hpc ▸ hrunning, hpc ▸ hleft, hstreams, hnext⟩

theorem steps_of_opens {t u : ServerRun} {m : Streams.Label} {ok : Bool} {next : ServerRunPc}
    (hopening : opening t.pc = some (m, next)) (h : t.opens m ok next = some u) : Steps t u := by
  cases ok with
  | true =>
      obtain ⟨s, hs, rfl⟩ := Option.map_eq_some_iff.mp h
      exact .opens hopening hs
  | false =>
      obtain rfl := Option.some.inj h
      refine .moves ⟨?_, ?_, rfl, by simp⟩
      · rintro leaving hpc
        simp [hpc, opening] at hopening
      · intro hpc
        simp [hpc, opening] at hopening

theorem steps_of_step {t u : ServerRun} {l : Label} (h : t.step l = some u) : Steps t u := by
  cases l with
  | openOutput ok | openInput ok | createSender | startSender =>
      simp only [step, Option.ite_none_right_eq_some] at h
      exact steps_of_opens (by rw [h.1]; rfl) h.2
  | announce ok | readFails ok =>
      simp only [step, Option.ite_none_right_eq_some, Option.some.injEq] at h
      obtain ⟨hpc, rfl⟩ := h
      exact moves_of_pc hpc (by simp) (by simp) rfl (by cases ok <;> simp)
  | clear | caught =>
      simp only [step, Option.ite_none_right_eq_some, Option.some.injEq] at h
      obtain ⟨hpc, rfl⟩ := h
      exact moves_of_pc hpc (by simp) (by simp) rfl (by simp)
  | test =>
      simp only [step, Option.ite_none_right_eq_some, Option.some.injEq] at h
      obtain ⟨hpc, rfl⟩ := h
      exact moves_of_pc hpc (by simp) (by simp) rfl (by dsimp only; split <;> simp)
  | read data =>
      simp only [step, Option.ite_none_right_eq_some, Option.some.injEq] at h
      obtain ⟨⟨hpc, -⟩, rfl⟩ := h
      exact moves_of_pc hpc (by simp) (by simp) rfl (by simp)
  | handled outcome =>
      simp only [step, Option.ite_none_right_eq_some, Option.some.injEq] at h
      obtain ⟨hpc, rfl⟩ := h
      exact moves_of_pc hpc (by simp) (by simp) rfl (by cases outcome <;> simp [Outcome.next])
  | release =>
      cases hpc : t.pc with
      | releasing leaving =>
          simp only [step, hpc, Option.some.injEq] at h
          obtain rfl := h
          exact .release hpc
      | _ => simp [step, hpc] at h
  | stopConnection | setAutorizeCheckPass =>
      obtain rfl := Option.some.inj h
      exact .other ⟨.refl _, rfl⟩
  | canSendData =>
      simp only [step, Option.ite_none_right_eq_some, Option.some.injEq] at h
      obtain ⟨-, rfl⟩ := h
      exact .other ⟨.refl _, rfl⟩
  | addMessage o =>
      simp only [step, Option.ite_none_right_eq_some, Option.map_eq_some_iff] at h
      obtain ⟨-, s, hs, rfl⟩ := h
      exact .other ⟨Streams.sameFields_of_addMessage hs, rfl⟩
  | heartbeat | send written =>
      obtain ⟨s, hs, rfl⟩ := Option.map_eq_some_iff.mp h
      exact .other ⟨Streams.sameFields_of_onSender hs, rfl⟩

/-! ## The streams of a step -/

theorem step_of_opens {t u : ServerRun} {m : Streams.Label} {next : ServerRunPc}
    (h : t.opens m true next = some u) : t.streams.step m = some u.streams := by
  obtain ⟨s, hs, rfl⟩ := Option.map_eq_some_iff.mp h
  exact hs

/-- The connection handles its streams and its sender as `Streams` allows. -/
theorem simulates : Transition.Simulates step Streams.step (·.streams) streamsLabel where
  moves t l u m h hm := by
    cases l with
    | openInput ok | openOutput ok =>
        simp only [step, Option.ite_none_right_eq_some] at h
        cases ok with
        | true =>
            obtain rfl := Option.some.inj hm
            exact step_of_opens h.2
        | false => cases hm
    | createSender | startSender =>
        simp only [step, Option.ite_none_right_eq_some] at h
        obtain rfl := Option.some.inj hm
        exact step_of_opens h.2
    | release =>
        obtain rfl := Option.some.inj hm
        cases hpc : t.pc with
        | releasing leaving =>
            simp only [step, hpc, Option.some.injEq] at h
            obtain rfl := h
            rfl
        | _ => simp [step, hpc] at h
    | addMessage o =>
        simp only [step, Option.ite_none_right_eq_some, Option.map_eq_some_iff] at h
        obtain ⟨-, s, hs, rfl⟩ := h
        obtain rfl := Option.some.inj hm
        exact hs
    | heartbeat | send written =>
        obtain ⟨s, hs, rfl⟩ := Option.map_eq_some_iff.mp h
        obtain rfl := Option.some.inj hm
        exact hs
    | _ => cases hm
  rests t l u h hl := by
    cases l with
    | openInput ok | openOutput ok =>
        cases ok with
        | true => cases hl
        | false =>
            simp only [step, Option.ite_none_right_eq_some] at h
            obtain rfl := Option.some.inj h.2
            rfl
    | announce | clear | test | read | readFails | handled | caught | canSendData =>
        simp only [step, Option.ite_none_right_eq_some, Option.some.injEq] at h
        obtain ⟨-, rfl⟩ := h
        rfl
    | stopConnection | setAutorizeCheckPass =>
        obtain rfl := Option.some.inj h
        rfl
    | createSender | startSender | release | addMessage | heartbeat | send => cases hl

end ServerRun

end Collaboration
