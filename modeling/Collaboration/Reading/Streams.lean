import Collaboration.Sender.Order

/-! # What a connection thread opens and releases

The socket, the object streams and the sender thread of one connection, with the statements of
`releaseServerSocket`, which the server and the client have in common. -/

namespace Collaboration

/-- A field for a stream or a socket: whether something was assigned to it, whether it is null
now, and whether `close()` was called on what it held. -/
structure Closeable where
  opened : Bool
  isNull : Bool
  closed : Bool
  deriving DecidableEq, Repr

namespace Closeable

/-- The field of a new object. -/
def null : Closeable := ⟨false, true, false⟩

/-- The field after an assignment. -/
def held : Closeable := ⟨true, false, false⟩

/-- `if (field != null) { field.close(); field = null; }`; an `IOException` of `close()` is
caught. -/
def release (c : Closeable) : Closeable := if c.isNull then c else ⟨c.opened, true, true⟩

/-- What was opened has been closed, and the field is null. -/
def Released (c : Closeable) : Prop := c.opened = true → c.closed = true ∧ c.isNull = true

instance (c : Closeable) : Decidable c.Released :=
  inferInstanceAs (Decidable (c.opened = true → c.closed = true ∧ c.isNull = true))

/-- A field that is null again has been closed. -/
def Ok (c : Closeable) : Prop := c.isNull = true → c.opened = true → c.closed = true

theorem Ok.null : null.Ok := fun _ h => by cases h

theorem Ok.held : held.Ok := fun h => by cases h

theorem Ok.release {c : Closeable} (h : c.Ok) : c.release.Ok ∧ c.release.Released := by
  unfold Closeable.release
  split
  · rename_i hnull
    exact ⟨h, fun hopen => ⟨h hnull hopen, hnull⟩⟩
  · exact ⟨fun _ _ => rfl, fun _ => ⟨rfl, rfl⟩⟩

end Closeable

inductive ReleaseStage where
  | input
  | output
  | socket
  | sender
  deriving DecidableEq, Repr

/-- `stopAsked` tells whether `stopRuning` was called on the sender, `accepted` are the messages
given to it, `last` the last messages among them (the refusal of a client, the farewell of a
client), and `atClose` its write attempts at the time when the output stream was closed. -/
structure Streams where
  mConnectionSocket : Closeable
  mObjectInputStream : Closeable
  mObjectOutputStream : Closeable
  mDataSenderThread : Option Sender
  stage : ReleaseStage
  stopAsked : Bool
  accepted : List SocketDataSendTask
  last : List SocketDataSendTask
  atClose : Option (List (SocketDataSendTask × Bool))
  deriving DecidableEq, Repr

namespace Streams

/-- The fields of a new thread, over a socket that is there or not. -/
def new (mConnectionSocket : Closeable) : Streams :=
  ⟨mConnectionSocket, .null, .null, none, .input, false, [], [], none⟩

/-- The attempts of the sender so far. -/
def attempts (t : Streams) : List (SocketDataSendTask × Bool) :=
  match t.mDataSenderThread with
  | some s => s.attempts
  | none => []

/-- A call or a step of the sender. -/
def onSender (t : Streams) (l : Sender.Label) : Option Streams :=
  match t.mDataSenderThread with
  | some s => (s.step l).map fun s => { t with mDataSenderThread := some s }
  | none => none

/-- `addMessage`; `isLast` tells whether the object is one of the last messages. -/
def addMessage (t : Streams) (o : Data) (isLast : Bool) : Option Streams :=
  match t.mDataSenderThread with
  | some s =>
    let (s', id) := s.addMessage o true
    let task : SocketDataSendTask := ⟨id, o, true, s.submitted⟩
    some { t with
      mDataSenderThread := some s'
      accepted := t.accepted ++ [task]
      last := if isLast then t.last ++ [task] else t.last }
  | none => none

def release (t : Streams) : Streams :=
  match t.stage with
  | .input => { t with mObjectInputStream := t.mObjectInputStream.release, stage := .output }
  | .output =>
    if t.mObjectOutputStream.isNull then { t with stage := .socket }
    else
      { t with
        mObjectOutputStream := t.mObjectOutputStream.release
        mDataSenderThread := t.mDataSenderThread.map fun s => { s with streamOpen := false }
        atClose := some t.attempts
        stage := .socket }
  | .socket => { t with mConnectionSocket := t.mConnectionSocket.release, stage := .sender }
  | .sender =>
    { t with
      mDataSenderThread := t.mDataSenderThread.map (·.stopRuning)
      stopAsked := t.stopAsked || t.mDataSenderThread.isSome
      stage := .input }

inductive Label where
  | openSocket
  | openInput
  | openOutput
  | createSender (enableHearbeat : Bool)
  | startSender
  | addMessage (o : Data) (isLast : Bool)
  | addHeartbeatPackage
  | send (written : Bool)
  | release
  deriving DecidableEq, Repr

def step (t : Streams) : Label → Option Streams
  | .openSocket =>
    if t.mConnectionSocket = .null then some { t with mConnectionSocket := .held } else none
  | .openInput =>
    if t.mObjectInputStream = .null then some { t with mObjectInputStream := .held } else none
  | .openOutput =>
    if t.mObjectOutputStream = .null then some { t with mObjectOutputStream := .held } else none
  | .createSender enableHearbeat =>
    if t.mObjectOutputStream = .held ∧ t.mDataSenderThread = none then
      some { t with mDataSenderThread := some (.new enableHearbeat) }
    else none
  | .startSender => t.onSender .start
  | .addMessage o isLast => t.addMessage o isLast
  | .addHeartbeatPackage => t.onSender .addHeartbeatPackage
  | .send written => t.onSender (.run written)
  | .release => some t.release

/-- Everything that was opened has been closed, and a sender that was created has been asked
to stop. -/
structure Released (t : Streams) : Prop where
  input : t.mObjectInputStream.Released
  output : t.mObjectOutputStream.Released
  socket : t.mConnectionSocket.Released
  sender : t.mDataSenderThread.isSome = true → t.stopAsked = true

/-! ## What the steps change -/

/-- Fields that are null again have been closed. -/
structure Ok (t : Streams) : Prop where
  input : t.mObjectInputStream.Ok
  output : t.mObjectOutputStream.Ok
  socket : t.mConnectionSocket.Ok

/-- Nothing was opened, and no sender was created. -/
structure Unopened (t : Streams) : Prop where
  input : t.mObjectInputStream.opened = false
  output : t.mObjectOutputStream.opened = false
  socket : t.mConnectionSocket.opened = false
  sender : t.mDataSenderThread = none

/-- The statements of `releaseServerSocket` before the next one have released their fields. -/
structure ReleasedBefore (t : Streams) : Prop where
  input : t.stage ≠ .input → t.mObjectInputStream.Released
  output : t.stage = .socket ∨ t.stage = .sender → t.mObjectOutputStream.Released
  socket : t.stage = .sender → t.mConnectionSocket.Released

/-- What the sender and its callers change is not what the connection thread opens and
releases. -/
structure SameFields (t u : Streams) : Prop where
  input : u.mObjectInputStream = t.mObjectInputStream
  output : u.mObjectOutputStream = t.mObjectOutputStream
  socket : u.mConnectionSocket = t.mConnectionSocket
  sender : u.mDataSenderThread.isSome = t.mDataSenderThread.isSome
  stage : u.stage = t.stage
  stopAsked : u.stopAsked = t.stopAsked

theorem SameFields.refl (t : Streams) : SameFields t t := ⟨rfl, rfl, rfl, rfl, rfl, rfl⟩

theorem SameFields.ok {t u : Streams} (h : SameFields t u) (hok : t.Ok) : u.Ok :=
  ⟨h.input ▸ hok.input, h.output ▸ hok.output, h.socket ▸ hok.socket⟩

theorem SameFields.unopened {t u : Streams} (h : SameFields t u) (hun : t.Unopened) :
    u.Unopened := by
  refine ⟨h.input ▸ hun.input, h.output ▸ hun.output, h.socket ▸ hun.socket, ?_⟩
  have hsender := h.sender
  rw [hun.sender] at hsender
  exact Option.isNone_iff_eq_none.mp (Option.isSome_eq_false_iff.mp hsender)

theorem SameFields.releasedBefore {t u : Streams} (h : SameFields t u) (hb : t.ReleasedBefore) :
    u.ReleasedBefore := by
  refine ⟨?_, ?_, ?_⟩
  · rw [h.stage, h.input]
    exact hb.input
  · rw [h.stage, h.output]
    exact hb.output
  · rw [h.stage, h.socket]
    exact hb.socket

theorem SameFields.released_iff {t u : Streams} (h : SameFields t u) :
    u.Released ↔ t.Released := by
  constructor <;> intro hr
  · exact ⟨h.input ▸ hr.input, h.output ▸ hr.output, h.socket ▸ hr.socket,
      h.sender ▸ h.stopAsked ▸ hr.sender⟩
  · exact ⟨h.input ▸ hr.input, h.output ▸ hr.output, h.socket ▸ hr.socket,
      h.sender ▸ h.stopAsked ▸ hr.sender⟩

theorem sameFields_of_addMessage {t u : Streams} {o : Data} {isLast : Bool}
    (h : t.addMessage o isLast = some u) : SameFields t u := by
  unfold addMessage at h
  cases hs : t.mDataSenderThread with
  | none => simp [hs] at h
  | some s =>
      simp only [hs, Option.some.injEq] at h
      obtain rfl := h
      exact ⟨rfl, rfl, rfl, by simp [hs], rfl, rfl⟩

theorem sameFields_of_onSender {t u : Streams} {l : Sender.Label} (h : t.onSender l = some u) :
    SameFields t u := by
  unfold onSender at h
  cases hs : t.mDataSenderThread with
  | none => simp [hs] at h
  | some s =>
      simp only [hs, Option.map_eq_some_iff] at h
      obtain ⟨s', -, rfl⟩ := h
      exact ⟨rfl, rfl, rfl, by simp [hs], rfl, rfl⟩

/-- What a statement that opens something leaves as it was. -/
structure Opens (t : Streams) (l : Label) (u : Streams) : Prop where
  ok : t.Ok → u.Ok
  stage : u.stage = t.stage
  socket : u.mConnectionSocket = if l = .openSocket then .held else t.mConnectionSocket

theorem SameFields.opens {t u : Streams} {l : Label} (h : SameFields t u)
    (hl : l ≠ .openSocket) : Opens t l u :=
  ⟨h.ok, h.stage, by rw [if_neg hl, h.socket]⟩

theorem opens_of_step {t u : Streams} {l : Label} (h : t.step l = some u)
    (hl : l ≠ .release) : Opens t l u := by
  cases l with
  | openSocket =>
      simp only [step, Option.ite_none_right_eq_some, Option.some.injEq] at h
      obtain ⟨-, rfl⟩ := h
      exact ⟨fun hok => { hok with socket := .held }, rfl, rfl⟩
  | openInput =>
      simp only [step, Option.ite_none_right_eq_some, Option.some.injEq] at h
      obtain ⟨-, rfl⟩ := h
      exact ⟨fun hok => { hok with input := .held }, rfl, rfl⟩
  | openOutput =>
      simp only [step, Option.ite_none_right_eq_some, Option.some.injEq] at h
      obtain ⟨-, rfl⟩ := h
      exact ⟨fun hok => { hok with output := .held }, rfl, rfl⟩
  | createSender enableHearbeat =>
      simp only [step, Option.ite_none_right_eq_some, Option.some.injEq] at h
      obtain ⟨-, rfl⟩ := h
      exact ⟨fun hok => ⟨hok.input, hok.output, hok.socket⟩, rfl, rfl⟩
  | addMessage o isLast => exact (sameFields_of_addMessage h).opens (by simp)
  | startSender | addHeartbeatPackage | send => exact (sameFields_of_onSender h).opens (by simp)
  | release => exact absurd rfl hl

/-! ## `releaseServerSocket`, statement by statement -/

theorem releasedBefore_of_input {t : Streams} (h : t.stage = .input) : t.ReleasedBefore := by
  refine ⟨fun hne => absurd h hne, ?_, ?_⟩ <;> simp [h]

theorem Ok.release {t : Streams} (h : t.Ok) : t.release.Ok := by
  unfold Streams.release
  split
  · exact { h with input := h.input.release.1 }
  · split
    · exact ⟨h.input, h.output, h.socket⟩
    · exact { h with output := h.output.release.1 }
  · exact { h with socket := h.socket.release.1 }
  · exact ⟨h.input, h.output, h.socket⟩

theorem ReleasedBefore.release {t : Streams} (h : t.ReleasedBefore) (hok : t.Ok) :
    t.release.ReleasedBefore := by
  cases hstage : t.stage with
  | input =>
      refine ⟨fun _ => ?_, ?_, ?_⟩ <;> simp [Streams.release, hstage, hok.input.release.2]
  | output =>
      by_cases hnull : t.mObjectOutputStream.isNull = true
      · refine ⟨fun _ => ?_, fun _ => ?_, ?_⟩ <;>
          simp only [Streams.release, hstage, hnull, if_true]
        · exact h.input (by simp [hstage])
        · exact fun hopen => ⟨hok.output hnull hopen, hnull⟩
        · simp
      · refine ⟨fun _ => ?_, fun _ => ?_, ?_⟩ <;>
          simp only [Streams.release, hstage, if_neg hnull]
        · exact h.input (by simp [hstage])
        · exact hok.output.release.2
        · simp
  | socket =>
      refine ⟨fun _ => ?_, fun _ => ?_, fun _ => ?_⟩ <;> simp only [Streams.release, hstage]
      · exact h.input (by simp [hstage])
      · exact h.output (.inl hstage)
      · exact hok.socket.release.2
  | sender => exact releasedBefore_of_input (by simp [Streams.release, hstage])

/-- The last statement leaves everything released. -/
theorem ReleasedBefore.released {t : Streams} (h : t.ReleasedBefore) (hstage : t.stage = .sender) :
    t.release.Released := by
  refine ⟨?_, ?_, ?_, ?_⟩ <;> simp only [Streams.release, hstage]
  · exact h.input (by simp [hstage])
  · exact h.output (.inr hstage)
  · exact h.socket hstage
  · intro hsome
    simp [Option.isSome_map.symm.trans hsome]

end Streams

end Collaboration
