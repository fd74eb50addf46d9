import Mathlib.Data.List.Chain
import Collaboration.Threads.LockOrder

/-! # What holds of the server's threads in every run

Which statements a thread can come to, and what the connections that a broadcast has come to
have in common. -/

namespace Collaboration.Threads

open Monitors Transition

variable {cfg : Config} {p p' : Process} {c : ℕ}

/-! ## What the statements change -/

namespace Process

/-- The registered connections, and which of them data is sent to, are as before. -/
structure Same (p p' : Process) : Prop where
  map : p'.mConnectionMap = p.mConnectionMap
  running : p'.mThreadRunning = p.mThreadRunning
  takesData : ∀ c, (p'.connections c).takesData = (p.connections c).takesData

theorem Same.refl (p : Process) : Same p p := ⟨rfl, rfl, fun _ => rfl⟩

theorem Same.trans {q : Process} (h : Same p q) (h' : Same q p') : Same p p' :=
  ⟨h'.map.trans h.map, h'.running.trans h.running, fun c => (h'.takesData c).trans (h.takesData c)⟩

theorem takesData_setConnection {x : ServerConnection}
    (h : x.takesData = (p.connections c).takesData) (d : ℕ) :
    ((p.setConnection c x).connections d).takesData = (p.connections d).takesData := by
  by_cases hd : d = c
  · subst hd
    simpa [setConnection] using h
  · simp [setConnection, hd]

theorem Same.setConnection {x : ServerConnection}
    (h : x.takesData = (p.connections c).takesData) : Same p (p.setConnection c x) :=
  ⟨rfl, rfl, takesData_setConnection h⟩

theorem Same.mapSender (f : SocketDataSenderThread → SocketDataSenderThread) :
    Same p (p.mapSender c f) :=
  .setConnection (by simp [ServerConnection.takesData, ServerConnection.canSendData])

theorem Same.takeTask : Same p (p.takeTask c).1 := by
  unfold Process.takeTask
  split
  · exact .refl p
  · exact .mapSender _

theorem Same.takeBroadcast : Same p p.takeBroadcast.1 := by
  unfold Process.takeBroadcast
  split
  · exact .refl p
  · exact ⟨rfl, rfl, fun _ => rfl⟩

theorem takesData_releaseServerSocket (x : ServerConnection) :
    x.releaseServerSocket.takesData = x.takesData := by
  simp [ServerConnection.releaseServerSocket, ServerConnection.takesData,
    ServerConnection.canSendData]

theorem Same.failReading : Same p (p.failReading c) :=
  .setConnection ((takesData_releaseServerSocket (p.connections c)).symm ▸ rfl)

theorem Same.finish : Same p (p.finish c) :=
  ⟨rfl, rfl, takesData_setConnection (takesData_releaseServerSocket _)⟩

theorem Same.execute : Same p (p.execute c) := by
  unfold Process.execute
  dsimp only
  split
  · exact ⟨rfl, rfl, takesData_setConnection rfl⟩
  · split <;> exact ⟨rfl, rfl, fun _ => rfl⟩

theorem Same.serve (h : p.serve c = some p') : Same p p' := by
  unfold Process.serve at h
  dsimp only at h
  split at h
  · obtain rfl := Option.some.inj h
    exact .setConnection rfl
  · split at h
    · obtain ⟨-, h⟩ := Option.ite_none_right_eq_some.mp h
      obtain rfl := Option.some.inj h
      exact ⟨rfl, rfl, fun _ => rfl⟩
    · cases h

theorem Same.tell (told : Told) : Same p (p.tell c told).1 := by
  cases told with
  | sendDataToTarget | setAutorizeCheckPass => exact .refl p
  | stopConnection => exact .setConnection rfl

end Process

theorem same_of_run {a : Call} {outcome : Outcome} {body : Code}
    (h : run cfg p a outcome = some (p', body)) (ha : ¬ a.Registers) : Process.Same p p' := by
  cases a with
  | put | removeConnection | acceptLoop | openOutput | changeConnectStatus =>
      exact absurd trivial ha
  | event =>
      obtain ⟨rfl, -⟩ := event_of_run h
      exact .refl _
  | accept =>
      obtain ⟨remoteIp, rfl, -⟩ | ⟨rfl, -⟩ := accept_of_run h
      · exact ⟨rfl, rfl, fun _ => rfl⟩
      · exact .refl _
  | read =>
      obtain ⟨rfl, -⟩ := read_of_run h
      exact .refl _
  | onDeliverData =>
      obtain ⟨rfl, -⟩ := onDeliverData_of_run h
      exact .refl _
  | authorize =>
      obtain ⟨rfl, -⟩ | ⟨rfl, -⟩ | ⟨rfl, -⟩ := authorize_of_run h
      · exact ⟨rfl, rfl, Process.takesData_setConnection rfl⟩
      · exact .refl _
      · exact .setConnection rfl
  | acceptRun | receiveRun =>
      obtain ⟨-, h⟩ := Option.ite_none_right_eq_some.mp h
      obtain ⟨-, h⟩ | ⟨-, h⟩ := trying_eq_some.mp h <;> cases h <;> exact .refl _
  | writeObject | sendBroadcast | receive =>
      obtain ⟨-, h⟩ | ⟨-, h⟩ := trying_eq_some.mp h <;> cases h <;> exact .refl _
  | openInput =>
      obtain ⟨-, h⟩ | ⟨-, h⟩ := trying_eq_some.mp h <;> cases h
      · refine .trans (.setConnection ?_) (.mapSender _)
        rfl
      · exact .refl _
  | tellConnection worker told =>
      obtain ⟨c, rfl, -⟩ | ⟨rfl, -⟩ := tellConnection_of_run h
      · exact .tell told
      · exact .failReading
  | serve =>
      obtain ⟨q, hq, h⟩ := Option.bind_eq_some_iff.mp h
      obtain ⟨-, rfl, -⟩ := returning_eq_some.mp h
      exact .serve hq
  | senderRun | timer | broadcastRun =>
      obtain ⟨-, h⟩ := Option.ite_none_right_eq_some.mp h
      obtain ⟨-, rfl, -⟩ := returning_eq_some.mp h
      first
        | exact .mapSender _
        | exact .refl _
  | senderLoop =>
      obtain ⟨rfl, -⟩ | ⟨rfl, -⟩ := senderLoop_of_run h
      · exact .mapSender _
      · exact .refl _
  | setThreadName =>
      obtain ⟨-, rfl, -⟩ := returning_eq_some.mp h
      split
      · exact .setConnection rfl
      · exact .refl _
  | setStatus =>
      obtain ⟨-, rfl, -⟩ := returning_eq_some.mp h
      split
      · exact .refl _
      · split
        · exact .refl _
        · exact ⟨rfl, rfl, fun _ => rfl⟩
  | execute =>
      obtain ⟨-, rfl, -⟩ := returning_eq_some.mp h
      exact .execute
  | failReading =>
      obtain ⟨-, rfl, -⟩ := returning_eq_some.mp h
      exact .failReading
  | finish =>
      obtain ⟨-, rfl, -⟩ := returning_eq_some.mp h
      exact .finish
  | takeTask =>
      obtain ⟨-, rfl, -⟩ := returning_eq_some.mp h
      exact .takeTask
  | takeBroadcast =>
      obtain ⟨-, rfl, -⟩ := returning_eq_some.mp h
      exact .takeBroadcast
  | queueMessage | queueHeartbeat =>
      obtain ⟨-, rfl, -⟩ := returning_eq_some.mp h
      exact .mapSender _
  | lookup | clearStop | setAutorizeCheckPass | returnCheckResult =>
      obtain ⟨-, rfl, -⟩ := returning_eq_some.mp h
      exact .setConnection rfl
  | _ =>
      obtain ⟨-, rfl, -⟩ := returning_eq_some.mp h
      exact ⟨rfl, rfl, fun _ => rfl⟩

/-- Only `put` and `removeConnection` change the map. -/
theorem map_of_run {a : Call} {outcome : Outcome} {body : Code}
    (h : run cfg p a outcome = some (p', body)) :
    p'.mConnectionMap = p.mConnectionMap ∨
      (∃ name c, a = .put name c ∧ p'.mConnectionMap = p.mConnectionMap.insert name c) ∨
      ∃ name, a = .removeConnection name := by
  by_cases ha : a.Registers
  · cases registration_of_run h ha with
    | put name c => exact .inr (.inl ⟨name, c, rfl, rfl⟩)
    | removeConnection name => exact .inr (.inr ⟨name, rfl⟩)
    | acceptLoop | openOutput | openOutputThrows | changeConnectStatus => exact .inl rfl
  · exact .inl (same_of_run h ha).map

/-- The statements after which data may be sent to the connection. -/
def Call.Opens (c : ℕ) : Call → Prop
  | .openOutput d | .changeConnectStatus d _ => d = c
  | _ => False

theorem takesData_of_not_opens {a : Call} {outcome : Outcome} {body : Code}
    (h : run cfg p a outcome = some (p', body)) (hopens : ¬ a.Opens c) :
    (p'.connections c).takesData = (p.connections c).takesData := by
  by_cases ha : a.Registers
  · cases registration_of_run h ha with
    | put | removeConnection | acceptLoop | openOutputThrows => rfl
    | openOutput d | changeConnectStatus d =>
        have hd : c ≠ d := fun heq => hopens heq.symm
        simp [Process.setConnection, hd]
  · exact (same_of_run h ha).takesData c

/-! ## The statements that a thread comes to -/

/-- The statements that a thread comes to in a run: only the accept thread accepts and registers
connections, having set `mThreadRunning`, and nothing changes a status to `DISCONNECTED`. -/
def Call.Fits (t : Thread) (p : Process) : Call → Prop
  | .acceptRun | .acceptLoop => t = .accept
  | .accept | .register _ _ | .putConnection _ _ | .put _ _ =>
    t = .accept ∧ p.mThreadRunning = true
  | .changeConnectStatus _ st | .onConnectionStatutChange _ st =>
    st = .unauthorized ∨ st = .connected
  | .removeConnection _ | .onRemoveConnection _ | .removeInfo _ => False
  | _ => True

theorem takesData_of_run {a : Call} {outcome : Outcome} {body : Code} {t : Thread}
    (h : run cfg p a outcome = some (p', body)) (ha : a.Fits t p)
    (hc : (p.connections c).takesData = true) : (p'.connections c).takesData = true := by
  by_cases hopens : a.Opens c
  · have hregisters : a.Registers := by
      cases a with
      | openOutput | changeConnectStatus => trivial
      | _ => exact hopens.elim
    cases registration_of_run h hregisters with
    | openOutput d =>
        obtain rfl : d = c := hopens
        simp only [ServerConnection.takesData, Bool.and_eq_true] at hc ⊢
        simpa [Process.setConnection, ServerConnection.canSendData] using hc.1
    | openOutputThrows => exact hc
    | changeConnectStatus d st =>
        obtain rfl : d = c := hopens
        simp only [ServerConnection.takesData, Bool.and_eq_true] at hc
        obtain rfl | rfl := ha <;>
          simpa [Process.setConnection, ServerConnection.takesData, ServerConnection.canSendData]
            using hc.2
    | put | removeConnection | acceptLoop => exact hopens.elim
  · exact (takesData_of_not_opens h hopens).trans hc

theorem running_of_run {a : Call} {outcome : Outcome} {body : Code}
    (h : run cfg p a outcome = some (p', body)) (hp : p.mThreadRunning = true) :
    p'.mThreadRunning = true := by
  by_cases ha : a.Registers
  · cases registration_of_run h ha with
    | acceptLoop => rfl
    | put | removeConnection | openOutput | openOutputThrows | changeConnectStatus => exact hp
  · exact (same_of_run h ha).running.trans hp

theorem Call.Fits.mono {a : Call} {t : Thread} (ha : a.Fits t p)
    (hp : p.mThreadRunning = true → p'.mThreadRunning = true) : a.Fits t p' := by
  cases a with
  | accept | register | putConnection | put => exact ⟨ha.1, hp ha.2⟩
  | _ => exact ha

/-- Which statement stands next to which: `put` directly follows the entry, and a thread that
comes to an `addMessage` or to a `mMessageTask` was brought there by its last statement. -/
def Follows (x : Stmt Monitor Call) : Stmt Monitor Call → Prop
  | .run (.put _ _) => x = .enter .mConnectionMap
  | .run (.addMessage _ _) | .enter (.mMessageTask _) => False
  | _ => True

/-- A broadcast queues its data for the connection. -/
def Process.BroadcastsTo (p : Process) (c : ℕ) : Prop :=
  (p.connections c).takesData = true ∧ ∃ name, p.mConnectionMap.lookup name = some c

/-- What a statement inside some monitor brings its thread to at once. -/
def Begins (held : List Monitor) (p : Process) (a : Call) : Stmt Monitor Call → Prop
  | .run (.addMessage c _) => held = [.mConnectionMap] ∧ p.BroadcastsTo c
  | .enter (.mMessageTask c) => ∃ data, a = .addMessage c data
  | .run (.put _ _) => False
  | _ => True

/-- What the code that replaces a statement consists of. -/
structure Calls (t : Thread) (p : Process) (a : Call) (body : Code) : Prop where
  fits : ∀ b, .run b ∈ body → b.Fits t p
  follows : body.IsChain Follows
  begins : ∀ held, a.Allowed held → held ≠ [] → ∀ x ∈ body.head?, Begins held p a x

theorem calls_sendDataToTarget (t : Thread) (p : Process) (c : ℕ) :
    (∀ data b, Stmt.run b ∈ p.sendDataToTarget c data → b.Fits t p') ∧
      ∀ data, (p.sendDataToTarget c data).IsChain Follows := by
  unfold Process.sendDataToTarget
  split <;> simp [Call.Fits]

theorem calls_onNewDataReceived (cfg : Config) (t : Thread) (p : Process) (c : ℕ)
    (received : Data) :
    (∀ b, .run b ∈ p.onNewDataReceived cfg c received ++ ([.run (.readLoop c)] : Code) →
        b.Fits t p) ∧
      (p.onNewDataReceived cfg c received ++ ([.run (.readLoop c)] : Code)).IsChain Follows := by
  cases received with
  | inner pkg =>
      simp only [Process.onNewDataReceived]
      split
      · split <;> simp [Call.Fits, Follows]
      · simp [Call.Fits]
  | string str =>
      simp only [Process.onNewDataReceived]
      split <;> simp [Call.Fits, Follows]
  | object n => simp [Process.onNewDataReceived, Call.Fits]

theorem calls_of_run {a : Call} {outcome : Outcome} {body : Code} {t : Thread}
    (h : run cfg p a outcome = some (p', body)) (ha : a.Fits t p) : Calls t p' a body := by
  cases a with
  | getInstance | setAuthorize | onCheckFinish | getNetWorkInfo | onNewConnection | statusChanged
  | startRun | getConnection | broadcast | tell | setAutorizeCheckPass | clearStop | failReading
  | finish | addHeartbeatPackage | broadcastLoop =>
      obtain ⟨-, rfl, rfl⟩ := returning_eq_some.mp h
      refine ⟨?_, ?_, fun held hheld hne => absurd hheld hne⟩
      · simp [synchronized, Call.Fits]
      · simp [synchronized, Follows]
  | putConnection | changeConnectStatus | acceptLoop =>
      obtain ⟨-, rfl, rfl⟩ := returning_eq_some.mp h
      refine ⟨?_, ?_, fun held hheld hne => absurd hheld hne⟩
      · simpa [synchronized, Call.Fits] using ha
      · simp [synchronized, Follows]
  | setInstance | setCheckResult | startBroadcastSender | startServer | startReceiver | putInfo
  | setStatus | execute | setThreadName | put | lookup | returnCheckResult | queueMessage
  | queueHeartbeat | queueBroadcast | addMessage | addBroadcastTask =>
      obtain ⟨-, rfl, rfl⟩ := returning_eq_some.mp h
      refine ⟨?_, ?_, fun held hheld hne => ?_⟩
      · simp [synchronized, Call.Fits]
      · simp [synchronized, Follows]
      · simp [synchronized, Begins]
  | createInstance | start | checkAuthorize =>
      obtain ⟨-, rfl, rfl⟩ := returning_eq_some.mp h
      refine ⟨?_, ?_, fun held hheld hne => ?_⟩
      · split <;> simp [synchronized, Call.Fits]
      · split <;> simp [synchronized, Follows]
      · split <;> simp [synchronized, Begins]
  | sendDataToTarget | tellFound | readLoop | answer =>
      obtain ⟨-, rfl, rfl⟩ := returning_eq_some.mp h
      refine ⟨?_, ?_, fun held hheld hne => absurd hheld hne⟩
      · split <;> simp [Call.Fits]
      · split <;> simp [Follows]
  | sendDataToTargetInner _ targetThread =>
      obtain ⟨-, rfl, rfl⟩ := returning_eq_some.mp h
      refine ⟨?_, ?_, fun held hheld hne => absurd hheld hne⟩
      · cases targetThread <;> split <;> simp [Call.Fits]
      · cases targetThread <;> split <;> simp
  | onConnectionStatutChange threadName newStatus =>
      obtain ⟨-, rfl, rfl⟩ := returning_eq_some.mp h
      refine ⟨?_, ?_, fun held hheld hne => absurd hheld hne⟩
      · obtain rfl | rfl := ha <;> simp [Call.Fits]
      · obtain rfl | rfl := ha <;> simp
  | register =>
      obtain ⟨-, rfl, rfl⟩ := returning_eq_some.mp h
      refine ⟨?_, ?_, fun held hheld hne => absurd hheld hne⟩
      · split
        · simp
        · simpa [Call.Fits, ha.1] using ha
      · split <;> simp [Follows]
  | removeConnection | onRemoveConnection | removeInfo => exact ha.elim
  | sendToAll =>
      obtain ⟨-, rfl, rfl⟩ := returning_eq_some.mp h
      refine ⟨?_, ?_, fun held hheld hne => ?_⟩
      · simp [Call.Fits]
      · exact (List.pairwise_map.mpr (List.pairwise_of_forall fun _ _ => trivial)).isChain
      · simp [Begins]
  | sendToKey key =>
      obtain ⟨-, rfl, rfl⟩ := returning_eq_some.mp h
      cases hlookup : p'.mConnectionMap.lookup key with
      | none => exact ⟨by simp, by simp, by simp⟩
      | some c =>
          obtain ⟨hfits, hfollows⟩ := calls_sendDataToTarget t p' c
          refine ⟨hfits _, hfollows _, fun held hheld hne => ?_⟩
          simp only [Option.elim_some, Process.sendDataToTarget]
          split
          · rename_i htakes
            simpa [Begins] using ⟨hheld, htakes, key, hlookup⟩
          · simp
  | tellConnection worker told =>
      obtain ⟨c, rfl, rfl⟩ | ⟨rfl, rfl⟩ := tellConnection_of_run h
      · obtain ⟨hfits, hfollows⟩ := calls_sendDataToTarget t p c
        cases told with
        | sendDataToTarget => exact ⟨hfits _, hfollows _, fun held hheld hne => absurd hheld hne⟩
        | stopConnection =>
            exact ⟨by simp [Process.tell], by simp [Process.tell], by simp [Process.tell]⟩
        | setAutorizeCheckPass =>
            refine ⟨?_, ?_, fun held hheld hne => absurd hheld hne⟩
            · simp [Process.tell, Call.Fits]
            · simp [Process.tell]
      · exact ⟨by simp, by simp, by simp⟩
  | event =>
      obtain ⟨rfl, e, rfl⟩ := event_of_run h
      refine ⟨?_, ?_, fun held hheld hne => absurd hheld hne⟩
      · cases e <;> simp [Event.calls, Call.Fits]
      · cases e <;> simp [Event.calls, Follows]
  | accept =>
      obtain ⟨remoteIp, rfl, rfl⟩ | ⟨rfl, rfl⟩ := accept_of_run h
      · refine ⟨?_, ?_, fun held hheld hne => absurd hheld hne⟩
        · simpa [Call.Fits] using ha
        · simp [Follows]
      · exact ⟨by simp, by simp, by simp⟩
  | read c =>
      obtain ⟨rfl, ⟨received, rfl⟩ | rfl⟩ := read_of_run h
      · obtain ⟨hfits, hfollows⟩ := calls_onNewDataReceived cfg t p' c received
        exact ⟨hfits, hfollows, fun held hheld hne => absurd hheld hne⟩
      · exact ⟨by simp [Call.Fits], by simp [Follows], fun held hheld hne => absurd hheld hne⟩
  | onDeliverData =>
      obtain ⟨rfl, hbody⟩ := onDeliverData_of_run h
      refine ⟨?_, ?_, fun held hheld hne => absurd hheld hne⟩
      · obtain rfl | rfl | rfl := hbody <;> simp [Call.Fits]
      · obtain rfl | rfl | rfl := hbody <;> simp [Follows]
  | authorize =>
      obtain ⟨rfl, rfl⟩ | ⟨rfl, rfl⟩ | ⟨rfl, rfl⟩ := authorize_of_run h
      · exact ⟨by simp, by simp, by simp⟩
      · refine ⟨?_, ?_, fun held hheld hne => absurd hheld hne⟩
        · simp [synchronized, Call.Fits]
        · simp [synchronized, Follows]
      · exact ⟨by simp, by simp, by simp⟩
  | acceptRun =>
      obtain ⟨-, h⟩ := Option.ite_none_right_eq_some.mp h
      obtain ⟨-, h⟩ | ⟨-, h⟩ := trying_eq_some.mp h <;> cases h
      · exact ⟨by simpa [Call.Fits] using ha, by simp, fun held hheld hne => absurd hheld hne⟩
      · exact ⟨by simp, by simp, by simp⟩
  | receiveRun =>
      obtain ⟨-, h⟩ := Option.ite_none_right_eq_some.mp h
      obtain ⟨-, h⟩ | ⟨-, h⟩ := trying_eq_some.mp h <;> cases h <;>
        exact ⟨by simp [Call.Fits], by simp, fun held hheld hne => absurd hheld hne⟩
  | openOutput | openInput | receive =>
      obtain ⟨-, h⟩ | ⟨-, h⟩ := trying_eq_some.mp h <;> cases h <;>
        exact ⟨by simp [Call.Fits], by simp [Follows], fun held hheld hne => absurd hheld hne⟩
  | writeObject | sendBroadcast =>
      obtain ⟨-, h⟩ | ⟨-, h⟩ := trying_eq_some.mp h <;> cases h <;>
        exact ⟨by simp, by simp, by simp⟩
  | serve =>
      obtain ⟨q, hq, h⟩ := Option.bind_eq_some_iff.mp h
      obtain ⟨-, rfl, rfl⟩ := returning_eq_some.mp h
      exact ⟨by simp [Call.Fits], by simp, fun held hheld hne => absurd hheld hne⟩
  | senderRun | timer | broadcastRun =>
      obtain ⟨-, h⟩ := Option.ite_none_right_eq_some.mp h
      obtain ⟨-, rfl, rfl⟩ := returning_eq_some.mp h
      exact ⟨by simp [Call.Fits], by simp [Follows], fun held hheld hne => absurd hheld hne⟩
  | senderLoop =>
      obtain ⟨rfl, rfl⟩ | ⟨rfl, rfl⟩ := senderLoop_of_run h
      · exact ⟨by simp, by simp, by simp⟩
      · refine ⟨?_, ?_, fun held hheld hne => absurd hheld hne⟩
        · simp [synchronized, Call.Fits]
        · simp [synchronized, Follows]
  | takeTask =>
      obtain ⟨-, rfl, rfl⟩ := returning_eq_some.mp h
      simp only [Process.takeTask]
      split <;> exact ⟨by simp [Call.Fits], by simp [Follows], by simp [Begins]⟩
  | takeBroadcast =>
      obtain ⟨-, rfl, rfl⟩ := returning_eq_some.mp h
      simp only [Process.takeBroadcast]
      split <;> exact ⟨by simp [Call.Fits], by simp [Follows], by simp [Begins]⟩

/-! ## The invariant -/

/-- The thread is about to queue a message for the connection. -/
def Queues (c : ℕ) : Stmt Monitor Call → Prop
  | .run (.addMessage d _) | .enter (.mMessageTask d) => d = c
  | _ => False

theorem not_queues_of_follows {x y : Stmt Monitor Call} (h : Follows x y) : ¬ Queues c y := by
  rintro hy
  cases y with
  | run a => cases a <;> first | exact hy | exact h
  | enter m => cases m <;> first | exact hy | exact h
  | _ => exact hy

theorem follows_of_run {a : Call} {x y : Stmt Monitor Call} (h : Follows (.run a) y) :
    Follows x y := by
  cases y with
  | run b => cases b <;> first | exact h | cases h
  | enter m => cases m <;> exact h
  | _ => trivial

theorem follows_of_wait {m : Monitor} {x y : Stmt Monitor Call} (h : Follows (.wait m) y) :
    Follows x y := by
  cases y with
  | run b => cases b <;> first | exact h | cases h
  | enter m => cases m <;> exact h
  | _ => trivial

/-- What holds in every run. A thread that queues a message inside a monitor is a broadcast that
has come to the connection. -/
structure Inv (cfg : Config) (s : State) : Prop where
  consistent : (lockOrder cfg).Consistent s
  fits : ∀ t a, .run a ∈ s.code t → a.Fits t s.data
  follows : ∀ t, (s.code t).IsChain Follows
  queues : ∀ t c, s.held t ≠ [] → ∀ x ∈ (s.code t).head?, Queues c x →
    .mConnectionMap ∈ s.held t ∧ s.data.BroadcastsTo c
  running : ∀ name c, s.data.mConnectionMap.lookup name = some c → s.data.mThreadRunning = true

theorem inv_init (cfg : Config) (free : Int32 → Bool) : Inv cfg (init cfg free) where
  consistent := LockOrder.consistent_start allowed_main
  fits t a ha := by
    obtain rfl : a = t.main := by simpa [init, State.start] using ha
    cases t <;> first | exact rfl | exact trivial
  follows t := by simp [init, State.start]
  queues t c hheld := absurd rfl hheld
  running name c hlookup := by simp [init, State.start, Process.init] at hlookup

variable {s s' : State} {t u : Thread}

/-- A step of a thread that leaves the data alone. -/
theorem Inv.of_code (h : Inv cfg s) (hconsistent : (lockOrder cfg).Consistent s')
    (hdata : s'.data = s.data) (hne : ∀ u ≠ t, s'.code u = s.code u ∧ s'.held u = s.held u)
    (hsub : ∀ a, .run a ∈ s'.code t → .run a ∈ s.code t) (hfollows : (s'.code t).IsChain Follows)
    (hqueues : s'.held t ≠ [] → ∀ x ∈ (s'.code t).head?, ∀ c, ¬ Queues c x) : Inv cfg s' where
  consistent := hconsistent
  fits u a ha := by
    rw [hdata]
    by_cases hu : u = t
    · subst hu
      exact h.fits u a (hsub a ha)
    · exact h.fits u a ((hne u hu).1 ▸ ha)
  follows u := by
    by_cases hu : u = t
    · subst hu
      exact hfollows
    · exact (hne u hu).1 ▸ h.follows u
  queues u c hheld x hx hqueue := by
    rw [hdata]
    by_cases hu : u = t
    · subst hu
      exact absurd hqueue (hqueues hheld x hx c)
    · rw [(hne u hu).1] at hx
      rw [(hne u hu).2] at hheld ⊢
      exact h.queues u c hheld x hx hqueue
  running := by
    rw [hdata]
    exact h.running

theorem Inv.of_tail (h : Inv cfg s) {x : Stmt Monitor Call} {k : Code}
    (hconsistent : (lockOrder cfg).Consistent s') (hdata : s'.data = s.data)
    (hne : ∀ u ≠ t, s'.code u = s.code u ∧ s'.held u = s.held u) (hcode : s.code t = x :: k)
    (hcode' : s'.code t = k) : Inv cfg s' := by
  have hfollows := h.follows t
  rw [hcode, List.isChain_cons] at hfollows
  refine h.of_code hconsistent hdata hne (fun a ha => ?_) (hcode' ▸ hfollows.2) fun _ y hy c => ?_
  · rw [hcode'] at ha
    simp [hcode, ha]
  · rw [hcode'] at hy
    exact not_queues_of_follows (hfollows.1 y hy)

theorem Inv.allowed (h : Inv cfg s) {a : Call} {k : Code} (hcode : s.code t = .run a :: k) :
    a.Allowed (s.held t) := by
  have hordered := h.consistent.ordered t
  rw [hcode] at hordered
  exact hordered.1

theorem Inv.fits_head (h : Inv cfg s) {a : Call} {k : Code} (hcode : s.code t = .run a :: k) :
    a.Fits t s.data :=
  h.fits t a (by simp [hcode])

/-- While a thread owns `mConnectionMap`, the others leave the map alone. -/
theorem Inv.map_of_run (h : Inv cfg s) {a : Call} {k body : Code} {outcome : Outcome}
    {data : Process} (hcode : s.code t = .run a :: k)
    (hrun : run cfg s.data a outcome = some (data, body)) (hu : u ≠ t)
    (hheld : .mConnectionMap ∈ s.held u) :
    data.mConnectionMap = s.data.mConnectionMap := by
  have hallowed := h.allowed hcode
  rcases Threads.map_of_run hrun with hmap | ⟨name, c, rfl, -⟩ | ⟨name, rfl⟩
  · exact hmap
  · have hheld' : s.held t = [.mConnectionMap] := hallowed
    exact absurd (h.consistent.eq_of_mem_held hheld (by simp [hheld'])) hu
  · exact (h.fits_head hcode).elim

theorem Inv.broadcastsTo_of_run (h : Inv cfg s) {a : Call} {k body : Code} {outcome : Outcome}
    {data : Process} (hcode : s.code t = .run a :: k)
    (hrun : run cfg s.data a outcome = some (data, body))
    (hmap : data.mConnectionMap = s.data.mConnectionMap) (hc : s.data.BroadcastsTo c) :
    data.BroadcastsTo c :=
  ⟨takesData_of_run hrun (h.fits_head hcode) hc.1, hmap ▸ hc.2⟩

theorem Inv.queues_of_begins (h : Inv cfg s) {a : Call} {k body : Code} {outcome : Outcome}
    {data : Process} {x : Stmt Monitor Call} (hcode : s.code t = .run a :: k)
    (hrun : run cfg s.data a outcome = some (data, body)) (hheld : s.held t ≠ [])
    (hbegins : Begins (s.held t) data a x) (hqueue : Queues c x) :
    .mConnectionMap ∈ s.held t ∧ data.BroadcastsTo c := by
  cases x with
  | run b =>
      cases b with
      | addMessage d message =>
          obtain rfl : d = c := hqueue
          exact ⟨by simp [hbegins.1], hbegins.2⟩
      | _ => exact hqueue.elim
  | enter m =>
      cases m with
      | mMessageTask d =>
          obtain rfl : d = c := hqueue
          obtain ⟨message, rfl⟩ := hbegins
          obtain ⟨hmem, hc⟩ :=
            h.queues t d hheld (.run (.addMessage d message)) (by simp [hcode]) rfl
          have hsame := same_of_run hrun (by simp [Call.Registers])
          exact ⟨hmem, h.broadcastsTo_of_run hcode hrun hsame.map hc⟩
      | _ => exact hqueue.elim
  | _ => exact hqueue.elim

theorem Inv.run (h : Inv cfg s) {a : Call} {k body : Code} {outcome : Outcome}
    {data : Process} (hcode : s.code t = .run a :: k)
    (hrun : run cfg s.data a outcome = some (data, body)) :
    Inv cfg { s with data := data, code := Function.update s.code t (body ++ k) } := by
  have hfits := h.fits_head hcode
  have hcalls := calls_of_run hrun hfits
  have hfollows := h.follows t
  rw [hcode, List.isChain_cons] at hfollows
  refine ⟨h.consistent.run hcode hrun, fun u b hb => ?_, fun u => ?_,
    fun u c hheld x hx hqueue => ?_, fun name c hlookup => ?_⟩
  · by_cases hu : u = t
    · subst hu
      rcases List.mem_append.mp (by simpa using hb) with hb | hb
      · exact hcalls.fits b hb
      · exact (h.fits u b (by simp [hcode, hb])).mono (running_of_run hrun)
    · exact (h.fits u b (by simpa [hu] using hb)).mono (running_of_run hrun)
  · by_cases hu : u = t
    · subst hu
      simp only [Function.update_self]
      exact List.isChain_append.mpr ⟨hcalls.follows, hfollows.2,
        fun x _ y hy => follows_of_run (hfollows.1 y hy)⟩
    · simpa [hu] using h.follows u
  · by_cases hu : u = t
    · subst hu
      simp only [Function.update_self] at hx
      cases body with
      | nil => exact absurd hqueue (not_queues_of_follows (hfollows.1 x hx))
      | cons y rest =>
          obtain rfl : y = x := by simpa using hx
          have hbegins := hcalls.begins _ (h.allowed hcode) hheld y rfl
          exact h.queues_of_begins hcode hrun hheld hbegins hqueue
    · simp only [Function.update_of_ne hu] at hx
      obtain ⟨hmem, hc⟩ := h.queues u c hheld x hx hqueue
      exact ⟨hmem, h.broadcastsTo_of_run hcode hrun (h.map_of_run hcode hrun hu hmem) hc⟩
  · rcases Threads.map_of_run hrun with hmap | ⟨name', c', rfl, -⟩ | ⟨name', rfl⟩
    · exact running_of_run hrun (h.running name c (hmap ▸ hlookup))
    · exact running_of_run hrun hfits.2
    · exact hfits.elim

/-- A step of any thread keeps all of it. -/
theorem Inv.step {l : Label} (h : Inv cfg s) (hs : step cfg s l = some s') : Inv cfg s' := by
  have hconsistent := h.consistent.step hs
  have hne : ∀ u ≠ l.thread, s'.code u = s.code u ∧ s'.held u = s.held u :=
    fun u hu => step_of_ne hs hu
  cases steps_of_step hs with
  | run hcode hrun => exact h.run hcode hrun
  | enter hcode | exit hcode | notify hcode =>
      exact h.of_tail hconsistent rfl hne hcode (by simp [Label.thread])
  | @wait t m k hcode =>
      have hheld := h.consistent.held_of_wait hcode
      have hfollows := h.follows t
      rw [hcode, List.isChain_cons] at hfollows
      refine h.of_code hconsistent rfl hne (fun a ha => ?_) ?_ fun hnil => ?_
      · have ha' : Stmt.run a ∈ k := by simpa [Label.thread, hheld] using ha
        simp [Label.thread, hcode, ha']
      · simp only [Label.thread, Function.update_self, hheld, List.count_singleton_self,
          List.replicate_one, List.singleton_append, List.isChain_cons]
        exact ⟨fun y hy => follows_of_wait (hfollows.1 y hy), hfollows.2⟩
      · simp [Label.thread, hheld] at hnil
  | wake => exact ⟨hconsistent, h.fits, h.follows, h.queues, h.running⟩

end Collaboration.Threads
