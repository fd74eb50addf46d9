import Collaboration.Threads.Steps

/-! # The order of the server's monitors

`mLock` and `mConnectionMap` are entered with no other monitor held, and no monitor is entered
inside any of the others. -/

namespace Collaboration.Threads

open Monitors Transition

/-- The order in which the monitors are entered. -/
def Monitor.rank : Monitor → ℕ
  | .mLock | .mConnectionMap => 0
  | .mAuthorizeLock | .mNetWorkInfos | .mThreadNameLocker | .mBroadcastTasks
  | .connectionThreads | .mMessageTask _ => 1

/-- The monitors that a thread holds, the last one first, when it comes to a statement. -/
def Call.Allowed (held : List Monitor) : Call → Prop
  | .createInstance | .setInstance | .start | .startBroadcastSender | .startServer
  | .startReceiver => held = [.mLock]
  | .setCheckResult _ | .checkAuthorize _ | .returnCheckResult _ => held = [.mAuthorizeLock]
  | .putInfo _ _ | .setStatus _ _ => held = [.mNetWorkInfos]
  | .removeInfo _ => held = [.mNetWorkInfos, .mConnectionMap]
  | .execute _ | .setThreadName _ => held = [.mThreadNameLocker]
  | .put _ _ | .lookup _ _ | .sendToAll _ | .sendToKey _ _ | .removeConnection _
  | .onRemoveConnection _ => held = [.mConnectionMap]
  | .addMessage _ _ => held = [] ∨ held = [.mConnectionMap]
  | .queueMessage c _ => held = [.mMessageTask c] ∨ held = [.mMessageTask c, .mConnectionMap]
  | .queueHeartbeat c | .takeTask c | .writeObject c _ => held = [.mMessageTask c]
  | .addBroadcastTask _ => held = [] ∨ held = [.mLock]
  | .queueBroadcast _ => held = [.mBroadcastTasks] ∨ held = [.mBroadcastTasks, .mLock]
  | .takeBroadcast | .sendBroadcast _ => held = [.mBroadcastTasks]
  | _ => held = []

variable {cfg : Config}

theorem ordered_sendDataToTarget (p : Process) (c : ℕ) (data : Data) {held : List Monitor}
    {k : Code} (hheld : held = [] ∨ held = [.mConnectionMap])
    (hk : Ordered Monitor.rank Call.Allowed held k) :
    Ordered Monitor.rank Call.Allowed held (p.sendDataToTarget c data ++ k) := by
  unfold Process.sendDataToTarget
  split
  · exact ⟨hheld, hk⟩
  · exact hk

theorem ordered_sendToKeys (data : Data) {k : Code} (keys : List ThreadName)
    (hk : Ordered Monitor.rank Call.Allowed [.mConnectionMap] k) :
    Ordered Monitor.rank Call.Allowed [.mConnectionMap]
      (keys.map (fun key => .run (.sendToKey key data)) ++ k) := by
  induction keys with
  | nil => exact hk
  | cons key keys ih => exact ⟨rfl, ih⟩

theorem ordered_onNewDataReceived (p : Process) (c : ℕ) (received : Data) {k : Code}
    (hk : Ordered Monitor.rank Call.Allowed [] k) :
    Ordered Monitor.rank Call.Allowed [] (p.onNewDataReceived cfg c received ++ k) := by
  cases received with
  | inner pkg =>
      simp only [Process.onNewDataReceived]
      split
      · split <;> simpa [Ordered, Call.Allowed] using hk
      · exact hk
  | string str =>
      simp only [Process.onNewDataReceived]
      split <;> simpa [Ordered, Call.Allowed] using hk
  | object n => exact hk

/-- Every statement calls its code in order. -/
theorem ordered_calls {data data' : Process} {a : Call} {outcome : Outcome} {body : Code}
    {held : List Monitor} (ha : a.Allowed held) (h : run cfg data a outcome = some (data', body))
    (k : Code) (hk : Ordered Monitor.rank Call.Allowed held k) :
    Ordered Monitor.rank Call.Allowed held (body ++ k) := by
  cases a with
  | event =>
      obtain ⟨-, e, rfl⟩ := event_of_run h
      obtain rfl := ha
      cases e <;> simpa [Event.calls, Ordered, Call.Allowed] using hk
  | getInstance | setInstance | setAuthorize | onCheckFinish _ | setCheckResult _
  | startBroadcastSender | startServer | startReceiver | getNetWorkInfo | onNewConnection _ _
  | putInfo _ _ | onRemoveConnection _ | removeInfo _ | statusChanged _ _ | setStatus _ _
  | acceptLoop | startRun _ | execute _ | setThreadName _ | putConnection _ _ | put _ _
  | getConnection _ _ | lookup _ _ | broadcast _ | tell _ _ _ | removeConnection _
  | clearStop _ | failReading _ | finish _ | setAutorizeCheckPass _ | changeConnectStatus _ _
  | returnCheckResult _ | queueHeartbeat _ | addHeartbeatPackage _ | broadcastLoop =>
      obtain ⟨rfl, rfl, rfl⟩ := returning_eq_some.mp h
      obtain rfl := ha
      simpa [synchronized, Ordered, Call.Allowed, Monitor.rank] using hk
  | addMessage _ _ | queueMessage _ _ | addBroadcastTask _ | queueBroadcast _ =>
      obtain ⟨rfl, rfl, rfl⟩ := returning_eq_some.mp h
      obtain rfl | rfl := ha <;>
        simpa [synchronized, Ordered, Call.Allowed, Monitor.rank] using hk
  | createInstance | start | sendDataToTarget _ | tellFound _ _ _ | onConnectionStatutChange _ _
  | checkAuthorize _ =>
      obtain ⟨rfl, rfl, rfl⟩ := returning_eq_some.mp h
      obtain rfl := ha
      split <;> simpa [synchronized, Ordered, Call.Allowed, Monitor.rank] using hk
  | readLoop _ =>
      obtain ⟨rfl, rfl, rfl⟩ := returning_eq_some.mp h
      obtain rfl := ha
      split <;> simpa [Ordered, Call.Allowed] using hk
  | sendDataToTargetInner _ targetThread _ =>
      obtain ⟨rfl, rfl, rfl⟩ := returning_eq_some.mp h
      obtain rfl := ha
      split
      · cases targetThread <;> simpa [Ordered, Call.Allowed] using hk
      · simpa using hk
  | register _ _ =>
      obtain ⟨rfl, rfl, rfl⟩ := returning_eq_some.mp h
      obtain rfl := ha
      split <;> simpa [Ordered, Call.Allowed] using hk
  | answer _ _ =>
      obtain ⟨rfl, rfl, rfl⟩ := returning_eq_some.mp h
      obtain rfl := ha
      split <;> simpa [Ordered, Call.Allowed] using hk
  | sendToAll data =>
      obtain ⟨rfl, rfl, rfl⟩ := returning_eq_some.mp h
      obtain rfl := ha
      exact ordered_sendToKeys _ _ hk
  | sendToKey key data =>
      obtain ⟨rfl, rfl, rfl⟩ := returning_eq_some.mp h
      obtain rfl := ha
      cases data'.mConnectionMap.lookup key with
      | none => exact hk
      | some c => exact ordered_sendDataToTarget _ _ _ (.inr rfl) hk
  | tellConnection worker told =>
      obtain rfl := ha
      obtain ⟨c, -, rfl⟩ | ⟨-, rfl⟩ := tellConnection_of_run h
      · cases told with
        | sendDataToTarget => exact ordered_sendDataToTarget _ _ _ (.inl rfl) hk
        | stopConnection => exact hk
        | setAutorizeCheckPass => simpa [Process.tell, Ordered, Call.Allowed] using hk
      · exact hk
  | accept =>
      obtain rfl := ha
      obtain ⟨remoteIp, -, rfl⟩ | ⟨-, rfl⟩ := accept_of_run h
      · simpa [Ordered, Call.Allowed] using hk
      · exact hk
  | read c =>
      obtain rfl := ha
      obtain ⟨-, ⟨received, rfl⟩ | rfl⟩ := read_of_run h
      · rw [List.append_assoc]
        exact ordered_onNewDataReceived _ _ _ (by simpa [Ordered, Call.Allowed] using hk)
      · simpa [Ordered, Call.Allowed] using hk
  | onDeliverData _ =>
      obtain rfl := ha
      obtain ⟨-, rfl | rfl | rfl⟩ := onDeliverData_of_run h
      · exact hk
      · simpa [Ordered, Call.Allowed] using hk
      · simpa [Ordered, Call.Allowed] using hk
  | authorize _ =>
      obtain rfl := ha
      obtain ⟨-, rfl⟩ | ⟨-, rfl⟩ | ⟨-, rfl⟩ := authorize_of_run h
      · exact hk
      · simpa [synchronized, Ordered, Call.Allowed, Monitor.rank] using hk
      · exact hk
  | acceptRun | receiveRun =>
      obtain ⟨-, h⟩ := Option.ite_none_right_eq_some.mp h
      obtain rfl := ha
      obtain ⟨-, h⟩ | ⟨-, h⟩ := trying_eq_some.mp h
      · obtain ⟨rfl, rfl⟩ := h
        simpa [Ordered, Call.Allowed] using hk
      · obtain ⟨rfl, rfl⟩ := h
        exact hk
  | senderRun _ | timer _ | broadcastRun =>
      obtain ⟨-, h⟩ := Option.ite_none_right_eq_some.mp h
      obtain ⟨rfl, rfl, rfl⟩ := returning_eq_some.mp h
      obtain rfl := ha
      simpa [Ordered, Call.Allowed] using hk
  | serve c =>
      obtain ⟨p, -, h⟩ := Option.bind_eq_some_iff.mp h
      obtain ⟨rfl, rfl, rfl⟩ := returning_eq_some.mp h
      obtain rfl := ha
      simpa [Ordered, Call.Allowed] using hk
  | openOutput _ | openInput _ | writeObject _ _ | sendBroadcast _ | receive =>
      obtain rfl := ha
      obtain ⟨-, h⟩ | ⟨-, h⟩ := trying_eq_some.mp h <;> obtain ⟨rfl, rfl⟩ := h <;>
        simpa [Ordered, Call.Allowed] using hk
  | senderLoop _ =>
      obtain rfl := ha
      obtain ⟨-, rfl⟩ | ⟨-, rfl⟩ := senderLoop_of_run h
      · exact hk
      · simpa [synchronized, Ordered, Call.Allowed, Monitor.rank] using hk
  | takeTask c =>
      obtain ⟨rfl, rfl, rfl⟩ := returning_eq_some.mp h
      obtain rfl := ha
      simp only [Process.takeTask]
      split <;> simpa [Ordered, Call.Allowed] using hk
  | takeBroadcast =>
      obtain ⟨rfl, rfl, rfl⟩ := returning_eq_some.mp h
      obtain rfl := ha
      simp only [Process.takeBroadcast]
      split <;> simpa [Ordered, Call.Allowed] using hk

/-- The order of all monitors, with the places where the statements stand in it. -/
def lockOrder (cfg : Config) : LockOrder (program cfg) where
  rank := Monitor.rank
  allowed := Call.Allowed
  calls ha h k hk := ordered_calls ha h k hk

theorem allowed_main (t : Thread) : t.main.Allowed [] := by
  cases t <;> rfl

theorem consistent_run {free : Int32 → Bool} {ls : List Label} {s : State}
    (he : exec (step cfg) (init cfg free) ls = some s) : (lockOrder cfg).Consistent s :=
  invariant (fun _ _ _ h hs => h.step hs) (LockOrder.consistent_start allowed_main) he

/-- Threads never wait for one another in a circle, and a thread waits on a monitor only while
it holds no other. -/
theorem monitors_entered_in_order {free : Int32 → Bool} {ls : List Label} {s : State}
    (he : exec (step cfg) (init cfg free) ls = some s) :
    (∀ t, ¬ Relation.TransGen (WaitsFor s) t t) ∧
      ∀ t m k, s.code t = .wait m :: k → s.held t = [m] :=
  ⟨(consistent_run he).no_cycle, fun _ _ _ hcode => (consistent_run he).held_of_wait hcode⟩

/-- A user interface thread is inside `mLock`, in the constructor, and another one waits for it. -/
theorem monitors_entered_in_order_starting :
    ∃ s, exec (step (.connectionImpl none true)) (init (.connectionImpl none true) fun _ => true)
        [.run (.userInterface 0) (.event .onCreate), .run (.userInterface 0) .returns,
          .enter (.userInterface 0), .run (.userInterface 0) .returns,
          .run (.userInterface 1) (.event .onCreate), .run (.userInterface 1) .returns] = some s ∧
      WaitsFor s (.userInterface 1) (.userInterface 0) ∧
      (∀ t, ¬ Relation.TransGen (WaitsFor s) t t) ∧
      ∀ t m k, s.code t = .wait m :: k → s.held t = [m] := by
  have he : exec (step (.connectionImpl none true))
      (init (.connectionImpl none true) fun _ => true)
      [.run (.userInterface 0) (.event .onCreate), .run (.userInterface 0) .returns,
        .enter (.userInterface 0), .run (.userInterface 0) .returns,
        .run (.userInterface 1) (.event .onCreate), .run (.userInterface 1) .returns] =
      some _ := rfl
  refine ⟨_, he, ⟨by decide, ?_, ?_⟩, monitors_entered_in_order he⟩
  · intro e hmem
    cases hmem
  · exact ⟨_, _, rfl, rfl⟩

end Collaboration.Threads
