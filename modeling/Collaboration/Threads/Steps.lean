import Collaboration.Threads.Semantics

/-! # The statements of the server's threads

What a statement has done that can go on in more than one way. -/

namespace Collaboration.Threads

open Monitors

variable {cfg : Config} {p p' : Process} {body : Code} {outcome : Outcome} {c : ℕ}

theorem returning_eq_some {p p' : Process} {body body' : Code} {outcome : Outcome} :
    returning p body outcome = some (p', body') ↔
      outcome = .returns ∧ p' = p ∧ body' = body := by
  cases outcome <;> simp [returning, eq_comm]

theorem trying_eq_some {returned thrown result : Process × Code} {outcome : Outcome} :
    trying returned thrown outcome = some result ↔
      outcome = .returns ∧ result = returned ∨ outcome = .throws ∧ result = thrown := by
  cases outcome <;> simp [trying, eq_comm]

theorem event_of_run (h : run cfg p .event outcome = some (p', body)) :
    p' = p ∧ ∃ e : Event, body = e.calls ++ [.run .event] := by
  cases outcome with
  | event e =>
      obtain ⟨rfl, rfl⟩ := Prod.mk.inj (Option.some.inj h)
      exact ⟨rfl, e, rfl⟩
  | _ => cases h

theorem accept_of_run (h : run cfg p .accept outcome = some (p', body)) :
    (∃ remoteIp, p' = { p with accepted := p.accepted + 1 } ∧
        body = [.run (.startRun p.accepted), .run (.register p.accepted remoteIp)]) ∨
      p' = p ∧ body = [] := by
  cases outcome with
  | accepts remoteIp =>
      obtain ⟨rfl, rfl⟩ := Prod.mk.inj (Option.some.inj h)
      exact .inl ⟨remoteIp, rfl, rfl⟩
  | throws =>
      obtain ⟨rfl, rfl⟩ := Prod.mk.inj (Option.some.inj h)
      exact .inr ⟨rfl, rfl⟩
  | _ => cases h

theorem tellConnection_of_run {worker : ℕ} {told : Told}
    (h : run cfg p (.tellConnection worker told) outcome = some (p', body)) :
    (∃ c, p' = (p.tell c told).1 ∧ body = (p.tell c told).2) ∨
      p' = p.failReading worker ∧ body = [] := by
  cases hfound : (p.connections worker).found with
  | none =>
      simp only [run, hfound] at h
      exact .inr (returning_eq_some.mp h).2
  | some c =>
      simp only [run, hfound] at h
      exact .inl ⟨c, (returning_eq_some.mp h).2⟩

theorem read_of_run (h : run cfg p (.read c) outcome = some (p', body)) :
    p' = p ∧ ((∃ received, body = p.onNewDataReceived cfg c received ++ [.run (.readLoop c)]) ∨
      body = [.run (.failReading c), .run (.readLoop c)]) := by
  cases outcome with
  | reads received =>
      obtain ⟨-, h⟩ := Option.ite_none_right_eq_some.mp h
      obtain ⟨rfl, rfl⟩ := Prod.mk.inj (Option.some.inj h)
      exact ⟨rfl, .inl ⟨received, rfl⟩⟩
  | throws =>
      obtain ⟨rfl, rfl⟩ := Prod.mk.inj (Option.some.inj h)
      exact ⟨rfl, .inr rfl⟩
  | _ => cases h

theorem onDeliverData_of_run (h : run cfg p (.onDeliverData c) outcome = some (p', body)) :
    p' = p ∧ (body = [] ∨ body = [.run (.failReading c)] ∨
      body = [.run .getInstance, .run .getNetWorkInfo, .run (.failReading c)]) := by
  cases outcome with
  | returns =>
      obtain ⟨rfl, rfl⟩ := Prod.mk.inj (Option.some.inj h)
      exact ⟨rfl, .inl rfl⟩
  | throws =>
      obtain ⟨rfl, rfl⟩ := Prod.mk.inj (Option.some.inj h)
      exact ⟨rfl, .inr (.inl rfl)⟩
  | answersCall =>
      obtain ⟨rfl, rfl⟩ := Prod.mk.inj (Option.some.inj h)
      exact ⟨rfl, .inr (.inr rfl)⟩
  | _ => cases h

theorem authorize_of_run (h : run cfg p (.authorize c) outcome = some (p', body)) :
    p' = { p.setConnection c { p.connections c with authorized := some true } with
        mCheckResult := false } ∧ body = [] ∨
      p' = p ∧ body = synchronized .mAuthorizeLock [.run (.checkAuthorize c)] ∨
      p' = p.setConnection c { p.connections c with authorized := none } ∧ body = [] := by
  cases outcome with
  | isKnownDevice known =>
      cases known with
      | true =>
          obtain ⟨rfl, rfl⟩ := Prod.mk.inj (Option.some.inj h)
          exact .inl ⟨rfl, rfl⟩
      | false =>
          obtain ⟨rfl, rfl⟩ := Prod.mk.inj (Option.some.inj h)
          exact .inr (.inl ⟨rfl, rfl⟩)
  | throws =>
      obtain ⟨rfl, rfl⟩ := Prod.mk.inj (Option.some.inj h)
      exact .inr (.inr ⟨rfl, rfl⟩)
  | _ => cases h

theorem senderLoop_of_run (h : run cfg p (.senderLoop c) outcome = some (p', body)) :
    p' = p.mapSender c (fun sender => { sender with mHeartbeatThread := false }) ∧ body = [] ∨
      p' = p ∧
        body = synchronized (.mMessageTask c) [.run (.takeTask c)] ++ [.run (.senderLoop c)] := by
  cases hstop : (p.connections c).mDataSenderThread.any (·.mThreadStop) with
  | true =>
      simp only [run, hstop] at h
      exact .inl (returning_eq_some.mp h).2
  | false =>
      simp only [run, hstop] at h
      exact .inr (returning_eq_some.mp h).2

/-! ## The statements that register connections -/

/-- The statements that change the registered connections, or which of them data is sent to. -/
def Call.Registers : Call → Prop
  | .put _ _ | .removeConnection _ | .acceptLoop | .openOutput _ | .changeConnectStatus _ _ => True
  | _ => False

/-- What these statements do. -/
inductive Registration (p : Process) : Call → Process → Prop
  | put (name : ThreadName) (c : ℕ) :
      Registration p (.put name c) { p with mConnectionMap := p.mConnectionMap.insert name c }
  | removeConnection (name : Option ThreadName) :
      Registration p (.removeConnection name)
        { p with mConnectionMap := name.elim p.mConnectionMap (p.mConnectionMap.erase ·) }
  | acceptLoop : Registration p .acceptLoop { p with mThreadRunning := true }
  | openOutput (c : ℕ) :
      Registration p (.openOutput c)
        (p.setConnection c { p.connections c with mDataSenderThread := some .new })
  | openOutputThrows (c : ℕ) : Registration p (.openOutput c) p
  | changeConnectStatus (c : ℕ) (connectStatus : ConnectStatus) :
      Registration p (.changeConnectStatus c connectStatus)
        (p.setConnection c { p.connections c with mConnectStatus := connectStatus })

theorem registration_of_run {a : Call} (h : run cfg p a outcome = some (p', body))
    (ha : a.Registers) : Registration p a p' := by
  cases a with
  | put name c =>
      obtain ⟨-, rfl, -⟩ := returning_eq_some.mp h
      exact .put name c
  | removeConnection name =>
      obtain ⟨-, rfl, -⟩ := returning_eq_some.mp h
      exact .removeConnection name
  | acceptLoop =>
      obtain ⟨-, rfl, -⟩ := returning_eq_some.mp h
      exact .acceptLoop
  | openOutput c =>
      obtain ⟨-, h⟩ | ⟨-, h⟩ := trying_eq_some.mp h
      · obtain ⟨rfl, -⟩ := Prod.mk.inj h
        exact .openOutput c
      · obtain ⟨rfl, -⟩ := Prod.mk.inj h
        exact .openOutputThrows c
  | changeConnectStatus c connectStatus =>
      obtain ⟨-, rfl, -⟩ := returning_eq_some.mp h
      exact .changeConnectStatus c connectStatus
  | _ => exact ha.elim

end Collaboration.Threads
