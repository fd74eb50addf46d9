import Collaboration.Server.Registry

/-! # By what an answer is routed

A worker that handles a package carries the thread name that it read when the package
arrived, and everything that it does in answer is routed by that name. -/

namespace Collaboration

open Transition

/-- The thread name that a worker carries while it handles a package. -/
def ServerPc.carried : ServerPc → Option (Option ThreadName)
  | .authorizing threadName _ | .replying threadName _ | .deciding threadName _ => some threadName
  | _ => none

namespace ServerConnection

/-- `sendDataToTarget` would queue an object. -/
def takesData (c : ServerConnection) : Bool := c.canSendData && c.mDataSenderThread.isSome

/-- The send queue, where there is a sender. -/
def queue (c : ServerConnection) : Option (List SocketDataSendTask) :=
  c.mDataSenderThread.map (·.mMessageTask)

/-- Two states of a connection that agree on its status, its stop flag and its send queue. -/
structure SameService (c d : ServerConnection) : Prop where
  status : d.mConnectStatus = c.mConnectStatus
  stop : d.mStopConnection = c.mStopConnection
  queue_eq : d.queue = c.queue

theorem SameService.refl (c : ServerConnection) : SameService c c := ⟨rfl, rfl, rfl⟩

theorem sameService_sendDataToTarget_iff (c : ServerConnection) (d : Data) :
    SameService c (c.sendDataToTarget d) ↔ c.takesData = false := by
  cases hs : c.mDataSenderThread with
  | none =>
      have heq : c.sendDataToTarget d = c := by simp [sendDataToTarget, hs]
      simp [heq, SameService.refl, takesData, hs]
  | some sender =>
      by_cases hc : c.canSendData = true
      · simp only [takesData, hc, hs, Option.isSome_some, Bool.and_self, reduceCtorEq, iff_false]
        intro h
        have hlen := congrArg (Option.map List.length) h.queue_eq
        simp [sendDataToTarget, hs, hc, queue, Sender.addMessage, Sender.enqueue] at hlen
      · have heq : c.sendDataToTarget d = c := by simp [sendDataToTarget, hs, hc]
        simp [heq, SameService.refl, takesData, hc]

/-- A change that neither connects a connection nor makes it handle a package. -/
structure Quiet (c d : ServerConnection) : Prop where
  status : d.mConnectStatus = .connected → c.mConnectStatus = .connected
  pc : d.pc = c.pc ∨ d.pc.carried = none

theorem Quiet.refl (c : ServerConnection) : Quiet c c := ⟨id, .inl rfl⟩

theorem sendDataToTarget_eq (c : ServerConnection) (d : Data) :
    ∃ sender, c.sendDataToTarget d = { c with mDataSenderThread := sender } := by
  unfold sendDataToTarget
  split
  · split
    · exact ⟨_, rfl⟩
    · exact ⟨c.mDataSenderThread, rfl⟩
  · exact ⟨c.mDataSenderThread, rfl⟩

theorem quiet_sendDataToTarget (c : ServerConnection) (d : Data) :
    Quiet c (c.sendDataToTarget d) := by
  obtain ⟨sender, hc⟩ := c.sendDataToTarget_eq d
  rw [hc]
  exact ⟨id, .inl rfl⟩

theorem quiet_step {c d : ServerConnection} {l : Label} (h : c.step l = some d) : Quiet c d := by
  cases steps_of_step h with
  | heartbeat | send => exact ⟨id, .inl rfl⟩
  | _ => exact ⟨id, .inr rfl⟩

end ServerConnection

namespace Server

open ServerConnection

variable {cfg : Config} {s t : Server} {ls : List Label}

/-- The connection whose package a step handles. -/
def Label.handles : Label → Option ℕ
  | .read c _ _ | .authorize c _ _ | .reply c | .decide c => some c
  | _ => none

/-! ## Quiet steps -/

theorem quiet_setConnection {c : ℕ} {x : ServerConnection} (h : Quiet (s.connections c) x) :
    ∀ d, Quiet (s.connections d) ((s.setConnection c x).connections d) :=
  (Function.forall_update_iff s.connections fun d => Quiet (s.connections d)).mpr
    ⟨h, fun _ _ => .refl _⟩

theorem quiet_setPc (s : Server) (c : ℕ) (pc : ServerPc) (h : pc.carried = none) (d : ℕ) :
    Quiet (s.connections d) ((s.setPc c pc).connections d) :=
  quiet_setConnection (x := { s.connections c with pc := pc }) ⟨id, .inr h⟩ d

theorem quiet_execute (s : Server) (c : ℕ) (remoteIp : JString) (d : ℕ) :
    Quiet (s.connections d) ((s.execute c remoteIp).connections d) := by
  refine execute_cases s c remoteIp ?_ ?_ ?_
  · exact fun _ => quiet_setPc s c .opening rfl d
  · exact fun _ _ => quiet_setPc s c .queued rfl d
  · exact fun _ _ => .refl _

/-- Outside the handling of packages every step is quiet. -/
theorem quiet_of_step {l : Label} (h : s.step cfg l = some t) (hl : l.handles = none) (d : ℕ) :
    Quiet (s.connections d) (t.connections d) := by
  cases steps_of_step h with
  | read | authorize | authorizeThrows | reply | decide => simp [Label.handles] at hl
  | bind | acceptFails | loops | leaves | onNewConnection | put | stop | stopIdle => exact .refl _
  | accept => exact quiet_setConnection (x := .new) ⟨by simp [new, absent], .inr rfl⟩ d
  | execute => exact quiet_execute s _ _ d
  | @setThreadName c =>
      refine quiet_setConnection (c := c) (s := s) ?_ d
      exact ⟨id, .inl rfl⟩
  | take => exact quiet_setPc s _ .opening rfl d
  | connection hx => exact quiet_setConnection (quiet_step hx) d
  | @unauthorized c =>
      by_cases hd : d = c
      · subst hd
        simp only [setPc_connections_self, changeConnectStatus_connections,
          setConnection_connections_self]
        exact ⟨by simp, .inr rfl⟩
      · simpa [hd] using Quiet.refl _
  | @finish c =>
      refine quiet_setConnection (c := c) (s := s) ?_ d
      exact ⟨id, .inr rfl⟩
  | sendDataToTarget =>
      unfold Server.sendDataToTarget
      split
      · simp only [broadcast]
        split
        · exact quiet_sendDataToTarget _ _
        · exact .refl _
      · exact .refl _

/-- Only a package that is no heartbeat keeps the connection busy. -/
theorem onNewDataReceived_connections_self (cfg : Config) (s : Server) (c : ℕ) (data : Data)
    (throws : Bool) :
    Quiet (s.connections c) ((s.onNewDataReceived cfg c data throws).connections c) ∨
    ∃ pkg, data = .inner pkg ∧ pkg.isHeatbeatPackage = false ∧
      (s.onNewDataReceived cfg c data throws).connections c =
        { s.connections c with
          pc := if cfg.mNeedCheckAuthorize then
              .authorizing (s.connections c).mThreadName pkg.message
            else .deciding (s.connections c).mThreadName true } := by
  refine onNewDataReceived_cases cfg s c data throws ?_ ?_ ?_ ?_ ?_
  · intro _ _
    rw [setConnection_connections_self]
    exact .inl ⟨id, .inr rfl⟩
  · intro _ _
    rw [setPc_connections_self]
    exact .inl ⟨id, .inr rfl⟩
  · intro _
    rw [setPc_connections_self]
    exact .inl ⟨id, .inr rfl⟩
  · intro pkg hdata hbeat hauth
    exact .inr ⟨pkg, hdata, hbeat, by simp [hauth]⟩
  · intro pkg hdata hbeat hauth
    exact .inr ⟨pkg, hdata, hbeat, by simp [hauth]⟩

theorem decide_connections_pc (name : Option ThreadName) (authorize : Bool) (d : ℕ) :
    ((s.decide cfg name authorize).connections d).pc = (s.connections d).pc := by
  refine decide_cases cfg s name authorize ?_ ?_ ?_
  · exact fun _ => rfl
  · intro target _ _
    by_cases hd : d = target
    · subst hd
      simp [setAutorizeCheckPass_connections]
    · simp [setAutorizeCheckPass_connections, hd]
  · intro target _ _
    by_cases hd : d = target
    · subst hd
      simp [stopConnection]
    · simp [hd]

/-! ## The name that a worker carries -/

theorem accepted_le_of_step {l : Label} (h : s.step cfg l = some t) :
    s.mSocketServerThread.accepted ≤ t.mSocketServerThread.accepted := by
  cases steps_of_step h with
  | accept => exact Nat.le_succ _
  | @execute c remoteIp =>
      exact execute_cases s c remoteIp (fun _ => le_rfl) (fun _ _ => le_rfl) fun _ _ => le_rfl
  | bind | acceptFails | loops | leaves | setThreadName | onNewConnection | put | take | stop
  | stopIdle => exact le_rfl
  | _ => rw [(step_keepsRegistry h rfl).thread]

theorem RegistryAt.lt_accepted {m : ℕ} (h : RegistryAt s m) {c : ℕ} {name : ThreadName}
    (hname : (s.connections c).mThreadName = some name) :
    name = keyOf c ∧ c < s.mSocketServerThread.accepted := by
  obtain ⟨hlt, rfl⟩ := (h.mThreadName c name).mp hname
  have hacc := h.accepted
  refine ⟨rfl, ?_⟩
  cases hpc : s.mSocketServerThread.pc <;> simp only [hpc, AcceptPc.HandlesNth] at hacc <;>
    simp only [hpc, AcceptPc.named] at hlt <;> omega

theorem RegistryAt.le_accepted {m : ℕ} (h : RegistryAt s m) :
    m ≤ s.mSocketServerThread.accepted := by
  have hacc := h.accepted
  cases hpc : s.mSocketServerThread.pc <;> simp only [hpc, AcceptPc.HandlesNth] at hacc <;> omega

/-- Handling a package keeps the name that the worker carries. -/
theorem carried_of_handles {l : Label} (hs : s.step cfg l = some t) {c : ℕ}
    (hl : l.handles = some c) (hread : ∀ data throws, l ≠ .read c data throws) (d : ℕ) :
    (t.connections d).pc.carried = (s.connections d).pc.carried ∨
      (t.connections d).pc.carried = none := by
  have hset : ∀ (u : Server) (pc : ServerPc), (∀ d, (u.connections d).pc = (s.connections d).pc) →
      pc.carried = (s.connections c).pc.carried ∨ pc.carried = none →
      ((u.setPc c pc).connections d).pc.carried = (s.connections d).pc.carried ∨
        ((u.setPc c pc).connections d).pc.carried = none := by
    intro u pc hu hpc
    by_cases hd : d = c
    · subst hd
      simpa using hpc
    · simp [hd, hu]
  cases steps_of_step hs with
  | @read c' data throws =>
      obtain rfl := Option.some.inj hl
      exact absurd rfl (hread data throws)
  | authorize hpc =>
      obtain rfl := Option.some.inj hl
      exact hset s _ (fun _ => rfl) (.inl (by simp [hpc, ServerPc.carried]))
  | @authorizeThrows c' =>
      obtain rfl := Option.some.inj hl
      by_cases hd : d = c'
      · subst hd
        exact .inr (by simp [failReading, ServerPc.carried])
      · simp [hd]
  | @reply c' name authorize hpc =>
      obtain rfl := Option.some.inj hl
      refine hset _ _ ?_ (.inl (by simp [hpc, ServerPc.carried]))
      intro e
      rw [sendDataToTargetInner_connections]
      split
      · obtain ⟨sender, heq⟩ := (s.connections e).sendDataToTarget_eq (authorizePackage authorize)
        rw [heq]
      · rfl
  | decide =>
      obtain rfl := Option.some.inj hl
      exact hset _ _ (decide_connections_pc _ _) (.inr rfl)
  | _ => simp [Label.handles] at hl

/-- A worker carries a name from when a package is read on its connection. -/
theorem carried_of_step {l : Label} (hs : s.step cfg l = some t) {d : ℕ}
    {name : Option ThreadName} (hd : (t.connections d).pc.carried = some name) :
    (s.connections d).pc.carried = some name ∨
      ∃ pkg throws, l = .read d (.inner pkg) throws ∧ pkg.isHeatbeatPackage = false ∧
        name = (s.connections d).mThreadName := by
  have hquiet : Quiet (s.connections d) (t.connections d) →
      (s.connections d).pc.carried = some name := by
    intro hq
    rcases hq.pc with heq | hnone
    · exact heq ▸ hd
    · simp [hnone] at hd
  cases hl : l.handles with
  | none => exact .inl (hquiet (quiet_of_step hs hl d))
  | some c =>
      by_cases hread : ∀ data throws, l ≠ .read c data throws
      · rcases carried_of_handles hs hl hread d with heq | hnone
        · exact .inl (heq ▸ hd)
        · simp [hnone] at hd
      · push Not at hread
        obtain ⟨data, throws, rfl⟩ := hread
        cases steps_of_step hs with | read
        by_cases hdc : d = c
        · subst hdc
          rcases onNewDataReceived_connections_self cfg s d data throws with
            hq | ⟨pkg, rfl, hbeat, heq⟩
          · exact .inl (hquiet hq)
          · right
            refine ⟨pkg, throws, rfl, hbeat, ?_⟩
            rw [heq] at hd
            split at hd <;> simpa [ServerPc.carried, eq_comm] using hd
        · rw [onNewDataReceived_connections_of_ne cfg s hdc] at hd
          exact .inl hd

/-! ## Runs -/

/-- A client asks for authorization and is let in. -/
def approve (c : ℕ) : List Label :=
  [.read c (.inner (.ofMessage (JString.lit "htc:1234567890"))) false,
    .authorize c (some (JString.lit "htc:1234567890")) (some true), .reply c, .decide c]

end Server

end Collaboration
