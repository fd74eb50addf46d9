import Collaboration.Server.Steps

/-! # Invariants of every connection of the server

The rule by which a property of single connections becomes an invariant of the server,
and its first use: whatever a server does, its senders only do what senders do. -/

namespace Collaboration

open Transition

namespace ServerConnection

/-- A property that every operation on a connection keeps, provided that the connections
that announce themselves are `fresh` and those that a broadcast reaches are `listening`. -/
structure Invariant (fresh listening P : ServerConnection → Prop) : Prop where
  new : P .new
  named : ∀ c name, P c → P { c with mThreadName := name }
  moved : ∀ c pc, pc ≠ .openingInput → pc ≠ .announcing → P c → P { c with pc := pc }
  stop : ∀ c b, P c → P { c with mStopConnection := b }
  unauthorized : ∀ c, c.pc = .announcing → fresh c → P c →
    P { c with mConnectStatus := .unauthorized }
  connected : ∀ c, P c → P { c with mConnectStatus := .connected }
  release : ∀ c, P c → P c.releaseServerSocket
  own : ∀ c l d, c.step l = some d → P c → P d
  package : ∀ c pkg, P c → P (c.sendDataToTarget (.inner pkg))
  data : ∀ c d, listening c → P c → P (c.sendDataToTarget d)

theorem Invariant.failReading {fresh listening P : ServerConnection → Prop}
    (h : Invariant fresh listening P) {c : ServerConnection} (hc : P c) : P c.failReading :=
  h.moved _ .testing (by simp) (by simp) (h.stop _ true (h.release _ hc))

end ServerConnection

namespace Server

open ServerConnection

variable {cfg : Config} {s t : Server} {fresh listening P : ServerConnection → Prop}

/-- A step at which the provisos of an invariant hold. -/
def Admits (fresh listening : ServerConnection → Prop) (s : Server) (l : Label) (_ : Server) :
    Prop :=
  match l with
  | .unauthorized c => fresh (s.connections c)
  | .sendDataToTarget _ => s.mSocketServerThread.mThreadRunning = true →
    ∀ c ∈ s.addressees none, listening (s.connections c)
  | _ => True

theorem forall_setConnection {c : ℕ} {x : ServerConnection} (h : ∀ d, P (s.connections d))
    (hx : P x) : ∀ d, P ((s.setConnection c x).connections d) :=
  (Function.forall_update_iff s.connections fun _ => P).mpr ⟨hx, fun d _ => h d⟩

theorem forall_execute (hP : Invariant fresh listening P) (h : ∀ d, P (s.connections d))
    (c : ℕ) (remoteIp : JString) (d : ℕ) : P ((s.execute c remoteIp).connections d) := by
  have hmoved : ∀ pc, pc ≠ .openingInput → pc ≠ .announcing →
      P { s.connections c with pc := pc } := fun pc h₁ h₂ => hP.moved _ pc h₁ h₂ (h c)
  refine execute_cases s c remoteIp ?_ ?_ ?_
  · exact fun _ => forall_setConnection h (hmoved .opening (by simp) (by simp)) d
  · exact fun _ _ => forall_setConnection h (hmoved .queued (by simp) (by simp)) d
  · exact fun _ _ => h d

theorem forall_onNewDataReceived (hP : Invariant fresh listening P)
    (h : ∀ d, P (s.connections d)) (c : ℕ) (data : Data) (throws : Bool) (d : ℕ) :
    P ((s.onNewDataReceived cfg c data throws).connections d) := by
  have hmoved : ∀ pc, pc ≠ .openingInput → pc ≠ .announcing →
      P { s.connections c with pc := pc } := fun pc h₁ h₂ => hP.moved _ pc h₁ h₂ (h c)
  refine onNewDataReceived_cases cfg s c data throws ?_ ?_ ?_ ?_ ?_
  · exact fun _ _ =>
      forall_setConnection (s := { s with received := _ }) h (hP.failReading (h c)) d
  · exact fun _ _ => forall_setConnection (s := { s with received := _ }) h
      (hmoved .testing (by simp) (by simp)) d
  · exact fun _ => forall_setConnection h (hmoved .testing (by simp) (by simp)) d
  · exact fun _ _ _ _ => forall_setConnection h (hmoved (.authorizing _ _) (by simp) (by simp)) d
  · exact fun _ _ _ _ => forall_setConnection h (hmoved (.deciding _ _) (by simp) (by simp)) d

theorem forall_decide (hP : Invariant fresh listening P) (h : ∀ d, P (s.connections d))
    (threadName : Option ThreadName) (authorize : Bool) (d : ℕ) :
    P ((s.decide cfg threadName authorize).connections d) := by
  refine decide_cases cfg s threadName authorize ?_ ?_ ?_
  · exact fun _ => h d
  · intro target _ _
    rw [setAutorizeCheckPass_connections]
    exact forall_setConnection h (hP.connected _ (hP.stop _ _ (h target))) d
  · exact fun target _ _ => forall_setConnection h (hP.stop _ _ (h target)) d

/-- A step at which the provisos hold keeps the invariant of every connection. -/
theorem forall_step (hP : Invariant fresh listening P) {l : Label}
    (h : ∀ d, P (s.connections d)) (hs : s.step cfg l = some t)
    (hadm : Admits fresh listening s l t) (d : ℕ) : P (t.connections d) := by
  have hmoved : ∀ c pc, pc ≠ .openingInput → pc ≠ .announcing →
      P { s.connections c with pc := pc } := fun c pc h₁ h₂ => hP.moved _ pc h₁ h₂ (h c)
  cases steps_of_step hs with
  | bind | acceptFails | loops | leaves | onNewConnection | put | stop | stopIdle => exact h d
  | accept => exact forall_setConnection h hP.new d
  | execute => exact forall_execute hP h _ _ d
  | setThreadName => exact forall_setConnection h (hP.named _ _ (h _)) d
  | take => exact forall_setConnection h (hmoved _ .opening (by simp) (by simp)) d
  | connection hx => exact forall_setConnection h (hP.own _ _ _ hx (h _)) d
  | @unauthorized c hpc =>
      by_cases hd : d = c
      · subst hd
        simp only [setPc_connections_self, changeConnectStatus_connections,
          setConnection_connections_self]
        exact hP.moved _ .clearing (by simp) (by simp) (hP.unauthorized _ hpc hadm (h d))
      · simpa [hd] using h d
  | read => exact forall_onNewDataReceived hP h _ _ _ d
  | authorize => exact forall_setConnection h (hmoved _ (.replying _ _) (by simp) (by simp)) d
  | authorizeThrows => exact forall_setConnection h (hP.failReading (h _)) d
  | @reply c name authorize =>
      have hsent : ∀ e, P ((s.sendDataToTargetInner name
          (authorizePackage authorize)).connections e) := by
        intro e
        rw [sendDataToTargetInner_connections]
        split
        · exact hP.package _ _ (h e)
        · exact h e
      exact forall_setConnection hsent
        (hP.moved _ (.deciding _ _) (by simp) (by simp) (hsent c)) d
  | @decide c name authorize =>
      have hdone : ∀ e, P ((s.decide cfg name authorize).connections e) :=
        forall_decide hP h name authorize
      exact forall_setConnection hdone (hP.moved _ .testing (by simp) (by simp) (hdone c)) d
  | finish =>
      exact forall_setConnection h
        (hP.moved _ .finished (by simp) (by simp) (hP.release _ (h _))) d
  | sendDataToTarget =>
      unfold Server.sendDataToTarget
      split
      · rename_i hrun
        simp only [broadcast]
        split
        · rename_i hreg
          exact hP.data _ _ (hadm hrun d ((s.isRegistered_iff d).mp hreg)) (h d)
        · exact h d
      · exact h d

theorem admits_true (s : Server) (l : Label) (t : Server) :
    Admits (fun _ => True) (fun _ => True) s l t := by
  cases l <;> simp [Admits]

/-- Without provisos every run keeps the invariant. -/
theorem forall_connections_of_run (hP : Invariant (fun _ => True) (fun _ => True) P)
    {free : Int32 → Bool} {ls : List Label} (h0 : P .absent)
    (he : exec (step cfg) (init cfg free) ls = some s) (c : ℕ) : P (s.connections c) :=
  Transition.invariant (I := fun s => ∀ c, P (s.connections c))
    (fun s l t h hs => forall_step hP h hs (admits_true s l t)) (fun _ => h0) he c

end Server

/-! ## The senders of the server -/

namespace ServerConnection

/-- Where a sender is needed there is one, it is not started before the input stream is
open, and it is a state that a sender thread can reach. -/
structure SenderInv (c : ServerConnection) : Prop where
  opened : c.pc = .openingInput ∨ c.pc = .announcing ∨ c.mConnectStatus = .unauthorized →
    c.mDataSenderThread.isSome = true
  created : c.pc = .openingInput → ∀ s ∈ c.mDataSenderThread, s.pc = .created
  runs : ∀ s ∈ c.mDataSenderThread, Reachable Sender.step (Sender.new true) s

theorem SenderInv.of_eq {c d : ServerConnection} (h : SenderInv c)
    (hs : d.mDataSenderThread = c.mDataSenderThread)
    (hpc : d.pc = c.pc ∨ d.pc ≠ .openingInput ∧ d.pc ≠ .announcing)
    (hst : d.mConnectStatus = .unauthorized →
      c.mConnectStatus = .unauthorized ∨ c.pc = .announcing) : SenderInv d := by
  constructor
  · rw [hs]
    rintro (h' | h' | h')
    · rcases hpc with heq | ⟨hne, -⟩
      · exact h.opened (.inl (heq ▸ h'))
      · exact absurd h' hne
    · rcases hpc with heq | ⟨-, hne⟩
      · exact h.opened (.inr (.inl (heq ▸ h')))
      · exact absurd h' hne
    · rcases hst h' with h' | h'
      · exact h.opened (.inr (.inr h'))
      · exact h.opened (.inr (.inl h'))
  · rw [hs]
    intro h'
    rcases hpc with heq | ⟨hne, -⟩
    · exact h.created (heq ▸ h')
    · exact absurd h' hne
  · rw [hs]
    exact h.runs

/-- The sender takes a step of its own that leaves a sender that is not started so. -/
theorem SenderInv.sender {c : ServerConnection} (h : SenderInv c) {s t : Sender}
    {l : Sender.Label} (hc : c.mDataSenderThread = some s) (hs : s.step l = some t)
    (hl : s.pc = .created → t.pc = .created) :
    SenderInv { c with mDataSenderThread := some t } := by
  refine ⟨fun _ => rfl, ?_, ?_⟩
  · rintro hpc _ ⟨⟩
    exact hl (h.created hpc s hc)
  · rintro _ ⟨⟩
    exact (h.runs s hc).snoc hs

theorem SenderInv.sendDataToTarget {c : ServerConnection} (h : SenderInv c) (d : Data) :
    SenderInv (c.sendDataToTarget d) := by
  unfold ServerConnection.sendDataToTarget
  split
  · rename_i s hs
    split
    · refine h.sender (l := .addMessage d true) hs rfl ?_
      intro hpc
      simp [Sender.addMessage, Sender.enqueue, hpc]
    · exact h
  · exact h

theorem SenderInv.release {c : ServerConnection} (h : SenderInv c) :
    SenderInv c.releaseServerSocket := by
  refine ⟨?_, ?_, ?_⟩
  · intro hpc
    simpa [releaseServerSocket] using h.opened hpc
  · intro hpc s hs
    obtain ⟨s, hc, rfl⟩ := Option.map_eq_some_iff.mp hs
    exact h.created hpc s hc
  · intro s hs
    obtain ⟨s, hc, rfl⟩ := Option.map_eq_some_iff.mp hs
    exact ((h.runs s hc).snoc (l := .stopRuning) rfl).snoc (l := .closeStream) rfl

theorem SenderInv.own {c d : ServerConnection} {l : Label} (h : SenderInv c)
    (hs : c.step l = some d) : SenderInv d := by
  cases steps_of_step hs with
  | openOutput =>
      refine ⟨fun _ => rfl, ?_, ?_⟩
      · rintro - _ ⟨⟩
        rfl
      · rintro _ ⟨⟩
        exact .refl _
  | openInput hpc =>
      refine ⟨fun _ => ?_, by simp, ?_⟩
      · simpa using h.opened (.inl hpc)
      · intro s hs
        obtain ⟨s, hc, rfl⟩ := Option.map_eq_some_iff.mp hs
        refine (h.runs s hc).snoc (l := .start) ?_
        simp [Sender.step, h.created hpc s hc]
  | openOutputFails | openInputFails | clearStop | loops | leaves =>
      exact h.of_eq rfl (.inr (by simp)) .inl
  | readFails => exact h.release.of_eq rfl (.inr (by simp [failReading])) .inl
  | heartbeat hc =>
      refine h.sender (l := .addHeartbeatPackage) hc rfl ?_
      intro hpc
      simp [Sender.addHeartbeatPackage, Sender.enqueue, hpc]
  | @send s _ written hc hrun =>
      refine h.sender (l := .run written) hc hrun ?_
      intro hpc
      simp [Sender.run, hpc] at hrun

theorem senderInv_invariant : Invariant (fun _ => True) (fun _ => True) SenderInv where
  new := ⟨by simp [new, absent], by simp [new, absent], by simp [new, absent]⟩
  named _ _ h := h.of_eq rfl (.inl rfl) .inl
  moved _ _ h₁ h₂ h := h.of_eq rfl (.inr ⟨h₁, h₂⟩) .inl
  stop _ _ h := h.of_eq rfl (.inl rfl) .inl
  unauthorized _ hpc _ h := h.of_eq rfl (.inl rfl) fun _ => .inr hpc
  connected _ h := h.of_eq rfl (.inl rfl) (by simp)
  release _ h := h.release
  own _ _ _ hs h := h.own hs
  package _ pkg h := h.sendDataToTarget (.inner pkg)
  data _ d _ h := h.sendDataToTarget d

end ServerConnection

namespace Server

open ServerConnection

variable {cfg : Config} {s : Server} {free : Int32 → Bool} {ls : List Label}

theorem senderInv_of_run (he : exec (step cfg) (init cfg free) ls = some s) (c : ℕ) :
    SenderInv (s.connections c) :=
  forall_connections_of_run senderInv_invariant
    ⟨by simp [absent], by simp [absent], by simp [absent]⟩ he c

/-- Whatever is known of every run of a sender thread holds of every sender of a server. -/
theorem forall_senders {Q : Sender → Prop}
    (hQ : ∀ ms t, exec Sender.step (Sender.new true) ms = some t → Q t)
    (he : exec (step cfg) (init cfg free) ls = some s) {c : ℕ} {sender : Sender}
    (hc : (s.connections c).mDataSenderThread = some sender) : Q sender := by
  obtain ⟨ms, hms⟩ := (senderInv_of_run he c).runs sender hc
  exact hQ ms sender hms

end Server

end Collaboration
