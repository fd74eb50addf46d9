import Collaboration.Client.Steps
import Collaboration.Library.Transition

/-! # When a client thread is connected

From the first `PASS` that it reads on, a thread is connected until it disconnects. -/

namespace Collaboration

open Transition

namespace SocketClientConnectionThread

/-- A change of the sender and of the stop flags only. -/
structure SameState (x y : SocketClientConnectionThread) : Prop where
  pc : y.pc = x.pc
  status : y.mConnectStatus = x.mConnectStatus

theorem SameState.refl (x : SocketClientConnectionThread) : SameState x x := ⟨rfl, rfl⟩

theorem SameState.trans {x y z : SocketClientConnectionThread} (h : SameState x y)
    (h' : SameState y z) : SameState x z :=
  ⟨h'.pc.trans h.pc, h'.status.trans h.status⟩

theorem sameState_sendDataToTarget (x : SocketClientConnectionThread) (d : Data) :
    SameState x (x.sendDataToTarget d) := by
  unfold sendDataToTarget
  split
  · split <;> exact ⟨rfl, rfl⟩
  · exact .refl x

theorem sameState_sendHeartbeatPackages (x : SocketClientConnectionThread) :
    SameState x x.sendHeartbeatPackages := by
  unfold sendHeartbeatPackages
  split
  · split <;> exact ⟨rfl, rfl⟩
  · exact .refl x

/-- How the status of a thread follows from whether it has read a `PASS`. -/
def Follows (x : SocketClientConnectionThread) (passed : Prop) : Prop :=
  match x.pc with
  | .created | .started | .connecting | .announcing => x.mConnectStatus = .notInit ∧ ¬passed
  | .testing | .reading | .closing | .disconnecting => x.mConnectStatus = .connected ↔ passed
  | .releasing | .finished => x.mConnectStatus = .disconnected

theorem Follows.of_sameState {x y : SocketClientConnectionThread} {passed : Prop}
    (h : Follows x passed) (hs : SameState x y) : Follows y passed := by
  unfold Follows
  rw [hs.pc, hs.status]
  exact h

theorem Follows.isConnected_iff {x : SocketClientConnectionThread} {passed : Prop}
    (h : Follows x passed) (hs : x.mConnectStatus ≠ .disconnected) :
    x.isConnected = true ↔ passed := by
  unfold Follows at h
  split at h
  · simp [isConnected, h.1, h.2]
  · simp [isConnected, h.1, h.2]
  · simp [isConnected, h.1, h.2]
  · simp [isConnected, h.1, h.2]
  · simpa [isConnected] using h
  · simpa [isConnected] using h
  · simpa [isConnected] using h
  · simpa [isConnected] using h
  · exact absurd h hs
  · exact absurd h hs

theorem Follows.own {x y : SocketClientConnectionThread} {passed : Prop} {l : Label}
    (h : Follows x passed) (hs : x.step l = some y) : Follows y passed := by
  cases steps_of_step hs with
  | init hpc => simpa only [Follows, hpc, initRunningArgument] using h
  | connect hpc =>
      simp only [Follows, hpc] at h
      exact h
  | connectFails hpc =>
      simp only [Follows, hpc] at h
      simp [Follows, h.1, h.2]
  | loops hpc | leaves hpc | readTimesOut hpc | readFails hpc => simpa only [Follows, hpc] using h
  | close hpc =>
      simp only [Follows, hpc] at h
      simpa only [Follows, (x.sameState_sendDataToTarget farewell).status] using h
  | release hpc => simpa only [Follows, hpc, releaseServerSocket] using h
  | send => exact h.of_sameState ⟨rfl, rfl⟩

theorem pc_created_own {x y : SocketClientConnectionThread} {l : Label} (h : x.pc = .created)
    (hs : x.step l = some y) : y.pc = .created := by
  cases steps_of_step hs with
  | send => exact h
  | init hpc | connect hpc | connectFails hpc | loops hpc | leaves hpc | readTimesOut hpc
  | readFails hpc | close hpc | release hpc => simp [h] at hpc

end SocketClientConnectionThread

namespace Client

open SocketClientConnectionThread

variable {cfg : ClientConfig} {s t : Client}

/-- What a step reads on a thread. -/
def Label.reads (n : ℕ) : Label → Option Data
  | .read u data _ => if u = n then some data else none
  | _ => none

/-- A thread has read a `PASS`. -/
def ReadPass (n : ℕ) (past : List Label) : Prop :=
  ∃ d ∈ past.filterMap (Label.reads n), d.isPass = true

theorem readPass_concat {n : ℕ} {past : List Label} {l : Label} :
    ReadPass n (past ++ [l]) ↔ ReadPass n past ∨ ∃ d ∈ l.reads n, d.isPass = true := by
  cases hl : l.reads n <;> simp [ReadPass, hl, or_and_right, exists_or]

/-- The states that a step can lead a thread to. -/
inductive Effect (s : Client) (n : ℕ) : Label → SocketClientConnectionThread → Prop
  | same {l : Label} {y : SocketClientConnectionThread} (hl : l.reads n = none)
      (h : SameState (s.threads n) y) : Effect s n l y
  | started {serverIp : JString} {serverPort : Int32} (hn : n = s.created)
      (hc : s.current.isConnected = false) :
      Effect s n (.announced serverIp serverPort) (.startConnection .new serverPort serverIp)
  | own {l : SocketClientConnectionThread.Label} {y : SocketClientConnectionThread}
      (h : (s.threads n).step l = some y) : Effect s n (.thread n l) y
  | announced {y : SocketClientConnectionThread} (hpc : (s.threads n).pc = .announcing)
      (hy : y.pc = .testing ∨ y.pc = .disconnecting) (hs : y.mConnectStatus = .unauthorized) :
      Effect s n (.unauthorized n) y
  | admitted {data : Data} {throws : Bool} {y : SocketClientConnectionThread}
      (hpc : (s.threads n).pc = .reading) (hd : data.isPass = true) (hy : y.pc = .testing)
      (hs : y.mConnectStatus = .connected) : Effect s n (.read n data throws) y
  | received {data : Data} {throws : Bool} {y : SocketClientConnectionThread}
      (hpc : (s.threads n).pc = .reading) (hd : data.isPass = false)
      (hy : y.pc = .testing ∨ y.pc = .disconnecting)
      (hs : y.mConnectStatus = (s.threads n).mConnectStatus) : Effect s n (.read n data throws) y
  | disconnected {y : SocketClientConnectionThread} (hpc : (s.threads n).pc = .disconnecting)
      (hy : y.pc = .releasing) (hs : y.mConnectStatus = .disconnected) :
      Effect s n (.disconnected n) y

theorem sameState_setThread {u : ℕ} {x : SocketClientConnectionThread}
    (h : SameState (s.threads u) x) :
    ∀ n, SameState (s.threads n) ((s.setThread u x).threads n) :=
  (Function.forall_update_iff s.threads fun n => SameState (s.threads n)).mpr
    ⟨h, fun _ _ => .refl _⟩

theorem sameState_sendDataToTargetInner (s : Client) (object : Data) (n : ℕ) :
    SameState (s.threads n) ((s.sendDataToTargetInner object).threads n) := by
  unfold sendDataToTargetInner
  split
  · exact sameState_setThread (sameState_sendDataToTarget _ object) n
  · exact .refl _

theorem effect_announce {u : ℕ} (hpc : (s.threads u).pc = .announcing) (n : ℕ) :
    Effect s n (.unauthorized u) ((s.announce cfg u).threads n) := by
  have hfinish : ∀ (v : Client) pc, (pc = .testing ∨ pc = .disconnecting) →
      (∀ n, SameState ((s.changeConnectStatus cfg u .unauthorized).threads n) (v.threads n)) →
      Effect s n (.unauthorized u) ((v.setPc u pc).threads n) := by
    intro v pc hp hsame
    by_cases hn : n = u
    · subst hn
      apply Effect.announced hpc
      · simpa using hp
      · simpa [changeConnectStatus_threads] using (hsame n).status
    · apply Effect.same rfl
      simpa [changeConnectStatus_threads, hn] using hsame n
  refine announce_cases cfg s u ?_ ?_ ?_
  · exact fun _ => hfinish _ .testing (.inl rfl) fun n => .refl _
  · exact fun _ _ _ => hfinish _ .testing (.inl rfl) (sameState_sendDataToTargetInner _ _)
  · exact fun _ _ => hfinish _ .disconnecting (.inr rfl) fun n => .refl _

theorem effect_received {u : ℕ} {data : Data} {throws : Bool}
    (hpc : (s.threads u).pc = .reading) (hd : data.isPass = false) {v : Client} {pc : ClientPc}
    (hp : pc = .testing ∨ pc = .disconnecting)
    (hsame : ∀ n, SameState (s.threads n) (v.threads n)) (n : ℕ) :
    Effect s n (.read u data throws) ((v.setPc u pc).threads n) := by
  by_cases hn : n = u
  · subst hn
    apply Effect.received hpc hd
    · simpa using hp
    · simpa using (hsame n).status
  · apply Effect.same
    · simp [Label.reads, Ne.symm hn]
    · simpa [hn] using hsame n

theorem effect_onNewDataReceived {u : ℕ} {data : Data} (throws : Bool)
    (hpc : (s.threads u).pc = .reading) (hd : data.isPass = false) (n : ℕ) :
    Effect s n (.read u data throws) ((s.onNewDataReceived cfg u data throws).threads n) := by
  have hkept : ∀ n, SameState (s.threads n) (s.threads n) := fun n => .refl _
  refine onNewDataReceived_cases cfg s u data throws ?_ ?_ ?_
  · intro _
    refine effect_received (v := s) hpc hd ?_ hkept n
    cases throws <;> simp
  · intro _ _
    apply effect_received hpc hd (.inl rfl)
    exact sameState_setThread (sameState_sendHeartbeatPackages _)
  · exact fun _ => effect_received hpc hd (.inl rfl) hkept n

theorem effect_receive {u : ℕ} {data : Data} (throws : Bool)
    (hpc : (s.threads u).pc = .reading) (n : ℕ) :
    Effect s n (.read u data throws) ((s.receive cfg u data throws).threads n) := by
  refine receive_cases cfg s u data throws ?_ ?_ ?_ ?_
  · intro hpass _
    by_cases hn : n = u
    · subst hn
      apply Effect.admitted hpc hpass
      · simp
      · simp [changeConnectStatus_threads]
    · apply Effect.same
      · simp [Label.reads, Ne.symm hn]
      · simpa [changeConnectStatus_threads, hn] using SameState.refl _
  · intro hpass _ _
    by_cases hn : n = u
    · subst hn
      apply Effect.received hpc hpass
      · simp
      · simp [stopConnection]
    · apply Effect.same
      · simp [Label.reads, Ne.symm hn]
      · simpa [hn] using SameState.refl _
  · exact fun hpass _ => effect_received hpc hpass (.inl rfl) (fun n => .refl _) n
  · exact fun hpass _ => effect_onNewDataReceived throws hpc hpass n

theorem effect_of_step {l : Label} (hs : s.step cfg l = some t) (n : ℕ) :
    Effect s n l (t.threads n) := by
  cases steps_of_step hs with
  | announced =>
      unfold onServerAnnounced
      split
      · exact .same rfl (.refl _)
      · rename_i hc
        by_cases hn : n = s.created
        · subst hn
          simpa using Effect.started rfl (by simpa using hc)
        · apply Effect.same rfl
          simpa [hn] using SameState.refl _
  | @thread u l x hx =>
      by_cases hn : n = u
      · subst hn
        simpa using Effect.own hx
      · apply Effect.same rfl
        simpa [hn] using SameState.refl _
  | unauthorized hpc => exact effect_announce hpc n
  | read hpc => exact effect_receive _ hpc n
  | @disconnected u hpc =>
      by_cases hn : n = u
      · subst hn
        apply Effect.disconnected hpc
        · simp
        · simp [changeConnectStatus_threads]
      · apply Effect.same rfl
        simpa [changeConnectStatus_threads, hn] using SameState.refl _
  | sendDataToTarget =>
      apply Effect.same rfl
      unfold Client.sendDataToTarget
      split
      · exact sameState_setThread (sameState_sendDataToTarget _ _) n
      · exact .refl _
  | stop =>
      apply Effect.same rfl
      exact sameState_setThread (x := s.current.stopRuning) ⟨rfl, rfl⟩ n
  | stopIdle => exact .same rfl (.refl _)

theorem Effect.follows {l : Label} {n : ℕ} {y : SocketClientConnectionThread}
    {past : List Label} (he : Effect s n l y) (h : Follows (s.threads n) (ReadPass n past))
    (hnew : n = s.created → (s.threads n).pc = .created) :
    Follows y (ReadPass n (past ++ [l])) := by
  rw [readPass_concat]
  cases he with
  | same hl hsame => simpa [hl] using h.of_sameState hsame
  | started hn hc =>
      simp only [Follows, hnew hn] at h
      simpa [Follows, startConnection, SocketClientConnectionThread.new, Label.reads] using h.2
  | own hs => simpa [Label.reads] using h.own hs
  | announced hpc hy hs =>
      simp only [Follows, hpc] at h
      rcases hy with hy | hy <;> simp [Follows, hy, hs, h.2, Label.reads]
  | admitted hpc hd hy hs => simp [Follows, hy, hs, hd, Label.reads]
  | received hpc hd hy hs =>
      simp only [Follows, hpc] at h
      rcases hy with hy | hy <;> simp [Follows, hy, hs, hd, h, Label.reads]
  | disconnected hpc hy hs => simp [Follows, hy, hs]

/-- A thread that is not yet created stays so until its turn comes. -/
theorem Effect.pc_created {l : Label} {n : ℕ} {y : SocketClientConnectionThread}
    (he : Effect s n l y) (h : (s.threads n).pc = .created) :
    y.pc = .created ∨ n = s.created ∧ s.current.isConnected = false ∧
      ∃ serverIp serverPort, l = .announced serverIp serverPort := by
  cases he with
  | same _ hsame => exact .inl (hsame.pc.trans h)
  | started hn hc => exact .inr ⟨hn, hc, _, _, rfl⟩
  | own hs => exact .inl (pc_created_own h hs)
  | announced hpc | admitted hpc | received hpc | disconnected hpc => simp [h] at hpc

theorem announce_created (cfg : ClientConfig) (s : Client) (u : ℕ) :
    (s.announce cfg u).created = s.created := by
  refine announce_cases cfg s u ?_ ?_ ?_
  · exact fun _ => rfl
  · intro deviceId _ _
    unfold sendDataToTargetInner
    split <;> rfl
  · exact fun _ _ => rfl

theorem onNewDataReceived_created (cfg : ClientConfig) (s : Client) (u : ℕ) (data : Data)
    (throws : Bool) : (s.onNewDataReceived cfg u data throws).created = s.created :=
  onNewDataReceived_cases cfg s u data throws (fun _ => rfl) (fun _ _ => rfl) fun _ => rfl

theorem receive_created (cfg : ClientConfig) (s : Client) (u : ℕ) (data : Data) (throws : Bool) :
    (s.receive cfg u data throws).created = s.created :=
  receive_cases cfg s u data throws (fun _ _ => rfl) (fun _ _ _ => rfl) (fun _ _ => rfl)
    fun _ _ => onNewDataReceived_created cfg s u data throws

theorem created_of_step {l : Label} (hs : s.step cfg l = some t) : s.created ≤ t.created := by
  cases steps_of_step hs with
  | announced =>
      unfold onServerAnnounced
      split
      · exact Nat.le_refl _
      · exact Nat.le_succ _
  | unauthorized => exact Nat.le_of_eq (announce_created cfg s _).symm
  | read => exact Nat.le_of_eq (receive_created cfg s _ _ _).symm
  | sendDataToTarget =>
      unfold Client.sendDataToTarget
      split <;> exact Nat.le_refl _
  | thread | disconnected | stop | stopIdle => exact Nat.le_refl _

/-- At the end of every run, the status of every thread follows what it has read. -/
theorem follows_of_run {free : Int32 → Bool} {ls : List Label}
    (he : exec (step cfg) (init cfg free) ls = some s) (n : ℕ) :
    Follows (s.threads n) (ReadPass n ls) := by
  have hinv : (∀ n, s.created ≤ n → (s.threads n).pc = .created) ∧
      ∀ n, Follows (s.threads n) (ReadPass n ([] ++ ls)) := by
    refine history (I := fun past s => (∀ n, s.created ≤ n → (s.threads n).pc = .created) ∧
      ∀ n, Follows (s.threads n) (ReadPass n past)) ?_ ⟨?_, ?_⟩ he
    · rintro past s l t ⟨hnew, h⟩ hs
      constructor
      · intro n hn
        have hle := Nat.le_trans (created_of_step hs) hn
        rcases (effect_of_step hs n).pc_created (hnew n hle) with
          hpc | ⟨rfl, hc, serverIp, serverPort, rfl⟩
        · exact hpc
        · obtain rfl := Option.some.inj hs
          simp only [onServerAnnounced, hc, Bool.false_eq_true, if_false] at hn
          exact absurd hn (Nat.not_succ_le_self _)
      · intro n
        apply (effect_of_step hs n).follows (h n)
        rintro rfl
        exact hnew _ (Nat.le_refl _)
    · exact fun _ _ => rfl
    · intro n
      simp [init, Follows, SocketClientConnectionThread.new, ReadPass]
  exact hinv.2 n

end Client

end Collaboration
