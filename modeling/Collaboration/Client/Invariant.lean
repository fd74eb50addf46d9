import Collaboration.Client.Steps
import Collaboration.Library.Transition

/-! # Invariants of every thread of the client

The rule by which a property of single threads becomes an invariant of the client, and its
use: whatever a client does, its senders only do what senders do. -/

namespace Collaboration

open Transition

namespace SocketClientConnectionThread

/-- A property that every operation on a thread keeps. -/
structure Invariant (P : SocketClientConnectionThread → Prop) : Prop where
  new : P .new
  started : ∀ x port serverIp, P x → P (x.startConnection port serverIp)
  status : ∀ x status, P x → P { x with mConnectStatus := status }
  moved : ∀ x pc, P x → P { x with pc := pc }
  stopConnection : ∀ x, P x → P x.stopConnection
  stopRuning : ∀ x, P x → P x.stopRuning
  data : ∀ x d, P x → P (x.sendDataToTarget d)
  heartbeat : ∀ x, P x → P x.sendHeartbeatPackages
  own : ∀ x l y, x.step l = some y → P x → P y

end SocketClientConnectionThread

namespace Client

open SocketClientConnectionThread

variable {cfg : ClientConfig} {s t : Client} {P : SocketClientConnectionThread → Prop}

theorem forall_setThread {u : ℕ} {x : SocketClientConnectionThread} (h : ∀ n, P (s.threads n))
    (hx : P x) : ∀ n, P ((s.setThread u x).threads n) :=
  (Function.forall_update_iff s.threads fun _ => P).mpr ⟨hx, fun n _ => h n⟩

theorem forall_setPc (hP : Invariant P) (h : ∀ n, P (s.threads n)) (u : ℕ) (pc : ClientPc)
    (n : ℕ) : P ((s.setPc u pc).threads n) :=
  forall_setThread h (hP.moved _ pc (h u)) n

theorem forall_changeConnectStatus (hP : Invariant P) (h : ∀ n, P (s.threads n)) (u : ℕ)
    (status : ConnectStatus) (n : ℕ) : P ((s.changeConnectStatus cfg u status).threads n) := by
  rw [changeConnectStatus_threads]
  exact forall_setThread h (hP.status _ status (h u)) n

theorem forall_announce (hP : Invariant P) (h : ∀ n, P (s.threads n)) (u n : ℕ) :
    P ((s.announce cfg u).threads n) := by
  have hstatus : ∀ n, P ((s.changeConnectStatus cfg u .unauthorized).threads n) :=
    forall_changeConnectStatus hP h u .unauthorized
  refine announce_cases cfg s u ?_ ?_ ?_
  · exact fun _ => forall_setPc hP hstatus u .testing n
  · intro deviceId _ _
    refine forall_setPc hP ?_ u .testing n
    unfold sendDataToTargetInner
    split
    · exact forall_setThread hstatus (hP.data _ _ (hstatus _))
    · exact hstatus
  · exact fun _ _ => forall_setPc hP hstatus u .disconnecting n

theorem forall_onNewDataReceived (hP : Invariant P) (h : ∀ n, P (s.threads n)) (u : ℕ)
    (data : Data) (throws : Bool) (n : ℕ) :
    P ((s.onNewDataReceived cfg u data throws).threads n) := by
  refine onNewDataReceived_cases cfg s u data throws ?_ ?_ ?_
  · exact fun _ => forall_setPc hP h u _ n
  · exact fun _ _ =>
      forall_setPc hP (forall_setThread h (hP.heartbeat _ (h _))) u .testing n
  · exact fun _ => forall_setPc hP h u .testing n

theorem forall_receive (hP : Invariant P) (h : ∀ n, P (s.threads n)) (u : ℕ) (data : Data)
    (throws : Bool) (n : ℕ) : P ((s.receive cfg u data throws).threads n) := by
  refine receive_cases cfg s u data throws ?_ ?_ ?_ ?_
  · exact fun _ _ => forall_setPc hP (forall_changeConnectStatus hP h u .connected) u .testing n
  · exact fun _ _ _ => forall_setThread h (hP.moved _ .testing (hP.stopConnection _ (h u))) n
  · exact fun _ _ => forall_setPc hP h u .testing n
  · exact fun _ _ => forall_onNewDataReceived hP h u data throws n

/-- Every step keeps the invariant of every thread. -/
theorem forall_step (hP : Invariant P) {l : Label} (h : ∀ n, P (s.threads n))
    (hs : s.step cfg l = some t) (n : ℕ) : P (t.threads n) := by
  cases steps_of_step hs with
  | announced =>
      unfold onServerAnnounced
      split
      · exact h n
      · exact forall_setThread h (hP.started _ _ _ hP.new) n
  | thread hx => exact forall_setThread h (hP.own _ _ _ hx (h _)) n
  | unauthorized => exact forall_announce hP h _ n
  | read => exact forall_receive hP h _ _ _ n
  | disconnected =>
      exact forall_setPc hP (forall_changeConnectStatus hP h _ .disconnected) _ .releasing n
  | sendDataToTarget =>
      unfold Client.sendDataToTarget
      split
      · exact forall_setThread h (hP.data _ _ (h _)) n
      · exact h n
  | stop => exact forall_setThread h (hP.stopRuning _ (h _)) n
  | stopIdle => exact h n

/-- Every run keeps the invariant. -/
theorem forall_threads_of_run (hP : Invariant P) {free : Int32 → Bool} {ls : List Label}
    (he : exec (step cfg) (init cfg free) ls = some s) (n : ℕ) : P (s.threads n) :=
  Transition.invariant (I := fun s => ∀ n, P (s.threads n))
    (fun _ _ _ h hs => forall_step hP h hs) (fun _ => hP.new) he n

end Client

/-! ## The senders of the client -/

namespace SocketClientConnectionThread

/-- The sender, if there is one, is in a state that a sender thread can reach. -/
def SenderInv (x : SocketClientConnectionThread) : Prop :=
  ∀ s ∈ x.mDataSenderThread, Reachable Sender.step (Sender.new false) s

theorem SenderInv.sender {x : SocketClientConnectionThread} (h : SenderInv x) {s t : Sender}
    {l : Sender.Label} (hx : x.mDataSenderThread = some s) (hs : s.step l = some t) :
    SenderInv { x with mDataSenderThread := some t } := by
  rintro _ ⟨⟩
  exact (h s hx).snoc hs

theorem SenderInv.sendDataToTarget {x : SocketClientConnectionThread} (h : SenderInv x)
    (d : Data) : SenderInv (x.sendDataToTarget d) := by
  unfold SocketClientConnectionThread.sendDataToTarget
  split
  · rename_i s hs
    split
    · exact h.sender (l := .addMessage d true) hs rfl
    · exact h
  · exact h

theorem SenderInv.sendHeartbeatPackages {x : SocketClientConnectionThread} (h : SenderInv x) :
    SenderInv x.sendHeartbeatPackages := by
  unfold SocketClientConnectionThread.sendHeartbeatPackages
  split
  · rename_i s hs
    split
    · exact h.sender (l := .addHeartbeatPackage) hs rfl
    · exact h
  · exact h

theorem SenderInv.own {x y : SocketClientConnectionThread} {l : Label} (h : SenderInv x)
    (hs : x.step l = some y) : SenderInv y := by
  cases steps_of_step hs with
  | init | connectFails | loops | leaves | readTimesOut | readFails => exact h
  | connect =>
      rintro _ ⟨⟩
      exact (Reachable.refl (Sender.new false)).snoc (l := .start) rfl
  | close => exact h.sendDataToTarget farewell
  | release =>
      intro s hs
      obtain ⟨s, hx, rfl⟩ := Option.map_eq_some_iff.mp hs
      exact ((h s hx).snoc (l := .stopRuning) rfl).snoc (l := .closeStream) rfl
  | @send s _ written hx hrun => exact h.sender (l := .run written) hx hrun

theorem senderInv_invariant : Invariant SenderInv where
  new := by simp [SenderInv, new]
  started _ _ _ h := h
  status _ _ h := h
  moved _ _ h := h
  stopConnection _ h := h
  stopRuning _ h := h
  data _ d h := h.sendDataToTarget d
  heartbeat _ h := h.sendHeartbeatPackages
  own _ _ _ hs h := h.own hs

end SocketClientConnectionThread

/-- Whatever is known of every run of a sender thread holds of every sender of a client. -/
theorem Client.forall_senders {cfg : ClientConfig} {s : Client} {free : Int32 → Bool}
    {ls : List Client.Label} {Q : Sender → Prop}
    (hQ : ∀ ms t, exec Sender.step (Sender.new false) ms = some t → Q t)
    (he : exec (Client.step cfg) (.init cfg free) ls = some s) {n : ℕ} {sender : Sender}
    (hn : (s.threads n).mDataSenderThread = some sender) : Q sender := by
  have hinv := Client.forall_threads_of_run SocketClientConnectionThread.senderInv_invariant he n
  obtain ⟨ms, hms⟩ := hinv sender hn
  exact hQ ms sender hms

end Collaboration
