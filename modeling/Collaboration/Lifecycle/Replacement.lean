import Collaboration.Client.Admission
import Collaboration.Lifecycle.Steps
import Collaboration.Session.Delivery

/-! # Client threads that are replaced while they run

An announcement replaces the current thread unless that thread is connected, and the
replaced thread goes on. -/

namespace Collaboration

open Transition

namespace SocketClientConnectionThread

/-- The thread was started and has not finished. -/
def isAlive (t : SocketClientConnectionThread) : Bool := t.pc != .created && t.pc != .finished

theorem own_isAlive {x y : SocketClientConnectionThread} {l : Label} (h : x.step l = some y)
    (hy : y.isAlive = true) : x.isAlive = true := by
  cases steps_of_step h with
  | init hpc | connect hpc | connectFails hpc | loops hpc | leaves hpc | readTimesOut hpc
  | readFails hpc | close hpc | release hpc => simp [isAlive, hpc]
  | send => exact hy

end SocketClientConnectionThread

namespace Client

variable {cfg : ClientConfig} {s t : Client}

def noneAlive (s : Client) : Bool :=
  (List.range s.created).all fun n => !(s.threads n).isAlive

/-- The threads that do not exist yet. -/
def Numbered (s : Client) : Prop := ∀ n, s.created ≤ n → (s.threads n).pc = .created

theorem Numbered.lt_created (h : Numbered s) {n : ℕ} (hn : (s.threads n).isAlive = true) :
    n < s.created := by
  by_contra hge
  simp [SocketClientConnectionThread.isAlive, h n (Nat.le_of_not_lt hge)] at hn

theorem Numbered.noneAlive_iff (h : Numbered s) :
    s.noneAlive = true ↔ ∀ n, (s.threads n).isAlive = false := by
  simp only [noneAlive, List.all_eq_true, List.mem_range, Bool.not_eq_true']
  constructor
  · intro hnone n
    by_contra halive
    have halive : (s.threads n).isAlive = true := by simpa using halive
    simp [hnone n (h.lt_created halive)] at halive
  · exact fun hnone n _ => hnone n

theorem isAlive_of_step {l : Label} (hl : l.ofConnection = true) (h : s.step cfg l = some t)
    {n : ℕ} (hn : (t.threads n).isAlive = true) : (s.threads n).isAlive = true := by
  have heffect := effect_of_step h n
  generalize t.threads n = y at heffect hn
  cases heffect with
  | same _ hsame => simpa [SocketClientConnectionThread.isAlive, hsame.pc] using hn
  | started => simp [Label.ofConnection] at hl
  | own hs => exact SocketClientConnectionThread.own_isAlive hs hn
  | announced hpc | admitted hpc | received hpc | disconnected hpc =>
      simp [SocketClientConnectionThread.isAlive, hpc]

theorem Numbered.step {l : Label} (h : Numbered s) (hl : l.ofConnection = true)
    (hs : s.step cfg l = some t) : Numbered t := by
  intro n hn
  have hle := Nat.le_trans (created_of_step hs) hn
  rcases (effect_of_step hs n).pc_created (h n hle) with hpc | ⟨-, -, serverIp, serverPort, rfl⟩
  · exact hpc
  · simp [Label.ofConnection] at hl

theorem Numbered.initThread (h : Numbered s) : Numbered s.initThread := by
  intro n hn
  have hlt : s.created < n := hn
  simpa [Client.initThread, Nat.ne_of_gt hlt] using h n (Nat.le_of_lt hlt)

theorem stopClient_sameState (s : Client) (n : ℕ) :
    SocketClientConnectionThread.SameState (s.threads n) (s.stopClient.threads n) := by
  unfold stopClient
  split
  · exact sameState_setThread (x := s.current.stopRuning) ⟨rfl, rfl⟩ n
  · exact .refl _

theorem stopClient_created (s : Client) : s.stopClient.created = s.created := by
  unfold stopClient
  split <;> rfl

theorem Numbered.stopClient (h : Numbered s) : Numbered s.stopClient := by
  intro n hn
  rw [(stopClient_sameState s n).pc]
  exact h n (stopClient_created s ▸ hn)

theorem Numbered.onServerAnnounced (h : Numbered s) (serverIp : JString) (serverPort : Int32) :
    Numbered (s.onServerAnnounced serverIp serverPort) := by
  unfold Client.onServerAnnounced
  split
  · exact h
  · intro n hn
    have hlt : s.created < n := hn
    simpa [Nat.ne_of_gt hlt] using h n (Nat.le_of_lt hlt)

end Client

namespace ClientConnection

open SocketClientConnectionThread Client

variable {cfg : ClientConfig} {digits : JString.DigitTable} {s t : ClientConnection}

/-! ## How many threads are alive -/

/-- At most one connection thread has been started and has not finished. -/
def OneConnection (s : ClientConnection) : Prop :=
  ∀ m n, (s.client.threads m).isAlive = true → (s.client.threads n).isAlive = true → m = n

/-- The step hands over a datagram that starts a connection thread. -/
def startsThread (digits : JString.DigitTable) (s : ClientConnection) : Label → Bool
  | .handle n =>
    match (s.discovery.receivers n).pc with
    | .handling message =>
      (announcedAddress digits message).isSome && !s.client.current.isConnected
    | _ => false
  | _ => false

/-- A datagram that starts a connection thread arrives when no other is alive. -/
def ArrivesAlone (digits : JString.DigitTable) (s : ClientConnection) (l : Label)
    (_ : ClientConnection) : Prop :=
  s.startsThread digits l = true → s.client.noneAlive = true

instance (s : ClientConnection) (l : Label) (t : ClientConnection) :
    Decidable (ArrivesAlone digits s l t) :=
  inferInstanceAs (Decidable (s.startsThread digits l = true → s.client.noneAlive = true))

theorem numbered_new (cfg : ClientConfig) (free : Int32 → Bool) :
    Numbered (new cfg free).client := fun _ _ => rfl

theorem numbered_step {l : Label} (h : Numbered s.client) (hs : s.step cfg digits l = some t) :
    Numbered t.client := by
  cases steps_of_step hs with
  | start => exact h.initThread
  | stopClient => exact h.stopClient
  | announced => exact h.onServerAnnounced _ _
  | client hl hstep => exact h.step hl hstep
  | startConnected | stop | stopUnconnected | stopReceive | stopThread | discovery | malformed =>
      exact h

/-- Only an announcement brings a thread to life. -/
theorem isAlive_of_not_startsThread {l : Label} (hs : s.step cfg digits l = some t)
    (hl : s.startsThread digits l = false) {n : ℕ}
    (hn : (t.client.threads n).isAlive = true) : (s.client.threads n).isAlive = true := by
  cases steps_of_step hs with
  | start =>
      by_cases hc : n = s.client.created
      · subst hc
        simp [initThread, SocketClientConnectionThread.isAlive,
          SocketClientConnectionThread.new] at hn
      · simpa [initThread, hc] using hn
  | stopClient =>
      simpa [SocketClientConnectionThread.isAlive, (stopClient_sameState s.client n).pc] using hn
  | announced hpc haddress =>
      have hconnected : s.client.current.isConnected = true := by
        simpa [startsThread, hpc, haddress] using hl
      simpa [Client.onServerAnnounced, hconnected] using hn
  | client hconn hstep => exact isAlive_of_step hconn hstep hn
  | startConnected | stop | stopUnconnected | stopReceive | stopThread | discovery | malformed =>
      exact hn

theorem oneConnection_iff_of_startsThread {l : Label} (hnum : Numbered s.client)
    (hs : s.step cfg digits l = some t) (hl : s.startsThread digits l = true) :
    OneConnection t ↔ s.client.noneAlive = true := by
  cases steps_of_step hs with
  | @announced n message serverIp serverPort hpc haddress =>
      have hconnected : s.client.current.isConnected = false := by
        simpa [startsThread, hpc, haddress] using hl
      have hself : ((s.client.onServerAnnounced serverIp serverPort).threads
          s.client.created).isAlive = true := by
        simp [Client.onServerAnnounced, hconnected, SocketClientConnectionThread.isAlive,
          startConnection]
      have hother : ∀ m, m ≠ s.client.created →
          (s.client.onServerAnnounced serverIp serverPort).threads m = s.client.threads m := by
        intro m hm
        simp [Client.onServerAnnounced, hconnected, hm]
      rw [hnum.noneAlive_iff]
      constructor
      · intro hone m
        by_contra halive
        have halive : (s.client.threads m).isAlive = true := by simpa using halive
        have hm : m ≠ s.client.created := Nat.ne_of_lt (hnum.lt_created halive)
        exact hm (hone m s.client.created (by rw [hother m hm]; exact halive) hself)
      · intro hnone
        have honly : ∀ m, ((s.client.onServerAnnounced serverIp serverPort).threads
            m).isAlive = true → m = s.client.created := by
          intro m hm
          by_contra hne
          rw [hother m hne, hnone m] at hm
          cases hm
        intro m k hm hk
        exact (honly m hm).trans (honly k hk).symm
  | malformed hpc haddress => simp [startsThread, hpc, haddress] at hl
  | _ => simp [startsThread] at hl

/-- In all states of a run at most one connection thread is alive if and only if every
datagram that starts a thread arrives when none is. -/
theorem one_connection_iff (cfg : ClientConfig) (digits : JString.DigitTable)
    (free : Int32 → Bool) (ls : List Label) :
    Along (step cfg digits) (fun _ _ t => OneConnection t) (new cfg free) ls ↔
      Along (step cfg digits) (ArrivesAlone digits) (new cfg free) ls := by
  refine along_congr (I := fun s => Numbered s.client ∧ OneConnection s)
    (fun s l t h hs ht => ⟨numbered_step h.1 hs, ht⟩) ?_ ⟨numbered_new cfg free, ?_⟩ ls
  · rintro s l t ⟨hnum, hone⟩ hs
    unfold ArrivesAlone
    cases hl : s.startsThread digits l with
    | true => simpa using oneConnection_iff_of_startsThread hnum hs hl
    | false =>
        simp only [Bool.false_eq_true, false_implies, iff_true]
        intro m n hm hn
        exact hone m n (isAlive_of_not_startsThread hs hl hm) (isAlive_of_not_startsThread hs hl hn)
  · intro m n hm
    simp [ClientConnection.new, constructed, Client.init, SocketClientConnectionThread.new,
      SocketClientConnectionThread.isAlive] at hm

/-- The receiver of the first `start()` is started and gets a datagram. -/
def discovered (message : JString) : List Label :=
  [.start, .discovery (.receiver 0 (.bind true)), .discovery (.receiver 0 .run),
    .discovery (.receiver 0 .run), .discovery (.receiver 0 .run),
    .discovery (.receiver 0 (.receive message)), .handle 0]

/-- The same receiver gets another datagram. -/
def discoveredAgain (message : JString) : List Label :=
  [.discovery (.receiver 0 .run), .discovery (.receiver 0 (.receive message)), .handle 0]

/-- The answer to another client arrives while the first thread is still connecting. -/
theorem announced_twice_two_threads :
    ¬ ∀ ls s, exec (step sampleClient .ascii) (new sampleClient fun _ => true) ls = some s →
      OneConnection s := by
  intro h
  have hone := h (discovered (JString.lit "10.0.0.1:10083") ++
    discoveredAgain (JString.lit "10.0.0.1:10083")) _ (Option.some_get (by decide)).symm
  exact absurd (hone 1 2 (by decide) (by decide)) (by decide)

end ClientConnection

end Collaboration
