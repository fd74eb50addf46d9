import Collaboration.Client.Invariant
import Collaboration.Lifecycle.Status

/-! # What `stop()` stops

A request to stop is recorded thread by thread. What a call of `stop()` finds decides whether
a request reaches its thread, and where that thread is decides whether it is kept. -/

namespace Collaboration

open Transition

/-! ## One thread -/

/-- The receiver has cleared its stop flag. -/
def ReceiverPc.inLoop : ReceiverPc → Bool
  | .testing | .receiving | .handling _ | .closing => true
  | .created | .started | .opened | .clearing | .finished => false

namespace BroadcastReceiveThread

/-- A receiver that gets no further datagram, and knows that it has to stop. -/
def Silent (t : BroadcastReceiveThread) : Prop :=
  t.isAlive = true → t.pc.inLoop = true ∧ t.mStopReceive = true ∧ t.mClientRecevieSocket = false

instance : DecidablePred Silent := fun t =>
  inferInstanceAs (Decidable (t.isAlive = true → t.pc.inLoop = true ∧ t.mStopReceive = true ∧
    t.mClientRecevieSocket = false))

theorem Silent.moves {t u : BroadcastReceiveThread} (h : t.Silent) (hm : t.Moves u) :
    u.Silent := by
  intro hu
  obtain ⟨hpc, hstop, hsocket⟩ := h (hm.isAlive hu)
  cases hm with
  | refl => exact ⟨hpc, hstop, hsocket⟩
  | own hs =>
      cases steps_of_step hs with
      | bind hpc' | bindFails hpc' | runs hpc' | clears hpc' =>
          simp [hpc', ReceiverPc.inLoop] at hpc
      | loops _ hstop' => simp [hstop] at hstop'
      | leaves | receiveFails => exact ⟨rfl, hstop, hsocket⟩
      | close => simp [BroadcastReceiveThread.isAlive] at hu
      | receive _ hopen => simp [hsocket] at hopen
  | handled hpc' returns => exact ⟨by cases returns <;> rfl, hstop, hsocket⟩
  | stopReceive => exact ⟨hpc, rfl, rfl⟩

theorem Silent.not_receive {t u : BroadcastReceiveThread} {message : JString} (h : t.Silent)
    (hs : t.step (.receive message) = some u) : False := by
  cases steps_of_step hs with
  | receive hpc hopen =>
      have hsocket := (h (by simp [BroadcastReceiveThread.isAlive, hpc])).2.2
      simp [hopen] at hsocket

/-- What a silent receiver hands over it has received before. -/
theorem Silent.handling_of_moves {t u : BroadcastReceiveThread} {message : JString}
    (h : t.Silent) (hm : t.Moves u) (hu : u.pc = .handling message) : t.pc = .handling message := by
  cases hm with
  | refl | stopReceive => exact hu
  | own hs =>
      cases steps_of_step hs with
      | receive hpc hopen => exact (h.not_receive hs).elim
      | bind | bindFails | runs | clears | loops | leaves | close | receiveFails => simp at hu
  | handled _ returns => cases returns <;> simp at hu

end BroadcastReceiveThread

namespace BroadcastSenderThread

def ToldToStop (t : BroadcastSenderThread) : Prop := t.isAlive = true → t.mThreadStop = true

instance : DecidablePred ToldToStop := fun t =>
  inferInstanceAs (Decidable (t.isAlive = true → t.mThreadStop = true))

theorem ToldToStop.moves {t u : BroadcastSenderThread} (h : t.ToldToStop)
    (hm : t.Moves u ∨ u = t.stopThread) : u.ToldToStop := by
  intro hu
  rcases hm with hm | rfl
  · exact hm.mThreadStop.trans (h (hm.isAlive hu))
  · rfl

/-- A sender that was started and not told to stop. -/
def Runs (t : BroadcastSenderThread) : Prop := t.isAlive = true ∧ t.mThreadStop = false

theorem Runs.moves {t u : BroadcastSenderThread} (h : t.Runs) (hm : t.Moves u) : u.Runs :=
  ⟨hm.stays_alive h.1 h.2, hm.mThreadStop.trans h.2⟩

end BroadcastSenderThread

namespace SocketClientConnectionThread

/-- A connection thread that hands nothing more over, and knows that it has to stop. -/
def Halts (cfg : ClientConfig) (t : SocketClientConnectionThread) : Prop :=
  t.isAlive = true → t.mStopConnection = true ∧ t.pc ≠ .started ∧
    (t.pc = .reading → cfg.mConnectionListener = false)

instance (cfg : ClientConfig) : DecidablePred (Halts cfg) := fun t =>
  inferInstanceAs (Decidable (t.isAlive = true → t.mStopConnection = true ∧ t.pc ≠ .started ∧
    (t.pc = .reading → cfg.mConnectionListener = false)))

@[simp] theorem sendDataToTarget_mStopConnection (t : SocketClientConnectionThread) (d : Data) :
    (t.sendDataToTarget d).mStopConnection = t.mStopConnection := by
  unfold sendDataToTarget
  split
  · split <;> rfl
  · rfl

@[simp] theorem sendHeartbeatPackages_mStopConnection (t : SocketClientConnectionThread) :
    t.sendHeartbeatPackages.mStopConnection = t.mStopConnection := by
  unfold sendHeartbeatPackages
  split
  · split <;> rfl
  · rfl

theorem own_mStopConnection {x y : SocketClientConnectionThread} {l : Label}
    (hs : x.step l = some y) (hpc : x.pc ≠ .started) :
    y.mStopConnection = x.mStopConnection := by
  cases steps_of_step hs with
  | init hpc' => exact absurd hpc' hpc
  | close => exact sendDataToTarget_mStopConnection x farewell
  | connect | connectFails | loops | leaves | readTimesOut | readFails | release | send => rfl

/-- A thread that has been told to stop neither starts nor reads anew. -/
theorem own_pc {x y : SocketClientConnectionThread} {l : Label} (hs : x.step l = some y)
    (hstop : x.mStopConnection = true) :
    (y.pc = .started → x.pc = .started) ∧ (y.pc = .reading → x.pc = .reading) := by
  cases steps_of_step hs with
  | loops _ hstop' => simp [hstop] at hstop'
  | send => exact ⟨id, id⟩
  | init | connect | connectFails | leaves | readTimesOut | readFails | close | release => simp

/-- A thread that has not run has reported nothing. -/
def Unreported (t : SocketClientConnectionThread) : Prop :=
  t.pc = .created ∨ t.pc = .started → t.mConnectStatus = .notInit

theorem own_pc_unreported {x y : SocketClientConnectionThread} {l : Label}
    (hs : x.step l = some y) (hy : y.pc = .created ∨ y.pc = .started) :
    x.pc = .created ∨ x.pc = .started := by
  cases steps_of_step hs with
  | send => exact hy
  | init | connect | connectFails | loops | leaves | readTimesOut | readFails | close | release =>
      simp at hy

theorem Halts.stopRuning {cfg : ClientConfig} {t : SocketClientConnectionThread}
    (hpc : t.pc ≠ .started) (hreading : t.pc = .reading → cfg.mConnectionListener = false) :
    t.stopRuning.Halts cfg :=
  fun _ => ⟨rfl, hpc, hreading⟩

end SocketClientConnectionThread

/-! ## The threads of a client -/

namespace Client

open SocketClientConnectionThread

variable {cfg : ClientConfig} {s t : Client}

/-- No request to stop is taken back. -/
def KeepsStops (s t : Client) : Prop :=
  ∀ n, (s.threads n).mStopConnection = true → (t.threads n).mStopConnection = true

theorem KeepsStops.refl (s : Client) : KeepsStops s s := fun _ h => h

theorem KeepsStops.trans {u : Client} (h : KeepsStops s t) (h' : KeepsStops t u) :
    KeepsStops s u := fun n hn => h' n (h n hn)

theorem keepsStops_setThread {n : ℕ} {x : SocketClientConnectionThread}
    (h : (s.threads n).mStopConnection = true → x.mStopConnection = true) :
    KeepsStops s (s.setThread n x) :=
  (Function.forall_update_iff s.threads fun m y =>
    (s.threads m).mStopConnection = true → y.mStopConnection = true).mpr ⟨h, fun _ _ => id⟩

theorem keepsStops_setPc (s : Client) (n : ℕ) (pc : ClientPc) : KeepsStops s (s.setPc n pc) :=
  keepsStops_setThread id

theorem keepsStops_changeConnectStatus (cfg : ClientConfig) (s : Client) (n : ℕ)
    (status : ConnectStatus) : KeepsStops s (s.changeConnectStatus cfg n status) :=
  keepsStops_setThread (x := { s.threads n with mConnectStatus := status }) id

theorem keepsStops_announce (cfg : ClientConfig) (s : Client) (n : ℕ) :
    KeepsStops s (s.announce cfg n) := by
  have hstatus := keepsStops_changeConnectStatus cfg s n .unauthorized
  refine announce_cases cfg s n ?_ ?_ ?_
  · exact fun _ => hstatus.trans (keepsStops_setPc _ n _)
  · intro deviceId _ _
    refine hstatus.trans (.trans ?_ (keepsStops_setPc _ n _))
    unfold sendDataToTargetInner
    split
    · exact keepsStops_setThread (by simp [current])
    · exact .refl _
  · exact fun _ _ => hstatus.trans (keepsStops_setPc _ n _)

theorem keepsStops_onNewDataReceived (cfg : ClientConfig) (s : Client) (n : ℕ) (data : Data)
    (throws : Bool) : KeepsStops s (s.onNewDataReceived cfg n data throws) := by
  refine onNewDataReceived_cases cfg s n data throws ?_ ?_ ?_
  · exact fun _ => keepsStops_setPc s n _
  · exact fun _ _ => .trans (keepsStops_setThread (by simp [current])) (keepsStops_setPc _ n _)
  · exact fun _ => keepsStops_setPc s n _

theorem keepsStops_receive (cfg : ClientConfig) (s : Client) (n : ℕ) (data : Data)
    (throws : Bool) : KeepsStops s (s.receive cfg n data throws) := by
  have hstatus := keepsStops_changeConnectStatus cfg s n .connected
  refine receive_cases cfg s n data throws ?_ ?_ ?_ ?_
  · exact fun _ _ => hstatus.trans (keepsStops_setPc _ n _)
  · exact fun _ _ _ => keepsStops_setThread fun _ => rfl
  · exact fun _ _ => keepsStops_setPc s n _
  · exact fun _ _ => keepsStops_onNewDataReceived cfg s n data throws

/-- Only a thread that has just been started clears its flag. -/
theorem mStopConnection_of_step {l : Label} (hl : l.ofConnection = true)
    (hs : s.step cfg l = some t) {n : ℕ} (hpc : (s.threads n).pc ≠ .started)
    (h : (s.threads n).mStopConnection = true) : (t.threads n).mStopConnection = true := by
  cases steps_of_step hs with
  | announced | stop | stopIdle => simp [Label.ofConnection] at hl
  | @thread m l x hx =>
      by_cases hm : n = m
      · subst hm
        simpa using (own_mStopConnection hx hpc).trans h
      · simpa [hm] using h
  | unauthorized => exact keepsStops_announce cfg s _ n h
  | read => exact keepsStops_receive cfg s _ _ _ n h
  | @disconnected m =>
      have hstatus := keepsStops_changeConnectStatus cfg s m .disconnected
      exact hstatus.trans (keepsStops_setPc _ m _) n h
  | sendDataToTarget =>
      unfold Client.sendDataToTarget
      split
      · exact keepsStops_setThread (by simp [current]) n h
      · exact h

theorem created_eq_of_step {l : Label} (hl : l.ofConnection = true) (hs : s.step cfg l = some t) :
    t.created = s.created := by
  cases steps_of_step hs with
  | announced | stop | stopIdle => simp [Label.ofConnection] at hl
  | unauthorized => exact announce_created cfg s _
  | read => exact receive_created cfg s _ _ _
  | sendDataToTarget =>
      unfold Client.sendDataToTarget
      split <;> rfl
  | thread | disconnected => rfl

theorem unreported_of_step {l : Label} (hl : l.ofConnection = true) (hs : s.step cfg l = some t)
    {n : ℕ} (h : (s.threads n).Unreported) : (t.threads n).Unreported := by
  have heffect := effect_of_step hs n
  generalize t.threads n = y at heffect
  cases heffect with
  | same _ hsame =>
      unfold Unreported
      rw [hsame.pc, hsame.status]
      exact h
  | started => simp [Label.ofConnection] at hl
  | own hx =>
      intro hy
      rw [own_mConnectStatus hx]
      exact h (own_pc_unreported hx hy)
  | announced _ hy | received _ _ hy => rcases hy with hy | hy <;> simp [Unreported, hy]
  | admitted _ _ hy | disconnected _ hy => simp [Unreported, hy]

theorem halts_of_step {l : Label} (hl : l.ofConnection = true) (hs : s.step cfg l = some t)
    {n : ℕ} (h : (s.threads n).Halts cfg) : (t.threads n).Halts cfg := by
  intro hn
  obtain ⟨hstop, hpc, hreading⟩ := h (isAlive_of_step hl hs hn)
  refine ⟨mStopConnection_of_step hl hs hpc hstop, ?_⟩
  have heffect := effect_of_step hs n
  generalize t.threads n = y at heffect
  cases heffect with
  | same _ hsame => exact hsame.pc ▸ ⟨hpc, hreading⟩
  | started => simp [Label.ofConnection] at hl
  | own hx =>
      obtain ⟨hstarted, hread⟩ := own_pc hx hstop
      exact ⟨fun heq => hpc (hstarted heq), fun heq => hreading (hread heq)⟩
  | announced _ hy | received _ _ hy => rcases hy with hy | hy <;> simp [hy]
  | admitted _ _ hy | disconnected _ hy => simp [hy]

end Client

/-! ## A call of `stop()` on a client -/

namespace ClientConnection

open SocketClientConnectionThread

variable {cfg : ClientConfig} {digits : JString.DigitTable} {s t u : ClientConnection}

/-- Every thread that exists in `s` and is alive in `u` knows there that it has to stop. -/
structure StopRecorded (s u : ClientConnection) : Prop where
  receivers : ∀ n < s.discovery.created, (u.discovery.receivers n).isAlive = true →
    (u.discovery.receivers n).mStopReceive = true
  senders : ∀ n < s.discovery.created, (u.discovery.senders n).ToldToStop
  threads : ∀ n < s.client.created, (u.client.threads n).isAlive = true →
    (u.client.threads n).mStopConnection = true

/-- No receiver that exists in `s` receives a datagram or creates a connection thread, and no
connection thread that exists in `s` hands an object to the listener. All others come from a
later `start()`: it creates them, or a receiver that it created does. -/
def PassesNothing (s v : ClientConnection) (l : Label) (w : ClientConnection) : Prop :=
  match l with
  | .discovery (.receiver n (.receive _)) => s.discovery.created ≤ n
  | .handle n => s.discovery.created ≤ n ∨ w.client.created = v.client.created
  | .client (.read n _ _) => s.client.created ≤ n ∨ w.client.received = v.client.received
  | _ => True

/-- The receiver has a datagram in hand that announces a server. -/
def announces (digits : JString.DigitTable) (s : ClientConnection) (n : ℕ) : Bool :=
  match (s.discovery.receivers n).pc with
  | .handling message => (announcedAddress digits message).isSome
  | _ => false

/-- `stop()` is called in `s` and returns in `t`; the other steps are those of `ls`. -/
structure StopCall (cfg : ClientConfig) (digits : JString.DigitTable) (s : ClientConnection)
    (ls : List Label) (t : ClientConnection) : Prop where
  run : exec (step cfg digits) s (.stop :: ls) = some t
  during : Along (step cfg digits) (fun u l _ => l = .stop ∨ u.stopping ≠ .idle) s (.stop :: ls)
  returned : t.stopping = .idle

/-- The threads that exist in `s` have nothing more to do in `u` but to end. -/
structure Stopped (cfg : ClientConfig) (s u : ClientConnection) : Prop where
  receivers : ∀ n < s.discovery.created, (u.discovery.receivers n).Silent
  senders : ∀ n < s.discovery.created, (u.discovery.senders n).ToldToStop
  threads : ∀ n < s.client.created, (u.client.threads n).Halts cfg

instance (cfg : ClientConfig) (s u : ClientConnection) : Decidable (Stopped cfg s u) :=
  decidable_of_iff ((∀ n < s.discovery.created, (u.discovery.receivers n).Silent) ∧
      (∀ n < s.discovery.created, (u.discovery.senders n).ToldToStop) ∧
      ∀ n < s.client.created, (u.client.threads n).Halts cfg)
    ⟨fun h => ⟨h.1, h.2.1, h.2.2⟩, fun h => ⟨h.receivers, h.senders, h.threads⟩⟩

/-- A request of `stop()` reaches the connection thread and is kept, or comes too late: the
thread is the current one, connected, and not in `readObject()`. -/
def TakesThread (cfg : ClientConfig) (s : ClientConnection) (n : ℕ) : Prop :=
  (s.client.threads n).Halts cfg ∨
    n = s.client.mSocketClientThread ∧ s.client.current.isConnected = true ∧
      (s.client.current.pc = .reading → cfg.mConnectionListener = false)

/-- The same for a receiver: it is the current one, inside its loop. -/
def TakesReceiver (s : ClientConnection) (n : ℕ) : Prop :=
  (s.discovery.receivers n).Silent ∨
    s.discovery.mBroadcastReceiveThread = some n ∧
      (s.discovery.receivers n).mThreadRuning = true ∧
      (s.discovery.receivers n).pc.inLoop = true

/-- The same for a broadcast sender: it is the current one. -/
def TakesSender (s : ClientConnection) (n : ℕ) : Prop :=
  (s.discovery.senders n).ToldToStop ∨ s.discovery.mBroadcastSenderThread = some n

instance (cfg : ClientConfig) (s : ClientConnection) : DecidablePred (TakesThread cfg s) :=
  fun n => inferInstanceAs (Decidable ((s.client.threads n).Halts cfg ∨
    n = s.client.mSocketClientThread ∧ s.client.current.isConnected = true ∧
      (s.client.current.pc = .reading → cfg.mConnectionListener = false)))

instance (s : ClientConnection) : DecidablePred (TakesReceiver s) := fun n =>
  inferInstanceAs (Decidable ((s.discovery.receivers n).Silent ∨
    s.discovery.mBroadcastReceiveThread = some n ∧
      (s.discovery.receivers n).mThreadRuning = true ∧
      (s.discovery.receivers n).pc.inLoop = true))

instance (s : ClientConnection) : DecidablePred (TakesSender s) := fun n =>
  inferInstanceAs (Decidable ((s.discovery.senders n).ToldToStop ∨
    s.discovery.mBroadcastSenderThread = some n))

/-- What a call of `stop()` has to find: when it begins, a connected `mNetWorkInfo`, or every
thread stopped before; when it turns to the threads of a kind, only threads that take its
request; and from its first request on no datagram that starts a connection thread. -/
structure StopTakes (cfg : ClientConfig) (digits : JString.DigitTable) (s : ClientConnection)
    (l : Label) (_ : ClientConnection) : Prop where
  begins : l = .stop → s.client.mNetWorkInfo.mStatus = .connected ∨ Stopped cfg s s
  threads : l = .stopNext → s.stopping = .stoppingSocketThread →
    ∀ n < s.client.created, TakesThread cfg s n
  receivers : l = .stopNext → s.stopping = .stoppingReceiver →
    ∀ n < s.discovery.created, TakesReceiver s n
  senders : l = .stopNext → s.stopping = .stoppingSender →
    ∀ n < s.discovery.created, TakesSender s n
  startsNone : s.stopping = .stoppingReceiver ∨ s.stopping = .stoppingSender →
    s.startsThread digits l = false

instance (s : ClientConnection) (l : Label) (t : ClientConnection) :
    Decidable (StopTakes cfg digits s l t) :=
  decidable_of_iff ((l = .stop → s.client.mNetWorkInfo.mStatus = .connected ∨ Stopped cfg s s) ∧
      (l = .stopNext → s.stopping = .stoppingSocketThread →
        ∀ n < s.client.created, TakesThread cfg s n) ∧
      (l = .stopNext → s.stopping = .stoppingReceiver →
        ∀ n < s.discovery.created, TakesReceiver s n) ∧
      (l = .stopNext → s.stopping = .stoppingSender →
        ∀ n < s.discovery.created, TakesSender s n) ∧
      (s.stopping = .stoppingReceiver ∨ s.stopping = .stoppingSender →
        s.startsThread digits l = false))
    ⟨fun h => ⟨h.1, h.2.1, h.2.2.1, h.2.2.2.1, h.2.2.2.2⟩,
      fun h => ⟨h.begins, h.threads, h.receivers, h.senders, h.startsNone⟩⟩

theorem moves_of_step {l : Label} (hs : s.step cfg digits l = some t) {n : ℕ}
    (hn : n < s.discovery.created) :
    (s.discovery.receivers n).Moves (t.discovery.receivers n) ∧
      ((s.discovery.senders n).Moves (t.discovery.senders n) ∨
        t.discovery.senders n = (s.discovery.senders n).stopThread) := by
  have hmoves : ∀ {d : Discovery}, Discovery.Moves s.discovery d →
      (s.discovery.receivers n).Moves (d.receivers n) ∧
        ((s.discovery.senders n).Moves (d.senders n) ∨
          d.senders n = (s.discovery.senders n).stopThread) :=
    fun h => ⟨h.receivers n, .inl (h.senders n)⟩
  cases steps_of_step hs with
  | start =>
      obtain ⟨hreceivers, hsenders, -⟩ := s.discovery.restart_spec (·.mThreadRuning)
        rfl cfg.CLIENT_BROADCAST_THREAD_PORT (.lit "New_Client_In")
      simp only [hreceivers, hsenders, Function.update_of_ne (Nat.ne_of_lt hn)]
      exact ⟨.refl, .inl .refl⟩
  | stopReceive => exact hmoves (Discovery.moves_stopReceive _)
  | stopThread =>
      obtain ⟨hreceivers, -, -, -, hsenders⟩ := s.discovery.stopThread_spec
      simp only [hreceivers, hsenders]
      refine ⟨.refl, ?_⟩
      split
      · exact .inr rfl
      · exact .inl .refl
  | discovery hstep => exact hmoves (Discovery.moves_of_step hstep)
  | malformed hpc => exact hmoves (Discovery.moves_handled hpc false)
  | announced hpc => exact hmoves (Discovery.moves_handled hpc true)
  | startConnected | stop | stopUnconnected | stopClient | client =>
      exact hmoves (.refl s.discovery)

/-! ### After the call -/

theorem created_le_of_step {l : Label} (hs : s.step cfg digits l = some t) :
    s.discovery.created ≤ t.discovery.created ∧ s.client.created ≤ t.client.created := by
  cases steps_of_step hs with
  | start =>
      obtain ⟨-, -, -, -, hcreated⟩ := s.discovery.restart_spec (·.mThreadRuning)
        rfl cfg.CLIENT_BROADCAST_THREAD_PORT (.lit "New_Client_In")
      exact ⟨hcreated ▸ Nat.le_succ _, Nat.le_succ _⟩
  | stopClient => exact ⟨Nat.le_refl _, Nat.le_of_eq (Client.stopClient_created _).symm⟩
  | stopReceive =>
      exact ⟨Nat.le_of_eq (Discovery.moves_stopReceive _).created.symm, Nat.le_refl _⟩
  | stopThread => exact ⟨Nat.le_of_eq s.discovery.stopThread_spec.2.1.symm, Nat.le_refl _⟩
  | discovery hstep =>
      exact ⟨Nat.le_of_eq (Discovery.moves_of_step hstep).created.symm, Nat.le_refl _⟩
  | announced =>
      refine ⟨Nat.le_refl _, ?_⟩
      unfold Client.onServerAnnounced
      simp only
      split
      · exact Nat.le_refl _
      · exact Nat.le_succ _
  | client hl hstep => exact ⟨Nat.le_refl _, Client.created_of_step hstep⟩
  | startConnected | stop | stopUnconnected | malformed => exact ⟨Nat.le_refl _, Nat.le_refl _⟩

/-- A thread that exists and halts goes on to halt. -/
theorem halts_of_step {l : Label} (hs : s.step cfg digits l = some t) {n : ℕ}
    (hn : n < s.client.created) (h : (s.client.threads n).Halts cfg) :
    (t.client.threads n).Halts cfg := by
  cases steps_of_step hs with
  | start => simpa [Client.initThread, Nat.ne_of_lt hn] using h
  | stopClient =>
      unfold Client.stopClient
      simp only
      split
      · by_cases hc : n = s.client.mSocketClientThread
        · subst hc
          rw [Client.setThread_threads_self]
          exact fun halive => ⟨rfl, (h halive).2⟩
        · simpa [hc] using h
      · exact h
  | announced =>
      unfold Client.onServerAnnounced
      simp only
      split
      · exact h
      · simpa [Nat.ne_of_lt hn] using h
  | client hl hstep => exact Client.halts_of_step hl hstep h
  | startConnected | stop | stopUnconnected | stopReceive | stopThread | discovery | malformed =>
      exact h

theorem Stopped.of_step {l : Label} (h : Stopped cfg s u)
    (hcreated : s.discovery.created ≤ u.discovery.created ∧ s.client.created ≤ u.client.created)
    (hs : u.step cfg digits l = some t) : Stopped cfg s t where
  receivers n hn := (h.receivers n hn).moves (moves_of_step hs (Nat.lt_of_lt_of_le hn hcreated.1)).1
  senders n hn := (h.senders n hn).moves (moves_of_step hs (Nat.lt_of_lt_of_le hn hcreated.1)).2
  threads n hn := halts_of_step hs (Nat.lt_of_lt_of_le hn hcreated.2) (h.threads n hn)

/-- A receiver that was stopped finds no new announcement. -/
theorem Stopped.announces_of_step {l : Label} (h : Stopped cfg s u)
    (hcreated : s.discovery.created ≤ u.discovery.created)
    (hnone : ∀ n < s.discovery.created, u.announces digits n = false)
    (hs : u.step cfg digits l = some t) :
    ∀ n < s.discovery.created, t.announces digits n = false := by
  intro n hn
  have hmoves := (moves_of_step hs (Nat.lt_of_lt_of_le hn hcreated)).1
  cases hpc : (t.discovery.receivers n).pc with
  | handling message =>
      have hbefore := (h.receivers n hn).handling_of_moves hmoves hpc
      simpa [announces, hpc, hbefore] using hnone n hn
  | created | started | opened | clearing | testing | receiving | closing | finished =>
      simp [announces, hpc]

theorem Stopped.passesNothing {l : Label} (h : Stopped cfg s u)
    (hnone : ∀ n < s.discovery.created, u.announces digits n = false)
    (hs : u.step cfg digits l = some t) : PassesNothing s u l t := by
  cases steps_of_step hs with
  | @discovery l d hstep =>
      cases l with
      | sender n sendSuccess => trivial
      | receiver n l =>
          cases l with
          | receive message =>
              by_contra hlt
              simp only [Discovery.step, reduceCtorEq, false_and, if_false] at hstep
              obtain ⟨x, hx, -⟩ := Option.map_eq_some_iff.mp hstep
              exact (h.receivers n (Nat.lt_of_not_le hlt)).not_receive hx
          | bind ok | run | receiveFails => trivial
  | @client l c hl hstep =>
      cases l with
      | read n data throws =>
          by_cases hn : s.client.created ≤ n
          · exact .inl hn
          · right
            cases Client.steps_of_step hstep with
            | read hpc =>
                have hlistener : cfg.mConnectionListener = false :=
                  (h.threads n (Nat.lt_of_not_le hn) (by simp [isAlive, hpc])).2.2 hpc
                rw [Client.receive_received]
                cases data <;> simp [Config.handsOver, hlistener]
      | announced | thread | unauthorized | disconnected | sendDataToTarget | stop => trivial
  | malformed => exact .inr rfl
  | @announced n message serverIp serverPort hpc haddress =>
      refine .inl (Nat.le_of_not_lt fun hn => ?_)
      simpa [announces, hpc, haddress] using hnone n hn
  | start | startConnected | stop | stopUnconnected | stopClient | stopReceive | stopThread =>
      trivial

theorem Stopped.stopRecorded (h : Stopped cfg s u) : StopRecorded s u where
  receivers n hn halive := (h.receivers n hn halive).2.1
  senders := h.senders
  threads n hn halive := (h.threads n hn halive).1

/-- Once everything that exists has been stopped, it stays so. -/
theorem Stopped.run {post : List Label} (h : Stopped cfg t t)
    (hnone : ∀ n < t.discovery.created, t.announces digits n = false)
    (hpost : exec (step cfg digits) t post = some u) :
    StopRecorded t u ∧ Along (step cfg digits) (PassesNothing t) t post := by
  let I := fun v => Stopped cfg t v ∧
    (t.discovery.created ≤ v.discovery.created ∧ t.client.created ≤ v.client.created) ∧
    ∀ n < t.discovery.created, v.announces digits n = false
  have hstep : ∀ v l w, I v → v.step cfg digits l = some w → I w := by
    rintro v l w ⟨hv, hcreated, hnone⟩ hs
    have hle := created_le_of_step hs
    exact ⟨hv.of_step hcreated hs,
      ⟨Nat.le_trans hcreated.1 hle.1, Nat.le_trans hcreated.2 hle.2⟩,
      hv.announces_of_step hcreated.1 hnone hs⟩
  have h0 : I t := ⟨h, ⟨Nat.le_refl _, Nat.le_refl _⟩, hnone⟩
  constructor
  · exact (invariant hstep h0 hpost).1.stopRecorded
  · exact along_of_invariant hstep (fun v l w hv hs => hv.1.passesNothing hv.2.2 hs) h0 post

/-! ### During the call -/

theorem unreported_step {l : Label} (h : ∀ n, (s.client.threads n).Unreported)
    (hs : s.step cfg digits l = some t) (n : ℕ) : (t.client.threads n).Unreported := by
  have hnew : SocketClientConnectionThread.new.Unreported := fun _ => rfl
  cases steps_of_step hs with
  | start => exact Client.forall_setThread h hnew n
  | stopClient =>
      have hsame := Client.stopClient_sameState s.client n
      unfold Unreported
      rw [hsame.pc, hsame.status]
      exact h n
  | @announced k message serverIp serverPort =>
      unfold Client.onServerAnnounced
      simp only
      split
      · exact h n
      · have hstarted :
            (SocketClientConnectionThread.startConnection .new serverPort serverIp).Unreported :=
          fun _ => rfl
        exact Client.forall_setThread h hstarted n
  | client hl hstep => exact Client.unreported_of_step hl hstep (h n)
  | startConnected | stop | stopUnconnected | stopReceive | stopThread | discovery | malformed =>
      exact h n

/-- How far a call of `stop()` has got. -/
structure CallInv (cfg : ClientConfig) (s : ClientConnection) : Prop where
  unreported : ∀ n, (s.client.threads n).Unreported
  threads : s.stopping ≠ .stoppingSocketThread →
    ∀ n < s.client.created, (s.client.threads n).Halts cfg
  receivers : s.stopping = .stoppingSender ∨ s.stopping = .idle →
    ∀ n < s.discovery.created, (s.discovery.receivers n).Silent
  senders : s.stopping = .idle → ∀ n < s.discovery.created, (s.discovery.senders n).ToldToStop

/-- The call begins. -/
theorem callInv_stop (hunreported : ∀ n, (s.client.threads n).Unreported)
    (htakes : StopTakes cfg digits s .stop t) (hs : s.step cfg digits .stop = some t) :
    CallInv cfg t := by
  cases steps_of_step hs with
  | stop => exact ⟨hunreported, by simp, by simp, by simp⟩
  | stopUnconnected _ hstatus =>
      rcases htakes.begins rfl with hconnected | hstopped
      · exact absurd hconnected hstatus
      · exact ⟨hunreported, fun _ => hstopped.threads, fun _ => hstopped.receivers,
          fun _ => hstopped.senders⟩

/-- It turns to the current connection thread. -/
theorem CallInv.stopClient (h : CallInv cfg s) (hstop : s.stopping = .stoppingSocketThread)
    (htakes : StopTakes cfg digits s .stopNext t) :
    CallInv cfg { s with client := s.client.stopClient, stopping := .stoppingReceiver } := by
  have hs : s.step cfg digits .stopNext =
      some { s with client := s.client.stopClient, stopping := .stoppingReceiver } := by
    simp [step, ClientConnection.stopNext, hstop]
  refine ⟨unreported_step h.unreported hs, fun _ n hn => ?_, by simp, by simp⟩
  have hn : n < s.client.created := Client.stopClient_created s.client ▸ hn
  rcases htakes.threads rfl hstop n hn with hhalts | ⟨rfl, hconnected, hreading⟩
  · exact halts_of_step hs hn hhalts
  · have hpc : s.client.current.pc ≠ .started := by
      intro hpc
      have hstatus := h.unreported _ (.inr hpc)
      have hstatus' := (isConnected_iff _).mp hconnected
      simp [Client.current, hstatus] at hstatus'
    simpa [Client.stopClient, hconnected] using Halts.stopRuning hpc hreading

/-- It turns to the current receiver. -/
theorem CallInv.stopReceive (h : CallInv cfg s) (hstop : s.stopping = .stoppingReceiver)
    (htakes : StopTakes cfg digits s .stopNext t) :
    CallInv cfg { s with discovery := s.discovery.stopReceive, stopping := .stoppingSender } := by
  refine ⟨h.unreported, fun _ => h.threads (by simp [hstop]), fun _ n hn => ?_, by simp⟩
  have hmoves := Discovery.moves_stopReceive s.discovery
  have hn : n < s.discovery.created := hmoves.created ▸ hn
  rcases htakes.receivers rfl hstop n hn with hsilent | ⟨hcurrent, hrunning, hpc⟩
  · exact hsilent.moves (hmoves.receivers n)
  · simp only [Discovery.stopReceive, hcurrent, hrunning, if_true,
      Discovery.setReceiver_receivers_self]
    exact fun _ => ⟨hpc, rfl, rfl⟩

/-- It turns to the current sender, and returns. -/
theorem CallInv.stopThread (h : CallInv cfg s) (hstop : s.stopping = .stoppingSender)
    (htakes : StopTakes cfg digits s .stopNext t) :
    CallInv cfg { s with discovery := s.discovery.stopThread, stopping := .idle } := by
  have hs : s.step cfg digits .stopNext =
      some { s with discovery := s.discovery.stopThread, stopping := .idle } := by
    simp [step, ClientConnection.stopNext, hstop]
  obtain ⟨-, hcreated, -, -, hsenders⟩ := s.discovery.stopThread_spec
  refine ⟨h.unreported, fun _ => h.threads (by simp [hstop]), fun _ n hn => ?_, fun _ n hn => ?_⟩
  · have hn : n < s.discovery.created := hcreated ▸ hn
    exact (h.receivers (.inl hstop) n hn).moves (moves_of_step hs hn).1
  · have hn : n < s.discovery.created := hcreated ▸ hn
    rcases htakes.senders rfl hstop n hn with htold | hcurrent
    · exact htold.moves (moves_of_step hs hn).2
    · simp only [hsenders, hcurrent, if_true]
      exact fun _ => rfl

/-- A step that is none of the call and creates no thread keeps what the call has done. -/
theorem CallInv.kept {l : Label} (h : CallInv cfg s) (hs : s.step cfg digits l = some t)
    (hstop : t.stopping = s.stopping) (hdiscovery : t.discovery.created = s.discovery.created)
    (hclient : s.stopping ≠ .stoppingSocketThread → t.client.created = s.client.created) :
    CallInv cfg t where
  unreported := unreported_step h.unreported hs
  threads hne n hn := by
    rw [hstop] at hne
    have hn : n < s.client.created := hclient hne ▸ hn
    exact halts_of_step hs hn (h.threads hne n hn)
  receivers hidle n hn := by
    rw [hstop] at hidle
    have hn : n < s.discovery.created := hdiscovery ▸ hn
    exact (h.receivers hidle n hn).moves (moves_of_step hs hn).1
  senders hidle n hn := by
    rw [hstop] at hidle
    have hn : n < s.discovery.created := hdiscovery ▸ hn
    exact (h.senders hidle n hn).moves (moves_of_step hs hn).2

theorem callInv_step {l : Label} (h : CallInv cfg s) (hs : s.step cfg digits l = some t)
    (htakes : StopTakes cfg digits s l t) (hduring : l = .stop ∨ s.stopping ≠ .idle) :
    CallInv cfg t := by
  cases steps_of_step hs with
  | start hidle | startConnected hidle => simp [hidle] at hduring
  | stop | stopUnconnected => exact callInv_stop h.unreported htakes hs
  | stopClient hstop => exact h.stopClient hstop htakes
  | stopReceive hstop => exact h.stopReceive hstop htakes
  | stopThread hstop => exact h.stopThread hstop htakes
  | discovery hstep =>
      exact h.kept hs rfl (Discovery.moves_of_step hstep).created fun _ => rfl
  | malformed => exact h.kept hs rfl rfl fun _ => rfl
  | @announced n message serverIp serverPort hpc haddress =>
      refine h.kept hs rfl rfl fun hne => ?_
      have hidle : s.stopping ≠ .idle := by simpa using hduring
      have hconnected : s.client.current.isConnected = true := by
        cases hstop : s.stopping with
        | idle => exact absurd hstop hidle
        | stoppingSocketThread => exact absurd hstop hne
        | stoppingReceiver | stoppingSender =>
            simpa [hstop, startsThread, hpc, haddress] using htakes.startsNone
      simp [Client.onServerAnnounced, hconnected]
  | client hl hstep => exact h.kept hs rfl rfl fun _ => Client.created_eq_of_step hl hstep

/-- A call of `stop()` that takes effect stops everything. -/
theorem stopped_of_stopCall {free : Int32 → Bool} {past ls : List Label}
    (hpast : exec (step cfg digits) (new cfg free) past = some s)
    (hcall : StopCall cfg digits s ls t)
    (htakes : Along (step cfg digits) (StopTakes cfg digits) s (.stop :: ls)) :
    Stopped cfg t t := by
  have hunreported : ∀ n, (s.client.threads n).Unreported :=
    invariant (I := fun s => ∀ n, (s.client.threads n).Unreported)
      (fun _ _ _ h hs => unreported_step h hs) (fun _ _ => rfl) hpast
  obtain ⟨u, hu, hrun⟩ := exec_cons_eq_some.mp hcall.run
  have hduring := hcall.during
  rw [along_cons_of_step hu] at htakes hduring
  have hinv : CallInv cfg t := by
    refine invariant_along (P := fun u l v => StopTakes cfg digits u l v ∧
      (l = .stop ∨ u.stopping ≠ .idle)) ?_ (callInv_stop hunreported htakes.1 hu)
      (htakes.2.and hduring.2) hrun
    exact fun u l v h hs hp => callInv_step h hs hp.1 hp.2
  exact ⟨hinv.receivers (.inr hcall.returned), hinv.senders hcall.returned,
    hinv.threads (by simp [hcall.returned])⟩

/-- The server lets the client in, and its thread is back at the test of its loop. -/
def admitted : List Label :=
  discovered (JString.lit "10.0.0.1:10083") ++
    [.client (.thread 1 .init), .client (.thread 1 (.connect true)), .client (.unauthorized 1),
      .client (.thread 1 .test), .client (.read 1 (.inner (.ofMessage InnerPackage.PASS)) false)]

/-- The rest of a call of `stop()` that nothing interrupts. -/
def stopRest : List Label := [.stopNext, .stopNext, .stopNext]

end ClientConnection

/-! ## A call of `stop()` on a server -/

namespace ServerHost

variable {cfg : Config} {s t : ServerHost}

/-- Every thread that exists in `s` and is alive in `u` knows there that it has to stop. -/
structure StopRecorded (s u : ServerHost) : Prop where
  receivers : ∀ n < s.discovery.created, (u.discovery.receivers n).isAlive = true →
    (u.discovery.receivers n).mStopReceive = true
  senders : ∀ n < s.discovery.created, (u.discovery.senders n).ToldToStop
  current : u.server.mSocketServerThread.pc ≠ .ended →
    u.server.mSocketServerThread.mStopRuning = true
  replaced : ∀ n < s.discovery.created, (u.replaced n).pc ≠ .ended →
    (u.replaced n).mStopRuning = true

/-- No call of `stop()` gets any further than its first statement. -/
structure Unstoppable (s : ServerHost) : Prop where
  stopping : s.stopping = .idle
  mNetWorkInfo : s.server.mNetWorkInfo.mStatus ≠ .connected
  senders : ∀ n < s.discovery.created, (s.discovery.senders n).Runs

theorem unstoppable_new (cfg : Config) (free : Int32 → Bool) : Unstoppable (new cfg free) where
  stopping := rfl
  mNetWorkInfo := cfg.checkPort_ne_connected free
  senders n hn := absurd hn (Nat.not_lt_zero n)

theorem Unstoppable.moves {d : Discovery} (h : Unstoppable s) (hd : Discovery.Moves s.discovery d) :
    Unstoppable { s with discovery := d } where
  stopping := h.stopping
  mNetWorkInfo := h.mNetWorkInfo
  senders n hn := (h.senders n (hd.created ▸ hn)).moves (hd.senders n)

theorem unstoppable_step {l : Label} (h : Unstoppable s) (hs : s.step cfg l = some t) :
    Unstoppable t := by
  cases steps_of_step hs with
  | start =>
      obtain ⟨-, hsenders, -, -, hcreated⟩ := s.discovery.restart_spec (·.isAlive)
        rfl cfg.SERVER_PROADCAST_THREAD_PORT cfg.announcement
      refine ⟨h.stopping, h.mNetWorkInfo, fun n hn => ?_⟩
      simp only [hsenders]
      by_cases hc : n = s.discovery.created
      · subst hc
        rw [Function.update_self]
        exact ⟨by simp, rfl⟩
      · rw [Function.update_of_ne hc]
        rw [hcreated] at hn
        exact h.senders n (by omega)
  | startConnected | stopUnconnected => exact h
  | stop _ hstatus => exact absurd hstatus h.mNetWorkInfo
  | stopNext hstop => exact absurd h.stopping hstop
  | discovery hstep => exact h.moves (Discovery.moves_of_step hstep)
  | answered hpc => exact h.moves (Discovery.moves_answered hpc _ _)
  | unanswered hpc => exact h.moves (Discovery.moves_handled hpc false)
  | server _ _ hstep =>
      exact ⟨h.stopping, Server.mNetWorkInfo_of_step hstep ▸ h.mNetWorkInfo, h.senders⟩
  | replaced _ _ hstep =>
      refine ⟨h.stopping, ?_, h.senders⟩
      have hinfo := Server.mNetWorkInfo_of_step hstep
      simpa [hinfo] using h.mNetWorkInfo

/-- After the first `start()`, a call of `stop()` returns without having recorded anything. -/
theorem not_stopRecorded_of_stop {free : Int32 → Bool} {past : List Label}
    (hpast : exec (step cfg) (new cfg free) past = some s) (hstarted : 0 < s.discovery.created)
    (hs : s.step cfg .stop = some t) : t.stopping = .idle ∧ ¬ StopRecorded t t := by
  have hinv : Unstoppable t :=
    unstoppable_step (invariant (fun _ _ _ => unstoppable_step) (unstoppable_new cfg free) hpast) hs
  refine ⟨hinv.stopping, fun hrecorded => ?_⟩
  cases steps_of_step hs with
  | stop => exact absurd hinv.stopping (by simp)
  | stopUnconnected =>
      obtain ⟨halive, hstop⟩ := hinv.senders 0 hstarted
      simp [hrecorded.senders 0 hstarted halive] at hstop

end ServerHost

/-! ## Both roles -/

end Collaboration
