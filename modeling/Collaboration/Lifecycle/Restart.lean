import Collaboration.Lifecycle.Stop

/-! # What a second `start()` leaves behind

`start()` builds all threads anew unless `mNetWorkInfo` is connected, and asks nothing about
those that an earlier call has started. -/

namespace Collaboration

open Transition

/-! ## The discovery threads -/

namespace Discovery

variable {d e : Discovery}

/-- A thread that is alive is the one that its field refers to. -/
structure OneThread (d : Discovery) : Prop where
  receivers : ∀ n, (d.receivers n).isAlive = true → d.mBroadcastReceiveThread = some n
  senders : ∀ n, (d.senders n).isAlive = true → d.mBroadcastSenderThread = some n

def noneAlive (d : Discovery) : Bool :=
  (List.range d.created).all fun n => !(d.receivers n).isAlive && !(d.senders n).isAlive

theorem oneThread_new : OneThread new :=
  ⟨fun _ h => absurd h Bool.false_ne_true, fun _ h => absurd h Bool.false_ne_true⟩

theorem Numbered.noneAlive_iff (h : Numbered d) :
    d.noneAlive = true ↔
      ∀ n, (d.receivers n).isAlive = false ∧ (d.senders n).isAlive = false := by
  simp only [noneAlive, List.all_eq_true, List.mem_range, Bool.and_eq_true, Bool.not_eq_true']
  constructor
  · intro hnone n
    by_cases hn : n < d.created
    · exact hnone n hn
    · exact h n (Nat.le_of_not_lt hn)
  · exact fun hnone n _ => hnone n

theorem OneThread.moves (h : OneThread d) (hm : d.Moves e) : OneThread e where
  receivers n hn := hm.mBroadcastReceiveThread.trans (h.receivers n ((hm.receivers n).isAlive hn))
  senders n hn := hm.mBroadcastSenderThread.trans (h.senders n ((hm.senders n).isAlive hn))

/-- The new threads are alive, so none of the others may be. -/
theorem oneThread_restart_iff (h : Numbered d) (running : BroadcastReceiveThread → Bool)
    (hnew : running .new = false) (port : Int32) (message : JString) :
    OneThread (d.restart running port message) ↔ d.noneAlive = true := by
  obtain ⟨hreceivers, hsenders, hreceiver, hsender, -⟩ := d.restart_spec running hnew port message
  rw [h.noneAlive_iff]
  constructor
  · intro hone n
    by_cases hn : n = d.created
    · exact h n (Nat.le_of_eq hn.symm)
    · have hr := hone.receivers n
      have hs := hone.senders n
      rw [hreceivers, Function.update_of_ne hn, hreceiver, Option.some.injEq] at hr
      rw [hsenders, Function.update_of_ne hn, hsender, Option.some.injEq] at hs
      constructor
      · by_contra halive
        exact hn (hr (by simpa using halive)).symm
      · by_contra halive
        exact hn (hs (by simpa using halive)).symm
  · intro hnone
    constructor
    · intro n hn
      by_cases hc : n = d.created
      · rw [hreceiver, hc]
      · rw [hreceivers, Function.update_of_ne hc, (hnone n).1] at hn
        cases hn
    · intro n hn
      by_cases hc : n = d.created
      · rw [hsender, hc]
      · rw [hsenders, Function.update_of_ne hc, (hnone n).2] at hn
        cases hn

/-- A sender that is alive when it is taken out of its field is lost. -/
theorem oneThread_stopThread_iff (h : OneThread d) :
    OneThread d.stopThread ↔
      ∀ n, d.mBroadcastSenderThread = some n → (d.senders n).isAlive = false := by
  obtain ⟨hreceivers, -, hreceiver, hsender, hsenders⟩ := d.stopThread_spec
  have halive : ∀ n, (d.stopThread.senders n).isAlive = (d.senders n).isAlive := by
    intro n
    rw [hsenders]
    split <;> rfl
  constructor
  · intro hone n hn
    by_contra hlive
    have hlost := hone.senders n (by rw [halive]; simpa using hlive)
    simp [hsender] at hlost
  · intro hdead
    refine ⟨fun n hn => ?_, fun n hn => ?_⟩
    · rw [hreceivers] at hn
      exact hreceiver.trans (h.receivers n hn)
    · rw [halive] at hn
      simp [hdead n (h.senders n hn)] at hn

end Discovery

/-! ## The client -/

namespace ClientConnection

variable {cfg : ClientConfig} {digits : JString.DigitTable} {s t : ClientConnection}

/-- `start()` finds `mNetWorkInfo` connected or every earlier thread ended, and `stop()` does
not lose a sender that is alive. -/
structure StartsAlone (s : ClientConnection) (l : Label) (_ : ClientConnection) : Prop where
  start : l = .start →
    s.client.mNetWorkInfo.mStatus = .connected ∨ s.discovery.noneAlive = true
  stop : l = .stopNext → s.stopping = .stoppingSender →
    ∀ n, s.discovery.mBroadcastSenderThread = some n →
      (s.discovery.senders n).isAlive = false

theorem oneThread_iff {l : Label} (hnum : s.discovery.Numbered) (h : s.discovery.OneThread)
    (hs : s.step cfg digits l = some t) : t.discovery.OneThread ↔ StartsAlone s l t := by
  have hkept : ∀ {d : Discovery}, s.discovery.Moves d → l ≠ .start →
      (l = .stopNext → s.stopping ≠ .stoppingSender) → (d.OneThread ↔ StartsAlone s l t) := by
    intro d hm hstart hstop
    refine iff_of_true (h.moves hm) ⟨fun hl => absurd hl hstart, fun hl heq => ?_⟩
    exact absurd heq (hstop hl)
  cases steps_of_step hs with
  | start _ hstatus =>
      rw [Discovery.oneThread_restart_iff hnum _ rfl]
      exact ⟨fun hnone => ⟨fun _ => .inr hnone, by simp⟩,
        fun halone => (halone.start rfl).resolve_left hstatus⟩
  | startConnected _ hstatus => exact iff_of_true h ⟨fun _ => .inl hstatus, by simp⟩
  | stopThread hstop =>
      rw [Discovery.oneThread_stopThread_iff h]
      exact ⟨fun hdead => ⟨by simp, fun _ _ => hdead⟩, fun halone => halone.stop rfl hstop⟩
  | stopClient hstop => exact hkept (.refl _) (by simp) (by simp [hstop])
  | stopReceive hstop => exact hkept (Discovery.moves_stopReceive _) (by simp) (by simp [hstop])
  | discovery hstep => exact hkept (Discovery.moves_of_step hstep) (by simp) (by simp)
  | malformed hpc => exact hkept (Discovery.moves_handled hpc false) (by simp) (by simp)
  | announced hpc => exact hkept (Discovery.moves_handled hpc true) (by simp) (by simp)
  | stop | stopUnconnected | client => exact hkept (.refl _) (by simp) (by simp)

end ClientConnection

/-! ## The server -/

namespace Server

/-- `sendDataToTarget` offers its object to the connection. -/
def reaches (s : Server) (c : ℕ) : Bool :=
  s.mSocketServerThread.mThreadRunning && s.isRegistered c

/-- The accept loop is being executed. -/
def isAccepting (s : Server) : Bool :=
  s.mSocketServerThread.mThreadRunning && s.mSocketServerThread.pc != .ended

end Server

namespace ServerHost

variable {cfg : Config} {s t : ServerHost}

/-- A thread that is alive is the one that its field refers to. -/
structure OneThread (s : ServerHost) : Prop where
  discovery : s.discovery.OneThread
  replaced : ∀ n < s.discovery.created, (s.replaced n).pc = .ended

/-- `start()` leaves a server that accepts accepting, with the clients it reached before. -/
def KeepsAccepting (s : ServerHost) (l : Label) (t : ServerHost) : Prop :=
  l = .start → s.server.isAccepting = true →
    t.server.isAccepting = true ∧ ∀ c, s.server.reaches c = true → t.server.reaches c = true

/-- `start()` finds every earlier thread ended. -/
def StartsAlone (s : ServerHost) (l : Label) (_ : ServerHost) : Prop :=
  l = .start → s.discovery.noneAlive = true ∧ s.server.mSocketServerThread.pc = .ended

theorem numbered_discovery {l : Label} (h : s.discovery.Numbered) (hidle : s.stopping = .idle)
    (hs : s.step cfg l = some t) : t.discovery.Numbered := by
  cases steps_of_step hs with
  | start => exact h.restart _ rfl _ _
  | stopNext hstop => exact absurd hidle hstop
  | discovery hstep => exact h.moves (Discovery.moves_of_step hstep)
  | answered hpc => exact h.moves (Discovery.moves_answered hpc _ _)
  | unanswered hpc => exact h.moves (Discovery.moves_handled hpc false)
  | startConnected | stop | stopUnconnected | server | replaced => exact h

/-- An accept thread that has ended takes no step. -/
theorem not_step_of_ended {s t : Server} {l : Server.Label} (hl : l.isAccept = true)
    (hpc : s.mSocketServerThread.pc = .ended) (hs : s.step cfg l = some t) : False := by
  cases l with
  | bind ok => simp [Server.step, hpc] at hs
  | accept remoteIp => simp [Server.step, hpc] at hs
  | runAccept => simp [Server.step, Server.runAccept, hpc] at hs
  | _ => simp [Server.Label.isAccept] at hl

theorem oneThread_start_iff (hnum : s.discovery.Numbered) (h : OneThread s)
    (hs : s.step cfg .start = some t) (hstatus : s.server.mNetWorkInfo.mStatus ≠ .connected) :
    OneThread t ↔ s.discovery.noneAlive = true ∧ s.server.mSocketServerThread.pc = .ended := by
  cases steps_of_step hs with
  | startConnected _ hconnected => exact absurd hconnected hstatus
  | start =>
      have hone := Discovery.oneThread_restart_iff hnum (·.isAlive) rfl
        cfg.SERVER_PROADCAST_THREAD_PORT cfg.announcement
      obtain ⟨-, -, -, -, hcreated⟩ := s.discovery.restart_spec (·.isAlive) rfl
        cfg.SERVER_PROADCAST_THREAD_PORT cfg.announcement
      constructor
      · intro ht
        refine ⟨hone.mp ht.discovery, ?_⟩
        simpa using ht.replaced s.discovery.created (by simp only; omega)
      · rintro ⟨hnone, hended⟩
        refine ⟨hone.mpr hnone, fun n hn => ?_⟩
        by_cases hc : n = s.discovery.created
        · simpa [hc] using hended
        · have hlt : n < s.discovery.created := by
            simp only at hn
            omega
          simpa [hc] using h.replaced n hlt

theorem oneThread_of_ne_start {l : Label} (h : OneThread s) (hun : Unstoppable s)
    (hs : s.step cfg l = some t) (hl : l ≠ .start) : OneThread t := by
  have hmoves : ∀ {d : Discovery}, s.discovery.Moves d → OneThread { s with discovery := d } :=
    fun hm => ⟨h.discovery.moves hm, fun n hn => h.replaced n (hm.created ▸ hn)⟩
  cases steps_of_step hs with
  | start | startConnected => exact absurd rfl hl
  | stop _ hstatus => exact absurd hstatus hun.mNetWorkInfo
  | stopNext hstop => exact absurd hun.stopping hstop
  | discovery hstep => exact hmoves (Discovery.moves_of_step hstep)
  | answered hpc => exact hmoves (Discovery.moves_answered hpc _ _)
  | unanswered hpc => exact hmoves (Discovery.moves_handled hpc false)
  | stopUnconnected => exact h
  | server => exact ⟨h.discovery, h.replaced⟩
  | replaced hn haccept hstep => exact (not_step_of_ended haccept (h.replaced _ hn) hstep).elim

theorem oneThread_keepsAccepting_iff {l : Label} (hnum : s.discovery.Numbered) (h : OneThread s)
    (hun : Unstoppable s) (hs : s.step cfg l = some t) :
    OneThread t ∧ KeepsAccepting s l t ↔ StartsAlone s l t := by
  by_cases hl : l = .start
  · subst hl
    have hiff := oneThread_start_iff hnum h hs hun.mNetWorkInfo
    constructor
    · exact fun hone _ => hiff.mp hone.1
    · intro halone
      refine ⟨hiff.mpr (halone rfl), fun _ haccepting => ?_⟩
      simp [Server.isAccepting, (halone rfl).2] at haccepting
  · exact iff_of_true ⟨oneThread_of_ne_start h hun hs hl, fun heq => absurd heq hl⟩
      fun heq => absurd heq hl

end ServerHost

/-! ## Both roles -/

/-- In all states of a run every thread that is alive is the one that its field refers to, and
no `start()` takes a server away from its clients, if and only if every `start()` that takes
effect finds all earlier threads ended and no `stop()` takes a live sender out of its field. -/
theorem one_thread_iff (digits : JString.DigitTable) (free : Int32 → Bool) :
    (∀ (cfg : ClientConfig) (ls : List ClientConnection.Label),
      Along (ClientConnection.step cfg digits) (fun _ _ t => t.discovery.OneThread)
          (.new cfg free) ls ↔
        Along (ClientConnection.step cfg digits) ClientConnection.StartsAlone (.new cfg free) ls) ∧
    ∀ (cfg : Config) (ls : List ServerHost.Label),
      Along (ServerHost.step cfg)
          (fun s l t => ServerHost.OneThread t ∧ ServerHost.KeepsAccepting s l t)
          (.new cfg free) ls ↔
        Along (ServerHost.step cfg) ServerHost.StartsAlone (.new cfg free) ls := by
  constructor
  · intro cfg ls
    refine along_congr (I := fun s => s.discovery.Numbered ∧ s.discovery.OneThread) ?_ ?_
      ⟨Discovery.numbered_new, Discovery.oneThread_new⟩ ls
    · rintro s l t ⟨hnum, -⟩ hs ht
      exact ⟨ClientConnection.numbered_discovery hnum hs, ht⟩
    · rintro s l t ⟨hnum, hone⟩ hs
      exact ClientConnection.oneThread_iff hnum hone hs
  · intro cfg ls
    refine along_congr (I := fun s : ServerHost => s.discovery.Numbered ∧
      ServerHost.OneThread s ∧ ServerHost.Unstoppable s) ?_ ?_
      ⟨Discovery.numbered_new, ⟨Discovery.oneThread_new, fun n hn => absurd hn (Nat.not_lt_zero n)⟩,
        ServerHost.unstoppable_new cfg free⟩ ls
    · rintro s l t ⟨hnum, -, hun⟩ hs ht
      exact ⟨ServerHost.numbered_discovery hnum hun.stopping hs, ht.1,
        ServerHost.unstoppable_step hun hs⟩
    · rintro s l t ⟨hnum, hone, hun⟩ hs
      exact ServerHost.oneThread_keepsAccepting_iff hnum hone hun hs

/-- A server that is started accepts, and its first client is registered. -/
def ServerHost.serving : List ServerHost.Label :=
  .start :: (Server.boot ++ Server.register).map .server

/-- A second `start()` of a server leaves two senders alive, and its client out of reach. -/
theorem second_start_cuts_off_clients :
    (¬ ∀ ls s, exec (ServerHost.step (.connectionImpl none true))
        (.new (.connectionImpl none true) fun _ => true) ls = some s → ServerHost.OneThread s) ∧
    ¬ ∀ ls s t, exec (ServerHost.step (.connectionImpl none true))
        (.new (.connectionImpl none true) fun _ => true) ls = some s →
      s.step (.connectionImpl none true) .start = some t →
      ServerHost.KeepsAccepting s .start t := by
  constructor
  · intro h
    have hone := h (ServerHost.serving ++ [.start]) _ (Option.some_get (by decide)).symm
    exact absurd (hone.discovery.senders 0 (by decide)) (by decide)
  · intro h
    have hkeeps := h ServerHost.serving _ _ (Option.some_get (by decide)).symm rfl
    exact absurd (hkeeps rfl (by decide)).1 (by decide)

end Collaboration
