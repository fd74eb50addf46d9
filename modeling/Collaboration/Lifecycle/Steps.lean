import Collaboration.Discovery.Steps
import Collaboration.Lifecycle.Semantics

/-! # What the steps of a `Connection` do

One inversion for each role. -/

namespace Collaboration

/-! ## The client -/

namespace ClientConnection

variable {cfg : ClientConfig} {digits : JString.DigitTable} {s t : ClientConnection}

/-- The address that a datagram announces; `none` is an exception. -/
def announcedAddress (digits : JString.DigitTable) (messageStr : JString) :
    Option (JString × Int32) := do
  let colon := messageStr.indexOf (JString.unit ':')
  let serverIp ← messageStr.substring 0 colon
  let serverPort ← (messageStr.substring (colon + 1) messageStr.length).bind digits.parseInt
  return (serverIp, serverPort)

theorem onNewDataReceived_of_some {n : ℕ} {messageStr serverIp : JString} {serverPort : Int32}
    (h : announcedAddress digits messageStr = some (serverIp, serverPort)) :
    s.onNewDataReceived digits n messageStr =
      { s with
        mServerIp := some serverIp
        mServerPort := serverPort
        client := s.client.onServerAnnounced serverIp serverPort
        discovery := s.discovery.handled n true } := by
  simp only [announcedAddress, Option.bind_eq_bind, Option.pure_def, Option.bind_eq_some_iff,
    Option.some.injEq, Prod.mk.injEq] at h
  obtain ⟨_, hip, _, ⟨_, hsub, hport⟩, rfl, rfl⟩ := h
  simp [onNewDataReceived, hip, hsub, hport]

theorem onNewDataReceived_of_none {n : ℕ} {messageStr : JString}
    (h : announcedAddress digits messageStr = none) :
    ∃ serverIp, s.onNewDataReceived digits n messageStr =
      { s with mServerIp := serverIp, discovery := s.discovery.handled n false } := by
  unfold onNewDataReceived
  simp only
  split
  · exact ⟨s.mServerIp, rfl⟩
  · rename_i serverIp hip
    split
    · exact ⟨some serverIp, rfl⟩
    · rename_i serverPort hport
      simp [announcedAddress, hip, hport] at h

inductive Steps (cfg : ClientConfig) (digits : JString.DigitTable) (s : ClientConnection) :
    Label → ClientConnection → Prop
  | start (hidle : s.stopping = .idle) (hstatus : s.client.mNetWorkInfo.mStatus ≠ .connected) :
      Steps cfg digits s .start
        { s with
          client := s.client.initThread
          discovery :=
            s.discovery.restart (·.mThreadRuning) cfg.CLIENT_BROADCAST_THREAD_PORT
              (.lit "New_Client_In") }
  | startConnected (hidle : s.stopping = .idle)
      (hstatus : s.client.mNetWorkInfo.mStatus = .connected) : Steps cfg digits s .start s
  | stop (hidle : s.stopping = .idle) (hstatus : s.client.mNetWorkInfo.mStatus = .connected) :
      Steps cfg digits s .stop { s with stopping := .stoppingSocketThread }
  | stopUnconnected (hidle : s.stopping = .idle)
      (hstatus : s.client.mNetWorkInfo.mStatus ≠ .connected) : Steps cfg digits s .stop s
  | stopClient (hstop : s.stopping = .stoppingSocketThread) :
      Steps cfg digits s .stopNext
        { s with client := s.client.stopClient, stopping := .stoppingReceiver }
  | stopReceive (hstop : s.stopping = .stoppingReceiver) :
      Steps cfg digits s .stopNext
        { s with discovery := s.discovery.stopReceive, stopping := .stoppingSender }
  | stopThread (hstop : s.stopping = .stoppingSender) :
      Steps cfg digits s .stopNext { s with discovery := s.discovery.stopThread, stopping := .idle }
  | discovery {l : Discovery.Label} {d : Discovery} (hstep : s.discovery.step l = some d) :
      Steps cfg digits s (.discovery l) { s with discovery := d }
  | malformed {n : ℕ} {message : JString} {serverIp : Option JString}
      (hpc : (s.discovery.receivers n).pc = .handling message)
      (haddress : announcedAddress digits message = none) :
      Steps cfg digits s (.handle n)
        { s with mServerIp := serverIp, discovery := s.discovery.handled n false }
  | announced {n : ℕ} {message serverIp : JString} {serverPort : Int32}
      (hpc : (s.discovery.receivers n).pc = .handling message)
      (haddress : announcedAddress digits message = some (serverIp, serverPort)) :
      Steps cfg digits s (.handle n)
        { s with
          mServerIp := some serverIp
          mServerPort := serverPort
          client := s.client.onServerAnnounced serverIp serverPort
          discovery := s.discovery.handled n true }
  | client {l : Client.Label} {c : Client} (hl : l.ofConnection = true)
      (hstep : s.client.step cfg l = some c) : Steps cfg digits s (.client l) { s with client := c }

theorem steps_of_step {l : Label} (h : s.step cfg digits l = some t) :
    Steps cfg digits s l t := by
  cases l with
  | start =>
      simp only [step, Option.ite_none_right_eq_some, Option.some.injEq] at h
      obtain ⟨hidle, rfl⟩ := h
      unfold ClientConnection.start
      split
      · rename_i hstatus
        exact .startConnected hidle hstatus
      · rename_i hstatus
        exact .start hidle hstatus
  | stop =>
      simp only [step, Option.ite_none_right_eq_some, Option.some.injEq] at h
      obtain ⟨hidle, rfl⟩ := h
      split
      · rename_i hstatus
        exact .stop hidle hstatus
      · rename_i hstatus
        exact .stopUnconnected hidle hstatus
  | stopNext =>
      simp only [step, ClientConnection.stopNext] at h
      split at h
      · cases h
      · rename_i hstop
        obtain rfl := Option.some.inj h
        exact .stopClient hstop
      · rename_i hstop
        obtain rfl := Option.some.inj h
        exact .stopReceive hstop
      · rename_i hstop
        obtain rfl := Option.some.inj h
        exact .stopThread hstop
  | discovery l =>
      obtain ⟨d, hd, rfl⟩ := Option.map_eq_some_iff.mp h
      exact .discovery hd
  | handle n =>
      simp only [step] at h
      split at h
      · rename_i message hpc
        obtain rfl := Option.some.inj h
        cases haddress : announcedAddress digits message with
        | none =>
            obtain ⟨serverIp, heq⟩ := onNewDataReceived_of_none (s := s) (n := n) haddress
            rw [heq]
            exact .malformed hpc haddress
        | some address =>
            rw [onNewDataReceived_of_some haddress]
            exact .announced hpc haddress
      · cases h
  | client l =>
      simp only [step] at h
      split at h
      · rename_i hl
        obtain ⟨c, hc, rfl⟩ := Option.map_eq_some_iff.mp h
        exact .client hl hc
      · cases h

theorem numbered_discovery {l : Label} (h : s.discovery.Numbered)
    (hs : s.step cfg digits l = some t) : t.discovery.Numbered := by
  cases steps_of_step hs with
  | start => exact h.restart _ rfl _ _
  | stopReceive => exact h.moves (Discovery.moves_stopReceive _)
  | stopThread => exact h.stopThread
  | discovery hstep => exact h.moves (Discovery.moves_of_step hstep)
  | malformed hpc => exact h.moves (Discovery.moves_handled hpc false)
  | announced hpc => exact h.moves (Discovery.moves_handled hpc true)
  | startConnected | stop | stopUnconnected | stopClient | client => exact h

end ClientConnection

/-! ## The server -/

namespace ServerHost

variable {cfg : Config} {s t : ServerHost}

inductive Steps (cfg : Config) (s : ServerHost) : Label → ServerHost → Prop
  | start (hidle : s.stopping = .idle) (hstatus : s.server.mNetWorkInfo.mStatus ≠ .connected) :
      Steps cfg s .start
        { s with
          server := s.server.initThread
          replaced := Function.update s.replaced s.discovery.created s.server.mSocketServerThread
          discovery :=
            s.discovery.restart (·.isAlive) cfg.SERVER_PROADCAST_THREAD_PORT cfg.announcement }
  | startConnected (hidle : s.stopping = .idle)
      (hstatus : s.server.mNetWorkInfo.mStatus = .connected) : Steps cfg s .start s
  | stop (hidle : s.stopping = .idle) (hstatus : s.server.mNetWorkInfo.mStatus = .connected) :
      Steps cfg s .stop { s with stopping := .stoppingSocketThread }
  | stopUnconnected (hidle : s.stopping = .idle)
      (hstatus : s.server.mNetWorkInfo.mStatus ≠ .connected) : Steps cfg s .stop s
  | stopNext {u : ServerHost} (hstop : s.stopping ≠ .idle) (hstep : s.stopNext = some u) :
      Steps cfg s .stopNext u
  | discovery {l : Discovery.Label} {d : Discovery} (hstep : s.discovery.step l = some d) :
      Steps cfg s (.discovery l) { s with discovery := d }
  | answered {n : ℕ} {message : JString}
      (hpc : (s.discovery.receivers n).pc = .handling message)
      (hsender : s.discovery.mBroadcastSenderThread.isSome = true) :
      Steps cfg s (.handle n)
        { s with
          discovery :=
            (s.discovery.addBroadcastTask cfg.SERVER_PROADCAST_THREAD_PORT
              cfg.announcement).handled n true }
  | unanswered {n : ℕ} {message : JString}
      (hpc : (s.discovery.receivers n).pc = .handling message)
      (hsender : s.discovery.mBroadcastSenderThread.isSome = false) :
      Steps cfg s (.handle n) { s with discovery := s.discovery.handled n false }
  | server {l : Server.Label} {u : Server} (hl : l ≠ .stop)
      (hport : ¬(l = .bind true ∧ s.portFree = false)) (hstep : s.server.step cfg l = some u) :
      Steps cfg s (.server l) { s with server := u }
  | replaced {n : ℕ} {l : Server.Label} {u : Server} (hn : n < s.discovery.created)
      (hl : l.isAccept = true)
      (hstep : Server.step cfg
        { s.server with
          mSocketServerThread :=
            { s.replaced n with accepted := s.server.mSocketServerThread.accepted } } l = some u) :
      Steps cfg s (.replaced n l)
        { s with
          server :=
            { u with
              mSocketServerThread :=
                { s.server.mSocketServerThread with accepted := u.mSocketServerThread.accepted } }
          replaced := Function.update s.replaced n u.mSocketServerThread }

theorem steps_of_step {l : Label} (h : s.step cfg l = some t) : Steps cfg s l t := by
  cases l with
  | start =>
      simp only [step, Option.ite_none_right_eq_some, Option.some.injEq] at h
      obtain ⟨hidle, rfl⟩ := h
      unfold ServerHost.start
      split
      · rename_i hstatus
        exact .startConnected hidle hstatus
      · rename_i hstatus
        exact .start hidle hstatus
  | stop =>
      simp only [step, Option.ite_none_right_eq_some, Option.some.injEq] at h
      obtain ⟨hidle, rfl⟩ := h
      split
      · rename_i hstatus
        exact .stop hidle hstatus
      · rename_i hstatus
        exact .stopUnconnected hidle hstatus
  | stopNext =>
      refine .stopNext ?_ h
      intro hidle
      simp [step, ServerHost.stopNext, hidle] at h
  | discovery l =>
      obtain ⟨d, hd, rfl⟩ := Option.map_eq_some_iff.mp h
      exact .discovery hd
  | handle n =>
      simp only [step] at h
      split at h
      · rename_i message hpc
        obtain rfl := Option.some.inj h
        unfold onNewDataReceived
        split
        · rename_i hsender
          exact .answered hpc hsender
        · rename_i hsender
          exact .unanswered hpc (by simpa using hsender)
      · cases h
  | server l =>
      simp only [step, Option.ite_none_left_eq_some, not_or] at h
      obtain ⟨⟨hl, hport⟩, h⟩ := h
      obtain ⟨u, hu, rfl⟩ := Option.map_eq_some_iff.mp h
      exact .server hl hport hu
  | replaced n l =>
      simp only [step, Option.ite_none_right_eq_some] at h
      obtain ⟨⟨hn, hl, -⟩, h⟩ := h
      obtain ⟨u, hu, rfl⟩ := Option.map_eq_some_iff.mp h
      exact .replaced hn hl hu

end ServerHost

end Collaboration
