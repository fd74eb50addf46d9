import Collaboration.Client.Semantics

/-! # What the steps of a client do

One inversion for the steps of a thread and one for the steps of the client, and what each
operation does to a thread. -/

namespace Collaboration

namespace SocketClientConnectionThread

inductive Steps (t : SocketClientConnectionThread) :
    Label → SocketClientConnectionThread → Prop
  | init (hpc : t.pc = .started) : Steps t .init { t.initRunningArgument with pc := .connecting }
  | connect (hpc : t.pc = .connecting) :
      Steps t (.connect true)
        { t with
          mObjectInputStream := true
          mDataSenderThread := some { Sender.new false with pc := .started }
          pc := .announcing }
  | connectFails (hpc : t.pc = .connecting) :
      Steps t (.connect false) { t with pc := .disconnecting }
  | loops (hpc : t.pc = .testing) (hstop : t.mStopConnection = false) :
      Steps t .test { t with pc := .reading }
  | leaves (hpc : t.pc = .testing) (hstop : t.mStopConnection = true) :
      Steps t .test { t with pc := .closing }
  | readTimesOut (hpc : t.pc = .reading) : Steps t .readTimesOut { t with pc := .closing }
  | readFails (hpc : t.pc = .reading) : Steps t .readFails { t with pc := .disconnecting }
  | close (hpc : t.pc = .closing) :
      Steps t .close { t.sendDataToTarget farewell with pc := .disconnecting }
  | release (hpc : t.pc = .releasing) :
      Steps t .release { t.releaseServerSocket with pc := .finished }
  | send {s s' : Sender} {written : Bool} (hs : t.mDataSenderThread = some s)
      (hrun : s.run written = some s') :
      Steps t (.send written) { t with mDataSenderThread := some s' }

theorem steps_of_step {t u : SocketClientConnectionThread} {l : Label} (h : t.step l = some u) :
    Steps t l u := by
  cases l with
  | init =>
      simp only [step, Option.ite_none_right_eq_some, Option.some.injEq] at h
      obtain ⟨hpc, rfl⟩ := h
      exact .init hpc
  | connect ok =>
      simp only [step, Option.ite_none_right_eq_some, Option.some.injEq] at h
      obtain ⟨hpc, rfl⟩ := h
      cases ok with
      | true => exact .connect hpc
      | false => exact .connectFails hpc
  | test =>
      simp only [step, Option.ite_none_right_eq_some, Option.some.injEq] at h
      obtain ⟨hpc, rfl⟩ := h
      split
      · rename_i hstop
        exact .leaves hpc hstop
      · rename_i hstop
        exact .loops hpc (by simpa using hstop)
  | readTimesOut =>
      simp only [step, Option.ite_none_right_eq_some, Option.some.injEq] at h
      obtain ⟨hpc, rfl⟩ := h
      exact .readTimesOut hpc
  | readFails =>
      simp only [step, Option.ite_none_right_eq_some, Option.some.injEq] at h
      obtain ⟨hpc, rfl⟩ := h
      exact .readFails hpc
  | close =>
      simp only [step, Option.ite_none_right_eq_some, Option.some.injEq] at h
      obtain ⟨hpc, rfl⟩ := h
      exact .close hpc
  | release =>
      simp only [step, Option.ite_none_right_eq_some, Option.some.injEq] at h
      obtain ⟨hpc, rfl⟩ := h
      exact .release hpc
  | send written =>
      simp only [step] at h
      split at h
      · rename_i s hs
        obtain ⟨s', hrun, rfl⟩ := Option.map_eq_some_iff.mp h
        exact .send hs hrun
      · cases h

end SocketClientConnectionThread

namespace Client

inductive Steps (cfg : ClientConfig) (s : Client) : Label → Client → Prop
  | announced {serverIp : JString} {serverPort : Int32} :
      Steps cfg s (.announced serverIp serverPort) (s.onServerAnnounced serverIp serverPort)
  | thread {n : ℕ} {l : SocketClientConnectionThread.Label} {x : SocketClientConnectionThread}
      (hstep : (s.threads n).step l = some x) : Steps cfg s (.thread n l) (s.setThread n x)
  | unauthorized {n : ℕ} (hpc : (s.threads n).pc = .announcing) :
      Steps cfg s (.unauthorized n) (s.announce cfg n)
  | read {n : ℕ} {data : Data} {throws : Bool} (hpc : (s.threads n).pc = .reading) :
      Steps cfg s (.read n data throws) (s.receive cfg n data throws)
  | disconnected {n : ℕ} (hpc : (s.threads n).pc = .disconnecting) :
      Steps cfg s (.disconnected n) ((s.changeConnectStatus cfg n .disconnected).setPc n .releasing)
  | sendDataToTarget {data : Data} : Steps cfg s (.sendDataToTarget data) (s.sendDataToTarget data)
  | stop (hstatus : s.mNetWorkInfo.mStatus = .connected)
      (hconnected : s.current.isConnected = true) :
      Steps cfg s .stop (s.setThread s.mSocketClientThread s.current.stopRuning)
  | stopIdle : Steps cfg s .stop s

theorem steps_of_step {cfg : ClientConfig} {s t : Client} {l : Label} (h : s.step cfg l = some t) :
    Steps cfg s l t := by
  cases l with
  | announced serverIp serverPort =>
      obtain rfl := Option.some.inj h
      exact .announced
  | thread n l =>
      obtain ⟨x, hx, rfl⟩ := Option.map_eq_some_iff.mp h
      exact .thread hx
  | unauthorized n =>
      simp only [step, Option.ite_none_right_eq_some, Option.some.injEq] at h
      obtain ⟨hpc, rfl⟩ := h
      exact .unauthorized hpc
  | read n data throws =>
      simp only [step, Option.ite_none_right_eq_some, Option.some.injEq] at h
      obtain ⟨hpc, rfl⟩ := h
      exact .read hpc
  | disconnected n =>
      simp only [step, Option.ite_none_right_eq_some, Option.some.injEq] at h
      obtain ⟨hpc, rfl⟩ := h
      exact .disconnected hpc
  | sendDataToTarget data =>
      obtain rfl := Option.some.inj h
      exact .sendDataToTarget
  | stop =>
      obtain rfl := Option.some.inj h
      split
      · rename_i hstop
        obtain ⟨hstatus, hconnected⟩ := by simpa using hstop
        exact .stop hstatus hconnected
      · exact .stopIdle

/-! ## How an operation ends -/

section Cases

variable {motive : Client → Prop} (cfg : ClientConfig) (s : Client) (n : ℕ)

/-- The request for authorization is left out, sent, or impossible to make. -/
@[elab_as_elim] theorem announce_cases
    (unasked : cfg.checkDeviceNameAndMac = true →
      motive ((s.changeConnectStatus cfg n .unauthorized).setPc n .testing))
    (asked : ∀ deviceId, cfg.checkDeviceNameAndMac = false → cfg.deviceId = some deviceId →
      motive (((s.changeConnectStatus cfg n .unauthorized).sendDataToTargetInner
        (.inner (.createAuthorizePackage deviceId))).setPc n .testing))
    (failed : cfg.checkDeviceNameAndMac = false → cfg.deviceId = none →
      motive ((s.changeConnectStatus cfg n .unauthorized).setPc n .disconnecting)) :
    motive (s.announce cfg n) := by
  unfold announce requestAuthorize
  cases hcheck : cfg.checkDeviceNameAndMac with
  | true => exact unasked hcheck
  | false =>
      cases hdevice : cfg.deviceId with
      | none => exact failed hcheck hdevice
      | some deviceId => exact asked deviceId hcheck hdevice

/-- An object is handed over, a heartbeat is answered on the current thread, and the rest is
dropped. -/
@[elab_as_elim] theorem onNewDataReceived_cases (data : Data) (throws : Bool)
    (handed : cfg.handsOver s.mNetWorkInfo data = true →
      motive { s.setPc n (if throws then .disconnecting else .testing) with
        received := s.received ++ [(n, data)] })
    (answered : cfg.handsOver s.mNetWorkInfo data = false → data.isHeartbeat = true →
      motive ((s.setThread s.mSocketClientThread s.current.sendHeartbeatPackages).setPc n .testing))
    (dropped : cfg.handsOver s.mNetWorkInfo data = false → motive (s.setPc n .testing)) :
    motive (s.onNewDataReceived cfg n data throws) := by
  unfold onNewDataReceived
  by_cases hover : cfg.handsOver s.mNetWorkInfo data = true
  · rw [if_pos hover]
    exact handed hover
  · rw [if_neg hover]
    rw [Bool.not_eq_true] at hover
    cases data with
    | inner pkg =>
        simp only
        split
        · rename_i hbeat
          exact answered hover (Bool.and_eq_true_iff.mp hbeat).2
        · exact dropped hover
    | string str | object k => exact dropped hover

/-- The decisions are taken out of what is read, and packages that are neither a decision nor a
heartbeat are dropped. -/
@[elab_as_elim] theorem receive_cases (data : Data) (throws : Bool)
    (passed : data.isPass = true → cfg.handsOver s.mNetWorkInfo data = false →
      motive ((s.changeConnectStatus cfg n .connected).setPc n .testing))
    (failed : data.isPass = false → data.isFailed = true →
      cfg.handsOver s.mNetWorkInfo data = false →
        motive (s.setThread n { (s.threads n).stopConnection with pc := .testing }))
    (dropped : data.isPass = false → cfg.handsOver s.mNetWorkInfo data = false →
      motive (s.setPc n .testing))
    (received : data.isPass = false → data.isFailed = false →
      motive (s.onNewDataReceived cfg n data throws)) :
    motive (s.receive cfg n data throws) := by
  cases data with
  | inner pkg =>
      change motive (ite _ _ _)
      cases hbeat : pkg.isHeatbeatPackage with
      | true =>
          rw [Bool.not_true, if_neg Bool.false_ne_true]
          exact received (by simp [Data.isPass, hbeat]) (by simp [Data.isFailed, hbeat])
      | false =>
          rw [Bool.not_false, if_pos rfl]
          split
          · rename_i hmessage
            exact passed (by simp [Data.isPass, hbeat, hmessage]) rfl
          · rename_i hmessage
            have hpass : (Data.inner pkg).isPass = false := by simp [Data.isPass, hmessage]
            split
            · rename_i hfailed
              exact failed hpass (by simp [Data.isFailed, hbeat, hfailed]) rfl
            · exact dropped hpass rfl
  | string str | object k => exact received rfl rfl

end Cases

/-! ## What the operations do to a thread -/

@[simp] theorem setThread_threads_self (s : Client) (t : ℕ) (x : SocketClientConnectionThread) :
    (s.setThread t x).threads t = x := by
  simp [setThread]

@[simp] theorem setThread_threads_of_ne (s : Client) {t u : ℕ} (h : u ≠ t)
    (x : SocketClientConnectionThread) : (s.setThread t x).threads u = s.threads u := by
  simp [setThread, h]

@[simp] theorem setPc_threads_self (s : Client) (t : ℕ) (pc : ClientPc) :
    (s.setPc t pc).threads t = { s.threads t with pc := pc } := by
  simp [setPc]

@[simp] theorem setPc_threads_of_ne (s : Client) {t u : ℕ} (h : u ≠ t) (pc : ClientPc) :
    (s.setPc t pc).threads u = s.threads u := by
  simp [setPc, h]

theorem changeConnectStatus_threads (cfg : ClientConfig) (s : Client) (u : ℕ)
    (status : ConnectStatus) :
    (s.changeConnectStatus cfg u status).threads =
      (s.setThread u { s.threads u with mConnectStatus := status }).threads := rfl

end Client

end Collaboration
