import Collaboration.Client.Invariant
import Collaboration.Lifecycle.Receiving
import Collaboration.Lifecycle.Replacement

/-! # Whose events a client connection notes

Events carry no identity: the status of any thread goes into `mNetWorkInfo`, and the packages
that answer them go to the current thread. -/

namespace Collaboration

open Transition

namespace SocketClientConnectionThread

def queue (t : SocketClientConnectionThread) : List SocketDataSendTask :=
  t.mDataSenderThread.elim [] (·.mMessageTask)

theorem isConnected_iff (t : SocketClientConnectionThread) :
    t.isConnected = true ↔ t.mConnectStatus = .connected := by
  simp [isConnected]

/-- A thread that does not run, or is about to end, is not connected. -/
def ReportsEnd (t : SocketClientConnectionThread) : Prop :=
  t.pc = .created ∨ t.pc = .releasing ∨ t.pc = .finished → t.mConnectStatus ≠ .connected

theorem own_mConnectStatus {x y : SocketClientConnectionThread} {l : Label}
    (h : x.step l = some y) : y.mConnectStatus = x.mConnectStatus := by
  cases steps_of_step h with
  | close => exact (x.sameState_sendDataToTarget farewell).status
  | init | connect | connectFails | loops | leaves | readTimesOut | readFails | release | send =>
      rfl

theorem ReportsEnd.own {x y : SocketClientConnectionThread} {l : Label} (h : x.ReportsEnd)
    (hs : x.step l = some y) : y.ReportsEnd := by
  intro hy
  rw [own_mConnectStatus hs]
  cases steps_of_step hs with
  | send => exact h hy
  | release hpc => exact h (.inr (.inl hpc))
  | init | connect | connectFails | loops | leaves | readTimesOut | readFails | close =>
      simp at hy

/-- A package is queued where there is a sender and the status admits it. -/
theorem queue_sendDataToTarget_eq_iff (t : SocketClientConnectionThread) (d : Data) :
    (t.sendDataToTarget d).queue = t.queue ↔
      (t.canSendData && t.mDataSenderThread.isSome) = false := by
  unfold sendDataToTarget
  split
  · rename_i sender hs
    split
    · rename_i hc
      simp [queue, hs, hc, Sender.addMessage, Sender.enqueue]
    · rename_i hc
      simp [hc]
  · rename_i hs
    simp [hs]

theorem queue_sendHeartbeatPackages_eq_iff (t : SocketClientConnectionThread) :
    t.sendHeartbeatPackages.queue = t.queue ↔
      (t.isConnected && t.mDataSenderThread.isSome) = false := by
  unfold sendHeartbeatPackages
  split
  · rename_i sender hs
    split
    · rename_i hc
      simp [queue, hs, hc, Sender.addHeartbeatPackage, Sender.enqueue]
    · rename_i hc
      simp [hc]
  · rename_i hs
    simp [hs]

end SocketClientConnectionThread

namespace Client

open SocketClientConnectionThread (isConnected_iff)

variable {cfg : ClientConfig} {s t : Client}

/-- The status that a thread reports in a step, with the number of the thread. -/
def Label.reports : Label → Option (ℕ × ConnectStatus)
  | .unauthorized n => some (n, .unauthorized)
  | .read n data _ => if data.isPass then some (n, .connected) else none
  | .disconnected n => some (n, .disconnected)
  | _ => none

/-- The thread that raises a status change, a heartbeat or an authorization request. -/
def Label.raisedBy : Label → Option ℕ
  | .unauthorized n => some n
  | .read n data _ => if data.isPass || data.isHeartbeat then some n else none
  | .disconnected n => some n
  | _ => none

theorem raisedBy_of_reports {l : Label} {r : ℕ × ConnectStatus} (h : l.reports = some r) :
    l.raisedBy = some r.1 := by
  cases l with
  | unauthorized n | disconnected n =>
      obtain rfl : (n, _) = r := Option.some.inj h
      rfl
  | read n data throws =>
      simp only [Label.reports, Option.ite_none_right_eq_some, Option.some.injEq] at h
      obtain ⟨hpass, rfl⟩ := h
      simp [Label.raisedBy, hpass]
  | announced | thread | sendDataToTarget | stop => simp [Label.reports] at h

/-- What a status change makes of `mNetWorkInfo`. -/
def noted (s : Client) (status : ConnectStatus) : NetWorkInfo :=
  { s.mNetWorkInfo with mStatus := status, mRemoteIp := s.current.mServerIp }

theorem sendDataToTargetInner_fields (s : Client) (object : Data) :
    (s.sendDataToTargetInner object).mNetWorkInfo = s.mNetWorkInfo ∧
      (s.sendDataToTargetInner object).mSocketClientThread = s.mSocketClientThread := by
  unfold sendDataToTargetInner
  split <;> exact ⟨rfl, rfl⟩

theorem announce_fields (cfg : ClientConfig) (s : Client) (n : ℕ) :
    (s.announce cfg n).mNetWorkInfo = s.noted .unauthorized ∧
      (s.announce cfg n).mSocketClientThread = s.mSocketClientThread := by
  refine announce_cases cfg s n ?_ ?_ ?_
  · exact fun _ => ⟨rfl, rfl⟩
  · exact fun _ _ _ => sendDataToTargetInner_fields _ _
  · exact fun _ _ => ⟨rfl, rfl⟩

theorem setThread_mConnectStatus {n : ℕ} {x : SocketClientConnectionThread}
    (h : x.mConnectStatus = (s.threads n).mConnectStatus) :
    ∀ m, ((s.setThread n x).threads m).mConnectStatus = (s.threads m).mConnectStatus :=
  (Function.forall_update_iff s.threads fun m y =>
    y.mConnectStatus = (s.threads m).mConnectStatus).mpr ⟨h, fun _ _ => rfl⟩

theorem setPc_mConnectStatus (s : Client) (n : ℕ) (pc : ClientPc) (m : ℕ) :
    ((s.setPc n pc).threads m).mConnectStatus = (s.threads m).mConnectStatus :=
  setThread_mConnectStatus (x := { s.threads n with pc := pc }) rfl m

theorem changeConnectStatus_mConnectStatus (cfg : ClientConfig) (s : Client) (n : ℕ)
    (status : ConnectStatus) (m : ℕ) :
    ((s.changeConnectStatus cfg n status).threads m).mConnectStatus =
      if n = m then status else (s.threads m).mConnectStatus := by
  rw [changeConnectStatus_threads]
  by_cases hm : n = m
  · subst hm
    simp
  · simp [hm, Ne.symm hm]

theorem announce_mConnectStatus (cfg : ClientConfig) (s : Client) (n m : ℕ) :
    ((s.announce cfg n).threads m).mConnectStatus =
      if n = m then .unauthorized else (s.threads m).mConnectStatus := by
  have hstatus := changeConnectStatus_mConnectStatus cfg s n .unauthorized m
  refine announce_cases cfg s n ?_ ?_ ?_
  · exact fun _ => (setPc_mConnectStatus _ n .testing m).trans hstatus
  · intro deviceId _ _
    have hsent := (sameState_sendDataToTargetInner (s.changeConnectStatus cfg n .unauthorized)
      (.inner (.createAuthorizePackage deviceId)) m).status
    exact (setPc_mConnectStatus _ n .testing m).trans (hsent.trans hstatus)
  · exact fun _ _ => (setPc_mConnectStatus _ n .disconnecting m).trans hstatus

theorem onNewDataReceived_keeps (cfg : ClientConfig) (s : Client) (n : ℕ) (data : Data)
    (throws : Bool) :
    let t := s.onNewDataReceived cfg n data throws
    t.mNetWorkInfo = s.mNetWorkInfo ∧ t.mSocketClientThread = s.mSocketClientThread ∧
      ∀ m, (t.threads m).mConnectStatus = (s.threads m).mConnectStatus := by
  have hbeat : ∀ m, ((s.setThread s.mSocketClientThread
      s.current.sendHeartbeatPackages).threads m).mConnectStatus =
        (s.threads m).mConnectStatus :=
    setThread_mConnectStatus s.current.sameState_sendHeartbeatPackages.status
  refine onNewDataReceived_cases cfg s n data throws ?_ ?_ ?_
  · exact fun _ => ⟨rfl, rfl, setPc_mConnectStatus s n _⟩
  · exact fun _ _ => ⟨rfl, rfl, fun m => (setPc_mConnectStatus _ n _ m).trans (hbeat m)⟩
  · exact fun _ => ⟨rfl, rfl, setPc_mConnectStatus s n _⟩

theorem setStatus_fields (cfg : ClientConfig) (s : Client) (n : ℕ) (status : ConnectStatus)
    (pc : ClientPc) :
    let t := (s.changeConnectStatus cfg n status).setPc n pc
    t.mNetWorkInfo = s.noted status ∧ t.mSocketClientThread = s.mSocketClientThread ∧
      ∀ m, (t.threads m).mConnectStatus =
        if n = m then status else (s.threads m).mConnectStatus := by
  refine ⟨rfl, rfl, fun m => ?_⟩
  have hstatus := changeConnectStatus_mConnectStatus cfg s n status m
  exact (setPc_mConnectStatus _ n pc m).trans hstatus

theorem receive_of_isPass {data : Data} (h : data.isPass = true) (cfg : ClientConfig) (s : Client)
    (n : ℕ) (throws : Bool) :
    s.receive cfg n data throws = (s.changeConnectStatus cfg n .connected).setPc n .testing := by
  cases data with
  | inner pkg =>
      obtain ⟨hbeat, hmessage⟩ : pkg.isHeatbeatPackage = false ∧
          pkg.message = some InnerPackage.PASS := by simpa [Data.isPass] using h
      simp [receive, hbeat, hmessage]
  | string str | object k => simp [Data.isPass] at h

theorem receive_keeps {data : Data} (h : data.isPass = false) (cfg : ClientConfig) (s : Client)
    (n : ℕ) (throws : Bool) :
    let t := s.receive cfg n data throws
    t.mNetWorkInfo = s.mNetWorkInfo ∧ t.mSocketClientThread = s.mSocketClientThread ∧
      ∀ m, (t.threads m).mConnectStatus = (s.threads m).mConnectStatus := by
  refine receive_cases cfg s n data throws ?_ ?_ ?_ ?_
  · intro hpass _
    rw [h] at hpass
    cases hpass
  · exact fun _ _ _ => ⟨rfl, rfl, setThread_mConnectStatus rfl⟩
  · exact fun _ _ => ⟨rfl, rfl, setPc_mConnectStatus s n .testing⟩
  · exact fun _ _ => onNewDataReceived_keeps cfg s n data throws

/-- What a step reports is noted, whatever thread it comes from. -/
theorem reported_of_step {l : Label} (hl : l.ofConnection = true) (hs : s.step cfg l = some t) :
    t.mNetWorkInfo = l.reports.elim s.mNetWorkInfo (fun r => s.noted r.2) ∧
      t.mSocketClientThread = s.mSocketClientThread ∧
      ∀ m, (t.threads m).mConnectStatus =
        l.reports.elim (s.threads m).mConnectStatus
          (fun r => if r.1 = m then r.2 else (s.threads m).mConnectStatus) := by
  cases steps_of_step hs with
  | announced | stop | stopIdle => simp [Label.ofConnection] at hl
  | @thread n l x hx =>
      exact ⟨rfl, rfl, setThread_mConnectStatus
        (SocketClientConnectionThread.own_mConnectStatus hx)⟩
  | @unauthorized n =>
      refine ⟨(announce_fields cfg s n).1, (announce_fields cfg s n).2, fun m => ?_⟩
      simpa [Label.reports] using announce_mConnectStatus cfg s n m
  | @read n data throws =>
      cases hpass : data.isPass with
      | true =>
          rw [receive_of_isPass hpass]
          simpa [Label.reports, hpass] using setStatus_fields cfg s n .connected .testing
      | false => simpa [Label.reports, hpass] using receive_keeps hpass cfg s n throws
  | @disconnected n =>
      simpa [Label.reports] using setStatus_fields cfg s n .disconnected .releasing
  | @sendDataToTarget data =>
      unfold Client.sendDataToTarget
      split
      · exact ⟨rfl, rfl, setThread_mConnectStatus
          (s.current.sameState_sendDataToTarget data).status⟩
      · exact ⟨rfl, rfl, fun _ => rfl⟩

/-- The package that a step of a replaced thread queues on the current one. -/
def takesPackage (cfg : ClientConfig) (s : Client) : Label → Bool
  | .unauthorized _ =>
    !cfg.checkDeviceNameAndMac && cfg.deviceId.isSome &&
      (s.current.canSendData && s.current.mDataSenderThread.isSome)
  | .read _ data _ =>
    data.isHeartbeat && cfg.mConnectionListener &&
      (s.current.isConnected && s.current.mDataSenderThread.isSome)
  | _ => false

theorem current_setPc {n : ℕ} (hn : n ≠ s.mSocketClientThread) (pc : ClientPc) :
    (s.setPc n pc).current = s.current :=
  setPc_threads_of_ne s hn.symm pc

theorem sendDataToTargetInner_current (s : Client) (object : Data) :
    (s.sendDataToTargetInner object).current = s.current.sendDataToTarget object := by
  unfold sendDataToTargetInner
  split
  · exact setThread_threads_self s _ _
  · rename_i hc
    unfold SocketClientConnectionThread.sendDataToTarget
    split <;> simp [hc]

theorem queue_announce_eq_iff {n : ℕ} (hn : n ≠ s.mSocketClientThread) :
    (s.announce cfg n).current.queue = s.current.queue ↔
      s.takesPackage cfg (.unauthorized n) = false := by
  let v := s.changeConnectStatus cfg n .unauthorized
  have hcurrent : v.current = s.current := setThread_threads_of_ne s hn.symm _
  have hkept : ∀ pc, (v.setPc n pc).current = s.current := fun pc =>
    (current_setPc (s := v) hn pc).trans hcurrent
  unfold announce requestAuthorize takesPackage
  simp only
  cases hcheck : cfg.checkDeviceNameAndMac with
  | true => simp [v, hkept]
  | false =>
      cases hdevice : cfg.deviceId with
      | none => simp [v, hkept]
      | some deviceId =>
          let package := Data.inner (.createAuthorizePackage deviceId)
          have hfield : (v.sendDataToTargetInner package).mSocketClientThread =
              s.mSocketClientThread := (sendDataToTargetInner_fields v package).2
          have hsent : ((v.sendDataToTargetInner package).setPc n .testing).current =
              s.current.sendDataToTarget package := by
            rw [current_setPc (by rw [hfield]; exact hn), sendDataToTargetInner_current, hcurrent]
          simpa [v, package, hsent] using s.current.queue_sendDataToTarget_eq_iff package

theorem onNewDataReceived_current {n : ℕ} {data : Data} (throws : Bool)
    (hn : n ≠ s.mSocketClientThread) :
    (s.onNewDataReceived cfg n data throws).current =
      if data.isHeartbeat && cfg.mConnectionListener then s.current.sendHeartbeatPackages
      else s.current := by
  have hkept : ∀ pc, (s.setPc n pc).current = s.current := current_setPc hn
  cases data with
  | inner pkg =>
      cases hbeat : pkg.isHeatbeatPackage with
      | true =>
          cases hlistener : cfg.mConnectionListener with
          | true =>
              have hsent := current_setPc
                (s := s.setThread s.mSocketClientThread s.current.sendHeartbeatPackages) hn .testing
              simpa [Client.onNewDataReceived, Config.handsOver, Data.isHeartbeat, hbeat,
                hlistener] using hsent.trans (setThread_threads_self s _ _)
          | false =>
              simp [Client.onNewDataReceived, Config.handsOver, hlistener, hkept]
      | false =>
          simp [Client.onNewDataReceived, Config.handsOver, Data.isHeartbeat, hbeat, hkept]
  | string str | object k =>
      simp only [Client.onNewDataReceived, Data.isHeartbeat, Bool.false_and, Bool.false_eq_true,
        if_false]
      split
      · exact hkept _
      · exact hkept _

theorem receive_current {n : ℕ} {data : Data} (throws : Bool) (hn : n ≠ s.mSocketClientThread) :
    (s.receive cfg n data throws).current =
      if data.isHeartbeat && cfg.mConnectionListener then s.current.sendHeartbeatPackages
      else s.current := by
  cases data with
  | inner pkg =>
      cases hbeat : pkg.isHeatbeatPackage with
      | true => simpa [receive, hbeat] using onNewDataReceived_current throws hn
      | false =>
          have hset : ∀ x, (s.setThread n x).current = s.current := fun x =>
            setThread_threads_of_ne s hn.symm x
          simp only [receive, hbeat, Data.isHeartbeat, Bool.not_false, if_true, Bool.false_and,
            Bool.false_eq_true, if_false]
          split
          · exact (current_setPc (s := s.changeConnectStatus cfg n .connected) hn .testing).trans
              (hset _)
          · split
            · exact hset _
            · exact hset _
  | string str | object k => exact onNewDataReceived_current throws hn

theorem queue_receive_eq_iff {n : ℕ} {data : Data} (throws : Bool)
    (hn : n ≠ s.mSocketClientThread) :
    (s.receive cfg n data throws).current.queue = s.current.queue ↔
      s.takesPackage cfg (.read n data throws) = false := by
  rw [receive_current throws hn]
  by_cases hbeat : (data.isHeartbeat && cfg.mConnectionListener) = true
  · rw [if_pos hbeat, s.current.queue_sendHeartbeatPackages_eq_iff]
    simp [takesPackage, hbeat]
  · rw [if_neg hbeat]
    simp [takesPackage, hbeat]

/-- A step that a replaced thread raises leaves the queue of the current thread alone unless
it queues a package there. -/
theorem queue_eq_iff_of_replaced {l : Label} {n : ℕ} (hl : l.raisedBy = some n)
    (hn : n ≠ s.mSocketClientThread) (hs : s.step cfg l = some t) :
    t.current.queue = s.current.queue ↔ s.takesPackage cfg l = false := by
  cases steps_of_step hs with
  | @unauthorized m =>
      obtain rfl : m = n := by simpa [Label.raisedBy] using hl
      exact queue_announce_eq_iff hn
  | @read m data throws =>
      obtain ⟨-, rfl⟩ : _ ∧ m = n := by simpa [Label.raisedBy] using hl
      exact queue_receive_eq_iff throws hn
  | @disconnected m =>
      obtain rfl : m = n := by simpa [Label.raisedBy] using hl
      have hkept : ((s.changeConnectStatus cfg m .disconnected).setPc m .releasing).current =
          s.current :=
        (current_setPc (s := s.changeConnectStatus cfg m .disconnected) hn _).trans
          (setThread_threads_of_ne s hn.symm _)
      simp [hkept, takesPackage]
  | _ => simp [Label.raisedBy] at hl

/-! ### When the events of replaced threads change nothing -/

/-- `mNetWorkInfo` is connected if and only if the current thread is. -/
def StatusAgrees (s : Client) : Prop :=
  s.mNetWorkInfo.mStatus = .connected ↔ s.current.isConnected = true

/-- What a replaced thread raises changes neither `mNetWorkInfo` nor the queue of the current
thread. -/
def KeepsCurrent (s : Client) (l : Label) (t : Client) : Prop :=
  ∀ n, l.raisedBy = some n → n ≠ s.mSocketClientThread →
    t.mNetWorkInfo = s.mNetWorkInfo ∧ t.current.queue = s.current.queue

/-- `mNetWorkInfo` has this status, with the address of the current thread. -/
def Notes (s : Client) (status : ConnectStatus) : Prop :=
  s.mNetWorkInfo.mStatus = status ∧ s.mNetWorkInfo.mRemoteIp = s.current.mServerIp

/-- The states in which a replaced thread may raise an event: a status change where
`mNetWorkInfo` has that status, UNAUTHORIZED also where no request is made or the current
thread takes none, and a heartbeat where nobody listens or the current thread is not
connected. -/
def Allows (cfg : ClientConfig) (s : Client) : Label → Prop
  | .unauthorized _ =>
    s.Notes .unauthorized ∧ (cfg.checkDeviceNameAndMac = true ∨ cfg.deviceId = none ∨
      s.current.canSendData = false ∨ s.current.mDataSenderThread = none)
  | .read _ data _ =>
    (data.isPass = true → s.Notes .connected) ∧
      (data.isHeartbeat = true → cfg.mConnectionListener = false ∨
        s.current.isConnected = false ∨ s.current.mDataSenderThread = none)
  | .disconnected _ => s.Notes .disconnected
  | _ => True

theorem noted_eq_iff (s : Client) (status : ConnectStatus) :
    s.noted status = s.mNetWorkInfo ↔ s.Notes status := by
  cases hinfo : s.mNetWorkInfo
  simp [noted, Notes, hinfo, eq_comm]

theorem allows_iff {l : Label} {n : ℕ} (hl : l.raisedBy = some n) :
    s.Allows cfg l ↔ (∀ r ∈ l.reports, s.Notes r.2) ∧ s.takesPackage cfg l = false := by
  cases l with
  | unauthorized m =>
      simp only [Allows, Label.reports, takesPackage, Option.mem_def, Option.some.injEq,
        forall_eq', Bool.and_eq_false_iff, Bool.not_eq_false', Option.isSome_eq_false_iff,
        Option.isNone_iff_eq_none, or_assoc]
  | read m data throws =>
      have hbeat : (data.isHeartbeat = true → cfg.mConnectionListener = false ∨
          s.current.isConnected = false ∨ s.current.mDataSenderThread = none) ↔
          s.takesPackage cfg (.read m data throws) = false := by
        simp only [takesPackage, Bool.and_eq_false_iff, Option.isSome_eq_false_iff,
          Option.isNone_iff_eq_none, or_assoc, imp_iff_not_or, Bool.not_eq_true]
      rw [Allows, hbeat]
      cases hpass : data.isPass with
      | true => simp [Label.reports, hpass]
      | false => simp [Label.reports, hpass]
  | disconnected m => simp [Allows, Label.reports, takesPackage]
  | announced | thread | sendDataToTarget | stop => simp [Label.raisedBy] at hl

theorem keepsCurrent_iff {l : Label} (hl : l.ofConnection = true) (hs : s.step cfg l = some t) :
    KeepsCurrent s l t ↔
      ∀ n, l.raisedBy = some n → n = s.mSocketClientThread ∨ s.Allows cfg l := by
  refine forall_congr' fun n => forall_congr' fun hr => ?_
  by_cases hn : n = s.mSocketClientThread
  · simp [hn]
  · have hinfo : t.mNetWorkInfo = s.mNetWorkInfo ↔ ∀ r ∈ l.reports, s.Notes r.2 := by
      rw [(reported_of_step hl hs).1]
      cases hreport : l.reports with
      | none => simp
      | some r => simpa using noted_eq_iff s r.2
    rw [allows_iff hr, hinfo, queue_eq_iff_of_replaced hr hn hs]
    simp [hn]

/-- An event of the current thread sets both statuses, any other one none of them. -/
theorem StatusAgrees.of_step {l : Label} (h : StatusAgrees s) (hl : l.ofConnection = true)
    (hs : s.step cfg l = some t)
    (hr : ∀ n, l.raisedBy = some n → n = s.mSocketClientThread ∨ s.Allows cfg l) :
    StatusAgrees t := by
  obtain ⟨hinfo, hfield, hstatus⟩ := reported_of_step hl hs
  have hcurrent : t.current.mConnectStatus = l.reports.elim s.current.mConnectStatus
      (fun r => if r.1 = s.mSocketClientThread then r.2 else s.current.mConnectStatus) := by
    rw [Client.current, hfield]
    exact hstatus _
  unfold StatusAgrees at h ⊢
  rw [isConnected_iff] at h ⊢
  rw [hinfo, hcurrent]
  cases hreport : l.reports with
  | none => simpa using h
  | some r =>
      have hraised : l.raisedBy = some r.1 := raisedBy_of_reports hreport
      by_cases hn : r.1 = s.mSocketClientThread
      · simp [hn, noted]
      · rcases hr r.1 hraised with heq | hallows
        · exact absurd heq hn
        · have hnotes : s.Notes r.2 := ((allows_iff hraised).mp hallows).1 r hreport
          simpa [hn, noted, hnotes.1] using h

theorem setThread_current (s : Client) (x : SocketClientConnectionThread) :
    (s.setThread s.mSocketClientThread x).current = x := setThread_threads_self s _ _

theorem statusAgrees_congr (hinfo : t.mNetWorkInfo = s.mNetWorkInfo)
    (hcurrent : t.current.mConnectStatus = s.current.mConnectStatus) :
    StatusAgrees t ↔ StatusAgrees s := by
  simp only [StatusAgrees, isConnected_iff, hinfo, hcurrent]

/-- A new thread is not connected. -/
theorem statusAgrees_initThread (s : Client) :
    s.initThread.StatusAgrees ↔ s.mNetWorkInfo.mStatus ≠ .connected := by
  have hcurrent : s.initThread.current = .new := setThread_threads_self s _ _
  have hinfo : s.initThread.mNetWorkInfo = s.mNetWorkInfo := rfl
  rw [StatusAgrees, isConnected_iff, hcurrent, hinfo]
  simp [SocketClientConnectionThread.new]

theorem statusAgrees_stopClient (s : Client) : s.stopClient.StatusAgrees ↔ s.StatusAgrees := by
  have hkept : s.stopClient.mNetWorkInfo = s.mNetWorkInfo ∧
      s.stopClient.mSocketClientThread = s.mSocketClientThread := by
    unfold stopClient
    split <;> exact ⟨rfl, rfl⟩
  refine statusAgrees_congr hkept.1 ?_
  rw [current, hkept.2]
  exact (stopClient_sameState s _).status

/-! ### When replaced threads raise nothing -/

/-- All threads but the current one have ended or were never started. -/
structure Alone (s : Client) : Prop where
  others : ∀ n, n ≠ s.mSocketClientThread → (s.threads n).isAlive = false
  ends : ∀ n, (s.threads n).ReportsEnd

theorem isAlive_of_raisedBy {l : Label} {n : ℕ} (hl : l.raisedBy = some n)
    (hs : s.step cfg l = some t) : (s.threads n).isAlive = true := by
  cases steps_of_step hs with
  | @unauthorized m hpc | @disconnected m hpc =>
      obtain rfl : m = n := by simpa [Label.raisedBy] using hl
      simp [SocketClientConnectionThread.isAlive, hpc]
  | @read m data throws hpc =>
      obtain ⟨-, rfl⟩ : _ ∧ m = n := by simpa [Label.raisedBy] using hl
      simp [SocketClientConnectionThread.isAlive, hpc]
  | _ => simp [Label.raisedBy] at hl

theorem Alone.setCurrent (h : Alone s) {x : SocketClientConnectionThread} (hx : x.ReportsEnd) :
    Alone (s.setThread s.mSocketClientThread x) where
  others n hn := by
    have hold : (s.setThread s.mSocketClientThread x).threads n = s.threads n :=
      setThread_threads_of_ne s hn x
    rw [hold]
    exact h.others n hn
  ends := forall_setThread h.ends hx

theorem Alone.initThread (h : Alone s) (hcurrent : s.current.isAlive = false) :
    Alone s.initThread where
  others n hn := by
    have hold : s.initThread.threads n = s.threads n := setThread_threads_of_ne s hn _
    rw [hold]
    by_cases hfield : n = s.mSocketClientThread
    · rw [hfield]
      exact hcurrent
    · exact h.others n hfield
  ends := forall_setThread h.ends (x := .new) (by
    simp [SocketClientConnectionThread.ReportsEnd, SocketClientConnectionThread.new])

theorem Alone.stopClient (h : Alone s) : Alone s.stopClient := by
  unfold Client.stopClient
  split
  · exact h.setCurrent (h.ends s.mSocketClientThread)
  · exact h

theorem reportsEnd_of_step {l : Label} (hl : l.ofConnection = true) (hs : s.step cfg l = some t)
    {n : ℕ} (h : (s.threads n).ReportsEnd) : (t.threads n).ReportsEnd := by
  have heffect := effect_of_step hs n
  generalize t.threads n = y at heffect
  cases heffect with
  | same _ hsame =>
      unfold SocketClientConnectionThread.ReportsEnd
      rw [hsame.pc, hsame.status]
      exact h
  | started => simp [Label.ofConnection] at hl
  | own hx => exact h.own hx
  | announced _ hy | received _ _ hy =>
      rcases hy with hy | hy <;> simp [SocketClientConnectionThread.ReportsEnd, hy]
  | admitted _ _ hy => simp [SocketClientConnectionThread.ReportsEnd, hy]
  | disconnected _ hy hstatus => simp [SocketClientConnectionThread.ReportsEnd, hstatus]

theorem Alone.of_step {l : Label} (h : Alone s) (hl : l.ofConnection = true)
    (hs : s.step cfg l = some t) : Alone t where
  others n hn := by
    rw [(reported_of_step hl hs).2.1] at hn
    by_contra halive
    have halive : (t.threads n).isAlive = true := by simpa using halive
    exact absurd (isAlive_of_step hl hs halive) (by simp [h.others n hn])
  ends n := reportsEnd_of_step hl hs (h.ends n)

theorem Alone.mStatus_ne_connected (h : Alone s) (hagrees : StatusAgrees s)
    (hcurrent : s.current.isAlive = false) : s.mNetWorkInfo.mStatus ≠ .connected := by
  intro hstatus
  have hconnected := (isConnected_iff _).mp (hagrees.mp hstatus)
  refine h.ends s.mSocketClientThread ?_ hconnected
  by_cases hpc : s.current.pc = .created
  · exact .inl hpc
  · have hfinished : s.current.pc = .finished := by
      simpa [SocketClientConnectionThread.isAlive, hpc] using hcurrent
    exact .inr (.inr hfinished)

end Client

namespace ReceivingClient

open Client SocketClientConnectionThread

variable {cfg : ClientConfig} {digits : JString.DigitTable} {charset : JString.Charset}
  {s t : ReceivingClient}

/-- The step puts a new thread into `mSocketClientThread`. -/
def replaces (s : ReceivingClient) : Label → Bool
  | .startNext => s.starting = .replacing
  | .handle n => s.handling n = .replacing
  | _ => false

/-- Events that are heard come from the current thread, or where they may come from a replaced
one. -/
def Raises (cfg : ClientConfig) (s : ReceivingClient) (l : Label) : Prop :=
  ∀ event n, l = .connection (.client event) → event.raisedBy = some n →
    s.mConnectionListener n = true →
      n = s.client.mSocketClientThread ∨ s.client.Allows cfg event

/-- The current thread does not become connected, nor ceases to be, without a listener. -/
def KeepsToItself (s : ReceivingClient) (l : Label) : Prop :=
  ∀ event r, l = .connection (.client event) → event.reports = some r →
    s.mConnectionListener r.1 = false → r.1 = s.client.mSocketClientThread →
      (s.client.mNetWorkInfo.mStatus = .connected ↔ r.2 = .connected)

/-- Threads are replaced only while `mNetWorkInfo` is not connected, and events come from the
current thread and are heard, or where it makes no difference. -/
structure Orderly (cfg : ClientConfig) (s : ReceivingClient) (l : Label) (_ : ReceivingClient) :
    Prop where
  replaces : s.replaces l = true → s.client.mNetWorkInfo.mStatus ≠ .connected
  raises : Raises cfg s l
  keeps : KeepsToItself s l

/-- The events of replaced threads keep the client as it is. -/
def KeepsCurrent (s : ReceivingClient) (l : Label) (t : ReceivingClient) : Prop :=
  ∀ cl, l = .connection (.client cl) → s.client.KeepsCurrent cl t.client

theorem callsListener_of_raisedBy {event : Client.Label} {n : ℕ} (h : event.raisedBy = some n) :
    event.callsListener = some n := by
  cases event with
  | unauthorized m | disconnected m => exact h
  | read m data throws =>
      obtain ⟨-, rfl⟩ : _ ∧ m = n := by simpa [Client.Label.raisedBy] using h
      rfl
  | announced | thread | sendDataToTarget | stop => simp [Client.Label.raisedBy] at h

/-- A thread without a listener sets its own status. -/
theorem unheard_mConnectStatus {x y : SocketClientConnectionThread} {event : Client.Label}
    (h : x.unheard event = some y) :
    y.mConnectStatus = event.reports.elim x.mConnectStatus (·.2) := by
  cases event with
  | unauthorized | disconnected =>
      simp only [SocketClientConnectionThread.unheard, Option.ite_none_right_eq_some,
        Option.some.injEq] at h
      obtain ⟨-, rfl⟩ := h
      rfl
  | read n data throws =>
      simp only [SocketClientConnectionThread.unheard, Option.ite_none_right_eq_some,
        Option.some.injEq] at h
      obtain ⟨-, rfl⟩ := h
      cases hpass : data.isPass with
      | true => simp [Client.Label.reports, hpass]
      | false =>
          simp only [Client.Label.reports, hpass, Bool.false_eq_true, if_false, Option.elim]
          split <;> rfl
  | announced | thread | sendDataToTarget | stop =>
      simp [SocketClientConnectionThread.unheard] at h

/-- An event that is a step of `ClientConnection` is heard. -/
theorem listener_of_unheard {event : Client.Label} {n : ℕ}
    (h : s.unheard (.client event) = none) (hcalls : event.callsListener = some n) :
    s.mConnectionListener n = true := by
  by_contra hlistener
  have hunheard : s.unheard (.client event) = some (n, event) :=
    unheard_eq_some_iff.mpr ⟨rfl, hcalls, by simpa using hlistener⟩
  simp [h] at hunheard

theorem keepsCurrent_iff {l : Label} (hs : s.step cfg digits charset l = some t) :
    KeepsCurrent s l t ↔ Raises cfg s l := by
  refine forall_congr' fun event => ?_
  rw [forall_comm]
  refine forall_congr' fun hl => ?_
  subst hl
  cases steps_of_step hs with
  | connection _ hheard hstep =>
      cases ClientConnection.steps_of_step hstep with
      | client hl hclient =>
          rw [Client.keepsCurrent_iff hl hclient]
          refine forall_congr' fun n => forall_congr' fun hr => ?_
          have hlistener := listener_of_unheard hheard (callsListener_of_raisedBy hr)
          simp [hlistener]
  | @unheard n _ x hcalls hunheard =>
      refine iff_of_true (fun m hr hm => ?_) fun m hr hlistener => ?_
      · obtain rfl : n = m :=
          Option.some.inj (hcalls.symm.trans (callsListener_of_raisedBy hr))
        have hcurrent : (s.client.setThread n x).current = s.client.current :=
          Client.setThread_threads_of_ne s.client hm.symm x
        exact ⟨rfl, by rw [hcurrent]⟩
      · obtain rfl : n = m :=
          Option.some.inj (hcalls.symm.trans (callsListener_of_raisedBy hr))
        simp [hunheard] at hlistener

theorem statusAgrees_startConnection (s : ReceivingClient) (n : ℕ) :
    (s.startConnection n).client.StatusAgrees ↔ s.client.StatusAgrees := by
  rw [startConnection_client]
  refine statusAgrees_congr rfl ?_
  rw [setThread_current]

/-- An event that nobody hears changes the status of its own thread alone. -/
theorem statusAgrees_unheard {n : ℕ} {event : Client.Label} {x : SocketClientConnectionThread}
    (h : s.client.StatusAgrees) (hcalls : event.callsListener = some n)
    (hunheard : s.mConnectionListener n = false)
    (hx : (s.client.threads n).unheard event = some x) :
    (s.client.setThread n x).StatusAgrees ↔ KeepsToItself s (.connection (.client event)) := by
  have hreports : ∀ r, event.reports = some r → r.1 = n := fun r hr =>
    Option.some.inj ((callsListener_of_raisedBy (raisedBy_of_reports hr)).symm.trans hcalls)
  have hinfo : (s.client.setThread n x).mNetWorkInfo = s.client.mNetWorkInfo := rfl
  have hstatus := unheard_mConnectStatus hx
  by_cases hn : n = s.client.mSocketClientThread
  · subst hn
    rw [StatusAgrees, isConnected_iff, setThread_current, hinfo, hstatus]
    constructor
    · rintro hagrees _ r hl hr - -
      cases hl
      simpa [hr] using hagrees
    · intro hkeeps
      cases hr : event.reports with
      | none => simpa [StatusAgrees, isConnected_iff, Client.current] using h
      | some r =>
          obtain hfield := hreports r hr
          exact hkeeps event r rfl hr (hfield ▸ hunheard) hfield
  · have hcurrent : (s.client.setThread n x).current = s.client.current :=
      Client.setThread_threads_of_ne s.client (Ne.symm hn) x
    refine iff_of_true ((statusAgrees_congr hinfo (by rw [hcurrent])).mpr h) ?_
    rintro _ r hl hr - hfield
    cases hl
    exact absurd ((hreports r hr).symm.trans hfield) hn

theorem keepsToItself_of_heard {l : ClientConnection.Label} (hheard : s.unheard l = none) :
    KeepsToItself s (.connection l) := by
  rintro event r hl hr hlistener -
  cases hl
  have hcalls := callsListener_of_raisedBy (raisedBy_of_reports hr)
  simp [listener_of_unheard hheard hcalls] at hlistener

theorem statusAgrees_iff {l : Label} (h : s.client.StatusAgrees)
    (hs : s.step cfg digits charset l = some t) (hr : Raises cfg s l) :
    t.client.StatusAgrees ↔
      (s.replaces l = true → s.client.mNetWorkInfo.mStatus ≠ .connected) ∧ KeepsToItself s l := by
  have hother : (∀ cl, l ≠ .connection cl) → KeepsToItself s l :=
    fun hl _ _ heq => absurd heq (hl _)
  cases steps_of_step hs with
  | startReplaces hat =>
      rw [and_iff_left (hother (by simp))]
      simpa [replaces, hat] using statusAgrees_initThread s.client
  | replaces hat =>
      rw [and_iff_left (hother (by simp))]
      simpa [replaces, hat] using statusAgrees_initThread s.client
  | @starts n _ hat =>
      rw [and_iff_left (hother (by simp))]
      simpa [replaces, hat] using (statusAgrees_startConnection s n).mpr h
  | startRegisters hat | registers hat | addresses hat | unaddressed hat | parses hat
  | unparsed hat | returns hat | tests hat | testsAgain hat =>
      rw [and_iff_left (hother (by simp))]
      simpa [replaces, hat] using h
  | start | startConnected | receive =>
      rw [and_iff_left (hother (by simp))]
      simpa [replaces] using h
  | unheard hcalls hunheard hx =>
      simpa [replaces] using statusAgrees_unheard h hcalls hunheard hx
  | connection hl hheard hstep =>
      rw [and_iff_left (keepsToItself_of_heard hheard)]
      cases ClientConnection.steps_of_step hstep with
      | start | startConnected | malformed | announced => simp [isShared] at hl
      | stopClient => simpa [replaces] using (statusAgrees_stopClient s.client).mpr h
      | client hconn hclient =>
          have hagrees := h.of_step hconn hclient fun n hn =>
            hr _ n rfl hn (listener_of_unheard hheard (callsListener_of_raisedBy hn))
          simpa [replaces] using hagrees
      | stop | stopUnconnected | stopReceive | stopThread | discovery =>
          simpa [replaces] using h

theorem orderly_iff {l : Label} (h : s.client.StatusAgrees)
    (hs : s.step cfg digits charset l = some t) :
    t.client.StatusAgrees ∧ KeepsCurrent s l t ↔ Orderly cfg s l t := by
  rw [keepsCurrent_iff hs]
  constructor
  · rintro ⟨hagrees, hr⟩
    obtain ⟨hreplaces, hkeeps⟩ := (statusAgrees_iff h hs hr).mp hagrees
    exact ⟨hreplaces, hr, hkeeps⟩
  · rintro ⟨hreplaces, hr, hkeeps⟩
    exact ⟨(statusAgrees_iff h hs hr).mpr ⟨hreplaces, hkeeps⟩, hr⟩

theorem statusAgrees_new (cfg : ClientConfig) (free : Int32 → Bool) :
    (new cfg free).client.StatusAgrees := by
  rw [StatusAgrees, isConnected_iff]
  refine iff_of_false (cfg.checkPort_ne_connected free) ?_
  simp [new, ClientConnection.new, constructed, Client.init, current,
    SocketClientConnectionThread.new]

theorem alone_new (cfg : ClientConfig) (free : Int32 → Bool) : (new cfg free).client.Alone where
  others _ _ := rfl
  ends _ := fun _ => by
    simp [new, ClientConnection.new, constructed, Client.init, SocketClientConnectionThread.new]

/-- A thread is replaced only when it has ended or was never started, and started only with its
listener. -/
structure Unhurried (s : ReceivingClient) (l : Label) (_ : ReceivingClient) : Prop where
  replaces : s.replaces l = true → s.client.current.isAlive = false
  starts : s.starts l = true → s.mConnectionListener s.client.mSocketClientThread = true

theorem alone_step {l : Label} (h : s.client.Alone) (hheard : s.Heard)
    (hs : s.step cfg digits charset l = some t) (hunhurried : Unhurried s l t) :
    t.client.Alone := by
  cases steps_of_step hs with
  | startReplaces hat => exact h.initThread (hunhurried.replaces (by simp [replaces, hat]))
  | replaces hat => exact h.initThread (hunhurried.replaces (by simp [replaces, hat]))
  | starts =>
      rw [startConnection_client]
      refine h.setCurrent fun hpc => h.ends s.client.mSocketClientThread ?_
      split at hpc
      · rename_i hcreated
        exact .inl hcreated
      · exact hpc
  | startRegisters | registers | addresses | unaddressed | parses | unparsed | returns | tests
  | testsAgain | start | startConnected | receive => exact h
  | @unheard n _ _ _ hunheard hx =>
      simp [hheard n (isAlive_of_unheard hx)] at hunheard
  | connection hl _ hstep =>
      cases ClientConnection.steps_of_step hstep with
      | start | startConnected | malformed | announced => simp [isShared] at hl
      | stopClient => exact h.stopClient
      | client hconn hclient => exact h.of_step hconn hclient
      | stop | stopUnconnected | stopReceive | stopThread | discovery => exact h

theorem orderly_of_unhurried {l : Label} (h : s.client.Alone) (hheard : s.Heard)
    (hagrees : s.client.StatusAgrees) (hs : s.step cfg digits charset l = some t)
    (hunhurried : Unhurried s l t) : Orderly cfg s l t where
  replaces hl := h.mStatus_ne_connected hagrees (hunhurried.replaces hl)
  raises := by
    rintro event n rfl hr -
    left
    by_contra hn
    cases steps_of_step hs with
    | connection _ _ hstep =>
        cases ClientConnection.steps_of_step hstep with
        | client _ hclient =>
            exact absurd (isAlive_of_raisedBy hr hclient) (by simp [h.others n hn])
    | @unheard m _ _ _ hunheard hx =>
        simp [hheard m (isAlive_of_unheard hx)] at hunheard
  keeps := by
    rintro event r rfl hr hlistener -
    cases steps_of_step hs with
    | connection _ hunheard hstep =>
        have hcalls := callsListener_of_raisedBy (raisedBy_of_reports hr)
        simp [listener_of_unheard hunheard hcalls] at hlistener
    | @unheard m _ _ _ hunheard hx =>
        simp [hheard m (isAlive_of_unheard hx)] at hunheard

/-- In all states of a run the status of `mNetWorkInfo` agrees with the current thread, and
replaced threads change nothing, if and only if all steps are orderly; they are where no thread
is replaced while it runs, or started without its listener. -/
theorem status_follows_current_iff (cfg : ClientConfig) (digits : JString.DigitTable)
    (charset : JString.Charset) (free : Int32 → Bool) (ls : List Label) :
    (Along (step cfg digits charset) (fun s l t => t.client.StatusAgrees ∧ KeepsCurrent s l t)
        (new cfg free) ls ↔
      Along (step cfg digits charset) (Orderly cfg) (new cfg free) ls) ∧
    (Along (step cfg digits charset) Unhurried (new cfg free) ls →
      Along (step cfg digits charset) (Orderly cfg) (new cfg free) ls) := by
  constructor
  · have hiff : ∀ s l t, s.client.StatusAgrees → step cfg digits charset s l = some t →
        (t.client.StatusAgrees ∧ KeepsCurrent s l t ↔ Orderly cfg s l t) :=
      fun _ _ _ h hs => orderly_iff h hs
    exact along_congr (fun _ _ _ _ _ ht => ht.1) hiff (statusAgrees_new cfg free) ls
  · refine Along.imp_of_invariant
      (I := fun s : ReceivingClient => s.client.StatusAgrees ∧ s.client.Alone ∧ s.Heard) ?_ ?_
      ⟨statusAgrees_new cfg free, alone_new cfg free, heard_new cfg free⟩
    · rintro s l t ⟨hagrees, h, hheard⟩ hs hunhurried
      have horderly := orderly_of_unhurried h hheard hagrees hs hunhurried
      exact ⟨((orderly_iff hagrees hs).mpr horderly).1, alone_step h hheard hs hunhurried,
        hheard.of_step hs hunhurried.starts⟩
    · rintro s l t ⟨hagrees, h, hheard⟩ hs hunhurried
      exact orderly_of_unhurried h hheard hagrees hs hunhurried

/-- Two threads are started; the second is admitted, and then the first one fails to connect. -/
def lateDisconnect : List Label :=
  listening ++ discovered (JString.lit "10.0.0.1:10083") ++
    .connection (.discovery (.receiver 0 .run)) :: discovered (JString.lit "10.0.0.1:10083") ++
    ([.thread 2 .init, .thread 2 (.connect true), .unauthorized 2, .thread 2 .test,
      .read 2 (.inner (.ofMessage InnerPackage.PASS)) false, .thread 1 .init,
      .thread 1 (.connect false), .disconnected 1] : List Client.Label).map
        (.connection <| .client ·)

theorem late_disconnect_of_replaced :
    ¬ ∀ ls s, exec (step sampleClient .ascii .ascii) (new sampleClient fun _ => true) ls = some s →
      s.client.StatusAgrees := by
  intro h
  have hagrees := h lateDisconnect _ (Option.some_get (by decide)).symm
  exact absurd (hagrees.mpr (by decide)) (by decide)

end ReceivingClient

end Collaboration
