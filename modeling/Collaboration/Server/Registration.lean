import Collaboration.Library.LastWrite
import Collaboration.Server.Replies

/-! # Changes that come before the registration is complete

The worker of a connection runs while the accept thread still names and stores it. A status
change reaches the stored `NetWorkInfo`, and a decision the connection, through two look-ups
under the name; what they do not find is silently dropped. -/

namespace Collaboration

open Transition

/-- `AList.replace` changes the entry of a key, where there is one. -/
theorem lookup_replace {α β : Type*} [DecidableEq α] (a b : α) (v : β)
    (l : AList fun _ : α => β) :
    (l.replace a v).lookup b = if b = a then (l.lookup a).map fun _ => v else l.lookup b := by
  obtain ⟨entries, hkeys⟩ := l
  simp only [AList.lookup, AList.replace]
  clear hkeys
  induction entries with
  | nil => simp [List.kreplace]
  | cons e entries ih =>
      obtain ⟨k, w⟩ := e
      by_cases hk : a = k
      · subst hk
        have hhead : List.kreplace a v (⟨a, w⟩ :: entries) = ⟨a, v⟩ :: entries :=
          List.lookmap_cons_some _ _ (by simp)
        rw [hhead]
        by_cases hb : b = a
        · subst hb
          simp
        · simp [hb]
      · have hhead : List.kreplace a v (⟨k, w⟩ :: entries) =
            ⟨k, w⟩ :: List.kreplace a v entries := List.lookmap_cons_none _ _ (by simp [hk])
        rw [hhead]
        by_cases hb : b = k
        · subst hb
          simp [Ne.symm hk]
        · have htail (ms : List (Sigma fun _ : α => β)) :
              List.dlookup b (⟨k, w⟩ :: ms) = List.dlookup b ms := List.dlookup_cons_ne ms ⟨k, w⟩ hb
          rw [htail, htail, ih, List.dlookup_cons_ne entries ⟨k, w⟩ hk]

theorem ServerConnection.mConnectStatus_sendDataToTarget (c : ServerConnection) (d : Data) :
    (c.sendDataToTarget d).mConnectStatus = c.mConnectStatus := by
  unfold sendDataToTarget
  split
  · split <;> rfl
  · rfl

/-- The connection that has its name but no entry in `mNetWorkInfos` yet. -/
def AcceptPc.registers : AcceptPc → Option ℕ
  | .registering c _ _ => some c
  | _ => none

namespace Server

variable {cfg : Config} {s t : Server} {m : ℕ}

@[simp] theorem mConnectStatus_setPc (s : Server) (c d : ℕ) (pc : ServerPc) :
    ((s.setPc c pc).connections d).mConnectStatus = (s.connections d).mConnectStatus := by
  by_cases hd : d = c
  · subst hd
    simp
  · simp [hd]

/-! ## What is stored -/

/-- `onNewConnection` has been told the name of the connection. -/
def Noted (s : Server) (c : ℕ) (name : ThreadName) : Prop :=
  (s.connections c).mThreadName = some name ∧ s.mSocketServerThread.pc.registers ≠ some c

instance (s : Server) (c : ℕ) (name : ThreadName) : Decidable (s.Noted c name) :=
  inferInstanceAs (Decidable (_ ∧ _))

/-- The status of the `NetWorkInfo` under a name. -/
def storedStatus (s : Server) (name : ThreadName) : Option ConnectStatus :=
  (s.mNetWorkInfos.lookup name).map (·.mStatus)

/-- Once a connection is noted and has changed its status, its status is the stored one. -/
def StatusStored (s : Server) : Prop :=
  ∀ c name, s.Noted c name → (s.connections c).mConnectStatus ≠ .notInit →
    s.storedStatus name = some (s.connections c).mConnectStatus

theorem statusStored_init (cfg : Config) (free : Int32 → Bool) : (init cfg free).StatusStored := by
  rintro c name ⟨hname, -⟩
  simp [init, ServerConnection.absent] at hname

theorem RegistryAt.noted_iff (h : RegistryAt s m) (c : ℕ) (name : ThreadName) :
    s.Noted c name ↔ c < m + s.mSocketServerThread.pc.noted ∧ name = keyOf c := by
  have hacc := h.accepted
  rw [Noted, h.mThreadName]
  cases hpc : s.mSocketServerThread.pc with
  | registering d threadName remoteIp =>
      obtain ⟨rfl, -, -⟩ : d = m ∧ threadName = keyOf m ∧ _ := by
        simpa only [hpc, AcceptPc.HandlesNth] using hacc
      simp only [AcceptPc.named, AcceptPc.noted, AcceptPc.registers, Option.some.injEq, ne_eq]
      constructor
      · rintro ⟨⟨hlt, rfl⟩, hne⟩
        exact ⟨by omega, rfl⟩
      · rintro ⟨hlt, rfl⟩
        exact ⟨⟨by omega, rfl⟩, by omega⟩
  | _ => simp [AcceptPc.named, AcceptPc.noted, AcceptPc.registers]

theorem RegistryAt.stored (h : RegistryAt s m) {c : ℕ} {name : ThreadName}
    (hc : s.Noted c name) : ∃ status, s.storedStatus name = some status := by
  have hmem : name ∈ s.mNetWorkInfos := (h.infos name).mpr ⟨c, (h.noted_iff c name).mp hc⟩
  obtain ⟨info, hinfo⟩ := Option.isSome_iff_exists.mp (AList.lookup_isSome.mpr hmem)
  exact ⟨info.mStatus, by simp [storedStatus, hinfo]⟩

/-- A step that changes no status, stored or not. -/
structure SameStatuses (s t : Server) : Prop where
  noted : ∀ c name, t.Noted c name ↔ s.Noted c name
  status : ∀ c name, s.Noted c name →
    (t.connections c).mConnectStatus = (s.connections c).mConnectStatus
  stored : ∀ name, t.storedStatus name = s.storedStatus name

theorem SameStatuses.refl (s : Server) : SameStatuses s s :=
  ⟨fun _ _ => .rfl, fun _ _ _ => rfl, fun _ => rfl⟩

theorem SameStatuses.trans {u : Server} (h : SameStatuses s t) (h' : SameStatuses t u) :
    SameStatuses s u where
  noted c name := (h'.noted c name).trans (h.noted c name)
  status c name hc := (h'.status c name ((h.noted c name).mpr hc)).trans (h.status c name hc)
  stored name := (h'.stored name).trans (h.stored name)

theorem SameStatuses.statusStored (h : SameStatuses s t) (hs : s.StatusStored) :
    t.StatusStored := by
  intro c name hc hne
  rw [h.noted] at hc
  rw [h.status c name hc] at hne ⊢
  rw [h.stored]
  exact hs c name hc hne

theorem KeepsRegistry.noted (h : KeepsRegistry s t) (c : ℕ) (name : ThreadName) :
    t.Noted c name ↔ s.Noted c name := by
  rw [Noted, Noted, h.thread, h.mThreadName]

theorem KeepsRegistry.sameStatuses (h : KeepsRegistry s t)
    (hstatus : ∀ c, (t.connections c).mConnectStatus = (s.connections c).mConnectStatus)
    (hinfos : t.mNetWorkInfos = s.mNetWorkInfos) : SameStatuses s t where
  noted := h.noted
  status c _ _ := hstatus c
  stored name := by rw [storedStatus, storedStatus, hinfos]

theorem sameStatuses_setConnection (s : Server) {c : ℕ} {x : ServerConnection}
    (hname : x.mThreadName = (s.connections c).mThreadName)
    (hstatus : x.mConnectStatus = (s.connections c).mConnectStatus) :
    SameStatuses s (s.setConnection c x) := by
  refine (KeepsRegistry.setConnection s hname).sameStatuses ?_ rfl
  intro d
  by_cases hd : d = c
  · subst hd
    simpa using hstatus
  · simp [hd]

theorem sameStatuses_setPc (s : Server) (c : ℕ) (pc : ServerPc) : SameStatuses s (s.setPc c pc) :=
  sameStatuses_setConnection s rfl rfl

/-! ## A status change -/

/-- The other connections that are noted under the name of `c` have the status, or none yet. -/
def Shares (s : Server) (c : ℕ) (status : ConnectStatus) : Prop :=
  ∀ name d, (s.connections c).mThreadName = some name → d ≠ c → s.Noted d name →
    (s.connections d).mConnectStatus ≠ .notInit → (s.connections d).mConnectStatus = status

/-- A step that changes the status of one connection, and the one stored under its name. -/
structure Changes (s : Server) (c : ℕ) (status : ConnectStatus) (t : Server) : Prop where
  noted : ∀ d name, t.Noted d name ↔ s.Noted d name
  self : (t.connections c).mConnectStatus = status
  others : ∀ d, d ≠ c → (t.connections d).mConnectStatus = (s.connections d).mConnectStatus
  stored : ∀ name, t.storedStatus name =
    if (s.connections c).mThreadName = some name then (s.storedStatus name).map fun _ => status
    else s.storedStatus name

/-- A status change finds the `NetWorkInfo` of a noted connection; the names that the pool
gives twice are the only obstacle. -/
theorem Changes.statusStored_iff {c : ℕ} {status : ConnectStatus} (h : Changes s c status t)
    (hr : RegistryAt s m) (hs : s.StatusStored) : t.StatusStored ↔ s.Shares c status := by
  constructor
  · intro ht name d hname hd hnoted hne
    have hstored := ht d name ((h.noted d name).mpr hnoted)
    rw [h.others d hd, h.stored, if_pos hname, Option.map_eq_some_iff] at hstored
    obtain ⟨_, -, heq⟩ := hstored hne
    exact heq.symm
  · intro hshares d name hd hne
    rw [h.noted] at hd
    obtain ⟨old, hold⟩ := hr.stored hd
    by_cases hdc : d = c
    · subst hdc
      rw [h.stored, if_pos hd.1, hold, h.self]
      rfl
    · rw [h.others d hdc] at hne ⊢
      rw [h.stored]
      split
      · rename_i hname
        rw [hold, hshares name d hname hdc hd hne]
        rfl
      · exact hs d name hd hne

theorem changes_changeConnectStatus (cfg : Config) (s : Server) (c : ℕ) {status : ConnectStatus}
    (h : status ≠ .disconnected) : Changes s c status (s.changeConnectStatus cfg c status) where
  noted := (KeepsRegistry.changeConnectStatus cfg s c h).noted
  self := by simp
  others d hd := by simp [hd]
  stored name := by
    simp only [changeConnectStatus, onConnectionStatutChange, h, if_false, storedStatus,
      setConnection_connections_self]
    cases hname : (s.connections c).mThreadName with
    | none => simp [setConnection]
    | some threadName =>
        simp only [setConnection, Option.some.injEq]
        cases hinfo : s.mNetWorkInfos.lookup threadName with
        | none =>
            by_cases heq : threadName = name
            · subst heq
              simp [hinfo]
            · simp [heq]
        | some info =>
            rw [lookup_replace]
            by_cases heq : threadName = name
            · subst heq
              simp [hinfo]
            · simp [heq, Ne.symm heq]

theorem changes_setAutorizeCheckPass (cfg : Config) (s : Server) (c : ℕ) :
    Changes s c .connected (s.setAutorizeCheckPass cfg c) := by
  set u := s.setConnection c { s.connections c with mStopConnection := false } with hu
  have hkeeps : KeepsRegistry s u := .setConnection s rfl
  have hstored : ∀ name, u.storedStatus name = s.storedStatus name := fun _ => rfl
  have h : Changes u c .connected (s.setAutorizeCheckPass cfg c) :=
    changes_changeConnectStatus cfg u c (by simp)
  constructor
  · exact fun d name => (h.noted d name).trans (hkeeps.noted d name)
  · exact h.self
  · intro d hd
    rw [h.others d hd, hu, setConnection_connections_of_ne s hd]
  · intro name
    rw [h.stored, hkeeps.mThreadName, hstored]

theorem Changes.setPc {c d : ℕ} {status : ConnectStatus} (h : Changes s c status t)
    (pc : ServerPc) : Changes s c status (t.setPc d pc) where
  noted e name := ((KeepsRegistry.setPc t d pc).noted e name).trans (h.noted e name)
  self := by rw [mConnectStatus_setPc, h.self]
  others e he := by rw [mConnectStatus_setPc, h.others e he]
  stored := h.stored

/-! ## The entry of a new connection -/

theorem storedStatus_onNewConnection (cfg : Config) (s : Server) (name key : ThreadName)
    (remoteIp : JString) :
    (s.onNewConnection cfg name remoteIp).storedStatus key =
      if key = name then some .notInit else s.storedStatus key := by
  simp only [storedStatus, onNewConnection, FiniteMap.lookup_insert]
  split <;> rfl

/-- The new entry says `NOT_INIT`, whatever has happened to the connection so far. -/
theorem statusStored_onNewConnection_iff {c : ℕ} {name : ThreadName} {remoteIp : JString}
    (hr : RegistryAt s m) (hs : s.StatusStored)
    (hpc : s.mSocketServerThread.pc = .registering c name remoteIp) :
    ((s.onNewConnection cfg name remoteIp).setAcceptPc (.storing c name)).StatusStored ↔
      ∀ d, (s.connections d).mThreadName = some name →
        (s.connections d).mConnectStatus = .notInit := by
  constructor
  · intro ht d hd
    by_contra hne
    have hstored := ht d name ⟨hd, by simp [setAcceptPc, AcceptPc.registers]⟩ hne
    have hnew := storedStatus_onNewConnection cfg s name name remoteIp
    rw [if_pos rfl] at hnew
    exact hne (Option.some.inj (hnew.symm.trans hstored)).symm
  · rintro hinit d key ⟨hkey, -⟩ hne
    have hother : key ≠ name := by
      rintro rfl
      exact hne (hinit d hkey)
    have hc : (s.connections c).mThreadName = some name := by
      obtain ⟨rfl, rfl, -⟩ : c = m ∧ name = keyOf m ∧ _ := by
        simpa only [hpc, AcceptPc.HandlesNth] using hr.accepted
      exact (hr.mThreadName c _).mpr ⟨by simp [hpc, AcceptPc.named], rfl⟩
    have hnoted : s.Noted d key := by
      refine ⟨hkey, ?_⟩
      rw [hpc]
      rintro ⟨⟩
      exact hother (Option.some.inj (hkey.symm.trans hc))
    have hold := storedStatus_onNewConnection cfg s name key remoteIp
    rw [if_neg hother] at hold
    exact hold.trans (hs d key hnoted hne)

/-! ## The other steps -/

/-- The accept thread moves on and hands over to the pool. -/
theorem sameStatuses_of_acceptThread
    (hname : ∀ c, (t.connections c).mThreadName = (s.connections c).mThreadName)
    (hstatus : ∀ c, (t.connections c).mConnectStatus = (s.connections c).mConnectStatus)
    (hinfos : t.mNetWorkInfos = s.mNetWorkInfos)
    (hpc : t.mSocketServerThread.pc.registers = s.mSocketServerThread.pc.registers) :
    SameStatuses s t where
  noted c name := by rw [Noted, Noted, hname, hpc]
  status c _ _ := hstatus c
  stored name := by rw [storedStatus, storedStatus, hinfos]

theorem RegistryAt.unnamed (h : RegistryAt s m) (hpc : s.mSocketServerThread.pc.named = 0) :
    (s.connections m).mThreadName = none := by
  rw [Option.eq_none_iff_forall_ne_some]
  intro name hname
  have hlt := ((h.mThreadName m name).mp hname).1
  omega

theorem sameStatuses_accept (hr : RegistryAt s m) (remoteIp : JString)
    (hpc : s.mSocketServerThread.pc = .accepting) : SameStatuses s (s.accept remoteIp) := by
  have hnone : (s.connections s.mSocketServerThread.accepted).mThreadName = none := by
    rw [hr.accepted_eq hpc]
    exact hr.unnamed (by simp [hpc, AcceptPc.named])
  constructor
  · intro c name
    by_cases hc : c = s.mSocketServerThread.accepted
    · subst hc
      simp [Noted, Server.accept, setConnection, hnone, ServerConnection.new,
        ServerConnection.absent]
    · simp [Noted, Server.accept, setConnection, hc, hpc, AcceptPc.registers]
  · rintro c name ⟨hname, -⟩
    have hc : c ≠ s.mSocketServerThread.accepted := by
      rintro rfl
      rw [hnone] at hname
      cases hname
    simp [Server.accept, setConnection, hc]
  · exact fun _ => rfl

theorem sameStatuses_execute (c : ℕ) (remoteIp : JString)
    (hpc : s.mSocketServerThread.pc = .executing c remoteIp) :
    SameStatuses s (s.execute c remoteIp) := by
  have hname (pc : ServerPc) := (KeepsRegistry.setPc s c pc).mThreadName
  have hstatus (d : ℕ) (pc : ServerPc) := mConnectStatus_setPc s c d pc
  refine execute_cases s c remoteIp ?_ ?_ ?_
  · intro _
    exact sameStatuses_of_acceptThread (hname _) (hstatus · _) rfl (by rw [hpc]; rfl)
  · intro _ _
    exact sameStatuses_of_acceptThread (hname _) (hstatus · _) rfl (by rw [hpc]; rfl)
  · intro _ _
    exact sameStatuses_of_acceptThread (fun _ => rfl) (fun _ => rfl) rfl (by rw [hpc]; rfl)

theorem sameStatuses_setThreadName (hr : RegistryAt s m) {c : ℕ} {remoteIp : JString}
    (hpc : s.mSocketServerThread.pc = .naming c remoteIp) :
    SameStatuses s (s.setThreadName c remoteIp) := by
  obtain ⟨rfl, -⟩ : c = m ∧ s.mSocketServerThread.accepted = m + 1 := by
    simpa only [hpc, AcceptPc.HandlesNth] using hr.accepted
  have hnone := hr.unnamed (by simp [hpc, AcceptPc.named])
  constructor
  · intro d name
    by_cases hd : d = c
    · subst hd
      simp [Noted, Server.setThreadName, hnone, setAcceptPc, AcceptPc.registers]
    · simp [Noted, Server.setThreadName, hd, setAcceptPc, AcceptPc.registers, hpc, Ne.symm hd]
  · rintro d name ⟨hname, -⟩
    have hd : d ≠ c := by
      rintro rfl
      rw [hnone] at hname
      cases hname
    simp [Server.setThreadName, hd]
  · exact fun _ => rfl

theorem sameStatuses_onNewDataReceived (cfg : Config) (s : Server) (c : ℕ) (data : Data)
    (throws : Bool) : SameStatuses s (s.onNewDataReceived cfg c data throws) := by
  have hlog : SameStatuses s { s with received := s.received ++ [(c, data)] } :=
    ⟨fun _ _ => .rfl, fun _ _ _ => rfl, fun _ => rfl⟩
  refine onNewDataReceived_cases cfg s c data throws ?_ ?_ ?_ ?_ ?_
  · exact fun _ _ => hlog.trans (sameStatuses_setConnection _ rfl rfl)
  · exact fun _ _ => hlog.trans (sameStatuses_setPc _ c _)
  · exact fun _ => sameStatuses_setPc s c _
  · exact fun _ _ _ _ => sameStatuses_setPc s c _
  · exact fun _ _ _ _ => sameStatuses_setPc s c _

theorem sameStatuses_broadcast (s : Server) (data : Data) :
    SameStatuses s (s.broadcast data) := by
  refine (KeepsRegistry.broadcast s data).sameStatuses ?_ rfl
  intro d
  simp only [broadcast]
  split
  · exact ServerConnection.mConnectStatus_sendDataToTarget _ data
  · rfl

theorem sameStatuses_sendDataToTargetInner (s : Server) (name : Option ThreadName) (data : Data) :
    SameStatuses s (s.sendDataToTargetInner name data) := by
  refine sendDataToTargetInner_cases s name data ?_ ?_ ?_
  · exact .refl s
  · exact sameStatuses_broadcast s data
  · intro target _
    exact sameStatuses_setConnection s (ServerConnection.sendDataToTarget_mThreadName _ data)
      (ServerConnection.mConnectStatus_sendDataToTarget _ data)

theorem sameStatuses_sendDataToTarget (s : Server) (data : Data) :
    SameStatuses s (s.sendDataToTarget data) := by
  unfold Server.sendDataToTarget
  split
  · exact sameStatuses_broadcast s data
  · exact .refl s

/-! ## Status changes that come in time -/

/-- The step stores the status of a connection that has changed none so far, or changes the
status of a connection that shares its name with no other status. -/
def StatusInTime (s : Server) (l : Label) : Prop :=
  match l with
  | .runAccept => ∀ c name remoteIp, s.mSocketServerThread.pc = .registering c name remoteIp →
    ∀ d, (s.connections d).mThreadName = some name → (s.connections d).mConnectStatus = .notInit
  | .unauthorized c => s.Shares c .unauthorized
  | .decide c => ∀ name d, (s.connections c).pc = .deciding name true →
    s.getConnection name = some d → s.Shares d .connected
  | _ => True

theorem statusStored_decide_iff {c : ℕ} {name : Option ThreadName} {authorize : Bool}
    (hr : RegistryAt s m) (hs : s.StatusStored)
    (hpc : (s.connections c).pc = .deciding name authorize) :
    ((s.decide cfg name authorize).setPc c .testing).StatusStored ↔ s.StatusInTime (.decide c) := by
  refine decide_cases cfg s name authorize ?_ ?_ ?_
  · intro hget
    refine iff_of_true ((sameStatuses_setPc s c _).statusStored hs) ?_
    intro name' d hpc' hget'
    cases hpc.symm.trans hpc'
    cases hget.symm.trans hget'
  · rintro d hget rfl
    have hchanges := (changes_setAutorizeCheckPass cfg s d).setPc (d := c) .testing
    refine (hchanges.statusStored_iff hr hs).trans ?_
    constructor
    · intro hshares name' d' hpc' hget'
      cases hpc.symm.trans hpc'
      cases hget.symm.trans hget'
      exact hshares
    · exact fun h => h name d hpc hget
  · rintro d _ rfl
    have hstop : SameStatuses s (s.setConnection d (s.connections d).stopConnection) :=
      sameStatuses_setConnection s rfl rfl
    refine iff_of_true ((hstop.trans (sameStatuses_setPc _ c .testing)).statusStored hs) ?_
    intro name' d' hpc'
    cases hpc.symm.trans hpc'

/-- What a step of the server does to the statuses. -/
theorem statusStored_step_iff {l : Label} (hr : RegistryAt s m) (hs : s.StatusStored)
    (h : s.step cfg l = some t) : t.StatusStored ↔ s.StatusInTime l := by
  have hquiet (hsame : SameStatuses s t) (hin : s.StatusInTime l) :
      t.StatusStored ↔ s.StatusInTime l := iff_of_true (hsame.statusStored hs) hin
  cases steps_of_step h with
  | @bind ok hpc =>
      refine hquiet (sameStatuses_of_acceptThread (fun _ => rfl) (fun _ => rfl) rfl ?_) trivial
      cases ok <;> simp [hpc, setAcceptPc, AcceptPc.registers]
  | @accept remoteIp hpc => exact hquiet (sameStatuses_accept hr remoteIp hpc) trivial
  | acceptFails hpc =>
      refine hquiet (sameStatuses_of_acceptThread (fun _ => rfl) (fun _ => rfl) rfl ?_) trivial
      rw [hpc]
      rfl
  | loops hpc | leaves hpc | put hpc =>
      refine hquiet (sameStatuses_of_acceptThread (fun _ => rfl) (fun _ => rfl) rfl ?_) ?_
      · rw [hpc]
        rfl
      · simp [StatusInTime, hpc]
  | execute hpc => exact hquiet (sameStatuses_execute _ _ hpc) (by simp [StatusInTime, hpc])
  | setThreadName hpc =>
      exact hquiet (sameStatuses_setThreadName hr hpc) (by simp [StatusInTime, hpc])
  | @onNewConnection c name remoteIp hpc =>
      rw [statusStored_onNewConnection_iff hr hs hpc]
      constructor
      · intro hinit c' name' remoteIp' hpc'
        cases hpc.symm.trans hpc'
        exact hinit
      · exact fun h => h c name remoteIp hpc
  | @take c =>
      have hset := sameStatuses_setPc s c .opening
      exact hquiet ⟨hset.noted, hset.status, hset.stored⟩ trivial
  | stop =>
      exact hquiet (sameStatuses_of_acceptThread (fun _ => rfl) (fun _ => rfl) rfl rfl) trivial
  | stopIdle => exact hquiet (.refl s) trivial
  | @connection c l x hx =>
      exact hquiet (sameStatuses_setConnection s (ServerConnection.step_mThreadName hx)
        (mConnectStatus_own hx)) trivial
  | @unauthorized c =>
      exact ((changes_changeConnectStatus cfg s c (by simp)).setPc .clearing).statusStored_iff hr hs
  | @read c data throws => exact hquiet (sameStatuses_onNewDataReceived cfg s c data throws) trivial
  | @authorize c => exact hquiet (sameStatuses_setPc s c _) trivial
  | authorizeThrows => exact hquiet (sameStatuses_setConnection s rfl rfl) trivial
  | @reply c name authorize =>
      exact hquiet ((sameStatuses_sendDataToTargetInner s name _).trans (sameStatuses_setPc _ c _))
        trivial
  | decide hpc => exact statusStored_decide_iff hr hs hpc
  | @finish c =>
      have hset := sameStatuses_setConnection s
        (x := { (s.connections c).releaseServerSocket with pc := .finished }) (c := c) rfl rfl
      exact hquiet ⟨hset.noted, hset.status, hset.stored⟩ trivial
  | @sendDataToTarget data => exact hquiet (sameStatuses_sendDataToTarget s data) trivial

/-! ## Decisions -/

/-- The answer of the `Authorizer` is queued for the connection that asked, and that connection
is connected, or told to stop. -/
def DecisionApplied (s : Server) (l : Label) (t : Server) : Prop :=
  match l with
  | .reply c => ∀ name authorize, (s.connections c).pc = .replying name authorize →
    (t.connections c).messages = (s.connections c).messages ++ [authorizePackage authorize]
  | .decide c => ∀ name authorize, (s.connections c).pc = .deciding name authorize →
    if authorize then (t.connections c).mConnectStatus = .connected
    else (t.connections c).mStopConnection = true
  | _ => True

/-- The answer finds the connection under the name that its worker carries. -/
def DecisionInTime (s : Server) (l : Label) : Prop :=
  match l with
  | .reply c => ∀ name authorize, (s.connections c).pc = .replying name authorize →
    s.mSocketServerThread.mThreadRunning = true ∧ c ∈ s.addressees name ∧
      (s.connections c).takesData = true
  | .decide c => ∀ name authorize, (s.connections c).pc = .deciding name authorize →
    s.getConnection name = some c ∨
      if authorize then (s.connections c).mConnectStatus = .connected
      else (s.connections c).mStopConnection = true
  | _ => True

theorem messages_sendDataToTarget (c : ServerConnection) (d : Data) :
    (c.sendDataToTarget d).messages = c.messages ++ if c.takesData then [d] else [] := by
  cases hs : c.mDataSenderThread with
  | none => simp [ServerConnection.sendDataToTarget, ServerConnection.takesData, hs]
  | some sender =>
      by_cases hc : c.canSendData = true
      · simp [ServerConnection.sendDataToTarget, ServerConnection.takesData, hs, hc,
          ServerConnection.messages]
      · simp [ServerConnection.sendDataToTarget, ServerConnection.takesData, hs, hc]

theorem messages_reply (s : Server) (c : ℕ) (name : Option ThreadName) (data : Data)
    (pc : ServerPc) :
    (((s.sendDataToTargetInner name data).setPc c pc).connections c).messages =
        (s.connections c).messages ++ [data] ↔
      s.mSocketServerThread.mThreadRunning = true ∧ c ∈ s.addressees name ∧
        (s.connections c).takesData = true := by
  have hsent : (((s.sendDataToTargetInner name data).setPc c pc).connections c).messages =
      ((s.sendDataToTargetInner name data).connections c).messages := by
    rw [setPc_connections_self]
    rfl
  rw [hsent, sendDataToTargetInner_connections]
  split
  · rename_i hfound
    rw [messages_sendDataToTarget]
    cases htakes : (s.connections c).takesData with
    | true => simp [hfound.1, hfound.2]
    | false => simp
  · rename_i hlost
    refine iff_of_false (by simp) ?_
    exact fun h => hlost ⟨h.1, h.2.1⟩

theorem decided_iff (cfg : Config) (s : Server) (c : ℕ) (name : Option ThreadName)
    (authorize : Bool) :
    (let x := ((s.decide cfg name authorize).setPc c .testing).connections c
      if authorize then x.mConnectStatus = .connected else x.mStopConnection = true) ↔
      s.getConnection name = some c ∨
        if authorize then (s.connections c).mConnectStatus = .connected
        else (s.connections c).mStopConnection = true := by
  simp only
  unfold Server.decide
  cases hget : s.getConnection name with
  | none => cases authorize <;> simp
  | some d =>
      by_cases hd : c = d
      · subst hd
        cases authorize <;> simp [setAutorizeCheckPass_connections,
          ServerConnection.stopConnection]
      · cases authorize <;> simp [setAutorizeCheckPass_connections, hd, Ne.symm hd]

theorem decisionApplied_step_iff {l : Label} (h : s.step cfg l = some t) :
    DecisionApplied s l t ↔ s.DecisionInTime l := by
  cases steps_of_step h with
  | @reply c name authorize hpc =>
      have hreply := messages_reply s c name (authorizePackage authorize) (.deciding name authorize)
      constructor
      · intro happlied name' authorize' hpc'
        cases hpc.symm.trans hpc'
        exact hreply.mp (happlied name authorize hpc)
      · intro hin name' authorize' hpc'
        cases hpc.symm.trans hpc'
        exact hreply.mpr (hin name authorize hpc)
  | @decide c name authorize hpc =>
      have hdecided := decided_iff cfg s c name authorize
      constructor
      · intro happlied name' authorize' hpc'
        cases hpc.symm.trans hpc'
        exact hdecided.mp (happlied name authorize hpc)
      · intro hin name' authorize' hpc'
        cases hpc.symm.trans hpc'
        exact hdecided.mpr (hin name authorize hpc)
  | _ => exact .rfl

/-! ## Runs -/

/-- After the step the statuses are stored, and the answer that it brings has its effect. -/
def Applied (s : Server) (l : Label) (t : Server) : Prop := t.StatusStored ∧ DecisionApplied s l t

/-- Neither a status change nor an answer comes before the entry that it is looked up by. -/
def InTime (s : Server) (l : Label) : Prop := s.StatusInTime l ∧ s.DecisionInTime l

/-- In any interleaving of the accept thread with the connections, nothing is dropped as long
as every step comes in time, and no longer. -/
theorem nothing_dropped_iff (cfg : Config) (free : Int32 → Bool) (ls : List Label) :
    Along (step cfg) Applied (init cfg free) ls ↔
      Along (step cfg) (fun s l _ => s.InTime l) (init cfg free) ls := by
  refine along_congr (I := fun s => (∃ m, RegistryAt s m) ∧ s.StatusStored) ?_ ?_ ?_ ls
  · rintro s l t ⟨hr, -⟩ h happlied
    exact ⟨exists_registryAt_step hr h, happlied.1⟩
  · rintro s l t ⟨⟨m, hr⟩, hs⟩ h
    exact and_congr (statusStored_step_iff hr hs h) (decisionApplied_step_iff h)
  · exact ⟨⟨0, registryAt_init cfg free⟩, statusStored_init cfg free⟩

/-- The worker of a new connection asks the `Authorizer`, which lets the client in, before the
accept thread goes on to name and to store the connection. -/
def passedUnnamed : List Label :=
  boot ++ [.accept (some (JString.lit "/10.0.0.2")), .runAccept] ++ openStreams 0 ++
    [.read 0 (.inner (.ofMessage (JString.lit "phone:00:11:22"))) false,
      .authorize 0 (some (JString.lit "phone:00:11:22")) (some true), .reply 0, .decide 0,
      .runAccept, .runAccept]

/-- The client is never told, its connection stays `UNAUTHORIZED`, and what is stored for it
says `NOT_INIT`. -/
theorem pass_of_unnamed_dropped :
    ¬ ∀ ls, Along (step (.connectionImpl none true)) Applied
      (init (.connectionImpl none true) fun _ => true) ls := by
  intro h
  have hrun := Option.some_get (x := exec (step (.connectionImpl none true))
    (init (.connectionImpl none true) fun _ => true) passedUnnamed) (by decide)
  have hlast := (h (passedUnnamed ++ [.runAccept])).of_append hrun.symm
  rw [along_cons_of_step (Option.some_get (by decide)).symm] at hlast
  have hstored := hlast.1.1 0 (keyOf 0) (by decide) (by decide)
  exact absurd hstored (by decide)

end Server

end Collaboration
