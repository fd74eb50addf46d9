import Collaboration.Library.Transition
import Collaboration.Server.Steps

/-! # The two maps of the server

`mConnectionMap` and `mNetWorkInfos` are filled by the accept thread. No other step
touches their keys: a `ServerConnection` never reports `DISCONNECTED`. -/

namespace Collaboration

open Transition

variable {cfg : Config} {s t : Server}

/-! ## What only the accept thread changes -/

theorem ServerConnection.sendDataToTarget_mThreadName (c : ServerConnection) (d : Data) :
    (c.sendDataToTarget d).mThreadName = c.mThreadName := by
  unfold sendDataToTarget
  split
  · split <;> rfl
  · rfl

theorem ServerConnection.step_mThreadName {c d : ServerConnection} {l : Label}
    (h : c.step l = some d) : d.mThreadName = c.mThreadName := by
  cases steps_of_step h <;> rfl

namespace Server

/-- A step that leaves the bookkeeping of the accept thread alone, and reports no
connection as disconnected. -/
structure KeepsRegistry (s t : Server) : Prop where
  thread : t.mSocketServerThread = s.mSocketServerThread
  mCount : t.mConnectionThreads.mCount = s.mConnectionThreads.mCount
  workers : t.mConnectionThreads.workers = s.mConnectionThreads.workers
  queue : t.mConnectionThreads.sPoolWorkQueue = s.mConnectionThreads.sPoolWorkQueue
  mThreadName : ∀ c, (t.connections c).mThreadName = (s.connections c).mThreadName
  infos : ∀ name, name ∈ t.mNetWorkInfos ↔ name ∈ s.mNetWorkInfos
  netWorkInfo : t.mNetWorkInfo = s.mNetWorkInfo
  reported : (∀ e ∈ s.reported, e.2 ≠ .disconnected) → ∀ e ∈ t.reported, e.2 ≠ .disconnected

namespace KeepsRegistry

theorem refl (s : Server) : KeepsRegistry s s :=
  ⟨rfl, rfl, rfl, rfl, fun _ => rfl, fun _ => .rfl, rfl, id⟩

theorem trans {u : Server} (h : KeepsRegistry s t) (h' : KeepsRegistry t u) :
    KeepsRegistry s u where
  thread := h'.thread.trans h.thread
  mCount := h'.mCount.trans h.mCount
  workers := h'.workers.trans h.workers
  queue := h'.queue.trans h.queue
  mThreadName c := (h'.mThreadName c).trans (h.mThreadName c)
  infos name := (h'.infos name).trans (h.infos name)
  netWorkInfo := h'.netWorkInfo.trans h.netWorkInfo
  reported := h'.reported ∘ h.reported

theorem setConnection (s : Server) {c : ℕ} {x : ServerConnection}
    (hx : x.mThreadName = (s.connections c).mThreadName) :
    KeepsRegistry s (s.setConnection c x) where
  thread := rfl
  mCount := rfl
  workers := rfl
  queue := rfl
  mThreadName d := by
    by_cases hd : d = c
    · subst hd
      simpa [Server.setConnection] using hx
    · simp [Server.setConnection, hd]
  infos _ := .rfl
  netWorkInfo := rfl
  reported := id

theorem setPc (s : Server) (c : ℕ) (pc : ServerPc) : KeepsRegistry s (s.setPc c pc) :=
  setConnection s rfl

theorem broadcast (s : Server) (d : Data) : KeepsRegistry s (s.broadcast d) where
  thread := rfl
  mCount := rfl
  workers := rfl
  queue := rfl
  mThreadName c := by
    simp only [Server.broadcast]
    split
    · exact ServerConnection.sendDataToTarget_mThreadName _ d
    · rfl
  infos _ := .rfl
  netWorkInfo := rfl
  reported := id

theorem sendDataToTarget (s : Server) (d : Data) : KeepsRegistry s (s.sendDataToTarget d) := by
  unfold Server.sendDataToTarget
  split
  · exact broadcast s d
  · exact refl s

theorem sendDataToTargetInner (s : Server) (targetThread : Option ThreadName) (d : Data) :
    KeepsRegistry s (s.sendDataToTargetInner targetThread d) := by
  refine sendDataToTargetInner_cases s targetThread d ?_ ?_ ?_
  · exact refl s
  · exact broadcast s d
  · exact fun _ _ => setConnection s (ServerConnection.sendDataToTarget_mThreadName _ d)

theorem onConnectionStatutChange (cfg : Config) (s : Server) (c : ℕ) {status : ConnectStatus}
    (h : status ≠ .disconnected) :
    KeepsRegistry s (s.onConnectionStatutChange cfg c status) where
  thread := by simp [Server.onConnectionStatutChange, h]
  mCount := by simp [Server.onConnectionStatutChange, h]
  workers := by simp [Server.onConnectionStatutChange, h]
  queue := by simp [Server.onConnectionStatutChange, h]
  mThreadName d := by simp [Server.onConnectionStatutChange, h]
  infos name := by
    simp only [Server.onConnectionStatutChange, h, if_false]
    split
    · split
      · exact AList.mem_replace
      · exact .rfl
    · exact .rfl
  netWorkInfo := by simp [Server.onConnectionStatutChange, h]
  reported hs := by
    simp only [Server.onConnectionStatutChange, h, if_false]
    split
    · simpa [or_imp, forall_and, h] using hs
    · exact hs

theorem changeConnectStatus (cfg : Config) (s : Server) (c : ℕ) {status : ConnectStatus}
    (h : status ≠ .disconnected) : KeepsRegistry s (s.changeConnectStatus cfg c status) := by
  refine trans (setConnection s ?_) (onConnectionStatutChange cfg _ c h)
  rfl

theorem setAutorizeCheckPass (cfg : Config) (s : Server) (c : ℕ) :
    KeepsRegistry s (s.setAutorizeCheckPass cfg c) := by
  refine trans (setConnection s ?_) (changeConnectStatus cfg _ c (by simp))
  rfl

theorem decide (cfg : Config) (s : Server) (threadName : Option ThreadName) (authorize : Bool) :
    KeepsRegistry s (s.decide cfg threadName authorize) := by
  refine decide_cases cfg s threadName authorize ?_ ?_ ?_
  · exact fun _ => refl s
  · exact fun target _ _ => setAutorizeCheckPass cfg s target
  · exact fun _ _ _ => setConnection s rfl

theorem onNewDataReceived (cfg : Config) (s : Server) (c : ℕ) (data : Data) (throws : Bool) :
    KeepsRegistry s (s.onNewDataReceived cfg c data throws) := by
  have hlog : KeepsRegistry s { s with received := s.received ++ [(c, data)] } :=
    ⟨rfl, rfl, rfl, rfl, fun _ => rfl, fun _ => .rfl, rfl, id⟩
  refine onNewDataReceived_cases cfg s c data throws ?_ ?_ ?_ ?_ ?_
  · exact fun _ _ => hlog.trans (setConnection _ rfl)
  · exact fun _ _ => hlog.trans (setPc _ c _)
  · exact fun _ => setPc s c _
  · exact fun _ _ _ _ => setPc s c _
  · exact fun _ _ _ _ => setPc s c _

end KeepsRegistry

/-- The labels of the accept thread and of the queue that it fills, and of the call that
would stop it. -/
def Label.ofAcceptThread : Label → Bool
  | .bind _ | .accept _ | .runAccept | .take | .stop => true
  | _ => false

theorem step_keepsRegistry {l : Label} (h : s.step cfg l = some t)
    (hl : l.ofAcceptThread = false) : KeepsRegistry s t := by
  cases steps_of_step h with
  | bind | accept | acceptFails | loops | leaves | execute | setThreadName | onNewConnection
  | put | take | stop | stopIdle => simp [Label.ofAcceptThread] at hl
  | connection hx => exact .setConnection s (ServerConnection.step_mThreadName hx)
  | @unauthorized c =>
      exact (KeepsRegistry.changeConnectStatus cfg s c (by simp)).trans (.setPc _ c _)
  | @read c data throws => exact .onNewDataReceived cfg s c data throws
  | @authorize c => exact .setPc s c _
  | authorizeThrows => exact .setConnection s rfl
  | @reply c => exact (KeepsRegistry.sendDataToTargetInner s _ _).trans (.setPc _ c _)
  | @decide c => exact (KeepsRegistry.decide cfg s _ _).trans (.setPc _ c _)
  | @finish c =>
      have hset := KeepsRegistry.setConnection s
        (x := { (s.connections c).releaseServerSocket with pc := .finished }) (c := c) rfl
      exact ⟨rfl, rfl, rfl, rfl, hset.mThreadName, hset.infos, rfl, hset.reported⟩
  | @sendDataToTarget data => exact .sendDataToTarget s data

/-- Nothing on a server changes the status of `mNetWorkInfo`. -/
theorem mNetWorkInfo_of_step {l : Label} (h : s.step cfg l = some t) :
    t.mNetWorkInfo = s.mNetWorkInfo := by
  cases steps_of_step h with
  | @execute c remoteIp =>
      exact execute_cases s c remoteIp (fun _ => rfl) (fun _ _ => rfl) fun _ _ => rfl
  | bind | accept | acceptFails | loops | leaves | setThreadName | onNewConnection | put | take
  | stop | stopIdle => rfl
  | _ => exact (step_keepsRegistry h rfl).netWorkInfo

end Server

/-! ## How far the accept thread has got -/

/-- The name under which the counter of the pool registers a connection: from the fifth
worker on the counter stands still. -/
def keyOf (c : ℕ) : ThreadName := .connection (min (c + 1) ConnectionThreads.MAX_THREAD_SIZE)

theorem keyOf_eq_keyOf {c d : ℕ} : keyOf c = keyOf d ↔ c = d ∨ 4 ≤ c ∧ 4 ≤ d := by
  simp only [keyOf, ThreadName.connection.injEq, ConnectionThreads.MAX_THREAD_SIZE]
  omega

namespace AcceptPc

/-- After `m` complete registrations, the accept thread is busy with connection `m`. -/
def HandlesNth (m accepted : ℕ) : AcceptPc → Prop
  | .executing c _ | .naming c _ => c = m ∧ accepted = m + 1
  | .registering c threadName _ | .storing c threadName =>
    c = m ∧ threadName = keyOf m ∧ accepted = m + 1
  | .notStarted | .looping | .accepting => accepted = m
  | .ended => m ≤ accepted

/-- How many connections have been handed to the pool, beyond the ones whose registration
is complete; likewise how many have been named and noted. -/
def executed : AcceptPc → ℕ
  | .naming _ _ | .registering _ _ _ | .storing _ _ => 1
  | _ => 0

def named : AcceptPc → ℕ
  | .registering _ _ _ | .storing _ _ => 1
  | _ => 0

def noted : AcceptPc → ℕ
  | .storing _ _ => 1
  | _ => 0

end AcceptPc

namespace Server

/-- The state of the registry after `m` complete registrations. Of the connections that
share the last name, the map holds the newest. -/
structure RegistryAt (s : Server) (m : ℕ) : Prop where
  accepted : s.mSocketServerThread.pc.HandlesNth m s.mSocketServerThread.accepted
  workers : s.mConnectionThreads.workers =
    min (m + s.mSocketServerThread.pc.executed) ConnectionThreads.MAX_THREAD_SIZE
  counter : s.mConnectionThreads.mCount = s.mConnectionThreads.workers + 1
  mThreadName : ∀ c name, (s.connections c).mThreadName = some name ↔
    c < m + s.mSocketServerThread.pc.named ∧ name = keyOf c
  infos : ∀ name, name ∈ s.mNetWorkInfos ↔
    ∃ c < m + s.mSocketServerThread.pc.noted, name = keyOf c
  map : ∀ name c, s.mSocketServerThread.mConnectionMap.lookup name = some c ↔
    c < m ∧ name = keyOf c ∧ (4 ≤ c → c + 1 = m)
  reported : ∀ e ∈ s.reported, e.2 ≠ .disconnected

theorem registryAt_init (cfg : Config) (free : Int32 → Bool) : RegistryAt (init cfg free) 0 where
  accepted := rfl
  workers := rfl
  counter := rfl
  mThreadName c name := by simp [init, ServerConnection.absent, AcceptPc.named]
  infos name := by simp [init, AcceptPc.noted]
  map name c := by simp [init]
  reported := by simp [init]

theorem RegistryAt.keeps {m : ℕ} (h : RegistryAt s m) (hk : KeepsRegistry s t) :
    RegistryAt t m where
  accepted := by simpa only [hk.thread] using h.accepted
  workers := by simpa only [hk.thread, hk.workers] using h.workers
  counter := by simpa only [hk.mCount, hk.workers] using h.counter
  mThreadName c := by simpa only [hk.thread, hk.mThreadName] using h.mThreadName c
  infos name := by simpa only [hk.thread, hk.infos] using h.infos name
  map name c := by simpa only [hk.thread] using h.map name c
  reported := hk.reported h.reported

/-- Moving between two points that agree on the progress of the registration. -/
theorem RegistryAt.setAcceptPc {m : ℕ} (h : RegistryAt s m) {pc : AcceptPc}
    (hpc : pc.HandlesNth m s.mSocketServerThread.accepted)
    (he : pc.executed = s.mSocketServerThread.pc.executed)
    (hn : pc.named = s.mSocketServerThread.pc.named)
    (hi : pc.noted = s.mSocketServerThread.pc.noted) : RegistryAt (s.setAcceptPc pc) m where
  accepted := hpc
  workers := by simpa only [Server.setAcceptPc, he] using h.workers
  counter := h.counter
  mThreadName c := by simpa only [Server.setAcceptPc, hn] using h.mThreadName c
  infos name := by simpa only [Server.setAcceptPc, hi] using h.infos name
  map := h.map
  reported := h.reported

theorem RegistryAt.accept {m : ℕ} (h : RegistryAt s m) (remoteIp : JString)
    (hpc : s.mSocketServerThread.pc = .accepting) : RegistryAt (s.accept remoteIp) m := by
  have hm : s.mSocketServerThread.accepted = m := by
    simpa [hpc, AcceptPc.HandlesNth] using h.accepted
  constructor
  · simp [Server.accept, AcceptPc.HandlesNth, hm]
  · simpa [Server.accept, Server.setConnection, AcceptPc.executed, hpc] using h.workers
  · exact h.counter
  · intro c
    by_cases hcm : c = m
    · simp [Server.accept, Server.setConnection, hm, hcm, AcceptPc.named, ServerConnection.new,
        ServerConnection.absent]
    · simpa [Server.accept, Server.setConnection, hm, hcm, AcceptPc.named, hpc]
        using h.mThreadName c
  · intro name
    simpa [Server.accept, Server.setConnection, AcceptPc.noted, hpc] using h.infos name
  · exact h.map
  · exact h.reported

theorem RegistryAt.execute {m : ℕ} (h : RegistryAt s m) {c : ℕ} {remoteIp : JString}
    (hpc : s.mSocketServerThread.pc = .executing c remoteIp) :
    RegistryAt (s.execute c remoteIp) m := by
  have hacc : c = m ∧ s.mSocketServerThread.accepted = m + 1 := by
    simpa [hpc, AcceptPc.HandlesNth] using h.accepted
  have hw : s.mConnectionThreads.workers = min m 5 := by
    simpa [hpc, AcceptPc.executed, ConnectionThreads.MAX_THREAD_SIZE] using h.workers
  have hname (pc : ServerPc) := (KeepsRegistry.setPc s c pc).mThreadName
  refine execute_cases s c remoteIp ?_ ?_ ?_
  · intro hlt
    rw [hw, ConnectionThreads.MAX_THREAD_SIZE] at hlt
    refine ⟨hacc, ?_, ?_, ?_, ?_, h.map, h.reported⟩
    · simp only [hw, Server.setAcceptPc, AcceptPc.executed, ConnectionThreads.MAX_THREAD_SIZE]
      omega
    · simp [h.counter]
    · intro d
      simpa [Server.setAcceptPc, AcceptPc.named, hname, hpc] using h.mThreadName d
    · intro name
      simpa [Server.setAcceptPc, Server.setPc, Server.setConnection, AcceptPc.noted, hpc]
        using h.infos name
  · intro hlt _
    rw [hw, ConnectionThreads.MAX_THREAD_SIZE] at hlt
    refine ⟨hacc, ?_, h.counter, ?_, ?_, h.map, h.reported⟩
    · simp only [hw, Server.setAcceptPc, AcceptPc.executed, ConnectionThreads.MAX_THREAD_SIZE]
      omega
    · intro d
      simpa [Server.setAcceptPc, AcceptPc.named, hname, hpc] using h.mThreadName d
    · intro name
      simpa [Server.setAcceptPc, Server.setPc, Server.setConnection, AcceptPc.noted, hpc]
        using h.infos name
  · intro _ _
    refine h.setAcceptPc ?_ ?_ ?_ ?_
    · simp [AcceptPc.HandlesNth, hacc.2]
    · simp [AcceptPc.executed, hpc]
    · simp [AcceptPc.named, hpc]
    · simp [AcceptPc.noted, hpc]

theorem RegistryAt.setThreadName {m : ℕ} (h : RegistryAt s m) {c : ℕ} {remoteIp : JString}
    (hpc : s.mSocketServerThread.pc = .naming c remoteIp) :
    RegistryAt (s.setThreadName c remoteIp) m := by
  have hacc : c = m ∧ s.mSocketServerThread.accepted = m + 1 := by
    simpa [hpc, AcceptPc.HandlesNth] using h.accepted
  obtain ⟨rfl, hacc⟩ := hacc
  have hw : s.mConnectionThreads.workers = min (c + 1) ConnectionThreads.MAX_THREAD_SIZE := by
    simpa [hpc, AcceptPc.executed] using h.workers
  have hkey : ThreadName.connection (s.mConnectionThreads.mCount - 1) = keyOf c := by
    simp [h.counter, hw, keyOf]
  refine ⟨⟨rfl, hkey, hacc⟩, ?_, h.counter, ?_, ?_, h.map, h.reported⟩
  · simpa [Server.setThreadName, Server.setAcceptPc, Server.setConnection, AcceptPc.executed, hpc]
      using h.workers
  · intro d name
    have hd := h.mThreadName d name
    simp only [hpc, AcceptPc.named, Nat.add_zero] at hd
    by_cases hdc : d = c
    · simp [Server.setThreadName, Server.setAcceptPc, Server.setConnection, AcceptPc.named, hdc,
        hkey, eq_comm]
    · have hlt : d < c ↔ d < c + 1 := by omega
      simpa [Server.setThreadName, Server.setAcceptPc, Server.setConnection, AcceptPc.named, hdc,
        ← hlt] using hd
  · intro name
    simpa [Server.setThreadName, Server.setAcceptPc, Server.setConnection, AcceptPc.noted, hpc]
      using h.infos name

theorem RegistryAt.onNewConnection {m : ℕ} (h : RegistryAt s m) {c : ℕ}
    {threadName : ThreadName} {remoteIp : JString}
    (hpc : s.mSocketServerThread.pc = .registering c threadName remoteIp) :
    RegistryAt ((s.onNewConnection cfg threadName remoteIp).setAcceptPc (.storing c threadName))
      m := by
  have hacc : c = m ∧ threadName = keyOf m ∧ s.mSocketServerThread.accepted = m + 1 := by
    simpa [hpc, AcceptPc.HandlesNth] using h.accepted
  refine ⟨hacc, ?_, h.counter, ?_, ?_, h.map, h.reported⟩
  · simpa [Server.onNewConnection, Server.setAcceptPc, AcceptPc.executed, hpc] using h.workers
  · intro d
    simpa [Server.onNewConnection, Server.setAcceptPc, AcceptPc.named, hpc] using h.mThreadName d
  · intro name
    have hi := h.infos name
    simp only [hpc, AcceptPc.noted, Nat.add_zero] at hi
    simp only [Server.onNewConnection, Server.setAcceptPc, AcceptPc.noted, AList.mem_insert, hi,
      hacc.2.1, Nat.lt_succ_iff_lt_or_eq]
    constructor
    · rintro (rfl | ⟨d, hd, rfl⟩)
      · exact ⟨m, .inr rfl, rfl⟩
      · exact ⟨d, .inl hd, rfl⟩
    · rintro ⟨d, hd | rfl, rfl⟩
      · exact .inr ⟨d, hd, rfl⟩
      · exact .inl rfl

theorem RegistryAt.put {m : ℕ} (h : RegistryAt s m) {c : ℕ} {threadName : ThreadName}
    (hpc : s.mSocketServerThread.pc = .storing c threadName) :
    RegistryAt ((s.put threadName c).setAcceptPc .looping) (m + 1) := by
  have hacc : c = m ∧ threadName = keyOf m ∧ s.mSocketServerThread.accepted = m + 1 := by
    simpa [hpc, AcceptPc.HandlesNth] using h.accepted
  obtain ⟨rfl, rfl, hacc⟩ := hacc
  refine ⟨hacc, ?_, h.counter, ?_, ?_, ?_, h.reported⟩
  · simpa [Server.put, Server.setAcceptPc, AcceptPc.executed, hpc] using h.workers
  · intro d
    simpa [Server.put, Server.setAcceptPc, AcceptPc.named, hpc] using h.mThreadName d
  · intro name
    simpa [Server.put, Server.setAcceptPc, AcceptPc.noted, hpc] using h.infos name
  · intro name d
    have hmap := h.map name d
    by_cases hname : name = keyOf c
    · subst hname
      simp only [Server.put, Server.setAcceptPc, AList.lookup_insert, Option.some.injEq,
        keyOf_eq_keyOf]
      omega
    · have hne : c = d → name ≠ keyOf d := by
        rintro rfl
        exact hname
      have hshared : name = keyOf d → ¬ (c = d ∨ 4 ≤ c ∧ 4 ≤ d) := by
        rintro rfl hcd
        exact hname (keyOf_eq_keyOf.mpr hcd).symm
      simp only [Server.put, Server.setAcceptPc, AList.lookup_insert_ne hname, hmap]
      constructor
      · rintro ⟨hd, rfl, hlast⟩
        have := hshared rfl
        exact ⟨by omega, rfl, by omega⟩
      · rintro ⟨hd, rfl, hlast⟩
        have := hshared rfl
        exact ⟨by omega, rfl, by omega⟩

/-- A step completes one registration or none. -/
theorem registryAt_step {m : ℕ} {l : Label} (h : RegistryAt s m) (hs : s.step cfg l = some t) :
    RegistryAt t m ∨ RegistryAt t (m + 1) := by
  cases steps_of_step hs with
  | @bind ok hpc =>
      have hm : s.mSocketServerThread.accepted = m := by
        simpa [hpc, AcceptPc.HandlesNth] using h.accepted
      left
      apply h.setAcceptPc
      all_goals cases ok <;> simp [hpc, hm, AcceptPc.HandlesNth, AcceptPc.executed,
        AcceptPc.named, AcceptPc.noted]
  | @accept remoteIp hpc => exact .inl (h.accept remoteIp hpc)
  | acceptFails hpc =>
      have hm : s.mSocketServerThread.accepted = m := by
        simpa [hpc, AcceptPc.HandlesNth] using h.accepted
      left
      apply h.setAcceptPc
      all_goals simp [hpc, hm, AcceptPc.HandlesNth, AcceptPc.executed, AcceptPc.named,
        AcceptPc.noted]
  | loops hpc =>
      have hm : s.mSocketServerThread.accepted = m := by
        simpa [hpc, AcceptPc.HandlesNth] using h.accepted
      exact .inl ⟨hm, by simpa [hpc, AcceptPc.executed] using h.workers, h.counter,
        by simpa [hpc, AcceptPc.named] using h.mThreadName,
        by simpa [hpc, AcceptPc.noted] using h.infos, h.map, h.reported⟩
  | leaves hpc =>
      have hm : s.mSocketServerThread.accepted = m := by
        simpa [hpc, AcceptPc.HandlesNth] using h.accepted
      exact .inl ⟨le_of_eq hm.symm, by simpa [hpc, AcceptPc.executed] using h.workers, h.counter,
        by simpa [hpc, AcceptPc.named] using h.mThreadName,
        by simpa [hpc, AcceptPc.noted] using h.infos, h.map, h.reported⟩
  | execute hpc => exact .inl (h.execute hpc)
  | setThreadName hpc => exact .inl (h.setThreadName hpc)
  | onNewConnection hpc => exact .inl (h.onNewConnection hpc)
  | put hpc => exact .inr (h.put hpc)
  | @take c =>
      have hset := h.keeps (.setPc s c .opening)
      exact .inl ⟨hset.accepted, hset.workers, hset.counter, hset.mThreadName, hset.infos,
        hset.map, hset.reported⟩
  | stop =>
      exact .inl ⟨h.accepted, h.workers, h.counter, h.mThreadName, h.infos, h.map, h.reported⟩
  | stopIdle => exact .inl h
  | _ => exact .inl (h.keeps (step_keepsRegistry hs rfl))

theorem exists_registryAt_step {l : Label} (h : ∃ m, RegistryAt s m)
    (hs : s.step cfg l = some t) : ∃ m, RegistryAt t m := by
  obtain ⟨m, h⟩ := h
  rcases registryAt_step h hs with h | h
  · exact ⟨m, h⟩
  · exact ⟨m + 1, h⟩

/-- The registry of a reachable state is the one after some number of registrations. -/
theorem registryAt_of_run {free : Int32 → Bool} {ls : List Label}
    (he : exec (step cfg) (init cfg free) ls = some s) : ∃ m, RegistryAt s m :=
  invariant (fun _ _ _ h hs => exists_registryAt_step h hs) ⟨0, registryAt_init cfg free⟩ he

/-! ## The registry and the connections -/

/-- An accepted connection whose `run()` has not finished. -/
def Live (s : Server) (c : ℕ) : Prop :=
  c < s.mSocketServerThread.accepted ∧ (s.connections c).pc ≠ .finished

/-- The registry holds exactly the live connections, each under its own name, and every
connection that has finished was reported. -/
structure RegistryExact (s : Server) : Prop where
  keys : ∀ name, name ∈ s.mSocketServerThread.mConnectionMap ↔ name ∈ s.mNetWorkInfos
  stored : ∀ c, Live s c → ∃ name, (s.connections c).mThreadName = some name ∧
    s.mSocketServerThread.mConnectionMap.lookup name = some c
  distinct : ∀ c d, Live s c → Live s d →
    (s.connections c).mThreadName = (s.connections d).mThreadName → c = d
  removed : ∀ c, (s.connections c).pc = .finished → s.isRegistered c = false ∧
    ∀ name, (s.connections c).mThreadName = some name → name ∈ s.mNetWorkInfos →
      ∃ d, d ≠ c ∧ s.mSocketServerThread.mConnectionMap.lookup name = some d
  reported : ∀ c, (s.connections c).pc = .finished → s.reported.count (c, .disconnected) = 1

theorem RegistryAt.accepted_eq {m : ℕ} (h : RegistryAt s m)
    (hpc : s.mSocketServerThread.pc = .accepting) : s.mSocketServerThread.accepted = m := by
  simpa [hpc, AcceptPc.HandlesNth] using h.accepted

theorem RegistryAt.mem_map_iff {m : ℕ} (h : RegistryAt s m) (name : ThreadName) :
    name ∈ s.mSocketServerThread.mConnectionMap ↔ ∃ c < m, name = keyOf c := by
  rw [← AList.lookup_isSome, Option.isSome_iff_exists]
  constructor
  · rintro ⟨c, hc⟩
    obtain ⟨hlt, rfl, -⟩ := (h.map name c).mp hc
    exact ⟨c, hlt, rfl⟩
  · rintro ⟨c, hlt, rfl⟩
    by_cases hc : 4 ≤ c
    · refine ⟨m - 1, (h.map _ _).mpr ⟨by omega, ?_, by omega⟩⟩
      exact keyOf_eq_keyOf.mpr (.inr ⟨hc, by omega⟩)
    · exact ⟨c, (h.map _ _).mpr ⟨hlt, rfl, by omega⟩⟩

theorem RegistryAt.not_reported {m : ℕ} (h : RegistryAt s m) (c : ℕ) :
    s.reported.count (c, .disconnected) = 0 :=
  List.count_eq_zero.mpr fun hmem => h.reported _ hmem rfl

/-- With at most five accepted connections, none of which has ended, the registry is exact. -/
theorem RegistryAt.exact {m : ℕ} (h : RegistryAt s m)
    (hpc : s.mSocketServerThread.pc = .accepting) (hlive : ∀ c, (s.connections c).pc ≠ .finished)
    (hm : s.mSocketServerThread.accepted ≤ 5) : RegistryExact s := by
  have hacc := h.accepted_eq hpc
  have hname : ∀ c, c < m → (s.connections c).mThreadName = some (keyOf c) := fun c hc =>
    (h.mThreadName c _).mpr ⟨by omega, rfl⟩
  constructor
  · intro name
    rw [h.mem_map_iff, h.infos]
    simp [hpc, AcceptPc.noted]
  · intro c hc
    have hlt : c < m := hacc ▸ hc.1
    exact ⟨keyOf c, hname c hlt, (h.map _ _).mpr ⟨hlt, rfl, by omega⟩⟩
  · intro c d hc hd heq
    have hlt : c < m := hacc ▸ hc.1
    have hlt' : d < m := hacc ▸ hd.1
    rw [hname c hlt, hname d hlt', Option.some.injEq, keyOf_eq_keyOf] at heq
    omega
  · intro c hc
    exact absurd hc (hlive c)
  · intro c hc
    exact absurd hc (hlive c)

/-- The fifth live connection is no longer stored once a sixth one has been. -/
theorem RegistryAt.accepted_le {m : ℕ} (h : RegistryAt s m)
    (hpc : s.mSocketServerThread.pc = .accepting) (hlive : ∀ c, (s.connections c).pc ≠ .finished)
    (hexact : RegistryExact s) : s.mSocketServerThread.accepted ≤ 5 := by
  by_contra hgt
  have hacc := h.accepted_eq hpc
  obtain ⟨name, -, hlookup⟩ := hexact.stored 4 ⟨by omega, hlive 4⟩
  have := ((h.map name 4).mp hlookup).2.2 le_rfl
  omega

/-- Whenever the accept thread is back at `accept()`, the registry is exact if and only if
no connection has ended so far and at most five clients have been accepted. -/
theorem registry_exact_iff (cfg : Config) (free : Int32 → Bool) (ls : List Label) (s : Server)
    (he : exec (step cfg) (init cfg free) ls = some s)
    (hpc : s.mSocketServerThread.pc = .accepting) :
    RegistryExact s ↔
      (∀ c, (s.connections c).pc ≠ .finished) ∧ s.mSocketServerThread.accepted ≤ 5 := by
  obtain ⟨m, h⟩ := registryAt_of_run he
  constructor
  · intro hexact
    have hlive : ∀ c, (s.connections c).pc ≠ .finished := by
      intro c hc
      have hcount := hexact.reported c hc
      rw [h.not_reported c] at hcount
      exact absurd hcount (by simp)
    exact ⟨hlive, h.accepted_le hpc hlive hexact⟩
  · rintro ⟨hlive, hm⟩
    exact h.exact hpc hlive hm

/-! ## Runs -/

/-- The accept thread gets to `accept()`. -/
def boot : List Label := [.bind true, .runAccept]

/-- A client is accepted and registered, and the accept thread is back at `accept()`. -/
def register : List Label :=
  [.accept (some (JString.lit "/10.0.0.2")), .runAccept, .runAccept, .runAccept, .runAccept,
    .runAccept]

/-- The worker of a connection gets to its first `readObject()`. -/
def openStreams (c : ℕ) : List Label :=
  [.connection c (.openOutput true), .connection c (.openInput true), .unauthorized c,
    .connection c .clearStop, .connection c .test]

/-- The client goes away. -/
def leave (c : ℕ) : List Label :=
  [.connection c .readFails, .connection c .test, .finish c]

/-- One client connects, and its worker waits for its first object. -/
def oneClient : List Label := boot ++ register ++ openStreams 0

theorem registry_exact_iff_oneClient :
    let s := (exec (step (.connectionImpl none true))
      (init (.connectionImpl none true) fun _ => true) oneClient).get (by decide)
    RegistryExact s ↔
      (∀ c, (s.connections c).pc ≠ .finished) ∧ s.mSocketServerThread.accepted ≤ 5 :=
  registry_exact_iff _ _ oneClient _ (Option.some_get _).symm (by decide)

/-- A client that has gone stays in the maps and is never reported. -/
theorem registry_keeps_finished :
    ¬ ∀ ls s, exec (step (.connectionImpl none true))
        (init (.connectionImpl none true) fun _ => true) ls = some s →
      s.mSocketServerThread.pc = .accepting → RegistryExact s := by
  intro h
  have hexact := h (oneClient ++ leave 0) _ (Option.some_get (by decide)).symm (by decide)
  exact absurd (hexact.reported 0 (by decide)) (by decide)

end Server

end Collaboration
