import Collaboration.Server.Routing

/-! # What a step does to one connection

While every package arrives on a connection that is found under its own name, and no other
connection takes that name before the package is dealt with, a connection goes through its
states once and is changed by its own worker, its own sender, and the application only. -/

namespace Collaboration

open Transition

/-- The name under which the accept thread is about to store a connection. -/
def AcceptPc.stores : AcceptPc → Option ThreadName
  | .storing _ threadName => some threadName
  | _ => none

namespace Server

open ServerConnection

variable {cfg : Config} {s t : Server}

/-- A package is handled only on a connection that is found under its own name, no
connection is stored under a name that a worker carries, and the application sends no
`PASS` of its own. -/
def Registered (s : Server) (l : Label) (_ : Server) : Prop :=
  match l with
  | .read c (.inner pkg) _ => pkg.isHeatbeatPackage = false →
    s.getConnection (s.connections c).mThreadName = some c
  | .runAccept => ∀ name ∈ s.mSocketServerThread.pc.stores,
    ∀ d < s.mSocketServerThread.accepted, (s.connections d).pc.carried ≠ some (some name)
  | .sendDataToTarget data => data.isPass = false
  | _ => True

instance (s : Server) (l : Label) (t : Server) : Decidable (Registered s l t) :=
  match l with
  | .read c (.inner pkg) _ => inferInstanceAs (Decidable (pkg.isHeatbeatPackage = false →
    s.getConnection (s.connections c).mThreadName = some c))
  | .runAccept => inferInstanceAs (Decidable (∀ name ∈ s.mSocketServerThread.pc.stores,
    ∀ d < s.mSocketServerThread.accepted, (s.connections d).pc.carried ≠ some (some name)))
  | .sendDataToTarget data => inferInstanceAs (Decidable (data.isPass = false))
  | .read _ (.string _) _ | .read _ (.object _) _ | .bind _ | .accept _ | .take
  | .connection _ _ | .unauthorized _ | .authorize _ _ _ | .reply _ | .decide _ | .finish _
  | .stop => .isTrue trivial

/-- What holds of such a server between two steps. -/
structure Hosted (s : Server) : Prop where
  absent : ∀ d, s.mSocketServerThread.accepted ≤ d → (s.connections d).pc = .absent
  constructed : ∀ d remoteIp, s.mSocketServerThread.pc = .executing d remoteIp →
    (s.connections d).pc = .constructed
  queued : ∀ d ∈ s.mConnectionThreads.sPoolWorkQueue, (s.connections d).pc = .queued
  nodup : s.mConnectionThreads.sPoolWorkQueue.Nodup
  mStopRuning : s.mSocketServerThread.mStopRuning = false
  mNetWorkInfo : s.mNetWorkInfo.mStatus ≠ .connected
  running : s.mSocketServerThread.pc = .accepting ∨ 0 < s.mSocketServerThread.accepted →
    s.mSocketServerThread.mThreadRunning = true
  carried : ∀ d name, (s.connections d).pc.carried = some name → s.getConnection name = some d

theorem hosted_init (cfg : Config) (free : Int32 → Bool) : Hosted (init cfg free) where
  absent _ _ := rfl
  constructed := by simp [init]
  queued := by simp [init, ConnectionThreads.new]
  nodup := List.nodup_nil
  mStopRuning := rfl
  mNetWorkInfo := cfg.checkPort_ne_connected free
  running := by simp [init]
  carried := by simp [init, ServerConnection.absent, ServerPc.carried]

theorem Hosted.lt_accepted (h : Hosted s) {d : ℕ} (hpc : (s.connections d).pc ≠ .absent) :
    d < s.mSocketServerThread.accepted := by
  by_contra hd
  exact hpc (h.absent d (Nat.le_of_not_lt hd))

/-- A step that stores nothing under a name leaves its entry alone. -/
theorem getConnection_of_step {l : Label} (hs : s.step cfg l = some t)
    {name : Option ThreadName}
    (hname : l = .runAccept → ∀ n ∈ s.mSocketServerThread.pc.stores, name ≠ some n) :
    t.getConnection name = s.getConnection name := by
  cases steps_of_step hs with
  | bind | accept | acceptFails | loops | leaves | setThreadName | onNewConnection | take
  | stop | stopIdle => rfl
  | @execute c remoteIp =>
      exact execute_cases s c remoteIp (fun _ => rfl) (fun _ _ => rfl) fun _ _ => rfl
  | @put c threadName hpc =>
      have hne : name ≠ some threadName := hname rfl threadName (by rw [hpc]; rfl)
      cases name with
      | none => rfl
      | some name => exact AList.lookup_insert_ne fun h => hne (congrArg some h)
  | connection | unauthorized | read | authorize | authorizeThrows | reply | decide | finish
  | sendDataToTarget => rw [getConnection, (step_keepsRegistry hs rfl).thread, getConnection]

/-- A worker goes on finding its own connection under the name that it carries. -/
theorem carried_step (h : Hosted s) {l : Label} (hs : s.step cfg l = some t)
    (hr : Registered s l t) (d : ℕ) (name : Option ThreadName)
    (hd : (t.connections d).pc.carried = some name) : t.getConnection name = some d := by
  rcases carried_of_step hs hd with hd | ⟨pkg, throws, rfl, hbeat, rfl⟩
  · rw [getConnection_of_step hs, h.carried d name hd]
    rintro rfl n hn rfl
    refine hr n hn d (h.lt_accepted ?_) hd
    intro habsent
    simp [habsent, ServerPc.carried] at hd
  · rw [getConnection_of_step hs (by simp), hr hbeat]

/-! ## The effect of a step -/

/-- The states that a step can lead a connection to. -/
inductive Effect (cfg : Config) (s : Server) (d : ℕ) : Label → ServerConnection → Prop
  | same {l : Label} : Effect cfg s d l (s.connections d)
  | accepted {remoteIp : JString} (hd : d = s.mSocketServerThread.accepted)
      (hpc : (s.connections d).pc = .absent) : Effect cfg s d (.accept (some remoteIp)) .new
  | handed {remoteIp : JString} (ha : s.mSocketServerThread.pc = .executing d remoteIp)
      (hpc : (s.connections d).pc = .constructed) :
      Effect cfg s d .runAccept { s.connections d with pc := .opening }
  | queued {remoteIp : JString} (ha : s.mSocketServerThread.pc = .executing d remoteIp)
      (hpc : (s.connections d).pc = .constructed) :
      Effect cfg s d .runAccept { s.connections d with pc := .queued }
  | taken (hqueue : d ∈ s.mConnectionThreads.sPoolWorkQueue.head?)
      (hpc : (s.connections d).pc = .queued) :
      Effect cfg s d .take { s.connections d with pc := .opening }
  | named (name : ThreadName) :
      Effect cfg s d .runAccept { s.connections d with mThreadName := some name }
  | own {l : ServerConnection.Label} {y : ServerConnection}
      (h : (s.connections d).step l = some y) : Effect cfg s d (.connection d l) y
  | announced (hpc : (s.connections d).pc = .announcing) :
      Effect cfg s d (.unauthorized d)
        { s.connections d with mConnectStatus := .unauthorized, pc := .clearing }
  | failed {l : Label} (hpc : (s.connections d).pc = .reading ∨
        ∃ name message, (s.connections d).pc = .authorizing name message) :
      Effect cfg s d l (s.connections d).failReading
  | dropped {data : Data} {throws : Bool} (hpc : (s.connections d).pc = .reading) :
      Effect cfg s d (.read d data throws) { s.connections d with pc := .testing }
  | asked {pkg : InnerPackage} {throws : Bool} (hauth : cfg.mNeedCheckAuthorize = true)
      (hpc : (s.connections d).pc = .reading) :
      Effect cfg s d (.read d (.inner pkg) throws)
        { s.connections d with pc := .authorizing (s.connections d).mThreadName pkg.message }
  | unasked {pkg : InnerPackage} {throws : Bool} (hauth : cfg.mNeedCheckAuthorize = false)
      (hpc : (s.connections d).pc = .reading) :
      Effect cfg s d (.read d (.inner pkg) throws)
        { s.connections d with pc := .deciding (s.connections d).mThreadName true }
  | answered {name : Option ThreadName} {message : Option JString} {authorize : Bool}
      (hpc : (s.connections d).pc = .authorizing name message) :
      Effect cfg s d (.authorize d message (some authorize))
        { s.connections d with pc := .replying name authorize }
  | replied {name : Option ThreadName} {authorize : Bool}
      (hpc : (s.connections d).pc = .replying name authorize) :
      Effect cfg s d (.reply d)
        { (s.connections d).sendDataToTarget (authorizePackage authorize) with
          pc := .deciding name authorize }
  | passed {name : Option ThreadName} (hpc : (s.connections d).pc = .deciding name true) :
      Effect cfg s d (.decide d)
        { s.connections d with
          mConnectStatus := .connected, mStopConnection := false, pc := .testing }
  | refused {name : Option ThreadName} (hpc : (s.connections d).pc = .deciding name false) :
      Effect cfg s d (.decide d) { (s.connections d).stopConnection with pc := .testing }
  | finished (hpc : (s.connections d).pc = .releasing) :
      Effect cfg s d (.finish d) { (s.connections d).releaseServerSocket with pc := .finished }
  | offered {data : Data} :
      Effect cfg s d (.sendDataToTarget data) ((s.connections d).sendDataToTarget data)

theorem effect_setConnection {l : Label} {c : ℕ} {x : ServerConnection}
    (h : Effect cfg s c l x) : ∀ d, Effect cfg s d l ((s.setConnection c x).connections d) :=
  (Function.forall_update_iff s.connections fun d => Effect cfg s d l).mpr
    ⟨h, fun _ _ => .same⟩

theorem effect_onNewDataReceived {c : ℕ} (hpc : (s.connections c).pc = .reading) (data : Data)
    (throws : Bool) (d : ℕ) :
    Effect cfg s d (.read c data throws)
      ((s.onNewDataReceived cfg c data throws).connections d) := by
  refine onNewDataReceived_cases cfg s c data throws ?_ ?_ ?_ ?_ ?_
  · exact fun _ _ => effect_setConnection (.failed (.inl hpc)) d
  · exact fun _ _ => effect_setConnection (.dropped hpc) d
  · exact fun _ => effect_setConnection (.dropped hpc) d
  · rintro pkg rfl _ hauth
    exact effect_setConnection (.asked hauth hpc) d
  · rintro pkg rfl _ hauth
    exact effect_setConnection (.unasked hauth hpc) d

theorem effect_reply (h : Hosted s) {c : ℕ} {name : Option ThreadName} {authorize : Bool}
    (hpc : (s.connections c).pc = .replying name authorize) (d : ℕ) :
    Effect cfg s d (.reply c)
      (((s.sendDataToTargetInner name (authorizePackage authorize)).setPc c
        (.deciding name authorize)).connections d) := by
  have hget : s.getConnection name = some c := h.carried c name (by rw [hpc]; rfl)
  have haddr : s.addressees name = [c] := by
    cases name with
    | none => simp [getConnection] at hget
    | some name => simp [addressees, hget]
  have hrun : s.mSocketServerThread.mThreadRunning = true := by
    have hlt := h.lt_accepted (d := c) (by simp [hpc])
    exact h.running (.inr (Nat.zero_lt_of_lt hlt))
  by_cases hd : d = c
  · subst hd
    rw [setPc_connections_self, sendDataToTargetInner_connections, haddr]
    simpa [hrun] using Effect.replied hpc
  · rw [setPc_connections_of_ne _ hd, sendDataToTargetInner_connections, haddr]
    simpa [hd] using Effect.same

theorem effect_decide (h : Hosted s) {c : ℕ} {name : Option ThreadName} {authorize : Bool}
    (hpc : (s.connections c).pc = .deciding name authorize) (d : ℕ) :
    Effect cfg s d (.decide c)
      (((s.decide cfg name authorize).setPc c .testing).connections d) := by
  have hget : s.getConnection name = some c := h.carried c name (by rw [hpc]; rfl)
  unfold Server.decide
  simp only [hget]
  by_cases hd : d = c
  · subst hd
    rw [setPc_connections_self]
    cases authorize with
    | true => simpa [setAutorizeCheckPass_connections] using Effect.passed hpc
    | false => simpa using Effect.refused hpc
  · rw [setPc_connections_of_ne _ hd]
    cases authorize with
    | true => simpa [setAutorizeCheckPass_connections, hd] using Effect.same
    | false => simpa [hd] using Effect.same

theorem effect_execute (h : Hosted s) {c : ℕ} {remoteIp : JString}
    (hpc : s.mSocketServerThread.pc = .executing c remoteIp) (d : ℕ) :
    Effect cfg s d .runAccept ((s.execute c remoteIp).connections d) := by
  have hconstructed := h.constructed c remoteIp hpc
  refine execute_cases s c remoteIp ?_ ?_ ?_
  · exact fun _ => effect_setConnection (.handed hpc hconstructed) d
  · exact fun _ _ => effect_setConnection (.queued hpc hconstructed) d
  · exact fun _ _ => .same

/-- Every step changes a connection in one of these ways. -/
theorem effect_of_step (h : Hosted s) {l : Label} (hs : s.step cfg l = some t) (d : ℕ) :
    Effect cfg s d l (t.connections d) := by
  cases steps_of_step hs with
  | bind | acceptFails | loops | leaves | onNewConnection | put | stop | stopIdle => exact .same
  | accept => exact effect_setConnection (.accepted rfl (h.absent _ le_rfl)) d
  | execute hpc => exact effect_execute h hpc d
  | setThreadName => exact effect_setConnection (.named _) d
  | @take c rest hqueue =>
      have hpc := h.queued c (by simp [hqueue])
      exact effect_setConnection (.taken (by simp [hqueue]) hpc) d
  | connection hx => exact effect_setConnection (.own hx) d
  | @unauthorized c hpc =>
      by_cases hd : d = c
      · subst hd
        simpa using Effect.announced hpc
      · simpa [hd] using Effect.same
  | read hpc => exact effect_onNewDataReceived hpc _ _ d
  | authorize hpc => exact effect_setConnection (.answered hpc) d
  | authorizeThrows hpc => exact effect_setConnection (.failed (.inr ⟨_, _, hpc⟩)) d
  | reply hpc => exact effect_reply h hpc d
  | decide hpc => exact effect_decide h hpc d
  | finish hpc => exact effect_setConnection (.finished hpc) d
  | sendDataToTarget =>
      unfold Server.sendDataToTarget
      split
      · simp only [broadcast]
        split
        · exact .offered
        · exact .same
      · exact .same

/-! ## The server between two steps -/

/-- Before a worker runs the connection, only the accept thread and the pool move it on. -/
def waits : ServerPc → Bool
  | .absent | .constructed | .queued => true
  | _ => false

theorem pc_of_waits {c y : ServerConnection} {l : ServerConnection.Label} (h : c.step l = some y)
    (hw : waits c.pc = true) : y.pc = c.pc := by
  cases ServerConnection.steps_of_step h with
  | heartbeat | send => rfl
  | openOutput hpc | openOutputFails hpc | openInput hpc | openInputFails hpc | clearStop hpc
  | loops hpc | leaves hpc | readFails hpc => simp [hpc, waits] at hw

theorem Effect.pc_of_waits {d : ℕ} {l : Label} {y : ServerConnection} (h : Effect cfg s d l y)
    (hw : waits (s.connections d).pc = true) :
    y.pc = (s.connections d).pc ∨
      (∃ remoteIp, l = .accept (some remoteIp) ∧ d = s.mSocketServerThread.accepted) ∨
      (l = .runAccept ∧ ∃ remoteIp, s.mSocketServerThread.pc = .executing d remoteIp) ∨
      l = .take ∧ d ∈ s.mConnectionThreads.sPoolWorkQueue.head? := by
  cases h with
  | same | named => exact .inl rfl
  | accepted hd => exact .inr (.inl ⟨_, rfl, hd⟩)
  | handed ha | queued ha => exact .inr (.inr (.inl ⟨rfl, _, ha⟩))
  | taken hqueue => exact .inr (.inr (.inr ⟨rfl, hqueue⟩))
  | own h => exact .inl (Server.pc_of_waits h hw)
  | failed hpc =>
      rcases hpc with hpc | ⟨name, message, hpc⟩
      · simp [hpc, waits] at hw
      · simp [hpc, waits] at hw
  | announced hpc | dropped hpc | asked _ hpc | unasked _ hpc | answered hpc | replied hpc
  | passed hpc | refused hpc | finished hpc => simp [hpc, waits] at hw
  | offered =>
      obtain ⟨sender, heq⟩ := (s.connections d).sendDataToTarget_eq _
      rw [heq]
      exact .inl rfl

/-- A step of no accept thread keeps what holds of the server. -/
theorem Hosted.keeps (h : Hosted s) {l : Label} (hk : KeepsRegistry s t)
    (hl : l.ofAcceptThread = false) (he : ∀ d, Effect cfg s d l (t.connections d))
    (hcarried : ∀ d name, (t.connections d).pc.carried = some name →
      t.getConnection name = some d) : Hosted t := by
  have hpc : ∀ {d pc}, (s.connections d).pc = pc → waits pc = true →
      (t.connections d).pc = pc := by
    rintro d _ rfl hw
    rcases (he d).pc_of_waits hw with heq | ⟨remoteIp, rfl, -⟩ | ⟨rfl, -⟩ | ⟨rfl, -⟩
    · exact heq
    all_goals simp [Label.ofAcceptThread] at hl
  constructor
  · intro d hd
    rw [hk.thread] at hd
    exact hpc (h.absent d hd) rfl
  · intro d remoteIp hd
    rw [hk.thread] at hd
    exact hpc (h.constructed d remoteIp hd) rfl
  · intro d hd
    rw [hk.queue] at hd
    exact hpc (h.queued d hd) rfl
  · rw [hk.queue]
    exact h.nodup
  · rw [hk.thread]
    exact h.mStopRuning
  · rw [hk.netWorkInfo]
    exact h.mNetWorkInfo
  · rw [hk.thread]
    exact h.running
  · exact hcarried

/-- So does a step of the accept thread that hands no connection over. -/
theorem Hosted.moved (h : Hosted s) {pc : AcceptPc} {map : AList fun _ : ThreadName => ℕ}
    (hq : t.mConnectionThreads = s.mConnectionThreads)
    (hc : ∀ d, (t.connections d).pc = (s.connections d).pc)
    (hthread : t.mSocketServerThread =
      { s.mSocketServerThread with pc := pc, mConnectionMap := map })
    (hpc : ∀ d remoteIp, pc ≠ .executing d remoteIp) (hne : pc ≠ .accepting)
    (hinfo : t.mNetWorkInfo = s.mNetWorkInfo)
    (hcarried : ∀ d name, (t.connections d).pc.carried = some name →
      t.getConnection name = some d) : Hosted t where
  absent d hd := by
    rw [hthread] at hd
    rw [hc, h.absent d hd]
  constructed d remoteIp hd := by
    rw [hthread] at hd
    exact absurd hd (hpc d remoteIp)
  queued d hd := by
    rw [hq] at hd
    rw [hc, h.queued d hd]
  nodup := by
    rw [hq]
    exact h.nodup
  mStopRuning := by
    rw [hthread]
    exact h.mStopRuning
  mNetWorkInfo := by
    rw [hinfo]
    exact h.mNetWorkInfo
  running := by
    rw [hthread]
    rintro (hd | hd)
    · exact absurd hd hne
    · exact h.running (.inr hd)
  carried := hcarried

theorem Hosted.accept (h : Hosted s) (remoteIp : JString)
    (hpc : s.mSocketServerThread.pc = .accepting)
    (hcarried : ∀ d name, ((s.accept remoteIp).connections d).pc.carried = some name →
      (s.accept remoteIp).getConnection name = some d) : Hosted (s.accept remoteIp) where
  absent d hd := by
    have hne : d ≠ s.mSocketServerThread.accepted := by
      rintro rfl
      exact Nat.not_succ_le_self _ hd
    have hle : s.mSocketServerThread.accepted ≤ d := Nat.le_of_succ_le hd
    simpa [Server.accept, hne] using h.absent d hle
  constructed d remoteIp' hd := by
    obtain ⟨rfl, -⟩ : s.mSocketServerThread.accepted = d ∧ remoteIp = remoteIp' := by
      simpa [Server.accept] using hd
    simp [Server.accept, ServerConnection.new]
  queued d hd := by
    have hqueued := h.queued d hd
    have hne : d ≠ s.mSocketServerThread.accepted :=
      Nat.ne_of_lt (h.lt_accepted (by simp [hqueued]))
    simpa [Server.accept, hne] using hqueued
  nodup := h.nodup
  mStopRuning := h.mStopRuning
  mNetWorkInfo := h.mNetWorkInfo
  running _ := h.running (.inl hpc)
  carried := hcarried

/-- The pool gives the connection to a worker, puts it into its queue, or rejects it. -/
theorem Hosted.execute (h : Hosted s) {c : ℕ} {remoteIp : JString}
    (hpc : s.mSocketServerThread.pc = .executing c remoteIp)
    (hcarried : ∀ d name, ((s.execute c remoteIp).connections d).pc.carried = some name →
      (s.execute c remoteIp).getConnection name = some d) : Hosted (s.execute c remoteIp) := by
  have hconstructed := h.constructed c remoteIp hpc
  have hlt := h.lt_accepted (d := c) (by simp [hconstructed])
  have habsent : ∀ d, s.mSocketServerThread.accepted ≤ d → ∀ pc,
      ((s.setPc c pc).connections d).pc = .absent := by
    intro d hd pc
    have hne : d ≠ c := Nat.ne_of_gt (Nat.lt_of_lt_of_le hlt hd)
    simpa [hne] using h.absent d hd
  have hnot : c ∉ s.mConnectionThreads.sPoolWorkQueue := by
    intro hc
    simp [h.queued c hc] at hconstructed
  have hqueued : ∀ d ∈ s.mConnectionThreads.sPoolWorkQueue, ∀ pc,
      ((s.setPc c pc).connections d).pc = .queued := by
    intro d hd pc
    have hne : d ≠ c := fun hdc => hnot (hdc ▸ hd)
    simpa [hne] using h.queued d hd
  revert hcarried
  refine execute_cases s c remoteIp ?_ ?_ ?_
  · intro _ hcarried
    exact ⟨fun d hd => habsent d hd _, by simp [Server.setAcceptPc], fun d hd => hqueued d hd _,
      h.nodup, h.mStopRuning, h.mNetWorkInfo,
      fun _ => h.running (.inr (Nat.zero_lt_of_lt hlt)), hcarried⟩
  · intro _ _ hcarried
    refine ⟨fun d hd => habsent d hd _, by simp [Server.setAcceptPc], ?_, ?_,
      h.mStopRuning, h.mNetWorkInfo, fun _ => h.running (.inr (Nat.zero_lt_of_lt hlt)), hcarried⟩
    · intro d hd
      rcases List.mem_append.mp hd with hd | hd
      · exact hqueued d hd _
      · obtain rfl := List.mem_singleton.mp hd
        simp
    · simpa only [List.concat_eq_append] using h.nodup.concat hnot
  · intro _ _ hcarried
    exact h.moved rfl (fun _ => rfl) rfl (by simp) (by simp) rfl hcarried

theorem Hosted.take (h : Hosted s) {c : ℕ} {rest : List ℕ}
    (hqueue : s.mConnectionThreads.sPoolWorkQueue = c :: rest)
    (hc : ∀ d, d ≠ c → t.connections d = s.connections d)
    (hq : t.mConnectionThreads.sPoolWorkQueue = rest)
    (hthread : t.mSocketServerThread = s.mSocketServerThread)
    (hinfo : t.mNetWorkInfo = s.mNetWorkInfo)
    (hcarried : ∀ d name, (t.connections d).pc.carried = some name →
      t.getConnection name = some d) : Hosted t := by
  have hqueued : (s.connections c).pc = .queued := h.queued c (by simp [hqueue])
  have hnodup := h.nodup
  rw [hqueue, List.nodup_cons] at hnodup
  constructor
  · intro d hd
    rw [hthread] at hd
    have habsent := h.absent d hd
    have hne : d ≠ c := by
      rintro rfl
      simp [hqueued] at habsent
    rw [hc d hne, habsent]
  · intro d remoteIp hd
    rw [hthread] at hd
    have hconstructed := h.constructed d remoteIp hd
    have hne : d ≠ c := by
      rintro rfl
      simp [hqueued] at hconstructed
    rw [hc d hne, hconstructed]
  · intro d hd
    rw [hq] at hd
    have hne : d ≠ c := fun hdc => hnodup.1 (hdc ▸ hd)
    rw [hc d hne]
    exact h.queued d (by simp [hqueue, hd])
  · rw [hq]
    exact hnodup.2
  · rw [hthread]
    exact h.mStopRuning
  · rw [hinfo]
    exact h.mNetWorkInfo
  · rw [hthread]
    exact h.running
  · exact hcarried

theorem hosted_step (h : Hosted s) {l : Label} (hs : s.step cfg l = some t)
    (hr : Registered s l t) : Hosted t := by
  have heffect : ∀ d, Effect cfg s d l (t.connections d) := effect_of_step h hs
  have hcarried := carried_step h hs hr
  cases steps_of_step hs with
  | @bind ok =>
      refine h.moved rfl (fun _ => rfl) rfl ?_ ?_ rfl hcarried
      all_goals cases ok <;> simp
  | accept hpc => exact h.accept _ hpc hcarried
  | acceptFails | onNewConnection | put =>
      exact h.moved rfl (fun _ => rfl) rfl (by simp) (by simp) rfl hcarried
  | loops =>
      exact ⟨h.absent, by simp, h.queued, h.nodup, h.mStopRuning, h.mNetWorkInfo, fun _ => rfl,
        hcarried⟩
  | leaves _ hstop => simp [h.mStopRuning] at hstop
  | execute hpc => exact h.execute hpc hcarried
  | @setThreadName c =>
      refine h.moved rfl ?_ rfl (by simp) (by simp) rfl hcarried
      intro d
      by_cases hd : d = c
      · subst hd
        simp [Server.setThreadName]
      · simp [Server.setThreadName, hd]
  | take hqueue =>
      exact h.take hqueue (fun d hd => setPc_connections_of_ne s hd _) rfl rfl rfl hcarried
  | stop hstatus => exact absurd hstatus h.mNetWorkInfo
  | stopIdle => exact h
  | _ => exact h.keeps (step_keepsRegistry hs rfl) rfl heffect hcarried

/-! ## Invariants of every connection -/

/-- What holds of every connection and of its server between two steps. -/
theorem hosted_of_run {free : Int32 → Bool} {I : List Label → ℕ → ServerConnection → Prop}
    (hI : ∀ past s l t d, I past d (s.connections d) → step cfg s l = some t →
      Registered s l t → Effect cfg s d l (t.connections d) → I (past ++ [l]) d (t.connections d))
    (h0 : ∀ d, I [] d .absent) {ls : List Label}
    (hr : Along (step cfg) Registered (init cfg free) ls)
    (he : exec (step cfg) (init cfg free) ls = some s) (d : ℕ) : I ls d (s.connections d) := by
  have hinv : Hosted s ∧ ∀ d, I ([] ++ ls) d (s.connections d) := by
    refine history_along (P := Registered) (I := fun past s =>
      Hosted s ∧ ∀ d, I past d (s.connections d)) ?_ ⟨hosted_init cfg free, h0⟩ hr he
    rintro past s l t ⟨hh, hi⟩ hs hr
    refine ⟨hosted_step hh hs hr, fun d => ?_⟩
    exact hI past s l t d (hi d) hs hr (effect_of_step hh hs d)
  exact hinv.2 d

/-- What the effects do under an invariant of theirs, they do at every step of the run. -/
theorem along_of_effects {free : Int32 → Bool} {I : ServerConnection → Prop}
    {Q : ServerConnection → ServerConnection → Prop}
    (hI : ∀ s l t d, I (s.connections d) → Registered s l t →
      Effect cfg s d l (t.connections d) → I (t.connections d))
    (hQ : ∀ s l y d, I (s.connections d) → Effect cfg s d l y → Q (s.connections d) y)
    (h0 : I .absent) {ls : List Label}
    (hr : Along (step cfg) Registered (init cfg free) ls) (d : ℕ) :
    Along (step cfg) (fun s _ t => Q (s.connections d) (t.connections d)) (init cfg free) ls := by
  refine Along.imp_of_invariant (P := Registered) (I := fun s =>
    Hosted s ∧ ∀ d, I (s.connections d)) ?_ ?_ ⟨hosted_init cfg free, fun _ => h0⟩ hr
  · rintro s l t ⟨hh, hi⟩ hs hr
    exact ⟨hosted_step hh hs hr, fun d => hI s l t d (hi d) hr (effect_of_step hh hs d)⟩
  · rintro s l t ⟨hh, hi⟩ hs hr
    exact hQ s l _ d (hi d) (effect_of_step hh hs d)

end Server

end Collaboration
