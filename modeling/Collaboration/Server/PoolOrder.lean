import Collaboration.Server.Connection
import Mathlib.Data.Finset.Card
import Mathlib.Data.Finset.Range

/-! # The order in which the pool serves the connections

Connections are started one after the other in the order in which they were accepted, at most five
of them run at a time, and one that waits is started as soon as as many others have been taken out
of the queue as there were before it. -/

namespace Collaboration

open Transition

/-- A worker is running the connection. -/
def ServerPc.isRunning : ServerPc → Bool
  | .absent | .constructed | .queued | .finished => false
  | _ => true

/-- With this many connections handed to the pool and not rejected, the accept thread may be about
to hand over the next one. -/
def AcceptPc.HandsOver (handed accepted : ℕ) : AcceptPc → Prop
  | .executing c _ => c = handed ∧ accepted = handed + 1
  | .ended => handed ≤ accepted
  | _ => accepted = handed

namespace Server

variable {cfg : Config} {s t : Server} {free : Int32 → Bool} {ls : List Label}

/-- A worker has begun to run the connection. -/
def Started (s : Server) (c : ℕ) : Prop := waits (s.connections c).pc = false

instance (s : Server) : DecidablePred (Started s) := fun c =>
  inferInstanceAs (Decidable (waits (s.connections c).pc = false))

/-- Of the first connections, those that run. -/
def runningBelow (s : Server) (first : ℕ) : Finset ℕ :=
  (Finset.range first).filter fun c => (s.connections c).pc.isRunning = true

theorem mem_runningBelow {first c : ℕ} :
    c ∈ s.runningBelow first ↔ c < first ∧ (s.connections c).pc.isRunning = true := by
  simp only [runningBelow, Finset.mem_filter, Finset.mem_range]

/-! ## Where a step takes a connection -/

/-- What a step may do to the place of a connection. -/
inductive PcMove (s : Server) (d : ℕ) : Label → ServerPc → Prop
  | same {l : Label} : PcMove s d l (s.connections d).pc
  | works {l : Label} {pc : ServerPc} (h : (s.connections d).pc.isRunning = true)
      (hpc : pc.isRunning = true) : PcMove s d l pc
  | finishes (h : (s.connections d).pc.isRunning = true) : PcMove s d (.finish d) .finished
  | accepted {remoteIp : JString} (hd : d = s.mSocketServerThread.accepted) :
      PcMove s d (.accept (some remoteIp)) .constructed
  | handed {remoteIp : JString} (ha : s.mSocketServerThread.pc = .executing d remoteIp)
      (hworkers : s.mConnectionThreads.workers < ConnectionThreads.MAX_THREAD_SIZE) :
      PcMove s d .runAccept .opening
  | queued {remoteIp : JString} (ha : s.mSocketServerThread.pc = .executing d remoteIp)
      (hworkers : ¬s.mConnectionThreads.workers < ConnectionThreads.MAX_THREAD_SIZE)
      (hroom : s.mConnectionThreads.sPoolWorkQueue.length < ConnectionThreads.QUEUE_SIZE) :
      PcMove s d .runAccept .queued
  | taken (hqueue : s.mConnectionThreads.sPoolWorkQueue.head? = some d) :
      PcMove s d .take .opening

theorem pcMove_setConnection {l : Label} {c : ℕ} {x : ServerConnection} (h : PcMove s c l x.pc) :
    ∀ d, PcMove s d l ((s.setConnection c x).connections d).pc :=
  (Function.forall_update_iff s.connections fun d y => PcMove s d l y.pc).mpr
    ⟨h, fun _ _ => .same⟩

theorem pc_own {c d : ServerConnection} {l : ServerConnection.Label} (h : c.step l = some d) :
    d.pc = c.pc ∨ c.pc.isRunning = true ∧ d.pc.isRunning = true := by
  cases ServerConnection.steps_of_step h with
  | heartbeat | send => exact .inl rfl
  | openOutput hpc | openOutputFails hpc | openInput hpc | openInputFails hpc | clearStop hpc
  | loops hpc | leaves hpc | readFails hpc => exact .inr ⟨by rw [hpc]; rfl, rfl⟩

theorem sendDataToTarget_pc (c : ServerConnection) (d : Data) :
    (c.sendDataToTarget d).pc = c.pc := by
  obtain ⟨sender, heq⟩ := c.sendDataToTarget_eq d
  rw [heq]

/-- An operation on other fields, then a move of the worker's own connection. -/
theorem pcMove_setPc {u : Server} {l : Label} {c : ℕ} {pc : ServerPc}
    (hu : ∀ d, (u.connections d).pc = (s.connections d).pc) (h : PcMove s c l pc) (d : ℕ) :
    PcMove s d l ((u.setPc c pc).connections d).pc := by
  by_cases hd : d = c
  · subst hd
    simpa using h
  · rw [setPc_connections_of_ne u hd, hu]
    exact .same

theorem decide_pc (cfg : Config) (s : Server) (name : Option ThreadName) (authorize : Bool)
    (d : ℕ) : ((s.decide cfg name authorize).connections d).pc = (s.connections d).pc := by
  refine decide_cases cfg s name authorize ?_ ?_ ?_
  · exact fun _ => rfl
  · intro target _ _
    rw [setAutorizeCheckPass_connections]
    by_cases hd : d = target
    · subst hd
      simp
    · simp [hd]
  · intro target _ _
    by_cases hd : d = target
    · subst hd
      simp [ServerConnection.stopConnection]
    · simp [hd]

theorem pcMove_onNewDataReceived {c : ℕ} (hpc : (s.connections c).pc = .reading) (data : Data)
    (throws : Bool) (d : ℕ) :
    PcMove s d (.read c data throws)
      ((s.onNewDataReceived cfg c data throws).connections d).pc := by
  have hrun : (s.connections c).pc.isRunning = true := by rw [hpc]; rfl
  refine onNewDataReceived_cases cfg s c data throws ?_ ?_ ?_ ?_ ?_
  · exact fun _ _ => pcMove_setConnection (.works hrun rfl) d
  · exact fun _ _ => pcMove_setConnection (x := { s.connections c with pc := .testing })
      (.works hrun rfl) d
  · exact fun _ => pcMove_setPc (fun _ => rfl) (.works hrun rfl) d
  · exact fun _ _ _ _ => pcMove_setPc (fun _ => rfl) (.works hrun rfl) d
  · exact fun _ _ _ _ => pcMove_setPc (fun _ => rfl) (.works hrun rfl) d

theorem pcMove_execute {c : ℕ} {remoteIp : JString}
    (hpc : s.mSocketServerThread.pc = .executing c remoteIp) (d : ℕ) :
    PcMove s d .runAccept ((s.execute c remoteIp).connections d).pc := by
  refine execute_cases s c remoteIp ?_ ?_ ?_
  · exact fun hworkers => pcMove_setPc (fun _ => rfl) (.handed hpc hworkers) d
  · exact fun hworkers hroom => pcMove_setPc (fun _ => rfl) (.queued hpc hworkers hroom) d
  · exact fun _ _ => .same

theorem pcMove_of_step {l : Label} (hs : s.step cfg l = some t) (d : ℕ) :
    PcMove s d l (t.connections d).pc := by
  cases steps_of_step hs with
  | bind | acceptFails | loops | leaves | onNewConnection | put | stop | stopIdle => exact .same
  | accept => exact pcMove_setConnection (.accepted rfl) d
  | execute hpc => exact pcMove_execute hpc d
  | @setThreadName c =>
      exact pcMove_setConnection (c := c) (x := { s.connections c with
        mThreadName := some (.connection (s.mConnectionThreads.mCount - 1)) }) .same d
  | @take c rest hqueue =>
      exact pcMove_setPc (fun _ => rfl) (.taken (by rw [hqueue]; rfl)) d
  | @connection c l x hx =>
      refine pcMove_setConnection ?_ d
      rcases pc_own hx with heq | ⟨hrun, hruns⟩
      · exact heq ▸ .same
      · exact .works hrun hruns
  | @unauthorized c hpc =>
      have hrun : (s.connections c).pc.isRunning = true := by rw [hpc]; rfl
      refine pcMove_setPc (fun d => ?_) (.works hrun rfl) d
      rw [changeConnectStatus_connections]
      by_cases hd : d = c
      · subst hd
        simp
      · simp [hd]
  | read hpc => exact pcMove_onNewDataReceived hpc _ _ d
  | @authorize c name message authorize hpc =>
      exact pcMove_setPc (fun _ => rfl) (.works (by rw [hpc]; rfl) rfl) d
  | @authorizeThrows c name message hpc =>
      exact pcMove_setConnection (.works (by rw [hpc]; rfl) rfl) d
  | @reply c name authorize hpc =>
      refine pcMove_setPc (fun d => ?_) (.works (by rw [hpc]; rfl) rfl) d
      rw [sendDataToTargetInner_connections]
      split
      · exact sendDataToTarget_pc _ _
      · rfl
  | @decide c name authorize hpc =>
      exact pcMove_setPc (decide_pc cfg s name authorize) (.works (by rw [hpc]; rfl) rfl) d
  | @finish c hpc =>
      exact pcMove_setConnection (x := { (s.connections c).releaseServerSocket with
        pc := .finished }) (.finishes (by rw [hpc]; rfl)) d
  | @sendDataToTarget data =>
      unfold Server.sendDataToTarget
      split
      · simp only [broadcast]
        split
        · exact (sendDataToTarget_pc (s.connections d) data).symm ▸ .same
        · exact .same
      · exact .same

/-! ## The pool between two steps -/

/-- The first connections have been started, the next ones wait in the queue in their order, and
the workers are those that run a connection, at most five; a connection waits only if all five
workers are there. -/
structure PoolAt (s : Server) (first : ℕ) : Prop where
  handsOver : s.mSocketServerThread.pc.HandsOver
    (first + s.mConnectionThreads.sPoolWorkQueue.length) s.mSocketServerThread.accepted
  started : ∀ c, Started s c ↔ c < first
  queue : s.mConnectionThreads.sPoolWorkQueue =
    List.range' first s.mConnectionThreads.sPoolWorkQueue.length
  busy : s.mConnectionThreads.busy = (s.runningBelow first).card
  busy_le : s.mConnectionThreads.busy ≤ s.mConnectionThreads.workers
  workers_le : s.mConnectionThreads.workers ≤ ConnectionThreads.MAX_THREAD_SIZE
  full : s.mConnectionThreads.sPoolWorkQueue ≠ [] →
    s.mConnectionThreads.workers = ConnectionThreads.MAX_THREAD_SIZE
  room : s.mConnectionThreads.sPoolWorkQueue.length ≤ ConnectionThreads.QUEUE_SIZE

theorem poolAt_init (cfg : Config) (free : Int32 → Bool) : PoolAt (init cfg free) 0 where
  handsOver := rfl
  started c := by simp [Started, init, ServerConnection.absent, waits]
  queue := rfl
  busy := rfl
  busy_le := le_rfl
  workers_le := Nat.zero_le _
  full h := absurd rfl h
  room := Nat.zero_le _

theorem waits_of_isRunning {pc : ServerPc} (h : pc.isRunning = true) : waits pc = false := by
  cases pc <;> simp_all [waits, ServerPc.isRunning]

/-- The connections do their work, or move between places where they have not been started. -/
theorem PoolAt.same {first : ℕ} (h : PoolAt s first)
    (hpool : t.mConnectionThreads = s.mConnectionThreads)
    (hhands : t.mSocketServerThread.pc.HandsOver
      (first + s.mConnectionThreads.sPoolWorkQueue.length) t.mSocketServerThread.accepted)
    (hpc : ∀ d, waits (t.connections d).pc = waits (s.connections d).pc ∧
      (t.connections d).pc.isRunning = (s.connections d).pc.isRunning) : PoolAt t first := by
  have hrunning : t.runningBelow first = s.runningBelow first := by
    simp only [runningBelow, hpc]
  refine ⟨hpool ▸ hhands, fun c => ?_, hpool ▸ h.queue, ?_, hpool ▸ h.busy_le,
    hpool ▸ h.workers_le, hpool ▸ h.full, hpool ▸ h.room⟩
  · rw [Started, (hpc c).1]
    exact h.started c
  · rw [hpool, hrunning]
    exact h.busy

/-- A connection that was not started runs from now on. -/
theorem runningBelow_start {first : ℕ}
    (hpc : ∀ d, (t.connections d).pc = if d = first then .opening else (s.connections d).pc) :
    (t.runningBelow (first + 1)).card = (s.runningBelow first).card + 1 := by
  have hinsert : t.runningBelow (first + 1) = insert first (s.runningBelow first) := by
    ext d
    simp only [mem_runningBelow, Finset.mem_insert, hpc]
    by_cases hd : d = first
    · simp [hd, ServerPc.isRunning]
    · simp only [hd, if_false, false_or]
      have hlt : d < first + 1 ↔ d < first := by omega
      rw [hlt]
  rw [hinsert, Finset.card_insert_of_notMem (by simp [mem_runningBelow])]

theorem started_start {first : ℕ} (h : PoolAt s first)
    (hpc : ∀ d, (t.connections d).pc = if d = first then .opening else (s.connections d).pc)
    (c : ℕ) : Started t c ↔ c < first + 1 := by
  by_cases hc : c = first
  · simp [Started, hpc, hc, waits]
  · have hsame : Started t c ↔ Started s c := by simp [Started, hpc, hc]
    rw [hsame, h.started]
    omega

theorem PoolAt.execute {first c : ℕ} {remoteIp : JString} (h : PoolAt s first)
    (hpc : s.mSocketServerThread.pc = .executing c remoteIp) :
    PoolAt (s.execute c remoteIp) first ∨ PoolAt (s.execute c remoteIp) (first + 1) ∧
      s.mConnectionThreads.workers < ConnectionThreads.MAX_THREAD_SIZE := by
  obtain ⟨hc, haccepted⟩ : c = first + s.mConnectionThreads.sPoolWorkQueue.length ∧
      s.mSocketServerThread.accepted =
        first + s.mConnectionThreads.sPoolWorkQueue.length + 1 := by
    have hhands := h.handsOver
    rw [hpc] at hhands
    exact hhands
  refine execute_cases s c remoteIp ?_ ?_ ?_
  · intro hworkers
    have hempty : s.mConnectionThreads.sPoolWorkQueue = [] := by
      by_contra hne
      exact absurd (h.full hne) (Nat.ne_of_lt hworkers)
    simp only [hempty, List.length_nil, Nat.add_zero] at hc haccepted
    subst hc
    have hmoved : ∀ d, ((s.setPc c .opening).connections d).pc =
        if d = c then .opening else (s.connections d).pc := by
      intro d
      by_cases hd : d = c
      · subst hd
        simp
      · simp [hd]
    refine .inr ⟨⟨?_, started_start h hmoved, ?_, ?_, Nat.succ_le_succ h.busy_le, hworkers,
      ?_, h.room⟩, hworkers⟩
    · simpa [hempty, AcceptPc.HandsOver, setAcceptPc, setPc, setConnection] using haccepted
    · simp [hempty]
    · exact (congrArg (· + 1) h.busy).trans (runningBelow_start hmoved).symm
    · exact fun hne => absurd hempty hne
  · intro hworkers hroom
    refine .inl ⟨?_, fun d => ?_, ?_, ?_, h.busy_le, h.workers_le, ?_, ?_⟩
    · simpa [AcceptPc.HandsOver, setAcceptPc, setPc, setConnection, Nat.add_assoc] using haccepted
    · by_cases hd : d = c
      · subst hd
        simp [Started, waits, hc]
      · simpa [Started, hd] using h.started d
    · simp only [List.length_append, List.length_singleton]
      rw [List.range'_concat, ← h.queue, hc, Nat.one_mul]
    · have hrunning : ((s.setPc c .queued).runningBelow first) = s.runningBelow first := by
        refine Finset.filter_congr fun d hd => ?_
        have hne : d ≠ c := by
          have hlt := Finset.mem_range.mp hd
          omega
        rw [setPc_connections_of_ne s hne]
      exact h.busy.trans (congrArg Finset.card hrunning.symm)
    · exact fun _ => Nat.le_antisymm h.workers_le (Nat.le_of_not_lt hworkers)
    · simpa using Nat.succ_le_of_lt hroom
  · intro _ _
    refine .inl (h.same rfl ?_ fun _ => ⟨rfl, rfl⟩)
    simp only [setAcceptPc, AcceptPc.HandsOver]
    omega

theorem PoolAt.accept {first : ℕ} (h : PoolAt s first)
    (hpc : s.mSocketServerThread.pc = .accepting) (remoteIp : JString) :
    PoolAt (s.accept remoteIp) first := by
  have haccepted : s.mSocketServerThread.accepted =
      first + s.mConnectionThreads.sPoolWorkQueue.length := by
    have hhands := h.handsOver
    rw [hpc] at hhands
    exact hhands
  have hwaits : ¬Started s s.mSocketServerThread.accepted := by
    rw [h.started]
    omega
  refine h.same rfl ⟨haccepted, congrArg (· + 1) haccepted⟩ ?_
  refine (Function.forall_update_iff s.connections fun d y =>
    waits y.pc = waits (s.connections d).pc ∧
      y.pc.isRunning = (s.connections d).pc.isRunning).mpr ⟨⟨?_, ?_⟩, fun _ _ => ⟨rfl, rfl⟩⟩
  · exact (Bool.eq_true_of_not_eq_false hwaits).symm
  · exact (Bool.eq_false_iff.mpr fun hrun => hwaits (waits_of_isRunning hrun)).symm

theorem PoolAt.take {first c : ℕ} {rest : List ℕ} (h : PoolAt s first)
    (hqueue : s.mConnectionThreads.sPoolWorkQueue = c :: rest)
    (hidle : s.mConnectionThreads.busy < s.mConnectionThreads.workers) :
    PoolAt { s.setPc c .opening with
      mConnectionThreads :=
        { s.mConnectionThreads with
          busy := s.mConnectionThreads.busy + 1, sPoolWorkQueue := rest } } (first + 1) := by
  have hrange := h.queue
  rw [hqueue, List.length_cons, List.range'_succ, List.cons.injEq] at hrange
  obtain ⟨rfl, hrest⟩ := hrange
  have hmoved : ∀ d, ((s.setPc c .opening).connections d).pc =
      if d = c then .opening else (s.connections d).pc := by
    intro d
    by_cases hd : d = c
    · subst hd
      simp
    · simp [hd]
  refine ⟨?_, started_start h hmoved, hrest, ?_, hidle, h.workers_le, ?_, ?_⟩
  · have hhands := h.handsOver
    rw [hqueue, List.length_cons, Nat.add_comm rest.length 1, ← Nat.add_assoc] at hhands
    exact hhands
  · exact (congrArg (· + 1) h.busy).trans (runningBelow_start hmoved).symm
  · exact fun _ => h.full (by simp [hqueue])
  · have hroom := h.room
    rw [hqueue] at hroom
    exact (Nat.le_succ _).trans hroom

theorem PoolAt.finish {first c : ℕ} (h : PoolAt s first)
    (hpc : (s.connections c).pc = .releasing) :
    PoolAt { s.setConnection c { (s.connections c).releaseServerSocket with pc := .finished } with
      mConnectionThreads :=
        { s.mConnectionThreads with busy := s.mConnectionThreads.busy - 1 } } first := by
  let u := s.setConnection c { (s.connections c).releaseServerSocket with pc := .finished }
  have hc : c < first := (h.started c).mp (by simp [Started, hpc, waits])
  have herase : u.runningBelow first = (s.runningBelow first).erase c := by
    ext d
    by_cases hd : d = c
    · subst hd
      simp [u, mem_runningBelow, ServerPc.isRunning]
    · simp [u, mem_runningBelow, hd]
  have hmem : c ∈ s.runningBelow first := mem_runningBelow.mpr ⟨hc, by rw [hpc]; rfl⟩
  refine ⟨h.handsOver, fun d => ?_, h.queue, ?_, (Nat.sub_le _ _).trans h.busy_le, h.workers_le,
    h.full, h.room⟩
  · by_cases hd : d = c
    · subst hd
      simp [Started, waits, hc]
    · simpa [Started, hd] using h.started d
  · change s.mConnectionThreads.busy - 1 = (u.runningBelow first).card
    rw [herase, Finset.card_erase_of_mem hmem, h.busy]

/-! ## One step -/

/-- Only the accept thread, the pool and a worker that is done change the pool. -/
theorem mConnectionThreads_of_step {l : Label} (hs : s.step cfg l = some t)
    (hl : l.ofAcceptThread = false) (hfinish : ∀ c, l ≠ .finish c) :
    t.mConnectionThreads = s.mConnectionThreads := by
  cases steps_of_step hs with
  | bind | accept | acceptFails | loops | leaves | execute | setThreadName | onNewConnection
  | put | take | stop | stopIdle => simp [Label.ofAcceptThread] at hl
  | connection | unauthorized | authorize | authorizeThrows => rfl
  | @read c data throws =>
      refine onNewDataReceived_cases cfg s c data throws ?_ ?_ ?_ ?_ ?_ <;> intros <;> rfl
  | @reply c name authorize =>
      change (s.sendDataToTargetInner name (authorizePackage authorize)).mConnectionThreads = _
      unfold sendDataToTargetInner
      split
      · split
        · rfl
        · split <;> rfl
      · rfl
  | @decide c name authorize =>
      change (s.decide cfg name authorize).mConnectionThreads = _
      refine decide_cases cfg s name authorize ?_ ?_ ?_ <;> intros <;> rfl
  | @finish c => exact absurd rfl (hfinish c)
  | @sendDataToTarget data =>
      unfold Server.sendDataToTarget
      split <;> rfl

/-- Other steps start and end nothing. -/
theorem PcMove.rests {l : Label} {d : ℕ} {pc : ServerPc} (h : PcMove s d l pc)
    (hl : l.ofAcceptThread = false) (hfinish : ∀ c, l ≠ .finish c) :
    waits pc = waits (s.connections d).pc ∧ pc.isRunning = (s.connections d).pc.isRunning := by
  cases h with
  | same => exact ⟨rfl, rfl⟩
  | works hrun hpc =>
      exact ⟨(waits_of_isRunning hpc).trans (waits_of_isRunning hrun).symm, hpc.trans hrun.symm⟩
  | finishes => exact absurd rfl (hfinish d)
  | accepted | handed | queued | taken => simp [Label.ofAcceptThread] at hl

/-- A step starts no connection, or the first one that waits; the latter takes one out of the
queue, or there were not yet five workers. -/
theorem poolAt_step {l : Label} {first : ℕ} (h : PoolAt s first) (hs : s.step cfg l = some t) :
    PoolAt t first ∧ l ≠ .take ∨
      PoolAt t (first + 1) ∧ s.mConnectionThreads.busy < ConnectionThreads.MAX_THREAD_SIZE ∧
        (l = .take ∨ s.mConnectionThreads.workers < ConnectionThreads.MAX_THREAD_SIZE) := by
  have hrests (hl : l.ofAcceptThread = false) (hfinish : ∀ c, l ≠ .finish c) :
      PoolAt t first ∧ l ≠ .take := by
    refine ⟨h.same (mConnectionThreads_of_step hs hl hfinish) ?_ fun d =>
      (pcMove_of_step hs d).rests hl hfinish, ?_⟩
    · rw [(step_keepsRegistry hs hl).thread]
      exact h.handsOver
    · intro htake
      simp [htake, Label.ofAcceptThread] at hl
  have hhands := h.handsOver
  cases steps_of_step hs with
  | @bind ok hpc =>
      refine .inl ⟨h.same rfl ?_ fun _ => ⟨rfl, rfl⟩, by simp⟩
      rw [hpc] at hhands
      cases ok with
      | true => exact hhands
      | false => exact Nat.le_of_eq hhands.symm
  | accept hpc => exact .inl ⟨h.accept hpc _, by simp⟩
  | acceptFails hpc =>
      rw [hpc] at hhands
      exact .inl ⟨h.same rfl (Nat.le_of_eq hhands.symm) fun _ => ⟨rfl, rfl⟩, by simp⟩
  | loops hpc =>
      rw [hpc] at hhands
      exact .inl ⟨h.same rfl hhands fun _ => ⟨rfl, rfl⟩, by simp⟩
  | leaves hpc =>
      rw [hpc] at hhands
      exact .inl ⟨h.same rfl (Nat.le_of_eq hhands.symm) fun _ => ⟨rfl, rfl⟩, by simp⟩
  | execute hpc =>
      rcases h.execute hpc with hpool | ⟨hpool, hworkers⟩
      · exact .inl ⟨hpool, by simp⟩
      · exact .inr ⟨hpool, h.busy_le.trans_lt hworkers, .inr hworkers⟩
  | @setThreadName c remoteIp hpc =>
      rw [hpc] at hhands
      refine .inl ⟨h.same rfl hhands ?_, by simp⟩
      refine (Function.forall_update_iff s.connections fun d y =>
        waits y.pc = waits (s.connections d).pc ∧
          y.pc.isRunning = (s.connections d).pc.isRunning).mpr ⟨⟨rfl, rfl⟩, fun _ _ => ⟨rfl, rfl⟩⟩
  | onNewConnection hpc | put hpc =>
      rw [hpc] at hhands
      exact .inl ⟨h.same rfl hhands fun _ => ⟨rfl, rfl⟩, by simp⟩
  | take hqueue hidle =>
      exact .inr ⟨h.take hqueue hidle, hidle.trans_le h.workers_le, .inl rfl⟩
  | stop | stopIdle => exact .inl ⟨h.same rfl hhands fun _ => ⟨rfl, rfl⟩, by simp⟩
  | finish hpc => exact .inl ⟨h.finish hpc, by simp⟩
  | _ => exact .inl (hrests rfl (by simp))

theorem exists_poolAt_step {l : Label} (h : ∃ first, PoolAt s first)
    (hs : s.step cfg l = some t) : ∃ first, PoolAt t first := by
  obtain ⟨first, h⟩ := h
  rcases poolAt_step h hs with ⟨hpool, _⟩ | ⟨hpool, _⟩
  · exact ⟨first, hpool⟩
  · exact ⟨first + 1, hpool⟩

theorem exists_poolAt_of_run (he : exec (step cfg) (init cfg free) ls = some s) :
    ∃ first, PoolAt s first :=
  invariant (fun _ _ _ => exists_poolAt_step) ⟨0, poolAt_init cfg free⟩ he

/-! ## Runs -/

/-- A connection that the step starts is the first one that has not been started, and fewer than
five of the connections before it still run. -/
def StartsInTurn (s : Server) (_ : Label) (t : Server) : Prop :=
  ∀ c, Started t c → ¬Started s c →
    (∀ d < c, Started s d) ∧ (s.runningBelow c).card < ConnectionThreads.MAX_THREAD_SIZE

theorem startsInTurn_of_step {l : Label} (h : ∃ first, PoolAt s first)
    (hs : s.step cfg l = some t) : StartsInTurn s l t := by
  obtain ⟨first, h⟩ := h
  intro c ht hc
  rw [h.started] at hc
  rcases poolAt_step h hs with ⟨hpool, _⟩ | ⟨hpool, hbusy, _⟩
  · exact absurd ((hpool.started c).mp ht) hc
  · have hfirst : c < first + 1 := (hpool.started c).mp ht
    obtain rfl : c = first := by omega
    exact ⟨fun d hd => (h.started d).mpr hd, h.busy ▸ hbusy⟩

/-- In every run the connections are started one after the other in the order in which they
were accepted, and at most five of them run at a time. -/
theorem connections_start_in_turn (cfg : Config) (free : Int32 → Bool) (ls : List Label) :
    Along (step cfg) StartsInTurn (init cfg free) ls :=
  along_of_invariant (fun _ _ _ => exists_poolAt_step)
    (fun _ _ _ h hs => startsInTurn_of_step h hs) ⟨0, poolAt_init cfg free⟩ ls

/-- A worker that has been created stays. -/
theorem workers_of_step {l : Label} (hs : s.step cfg l = some t) :
    s.mConnectionThreads.workers ≤ t.mConnectionThreads.workers := by
  cases steps_of_step hs with
  | bind | accept | acceptFails | loops | leaves | setThreadName | onNewConnection | put | take
  | stop | stopIdle => exact le_rfl
  | @execute c remoteIp =>
      exact execute_cases s c remoteIp (fun _ => Nat.le_succ _) (fun _ _ => le_rfl)
        fun _ _ => le_rfl
  | _ => exact (step_keepsRegistry hs rfl).workers.ge

/-- Once all five workers are there, nothing but a worker that takes from the queue starts a
connection. -/
theorem poolAt_takes {first : ℕ} {past : List Label} {l : Label}
    (h : PoolAt s (first + past.countP (· = .take)) ∧
      s.mConnectionThreads.workers = ConnectionThreads.MAX_THREAD_SIZE)
    (hs : s.step cfg l = some t) :
    PoolAt t (first + (past ++ [l]).countP (· = .take)) ∧
      t.mConnectionThreads.workers = ConnectionThreads.MAX_THREAD_SIZE := by
  obtain ⟨hpool, hfull⟩ := h
  have hworkers := workers_of_step hs
  rcases poolAt_step hpool hs with ⟨hpool', htake⟩ | ⟨hpool', _, htake | hlt⟩
  · refine ⟨?_, Nat.le_antisymm hpool'.workers_le (hfull ▸ hworkers)⟩
    simpa [htake] using hpool'
  · refine ⟨?_, Nat.le_antisymm hpool'.workers_le (hfull ▸ hworkers)⟩
    simpa [htake, Nat.add_assoc] using hpool'
  · exact absurd hlt (Nat.lt_irrefl _ ∘ hfull.symm.trans_lt)

/-- A connection that waits in the queue is started when as many have been taken out of the
queue as there were before it, and not earlier. -/
theorem waits_its_turn {ms : List Label} {i c : ℕ}
    (hr : exec (step cfg) (init cfg free) ls = some s)
    (hqueue : s.mConnectionThreads.sPoolWorkQueue[i]? = some c)
    (he : exec (step cfg) s ms = some t) :
    Started t c ↔ i < ms.countP (· = .take) := by
  obtain ⟨first, h⟩ := exists_poolAt_of_run hr
  have hfull : s.mConnectionThreads.workers = ConnectionThreads.MAX_THREAD_SIZE :=
    h.full fun hempty => by simp [hempty] at hqueue
  have hc : c = first + i := by
    obtain ⟨hi, hget⟩ := List.getElem?_eq_some_iff.mp hqueue
    rw [h.queue, List.getElem?_range' hi] at hqueue
    simpa using hqueue.symm
  have hpool := (history_nil (I := fun past u => PoolAt u (first + past.countP (· = .take)) ∧
    u.mConnectionThreads.workers = ConnectionThreads.MAX_THREAD_SIZE)
    (fun _ _ _ _ => poolAt_takes) ⟨h, hfull⟩ he).1
  rw [hpool.started, hc]
  simp

/-- Five clients have workers, and a sixth one waits for them. -/
def sixthWaits : List Label := boot ++ (List.replicate 6 register).flatten

theorem waits_its_turn_sixthWaits :
    let cfg := Config.connectionImpl none true
    let s := (exec (step cfg) (init cfg fun _ => true) sixthWaits).get (by decide)
    let leaves := openStreams 0 ++ leave 0 ++ [.take]
    let t := (exec (step cfg) s leaves).get (by decide)
    Started t 5 ↔ 0 < leaves.countP (· = .take) :=
  @waits_its_turn _ _ _ _ sixthWaits _ _ _ (Option.some_get _).symm (by decide) (Option.some_get _).symm

end Server

end Collaboration
