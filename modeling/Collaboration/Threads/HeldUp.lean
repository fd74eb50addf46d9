import Collaboration.Threads.StuckWrite

/-! # Whether a client that does not read holds up the others

A broadcast waits for the `mMessageTask` of every connection it comes to, inside
`mConnectionMap`; the sender of a connection owns it during the write. -/

namespace Collaboration.Threads

open Monitors Transition

variable {cfg : Config} {s s' : State} {t u : Thread} {c : ℕ} {N : Option ThreadName}

/-- The operations on the other connections than `c`: broadcasts, queueing a message, looking a
connection up, approving or stopping it, and registering a new one. -/
def Call.OnOthers (map : AList fun _ : ThreadName => ℕ) (c : ℕ) : Call → Prop
  | .sendDataToTarget _ | .broadcast _ | .getConnection _ _ | .startRun _
  | .onNewConnection _ _ => True
  | .sendDataToTargetInner _ threadName _ | .tell _ threadName _ =>
    threadName.bind map.lookup ≠ some c
  | .setAutorizeCheckPass d | .addMessage d _ | .addHeartbeatPackage d | .putConnection _ d =>
    d ≠ c
  | _ => False

/-- While the sender of the connection takes no step, a broadcast by any idle user interface
thread runs to its end, and so does every operation on the other connections; a thread that
waits for the sender is queueing a message for this very connection, with no monitor held. -/
structure NotHeldUp (cfg : Config) (s : State) (c : ℕ) : Prop where
  broadcast : ∀ n data s',
    step cfg s (.run (.userInterface n) (.event (.sendDataToClient data))) = some s' →
      RunsTo (program cfg) (.sender c) (.userInterface n) s' (s.code (.userInterface n))
  operation : ∀ t a k, s.code t = .run a :: k → a.OnOthers (settledMap s) c →
    RunsTo (program cfg) (.sender c) t s k
  waits : ∀ t, Relation.TransGen (WaitsFor s) t (.sender c) →
    s.held t = [] ∧ ∃ k, s.code t = .enter (.mMessageTask c) :: k

/-! ## When no broadcast comes to the connection -/

section Runs

variable {held : List Monitor} {k : Code} {goal : List Monitor → Code → Prop} {d : ℕ}
  (ht : t ≠ .sender c)

include ht

theorem goes_getConnection {worker : ℕ} {threadName : Option ThreadName}
    (h : Goes cfg c N t goal held k) :
    Goes cfg c N t goal held (.run (.getConnection worker threadName) :: k) :=
  goes_calls ht (fun _ => ⟨_, rfl⟩) id <|
    goes_enter_other ht (by simp) rfl <| goes_calls ht (fun _ => ⟨_, rfl⟩) id <| .exit h

theorem goes_statusChanged {threadName : Option ThreadName} {newStatus : ConnectStatus}
    (h : Goes cfg c N t goal held k) :
    Goes cfg c N t goal held (.run (.statusChanged threadName newStatus) :: k) :=
  goes_calls ht (fun _ => ⟨_, rfl⟩) id <|
    goes_enter_other ht (by simp) rfl <| goes_calls ht (fun _ => ⟨_, rfl⟩) id <| .exit h

theorem goes_setAutorizeCheckPass (hd : d ≠ c) (h : Goes cfg c N t goal held k) :
    Goes cfg c N t goal held (.run (.setAutorizeCheckPass d) :: k) :=
  goes_calls ht (fun _ => ⟨_, rfl⟩) id <|
    goes_run ht (fun _ => ⟨_, rfl⟩) hd fun _ _ _ _ =>
      goes_calls ht (fun _ => ⟨_, rfl⟩) id <| goes_statusChanged ht h

theorem goes_startRun {d : ℕ} (h : Goes cfg c N t goal held k) :
    Goes cfg c N t goal held (.run (.startRun d) :: k) :=
  goes_calls ht (fun _ => ⟨_, rfl⟩) id <|
    goes_enter_other ht (by simp) rfl <| goes_calls ht (fun _ => ⟨_, rfl⟩) id <|
      goes_calls ht (fun _ => ⟨_, rfl⟩) id <| .exit h

theorem goes_onNewConnection {thread : ThreadName} {remoteIp : JString}
    (h : Goes cfg c N t goal held k) :
    Goes cfg c N t goal held (.run (.onNewConnection thread remoteIp) :: k) :=
  goes_calls ht (fun _ => ⟨_, rfl⟩) id <|
    goes_enter_other ht (by simp) rfl <| goes_calls ht (fun _ => ⟨_, rfl⟩) id <| .exit h

theorem goes_putConnection {threadName : ThreadName} (hd : d ≠ c)
    (h : Goes cfg c N t goal held k) :
    Goes cfg c N t goal held (.run (.putConnection threadName d) :: k) := by
  refine goes_calls ht (fun _ => ⟨_, rfl⟩) id <|
    goes_enter ht (by simp) (fun entry hentry => ?_) <|
      goes_calls ht (fun _ => ⟨_, rfl⟩) id <| .exit h
  obtain rfl := Option.some.inj hentry
  exact hd

theorem goes_addHeartbeatPackage (hd : d ≠ c) (h : Goes cfg c N t goal held k) :
    Goes cfg c N t goal held (.run (.addHeartbeatPackage d) :: k) :=
  goes_calls ht (fun _ => ⟨_, rfl⟩) id <|
    goes_enter_other ht (by simpa using hd) rfl <|
      goes_calls ht (fun _ => ⟨_, rfl⟩) id <| .notify (.exit h)

theorem goes_sendDataToTarget_all {data : Data} (h : Goes cfg c N t goal held k) :
    Goes cfg c N t goal held (.run (.sendDataToTarget data) :: k) := by
  refine goes_run ht (fun _ => ⟨_, rfl⟩) id fun s _ _ _ => ?_
  split
  · exact goes_broadcast ht h
  · exact h

end Runs

theorem Stuck.runsTo (h : Stuck cfg c N s) (ht : t ≠ .sender c) {k : Code}
    (hgoes : Goes cfg c N t (fun _ code => code = k) (s.held t) (s.code t))
    (hawake : ∀ e ∈ s.waitSet, e.1 ≠ t) : RunsTo (program cfg) (.sender c) t s k := by
  obtain ⟨s', hpath, -, hgoal⟩ := h.runs ht hgoes hawake
  exact ⟨s', hpath, hgoal⟩

/-- What a connection is told other than the one whose sender is stuck. -/
theorem Stuck.runsTo_tellConnection (h : Stuck cfg c N s) (ht : t ≠ .sender c) {worker : ℕ}
    {told : Told} {k : Code} (hcode : s.code t = .run (.tellConnection worker told) :: k)
    (hfound : (s.data.connections worker).found ≠ some c) :
    RunsTo (program cfg) (.sender c) t s k := by
  have hawake := h.inv.consistent.awake hcode (by simp)
  cases hd : (s.data.connections worker).found with
  | none =>
      have hrun : Threads.run cfg s.data (.tellConnection worker told) .returns =
          some (s.data.failReading worker, []) := by simp [Threads.run, hd, returning]
      refine .of_step (step_of_run hcode hrun) rfl ht ?_
      exact (h.run hcode ht hrun id).runsTo ht (by simpa using .done rfl) hawake
  | some d =>
      have hdc : d ≠ c := fun heq => hfound (heq ▸ hd)
      have hrun : Threads.run cfg s.data (.tellConnection worker told) .returns =
          some (s.data.tell d told) := by simp [Threads.run, hd, returning]
      refine .of_step (step_of_run hcode hrun) rfl ht ?_
      refine (h.run hcode ht hrun id).runsTo ht ?_ hawake
      simp only [Function.update_self]
      cases told with
      | sendDataToTarget data => exact goes_sendDataToTarget ht (fun _ => hdc) (.done rfl)
      | stopConnection => exact .done rfl
      | setAutorizeCheckPass => exact goes_setAutorizeCheckPass ht hdc (.done rfl)

theorem Stuck.runsTo_exit (h : Stuck cfg c N s) (ht : t ≠ .sender c) {m : Monitor} {worker : ℕ}
    {told : Told} {k : Code}
    (hcode : s.code t = .exit m :: .run (.tellConnection worker told) :: k)
    (hfound : (s.data.connections worker).found ≠ some c) :
    RunsTo (program cfg) (.sender c) t s k := by
  obtain ⟨rest, hheld, -⟩ := h.inv.consistent.held_of_exit hcode
  have hexit := step_exit (P := program cfg) hcode (by simp [hheld])
  refine .of_step hexit rfl ht ?_
  exact (h.of_not_enter hexit ht (by simp) (by simp)).runsTo_tellConnection ht
    (Function.update_self ..) hfound

/-- The second lookup. -/
theorem Stuck.runsTo_lookup {threadName : Option ThreadName} (h : Stuck cfg c threadName s)
    (ht : t ≠ .sender c) {worker : ℕ} {told : Told} {k : Code}
    (hcode : s.code t = .run (.lookup worker threadName) ::
      .exit .mConnectionMap :: .run (.tellConnection worker told) :: k) :
    RunsTo (program cfg) (.sender c) t s k := by
  have hheld : s.held t = [.mConnectionMap] := h.inv.allowed hcode
  have hmap : settledMap s = s.data.mConnectionMap :=
    h.inv.settledMap_of_held (t := t) (by simp [hheld]) (by rw [hcode]; rfl)
  have hfound : threadName.bind s.data.mConnectionMap.lookup ≠ some c := by
    intro heq
    obtain ⟨name, hname, hlookup⟩ := Option.bind_eq_some_iff.mp heq
    exact h.other name hname (hmap ▸ hlookup)
  have hrun : Threads.run cfg s.data (.lookup worker threadName) .returns =
      some (s.data.setConnection worker { s.data.connections worker with
        found := threadName.bind s.data.mConnectionMap.lookup }, []) := rfl
  refine .of_step (step_of_run hcode hrun) rfl ht ?_
  refine (h.run hcode ht hrun id).runsTo_exit ht (Function.update_self ..) ?_
  simpa [Process.setConnection] using hfound

/-- `tell` looks the connection up twice; what it is told goes to the one found last, which has
the name and so is not the one whose sender is stuck. -/
theorem Stuck.runsTo_tell {threadName : Option ThreadName} (h : Stuck cfg c threadName s)
    (ht : t ≠ .sender c) {worker : ℕ} {told : Told} {k : Code}
    (hcode : s.code t = .run (.tell worker threadName told) :: k) :
    RunsTo (program cfg) (.sender c) t s k := by
  -- To the second lookup, if the first one finds a connection.
  have hgoes : Goes cfg c threadName t (fun _ code => code = k ∨
      code = .run (.lookup worker threadName) ::
        .exit .mConnectionMap :: .run (.tellConnection worker told) :: k)
      (s.held t) (.run (.tell worker threadName told) :: k) := by
    refine goes_calls ht (fun _ => ⟨_, rfl⟩) id <| goes_getConnection ht ?_
    refine goes_run ht (fun _ => ⟨_, rfl⟩) id fun s _ _ _ => ?_
    split
    · exact goes_calls ht (fun _ => ⟨_, rfl⟩) id <|
        goes_enter_other ht (by simp) rfl <| .done (.inr rfl)
    · exact .done (.inl rfl)
  obtain ⟨x, hpath, hx, hx' | hx'⟩ :=
    h.runs ht (hcode ▸ hgoes) (h.inv.consistent.awake hcode (by simp))
  · exact ⟨x, hpath, hx'⟩
  · exact .of_path hpath (hx.runsTo_lookup ht hx')

theorem Stuck.runsTo_sendDataToTargetInner {threadName : Option ThreadName}
    (h : Stuck cfg c threadName s) (ht : t ≠ .sender c) {worker : ℕ} {data : Data} {k : Code}
    (hcode : s.code t = .run (.sendDataToTargetInner worker threadName data) :: k) :
    RunsTo (program cfg) (.sender c) t s k := by
  have hgoes : Goes cfg c threadName t (fun _ code => code = k ∨
      code = .run (.tell worker threadName (.sendDataToTarget data)) :: k)
      (s.held t) (.run (.sendDataToTargetInner worker threadName data) :: k) := by
    refine goes_run ht (fun _ => ⟨_, rfl⟩) id fun s _ _ _ => ?_
    split
    · cases threadName with
      | none => exact goes_broadcast ht (.done (.inl rfl))
      | some name => exact .done (.inr rfl)
    · exact .done (.inl rfl)
  obtain ⟨x, hpath, hx, hx' | hx'⟩ :=
    h.runs ht (hcode ▸ hgoes) (h.inv.consistent.awake hcode (by simp))
  · exact ⟨x, hpath, hx'⟩
  · exact .of_path hpath (hx.runsTo_tell ht hx')

theorem run_event {a : Call} {e : Event} {p p' : Process} {body : Code}
    (h : run cfg p a (.event e) = some (p', body)) :
    a = .event ∧ p' = p ∧ body = e.calls ++ [.run .event] := by
  cases a with
  | event =>
      obtain ⟨rfl, rfl⟩ := Prod.mk.inj (Option.some.inj h)
      exact ⟨rfl, rfl, rfl⟩
  | serve => simp [run, returning] at h
  | tellConnection | senderLoop =>
      simp only [run] at h
      split at h <;> cases h
  | acceptRun | receiveRun | senderRun | timer | broadcastRun =>
      obtain ⟨-, h⟩ := Option.ite_none_right_eq_some.mp h
      cases h
  | _ => cases h

/-- The owner of the monitor that a thread waits for is the sender only where the thread queues
a message for its connection. -/
theorem Stuck.waits (h : Stuck cfg c N s) (hw : WaitsFor s t (.sender c)) :
    s.held t = [] ∧ ∃ k, s.code t = .enter (.mMessageTask c) :: k := by
  obtain ⟨-, -, m, k, hcode, howner⟩ := hw
  have hm := (h.inv.consistent.owner_iff m _).mp howner
  rw [h.held] at hm
  obtain rfl := List.mem_singleton.mp hm
  refine ⟨?_, k, hcode⟩
  by_contra hheld
  exact h.not_queues hheld (.enter (.mMessageTask c)) (by simp [hcode]) rfl

/-- Nobody waits for such a thread in turn: it holds no monitor. -/
theorem Stuck.waits_transGen (h : Stuck cfg c N s)
    (hw : Relation.TransGen (WaitsFor s) t (.sender c)) :
    s.held t = [] ∧ ∃ k, s.code t = .enter (.mMessageTask c) :: k := by
  cases hw with
  | single hw => exact h.waits hw
  | tail hw hlast =>
      obtain ⟨hheld, -⟩ := h.waits hlast
      obtain ⟨-, -, -, m, hm, -⟩ := h.inv.consistent.exists_rank_le hw
      rw [hheld] at hm
      exact absurd hm List.not_mem_nil

/-- A broadcast by a user interface thread. -/
theorem Stuck.runsTo_broadcast (h : Stuck cfg c N s) {n : ℕ} {data : Data}
    (hs : step cfg s (.run (.userInterface n) (.event (.sendDataToClient data))) = some s') :
    RunsTo (program cfg) (.sender c) (.userInterface n) s' (s.code (.userInterface n)) := by
  have ht : Thread.userInterface n ≠ .sender c := by simp
  cases steps_of_step hs with
  | run hcode hrun =>
      obtain ⟨rfl, rfl, rfl⟩ := run_event hrun
      have hrun : Threads.run cfg s.data .event (.event (.sendDataToClient data)) =
          some (s.data, _) := rfl
      refine (h.run hcode ht hrun id).runsTo ht ?_ (h.inv.consistent.awake hcode (by simp))
      simp only [Function.update_self, Event.calls, hcode]
      exact goes_getInstance ht <| goes_sendDataToTarget_all ht <| .done rfl

theorem Stuck.runsTo_operation (h : Stuck cfg c none s) {a : Call} {k : Code}
    (hcode : s.code t = .run a :: k) (ha : a.OnOthers (settledMap s) c) :
    RunsTo (program cfg) (.sender c) t s k := by
  have ht : t ≠ .sender c := by
    rintro rfl
    obtain ⟨task, k', hwrites⟩ := h.writes
    obtain rfl := Stmt.run.inj (List.cons.inj (hwrites.symm.trans hcode)).1
    exact ha
  have hother : ∀ threadName : Option ThreadName,
      threadName.bind (settledMap s).lookup ≠ some c → Stuck cfg c threadName s :=
    fun threadName hne => ⟨h.inv, h.writes, h.absent, fun name hname heq =>
      hne (Option.bind_eq_some_iff.mpr ⟨name, hname, heq⟩)⟩
  have hruns : Goes cfg c none t (fun _ code => code = k) (s.held t) (.run a :: k) →
      RunsTo (program cfg) (.sender c) t s k :=
    fun hgoes => h.runsTo ht (hcode ▸ hgoes) (h.inv.consistent.awake hcode (by simp))
  cases a with
  | sendDataToTarget => exact hruns (goes_sendDataToTarget_all ht (.done rfl))
  | broadcast => exact hruns (goes_broadcast ht (.done rfl))
  | getConnection => exact hruns (goes_getConnection ht (.done rfl))
  | startRun => exact hruns (goes_startRun ht (.done rfl))
  | onNewConnection => exact hruns (goes_onNewConnection ht (.done rfl))
  | putConnection => exact hruns (goes_putConnection ht ha (.done rfl))
  | setAutorizeCheckPass => exact hruns (goes_setAutorizeCheckPass ht ha (.done rfl))
  | addMessage => exact hruns (goes_addMessage ht ha (.done rfl))
  | addHeartbeatPackage => exact hruns (goes_addHeartbeatPackage ht ha (.done rfl))
  | tell => exact (hother _ ha).runsTo_tell ht hcode
  | sendDataToTargetInner => exact (hother _ ha).runsTo_sendDataToTargetInner ht hcode
  | _ => exact ha.elim

theorem Stuck.notHeldUp (h : Stuck cfg c none s) : NotHeldUp cfg s c where
  broadcast _ _ _ hs := h.runsTo_broadcast hs
  operation _ _ _ hcode ha := h.runsTo_operation hcode ha
  waits _ hw := h.waits_transGen hw

/-! ## When a broadcast comes to the connection -/

/-- What a broadcast executes inside `mConnectionMap` for one connection. -/
def Sends : Stmt Monitor Call → Prop
  | .run (.addMessage _ _) | .run (.queueMessage _ _) | .enter (.mMessageTask _)
  | .exit (.mMessageTask _) | .notify (.mMessageTask _) => True
  | _ => False

/-- Where a broadcast is that does not get past the connection, in a user interface thread that
afterwards goes on with `k`. -/
inductive Stage (c : ℕ) (data : Data) (k : Code) (t : Thread) (s : State) : Prop
  | coming (before : Code) (hcode : s.code t = before ++ .run (.sendDataToTarget data) :: k)
  | broadcast (hcode : s.code t = .run (.broadcast data) :: k)
  | entering (hcode : s.code t =
      .enter .mConnectionMap :: .run (.sendToAll data) :: .exit .mConnectionMap :: k)
  | all (hcode : s.code t = .run (.sendToAll data) :: .exit .mConnectionMap :: k)
  | sending (current : Code) (keys : List ThreadName) (key : ThreadName)
      (hcode : s.code t = current ++ keys.map (fun key => .run (.sendToKey key data)) ++
        .exit .mConnectionMap :: k)
      (hcurrent : ∀ x ∈ current, Sends x) (hheld : .mConnectionMap ∈ s.held t)
      (hkey : key ∈ keys) (hlookup : (settledMap s).lookup key = some c)
  | adding (k' : Code) (hcode : s.code t = .run (.addMessage c data) :: k') (hk : k <:+ k')
  | blocked (k' : Code) (hcode : s.code t = .enter (.mMessageTask c) :: k') (hk : k <:+ k')

/-- While the sender is inside the write, the thread stays in the broadcast. -/
structure Pursued (cfg : Config) (c : ℕ) (data : Data) (k : Code) (n : ℕ) (s : State) : Prop where
  inv : Inv cfg s
  writes : ∃ task k, s.code (.sender c) = .run (.writeObject c task) :: k
  takesData : (s.data.connections c).takesData = true
  running : s.data.mThreadRunning = true
  settled : ∃ name, (settledMap s).lookup name = some c
  stage : Stage c data k (.userInterface n) s

theorem Stage.code_ne {data : Data} {k : Code} (h : Stage c data k t s) : s.code t ≠ k := by
  intro heq
  have hlength : k.length < (s.code t).length := by
    cases h with
    | coming before hcode | sending current keys key hcode =>
        simp only [hcode, List.length_append, List.length_cons]
        omega
    | broadcast hcode | entering hcode | all hcode =>
        simp only [hcode, List.length_cons]
        omega
    | adding k' hcode hk | blocked k' hcode hk =>
        have hle := hk.length_le
        simp only [hcode, List.length_cons]
        omega
  rw [heq] at hlength
  exact Nat.lt_irrefl _ hlength

theorem takesData_of_step (h : Inv cfg s) {l : Label} (hs : step cfg s l = some s')
    (hc : (s.data.connections c).takesData = true) :
    (s'.data.connections c).takesData = true := by
  cases steps_of_step hs with
  | run hcode hrun => exact takesData_of_run hrun (h.fits_head hcode) hc
  | _ => exact hc

theorem running_of_step {l : Label} (hs : step cfg s l = some s')
    (hrunning : s.data.mThreadRunning = true) : s'.data.mThreadRunning = true := by
  cases steps_of_step hs with
  | run _ hrun => exact running_of_run hrun hrunning
  | _ => exact hrunning

/-- Who helps a user interface thread does not begin a `put`. -/
theorem settledMap_of_helps (h : Inv cfg s) {l : Label} (hs : step cfg s l = some s') {n : ℕ}
    (hl : l.thread = .userInterface n ∨
      Relation.TransGen (WaitsFor s) (.userInterface n) l.thread) :
    settledMap s' = settledMap s := by
  rcases settledMap_of_step h hs with hmap | ⟨u, name, d, k, rfl, hcode, -⟩
  · exact hmap
  obtain ⟨rfl, -⟩ : u = .accept ∧ _ := h.fits u (.put name d) (by simp [hcode])
  rcases hl with hl | hl
  · cases hl
  · obtain ⟨m, m', hm', -⟩ : ∃ m, ∃ m', m' ∈ s.held .accept ∧ Monitor.rank m ≤ m'.rank := by
      obtain ⟨m, -, -, m', hm', hle⟩ := h.consistent.exists_rank_le hl
      exact ⟨m, m', hm', hle⟩
    exact absurd (h.rank_lt hcode m' hm') (Nat.not_lt_zero _)

theorem Stage.congr {data : Data} {k : Code} (h : Stage c data k t s)
    (hcode : s'.code t = s.code t) (hheld : s'.held t = s.held t)
    (hmap : settledMap s' = settledMap s) : Stage c data k t s' := by
  cases h with
  | coming before h => exact .coming before (hcode.trans h)
  | broadcast h => exact .broadcast (hcode.trans h)
  | entering h => exact .entering (hcode.trans h)
  | all h => exact .all (hcode.trans h)
  | sending current keys key h hcurrent hmem hkey hlookup =>
      exact .sending current keys key (hcode.trans h) hcurrent (hheld ▸ hmem) hkey (hmap ▸ hlookup)
  | adding k' h hk => exact .adding k' (hcode.trans h) hk
  | blocked k' h hk => exact .blocked k' (hcode.trans h) hk

/-- Before the call of `sendDataToTarget` the thread may do anything. -/
theorem Stage.of_coming {data : Data} {k k' : Code} {x : Stmt Monitor Call} {before : Code}
    (h : Advances (program cfg) s s' t k' x)
    (hk' : k' = before ++ .run (.sendDataToTarget data) :: k) : Stage c data k t s' := by
  subst hk'
  cases x with
  | run a =>
      obtain ⟨-, outcome, body, -, hcode⟩ := h
      exact .coming (body ++ before) (by simp [hcode])
  | enter m => exact .coming before h.2.1
  | exit m => exact .coming before h.2
  | wait m =>
      have hcode : s'.code t = _ := h
      exact .coming (_ ++ before) (by rw [hcode, List.append_assoc])
  | notify m => exact .coming before h.2

/-- What is executed for one connection leads to what is executed for the rest. -/
theorem Stage.of_sends {data : Data} {k k' : Code} {x : Stmt Monitor Call} {current : Code}
    {keys : List ThreadName} {key : ThreadName} (h : Advances (program cfg) s s' t k' x)
    (hx : Sends x) (hcurrent : ∀ x ∈ current, Sends x)
    (hk' : k' = current ++ keys.map (fun key => .run (.sendToKey key data)) ++
      .exit .mConnectionMap :: k)
    (hheld : .mConnectionMap ∈ s.held t) (hkey : key ∈ keys)
    (hlookup : (settledMap s').lookup key = some c) : Stage c data k t s' := by
  subst hk'
  cases x with
  | run a =>
      obtain ⟨hheld', outcome, body, hrun, hcode⟩ := h
      have hbody : ∀ x ∈ body, Sends x := by
        cases a with
        | addMessage | queueMessage =>
            obtain ⟨-, -, rfl⟩ := returning_eq_some.mp hrun
            simp [synchronized, Sends]
        | _ => exact hx.elim
      exact .sending (body ++ current) keys key (by simp [hcode])
        (List.forall_mem_append.mpr ⟨hbody, hcurrent⟩) (hheld' ▸ hheld) hkey hlookup
  | enter m =>
      exact .sending current keys key h.2.1 hcurrent (by simp [h.1, hheld]) hkey hlookup
  | exit m =>
      refine .sending current keys key h.2 hcurrent ?_ hkey hlookup
      rw [h.1]
      cases m with
      | mMessageTask d => exact (List.mem_erase_of_ne (by simp)).mpr hheld
      | _ => exact hx.elim
  | wait m => exact hx.elim
  | notify m => exact .sending current keys key h.2 hcurrent (h.1 ▸ hheld) hkey hlookup

/-- At its next key the broadcast comes to the connection, or gets past another one. -/
theorem Pursued.stage_of_key {data : Data} {k k' : Code} {n : ℕ} (h : Pursued cfg c data k n s)
    {key₀ key : ThreadName} {keys : List ThreadName}
    (hcode : s.code (.userInterface n) = .run (.sendToKey key₀ data) :: k')
    (hk' : k' = keys.map (fun key => .run (.sendToKey key data)) ++ .exit .mConnectionMap :: k)
    (hadvances : Advances (program cfg) s s' (.userInterface n) k' (.run (.sendToKey key₀ data)))
    (hheld : .mConnectionMap ∈ s.held (.userInterface n)) (hkey : key ∈ key₀ :: keys)
    (hlookup : (settledMap s).lookup key = some c) (hmap : settledMap s' = settledMap s) :
    Stage c data k (.userInterface n) s' := by
  obtain ⟨hheld', outcome, body, hrun, hcode'⟩ := hadvances
  obtain ⟨-, -, rfl⟩ := returning_eq_some.mp hrun
  have hsettled : settledMap s = s.data.mConnectionMap :=
    h.inv.settledMap_of_held hheld (by rw [hcode]; rfl)
  by_cases heq : key = key₀
  · subst heq
    rw [hsettled] at hlookup
    refine .adding k' ?_ (hk' ▸ (List.suffix_cons ..).trans (List.suffix_append ..))
    simpa [hlookup, Process.sendDataToTarget, h.takesData] using hcode'
  · refine .sending _ keys key (by rw [hcode', hk', List.append_assoc]) ?_ (hheld' ▸ hheld)
      ((List.mem_cons.mp hkey).resolve_left heq) (hmap ▸ hlookup)
    cases s.data.mConnectionMap.lookup key₀ with
    | none => simp
    | some d =>
        simp only [Option.elim_some, Process.sendDataToTarget]
        split <;> simp [Sends]

/-- The next stage. -/
theorem Pursued.stage_of_step {data : Data} {k : Code} {n : ℕ} (h : Pursued cfg c data k n s)
    {l : Label} (hs : step cfg s l = some s') (hl : l.thread = .userInterface n)
    (hmap : settledMap s' = settledMap s) : Stage c data k (.userInterface n) s' := by
  -- Where it only wakes up, it stays at its stage.
  have hnext : ∀ {x k'}, s.code (.userInterface n) = x :: k' →
      (Advances (program cfg) s s' (.userInterface n) k' x →
        Stage c data k (.userInterface n) s') → Stage c data k (.userInterface n) s' := by
    intro x k' hcode hadvances
    rw [← hl] at hcode
    rcases advances_of_step hs hcode with ⟨hcode', hheld⟩ | hadvance
    · rw [hl] at hcode hcode' hheld
      exact h.stage.congr (hcode'.trans hcode.symm) hheld hmap
    · exact hadvances (hl ▸ hadvance)
  cases h.stage with
  | coming before hcode =>
      cases before with
      | nil =>
          refine hnext hcode fun hadvance => ?_
          obtain ⟨-, outcome, body, hrun, hcode'⟩ := hadvance
          obtain ⟨-, -, rfl⟩ := returning_eq_some.mp hrun
          exact .broadcast (by simpa [h.running] using hcode')
      | cons x before => exact hnext hcode fun hadvance => .of_coming hadvance rfl
  | broadcast hcode =>
      refine hnext hcode fun hadvance => ?_
      obtain ⟨-, outcome, body, hrun, hcode'⟩ := hadvance
      obtain ⟨-, -, rfl⟩ := returning_eq_some.mp hrun
      exact .entering hcode'
  | entering hcode => exact hnext hcode fun hadvance => .all hadvance.2.1
  | all hcode =>
      refine hnext hcode fun hadvance => ?_
      obtain ⟨hheld, outcome, body, hrun, hcode'⟩ := hadvance
      obtain ⟨-, -, rfl⟩ := returning_eq_some.mp hrun
      obtain ⟨name, hlookup⟩ := h.settled
      have hheld' : s.held (.userInterface n) = [.mConnectionMap] := h.inv.allowed hcode
      have hmem : .mConnectionMap ∈ s.held (.userInterface n) := by simp [hheld']
      have hsettled : settledMap s = s.data.mConnectionMap :=
        h.inv.settledMap_of_held hmem (by rw [hcode]; rfl)
      have hkey : name ∈ s.data.mConnectionMap.keys :=
        AList.lookup_isSome.mp (by rw [← hsettled, hlookup]; rfl)
      exact .sending [] _ name hcode' (by simp) (hheld ▸ hmem) hkey (hmap ▸ hlookup)
  | sending current keys key hcode hcurrent hheld hkey hlookup =>
      cases current with
      | nil =>
          cases keys with
          | nil => cases hkey
          | cons key₀ keys =>
              exact hnext hcode fun hadvance =>
                h.stage_of_key hcode rfl hadvance hheld hkey hlookup hmap
      | cons x current =>
          obtain ⟨hx, hcurrent⟩ := List.forall_mem_cons.mp hcurrent
          exact hnext hcode fun hadvance =>
            .of_sends hadvance hx hcurrent rfl hheld hkey (hmap ▸ hlookup)
  | adding k' hcode hk =>
      refine hnext hcode fun hadvance => ?_
      obtain ⟨-, outcome, body, hrun, hcode'⟩ := hadvance
      obtain ⟨-, -, rfl⟩ := returning_eq_some.mp hrun
      exact .blocked _ hcode' (hk.trans (List.suffix_append ..))
  | blocked k' hcode hk =>
      refine hnext hcode fun hadvance => ?_
      have hfree := hadvance.2.2
      obtain ⟨task, k'', hwrites⟩ := h.writes
      simp [h.inv.owner_of_writes hwrites] at hfree

theorem Pursued.step {data : Data} {k : Code} {n : ℕ} (h : Pursued cfg c data k n s)
    (hs : Helps (program cfg) (.sender c) (.userInterface n) s s') :
    Pursued cfg c data k n s' := by
  obtain ⟨l, hs, hne, hl⟩ := hs
  have hmap := settledMap_of_helps h.inv hs hl
  refine ⟨h.inv.step hs, ?_, takesData_of_step h.inv hs h.takesData, running_of_step hs h.running,
    hmap ▸ h.settled, ?_⟩
  · rw [(step_of_ne hs hne.symm).1]
    exact h.writes
  · by_cases hthread : l.thread = .userInterface n
    · exact h.stage_of_step hs hthread hmap
    · obtain ⟨hcode, hheld⟩ := step_of_ne hs (Ne.symm hthread)
      exact h.stage.congr hcode hheld hmap

theorem Pursued.of_path {data : Data} {k : Code} {n : ℕ} (h : Pursued cfg c data k n s)
    (hpath : Relation.ReflTransGen (Helps (program cfg) (.sender c) (.userInterface n)) s s') :
    Pursued cfg c data k n s' := by
  induction hpath with
  | refl => exact h
  | tail _ hstep ih => exact ih.step hstep

/-- The broadcast does not run to its end. -/
theorem Pursued.not_runsTo {data : Data} {k : Code} {n : ℕ} (h : Pursued cfg c data k n s) :
    ¬ RunsTo (program cfg) (.sender c) (.userInterface n) s k := by
  rintro ⟨x, hpath, hx⟩
  exact (h.of_path hpath).stage.code_ne hx

/-- A broadcast that has come to the connection keeps `mConnectionMap` in every run in which the
sender takes no step: nobody else looks a connection up or registers one. -/
theorem owner_of_blocked (h : Inv cfg s) {task : Task} {k k' : Code}
    (hwrites : s.code (.sender c) = .run (.writeObject c task) :: k)
    (hcode : s.code t = .enter (.mMessageTask c) :: k') (hheld : .mConnectionMap ∈ s.held t)
    {ls : List Label} (hls : ∀ l ∈ ls, l.thread ≠ .sender c)
    (he : exec (step cfg) s ls = some s') : s'.owner .mConnectionMap = some t := by
  induction ls generalizing s with
  | nil =>
      obtain rfl := Option.some.inj he
      exact (h.consistent.owner_iff _ t).mpr hheld
  | cons l ls ih =>
      obtain ⟨hl, hls⟩ := List.forall_mem_cons.mp hls
      obtain ⟨x, hs, he⟩ := exec_cons_eq_some.mp he
      have hstays : x.code t = s.code t ∧ x.held t = s.held t := by
        by_cases ht : t = l.thread
        · subst ht
          rcases advances_of_step hs hcode with hstays | ⟨-, -, hfree⟩
          · exact ⟨hstays.1.trans hcode.symm, hstays.2⟩
          · rw [h.owner_of_writes hwrites] at hfree
            exact absurd (Option.some.inj (hfree.resolve_left (by simp))).symm hl
        · exact step_of_ne hs ht
      exact ih (h.step hs) ((step_of_ne hs hl.symm).1.trans hwrites) (hstays.1.trans hcode)
        (hstays.2 ▸ hheld) hls he

/-- Only finitely many user interface threads have ever done anything. -/
theorem exists_idle {free : Int32 → Bool} {ls : List Label}
    (he : exec (step cfg) (init cfg free) ls = some s) :
    ∃ N, ∀ n, N ≤ n → s.code (.userInterface n) = [.run .event] := by
  refine invariant (I := fun s : State => ∃ N, ∀ n, N ≤ n →
    s.code (.userInterface n) = [.run .event]) ?_ ⟨0, fun n _ => rfl⟩ he
  rintro s l t ⟨N, hN⟩ hs
  by_cases hl : ∃ m, l.thread = .userInterface m
  · obtain ⟨m, hl⟩ := hl
    refine ⟨max N (m + 1), fun n hn => ?_⟩
    have hne : Thread.userInterface n ≠ l.thread := by
      rw [hl]
      simp only [ne_eq, Thread.userInterface.injEq]
      omega
    rw [(step_of_ne hs hne).1]
    exact hN n (by omega)
  · refine ⟨N, fun n hn => ?_⟩
    rw [(step_of_ne hs fun heq => hl ⟨n, heq.symm⟩).1]
    exact hN n hn

theorem Inv.running_of_settled (h : Inv cfg s) {name : ThreadName}
    (hlookup : (settledMap s).lookup name = some c) : s.data.mThreadRunning = true := by
  cases hputs : (s.owner .mConnectionMap).bind fun t => putsNext (s.code t) with
  | none =>
      rw [settledMap, hputs] at hlookup
      exact h.running name c hlookup
  | some entry =>
      obtain ⟨t, -, hputs⟩ := Option.bind_eq_some_iff.mp hputs
      obtain ⟨k, hcode⟩ := putsNext_eq_some.mp hputs
      exact (h.fits_head hcode).2

theorem inv_run {free : Int32 → Bool} {ls : List Label}
    (he : exec (step cfg) (init cfg free) ls = some s) : Inv cfg s :=
  invariant (fun _ _ _ h hs => h.step hs) (inv_init cfg free) he

theorem held_up {free : Int32 → Bool} {ls : List Label}
    (he : exec (step cfg) (init cfg free) ls = some s) {task : Task} {k : Code}
    (hwrites : s.code (.sender c) = .run (.writeObject c task) :: k)
    (htakes : (s.data.connections c).takesData = true) {name : ThreadName}
    (hlookup : (settledMap s).lookup name = some c) : ¬ NotHeldUp cfg s c := by
  intro h
  obtain ⟨n, hn⟩ := exists_idle he
  have hidle := hn n le_rfl
  have hinv := inv_run he
  have hrun : run cfg s.data .event (.event (.sendDataToClient (.object 0))) =
      some (s.data, _) := rfl
  have hs := step_of_run hidle hrun
  have hpursued : Pursued cfg c (.object 0) [.run .event] n _ :=
    ⟨hinv.step hs, ⟨task, k, by simpa using hwrites⟩, htakes, hinv.running_of_settled hlookup,
      ⟨name, (settledMap_run hinv hidle hrun) ▸ hlookup⟩,
      .coming [.run .getInstance] (by simp [Event.calls])⟩
  have hends := h.broadcast n _ _ hs
  rw [hidle] at hends
  exact hpursued.not_runsTo hends

/-- The write of a sender holds up nobody else if and only if no broadcast comes to its
connection: data is not sent to it yet, or it is not, or no longer, in `mConnectionMap`. -/
theorem not_held_up_iff {free : Int32 → Bool} {ls : List Label}
    (he : exec (step cfg) (init cfg free) ls = some s) {task : Task} {k : Code}
    (hwrites : s.code (.sender c) = .run (.writeObject c task) :: k) :
    NotHeldUp cfg s c ↔
      ¬ ((s.data.connections c).takesData = true ∧
        ∃ name, (settledMap s).lookup name = some c) := by
  constructor
  · rintro h ⟨htakes, name, hlookup⟩
    exact held_up he hwrites htakes hlookup h
  · intro h
    refine Stuck.notHeldUp ⟨inv_run he, ⟨task, k, hwrites⟩, fun htakes name hlookup => ?_,
      by simp⟩
    exact h ⟨htakes, name, hlookup⟩

/-- The server is started and hands its first client to a worker. -/
def accepting : List Label :=
  [.run (.userInterface 0) (.event .onCreate), .run (.userInterface 0) .returns,
    .enter (.userInterface 0), .run (.userInterface 0) .returns, .run (.userInterface 0) .returns,
    .enter (.userInterface 0), .exit (.userInterface 0), .run (.userInterface 0) .returns,
    .run (.userInterface 0) .returns, .run .accept .returns, .run .accept .returns,
    .run .accept (.accepts (JString.lit "/10.0.0.2")), .run .accept .returns, .enter .accept,
    .run .accept .returns, .run .accept .returns, .exit .accept]

/-- The accept thread registers it. -/
def registering : List Label :=
  [.run .accept .returns, .run .accept .returns, .enter .accept, .run .accept .returns,
    .exit .accept, .run .accept .returns, .enter .accept, .run .accept .returns, .exit .accept]

/-- The worker serves it, and the sender writes the first heartbeat. -/
def writing : List Label :=
  [.run (.connection 0) .returns, .run (.connection 0) .returns, .run (.connection 0) .returns,
    .run (.connection 0) .returns, .run (.sender 0) .returns, .run (.timer 0) .returns,
    .run (.timer 0) .returns, .enter (.timer 0), .run (.timer 0) .returns,
    .notify (.timer 0) none, .exit (.timer 0), .run (.sender 0) .returns, .enter (.sender 0),
    .run (.sender 0) .returns]

/-- Before the client is registered, the write of its first heartbeat holds up nobody. -/
theorem not_held_up_iff_unregistered :
    ∃ s, exec (step (.connectionImpl none true)) (init (.connectionImpl none true) fun _ => true)
        (accepting ++ writing) = some s ∧ NotHeldUp (.connectionImpl none true) s 0 := by
  have hstate : (exec (step (.connectionImpl none true))
      (init (.connectionImpl none true) fun _ => true) (accepting ++ writing)).map
        (fun s => (s.code (.sender 0), (settledMap s).entries)) =
      some ([.run (.writeObject 0 ⟨-1, .inner .heartbeat, false⟩), .exit (.mMessageTask 0),
        .run (.senderLoop 0)], []) := by
    decide +kernel
  obtain ⟨s, he, hs⟩ := Option.map_eq_some_iff.mp hstate
  obtain ⟨hwrites, hentries⟩ := Prod.mk.inj hs
  refine ⟨s, he, (not_held_up_iff he hwrites).mpr ?_⟩
  rintro ⟨-, name, hlookup⟩
  simp [AList.lookup, hentries] at hlookup

/-- Once it is registered, the write holds up the broadcasts. -/
theorem heartbeat_holds_up :
    ¬ ∀ cfg free ls s c task k, exec (step cfg) (init cfg free) ls = some s →
      s.code (.sender c) = .run (.writeObject c task) :: k → NotHeldUp cfg s c := by
  intro h
  have hstate : (exec (step (.connectionImpl none true))
      (init (.connectionImpl none true) fun _ => true) (accepting ++ registering ++ writing)).map
        (fun s => (s.code (.sender 0), (s.data.connections 0).takesData,
          (settledMap s).lookup (.connection 1))) =
      some ([.run (.writeObject 0 ⟨-1, .inner .heartbeat, false⟩), .exit (.mMessageTask 0),
        .run (.senderLoop 0)], true, some 0) := by
    decide +kernel
  obtain ⟨s, he, hs⟩ := Option.map_eq_some_iff.mp hstate
  obtain ⟨hwrites, hs⟩ := Prod.mk.inj hs
  obtain ⟨htakes, hlookup⟩ := Prod.mk.inj hs
  exact held_up he hwrites htakes hlookup (h _ _ _ _ _ _ _ he hwrites)

end Collaboration.Threads
