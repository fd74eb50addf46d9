import Collaboration.Library.Progress
import Collaboration.Threads.Invariant

/-! # While a sender is inside a write

The sender of a connection owns its `mMessageTask` in the write. The other threads go on around
it, unless the connection is one of those that a broadcast comes to. -/

namespace Collaboration.Threads

open Monitors Transition

variable {cfg : Config} {s s' : State} {t u : Thread} {c : ℕ} {N : Option ThreadName}

/-! ## The registered connections -/

/-- What the code is about to put into the map. -/
def putsNext : Code → Option (ThreadName × ℕ)
  | .run (.put name c) :: _ => some (name, c)
  | _ => none

/-- `mConnectionMap` as the next thread finds it that enters its monitor: where the owner of the
monitor is at a `put`, the map after this `put`. -/
def settledMap (s : State) : AList fun _ : ThreadName => ℕ :=
  ((s.owner .mConnectionMap).bind fun t => putsNext (s.code t)).elim s.data.mConnectionMap
    fun entry => s.data.mConnectionMap.insert entry.1 entry.2

theorem putsNext_eq_some {k : Code} {entry : ThreadName × ℕ} :
    putsNext k = some entry ↔ ∃ k', k = .run (.put entry.1 entry.2) :: k' := by
  unfold putsNext
  split
  · simp [Prod.ext_iff]
  · rename_i hne
    simp only [reduceCtorEq, false_iff, not_exists]
    exact fun k' hk => hne _ _ k' hk

theorem putsNext_of_follows {x : Stmt Monitor Call} {k : Code} (h : (x :: k).IsChain Follows)
    (hx : x ≠ .enter .mConnectionMap) : putsNext k = none := by
  cases k with
  | nil => rfl
  | cons y k =>
      have hfollows : Follows x y := (List.isChain_cons.mp h).1 y rfl
      cases y with
      | run a => cases a <;> first | rfl | exact absurd hfollows hx
      | _ => rfl

theorem settledMap_of_owner (howner : s.owner .mConnectionMap = some t)
    (hputs : putsNext (s.code t) = none) : settledMap s = s.data.mConnectionMap := by
  simp [settledMap, howner, hputs]

theorem settledMap_of_free (howner : s.owner .mConnectionMap = none) :
    settledMap s = s.data.mConnectionMap := by
  simp [settledMap, howner]

theorem settledMap_congr (hmap : s'.data.mConnectionMap = s.data.mConnectionMap)
    (howner : s'.owner .mConnectionMap = s.owner .mConnectionMap)
    (hputs : ∀ u, s.owner .mConnectionMap = some u →
      putsNext (s'.code u) = putsNext (s.code u)) : settledMap s' = settledMap s := by
  cases hu : s.owner .mConnectionMap with
  | none => rw [settledMap_of_free (howner.trans hu), settledMap_of_free hu, hmap]
  | some u => simp [settledMap, hmap, howner, hu, hputs u hu]

/-- Inside the monitor, not at a `put`, a thread finds the settled map. -/
theorem Inv.settledMap_of_held (h : Inv cfg s) (hheld : .mConnectionMap ∈ s.held t)
    (hputs : putsNext (s.code t) = none) : settledMap s = s.data.mConnectionMap :=
  settledMap_of_owner ((h.consistent.owner_iff _ t).mpr hheld) hputs

/-- The sender owns its `mMessageTask` during the write. -/
theorem Inv.owner_of_writes (h : Inv cfg s) {task : Task} {k : Code}
    (hcode : s.code (.sender c) = .run (.writeObject c task) :: k) :
    s.owner (.mMessageTask c) = some (.sender c) := by
  have hheld : s.held (.sender c) = [.mMessageTask c] := h.allowed hcode
  exact (h.consistent.owner_iff _ _).mpr (by simp [hheld])

theorem Inv.rank_lt (h : Inv cfg s) {m : Monitor} {k : Code} (hcode : s.code t = .enter m :: k) :
    ∀ m' ∈ s.held t, m'.rank < m.rank := by
  have hordered := h.consistent.ordered t
  rw [hcode] at hordered
  exact hordered.1

/-- After a step the thread is not about to `put`, unless it has just entered the monitor. -/
theorem Inv.putsNext_tail (h : Inv cfg s) {x : Stmt Monitor Call} {k : Code}
    (hcode : s.code t = x :: k) (hx : x ≠ .enter .mConnectionMap) : putsNext k = none :=
  putsNext_of_follows (hcode ▸ h.follows t) hx

theorem Inv.putsNext_calls (h : Inv cfg s) {a : Call} {k body : Code} {outcome : Outcome}
    {data : Process} (hcode : s.code t = .run a :: k)
    (hrun : Threads.run cfg s.data a outcome = some (data, body)) (hheld : s.held t ≠ []) :
    putsNext (body ++ k) = none := by
  cases body with
  | nil => exact h.putsNext_tail hcode (by simp)
  | cons y rest =>
      have hbegins := (calls_of_run hrun (h.fits_head hcode)).begins _ (h.allowed hcode) hheld y rfl
      cases y with
      | run b => cases b <;> first | rfl | exact hbegins.elim
      | _ => rfl

/-- A thread that takes any other statement than an entry was not about to `put`, and is not
about to after it. -/
theorem Inv.putsNext_update (h : Inv cfg s) {x : Stmt Monitor Call} {k : Code}
    (hcode : s.code t = x :: k) (hx : x ≠ .enter .mConnectionMap) (hput : putsNext [x] = none)
    (u : Thread) : putsNext (Function.update s.code t k u) = putsNext (s.code u) := by
  by_cases hu : u = t
  · subst hu
    rw [Function.update_self, h.putsNext_tail hcode hx, hcode]
    cases x with
    | run a => cases a <;> first | rfl | cases hput
    | _ => rfl
  · rw [Function.update_of_ne hu]

theorem settledMap_run (h : Inv cfg s) {a : Call} {k body : Code} {outcome : Outcome}
    {data : Process} (hcode : s.code t = .run a :: k)
    (hrun : Threads.run cfg s.data a outcome = some (data, body)) :
    settledMap { s with data := data, code := Function.update s.code t (body ++ k) } =
      settledMap s := by
  by_cases hput : ∃ name c, a = .put name c
  · obtain ⟨name, c, rfl⟩ := hput
    have hheld : s.held t = [.mConnectionMap] := h.allowed hcode
    have howner := (h.consistent.owner_iff .mConnectionMap t).mpr (by simp [hheld])
    obtain ⟨-, rfl, rfl⟩ := returning_eq_some.mp hrun
    have hputs := h.putsNext_tail hcode (by simp)
    refine (settledMap_of_owner (t := t) ?_ ?_).trans ?_
    · exact howner
    · simpa using hputs
    · simp [settledMap, howner, hcode, putsNext]
  · have hmap : data.mConnectionMap = s.data.mConnectionMap := by
      rcases map_of_run hrun with hmap | ⟨name, c, rfl, -⟩ | ⟨name, rfl⟩
      · exact hmap
      · exact absurd ⟨name, c, rfl⟩ hput
      · exact (h.fits_head hcode).elim
    refine settledMap_congr hmap rfl fun u howner => ?_
    by_cases hu : u = t
    · subst hu
      have hheld : s.held u ≠ [] := List.ne_nil_of_mem ((h.consistent.owner_iff _ u).mp howner)
      simp only [Function.update_self, h.putsNext_calls hcode hrun hheld, hcode]
      cases a <;> first | rfl | exact absurd ⟨_, _, rfl⟩ hput
    · simp [hu]

/-- Only the entry before a `put` changes the settled map. -/
theorem settledMap_of_step {l : Label} (h : Inv cfg s) (hs : step cfg s l = some s') :
    settledMap s' = settledMap s ∨
      ∃ t name c k, l = .enter t ∧
        s.code t = .enter .mConnectionMap :: .run (.put name c) :: k ∧
        settledMap s' = (settledMap s).insert name c := by
  cases steps_of_step hs with
  | run hcode hrun => exact .inl (settledMap_run h hcode hrun)
  | wake => exact .inl (settledMap_congr rfl rfl fun _ _ => rfl)
  | @notify t m k woken hcode =>
      exact .inl (settledMap_congr rfl rfl fun u _ => h.putsNext_update hcode (by simp) rfl u)
  | @exit t m k hcode hheld =>
      have hputs := h.putsNext_update hcode (by simp) rfl
      left
      by_cases hm : m = .mConnectionMap
      · subst hm
        obtain ⟨rest, hheld', -⟩ := h.consistent.held_of_exit hcode
        have hrest : Monitor.mConnectionMap ∉ rest :=
          (List.nodup_cons.mp (hheld' ▸ h.consistent.nodup t)).1
        rw [h.settledMap_of_held hheld (by rw [hcode]; rfl)]
        exact settledMap_of_free (by simp [hheld', hrest])
      · refine settledMap_congr rfl ?_ fun u _ => hputs u
        split
        · rfl
        · simp [Ne.symm hm]
  | @wait t m k hcode hheld =>
      left
      by_cases hm : m = .mConnectionMap
      · subst hm
        rw [h.settledMap_of_held hheld (by rw [hcode]; rfl)]
        exact settledMap_of_free (by simp)
      · have hheld' := h.consistent.held_of_wait hcode
        refine settledMap_congr rfl (by simp [Ne.symm hm]) fun u _ => ?_
        by_cases hu : u = t
        · subst hu
          simp [hheld', hcode, putsNext]
        · simp [hu]
  | @enter t m k hcode hawake hfree =>
      by_cases hm : m = .mConnectionMap
      · subst hm
        have howner : s.owner .mConnectionMap = none := by
          refine hfree.resolve_right fun howner => ?_
          exact Nat.lt_irrefl _ (h.rank_lt hcode _ ((h.consistent.owner_iff _ t).mp howner))
        rw [settledMap_of_free howner]
        cases hputs : putsNext k with
        | none => exact .inl (settledMap_of_owner (t := t) (by simp) (by simpa using hputs))
        | some entry =>
            obtain ⟨k, rfl⟩ := putsNext_eq_some.mp hputs
            exact .inr ⟨t, entry.1, entry.2, k, rfl, hcode, by simp [settledMap, putsNext]⟩
      · exact .inl (settledMap_congr rfl (by simp [Ne.symm hm]) fun u _ =>
          h.putsNext_update hcode (by simpa using hm) rfl u)

/-! ## Around the write -/

/-- The sender of the connection is inside a write. No broadcast comes to the connection, and it
does not have the name `N`, if one is given. -/
structure Stuck (cfg : Config) (c : ℕ) (N : Option ThreadName) (s : State) : Prop where
  inv : Inv cfg s
  writes : ∃ task k, s.code (.sender c) = .run (.writeObject c task) :: k
  absent : (s.data.connections c).takesData = true → ∀ name, (settledMap s).lookup name ≠ some c
  other : ∀ name ∈ N, (settledMap s).lookup name ≠ some c

theorem Stuck.held (h : Stuck cfg c N s) : s.held (.sender c) = [.mMessageTask c] := by
  obtain ⟨task, k, hcode⟩ := h.writes
  exact h.inv.allowed hcode

/-- A step of another thread that leaves the settled map alone, and does not open the connection
for data. -/
theorem Stuck.of_step (h : Stuck cfg c N s) {l : Label} (hs : step cfg s l = some s')
    (hl : l.thread ≠ .sender c)
    (hdata : (s'.data.connections c).takesData = (s.data.connections c).takesData)
    (hmap : settledMap s' = settledMap s) : Stuck cfg c N s' where
  inv := h.inv.step hs
  writes := by
    rw [(step_of_ne hs hl.symm).1]
    exact h.writes
  absent := by
    rw [hdata, hmap]
    exact h.absent
  other := by
    rw [hmap]
    exact h.other

theorem step_of_run {a : Call} {k body : Code} {outcome : Outcome} {data : Process}
    (hcode : s.code t = .run a :: k) (hrun : run cfg s.data a outcome = some (data, body)) :
    step cfg s (.run t outcome) =
      some { s with data := data, code := Function.update s.code t (body ++ k) } :=
  step_run hcode hrun

theorem Stuck.run (h : Stuck cfg c N s) {a : Call} {k body : Code} {outcome : Outcome}
    {data : Process} (hcode : s.code t = .run a :: k) (ht : t ≠ .sender c)
    (hrun : Threads.run cfg s.data a outcome = some (data, body)) (hopens : ¬ a.Opens c) :
    Stuck cfg c N { s with data := data, code := Function.update s.code t (body ++ k) } :=
  h.of_step (step_of_run hcode hrun) ht (takesData_of_not_opens hrun hopens)
    (settledMap_run h.inv hcode hrun)

/-- Entering a monitor, unless it is to `put` the connection into the map. -/
theorem Stuck.enter (h : Stuck cfg c N s) {m : Monitor} {k : Code}
    (hcode : s.code t = .enter m :: k) (ht : t ≠ .sender c)
    (hputs : ∀ entry, putsNext k = some entry → entry.2 ≠ c)
    (hs : step cfg s (.enter t) = some s') : Stuck cfg c N s' := by
  have hdata : s'.data = s.data := data_of_step hs (by simp)
  rcases settledMap_of_step h.inv hs with hmap | ⟨t', name, d, k', hl, hcode', hmap⟩
  · exact h.of_step hs ht (by rw [hdata]) hmap
  · obtain rfl : t = t' := by simpa using hl
    obtain ⟨-, rfl⟩ := List.cons.inj (hcode.symm.trans hcode')
    have hd : d ≠ c := hputs (name, d) rfl
    have hlookup : ∀ name', (settledMap s).lookup name' ≠ some c →
        (settledMap s').lookup name' ≠ some c := by
      intro name' hne
      rw [hmap]
      by_cases hname : name' = name
      · subst hname
        simpa using hd
      · rwa [AList.lookup_insert_ne hname]
    refine ⟨h.inv.step hs, ?_, fun htakes name' => ?_, fun name' hname => ?_⟩
    · rw [(step_of_ne hs ht.symm).1]
      exact h.writes
    · exact hlookup name' (h.absent (hdata ▸ htakes) name')
    · exact hlookup name' (h.other name' hname)

/-- The other steps inside monitors. -/
theorem Stuck.of_not_enter (h : Stuck cfg c N s) {l : Label} (hs : step cfg s l = some s')
    (hl : l.thread ≠ .sender c) (hrun : ∀ t outcome, l ≠ .run t outcome)
    (henter : ∀ t, l ≠ .enter t) : Stuck cfg c N s' := by
  refine h.of_step hs hl (by rw [data_of_step hs hrun]) ?_
  rcases settledMap_of_step h.inv hs with hmap | ⟨t, -, -, -, heq, -⟩
  · exact hmap
  · exact absurd heq (henter t)

/-! ## What the other threads get done -/

/-- The code comes to the goal around the write. -/
abbrev Goes (cfg : Config) (c : ℕ) (N : Option ThreadName) (t : Thread)
    (goal : List Monitor → Code → Prop) (held : List Monitor) (k : Code) : Prop :=
  Comes (program cfg) (Stuck cfg c N) (· ≠ .mMessageTask c) t goal held k

section Goes

variable {goal : List Monitor → Code → Prop} {held : List Monitor} {k : Code} {d : ℕ}
  (ht : t ≠ .sender c)

include ht

theorem goes_run {a : Call} {g : Process → Code}
    (hrun : ∀ p, ∃ p', run cfg p a .returns = some (p', g p)) (hopens : ¬ a.Opens c)
    (h : ∀ s, Stuck cfg c N s → s.code t = .run a :: k → s.held t = held →
      Goes cfg c N t goal held (g s.data ++ k)) : Goes cfg c N t goal held (.run a :: k) := by
  refine .run .returns (fun s hs hcode _ => ?_) fun s hs hcode hheld data body hrun' => ?_
  · obtain ⟨p', hrun⟩ := hrun s.data
    exact ⟨p', _, hrun, hs.run hcode ht hrun hopens⟩
  · obtain ⟨p', hrun⟩ := hrun s.data
    obtain ⟨-, rfl⟩ := Prod.mk.inj (Option.some.inj (hrun.symm.trans hrun'))
    exact h s hs hcode hheld

/-- A statement that always calls the same code. -/
theorem goes_calls {a : Call} {body : Code}
    (hrun : ∀ p, ∃ p', run cfg p a .returns = some (p', body)) (hopens : ¬ a.Opens c)
    (h : Goes cfg c N t goal held (body ++ k)) : Goes cfg c N t goal held (.run a :: k) :=
  goes_run ht hrun hopens fun _ _ _ _ => h

theorem goes_enter {m : Monitor} (hm : m ≠ .mMessageTask c)
    (hputs : ∀ entry, putsNext k = some entry → entry.2 ≠ c)
    (h : Goes cfg c N t goal (m :: held) k) : Goes cfg c N t goal held (.enter m :: k) :=
  .enter hm (fun _ _ hs hcode _ hstep => hs.enter hcode ht hputs hstep) h

/-- Entering a monitor to do anything else than to `put`. -/
theorem goes_enter_other {m : Monitor} (hm : m ≠ .mMessageTask c) (hputs : putsNext k = none)
    (h : Goes cfg c N t goal (m :: held) k) : Goes cfg c N t goal held (.enter m :: k) :=
  goes_enter ht hm (by simp [hputs]) h

theorem goes_addBroadcastTask {message : JString} (h : Goes cfg c N t goal held k) :
    Goes cfg c N t goal held (.run (.addBroadcastTask message) :: k) :=
  goes_calls ht (fun _ => ⟨_, rfl⟩) id <|
    goes_enter_other ht (by simp) rfl <|
      goes_calls ht (fun _ => ⟨_, rfl⟩) id <| .notify (.exit h)

theorem goes_addMessage {data : Data} (hd : d ≠ c) (h : Goes cfg c N t goal held k) :
    Goes cfg c N t goal held (.run (.addMessage d data) :: k) :=
  goes_calls ht (fun _ => ⟨_, rfl⟩) id <|
    goes_enter_other ht (by simpa using hd) rfl <|
      goes_calls ht (fun _ => ⟨_, rfl⟩) id <| .notify (.exit h)

theorem goes_startServer (h : Goes cfg c N t goal held k) :
    Goes cfg c N t goal held (.run .startServer :: k) :=
  goes_calls ht (fun _ => ⟨_, rfl⟩) id <|
    goes_calls ht (fun _ => ⟨_, rfl⟩) id <| goes_addBroadcastTask ht h

theorem goes_start (h : Goes cfg c N t goal held k) :
    Goes cfg c N t goal held (.run .start :: k) := by
  refine goes_run ht (fun _ => ⟨_, rfl⟩) id fun s _ _ _ => ?_
  split
  · exact h
  · exact goes_enter_other ht (by simp) rfl <| .exit <|
      goes_calls ht (fun _ => ⟨_, rfl⟩) id <| goes_startServer ht h

theorem goes_createInstance (h : Goes cfg c N t goal held k) :
    Goes cfg c N t goal held (.run .createInstance :: k) := by
  refine goes_run ht (fun _ => ⟨_, rfl⟩) id fun s _ _ _ => ?_
  split
  · exact h
  · exact goes_start ht <| goes_calls ht (fun _ => ⟨_, rfl⟩) id h

theorem goes_getInstance (h : Goes cfg c N t goal held k) :
    Goes cfg c N t goal held (.run .getInstance :: k) :=
  goes_calls ht (fun _ => ⟨_, rfl⟩) id <|
    goes_enter_other ht (by simp) rfl <| goes_createInstance ht <| .exit h

theorem goes_sendDataToTarget {p : Process} {data : Data}
    (hd : (p.connections d).takesData = true → d ≠ c) (h : Goes cfg c N t goal held k) :
    Goes cfg c N t goal held (p.sendDataToTarget d data ++ k) := by
  unfold Process.sendDataToTarget
  split
  · rename_i htakes
    exact goes_addMessage ht (hd htakes) h
  · exact h

/-- Inside `mConnectionMap` the settled map is the map, where a broadcast does not find the
connection. -/
theorem goes_sendToKey {key : ThreadName} {data : Data} (hheld : .mConnectionMap ∈ held)
    (h : Goes cfg c N t goal held k) :
    Goes cfg c N t goal held (.run (.sendToKey key data) :: k) := by
  refine goes_run ht (fun _ => ⟨_, rfl⟩) id fun s hs hcode hheld' => ?_
  cases hlookup : s.data.mConnectionMap.lookup key with
  | none => exact h
  | some d =>
      refine goes_sendDataToTarget ht ?_ h
      rintro htakes rfl
      have hmap := hs.inv.settledMap_of_held (hheld' ▸ hheld) (by rw [hcode]; rfl)
      exact hs.absent htakes key (hmap ▸ hlookup)

theorem goes_sendToKeys {data : Data} (keys : List ThreadName) (hheld : .mConnectionMap ∈ held)
    (h : Goes cfg c N t goal held k) :
    Goes cfg c N t goal held (keys.map (fun key => .run (.sendToKey key data)) ++ k) := by
  induction keys with
  | nil => exact h
  | cons key keys ih => exact goes_sendToKey ht hheld ih

theorem goes_sendToAll {data : Data} (hheld : .mConnectionMap ∈ held)
    (h : Goes cfg c N t goal held k) :
    Goes cfg c N t goal held (.run (.sendToAll data) :: k) :=
  goes_run ht (fun _ => ⟨_, rfl⟩) id fun _ _ _ _ => goes_sendToKeys ht _ hheld h

theorem goes_broadcast {data : Data} (h : Goes cfg c N t goal held k) :
    Goes cfg c N t goal held (.run (.broadcast data) :: k) :=
  goes_calls ht (fun _ => ⟨_, rfl⟩) id <|
    goes_enter_other ht (by simp) rfl <| goes_sendToAll ht (by simp) <| .exit h

/-- Inside a monitor every statement comes to leave it, or to wait on it. -/
theorem goes_inside {m : Monitor} {a : Call} (ha : a.Allowed held) (hm : m ∈ held)
    (hadd : ∀ data, a ≠ .addMessage c data)
    (h : Goes cfg c N t (fun held _ => m ∉ held) held k) :
    Goes cfg c N t (fun held _ => m ∉ held) held (.run a :: k) := by
  cases a with
  | createInstance => exact goes_createInstance ht h
  | start => exact goes_start ht h
  | startServer => exact goes_startServer ht h
  | setInstance | startBroadcastSender | startReceiver | setCheckResult | returnCheckResult
  | putInfo | setStatus | execute | setThreadName | put | lookup | queueMessage | queueHeartbeat
  | queueBroadcast | writeObject | sendBroadcast =>
      exact goes_calls ht (fun _ => ⟨_, rfl⟩) id h
  | addBroadcastTask => exact goes_addBroadcastTask ht h
  | addMessage d data => exact goes_addMessage ht (fun hd => hadd data (hd ▸ rfl)) h
  | sendToAll =>
      obtain rfl : held = [.mConnectionMap] := ha
      exact goes_sendToAll ht (by simp) h
  | sendToKey =>
      obtain rfl : held = [.mConnectionMap] := ha
      exact goes_sendToKey ht (by simp) h
  | checkAuthorize =>
      obtain rfl : held = [.mAuthorizeLock] := ha
      refine goes_run ht (fun _ => ⟨_, rfl⟩) id fun s _ _ _ => ?_
      split
      · exact .wait List.not_mem_nil
      · exact goes_calls ht (fun _ => ⟨_, rfl⟩) id h
  | takeTask d =>
      obtain rfl : held = [.mMessageTask d] := ha
      refine goes_run ht (fun _ => ⟨_, rfl⟩) id fun s _ _ _ => ?_
      unfold Process.takeTask
      split
      · exact .wait List.not_mem_nil
      · exact goes_calls ht (fun _ => ⟨_, rfl⟩) id h
  | takeBroadcast =>
      obtain rfl : held = [.mBroadcastTasks] := ha
      refine goes_run ht (fun _ => ⟨_, rfl⟩) id fun s _ _ _ => ?_
      unfold Process.takeBroadcast
      split
      · exact .wait List.not_mem_nil
      · exact goes_calls ht (fun _ => ⟨_, rfl⟩) id h
  | removeConnection | onRemoveConnection | removeInfo =>
      exact .run .returns (fun s hs hcode _ => (hs.inv.fits_head hcode).elim)
        fun s hs hcode _ => (hs.inv.fits_head hcode).elim
  | _ =>
      obtain rfl : held = [] := ha
      exact absurd hm List.not_mem_nil

/-- A thread inside a monitor comes to leave it: by induction on its code. -/
theorem goes_leaves {m : Monitor} (hordered : (lockOrder cfg).Ordered held k)
    (hfollows : k.IsChain Follows) (hm : m ∈ held) (hqueues : ∀ x ∈ k, ¬ Queues c x) :
    Goes cfg c N t (fun held _ => m ∉ held) held k := by
  induction k generalizing held with
  | nil =>
      obtain rfl : held = [] := hordered
      exact absurd hm List.not_mem_nil
  | cons x k ih =>
      obtain ⟨hx, hk⟩ := List.forall_mem_cons.mp hqueues
      have hfollows' := (List.isChain_cons.mp hfollows).2
      cases x with
      | run a =>
          exact goes_inside ht hordered.1 hm (fun data ha => hx (ha ▸ rfl))
            (ih hordered.2 hfollows' hm hk)
      | enter m' =>
          refine goes_enter_other ht (fun heq => hx (heq ▸ rfl))
            (putsNext_of_follows hfollows fun heq => ?_) (ih hordered.2 hfollows' (by simp [hm]) hk)
          -- `mConnectionMap` is not entered inside another monitor.
          have hrank : m.rank < m'.rank := hordered.1 m hm
          obtain rfl := Stmt.enter.inj heq
          exact Nat.not_lt_zero _ hrank
      | exit m' =>
          obtain ⟨rest, rfl, hrest⟩ := hordered
          by_cases hmem : m ∈ rest
          · exact .exit (ih hrest hfollows' hmem hk)
          · exact .exit (.done hmem)
      | wait m' =>
          obtain ⟨rfl, -⟩ := hordered
          obtain rfl := List.mem_singleton.mp hm
          exact .wait List.not_mem_nil
      | notify m' => exact .notify (ih hordered.2 hfollows' hm hk)

end Goes

theorem not_queues_of_isChain {x : Stmt Monitor Call} {k : Code} (h : (x :: k).IsChain Follows) :
    ∀ y ∈ k, ¬ Queues c y := by
  induction k generalizing x with
  | nil => simp
  | cons y k ih =>
      rw [List.isChain_cons_cons] at h
      exact List.forall_mem_cons.mpr ⟨not_queues_of_follows h.1, ih h.2⟩

/-- No thread inside a monitor is about to queue a message for the connection. -/
theorem Stuck.not_queues (h : Stuck cfg c N s) (hheld : s.held u ≠ []) :
    ∀ x ∈ s.code u, ¬ Queues c x := by
  have hfollows := h.inv.follows u
  cases hcode : s.code u with
  | nil => simp
  | cons x k =>
      refine List.forall_mem_cons.mpr ⟨fun hqueue => ?_, not_queues_of_isChain (hcode ▸ hfollows)⟩
      obtain ⟨hmem, htakes, name, hlookup⟩ := h.inv.queues u c hheld x (by simp [hcode]) hqueue
      have hputs : putsNext (s.code u) = none := by
        rw [hcode]
        cases x with
        | run a => cases a <;> first | rfl | exact hqueue.elim
        | _ => rfl
      exact h.absent htakes name (h.inv.settledMap_of_held hmem hputs ▸ hlookup)

theorem unhindered (cfg : Config) (c : ℕ) (N : Option ThreadName) :
    Unhindered (program cfg) (lockOrder cfg) (Stuck cfg c N) (· ≠ .mMessageTask c)
      (.sender c) where
  consistent h := h.inv.consistent
  owner_ne {s m} h hm howner := by
    have hmem := (h.inv.consistent.owner_iff m _).mp howner
    rw [h.held] at hmem
    exact hm (List.mem_singleton.mp hmem)
  exit h ht hs := h.of_not_enter hs ht (by simp) (by simp)
  wait h ht hs := h.of_not_enter hs ht (by simp) (by simp)
  notify h ht hs := h.of_not_enter hs ht (by simp) (by simp)
  leaves {s t m} h ht hm :=
    goes_leaves ht (h.inv.consistent.ordered t) (h.inv.follows t) hm
      (h.not_queues (List.ne_nil_of_mem hm))

theorem rank_le (m : Monitor) : m.rank ≤ 1 := by
  cases m <;> simp [Monitor.rank]

/-- A thread whose code comes to a goal gets there, with the help of those that it waits for. -/
theorem Stuck.runs (h : Stuck cfg c N s) (ht : t ≠ .sender c)
    {goal : List Monitor → Code → Prop} (hgoes : Goes cfg c N t goal (s.held t) (s.code t))
    (hawake : ∀ e ∈ s.waitSet, e.1 ≠ t) :
    ∃ s', Relation.ReflTransGen (Helps (program cfg) (.sender c) t) s s' ∧ Stuck cfg c N s' ∧
      goal (s'.held t) (s'.code t) :=
  hgoes.exists_helps (unhindered cfg c N) rank_le ht h hawake

end Collaboration.Threads
