import Collaboration.Server.Routing

/-! # The server with the lock of `mConnectionMap`

`Server` performs a broadcast, and the answer to an authorization package, without a pause.
Here a broadcast is one step for each connection that it comes to, an answer one step for
each look-up and one for each statement on the connection found, and all other threads go on
in between. A broadcast holds the lock of the map to its end, and whoever uses the map waits.

A test stays in one step with what it guards: `mThreadRunning` is never reset on a server,
and a connection that can send data stays so. A change of status is one step with the calls
of its listeners. -/

namespace Collaboration

open Transition

/-- Where a worker is inside `handleAuthorizePackage`; `looping` is in its own broadcast. -/
inductive AnswerPc where
  /-- at a look-up, or outside -/
  | idle
  | looping
  /-- before `sendDataToTarget` of the connection found -/
  | sending (target : ℕ)
  /-- before its `stopConnection` -/
  | stopping (target : ℕ)
  /-- before `mStopConnection = false` in its `setAutorizeCheckPass` -/
  | clearing (target : ℕ)
  /-- before its `changeConnectStatus(CONNECTED)` -/
  | connecting (target : ℕ)
  deriving DecidableEq, Repr

/-- A call of `SocketServerConnectionThread.sendDataToTarget(data)`, made by the worker of a
connection or by the application. The loop comes to the `remaining` connections in any order. -/
structure Broadcast where
  worker : Option ℕ
  data : Data
  remaining : List ℕ
  deriving DecidableEq, Repr

/-- The lock of `mConnectionMap` is held by the broadcast that is under way. -/
structure LockedServer where
  server : Server
  broadcasting : Option Broadcast
  answers : ℕ → AnswerPc

namespace LockedServer

/-- No worker is inside `handleAuthorizePackage`, and the lock is free. -/
def idle (s : Server) : LockedServer := ⟨s, none, fun _ => .idle⟩

/-- The server right after `start()`. -/
def init (cfg : Config) (free : Int32 → Bool) : LockedServer := idle (.init cfg free)

def setAnswer (s : LockedServer) (c : ℕ) (pc : AnswerPc) : LockedServer :=
  { s with answers := Function.update s.answers c pc }

def setConnection (s : LockedServer) (c : ℕ) (x : ServerConnection) : LockedServer :=
  { s with server := s.server.setConnection c x }

/-- The worker of `c` is done with an answer. -/
def moveOn (s : LockedServer) (c : ℕ) (pc : ServerPc) : LockedServer :=
  { s.setAnswer c .idle with server := s.server.setPc c pc }

/-! ## The answer to a package -/

/-- `sendDataToTargetInner` up to the first connection. -/
def reply (s : LockedServer) (c : ℕ) (threadName : Option ThreadName) (authorize : Bool) :
    Option LockedServer :=
  if s.server.mSocketServerThread.mThreadRunning = false then
    some (s.moveOn c (.deciding threadName authorize))
  else if s.broadcasting.isSome then none
  else
    match threadName with
    | none =>
      some { s.setAnswer c .looping with
        broadcasting :=
          some ⟨some c, Server.authorizePackage authorize, s.server.addressees none⟩ }
    | some _ =>
      match s.server.getConnection threadName with
      | some target => some (s.setAnswer c (.sending target))
      | none => some (s.moveOn c (.deciding threadName authorize))

/-- The second look-up of `stopConnection` or `setAutorizeCheckPass`, or a first one that finds
nothing. -/
def decide (s : LockedServer) (c : ℕ) (threadName : Option ThreadName) (authorize : Bool) :
    Option LockedServer :=
  if s.broadcasting.isSome then none
  else
    match s.server.getConnection threadName with
    | some target => some (s.setAnswer c (if authorize then .clearing target else .stopping target))
    | none => some (s.moveOn c .testing)

/-- The next statement of the worker of `c` inside `handleAuthorizePackage`. -/
def answer (cfg : Config) (s : LockedServer) (c : ℕ) : Option LockedServer :=
  match s.answers c, (s.server.connections c).pc with
  | .idle, .replying threadName authorize => s.reply c threadName authorize
  | .sending target, .replying threadName authorize =>
    some ((s.setConnection target
      ((s.server.connections target).sendDataToTarget (Server.authorizePackage authorize))).moveOn c
        (.deciding threadName authorize))
  | .idle, .deciding threadName authorize => s.decide c threadName authorize
  | .stopping target, .deciding _ false =>
    some ((s.setConnection target (s.server.connections target).stopConnection).moveOn c .testing)
  | .clearing target, .deciding _ true =>
    some ((s.setConnection target
      { s.server.connections target with mStopConnection := false }).setAnswer c
        (.connecting target))
  | .connecting target, .deciding _ true =>
    some ({ s with server := s.server.changeConnectStatus cfg target .connected }.moveOn c .testing)
  | _, _ => none

/-! ## Steps -/

inductive Label where
  | server (l : Server.Label)
  | answer (c : ℕ)
  | sendDataToTarget (data : Data)
  /-- the loop of the broadcast comes to this connection -/
  | offer (c : ℕ)
  /-- the loop of the broadcast ends -/
  | unlock
  deriving DecidableEq, Repr

/-- The steps of `Server` that are taken apart here. -/
def isTakenApart : Server.Label → Bool
  | .reply _ | .decide _ | .sendDataToTarget _ => true
  | _ => false

/-- The accept thread waits for the lock. -/
def waits (s : LockedServer) (l : Server.Label) : Bool :=
  match l, s.server.mSocketServerThread.pc with
  | .runAccept, .storing _ _ => s.broadcasting.isSome
  | _, _ => false

def step (cfg : Config) (s : LockedServer) : Label → Option LockedServer
  | .server l =>
    if isTakenApart l || s.waits l then none
    else (s.server.step cfg l).map fun t => { s with server := t }
  | .answer c => s.answer cfg c
  | .sendDataToTarget data =>
    if s.server.mSocketServerThread.mThreadRunning = false then some s
    else if s.broadcasting.isSome then none
    else some { s with broadcasting := some ⟨none, data, s.server.addressees none⟩ }
  | .offer c =>
    match s.broadcasting with
    | some b =>
      if c ∈ b.remaining then
        some { s.setConnection c ((s.server.connections c).sendDataToTarget b.data) with
          broadcasting := some { b with remaining := b.remaining.erase c } }
      else none
    | none => none
  | .unlock =>
    match s.broadcasting with
    | some ⟨none, _, []⟩ => some { s with broadcasting := none }
    | some ⟨some c, _, []⟩ =>
      match (s.server.connections c).pc with
      | .replying threadName authorize =>
        some { s.moveOn c (.deciding threadName authorize) with broadcasting := none }
      | _ => none
    | _ => none

inductive Steps (cfg : Config) (s : LockedServer) : Label → LockedServer → Prop
  | server {l : Server.Label} {t : Server} (hl : isTakenApart l = false)
      (hstep : s.server.step cfg l = some t) : Steps cfg s (.server l) { s with server := t }
  | unsent {c : ℕ} {threadName : Option ThreadName} {authorize : Bool}
      (hanswer : s.answers c = .idle)
      (hpc : (s.server.connections c).pc = .replying threadName authorize) :
      Steps cfg s (.answer c) (s.moveOn c (.deciding threadName authorize))
  | broadcasts {c : ℕ} {authorize : Bool} (hanswer : s.answers c = .idle)
      (hpc : (s.server.connections c).pc = .replying none authorize)
      (hlock : s.broadcasting = none) :
      Steps cfg s (.answer c)
        { s.setAnswer c .looping with
          broadcasting :=
            some ⟨some c, Server.authorizePackage authorize, s.server.addressees none⟩ }
  | finds {c target : ℕ} {threadName : ThreadName} {authorize : Bool}
      (hanswer : s.answers c = .idle)
      (hpc : (s.server.connections c).pc = .replying (some threadName) authorize)
      (hget : s.server.getConnection (some threadName) = some target) :
      Steps cfg s (.answer c) (s.setAnswer c (.sending target))
  | sends {c target : ℕ} {threadName : Option ThreadName} {authorize : Bool}
      (hanswer : s.answers c = .sending target)
      (hpc : (s.server.connections c).pc = .replying threadName authorize) :
      Steps cfg s (.answer c)
        ((s.setConnection target
          ((s.server.connections target).sendDataToTarget
            (Server.authorizePackage authorize))).moveOn c (.deciding threadName authorize))
  | lost {c : ℕ} {threadName : Option ThreadName} {authorize : Bool}
      (hanswer : s.answers c = .idle)
      (hpc : (s.server.connections c).pc = .deciding threadName authorize)
      (hget : s.server.getConnection threadName = none) :
      Steps cfg s (.answer c) (s.moveOn c .testing)
  | passes {c target : ℕ} {threadName : Option ThreadName} (hanswer : s.answers c = .idle)
      (hpc : (s.server.connections c).pc = .deciding threadName true)
      (hget : s.server.getConnection threadName = some target) :
      Steps cfg s (.answer c) (s.setAnswer c (.clearing target))
  | refuses {c target : ℕ} {threadName : Option ThreadName} (hanswer : s.answers c = .idle)
      (hpc : (s.server.connections c).pc = .deciding threadName false)
      (hget : s.server.getConnection threadName = some target) :
      Steps cfg s (.answer c) (s.setAnswer c (.stopping target))
  | stops {c target : ℕ} {threadName : Option ThreadName} (hanswer : s.answers c = .stopping target)
      (hpc : (s.server.connections c).pc = .deciding threadName false) :
      Steps cfg s (.answer c)
        ((s.setConnection target (s.server.connections target).stopConnection).moveOn c .testing)
  | clears {c target : ℕ} {threadName : Option ThreadName}
      (hanswer : s.answers c = .clearing target)
      (hpc : (s.server.connections c).pc = .deciding threadName true) :
      Steps cfg s (.answer c)
        ((s.setConnection target
          { s.server.connections target with mStopConnection := false }).setAnswer c
            (.connecting target))
  | connects {c target : ℕ} {threadName : Option ThreadName}
      (hanswer : s.answers c = .connecting target)
      (hpc : (s.server.connections c).pc = .deciding threadName true) :
      Steps cfg s (.answer c)
        ({ s with server := s.server.changeConnectStatus cfg target .connected }.moveOn c .testing)
  | unheard {data : Data} : Steps cfg s (.sendDataToTarget data) s
  | sendDataToTarget {data : Data} (hlock : s.broadcasting = none) :
      Steps cfg s (.sendDataToTarget data)
        { s with broadcasting := some ⟨none, data, s.server.addressees none⟩ }
  | offer {b : Broadcast} {c : ℕ} (hlock : s.broadcasting = some b) (hc : c ∈ b.remaining) :
      Steps cfg s (.offer c)
        { s.setConnection c ((s.server.connections c).sendDataToTarget b.data) with
          broadcasting := some { b with remaining := b.remaining.erase c } }
  | unlock {data : Data} (hlock : s.broadcasting = some ⟨none, data, []⟩) :
      Steps cfg s .unlock { s with broadcasting := none }
  | replied {c : ℕ} {data : Data} {threadName : Option ThreadName} {authorize : Bool}
      (hlock : s.broadcasting = some ⟨some c, data, []⟩)
      (hpc : (s.server.connections c).pc = .replying threadName authorize) :
      Steps cfg s .unlock
        { s.moveOn c (.deciding threadName authorize) with broadcasting := none }

variable {cfg : Config} {s t : LockedServer}

theorem steps_of_reply {c : ℕ} {threadName : Option ThreadName} {authorize : Bool}
    (hanswer : s.answers c = .idle)
    (hpc : (s.server.connections c).pc = .replying threadName authorize)
    (h : s.reply c threadName authorize = some t) : Steps cfg s (.answer c) t := by
  unfold reply at h
  split at h
  · obtain rfl := Option.some.inj h
    exact .unsent hanswer hpc
  · split at h
    · cases h
    · rename_i hlock
      split at h
      · obtain rfl := Option.some.inj h
        exact .broadcasts hanswer hpc (by simpa using hlock)
      · split at h
        · rename_i target hget
          obtain rfl := Option.some.inj h
          exact .finds hanswer hpc hget
        · obtain rfl := Option.some.inj h
          exact .unsent hanswer hpc

theorem steps_of_decide {c : ℕ} {threadName : Option ThreadName} {authorize : Bool}
    (hanswer : s.answers c = .idle)
    (hpc : (s.server.connections c).pc = .deciding threadName authorize)
    (h : s.decide c threadName authorize = some t) : Steps cfg s (.answer c) t := by
  unfold decide at h
  split at h
  · cases h
  · split at h
    · rename_i target hget
      obtain rfl := Option.some.inj h
      cases authorize with
      | true => exact .passes hanswer hpc hget
      | false => exact .refuses hanswer hpc hget
    · rename_i hget
      obtain rfl := Option.some.inj h
      exact .lost hanswer hpc hget

theorem steps_of_answer {c : ℕ} (h : s.answer cfg c = some t) : Steps cfg s (.answer c) t := by
  unfold answer at h
  split at h
  case h_1 hanswer hpc => exact steps_of_reply hanswer hpc h
  case h_2 hanswer hpc =>
      obtain rfl := Option.some.inj h
      exact .sends hanswer hpc
  case h_3 hanswer hpc => exact steps_of_decide hanswer hpc h
  case h_4 hanswer hpc =>
      obtain rfl := Option.some.inj h
      exact .stops hanswer hpc
  case h_5 hanswer hpc =>
      obtain rfl := Option.some.inj h
      exact .clears hanswer hpc
  case h_6 hanswer hpc =>
      obtain rfl := Option.some.inj h
      exact .connects hanswer hpc
  case h_7 => cases h

theorem steps_of_step {l : Label} (h : s.step cfg l = some t) : Steps cfg s l t := by
  cases l with
  | server l =>
      simp only [step, Option.ite_none_left_eq_some, Bool.or_eq_true, not_or,
        Bool.not_eq_true] at h
      obtain ⟨⟨hl, -⟩, h⟩ := h
      obtain ⟨u, hu, rfl⟩ := Option.map_eq_some_iff.mp h
      exact .server hl hu
  | answer c => exact steps_of_answer h
  | sendDataToTarget data =>
      simp only [step] at h
      split at h
      · obtain rfl := Option.some.inj h
        exact .unheard
      · split at h
        · cases h
        · rename_i hlock
          obtain rfl := Option.some.inj h
          exact .sendDataToTarget (by simpa using hlock)
  | offer c =>
      simp only [step] at h
      split at h
      · rename_i b hlock
        simp only [Option.ite_none_right_eq_some, Option.some.injEq] at h
        obtain ⟨hc, rfl⟩ := h
        exact .offer hlock hc
      · cases h
  | unlock =>
      simp only [step] at h
      split at h
      · rename_i data hlock
        obtain rfl := Option.some.inj h
        exact .unlock hlock
      · rename_i c data hlock
        split at h
        · rename_i threadName authorize hpc
          obtain rfl := Option.some.inj h
          exact .replied hlock hpc
        · cases h
      · cases h

/-! ## The registry -/

theorem moveOn_keepsRegistry (s : LockedServer) (c : ℕ) (pc : ServerPc) :
    Server.KeepsRegistry s.server (s.moveOn c pc).server :=
  .setPc s.server c pc

/-- Only the steps of the accept thread touch its bookkeeping. -/
theorem keepsRegistry_of_step {l : Label} (h : s.step cfg l = some t)
    (hl : ∀ m, l = .server m → m.ofAcceptThread = false) :
    Server.KeepsRegistry s.server t.server := by
  cases steps_of_step h with
  | server _ hstep => exact Server.step_keepsRegistry hstep (hl _ rfl)
  | unsent | lost | replied => exact moveOn_keepsRegistry s _ _
  | broadcasts | finds | passes | refuses | unheard | sendDataToTarget | unlock =>
      exact .refl s.server
  | sends =>
      refine .trans (.setConnection s.server ?_) (moveOn_keepsRegistry (setConnection s _ _) _ _)
      exact ServerConnection.sendDataToTarget_mThreadName _ _
  | stops =>
      refine .trans (.setConnection s.server ?_) (moveOn_keepsRegistry (setConnection s _ _) _ _)
      rfl
  | clears => exact .setConnection s.server rfl
  | @connects c target =>
      exact (Server.KeepsRegistry.changeConnectStatus cfg s.server target (by simp)).trans
        (moveOn_keepsRegistry { s with server := _ } c _)
  | offer => exact .setConnection s.server (ServerConnection.sendDataToTarget_mThreadName _ _)

theorem exists_registryAt_step {l : Label} (h : ∃ m, Server.RegistryAt s.server m)
    (hs : s.step cfg l = some t) : ∃ m, Server.RegistryAt t.server m := by
  by_cases hl : ∀ m, l = .server m → m.ofAcceptThread = false
  · obtain ⟨m, h⟩ := h
    exact ⟨m, h.keeps (keepsRegistry_of_step hs hl)⟩
  · push Not at hl
    obtain ⟨l, rfl, -⟩ := hl
    cases steps_of_step hs with
    | server _ hstep => exact Server.exists_registryAt_step h hstep

/-! ## What comes of a broadcast and of an answer

Where nothing else happens in between, they end as `Server` has it. -/

theorem step_server {l : Server.Label} (hl : isTakenApart l = false) (u : Server) :
    (idle u).step cfg (.server l) = (u.step cfg l).map idle := by
  have hwaits : (idle u).waits l = false := by
    unfold waits
    split <;> rfl
  simp only [step, hl, hwaits, Bool.or_self, Bool.false_eq_true, if_false]
  rfl

/-- The loop of a broadcast, from any point on. -/
theorem exec_offers {b : Broadcast} (hlock : s.broadcasting = some b) (hb : b.remaining.Nodup) :
    exec (step cfg) s (b.remaining.map .offer) =
      some { s with
        server.connections := fun c =>
          if c ∈ b.remaining then (s.server.connections c).sendDataToTarget b.data
          else s.server.connections c
        broadcasting := some { b with remaining := [] } } := by
  obtain ⟨worker, data, cs⟩ := b
  induction cs generalizing s with
  | nil => simp [← hlock]
  | cons c cs ih =>
      obtain ⟨hc, hcs⟩ := List.nodup_cons.mp hb
      have hstep : s.step cfg (.offer c) =
          some { s.setConnection c ((s.server.connections c).sendDataToTarget data) with
            broadcasting := some ⟨worker, data, cs⟩ } := by
        simp [step, hlock]
      have hloop : ∀ d, (if d ∈ cs then
            ((s.setConnection c ((s.server.connections c).sendDataToTarget data)).server.connections
              d).sendDataToTarget data
          else (s.setConnection c
            ((s.server.connections c).sendDataToTarget data)).server.connections d) =
          if d ∈ c :: cs then (s.server.connections d).sendDataToTarget data
          else s.server.connections d := by
        intro d
        by_cases hd : d = c
        · subst hd
          simp [setConnection, hc]
        · simp [setConnection, hd]
      rw [List.map_cons, exec_cons, hstep, Option.bind_some, ih rfl hcs]
      simp only [funext hloop]
      rfl

/-- Each connection is stored once. -/
theorem nodup_addressees {u : Server} {m : ℕ} (h : Server.RegistryAt u m) :
    (u.addressees none).Nodup := by
  refine List.Nodup.map_on ?_ u.mSocketServerThread.mConnectionMap.nodupKeys.nodup
  intro e he e' he' heq
  have hkey : ∀ e ∈ u.mSocketServerThread.mConnectionMap.entries, e.1 = keyOf e.2 :=
    fun e he => ((h.map e.1 e.2).mp (AList.mem_lookup_iff.mpr he)).2.1
  exact Sigma.ext ((hkey e he).trans (heq ▸ (hkey e' he').symm)) (heq_of_eq heq)

theorem broadcast_eq (u : Server) (data : Data) :
    u.broadcast data = { u with
      connections := fun c =>
        if c ∈ u.addressees none then (u.connections c).sendDataToTarget data
        else u.connections c } := by
  simp only [Server.broadcast, Server.isRegistered_iff]

@[simp] theorem moveOn_setAnswer (s : LockedServer) (c : ℕ) (a : AnswerPc) (pc : ServerPc) :
    (s.setAnswer c a).moveOn c pc = s.moveOn c pc := by
  simp [moveOn, setAnswer]

theorem moveOn_idle (u : Server) (c : ℕ) (pc : ServerPc) :
    (idle u).moveOn c pc = idle (u.setPc c pc) := by
  simp [moveOn, idle, setAnswer]

/-- A broadcast that nothing interrupts, up to the end of its loop. -/
theorem exec_broadcast {u : Server} {m : ℕ} (hreg : Server.RegistryAt u m) {answers : ℕ → AnswerPc}
    (worker : Option ℕ) (data : Data) :
    exec (step cfg) ⟨u, some ⟨worker, data, u.addressees none⟩, answers⟩
        ((u.addressees none).map .offer) =
      some ⟨u.broadcast data, some ⟨worker, data, []⟩, answers⟩ := by
  rw [broadcast_eq]
  exact exec_offers (b := ⟨worker, data, u.addressees none⟩) rfl (nodup_addressees hreg)

theorem exec_idle_reply {u : Server} {m c : ℕ} {threadName : Option ThreadName} {authorize : Bool}
    (hreg : Server.RegistryAt u m)
    (hpc : (u.connections c).pc = .replying threadName authorize) :
    ∃ ls, exec (step cfg) (idle u) ls =
      some (idle ((u.sendDataToTargetInner threadName (Server.authorizePackage authorize)).setPc c
        (.deciding threadName authorize))) := by
  have hfirst : (idle u).step cfg (.answer c) = (idle u).reply c threadName authorize := by
    simp [step, answer, idle, hpc]
  by_cases hrun : u.mSocketServerThread.mThreadRunning = true
  · cases threadName with
    | none =>
        have henter : (idle u).reply c none authorize = some ⟨u,
            some ⟨some c, Server.authorizePackage authorize, u.addressees none⟩,
            Function.update (fun _ => .idle) c .looping⟩ := by
          simp [reply, idle, hrun, setAnswer]
        refine ⟨.answer c :: ((u.addressees none).map .offer ++ [.unlock]), ?_⟩
        rw [exec_cons, hfirst, henter, Option.bind_some, exec_append, exec_broadcast hreg]
        have hpc' : ((u.broadcast (Server.authorizePackage authorize)).connections c).pc =
            .replying none authorize := by
          obtain ⟨sender, heq⟩ :=
            (u.connections c).sendDataToTarget_eq (Server.authorizePackage authorize)
          simp only [Server.broadcast]
          split
          · rw [heq, hpc]
          · exact hpc
        simp [step, hpc', Server.sendDataToTargetInner, hrun, moveOn, setAnswer, idle]
    | some name =>
        cases hget : u.getConnection (some name) with
        | none =>
            refine ⟨[.answer c], ?_⟩
            have hnext : (idle u).reply c (some name) authorize =
                some ((idle u).moveOn c (.deciding (some name) authorize)) := by
              simp [reply, idle, hrun, hget]
            rw [exec_cons, hfirst, hnext, moveOn_idle]
            simp [Server.sendDataToTargetInner, hrun, hget]
        | some target =>
            let pkg := Server.authorizePackage authorize
            have hfound : (idle u).reply c (some name) authorize =
                some ((idle u).setAnswer c (.sending target)) := by
              simp [reply, idle, hrun, hget]
            have hsend : ((idle u).setAnswer c (.sending target)).step cfg (.answer c) =
                some (idle ((u.setConnection target
                  ((u.connections target).sendDataToTarget pkg)).setPc c
                    (.deciding (some name) authorize))) := by
              simp [step, answer, idle, setAnswer, setConnection, moveOn, hpc, pkg]
            refine ⟨[.answer c, .answer c], ?_⟩
            rw [exec_cons, hfirst, hfound, Option.bind_some, exec_cons, hsend]
            simp [Server.sendDataToTargetInner, hrun, hget, pkg]
  · refine ⟨[.answer c], ?_⟩
    have hnext : (idle u).reply c threadName authorize =
        some ((idle u).moveOn c (.deciding threadName authorize)) := by
      simp [reply, idle, hrun]
    rw [exec_cons, hfirst, hnext, moveOn_idle]
    simp [Server.sendDataToTargetInner, hrun]

theorem exec_idle_decide {u : Server} {c : ℕ} {threadName : Option ThreadName} {authorize : Bool}
    (hpc : (u.connections c).pc = .deciding threadName authorize) :
    ∃ ls, exec (step cfg) (idle u) ls =
      some (idle ((u.decide cfg threadName authorize).setPc c .testing)) := by
  have hfirst : (idle u).step cfg (.answer c) = (idle u).decide c threadName authorize := by
    simp [step, answer, idle, hpc]
  cases hget : u.getConnection threadName with
  | none =>
      have hlost : (idle u).decide c threadName authorize = some ((idle u).moveOn c .testing) := by
        simp [decide, idle, hget]
      refine ⟨[.answer c], ?_⟩
      rw [exec_cons, hfirst, hlost, moveOn_idle]
      simp [Server.decide, hget]
  | some target =>
      cases authorize with
      | false =>
          have hfound : (idle u).decide c threadName false =
              some ((idle u).setAnswer c (.stopping target)) := by
            simp [decide, idle, hget]
          have hstop : ((idle u).setAnswer c (.stopping target)).step cfg (.answer c) =
              some (idle ((u.setConnection target (u.connections target).stopConnection).setPc c
                .testing)) := by
            simp [step, answer, idle, setAnswer, setConnection, moveOn, hpc]
          refine ⟨[.answer c, .answer c], ?_⟩
          rw [exec_cons, hfirst, hfound, Option.bind_some, exec_cons, hstop]
          simp [Server.decide, hget]
      | true =>
          let cleared :=
            u.setConnection target { u.connections target with mStopConnection := false }
          have hfound : (idle u).decide c threadName true =
              some ((idle u).setAnswer c (.clearing target)) := by
            simp [decide, idle, hget]
          have hclear : ((idle u).setAnswer c (.clearing target)).step cfg (.answer c) =
              some ((idle cleared).setAnswer c (.connecting target)) := by
            simp [step, answer, idle, setAnswer, setConnection, hpc, cleared]
          have hpc' : (cleared.connections c).pc = .deciding threadName true := by
            by_cases hc : c = target
            · subst hc
              simpa [cleared] using hpc
            · simpa [cleared, hc] using hpc
          have hconnect : ((idle cleared).setAnswer c (.connecting target)).step cfg (.answer c) =
              some (idle ((cleared.changeConnectStatus cfg target .connected).setPc c
                .testing)) := by
            simp [step, answer, idle, setAnswer, moveOn, hpc']
          refine ⟨[.answer c, .answer c, .answer c], ?_⟩
          rw [exec_cons, hfirst, hfound, Option.bind_some, exec_cons, hclear, Option.bind_some,
            exec_cons, hconnect]
          simp [Server.decide, hget, Server.setAutorizeCheckPass, cleared]

theorem exec_idle_sendDataToTarget {u : Server} {m : ℕ} (hreg : Server.RegistryAt u m)
    (data : Data) :
    ∃ ls, exec (step cfg) (idle u) ls = some (idle (u.sendDataToTarget data)) := by
  by_cases hrun : u.mSocketServerThread.mThreadRunning = true
  · have henter : (idle u).step cfg (.sendDataToTarget data) =
        some ⟨u, some ⟨none, data, u.addressees none⟩, fun _ => .idle⟩ := by
      simp [step, idle, hrun]
    refine ⟨.sendDataToTarget data :: ((u.addressees none).map .offer ++ [.unlock]), ?_⟩
    rw [exec_cons, henter, Option.bind_some, exec_append, exec_broadcast hreg]
    simp [step, Server.sendDataToTarget, hrun, idle]
  · refine ⟨[.sendDataToTarget data], ?_⟩
    simp [step, Server.sendDataToTarget, hrun, idle]

/-- A step of `Server` is a run of the steps that it consists of. -/
theorem exec_idle_of_step {u v : Server} {m : ℕ} {l : Server.Label} (hreg : Server.RegistryAt u m)
    (h : u.step cfg l = some v) : ∃ ls, exec (step cfg) (idle u) ls = some (idle v) := by
  by_cases hl : isTakenApart l = false
  · exact ⟨[.server l], by simp [step_server hl, h]⟩
  · cases Server.steps_of_step h with
    | reply hpc => exact exec_idle_reply hreg hpc
    | decide hpc => exact exec_idle_decide hpc
    | sendDataToTarget => exact exec_idle_sendDataToTarget hreg _
    | _ => exact absurd rfl hl

/-- Every run of `Server` is one in which nothing comes between the steps of a broadcast or of
an answer. -/
theorem reachable_idle {free : Int32 → Bool} {ls : List Server.Label} {u : Server}
    (he : exec (Server.step cfg) (.init cfg free) ls = some u) :
    Reachable (step cfg) (init cfg free) (idle u) := by
  let I := fun u => (∃ m, Server.RegistryAt u m) ∧ Reachable (step cfg) (init cfg free) (idle u)
  refine (invariant (I := I) ?_ ⟨⟨0, Server.registryAt_init cfg free⟩, .refl _⟩ he).2
  rintro u l v ⟨⟨m, hreg⟩, past, hpast⟩ hs
  obtain ⟨ls, hls⟩ := exec_idle_of_step hreg hs
  exact ⟨Server.exists_registryAt_step ⟨m, hreg⟩ hs, past ++ ls, by simp [exec_append, hpast, hls]⟩

end LockedServer

end Collaboration
