import Collaboration.Lifecycle.Datagrams
import Collaboration.Session.Delivery
import Mathlib.Algebra.BigOperators.Fin
import Mathlib.Algebra.Order.BigOperators.Group.Finset
import Mathlib.Data.Fintype.Basic

/-! # Servers and clients on a local network

What a discovery thread sends reaches the discovery threads that listen on its port, on any
device, any number of times and in any order, or not at all. -/

namespace Collaboration

open JString Transition

/-- The devices on a network. -/
structure Hosts (ι κ : Type*) where
  charset : Charset
  digits : DigitTable
  server : ι → Config
  client : κ → ClientConfig

/-- `aired` are the datagrams that were sent so far, with their ports. -/
structure LocalNetwork (ι κ : Type*) where
  servers : ι → ServerHost
  clients : κ → ClientConnection
  aired : List (Int32 × List UInt8)

namespace LocalNetwork

variable {ι κ : Type*} {net : Hosts ι κ} {s t : LocalNetwork ι κ} {free : Int32 → Bool}

/-- Before any device has called `start()`. -/
def init (net : Hosts ι κ) (free : Int32 → Bool) : LocalNetwork ι κ where
  servers i := .new (net.server i) free
  clients j := .new (net.client j) free
  aired := []

/-- A datagram with this message was sent to the port. -/
def carries (net : Hosts ι κ) (s : LocalNetwork ι κ) (port : Int32) (message : JString) : Bool :=
  s.aired.any fun datagram => datagram.1 == port &&
    BroadcastReceiveThread.messageOf net.charset datagram.2 == message

/-- `sendBroadcast` of tasks. -/
def datagrams (net : Hosts ι κ) (tasks : List BroadcastTask) : List (Int32 × List UInt8) :=
  tasks.map fun task => (task.port, net.charset.getBytes task.message)

inductive Label (ι κ : Type*) where
  | server (i : ι) (l : ServerHost.Label)
  | client (j : κ) (l : ClientConnection.Label)
  deriving DecidableEq

section Step

variable [DecidableEq ι] [DecidableEq κ]

def step (net : Hosts ι κ) (s : LocalNetwork ι κ) : Label ι κ → Option (LocalNetwork ι κ)
  | .server i l =>
    if l.hears.all (s.carries net (net.server i).CLIENT_BROADCAST_THREAD_PORT) then
      ((s.servers i).step (net.server i) l).map fun t =>
        { s with
          servers := Function.update s.servers i t
          aired := s.aired ++ datagrams net ((s.servers i).airs l) }
    else none
  | .client j l =>
    if l.hears.all (s.carries net (net.client j).SERVER_PROADCAST_THREAD_PORT) then
      ((s.clients j).step (net.client j) net.digits l).map fun t =>
        { s with
          clients := Function.update s.clients j t
          aired := s.aired ++ datagrams net ((s.clients j).airs l) }
    else none

inductive Steps (net : Hosts ι κ) (s : LocalNetwork ι κ) : Label ι κ → LocalNetwork ι κ → Prop
  | server {i : ι} {l : ServerHost.Label} {t : ServerHost}
      (hears : ∀ m ∈ l.hears,
        s.carries net (net.server i).CLIENT_BROADCAST_THREAD_PORT m = true)
      (hstep : (s.servers i).step (net.server i) l = some t) :
      Steps net s (.server i l)
        { s with
          servers := Function.update s.servers i t
          aired := s.aired ++ datagrams net ((s.servers i).airs l) }
  | client {j : κ} {l : ClientConnection.Label} {t : ClientConnection}
      (hears : ∀ m ∈ l.hears,
        s.carries net (net.client j).SERVER_PROADCAST_THREAD_PORT m = true)
      (hstep : (s.clients j).step (net.client j) net.digits l = some t) :
      Steps net s (.client j l)
        { s with
          clients := Function.update s.clients j t
          aired := s.aired ++ datagrams net ((s.clients j).airs l) }

theorem steps_of_step {l : Label ι κ} (hs : step net s l = some t) : Steps net s l t := by
  cases l with
  | server i l =>
      simp only [step, Option.ite_none_right_eq_some, Option.map_eq_some_iff, Option.all_eq_true]
        at hs
      obtain ⟨hears, u, hu, rfl⟩ := hs
      exact .server hears hu
  | client j l =>
      simp only [step, Option.ite_none_right_eq_some, Option.map_eq_some_iff, Option.all_eq_true]
        at hs
      obtain ⟨hears, u, hu, rfl⟩ := hs
      exact .client hears hu

end Step

/-! ## What waits to be sent -/

/-- Servers announce themselves, and clients ask. -/
structure Queued (net : Hosts ι κ) (s : LocalNetwork ι κ) : Prop where
  servers : ∀ i, (s.servers i).discovery.Announces (net.server i).SERVER_PROADCAST_THREAD_PORT
    (net.server i).announcement
  clients : ∀ j, (s.clients j).discovery.Announces (net.client j).CLIENT_BROADCAST_THREAD_PORT
    ClientConnection.request

theorem queued_init (net : Hosts ι κ) (free : Int32 → Bool) : Queued net (init net free) where
  servers _ := Discovery.announces_new _ _
  clients _ := Discovery.announces_new _ _

theorem Queued.server [DecidableEq ι] (h : Queued net s) {i : ι} {u : ServerHost}
    (hu : u.discovery.Announces (net.server i).SERVER_PROADCAST_THREAD_PORT
      (net.server i).announcement) (aired : List (Int32 × List UInt8)) :
    Queued net { s with servers := Function.update s.servers i u, aired := aired } where
  servers := (Function.forall_update_iff s.servers fun i u => u.discovery.Announces
    (net.server i).SERVER_PROADCAST_THREAD_PORT (net.server i).announcement).mpr
      ⟨hu, fun i _ => h.servers i⟩
  clients := h.clients

theorem Queued.client [DecidableEq κ] (h : Queued net s) {j : κ} {u : ClientConnection}
    (hu : u.discovery.Announces (net.client j).CLIENT_BROADCAST_THREAD_PORT
      ClientConnection.request) (aired : List (Int32 × List UInt8)) :
    Queued net { s with clients := Function.update s.clients j u, aired := aired } where
  servers := h.servers
  clients := (Function.forall_update_iff s.clients fun j u => u.discovery.Announces
    (net.client j).CLIENT_BROADCAST_THREAD_PORT ClientConnection.request).mpr
      ⟨hu, fun j _ => h.clients j⟩

theorem mem_datagrams {tasks : List BroadcastTask} {port : Int32} {message : JString}
    (htasks : ∀ task ∈ tasks, task.port = port ∧ task.message = message) :
    ∀ datagram ∈ datagrams net tasks, datagram = (port, net.charset.getBytes message) := by
  intro datagram hdatagram
  obtain ⟨task, htask, rfl⟩ := List.mem_map.mp hdatagram
  obtain ⟨rfl, rfl⟩ := htasks task htask
  rfl

theorem queued_step [DecidableEq ι] [DecidableEq κ] (h : Queued net s) {l : Label ι κ}
    (hs : step net s l = some t) : Queued net t := by
  cases steps_of_step hs with
  | @server i l u hears hstep =>
      obtain ⟨fresh, -, hmove⟩ := ServerHost.taskMove_of_step hstep
      exact h.server (hmove.announces (h.servers i)).1 _
  | @client j l u hears hstep =>
      obtain ⟨fresh, -, hmove⟩ := ClientConnection.taskMove_of_step hstep
      exact h.client (hmove.announces (h.clients j)).1 _

/-! ## How much is sent -/

namespace Label

def startsServer : Label ι κ → Bool
  | .server _ l => l.starts
  | .client _ _ => false

def startsClient : Label ι κ → Bool
  | .server _ _ => false
  | .client _ l => l.starts

/-- The server hands a datagram to its `Connection`. -/
def handles [DecidableEq ι] (i : ι) : Label ι κ → Bool
  | .server i' l => i' = i && l.handles
  | .client _ _ => false

end Label

variable [DecidableEq ι] [DecidableEq κ] [Fintype κ]

/-- What was sent to a port, and what waits in the clients. -/
def asked (p : Int32) (s : LocalNetwork ι κ) : ℕ :=
  s.aired.countP (·.1 = p) + ∑ j, (s.clients j).discovery.waiting

/-- What was sent, and what waits anywhere. -/
def traffic [Fintype ι] (s : LocalNetwork ι κ) : ℕ :=
  s.aired.length + ∑ i, (s.servers i).discovery.waiting + ∑ j, (s.clients j).discovery.waiting

theorem asked_of_step {p : Int32} (hserver : ∀ i, (net.server i).SERVER_PROADCAST_THREAD_PORT ≠ p)
    (h : Queued net s) {l : Label ι κ} (hs : step net s l = some t) :
    asked p t ≤ asked p s + l.startsClient.toNat := by
  unfold asked
  cases steps_of_step hs with
  | @server i l u hears hstep =>
      obtain ⟨fresh, -, hmove⟩ := ServerHost.taskMove_of_step hstep
      obtain ⟨-, haired⟩ := hmove.announces (h.servers i)
      have hnone : (datagrams net ((s.servers i).airs l)).countP (·.1 = p) = 0 := by
        rw [List.countP_eq_zero]
        intro datagram hdatagram
        rw [mem_datagrams haired datagram hdatagram]
        simpa using hserver i
      simp only [List.countP_append, hnone]
      omega
  | @client j l u hears hstep =>
      obtain ⟨fresh, hfresh, hmove⟩ := ClientConnection.taskMove_of_step hstep
      have hsum := sum_update_add_le s.clients (·.discovery.waiting) j u
        (hmove.waiting_le (h.clients j))
      have hcount : (datagrams net ((s.clients j).airs l)).countP (·.1 = p) ≤
          ((s.clients j).airs l).length := List.countP_le_length.trans_eq (List.length_map _)
      simp only [List.countP_append, Label.startsClient]
      omega

theorem traffic_of_step [Fintype ι] (h : Queued net s) {l : Label ι κ}
    (hs : step net s l = some t) :
    traffic t ≤ traffic s +
      (l.startsServer.toNat + l.startsClient.toNat + ∑ i, (l.handles i).toNat) := by
  unfold traffic
  cases steps_of_step hs with
  | @server i l u hears hstep =>
      obtain ⟨fresh, hfresh, hmove⟩ := ServerHost.taskMove_of_step hstep
      have hsum := sum_update_add_le s.servers (·.discovery.waiting) i u
        (hmove.waiting_le (h.servers i))
      have hhandles : ∑ i', ((Label.server (κ := κ) i l).handles i').toNat = l.handles.toNat := by
        rw [Finset.sum_eq_single_of_mem i (Finset.mem_univ i) fun i' _ hi' => by
          simp [Label.handles, Ne.symm hi']]
        simp [Label.handles]
      simp only [datagrams, List.length_append, List.length_map, hhandles, Label.startsServer,
        Label.startsClient, Bool.toNat_false]
      unfold ServerHost.Label.tasks at hfresh
      omega
  | @client j l u hears hstep =>
      obtain ⟨fresh, hfresh, hmove⟩ := ClientConnection.taskMove_of_step hstep
      have hsum := sum_update_add_le s.clients (·.discovery.waiting) j u
        (hmove.waiting_le (h.clients j))
      simp only [datagrams, List.length_append, List.length_map, Label.handles, Label.startsServer,
        Label.startsClient, Bool.toNat_false, Finset.sum_const_zero]
      omega

/-- Servers and clients never keep each other busy: when no server handles more datagrams than
were sent to the port it listens to, what is sent in a run is bounded by how often devices were
started. -/
theorem discovery_dies_out [Fintype ι] (net : Hosts ι κ) (free : Int32 → Bool) (p : Int32)
    (hserver : ∀ i, (net.server i).SERVER_PROADCAST_THREAD_PORT ≠ p) (ls : List (Label ι κ))
    (s : LocalNetwork ι κ) (he : exec (step net) (init net free) ls = some s)
    (honce : ∀ i, ls.countP (Label.handles i) ≤ s.aired.countP (·.1 = p)) :
    s.aired.length ≤ ls.countP Label.startsServer +
      (Fintype.card ι + 1) * ls.countP Label.startsClient := by
  have hasked : s.aired.countP (·.1 = p) ≤ ls.countP Label.startsClient := by
    have hgain : asked p s ≤ asked p (init net free) + (ls.map (·.startsClient.toNat)).sum :=
      exec_gain_of_invariant (fun _ _ _ h hs => queued_step h hs)
        (fun _ l _ h hs => asked_of_step hserver (l := l) h hs) (queued_init net free) he
    rw [sum_map_toNat] at hgain
    have hinit : asked p (init net free) = 0 := by
      simp [asked, init, ClientConnection.new, Discovery.waiting, Discovery.new]
    exact (Nat.le_add_right _ _).trans (hgain.trans_eq (by rw [hinit, Nat.zero_add]))
  have htraffic : traffic s ≤ traffic (init net free) + (ls.map fun l =>
      l.startsServer.toNat + l.startsClient.toNat + ∑ i, (l.handles i).toNat).sum :=
    exec_gain_of_invariant (fun _ _ _ h hs => queued_step h hs)
      (fun _ l _ h hs => traffic_of_step (l := l) h hs) (queued_init net free) he
  have hinit : traffic (init net free) = 0 := by
    simp [traffic, init, ClientConnection.new, ServerHost.new, Discovery.waiting, Discovery.new]
  have hhandles : ∑ i : ι, ls.countP (Label.handles i) ≤
      Fintype.card ι * ls.countP Label.startsClient :=
    (Finset.sum_le_card_nsmul _ _ _ fun i _ => (honce i).trans hasked).trans_eq (by simp)
  have hsum : (ls.map fun l => ∑ i, (l.handles i).toNat).sum =
      ∑ i : ι, ls.countP (Label.handles i) := by
    simpa [sum_map_toNat] using Multiset.sum_map_sum (m := (ls : Multiset (Label ι κ)))
      (s := Finset.univ) (f := fun l i => (l.handles i).toNat)
  simp only [List.sum_map_add, hsum, sum_map_toNat, hinit, Nat.zero_add] at htraffic
  have haired : s.aired.length ≤ traffic s := by
    unfold traffic
    omega
  rw [Nat.add_mul, Nat.one_mul]
  omega

/-- One server, and one client that has the sample device. -/
def sampleNetwork : Hosts Unit Unit where
  charset := .ascii
  digits := .ascii
  server _ := .connectionImpl (some (lit "10.0.0.1")) true
  client _ := sampleClient

/-- The client asks, and connects to the server that answers. -/
def asking : List (Label Unit Unit) :=
  [.server () .start, .server () (.discovery (.receiver 0 (.bind true))),
    .server () (.discovery (.receiver 0 .run)), .server () (.discovery (.receiver 0 .run)),
    .server () (.discovery (.receiver 0 .run)), .client () .start,
    .client () (.discovery (.receiver 0 (.bind true))),
    .client () (.discovery (.receiver 0 .run)), .client () (.discovery (.receiver 0 .run)),
    .client () (.discovery (.receiver 0 .run)), .client () (.discovery (.sender 0 true)),
    .client () (.discovery (.sender 0 true)),
    .server () (.discovery (.receiver 0 (.receive (lit "New_Client_In")))),
    .server () (.handle 0), .server () (.discovery (.sender 0 true)),
    .server () (.discovery (.sender 0 true)),
    .client () (.discovery (.receiver 0 (.receive (lit "10.0.0.1:10083")))),
    .client () (.handle 0)]

theorem discovery_dies_out_asking :
    ∃ s, exec (step sampleNetwork) (init sampleNetwork fun _ => true) asking = some s ∧
      s.aired.length ≤ asking.countP Label.startsServer +
        (Fintype.card Unit + 1) * asking.countP Label.startsClient := by
  have hstate : (exec (step sampleNetwork) (init sampleNetwork fun _ => true) asking).map
      (fun s => s.aired.countP (·.1 = 10082)) = some 1 := by decide +kernel
  obtain ⟨s, he, hs⟩ := Option.map_eq_some_iff.mp hstate
  refine ⟨s, he, discovery_dies_out sampleNetwork _ 10082 (by decide) asking s he fun i => ?_⟩
  rw [hs]
  exact Nat.le_of_eq rfl

end LocalNetwork

end Collaboration
