import Collaboration.Session.Queues

/-! # What the applications get from each other

One server and any number of clients. What an application is handed was submitted by the
application at the other end, and is handed over no more often than it was submitted. -/

namespace Collaboration

open Transition

open Sender (pending)

/-! ## What reaches an application was read -/

theorem Server.received_sublist {cfg : Config} {free : Int32 → Bool} {ls : List Server.Label}
    {s : Server} (h : exec (Server.step cfg) (.init cfg free) ls = some s) :
    s.received.Sublist (ls.filterMap Server.Label.readFrom) := by
  refine history_nil (I := fun past s => s.received.Sublist (past.filterMap Server.Label.readFrom))
    ?_ (List.nil_sublist _) h
  intro past s l t hsub hs
  rw [Server.received_of_step hs, List.filterMap_append]
  refine hsub.append ?_
  cases l with
  | read c data throws =>
      simp only [Server.handed]
      split
      · exact List.Sublist.refl _
      · exact List.nil_sublist _
  | _ => exact List.nil_sublist _

theorem Client.received_sublist {cfg : ClientConfig} {free : Int32 → Bool}
    {ls : List Client.Label} {s : Client}
    (h : exec (Client.step cfg) (.init cfg free) ls = some s) :
    s.received.Sublist (ls.filterMap Client.Label.readFrom) := by
  refine history_nil (I := fun past s => s.received.Sublist (past.filterMap Client.Label.readFrom))
    ?_ (List.nil_sublist _) h
  intro past s l t hsub hs
  rw [Client.received_of_step hs, List.filterMap_append]
  refine hsub.append ?_
  cases l with
  | read n data throws =>
      simp only [Client.handed]
      split
      · exact List.Sublist.refl _
      · exact List.nil_sublist _
  | _ => exact List.nil_sublist _

/-! ## One server and any number of clients -/

namespace Server

/-- The objects of a kind that the application submits in a step. -/
def Label.submits (p : Data → Bool) : Label → ℕ
  | .sendDataToTarget data => if p data then 1 else 0
  | _ => 0

/-- Of an application's kind, a connection is given no more than the application submits. -/
theorem pending_step {cfg : Config} {s t : Server} {l : Label} {p : Data → Bool}
    (hp : ∀ d, p d = true → d.isApplication = true) (hs : s.step cfg l = some t) (c : ℕ) :
    pending p (t.connections c).backlog + (entries c (s.writes l).toList).countP p ≤
      pending p (s.connections c).backlog + l.submits p := by
  refine (queueMove_of_step hs c).pending_le fun d hd hpd => ?_
  have happ := hp d hpd
  cases l with
  | sendDataToTarget data =>
      obtain rfl : d = data := hd
      simp [Label.submits, hpd]
  | reply c =>
      obtain ⟨authorize, rfl⟩ := hd
      cases happ
  | connection d m =>
      cases m with
      | heartbeat =>
          obtain ⟨-, rfl⟩ := hd
          cases happ
      | _ => exact hd.elim
  | _ => exact hd.elim

end Server

namespace Client

/-- The farewells of a kind. -/
def Label.farewells (p : Data → Bool) : Label → ℕ
  | .thread _ .close => if p SocketClientConnectionThread.farewell then 1 else 0
  | _ => 0

/-- What a step gives to one thread: the application's objects go to the current thread, the
farewell to the thread that leaves. -/
def gives (p : Data → Bool) (s : Client) (n : ℕ) : Label → ℕ
  | .sendDataToTarget data => if s.mSocketClientThread = n then if p data then 1 else 0 else 0
  | .thread m .close =>
    if m = n then if p SocketClientConnectionThread.farewell then 1 else 0 else 0
  | _ => 0

theorem sum_gives_le (p : Data → Bool) (s : Client) (l : Label) (threads : ℕ) :
    ∑ n ∈ Finset.range threads, s.gives p n l ≤
      l.submits (fun d _ => p d) + l.farewells p := by
  have hone : ∀ m k, ∑ n ∈ Finset.range threads, (if m = n then k else 0) ≤ k := by
    intro m k
    rw [Finset.sum_ite_eq]
    split
    · exact le_rfl
    · exact Nat.zero_le k
  cases l with
  | sendDataToTarget data => exact hone s.mSocketClientThread _
  | thread m l =>
      cases l with
      | close => simpa [gives, Label.submits, Label.farewells] using hone m _
      | _ => simp [gives]
  | _ => simp [gives]

theorem pending_step {cfg : ClientConfig} {s t : Client} {l : Label} {p : Data → Bool}
    (hp : ∀ d, p d = true → d.isApplication = true) (hs : s.step cfg l = some t) (n : ℕ) :
    pending p (t.threads n).backlog + (entries n (s.writes l).toList).countP p ≤
      pending p (s.threads n).backlog + s.gives p n l := by
  refine (queueMove_of_step hs n).pending_le fun d hd hpd => ?_
  have happ := hp d hpd
  cases l with
  | sendDataToTarget data =>
      obtain ⟨rfl, rfl⟩ : s.mSocketClientThread = n ∧ d = data := hd
      simp [gives, hpd]
  | thread m l =>
      cases l with
      | close =>
          obtain ⟨rfl, rfl⟩ := hd
          simp [gives, hpd]
      | _ => exact hd.elim
  | unauthorized m =>
      obtain ⟨deviceId, rfl⟩ := hd
      cases happ
  | read m data throws =>
      obtain rfl : d = .inner .heartbeat := hd
      cases happ
  | _ => exact hd.elim

/-- Over all threads of a client together. -/
theorem sum_pending_step {cfg : ClientConfig} {s t : Client} {l : Label} {p : Data → Bool}
    (hp : ∀ d, p d = true → d.isApplication = true) (hs : s.step cfg l = some t)
    (threads : ℕ) :
    ∑ n ∈ Finset.range threads, pending p (t.threads n).backlog +
        ∑ n ∈ Finset.range threads, (entries n (s.writes l).toList).countP p ≤
      ∑ n ∈ Finset.range threads, pending p (s.threads n).backlog +
        (l.submits (fun d _ => p d) + l.farewells p) := by
  rw [← Finset.sum_add_distrib]
  have heach := Finset.sum_le_sum fun n (_ : n ∈ Finset.range threads) => pending_step hp hs n
  refine heach.trans ?_
  rw [Finset.sum_add_distrib]
  exact (Nat.add_le_add_left (sum_gives_le p s l threads) _)

end Client

namespace Party

variable {ι : Type} [DecidableEq ι]

/-- What a client's step writes on the connections of one client. -/
theorem entries_writes {cfg : ι → ClientConfig} {peer : ι → ℕ → ℕ}
    (hpeer : Function.Injective fun e : ι × ℕ => peer e.1 e.2) (f : ι → Client)
    (l : ι × Client.Label) (k : ι) (n : ℕ) :
    entries (peer k n) ((clients cfg peer).writes f l).toList =
      if l.1 = k then entries n ((f k).writes l.2).toList else [] := by
  have hne : ∀ {j : ι} {m : ℕ}, (j, m) ≠ (k, n) → peer j m ≠ peer k n :=
    fun h heq => h (hpeer heq)
  obtain ⟨j, l⟩ := l
  cases l with
  | thread m l =>
      cases hw : ((f j).threads m).writes l with
      | none => by_cases hj : j = k <;> simp_all [clients, Client.writes]
      | some d =>
          by_cases hj : j = k
          · subst hj
            by_cases hm : m = n
            · subst hm
              simp [clients, Client.writes, hw]
            · have hpeers := hne (show (j, m) ≠ (j, n) by simp [hm])
              simp [clients, Client.writes, hw, entries_cons_of_ne hm, entries_cons_of_ne hpeers]
          · have hpeers := hne (show (j, m) ≠ (k, n) by simp [hj])
            simp [clients, hw, hj, entries_cons_of_ne hpeers]
  | _ => simp [clients, Client.writes]

/-- What is read on a thread is read on its connection. -/
theorem entries_reads_sublist (peer : ι → ℕ → ℕ) (k : ι) (n : ℕ)
    (ls : List (ι × Client.Label)) :
    (entries n ((entries k ls).filterMap Client.Label.readFrom)).Sublist
      (entries (peer k n) (ls.filterMap fun l =>
        l.2.readFrom.map fun e => (peer l.1 e.1, e.2))) := by
  induction ls with
  | nil => exact List.Sublist.refl _
  | cons l ls ih =>
      obtain ⟨j, l⟩ := l
      have hkept : (entries (peer k n) (ls.filterMap fun l =>
            l.2.readFrom.map fun e => (peer l.1 e.1, e.2))).Sublist
          (entries (peer k n) (((j, l) :: ls).filterMap fun l =>
            l.2.readFrom.map fun e => (peer l.1 e.1, e.2))) := by
        simp only [List.filterMap_cons]
        split
        · exact List.Sublist.refl _
        · exact (List.sublist_cons_self _ _).filterMap _
      by_cases hj : j = k
      · subst hj
        rw [entries_cons_self]
        cases hread : l.readFrom with
        | none => simpa [List.filterMap_cons, hread] using ih
        | some e =>
            obtain ⟨m, d⟩ := e
            by_cases hm : m = n
            · subst hm
              simpa [List.filterMap_cons, hread] using ih
            · have hskip : entries n (((l :: entries j ls)).filterMap Client.Label.readFrom) =
                  entries n ((entries j ls).filterMap Client.Label.readFrom) := by
                simp [hread, entries_cons_of_ne hm]
              rw [hskip]
              exact ih.trans hkept
      · rw [entries_cons_of_ne hj]
        exact ih.trans hkept

/-- A client writes, over all its threads, no more objects of a kind than its application submits
and its farewells. -/
theorem written_le {cfg : ι → ClientConfig} {free : ι → Int32 → Bool} {peer : ι → ℕ → ℕ}
    (hpeer : Function.Injective fun e : ι × ℕ => peer e.1 e.2) {p : Data → Bool}
    (hp : ∀ d, p d = true → d.isApplication = true) {ls : List (ι × Client.Label)}
    {g : ι → Client}
    (h : exec (family fun k => Client.step (cfg k)) (fun k => .init (cfg k) (free k)) ls = some g)
    (k : ι) (threads : ℕ) :
    ∑ n ∈ Finset.range threads,
        (entries (peer k n) ((clients cfg peer).written (fun k => .init (cfg k) (free k)) ls)).countP
          p ≤
      ((entries k ls).map fun l => l.submits (fun d _ => p d) + l.farewells p).sum := by
  let stock (f : ι → Client) : ℕ :=
    ∑ n ∈ Finset.range threads, pending p ((f k).threads n).backlog
  let gain (l : ι × Client.Label) : ℕ :=
    if l.1 = k then l.2.submits (fun d _ => p d) + l.2.farewells p else 0
  let spend (f : ι → Client) (l : ι × Client.Label) : ℕ :=
    ∑ n ∈ Finset.range threads,
      (entries (peer k n) ((clients cfg peer).writes f l).toList).countP p
  have hstep : ∀ f l g, family (fun k => Client.step (cfg k)) f l = some g →
      stock g + spend f l ≤ stock f + gain l := by
    intro f l g hs
    obtain ⟨x, hx, rfl⟩ := Option.map_eq_some_iff.mp hs
    simp only [stock, spend, gain, entries_writes hpeer]
    by_cases hj : l.1 = k
    · obtain ⟨j, l⟩ := l
      obtain rfl : j = k := hj
      simpa using Client.sum_pending_step hp hx threads
    · simp [hj, Function.update_of_ne (Ne.symm hj)]
  have hbudget := exec_budget hstep h
  have hinit : stock (fun k => .init (cfg k) (free k)) = 0 := by
    simp [stock, Client.init, SocketClientConnectionThread.new, pending,
      SocketClientConnectionThread.backlog]
  have hgain : (ls.map gain).sum =
      ((entries k ls).map fun l => l.submits (fun d _ => p d) + l.farewells p).sum := by
    clear h hbudget
    induction ls with
    | nil => rfl
    | cons l ls ih =>
        obtain ⟨j, l⟩ := l
        by_cases hj : j = k
        · subst hj
          simp [gain, ih]
        · simp [gain, hj, entries_cons_of_ne hj, ih]
  rw [hinit, Nat.zero_add, hgain] at hbudget
  simp only [Port.countP_written]
  rw [← total_sum]
  exact (Nat.le_add_left _ _).trans hbudget

/-- In every run of a server and its clients, where each connection has one thread at its other
end: of whatever kind of application objects, the application of a client is handed no more on a
thread than the application of the server has submitted, and the application of the server is
handed no more on all connections of a client together than the application of that client has
submitted, apart from the farewells of its threads. -/
theorem objects_at_most_once (serverCfg : Config) (clientCfg : ι → ClientConfig)
    (serverFree : Int32 → Bool) (clientFree : ι → Int32 → Bool) (peer : ι → ℕ → ℕ)
    (hpeer : Function.Injective fun e : ι × ℕ => peer e.1 e.2) (p : Data → Bool)
    (hp : ∀ d, p d = true → d.isApplication = true)
    (ls : List (Server.Label ⊕ (ι × Client.Label))) (s : Network Server (ι → Client) ℕ Data)
    (h : exec (step serverCfg clientCfg peer) (init serverCfg clientCfg serverFree clientFree) ls =
      some s) :
    (∀ k n, (entries n (s.right k).received).countP p ≤
      ((Link.lefts ls).map (Server.Label.submits p)).sum) ∧
    ∀ k threads, ∑ n ∈ Finset.range threads, (entries (peer k n) s.left.received).countP p ≤
      ((labelsOf k ls).map (Client.Label.submits fun d _ => p d)).sum +
        ((labelsOf k ls).map (Client.Label.farewells p)).sum := by
  obtain ⟨hserver, hclients⟩ := Network.exec_sides h
  constructor
  · intro k n
    have hclient : ∀ k, exec (Client.step (clientCfg k)) (.init (clientCfg k) (clientFree k))
        (labelsOf k ls) = some (s.right k) := exec_family hclients
    have hreceived := (Client.received_sublist (hclient k)).filterMap fun e =>
      if e.1 = n then some e.2 else none
    have hread := hreceived.trans (entries_reads_sublist peer k n (Link.rights ls))
    have hwritten := Network.countP_read_le h (peer k n) p
    have hstep : ∀ s l t, Server.step serverCfg s l = some t →
        pending p (t.connections (peer k n)).backlog +
            (entries (peer k n) (s.writes l).toList).countP p ≤
          pending p (s.connections (peer k n)).backlog + l.submits p :=
      fun _ _ _ hs => Server.pending_step hp hs (peer k n)
    have hbudget := exec_budget hstep hserver
    have hinit : pending p (((init serverCfg clientCfg serverFree clientFree).left.connections
        (peer k n)).backlog) = 0 := rfl
    rw [hinit, Nat.zero_add] at hbudget
    rw [Port.countP_written] at hwritten
    calc (entries n (s.right k).received).countP p
        ≤ (entries (peer k n) ((Link.rights ls).filterMap fun l =>
            l.2.readFrom.map fun e => (peer l.1 e.1, e.2))).countP p := hread.countP_le
      _ ≤ total (Server.step serverCfg) (fun s l =>
            (entries (peer k n) (s.writes l).toList).countP p) (.init serverCfg serverFree)
            (Link.lefts ls) := hwritten
      _ ≤ ((Link.lefts ls).map (Server.Label.submits p)).sum :=
          (Nat.le_add_left _ _).trans hbudget
  · intro k threads
    rw [← List.sum_map_add]
    refine le_trans (Finset.sum_le_sum fun n _ => ?_) (written_le hpeer hp hclients k threads)
    have hreceived := (Server.received_sublist hserver).filterMap fun e =>
      if e.1 = peer k n then some e.2 else none
    exact hreceived.countP_le.trans (Network.countP_read_le' h (peer k n) p)

/-- The sample client, let in, is sent a text, which its application is handed. -/
def report : List (Server.Label ⊕ (Unit × Client.Label)) :=
  (Session.meet ++ Session.ask ++ Session.answer ++ Session.conclude).map
      (Sum.map id fun l => ((), l)) ++
    [.inl (.sendDataToTarget (.string (JString.lit "idle"))), .inl (.connection 0 (.send true)),
      .inl (.connection 0 (.send true)), .inr ((), .thread 1 .test),
      .inr ((), .read 1 (.string (JString.lit "idle")) false)]

theorem objects_at_most_once_report :
    let s := (exec (step (.connectionImpl none true) (fun _ : Unit => sampleClient)
        fun _ => Equiv.swap 0 1)
      (init (.connectionImpl none true) (fun _ => sampleClient) (fun _ => true) fun _ _ => true)
      report).get (by decide)
    (entries 1 (s.right ()).received).countP Data.isApplication = 1 ∧
      (entries 1 (s.right ()).received).countP Data.isApplication ≤ 1 := by
  have hpeer : Function.Injective fun e : Unit × ℕ => Equiv.swap 0 1 e.2 :=
    fun _ _ h => Prod.ext rfl ((Equiv.swap 0 1).injective h)
  obtain ⟨hclient, -⟩ := objects_at_most_once (.connectionImpl none true)
    (fun _ : Unit => sampleClient) (fun _ => true) (fun _ _ => true) (fun _ => Equiv.swap 0 1) hpeer
    Data.isApplication (fun _ h => h) report _ (Option.some_get (by decide)).symm
  exact ⟨by decide, (hclient () 1).trans (by decide)⟩

end Party

end Collaboration
