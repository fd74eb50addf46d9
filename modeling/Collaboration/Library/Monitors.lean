import Mathlib.Data.List.Count
import Mathlib.Logic.Function.Basic
import Mathlib.Logic.Relation
import Collaboration.Library.Transition

/-! # Threads and monitors

Threads of type `τ` execute code that enters, leaves, waits on and notifies monitors of type
`μ`, and statements of type `α` that work on shared data of type `σ` and are replaced by the code
they call. A label chooses the thread, and whatever the scheduler and the environment decide. -/

namespace Monitors

open Transition

/-! ## Programs -/

inductive Stmt (μ α : Type*) where
  | enter (m : μ)
  | exit (m : μ)
  | wait (m : μ)
  | notify (m : μ)
  | run (a : α)
  deriving DecidableEq, Repr

/-- What a thread still has to do. -/
abbrev Code (μ α : Type*) := List (Stmt μ α)

/-- A block that is executed inside a monitor. -/
def synchronized {μ α : Type*} (m : μ) (body : Code μ α) : Code μ α :=
  .enter m :: (body ++ [.exit m])

/-- Statement by statement, what it does to the data and what code it calls, given its outcome
of type `ε`; `none` when that outcome is not possible. -/
structure Program (μ α ε σ : Type*) where
  run : σ → α → ε → Option (σ × Code μ α)

/-- `held` are the monitors that a thread has entered and not left, the last one first; `waitSet`
are the threads inside `wait`, with its monitor. -/
structure State (τ μ α σ : Type*) where
  data : σ
  code : τ → Code μ α
  held : τ → List μ
  owner : μ → Option τ
  waitSet : List (τ × μ)

inductive Label (τ ε : Type*) where
  | run (t : τ) (outcome : ε)
  | enter (t : τ)
  | exit (t : τ)
  | wait (t : τ)
  /-- `woken` is the thread that is notified; none, if no thread waits -/
  | notify (t : τ) (woken : Option τ)
  /-- the thread leaves `wait` without being notified -/
  | wake (t : τ)
  deriving DecidableEq, Repr

variable {τ μ α ε σ : Type*}

/-- The thread that takes the step. -/
def Label.thread : Label τ ε → τ
  | .run t _ | .enter t | .exit t | .wait t | .notify t _ | .wake t => t

/-- All threads before their first statement. -/
def State.start (data : σ) (main : τ → α) : State τ μ α σ where
  data := data
  code t := [.run (main t)]
  held _ := []
  owner _ := none
  waitSet := []

section Semantics

variable [DecidableEq τ] [DecidableEq μ]

/-- A thread inside `wait` has to enter the monitor again as often as it had entered it. -/
def step (P : Program μ α ε σ) (s : State τ μ α σ) : Label τ ε → Option (State τ μ α σ)
  | .run t outcome =>
    match s.code t with
    | .run a :: k => (P.run s.data a outcome).map fun (data, body) =>
        { s with data := data, code := Function.update s.code t (body ++ k) }
    | _ => none
  | .enter t =>
    match s.code t with
    | .enter m :: k =>
      if (∀ e ∈ s.waitSet, e.1 ≠ t) ∧ (s.owner m = none ∨ s.owner m = some t) then
        some { s with
          code := Function.update s.code t k
          held := Function.update s.held t (m :: s.held t)
          owner := Function.update s.owner m (some t) }
      else none
    | _ => none
  | .exit t =>
    match s.code t with
    | .exit m :: k =>
      if m ∈ s.held t then
        let held := (s.held t).erase m
        some { s with
          code := Function.update s.code t k
          held := Function.update s.held t held
          owner := if m ∈ held then s.owner else Function.update s.owner m none }
      else none
    | _ => none
  | .wait t =>
    match s.code t with
    | .wait m :: k =>
      if m ∈ s.held t then
        some { s with
          code := Function.update s.code t (List.replicate ((s.held t).count m) (.enter m) ++ k)
          held := Function.update s.held t ((s.held t).filter (· ≠ m))
          owner := Function.update s.owner m none
          waitSet := s.waitSet ++ [(t, m)] }
      else none
    | _ => none
  | .notify t woken =>
    match s.code t with
    | .notify m :: k =>
      if m ∈ s.held t ∧ ((∃ e ∈ s.waitSet, e.2 = m ∧ woken = some e.1) ∨
          woken = none ∧ ∀ e ∈ s.waitSet, e.2 ≠ m) then
        some { s with
          code := Function.update s.code t k
          waitSet := s.waitSet.filter fun e => some e.1 ≠ woken }
      else none
    | _ => none
  | .wake t =>
    if ∃ e ∈ s.waitSet, e.1 = t then
      some { s with waitSet := s.waitSet.filter fun e => e.1 ≠ t }
    else none

end Semantics

/-! ## What the steps do -/

section Steps

variable [DecidableEq τ] [DecidableEq μ] {P : Program μ α ε σ} {s s' : State τ μ α σ}

/-- The steps of the threads, one by one. -/
inductive Steps (P : Program μ α ε σ) (s : State τ μ α σ) : Label τ ε → State τ μ α σ → Prop
  | run {t : τ} {a : α} {k body : Code μ α} {outcome : ε} {data : σ}
      (hcode : s.code t = .run a :: k) (hrun : P.run s.data a outcome = some (data, body)) :
      Steps P s (.run t outcome)
        { s with data := data, code := Function.update s.code t (body ++ k) }
  | enter {t : τ} {m : μ} {k : Code μ α} (hcode : s.code t = .enter m :: k)
      (hawake : ∀ e ∈ s.waitSet, e.1 ≠ t) (hfree : s.owner m = none ∨ s.owner m = some t) :
      Steps P s (.enter t)
        { s with
          code := Function.update s.code t k
          held := Function.update s.held t (m :: s.held t)
          owner := Function.update s.owner m (some t) }
  | exit {t : τ} {m : μ} {k : Code μ α} (hcode : s.code t = .exit m :: k) (hheld : m ∈ s.held t) :
      Steps P s (.exit t)
        { s with
          code := Function.update s.code t k
          held := Function.update s.held t ((s.held t).erase m)
          owner := if m ∈ (s.held t).erase m then s.owner else Function.update s.owner m none }
  | wait {t : τ} {m : μ} {k : Code μ α} (hcode : s.code t = .wait m :: k) (hheld : m ∈ s.held t) :
      Steps P s (.wait t)
        { s with
          code := Function.update s.code t (List.replicate ((s.held t).count m) (.enter m) ++ k)
          held := Function.update s.held t ((s.held t).filter (· ≠ m))
          owner := Function.update s.owner m none
          waitSet := s.waitSet ++ [(t, m)] }
  | notify {t : τ} {m : μ} {k : Code μ α} {woken : Option τ} (hcode : s.code t = .notify m :: k)
      (hheld : m ∈ s.held t) :
      Steps P s (.notify t woken)
        { s with
          code := Function.update s.code t k
          waitSet := s.waitSet.filter fun e => some e.1 ≠ woken }
  | wake {t : τ} : Steps P s (.wake t) { s with waitSet := s.waitSet.filter fun e => e.1 ≠ t }

theorem steps_of_step {l : Label τ ε} (h : step P s l = some s') : Steps P s l s' := by
  cases l with
  | run t outcome =>
      simp only [step] at h
      split at h
      · rename_i a k hcode
        obtain ⟨⟨data, body⟩, hrun, rfl⟩ := Option.map_eq_some_iff.mp h
        exact .run hcode hrun
      · cases h
  | enter t =>
      simp only [step] at h
      split at h
      · rename_i m k hcode
        obtain ⟨⟨hawake, hfree⟩, h⟩ := Option.ite_none_right_eq_some.mp h
        obtain rfl := Option.some.inj h
        exact .enter hcode hawake hfree
      · cases h
  | exit t =>
      simp only [step] at h
      split at h
      · rename_i m k hcode
        obtain ⟨hheld, h⟩ := Option.ite_none_right_eq_some.mp h
        obtain rfl := Option.some.inj h
        exact .exit hcode hheld
      · cases h
  | wait t =>
      simp only [step] at h
      split at h
      · rename_i m k hcode
        obtain ⟨hheld, h⟩ := Option.ite_none_right_eq_some.mp h
        obtain rfl := Option.some.inj h
        exact .wait hcode hheld
      · cases h
  | notify t woken =>
      simp only [step] at h
      split at h
      · rename_i m k hcode
        obtain ⟨⟨hheld, -⟩, h⟩ := Option.ite_none_right_eq_some.mp h
        obtain rfl := Option.some.inj h
        exact .notify hcode hheld
      · cases h
  | wake t =>
      obtain ⟨-, h⟩ := Option.ite_none_right_eq_some.mp h
      obtain rfl := Option.some.inj h
      exact .wake

/-- A step leaves the code and the monitors of every other thread alone. -/
theorem step_of_ne {l : Label τ ε} (h : step P s l = some s') {u : τ} (hu : u ≠ l.thread) :
    s'.code u = s.code u ∧ s'.held u = s.held u := by
  cases steps_of_step h with
  | run => exact ⟨Function.update_of_ne hu .., rfl⟩
  | enter | exit | wait => exact ⟨Function.update_of_ne hu .., Function.update_of_ne hu ..⟩
  | notify => exact ⟨Function.update_of_ne hu .., rfl⟩
  | wake => exact ⟨rfl, rfl⟩

/-- What becomes of a thread that takes a step at a statement, with `k` after it. -/
def Advances (P : Program μ α ε σ) (s s' : State τ μ α σ) (t : τ) (k : Code μ α) :
    Stmt μ α → Prop
  | .run a => s'.held t = s.held t ∧ ∃ outcome body,
      P.run s.data a outcome = some (s'.data, body) ∧ s'.code t = body ++ k
  | .enter m => s'.held t = m :: s.held t ∧ s'.code t = k ∧
      (s.owner m = none ∨ s.owner m = some t)
  | .exit m => s'.held t = (s.held t).erase m ∧ s'.code t = k
  | .wait m => s'.code t = List.replicate ((s.held t).count m) (.enter m) ++ k
  | .notify _ => s'.held t = s.held t ∧ s'.code t = k

/-- A thread stays where it is when it wakes up, and advances in its other steps. -/
theorem advances_of_step {l : Label τ ε} (h : step P s l = some s') {x : Stmt μ α} {k : Code μ α}
    (hcode : s.code l.thread = x :: k) :
    s'.code l.thread = x :: k ∧ s'.held l.thread = s.held l.thread ∨
      Advances P s s' l.thread k x := by
  cases steps_of_step h with
  | run hcode' hrun =>
      obtain ⟨rfl, rfl⟩ := List.cons.inj (hcode'.symm.trans hcode)
      exact .inr ⟨rfl, _, _, hrun, Function.update_self ..⟩
  | enter hcode' _ hfree =>
      obtain ⟨rfl, rfl⟩ := List.cons.inj (hcode'.symm.trans hcode)
      exact .inr ⟨Function.update_self .., Function.update_self .., hfree⟩
  | exit hcode' =>
      obtain ⟨rfl, rfl⟩ := List.cons.inj (hcode'.symm.trans hcode)
      exact .inr ⟨Function.update_self .., Function.update_self ..⟩
  | wait hcode' =>
      obtain ⟨rfl, rfl⟩ := List.cons.inj (hcode'.symm.trans hcode)
      exact .inr (Function.update_self ..)
  | notify hcode' =>
      obtain ⟨rfl, rfl⟩ := List.cons.inj (hcode'.symm.trans hcode)
      exact .inr ⟨rfl, Function.update_self ..⟩
  | wake => exact .inl ⟨hcode, rfl⟩

end Steps

/-! ## Waiting for one another -/

/-- The thread stands before a monitor that another one owns. -/
def WaitsFor (s : State τ μ α σ) (t u : τ) : Prop :=
  u ≠ t ∧ (∀ e ∈ s.waitSet, e.1 ≠ t) ∧ ∃ m k, s.code t = .enter m :: k ∧ s.owner m = some u

/-! ## Lock orders -/

/-- The code, begun with the monitors `held`, leaves in order what it enters, enters a monitor
only above those it holds, waits on a monitor only if it holds no other, and executes the
statements where they are allowed. -/
def Ordered (rank : μ → ℕ) (allowed : List μ → α → Prop) : List μ → Code μ α → Prop
  | held, [] => held = []
  | held, .enter m :: k => (∀ m' ∈ held, rank m' < rank m) ∧ Ordered rank allowed (m :: held) k
  | held, .exit m :: k => ∃ rest, held = m :: rest ∧ Ordered rank allowed rest k
  | held, .wait m :: k => held = [m] ∧ Ordered rank allowed held k
  | held, .notify m :: k => m ∈ held ∧ Ordered rank allowed held k
  | held, .run a :: k => allowed held a ∧ Ordered rank allowed held k

/-- An order in which a program enters its monitors: `allowed` says with which monitors held a
statement may be executed, and what it calls keeps the order there. -/
structure LockOrder (P : Program μ α ε σ) where
  rank : μ → ℕ
  allowed : List μ → α → Prop
  calls : ∀ {data data' : σ} {a : α} {outcome : ε} {body : Code μ α} {held : List μ},
    allowed held a → P.run data a outcome = some (data', body) →
      ∀ k, Ordered rank allowed held k → Ordered rank allowed held (body ++ k)

namespace LockOrder

variable {P : Program μ α ε σ} (o : LockOrder P)

abbrev Ordered (held : List μ) (k : Code μ α) : Prop := Monitors.Ordered o.rank o.allowed held k

/-- What holds of the threads and monitors between two steps. -/
structure Consistent (s : State τ μ α σ) : Prop where
  ordered : ∀ t, o.Ordered (s.held t) (s.code t)
  ranked : ∀ t, (s.held t).Pairwise fun m m' => o.rank m' < o.rank m
  owner_iff : ∀ m t, s.owner m = some t ↔ m ∈ s.held t
  waiting : ∀ e ∈ s.waitSet, s.held e.1 = [] ∧ ∃ k, s.code e.1 = .enter e.2 :: k

variable {o} {s s' : State τ μ α σ} {t u : τ} {m : μ} {k : Code μ α}

theorem consistent_start {data : σ} {main : τ → α} (h : ∀ t, o.allowed [] (main t)) :
    o.Consistent (State.start data main) where
  ordered t := ⟨h t, rfl⟩
  ranked _ := .nil
  owner_iff m t := by simp [State.start]
  waiting := by simp [State.start]

/-- A monitor has one owner. -/
theorem Consistent.eq_of_mem_held (h : o.Consistent s) (ht : m ∈ s.held t) (hu : m ∈ s.held u) :
    t = u :=
  Option.some.inj (((h.owner_iff m t).mpr ht).symm.trans ((h.owner_iff m u).mpr hu))

theorem Consistent.nodup (h : o.Consistent s) (t : τ) : (s.held t).Nodup :=
  (h.ranked t).imp fun hlt heq => by
    subst heq
    exact Nat.lt_irrefl _ hlt

/-- A thread waits on a monitor only while it holds no other. -/
theorem Consistent.held_of_wait (h : o.Consistent s) (hcode : s.code t = .wait m :: k) :
    s.held t = [m] := by
  have hordered := h.ordered t
  rw [hcode] at hordered
  exact hordered.1

/-- Whoever waits, directly or through others, stands before a monitor that is not above all
those held by the last one. -/
theorem Consistent.exists_rank_le (h : o.Consistent s) (hw : Relation.TransGen (WaitsFor s) t u) :
    ∃ m k, s.code t = .enter m :: k ∧ ∃ m' ∈ s.held u, o.rank m ≤ o.rank m' := by
  induction hw with
  | single hw =>
      obtain ⟨-, -, m, k, hcode, howner⟩ := hw
      exact ⟨m, k, hcode, m, (h.owner_iff m _).mp howner, Nat.le_refl _⟩
  | @tail u v _ hw ih =>
      obtain ⟨m, k, hcode, m', hm', hle⟩ := ih
      obtain ⟨-, -, m'', k', hcode', howner⟩ := hw
      have hordered := h.ordered u
      rw [hcode'] at hordered
      exact ⟨m, k, hcode, m'', (h.owner_iff m'' v).mp howner,
        Nat.le_trans hle (Nat.le_of_lt (hordered.1 m' hm'))⟩

/-- No threads wait for one another in a circle. -/
theorem Consistent.no_cycle (h : o.Consistent s) (t : τ) :
    ¬ Relation.TransGen (WaitsFor s) t t := by
  intro hw
  obtain ⟨m, k, hcode, m', hm', hle⟩ := h.exists_rank_le hw
  have hordered := h.ordered t
  rw [hcode] at hordered
  exact Nat.not_lt.mpr hle (hordered.1 m' hm')

/-- A thread whose next statement is no entry is not inside `wait`. -/
theorem Consistent.awake (h : o.Consistent s) {x : Stmt μ α} (hcode : s.code t = x :: k)
    (hx : ∀ m, x ≠ .enter m) : ∀ e ∈ s.waitSet, e.1 ≠ t := by
  rintro e he rfl
  obtain ⟨-, k', hcode'⟩ := h.waiting e he
  rw [hcode'] at hcode
  exact hx e.2 (List.cons.inj hcode).1.symm

theorem Consistent.held_of_exit (h : o.Consistent s) (hcode : s.code t = .exit m :: k) :
    ∃ rest, s.held t = m :: rest ∧ o.Ordered rest k := by
  have hordered := h.ordered t
  rw [hcode] at hordered
  exact hordered

section Step

variable [DecidableEq τ]

theorem Consistent.run (h : o.Consistent s) {a : α} {body : Code μ α} {outcome : ε} {data : σ}
    (hcode : s.code t = .run a :: k) (hrun : P.run s.data a outcome = some (data, body)) :
    o.Consistent { s with data := data, code := Function.update s.code t (body ++ k) } where
  ordered u := by
    by_cases hu : u = t
    · subst hu
      have hordered := h.ordered u
      rw [hcode] at hordered
      simpa using o.calls hordered.1 hrun k hordered.2
    · simpa [hu] using h.ordered u
  ranked := h.ranked
  owner_iff := h.owner_iff
  waiting e he := by
    have hne := h.awake hcode (by simp) e he
    simpa [hne] using h.waiting e he

theorem Consistent.notify (h : o.Consistent s) (hcode : s.code t = .notify m :: k)
    (woken : Option τ) :
    o.Consistent { s with
      code := Function.update s.code t k
      waitSet := s.waitSet.filter fun e => some e.1 ≠ woken } where
  ordered u := by
    by_cases hu : u = t
    · subst hu
      have hordered := h.ordered u
      rw [hcode] at hordered
      simpa using hordered.2
    · simpa [hu] using h.ordered u
  ranked := h.ranked
  owner_iff := h.owner_iff
  waiting e he := by
    have hmem := List.mem_of_mem_filter he
    have hne := h.awake hcode (by simp) e hmem
    simpa [hne] using h.waiting e hmem

variable [DecidableEq μ]

theorem Consistent.enter (h : o.Consistent s) (hcode : s.code t = .enter m :: k)
    (hawake : ∀ e ∈ s.waitSet, e.1 ≠ t) (hfree : s.owner m = none ∨ s.owner m = some t) :
    o.Consistent { s with
      code := Function.update s.code t k
      held := Function.update s.held t (m :: s.held t)
      owner := Function.update s.owner m (some t) } := by
  have hordered := h.ordered t
  rw [hcode] at hordered
  refine ⟨fun u => ?_, fun u => ?_, fun m' u => ?_, fun e he => ?_⟩
  · by_cases hu : u = t
    · subst hu
      simpa using hordered.2
    · simpa [hu] using h.ordered u
  · by_cases hu : u = t
    · subst hu
      simpa using ⟨hordered.1, h.ranked u⟩
    · simpa [hu] using h.ranked u
  · have howner := h.owner_iff m' u
    by_cases hm : m' = m
    · subst hm
      by_cases hu : u = t
      · subst hu
        simp
      · rcases hfree with hfree | hfree <;> simp [hfree, hu, Ne.symm hu] at howner ⊢ <;>
          exact howner
    · by_cases hu : u = t
      · subst hu
        simpa [hm] using howner
      · simpa [hm, hu] using howner
  · simpa [hawake e he] using h.waiting e he

theorem Consistent.exit (h : o.Consistent s) (hcode : s.code t = .exit m :: k) :
    o.Consistent { s with
      code := Function.update s.code t k
      held := Function.update s.held t ((s.held t).erase m)
      owner := if m ∈ (s.held t).erase m then s.owner else Function.update s.owner m none } := by
  obtain ⟨rest, hheld, hordered⟩ := h.held_of_exit hcode
  have hranked := h.ranked t
  have hnodup := h.nodup t
  rw [hheld] at hranked hnodup
  have hrest : m ∉ rest := (List.nodup_cons.mp hnodup).1
  simp only [hheld, List.erase_cons_head, if_neg hrest]
  refine ⟨fun u => ?_, fun u => ?_, fun m' u => ?_, fun e he => ?_⟩
  · by_cases hu : u = t
    · subst hu
      simpa using hordered
    · simpa [hu] using h.ordered u
  · by_cases hu : u = t
    · subst hu
      simpa using (List.pairwise_cons.mp hranked).2
    · simpa [hu] using h.ranked u
  · have howner := h.owner_iff m' u
    by_cases hm : m' = m
    · subst hm
      have hmine := (h.owner_iff m' t).mpr (by simp [hheld])
      by_cases hu : u = t
      · subst hu
        simpa using hrest
      · simpa [hu, hmine, Ne.symm hu] using howner
    · by_cases hu : u = t
      · subst hu
        simpa [hm, hheld] using howner
      · simpa [hm, hu] using howner
  · have hne := h.awake hcode (by simp) e he
    simpa [hne] using h.waiting e he

theorem Consistent.wait (h : o.Consistent s) (hcode : s.code t = .wait m :: k) :
    o.Consistent { s with
      code := Function.update s.code t (List.replicate ((s.held t).count m) (.enter m) ++ k)
      held := Function.update s.held t ((s.held t).filter (· ≠ m))
      owner := Function.update s.owner m none
      waitSet := s.waitSet ++ [(t, m)] } := by
  have hheld := h.held_of_wait hcode
  have hordered := h.ordered t
  rw [hcode] at hordered
  have hrest : o.Ordered (s.held t) k := hordered.2
  rw [hheld] at hrest
  simp only [hheld, List.count_singleton_self, List.replicate_one, List.singleton_append]
  have hnone : List.filter (fun x => decide (x ≠ m)) [m] = [] := by simp
  simp only [hnone]
  refine ⟨fun u => ?_, fun u => ?_, fun m' u => ?_, fun e he => ?_⟩
  · by_cases hu : u = t
    · subst hu
      simpa [LockOrder.Ordered, Monitors.Ordered] using hrest
    · simpa [hu] using h.ordered u
  · by_cases hu : u = t
    · subst hu
      simp
    · simpa [hu] using h.ranked u
  · have howner := h.owner_iff m' u
    by_cases hm : m' = m
    · subst hm
      have hmine := (h.owner_iff m' t).mpr (by simp [hheld])
      by_cases hu : u = t
      · subst hu
        simp
      · simpa [hu, hmine, Ne.symm hu] using howner
    · by_cases hu : u = t
      · subst hu
        simpa [hm, hheld] using howner
      · simpa [hm, hu] using howner
  · have hne := h.awake hcode (by simp)
    rcases List.mem_append.mp he with he | he
    · simpa [hne e he] using h.waiting e he
    · obtain rfl := List.mem_singleton.mp he
      simp

/-- A step of any thread keeps all of it. -/
theorem Consistent.step (h : o.Consistent s) {l : Label τ ε} (hs : step P s l = some s') :
    o.Consistent s' := by
  cases steps_of_step hs with
  | run hcode hrun => exact h.run hcode hrun
  | enter hcode hawake hfree => exact h.enter hcode hawake hfree
  | exit hcode => exact h.exit hcode
  | wait hcode => exact h.wait hcode
  | notify hcode => exact h.notify hcode _
  | wake =>
      exact ⟨h.ordered, h.ranked, h.owner_iff,
        fun e he => h.waiting e (List.mem_of_mem_filter he)⟩

end Step

end LockOrder

end Monitors
