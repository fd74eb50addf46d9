import Collaboration.Library.Monitors

/-! # Going on while one thread is stuck

What a thread can still get done while another one, `f`, takes no step any more. The owner of a
monitor that it comes to goes on until the monitor is free, and so do those that the owner waits
for; the order of the monitors bounds how far this goes. -/

namespace Monitors

variable {τ μ α ε σ : Type*} [DecidableEq τ] [DecidableEq μ]

/-- A step of `t`, or of a thread that `t` waits for, directly or through others; never of `f`. -/
def Helps (P : Program μ α ε σ) (f t : τ) (s s' : State τ μ α σ) : Prop :=
  ∃ l, step P s l = some s' ∧ l.thread ≠ f ∧
    (l.thread = t ∨ Relation.TransGen (WaitsFor s) t l.thread)

/-- With such steps the thread comes to `k`. -/
def RunsTo (P : Program μ α ε σ) (f t : τ) (s : State τ μ α σ) (k : Code μ α) : Prop :=
  ∃ u, Relation.ReflTransGen (Helps P f t) s u ∧ u.code t = k

variable {P : Program μ α ε σ} {s s' : State τ μ α σ} {t u : τ} {m : μ} {k : Code μ α}

theorem RunsTo.of_path {f : τ} (hpath : Relation.ReflTransGen (Helps P f t) s s')
    (h : RunsTo P f t s' k) : RunsTo P f t s k := by
  obtain ⟨u, hpath', hu⟩ := h
  exact ⟨u, hpath.trans hpath', hu⟩

/-- A step of the thread itself. -/
theorem RunsTo.of_step {f : τ} {l : Label τ ε} (hs : step P s l = some s') (hl : l.thread = t)
    (ht : t ≠ f) (h : RunsTo P f t s' k) : RunsTo P f t s k :=
  h.of_path (.single ⟨l, hs, hl ▸ ht, .inl hl⟩)

/-! ## Steps that are possible -/

theorem step_run {a : α} {outcome : ε} {data : σ} {body : Code μ α}
    (hcode : s.code t = .run a :: k) (hrun : P.run s.data a outcome = some (data, body)) :
    step P s (.run t outcome) =
      some { s with data := data, code := Function.update s.code t (body ++ k) } := by
  simp [step, hcode, hrun]

theorem step_enter (hcode : s.code t = .enter m :: k) (hawake : ∀ e ∈ s.waitSet, e.1 ≠ t)
    (hfree : s.owner m = none ∨ s.owner m = some t) :
    step P s (.enter t) = some { s with
      code := Function.update s.code t k
      held := Function.update s.held t (m :: s.held t)
      owner := Function.update s.owner m (some t) } := by
  simp only [step, hcode]
  exact if_pos ⟨hawake, hfree⟩

theorem step_exit (hcode : s.code t = .exit m :: k) (hheld : m ∈ s.held t) :
    step P s (.exit t) = some { s with
      code := Function.update s.code t k
      held := Function.update s.held t ((s.held t).erase m)
      owner := if m ∈ (s.held t).erase m then s.owner else Function.update s.owner m none } := by
  simp only [step, hcode]
  exact if_pos hheld

theorem step_wait (hcode : s.code t = .wait m :: k) (hheld : m ∈ s.held t) :
    step P s (.wait t) = some { s with
      code := Function.update s.code t (List.replicate ((s.held t).count m) (.enter m) ++ k)
      held := Function.update s.held t ((s.held t).filter (· ≠ m))
      owner := Function.update s.owner m none
      waitSet := s.waitSet ++ [(t, m)] } := by
  simp only [step, hcode]
  exact if_pos hheld

theorem step_notify (hcode : s.code t = .notify m :: k) (hheld : m ∈ s.held t) :
    ∃ woken, step P s (.notify t woken) = some { s with
      code := Function.update s.code t k
      waitSet := s.waitSet.filter fun e => some e.1 ≠ woken } := by
  by_cases hwaiting : ∃ e ∈ s.waitSet, e.2 = m
  · obtain ⟨e, he, hm⟩ := hwaiting
    refine ⟨some e.1, ?_⟩
    simp only [step, hcode]
    exact if_pos ⟨hheld, .inl ⟨e, he, hm, rfl⟩⟩
  · refine ⟨none, ?_⟩
    simp only [step, hcode]
    exact if_pos ⟨hheld, .inr ⟨trivial, fun e he hm => hwaiting ⟨e, he, hm⟩⟩⟩

/-- Only the thread itself begins to wait. -/
theorem awake_of_step {l : Label τ ε} (h : step P s l = some s') (ht : t ≠ l.thread)
    (hawake : ∀ e ∈ s.waitSet, e.1 ≠ t) : ∀ e ∈ s'.waitSet, e.1 ≠ t := by
  intro e he
  cases steps_of_step h with
  | run | enter | exit => exact hawake e he
  | wait =>
      rcases List.mem_append.mp he with he | he
      · exact hawake e he
      · obtain rfl := List.mem_singleton.mp he
        exact Ne.symm ht
  | notify | wake => exact hawake e (List.mem_of_mem_filter he)

/-- Only the statements change the data. -/
theorem data_of_step {l : Label τ ε} (h : step P s l = some s')
    (hl : ∀ t outcome, l ≠ .run t outcome) : s'.data = s.data := by
  cases steps_of_step h with
  | run => exact absurd rfl (hl _ _)
  | _ => rfl

/-! ## Code that comes to a goal -/

/-- Whatever others do in between, as long as `I` holds, `t` can go on from its code to the goal
through monitors that are `free`, choosing the outcomes of its statements. -/
inductive Comes (P : Program μ α ε σ) (I : State τ μ α σ → Prop) (free : μ → Prop) (t : τ)
    (goal : List μ → Code μ α → Prop) : List μ → Code μ α → Prop
  | done {held : List μ} {k : Code μ α} (h : goal held k) : Comes P I free t goal held k
  | enter {held : List μ} {m : μ} {k : Code μ α} (hfree : free m)
      (hI : ∀ s s', I s → s.code t = .enter m :: k → s.held t = held →
        step P s (.enter t) = some s' → I s')
      (h : Comes P I free t goal (m :: held) k) : Comes P I free t goal held (.enter m :: k)
  | exit {held : List μ} {m : μ} {k : Code μ α} (h : Comes P I free t goal held k) :
      Comes P I free t goal (m :: held) (.exit m :: k)
  | wait {m : μ} {k : Code μ α} (h : goal [] (.enter m :: k)) :
      Comes P I free t goal [m] (.wait m :: k)
  | notify {held : List μ} {m : μ} {k : Code μ α} (h : Comes P I free t goal held k) :
      Comes P I free t goal held (.notify m :: k)
  | run {held : List μ} {a : α} {k : Code μ α} (outcome : ε)
      (hrun : ∀ s, I s → s.code t = .run a :: k → s.held t = held →
        ∃ data body, P.run s.data a outcome = some (data, body) ∧
          I { s with data := data, code := Function.update s.code t (body ++ k) })
      (h : ∀ s, I s → s.code t = .run a :: k → s.held t = held →
        ∀ data body, P.run s.data a outcome = some (data, body) →
          Comes P I free t goal held (body ++ k)) :
      Comes P I free t goal held (.run a :: k)

/-- What must hold while `f` is stuck: it owns none of the monitors that are `free`, and every
other thread comes to leave the monitors that it has entered. -/
structure Unhindered (P : Program μ α ε σ) (o : LockOrder P) (I : State τ μ α σ → Prop)
    (free : μ → Prop) (f : τ) : Prop where
  consistent : ∀ {s}, I s → o.Consistent s
  owner_ne : ∀ {s m}, I s → free m → s.owner m ≠ some f
  exit : ∀ {s s' t}, I s → t ≠ f → step P s (.exit t) = some s' → I s'
  wait : ∀ {s s' t}, I s → t ≠ f → step P s (.wait t) = some s' → I s'
  notify : ∀ {s s' t woken}, I s → t ≠ f → step P s (.notify t woken) = some s' → I s'
  leaves : ∀ {s t m}, I s → t ≠ f → m ∈ s.held t →
    Comes P I free t (fun held _ => m ∉ held) (s.held t) (s.code t)

/-- The steps towards a goal that the thread has not reached yet. -/
def Towards (P : Program μ α ε σ) (f t : τ) (goal : List μ → Code μ α → Prop)
    (s s' : State τ μ α σ) : Prop :=
  Helps P f t s s' ∧ ¬ goal (s.held t) (s.code t)

/-- The owner of a monitor comes to leave it. -/
def Released (P : Program μ α ε σ) (I : State τ μ α σ → Prop) (f u : τ) (m : μ)
    (s : State τ μ α σ) : Prop :=
  ∃ s', Relation.ReflTransGen (Towards P f u fun held _ => m ∉ held) s s' ∧ I s' ∧
    s'.owner m = none

section Runs

variable {o : LockOrder P} {I : State τ μ α σ → Prop} {free : μ → Prop} {f : τ}
  {goal : List μ → Code μ α → Prop}

/-- What is done to free a monitor is done for the thread that stands before it, which does
not move meanwhile. -/
theorem towards_of_owner (hconsistent : o.Consistent s) (hcode : s.code t = .enter m :: k)
    (hawake : ∀ e ∈ s.waitSet, e.1 ≠ t) (hut : u ≠ t) (hgoal : ¬ goal (s.held t) (s.code t))
    (hpath : Relation.ReflTransGen (Towards P f u fun held _ => m ∉ held) s s') :
    Relation.ReflTransGen (Towards P f t goal) s s' ∧ o.Consistent s' ∧
      s'.code t = s.code t ∧ s'.held t = s.held t ∧ ∀ e ∈ s'.waitSet, e.1 ≠ t := by
  induction hpath with
  | refl => exact ⟨.refl, hconsistent, rfl, rfl, hawake⟩
  | @tail x y _ hstep ih =>
      obtain ⟨hpath, hconsistent, hcode', hheld', hawake⟩ := ih
      obtain ⟨⟨l, hl, hf, hthread⟩, hheld⟩ := hstep
      have hwaits : WaitsFor x t u :=
        ⟨hut, hawake, m, k, hcode'.trans hcode,
          (hconsistent.owner_iff m u).mpr (not_not.mp hheld)⟩
      have htrans : Relation.TransGen (WaitsFor x) t l.thread := by
        rcases hthread with hthread | hthread
        · exact hthread ▸ .single hwaits
        · exact .head hwaits hthread
      have hne : t ≠ l.thread := by
        intro heq
        exact hconsistent.no_cycle t (by rwa [← heq] at htrans)
      obtain ⟨hcodeEq, hheldEq⟩ := step_of_ne hl hne
      refine ⟨hpath.tail ⟨⟨l, hl, hf, .inr htrans⟩, ?_⟩, hconsistent.step hl,
        hcodeEq.trans hcode', hheldEq.trans hheld', awake_of_step hl hne hawake⟩
      rw [hcode', hheld']
      exact hgoal

/-- A thread comes to its goal when the owners of the monitors in its way leave them. -/
theorem Comes.towards (h : Unhindered P o I free f) {held : List μ}
    (hcomes : Comes P I free t goal held k) (ht : t ≠ f)
    (hreleased : ∀ {s u m k}, I s → u ≠ f → ¬ goal (s.held t) (s.code t) →
      s.code t = .enter m :: k → s.owner m = some u → Released P I f u m s)
    (hI : I s) (hcode : s.code t = k) (hheld : s.held t = held)
    (hawake : ∀ e ∈ s.waitSet, e.1 ≠ t) :
    ∃ s', Relation.ReflTransGen (Towards P f t goal) s s' ∧ I s' ∧
      goal (s'.held t) (s'.code t) := by
  induction hcomes generalizing s with
  | done hgoal => exact ⟨s, .refl, hI, by rwa [hheld, hcode]⟩
  | @enter held m k hfree hI' hcomes ih =>
      by_cases hgoal : goal (s.held t) (s.code t)
      · exact ⟨s, .refl, hI, hgoal⟩
      -- Once the monitor is free or its own, the thread enters it.
      have henter : ∀ {x}, I x → x.code t = .enter m :: k → x.held t = held →
          (∀ e ∈ x.waitSet, e.1 ≠ t) → ¬ goal (x.held t) (x.code t) →
          (x.owner m = none ∨ x.owner m = some t) →
          ∃ s', Relation.ReflTransGen (Towards P f t goal) x s' ∧ I s' ∧
            goal (s'.held t) (s'.code t) := by
        intro x hI hcode hheld hawake hgoal howner
        have hstep := step_enter (P := P) hcode hawake howner
        obtain ⟨s', hpath, hs'⟩ :=
          ih (hI' x _ hI hcode hheld hstep) (by simp) (by simp [hheld]) hawake
        exact ⟨s', .head ⟨⟨_, hstep, ht, .inl rfl⟩, hgoal⟩ hpath, hs'⟩
      cases howner : s.owner m with
      | none => exact henter hI hcode hheld hawake hgoal (.inl howner)
      | some u =>
          by_cases hu : u = t
          · exact henter hI hcode hheld hawake hgoal (.inr (hu ▸ howner))
          have huf : u ≠ f := fun heq => h.owner_ne hI hfree (heq ▸ howner)
          obtain ⟨x, hpath, hIx, hnone⟩ := hreleased hI huf hgoal hcode howner
          obtain ⟨hpath, -, hcodeEq, hheldEq, hawake⟩ :=
            towards_of_owner (h.consistent hI) hcode hawake hu hgoal hpath
          obtain ⟨s', hpath', hs'⟩ := henter hIx (hcodeEq.trans hcode) (hheldEq.trans hheld) hawake
            (by rwa [hcodeEq, hheldEq]) (.inl hnone)
          exact ⟨s', hpath.trans hpath', hs'⟩
  | @exit held m k hcomes ih =>
      by_cases hgoal : goal (s.held t) (s.code t)
      · exact ⟨s, .refl, hI, hgoal⟩
      have hstep := step_exit (P := P) hcode (by simp [hheld])
      obtain ⟨s', hpath, hs'⟩ := ih (h.exit hI ht hstep) (by simp) (by simp [hheld]) hawake
      exact ⟨s', .head ⟨⟨_, hstep, ht, .inl rfl⟩, hgoal⟩ hpath, hs'⟩
  | @wait m k hgoal' =>
      by_cases hgoal : goal (s.held t) (s.code t)
      · exact ⟨s, .refl, hI, hgoal⟩
      have hstep := step_wait (P := P) hcode (by simp [hheld])
      refine ⟨_, .single ⟨⟨_, hstep, ht, .inl rfl⟩, hgoal⟩, h.wait hI ht hstep, ?_⟩
      simpa [hheld] using hgoal'
  | @notify held m k hcomes ih =>
      by_cases hgoal : goal (s.held t) (s.code t)
      · exact ⟨s, .refl, hI, hgoal⟩
      have hordered := (h.consistent hI).ordered t
      rw [hcode] at hordered
      obtain ⟨woken, hstep⟩ := step_notify (P := P) hcode hordered.1
      obtain ⟨s', hpath, hs'⟩ := ih (h.notify hI ht hstep) (by simp) hheld
        fun e he => hawake e (List.mem_of_mem_filter he)
      exact ⟨s', .head ⟨⟨_, hstep, ht, .inl rfl⟩, hgoal⟩ hpath, hs'⟩
  | @run held a k outcome hrun hcomes ih =>
      by_cases hgoal : goal (s.held t) (s.code t)
      · exact ⟨s, .refl, hI, hgoal⟩
      obtain ⟨data, body, hrun, hI'⟩ := hrun s hI hcode hheld
      have hstep := step_run hcode hrun
      obtain ⟨s', hpath, hs'⟩ :=
        ih s hI hcode hheld data body hrun hI' (by simp) hheld hawake
      exact ⟨s', .head ⟨⟨_, hstep, ht, .inl rfl⟩, hgoal⟩ hpath, hs'⟩

/-- When a thread has just left a monitor, nobody owns it. -/
theorem owner_of_step {l : Label τ ε} (hconsistent : o.Consistent s) (hs : step P s l = some s')
    (hheld : m ∈ s.held t) (hleft : m ∉ s'.held t) : s'.owner m = none := by
  have ht : t = l.thread := by
    by_contra hne
    exact hleft ((step_of_ne hs hne).2 ▸ hheld)
  rw [Option.eq_none_iff_forall_ne_some]
  intro u howner
  have hu : m ∈ s'.held u := ((hconsistent.step hs).owner_iff m u).mp howner
  have hne : u ≠ t := fun heq => hleft (heq ▸ hu)
  rw [(step_of_ne hs (ht ▸ hne)).2] at hu
  exact hne (hconsistent.eq_of_mem_held hu hheld)

theorem consistent_of_towards (hpath : Relation.ReflTransGen (Towards P f t goal) s s')
    (hconsistent : o.Consistent s) : o.Consistent s' := by
  induction hpath with
  | refl => exact hconsistent
  | tail _ hstep ih =>
      obtain ⟨⟨l, hl, -⟩, -⟩ := hstep
      exact ih.step hl

/-- Every thread but `f` gets to leave a monitor that it owns: by induction on how many ranks
there are above it, because what stands in its way ranks above it. -/
theorem Unhindered.released (h : Unhindered P o I free f) {n : ℕ} (hn : ∀ m, o.rank m ≤ n)
    {d : ℕ} (hd : n - o.rank m < d) (hI : I s) (hu : u ≠ f) (howner : s.owner m = some u) :
    Released P I f u m s := by
  induction d generalizing s u m with
  | zero => exact absurd hd (Nat.not_lt_zero _)
  | succ d ih =>
      have hconsistent := h.consistent hI
      have hheld := (hconsistent.owner_iff m u).mp howner
      have hawake : ∀ e ∈ s.waitSet, e.1 ≠ u := by
        rintro e he rfl
        rw [(hconsistent.waiting e he).1] at hheld
        exact List.not_mem_nil hheld
      obtain ⟨s', hpath, hI', hleft⟩ :=
        (h.leaves hI hu hheld).towards h hu (s := s) (fun {x v m' k} hIx hv hnot hcode hv' => by
          have hordered := (h.consistent hIx).ordered u
          rw [hcode] at hordered
          have hlt : o.rank m < o.rank m' := hordered.1 m (not_not.mp hnot)
          have hle := hn m'
          exact ih (by omega) hIx hv hv') hI rfl rfl hawake
      refine ⟨s', hpath, hI', ?_⟩
      rcases hpath.cases_tail with rfl | ⟨x, hpath, ⟨l, hl, -⟩, hx⟩
      · exact absurd hheld hleft
      · exact owner_of_step (consistent_of_towards hpath hconsistent) hl (not_not.mp hx) hleft

/-- So every thread but `f` comes to its goals, even if it has to wait on the way. -/
theorem Comes.exists_helps (h : Unhindered P o I free f) {n : ℕ} (hn : ∀ m, o.rank m ≤ n)
    (hcomes : Comes P I free t goal (s.held t) (s.code t)) (ht : t ≠ f) (hI : I s)
    (hawake : ∀ e ∈ s.waitSet, e.1 ≠ t) :
    ∃ s', Relation.ReflTransGen (Helps P f t) s s' ∧ I s' ∧ goal (s'.held t) (s'.code t) := by
  obtain ⟨s', hpath, hs'⟩ := hcomes.towards h ht
    (fun hI hu _ _ howner => h.released hn (Nat.lt_succ_self _) hI hu howner) hI rfl rfl hawake
  exact ⟨s', hpath.lift id fun _ _ hstep => hstep.1, hs'⟩

end Runs

/-! ## Calls that end -/

/-- Inside a monitor, a statement waits, or it calls statements of a smaller depth only, and no
step of a thread but `f`, which owns no monitor, breaks `I`. -/
structure Nested (P : Program μ α ε σ) (o : LockOrder P) (I : State τ μ α σ → Prop) (f : τ)
    (depth : α → ℕ) (outcome : α → ε) : Prop where
  consistent : ∀ {s}, I s → o.Consistent s
  owner_ne : ∀ {s m}, I s → s.owner m ≠ some f
  step : ∀ {s s' l}, I s → step P s l = some s' → l.thread ≠ f → I s'
  calls : ∀ {s t a k}, I s → s.code t = .run a :: k → s.held t ≠ [] →
    ∃ data body, P.run s.data a (outcome a) = some (data, body) ∧
      ((∃ m k, body = .wait m :: k) ∨ ∀ b, .run b ∈ body → depth b < depth a)

/-- From this code on, a thread that has entered `m` comes to leave it. -/
def Leaves (P : Program μ α ε σ) (o : LockOrder P) (I : State τ μ α σ → Prop) (t : τ) (m : μ)
    (k : Code μ α) : Prop :=
  ∀ held, o.Ordered held k → m ∈ held →
    Comes P I (fun _ => True) t (fun held _ => m ∉ held) held k

section Nested

variable {o : LockOrder P} {I : State τ μ α σ → Prop} {f : τ} {depth : α → ℕ} {outcome : α → ε}

/-- Code before code that leaves the monitor, if each statement in it does no harm. -/
theorem Leaves.append (h : Nested P o I f depth outcome) (ht : t ≠ f) {body : Code μ α}
    (hcalls : ∀ a, .run a ∈ body → ∀ k, Leaves P o I t m k → Leaves P o I t m (.run a :: k))
    (hk : Leaves P o I t m k) : Leaves P o I t m (body ++ k) := by
  induction body with
  | nil => exact hk
  | cons x body ih =>
      have hrest := ih fun a ha => hcalls a (List.mem_cons_of_mem x ha)
      cases x with
      | run a => exact hcalls a List.mem_cons_self _ hrest
      | enter m' =>
          intro held hordered hm
          exact .enter trivial (fun _ _ hI _ _ hs => h.step hI hs ht)
            (hrest _ hordered.2 (List.mem_cons_of_mem m' hm))
      | exit m' =>
          rintro held ⟨rest, rfl, hordered⟩ hm
          by_cases hmem : m ∈ rest
          · exact .exit (hrest rest hordered hmem)
          · exact .exit (.done hmem)
      | wait m' =>
          rintro held ⟨rfl, -⟩ hm
          obtain rfl := List.mem_singleton.mp hm
          exact .wait List.not_mem_nil
      | notify m' =>
          intro held hordered hm
          exact .notify (hrest held hordered.2 hm)

/-- A statement inside the monitor, by induction on its depth. -/
theorem Leaves.run (h : Nested P o I f depth outcome) (ht : t ≠ f) (a : α)
    (hk : Leaves P o I t m k) : Leaves P o I t m (.run a :: k) := by
  induction hd : depth a using Nat.strongRecOn generalizing a k with
  | _ d ih =>
      subst hd
      intro held hordered hm
      refine .run (outcome a) (fun s hI hcode hheld => ?_) fun s hI hcode hheld data body hrun => ?_
      · obtain ⟨data, body, hrun, -⟩ := h.calls hI hcode (hheld ▸ List.ne_nil_of_mem hm)
        exact ⟨data, body, hrun, h.step hI (step_run hcode hrun) ht⟩
      · obtain ⟨data', body', hrun', hbody⟩ := h.calls hI hcode (hheld ▸ List.ne_nil_of_mem hm)
        obtain ⟨rfl, rfl⟩ := Prod.mk.inj (Option.some.inj (hrun'.symm.trans hrun))
        have hcalled := o.calls hordered.1 hrun k hordered.2
        rcases hbody with ⟨m', rest, rfl⟩ | hbody
        · obtain ⟨rfl, -⟩ := hcalled
          obtain rfl := List.mem_singleton.mp hm
          exact .wait List.not_mem_nil
        · exact Leaves.append h ht (fun b hb k hk => ih (depth b) (hbody b hb) b hk rfl) hk
            held hcalled hm

/-- Nothing is left to do with the monitor still entered. -/
theorem leaves_nil : Leaves P o I t m [] := by
  rintro held rfl hm
  exact absurd hm List.not_mem_nil

theorem Nested.leaves (h : Nested P o I f depth outcome) (ht : t ≠ f) (k : Code μ α) :
    Leaves P o I t m k := by
  rw [← List.append_nil k]
  exact Leaves.append h ht (fun a _ _ hk => Leaves.run h ht a hk) leaves_nil

theorem Nested.unhindered (h : Nested P o I f depth outcome) :
    Unhindered P o I (fun _ => True) f where
  consistent := h.consistent
  owner_ne hI _ := h.owner_ne hI
  exit hI ht hs := h.step hI hs ht
  wait hI ht hs := h.step hI hs ht
  notify hI ht hs := h.step hI hs ht
  leaves hI ht hm := h.leaves ht _ _ ((h.consistent hI).ordered _) hm

/-- Every thread but `f` gets into the monitor that it stands before. -/
theorem Nested.enters (h : Nested P o I f depth outcome) {n : ℕ} (hn : ∀ m, o.rank m ≤ n)
    (ht : t ≠ f) (hI : I s) (hcode : s.code t = .enter m :: k)
    (hawake : ∀ e ∈ s.waitSet, e.1 ≠ t) :
    ∃ s', Relation.ReflTransGen (Helps P f t) s s' ∧ s'.code t = k ∧ m ∈ s'.held t := by
  have hcomes : Comes P I (fun _ => True) t (fun held code => code = k ∧ m ∈ held)
      (s.held t) (s.code t) := by
    rw [hcode]
    exact .enter trivial (fun _ _ hI _ _ hs => h.step hI hs ht)
      (.done ⟨rfl, List.mem_cons_self⟩)
  obtain ⟨s', hpath, -, hgoal⟩ := hcomes.exists_helps h.unhindered hn ht hI hawake
  exact ⟨s', hpath, hgoal⟩

end Nested

end Monitors
