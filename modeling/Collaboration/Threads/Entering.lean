import Collaboration.Threads.HeldUp

/-! # Getting into a monitor

What a thread does inside a monitor comes to an end as long as the writes return, so that no
thread is locked out for good. -/

namespace Collaboration.Threads

open Monitors Transition

variable {cfg : Config} {s : State} {t : Thread} {n : ℕ} {free : Int32 → Bool} {ls : List Label}

/-- How deep the calls of a statement are that is executed inside a monitor. -/
def Call.depth : Call → ℕ
  | .createInstance => 4
  | .start | .sendToAll _ => 3
  | .startServer | .sendToKey _ _ => 2
  | .addBroadcastTask _ | .addMessage _ _ | .onRemoveConnection _ | .checkAuthorize _
  | .takeTask _ | .takeBroadcast => 1
  | _ => 0

theorem depth_of_sendDataToTarget (p : Process) (c : ℕ) (data : Data) :
    ∀ b, .run b ∈ p.sendDataToTarget c data → b.depth < 2 := by
  unfold Process.sendDataToTarget
  split <;> simp [Call.depth]

/-- Inside a monitor, every statement can return, and then waits or calls less deep ones. -/
theorem calls_inside (p : Process) {a : Call} {held : List Monitor} (ha : a.Allowed held)
    (hheld : held ≠ []) :
    ∃ p' body, run cfg p a .returns = some (p', body) ∧
      ((∃ m k, body = .wait m :: k) ∨ ∀ b, .run b ∈ body → b.depth < a.depth) := by
  cases a with
  | setInstance | startBroadcastSender | startReceiver | setCheckResult | returnCheckResult
  | putInfo | setStatus | removeInfo | execute | setThreadName | put | lookup | removeConnection
  | queueMessage | queueHeartbeat | queueBroadcast | writeObject | sendBroadcast =>
      exact ⟨_, _, rfl, .inr (by simp)⟩
  | startServer | addBroadcastTask | addMessage | onRemoveConnection =>
      exact ⟨_, _, rfl, .inr (by simp [synchronized, Call.depth])⟩
  | createInstance | start =>
      refine ⟨_, _, rfl, .inr ?_⟩
      split <;> simp [synchronized, Call.depth]
  | sendToAll data =>
      refine ⟨_, _, rfl, .inr fun b hb => ?_⟩
      obtain ⟨key, -, hkey⟩ := List.mem_map.mp hb
      obtain rfl := Stmt.run.inj hkey
      simp [Call.depth]
  | sendToKey key data =>
      refine ⟨_, _, rfl, .inr ?_⟩
      cases p.mConnectionMap.lookup key with
      | none => simp
      | some c => exact depth_of_sendDataToTarget p c data
  | checkAuthorize c =>
      refine ⟨_, _, rfl, ?_⟩
      split
      · exact .inl ⟨_, _, rfl⟩
      · exact .inr (by simp [Call.depth])
  | takeTask c =>
      refine ⟨_, _, rfl, ?_⟩
      unfold Process.takeTask
      split
      · exact .inl ⟨_, _, rfl⟩
      · exact .inr (by simp [Call.depth])
  | takeBroadcast =>
      refine ⟨_, _, rfl, ?_⟩
      unfold Process.takeBroadcast
      split
      · exact .inl ⟨_, _, rfl⟩
      · exact .inr (by simp [Call.depth])
  | _ => exact absurd ha hheld

/-- A user interface thread has not done anything yet. -/
structure Idle (cfg : Config) (n : ℕ) (s : State) : Prop where
  consistent : (lockOrder cfg).Consistent s
  code : s.code (.userInterface n) = [.run .event]

theorem Idle.held (h : Idle cfg n s) : s.held (.userInterface n) = [] := by
  have hordered := h.consistent.ordered (.userInterface n)
  rw [h.code] at hordered
  exact hordered.1

theorem nested (cfg : Config) (n : ℕ) :
    Nested (program cfg) (lockOrder cfg) (Idle cfg n) (.userInterface n) Call.depth
      fun _ => .returns where
  consistent h := h.consistent
  owner_ne {s m} h howner := by
    have hmem := (h.consistent.owner_iff m _).mp howner
    rw [h.held] at hmem
    exact List.not_mem_nil hmem
  step h hs hl := ⟨h.consistent.step hs, (step_of_ne hs hl.symm).1.trans h.code⟩
  calls {s t a k} h hcode hheld := by
    have hordered := h.consistent.ordered t
    rw [hcode] at hordered
    exact calls_inside s.data hordered.1 hheld

/-- From every reachable state, each thread that stands before a monitor can get into it, by
steps of its own and of the threads that it waits for alone. -/
theorem no_thread_locked_out {m : Monitor} {k : Code}
    (he : exec (step cfg) (init cfg free) ls = some s) (hcode : s.code t = .enter m :: k)
    (hawake : ∀ e ∈ s.waitSet, e.1 ≠ t) :
    ∃ s', Relation.ReflTransGen (fun s s' => ∃ l, step cfg s l = some s' ∧
        (l.thread = t ∨ Relation.TransGen (WaitsFor s) t l.thread)) s s' ∧
      s'.code t = k ∧ m ∈ s'.held t := by
  -- Some user interface thread has not done anything yet.
  obtain ⟨n, hidle⟩ := exists_idle he
  have ht : t ≠ .userInterface n := by
    rintro rfl
    rw [hidle n le_rfl] at hcode
    simp at hcode
  obtain ⟨s', hpath, hs'⟩ :=
    (nested cfg n).enters rank_le ht ⟨consistent_run he, hidle n le_rfl⟩ hcode hawake
  exact ⟨s', hpath.lift id fun _ _ ⟨l, hs, _, hl⟩ => ⟨l, hs, hl⟩, hs'⟩

/-- The second window of the application waits for the first one, which is inside `mLock`. -/
theorem no_thread_locked_out_starting :
    ∃ s, exec (step (.connectionImpl none true)) (init (.connectionImpl none true) fun _ => true)
        [.run (.userInterface 0) (.event .onCreate), .run (.userInterface 0) .returns,
          .enter (.userInterface 0), .run (.userInterface 0) .returns,
          .run (.userInterface 1) (.event .onCreate), .run (.userInterface 1) .returns] = some s ∧
      s.owner .mLock = some (.userInterface 0) ∧
      ∃ s', Relation.ReflTransGen (fun s s' => ∃ l, step (.connectionImpl none true) s l = some s' ∧
          (l.thread = .userInterface 1 ∨
            Relation.TransGen (WaitsFor s) (.userInterface 1) l.thread)) s s' ∧
        .mLock ∈ s'.held (.userInterface 1) := by
  have he : exec (step (.connectionImpl none true))
      (init (.connectionImpl none true) fun _ => true)
      [.run (.userInterface 0) (.event .onCreate), .run (.userInterface 0) .returns,
        .enter (.userInterface 0), .run (.userInterface 0) .returns,
        .run (.userInterface 1) (.event .onCreate), .run (.userInterface 1) .returns] =
      some _ := rfl
  obtain ⟨s', hpath, -, hheld⟩ :=
    no_thread_locked_out (t := .userInterface 1) he rfl (by intro e hmem; cases hmem)
  exact ⟨_, he, rfl, s', hpath, hheld⟩

end Collaboration.Threads
