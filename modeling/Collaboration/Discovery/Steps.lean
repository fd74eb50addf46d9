import Collaboration.Discovery.Semantics

/-! # What happens to the discovery threads

Whatever a `Connection` does, it moves its discovery threads in one of a few ways. The
threads that exist already are moved one by one, and none of them comes to life again. -/

namespace Collaboration

/-! ## One thread -/

namespace BroadcastReceiveThread

/-- What can happen to a receiver once it was started. -/
inductive Moves (t : BroadcastReceiveThread) : BroadcastReceiveThread → Prop
  | refl : Moves t t
  | own {l : Label} {u : BroadcastReceiveThread} (h : t.step l = some u) : Moves t u
  | handled {message : JString} (hpc : t.pc = .handling message) (returns : Bool) :
      Moves t { t with pc := if returns then .testing else .closing }
  | stopReceive : Moves t t.stopReceive

theorem Moves.isAlive {t u : BroadcastReceiveThread} (h : Moves t u) (hu : u.isAlive = true) :
    t.isAlive = true := by
  cases h with
  | refl => exact hu
  | own h =>
      cases steps_of_step h with
      | bind hpc | bindFails hpc | runs hpc | clears hpc | loops hpc | leaves hpc | close hpc
      | receive hpc | receiveFails hpc => simp [BroadcastReceiveThread.isAlive, hpc]
  | handled hpc => simp [BroadcastReceiveThread.isAlive, hpc]
  | stopReceive => exact hu

/-- A thread with a datagram in hand waits for the `Connection`. -/
theorem step_of_handling {t : BroadcastReceiveThread} {message : JString}
    (hpc : t.pc = .handling message) (l : Label) : t.step l = none := by
  cases l <;> simp [step, hpc]

end BroadcastReceiveThread

namespace BroadcastSenderThread

/-- What can happen to a sender once it was started, unless it is told to stop. -/
inductive Moves (t : BroadcastSenderThread) : BroadcastSenderThread → Prop
  | refl : Moves t t
  | own {sendSuccess : Bool} {u : BroadcastSenderThread} (h : t.run sendSuccess = some u) :
      Moves t u
  | addBroadcastTask (port : Int32) (message : JString) : Moves t (t.addBroadcastTask port message)

@[simp] theorem start_isAlive (t : BroadcastSenderThread) : t.start.isAlive = true := rfl

@[simp] theorem addBroadcastTask_isAlive (t : BroadcastSenderThread) (port : Int32)
    (message : JString) : (t.addBroadcastTask port message).isAlive = t.isAlive := by
  by_cases hpc : t.pc = .waiting
  · simp only [addBroadcastTask, isAlive, hpc, if_true]
    decide
  · simp [addBroadcastTask, isAlive, hpc]

theorem Moves.isAlive {t u : BroadcastSenderThread} (h : Moves t u) (hu : u.isAlive = true) :
    t.isAlive = true := by
  cases h with
  | refl => exact hu
  | own h => exact (run_spec h).1
  | addBroadcastTask => simpa using hu

theorem Moves.mThreadStop {t u : BroadcastSenderThread} (h : Moves t u) :
    u.mThreadStop = t.mThreadStop := by
  cases h with
  | refl => rfl
  | own h => exact (run_spec h).2.1
  | addBroadcastTask => rfl

/-- A sender that is not told to stop stays alive. -/
theorem Moves.stays_alive {t u : BroadcastSenderThread} (h : Moves t u)
    (ht : t.isAlive = true) (hstop : t.mThreadStop = false) : u.isAlive = true := by
  cases h with
  | refl => exact ht
  | own h => exact (run_spec h).2.2 hstop
  | addBroadcastTask => simpa using ht

end BroadcastSenderThread

namespace Discovery

variable {d e : Discovery}

/-! ## What the operations do to a thread -/

@[simp] theorem setReceiver_receivers_self (d : Discovery) (n : ℕ) (t : BroadcastReceiveThread) :
    (d.setReceiver n t).receivers n = t := by
  simp [setReceiver]

@[simp] theorem setSender_senders_self (d : Discovery) (n : ℕ) (t : BroadcastSenderThread) :
    (d.setSender n t).senders n = t := by
  simp [setSender]

@[simp] theorem setSender_senders_of_ne (d : Discovery) {m n : ℕ} (h : m ≠ n)
    (t : BroadcastSenderThread) : (d.setSender n t).senders m = d.senders m := by
  simp [setSender, h]

theorem moves_setReceiver {n : ℕ} {t : BroadcastReceiveThread} (h : (d.receivers n).Moves t) :
    ∀ m, (d.receivers m).Moves ((d.setReceiver n t).receivers m) :=
  (Function.forall_update_iff d.receivers fun m => (d.receivers m).Moves).mpr
    ⟨h, fun _ _ => .refl⟩

theorem moves_setSender {n : ℕ} {t : BroadcastSenderThread} (h : (d.senders n).Moves t) :
    ∀ m, (d.senders m).Moves ((d.setSender n t).senders m) :=
  (Function.forall_update_iff d.senders fun m => (d.senders m).Moves).mpr ⟨h, fun _ _ => .refl⟩

/-! ## All threads -/

/-- The threads move, each in its own way, and the fields of the `Connection` stay. -/
structure Moves (d e : Discovery) : Prop where
  receivers : ∀ n, (d.receivers n).Moves (e.receivers n)
  senders : ∀ n, (d.senders n).Moves (e.senders n)
  mBroadcastReceiveThread : e.mBroadcastReceiveThread = d.mBroadcastReceiveThread
  mBroadcastSenderThread : e.mBroadcastSenderThread = d.mBroadcastSenderThread
  created : e.created = d.created

theorem Moves.refl (d : Discovery) : Moves d d :=
  ⟨fun _ => .refl, fun _ => .refl, rfl, rfl, rfl⟩

theorem moves_of_step {l : Label} (h : d.step l = some e) : Moves d e := by
  cases l with
  | receiver n l =>
      simp only [step] at h
      split at h
      · cases h
      · obtain ⟨t, ht, rfl⟩ := Option.map_eq_some_iff.mp h
        exact ⟨moves_setReceiver (.own ht), fun _ => .refl, rfl, rfl, rfl⟩
  | sender n sendSuccess =>
      obtain ⟨t, ht, rfl⟩ := Option.map_eq_some_iff.mp h
      exact ⟨fun _ => .refl, moves_setSender (.own ht), rfl, rfl, rfl⟩

theorem handling_kept {n : ℕ} {message : JString} (hpc : (d.receivers n).pc = .handling message)
    {l : Label} (h : d.step l = some e) : (e.receivers n).pc = .handling message := by
  cases l with
  | receiver m l =>
      simp only [step, Option.ite_none_left_eq_some] at h
      obtain ⟨t, ht, rfl⟩ := Option.map_eq_some_iff.mp h.2
      by_cases hm : n = m
      · subst hm
        simp [BroadcastReceiveThread.step_of_handling hpc] at ht
      · simpa [setReceiver, hm] using hpc
  | sender m sendSuccess =>
      obtain ⟨t, -, rfl⟩ := Option.map_eq_some_iff.mp h
      exact hpc

theorem stopReceive_pc (d : Discovery) (n : ℕ) :
    (d.stopReceive.receivers n).pc = (d.receivers n).pc := by
  unfold stopReceive
  split
  · rename_i m _
    split
    · by_cases hn : n = m
      · subst hn
        simp [BroadcastReceiveThread.stopReceive]
      · simp [setReceiver, hn]
    · rfl
  · rfl

theorem moves_handled {n : ℕ} {message : JString} (hpc : (d.receivers n).pc = .handling message)
    (returns : Bool) : Moves d (d.handled n returns) :=
  ⟨moves_setReceiver (.handled hpc returns), fun _ => .refl, rfl, rfl, rfl⟩

theorem moves_stopReceive (d : Discovery) : Moves d d.stopReceive := by
  unfold stopReceive
  split
  · split
    · exact ⟨moves_setReceiver .stopReceive, fun _ => .refl, rfl, rfl, rfl⟩
    · exact .refl d
  · exact .refl d

/-- `stop()` turns to one sender, and takes it out of its field. -/
theorem stopThread_spec (d : Discovery) :
    d.stopThread.receivers = d.receivers ∧ d.stopThread.created = d.created ∧
      d.stopThread.mBroadcastReceiveThread = d.mBroadcastReceiveThread ∧
      d.stopThread.mBroadcastSenderThread = none ∧
      ∀ n, d.stopThread.senders n =
        if d.mBroadcastSenderThread = some n then (d.senders n).stopThread else d.senders n := by
  unfold stopThread
  split
  · rename_i m hm
    refine ⟨rfl, rfl, rfl, rfl, fun n => ?_⟩
    by_cases hn : n = m
    · subst hn
      simp [hm]
    · simp [hm, hn, Ne.symm hn]
  · rename_i hnone
    exact ⟨rfl, rfl, rfl, hnone, fun n => by simp [hnone]⟩

theorem addBroadcastTask_receivers (d : Discovery) (port : Int32) (message : JString) :
    (d.addBroadcastTask port message).receivers = d.receivers := by
  unfold addBroadcastTask
  split <;> rfl

theorem moves_addBroadcastTask (d : Discovery) (port : Int32) (message : JString) :
    Moves d (d.addBroadcastTask port message) := by
  unfold addBroadcastTask
  split
  · exact ⟨fun _ => .refl, moves_setSender (.addBroadcastTask port message), rfl, rfl, rfl⟩
  · exact .refl d

/-- The server's answer to a datagram. -/
theorem moves_answered {n : ℕ} {m : JString} (hpc : (d.receivers n).pc = .handling m)
    (port : Int32) (message : JString) :
    Moves d ((d.addBroadcastTask port message).handled n true) := by
  have hsent := moves_addBroadcastTask d port message
  refine ⟨?_, hsent.senders, hsent.mBroadcastReceiveThread, hsent.mBroadcastSenderThread,
    hsent.created⟩
  have hreceivers := addBroadcastTask_receivers d port message
  intro k
  rw [← hreceivers]
  have hhandled := hreceivers ▸ hpc
  exact moves_setReceiver (.handled hhandled true) k

/-! ## Building the threads anew -/

/-- The two new threads are alive and in the fields; every other thread is as before. -/
theorem restart_spec (d : Discovery) (running : BroadcastReceiveThread → Bool)
    (hnew : running .new = false) (port : Int32) (message : JString) :
    let e := d.restart running port message
    e.receivers = Function.update d.receivers d.created (.start .new) ∧
      e.senders = Function.update d.senders d.created
        (.addBroadcastTask (.start .new) port message) ∧
      e.mBroadcastReceiveThread = some d.created ∧ e.mBroadcastSenderThread = some d.created ∧
      e.created = d.created + 1 := by
  simp [restart, init, startReceiver, addBroadcastTask, hnew, setReceiver, setSender]

/-! ## The threads that do not exist yet -/

def Numbered (d : Discovery) : Prop :=
  ∀ n, d.created ≤ n → (d.receivers n).isAlive = false ∧ (d.senders n).isAlive = false

theorem numbered_new : Numbered new := fun _ _ => ⟨rfl, rfl⟩

theorem Numbered.moves (h : Numbered d) (hm : d.Moves e) : Numbered e := by
  intro n hn
  obtain ⟨hreceiver, hsender⟩ := h n (hm.created ▸ hn)
  constructor
  · by_contra halive
    simp [(hm.receivers n).isAlive (by simpa using halive)] at hreceiver
  · by_contra halive
    simp [(hm.senders n).isAlive (by simpa using halive)] at hsender

theorem Numbered.restart (h : Numbered d) (running : BroadcastReceiveThread → Bool)
    (hnew : running .new = false) (port : Int32) (message : JString) :
    Numbered (d.restart running port message) := by
  obtain ⟨hreceivers, hsenders, -, -, hcreated⟩ := d.restart_spec running hnew port message
  intro n hn
  have hne : n ≠ d.created := by omega
  rw [hreceivers, hsenders, Function.update_of_ne hne, Function.update_of_ne hne]
  exact h n (by omega)

theorem Numbered.stopThread (h : Numbered d) : Numbered d.stopThread := by
  obtain ⟨hreceivers, hcreated, -, -, hsenders⟩ := d.stopThread_spec
  intro n hn
  obtain ⟨hreceiver, hsender⟩ := h n (hcreated ▸ hn)
  rw [hreceivers, hsenders]
  refine ⟨hreceiver, ?_⟩
  split
  · exact hsender
  · exact hsender

end Discovery

end Collaboration
