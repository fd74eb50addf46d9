import Collaboration.Library.Network
import Collaboration.Lifecycle.Receiving

/-! # What a `Connection` sends and hears as datagrams

The tasks of its broadcast senders, and the messages that its receivers get. -/

namespace Collaboration

open JString Transition

/-! ## The tasks of the senders -/

namespace Discovery

variable {d e : Discovery} {port : Int32} {message : JString}

/-- What a step sends: the last task of a sender that looks at its queue. -/
def airs (d : Discovery) : Label → List BroadcastTask
  | .sender n true =>
    if (d.senders n).pc = .locking then (d.senders n).mBroadcastTasks.getLast?.toList else []
  | .sender _ false | .receiver _ _ => []

/-- The message that a receiver gets in a step. -/
def Label.hears : Label → Option JString
  | .receiver _ (.receive message) => some message
  | _ => none

/-- What a `Connection` does to the queues of its senders: the tasks that it adds are numbered,
and all of them have the same port and message. -/
inductive TaskMove (d : Discovery) (port : Int32) (message : JString) :
    ℕ → List BroadcastTask → Discovery → Prop
  | same {e : Discovery}
      (htasks : ∀ n, (e.senders n).mBroadcastTasks = (d.senders n).mBroadcastTasks)
      (hcreated : e.created = d.created)
      (hsender : ∀ m, e.mBroadcastSenderThread = some m → d.mBroadcastSenderThread = some m) :
      TaskMove d port message 0 [] e
  | started {e : Discovery} {id : Int32}
      (htasks : ∀ n, (e.senders n).mBroadcastTasks =
        if n = d.created then [⟨id, port, message⟩] else (d.senders n).mBroadcastTasks)
      (hcreated : e.created = d.created + 1)
      (hsender : e.mBroadcastSenderThread = some d.created) : TaskMove d port message 1 [] e
  | queued {e : Discovery} {id : Int32} {m : ℕ} (hm : d.mBroadcastSenderThread = some m)
      (htasks : ∀ n, (e.senders n).mBroadcastTasks =
        (d.senders n).mBroadcastTasks ++ if n = m then [⟨id, port, message⟩] else [])
      (hcreated : e.created = d.created)
      (hsender : e.mBroadcastSenderThread = d.mBroadcastSenderThread) :
      TaskMove d port message 1 [] e
  | sent {e : Discovery} {m : ℕ} {task : BroadcastTask} {aired : List BroadcastTask}
      (hlast : (d.senders m).mBroadcastTasks.getLast? = some task)
      (haired : aired.Sublist [task])
      (htasks : ∀ n, (e.senders n).mBroadcastTasks =
        if n = m then (d.senders n).mBroadcastTasks.dropLast else (d.senders n).mBroadcastTasks)
      (hcreated : e.created = d.created)
      (hsender : e.mBroadcastSenderThread = d.mBroadcastSenderThread) :
      TaskMove d port message 0 aired e

theorem taskMove_setReceiver (d : Discovery) (n : ℕ) (t : BroadcastReceiveThread) :
    TaskMove d port message 0 [] (d.setReceiver n t) :=
  .same (fun _ => rfl) rfl fun _ h => h

theorem taskMove_stopReceive (d : Discovery) : TaskMove d port message 0 [] d.stopReceive := by
  unfold stopReceive
  split
  · split
    · exact taskMove_setReceiver d _ _
    · exact .same (fun _ => rfl) rfl fun _ h => h
  · exact .same (fun _ => rfl) rfl fun _ h => h

theorem taskMove_stopThread (d : Discovery) : TaskMove d port message 0 [] d.stopThread := by
  obtain ⟨-, hcreated, -, hsender, hsenders⟩ := d.stopThread_spec
  refine .same (fun n => ?_) hcreated fun m hm => ?_
  · rw [hsenders]
    split <;> rfl
  · rw [hsender] at hm
    cases hm

theorem taskMove_restart (d : Discovery) (running : BroadcastReceiveThread → Bool)
    (hnew : running .new = false) (port : Int32) (message : JString) :
    TaskMove d port message 1 [] (d.restart running port message) := by
  obtain ⟨-, hsenders, -, hsender, hcreated⟩ := d.restart_spec running hnew port message
  refine @TaskMove.started _ _ _ _ 1 (fun n => ?_) hcreated hsender
  rw [hsenders]
  by_cases hn : n = d.created
  · subst hn
    simp [BroadcastSenderThread.addBroadcastTask, BroadcastSenderThread.start,
      BroadcastSenderThread.new]
  · simp [hn]

/-- The answer to a datagram. -/
theorem taskMove_answered {m : ℕ} (hm : d.mBroadcastSenderThread = some m) (n : ℕ)
    (port : Int32) (message : JString) :
    TaskMove d port message 1 [] ((d.addBroadcastTask port message).handled n true) := by
  refine @TaskMove.queued _ _ _ _ ((d.senders m).mCurrentId + 1) _ hm (fun k => ?_) ?_ ?_
  · by_cases hk : k = m
    · subst hk
      simp [addBroadcastTask, hm, handled, setReceiver, setSender,
        BroadcastSenderThread.addBroadcastTask]
    · simp [addBroadcastTask, hm, handled, setReceiver, setSender, hk]
  · simp [addBroadcastTask, hm, handled, setReceiver, setSender]
  · simp [addBroadcastTask, hm, handled, setReceiver, setSender]

/-- A sender at its queue takes the last task out and sends it, or finds none. -/
theorem taskMove_sender {n : ℕ} {sendSuccess : Bool} {t : BroadcastSenderThread}
    (hs : (d.senders n).run sendSuccess = some t) :
    TaskMove d port message 0 (d.airs (.sender n sendSuccess)) (d.setSender n t) := by
  have hsame (htasks : t.mBroadcastTasks = (d.senders n).mBroadcastTasks) :
      TaskMove d port message 0 [] (d.setSender n t) := by
    refine .same (fun k => ?_) rfl fun _ h => h
    by_cases hk : k = n
    · subst hk
      simpa using htasks
    · simp [hk]
  unfold BroadcastSenderThread.run at hs
  split at hs
  · cases hs
  · cases hs
  · cases hs
  · rename_i hpc
    have hnone : d.airs (.sender n sendSuccess) = [] := by cases sendSuccess <;> simp [airs, hpc]
    obtain rfl := Option.some.inj hs
    rw [hnone]
    exact hsame (by split <;> rfl)
  · rename_i hpc
    cases hlast : (d.senders n).mBroadcastTasks.getLast? with
    | none =>
        have hnone : d.airs (.sender n sendSuccess) = [] := by
          cases sendSuccess <;> simp [airs, hlast]
        rw [hlast] at hs
        obtain rfl := Option.some.inj hs
        rw [hnone]
        exact hsame rfl
    | some task =>
        rw [hlast] at hs
        obtain rfl := Option.some.inj hs
        refine .sent hlast ?_ (fun k => ?_) rfl rfl
        · cases sendSuccess <;> simp [airs, hpc, hlast]
        · by_cases hk : k = n
          · subst hk
            simp [BroadcastSenderThread.sendBroadcast]
          · simp [hk]

theorem taskMove_of_step {l : Label} (hs : d.step l = some e) :
    TaskMove d port message 0 (d.airs l) e := by
  cases l with
  | receiver n l =>
      simp only [step] at hs
      split at hs
      · cases hs
      · obtain ⟨t, -, rfl⟩ := Option.map_eq_some_iff.mp hs
        exact taskMove_setReceiver d n t
  | sender n sendSuccess =>
      obtain ⟨t, ht, rfl⟩ := Option.map_eq_some_iff.mp hs
      exact taskMove_sender ht

/-- All tasks that wait have this port and message, in senders that exist. -/
structure Announces (port : Int32) (message : JString) (d : Discovery) : Prop where
  tasks : ∀ n, ∀ task ∈ (d.senders n).mBroadcastTasks, task.port = port ∧ task.message = message
  unborn : ∀ n, d.created ≤ n → (d.senders n).mBroadcastTasks = []
  sender : ∀ m, d.mBroadcastSenderThread = some m → m < d.created

theorem announces_new (port : Int32) (message : JString) : Announces port message new :=
  ⟨by simp [new, BroadcastSenderThread.new], fun _ _ => rfl, by simp [new]⟩

theorem TaskMove.announces {fresh : ℕ} {aired : List BroadcastTask} (h : Announces port message d)
    (hm : TaskMove d port message fresh aired e) :
    Announces port message e ∧ ∀ task ∈ aired, task.port = port ∧ task.message = message := by
  cases hm with
  | same htasks hcreated hsender =>
      refine ⟨⟨fun n => ?_, fun n hn => ?_, fun m hm => ?_⟩, by simp⟩
      · rw [htasks]
        exact h.tasks n
      · rw [htasks]
        exact h.unborn n (hcreated ▸ hn)
      · rw [hcreated]
        exact h.sender m (hsender m hm)
  | started htasks hcreated hsender =>
      refine ⟨⟨fun n => ?_, fun n hn => ?_, fun m hm => ?_⟩, by simp⟩
      · rw [htasks]
        split
        · simp
        · exact h.tasks n
      · rw [htasks, if_neg (by omega)]
        exact h.unborn n (by omega)
      · obtain rfl := Option.some.inj (hsender.symm.trans hm)
        omega
  | @queued e id m hm htasks hcreated hsender =>
      refine ⟨⟨fun n task htask => ?_, fun n hn => ?_, fun k hk => ?_⟩, by simp⟩
      · rw [htasks, List.mem_append] at htask
        rcases htask with htask | htask
        · exact h.tasks n task htask
        · split at htask
          · obtain rfl := List.mem_singleton.mp htask
            exact ⟨rfl, rfl⟩
          · cases htask
      · have hlt := h.sender m hm
        rw [htasks, if_neg (by omega), List.append_nil]
        exact h.unborn n (hcreated ▸ hn)
      · rw [hcreated]
        exact h.sender k (hsender ▸ hk)
  | @sent e m task aired hlast haired htasks hcreated hsender =>
      refine ⟨⟨fun n task htask => ?_, fun n hn => ?_, fun k hk => ?_⟩, fun task htask => ?_⟩
      · rw [htasks] at htask
        split at htask
        · exact h.tasks n task (List.dropLast_subset _ htask)
        · exact h.tasks n task htask
      · have hempty := h.unborn n (hcreated ▸ hn)
        rw [htasks, hempty]
        simp
      · rw [hcreated]
        exact h.sender k (hsender ▸ hk)
      · obtain rfl := List.mem_singleton.mp (haired.subset htask)
        exact h.tasks m task (List.mem_of_getLast? hlast)

/-- The number of tasks that wait. -/
def waiting (d : Discovery) : ℕ :=
  ∑ n ∈ Finset.range d.created, (d.senders n).mBroadcastTasks.length

/-- What is sent was waiting, or is fresh. -/
theorem TaskMove.waiting_le {fresh : ℕ} {aired : List BroadcastTask} (h : Announces port message d)
    (hm : TaskMove d port message fresh aired e) :
    e.waiting + aired.length ≤ d.waiting + fresh := by
  unfold waiting
  cases hm with
  | same htasks hcreated => simp [htasks, hcreated]
  | started htasks hcreated =>
      have hrest : ∑ n ∈ Finset.range d.created, (e.senders n).mBroadcastTasks.length =
          ∑ n ∈ Finset.range d.created, (d.senders n).mBroadcastTasks.length := by
        refine Finset.sum_congr rfl fun n hn => ?_
        rw [htasks, if_neg (Nat.ne_of_lt (Finset.mem_range.mp hn))]
      rw [hcreated, Finset.sum_range_succ, htasks, if_pos rfl, hrest]
      simp
  | @queued e id m hm htasks hcreated =>
      have hlt := Finset.mem_range.mpr (h.sender m hm)
      have hnew : ∑ n ∈ Finset.range d.created,
          (if n = m then [(⟨id, port, message⟩ : BroadcastTask)] else []).length = 1 := by
        rw [Finset.sum_eq_single_of_mem m hlt fun n _ hn => by simp [hn], if_pos rfl]
        rfl
      simp [hcreated, htasks, Finset.sum_add_distrib, hnew]
  | @sent e m task aired hlast haired htasks hcreated =>
      have hlt : m ∈ Finset.range d.created := by
        by_contra hge
        have hempty := h.unborn m (by simpa using hge)
        simp [hempty] at hlast
      have hpos : 0 < (d.senders m).mBroadcastTasks.length :=
        List.length_pos_of_mem (List.mem_of_getLast? hlast)
      have hlength := haired.length_le
      rw [hcreated, ← Finset.add_sum_erase _ _ hlt, ← Finset.add_sum_erase _ _ hlt, htasks,
        if_pos rfl, List.length_dropLast]
      have hrest : ∑ n ∈ (Finset.range d.created).erase m, (e.senders n).mBroadcastTasks.length =
          ∑ n ∈ (Finset.range d.created).erase m, (d.senders n).mBroadcastTasks.length := by
        refine Finset.sum_congr rfl fun n hn => ?_
        rw [htasks, if_neg (Finset.ne_of_mem_erase hn)]
      rw [hrest]
      simp only [List.length_singleton] at hlength
      omega

end Discovery

/-! ## One host -/

namespace ServerHost

variable {cfg : Config} {s t : ServerHost}

/-- What a step sends. -/
def airs (s : ServerHost) : Label → List BroadcastTask
  | .discovery l => s.discovery.airs l
  | _ => []

namespace Label

/-- The message that a receiver gets in a step. -/
def hears : Label → Option JString
  | .discovery l => l.hears
  | _ => none

/-- A datagram is handed to the `Connection`. -/
def handles : Label → Bool
  | .handle _ => true
  | _ => false

def starts : Label → Bool
  | .start => true
  | _ => false

/-- The tasks that a step adds, at most: an announcement at each start and for each datagram. -/
def tasks (l : Label) : ℕ := l.starts.toNat + l.handles.toNat

end Label

/-- `stop()` never gets beyond its test, and every other step moves the tasks. -/
theorem taskMove_of_step {l : Label} (hs : s.step cfg l = some t) :
    ∃ fresh ≤ l.tasks, s.discovery.TaskMove cfg.SERVER_PROADCAST_THREAD_PORT cfg.announcement
      fresh (s.airs l) t.discovery := by
  have hsame : s.discovery.TaskMove cfg.SERVER_PROADCAST_THREAD_PORT cfg.announcement 0 []
      s.discovery := .same (fun _ => rfl) rfl fun _ h => h
  cases steps_of_step hs with
  | start => exact ⟨1, le_rfl, Discovery.taskMove_restart _ _ rfl _ _⟩
  | startConnected | stop | stopUnconnected | server | replaced => exact ⟨0, Nat.zero_le _, hsame⟩
  | @stopNext u hstop hstep =>
      refine ⟨0, Nat.zero_le _, ?_⟩
      unfold ServerHost.stopNext at hstep
      split at hstep
      · cases hstep
      · obtain rfl := Option.some.inj hstep
        exact hsame
      · obtain rfl := Option.some.inj hstep
        exact Discovery.taskMove_stopReceive _
      · obtain rfl := Option.some.inj hstep
        exact Discovery.taskMove_stopThread _
  | discovery hstep => exact ⟨0, Nat.zero_le _, Discovery.taskMove_of_step hstep⟩
  | answered hpc hsender =>
      obtain ⟨m, hm⟩ := Option.isSome_iff_exists.mp hsender
      exact ⟨1, le_rfl, Discovery.taskMove_answered hm _ _ _⟩
  | unanswered => exact ⟨0, Nat.zero_le _, Discovery.taskMove_setReceiver _ _ _⟩

end ServerHost

namespace ClientConnection

variable {cfg : ClientConfig} {digits : DigitTable} {s t : ClientConnection}

/-- What a step sends. -/
def airs (s : ClientConnection) : Label → List BroadcastTask
  | .discovery l => s.discovery.airs l
  | _ => []

namespace Label

/-- The message that a receiver gets in a step. -/
def hears : Label → Option JString
  | .discovery l => l.hears
  | _ => none

def starts : Label → Bool
  | .start => true
  | _ => false

end Label

/-- What a client asks for in every `start()`. -/
def request : JString := lit "New_Client_In"

/-- Only `start()` adds a task. -/
theorem taskMove_of_step {l : Label} (hs : s.step cfg digits l = some t) :
    ∃ fresh ≤ l.starts.toNat, s.discovery.TaskMove cfg.CLIENT_BROADCAST_THREAD_PORT request
      fresh (s.airs l) t.discovery := by
  have hsame : s.discovery.TaskMove cfg.CLIENT_BROADCAST_THREAD_PORT request 0 []
      s.discovery := .same (fun _ => rfl) rfl fun _ h => h
  cases steps_of_step hs with
  | start => exact ⟨1, le_rfl, Discovery.taskMove_restart _ _ rfl _ _⟩
  | startConnected | stop | stopUnconnected | stopClient | client =>
      exact ⟨0, Nat.zero_le _, hsame⟩
  | stopReceive => exact ⟨0, Nat.zero_le _, Discovery.taskMove_stopReceive _⟩
  | stopThread => exact ⟨0, Nat.zero_le _, Discovery.taskMove_stopThread _⟩
  | discovery hstep => exact ⟨0, Nat.zero_le _, Discovery.taskMove_of_step hstep⟩
  | malformed | announced => exact ⟨0, Nat.zero_le _, Discovery.taskMove_setReceiver _ _ _⟩

end ClientConnection

end Collaboration
