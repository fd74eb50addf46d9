import Collaboration.Sender.Iteration
import Mathlib.Algebra.Ring.Nat
import Mathlib.Data.List.Nodup

/-! # What becomes of each task

Every submitted task is in the queue or has been removed from it once, a removed task has had
one write attempt, and its listener hears of it once, under the id that `addMessage` returned. -/

namespace Collaboration.SenderThread

open Transition

/-! ## Submissions -/

/-- The submissions are numbered, each is in the queue or removed, and the ids count up. -/
structure Submitted (t : SenderThread) : Prop where
  perm : t.submissions.Perm (t.dequeued ++ t.sender.mMessageTask)
  ordinals : t.submissions.map (·.ordinal) = List.range t.sender.submitted
  returned : ∀ task ∈ t.submissions, task.listener = true → (task, task.id) ∈ t.returned
  ids : t.returned.map (·.2) = (List.range t.returned.length).map fun n => Int32.ofNat (n + 1)
  mCurrentId : t.sender.mCurrentId = Int32.ofNat t.returned.length

theorem submitted_new (enableHearbeat : Bool) : Submitted (new enableHearbeat) :=
  ⟨.refl _, rfl, by simp [new], rfl, rfl⟩

theorem submitted_addMessage {t : SenderThread} (h : Submitted t) (d : Data) (listener : Bool) :
    Submitted (t.addMessage d listener) := by
  have hid : t.sender.mCurrentId + 1 = Int32.ofNat (t.returned.length + 1) := by
    rw [h.mCurrentId]
    simp
  constructor
  · simpa [SenderThread.addMessage, Sender.addMessage, Sender.enqueue] using h.perm.append_right _
  · simp [SenderThread.addMessage, Sender.addMessage, Sender.enqueue, h.ordinals, List.range_succ]
  · intro task hmem hlistener
    rcases List.mem_append.mp hmem with hmem | hmem
    · exact List.mem_append_left _ (h.returned task hmem hlistener)
    · obtain rfl := List.mem_singleton.mp hmem
      simp [SenderThread.addMessage, Sender.addMessage]
  · simp [SenderThread.addMessage, Sender.addMessage, h.ids, List.range_succ, hid]
  · simp [SenderThread.addMessage, Sender.addMessage, Sender.enqueue, hid]

theorem submitted_addHeartbeatPackage {t : SenderThread} (h : Submitted t) :
    Submitted t.addHeartbeatPackage := by
  refine ⟨?_, ?_, ?_, h.ids, h.mCurrentId⟩
  · simpa [SenderThread.addHeartbeatPackage, Sender.addHeartbeatPackage, Sender.enqueue] using
      h.perm.append_right _
  · simp [SenderThread.addHeartbeatPackage, Sender.addHeartbeatPackage, Sender.enqueue, h.ordinals,
      List.range_succ]
  · intro task hmem hlistener
    rcases List.mem_append.mp hmem with hmem | hmem
    · exact h.returned task hmem hlistener
    · obtain rfl := List.mem_singleton.mp hmem
      simp at hlistener

theorem perm_dequeue {α : Type*} (removed rest : List α) (task : α) :
    (removed ++ (rest ++ [task])).Perm (removed ++ [task] ++ rest) := by
  rw [List.append_assoc]
  exact List.Perm.append_left _ List.perm_append_comm

theorem submitted_step {t u : SenderThread} {l : Label} (h : Submitted t)
    (hs : t.step l = some u) : Submitted u := by
  cases steps_of_step hs with
  | start | stopRuning | closeStream => exact ⟨h.perm, h.ordinals, h.returned, h.ids, h.mCurrentId⟩
  | addMessage => exact submitted_addMessage h _ _
  | addHeartbeatPackage => exact submitted_addHeartbeatPackage h
  | run _ _ hkeeps =>
      refine ⟨?_, ?_, h.returned, h.ids, hkeeps.mCurrentId_eq.trans h.mCurrentId⟩
      · simpa [hkeeps.queue_eq] using h.perm
      · simpa [hkeeps.submitted_eq] using h.ordinals
  | dequeue _ _ hqueue =>
      refine ⟨?_, h.ordinals, h.returned, h.ids, h.mCurrentId⟩
      exact (hqueue ▸ h.perm).trans (perm_dequeue _ _ _)
  | writes | writeFails | flush | report =>
      exact ⟨h.perm, h.ordinals, h.returned, h.ids, h.mCurrentId⟩

theorem Submitted.nodup {t : SenderThread} (h : Submitted t) :
    (t.dequeued ++ t.sender.mMessageTask).Nodup := by
  rw [← h.perm.nodup_iff]
  refine List.Nodup.of_map (·.ordinal) ?_
  rw [h.ordinals]
  exact List.nodup_range

/-! ## Iterations -/

/-- A stay in the monitor from the removal of a task to the call of its listener. -/
structure Iteration where
  task : SocketDataSendTask
  wrote : Bool
  flushed : Bool

namespace Iteration

/-- `success` at the end of the iteration. -/
def success (it : Iteration) : Bool := it.wrote && it.flushed

def write (it : Iteration) : SocketDataSendTask × Bool := (it.task, it.wrote)

def flush (it : Iteration) : SocketDataSendTask × Bool := (it.task, it.flushed)

def report (it : Iteration) : SocketDataSendTask × Int32 × Bool :=
  (it.task, it.task.id, it.success)

end Iteration

/-- The stream operations of iterations: `flush` follows a successful `writeObject`. -/
structure Streamed (writes flushes : List (SocketDataSendTask × Bool)) (its : List Iteration) :
    Prop where
  writes_eq : writes = its.map Iteration.write
  flushes_eq : flushes = (its.filter (·.wrote)).map Iteration.flush

/-- The stream operations so far, those of the iteration in progress among them. -/
def InProgress (writes flushes : List (SocketDataSendTask × Bool)) (its : List Iteration) :
    SendPlace → Prop
  | .outside | .writing _ => Streamed writes flushes its
  | .flushing task => ∃ pre, writes = pre ++ [(task, true)] ∧ Streamed pre flushes its
  | .reporting task success =>
    ∃ it : Iteration, it.task = task ∧ it.success = success ∧ Streamed writes flushes (its ++ [it])

/-- The lists record the iterations that are over and the one in progress. -/
structure Recorded (t : SenderThread) (its : List Iteration) : Prop where
  dequeued : t.dequeued = its.map (·.task) ++ t.place.task.toList
  stream : InProgress t.writes t.flushes its t.place
  reports : t.reports = (its.filter (·.task.listener)).map Iteration.report

theorem recorded_new (enableHearbeat : Bool) : Recorded (new enableHearbeat) [] where
  dequeued := rfl
  stream := ⟨rfl, rfl⟩
  reports := rfl

theorem recorded_step {t u : SenderThread} {l : Label} {its : List Iteration}
    (h : Recorded t its) (hs : t.step l = some u) : ∃ its, Recorded u its := by
  cases steps_of_step hs with
  | start | stopRuning | closeStream | run | addMessage | addHeartbeatPackage =>
      exact ⟨its, h.dequeued, h.stream, h.reports⟩
  | dequeue hplace =>
      have hdequeued : t.dequeued = its.map (·.task) := by
        simpa [hplace, SendPlace.task] using h.dequeued
      have hstream : Streamed t.writes t.flushes its := by
        simpa [hplace, InProgress] using h.stream
      exact ⟨its, by simp [hdequeued, SendPlace.task], hstream, h.reports⟩
  | @writes task hplace =>
      have hstream : Streamed t.writes t.flushes its := by
        simpa [hplace, InProgress] using h.stream
      exact ⟨its, by simpa [hplace, SendPlace.task] using h.dequeued, ⟨_, rfl, hstream⟩, h.reports⟩
  | @writeFails task ok hplace =>
      have hstream : Streamed t.writes t.flushes its := by
        simpa [hplace, InProgress] using h.stream
      refine ⟨its, by simpa [hplace, SendPlace.task] using h.dequeued, ?_, h.reports⟩
      refine ⟨⟨task, false, false⟩, rfl, rfl, ?_, ?_⟩
      · simp [hstream.writes_eq, Iteration.write]
      · simp [hstream.flushes_eq]
  | @flush task ok hplace =>
      obtain ⟨pre, hwrites, hstream⟩ :
          ∃ pre, t.writes = pre ++ [(task, true)] ∧ Streamed pre t.flushes its := by
        simpa [hplace, InProgress] using h.stream
      refine ⟨its, by simpa [hplace, SendPlace.task] using h.dequeued, ?_, h.reports⟩
      refine ⟨⟨task, true, ok && t.sender.streamOpen⟩, rfl, rfl, ?_, ?_⟩
      · simp [hwrites, hstream.writes_eq, Iteration.write]
      · simp [hstream.flushes_eq, Iteration.flush]
  | @report task success hplace =>
      obtain ⟨it, rfl, rfl, hstream⟩ : ∃ it : Iteration, it.task = task ∧ it.success = success ∧
          Streamed t.writes t.flushes (its ++ [it]) := by
        simpa [hplace, InProgress] using h.stream
      refine ⟨its ++ [it], ?_, hstream, ?_⟩
      · simpa [hplace, SendPlace.task] using h.dequeued
      · cases hlistener : it.task.listener <;>
          simp [h.reports, hlistener, Iteration.report, List.filter_append]

/-! ## What the records say about each task -/

/-- Whatever the place, the tasks written are those of the iterations that are over and
possibly the one in hand. -/
theorem InProgress.writes {writes flushes : List (SocketDataSendTask × Bool)}
    {its : List Iteration} {place : SendPlace} (h : InProgress writes flushes its place) :
    ∃ current, writes = its.map Iteration.write ++ current ∧
      (current.map (·.1)).Sublist place.task.toList := by
  cases place with
  | outside => exact ⟨[], by simpa using h.writes_eq, List.nil_sublist _⟩
  | writing task => exact ⟨[], by simpa using h.writes_eq, List.nil_sublist _⟩
  | flushing task =>
      obtain ⟨pre, hwrites, hstream⟩ := h
      exact ⟨[(task, true)], by rw [hwrites, hstream.writes_eq], .refl _⟩
  | reporting task success =>
      obtain ⟨it, rfl, -, hstream⟩ := h
      exact ⟨[it.write], by simpa using hstream.writes_eq, .refl _⟩

theorem InProgress.flushes {writes flushes : List (SocketDataSendTask × Bool)}
    {its : List Iteration} {place : SendPlace} (h : InProgress writes flushes its place) :
    ∃ current, flushes = (its.filter (·.wrote)).map Iteration.flush ++ current ∧
      (current.map (·.1)).Sublist place.task.toList := by
  cases place with
  | outside => exact ⟨[], by simpa using h.flushes_eq, List.nil_sublist _⟩
  | writing task => exact ⟨[], by simpa using h.flushes_eq, List.nil_sublist _⟩
  | flushing task =>
      obtain ⟨pre, -, hstream⟩ := h
      exact ⟨[], by simpa using hstream.flushes_eq, List.nil_sublist _⟩
  | reporting task success =>
      obtain ⟨it, rfl, -, hstream⟩ := h
      cases hwrote : it.wrote with
      | true =>
          exact ⟨[it.flush], by simpa [List.filter_append, hwrote] using hstream.flushes_eq,
            .refl _⟩
      | false =>
          exact ⟨[], by simpa [List.filter_append, hwrote] using hstream.flushes_eq,
            List.nil_sublist _⟩

namespace Recorded

variable {t : SenderThread} {its : List Iteration}

/-- A task that is not in hand any more has an iteration. -/
theorem exists_iteration (h : Recorded t its) {task : SocketDataSendTask}
    (hmem : task ∈ t.dequeued) (hhand : t.place.task ≠ some task) :
    ∃ it ∈ its, it.task = task := by
  rw [h.dequeued] at hmem
  rcases List.mem_append.mp hmem with hmem | hmem
  · obtain ⟨it, hit, rfl⟩ := List.mem_map.mp hmem
    exact ⟨it, hit, rfl⟩
  · exact absurd (Option.mem_toList.mp hmem) hhand

/-- Tasks are written at most once, and in the order of their removal. -/
theorem writes_sublist (h : Recorded t its) : (t.writes.map (·.1)).Sublist t.dequeued := by
  obtain ⟨current, hwrites, hcurrent⟩ := h.stream.writes
  rw [hwrites, h.dequeued, List.map_append, List.map_map]
  exact List.Sublist.append (.refl _) hcurrent

theorem reports_sublist (h : Recorded t its) : (t.reports.map (·.1)).Sublist t.dequeued := by
  rw [h.reports, h.dequeued, List.map_map]
  exact (List.filter_sublist.map _).trans (List.sublist_append_left _ _)

/-- An iteration that is over is determined by its task, which is not in hand any more. -/
theorem iteration_unique (h : Recorded t its) (hnodup : t.dequeued.Nodup) {it : Iteration}
    (hit : it ∈ its) :
    (∀ it' ∈ its, it'.task = it.task → it' = it) ∧ it.task ∉ t.place.task.toList := by
  rw [h.dequeued, List.nodup_append] at hnodup
  obtain ⟨hits, -, hdisjoint⟩ := hnodup
  constructor
  · exact fun it' hit' heq => List.inj_on_of_nodup_map hits hit' hit heq
  · exact fun hhand => hdisjoint _ (List.mem_map_of_mem hit) _ hhand rfl

theorem mem_writes_iff (h : Recorded t its) (hnodup : t.dequeued.Nodup) {it : Iteration}
    (hit : it ∈ its) : (it.task, true) ∈ t.writes ↔ it.wrote = true := by
  obtain ⟨hunique, hhand⟩ := h.iteration_unique hnodup hit
  obtain ⟨current, hwrites, hcurrent⟩ := h.stream.writes
  rw [hwrites, List.mem_append, List.mem_map]
  constructor
  · rintro (⟨it', hit', heq⟩ | hmem)
    · obtain ⟨htask, hwrote⟩ := Prod.mk.inj heq
      rwa [← hunique it' hit' htask]
    · exact absurd (hcurrent.subset (List.mem_map_of_mem hmem)) hhand
  · exact fun hwrote => .inl ⟨it, hit, Prod.ext rfl hwrote⟩

theorem mem_flushes_iff (h : Recorded t its) (hnodup : t.dequeued.Nodup) {it : Iteration}
    (hit : it ∈ its) :
    (it.task, true) ∈ t.flushes ↔ it.wrote = true ∧ it.flushed = true := by
  obtain ⟨hunique, hhand⟩ := h.iteration_unique hnodup hit
  obtain ⟨current, hflushes, hcurrent⟩ := h.stream.flushes
  rw [hflushes, List.mem_append, List.mem_map]
  constructor
  · rintro (⟨it', hit', heq⟩ | hmem)
    · obtain ⟨hits, hwrote⟩ := List.mem_filter.mp hit'
      obtain ⟨htask, hflushed⟩ := Prod.mk.inj heq
      rw [← hunique it' hits htask]
      exact ⟨hwrote, hflushed⟩
    · exact absurd (hcurrent.subset (List.mem_map_of_mem hmem)) hhand
  · rintro ⟨hwrote, hflushed⟩
    exact .inl ⟨it, List.mem_filter.mpr ⟨hit, hwrote⟩, Prod.ext rfl hflushed⟩

theorem success_iff (h : Recorded t its) (hnodup : t.dequeued.Nodup) {it : Iteration}
    (hit : it ∈ its) :
    it.success = true ↔ (it.task, true) ∈ t.writes ∧ (it.task, true) ∈ t.flushes := by
  rw [h.mem_writes_iff hnodup hit, h.mem_flushes_iff hnodup hit, Iteration.success,
    Bool.and_eq_true]
  exact ⟨fun hs => ⟨hs.1, hs⟩, And.right⟩

end Recorded

/-! ## Ids -/

theorem toInt_id {n : ℕ} (h : n < 2 ^ 31) : (Int32.ofNat n).toInt = n :=
  Int32.toInt_ofNat_of_lt h

namespace Submitted

variable {t : SenderThread}

theorem ids_increase (h : Submitted t) (hfew : t.returned.length < 2 ^ 31) :
    (t.returned.map (·.2)).Pairwise (· < ·) := by
  rw [h.ids, List.pairwise_map]
  refine List.pairwise_lt_range.imp_of_mem ?_
  intro m n _ hn hlt
  have hn := List.mem_range.mp hn
  rw [Int32.lt_iff_toInt_lt, toInt_id (by omega), toInt_id (by omega)]
  omega

theorem id_ne_heartbeat (h : Submitted t) (hfew : t.returned.length < 2 ^ 31)
    {e : SocketDataSendTask × Int32} (he : e ∈ t.returned) : e.2 ≠ -1 := by
  have hid : e.2 ∈ t.returned.map (·.2) := List.mem_map_of_mem he
  rw [h.ids] at hid
  obtain ⟨n, hn, heq⟩ := List.mem_map.mp hid
  have hn := List.mem_range.mp hn
  intro hneg
  have hint := congrArg Int32.toInt (heq.trans hneg)
  rw [toInt_id (by omega)] at hint
  have hminus : (-1 : Int32).toInt = -1 := rfl
  omega

end Submitted

/-! ## The account of every task -/

/-- A submitted task is once in the queue, or removed exactly once, and never both. -/
def Placed (t : SenderThread) (task : SocketDataSendTask) : Prop :=
  t.sender.mMessageTask.count task = 1 ∧ t.dequeued.count task = 0 ∨
    t.sender.mMessageTask.count task = 0 ∧ t.dequeued.count task = 1

/-- The listener was called once, with the id that `addMessage` returned for the task and with
the outcome of `writeObject` and `flush`. -/
def ReportedOnce (t : SenderThread) (task : SocketDataSendTask) : Prop :=
  (t.reports.map (·.1)).count task = 1 ∧
    ∃ id success, (task, id, success) ∈ t.reports ∧ (task, id) ∈ t.returned ∧
      (success = true ↔ (task, true) ∈ t.writes ∧ (task, true) ∈ t.flushes)

/-- The account of all submissions; the task in hand is written at most once so far. -/
structure Accounted (t : SenderThread) : Prop where
  placed : ∀ task ∈ t.submissions, Placed t task
  written : ∀ task ∈ t.dequeued, t.place.task ≠ some task → (t.writes.map (·.1)).count task = 1
  inHand : ∀ task, (t.writes.map (·.1)).count task ≤ 1
  reported : ∀ task ∈ t.dequeued, t.place.task ≠ some task → task.listener = true →
    ReportedOnce t task
  reports : ∀ e ∈ t.reports, e.1 ∈ t.dequeued ∧ e.1.listener = true
  increasing : (t.returned.map (·.2)).Pairwise (· < ·)
  heartbeat : ∀ e ∈ t.returned, e.2 ≠ -1

theorem Submitted.placed {t : SenderThread} (h : Submitted t) {task : SocketDataSendTask}
    (hmem : task ∈ t.submissions) : Placed t task := by
  have hcount := List.count_eq_one_of_mem h.nodup (h.perm.subset hmem)
  rw [List.count_append] at hcount
  unfold Placed
  omega

theorem accounted {t : SenderThread} {its : List Iteration} (hsub : Submitted t)
    (hrec : Recorded t its) (hfew : t.returned.length < 2 ^ 31) : Accounted t := by
  have hnodup : t.dequeued.Nodup := hsub.nodup.of_append_left
  have hwrites : (t.writes.map (·.1)).Nodup := hnodup.sublist hrec.writes_sublist
  have hreports : (t.reports.map (·.1)).Nodup := hnodup.sublist hrec.reports_sublist
  refine ⟨fun _ => hsub.placed, ?_, ?_, ?_, ?_, hsub.ids_increase hfew,
    fun _ => hsub.id_ne_heartbeat hfew⟩
  · intro task hmem hhand
    obtain ⟨it, hit, rfl⟩ := hrec.exists_iteration hmem hhand
    obtain ⟨current, heq, -⟩ := hrec.stream.writes
    have hwrite : it.write ∈ t.writes := by simp [heq, List.mem_map_of_mem hit]
    exact List.count_eq_one_of_mem hwrites (List.mem_map_of_mem (f := Prod.fst) hwrite)
  · exact fun task => List.nodup_iff_count_le_one.mp hwrites task
  · intro task hmem hhand hlistener
    obtain ⟨it, hit, rfl⟩ := hrec.exists_iteration hmem hhand
    have hreport : it.report ∈ t.reports := by
      rw [hrec.reports]
      exact List.mem_map_of_mem (List.mem_filter.mpr ⟨hit, hlistener⟩)
    refine ⟨List.count_eq_one_of_mem hreports (List.mem_map_of_mem (f := Prod.fst) hreport), ?_⟩
    refine ⟨_, _, hreport, ?_, hrec.success_iff hnodup hit⟩
    exact hsub.returned _ (hsub.perm.mem_iff.mpr (List.mem_append_left _ hmem)) hlistener
  · intro e he
    refine ⟨hrec.reports_sublist.subset (List.mem_map_of_mem he), ?_⟩
    rw [hrec.reports] at he
    obtain ⟨it, hit, rfl⟩ := List.mem_map.mp he
    exact (List.mem_filter.mp hit).2

/-- In every run with fewer than `2 ^ 31` messages every task is accounted for. -/
theorem tasks_accounted (enableHearbeat : Bool) (ls : List Label) (t : SenderThread)
    (he : exec step (new enableHearbeat) ls = some t) (hfew : t.returned.length < 2 ^ 31) :
    Accounted t := by
  have hsub : Submitted t := invariant (fun _ _ _ h hs => submitted_step h hs) (submitted_new _) he
  have hrec : ∃ its, Recorded t its :=
    invariant (I := fun t => ∃ its, Recorded t its)
      (fun _ _ _ h hs => h.elim fun _ h => recorded_step h hs)
      ⟨[], recorded_new _⟩ he
  obtain ⟨its, hrec⟩ := hrec
  exact accounted hsub hrec hfew

/-- Two messages and a heartbeat between them; the second message cannot be flushed. -/
def exchange : List Label :=
  [.start, .run, .addMessage (.string (JString.lit "INCOMING")) true, .run, .run, .writeObject true,
    .flush true, .report, .addHeartbeatPackage,
    .addMessage (.string (JString.lit "ACTIVE")) true, .run, .run, .stopRuning,
    .writeObject true, .closeStream, .flush true, .report]

theorem tasks_accounted_exchange : Accounted ((exec step (new true) exchange).get (by decide)) :=
  tasks_accounted true exchange _ (Option.some_get _).symm (by decide)

end Collaboration.SenderThread
