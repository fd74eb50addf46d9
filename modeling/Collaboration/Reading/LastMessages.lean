import Collaboration.Reading.Client
import Collaboration.Reading.Server
import Collaboration.Sender.Callbacks

/-! # Messages that nobody sends any more

The connection thread closes the output stream and raises the flag of its sender without waiting
for the queue, and messages are accepted after that as well. -/

namespace Collaboration

open Transition

namespace Streams

/-- Some attempt failed. -/
def Failed (attempts : List (SocketDataSendTask × Bool)) : Prop := ∃ e ∈ attempts, e.2 = false

instance (attempts : List (SocketDataSendTask × Bool)) : Decidable (Failed attempts) :=
  inferInstanceAs (Decidable (∃ e ∈ attempts, e.2 = false))

/-- The attempts made before the output stream was closed. -/
def whileOpen (t : Streams) : List (SocketDataSendTask × Bool) := t.atClose.getD t.attempts

/-- Once the sender has exited, `onDataSendDone` has been called once for the id of each accepted
message, and each last message was written before the stream was closed, unless an attempt before
that failed. -/
def NothingLost (t : Streams) : Prop :=
  ∀ s ∈ t.mDataSenderThread, s.pc = .exited →
    (s.callbacks.map (·.1)).Perm (t.accepted.map (·.id)) ∧
    ∀ task ∈ t.last, (task, true) ∈ t.whileOpen ∨ Failed t.whileOpen

/-- A message is submitted before the sender exits, and a last one before the stream is closed;
the stream is closed when no last message waits in the queue, unless an attempt failed before; and
the sender finds its flag raised when no message waits. -/
def InTime (t : Streams) (l : Label) : Prop :=
  ∀ s ∈ t.mDataSenderThread,
    match l with
    | .addMessage _ isLast =>
      s.pc ≠ .exited ∧ (isLast = true → ∀ attempts ∈ t.atClose, Failed attempts)
    | .release =>
      t.stage = .output → t.mObjectOutputStream.isNull = false →
        (∀ task ∈ t.last, task ∉ s.mMessageTask) ∨ Failed s.attempts
    | .send _ => s.pc = .looping → s.mThreadStop = true → s.NoneWaiting
    | _ => True

instance (t : Streams) (l : Label) : Decidable (t.InTime l) := by
  unfold InTime
  cases l <;> infer_instance

/-! ## The account of a connection's messages -/

structure MessagesOk (t : Streams) : Prop where
  accounts : ∀ s ∈ t.mDataSenderThread, s.Accounts t.accepted
  last : ∀ task ∈ t.last, task ∈ t.accepted
  unused : t.mDataSenderThread = none → t.accepted = []
  closed : t.atClose.isSome = true →
    t.mObjectOutputStream.closed = true ∧ t.mObjectOutputStream.isNull = true
  atClose : ∀ attempts ∈ t.atClose, ∀ e ∈ attempts, e ∈ t.attempts

theorem messagesOk_new (mConnectionSocket : Closeable) : MessagesOk (new mConnectionSocket) :=
  ⟨by simp [new], by simp [new], fun _ => rfl, by simp [new], by simp [new]⟩

theorem attempts_of_some {t : Streams} {s : Sender} (hs : t.mDataSenderThread = some s) :
    t.attempts = s.attempts := by
  simp [attempts, hs]

theorem MessagesOk.accounts_of_some {t : Streams} (h : MessagesOk t) {s : Sender}
    (hs : t.mDataSenderThread = some s) : s.Accounts t.accepted :=
  h.accounts s (Option.mem_def.mpr hs)

section Steps

variable {t u : Streams}

/-- A message that is submitted is accepted as one task more. -/
structure Submits (t : Streams) (isLast : Bool) (u : Streams) (s : Sender)
    (task : SocketDataSendTask) : Prop where
  sender : t.mDataSenderThread = some s
  listener : task.listener = true
  ordinal : task.ordinal = s.submitted
  accounts : ∀ accepted, s.Accounts accepted →
    (s.addMessage task.dataToSend true).1.Accounts (accepted ++ [task])
  queue : (s.addMessage task.dataToSend true).1.mMessageTask = s.mMessageTask ++ [task]
  eq : u = { t with
    mDataSenderThread := some (s.addMessage task.dataToSend true).1
    accepted := t.accepted ++ [task]
    last := if isLast then t.last ++ [task] else t.last }

theorem submits_of_addMessage {o : Data} {isLast : Bool} (h : t.addMessage o isLast = some u) :
    ∃ s task, Submits t isLast u s task := by
  unfold addMessage at h
  cases hs : t.mDataSenderThread with
  | none => simp [hs] at h
  | some s =>
      simp only [hs, Option.some.injEq] at h
      refine ⟨s, ⟨s.mCurrentId + 1, o, true, s.submitted⟩, hs, rfl, rfl, ?_, rfl, h.symm⟩
      intro accepted hacc
      have hcurrent : Sender.Accounts { s with mCurrentId := s.mCurrentId + 1 } accepted :=
        hacc.same rfl rfl rfl rfl
      exact hcurrent.enqueue _ o true

theorem onSender_eq_some {l : Sender.Label} (h : t.onSender l = some u) :
    ∃ s s', t.mDataSenderThread = some s ∧ s.step l = some s' ∧
      u = { t with mDataSenderThread := some s' } := by
  unfold onSender at h
  cases hs : t.mDataSenderThread with
  | none => simp [hs] at h
  | some s =>
      simp only [hs, Option.map_eq_some_iff] at h
      obtain ⟨s', hstep, rfl⟩ := h
      exact ⟨s, s', rfl, hstep, rfl⟩

/-- The account after a step of the sender that accepts no message. -/
theorem MessagesOk.onSender (h : MessagesOk t) {l : Sender.Label} (hu : t.onSender l = some u)
    (hacc : ∀ s s' : Sender, s.step l = some s' → s.Accounts t.accepted → s'.Accounts t.accepted) :
    MessagesOk u := by
  obtain ⟨s, s', hs, hstep, rfl⟩ := onSender_eq_some hu
  refine ⟨?_, h.last, by simp, h.closed, ?_⟩
  · rintro _ ⟨⟩
    exact hacc s s' hstep (h.accounts_of_some hs)
  · intro attempts hattempts e he
    have hmem := h.atClose attempts hattempts e he
    rw [attempts_of_some hs] at hmem
    rcases Sender.step_backlog hstep with hsub | hserve | hkeep
    · simpa [Streams.attempts, hsub.attempts_eq] using hmem
    · obtain ⟨task, success, -, hnew⟩ := hserve.attempt
      simp [Streams.attempts, hnew, hmem]
    · simpa [Streams.attempts, hkeep.attempts_eq] using hmem

theorem MessagesOk.addMessage (h : MessagesOk t) {o : Data} {isLast : Bool}
    (hu : t.addMessage o isLast = some u) : MessagesOk u := by
  obtain ⟨s, task, hsub⟩ := submits_of_addMessage hu
  obtain rfl := hsub.eq
  refine ⟨?_, ?_, by simp, h.closed, ?_⟩
  · rintro _ ⟨⟩
    exact hsub.accounts _ (h.accounts_of_some hsub.sender)
  · intro a ha
    cases isLast with
    | true =>
        rcases List.mem_append.mp ha with ha | ha
        · exact List.mem_append_left _ (h.last a ha)
        · exact List.mem_append_right _ ha
    | false => exact List.mem_append_left _ (h.last a ha)
  · intro attempts hattempts e he
    have hmem := h.atClose attempts hattempts e he
    rw [attempts_of_some hsub.sender] at hmem
    simpa [Streams.attempts, Sender.addMessage, Sender.enqueue] using hmem

@[simp] theorem release_attempts (t : Streams) : t.release.attempts = t.attempts := by
  cases hs : t.mDataSenderThread <;> cases hstage : t.stage <;>
    cases hnull : t.mObjectOutputStream.isNull <;>
    simp [Streams.release, attempts, hs, hstage, hnull, Sender.stopRuning]

@[simp] theorem release_accepted (t : Streams) : t.release.accepted = t.accepted := by
  unfold Streams.release
  split <;> try rfl
  split <;> rfl

@[simp] theorem release_last (t : Streams) : t.release.last = t.last := by
  unfold Streams.release
  split <;> try rfl
  split <;> rfl

/-- What the owner of a sender may do to it leaves its messages and its place alone. -/
structure SameMessages (s s' : Sender) : Prop where
  pc : s'.pc = s.pc
  queue : s'.mMessageTask = s.mMessageTask
  attempts : s'.attempts = s.attempts
  callbacks : s'.callbacks = s.callbacks
  submitted : s'.submitted = s.submitted

theorem release_sender (t : Streams) :
    ∃ f : Sender → Sender, t.release.mDataSenderThread = t.mDataSenderThread.map f ∧
      ∀ s, SameMessages s (f s) := by
  unfold Streams.release
  split
  · exact ⟨id, by simp, fun s => ⟨rfl, rfl, rfl, rfl, rfl⟩⟩
  · split
    · exact ⟨id, by simp, fun s => ⟨rfl, rfl, rfl, rfl, rfl⟩⟩
    · exact ⟨_, rfl, fun s => ⟨rfl, rfl, rfl, rfl, rfl⟩⟩
  · exact ⟨id, by simp, fun s => ⟨rfl, rfl, rfl, rfl, rfl⟩⟩
  · exact ⟨_, rfl, fun s => ⟨rfl, rfl, rfl, rfl, rfl⟩⟩

/-- What `atClose` is after a statement of the release. -/
theorem release_atClose (t : Streams) :
    t.release.atClose = t.atClose ∧ t.release.mObjectOutputStream = t.mObjectOutputStream ∧
        ¬ (t.stage = .output ∧ t.mObjectOutputStream.isNull = false) ∨
      t.release.atClose = some t.attempts ∧
        t.release.mObjectOutputStream = t.mObjectOutputStream.release ∧
        t.stage = .output ∧ t.mObjectOutputStream.isNull = false := by
  cases hstage : t.stage <;> cases hnull : t.mObjectOutputStream.isNull <;>
    simp [Streams.release, hstage, hnull]

theorem MessagesOk.release (h : MessagesOk t) : MessagesOk t.release := by
  obtain ⟨f, hsender, hf⟩ := release_sender t
  refine ⟨?_, by simpa using h.last, ?_, ?_, ?_⟩
  · intro s' hs'
    rw [hsender] at hs'
    obtain ⟨s, hs, rfl⟩ := Option.map_eq_some_iff.mp hs'
    rw [release_accepted]
    exact (h.accounts_of_some hs).same (hf s).queue (hf s).attempts (hf s).callbacks
      (hf s).submitted
  · intro hnone
    rw [release_accepted]
    exact h.unused (Option.map_eq_none_iff.mp (hsender ▸ hnone))
  · rcases release_atClose t with ⟨hclose, houtput, -⟩ | ⟨hclose, houtput, -, hnull⟩
    · rw [hclose, houtput]
      exact h.closed
    · rw [houtput]
      simp [Closeable.release, hnull]
  · rw [release_attempts]
    rcases release_atClose t with ⟨hclose, -, -⟩ | ⟨hclose, -, -, -⟩
    · rw [hclose]
      exact h.atClose
    · rw [hclose]
      rintro _ ⟨⟩ e he
      exact he

theorem messagesOk_step {l : Label} (h : MessagesOk t) (hu : t.step l = some u) :
    MessagesOk u := by
  cases l with
  | openSocket | openInput =>
      simp only [step, Option.ite_none_right_eq_some, Option.some.injEq] at hu
      obtain ⟨-, rfl⟩ := hu
      exact ⟨h.accounts, h.last, h.unused, h.closed, h.atClose⟩
  | openOutput =>
      simp only [step, Option.ite_none_right_eq_some, Option.some.injEq] at hu
      obtain ⟨hnull, rfl⟩ := hu
      refine ⟨h.accounts, h.last, h.unused, fun hclose => ?_, h.atClose⟩
      have hclosed := (h.closed hclose).1
      rw [hnull] at hclosed
      cases hclosed
  | createSender enableHearbeat =>
      simp only [step, Option.ite_none_right_eq_some, Option.some.injEq] at hu
      obtain ⟨⟨hheld, hnone⟩, rfl⟩ := hu
      have hopen : t.atClose = none := by
        by_contra hne
        have hnull := (h.closed (Option.ne_none_iff_isSome.mp hne)).2
        rw [hheld] at hnull
        cases hnull
      refine ⟨?_, h.last, by simp, h.closed, by simp [hopen]⟩
      rintro _ ⟨⟩
      rw [h.unused hnone]
      exact Sender.accounts_new enableHearbeat
  | startSender =>
      refine h.onSender hu fun s s' hstep hacc => ?_
      simp only [Sender.step, Option.ite_none_right_eq_some, Option.some.injEq] at hstep
      obtain ⟨-, rfl⟩ := hstep
      exact hacc.same rfl rfl rfl rfl
  | addMessage o isLast => exact h.addMessage hu
  | addHeartbeatPackage =>
      refine h.onSender hu fun s s' hstep hacc => ?_
      obtain rfl := Option.some.inj hstep
      simpa [Sender.addHeartbeatPackage] using hacc.enqueue (-1) (.inner .heartbeat) false
  | send written => exact h.onSender hu fun s s' hstep hacc => hacc.run hstep
  | release =>
      obtain rfl := Option.some.inj hu
      exact h.release

/-! ## Nothing is lost as long as every step comes in time -/

/-- No loss so far, whether the sender has exited or not. -/
structure Kept (t : Streams) : Prop where
  last : ∀ attempts ∈ t.atClose, ∀ task ∈ t.last, (task, true) ∈ attempts ∨ Failed attempts
  waiting : ∀ s ∈ t.mDataSenderThread, s.pc = .exited → s.NoneWaiting

theorem kept_new (mConnectionSocket : Closeable) : Kept (new mConnectionSocket) :=
  ⟨by simp [new], by simp [new]⟩

/-- While no attempt has failed, the messages that were served were written. -/
theorem MessagesOk.written_iff (h : MessagesOk t) {s : Sender} (hs : t.mDataSenderThread = some s)
    (hok : ¬ Failed s.attempts) {task : SocketDataSendTask} (hmem : task ∈ t.last) :
    (task, true) ∈ s.attempts ↔ task ∉ s.mMessageTask := by
  rw [← (h.accounts_of_some hs).served_iff (h.last task hmem), Sender.served, List.mem_map]
  constructor
  · exact fun hwritten => ⟨_, hwritten, rfl⟩
  · rintro ⟨⟨a, success⟩, he, rfl⟩
    cases success with
    | true => exact he
    | false => exact absurd ⟨_, he, rfl⟩ hok

/-- Steps that neither submit, nor serve, nor close. -/
theorem kept_iff_of_quiet {l : Label} (hclose : u.atClose = t.atClose) (hlast : u.last = t.last)
    (hwaiting : (∀ s ∈ u.mDataSenderThread, s.pc = .exited → s.NoneWaiting) ↔
      ∀ s ∈ t.mDataSenderThread, s.pc = .exited → s.NoneWaiting)
    (hin : t.InTime l) : Kept u ↔ Kept t ∧ t.InTime l := by
  constructor
  · exact fun h => ⟨⟨hclose ▸ hlast ▸ h.last, hwaiting.mp h.waiting⟩, hin⟩
  · exact fun h => ⟨hclose ▸ hlast ▸ h.1.last, hwaiting.mpr h.1.waiting⟩

theorem release_waiting_iff (t : Streams) :
    (∀ s ∈ t.release.mDataSenderThread, s.pc = .exited → s.NoneWaiting) ↔
      ∀ s ∈ t.mDataSenderThread, s.pc = .exited → s.NoneWaiting := by
  obtain ⟨f, hsender, hf⟩ := release_sender t
  rw [hsender]
  cases t.mDataSenderThread with
  | none => simp
  | some s => simp [Sender.NoneWaiting, (hf s).pc, (hf s).queue]

theorem kept_release_iff (h : MessagesOk t) : Kept t.release ↔ Kept t ∧ t.InTime .release := by
  rcases release_atClose t with ⟨hclose, -, hnot⟩ | ⟨hclose, -, hstage, hnull⟩
  · refine kept_iff_of_quiet hclose (release_last t) (release_waiting_iff t) ?_
    exact fun s _ hstage hnull => absurd ⟨hstage, hnull⟩ hnot
  · have hopen : t.atClose = none := by
      by_contra hne
      have hnull' := (h.closed (Option.ne_none_iff_isSome.mp hne)).2
      rw [hnull] at hnull'
      cases hnull'
    constructor
    · intro hk
      refine ⟨⟨by simp [hopen], (release_waiting_iff t).mp hk.waiting⟩, fun s hs _ _ => ?_⟩
      by_cases hfailed : Failed s.attempts
      · exact .inr hfailed
      · refine .inl fun task hmem => (h.written_iff hs hfailed hmem).mp ?_
        have hlast := hk.last _ hclose task (by simpa using hmem)
        rw [attempts_of_some hs] at hlast
        exact hlast.resolve_right hfailed
    · rintro ⟨hk, hin⟩
      refine ⟨?_, (release_waiting_iff t).mpr hk.waiting⟩
      rw [hclose, release_last]
      rintro _ ⟨⟩ task hmem
      cases hs : t.mDataSenderThread with
      | none =>
          have haccepted := h.last task hmem
          simp [h.unused hs] at haccepted
      | some s =>
          rw [attempts_of_some hs]
          by_cases hfailed : Failed s.attempts
          · exact .inr hfailed
          · have hqueue := (hin s hs hstage hnull).resolve_right hfailed
            exact .inl ((h.written_iff hs hfailed hmem).mpr (hqueue task hmem))

theorem addMessage_exited_iff (s : Sender) (d : Data) (listener : Bool) :
    (s.addMessage d listener).1.pc = .exited ↔ s.pc = .exited := by
  simp only [Sender.addMessage, Sender.enqueue]
  split
  · rename_i hwaiting
    simp [hwaiting]
  · rfl

theorem kept_addMessage_iff (h : MessagesOk t) {o : Data} {isLast : Bool}
    (hu : t.addMessage o isLast = some u) :
    Kept u ↔ Kept t ∧ t.InTime (.addMessage o isLast) := by
  obtain ⟨s, task, hsub⟩ := submits_of_addMessage hu
  obtain rfl := hsub.eq
  have hsender := hsub.sender
  constructor
  · intro hk
    have hpc : s.pc ≠ .exited := by
      intro hexit
      have hnone := hk.waiting _ rfl ((addMessage_exited_iff s _ true).mpr hexit) task
        (by rw [hsub.queue]; simp)
      rw [hsub.listener] at hnone
      cases hnone
    refine ⟨⟨fun a ha b hb => hk.last a ha b ?_, ?_⟩, ?_⟩
    · cases isLast <;> simp [hb]
    · intro s' hs' hexit
      obtain rfl := Option.some.inj (hsender.symm.trans hs')
      exact absurd hexit hpc
    · intro s' hs'
      obtain rfl := Option.some.inj (hsender.symm.trans hs')
      refine ⟨hpc, ?_⟩
      rintro rfl a ha
      refine (hk.last a ha task (by simp)).resolve_left fun hwritten => ?_
      have hserved := h.atClose a ha _ hwritten
      rw [attempts_of_some hsender] at hserved
      have hfresh := (h.accounts_of_some hsender).fresh task
        (List.mem_append_right _ (List.mem_map.mpr ⟨_, hserved, rfl⟩))
      rw [hsub.ordinal] at hfresh
      exact Nat.lt_irrefl _ hfresh
  · rintro ⟨hk, hin⟩
    obtain ⟨hpc, hclosed⟩ := hin s hsender
    refine ⟨?_, ?_⟩
    · intro a ha b hb
      cases isLast with
      | true =>
          rcases List.mem_append.mp hb with hb | -
          · exact hk.last a ha b hb
          · exact .inr (hclosed rfl a ha)
      | false => exact hk.last a ha b hb
    · rintro _ ⟨⟩ hexit
      exact absurd ((addMessage_exited_iff s _ true).mp hexit) hpc

/-- The sender exits where it finds its flag raised. -/
theorem run_exits_iff {s s' : Sender} {written : Bool} (h : s.run written = some s') :
    s.pc ≠ .exited ∧ (s'.pc = .exited ↔ s.pc = .looping ∧ s.mThreadStop = true) ∧
      (s'.pc = .exited → s'.mMessageTask = s.mMessageTask) := by
  unfold Sender.run at h
  cases hpc : s.pc with
  | created | waiting | exited => simp [hpc] at h
  | started =>
      obtain rfl : _ = s' := by simpa [hpc] using h
      simp
  | looping =>
      simp only [hpc] at h
      split at h <;> obtain rfl := Option.some.inj h
      · rename_i hstop
        simp [hstop]
      · rename_i hstop
        simpa using hstop
  | locking =>
      simp only [hpc] at h
      cases hlast : s.mMessageTask.getLast? with
      | none =>
          obtain rfl : _ = s' := by simpa [hlast] using h
          simp
      | some task =>
          obtain rfl : s.send task written = s' := by simpa [hlast] using h
          simp [Sender.send]

theorem kept_send_iff {written : Bool} (hu : t.onSender (.run written) = some u) :
    Kept u ↔ Kept t ∧ t.InTime (.send written) := by
  obtain ⟨s, s', hs, hstep, rfl⟩ := onSender_eq_some hu
  obtain ⟨hpc, hexits, hqueue⟩ := run_exits_iff hstep
  have hbefore : ∀ s ∈ t.mDataSenderThread, s.pc = .exited → s.NoneWaiting := by
    intro a ha hexit
    obtain rfl := Option.some.inj (hs.symm.trans ha)
    exact absurd hexit hpc
  constructor
  · intro hk
    refine ⟨⟨hk.last, hbefore⟩, fun a ha hlooping hstop => ?_⟩
    obtain rfl := Option.some.inj (hs.symm.trans ha)
    have hexit := hexits.mpr ⟨hlooping, hstop⟩
    have hnone := hk.waiting s' rfl hexit
    rwa [Sender.NoneWaiting, hqueue hexit] at hnone
  · rintro ⟨hk, hin⟩
    refine ⟨hk.last, ?_⟩
    rintro _ ⟨⟩ hexit
    rw [Sender.NoneWaiting, hqueue hexit]
    obtain ⟨hlooping, hstop⟩ := hexits.mp hexit
    exact hin s hs hlooping hstop

theorem kept_step_iff {l : Label} (h : MessagesOk t) (hu : t.step l = some u) :
    Kept u ↔ Kept t ∧ t.InTime l := by
  cases l with
  | openSocket | openInput | openOutput =>
      simp only [step, Option.ite_none_right_eq_some, Option.some.injEq] at hu
      obtain ⟨-, rfl⟩ := hu
      exact kept_iff_of_quiet rfl rfl Iff.rfl fun _ _ => trivial
  | createSender enableHearbeat =>
      simp only [step, Option.ite_none_right_eq_some, Option.some.injEq] at hu
      obtain ⟨⟨-, hnone⟩, rfl⟩ := hu
      exact kept_iff_of_quiet rfl rfl (by simp [hnone, Sender.new]) fun _ _ => trivial
  | startSender =>
      obtain ⟨s, s', hs, hstep, rfl⟩ := onSender_eq_some hu
      simp only [Sender.step, Option.ite_none_right_eq_some, Option.some.injEq] at hstep
      obtain ⟨hcreated, rfl⟩ := hstep
      exact kept_iff_of_quiet rfl rfl (by simp [hs, hcreated]) fun _ _ => trivial
  | addMessage o isLast => exact kept_addMessage_iff h hu
  | addHeartbeatPackage =>
      obtain ⟨s, s', hs, hstep, rfl⟩ := onSender_eq_some hu
      obtain rfl := Option.some.inj hstep
      have hwaiting : s.addHeartbeatPackage.NoneWaiting ↔ s.NoneWaiting := by
        simp [Sender.NoneWaiting, Sender.addHeartbeatPackage, Sender.enqueue, or_imp, forall_and]
      have hexit : s.addHeartbeatPackage.pc = .exited ↔ s.pc = .exited := by
        simp only [Sender.addHeartbeatPackage, Sender.enqueue]
        split
        · rename_i hpc
          simp [hpc]
        · rfl
      exact kept_iff_of_quiet rfl rfl (by simp [hs, hexit, hwaiting]) fun _ _ => trivial
  | send written => exact kept_send_iff hu
  | release =>
      obtain rfl := Option.some.inj hu
      exact kept_release_iff h

/-- Once the sender has exited, nothing is lost exactly if nothing was lost before. -/
theorem nothingLost_iff_kept (h : MessagesOk t) {s : Sender} (hs : t.mDataSenderThread = some s)
    (hexit : s.pc = .exited) : NothingLost t ↔ Kept t := by
  have hacc := h.accounts_of_some hs
  constructor
  · intro hnothing
    obtain ⟨hreported, hwritten⟩ := hnothing s hs hexit
    refine ⟨fun a ha task hmem => ?_, fun s' hs' _ => ?_⟩
    · have hopen : t.whileOpen = a := by simp [whileOpen, Option.mem_def.mp ha]
      rw [← hopen]
      exact hwritten task hmem
    · obtain rfl := Option.some.inj (hs.symm.trans hs')
      exact hacc.reported_iff.mp hreported
  · intro hk s' hs' _
    obtain rfl := Option.some.inj (hs.symm.trans hs')
    have hnone := hk.waiting s hs hexit
    refine ⟨hacc.reported_iff.mpr hnone, fun task hmem => ?_⟩
    cases hclose : t.atClose with
    | some a =>
        have hopen : t.whileOpen = a := by simp [whileOpen, hclose]
        rw [hopen]
        exact hk.last a hclose task hmem
    | none =>
        have hopen : t.whileOpen = s.attempts := by simp [whileOpen, hclose, attempts_of_some hs]
        rw [hopen]
        by_cases hfailed : Failed s.attempts
        · exact .inr hfailed
        · refine .inl ((h.written_iff hs hfailed hmem).mpr fun hqueue => ?_)
          have hlistener := hacc.listener (h.last task hmem)
          rw [hnone task hqueue] at hlistener
          cases hlistener

end Steps

/-- The sender has left `run()`. -/
def SenderExited (t : Streams) : Prop := ∃ s ∈ t.mDataSenderThread, s.pc = .exited

instance (t : Streams) : Decidable t.SenderExited :=
  inferInstanceAs (Decidable (∃ s ∈ t.mDataSenderThread, s.pc = .exited))

theorem nothingLost_iff_along {mConnectionSocket : Closeable} {ls : List Label} {t : Streams}
    (h : exec step (new mConnectionSocket) ls = some t) (hexit : t.SenderExited) :
    NothingLost t ↔ Along step (fun t l _ => t.InTime l) (new mConnectionSocket) ls := by
  obtain ⟨s, hs, hexit⟩ := hexit
  have hok : MessagesOk t :=
    invariant (fun _ _ _ => messagesOk_step) (messagesOk_new mConnectionSocket) h
  have hkept : Kept t ↔ Kept (new mConnectionSocket) ∧ Along step (fun t l _ => t.InTime l) _ ls :=
    iff_along (A := fun _ => True) (fun _ _ _ => messagesOk_step)
      (fun _ _ _ hok _ hstep => kept_step_iff hok hstep) (messagesOk_new mConnectionSocket)
      (fun _ _ => trivial) h
  rw [nothingLost_iff_kept hok hs hexit, hkept, and_iff_right (kept_new mConnectionSocket)]

end Streams

/-! ## The two sides -/

/-- What the step does to the streams comes in time. -/
def ServerRun.InTime (t : ServerRun) (l : ServerRun.Label) : Prop :=
  ∀ m ∈ t.streamsLabel l, t.streams.InTime m

instance (t : ServerRun) (l : ServerRun.Label) : Decidable (t.InTime l) :=
  inferInstanceAs (Decidable (∀ m ∈ t.streamsLabel l, t.streams.InTime m))

def ClientRun.InTime (t : ClientRun) (l : ClientRun.Label) : Prop :=
  ∀ m ∈ t.streamsLabel l, t.streams.InTime m

instance (t : ClientRun) (l : ClientRun.Label) : Decidable (t.InTime l) :=
  inferInstanceAs (Decidable (∀ m ∈ t.streamsLabel l, t.streams.InTime m))

/-- A connection of the server up to the request of its client, whose refusal is queued and
which is told to stop. -/
def refused : List ServerRun.Label :=
  [.openOutput true, .createSender, .openInput true, .startSender, .send true, .announce true,
    .clear, .test, .read (.inner (.ofMessage (JString.lit "phone:00:11:22"))), .canSendData,
    .addMessage (.inner (.ofMessage InnerPackage.FAILED)), .stopConnection]

/-- The sender writes the refusal before the stream is closed. -/
def refusalInTime : List ServerRun.Label :=
  refused ++ [.send true, .send true, .handled .returns, .test, .release, .release, .release,
    .release, .send true]

/-- The stream is closed and the flag raised while the sender is at its loop test. -/
def refusalTooLate : List ServerRun.Label :=
  refused ++ [.handled .returns, .test, .release, .release, .release, .release, .send true]

/-- The farewell is written before the stream is closed. -/
def farewellInTime : List ClientRun.Label :=
  [.init, .connect true, .setSoTimeout true, .openInput true, .openOutput true, .createSender,
    .startSender, .send true, .announce true, .stopConnection, .test, .close, .send true,
    .send true, .disconnect true, .release, .release, .release, .release, .send true]

end Collaboration
