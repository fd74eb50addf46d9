import Collaboration.Discovery.Semantics
import Collaboration.Library.QueueThread
import Collaboration.Sender.Semantics

/-! # Telling the queue threads to stop

`SocketDataSenderThread` and `BroadcastSenderThread` serve their queues in the same way; the
first clears its stop flag when `run()` begins. -/

namespace Collaboration

open Transition

/-! ## The sender of a connection -/

def SenderPc.queuePc : SenderPc → QueueThread.Pc
  | .created => .created
  | .started => .started
  | .looping => .looping
  | .locking => .locking
  | .waiting => .waiting
  | .exited => .exited

namespace Sender

/-- A write attempt is a service. -/
def queueThread (s : Sender) : QueueThread.Thread :=
  ⟨s.mMessageTask.length, s.mThreadStop, s.pc.queuePc, s.attempts.length⟩

def Label.queueLabel : Label → QueueThread.Label
  | .start => .start
  | .addMessage _ _ | .addHeartbeatPackage => .submit
  | .stopRuning => .stop
  | .closeStream => .other
  | .run _ => .run

theorem queueThread_enqueue (s : Sender) (id : Int32) (d : Data) (listener : Bool) :
    QueueThread.step true s.queueThread .submit = some (s.enqueue id d listener).queueThread := by
  cases hpc : s.pc <;> simp [queueThread, enqueue, QueueThread.step, SenderPc.queuePc, hpc]

theorem queueThread_run {s t : Sender} {written : Bool} (h : s.run written = some t) :
    s.queueThread.run = some t.queueThread := by
  unfold Sender.run at h
  cases hpc : s.pc with
  | created | waiting | exited => simp [hpc] at h
  | started =>
      obtain rfl : _ = t := by simpa [hpc] using h
      simp [queueThread, QueueThread.Thread.run, SenderPc.queuePc, hpc]
  | looping =>
      simp only [hpc] at h
      split at h
      · rename_i hstop
        obtain rfl := Option.some.inj h
        simp [queueThread, QueueThread.Thread.run, SenderPc.queuePc, hpc, hstop]
      · rename_i hstop
        obtain rfl := Option.some.inj h
        simp [queueThread, QueueThread.Thread.run, SenderPc.queuePc, hpc, hstop]
  | locking =>
      simp only [hpc] at h
      cases hlast : s.mMessageTask.getLast? with
      | none =>
          obtain rfl : _ = t := by simpa [hlast] using h
          have hempty := List.getLast?_eq_none_iff.mp hlast
          simp [queueThread, QueueThread.Thread.run, SenderPc.queuePc, hpc, hempty]
      | some task =>
          obtain rfl : s.send task written = t := by simpa [hlast] using h
          obtain ⟨rest, hqueue⟩ := List.getLast?_eq_some_iff.mp hlast
          simp [queueThread, QueueThread.Thread.run, SenderPc.queuePc, send, hpc, hqueue]

theorem implements : QueueThread.Implements true step queueThread Label.queueLabel where
  step s l t h := by
    cases l with
    | start =>
        simp only [step, Option.ite_none_right_eq_some, Option.some.injEq] at h
        obtain ⟨hpc, rfl⟩ := h
        simp [Label.queueLabel, queueThread, QueueThread.step, SenderPc.queuePc, hpc]
    | addMessage d listener =>
        obtain rfl := Option.some.inj h
        exact queueThread_enqueue _ _ d listener
    | addHeartbeatPackage =>
        obtain rfl := Option.some.inj h
        exact queueThread_enqueue s (-1) _ false
    | stopRuning | closeStream =>
        obtain rfl := Option.some.inj h
        rfl
    | run written => exact queueThread_run h
  run s h := by
    refine ⟨.run true, ?_⟩
    simp only [Label.queueLabel, true_and, step]
    rw [← Option.isSome_iff_exists]
    cases hpc : s.pc with
    | created | waiting | exited =>
        simp [queueThread, QueueThread.Thread.run, SenderPc.queuePc, hpc] at h
    | started => simp [Sender.run, hpc]
    | looping => cases hstop : s.mThreadStop <;> simp [Sender.run, hpc, hstop]
    | locking => cases hlast : s.mMessageTask.getLast? <;> simp [Sender.run, hpc, hlast]

/-- What a call of `stopRuning` is for, in the state that it leads to. -/
abbrev StopTakesEffect (s : Sender) : Prop :=
  QueueThread.StopTakesEffect step queueThread Label.queueLabel s

end Sender

/-! ## The broadcast sender -/

def BroadcastSenderPc.queuePc : BroadcastSenderPc → QueueThread.Pc
  | .created => .created
  | .looping => .looping
  | .locking => .locking
  | .waiting => .waiting
  | .exited => .exited

namespace BroadcastSenderThread

inductive Label where
  | start
  | addBroadcastTask (port : Int32) (message : JString)
  | stopThread
  | run (sendSuccess : Bool)
  deriving DecidableEq, Repr

def step (t : BroadcastSenderThread) : Label → Option BroadcastSenderThread
  | .start => if t.pc = .created then some t.start else none
  | .addBroadcastTask port message => some (t.addBroadcastTask port message)
  | .stopThread => some t.stopThread
  | .run sendSuccess => t.run sendSuccess

/-- A datagram is a service. -/
def queueThread (t : BroadcastSenderThread) : QueueThread.Thread :=
  ⟨t.mBroadcastTasks.length, t.mThreadStop, t.pc.queuePc, t.sent.length⟩

def Label.queueLabel : Label → QueueThread.Label
  | .start => .start
  | .addBroadcastTask _ _ => .submit
  | .stopThread => .stop
  | .run _ => .run

theorem queueThread_run {t u : BroadcastSenderThread} {sendSuccess : Bool}
    (h : t.run sendSuccess = some u) : t.queueThread.run = some u.queueThread := by
  unfold BroadcastSenderThread.run at h
  cases hpc : t.pc with
  | created | waiting | exited => simp [hpc] at h
  | looping =>
      simp only [hpc, Option.some.injEq] at h
      split at h
      · rename_i hstop
        subst h
        simp [queueThread, QueueThread.Thread.run, BroadcastSenderPc.queuePc, hpc, hstop]
      · rename_i hstop
        subst h
        simp [queueThread, QueueThread.Thread.run, BroadcastSenderPc.queuePc, hpc, hstop]
  | locking =>
      simp only [hpc] at h
      cases hlast : t.mBroadcastTasks.getLast? with
      | none =>
          obtain rfl : _ = u := by simpa [hlast] using h
          have hempty := List.getLast?_eq_none_iff.mp hlast
          simp [queueThread, QueueThread.Thread.run, BroadcastSenderPc.queuePc, hpc, hempty]
      | some task =>
          obtain rfl : t.sendBroadcast task sendSuccess = u := by simpa [hlast] using h
          obtain ⟨rest, hqueue⟩ := List.getLast?_eq_some_iff.mp hlast
          simp [queueThread, QueueThread.Thread.run, BroadcastSenderPc.queuePc, sendBroadcast, hpc,
            hqueue]

theorem implements : QueueThread.Implements false step queueThread Label.queueLabel where
  step t l u h := by
    cases l with
    | start =>
        simp only [step, Option.ite_none_right_eq_some, Option.some.injEq] at h
        obtain ⟨hpc, rfl⟩ := h
        simp [Label.queueLabel, queueThread, QueueThread.step, BroadcastSenderPc.queuePc, start,
          hpc]
    | addBroadcastTask port message =>
        obtain rfl := Option.some.inj h
        cases hpc : t.pc <;>
          simp [Label.queueLabel, queueThread, addBroadcastTask, QueueThread.step,
            BroadcastSenderPc.queuePc, hpc]
    | stopThread =>
        obtain rfl := Option.some.inj h
        rfl
    | run sendSuccess => exact queueThread_run h
  run t h := by
    refine ⟨.run true, ?_⟩
    simp only [Label.queueLabel, true_and, step]
    rw [← Option.isSome_iff_exists]
    cases hpc : t.pc with
    | created | waiting | exited =>
        simp [queueThread, QueueThread.Thread.run, BroadcastSenderPc.queuePc, hpc] at h
    | looping => simp [BroadcastSenderThread.run, hpc]
    | locking =>
        cases hlast : t.mBroadcastTasks.getLast? <;> simp [BroadcastSenderThread.run, hpc, hlast]

/-- What a call of `stopThread` is for, in the state that it leads to. -/
abbrev StopTakesEffect (t : BroadcastSenderThread) : Prop :=
  QueueThread.StopTakesEffect step queueThread Label.queueLabel t

end BroadcastSenderThread

/-! ## When the call takes effect -/

theorem SenderPc.queuePc_inj {p q : SenderPc} (h : p.queuePc = q.queuePc) : p = q := by
  cases p <;> cases q <;> first | rfl | cases h

theorem BroadcastSenderPc.queuePc_inj {p q : BroadcastSenderPc} (h : p.queuePc = q.queuePc) :
    p = q := by
  cases p <;> cases q <;> first | rfl | cases h

theorem Sender.stopTakesEffect_iff {enableHearbeat : Bool} {ls : List Sender.Label} {s : Sender}
    (he : exec Sender.step (.new enableHearbeat) ls = some s) (hls : ∀ l ∈ ls, l ≠ .stopRuning)
    (hstarted : s.pc ≠ .created) : s.stopRuning.StopTakesEffect ↔ s.pc = .looping := by
  have hiff := Sender.implements.first_stop_iff (s := s) (l := .stopRuning)
    ⟨fun _ => rfl, fun h => by cases h⟩ rfl
    (fun l hl hstop => hls l hl (by cases l <;> first | rfl | cases hstop)) he
    (fun h => hstarted (SenderPc.queuePc_inj h)) rfl rfl
  exact hiff.trans
    ⟨fun h => SenderPc.queuePc_inj h, fun h => by simp [queueThread, h, SenderPc.queuePc]⟩

theorem BroadcastSenderThread.stopTakesEffect_iff {ls : List BroadcastSenderThread.Label}
    {t : BroadcastSenderThread} (he : exec BroadcastSenderThread.step .new ls = some t)
    (hls : ∀ l ∈ ls, l ≠ .stopThread) (hstarted : t.pc ≠ .created) :
    t.stopThread.StopTakesEffect ↔ t.pc = .looping := by
  have hiff := BroadcastSenderThread.implements.first_stop_iff (s := t) (l := .stopThread)
    ⟨fun _ => rfl, fun h => by cases h⟩ rfl
    (fun l hl hstop => hls l hl (by cases l <;> first | rfl | cases hstop)) he
    (fun h => hstarted (BroadcastSenderPc.queuePc_inj h)) rfl rfl
  exact hiff.trans
    ⟨fun h => BroadcastSenderPc.queuePc_inj h, fun h => by
      simp [queueThread, h, BroadcastSenderPc.queuePc]⟩

/-- A single call of stop after `start()` takes effect on either thread exactly if the thread
is at `while (!mThreadStop)`, between two services. -/
theorem stop_takes_effect_iff (enableHearbeat : Bool) (ls : List Sender.Label) (s : Sender)
    (ms : List BroadcastSenderThread.Label) (t : BroadcastSenderThread) :
    (exec Sender.step (.new enableHearbeat) ls = some s → (∀ l ∈ ls, l ≠ .stopRuning) →
      s.pc ≠ .created → (s.stopRuning.StopTakesEffect ↔ s.pc = .looping)) ∧
    (exec BroadcastSenderThread.step .new ms = some t → (∀ m ∈ ms, m ≠ .stopThread) →
      t.pc ≠ .created → (t.stopThread.StopTakesEffect ↔ t.pc = .looping)) :=
  ⟨Sender.stopTakesEffect_iff, BroadcastSenderThread.stopTakesEffect_iff⟩

/-- The thread of a connection has written its first message. -/
def Sender.afterMessage : List Sender.Label :=
  [.start, .run true, .addMessage (.string (JString.lit "INCOMING")) true, .run true, .run true]

/-- The discovery thread has sent its first datagram. -/
def BroadcastSenderThread.afterBroadcast : List BroadcastSenderThread.Label :=
  [.start, .addBroadcastTask 10082 (JString.lit "New_Client_In"), .run true, .run true]

theorem stop_takes_effect_iff_after_service :
    (((exec Sender.step (.new false)
        Sender.afterMessage).get (by decide)).stopRuning.StopTakesEffect
      ↔ ((exec Sender.step (.new false) Sender.afterMessage).get (by decide)).pc = .looping) ∧
    (((exec BroadcastSenderThread.step .new
        BroadcastSenderThread.afterBroadcast).get (by decide)).stopThread.StopTakesEffect
      ↔ ((exec BroadcastSenderThread.step .new
        BroadcastSenderThread.afterBroadcast).get (by decide)).pc = .looping) := by
  have hs := (Option.some_get (x := exec Sender.step (.new false) Sender.afterMessage)
    (by decide)).symm
  have ht := (Option.some_get (x := exec BroadcastSenderThread.step .new
    BroadcastSenderThread.afterBroadcast) (by decide)).symm
  obtain ⟨hsender, hbroadcast⟩ := stop_takes_effect_iff false Sender.afterMessage _
    BroadcastSenderThread.afterBroadcast _
  exact ⟨hsender hs (by decide) (by decide), hbroadcast ht (by decide) (by decide)⟩

/-- The thread of a connection whose messages are all written sleeps through the call. -/
theorem idle_sender_sleeps_through_stop :
    ¬ ∀ enableHearbeat ls s, exec Sender.step (.new enableHearbeat) ls = some s →
      (∀ l ∈ ls, l ≠ .stopRuning) → s.pc ≠ .created → s.stopRuning.StopTakesEffect := by
  intro h
  have heffect := h false (Sender.afterMessage ++ [.run true, .run true]) _
    (Option.some_get (by decide)).symm (by decide) (by decide)
  obtain ⟨-, hsleeps, -⟩ := heffect [] _ (by simp) rfl
  exact hsleeps (by decide)

end Collaboration
