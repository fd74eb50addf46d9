import Collaboration.Reading.Client
import Collaboration.Reading.Server

/-! # What is released when `run()` is left

`ServerConnection` releases in a `finally` block of its own. The client releases after a call
of its listener in the same block. -/

namespace Collaboration

open Transition

namespace ServerRun

/-- How far the release has come at each place. -/
def ReleaseAt (t : ServerRun) : Prop :=
  match t.pc with
  | .releasing _ => t.streams.ReleasedBefore
  | .left => t.streams.stage = .input ∧ t.streams.Released
  | _ => t.streams.stage = .input

structure ReleaseOk (t : ServerRun) : Prop where
  ok : t.streams.Ok
  place : ReleaseAt t

theorem releaseOk_new : ReleaseOk new := ⟨⟨.null, .null, .held⟩, rfl⟩

theorem releaseAt_of_stage {t : ServerRun} (hstage : t.streams.stage = .input)
    (hpc : t.pc ≠ .left) : ReleaseAt t := by
  unfold ReleaseAt
  split
  · exact Streams.releasedBefore_of_input hstage
  · rename_i hleft
    exact absurd hleft hpc
  · exact hstage

theorem ReleaseAt.stage {t : ServerRun} (h : ReleaseAt t)
    (hpc : ∀ leaving, t.pc ≠ .releasing leaving) : t.streams.stage = .input := by
  unfold ReleaseAt at h
  split at h
  · rename_i leaving hreleasing
    exact absurd hreleasing (hpc leaving)
  · exact h.1
  · exact h

theorem releaseAt_release {t : ServerRun} {leaving : Bool} (hok : t.streams.Ok)
    (h : t.streams.ReleasedBefore) : ReleaseAt (t.release leaving) := by
  unfold ServerRun.release
  by_cases hstage : t.streams.stage = .sender
  · have hfirst : t.streams.release.stage = .input := by simp [Streams.release, hstage]
    cases leaving with
    | true => simpa [ReleaseAt, hstage] using ⟨hfirst, h.released hstage⟩
    | false => simpa [ReleaseAt, hstage] using hfirst
  · simpa [ReleaseAt, hstage] using h.release hok

theorem releaseOk_step {t u : ServerRun} {l : Label} (h : ReleaseOk t)
    (hs : t.step l = some u) : ReleaseOk u := by
  have hplace := h.place
  cases steps_of_step hs with
  | @opens m next s hopening hstreams =>
      have hm : m ≠ .release ∧ next ≠ .left ∧ ∀ leaving, t.pc ≠ .releasing leaving := by
        cases hpc : t.pc <;> simp only [hpc, opening] at hopening <;> cases hopening <;> simp
      have hopens := Streams.opens_of_step hstreams hm.1
      refine ⟨hopens.ok h.ok, releaseAt_of_stage ?_ hm.2.1⟩
      exact hopens.stage.trans (hplace.stage hm.2.2)
  | moves hmoves =>
      refine ⟨hmoves.streams ▸ h.ok, releaseAt_of_stage ?_ hmoves.next⟩
      rw [hmoves.streams]
      exact hplace.stage hmoves.running
  | release hpc =>
      simp only [ReleaseAt, hpc] at hplace
      exact ⟨h.ok.release, releaseAt_release h.ok hplace⟩
  | other hd =>
      refine ⟨hd.streams.ok h.ok, ?_⟩
      unfold ReleaseAt at hplace ⊢
      rw [hd.pc]
      cases hpc : t.pc with
      | releasing leaving =>
          simp only [hpc] at hplace
          exact hd.streams.releasedBefore hplace
      | left =>
          simp only [hpc] at hplace
          exact ⟨hd.streams.stage.trans hplace.1, hd.streams.released_iff.mpr hplace.2⟩
      | _ =>
          simp only [hpc] at hplace
          exact hd.streams.stage.trans hplace

/-- However a connection of the server ends, it has released everything. -/
theorem released_of_left {ls : List Label} {t : ServerRun} (h : exec step new ls = some t)
    (hpc : t.pc = .left) : t.streams.Released := by
  have hplace := (invariant (fun _ _ _ => releaseOk_step) releaseOk_new h).place
  simp only [ReleaseAt, hpc] at hplace
  exact hplace.2

end ServerRun

namespace ClientRun

/-- The listener returns from the report of DISCONNECTED, or the socket was not opened. -/
def ReleaseReached (ls : List Label) : Prop := .disconnect false ∉ ls ∨ .connect false ∈ ls

instance (ls : List Label) : Decidable (ReleaseReached ls) := inferInstanceAs (Decidable (_ ∨ _))

/-- A place before the release. -/
structure Before (past : List Label) (t : ClientRun) : Prop where
  stage : t.streams.stage = .input
  quiet : .disconnect false ∉ past

/-- The socket is open. -/
def HeldAt (past : List Label) (t : ClientRun) : Prop :=
  .connect false ∉ past ∧ t.streams.mConnectionSocket = .held

/-- The socket could not be opened, so nothing was. -/
def UnopenedAt (past : List Label) (t : ClientRun) : Prop :=
  .connect false ∈ past ∧ t.streams.Unopened

/-- How far the opening and the release have come at each place. -/
def ReleaseAt (past : List Label) (t : ClientRun) : Prop :=
  match t.pc with
  | .initializing | .connecting =>
    Before past t ∧ .connect false ∉ past ∧ t.streams.Unopened
  | .disconnecting => Before past t ∧ (UnopenedAt past t ∨ HeldAt past t)
  | .releasing => .disconnect false ∉ past ∧ t.streams.ReleasedBefore
  | .left => t.streams.Released ↔ ReleaseReached past
  | _ => Before past t ∧ HeldAt past t

structure ReleaseOk (past : List Label) (t : ClientRun) : Prop where
  ok : t.streams.Ok
  place : ReleaseAt past t

theorem releaseOk_new : ReleaseOk [] new :=
  ⟨⟨.null, .null, .null⟩, ⟨rfl, by simp⟩, by simp, ⟨rfl, rfl, rfl, rfl⟩⟩

theorem not_released_of_held {s : Streams} (h : s.mConnectionSocket = .held) : ¬ s.Released := by
  intro hr
  have hsocket := hr.socket
  rw [h] at hsocket
  cases (hsocket rfl).1

theorem released_of_unopened {s : Streams} (h : s.Unopened) : s.Released := by
  refine ⟨fun hopen => ?_, fun hopen => ?_, fun hopen => ?_, fun hsome => ?_⟩
  · simp [h.input] at hopen
  · simp [h.output] at hopen
  · simp [h.socket] at hopen
  · simp [h.sender] at hsome

section Steps

variable {past : List Label} {l : Label} {t u : ClientRun}

theorem connect_mem_iff (h : l.isQuiet = true) :
    .connect false ∈ past ++ [l] ↔ .connect false ∈ past := by
  have hne : Label.connect false ≠ l := by
    rintro rfl
    cases h
  simp [hne]

theorem disconnect_mem_iff (h : l.isQuiet = true) :
    .disconnect false ∈ past ++ [l] ↔ .disconnect false ∈ past := by
  have hne : Label.disconnect false ≠ l := by
    rintro rfl
    cases h
  simp [hne]

theorem Before.snoc (h : Before past t) (hl : l.isQuiet = true)
    (hstage : u.streams.stage = t.streams.stage) : Before (past ++ [l]) u :=
  ⟨hstage.trans h.stage, (disconnect_mem_iff hl).not.mpr h.quiet⟩

theorem HeldAt.snoc (h : HeldAt past t) (hl : l.isQuiet = true)
    (hsocket : u.streams.mConnectionSocket = t.streams.mConnectionSocket) :
    HeldAt (past ++ [l]) u :=
  ⟨(connect_mem_iff hl).not.mpr h.1, hsocket.trans h.2⟩

theorem UnopenedAt.snoc (h : UnopenedAt past t) (hl : l.isQuiet = true)
    (hun : t.streams.Unopened → u.streams.Unopened) : UnopenedAt (past ++ [l]) u :=
  ⟨(connect_mem_iff hl).mpr h.1, hun h.2⟩

/-- Leaving `run()` without the release. -/
theorem released_iff_of_disconnect_throws (h : UnopenedAt past t ∨ HeldAt past t) :
    t.streams.Released ↔ ReleaseReached (past ++ [.disconnect false]) := by
  rcases h with ⟨hconnect, hun⟩ | ⟨hconnect, hheld⟩
  · exact iff_of_true (released_of_unopened hun) (.inr (by simp [hconnect]))
  · refine iff_of_false (not_released_of_held hheld) ?_
    simp [ReleaseReached, hconnect]

/-- A step of another thread, or of this one, that stays at a place or goes on to one where the
same holds. -/
theorem releaseAt_of_disturbed (h : ReleaseAt past t) (hl : l.isQuiet = true)
    (hd : Disturbed t u) : ReleaseAt (past ++ [l]) u := by
  unfold ReleaseAt at h ⊢
  rw [hd.pc]
  cases hpc : t.pc with
  | initializing | connecting =>
      simp only [hpc] at h
      exact ⟨h.1.snoc hl hd.streams.stage, (connect_mem_iff hl).not.mpr h.2.1,
        hd.streams.unopened h.2.2⟩
  | disconnecting =>
      simp only [hpc] at h
      exact ⟨h.1.snoc hl hd.streams.stage, h.2.imp
        (·.snoc hl hd.streams.unopened) (·.snoc hl hd.streams.socket)⟩
  | releasing =>
      simp only [hpc] at h
      exact ⟨(disconnect_mem_iff hl).not.mpr h.1, hd.streams.releasedBefore h.2⟩
  | left =>
      simp only [hpc] at h
      rw [ReleaseReached, disconnect_mem_iff hl, connect_mem_iff hl]
      exact hd.streams.released_iff.trans h
  | _ =>
      simp only [hpc] at h
      exact ⟨h.1.snoc hl hd.streams.stage, h.2.snoc hl hd.streams.socket⟩

theorem sameFields_close (t : ClientRun) : Streams.SameFields t.streams t.close.streams := by
  cases hsend : t.canSendData with
  | true => exact Streams.sameFields_of_addMessage (close_streams hsend)
  | false =>
      rw [close_streams_of_not hsend]
      exact .refl _

theorem releaseAt_opens {m : Streams.Label} {next : ClientRunPc} {s : Streams}
    (h : ReleaseAt past t) (hl : l.isQuiet = true) (hopening : opening t.pc = some (m, next))
    (hs : t.streams.step m = some s) :
    ReleaseAt (past ++ [l]) { t with streams := s, pc := next } := by
  unfold ReleaseAt at h
  have hopens := Streams.opens_of_step hs (opening_ne_release hopening)
  have hsocket := hopens.socket
  cases hpc : t.pc with
  | connecting =>
      simp only [hpc] at h
      obtain ⟨rfl, rfl⟩ := Prod.mk.inj (Option.some.inj (hpc ▸ hopening))
      exact ⟨h.1.snoc hl hopens.stage, (connect_mem_iff hl).not.mpr h.2.1, hsocket⟩
  | openingInput | openingOutput | creatingSender | startingSender =>
      simp only [hpc] at h
      obtain ⟨rfl, rfl⟩ := Prod.mk.inj (Option.some.inj (hpc ▸ hopening))
      exact ⟨h.1.snoc hl hopens.stage, h.2.snoc hl hsocket⟩
  | _ => simp [hpc, opening] at hopening

theorem releaseOk_step (h : ReleaseOk past t) (hs : t.step l = some u) :
    ReleaseOk (past ++ [l]) u := by
  have hplace := h.place
  cases steps_of_step hs with
  | init hpc =>
      simp only [ReleaseAt, hpc] at hplace
      exact ⟨h.ok, hplace.1.snoc rfl rfl, (connect_mem_iff rfl).not.mpr hplace.2.1, hplace.2.2⟩
  | opens hquiet hopening hstreams =>
      have hopens := Streams.opens_of_step hstreams (opening_ne_release hopening)
      exact ⟨hopens.ok h.ok, releaseAt_opens hplace hquiet hopening hstreams⟩
  | connectFails hpc =>
      simp only [ReleaseAt, hpc] at hplace
      exact ⟨h.ok, ⟨hplace.1.stage, by simp [hplace.1.quiet]⟩, .inl ⟨by simp, hplace.2.2⟩⟩
  | openFails hquiet hpc =>
      refine ⟨h.ok, ?_⟩
      rcases hpc with hpc | hpc | hpc <;> simp only [ReleaseAt, hpc] at hplace <;>
        exact ⟨hplace.1.snoc hquiet rfl, .inr (hplace.2.snoc hquiet rfl)⟩
  | setSoTimeout hpc | goesOn hpc =>
      simp only [ReleaseAt, hpc] at hplace
      exact ⟨h.ok, hplace.1.snoc rfl rfl, hplace.2.snoc rfl rfl⟩
  | stops hpc | readTimesOut hpc =>
      simp only [ReleaseAt, hpc] at hplace
      exact ⟨h.ok, hplace.1.snoc rfl rfl, hplace.2.snoc rfl rfl⟩
  | readFails hpc =>
      simp only [ReleaseAt, hpc] at hplace
      exact ⟨h.ok, hplace.1.snoc rfl rfl, .inr (hplace.2.snoc rfl rfl)⟩
  | @announce returns hpc | @accept returns hpc | @handled returns hpc =>
      simp only [ReleaseAt, hpc] at hplace
      refine ⟨h.ok, ?_⟩
      cases returns with
      | true => exact ⟨hplace.1.snoc rfl rfl, hplace.2.snoc rfl rfl⟩
      | false => exact ⟨hplace.1.snoc rfl rfl, .inr (hplace.2.snoc rfl rfl)⟩
  | @read data hpc =>
      simp only [ReleaseAt, hpc] at hplace
      have hstreams := receive_streams t data
      refine ⟨hstreams ▸ h.ok, ?_⟩
      rcases receive_pc t data with hnext | hnext | hnext <;> simp only [ReleaseAt, hnext] <;>
        exact ⟨hplace.1.snoc rfl (by rw [hstreams]), hplace.2.snoc rfl (by rw [hstreams])⟩
  | close hpc =>
      simp only [ReleaseAt, hpc] at hplace
      have hsame := sameFields_close t
      refine ⟨hsame.ok h.ok, ?_⟩
      simp only [ReleaseAt, close_pc]
      exact ⟨hplace.1.snoc rfl hsame.stage, .inr (hplace.2.snoc rfl hsame.socket)⟩
  | @disconnect returns hpc =>
      simp only [ReleaseAt, hpc] at hplace
      refine ⟨h.ok, ?_⟩
      cases returns with
      | true =>
          refine ⟨by simp [hplace.1.quiet], Streams.releasedBefore_of_input hplace.1.stage⟩
      | false => exact released_iff_of_disconnect_throws hplace.2
  | release hpc =>
      simp only [ReleaseAt, hpc] at hplace
      refine ⟨h.ok.release, ?_⟩
      have hpast : .disconnect false ∉ past ++ [.release] := by simp [hplace.1]
      unfold ClientRun.release
      by_cases hstage : t.streams.stage = .sender
      · simpa [ReleaseAt, hstage, hplace.2.released hstage] using .inl hpast
      · simpa [ReleaseAt, hstage] using ⟨hplace.1, hplace.2.release h.ok⟩
  | other hquiet hd => exact ⟨hd.streams.ok h.ok, releaseAt_of_disturbed hplace hquiet hd⟩

end Steps

/-- A client thread that was left has released everything exactly if its listener returned from
the report of DISCONNECTED, or its socket was not opened. -/
theorem released_iff_of_left {ls : List Label} {t : ClientRun} (h : exec step new ls = some t)
    (hpc : t.pc = .left) : t.streams.Released ↔ ReleaseReached ls := by
  have hok : ReleaseOk ([] ++ ls) t := history (fun _ _ _ _ => releaseOk_step) releaseOk_new h
  have hplace := hok.place
  simpa only [ReleaseAt, hpc, List.nil_append] using hplace

end ClientRun

/-- When `run()` is left on the server, everything that had been opened is released; on the
client exactly if the listener returns from the report of DISCONNECTED or the socket was not
opened. -/
theorem released_on_leaving_iff (ls : List ServerRun.Label) (t : ServerRun)
    (ms : List ClientRun.Label) (u : ClientRun) :
    (exec ServerRun.step .new ls = some t → t.pc = .left → t.streams.Released) ∧
    (exec ClientRun.step .new ms = some u → u.pc = .left →
      (u.streams.Released ↔ ClientRun.ReleaseReached ms)) :=
  ⟨ServerRun.released_of_left, ClientRun.released_iff_of_left⟩

/-- A connection of the server whose client goes away. -/
def serverReads : List ServerRun.Label :=
  [.openOutput true, .createSender, .openInput true, .startSender, .announce true, .clear, .test,
    .readFails false, .caught, .release, .release, .release, .release, .test,
    .release, .release, .release, .release]

/-- An opened connection whose server goes away. -/
def clientReads : List ClientRun.Label :=
  [.init, .connect true, .setSoTimeout true, .openInput true, .openOutput true, .createSender,
    .startSender, .announce true, .test, .readFails]

def clientLeaves : List ClientRun.Label :=
  clientReads ++ [.disconnect true, .release, .release, .release, .release]

theorem released_on_leaving_iff_reads :
    (∃ t, exec ServerRun.step .new serverReads = some t ∧ t.streams.Released) ∧
    ∃ t, exec ClientRun.step .new clientLeaves = some t ∧ t.streams.Released := by
  have hs := (Option.some_get (x := exec ServerRun.step .new serverReads) (by decide)).symm
  have hc := (Option.some_get (x := exec ClientRun.step .new clientLeaves) (by decide)).symm
  obtain ⟨hserver, hclient⟩ := released_on_leaving_iff serverReads _ clientLeaves _
  exact ⟨⟨_, hs, hserver hs (by decide)⟩, ⟨_, hc, (hclient hc (by decide)).mpr (by decide)⟩⟩

/-- The listener throws in the `finally` block: the thread leaves its streams open. -/
theorem open_after_callback_throws :
    ¬ ∀ ls t, exec ClientRun.step .new ls = some t → t.pc = .left → t.streams.Released := by
  intro h
  have hreleased := h (clientReads ++ [.disconnect false]) _ (Option.some_get (by decide)).symm
    (by decide)
  exact absurd hreleased.socket (by decide)

end Collaboration
