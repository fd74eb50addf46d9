import Collaboration.Sender.Messages
import Collaboration.Server.Connection

/-! # When a connection tells its client that it was let in

With an `Authorizer` a connection has queued a `PASS` exactly when it is connected, or when
its worker is about to make it so. Without one it never queues a `PASS`. -/

namespace Collaboration

open Transition

@[simp] theorem Server.isPass_authorizePackage (authorize : Bool) :
    (authorizePackage authorize).isPass = authorize := by
  cases authorize <;> decide

namespace ServerPc

/-- The worker asks, or has asked, the `Authorizer`, or is about to refuse. -/
def asks : ServerPc → Bool
  | .authorizing _ _ | .replying _ _ | .deciding _ false => true
  | _ => false

/-- The worker is about to make the connection connected. -/
def passes : ServerPc → Bool
  | .deciding _ true => true
  | _ => false

end ServerPc

namespace ServerConnection

/-- The messages submitted to the sender so far. -/
def messages (c : ServerConnection) : List Data := c.mDataSenderThread.elim [] Sender.messages

/-- The messages that the sender has written, in the order of the stream. -/
def sent (c : ServerConnection) : List Data := c.mDataSenderThread.elim [] Sender.delivered

/-- The messages that the sender failed to write. -/
def lost (c : ServerConnection) : List Data := c.mDataSenderThread.elim [] Sender.lost

/-- A `PASS` was queued for the client. -/
def ToldPass (c : ServerConnection) : Prop := ∃ d ∈ c.messages, d.isPass = true

@[simp] theorem takesData_releaseServerSocket (c : ServerConnection) :
    c.releaseServerSocket.takesData = c.takesData := by
  simp [takesData, releaseServerSocket, canSendData, isConnected]

@[simp] theorem messages_releaseServerSocket (c : ServerConnection) :
    c.releaseServerSocket.messages = c.messages := by
  unfold messages releaseServerSocket
  cases c.mDataSenderThread <;> rfl

theorem toldPass_releaseServerSocket (c : ServerConnection) :
    c.releaseServerSocket.ToldPass ↔ c.ToldPass := by
  simp [ToldPass]

@[simp] theorem sent_releaseServerSocket (c : ServerConnection) :
    c.releaseServerSocket.sent = c.sent := by
  unfold sent releaseServerSocket
  cases c.mDataSenderThread <;> rfl

@[simp] theorem sent_sendDataToTarget (c : ServerConnection) (d : Data) :
    (c.sendDataToTarget d).sent = c.sent := by
  unfold sendDataToTarget
  split
  · rename_i sender hs
    split
    · simp [sent, hs]
    · rfl
  · rfl

@[simp] theorem takesData_sendDataToTarget (c : ServerConnection) (d : Data) :
    (c.sendDataToTarget d).takesData = c.takesData := by
  unfold sendDataToTarget
  split
  · rename_i sender hs
    split
    · simp [takesData, hs, canSendData, isConnected]
    · rfl
  · rfl

theorem toldPass_sendDataToTarget (c : ServerConnection) (d : Data) :
    (c.sendDataToTarget d).ToldPass ↔ c.ToldPass ∨ c.takesData = true ∧ d.isPass = true := by
  cases hs : c.mDataSenderThread with
  | none => simp [sendDataToTarget, takesData, hs]
  | some sender =>
      by_cases hc : c.canSendData = true
      · simp [sendDataToTarget, takesData, hs, hc, ToldPass, messages, or_and_right, exists_or]
      · simp [sendDataToTarget, takesData, hs, hc]

/-- What a connection has at each point of its worker. -/
def Fits (c : ServerConnection) : Prop :=
  match c.pc with
  | .absent | .constructed | .queued | .opening =>
    c.mDataSenderThread = none ∧ c.mConnectStatus = .notInit
  | .openingInput | .announcing => c.mDataSenderThread.isSome = true ∧ c.mConnectStatus = .notInit
  | .clearing | .testing | .reading | .authorizing _ _ | .replying _ _ | .deciding _ _ =>
    c.takesData = true
  | .releasing | .finished => True

/-- The client is told if and only if there is an `Authorizer` and the connection is
connected, or about to be. -/
structure RepliesInv (auth : Bool) (c : ServerConnection) : Prop where
  fits : Fits c
  unasked : auth = false → c.pc.asks = false
  told : c.ToldPass ↔ auth = true ∧ (c.mConnectStatus = .connected ∨ c.pc.passes = true)

theorem repliesInv_absent (auth : Bool) : RepliesInv auth absent := by
  constructor
  · exact ⟨rfl, rfl⟩
  · intro _
    rfl
  · simp [ToldPass, messages, absent, ServerPc.passes]

/-- A change that submits no `PASS` and leaves the status alone. -/
theorem RepliesInv.moved {auth : Bool} {c d : ServerConnection} (h : RepliesInv auth c)
    (hf : Fits d) (ht : d.ToldPass ↔ c.ToldPass) (hs : d.mConnectStatus = c.mConnectStatus)
    (ha : auth = false → d.pc.asks = false) (hp : d.pc.passes = c.pc.passes) : RepliesInv auth d :=
  ⟨hf, ha, by rw [ht, hs, hp, h.told]⟩

theorem RepliesInv.failReading {auth : Bool} {c : ServerConnection} (h : RepliesInv auth c)
    (ht : c.takesData = true) (hp : c.pc.passes = false) : RepliesInv auth c.failReading := by
  have htakes : c.failReading.takesData = true :=
    (takesData_releaseServerSocket c).trans ht
  apply h.moved
  · exact htakes
  · exact toldPass_releaseServerSocket c
  · rfl
  · exact fun _ => rfl
  · rw [hp]
    rfl

/-- A step of the sender, or of its timer. -/
theorem RepliesInv.sender {auth : Bool} {c : ServerConnection} {s t : Sender}
    (h : RepliesInv auth c) (hs : c.mDataSenderThread = some s)
    (ht : (∃ d ∈ t.messages, d.isPass = true) ↔ ∃ d ∈ s.messages, d.isPass = true) :
    RepliesInv auth { c with mDataSenderThread := some t } := by
  apply h.moved
  · have hfits := h.fits
    unfold Fits at hfits ⊢
    split <;> simp_all [takesData, canSendData, isConnected]
  · simpa [ToldPass, messages, hs] using ht
  · rfl
  · exact h.unasked
  · rfl

theorem RepliesInv.sendDataToTarget {auth : Bool} {c : ServerConnection} (h : RepliesInv auth c)
    {d : Data} (hd : d.isPass = false) : RepliesInv auth (c.sendDataToTarget d) := by
  unfold ServerConnection.sendDataToTarget
  split
  · rename_i sender hs
    split
    · refine h.sender hs ?_
      simp [hd, or_and_right, exists_or]
    · exact h
  · exact h

theorem RepliesInv.own {auth : Bool} {c d : ServerConnection} {l : Label}
    (h : RepliesInv auth c) (hs : c.step l = some d) : RepliesInv auth d := by
  have hfits := h.fits
  cases steps_of_step hs with
  | openOutput hpc =>
      obtain ⟨hnone, hinit⟩ : c.mDataSenderThread = none ∧ c.mConnectStatus = .notInit := by
        simpa only [Fits, hpc] using hfits
      refine h.moved ⟨rfl, hinit⟩ ?_ rfl (fun _ => rfl) (by simp [hpc, ServerPc.passes])
      simp [ToldPass, messages, hnone, Sender.messages, Sender.new]
  | openInput hpc =>
      obtain ⟨hsome, hinit⟩ :
          c.mDataSenderThread.isSome = true ∧ c.mConnectStatus = .notInit := by
        simpa only [Fits, hpc] using hfits
      obtain ⟨sender, hsender⟩ := Option.isSome_iff_exists.mp hsome
      refine h.moved ⟨?_, hinit⟩ ?_ rfl (fun _ => rfl) (by simp [hpc, ServerPc.passes])
      · simpa using hsome
      · simp [ToldPass, messages, hsender, Sender.messages]
  | openOutputFails hpc | openInputFails hpc | leaves hpc =>
      exact h.moved trivial .rfl rfl (fun _ => rfl) (by simp [hpc, ServerPc.passes])
  | clearStop hpc | loops hpc =>
      have htakes : c.takesData = true := by simpa only [Fits, hpc] using hfits
      exact h.moved htakes .rfl rfl (fun _ => rfl) (by simp [hpc, ServerPc.passes])
  | readFails hpc =>
      have htakes : c.takesData = true := by simpa only [Fits, hpc] using hfits
      exact h.failReading htakes (by simp [hpc, ServerPc.passes])
  | heartbeat hc =>
      refine h.sender hc ?_
      simp [or_and_right, exists_or]
  | send hc hrun =>
      refine h.sender hc ?_
      simp [Sender.messages_run hrun]

end ServerConnection

namespace Server

open ServerConnection

variable {cfg : Config} {s : Server}

theorem repliesInv_effect {l : Label} {d : ℕ} {y : ServerConnection}
    (h : RepliesInv cfg.mNeedCheckAuthorize (s.connections d)) (he : Effect cfg s d l y)
    (hdata : ∀ data, l = .sendDataToTarget data → data.isPass = false) :
    RepliesInv cfg.mNeedCheckAuthorize y := by
  have hfits := h.fits
  cases he with
  | same => exact h
  | accepted => exact ⟨⟨rfl, rfl⟩, fun _ => rfl, by
      simp [ToldPass, messages, ServerConnection.new, absent, ServerPc.passes]⟩
  | handed _ hpc | queued _ hpc | taken _ hpc =>
      have hnew : (s.connections d).mDataSenderThread = none ∧
          (s.connections d).mConnectStatus = .notInit := by
        simpa only [Fits, hpc] using hfits
      exact h.moved hnew .rfl rfl (fun _ => rfl) (by simp [hpc, ServerPc.passes])
  | named name => exact ⟨hfits, h.unasked, h.told⟩
  | own hs => exact h.own hs
  | announced hpc =>
      obtain ⟨hsome, hinit⟩ : (s.connections d).mDataSenderThread.isSome = true ∧
          (s.connections d).mConnectStatus = .notInit := by
        simpa only [Fits, hpc] using hfits
      have hnot : ¬(s.connections d).ToldPass := by
        rw [h.told, hinit, hpc]
        simp [ServerPc.passes]
      refine ⟨?_, fun _ => rfl, ?_⟩
      · simpa [Fits, takesData, canSendData] using hsome
      · refine iff_of_false hnot ?_
        simp [ServerPc.passes]
  | failed hpc =>
      rcases hpc with hpc | ⟨name, message, hpc⟩
      · have htakes : (s.connections d).takesData = true := by simpa only [Fits, hpc] using hfits
        exact h.failReading htakes (by simp [hpc, ServerPc.passes])
      · have htakes : (s.connections d).takesData = true := by simpa only [Fits, hpc] using hfits
        exact h.failReading htakes (by simp [hpc, ServerPc.passes])
  | dropped hpc =>
      have htakes : (s.connections d).takesData = true := by simpa only [Fits, hpc] using hfits
      exact h.moved htakes .rfl rfl (fun _ => rfl) (by simp [hpc, ServerPc.passes])
  | asked hauth hpc =>
      have htakes : (s.connections d).takesData = true := by simpa only [Fits, hpc] using hfits
      exact h.moved htakes .rfl rfl (by simp [hauth]) (by simp [hpc, ServerPc.passes])
  | unasked hauth hpc =>
      have htakes : (s.connections d).takesData = true := by simpa only [Fits, hpc] using hfits
      refine ⟨htakes, fun _ => rfl, ?_⟩
      have htold := h.told
      simp only [hauth, Bool.false_eq_true, false_and] at htold ⊢
      exact htold
  | answered hpc =>
      have htakes : (s.connections d).takesData = true := by simpa only [Fits, hpc] using hfits
      have hauth : cfg.mNeedCheckAuthorize = true := by
        by_contra hno
        simpa [hpc, ServerPc.asks] using h.unasked (by simpa using hno)
      exact h.moved htakes .rfl rfl (by simp [hauth]) (by simp [hpc, ServerPc.passes])
  | @replied name authorize hpc =>
      have htakes : (s.connections d).takesData = true := by simpa only [Fits, hpc] using hfits
      have hauth : cfg.mNeedCheckAuthorize = true := by
        by_contra hno
        simpa [hpc, ServerPc.asks] using h.unasked (by simpa using hno)
      have hst : ((s.connections d).sendDataToTarget (authorizePackage authorize)).mConnectStatus =
          (s.connections d).mConnectStatus := by
        obtain ⟨sender, heq⟩ := (s.connections d).sendDataToTarget_eq (authorizePackage authorize)
        rw [heq]
      refine ⟨?_, by simp [hauth], ?_⟩
      · exact (takesData_sendDataToTarget _ _).trans htakes
      · have hsent := toldPass_sendDataToTarget (s.connections d) (authorizePackage authorize)
        rw [h.told, hpc] at hsent
        refine Iff.trans hsent ?_
        cases authorize <;> simp [hauth, htakes, hst, ServerPc.passes]
  | passed hpc =>
      have htold := h.told
      have htakes : (s.connections d).takesData = true := by simpa only [Fits, hpc] using hfits
      refine ⟨?_, fun _ => rfl, ?_⟩
      · simp only [takesData, Bool.and_eq_true] at htakes
        simpa [Fits, takesData, canSendData, isConnected] using htakes.2
      · refine Iff.trans htold ?_
        simp [hpc, ServerPc.passes]
  | refused hpc =>
      have htakes : (s.connections d).takesData = true := by simpa only [Fits, hpc] using hfits
      exact h.moved htakes .rfl rfl (fun _ => rfl) (by simp [hpc, ServerPc.passes])
  | finished hpc =>
      exact h.moved trivial (toldPass_releaseServerSocket _) rfl (fun _ => rfl)
        (by simp [hpc, ServerPc.passes])
  | @offered data => exact h.sendDataToTarget (hdata data rfl)

/-! ## What a connection has written -/

/-- The output of a connection only grows. -/
theorem sent_own {c d : ServerConnection} {l : ServerConnection.Label} (hf : Fits c)
    (hs : c.step l = some d) : c.sent <+: d.sent := by
  cases ServerConnection.steps_of_step hs with
  | openOutput hpc =>
      have hnone : c.mDataSenderThread = none := by
        simp only [Fits, hpc] at hf
        exact hf.1
      simp [sent, hnone]
  | openInput =>
      cases hc : c.mDataSenderThread <;> simp [sent, hc, Sender.delivered, Sender.written]
  | openOutputFails | openInputFails | clearStop | loops | leaves => exact List.prefix_rfl
  | readFails => exact (sent_releaseServerSocket c).symm ▸ List.prefix_rfl
  | heartbeat hc => simp [sent, hc]
  | send hc hrun => simpa [sent, hc] using Sender.delivered_run hrun

theorem sent_effect {l : Label} {d : ℕ} {y : ServerConnection} (hf : Fits (s.connections d))
    (he : Effect cfg s d l y) : (s.connections d).sent <+: y.sent := by
  cases he with
  | accepted _ hpc =>
      have hnone : (s.connections d).mDataSenderThread = none := by
        simp only [Fits, hpc] at hf
        exact hf.1
      simp [sent, hnone]
  | own hs => exact sent_own hf hs
  | failed | finished => exact (sent_releaseServerSocket _).symm ▸ List.prefix_rfl
  | replied | offered => exact (sent_sendDataToTarget _ _).symm ▸ List.prefix_rfl
  | _ => exact List.prefix_rfl

/-! ## Runs -/

theorem mConnectStatus_own {c d : ServerConnection} {l : ServerConnection.Label}
    (hs : c.step l = some d) : d.mConnectStatus = c.mConnectStatus := by
  cases ServerConnection.steps_of_step hs <;> rfl

theorem pc_of_decide {t : Server} {d : ℕ} (hs : s.step cfg (.decide d) = some t) :
    (s.connections d).pc ≠ .testing ∧ (t.connections d).pc = .testing := by
  cases steps_of_step hs with
  | decide hpc => simp [hpc]

theorem connected_effect {l : Label} {d : ℕ} {y : ServerConnection} (hf : Fits (s.connections d))
    (he : Effect cfg s d l y) (hl : l ≠ .decide d) :
    y.mConnectStatus = .connected ↔ (s.connections d).mConnectStatus = .connected := by
  cases he with
  | accepted _ hpc =>
      simp only [Fits, hpc] at hf
      simp [hf.2, ServerConnection.new, absent]
  | announced hpc =>
      simp only [Fits, hpc] at hf
      simp [hf.2]
  | own hs => rw [mConnectStatus_own hs]
  | replied =>
      obtain ⟨sender, heq⟩ := (s.connections d).sendDataToTarget_eq (authorizePackage _)
      rw [heq]
  | offered =>
      obtain ⟨sender, heq⟩ := (s.connections d).sendDataToTarget_eq _
      rw [heq]
  | passed | refused => exact absurd rfl hl
  | _ => exact .rfl

/-- Without an `Authorizer` the first package connects the connection, and only that does. -/
theorem decided_step {past : List Label} {t : Server} {l : Label} {d : ℕ}
    (hauth : cfg.mNeedCheckAuthorize = false)
    (ha : RepliesInv cfg.mNeedCheckAuthorize (s.connections d))
    (h : (s.connections d).mConnectStatus = .connected ↔ .decide d ∈ past)
    (hs : s.step cfg l = some t) (he : Effect cfg s d l (t.connections d)) :
    (t.connections d).mConnectStatus = .connected ↔ .decide d ∈ past ++ [l] := by
  by_cases hl : l = .decide d
  · subst hl
    obtain ⟨hne, htesting⟩ := pc_of_decide hs
    generalize t.connections d = y at he htesting
    cases he with
    | same => exact absurd htesting hne
    | failed hread =>
        simp only [step] at hs
        rcases hread with hread | ⟨name, message, hread⟩
        · simp [hread] at hs
        · simp [hread] at hs
    | passed => simp
    | refused hpc =>
        have hasks := ha.unasked hauth
        simp [hpc, ServerPc.asks] at hasks
  · have hmem : .decide d ∈ past ++ [l] ↔ .decide d ∈ past := by
      simp [Ne.symm hl]
    rw [hmem, ← h]
    exact connected_effect ha.fits he hl

variable {free : Int32 → Bool} {ls : List Label}

theorem repliesInv_of_run (hr : Along (step cfg) Registered (init cfg free) ls)
    (he : exec (step cfg) (init cfg free) ls = some s) (d : ℕ) :
    RepliesInv cfg.mNeedCheckAuthorize (s.connections d) := by
  refine hosted_of_run (I := fun _ _ c => RepliesInv cfg.mNeedCheckAuthorize c) ?_ ?_ hr he d
  · rintro past s l t d h - hr heffect
    apply repliesInv_effect h heffect
    rintro data rfl
    exact hr
  · exact fun _ => repliesInv_absent _

theorem decided_of_run (hauth : cfg.mNeedCheckAuthorize = false)
    (hr : Along (step cfg) Registered (init cfg free) ls)
    (he : exec (step cfg) (init cfg free) ls = some s) (d : ℕ) :
    (s.connections d).mConnectStatus = .connected ↔ .decide d ∈ ls := by
  refine (hosted_of_run (I := fun past d c => RepliesInv cfg.mNeedCheckAuthorize c ∧
    (c.mConnectStatus = .connected ↔ .decide d ∈ past)) ?_ ?_ hr he d).2
  · rintro past s l t d ⟨ha, h⟩ hs hr heffect
    refine ⟨?_, decided_step hauth ha h hs heffect⟩
    apply repliesInv_effect ha heffect
    rintro data rfl
    exact hr
  · exact fun d => ⟨repliesInv_absent _, by simp [absent]⟩

theorem sent_along_run (hr : Along (step cfg) Registered (init cfg free) ls) (d : ℕ) :
    Along (step cfg) (fun s _ t => (s.connections d).sent <+: (t.connections d).sent)
      (init cfg free) ls := by
  refine along_of_effects (I := fun c => RepliesInv cfg.mNeedCheckAuthorize c)
    (Q := fun c y => c.sent <+: y.sent) ?_ ?_ (repliesInv_absent _) hr d
  · rintro s l t d h hr heffect
    apply repliesInv_effect h heffect
    rintro data rfl
    exact hr
  · exact fun s l y d h heffect => sent_effect h.fits heffect

end Server

end Collaboration
