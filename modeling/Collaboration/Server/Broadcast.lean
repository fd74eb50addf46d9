import Collaboration.Server.Confinement
import Collaboration.Server.Invariant

/-! # Whom a broadcast reaches

`sendDataToTarget` offers the object to every connection of the map, and `canSendData`
admits the connections that are still to be authorized. -/

namespace Collaboration

open Transition

namespace ServerConnection

def Unconnected (c : ServerConnection) : Prop := c.mConnectStatus ≠ .connected

instance : DecidablePred Unconnected := fun c =>
  inferInstanceAs (Decidable (c.mConnectStatus ≠ .connected))

def Authorized (c : ServerConnection) : Prop := c.mConnectStatus ≠ .unauthorized

instance : DecidablePred Authorized := fun c =>
  inferInstanceAs (Decidable (c.mConnectStatus ≠ .unauthorized))

theorem takesData_iff {c : ServerConnection} (h : SenderInv c) :
    (c.takesData = true → c.isConnected = true) ↔ Authorized c := by
  unfold takesData canSendData isConnected Authorized
  constructor
  · intro hc hst
    simp [hst, h.opened (.inr (.inr hst))] at hc
  · intro hst hc
    simpa [hst] using (Bool.and_eq_true_iff.mp hc).1

theorem queue_ne_iff (c : ServerConnection) (d : Data) :
    (c.sendDataToTarget d).queue ≠ c.queue ↔ c.takesData = true := by
  have h := c.sameService_sendDataToTarget_iff d
  obtain ⟨sender, heq⟩ := c.sendDataToTarget_eq d
  have hsame : SameService c (c.sendDataToTarget d) ↔ (c.sendDataToTarget d).queue = c.queue :=
    ⟨SameService.queue_eq, fun hq => ⟨by rw [heq], by rw [heq], hq⟩⟩
  rw [ne_eq, ← hsame, h, Bool.not_eq_false]

/-! ## What waits in a queue -/

/-- Application objects wait on connected connections only. -/
def QueueInv (c : ServerConnection) : Prop :=
  ∀ s ∈ c.mDataSenderThread, ∀ task ∈ s.mMessageTask, task.dataToSend.isApplication = true →
    c.mConnectStatus = .connected

theorem QueueInv.of_eq {c d : ServerConnection} (h : QueueInv c)
    (hs : d.mDataSenderThread = c.mDataSenderThread)
    (hst : c.mConnectStatus = .connected → d.mConnectStatus = .connected) : QueueInv d := by
  intro s hd task ht happ
  exact hst (h s (hs ▸ hd) task ht happ)

/-- A sender whose backlog has only lost tasks or gained harmless ones. -/
theorem QueueInv.sender {c : ServerConnection} (h : QueueInv c) {s t : Sender}
    (hc : c.mDataSenderThread = some s)
    (hq : ∀ task ∈ t.mMessageTask, task ∈ s.mMessageTask ∨ task.dataToSend.isApplication = false ∨
      c.mConnectStatus = .connected) :
    QueueInv { c with mDataSenderThread := some t } := by
  rintro _ ⟨⟩ task ht happ
  rcases hq task ht with hmem | hpkg | hcon
  · exact h s hc task hmem happ
  · simp [hpkg] at happ
  · exact hcon

theorem QueueInv.sendDataToTarget {c : ServerConnection} (h : QueueInv c) {d : Data}
    (hd : d.isApplication = false ∨ Authorized c) : QueueInv (c.sendDataToTarget d) := by
  unfold ServerConnection.sendDataToTarget
  split
  · rename_i s hs
    split
    · rename_i hcan
      refine h.sender hs ?_
      intro task ht
      simp only [Sender.addMessage, Sender.enqueue, List.mem_append, List.mem_singleton] at ht
      rcases ht with ht | rfl
      · exact .inl ht
      · rcases hd with hd | hd
        · exact .inr (.inl hd)
        · have hst : c.mConnectStatus = .connected ∨ c.mConnectStatus = .unauthorized := by
            simpa [canSendData, isConnected] using hcan
          exact .inr (.inr (hst.resolve_right hd))
    · exact h
  · exact h

theorem QueueInv.own {c d : ServerConnection} {l : ServerConnection.Label} (h : QueueInv c)
    (hs : c.step l = some d) : QueueInv d := by
  cases ServerConnection.steps_of_step hs with
  | openOutput =>
      rintro _ ⟨⟩ task ht
      simp [Sender.new] at ht
  | openInput | readFails =>
      intro s hs
      obtain ⟨s, hc, rfl⟩ := Option.map_eq_some_iff.mp hs
      exact h s hc
  | openOutputFails | openInputFails | clearStop | loops | leaves => exact h
  | heartbeat hc =>
      refine h.sender hc ?_
      intro task ht
      simp only [Sender.addHeartbeatPackage, Sender.enqueue, List.mem_append,
        List.mem_singleton] at ht
      rcases ht with ht | rfl
      · exact .inl ht
      · exact .inr (.inl rfl)
  | send hc hrun =>
      refine h.sender hc fun task ht => .inl ?_
      rcases Sender.run_backlog hrun with hserve | hkeep
      · obtain ⟨_, _, hq, -⟩ := hserve.attempt
        simp [hq, ht]
      · exact hkeep.queue_eq ▸ ht

theorem queueInv_invariant : Invariant Unconnected Authorized QueueInv where
  new := by simp [QueueInv, new, absent]
  named _ _ h := h
  moved _ _ _ _ h := h
  stop _ _ h := h
  unauthorized _ _ hfresh h := h.of_eq rfl fun hc => absurd hc hfresh
  connected _ h := h.of_eq rfl fun _ => rfl
  release _ h s hs := by
    obtain ⟨s, hc, rfl⟩ := Option.map_eq_some_iff.mp hs
    exact h s hc
  own _ _ _ hs h := h.own hs
  package _ _ h := h.sendDataToTarget (.inl rfl)
  data _ _ hl h := h.sendDataToTarget (.inr hl)

end ServerConnection

namespace LockedServer

open ServerConnection

variable {cfg : Config} {s t : LockedServer}

/-- A broadcast of the application changes the queues of connected connections only. -/
def QueuesOnConnected (s : LockedServer) (l : Label) (t : LockedServer) : Prop :=
  ∀ d, l = .offer d → ∀ b ∈ s.broadcasting, b.worker = none → ∀ c,
    (t.server.connections c).queue ≠ (s.server.connections c).queue →
      (s.server.connections c).isConnected = true

/-- The application offers nothing to a connection that is still to be authorized. -/
def NoneUnauthorized (s : LockedServer) (l : Label) (_ : LockedServer) : Prop :=
  match l with
  | .offer c => ∀ b ∈ s.broadcasting, b.worker = none → Authorized (s.server.connections c)
  | _ => True

instance (s : LockedServer) (l : Label) (t : LockedServer) : Decidable (NoneUnauthorized s l t) :=
  match l with
  | .offer c => inferInstanceAs (Decidable
      (∀ b ∈ s.broadcasting, b.worker = none → Authorized (s.server.connections c)))
  | .server _ | .answer _ | .sendDataToTarget _ | .unlock => instDecidableTrue

/-- A worker connects no connection but its own, and a connection that is connected is neither
refused nor announced as unauthorized. -/
def StaysAuthorized (s : LockedServer) (l : Label) (_ : LockedServer) : Prop :=
  match l with
  | .answer c =>
    match s.answers c with
    | .connecting d => d ≠ c → (s.server.connections d).mConnectStatus = .connected
    | _ => True
  | .server (.authorize c _ (some false)) => Unconnected (s.server.connections c)
  | .server (.unauthorized c) => Unconnected (s.server.connections c)
  | _ => True

instance (s : LockedServer) (l : Label) (t : LockedServer) : Decidable (StaysAuthorized s l t) :=
  match l with
  | .answer c =>
    match hanswer : s.answers c with
    | .connecting d =>
      decidable_of_iff (d ≠ c → (s.server.connections d).mConnectStatus = .connected)
        (by simp [StaysAuthorized, hanswer])
    | .idle | .looping | .sending _ | .stopping _ | .clearing _ =>
      isTrue (by simp [StaysAuthorized, hanswer])
  | .server (.authorize c _ (some false)) =>
    inferInstanceAs (Decidable (Unconnected (s.server.connections c)))
  | .server (.unauthorized c) => inferInstanceAs (Decidable (Unconnected (s.server.connections c)))
  | .server (.authorize _ _ (some true)) | .server (.authorize _ _ none) | .server (.bind _)
  | .server (.accept _) | .server .runAccept | .server .take | .server (.connection _ _)
  | .server (.read _ _ _) | .server (.reply _) | .server (.decide _) | .server (.finish _)
  | .server (.sendDataToTarget _) | .server .stop | .sendDataToTarget _ | .offer _ | .unlock =>
    instDecidableTrue

/-- What the `Authorizer` answered last to each client; where there is none to ask, every
request is granted. -/
def recordVerdict (cfg : Config) (verdicts : ℕ → Option Bool) (_ : LockedServer) :
    Label → ℕ → Option Bool
  | .server (.authorize c _ (some authorize)) => Function.update verdicts c (some authorize)
  | .server (.read c (.inner pkg) _) =>
    if cfg.mNeedCheckAuthorize || pkg.isHeatbeatPackage then verdicts
    else Function.update verdicts c (some true)
  | _ => verdicts

/-- A sender thread writes an application object only while its connection is connected and
the last word on its client is that it is authorized. -/
def WritesOnAuthorized (s : LockedServer × (ℕ → Option Bool)) (l : Label)
    (t : LockedServer × (ℕ → Option Bool)) : Prop :=
  ∀ c written, l = .server (.connection c (.send written)) → ∀ sender sender',
    (s.1.server.connections c).mDataSenderThread = some sender →
    (t.1.server.connections c).mDataSenderThread = some sender' →
    ∀ task success, sender'.attempts = sender.attempts ++ [(task, success)] →
      task.dataToSend.isApplication = true →
        (s.1.server.connections c).isConnected = true ∧ s.2 c = some true

/-! ## Invariants of every connection -/

/-- Workers broadcast packages only. -/
def AnswersPackages (s : LockedServer) : Prop :=
  ∀ b ∈ s.broadcasting, b.worker = none ∨ ∃ pkg, b.data = .inner pkg

theorem answersPackages_step {l : Label} (h : AnswersPackages s) (hs : s.step cfg l = some t) :
    AnswersPackages t := by
  cases steps_of_step hs with
  | broadcasts =>
      rintro _ ⟨⟩
      exact .inr ⟨_, rfl⟩
  | sendDataToTarget =>
      rintro _ ⟨⟩
      exact .inl rfl
  | @offer b c hlock =>
      rintro _ ⟨⟩
      exact h b hlock
  | unlock | replied => simp [AnswersPackages]
  | server | unsent | finds | sends | lost | passes | refuses | stops | clears | connects
  | unheard => exact h

section Invariants

variable {fresh listening P : ServerConnection → Prop}

/-- A step at which the provisos of an invariant hold. -/
structure Admits (fresh listening : ServerConnection → Prop) (s : LockedServer) (l : Label) :
    Prop where
  announces : ∀ c, l = .server (.unauthorized c) → fresh (s.server.connections c)
  offers : ∀ c, l = .offer c → ∀ b ∈ s.broadcasting, b.worker = none →
    listening (s.server.connections c)

/-- A step at which the provisos hold keeps the invariant of every connection. -/
theorem forall_step (hP : Invariant fresh listening P) {l : Label} (hpkg : AnswersPackages s)
    (h : ∀ d, P (s.server.connections d)) (hs : s.step cfg l = some t)
    (hadm : Admits fresh listening s l) (d : ℕ) : P (t.server.connections d) := by
  have hset : ∀ {c x}, P x → ∀ e, P ((s.server.setConnection c x).connections e) :=
    fun hx => Server.forall_setConnection h hx
  have hmove : ∀ {u : Server} {c pc}, (∀ e, P (u.connections e)) → pc ≠ .openingInput →
      pc ≠ .announcing → P ((u.setPc c pc).connections d) :=
    fun hu h₁ h₂ => Server.forall_setConnection hu (hP.moved _ _ h₁ h₂ (hu _)) d
  cases steps_of_step hs with
  | @server l u hl hstep =>
      refine Server.forall_step hP h hstep ?_ d
      cases l with
      | unauthorized c => exact hadm.announces c rfl
      | sendDataToTarget => simp [isTakenApart] at hl
      | _ => trivial
  | unsent | replied => exact hmove h (by simp) (by simp)
  | lost => exact hmove h (by simp) (by simp)
  | broadcasts | finds | passes | refuses | unheard | sendDataToTarget | unlock => exact h d
  | sends => exact hmove (hset (hP.package _ _ (h _))) (by simp) (by simp)
  | stops => exact hmove (hset (hP.stop _ true (h _))) (by simp) (by simp)
  | clears => exact hset (hP.stop _ false (h _)) d
  | connects =>
      refine hmove (fun e => ?_) (by simp) (by simp)
      rw [Server.changeConnectStatus_connections]
      exact hset (hP.connected _ (h _)) e
  | @offer b c hlock =>
      refine hset ?_ d
      rcases hpkg b hlock with happ | ⟨pkg, heq⟩
      · exact hP.data _ _ (hadm.offers c rfl b hlock happ) (h c)
      · exact heq ▸ hP.package _ pkg (h c)

end Invariants

/-! ## What is queued -/

theorem queuesOnConnected_iff (hinv : ∀ c, SenderInv (s.server.connections c)) {l : Label}
    (h : s.step cfg l = some t) : QueuesOnConnected s l t ↔ NoneUnauthorized s l t := by
  cases l with
  | offer c =>
      cases steps_of_step h with
      | @offer b c hlock =>
          simp only [QueuesOnConnected, NoneUnauthorized, Label.offer.injEq, forall_eq', hlock,
            Option.mem_def, Option.some.injEq]
          refine forall_congr' fun _ => ?_
          rw [← takesData_iff (hinv c), ← queue_ne_iff _ b.data]
          constructor
          · intro hall hne
            exact hall c (by simpa [setConnection] using hne)
          · intro hc d hne
            by_cases hd : d = c
            · subst hd
              exact hc (by simpa [setConnection] using hne)
            · simp [setConnection, hd] at hne
  | server | answer | sendDataToTarget | unlock => simp [QueuesOnConnected, NoneUnauthorized]

theorem along_queuesOnConnected_iff (cfg : Config) (free : Int32 → Bool) (ls : List Label) :
    Along (step cfg) QueuesOnConnected (init cfg free) ls ↔
      Along (step cfg) NoneUnauthorized (init cfg free) ls :=
  along_congr_of_invariant (P := QueuesOnConnected) (Q := NoneUnauthorized)
    (I := fun s => AnswersPackages s ∧ ∀ c, SenderInv (s.server.connections c))
    (fun _ _ _ h hs => ⟨answersPackages_step h.1 hs,
      forall_step senderInv_invariant h.1 h.2 hs ⟨fun _ _ => trivial, fun _ _ _ _ _ => trivial⟩⟩)
    (fun _ _ _ h hs => queuesOnConnected_iff h.2 hs)
    ⟨by simp [AnswersPackages, init, idle],
      fun _ => by constructor <;> simp [init, idle, Server.init, absent]⟩ ls

/-! ## What is written -/

/-- Application objects wait on connected connections only, and who is connected was
authorized at last. -/
structure AuthorizedInv (s : LockedServer × (ℕ → Option Bool)) : Prop where
  packages : AnswersPackages s.1
  queues : ∀ c, QueueInv (s.1.server.connections c)
  verdicts : ∀ c, Answered (fun _ => True) (s.2 c = some true) (s.1.server.connections c)

theorem StaysAuthorized.connectsOwn {l : Label} (h : StaysAuthorized s l t) : ConnectsOwn s l := by
  rintro c rfl d hanswer hne
  simp only [StaysAuthorized, hanswer] at h
  exact h hne

theorem StaysAuthorized.admits {l : Label} (h : StaysAuthorized s l t)
    (hnone : NoneUnauthorized s l t) : Admits Unconnected Authorized s l where
  announces := by
    rintro c rfl
    exact h
  offers := by
    rintro c rfl
    exact hnone

theorem Answered.verdict {asks : Option JString → Prop} {x : ServerConnection}
    {verdicts : ℕ → Option Bool} {c : ℕ} (h : Answered asks (verdicts c = some true) x) (d : ℕ) :
    Answered asks (Function.update verdicts d (some true) c = some true) x :=
  h.mono (fun _ => id) fun hc => by simp [Function.update_apply, hc]

theorem verdicts_read {verdicts : ℕ → Option Bool} {u : Server} {c : ℕ} {data : Data}
    {throws : Bool}
    (h : ∀ d, Answered (fun _ => True) (verdicts d = some true) (u.connections d)) (d : ℕ) :
    Answered (fun _ => True)
      (recordVerdict cfg verdicts s (.server (.read c data throws)) d = some true)
      ((u.onNewDataReceived cfg c data throws).connections d) := by
  have hmono : ∀ e, Answered (fun _ => True)
      (recordVerdict cfg verdicts s (.server (.read c data throws)) e = some true)
      (u.connections e) := by
    intro e
    cases data with
    | inner pkg =>
        simp only [recordVerdict]
        split
        · exact h e
        · exact (h e).verdict c
    | string | object => exact h e
  by_cases hd : d = c
  · subst hd
    rcases Server.onNewDataReceived_connections_self cfg u d data throws with
      hq | ⟨pkg, rfl, hbeat, heq⟩
    · exact (hmono d).quiet hq
    · rw [heq]
      refine ⟨fun _ _ _ => trivial, fun name hpass => ?_, (hmono d).connected⟩
      cases hauth : cfg.mNeedCheckAuthorize with
      | true => simp [hauth] at hpass
      | false => simp [recordVerdict, hauth, hbeat]
  · rw [Server.onNewDataReceived_connections_of_ne cfg u hd]
    exact hmono d

/-- Whoever is let in has the word of the `Authorizer`. -/
theorem verdicts_step {verdicts : ℕ → Option Bool} {l : Label}
    (h : ∀ c, Answered (fun _ => True) (verdicts c = some true) (s.server.connections c))
    (hs : s.step cfg l = some t) (hstays : StaysAuthorized s l t) (d : ℕ) :
    Answered (fun _ => True) (recordVerdict cfg verdicts s l d = some true)
      (t.server.connections d) := by
  have hquiet : (∀ m, l = .server m →
      ∀ e, Quiet (s.server.connections e) (t.server.connections e)) →
      Answered (fun _ => True) (verdicts d = some true) (t.server.connections d) :=
    fun hq => answered_step h hs hq hstays.connectsOwn d
  cases l with
  | server m =>
      cases steps_of_step hs with
      | server hl hstep =>
          cases Server.steps_of_step hstep with
          | read => exact verdicts_read h d
          | @authorize c name message authorize hpc =>
              simp only [recordVerdict]
              cases authorize with
              | true =>
                  have hgranted := fun e => (h e).verdict c
                  exact answered_setConnection hgranted
                    ((hgranted c).authorized fun _ => Function.update_self ..) d
              | false =>
                  by_cases hd : d = c
                  · subst hd
                    rw [Server.setPc_connections_self]
                    exact ⟨by simp, by simp, fun hc => absurd hc hstays⟩
                  · rw [Server.setPc_connections_of_ne _ hd, Function.update_of_ne hd]
                    exact h d
          | @authorizeThrows c =>
              exact hquiet fun _ _ => Server.quiet_setConnection
                (x := (s.server.connections c).failReading) ⟨id, .inr rfl⟩
          | reply | decide => simp [isTakenApart] at hl
          | _ => exact hquiet fun _ _ => Server.quiet_of_step hstep rfl
  | answer | sendDataToTarget | offer | unlock => exact hquiet fun m hm => by cases hm

theorem AuthorizedInv.of_step {s t : LockedServer × (ℕ → Option Bool)} {l : Label}
    (h : AuthorizedInv s) (hs : withHistory (step cfg) (recordVerdict cfg) s l = some t)
    (hnone : NoneUnauthorized s.1 l t.1) (hstays : StaysAuthorized s.1 l t.1) :
    AuthorizedInv t := by
  obtain ⟨hs, hrecord⟩ := withHistory_eq_some.mp hs
  refine ⟨answersPackages_step h.packages hs, ?_, ?_⟩
  · exact forall_step queueInv_invariant h.packages h.queues hs (hstays.admits hnone)
  · intro c
    rw [hrecord]
    exact verdicts_step h.verdicts hs hstays c

theorem AuthorizedInv.writes {s t : LockedServer × (ℕ → Option Bool)} {l : Label}
    (h : AuthorizedInv s) (hs : withHistory (step cfg) (recordVerdict cfg) s l = some t) :
    WritesOnAuthorized s l t := by
  rintro c written rfl sender sender' hc hc' task success hatt happ
  obtain ⟨hs, -⟩ := withHistory_eq_some.mp hs
  generalize t.1 = v at hs hc'
  cases steps_of_step hs with
  | server _ hstep =>
      obtain ⟨x, hx, rfl⟩ := Option.map_eq_some_iff.mp hstep
      simp only [ServerConnection.step, hc] at hx
      obtain ⟨u, hrun, rfl⟩ := Option.map_eq_some_iff.mp hx
      obtain rfl : u = sender' := by simpa using hc'
      rcases Sender.run_backlog hrun with hserve | hkeep
      · obtain ⟨task', success', hq, hatt'⟩ := hserve.attempt
        obtain ⟨rfl, -⟩ : task' = task ∧ success' = success := by simpa [hatt'] using hatt
        have hst := h.queues c sender hc task' (by simp [hq]) happ
        exact ⟨by simp [isConnected, hst], (h.verdicts c).connected hst⟩
      · simp [hkeep.attempts_eq] at hatt

/-- Broadcasts queue on connected connections only if and only if none that they come to is
still to be authorized; if moreover connections stay authorized, application objects are
written on connected connections of authorized clients only. -/
theorem broadcast_reaches_authorized (cfg : Config) (free : Int32 → Bool) (ls : List Label) :
    (Along (step cfg) QueuesOnConnected (init cfg free) ls ↔
      Along (step cfg) NoneUnauthorized (init cfg free) ls) ∧
    (Along (step cfg) (fun s l t => NoneUnauthorized s l t ∧ StaysAuthorized s l t)
        (init cfg free) ls →
      Along (withHistory (step cfg) (recordVerdict cfg)) WritesOnAuthorized
        (init cfg free, fun _ => none) ls) := by
  refine ⟨along_queuesOnConnected_iff cfg free ls, fun ha => ?_⟩
  have hhistory := (along_withHistory (step cfg) (recordVerdict cfg)
    (fun s l t => NoneUnauthorized s l t ∧ StaysAuthorized s l t)
    (init cfg free, fun _ => none) ls).mpr ha
  exact hhistory.imp_of_invariant (I := AuthorizedInv)
    (fun _ _ _ h hs hok => h.of_step hs hok.1 hok.2) (fun _ _ _ h hs _ => h.writes hs)
    ⟨by simp [AnswersPackages, init, idle],
      fun _ => by simp [QueueInv, init, idle, Server.init, absent],
      fun _ => answered_absent _ _⟩

/-- A report, and the sender thread that writes it. -/
def report : List Label :=
  [.sendDataToTarget (.string (JString.lit "INCOMING")), .offer 0, .unlock,
    .server (.connection 0 (.send true)), .server (.connection 0 (.send true)),
    .server (.connection 0 (.send true))]

theorem broadcast_reaches_authorized_oneClient :
    Along
      (withHistory (step (.connectionImpl none true)) (recordVerdict (.connectionImpl none true)))
      WritesOnAuthorized (init (.connectionImpl none true) fun _ => true, fun _ => none)
      (Server.oneClient.map Label.server ++ approve 0 ++ report) :=
  (broadcast_reaches_authorized _ _ _).2 (by decide)

/-- A report goes to a client that nobody has authorized. -/
theorem report_reaches_unauthorized :
    ¬ ∀ ls, Along (step (.connectionImpl none true)) QueuesOnConnected
      (init (.connectionImpl none true) fun _ => true) ls := by
  intro h
  have hnone := (along_queuesOnConnected_iff _ _ _).mp
    (h (Server.oneClient.map Label.server ++ report))
  exact absurd hnone (by decide)

end LockedServer

end Collaboration
