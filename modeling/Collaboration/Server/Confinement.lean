import Collaboration.Server.LockedMap

/-! # Where the answer to an authorization package goes

An answer stays with the connection that asked as long as every look-up under the name of its
worker leads back to it, or to a connection that cannot notice. -/

namespace Collaboration

open Transition

/-- The connection that a look-up has found. -/
def AnswerPc.target : AnswerPc → Option ℕ
  | .idle | .looping => none
  | .sending d | .stopping d | .clearing d | .connecting d => some d

namespace ServerConnection

theorem sameService_stop_iff (c : ServerConnection) (b : Bool) :
    SameService c { c with mStopConnection := b } ↔ c.mStopConnection = b :=
  ⟨fun h => h.stop.symm, fun h => ⟨rfl, h.symm, rfl⟩⟩

theorem sameService_status_iff (c : ServerConnection) (status : ConnectStatus) :
    SameService c { c with mConnectStatus := status } ↔ c.mConnectStatus = status :=
  ⟨fun h => h.status.symm, fun h => ⟨h.symm, rfl, rfl⟩⟩

end ServerConnection

namespace LockedServer

open ServerConnection

variable {cfg : Config} {s t : LockedServer}

/-- The connection whose package a step handles. -/
def handles (s : LockedServer) : Label → Option ℕ
  | .server l => l.handles
  | .answer c => some c
  | .offer _ | .unlock => s.broadcasting.bind (·.worker)
  | .sendDataToTarget _ => none

/-- Handling a package of one connection changes no other connection's service. -/
def Confined (s : LockedServer) (l : Label) (t : LockedServer) : Prop :=
  ∀ c ∈ s.handles l, ∀ d, d ≠ c → SameService (s.server.connections d) (t.server.connections d)

/-- A worker comes to a connection other than its own only where that makes no difference: the
connection takes no data, or is already in the state that it would be put in. -/
def Routed (s : LockedServer) (l : Label) (_ : LockedServer) : Prop :=
  match l with
  | .answer c =>
    match s.answers c with
    | .idle | .looping => True
    | .sending d => d ≠ c → (s.server.connections d).takesData = false
    | .stopping d => d ≠ c → (s.server.connections d).mStopConnection = true
    | .clearing d => d ≠ c → (s.server.connections d).mStopConnection = false
    | .connecting d => d ≠ c → (s.server.connections d).mConnectStatus = .connected
  | .offer d =>
    ∀ c ∈ s.broadcasting.bind (·.worker), d ≠ c → (s.server.connections d).takesData = false
  | _ => True

instance (s : LockedServer) (l : Label) (t : LockedServer) : Decidable (Routed s l t) :=
  match l with
  | .answer c =>
    match hanswer : s.answers c with
    | .idle | .looping => isTrue (by simp [Routed, hanswer])
    | .sending d =>
      decidable_of_iff (d ≠ c → (s.server.connections d).takesData = false)
        (by simp [Routed, hanswer])
    | .stopping d =>
      decidable_of_iff (d ≠ c → (s.server.connections d).mStopConnection = true)
        (by simp [Routed, hanswer])
    | .clearing d =>
      decidable_of_iff (d ≠ c → (s.server.connections d).mStopConnection = false)
        (by simp [Routed, hanswer])
    | .connecting d =>
      decidable_of_iff (d ≠ c → (s.server.connections d).mConnectStatus = .connected)
        (by simp [Routed, hanswer])
  | .offer d => inferInstanceAs (Decidable
      (∀ c ∈ s.broadcasting.bind (·.worker), d ≠ c → (s.server.connections d).takesData = false))
  | .server _ | .sendDataToTarget _ | .unlock => instDecidableTrue

/-! ## A step is confined exactly when it is routed -/

/-- Only one connection other than that of the worker may notice. -/
theorem sameService_iff {u v : Server} {c d : ℕ} {x : ServerConnection}
    (hv : ∀ e, e ≠ c → v.connections e = (u.setConnection d x).connections e) :
    (∀ e, e ≠ c → SameService (u.connections e) (v.connections e)) ↔
      (d ≠ c → SameService (u.connections d) x) := by
  constructor
  · intro h hd
    have hsame := h d hd
    rwa [hv d hd, Server.setConnection_connections_self] at hsame
  · intro h e he
    rw [hv e he]
    by_cases hd : e = d
    · subst hd
      rw [Server.setConnection_connections_self]
      exact h he
    · rw [Server.setConnection_connections_of_ne _ hd]
      exact .refl _

theorem sameService_moveOn (s : LockedServer) (c : ℕ) (pc : ServerPc) (d : ℕ) (hd : d ≠ c) :
    SameService (s.server.connections d) ((s.moveOn c pc).server.connections d) := by
  simp only [moveOn, Server.setPc_connections_of_ne _ hd]
  exact .refl _

/-- A package is read, and the `Authorizer` is asked, on the connection itself. -/
theorem confined_server {l : Server.Label} {u v : Server} (hl : isTakenApart l = false)
    (h : u.step cfg l = some v) :
    ∀ c ∈ l.handles, ∀ d, d ≠ c → SameService (u.connections d) (v.connections d) := by
  cases Server.steps_of_step h with
  | @read c data throws =>
      rintro _ ⟨⟩ d hd
      rw [Server.onNewDataReceived_connections_of_ne cfg u hd]
      exact .refl _
  | authorize =>
      rintro _ ⟨⟩ d hd
      rw [Server.setPc_connections_of_ne _ hd]
      exact .refl _
  | authorizeThrows =>
      rintro _ ⟨⟩ d hd
      rw [Server.setConnection_connections_of_ne _ hd]
      exact .refl _
  | reply | decide => simp [isTakenApart] at hl
  | _ => simp [Server.Label.handles]

theorem confined_iff_routed {l : Label} (h : s.step cfg l = some t) :
    Confined s l t ↔ Routed s l t := by
  cases steps_of_step h with
  | server hl hstep => exact iff_of_true (confined_server hl hstep) trivial
  | unsent hanswer | lost hanswer =>
      refine iff_of_true ?_ (by simp [Routed, hanswer])
      rintro _ ⟨⟩ d hd
      exact sameService_moveOn s _ _ d hd
  | broadcasts hanswer | finds hanswer | passes hanswer | refuses hanswer =>
      refine iff_of_true (fun _ _ _ _ => .refl _) (by simp [Routed, hanswer])
  | @sends c d _ authorize hanswer =>
      simp only [Confined, handles, Option.mem_def, Option.some.injEq, forall_eq', Routed, hanswer]
      rw [← sameService_sendDataToTarget_iff _ (Server.authorizePackage authorize)]
      exact sameService_iff fun e he => by simp [moveOn, setAnswer, setConnection, he]
  | @stops c d _ hanswer =>
      simp only [Confined, handles, Option.mem_def, Option.some.injEq, forall_eq', Routed, hanswer]
      rw [← sameService_stop_iff]
      exact sameService_iff fun e he => by
        simp [moveOn, setAnswer, setConnection, stopConnection, he]
  | @clears c d _ hanswer =>
      simp only [Confined, handles, Option.mem_def, Option.some.injEq, forall_eq', Routed, hanswer]
      rw [← sameService_stop_iff]
      exact sameService_iff fun e _ => rfl
  | @connects c d _ hanswer =>
      simp only [Confined, handles, Option.mem_def, Option.some.injEq, forall_eq', Routed, hanswer]
      rw [← sameService_status_iff]
      exact sameService_iff fun e he => by simp [moveOn, setAnswer, he]
  | @offer b d hlock =>
      simp only [Confined, handles, Routed]
      refine forall₂_congr fun c _ => ?_
      rw [← sameService_sendDataToTarget_iff _ b.data]
      exact sameService_iff fun e _ => rfl
  | unheard | sendDataToTarget => exact iff_of_true (by simp [Confined, handles]) trivial
  | unlock => exact iff_of_true (fun _ _ _ _ => .refl _) trivial
  | @replied c _ _ _ hlock =>
      refine iff_of_true ?_ trivial
      intro c' hc' d hd
      obtain rfl : c = c' := by simpa [handles, hlock] using hc'
      exact sameService_moveOn s c _ d hd

/-! ## What an answer brings about -/

/-- The request that a worker is asking about is one that `asks` knows, and a connection that
is let in, or is about to be, was `granted` it. -/
structure Answered (asks : Option JString → Prop) (granted : Prop) (x : ServerConnection) :
    Prop where
  asked : ∀ name message, x.pc = .authorizing name message → asks message
  passed : ∀ name, x.pc = .replying name true ∨ x.pc = .deciding name true → granted
  connected : x.mConnectStatus = .connected → granted

theorem answered_absent (asks : Option JString → Prop) (granted : Prop) :
    Answered asks granted .absent :=
  ⟨by simp [absent], by simp [absent], by simp [absent]⟩

theorem Answered.quiet {asks : Option JString → Prop} {granted : Prop} {x y : ServerConnection}
    (h : Answered asks granted x) (hq : Quiet x y) : Answered asks granted y := by
  constructor
  · intro name message hpc
    rcases hq.pc with heq | hset
    · exact h.asked name message (heq ▸ hpc)
    · simp [hpc, ServerPc.carried] at hset
  · intro name hpc
    rcases hq.pc with heq | hset
    · exact h.passed name (heq ▸ hpc)
    · rcases hpc with hpc | hpc <;> simp [hpc, ServerPc.carried] at hset
  · exact fun hc => h.connected (hq.status hc)

theorem Answered.mono {asks asks' : Option JString → Prop} {granted granted' : Prop}
    {x : ServerConnection} (h : Answered asks granted x) (hasks : ∀ m, asks m → asks' m)
    (hgranted : granted → granted') : Answered asks' granted' x where
  asked name message hpc := hasks message (h.asked name message hpc)
  passed name hpc := hgranted (h.passed name hpc)
  connected hc := hgranted (h.connected hc)

/-- The reply is sent, and the worker comes to its decision. -/
theorem Answered.replied {asks : Option JString → Prop} {granted : Prop} {x : ServerConnection}
    {name : Option ThreadName} {authorize : Bool} (h : Answered asks granted x)
    (hpc : x.pc = .replying name authorize) :
    Answered asks granted { x with pc := .deciding name authorize } := by
  refine ⟨by simp, fun name' hpass => ?_, h.connected⟩
  obtain ⟨rfl, rfl⟩ : name = name' ∧ authorize = true := by simpa using hpass
  exact h.passed name (.inl hpc)

/-- The `Authorizer` answers. -/
theorem Answered.authorized {asks : Option JString → Prop} {granted : Prop} {x : ServerConnection}
    (h : Answered asks granted x) {name : Option ThreadName} {authorize : Bool}
    (hgranted : authorize = true → granted) :
    Answered asks granted { x with pc := .replying name authorize } := by
  refine ⟨by simp, fun name' hpass => ?_, h.connected⟩
  obtain ⟨-, rfl⟩ : name = name' ∧ authorize = true := by simpa using hpass
  exact hgranted rfl

section Families

variable {asks : ℕ → Option JString → Prop} {granted : ℕ → Prop}

theorem answered_setConnection {u : Server}
    (h : ∀ d, Answered (asks d) (granted d) (u.connections d)) {c : ℕ} {x : ServerConnection}
    (hx : Answered (asks c) (granted c) x) (d : ℕ) :
    Answered (asks d) (granted d) ((u.setConnection c x).connections d) :=
  (Function.forall_update_iff u.connections fun d => Answered (asks d) (granted d)).mpr
    ⟨hx, fun d _ => h d⟩ d

/-- Sending an object leaves every worker where it is. -/
theorem sendDataToTarget_connections_pc (u : Server) (c : ℕ) (data : Data) (d : ℕ) :
    ((u.setConnection c ((u.connections c).sendDataToTarget data)).connections d).pc =
      (u.connections d).pc := by
  by_cases hd : d = c
  · subst hd
    obtain ⟨sender, heq⟩ := (u.connections d).sendDataToTarget_eq data
    rw [Server.setConnection_connections_self, heq]
  · rw [Server.setConnection_connections_of_ne _ hd]

/-- No worker lets in a connection that is neither its own nor let in already. -/
def ConnectsOwn (s : LockedServer) (l : Label) : Prop :=
  ∀ c, l = .answer c → ∀ d, s.answers c = .connecting d → d ≠ c →
    (s.server.connections d).mConnectStatus = .connected

/-- Quiet steps and the steps of an answer grant nothing new. -/
theorem answered_step {l : Label}
    (h : ∀ d, Answered (asks d) (granted d) (s.server.connections d))
    (hs : s.step cfg l = some t)
    (hquiet : ∀ m, l = .server m →
      ∀ d, Quiet (s.server.connections d) (t.server.connections d))
    (hown : ConnectsOwn s l) (d : ℕ) :
    Answered (asks d) (granted d) (t.server.connections d) := by
  cases steps_of_step hs with
  | server => exact (h d).quiet (hquiet _ rfl d)
  | unsent _ hpc | replied _ hpc => exact answered_setConnection h ((h _).replied hpc) d
  | broadcasts | finds | passes | refuses | unheard | sendDataToTarget | unlock => exact h d
  | @sends c target _ authorize _ hpc =>
      let pkg := Server.authorizePackage authorize
      have hsent := answered_setConnection h ((h target).quiet (quiet_sendDataToTarget _ pkg))
      refine answered_setConnection hsent ((hsent c).replied ?_) d
      rw [sendDataToTarget_connections_pc, hpc]
  | lost => exact (h d).quiet (Server.quiet_setPc s.server _ .testing rfl d)
  | @stops c target =>
      have hstopped := answered_setConnection h ((h target).quiet
        (y := (s.server.connections target).stopConnection) ⟨id, .inl rfl⟩)
      exact (hstopped d).quiet (Server.quiet_setPc _ _ .testing rfl d)
  | @clears c target =>
      refine answered_setConnection h ?_ d
      exact (h target).quiet ⟨id, .inl rfl⟩
  | @connects c target name hanswer hpc =>
      have hto : granted target := by
        by_cases hne : target = c
        · subst hne
          exact (h target).passed name (.inr hpc)
        · exact (h target).connected (hown c rfl target hanswer hne)
      have hconnected : ∀ e, Answered (asks e) (granted e)
          ((s.server.changeConnectStatus cfg target .connected).connections e) := by
        intro e
        rw [Server.changeConnectStatus_connections]
        refine answered_setConnection h ?_ e
        exact ⟨(h target).asked, (h target).passed, fun _ => hto⟩
      exact (hconnected d).quiet (Server.quiet_setPc _ _ .testing rfl d)
  | @offer b c =>
      exact answered_setConnection h ((h c).quiet (quiet_sendDataToTarget _ b.data)) d

end Families

theorem Routed.connectsOwn {l : Label} (h : Routed s l t) : ConnectsOwn s l := by
  rintro c rfl d hanswer hne
  simp only [Routed, hanswer] at h
  exact h hne

/-! ## Every connected connection was authorized -/

/-- A package was received on the connection, and `authorize` returned true for it. -/
def Approved (past : List Label) (c : ℕ) : Prop :=
  ∃ pkg throws, [.server (.read c (.inner pkg) throws),
    .server (.authorize c pkg.message (some true))].Sublist past

theorem Approved.snoc {past : List Label} {c : ℕ} (h : Approved past c) (l : Label) :
    Approved (past ++ [l]) c := by
  obtain ⟨pkg, throws, h⟩ := h
  exact ⟨pkg, throws, h.trans (List.sublist_append_left _ _)⟩

/-- A package with this message was received on the connection. -/
def Asked (past : List Label) (c : ℕ) (message : Option JString) : Prop :=
  ∃ pkg throws, pkg.message = message ∧ .server (.read c (.inner pkg) throws) ∈ past

theorem Asked.snoc {past : List Label} {c : ℕ} {message : Option JString}
    (h : Asked past c message) (l : Label) : Asked (past ++ [l]) c message := by
  obtain ⟨pkg, throws, hm, hmem⟩ := h
  exact ⟨pkg, throws, hm, List.mem_append_left _ hmem⟩

/-- What the past owes to the state of a connection. -/
abbrev ApprovalInv (past : List Label) (c : ℕ) : ServerConnection → Prop :=
  Answered (Asked past c) (Approved past c)

theorem ApprovalInv.snoc {past : List Label} {c : ℕ} {x : ServerConnection}
    (h : ApprovalInv past c x) (l : Label) : ApprovalInv (past ++ [l]) c x :=
  h.mono (fun _ ha => ha.snoc l) fun ha => ha.snoc l

theorem approvalInv_read (hauth : cfg.mNeedCheckAuthorize = true) {past : List Label} {u : Server}
    {c : ℕ} {data : Data} {throws : Bool} (h : ∀ d, ApprovalInv past d (u.connections d)) (d : ℕ) :
    ApprovalInv (past ++ [.server (.read c data throws)]) d
      ((u.onNewDataReceived cfg c data throws).connections d) := by
  by_cases hd : d = c
  · subst hd
    have hsnoc := (h d).snoc (.server (.read d data throws))
    rcases Server.onNewDataReceived_connections_self cfg u d data throws with
      hq | ⟨pkg, rfl, -, heq⟩
    · exact hsnoc.quiet hq
    · rw [heq, if_pos hauth]
      refine ⟨?_, by simp, hsnoc.connected⟩
      intro name' message hpc
      obtain ⟨-, rfl⟩ := by simpa using hpc
      exact ⟨pkg, throws, rfl, by simp⟩
  · rw [Server.onNewDataReceived_connections_of_ne cfg u hd]
    exact (h d).snoc _

theorem approvalInv_authorize {past : List Label} {u : Server} {c : ℕ} {name : Option ThreadName}
    {message : Option JString} {authorize : Bool} (h : ∀ d, ApprovalInv past d (u.connections d))
    (hpc : (u.connections c).pc = .authorizing name message) (d : ℕ) :
    ApprovalInv (past ++ [.server (.authorize c message (some authorize))]) d
      ((u.setPc c (.replying name authorize)).connections d) := by
  refine answered_setConnection (fun d => (h d).snoc _) (((h c).snoc _).authorized ?_) d
  rintro rfl
  obtain ⟨pkg, throws, rfl, hmem⟩ := (h c).asked name _ hpc
  exact ⟨pkg, throws, (List.singleton_sublist.mpr hmem).append (List.Sublist.refl _)⟩

theorem approvalInv_step (hauth : cfg.mNeedCheckAuthorize = true) {past : List Label} {l : Label}
    (h : ∀ c, ApprovalInv past c (s.server.connections c)) (hs : s.step cfg l = some t)
    (hr : Routed s l t) (d : ℕ) : ApprovalInv (past ++ [l]) d (t.server.connections d) := by
  have hquiet : (∀ m, l = .server m →
      ∀ e, Quiet (s.server.connections e) (t.server.connections e)) →
      ApprovalInv (past ++ [l]) d (t.server.connections d) :=
    fun hq => answered_step (fun c => (h c).snoc l) hs hq hr.connectsOwn d
  cases l with
  | server m =>
      cases steps_of_step hs with
      | server hl hstep =>
          cases Server.steps_of_step hstep with
          | read => exact approvalInv_read hauth h d
          | authorize hpc => exact approvalInv_authorize h hpc d
          | @authorizeThrows c =>
              exact hquiet fun _ _ => Server.quiet_setConnection
                (x := (s.server.connections c).failReading) ⟨id, .inr rfl⟩
          | reply | decide => simp [isTakenApart] at hl
          | _ => exact hquiet fun _ _ => Server.quiet_of_step hstep rfl
  | answer | sendDataToTarget | offer | unlock => exact hquiet fun m hm => by cases hm

/-- With an `Authorizer`, handling packages stays confined to the connections they arrived
on and every connected connection was approved if and only if the run routes every answer. -/
theorem authorization_confined_iff (cfg : Config) (hauth : cfg.mNeedCheckAuthorize = true)
    (free : Int32 → Bool) (ls : List Label) (s : LockedServer)
    (he : exec (step cfg) (init cfg free) ls = some s) :
    (Along (step cfg) Confined (init cfg free) ls ∧
      ∀ c, (s.server.connections c).isConnected = true → Approved ls c) ↔
    Along (step cfg) Routed (init cfg free) ls := by
  have hcongr : Along (step cfg) Confined (init cfg free) ls ↔
      Along (step cfg) Routed (init cfg free) ls :=
    along_congr_of_invariant (P := Confined) (Q := Routed) (I := fun _ => True)
      (fun _ _ _ _ _ => trivial)
      (fun _ _ _ _ h => confined_iff_routed h) trivial ls
  rw [hcongr]
  refine ⟨And.left, fun hr => ⟨hr, ?_⟩⟩
  have hinv : ∀ c, ApprovalInv ([] ++ ls) c (s.server.connections c) :=
    history_along (I := fun past s => ∀ c, ApprovalInv past c (s.server.connections c))
      (fun _ _ _ _ h hs hr => approvalInv_step hauth h hs hr)
      (fun _ => answered_absent _ _) hr he
  intro c hc
  exact (hinv c).connected (by simpa [isConnected] using hc)

/-! ## At most five clients -/

/-- At most five clients have been accepted, and a package is read only on a connection
that has its name. -/
def Orderly (s : LockedServer) (l : Label) (_ : LockedServer) : Prop :=
  s.server.mSocketServerThread.accepted ≤ 5 ∧
    ∀ c data throws, l = .server (.read c data throws) →
      (s.server.connections c).mThreadName.isSome = true

/-- A worker that handles a package carries the name of its own connection, and has found no
other under it. -/
structure OwnAnswers (s : LockedServer) : Prop where
  carried : ∀ c name, (s.server.connections c).pc.carried = some name →
    name = some (keyOf c) ∧ c < s.server.mSocketServerThread.accepted
  target : ∀ c, ∀ d ∈ (s.answers c).target, d = c
  broadcasting : ∀ b ∈ s.broadcasting, b.worker = none

theorem accepted_le_of_step {l : Label} (h : s.step cfg l = some t) :
    s.server.mSocketServerThread.accepted ≤ t.server.mSocketServerThread.accepted := by
  by_cases hl : ∀ m, l = .server m → m.ofAcceptThread = false
  · exact Nat.le_of_eq (congrArg _ (keepsRegistry_of_step h hl).thread.symm)
  · push Not at hl
    obtain ⟨l, rfl, -⟩ := hl
    cases steps_of_step h with
    | server _ hstep => exact Server.accepted_le_of_step hstep

/-- Moving on keeps the name that the worker carries, or drops it. -/
theorem carried_moveOn {u : LockedServer}
    (hu : ∀ d, (u.server.connections d).pc = (s.server.connections d).pc) {c : ℕ} {pc : ServerPc}
    (hpc : pc.carried = (s.server.connections c).pc.carried ∨ pc.carried = none) (d : ℕ) :
    ((u.moveOn c pc).server.connections d).pc.carried = (s.server.connections d).pc.carried ∨
      ((u.moveOn c pc).server.connections d).pc.carried = none := by
  by_cases hd : d = c
  · subst hd
    simpa [moveOn, setAnswer] using hpc
  · simp [moveOn, setAnswer, hd, hu]

/-- A worker carries a name from when a package is read on its connection. -/
theorem carried_of_step {l : Label} (hs : s.step cfg l = some t) {d : ℕ}
    {name : Option ThreadName} (hd : (t.server.connections d).pc.carried = some name) :
    (s.server.connections d).pc.carried = some name ∨
      ∃ data throws, l = .server (.read d data throws) ∧
        name = (s.server.connections d).mThreadName := by
  have hkept : (t.server.connections d).pc.carried = (s.server.connections d).pc.carried ∨
      (t.server.connections d).pc.carried = none →
      (s.server.connections d).pc.carried = some name := by
    rintro (heq | hnone)
    · exact heq ▸ hd
    · simp [hnone] at hd
  have hset : ∀ {c x}, x.pc = (s.server.connections c).pc →
      ∀ e, ((s.server.setConnection c x).connections e).pc = (s.server.connections e).pc := by
    intro c x hx e
    by_cases he : e = c
    · subst he
      simpa using hx
    · simp [he]
  cases steps_of_step hs with
  | server _ hstep =>
      rcases Server.carried_of_step hstep hd with hbefore | ⟨pkg, throws, rfl, -, hname⟩
      · exact .inl hbefore
      · exact .inr ⟨_, throws, rfl, hname⟩
  | unsent _ hpc | replied _ hpc =>
      refine .inl (hkept (carried_moveOn (fun _ => rfl) (.inl ?_) d))
      rw [hpc]
      rfl
  | sends _ hpc =>
      have hpcs := sendDataToTarget_connections_pc s.server
      refine .inl (hkept (carried_moveOn (hpcs _ _) (.inl ?_) d))
      rw [hpc]
      rfl
  | lost => exact .inl (hkept (carried_moveOn (fun _ => rfl) (.inr rfl) d))
  | stops => exact .inl (hkept (carried_moveOn (hset (by rfl)) (.inr rfl) d))
  | connects =>
      refine .inl (hkept (carried_moveOn (fun e => ?_) (.inr rfl) d))
      rw [Server.changeConnectStatus_connections]
      exact hset (by rfl) e
  | clears => exact .inl (hkept (.inl (congrArg _ (hset (by rfl) d))))
  | offer =>
      exact .inl (hkept (.inl (congrArg _ (sendDataToTarget_connections_pc s.server _ _ d))))
  | broadcasts | finds | passes | refuses | unheard | sendDataToTarget | unlock => exact .inl hd

/-- With at most five clients a look-up finds nobody else. -/
theorem OwnAnswers.target_eq {m : ℕ} (hreg : Server.RegistryAt s.server m) (h : OwnAnswers s)
    (h5 : s.server.mSocketServerThread.accepted ≤ 5) {c target : ℕ} {name : Option ThreadName}
    (hc : (s.server.connections c).pc.carried = some name)
    (hget : s.server.getConnection name = some target) : target = c := by
  obtain ⟨rfl, hlt⟩ := h.carried c name hc
  obtain ⟨hdm, hkey, -⟩ := (hreg.map _ target).mp hget
  have hle := hreg.le_accepted
  rw [keyOf_eq_keyOf] at hkey
  omega

theorem target_update {answers : ℕ → AnswerPc} (h : ∀ c, ∀ d ∈ (answers c).target, d = c)
    {c : ℕ} {pc : AnswerPc} (hpc : ∀ d ∈ pc.target, d = c) (e : ℕ) :
    ∀ d ∈ (Function.update answers c pc e).target, d = e :=
  (Function.forall_update_iff answers fun e x => ∀ d ∈ x.target, d = e).mpr
    ⟨hpc, fun e _ => h e⟩ e

theorem ownAnswers_step {m : ℕ} (hreg : Server.RegistryAt s.server m) {l : Label}
    (h : OwnAnswers s) (hs : s.step cfg l = some t) (ho : Orderly s l t) : OwnAnswers t where
  carried d name hd := by
    have hmono := accepted_le_of_step hs
    rcases carried_of_step hs hd with hd | ⟨data, throws, rfl, rfl⟩
    · exact ⟨(h.carried d name hd).1, Nat.lt_of_lt_of_le (h.carried d name hd).2 hmono⟩
    · obtain ⟨own, hown⟩ := Option.isSome_iff_exists.mp (ho.2 d data throws rfl)
      obtain ⟨rfl, hlt⟩ := hreg.lt_accepted hown
      exact ⟨hown, Nat.lt_of_lt_of_le hlt hmono⟩
  target := by
    have hidle : ∀ {c}, ∀ d ∈ AnswerPc.idle.target, d = c := by simp [AnswerPc.target]
    cases steps_of_step hs with
    | server | unheard | sendDataToTarget | offer | unlock => exact h.target
    | unsent | sends | lost | stops | connects | replied => exact target_update h.target hidle
    | broadcasts => exact target_update h.target (by simp [AnswerPc.target])
    | finds _ hpc hget =>
        have heq := h.target_eq hreg ho.1 (by rw [hpc]; rfl) hget
        exact target_update h.target (by simp [AnswerPc.target, heq])
    | passes _ hpc hget | refuses _ hpc hget =>
        have heq := h.target_eq hreg ho.1 (by rw [hpc]; rfl) hget
        exact target_update h.target (by simp [AnswerPc.target, heq])
    | clears hanswer =>
        have heq := h.target _ _ (by rw [hanswer]; rfl)
        exact target_update h.target (by simp [AnswerPc.target, heq])
  broadcasting := by
    cases steps_of_step hs with
    | broadcasts _ hpc =>
        have hname := (h.carried _ none (by rw [hpc]; rfl)).1
        simp at hname
    | sendDataToTarget => simp
    | offer hlock => simpa using h.broadcasting _ hlock
    | unlock | replied => simp
    | _ => exact h.broadcasting

theorem OwnAnswers.routed (h : OwnAnswers s) (l : Label) : Routed s l t := by
  cases l with
  | answer c =>
      have htarget := h.target c
      simp only [Routed]
      split
      · trivial
      · trivial
      all_goals
        rename_i hanswer
        intro hne
        exact absurd (htarget _ (by rw [hanswer]; rfl)) hne
  | offer d =>
      intro c hc
      obtain ⟨b, hb, hc⟩ := Option.bind_eq_some_iff.mp hc
      simp [h.broadcasting b hb] at hc
  | server | sendDataToTarget | unlock => trivial

/-- A server that accepts at most five clients, and names each before its first package
arrives, routes every answer. -/
theorem routed_of_orderly (cfg : Config) (free : Int32 → Bool) (ls : List Label)
    (h : Along (step cfg) Orderly (init cfg free) ls) :
    Along (step cfg) Routed (init cfg free) ls := by
  refine Along.imp_of_invariant
    (I := fun s => (∃ m, Server.RegistryAt s.server m) ∧ OwnAnswers s) ?_ ?_
    ⟨⟨0, Server.registryAt_init cfg free⟩, ?_⟩ h
  · rintro s l t ⟨⟨m, hreg⟩, hc⟩ hs ho
    exact ⟨exists_registryAt_step ⟨m, hreg⟩ hs, ownAnswers_step hreg hc hs ho⟩
  · rintro s l t ⟨-, hc⟩ - -
    exact hc.routed l
  · exact ⟨by simp [init, idle, Server.init, absent, ServerPc.carried],
      by simp [init, idle, AnswerPc.target], by simp [init, idle]⟩

/-! ## Runs -/

/-- A client asks for authorization and is let in. -/
def approve (c : ℕ) : List Label :=
  [.server (.read c (.inner (.ofMessage (JString.lit "htc:1234567890"))) false),
    .server (.authorize c (some (JString.lit "htc:1234567890")) (some true)), .answer c, .answer c,
    .answer c, .answer c, .answer c]

theorem authorization_confined_oneClient :
    let ls := Server.oneClient.map Label.server ++ approve 0
    let s := (exec (step (.connectionImpl none true))
      (init (.connectionImpl none true) fun _ => true) ls).get (by decide)
    Along (step (.connectionImpl none true)) Confined
        (init (.connectionImpl none true) fun _ => true) ls ∧
      ∀ c, (s.server.connections c).isConnected = true → Approved ls c :=
  (authorization_confined_iff _ rfl _ _ _ (Option.some_get _).symm).mpr (by decide)

/-- Six clients connect before the fifth one is let in. -/
def sixClients : List Label :=
  (Server.boot ++ (List.replicate 6 Server.register).flatten ++ Server.openStreams 4).map
    Label.server ++ approve 4

theorem Approved.any {past : List Label} {c : ℕ} (h : Approved past c) :
    (past.any fun l => match l with
      | .server (.authorize d _ (some true)) => d == c
      | _ => false) = true := by
  obtain ⟨pkg, throws, h⟩ := h
  exact List.any_eq_true.mpr
    ⟨.server (.authorize c pkg.message (some true)), h.subset (by simp), by simp⟩

/-- The sixth client is connected in the place of the fifth. -/
theorem connected_without_approval :
    ¬ ∀ ls s, exec (step (.connectionImpl none true))
        (init (.connectionImpl none true) fun _ => true) ls = some s →
      Along (step (.connectionImpl none true)) Confined
        (init (.connectionImpl none true) fun _ => true) ls ∧
      ∀ c, (s.server.connections c).isConnected = true → Approved ls c := by
  intro h
  have happroved := (h sixClients _ (Option.some_get (by decide)).symm).2 5 (by decide)
  exact absurd happroved.any (by decide)

end LockedServer

end Collaboration
