import Collaboration.Reading.Client
import Mathlib.Data.List.Induction

/-! # What a client thread reports and forwards

The trace of a thread has one shape at each place of `run()`, however the objects come and
however the thread ends. -/

namespace Collaboration

/-- Objects that are not taken out as decisions. -/
def Data.isForwarded : Data → Bool
  | .inner pkg => pkg.isHeatbeatPackage
  | .string _ => true
  | .object _ => true

namespace ReadEvent

def read? : ReadEvent → Option Data
  | .read data => some data
  | _ => none

def reported? : ReadEvent → Option ConnectStatus
  | .reported status => some status
  | _ => none

def forwarded? : ReadEvent → Option Data
  | .forwarded data => some data
  | _ => none

end ReadEvent

namespace ClientRun

open Transition

/-- The objects that a trace reads, the statuses it reports and the objects it forwards. -/
def reads (trace : List ReadEvent) : List Data := trace.filterMap ReadEvent.read?

def reported (trace : List ReadEvent) : List ConnectStatus := trace.filterMap ReadEvent.reported?

def forwarded (trace : List ReadEvent) : List Data := trace.filterMap ReadEvent.forwarded?

/-- The number of PASS packages read. -/
def passes (trace : List ReadEvent) : ℕ := (reads trace).countP (·.isPass)

@[simp] theorem reads_append (tr tr' : List ReadEvent) :
    reads (tr ++ tr') = reads tr ++ reads tr' := List.filterMap_append

@[simp] theorem reported_append (tr tr' : List ReadEvent) :
    reported (tr ++ tr') = reported tr ++ reported tr' := List.filterMap_append

@[simp] theorem forwarded_append (tr tr' : List ReadEvent) :
    forwarded (tr ++ tr') = forwarded tr ++ forwarded tr' := List.filterMap_append

@[simp] theorem passes_append (tr tr' : List ReadEvent) :
    passes (tr ++ tr') = passes tr + passes tr' := by
  simp [passes]

/-! ## What the body of the loop does with an object -/

inductive Receives (t : ClientRun) (data : Data) : ClientRun → Prop
  | forward (hforward : data.isForwarded = true) (hpass : data.isPass = false)
      (hfailed : data.isFailed = false) : Receives t data (t.forward data)
  | pass (hforward : data.isForwarded = false) (hpass : data.isPass = true)
      (hfailed : data.isFailed = false) :
      Receives t data { t.observe [.read data] with pc := .accepting }
  | failed (hforward : data.isForwarded = false) (hpass : data.isPass = false)
      (hfailed : data.isFailed = true) :
      Receives t data { t.observe [.read data] with mStopConnection := true, pc := .testing }
  | skip (hforward : data.isForwarded = false) (hpass : data.isPass = false)
      (hfailed : data.isFailed = false) :
      Receives t data { t.observe [.read data] with pc := .testing }

theorem receives (t : ClientRun) (data : Data) : Receives t data (t.receive data) := by
  cases data with
  | inner pkg =>
      unfold receive
      dsimp only
      by_cases hbeat : pkg.isHeatbeatPackage = true
      · rw [if_neg (by simp [hbeat])]
        exact .forward hbeat (by simp [Data.isPass, hbeat]) (by simp [Data.isFailed, hbeat])
      · simp only [Bool.not_eq_true] at hbeat
        rw [if_pos (by simp [hbeat])]
        by_cases hpass : pkg.message = some InnerPackage.PASS
        · rw [if_pos hpass]
          refine .pass hbeat (by simp [Data.isPass, hbeat, hpass]) ?_
          simp [Data.isFailed, hpass, InnerPackage.PASS, InnerPackage.FAILED, JString.lit]
        · rw [if_neg hpass]
          by_cases hfailed : pkg.message = some InnerPackage.FAILED
          · rw [if_pos hfailed]
            exact .failed hbeat (by simp [Data.isPass, hpass])
              (by simp [Data.isFailed, hbeat, hfailed])
          · rw [if_neg hfailed]
            exact .skip hbeat (by simp [Data.isPass, hpass]) (by simp [Data.isFailed, hfailed])
  | string str | object n => exact .forward rfl rfl rfl

/-! ## The shape of a trace -/

/-- The trace from the first report on, where so many PASS packages wait for their report. -/
def Looped (trace : List ReadEvent) (waiting : ℕ) : Prop :=
  ∃ k, reported trace = .unauthorized :: List.replicate k .connected ∧ passes trace = k + waiting

/-- No FAILED package was read. -/
def Accepted (trace : List ReadEvent) : Prop := ∀ d ∈ reads trace, d.isFailed = false

/-- The shape of the trace at each place. -/
def TraceAt (t : ClientRun) : Prop :=
  match t.pc with
  | .initializing | .connecting | .settingTimeout | .openingInput | .openingOutput
  | .creatingSender | .startingSender | .announcing => t.trace = []
  | .testing => Looped t.trace 0 ∧ (t.mStopConnection = false → Accepted t.trace)
  | .reading | .handling => Looped t.trace 0 ∧ Accepted t.trace
  | .accepting => Looped t.trace 1 ∧ Accepted t.trace
  | .closing => Looped t.trace 0
  | .disconnecting => t.trace = [] ∨ Looped t.trace 0
  | .releasing | .left =>
    ∃ pre, t.trace = pre ++ [.reported .disconnected] ∧ (pre = [] ∨ Looped pre 0)

/-- Whatever the place, the forwarded objects are those read that are not decisions, and a
FAILED package is the last object read. -/
structure TraceOk (t : ClientRun) : Prop where
  place : TraceAt t
  forwarded : forwarded t.trace = (reads t.trace).filter (·.isForwarded)
  failed : ∀ pre d post, reads t.trace = pre ++ d :: post → d.isFailed = true → post = []

theorem traceOk_new : TraceOk new := ⟨rfl, rfl, by simp [reads, new]⟩

/-- A step that reads nothing. -/
theorem TraceOk.quiet {t u : ClientRun} (h : TraceOk t) (events : List ReadEvent)
    (htrace : u.trace = t.trace ++ events) (hreads : reads events = [])
    (hforwarded : ClientRun.forwarded events = []) (hplace : TraceAt u) : TraceOk u := by
  have hsame : reads u.trace = reads t.trace := by simp [htrace, hreads]
  refine ⟨hplace, ?_, ?_⟩
  · rw [hsame, ← h.forwarded, htrace, forwarded_append, hforwarded, List.append_nil]
  · rw [hsame]
    exact h.failed

/-- A step that reads an object, after nothing but accepted ones. -/
theorem TraceOk.reads {t u : ClientRun} (h : TraceOk t) {events : List ReadEvent} {data : Data}
    (hok : Accepted t.trace) (htrace : u.trace = t.trace ++ events)
    (hreads : ClientRun.reads events = [data])
    (hforwarded : ClientRun.forwarded events = [data].filter (·.isForwarded))
    (hplace : TraceAt u) : TraceOk u := by
  refine ⟨hplace, ?_, ?_⟩
  · rw [htrace, forwarded_append, reads_append, hreads, hforwarded, h.forwarded,
      List.filter_append]
  · intro pre d post heq hfailed
    rw [htrace, reads_append, hreads] at heq
    cases post using List.reverseRecOn with
    | nil => rfl
    | append_singleton post e =>
        rw [← List.cons_append, ← List.append_assoc] at heq
        obtain ⟨heq, -⟩ := List.append_inj' heq rfl
        have hmem : d ∈ ClientRun.reads t.trace := by simp [heq]
        simp [hok d hmem] at hfailed

theorem Accepted.append {tr tr' : List ReadEvent} (h : Accepted tr)
    (h' : ∀ d ∈ reads tr', d.isFailed = false) : Accepted (tr ++ tr') := by
  intro d hd
  rw [reads_append] at hd
  rcases List.mem_append.mp hd with hd | hd
  · exact h d hd
  · exact h' d hd

/-- Objects that are read change the number of PASS packages that wait, reports of CONNECTED
reduce it. -/
theorem Looped.append {tr tr' : List ReadEvent} {m n k : ℕ} (h : Looped tr m)
    (hreported : reported tr' = List.replicate k .connected) (hn : m + passes tr' = n + k) :
    Looped (tr ++ tr') n := by
  obtain ⟨j, hword, hpasses⟩ := h
  refine ⟨j + k, ?_, ?_⟩
  · rw [reported_append, hword, hreported, List.cons_append, List.replicate_append_replicate]
  · rw [passes_append, hpasses]
    omega

theorem traceOk_receive {t : ClientRun} (h : TraceOk t) (hpc : t.pc = .reading) (data : Data) :
    TraceOk (t.receive data) := by
  have hplace := h.place
  simp only [TraceAt, hpc] at hplace
  obtain ⟨hlooped, hok⟩ := hplace
  have hreceives := receives t data
  generalize t.receive data = u at hreceives
  cases hreceives with
  | forward hforward hpass hfailed =>
      refine h.reads hok rfl rfl (by simp [hforward]; rfl) ?_
      refine ⟨hlooped.append (k := 0) rfl ?_, hok.append ?_⟩
      · simp [passes, ClientRun.reads, ReadEvent.read?, hpass]
      · simpa [ClientRun.reads, ReadEvent.read?] using hfailed
  | pass hforward hpass hfailed =>
      refine h.reads hok rfl rfl (by simp [hforward]; rfl) ?_
      refine ⟨hlooped.append (k := 0) rfl ?_, hok.append ?_⟩
      · simp [passes, ClientRun.reads, ReadEvent.read?, hpass]
      · simpa [ClientRun.reads, ReadEvent.read?] using hfailed
  | failed hforward hpass hfailed =>
      refine h.reads hok rfl rfl (by simp [hforward]; rfl) ?_
      refine ⟨hlooped.append (k := 0) rfl ?_, fun hstop => by cases hstop⟩
      simp [passes, ClientRun.reads, ReadEvent.read?, hpass]
  | skip hforward hpass hfailed =>
      refine h.reads hok rfl rfl (by simp [hforward]; rfl) ?_
      refine ⟨hlooped.append (k := 0) rfl ?_, fun _ => hok.append ?_⟩
      · simp [passes, ClientRun.reads, ReadEvent.read?, hpass]
      · simpa [ClientRun.reads, ReadEvent.read?] using hfailed

/-- A step that leaves the trace alone. -/
theorem TraceOk.same {t u : ClientRun} (h : TraceOk t) (htrace : u.trace = t.trace)
    (hplace : TraceAt u) : TraceOk u :=
  h.quiet [] (by simpa using htrace) rfl rfl hplace

/-- No callback for a status throws. -/
def CallbacksReturn (l : Label) : Prop :=
  l ≠ .announce false ∧ l ≠ .accept false ∧ l ≠ .disconnect false

instance (l : Label) : Decidable (CallbacksReturn l) := inferInstanceAs (Decidable (_ ∧ _ ∧ _))

theorem traceAt_of_disturbed {t u : ClientRun} (h : TraceAt t) (hd : Disturbed t u) :
    TraceAt u := by
  unfold TraceAt at h ⊢
  rw [hd.pc, hd.trace]
  cases hpc : t.pc with
  | testing =>
      simp only [hpc] at h
      refine ⟨h.1, fun hstop => h.2 ?_⟩
      cases hstop' : t.mStopConnection with
      | true => simp [hd.mStopConnection hstop'] at hstop
      | false => rfl
  | _ => simpa only [hpc] using h

theorem looped_unauthorized : Looped [.reported .unauthorized] 0 := ⟨0, rfl, rfl⟩

theorem traceOk_step {t u : ClientRun} {l : Label} (h : TraceOk t) (hs : t.step l = some u)
    (hl : CallbacksReturn l) : TraceOk u := by
  have hplace := h.place
  cases steps_of_step hs with
  | init hpc | setSoTimeout hpc =>
      simp only [TraceAt, hpc] at hplace
      exact h.same rfl hplace
  | opens _ hopening =>
      refine h.same rfl ?_
      cases hpc : t.pc <;> simp only [hpc, opening] at hopening <;> cases hopening <;>
        simpa [TraceAt, hpc] using hplace
  | connectFails hpc =>
      simp only [TraceAt, hpc] at hplace
      exact h.same rfl (.inl hplace)
  | openFails _ hpc =>
      refine h.same rfl (.inl ?_)
      rcases hpc with hpc | hpc | hpc <;> simpa [TraceAt, hpc] using hplace
  | @announce returns hpc =>
      cases returns with
      | true =>
          simp only [TraceAt, hpc] at hplace
          refine h.quiet _ rfl rfl rfl ?_
          simp only [TraceAt, changeConnectStatus, observe, hplace, List.nil_append, if_true]
          exact ⟨looped_unauthorized, fun _ => by simp [Accepted, reads, ReadEvent.read?]⟩
      | false => exact absurd rfl hl.1
  | stops hpc =>
      simp only [TraceAt, hpc] at hplace
      exact h.same rfl hplace.1
  | goesOn hpc hstop =>
      simp only [TraceAt, hpc] at hplace
      exact h.same rfl ⟨hplace.1, hplace.2 hstop⟩
  | read hpc => exact traceOk_receive h hpc _
  | readTimesOut hpc =>
      simp only [TraceAt, hpc] at hplace
      exact h.same rfl hplace.1
  | readFails hpc =>
      simp only [TraceAt, hpc] at hplace
      exact h.same rfl (.inr hplace.1)
  | @handled returns hpc =>
      simp only [TraceAt, hpc] at hplace
      cases returns with
      | true => exact h.same rfl ⟨hplace.1, fun _ => hplace.2⟩
      | false => exact h.same rfl (.inr hplace.1)
  | @accept returns hpc =>
      cases returns with
      | true =>
          simp only [TraceAt, hpc] at hplace
          refine h.quiet _ rfl rfl rfl ?_
          refine ⟨hplace.1.append (k := 1) rfl rfl, fun _ => hplace.2.append ?_⟩
          simp [reads, ReadEvent.read?]
      | false => exact absurd rfl hl.2.1
  | close hpc =>
      simp only [TraceAt, hpc] at hplace
      exact h.same t.close_trace (by simpa [TraceAt] using .inr hplace)
  | @disconnect returns hpc =>
      cases returns with
      | true =>
          simp only [TraceAt, hpc] at hplace
          exact h.quiet _ rfl rfl rfl ⟨t.trace, rfl, hplace⟩
      | false => exact absurd rfl hl.2.2
  | release hpc =>
      simp only [TraceAt, hpc] at hplace
      refine h.same rfl ?_
      have hpc' : t.release.pc = .left ∨ t.release.pc = .releasing := by
        simp only [ClientRun.release]
        split <;> simp
      rcases hpc' with hpc' | hpc' <;> simp only [TraceAt, hpc'] <;> exact hplace
  | other _ hd => exact h.same hd.trace (traceAt_of_disturbed hplace hd)

theorem traceOk_of_run {ls : List Label} {t : ClientRun} (hls : ∀ l ∈ ls, CallbacksReturn l)
    (h : exec step new ls = some t) : TraceOk t :=
  invariant_along (fun _ _ _ hok hs hl => traceOk_step hok hs hl) traceOk_new
    (along_of_forall hls new) h

/-! ## The whole run -/

/-- The report of DISCONNECTED is not in the middle of a trace that goes on. -/
theorem disconnected_not_mem {tr : List ReadEvent} {n : ℕ} (h : Looped tr n) :
    ReadEvent.reported .disconnected ∉ tr := by
  obtain ⟨k, hword, -⟩ := h
  intro hmem
  have hreported : ConnectStatus.disconnected ∈ reported tr :=
    List.mem_filterMap.mpr ⟨_, hmem, rfl⟩
  rw [hword] at hreported
  rcases List.mem_cons.mp hreported with heq | hconnected
  · cases heq
  · cases List.eq_of_mem_replicate hconnected

theorem TraceOk.disconnected_mem {t : ClientRun} (h : TraceOk t)
    (hmem : ReadEvent.reported .disconnected ∈ t.trace) :
    ∃ pre, t.trace = pre ++ [.reported .disconnected] ∧ (pre = [] ∨ Looped pre 0) := by
  have hplace := h.place
  unfold TraceAt at hplace
  cases hpc : t.pc with
  | releasing | left => simpa only [hpc] using hplace
  | disconnecting =>
      simp only [hpc] at hplace
      rcases hplace with hempty | hlooped
      · simp [hempty] at hmem
      · exact absurd hmem (disconnected_not_mem hlooped)
  | closing =>
      simp only [hpc] at hplace
      exact absurd hmem (disconnected_not_mem hplace)
  | testing | reading | handling | accepting =>
      simp only [hpc] at hplace
      exact absurd hmem (disconnected_not_mem hplace.1)
  | _ =>
      simp only [hpc] at hplace
      simp [hplace] at hmem

theorem TraceOk.disconnected_last {t : ClientRun} (h : TraceOk t) {pre post : List ReadEvent}
    (heq : t.trace = pre ++ .reported .disconnected :: post) : post = [] := by
  obtain ⟨start, hstart, hlooped⟩ := h.disconnected_mem (by simp [heq])
  have hnot : ReadEvent.reported .disconnected ∉ start := by
    rcases hlooped with rfl | hlooped
    · simp
    · exact disconnected_not_mem hlooped
  cases post using List.reverseRecOn with
  | nil => rfl
  | append_singleton post e =>
      rw [hstart, ← List.cons_append, ← List.append_assoc] at heq
      obtain ⟨rfl, -⟩ := List.append_inj' heq rfl
      simp at hnot

/-- The statuses of a thread that was left. -/
theorem TraceOk.word {t : ClientRun} (h : TraceOk t) (hpc : t.pc = .left) :
    t.trace = [.reported .disconnected] ∨
      reported t.trace =
        .unauthorized :: List.replicate (passes t.trace) .connected ++ [.disconnected] := by
  have hplace := h.place
  simp only [TraceAt, hpc] at hplace
  obtain ⟨pre, htrace, rfl | ⟨k, hword, hpasses⟩⟩ := hplace
  · exact .inl htrace
  · have hk : passes t.trace = k := by
      rw [htrace, passes_append, hpasses]
      rfl
    refine .inr ?_
    rw [hk, htrace, reported_append, hword]
    rfl

/-- However the connection opens, whatever is read and however the thread ends: the objects
forwarded are those read that are not decisions, nothing is read after the first FAILED,
nothing follows the report of DISCONNECTED, and the statuses reported form one of two words. -/
theorem client_trace (ls : List Label) (t : ClientRun) (hls : ∀ l ∈ ls, CallbacksReturn l)
    (h : exec step new ls = some t) :
    forwarded t.trace = (reads t.trace).filter (·.isForwarded) ∧
    (∀ pre d post, reads t.trace = pre ++ d :: post → d.isFailed = true → post = []) ∧
    (∀ pre post, t.trace = pre ++ .reported .disconnected :: post → post = []) ∧
    (t.pc = .left →
      reported t.trace = [.disconnected] ∧ reads t.trace = [] ∨
      reported t.trace =
        .unauthorized :: List.replicate (passes t.trace) .connected ++ [.disconnected]) := by
  have hok := traceOk_of_run hls h
  refine ⟨hok.forwarded, hok.failed, fun pre post heq => hok.disconnected_last heq, fun hpc => ?_⟩
  rcases hok.word hpc with htrace | hword
  · exact .inl (by rw [htrace]; exact ⟨rfl, rfl⟩)
  · exact .inr hword

/-- A connection that opens. -/
def opened : List Label :=
  [.init, .connect true, .setSoTimeout true, .openInput true, .openOutput true, .createSender,
    .startSender, .announce true]

/-- The connection is accepted, receives a text and is refused. -/
def acceptedThenRefused : List Label :=
  opened ++
    [.test, .read (.inner (.ofMessage InnerPackage.PASS)), .accept true,
      .test, .read (.string (JString.lit "ACTIVE")), .handled true,
      .test, .read (.inner (.ofMessage InnerPackage.FAILED)),
      .test, .close, .disconnect true, .release, .release, .release, .release]

theorem client_trace_acceptedThenRefused :
    ∃ t, exec step new acceptedThenRefused = some t ∧ t.pc = .left ∧
      forwarded t.trace = [.string (JString.lit "ACTIVE")] ∧
      reported t.trace = [.unauthorized, .connected, .disconnected] := by
  have hleft : ((exec step new acceptedThenRefused).get (by decide)).pc = .left := by decide
  obtain ⟨hforwarded, -, -, hword⟩ :=
    client_trace acceptedThenRefused _ (by decide) (Option.some_get (by decide)).symm
  refine ⟨_, (Option.some_get _).symm, hleft, ?_, ?_⟩
  · rw [hforwarded]
    decide
  · rcases hword hleft with ⟨-, hreads⟩ | hword
    · exact absurd hreads (by decide)
    · rw [hword]
      decide

end ClientRun

end Collaboration
