import Collaboration.Authorize.Steps

/-! # Which answer decides which request

Every answer decides its own request as long as the shared fields are not touched by
another request at the moments that matter. -/

namespace Collaboration.Authorize

open Transition

variable {md5 : JString → List UInt8}

/-- `authorize` returns true exactly for a known device or a confirmed prompt, and every
answer is returned by the call whose prompt it answers, or about to be. -/
structure Decided (s : ApplicationManager) : Prop where
  returns_iff : ∀ i r, (s.calls i).pc = .returned r →
    (r = true ↔ (s.calls i).wasKnown = true ∨ (s.calls i).answer = some true)
  answers_kept : ∀ i a, (s.calls i).answer = some a →
    (s.calls i).pc = .returned a ∨ (s.calls i).pc = .notified ∧ s.mCheckResult = a

/-- No request that was answered and has not yet returned would read another result. -/
def NoPendingBut (s : ApplicationManager) (result : Bool) : Prop :=
  ∀ j < s.count, (s.calls j).pc = .notified → s.mCheckResult = result

instance (s : ApplicationManager) (result : Bool) : Decidable (NoPendingBut s result) :=
  inferInstanceAs (Decidable (∀ j < s.count, (s.calls j).pc = .notified → s.mCheckResult = result))

/-- The step meets no other request in the shared fields: a check reads the device of its
own request, the flag is overwritten only with what a pending answer left there, and
`notify` wakes the request whose prompt is answered. -/
def Undisturbed (s : ApplicationManager) : Label → ApplicationManager → Prop
  | .check i, _ =>
    Utils.getDeviceName (s.calls i).message = some s.mDeviceName ∧
      Utils.getDeviceMac (s.calls i).message = some s.mDeviceMac
  | .returnKnown _, _ | .enter _, _ => NoPendingBut s false
  | .answer i pass _ woken, _ => woken = some i ∧ NoPendingBut s pass
  | _, _ => True

instance (s : ApplicationManager) (l : Label) (t : ApplicationManager) :
    Decidable (Undisturbed s l t) :=
  match l with
  | .check i =>
    inferInstanceAs (Decidable (Utils.getDeviceName (s.calls i).message = some s.mDeviceName ∧
      Utils.getDeviceMac (s.calls i).message = some s.mDeviceMac))
  | .returnKnown _ | .enter _ => inferInstanceAs (Decidable (NoPendingBut s false))
  | .answer i pass _ woken =>
    inferInstanceAs (Decidable (woken = some i ∧ NoPendingBut s pass))
  | .setAuthorize | .call _ | .assignName _ | .assignMac _ | .resume _ | .save => .isTrue trivial

/-! ## The invariant of one call -/

/-- What a call has recorded at each place of its code, given the shared flag. -/
def CallOk (result : Bool) (c : AuthorizeCall) : Prop :=
  match c.pc with
  | .idle | .called | .named | .checking | .unknown | .waiting =>
    c.wasKnown = false ∧ c.answer = none
  | .known => c.wasKnown = true ∧ c.answer = none
  | .notified => c.wasKnown = false ∧ c.answer = some result
  | .returned r => (r = true ↔ c.wasKnown = true ∨ c.answer = some true) ∧
      ∀ a, c.answer = some a → r = a
  | .threw => c.answer = none

structure Inv (s : ApplicationManager) : Prop where
  call : ∀ i, CallOk s.mCheckResult (s.calls i)
  idle : ∀ i, s.count ≤ i → (s.calls i).pc = .idle

theorem inv_init (checker : Bool) (name mac : JString) (saver : KnownDeviceSaver) :
    Inv (.init checker name mac saver) :=
  ⟨fun _ => ⟨rfl, rfl⟩, fun _ _ => rfl⟩

/-- The flag matters only to a call that is about to read it. -/
theorem CallOk.change_result {r r' : Bool} {c : AuthorizeCall} (h : CallOk r c)
    (hn : c.pc = .notified → r = r') : CallOk r' c := by
  unfold CallOk at h ⊢
  cases hpc : c.pc with
  | notified => simpa [hpc, hn hpc] using h
  | _ => simpa [hpc] using h

theorem Inv.lt_count {s : ApplicationManager} (h : Inv s) {i : CallId}
    (hpc : (s.calls i).pc ≠ .idle) : i < s.count := by
  by_contra hi
  exact hpc (h.idle i (Nat.le_of_not_lt hi))

theorem Inv.noPendingBut {s : ApplicationManager} (h : Inv s) {r : Bool}
    (hn : NoPendingBut s r) (j : CallId) (hpc : (s.calls j).pc = .notified) :
    s.mCheckResult = r :=
  hn j (h.lt_count (by simp [hpc])) hpc

/-- One call moves on, the flag possibly with it. -/
theorem Inv.setCall {s t : ApplicationManager} (h : Inv s) {i : CallId} {c : AuthorizeCall}
    (hcalls : t.calls = Function.update s.calls i c) (hcount : t.count = s.count)
    (hi : (s.calls i).pc ≠ .idle) (hc : CallOk t.mCheckResult c)
    (hr : ∀ j, j ≠ i → (s.calls j).pc = .notified → s.mCheckResult = t.mCheckResult) :
    Inv t := by
  constructor
  · intro j
    rw [hcalls]
    by_cases hj : j = i
    · simpa [hj] using hc
    · simpa [hj] using (h.call j).change_result (hr j hj)
  · intro j hle
    have hj : j ≠ i := by
      rintro rfl
      exact hi (h.idle _ (hcount ▸ hle))
    simpa [hcalls, hj] using h.idle j (hcount ▸ hle)

/-- A step outside the calls. -/
theorem Inv.same_calls {s t : ApplicationManager} (h : Inv s) (hcalls : t.calls = s.calls)
    (hcount : t.count = s.count) (hr : t.mCheckResult = s.mCheckResult) : Inv t :=
  ⟨fun i => by rw [hcalls, hr]; exact h.call i, fun i hi => by
    rw [hcalls]; exact h.idle i (hcount ▸ hi)⟩

theorem inv_call {s : ApplicationManager} (h : Inv s) (message : JString) :
    Inv { s.setCall s.count (.start message) with count := s.count + 1 } := by
  constructor
  · intro j
    by_cases hj : j = s.count
    · simp [hj, CallOk, AuthorizeCall.start]
    · simpa [hj] using h.call j
  · intro j hle
    have hj : j ≠ s.count := Nat.ne_of_gt (Nat.lt_of_succ_le hle)
    simpa [hj] using h.idle j (Nat.le_of_succ_le hle)

/-- A call moves on while the flag stays as it is. -/
theorem Inv.moved {s t : ApplicationManager} (h : Inv s) {i : CallId} {c : AuthorizeCall}
    (hcalls : t.calls = Function.update s.calls i c) (hcount : t.count = s.count)
    (hr : t.mCheckResult = s.mCheckResult) (hi : (s.calls i).pc ≠ .idle)
    (hc : CallOk s.mCheckResult (s.calls i) → CallOk s.mCheckResult c) : Inv t :=
  h.setCall hcalls hcount hi (by simpa [hr] using hc (h.call i)) fun _ _ _ => hr.symm

/-- A call moves on and the flag is assigned, which no pending call may notice. -/
theorem Inv.assigned {s t : ApplicationManager} (h : Inv s) {i : CallId} {c : AuthorizeCall}
    {r : Bool} (hn : NoPendingBut s r) (hcalls : t.calls = Function.update s.calls i c)
    (hcount : t.count = s.count) (hr : t.mCheckResult = r) (hi : (s.calls i).pc ≠ .idle)
    (hc : CallOk s.mCheckResult (s.calls i) → CallOk r c) : Inv t :=
  h.setCall hcalls hcount hi (by simpa [hr] using hc (h.call i))
    fun j _ hj => (h.noPendingBut hn j hj).trans hr.symm

theorem inv_step {s t : ApplicationManager} {l : Label} (h : Inv s)
    (hs : step md5 s l = some t) (hu : Undisturbed s l t) : Inv t := by
  cases steps_of_step hs with
  | setAuthorize => exact h.same_calls rfl rfl rfl
  | call => exact inv_call h _
  | assignName hpc | assignMac hpc =>
      exact h.moved rfl rfl rfl (by simp [hpc]) (by simp [CallOk, hpc])
  | nameThrows hpc | macThrows hpc =>
      exact h.moved rfl rfl rfl (by simp [hpc]) (by simp [CallOk, hpc])
  | @check i found known hpc hown =>
      -- under the guard the test of the branch is that of the call's own device
      obtain rfl := hown hu.1 hu.2
      refine h.moved rfl rfl rfl (by simp [hpc]) ?_
      intro hc
      simp only [CallOk, hpc] at hc
      cases known <;> simp [CallOk, hc.2]
  | returnKnown hpc =>
      refine h.assigned hu rfl rfl rfl (by simp [hpc]) ?_
      simp only [CallOk, hpc]
      rintro ⟨hknown, hanswer⟩
      simp [hknown, hanswer]
  | prompt hpc => exact h.assigned hu rfl rfl rfl (by simp [hpc]) (by simp [CallOk, hpc])
  | refuse hpc =>
      refine h.assigned hu rfl rfl rfl (by simp [hpc]) ?_
      simp only [CallOk, hpc]
      rintro ⟨hknown, hanswer⟩
      simp [hknown, hanswer]
  | answer hprompt hanswer hwait =>
      obtain ⟨hown, hn⟩ := hu
      obtain rfl := Option.some.inj hown
      refine h.assigned hn (Function.update_idem _ _ _) rfl rfl (by simp [hwait]) ?_
      simp only [CallOk, hwait]
      rintro ⟨hknown, -⟩
      simp [hknown]
  | answerUnheard => exact absurd hu.1 (by simp)
  | resume hpc =>
      refine h.moved rfl rfl rfl (by simp [hpc]) ?_
      simp only [CallOk, hpc]
      rintro ⟨hknown, hanswer⟩
      simp [hknown, hanswer]
  | save => exact h.same_calls rfl rfl rfl

theorem Inv.decided {s : ApplicationManager} (h : Inv s) : Decided s := by
  constructor
  · intro i r hpc
    have hc := h.call i
    simp only [CallOk, hpc] at hc
    exact hc.1
  · intro i a ha
    have hc := h.call i
    unfold CallOk at hc
    cases hpc : (s.calls i).pc with
    | returned r =>
        simp only [hpc] at hc
        exact .inl (by rw [hc.2 a ha])
    | notified =>
        simp only [hpc, ha, Option.some.injEq] at hc
        exact .inr ⟨rfl, hc.2.symm⟩
    | _ => simp [hpc, ha] at hc

/-- In every run whose steps are undisturbed, every answer decides its own request. -/
theorem answers_decide_own_request (checker : Bool) (name mac : JString)
    (saver : KnownDeviceSaver) (ls : List Label) (s : ApplicationManager)
    (he : exec (step md5) (.init checker name mac saver) ls = some s)
    (hu : Along (step md5) Undisturbed (.init checker name mac saver) ls) : Decided s :=
  (invariant_along (fun _ _ _ h hs hu => inv_step h hs hu) (inv_init checker name mac saver)
    hu he).decided

/-- Both phones are waiting; the second is let in, the first is not. -/
theorem answers_decide_own_request_overlapping :
    Decided ((exec (step fun _ => []) (.init true [] [] fun _ => none)
      (request 0 phoneA ++ request 1 phoneB ++ [.answer 1 true true (some 1), .save, .resume 1,
        .answer 0 false false (some 0), .resume 0])).get (by decide)) :=
  answers_decide_own_request true [] [] (fun _ => none) _ _ (Option.some_get _).symm (by decide)

/-- Both phones are waiting; the user confirms the prompt of the second, and `notify`
wakes the first. -/
theorem answer_decides_other_request :
    ¬ ∀ ls s, exec (step fun _ => []) (.init true [] [] fun _ => none) ls = some s →
      Decided s := by
  intro h
  have hd := h (request 0 phoneA ++ request 1 phoneB ++
    [.answer 1 true false (some 0), .resume 0]) _ (Option.some_get (by decide)).symm
  exact absurd ((hd.returns_iff 0 true (by decide)).mp rfl) (by decide)

end Collaboration.Authorize
