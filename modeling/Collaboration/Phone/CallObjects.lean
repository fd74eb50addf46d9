import Collaboration.Library.Transition
import Collaboration.Phone.CallManager
import Collaboration.Protocol.Semantics
import Mathlib.Data.Set.Card

/-! # The call manager and the objects it shares

`getCallWithId` compares references where the map compares contents, and the stored messages
are objects that `updateCall` changes in place. Strings are immutable: a reference stands for
its characters, and two references may stand for the same ones. -/

namespace Collaboration

/-- `PhoneJson.copy`, which leaves the module alone. -/
def PhoneJson.copy (p json : PhoneJson) : PhoneJson := { json with Module := p.Module }

theorem PhoneJson.copy_eq_iff {p json : PhoneJson} :
    p.copy json = json ↔ p.Module = json.Module := by
  constructor
  · intro h
    rw [← h]
    rfl
  · intro h
    rw [copy, h]

/-- A `PhoneJson` object with the reference to its serial number. -/
structure PhoneJsonObject (chars : ℕ → JString) where
  json : PhoneJson
  Serailno : Option ℕ
  chars_Serailno : json.Serailno = Serailno.map chars

def PhoneJsonObject.copy {chars : ℕ → JString} (p json : PhoneJsonObject chars) :
    PhoneJsonObject chars :=
  ⟨p.json.copy json.json, json.Serailno, json.chars_Serailno⟩

/-- The call manager with the objects of all messages. -/
structure PhoneCalls (chars : ℕ → JString) where
  objects : ℕ → PhoneJsonObject chars
  mCallManager : CallManager ℕ

namespace PhoneCalls

variable {chars : ℕ → JString}

def init (objects : ℕ → PhoneJsonObject chars) : PhoneCalls chars := ⟨objects, .new⟩

variable (s : PhoneCalls chars)

/-- The call that is stored for a serial number. -/
def stored (k : Option JString) : Option ℕ := s.mCallManager.mCallMap.lookup k

def getCallWithId (serialno : Option ℕ) : Option ℕ :=
  (s.mCallManager.mCallMap.entries.find? fun e => (s.objects e.2).Serailno == serialno).map (·.2)

/-- The result is what `put` returns. -/
def addCall (serialno : Option ℕ) (json : ℕ) : PhoneCalls chars × Option ℕ :=
  ({ s with mCallManager := s.mCallManager.addCall (serialno.map chars) json },
    s.stored (serialno.map chars))

def updateCall (json : ℕ) : PhoneCalls chars × Option ℕ :=
  match s.getCallWithId (s.objects json).Serailno with
  | some internalCall =>
    ({ s with
      objects := Function.update s.objects internalCall
        ((s.objects internalCall).copy (s.objects json)) }, some internalCall)
  | none => s.addCall (s.objects json).Serailno json

/-- The result is what `remove` returns. -/
def removeCall (serialno : Option ℕ) : PhoneCalls chars × Option ℕ :=
  ({ s with mCallManager := s.mCallManager.removeCall (serialno.map chars) },
    s.stored (serialno.map chars))

def removeAll : Option (CallManager ℕ) :=
  s.mCallManager.removeAll fun v => (s.objects v).json.Serailno

inductive Label where
  | getCallWithId (serialno : Option ℕ)
  | addCall (serialno : Option ℕ) (json : ℕ)
  | updateCall (json : ℕ)
  | removeCall (serialno : Option ℕ)
  deriving DecidableEq, Repr

def perform : Label → PhoneCalls chars × Option ℕ
  | .getCallWithId serialno => (s, s.getCallWithId serialno)
  | .addCall serialno json => s.addCall serialno json
  | .updateCall json => s.updateCall json
  | .removeCall serialno => s.removeCall serialno

def step (l : Label) : Option (PhoneCalls chars) := some (s.perform l).1

/-- Calls are added under the serial number that they carry. -/
def ownStep (l : Label) : Option (PhoneCalls chars) :=
  match l with
  | .addCall serialno json => if serialno = (s.objects json).Serailno then s.step l else none
  | _ => s.step l

end PhoneCalls

/-! ## What the manager is for -/

/-- A finite map from serial numbers to calls, with the fields of the calls. -/
structure CallMap where
  stored : Option JString → Option ℕ
  fields : ℕ → PhoneJson

namespace CallMap

variable (m : CallMap)

def addCall (k : Option JString) (json : ℕ) : CallMap × Option ℕ :=
  ({ m with stored := Function.update m.stored k (some json) }, m.stored k)

/-- A known call is changed in place, an unknown one is added, and either is returned. -/
def updateCall (json : ℕ) : CallMap × Option ℕ :=
  match m.stored (m.fields json).Serailno with
  | some call => ({ m with fields := Function.update m.fields call (m.fields json) }, some call)
  | none => ((m.addCall (m.fields json).Serailno json).1, some json)

def removeCall (k : Option JString) : CallMap × Option ℕ :=
  ({ m with stored := Function.update m.stored k none }, m.stored k)

/-- The serial numbers of the operations are taken by their characters. -/
def perform (chars : ℕ → JString) : PhoneCalls.Label → CallMap × Option ℕ
  | .getCallWithId serialno => (m, m.stored (serialno.map chars))
  | .addCall serialno json => m.addCall (serialno.map chars) json
  | .updateCall json => m.updateCall json
  | .removeCall serialno => m.removeCall (serialno.map chars)

end CallMap

namespace PhoneCalls

open Transition

variable {chars : ℕ → JString}

def view (s : PhoneCalls chars) : CallMap := ⟨s.stored, fun v => (s.objects v).json⟩

/-- The operation does to the map what it is for and returns the same, and the count is that of
the serial numbers in the map. -/
def BehavesAsMap (s : PhoneCalls chars) (l : Label) (t : PhoneCalls chars) : Prop :=
  (t.view, (s.perform l).2) = s.view.perform chars l ∧
    t.mCallManager.getCallsCount = {k | t.stored k ≠ none}.ncard

/-- What is looked up is not there or carries the very reference; what is updated is there,
carries the very reference and has the same module. -/
def SameReference (s : PhoneCalls chars) (l : Label) (_ : PhoneCalls chars) : Prop :=
  match l with
  | .getCallWithId serialno =>
    ∀ v, s.stored (serialno.map chars) = some v → (s.objects v).Serailno = serialno
  | .updateCall json =>
    ∃ v, s.stored (s.objects json).json.Serailno = some v ∧
      (s.objects v).Serailno = (s.objects json).Serailno ∧
      (s.objects v).json.Module = (s.objects json).json.Module
  | .addCall _ _ | .removeCall _ => True

/-- Every call is stored under the serial number that it carries. -/
def CarriesKey (s : PhoneCalls chars) : Prop :=
  ∀ k v, s.stored k = some v → (s.objects v).json.Serailno = k

variable {s t : PhoneCalls chars} {l : Label}

/-! ## The operations on the map -/

theorem stored_addCall (serialno : Option ℕ) (json : ℕ) :
    (s.addCall serialno json).1.stored =
      Function.update s.stored (serialno.map chars) (some json) := by
  funext k
  rw [Function.update_apply]
  exact FiniteMap.lookup_insert

theorem stored_removeCall (serialno : Option ℕ) :
    (s.removeCall serialno).1.stored = Function.update s.stored (serialno.map chars) none := by
  funext k
  rw [Function.update_apply]
  exact FiniteMap.lookup_erase

theorem fields_update (v : ℕ) (o : PhoneJsonObject chars) :
    (fun w => (Function.update s.objects v o w).json) =
      Function.update (fun w => (s.objects w).json) v o.json := by
  funext w
  by_cases hw : w = v
  · subst hw
    simp
  · simp [hw]

theorem getCallsCount_eq_ncard :
    s.mCallManager.getCallsCount = {k | s.stored k ≠ none}.ncard := by
  have hkeys : {k | s.stored k ≠ none} = ↑s.mCallManager.mCallMap.keys.toFinset := by
    ext k
    simp [stored, AList.lookup_eq_none, AList.mem_keys]
  rw [hkeys, Set.ncard_coe_finset,
    List.toFinset_card_of_nodup (AList.keys_nodup s.mCallManager.mCallMap)]
  rfl

/-- The scan finds a call if and only if it is the stored one and carries the very reference. -/
theorem CarriesKey.getCallWithId_eq_some_iff (h : CarriesKey s) {serialno : Option ℕ} {v : ℕ} :
    s.getCallWithId serialno = some v ↔
      s.stored (serialno.map chars) = some v ∧ (s.objects v).Serailno = serialno := by
  have hstored : ∀ e ∈ s.mCallManager.mCallMap.entries, (s.objects e.2).Serailno = serialno →
      s.stored (serialno.map chars) = some e.2 := by
    rintro ⟨k, w⟩ he hserial
    have hlookup : s.stored k = some w := AList.mem_lookup_iff.mpr he
    rw [← hserial, ← (s.objects w).chars_Serailno, h k w hlookup]
    exact hlookup
  unfold getCallWithId
  rw [Option.map_eq_some_iff]
  constructor
  · rintro ⟨e, hfind, rfl⟩
    have hserial : (s.objects e.2).Serailno = serialno := by
      simpa using List.find?_some hfind
    exact ⟨hstored e (List.mem_of_find?_eq_some hfind) hserial, hserial⟩
  · rintro ⟨hlookup, hserial⟩
    have hmem : ⟨serialno.map chars, v⟩ ∈ s.mCallManager.mCallMap.entries :=
      AList.mem_lookup_iff.mp hlookup
    cases hfind : s.mCallManager.mCallMap.entries.find?
        fun e => (s.objects e.2).Serailno == serialno with
    | none =>
        have hnone := List.find?_eq_none.mp hfind _ hmem
        simp [hserial] at hnone
    | some e =>
        have hserial' : (s.objects e.2).Serailno = serialno := by
          simpa using List.find?_some hfind
        have hlookup' := hstored e (List.mem_of_find?_eq_some hfind) hserial'
        exact ⟨e, rfl, Option.some.inj (hlookup'.symm.trans hlookup)⟩

theorem CarriesKey.getCallWithId_eq_none (h : CarriesKey s) {serialno : Option ℕ}
    (hnone : s.getCallWithId serialno = none) {v : ℕ}
    (hv : s.stored (serialno.map chars) = some v) : (s.objects v).Serailno ≠ serialno := by
  intro hserial
  rw [h.getCallWithId_eq_some_iff.mpr ⟨hv, hserial⟩] at hnone
  cases hnone

/-! ## One step -/

theorem perform_of_ownStep (hs : s.ownStep l = some t) : t = (s.perform l).1 := by
  cases l with
  | addCall serialno json =>
      simp only [ownStep, step, Option.ite_none_right_eq_some, Option.some.injEq] at hs
      exact hs.2.symm
  | getCallWithId | updateCall | removeCall => exact (Option.some.inj hs).symm

theorem updateCall_of_some {json v : ℕ}
    (h : s.getCallWithId (s.objects json).Serailno = some v) :
    s.updateCall json =
      ({ s with
        objects := Function.update s.objects v ((s.objects v).copy (s.objects json)) },
        some v) := by
  simp [updateCall, h]

theorem updateCall_of_none {json : ℕ} (h : s.getCallWithId (s.objects json).Serailno = none) :
    s.updateCall json = s.addCall (s.objects json).Serailno json := by
  simp [updateCall, h]

theorem CarriesKey.addCall (h : CarriesKey s) (json : ℕ) :
    CarriesKey (s.addCall (s.objects json).Serailno json).1 := by
  intro k v hv
  rw [stored_addCall] at hv
  by_cases hk : k = (s.objects json).Serailno.map chars
  · subst hk
    obtain rfl : json = v := by simpa using hv
    exact (s.objects json).chars_Serailno
  · rw [Function.update_of_ne hk] at hv
    exact h k v hv

theorem CarriesKey.removeCall (h : CarriesKey s) (serialno : Option ℕ) :
    CarriesKey (s.removeCall serialno).1 := by
  intro k v hv
  rw [stored_removeCall] at hv
  by_cases hk : k = serialno.map chars
  · subst hk
    simp at hv
  · rw [Function.update_of_ne hk] at hv
    exact h k v hv

theorem CarriesKey.updateCall (h : CarriesKey s) (json : ℕ) :
    CarriesKey (s.updateCall json).1 := by
  cases hget : s.getCallWithId (s.objects json).Serailno with
  | none =>
      rw [updateCall_of_none hget]
      exact h.addCall json
  | some v =>
      obtain ⟨hv, hserial⟩ := h.getCallWithId_eq_some_iff.mp hget
      rw [updateCall_of_some hget]
      intro k w hw
      by_cases hwv : w = v
      · -- the copied serial number is that of the entry
        subst hwv
        have hkey := h k w hw
        rw [(s.objects w).chars_Serailno, hserial] at hkey
        simp [PhoneJsonObject.copy, PhoneJson.copy, (s.objects json).chars_Serailno, hkey]
      · simp only [Function.update_of_ne hwv]
        exact h k w hw

theorem CarriesKey.of_ownStep (h : CarriesKey s) (hs : s.ownStep l = some t) : CarriesKey t := by
  cases l with
  | getCallWithId serialno =>
      obtain rfl := perform_of_ownStep hs
      exact h
  | addCall serialno json =>
      simp only [ownStep, step, Option.ite_none_right_eq_some, Option.some.injEq] at hs
      obtain ⟨rfl, rfl⟩ := hs
      exact h.addCall json
  | updateCall json =>
      obtain rfl := perform_of_ownStep hs
      exact h.updateCall json
  | removeCall serialno =>
      obtain rfl := perform_of_ownStep hs
      exact h.removeCall serialno

/-- What the map would do with an update, as it is done or not. -/
theorem CarriesKey.updateCall_eq_iff (h : CarriesKey s) (json : ℕ) :
    ((s.updateCall json).1.view, (s.updateCall json).2) = s.view.updateCall json ↔
      ∃ v, s.stored (s.objects json).json.Serailno = some v ∧
        (s.objects v).Serailno = (s.objects json).Serailno ∧
        (s.objects v).json.Module = (s.objects json).json.Module := by
  have hchars := (s.objects json).chars_Serailno
  cases hget : s.getCallWithId (s.objects json).Serailno with
  | some v =>
      obtain ⟨hv, hserial⟩ := h.getCallWithId_eq_some_iff.mp hget
      have hspec : s.view.updateCall json =
          ({ s.view with
            fields := Function.update s.view.fields v (s.view.fields json) }, some v) := by
        simp [CallMap.updateCall, view, hchars, hv]
      have hview : PhoneCalls.view
          { s with
            objects := Function.update s.objects v ((s.objects v).copy (s.objects json)) } =
          { s.view with
            fields := Function.update s.view.fields v
              ((s.objects v).json.copy (s.objects json).json) } := by
        simp only [view, fields_update, PhoneJsonObject.copy]
        rfl
      rw [updateCall_of_some hget, hspec, hview, hchars, hv]
      simp only [Prod.mk.injEq, CallMap.mk.injEq, true_and, and_true, Option.some.injEq,
        exists_eq_left', hserial, (Function.update_injective _ _).eq_iff]
      exact PhoneJson.copy_eq_iff
  | none =>
      have hdiffer := fun v (hv : s.stored (s.objects json).json.Serailno = some v) =>
        h.getCallWithId_eq_none hget (hchars ▸ hv)
      refine iff_of_false ?_ ?_
      · rw [updateCall_of_none hget]
        intro heq
        cases hv : s.stored (s.objects json).json.Serailno with
        | none =>
            -- `put` returns null
            have hresult := congrArg Prod.snd heq
            simp [PhoneCalls.addCall, CallMap.updateCall, view, ← hchars, hv] at hresult
        | some v =>
            -- the message replaces the call
            have hstored := congrArg (fun r => r.1.stored (s.objects json).json.Serailno) heq
            simp only [view, stored_addCall, CallMap.updateCall, hv, ← hchars,
              Function.update_self, Option.some.injEq] at hstored
            subst hstored
            exact hdiffer json hv rfl
      · rintro ⟨v, hv, hserial, -⟩
        exact hdiffer v hv hserial

theorem CarriesKey.behavesAsMap_iff (h : CarriesKey s) (hs : s.ownStep l = some t) :
    BehavesAsMap s l t ↔ SameReference s l t := by
  obtain rfl := perform_of_ownStep hs
  rw [BehavesAsMap, getCallsCount_eq_ncard, and_iff_left rfl]
  cases l with
  | getCallWithId serialno =>
      simp only [perform, CallMap.perform, SameReference, Prod.mk.injEq, true_and]
      constructor
      · intro hfound v hv
        exact (h.getCallWithId_eq_some_iff.mp (hfound.trans hv)).2
      · intro hsame
        cases hv : s.stored (serialno.map chars) with
        | some v => exact h.getCallWithId_eq_some_iff.mpr ⟨hv, hsame v hv⟩ |>.trans hv.symm
        | none =>
            refine Option.eq_none_iff_forall_ne_some.mpr ?_ |>.trans hv.symm
            intro v hfound
            rw [(h.getCallWithId_eq_some_iff.mp hfound).1] at hv
            cases hv
  | addCall serialno json =>
      have hview : (s.addCall serialno json).1.view =
          { s.view with
            stored := Function.update s.view.stored (serialno.map chars) (some json) } :=
        congrArg (CallMap.mk · s.view.fields) (stored_addCall serialno json)
      exact iff_of_true (Prod.ext hview rfl) trivial
  | updateCall json => exact h.updateCall_eq_iff json
  | removeCall serialno =>
      have hview : (s.removeCall serialno).1.view =
          { s.view with stored := Function.update s.view.stored (serialno.map chars) none } :=
        congrArg (CallMap.mk · s.view.fields) (stored_removeCall serialno)
      exact iff_of_true (Prod.ext hview rfl) trivial

/-! ## Runs -/

theorem carriesKey_init (objects : ℕ → PhoneJsonObject chars) : CarriesKey (init objects) := by
  intro k v hv
  simp [init, stored, CallManager.new] at hv

/-- The manager behaves as a finite map from serial numbers to calls along the runs in which
whatever is looked up carries the reference that is stored, if any, and nothing new is updated. -/
theorem behaves_as_map_iff (objects : ℕ → PhoneJsonObject chars) (ls : List Label) :
    Along ownStep BehavesAsMap (init objects) ls ↔ Along ownStep SameReference (init objects) ls :=
  along_congr_of_invariant (I := CarriesKey) (fun _ _ _ h hs => h.of_ownStep hs)
    (fun _ _ _ h hs => h.behavesAsMap_iff hs) (carriesKey_init objects) ls

/-- Reports of one call, each with its own string: it rings first and is active later. -/
def reports (v : ℕ) : PhoneJsonObject fun _ => JString.lit "10086" :=
  ⟨{ PhoneJson.new with
    CallType := if v = 0 then 5 else 1
    Serailno := some (JString.lit "10086") }, some v, rfl⟩

/-- The second report replaces the first, and neither is found. -/
theorem update_replaces_call :
    ¬ ∀ (chars : ℕ → JString) (objects : ℕ → PhoneJsonObject chars),
      (∀ v w r, (objects v).Serailno = some r → (objects w).Serailno = some r → v = w) →
        ∀ ls, Along ownStep BehavesAsMap (init objects) ls := by
  intro h
  have hrun := h _ reports (by simp [reports]) [.addCall (some 0) 0, .updateCall 1]
  rw [along_cons_of_step rfl, along_cons_of_step rfl] at hrun
  have hstored := congrArg (fun r => r.1.stored (some (JString.lit "10086"))) hrun.2.1.1
  exact absurd hstored (by decide)

/-- `removeAll` returns and leaves no call in exactly the states with at most one call that
carries the serial number of its entry, as it does where calls are added under their own. -/
theorem removeAll_empties_iff (objects : ℕ → PhoneJsonObject chars) (ls : List Label) :
    (∀ s, exec step (init objects) ls = some s →
      ((∃ m, s.removeAll = some m ∧ m.getCallsCount = 0) ↔
        s.mCallManager.getCallsCount ≤ 1 ∧
          ∀ k v, s.stored k = some v → (s.objects v).json.Serailno = k)) ∧
    (∀ s, exec ownStep (init objects) ls = some s →
      ((∃ m, s.removeAll = some m ∧ m.getCallsCount = 0) ↔
        s.mCallManager.getCallsCount ≤ 1)) := by
  have hall : ∀ s : PhoneCalls chars, (∃ m, s.removeAll = some m ∧ m.getCallsCount = 0) ↔
      s.mCallManager.getCallsCount ≤ 1 ∧ CarriesKey s := fun s =>
    s.mCallManager.removeAll_leaves_none_iff _
  refine ⟨fun s _ => hall s, fun s he => ?_⟩
  rw [hall, and_iff_left]
  exact invariant (I := CarriesKey) (fun _ _ _ h hs => h.of_ownStep hs) (carriesKey_init objects) he

theorem removeAll_empties_iff_oneCall :
    ∃ m, (addCall (init reports) (some 0) 0).1.removeAll = some m ∧ m.getCallsCount = 0 :=
  ((removeAll_empties_iff reports [.addCall (some 0) 0]).2 _ rfl).mpr (by decide)

/-- Calls with numbers of their own. -/
def twoCalls (v : ℕ) : PhoneJsonObject fun r => JString.lit (if r = 0 then "10086" else "10010") :=
  ⟨{ PhoneJson.new with Serailno := some (JString.lit (if v = 0 then "10086" else "10010")) },
    some v, rfl⟩

/-- The iterator throws once the first of two calls is removed. -/
theorem removeAll_throws :
    ¬ ∀ (chars : ℕ → JString) (objects : ℕ → PhoneJsonObject chars) ls s,
      exec step (init objects) ls = some s →
        ∃ m, s.removeAll = some m ∧ m.getCallsCount = 0 := by
  intro h
  obtain ⟨m, hm, -⟩ := h _ twoCalls [.addCall (some 0) 0, .addCall (some 1) 1] _ rfl
  cases hm

end PhoneCalls

end Collaboration
