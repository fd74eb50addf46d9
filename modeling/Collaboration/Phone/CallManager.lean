import Collaboration.Library.LastWrite
import Collaboration.Model.JavaString

/-! # The calls of the client -/

namespace Collaboration

/-- `CallManager`; `α` stands for the `PhoneJson` objects. -/
structure CallManager (α : Type) where
  mCallMap : AList fun _ : Option JString => α

namespace CallManager

variable {α : Type}

def new : CallManager α := ⟨∅⟩

def addCall (m : CallManager α) (serialno : Option JString) (json : α) : CallManager α :=
  ⟨m.mCallMap.insert serialno json⟩

def removeCall (m : CallManager α) (serialno : Option JString) : CallManager α :=
  ⟨m.mCallMap.erase serialno⟩

/-- The loop of `removeAll` over the entries that are left. `none` is the
`ConcurrentModificationException` of the iterator once the map was modified. -/
def removeEntries (getSerialno : α → Option JString) :
    List (Σ _ : Option JString, α) → Bool → CallManager α → Option (CallManager α)
  | [], _, m => some m
  | e :: es, modified, m =>
    if modified then none
    else removeEntries getSerialno es (decide (getSerialno e.2 ∈ m.mCallMap))
      (m.removeCall (getSerialno e.2))

def removeAll (getSerialno : α → Option JString) (m : CallManager α) : Option (CallManager α) :=
  removeEntries getSerialno m.mCallMap.entries false m

def getCallsCount (m : CallManager α) : ℕ := m.mCallMap.keys.length

variable {m : CallManager α} {s s' : Option JString} {json : α}

@[simp] theorem not_mem_new : s ∉ (new : CallManager α).mCallMap := AList.notMem_empty s

@[simp] theorem mem_addCall : s' ∈ (m.addCall s json).mCallMap ↔ s' = s ∨ s' ∈ m.mCallMap :=
  AList.mem_insert _

@[simp] theorem mem_removeCall : s' ∈ (m.removeCall s).mCallMap ↔ s' ≠ s ∧ s' ∈ m.mCallMap :=
  AList.mem_erase

theorem lookup_addCall {json' : α} : (m.addCall s json).mCallMap.lookup s' = some json' ↔
    s' = s ∧ json' = json ∨ s' ≠ s ∧ m.mCallMap.lookup s' = some json' :=
  FiniteMap.lookup_insert_eq_some_iff

theorem lookup_removeCall : (m.removeCall s).mCallMap.lookup s' = some json ↔
    s' ≠ s ∧ m.mCallMap.lookup s' = some json :=
  FiniteMap.lookup_erase_eq_some_iff

theorem getCallsCount_eq_zero_iff : m.getCallsCount = 0 ↔ ∀ s, s ∉ m.mCallMap := by
  rw [getCallsCount, List.length_eq_zero_iff, List.eq_nil_iff_forall_not_mem]
  exact forall_congr' fun s => not_congr AList.mem_keys

theorem getCallsCount_ne_zero (h : s ∈ m.mCallMap) : m.getCallsCount ≠ 0 :=
  fun hzero => getCallsCount_eq_zero_iff.mp hzero s h

theorem getCallsCount_removeCall (m : CallManager α) (s : Option JString) :
    (m.removeCall s).getCallsCount =
      if s ∈ m.mCallMap then m.getCallsCount - 1 else m.getCallsCount := by
  simp only [getCallsCount, removeCall, AList.keys_erase, List.length_erase, AList.mem_keys]
  split <;> rfl

theorem removeAll_of_getCallsCount (getSerialno : α → Option JString)
    (h : m.getCallsCount = 0) : m.removeAll getSerialno = some m := by
  have hentries : m.mCallMap.entries = [] := by
    simpa [getCallsCount, AList.keys, List.keys] using h
  simp [removeAll, hentries, removeEntries]

/-- The loop survives the removal of the last entry's serial number only. -/
theorem removeEntries_eq_some {getSerialno : α → Option JString}
    {es : List (Σ _ : Option JString, α)} {m m' : CallManager α}
    (h : removeEntries getSerialno es false m = some m') :
    m' = m ∨ ∃ e ∈ es, m' = m.removeCall (getSerialno e.2) := by
  induction es generalizing m with
  | nil =>
      simp only [removeEntries, Option.some.injEq] at h
      exact .inl h.symm
  | cons e es ih =>
      simp only [removeEntries, Bool.false_eq_true, if_false] at h
      by_cases hmem : getSerialno e.2 ∈ m.mCallMap
      · cases es with
        | nil =>
            simp only [removeEntries, Option.some.injEq] at h
            exact .inr ⟨e, List.mem_cons_self, h.symm⟩
        | cons => simp [removeEntries, hmem] at h
      · have hsame : m.removeCall (getSerialno e.2) = m :=
          congrArg CallManager.mk (AList.ext (List.kerase_of_notMem_keys hmem))
        simp only [hmem, decide_false, hsame] at h
        obtain rfl | ⟨e', he', rfl⟩ := ih h
        · exact .inl rfl
        · exact .inr ⟨e', List.mem_cons_of_mem e he', rfl⟩

theorem getCallsCount_le_removeCall (m : CallManager α) (s : Option JString) :
    m.getCallsCount ≤ (m.removeCall s).getCallsCount + 1 := by
  rw [getCallsCount_removeCall]
  split <;> omega

/-- `removeAll` returns and leaves no call if and only if there is at most one, and it carries
the serial number of its entry. -/
theorem removeAll_leaves_none_iff (getSerialno : α → Option JString) (m : CallManager α) :
    (∃ m', m.removeAll getSerialno = some m' ∧ m'.getCallsCount = 0) ↔
      m.getCallsCount ≤ 1 ∧ ∀ k v, m.mCallMap.lookup k = some v → getSerialno v = k := by
  have hcount : m.getCallsCount = m.mCallMap.entries.length := by
    simp [getCallsCount, AList.keys, List.keys]
  constructor
  · rintro ⟨m', hm', hzero⟩
    obtain rfl | ⟨e, he, rfl⟩ := removeEntries_eq_some hm'
    · refine ⟨by omega, fun k v hv => ?_⟩
      have hnone := AList.lookup_eq_none.mpr (getCallsCount_eq_zero_iff.mp hzero k)
      rw [hnone] at hv
      cases hv
    · have hle := m.getCallsCount_le_removeCall (getSerialno e.2)
      have hone : m.mCallMap.entries.length ≤ 1 := by omega
      refine ⟨by omega, fun k v hv => ?_⟩
      have hmem : ⟨k, v⟩ ∈ m.mCallMap.entries := AList.mem_lookup_iff.mp hv
      obtain ⟨a, ha⟩ : ∃ a, m.mCallMap.entries = [a] :=
        List.length_eq_one_iff.mp (Nat.le_antisymm hone (List.length_pos_of_mem he))
      rw [ha, List.mem_singleton] at hmem he
      obtain rfl : ⟨k, v⟩ = e := hmem.trans he.symm
      by_contra hne
      refine getCallsCount_eq_zero_iff.mp hzero k (mem_removeCall.mpr ⟨Ne.symm hne, ?_⟩)
      exact AList.lookup_isSome.mp (by simp [hv])
  · rintro ⟨hone, hcarries⟩
    cases hentries : m.mCallMap.entries with
    | nil =>
        have hzero : m.getCallsCount = 0 := by simp [hcount, hentries]
        exact ⟨m, removeAll_of_getCallsCount getSerialno hzero, hzero⟩
    | cons e es =>
        obtain rfl : es = [] := by
          rw [hcount, hentries, List.length_cons] at hone
          exact List.eq_nil_of_length_eq_zero (by omega)
        have hkey : getSerialno e.2 = e.1 :=
          hcarries e.1 e.2 (AList.mem_lookup_iff.mpr (by simp [hentries]))
        refine ⟨m.removeCall (getSerialno e.2), by simp [removeAll, hentries, removeEntries], ?_⟩
        rw [hkey, getCallsCount, removeCall, AList.keys_erase]
        simp [AList.keys, List.keys, hentries]

end CallManager

end Collaboration
