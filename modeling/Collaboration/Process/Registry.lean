import Collaboration.Phone.Messages

/-! # The service of a process and the registry of its listeners

Android destroys a service and creates it anew within one process, while the static
`ApplicationManager` and its `mModuleMap` stay. Both applications register the listener of
their service in `onCreate` and never remove it. -/

namespace Collaboration

/-- The instances of the service, numbered in the order of their creation, and the
`ApplicationManager`, whose listeners are known by the instance they belong to. -/
structure Process where
  /-- the instance that is alive -/
  live : Option ℕ
  created : ℕ
  mModuleMap : AList fun _ : JString => ℕ

namespace Process

def init : Process := ⟨none, 0, ∅⟩

def addListener (p : Process) (moduleName : JString) (listener : ℕ) : Process :=
  if p.mModuleMap.lookup moduleName = none then
    { p with mModuleMap := p.mModuleMap.insert moduleName listener }
  else p

/-- A new instance is created and registers its listener; there is one instance at a time. -/
def onCreate (p : Process) : Option Process :=
  match p.live with
  | none => some ({ p with live := some p.created, created := p.created + 1 }.addListener
      PHONE p.created)
  | some _ => none

def onDestroy (p : Process) : Option Process :=
  match p.live with
  | none => none
  | some _ => some { p with live := none }

/-- `ApplicationManager.onDeliverData`: the listener whose `onMessage` is called, and the
module object. -/
def deliver (J : OrgJson) (p : Process) (data : JString) : Option (ℕ × Option JSONObject) :=
  match JsonParser.parse J data with
  | none => none
  | some combineObj =>
    match combineObj.mCommObj.Module with
    | some module =>
      (p.mModuleMap.lookup module).map fun listener => (listener, combineObj.mModuleJSONObj)
    | none => none

/-! ## The first listener stays -/

/-- The listener of the first instance is registered from its creation on. -/
structure FirstRegistered (p : Process) : Prop where
  none_of_created : p.created = 0 → p.mModuleMap.lookup PHONE = none
  first_of_created : 0 < p.created → p.mModuleMap.lookup PHONE = some 0
  live_is_last : ∀ n, p.live = some n → p.created = n + 1

variable {J : OrgJson} {p q : Process}

theorem firstRegistered_init : FirstRegistered init :=
  ⟨fun _ => rfl, fun h => absurd h (by decide), by simp [init]⟩

@[simp] theorem addListener_live (p : Process) (moduleName : JString) (listener : ℕ) :
    (p.addListener moduleName listener).live = p.live := by
  unfold addListener
  split <;> rfl

@[simp] theorem addListener_created (p : Process) (moduleName : JString) (listener : ℕ) :
    (p.addListener moduleName listener).created = p.created := by
  unfold addListener
  split <;> rfl

theorem addListener_lookup (p : Process) (moduleName : JString) (listener : ℕ) :
    (p.addListener moduleName listener).mModuleMap.lookup moduleName =
      some ((p.mModuleMap.lookup moduleName).getD listener) := by
  unfold addListener
  split
  · rename_i h
    simp [h]
  · rename_i h
    obtain ⟨first, h⟩ := Option.ne_none_iff_exists'.mp h
    simp [h]

theorem onCreate_spec (h : p.onCreate = some q) :
    p.live = none ∧ q.live = some p.created ∧ q.created = p.created + 1 ∧
      q.mModuleMap.lookup PHONE = some ((p.mModuleMap.lookup PHONE).getD p.created) := by
  unfold onCreate at h
  split at h
  · rename_i hlive
    obtain rfl := Option.some.inj h
    exact ⟨hlive, by simp, by simp, addListener_lookup _ _ _⟩
  · cases h

theorem onDestroy_spec (h : p.onDestroy = some q) : q = { p with live := none } := by
  unfold onDestroy at h
  split at h
  · cases h
  · exact (Option.some.inj h).symm

theorem FirstRegistered.onCreate (hp : FirstRegistered p) (h : p.onCreate = some q) :
    FirstRegistered q := by
  obtain ⟨-, hlive, hcreated, hlookup⟩ := onCreate_spec h
  refine ⟨by simp [hcreated], fun _ => ?_, ?_⟩
  · cases hzero : p.created with
    | zero => rw [hlookup, hp.none_of_created hzero, hzero, Option.getD_none]
    | succ k => rw [hlookup, hp.first_of_created (by simp [hzero]), Option.getD_some]
  · intro n hn
    rw [hlive] at hn
    rw [hcreated, Option.some.inj hn]

theorem FirstRegistered.onDestroy (hp : FirstRegistered p) (h : p.onDestroy = some q) :
    FirstRegistered q := by
  obtain rfl := onDestroy_spec h
  exact ⟨hp.none_of_created, hp.first_of_created, by simp⟩

theorem FirstRegistered.lookup_of_live (hp : FirstRegistered p) {n : ℕ}
    (hn : p.live = some n) : p.mModuleMap.lookup PHONE = some 0 :=
  hp.first_of_created (by rw [hp.live_is_last n hn]; exact Nat.succ_pos n)

/-- The string is a message under module `Phone`, with this module object. -/
def IsPhoneMessage (J : OrgJson) (data : JString) (dataObj : Option JSONObject) : Prop :=
  onDeliverData J [PHONE] data = some dataObj

theorem deliver_of_isPhoneMessage (p : Process) {data : JString} {dataObj : Option JSONObject}
    (h : IsPhoneMessage J data dataObj) :
    p.deliver J data = (p.mModuleMap.lookup PHONE).map fun listener => (listener, dataObj) := by
  obtain ⟨json, hjson, hmodule, rfl⟩ := (onDeliverData_eq_some_iff J [PHONE] data dataObj).mp h
  simp only [deliver, JsonParser.parse, hjson, Option.map_some, List.mem_singleton.mp hmodule]

/-- While an instance is alive, a phone message reaches its listener if and only if it is the
first instance of the process. -/
theorem FirstRegistered.deliver_live_iff (hp : FirstRegistered p) {data : JString}
    {dataObj : Option JSONObject} (h : IsPhoneMessage J data dataObj) {n : ℕ}
    (hn : p.live = some n) : p.deliver J data = some (n, dataObj) ↔ p.created = 1 := by
  rw [deliver_of_isPhoneMessage p h, hp.lookup_of_live hn, hp.live_is_last n hn]
  simp [eq_comm]

end Process

end Collaboration
