import Collaboration.Phone.CallEvents
import Collaboration.Phone.CallReports

/-! # The windows that are shown

What the window manager shows are the windows of the calls, each once, and an idle report takes
the window of its call away. -/

namespace Collaboration.CallEvents

open Transition InCallUIService

/-- The views that are shown are those of `mFloatViewMap`, and each key of it is the serial
number of a call that is kept under it. -/
structure ShowsCalls (ui : InCallUIService) : Prop where
  attached_nodup : ui.attached.Nodup
  attached_perm : ui.attached.Perm (ui.mFloatViewMap.entries.map (·.2))
  carries : ∀ k ∈ ui.mFloatViewMap, ∃ p, ui.mCallManager.mCallMap.lookup k = some p ∧
    p.Serailno = k

/-- The second stage of an idle report takes its call and the view of the call away. -/
def IdleDetaches (s : CallEvents) (l : Label) (u : CallEvents) : Prop :=
  ∀ p, l = .handleMessage → s.ui.messages.head? = some (.idleCall p) →
    p.Serailno ∉ u.ui.mFloatViewMap ∧ p.Serailno ∉ u.ui.mCallManager.mCallMap ∧
      ∀ v, s.ui.mFloatViewMap.lookup p.Serailno = some v → v ∈ s.ui.attached ∧ v ∉ u.ui.attached

variable {J : OrgJson} {t : JString.CaseTable} {s u : CallEvents}

/-- Two entries of `mFloatViewMap` never share a view. -/
theorem nodup_views {ui : InCallUIService} (h : ui.WellFormed) :
    (ui.mFloatViewMap.entries.map (·.2)).Nodup := by
  refine List.Nodup.map_on ?_ ui.mFloatViewMap.nodupKeys.nodup
  rintro ⟨k, v⟩ he ⟨k', v'⟩ he' (rfl : v = v')
  have hk := h.serial_of_lookup k v (AList.mem_lookup_iff.mpr he)
  have hk' := h.serial_of_lookup k' v (AList.mem_lookup_iff.mpr he')
  rw [hk.symm.trans hk']

theorem mem_views_iff {ui : InCallUIService} {v : ℕ} :
    v ∈ ui.mFloatViewMap.entries.map (·.2) ↔ ∃ k, ui.mFloatViewMap.lookup k = some v := by
  rw [List.mem_map]
  constructor
  · rintro ⟨⟨k, v⟩, he, rfl⟩
    exact ⟨k, AList.mem_lookup_iff.mpr he⟩
  · rintro ⟨k, hk⟩
    exact ⟨⟨k, v⟩, AList.mem_lookup_iff.mp hk, rfl⟩

theorem Invariant.showsCalls (h : Invariant s) : ShowsCalls s.ui where
  attached_nodup := h.wellFormed.attached_nodup
  attached_perm := by
    refine (List.perm_ext_iff_of_nodup h.wellFormed.attached_nodup
      (nodup_views h.wellFormed)).mpr fun v => ?_
    rw [h.wellFormed.attached_iff, mem_views_iff]
  carries := by
    intro k hk
    obtain ⟨p, hp⟩ := Option.isSome_iff_exists.mp
      (AList.lookup_isSome.mpr (h.wellFormed.mem_calls k hk))
    exact ⟨p, hp, h.carries k p hp⟩

/-- The view of an entry that is gone belongs to no other entry. -/
theorem not_attached_of_dismisses {ui ui' : InCallUIService} (h : ui.WellFormed)
    (h' : ui'.WellFormed) {k : Option JString} (hdismisses : Dismisses ui k ui') {v : ℕ}
    (hv : ui.mFloatViewMap.lookup k = some v) : v ∉ ui'.attached := by
  intro hattached
  obtain ⟨k', hk'⟩ := (h'.attached_iff v).mp hattached
  obtain ⟨hne, hk'⟩ := (hdismisses.lookup_iff k' v).mp hk'
  exact hne ((h.serial_of_lookup k' v hk').symm.trans (h.serial_of_lookup k v hv))

theorem idleDetaches_of_step (h : Invariant s) {l : Label} (hs : s.step J t l = some u) :
    IdleDetaches s l u := by
  rintro p rfl hhead
  obtain ⟨heffect, hinv⟩ := effect_of_step h hs
  cases heffect with
  | devolveEvent hm | incomingCall hm | activeCall hm => simp [hm] at hhead
  | @idleCall q messages ui hm hquiet hdismisses hcalls =>
      obtain rfl : q = p := by simpa [hm] using hhead
      refine ⟨fun hmem => ?_, ?_, fun v hv => ⟨h.wellFormed.attached_of_lookup hv, ?_⟩⟩
      · obtain ⟨v, hv⟩ := Option.isSome_iff_exists.mp (AList.lookup_isSome.mpr hmem)
        exact ((hdismisses.lookup_iff _ v).mp hv).1 rfl
      · rw [hcalls, CallManager.mem_removeCall]
        exact fun hmem => hmem.1 rfl
      · exact not_attached_of_dismisses h.wellFormed hinv.wellFormed hdismisses hv

/-- However messages of any kind and clicks on the shown windows follow one another, the windows
that are shown are those of `mFloatViewMap`, each once, every one of them belongs to a call that
carries its serial number, every idle report takes its call and window away, and no view is
removed that is not shown, which would be the end of the client. -/
theorem windows_follow_calls (J : OrgJson) (t : JString.CaseTable) (ls : List Label) :
    ShowsCalls init.ui ∧
      Along (step J t)
        (fun s l u => u.crashed = false ∧ ShowsCalls u.ui ∧ IdleDetaches s l u) init ls := by
  refine ⟨invariant_init.showsCalls, along_of_invariant (I := Invariant)
    (fun _ _ _ h hs => (effect_of_step h hs).2) (fun _ _ _ h hs => ?_) invariant_init ls⟩
  have hinv := (effect_of_step h hs).2
  exact ⟨hinv.not_crashed, hinv.showsCalls, idleDetaches_of_step h hs⟩

/-! ## Under the reports of the server -/

/-- The service in the system with the server. -/
def ofReports (s : CallReports) : CallEvents := ⟨s.ui, s.crashed⟩

/-- What a step of that system is to the service. -/
def labelOfReports (s : CallReports) : CallReports.Label → Option Label
  | .onCallStateChanged _ => none
  | .deliver => s.transit.head?.map fun dataObj => .onMessage (some dataObj)
  | .onServiceConnected => some .onServiceConnected
  | .handleMessage => some .handleMessage
  | .onClick v button remoteIp channel codecs => some (.onClick v button remoteIp channel codecs)

theorem ofReports_finish (s : CallReports) (ui : Option InCallUIService) :
    ofReports (s.finish ui) = (ofReports s).finish ui := by
  cases ui <;> rfl

theorem simulates_reports :
    Simulates (CallReports.step J t) (step J t) ofReports labelOfReports where
  moves := by
    rintro ⟨callbacks, transit, ui, handled, _ | _⟩ l u m hs hm
    · cases l with
      | onCallStateChanged cb => cases hm
      | deliver =>
          cases transit with
          | nil => cases hm
          | cons dataObj transit =>
              obtain rfl := Option.some.inj hs
              obtain rfl := Option.some.inj hm
              rfl
      | onServiceConnected =>
          obtain rfl := Option.some.inj hm
          obtain ⟨hbound, hs⟩ := Option.ite_none_right_eq_some.mp hs
          obtain rfl := Option.some.inj hs
          exact if_pos hbound
      | handleMessage =>
          obtain rfl := Option.some.inj hm
          cases hmessages : ui.messages with
          | nil => simp [CallReports.step, hmessages] at hs
          | cons message messages =>
              simp only [CallReports.step, Bool.false_eq_true, if_false, hmessages,
                Option.some.injEq] at hs
              subst hs
              rw [CallReports.handleMessage, ofReports_finish]
              simp only [step, ofReports, Bool.false_eq_true, if_false, hmessages]
      | onClick v button remoteIp channel codecs =>
          obtain rfl := Option.some.inj hm
          obtain ⟨hv, hs⟩ := Option.ite_none_right_eq_some.mp hs
          obtain rfl := Option.some.inj hs
          rw [ofReports_finish]
          exact if_pos hv
    · cases hs
  rests := by
    rintro ⟨callbacks, transit, ui, handled, _ | _⟩ l u hs hl
    · cases l with
      | onCallStateChanged cb =>
          obtain rfl := Option.some.inj hs
          rfl
      | deliver =>
          cases transit with
          | nil => cases hs
          | cons dataObj transit => cases hl
      | onServiceConnected | handleMessage | onClick => cases hl
    · cases hs

/-- Whatever callbacks the server reports, the windows of the client are those of its calls. -/
theorem showsCalls_of_reports {s : CallReports} {ls : List CallReports.Label}
    (he : exec (CallReports.step J t) .init ls = some s) : ShowsCalls s.ui := by
  obtain ⟨ms, hms, -⟩ := simulates_reports.exec (fun _ _ _ => True) he
  exact (invariant (I := Invariant) (fun _ _ _ h hs => (effect_of_step h hs).2)
    invariant_init hms).showsCalls

end Collaboration.CallEvents
