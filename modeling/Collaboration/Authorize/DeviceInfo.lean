import Collaboration.Client.Semantics
import Collaboration.Model.Text

/-! # What the server decodes of a client's device

The client joins the name and the mac of its device with a colon, and the server splits the
text at the last colon, which is the one of the client exactly if the mac has none. -/

namespace Collaboration.Authorize

open JString

/-- The server recovers both parts of the text that a client builds of its device. -/
def Recovered (deviceName mac : JString) : Prop :=
  ∃ deviceInfo, Utils.createDeviceInfo deviceName mac = some deviceInfo ∧
    Utils.getDeviceName deviceInfo = Utils.createDeviceName deviceName mac ∧
    Utils.getDeviceMac deviceInfo = some mac

/-- The suffix of the mac that the name ends with is there. -/
theorem createDeviceName_eq_none_iff {deviceName mac : JString} :
    Utils.createDeviceName deviceName mac = none ↔ mac.length < 5 := by
  have hsuffix : substringFrom mac (mac.length - 5) = none ↔ mac.length < 5 := by
    rw [substringFrom_eq_none_iff]
    omega
  rw [← hsuffix]
  cases h : substringFrom mac (mac.length - 5) <;> simp [Utils.createDeviceName, h]

theorem createDeviceInfo_of_name {deviceName mac name : JString}
    (h : Utils.createDeviceName deviceName mac = some name) :
    Utils.createDeviceInfo deviceName mac = some (name ++ unit ':' :: mac) := by
  simp [Utils.createDeviceInfo, h, lit, unit]

/-! ## Splitting at the last colon -/

theorem getDeviceName_append (name : JString) {mac : JString} (h : unit ':' ∉ mac) :
    Utils.getDeviceName (name ++ unit ':' :: mac) = some name := by
  rw [Utils.getDeviceName, lastIndexOf_append_cons name h, substring_append_left]

theorem getDeviceMac_append (name : JString) {mac : JString} (h : unit ':' ∉ mac) :
    Utils.getDeviceMac (name ++ unit ':' :: mac) = some mac := by
  rw [Utils.getDeviceMac, lastIndexOf_append_cons name h, substringFrom_after]

/-- Of a mac with a colon only what follows its last one arrives. -/
theorem getDeviceMac_append_ne (name : JString) {mac : JString} (h : unit ':' ∈ mac) :
    Utils.getDeviceMac (name ++ unit ':' :: mac) ≠ some mac := by
  obtain ⟨a, b, rfl, hb⟩ := exists_last_occurrence h
  have hmac : Utils.getDeviceMac (name ++ unit ':' :: (a ++ unit ':' :: b)) = some b := by
    simpa using getDeviceMac_append (name ++ unit ':' :: a) hb
  rw [hmac]
  intro heq
  have hlength := congrArg List.length (Option.some.inj heq)
  simp only [List.length_append, List.length_cons] at hlength
  omega

namespace Recovered

variable {deviceName mac : JString}

/-- The encoder of the client returned. -/
theorem name (h : Recovered deviceName mac) :
    ∃ name, Utils.createDeviceName deviceName mac = some name ∧
      Utils.getDeviceMac (name ++ unit ':' :: mac) = some mac := by
  obtain ⟨deviceInfo, hinfo, -, hmac⟩ := h
  cases hcreate : Utils.createDeviceName deviceName mac with
  | none => simp [Utils.createDeviceInfo, hcreate] at hinfo
  | some name =>
      rw [createDeviceInfo_of_name hcreate] at hinfo
      obtain rfl := Option.some.inj hinfo
      exact ⟨name, rfl, hmac⟩

theorem length_le (h : Recovered deviceName mac) : 5 ≤ mac.length := by
  obtain ⟨name, hcreate, -⟩ := h.name
  by_contra hshort
  have hnone : Utils.createDeviceName deviceName mac = none :=
    createDeviceName_eq_none_iff.mpr (by omega)
  rw [hcreate] at hnone
  cases hnone

theorem colon_notMem (h : Recovered deviceName mac) : unit ':' ∉ mac := by
  obtain ⟨name, -, hmac⟩ := h.name
  exact fun hcolon => getDeviceMac_append_ne name hcolon hmac

theorem of_mac (hlength : 5 ≤ mac.length) (hcolon : unit ':' ∉ mac) :
    Recovered deviceName mac := by
  cases hcreate : Utils.createDeviceName deviceName mac with
  | none =>
      have hshort := createDeviceName_eq_none_iff.mp hcreate
      omega
  | some name =>
      refine ⟨_, createDeviceInfo_of_name hcreate, ?_, getDeviceMac_append name hcolon⟩
      rw [getDeviceName_append name hcolon, hcreate]

end Recovered

/-- The server recovers exactly the devices whose mac has no colon and is long enough for the
suffix of the name; the name may have any characters. -/
theorem device_recovered_iff (deviceName mac : JString) :
    Recovered deviceName mac ↔ 5 ≤ mac.length ∧ unit ':' ∉ mac :=
  ⟨fun h => ⟨h.length_le, h.colon_notMem⟩, fun h => .of_mac h.1 h.2⟩

/-- A mac in the usual notation is cut down to its last part. -/
theorem colon_in_mac_not_recovered :
    ¬ ∀ (cfg : ClientConfig) (deviceName mac : JString), cfg.getDeviceName = some deviceName →
      cfg.getDeviceMac = some mac → cfg.checkDeviceNameAndMac = false →
        Recovered deviceName mac := by
  intro h
  have hrecovered := h (.connectionImpl (some (lit "htc")) (some (lit "00:11:22:33:44:55")))
    (lit "htc") (lit "00:11:22:33:44:55") rfl rfl (by decide)
  exact hrecovered.colon_notMem (by decide)

end Collaboration.Authorize
