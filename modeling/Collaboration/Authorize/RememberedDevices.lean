import Collaboration.Authorize.DeviceInfo
import Collaboration.Authorize.KnownDeviceSaver

/-! # What the approval of one device does to another

The store keeps one mac under each name, and a name ends with the last five characters of the
mac only. So devices of one name and one such suffix share an entry. -/

namespace Collaboration.Authorize

open JString Transition

/-- A device that `createDeviceInfo` accepts and whose mac has no colon. -/
structure Device where
  deviceName : JString
  mac : JString
  suffix_le : 5 ≤ mac.length
  colon_notMem : unit ':' ∉ mac

namespace Device

/-- What `createDeviceName` makes of the device. -/
def savedName (d : Device) : JString :=
  replaceAll d.deviceName (unit ' ') (unit '_') ++ lit "_" ++ d.mac.drop (d.mac.length - 5)

/-- What the client sends. -/
def deviceInfo (d : Device) : JString := d.savedName ++ unit ':' :: d.mac

/-- The names agree up to blanks, and the macs in their last five characters. -/
def SharesEntry (d d' : Device) : Prop :=
  replaceAll d.deviceName (unit ' ') (unit '_') =
      replaceAll d'.deviceName (unit ' ') (unit '_') ∧
    d.mac.drop (d.mac.length - 5) = d'.mac.drop (d'.mac.length - 5)

variable (d d' : Device)

theorem createDeviceName_eq : Utils.createDeviceName d.deviceName d.mac = some d.savedName := by
  have hle := d.suffix_le
  have hsuffix : substringFrom d.mac (d.mac.length - 5) =
      some (d.mac.drop (d.mac.length - 5)) := by
    have hdrop : ((d.mac.length : Int) - 5).toNat = d.mac.length - 5 := by omega
    have hbounds : (0 : Int) ≤ d.mac.length - 5 ∧ (d.mac.length : Int) - 5 ≤ d.mac.length ∧
        (d.mac.length : Int) ≤ d.mac.length := by omega
    rw [substringFrom, substring, if_pos hbounds, hdrop, Int.toNat_natCast, List.take_length]
  simp [Utils.createDeviceName, hsuffix, savedName]

theorem createDeviceInfo_eq : Utils.createDeviceInfo d.deviceName d.mac = some d.deviceInfo :=
  createDeviceInfo_of_name d.createDeviceName_eq

theorem getDeviceName_deviceInfo : Utils.getDeviceName d.deviceInfo = some d.savedName :=
  getDeviceName_append _ d.colon_notMem

theorem getDeviceMac_deviceInfo : Utils.getDeviceMac d.deviceInfo = some d.mac :=
  getDeviceMac_append _ d.colon_notMem

/-- The last underscore of a saved name is where its suffix begins. -/
theorem savedName_eq_iff : d.savedName = d'.savedName ↔ SharesEntry d d' := by
  have hlength : (d.mac.drop (d.mac.length - 5)).length =
      (d'.mac.drop (d'.mac.length - 5)).length := by
    have hle := d.suffix_le
    have hle' := d'.suffix_le
    simp only [List.length_drop]
    omega
  constructor
  · intro h
    obtain ⟨hname, hsuffix⟩ := List.append_inj' h hlength
    exact ⟨List.append_cancel_right hname, hsuffix⟩
  · rintro ⟨hname, hsuffix⟩
    rw [savedName, savedName, hname, hsuffix]

end Device

/-! ## A request by itself -/

variable (md5 : JString → List UInt8)

/-- What the store answers to `authorize(message)`; `none` is the exception of `substring`. -/
def storeAnswer (saver : KnownDeviceSaver) (message : JString) : Option Bool := do
  let deviceName ← Utils.getDeviceName message
  let mac ← Utils.getDeviceMac message
  return isKnownDevice md5 saver deviceName mac

/-- The store after `checkPass(true)` for the request with this message. -/
def approve (saver : KnownDeviceSaver) (message : JString) : Option KnownDeviceSaver := do
  let deviceName ← Utils.getDeviceName message
  let mac ← Utils.getDeviceMac message
  return saveKnownDevice md5 saver deviceName mac

variable {md5} {s : ApplicationManager} {message : JString} {saver : KnownDeviceSaver}

/-- A request that nothing interrupts is decided by the store if the store knows the device. -/
theorem exec_known (h : storeAnswer md5 s.mKnownDeviceSaver message = some true) :
    (exec (step md5) s [.call message, .assignName s.count, .assignMac s.count, .check s.count,
        .returnKnown s.count]).map (fun t => ((t.calls s.count).pc, t.mKnownDeviceSaver)) =
      some (.returned true, s.mKnownDeviceSaver) := by
  simp only [storeAnswer, Option.bind_eq_bind, Option.bind_eq_some_iff, Option.pure_def,
    Option.some.injEq] at h
  obtain ⟨deviceName, hname, mac, hmac, hknown⟩ := h
  simp [step, AuthorizeCall.start, ApplicationManager.setPc, ApplicationManager.setCall, hname,
    hmac, hknown]

/-- Otherwise the user is asked, and an approval with the save box saves the device. -/
theorem exec_approve (hchecker : s.mAuthorizeChecker = true) (hsaving : s.saving = none)
    (h : storeAnswer md5 s.mKnownDeviceSaver message = some false)
    (hsaver : approve md5 s.mKnownDeviceSaver message = some saver) :
    (exec (step md5) s (request s.count message ++ [.answer s.count true true (some s.count),
        .save, .resume s.count])).map (fun t => ((t.calls s.count).pc, t.mKnownDeviceSaver)) =
      some (.returned true, saver) := by
  simp only [storeAnswer, Option.bind_eq_bind, Option.bind_eq_some_iff, Option.pure_def,
    Option.some.injEq] at h
  obtain ⟨deviceName, hname, mac, hmac, hknown⟩ := h
  obtain rfl : saveKnownDevice md5 s.mKnownDeviceSaver deviceName mac = saver := by
    simpa [approve, hname, hmac] using hsaver
  simp [request, step, answer, onCheckFinish, recordAnswer, enter, AuthorizeCall.start,
    ApplicationManager.setPc, ApplicationManager.setCall, hname, hmac, hknown, hchecker, hsaving]

theorem storeAnswer_deviceInfo (d : Device) :
    storeAnswer md5 saver d.deviceInfo = some (isKnownDevice md5 saver d.savedName d.mac) := by
  simp [storeAnswer, d.getDeviceName_deviceInfo, d.getDeviceMac_deviceInfo]

theorem approve_deviceInfo (d : Device) :
    approve md5 saver d.deviceInfo = some (saveKnownDevice md5 saver d.savedName d.mac) := by
  simp [approve, d.getDeviceName_deviceInfo, d.getDeviceMac_deviceInfo]

/-! ## Two devices -/

/-- A save under the name of a device decides by its own digest, and any other save not at all. -/
theorem isKnownDevice_saveKnownDevice_iff (hmd5 : ∀ mac, md5 mac ≠ [])
    {deviceName mac deviceName' mac' : JString} :
    isKnownDevice md5 (saveKnownDevice md5 saver deviceName' mac') deviceName mac = true ↔
      if deviceName' = deviceName then md5 mac' = md5 mac
      else isKnownDevice md5 saver deviceName mac = true := by
  rw [isKnownDevice_iff]
  split
  · rename_i hname
    simp [saveKnownDevice, hname, createEncrypyMac_eq_iff, hmd5]
  · rename_i hname
    rw [isKnownDevice_iff, saveKnownDevice, Function.update_of_ne (Ne.symm hname)]

/-- A device is remembered if what was last saved under its name has its digest. -/
theorem isKnownDevice_saveAll_savedName_iff (hmd5 : ∀ mac, md5 mac ≠ [])
    (saves : List (JString × JString)) (d : Device) :
    isKnownDevice md5 (saveAll md5 saves) d.savedName d.mac = true ↔
      ∃ mac, LastWrite.Last saves d.savedName mac ∧ md5 mac = md5 d.mac := by
  rw [isKnownDevice_iff, saveAll_eq_some_iff]
  simp only [createEncrypyMac_eq_iff, ne_eq, hmd5, not_false_eq_true, and_true]

/-- After more saves a device is still remembered at each point if and only if all of them that
were made under its name have its digest. -/
theorem remembered_iff (hmd5 : ∀ mac, md5 mac ≠ []) {saves : List (JString × JString)}
    {d : Device} (h : isKnownDevice md5 (saveAll md5 saves) d.savedName d.mac = true)
    (later : List (JString × JString)) :
    (∀ before, before <+: later →
        isKnownDevice md5 (saveAll md5 (saves ++ before)) d.savedName d.mac = true) ↔
      ∀ e ∈ later, e.1 = d.savedName → md5 e.2 = md5 d.mac := by
  induction later using List.reverseRecOn with
  | nil =>
      simpa using h
  | append_singleton later e ih =>
      have hlast : isKnownDevice md5 (saveAll md5 (saves ++ (later ++ [e]))) d.savedName d.mac =
          isKnownDevice md5 (saveKnownDevice md5 (saveAll md5 (saves ++ later)) e.1 e.2)
            d.savedName d.mac := by
        simp [saveAll]
      simp only [List.prefix_concat_iff, forall_eq_or_imp, List.forall_mem_append,
        List.forall_mem_singleton]
      rw [ih, hlast, isKnownDevice_saveKnownDevice_iff hmd5, and_comm]
      refine and_congr_right fun hlater => ?_
      have hkept := (ih.mpr hlater) later (List.prefix_refl later)
      by_cases hname : e.1 = d.savedName <;> simp [hname, hkept]

/-- The approval of one device leaves the answer for another as it is if and only if they do
not share an entry or it overwrites no other digest; a remembered device stays remembered as
long as nothing else is saved under its name. -/
theorem approval_keeps_answer_iff (md5 : JString → List UInt8) (hmd5 : ∀ mac, md5 mac ≠ [])
    (saves : List (JString × JString)) (d d' : Device) :
    ((∃ saver, approve md5 (saveAll md5 saves) d'.deviceInfo = some saver ∧
        storeAnswer md5 saver d.deviceInfo =
          storeAnswer md5 (saveAll md5 saves) d.deviceInfo) ↔
      (d.SharesEntry d' → (md5 d'.mac = md5 d.mac ↔
        ∃ mac, LastWrite.Last saves d.savedName mac ∧ md5 mac = md5 d.mac))) ∧
    (storeAnswer md5 (saveAll md5 saves) d.deviceInfo = some true →
      ∀ later : List (JString × JString),
        (∀ before, before <+: later →
          storeAnswer md5 (saveAll md5 (saves ++ before)) d.deviceInfo = some true) ↔
        ∀ e ∈ later, e.1 = d.savedName → md5 e.2 = md5 d.mac) := by
  simp only [storeAnswer_deviceInfo, approve_deviceInfo, Option.some.injEq, exists_eq_left']
  refine ⟨?_, fun h later => remembered_iff hmd5 h later⟩
  rw [← d.savedName_eq_iff, Bool.eq_iff_iff, isKnownDevice_saveKnownDevice_iff hmd5,
    ← isKnownDevice_saveAll_savedName_iff hmd5]
  by_cases hname : d'.savedName = d.savedName
  · simp [hname]
  · simp [hname, Ne.symm hname]

/-- Two devices of one kind, and one of another. -/
def firstDevice : Device := ⟨lit "htc one", lit "0016eb334455", by decide, by decide⟩

def secondDevice : Device := ⟨lit "htc one", lit "f0761c334455", by decide, by decide⟩

def otherDevice : Device := ⟨lit "nexus 4", lit "a0b1c2667788", by decide, by decide⟩

/-- The digests of their macs. -/
def md5OfDevices (mac : JString) : List UInt8 :=
  if mac = firstDevice.mac then
    [0xe2, 0xac, 0x5b, 0x0a, 0x82, 0x2b, 0x82, 0xd3,
      0xd7, 0xc0, 0x0e, 0x62, 0x4d, 0x6c, 0xcf, 0x05]
  else if mac = secondDevice.mac then
    [0x56, 0xd4, 0x16, 0x22, 0xfc, 0x11, 0xe6, 0x42,
      0xe1, 0xd8, 0xc5, 0xfa, 0x24, 0xe3, 0xb7, 0xd5]
  else
    [0x46, 0xe3, 0x69, 0xe1, 0xc3, 0x6b, 0xb6, 0x27,
      0x41, 0x6f, 0x91, 0xe8, 0x1d, 0xb0, 0x88, 0x4e]

theorem md5OfDevices_ne_nil (mac : JString) : md5OfDevices mac ≠ [] := by
  unfold md5OfDevices
  split_ifs <;> simp

/-- The first device is known, and stays so when the other one is approved. -/
theorem approval_keeps_answer_iff_other :
    ∃ saver, approve md5OfDevices
        (saveAll md5OfDevices [(firstDevice.savedName, firstDevice.mac)])
        otherDevice.deviceInfo = some saver ∧
      storeAnswer md5OfDevices saver firstDevice.deviceInfo =
        storeAnswer md5OfDevices
          (saveAll md5OfDevices [(firstDevice.savedName, firstDevice.mac)])
          firstDevice.deviceInfo := by
  have hother : ¬firstDevice.SharesEntry otherDevice := by
    rintro ⟨-, hsuffix⟩
    exact absurd hsuffix (by decide)
  exact (approval_keeps_answer_iff md5OfDevices md5OfDevices_ne_nil _ firstDevice
    otherDevice).1.mpr fun hshares => absurd hshares hother

/-- The first device is forgotten once the second is approved. -/
theorem second_device_forgets_first :
    ¬ ∀ (saves : List (JString × JString)) (d d' : Device), d.mac ≠ d'.mac →
      ∀ saver, approve md5OfDevices (saveAll md5OfDevices saves) d'.deviceInfo = some saver →
        storeAnswer md5OfDevices saver d.deviceInfo =
          storeAnswer md5OfDevices (saveAll md5OfDevices saves) d.deviceInfo := by
  intro h
  have hkept := h [(firstDevice.savedName, firstDevice.mac)] firstDevice secondDevice (by decide)
    _ (approve_deviceInfo secondDevice)
  exact absurd hkept (by decide)

end Collaboration.Authorize
