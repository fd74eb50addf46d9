import Collaboration.Authorize.Semantics
import Collaboration.Library.LastWrite

/-! # What the known-device store knows

The text that `createEncrypyMac` makes of a digest determines the digest, so that a device is
known exactly when its mac is what was last saved under its name. -/

namespace Collaboration.Authorize

open JString

/-! ## The text of a digest -/

/-- The digit of a value below sixteen. -/
def hexDigit (n : ℕ) : UInt16 := UInt16.ofNat (if n < 10 then 48 + n else 87 + n)

/-- The text of one byte, padded to two digits. -/
def hexByte (bt : UInt8) : JString := [hexDigit (bt.toNat / 16), hexDigit (bt.toNat % 16)]

theorem hexByte_eq (bt : UInt8) :
    (if bt < 16 then lit "0" else []) ++ Utils.toHexString bt = hexByte bt := by
  unfold Utils.toHexString hexByte
  by_cases h : bt < 16
  · have hlt : bt.toNat < 16 := by simpa [UInt8.lt_iff_toNat_lt] using h
    simp [h, hexDigit, lit, Nat.div_eq_of_lt hlt, Nat.mod_eq_of_lt hlt]
  · simp [h, hexDigit]

theorem createEncrypyMac_eq (md5 : JString → List UInt8) (mac : JString) :
    Utils.createEncrypyMac md5 mac = (md5 mac).flatMap hexByte := by
  simp [Utils.createEncrypyMac, hexByte_eq]

theorem hexDigit_inj {m n : ℕ} (hm : m < 16) (hn : n < 16) (h : hexDigit m = hexDigit n) :
    m = n := by
  have hnat := congrArg UInt16.toNat h
  simp only [hexDigit, UInt16.toNat_ofNat'] at hnat
  split at hnat <;> split at hnat <;> omega

theorem hexByte_injective : Function.Injective hexByte := by
  intro a b h
  simp only [hexByte, List.cons.injEq, and_true] at h
  have ha := a.toNat_lt
  have hb := b.toNat_lt
  have hhigh := hexDigit_inj (by omega) (by omega) h.1
  have hlow := hexDigit_inj (by omega) (by omega) h.2
  rw [← UInt8.toNat_inj]
  omega

/-- Two macs with one text have one digest. -/
theorem createEncrypyMac_eq_iff {md5 : JString → List UInt8} {mac mac' : JString} :
    Utils.createEncrypyMac md5 mac = Utils.createEncrypyMac md5 mac' ↔ md5 mac = md5 mac' := by
  have hwidth : ∀ bt, (hexByte bt).length = 2 := fun _ => rfl
  rw [createEncrypyMac_eq, createEncrypyMac_eq]
  exact (FixedWidth.flatMap_injective (by decide) hwidth hexByte_injective).eq_iff

theorem createEncrypyMac_eq_nil_iff {md5 : JString → List UInt8} {mac : JString} :
    Utils.createEncrypyMac md5 mac = [] ↔ md5 mac = [] := by
  rw [createEncrypyMac_eq]
  cases md5 mac <;> simp [hexByte]

/-! ## The store after a sequence of saves -/

/-- The store after the calls of `saveKnownDevice` with the given names and macs. -/
def saveAll (md5 : JString → List UInt8) (saves : List (JString × JString)) : KnownDeviceSaver :=
  saves.foldl (fun saver e => saveKnownDevice md5 saver e.1 e.2) fun _ => none

theorem saveAll_eq_writeAll (md5 : JString → List UInt8) (saves : List (JString × JString)) :
    saveAll md5 saves =
      LastWrite.writeAll (fun _ => none)
        (saves.map fun e => (e.1, Utils.createEncrypyMac md5 e.2)) := by
  rw [LastWrite.writeAll, List.foldl_map]
  rfl

/-- The store holds the text of the mac that was last saved under a name. -/
theorem saveAll_eq_some_iff (md5 : JString → List UInt8) (saves : List (JString × JString))
    (deviceName text : JString) :
    saveAll md5 saves deviceName = some text ↔
      ∃ mac, LastWrite.Last saves deviceName mac ∧ Utils.createEncrypyMac md5 mac = text := by
  rw [saveAll_eq_writeAll, LastWrite.writeAll_eq_some_iff, LastWrite.last_map_iff]

theorem isKnownDevice_iff {md5 : JString → List UInt8} {saver : KnownDeviceSaver}
    {deviceName mac : JString} :
    isKnownDevice md5 saver deviceName mac = true ↔
      saver deviceName = some (Utils.createEncrypyMac md5 mac) ∧ md5 mac ≠ [] := by
  rw [ne_eq, ← createEncrypyMac_eq_nil_iff]
  cases h : saver deviceName with
  | none => simp [isKnownDevice, h, Utils.isEmpty]
  | some text =>
      have hknown : isKnownDevice md5 saver deviceName mac =
          (!(text == []) && some text == some (Utils.createEncrypyMac md5 mac)) := by
        rw [isKnownDevice, h, Utils.isEmpty]
        cases text == [] <;> rfl
      rw [hknown, Bool.and_eq_true, beq_iff_eq, Bool.not_eq_true', beq_eq_false_iff_ne, and_comm]
      refine and_congr_right fun heq => ?_
      rw [Option.some.inj heq]

/-- Among macs whose digests differ and are not empty, a device is known if and only if some
call saved under its name and the last such call was made with its mac. -/
theorem isKnownDevice_saveAll_iff (md5 : JString → List UInt8)
    (saves : List (JString × JString)) (deviceName mac : JString)
    (hcollision : ∀ e ∈ saves, md5 e.2 = md5 mac → e.2 = mac) (hdigest : md5 mac ≠ []) :
    isKnownDevice md5 (saveAll md5 saves) deviceName mac = true ↔
      ∃ before after, saves = before ++ (deviceName, mac) :: after ∧
        ∀ e ∈ after, e.1 ≠ deviceName := by
  rw [isKnownDevice_iff, saveAll_eq_some_iff]
  constructor
  · rintro ⟨⟨mac', hlast, htext⟩, -⟩
    obtain ⟨before, after, hsaves, -⟩ := id hlast
    obtain rfl := hcollision (deviceName, mac') (by simp [hsaves])
      (createEncrypyMac_eq_iff.mp htext)
    exact hlast
  · intro hlast
    exact ⟨⟨mac, hlast, rfl⟩, hdigest⟩

/-- The digests of two macs. -/
def md5OfTwo (mac : JString) : List UInt8 :=
  if mac = lit "00001" then
    [0x4c, 0x68, 0xce, 0xa7, 0xe5, 0x85, 0x91, 0xb5,
      0x79, 0xfd, 0x07, 0x4b, 0xcd, 0xaf, 0xf7, 0x40]
  else
    [0xdb, 0x72, 0x82, 0x90, 0x1d, 0xa8, 0x91, 0xbe,
      0xa2, 0xfc, 0xd7, 0x38, 0x40, 0xca, 0xad, 0x1c]

theorem isKnownDevice_saveAll_iff_two :
    isKnownDevice md5OfTwo
        (saveAll md5OfTwo [(lit "a", lit "00002"), (lit "a", lit "00001")])
        (lit "a") (lit "00001") = true ↔
      ∃ before after, [(lit "a", lit "00002"), (lit "a", lit "00001")] =
        before ++ (lit "a", lit "00001") :: after ∧ ∀ e ∈ after, e.1 ≠ lit "a" :=
  isKnownDevice_saveAll_iff md5OfTwo _ _ _ (by decide) (by decide)

end Collaboration.Authorize
