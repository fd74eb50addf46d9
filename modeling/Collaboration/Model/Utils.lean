import Collaboration.Model.JavaString

/-! # The string helpers of `Utils`

Each fallible helper returns `none` where the source throws
`StringIndexOutOfBoundsException`. -/

namespace Collaboration.Utils

open JString

/-- `Utils.isEmpty`: null or the empty string. -/
def isEmpty (s : Option JString) : Bool :=
  match s with
  | none => true
  | some s => s == []

/-- The name with its blanks replaced, followed by the last five units of the mac. -/
def createDeviceName (deviceName mac : JString) : Option JString := do
  let id ← substringFrom mac (mac.length - 5)
  return replaceAll deviceName (unit ' ') (unit '_') ++ lit "_" ++ id

def createDeviceInfo (deviceName mac : JString) : Option JString := do
  let name ← createDeviceName deviceName mac
  return name ++ lit ":" ++ mac

def getDeviceName (deviceInfo : JString) : Option JString :=
  substring deviceInfo 0 (lastIndexOf deviceInfo (unit ':'))

def getDeviceMac (deviceInfo : JString) : Option JString :=
  substringFrom deviceInfo (lastIndexOf deviceInfo (unit ':') + 1)

/-- `Utils.changeIp`: what follows the last slash. -/
def changeIp (ip : JString) : Option JString :=
  if indexOf ip (unit '/') ≠ -1 then substringFrom ip (lastIndexOf ip (unit '/') + 1)
  else some ip

/-- `Integer.toHexString` of a byte. -/
def toHexString (bt : UInt8) : JString :=
  let digit (n : ℕ) : UInt16 := UInt16.ofNat (if n < 10 then 48 + n else 87 + n)
  if bt < 16 then [digit bt.toNat] else [digit (bt.toNat / 16), digit (bt.toNat % 16)]

/-- `Utils.createEncrypyMac`, where `md5` is the digest of the bytes of the mac. -/
def createEncrypyMac (md5 : JString → List UInt8) (mac : JString) : JString :=
  (md5 mac).flatMap fun bt => (if bt < 16 then lit "0" else []) ++ toHexString bt

end Collaboration.Utils
