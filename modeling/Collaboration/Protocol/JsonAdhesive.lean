import Collaboration.Protocol.RoundTrip

/-! # The encoder and decoder of the phone protocol

`JsonAdhesive` packs a message as the applications do, but reads another object back than they
do: the `ModuleObj` of the envelope, which the parser never sets, in place of the module object
beside it. -/

namespace Collaboration.JsonAdhesive

open OrgJson JsonPacker

variable (J : OrgJson) (t : JString.CaseTable)

/-- `packJson`; nothing is packed of null. -/
def packJson : Option PhoneJson → Except JavaException JString
  | none => .error .nullPointer
  | some jsonObj =>
    packToJson J t ((CommonJson.new.setModule (some PHONE)).setModuleObj (some jsonObj))
      (some (getPhoneJsonObject jsonObj))

def parserPhoneJson (text : JString) : Option PhoneJson :=
  match JsonParser.parse J text with
  | none => none
  | some combineObj => combineObj.mCommObj.ModuleObj

/-- What is packed is read back as the same message. -/
def RoundTrips (p : PhoneJson) : Prop :=
  ∃ text, packJson J t (some p) = .ok text ∧ parserPhoneJson J text = some p

theorem parserPhoneJson_eq_none (text : JString) : parserPhoneJson J text = none := by
  unfold parserPhoneJson JsonParser.parse
  cases J.ofText text <;> rfl

/-- A phone message is packed, and the object that the applications read the message from is
there, but null is read. -/
theorem parserPhoneJson_packJson (p : PhoneJson) (h : t.equalsIgnoreCase PHONE p.Module = true)
    (hinvert : J.ofText (J.toText (envelope phoneCommonJson (some (getPhoneJsonObject p)))) =
      some (envelope phoneCommonJson (some (getPhoneJsonObject p)))) :
    ∃ text combine, packJson J t (some p) = .ok text ∧ JsonParser.parse J text = some combine ∧
      parser J t combine.mModuleJSONObj = .ok (some p.readBack) ∧
      parserPhoneJson J text = none :=
  ⟨_, _, packToJson_getPhoneJsonObject J t h, parse_envelope J hinvert,
    parser_getPhoneJsonObject J t h, parserPhoneJson_eq_none J _⟩

/-- No message is read back. -/
theorem never_round_trips (p : PhoneJson) : ¬ RoundTrips J t p := by
  rintro ⟨text, -, hparse⟩
  rw [parserPhoneJson_eq_none] at hparse
  cases hparse

/-- An incoming call with a serial number. -/
def ringingCall : PhoneJson := { incomingCall with Serailno := some (JString.lit "10086") }

def ringingCallText : JString :=
  JString.lit ("\x7b\"Version\":\"1.0\",\"Module\":\"Phone\",\"ModuleObj\":" ++
    "\x7b\"SubVersion\":\"1.0\",\"Module\":\"PHONE\",\"CardSlot\":1,\"CallType\":5," ++
    "\"Connect\":\"\",\"Status\":\"idle\",\"Name\":\"\",\"Number\":\"10086\"," ++
    "\"Serialno\":\"10086\"\x7d\x7d")

/-- `org.json` as far as the envelope of this call shows it. -/
def ringingCallJson : OrgJson :=
  .only ringingCallText (envelope phoneCommonJson (some (getPhoneJsonObject ringingCall)))

theorem ringing_call_is_not_read_back :
    JString.CaseTable.ascii.equalsIgnoreCase PHONE ringingCall.Module = true ∧
      ringingCall.readBack = ringingCall ∧
      ringingCallJson.ofText (ringingCallJson.toText
          (envelope phoneCommonJson (some (getPhoneJsonObject ringingCall)))) =
        some (envelope phoneCommonJson (some (getPhoneJsonObject ringingCall))) ∧
      ¬ RoundTrips ringingCallJson .ascii ringingCall := by
  refine ⟨by decide, rfl, OrgJson.only_inverts _ _, ?_⟩
  rintro ⟨text, -, hparse⟩
  rw [parserPhoneJson_eq_none] at hparse
  cases hparse

end Collaboration.JsonAdhesive
