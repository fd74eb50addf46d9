import Collaboration.Protocol.Semantics

/-! # Phone messages survive the envelope

Every field is put and read under the same name and with the same type, in the envelope
and in the module object. -/

namespace Collaboration

open OrgJson JsonPacker

variable (J : OrgJson) (t : JString.CaseTable)

/-- A message as its receiver reads it: null strings have become empty. -/
def PhoneJson.readBack (p : PhoneJson) : PhoneJson where
  Module := some (p.Module.getD [])
  SubVersion := some (p.SubVersion.getD [])
  Serailno := some (p.Serailno.getD [])
  CardSlot := p.CardSlot
  CallType := p.CallType
  Connect := some (p.Connect.getD [])
  Status := some (p.Status.getD [])
  Name := some (p.Name.getD [])
  Number := some (p.Number.getD [])

/-- The envelope under module `Phone`. -/
def phoneCommonJson : CommonJson := CommonJson.new.setModule (some PHONE)

theorem getD_of_equalsIgnoreCase {t : JString.CaseTable} {a : JString} {b : Option JString}
    (h : t.equalsIgnoreCase a b = true) : some (b.getD []) = b := by
  cases b with
  | none => simp [JString.CaseTable.equalsIgnoreCase] at h
  | some b => rfl

/-! ## The module object -/

/-- The parser reads every field under the name and with the type that the packer gave it. -/
theorem parser_getPhoneJsonObject {p : PhoneJson}
    (h : t.equalsIgnoreCase PHONE p.Module = true) :
    parser J t (some (getPhoneJsonObject p)) = .ok (some p.readBack) := by
  have hmodule : J.optString (getPhoneJsonObject p) PhoneJSONConstant.MODULE =
      p.Module.getD [] := J.optString_of_map rfl
  have hversion : J.optString (getPhoneJsonObject p) PhoneJSONConstant.SUB_VERSION =
      p.SubVersion.getD [] := J.optString_of_map rfl
  have hslot : J.optInt (getPhoneJsonObject p) PhoneJSONConstant.CARD_SLOT = p.CardSlot :=
    J.optInt_of_integer rfl
  have htype : J.optInt (getPhoneJsonObject p) PhoneJSONConstant.CALL_TYPE = p.CallType :=
    J.optInt_of_integer rfl
  have hconnect : J.optString (getPhoneJsonObject p) PhoneJSONConstant.CONNECT =
      p.Connect.getD [] := J.optString_of_map rfl
  have hstatus : J.optString (getPhoneJsonObject p) PhoneJSONConstant.STATUS =
      p.Status.getD [] := J.optString_of_map rfl
  have hname : J.optString (getPhoneJsonObject p) PhoneJSONConstant.NAME =
      p.Name.getD [] := J.optString_of_map rfl
  have hnumber : J.optString (getPhoneJsonObject p) PhoneJSONConstant.NUMBER =
      p.Number.getD [] := J.optString_of_map rfl
  have hserial : J.optString (getPhoneJsonObject p) PhoneJSONConstant.SERIAL_NO =
      p.Serailno.getD [] := J.optString_of_map rfl
  have hphone : t.equalsIgnoreCase PHONE (some (p.Module.getD [])) = true := by
    rwa [getD_of_equalsIgnoreCase h]
  simp only [parser, hmodule, hversion, hslot, htype, hconnect, hstatus, hname, hnumber, hserial,
    hphone, if_true, PhoneJson.readBack]

/-! ## The envelope -/

theorem packToJson_getPhoneJsonObject {p : PhoneJson}
    (h : t.equalsIgnoreCase PHONE p.Module = true) :
    packToJson J t phoneCommonJson (some (getPhoneJsonObject p)) =
      .ok (J.toText (envelope phoneCommonJson (some (getPhoneJsonObject p)))) := by
  have hmodule : J.optString (getPhoneJsonObject p) CommonJSONConstant.MODULE =
      p.Module.getD [] := J.optString_of_map rfl
  have hphone : t.equalsIgnoreCase PHONE (some (p.Module.getD [])) = true := by
    rwa [getD_of_equalsIgnoreCase h]
  simp only [packToJson, phoneCommonJson, CommonJson.setModule, hmodule, hphone, if_true]

theorem parse_envelope {commJson : CommonJson} {moduleObj : JSONObject} {text : JString}
    (h : J.ofText text = some (envelope commJson (some moduleObj))) :
    JsonParser.parse J text = some
      { mCommObj := ⟨some (commJson.Version.getD []), some (commJson.Module.getD []), none⟩
        mModuleJSONObj := some moduleObj } := by
  have hversion : J.optString (envelope commJson (some moduleObj)) CommonJSONConstant.VERSION =
      commJson.Version.getD [] := J.optString_of_map rfl
  have hmodule : J.optString (envelope commJson (some moduleObj)) CommonJSONConstant.MODULE =
      commJson.Module.getD [] := J.optString_of_map rfl
  have hobj : optJSONObject (envelope commJson (some moduleObj)) CommonJSONConstant.MODULE_OBJ =
      some moduleObj := optJSONObject_of_object rfl
  simp only [JsonParser.parse, h, Option.map_some, hversion, hmodule, hobj, CommonJson.new]

/-- A message whose module is `Phone` up to case is packed, and its receiver reads the same
nine fields, if `JSONObject(text)` undoes `toString` on the envelope. -/
theorem phone_message_round_trip (p : PhoneJson)
    (hmodule : t.equalsIgnoreCase PHONE p.Module = true)
    (hinvert : J.ofText (J.toText (envelope phoneCommonJson (some (getPhoneJsonObject p)))) =
      some (envelope phoneCommonJson (some (getPhoneJsonObject p)))) :
    ∃ text combine, packToJson J t phoneCommonJson (some (getPhoneJsonObject p)) = .ok text ∧
      JsonParser.parse J text = some combine ∧
      combine.mCommObj.Module = some PHONE ∧
      parser J t combine.mModuleJSONObj = .ok (some p.readBack) :=
  ⟨_, _, packToJson_getPhoneJsonObject J t hmodule, parse_envelope J hinvert, rfl,
    parser_getPhoneJsonObject J t hmodule⟩

/-- An incoming call from a number without a contact and without a serial number. -/
def incomingCall : PhoneJson :=
  { PhoneJson.new with
    Module := some (JString.lit "PHONE")
    CallType := 5
    Number := some (JString.lit "10086") }

/-- `org.json` as far as one object and its text show it. -/
def OrgJson.only (text : JString) (o : JSONObject) : OrgJson where
  toText _ := text
  ofText s := if s = text then some o else none
  parseDouble _ := none

theorem OrgJson.only_inverts (text : JString) (o : JSONObject) :
    (OrgJson.only text o).ofText ((OrgJson.only text o).toText o) = some o :=
  if_pos rfl

theorem OrgJson.only_ofText (text : JString) (o : JSONObject) :
    (OrgJson.only text o).ofText text = some o :=
  if_pos rfl

/-- `org.json` where no text is written or read. -/
def noJson : OrgJson := ⟨fun _ => [], fun _ => none, fun _ => none⟩

def incomingCallText : JString :=
  JString.lit ("\x7b\"Version\":\"1.0\",\"Module\":\"Phone\",\"ModuleObj\":" ++
    "\x7b\"SubVersion\":\"1.0\",\"Module\":\"PHONE\",\"CardSlot\":1,\"CallType\":5," ++
    "\"Connect\":\"\",\"Status\":\"idle\",\"Name\":\"\",\"Number\":\"10086\"\x7d\x7d")

def incomingCallJson : OrgJson :=
  .only incomingCallText (envelope phoneCommonJson (some (getPhoneJsonObject incomingCall)))

theorem phone_message_round_trip_incomingCall :
    ∃ text combine, packToJson incomingCallJson .ascii phoneCommonJson
        (some (getPhoneJsonObject incomingCall)) = .ok text ∧
      JsonParser.parse incomingCallJson text = some combine ∧
      combine.mCommObj.Module = some PHONE ∧
      parser incomingCallJson .ascii combine.mModuleJSONObj = .ok (some incomingCall.readBack) :=
  phone_message_round_trip incomingCallJson .ascii incomingCall (by decide)
    (OrgJson.only_inverts incomingCallText _)

end Collaboration
