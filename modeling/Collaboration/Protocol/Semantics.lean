import Collaboration.Model.JavaString
import Mathlib.Logic.Function.Basic

/-! # The JSON messages

The envelope of `JsonPacker` and `JsonParser`, and the module object of `PhoneJsonPacker`
and `PhoneJsonParser`, over the accessors of `org.json`. -/

namespace Collaboration

/-! ## `org.json` -/

/-- A value of a `JSONObject`. Of a number that is no `Integer` and of an array nothing is
read but its text and, for the number, its `intValue()`. -/
inductive Json where
  | null
  | bool (b : Bool)
  | integer (n : Int32)
  | number (text : JString) (intValue : Int32)
  | string (s : JString)
  | array (text : JString)
  | object (fields : JString → Option Json)

/-- A `JSONObject` is its map from names to values. -/
abbrev JSONObject := JString → Option Json

/-- What `org.json` and `Double.parseDouble` compute: the text of an object, the object of a
text (`none` is the `JSONException`), and `(int) Double.parseDouble(s)` (`none` is the
`NumberFormatException`). -/
structure OrgJson where
  toText : JSONObject → JString
  ofText : JString → Option JSONObject
  parseDouble : JString → Option Int32

namespace JSONObject

def empty : JSONObject := fun _ => none

/-- `put`; a null value removes the name. -/
def put (o : JSONObject) (name : JString) (value : Option Json) : JSONObject :=
  Function.update o name value

end JSONObject

namespace OrgJson

/-- `String.valueOf` of a value that is no string. -/
def valueOf (J : OrgJson) : Json → JString
  | .null => JString.lit "null"
  | .bool b => JString.lit (if b then "true" else "false")
  | .integer n => JString.lit (toString n.toInt)
  | .number text _ | .array text => text
  | .string s => s
  | .object o => J.toText o

def optString (J : OrgJson) (o : JSONObject) (name : JString) : JString :=
  match o name with
  | some value => J.valueOf value
  | none => []

def optInt (J : OrgJson) (o : JSONObject) (name : JString) : Int32 :=
  match o name with
  | some (.integer n) | some (.number _ n) => n
  | some (.string s) => (J.parseDouble s).getD 0
  | _ => 0

def optJSONObject (o : JSONObject) (name : JString) : Option JSONObject :=
  match o name with
  | some (.object fields) => some fields
  | _ => none

end OrgJson

/-- The unchecked exceptions that packing and handling a message can end in. -/
inductive JavaException where
  | nullPointer
  | moduleMismatch (detailMessage : JString)
  | module (detailMessage : JString)
  deriving DecidableEq, Repr

/-! ## The objects -/

def PHONE : JString := JString.lit "Phone"

structure PhoneJson where
  Module : Option JString
  SubVersion : Option JString
  Serailno : Option JString
  CardSlot : Int32
  CallType : Int32
  Connect : Option JString
  Status : Option JString
  Name : Option JString
  Number : Option JString
  deriving DecidableEq, Repr

def PhoneJson.new : PhoneJson where
  Module := some PHONE
  SubVersion := some (JString.lit "1.0")
  Serailno := none
  CardSlot := 1
  CallType := 0
  Connect := some []
  Status := some (JString.lit "idle")
  Name := some []
  Number := some []

/-- `CommonJson`; the only class of its `ModuleObj` is `PhoneJson`. -/
structure CommonJson where
  Version : Option JString
  Module : Option JString
  ModuleObj : Option PhoneJson
  deriving DecidableEq, Repr

def CommonJson.new : CommonJson := ⟨some (JString.lit "1.0"), some (JString.lit "unknow"), none⟩

def CommonJson.setModule (j : CommonJson) (module : Option JString) : CommonJson :=
  { j with Module := module }

def CommonJson.setModuleObj (j : CommonJson) (obj : Option PhoneJson) : CommonJson :=
  { j with ModuleObj := obj }

structure CommonModuleCombine where
  mCommObj : CommonJson
  mModuleJSONObj : Option JSONObject

/-! ## The envelope -/

namespace CommonJSONConstant

def VERSION : JString := JString.lit "Version"

def MODULE : JString := JString.lit "Module"

def MODULE_OBJ : JString := JString.lit "ModuleObj"

end CommonJSONConstant

namespace JsonPacker

/-- The object whose text `packToJson` returns. -/
def envelope (commJson : CommonJson) (moduleObj : Option JSONObject) : JSONObject :=
  ((JSONObject.empty.put CommonJSONConstant.VERSION (commJson.Version.map .string)).put
    CommonJSONConstant.MODULE (commJson.Module.map .string)).put
    CommonJSONConstant.MODULE_OBJ (moduleObj.map .object)

def packToJson (J : OrgJson) (t : JString.CaseTable) (commJson : CommonJson)
    (moduleObj : Option JSONObject) : Except JavaException JString :=
  match commJson.Module, moduleObj with
  | some module, some obj =>
    if t.equalsIgnoreCase module (some (J.optString obj CommonJSONConstant.MODULE)) then
      .ok (J.toText (envelope commJson moduleObj))
    else .error (.moduleMismatch (JString.lit "module name is mismatch"))
  | _, _ => .error .nullPointer

end JsonPacker

/-- `JsonParser.parse`; `none` is the `JSONException`. The `ModuleObj` stays null. -/
def JsonParser.parse (J : OrgJson) (jsonString : JString) : Option CommonModuleCombine :=
  (J.ofText jsonString).map fun json =>
    { mCommObj :=
        { CommonJson.new with
          Version := some (J.optString json CommonJSONConstant.VERSION)
          Module := some (J.optString json CommonJSONConstant.MODULE) }
      mModuleJSONObj := OrgJson.optJSONObject json CommonJSONConstant.MODULE_OBJ }

/-! ## The module object of a phone message -/

namespace PhoneJSONConstant

def SUB_VERSION : JString := JString.lit "SubVersion"

def MODULE : JString := JString.lit "Module"

def CARD_SLOT : JString := JString.lit "CardSlot"

def CALL_TYPE : JString := JString.lit "CallType"

def CONNECT : JString := JString.lit "Connect"

def STATUS : JString := JString.lit "Status"

def NAME : JString := JString.lit "Name"

def NUMBER : JString := JString.lit "Number"

def SERIAL_NO : JString := JString.lit "Serialno"

end PhoneJSONConstant

/-- `PhoneJsonPacker.getPhoneJsonObject`; no name is null, so nothing is thrown. -/
def getPhoneJsonObject (phoneJson : PhoneJson) : JSONObject :=
  JSONObject.empty
    |>.put PhoneJSONConstant.SUB_VERSION (phoneJson.SubVersion.map .string)
    |>.put PhoneJSONConstant.MODULE (phoneJson.Module.map .string)
    |>.put PhoneJSONConstant.CARD_SLOT (some (.integer phoneJson.CardSlot))
    |>.put PhoneJSONConstant.CALL_TYPE (some (.integer phoneJson.CallType))
    |>.put PhoneJSONConstant.CONNECT (phoneJson.Connect.map .string)
    |>.put PhoneJSONConstant.STATUS (phoneJson.Status.map .string)
    |>.put PhoneJSONConstant.NAME (phoneJson.Name.map .string)
    |>.put PhoneJSONConstant.NUMBER (phoneJson.Number.map .string)
    |>.put PhoneJSONConstant.SERIAL_NO (phoneJson.Serailno.map .string)

def parser (J : OrgJson) (t : JString.CaseTable) :
    Option JSONObject → Except JavaException (Option PhoneJson)
  | none => .ok none
  | some obj =>
    if t.equalsIgnoreCase PHONE (some (J.optString obj PhoneJSONConstant.MODULE)) then
      .ok (some
        { Module := some (J.optString obj PhoneJSONConstant.MODULE)
          SubVersion := some (J.optString obj PhoneJSONConstant.SUB_VERSION)
          Serailno := some (J.optString obj PhoneJSONConstant.SERIAL_NO)
          CardSlot := J.optInt obj PhoneJSONConstant.CARD_SLOT
          CallType := J.optInt obj PhoneJSONConstant.CALL_TYPE
          Connect := some (J.optString obj PhoneJSONConstant.CONNECT)
          Status := some (J.optString obj PhoneJSONConstant.STATUS)
          Name := some (J.optString obj PhoneJSONConstant.NAME)
          Number := some (J.optString obj PhoneJSONConstant.NUMBER) })
    else .error (.module (JString.lit "module error! current module is " ++ PHONE))

/-! ## What is read back -/

namespace JSONObject

@[simp] theorem put_self (o : JSONObject) (name : JString) (value : Option Json) :
    o.put name value name = value := by
  simp [put]

@[simp] theorem put_of_ne (o : JSONObject) {name name' : JString} (h : name' ≠ name)
    (value : Option Json) : o.put name value name' = o name' := by
  simp [put, h]

end JSONObject

namespace OrgJson

/-- A string field reads back as itself, and as the empty string where it was null. -/
theorem optString_of_map (J : OrgJson) {o : JSONObject} {name : JString} {s : Option JString}
    (h : o name = s.map .string) : J.optString o name = s.getD [] := by
  cases s <;> simp [optString, h, valueOf]

theorem optInt_of_integer (J : OrgJson) {o : JSONObject} {name : JString} {n : Int32}
    (h : o name = some (.integer n)) : J.optInt o name = n := by
  simp [optInt, h]

theorem optJSONObject_of_object {o fields : JSONObject} {name : JString}
    (h : o name = some (.object fields)) : optJSONObject o name = some fields := by
  simp [optJSONObject, h]

end OrgJson

end Collaboration
