import Collaboration.Process.Registry

/-! # The names of modules

The packer and the parser of a module compare names without regard to case. The registry of
the listeners does not, and it is asked for the name that the sender gave. -/

namespace Collaboration

open JsonPacker

variable (J : OrgJson) (t : JString.CaseTable)

/-- The name in a module object. -/
def moduleName (obj : JSONObject) : JString := J.optString obj CommonJSONConstant.MODULE

/-- The object whose text is sent. -/
def sentEnvelope (module : JString) (obj : JSONObject) : JSONObject :=
  envelope (CommonJson.new.setModule (some module)) (some obj)

variable {J t} {module text : JString} {obj : JSONObject}

theorem sendData_eq_ok_iff :
    sendData J t module obj = .ok text ↔
      t.equalsIgnoreCase module (some (moduleName J obj)) = true ∧
        text = J.toText (sentEnvelope module obj) := by
  simp only [sendData, packToJson, CommonJson.setModule]
  split
  · rename_i hsame
    simp [moduleName, hsame, sentEnvelope, CommonJson.setModule, eq_comm]
  · rename_i hsame
    simp [moduleName, hsame]

/-- The parser of the phone module takes what the packer passes under its name. -/
theorem parser_ok_iff_sendData_ok :
    (∃ q, parser J t (some obj) = .ok q) ↔ ∃ text, sendData J t PHONE obj = .ok text := by
  simp only [sendData_eq_ok_iff, exists_and_left, exists_eq, and_true]
  have hname : J.optString obj PhoneJSONConstant.MODULE = moduleName J obj := rfl
  by_cases hphone : t.equalsIgnoreCase PHONE (some (moduleName J obj)) = true
  · obtain ⟨q, -, hq⟩ := parser_of_phone J t hphone
    exact iff_of_true ⟨_, hq⟩ hphone
  · refine iff_of_false ?_ hphone
    rintro ⟨q, hq⟩
    simp [parser, hname, hphone] at hq

namespace Process

/-- The listener of the sender's name is called with the object. -/
theorem deliver_sent (p : Process)
    (hinvert : J.ofText (J.toText (sentEnvelope module obj)) = some (sentEnvelope module obj)) :
    p.deliver J (J.toText (sentEnvelope module obj)) =
      (p.mModuleMap.lookup module).map fun listener => (listener, some obj) := by
  simp only [deliver, parse_envelope J hinvert]
  rfl

/-- What the packer passes reaches the listener that is registered under the name in the object
if and only if the sender gave the very same name or that listener is registered under the
sender's name too. The packer and the parser of the phone module agree. -/
theorem sent_reaches_listener_iff (p : Process) {listener : ℕ}
    (hsend : sendData J t module obj = .ok text)
    (hregistered : p.mModuleMap.lookup (moduleName J obj) = some listener)
    (hinvert : J.ofText (J.toText (sentEnvelope module obj)) = some (sentEnvelope module obj)) :
    (p.deliver J text = some (listener, some obj) ↔
        module = moduleName J obj ∨ p.mModuleMap.lookup module = some listener) ∧
      ((∃ q, parser J t (some obj) = .ok q) ↔ ∃ text, sendData J t PHONE obj = .ok text) := by
  obtain ⟨-, rfl⟩ := sendData_eq_ok_iff.mp hsend
  refine ⟨?_, parser_ok_iff_sendData_ok⟩
  rw [deliver_sent p hinvert]
  constructor
  · intro hdeliver
    obtain ⟨first, hfirst, heq⟩ := Option.map_eq_some_iff.mp hdeliver
    obtain ⟨rfl, -⟩ := Prod.mk.inj heq
    exact .inr hfirst
  · rintro (rfl | hlookup)
    · rw [hregistered, Option.map_some]
    · rw [hlookup, Option.map_some]

/-- A new phone message under a name of letters. -/
def phoneTextUnder (module : JString) : JString :=
  JString.lit "\x7b\"Version\":\"1.0\",\"Module\":\"" ++ module ++
    JString.lit ("\",\"ModuleObj\":\x7b\"SubVersion\":\"1.0\",\"Module\":\"Phone\"," ++
      "\"CardSlot\":1,\"CallType\":0,\"Connect\":\"\",\"Status\":\"idle\"," ++
      "\"Name\":\"\",\"Number\":\"\"\x7d\x7d")

/-- `org.json` on the envelope of this message. -/
def phoneJsonUnder (module : JString) : OrgJson :=
  .only (phoneTextUnder module) (sentEnvelope module (getPhoneJsonObject .new))

theorem sent_reaches_listener_iff_phone :
    (init.addListener PHONE 0).deliver (phoneJsonUnder PHONE) (phoneTextUnder PHONE) =
      some (0, some (getPhoneJsonObject .new)) :=
  (sent_reaches_listener_iff (t := .ascii) _ (sendData_eq_ok_iff.mpr ⟨by decide, rfl⟩) (by decide)
    (OrgJson.only_inverts _ _)).1.mpr (.inr (by decide))

/-- The sender writes the name in upper case. -/
theorem upper_case_name_drops_message :
    sendData (phoneJsonUnder (JString.lit "PHONE")) .ascii (JString.lit "PHONE")
        (getPhoneJsonObject .new) = .ok (phoneTextUnder (JString.lit "PHONE")) ∧
      (init.addListener PHONE 0).mModuleMap.lookup
        (moduleName (phoneJsonUnder (JString.lit "PHONE")) (getPhoneJsonObject .new)) = some 0 ∧
      (phoneJsonUnder (JString.lit "PHONE")).ofText (phoneTextUnder (JString.lit "PHONE")) =
        some (sentEnvelope (JString.lit "PHONE") (getPhoneJsonObject .new)) ∧
      (init.addListener PHONE 0).deliver (phoneJsonUnder (JString.lit "PHONE"))
        (phoneTextUnder (JString.lit "PHONE")) = none := by
  refine ⟨sendData_eq_ok_iff.mpr ⟨by decide, rfl⟩, by decide, OrgJson.only_ofText _ _, ?_⟩
  exact (deliver_sent (init.addListener PHONE 0) (OrgJson.only_inverts _ _)).trans rfl

end Process

end Collaboration
