import Collaboration.Phone.Messages

/-! # The order to answer a call

The server looks its network information up under the number `0`, while the connections are
recorded under the names of their threads. -/

namespace Collaboration

open CollaborationService Transition

namespace Server

variable (J : OrgJson) (t : JString.CaseTable) (mModuleMap : List JString)

/-- What the service orders when the string is delivered; `none` is an exception. -/
def ordersOf (s : Server) (data : JString) : Option (List Order) :=
  match onDeliverData J mModuleMap data with
  | none => some []
  | some dataObj =>
    match CollaborationService.onMessage J t s.getNetWorkInfo dataObj with
    | .ok action => some (orders action)
    | .error _ => none

/-- The string is a phone message with call type `ACTIVE`. -/
def IsActiveCall (data : JString) : Prop :=
  ∃ dataObj p, onDeliverData J mModuleMap data = some dataObj ∧
    parser J t dataObj = .ok (some p) ∧ Call.numToState p.CallType = .ACTIVE

/-- The audio is started towards the remote IP recorded for the connection, and the call is
answered. -/
def AnswersFor (s : Server) (c : ℕ) (data : JString) : Prop :=
  ∃ name info os, (s.connections c).mThreadName = some name ∧
    s.mNetWorkInfos.lookup name = some info ∧ s.ordersOf J t mModuleMap data = some os ∧
    List.Sublist [.setRemoteIP info.mRemoteIp, .startAudio, .answerCall] os

/-- `getNetWorkInfo` returns an entry of `mNetWorkInfos` when there is one. -/
def KnowsConnection (s : Server) : Prop :=
  s.mNetWorkInfos.entries ≠ [] →
    ∃ e ∈ s.mNetWorkInfos.entries, s.getNetWorkInfo = some e.2

theorem getNetWorkInfo_eq_none (s : Server) : s.getNetWorkInfo = none := rfl

theorem knowsConnection_iff (s : Server) : s.KnowsConnection ↔ s.mNetWorkInfos.entries = [] := by
  simp [KnowsConnection, getNetWorkInfo_eq_none]

/-- The service throws on the way to the remote IP, before it orders anything. -/
theorem ordersOf_of_isActiveCall (s : Server) {data : JString}
    (h : IsActiveCall J t mModuleMap data) : s.ordersOf J t mModuleMap data = none := by
  obtain ⟨dataObj, p, hdata, hparse, hactive⟩ := h
  simp [ordersOf, hdata, CollaborationService.onMessage, hparse, hactive,
    getNetWorkInfo_eq_none]

/-- Whatever clients are connected, an order to answer a call answers none, ends in an
exception, and no connection that is recorded is found. -/
theorem active_call_is_never_answered (s : Server) (c : ℕ) {data : JString}
    (h : IsActiveCall J t mModuleMap data) :
    ¬ s.AnswersFor J t mModuleMap c data ∧ s.ordersOf J t mModuleMap data = none ∧
      (s.mNetWorkInfos.entries ≠ [] → ¬ s.KnowsConnection) := by
  have hnone := s.ordersOf_of_isActiveCall J t mModuleMap h
  refine ⟨?_, hnone, fun hentries => mt s.knowsConnection_iff.mp hentries⟩
  rintro ⟨name, info, os, -, -, hos, -⟩
  rw [hnone] at hos
  cases hos

/-! ## A client accepts a call -/

/-- What `InCallUIService.acceptCall` sends for the call from `10086`. -/
def acceptedCall : PhoneJson := InCallUIService.phoneJson .ACTIVE (some (JString.lit "10086"))

def acceptedCallText : JString :=
  JString.lit ("\x7b\"Version\":\"1.0\",\"Module\":\"Phone\",\"ModuleObj\":" ++
    "\x7b\"SubVersion\":\"1.0\",\"Module\":\"Phone\",\"CardSlot\":1,\"CallType\":1," ++
    "\"Connect\":\"\",\"Status\":\"idle\",\"Name\":\"\",\"Number\":\"\"," ++
    "\"Serialno\":\"10086\"\x7d\x7d")

def acceptedCallJson : OrgJson := .only acceptedCallText (phoneEnvelope acceptedCall)

theorem isActiveCall_acceptedCall :
    IsActiveCall acceptedCallJson .ascii [PHONE] acceptedCallText := by
  have hdata := onDeliverData_phoneEnvelope acceptedCallJson (List.mem_singleton_self PHONE)
    (OrgJson.only_ofText acceptedCallText (phoneEnvelope acceptedCall))
  exact ⟨_, _, hdata, parser_phoneJson acceptedCallJson .ascii rfl, by decide⟩

theorem active_call_is_never_answered_acceptedCall :
    ¬ connectedServer.AnswersFor acceptedCallJson .ascii [PHONE] 0 acceptedCallText ∧
      connectedServer.ordersOf acceptedCallJson .ascii [PHONE] acceptedCallText = none ∧
      (connectedServer.mNetWorkInfos.entries ≠ [] → ¬ connectedServer.KnowsConnection) :=
  active_call_is_never_answered _ _ _ connectedServer 0 isActiveCall_acceptedCall

/-- The only client of a server accepts a call. -/
theorem accepted_call_is_not_answered :
    (∃ ls, exec (Server.step (.connectionImpl none true))
        (.init (.connectionImpl none true) fun _ => true) ls = some connectedServer) ∧
      connectedServer.mNetWorkInfos.entries.length = 1 ∧
      IsActiveCall acceptedCallJson .ascii [PHONE] acceptedCallText ∧
      ¬ connectedServer.AnswersFor acceptedCallJson .ascii [PHONE] 0 acceptedCallText ∧
      ¬ connectedServer.KnowsConnection := by
  have hentries : connectedServer.mNetWorkInfos.entries.length = 1 := by decide
  refine ⟨⟨_, (Option.some_get _).symm⟩, hentries, isActiveCall_acceptedCall, ?_, ?_⟩
  · rintro ⟨name, info, os, -, -, hos, -⟩
    rw [ordersOf_of_isActiveCall _ _ _ _ isActiveCall_acceptedCall] at hos
    cases hos
  · rw [knowsConnection_iff]
    intro hnil
    simp [hnil] at hentries

end Server

end Collaboration
