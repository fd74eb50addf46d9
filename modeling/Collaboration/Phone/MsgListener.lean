import Collaboration.Protocol.Handling

/-! # The messages that wait for a handler

`PhoneMsgListener` with the handlers themselves. It keeps messages while there is no handler,
and `deliverMsg` empties its list whether there is one or not. -/

namespace Collaboration

open Transition

/-- `PhoneMsgListener`; `η` stands for the handlers. -/
structure MsgListener (η : Type) where
  jsonList : List (Option PhoneJson)
  mHandler : Option η
  /-- history: what was posted, with the handler it was posted to -/
  posted : List (η × Option PhoneJson)
  /-- history: the parsed messages in the order of their arrival -/
  parsed : List (Option PhoneJson)

namespace MsgListener

variable {η : Type}

def new : MsgListener η := ⟨[], none, [], []⟩

def updateState (l : MsgListener η) (jsonObj : Option PhoneJson) : MsgListener η :=
  match l.mHandler with
  | some handler => { l with posted := l.posted ++ [(handler, jsonObj)] }
  | none => l

/-- The loop of `deliverMsg` over the messages that are left in `jsonList`. -/
def deliverAll : List (Option PhoneJson) → MsgListener η → MsgListener η
  | [], l => l
  | jsonObj :: jsonList, l =>
    deliverAll jsonList ({ l with jsonList := jsonList }.updateState jsonObj)

def deliverMsg (l : MsgListener η) : MsgListener η := deliverAll l.jsonList l

def setHandler (l : MsgListener η) (handler : Option η) : MsgListener η :=
  { l with mHandler := handler }.deliverMsg

/-- `onMessage`; without a handler the service that sets one is started. A message that the
parser refuses is thrown out. -/
def onMessage (J : OrgJson) (t : JString.CaseTable) (l : MsgListener η)
    (dataObj : Option JSONObject) : Except JavaException (MsgListener η) :=
  match parser J t dataObj with
  | .error e => .error e
  | .ok phoneJsonObj =>
    let l := { l with
      jsonList := l.jsonList ++ [phoneJsonObj]
      parsed := l.parsed ++ [phoneJsonObj] }
    .ok (if l.mHandler.isSome then l.deliverMsg else l)

inductive Label (η : Type) where
  | onMessage (dataObj : Option JSONObject)
  | setHandler (handler : Option η)

/-- An exception of `onMessage` leaves the listener as it is. -/
def step (J : OrgJson) (t : JString.CaseTable) (l : MsgListener η) :
    Label η → Option (MsgListener η)
  | .onMessage dataObj => some ((l.onMessage J t dataObj).toOption.getD l)
  | .setHandler handler => some (l.setHandler handler)

/-- Nothing is lost, duplicated or reordered, and nothing waits while there is a handler. -/
structure Exact (l : MsgListener η) : Prop where
  posted_append : l.posted.map (·.2) ++ l.jsonList = l.parsed
  jsonList_of_handler : l.mHandler.isSome = true → l.jsonList = []

/-- No message waits when the handler is cleared. -/
def ClearedEmpty (l : MsgListener η) (a : Label η) (_ : MsgListener η) : Prop :=
  match a with
  | .setHandler none => l.jsonList = []
  | _ => True

variable {J : OrgJson} {t : JString.CaseTable} {l : MsgListener η}

theorem exact_new : Exact (new : MsgListener η) := ⟨rfl, fun _ => rfl⟩

theorem deliverAll_of_handler {handler : η} (h : l.mHandler = some handler)
    (jsonList : List (Option PhoneJson)) :
    deliverAll jsonList { l with jsonList := jsonList } =
      { l with jsonList := [], posted := l.posted ++ jsonList.map (handler, ·) } := by
  induction jsonList generalizing l with
  | nil => simp [deliverAll]
  | cons jsonObj jsonList ih =>
      have hnext := ih (l := { l with posted := l.posted ++ [(handler, jsonObj)] }) h
      simpa [deliverAll, updateState, h] using hnext

/-- Without a handler the loop throws the messages away. -/
theorem deliverAll_of_none (h : l.mHandler = none) (jsonList : List (Option PhoneJson)) :
    deliverAll jsonList { l with jsonList := jsonList } = { l with jsonList := [] } := by
  induction jsonList generalizing l with
  | nil => rfl
  | cons jsonObj jsonList ih =>
      have hnext := ih h
      simpa [deliverAll, updateState, h] using hnext

theorem deliverMsg_of_handler {handler : η} (h : l.mHandler = some handler) :
    l.deliverMsg =
      { l with jsonList := [], posted := l.posted ++ l.jsonList.map (handler, ·) } :=
  deliverAll_of_handler h l.jsonList

theorem deliverMsg_of_none (h : l.mHandler = none) : l.deliverMsg = { l with jsonList := [] } :=
  deliverAll_of_none h l.jsonList

theorem setHandler_some (handler : η) :
    l.setHandler (some handler) =
      { l with
        mHandler := some handler
        jsonList := []
        posted := l.posted ++ l.jsonList.map (handler, ·) } :=
  deliverMsg_of_handler rfl

theorem setHandler_none : l.setHandler none = { l with mHandler := none, jsonList := [] } :=
  deliverMsg_of_none rfl

section Parsed

variable {dataObj : Option JSONObject} {phoneJsonObj : Option PhoneJson}
  (hparse : parser J t dataObj = .ok phoneJsonObj)

include hparse

theorem onMessage_of_handler {handler : η} (h : l.mHandler = some handler) :
    l.onMessage J t dataObj = .ok
      { l with
        jsonList := []
        posted := l.posted ++ (l.jsonList ++ [phoneJsonObj]).map (handler, ·)
        parsed := l.parsed ++ [phoneJsonObj] } := by
  simp only [onMessage, hparse, h, Option.isSome_some, if_true]
  exact congrArg _ (deliverMsg_of_handler rfl)

theorem onMessage_of_none (h : l.mHandler = none) :
    l.onMessage J t dataObj = .ok
      { l with
        jsonList := l.jsonList ++ [phoneJsonObj]
        parsed := l.parsed ++ [phoneJsonObj] } := by
  simp [onMessage, hparse, h]

end Parsed

/-! ## The listener with or without a handler -/

/-- Which handler it is does not matter to the list. -/
def toPhoneMsgListener (l : MsgListener η) : PhoneMsgListener :=
  ⟨l.jsonList, l.mHandler.isSome, l.posted.map (·.2)⟩

theorem toPhoneMsgListener_setHandler (handler : Option η) :
    (l.setHandler handler).toPhoneMsgListener =
      l.toPhoneMsgListener.setHandler handler.isSome := by
  cases handler with
  | none => rw [setHandler_none]; rfl
  | some handler =>
      rw [setHandler_some]
      simp [toPhoneMsgListener, PhoneMsgListener.setHandler, PhoneMsgListener.deliverMsg,
        Function.comp_def]

theorem toPhoneMsgListener_onMessage (dataObj : Option JSONObject) :
    (l.onMessage J t dataObj).map toPhoneMsgListener =
      l.toPhoneMsgListener.onMessage J t dataObj := by
  cases hparse : parser J t dataObj with
  | error e => simp [onMessage, PhoneMsgListener.onMessage, hparse, Except.map]
  | ok phoneJsonObj =>
      cases h : l.mHandler with
      | none =>
          rw [onMessage_of_none hparse h]
          simp [PhoneMsgListener.onMessage, hparse, toPhoneMsgListener, h, Except.map]
      | some handler =>
          rw [onMessage_of_handler hparse h]
          simp [PhoneMsgListener.onMessage, hparse, toPhoneMsgListener, h, Except.map,
            Function.comp_def]

/-! ## Runs -/

/-- A message is posted or waits, whether there is a handler or not. -/
theorem Exact.onMessage (h : Exact l) {dataObj : Option JSONObject} {m : MsgListener η}
    (hm : l.onMessage J t dataObj = .ok m) : Exact m := by
  cases hparse : parser J t dataObj with
  | error e => simp [MsgListener.onMessage, hparse] at hm
  | ok phoneJsonObj =>
      cases hhandler : l.mHandler with
      | none =>
          rw [onMessage_of_none hparse hhandler, Except.ok.injEq] at hm
          obtain rfl := hm
          refine ⟨?_, by simp [hhandler]⟩
          rw [← h.posted_append, List.append_assoc]
      | some handler =>
          rw [onMessage_of_handler hparse hhandler, Except.ok.injEq] at hm
          obtain rfl := hm
          refine ⟨?_, fun _ => rfl⟩
          simp [← h.posted_append, Function.comp_def]

/-- To clear the handler loses exactly what waits. -/
theorem Exact.setHandler_iff (h : Exact l) (handler : Option η) :
    Exact (l.setHandler handler) ↔ (handler = none → l.jsonList = []) := by
  cases handler with
  | some handler =>
      rw [setHandler_some]
      refine iff_of_true ⟨?_, fun _ => rfl⟩ (by simp)
      simp [← h.posted_append, Function.comp_def]
  | none =>
      rw [setHandler_none]
      constructor
      · intro hexact _
        have hposted := hexact.posted_append
        rw [← h.posted_append, List.append_cancel_left_eq] at hposted
        exact hposted.symm
      · intro hempty
        refine ⟨?_, fun _ => rfl⟩
        rw [← h.posted_append, hempty rfl]

theorem Exact.step_iff (h : Exact l) {a : Label η} {m : MsgListener η}
    (hs : l.step J t a = some m) : Exact m ↔ ClearedEmpty l a m := by
  cases a with
  | setHandler handler =>
      obtain rfl := Option.some.inj hs
      rw [h.setHandler_iff]
      cases handler <;> simp [ClearedEmpty]
  | onMessage dataObj =>
      refine iff_of_true ?_ trivial
      obtain rfl := Option.some.inj hs
      cases hm : l.onMessage J t dataObj with
      | error e => exact h
      | ok m => exact h.onMessage hm

/-- However messages arrive while handlers are set and cleared, what was posted and what waits
are at any time exactly the parsed messages in their order if and only if no handler is
cleared while a message waits. -/
theorem messages_kept_iff (J : OrgJson) (t : JString.CaseTable) (ls : List (Label η)) :
    Along (step J t) (fun _ _ m => Exact m) new ls ↔ Along (step J t) ClearedEmpty new ls := by
  refine along_congr (I := Exact) ?_ ?_ exact_new ls
  · exact fun _ _ _ _ _ hexact => hexact
  · exact fun _ _ _ h hs => h.step_iff hs

/-- A message arrives, and the handler that is not there is cleared. -/
theorem cleared_handler_loses_message :
    ¬ ∀ (J : OrgJson) (t : JString.CaseTable) (ls : List (Label Unit)),
      Along (step J t) (fun _ _ m => Exact m) new ls := by
  intro h
  have hrun := h noJson .ascii
    [.onMessage (some (getPhoneJsonObject incomingCall)), .setHandler none]
  rw [along_cons_of_step rfl, along_cons_of_step rfl] at hrun
  have hposted := hrun.2.1.posted_append
  exact absurd hposted (by decide)

end MsgListener

end Collaboration
