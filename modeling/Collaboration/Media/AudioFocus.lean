import Collaboration.Library.Transition
import Collaboration.Library.LastWrite
import Mathlib.Data.Int.Notation
import Mathlib.Order.Nat

/-! # The audio focus

`MediaFocusControl.java`: a stack of requests, whose top holds the focus. The class of the
requesters is not part of the repository: what its methods answer is a parameter, and what is
called on the requesters is recorded. -/

namespace Collaboration

open Calls LastWrite Transition

/-- What a requester is made with. The number of its death handler tells the objects apart. -/
structure FocusRequester where
  focusGain : ℤ
  cb : ℕ
  clientId : String
  afdh : ℕ
  deriving DecidableEq

/-- The methods by which the stack asks a requester. -/
structure FocusRequester.Methods where
  hasSameClient : FocusRequester → String → Bool
  hasSameBinder : FocusRequester → ℕ → Bool
  getGainRequest : FocusRequester → ℤ

/-- They answer by what the requester was made with. -/
structure FocusRequester.Methods.Lawful (M : FocusRequester.Methods) : Prop where
  hasSameClient : ∀ fr clientId, M.hasSameClient fr clientId = decide (fr.clientId = clientId)
  hasSameBinder : ∀ fr cb, M.hasSameBinder fr cb = decide (fr.cb = cb)
  getGainRequest : ∀ fr, M.getGainRequest fr = fr.focusGain

/-- Methods that compare with what the requester was made with. -/
def FocusRequester.byArguments : FocusRequester.Methods where
  hasSameClient fr clientId := fr.clientId == clientId
  hasSameBinder fr cb := fr.cb == cb
  getGainRequest fr := fr.focusGain

theorem FocusRequester.lawful_byArguments : FocusRequester.byArguments.Lawful where
  hasSameClient _ _ := beq_eq_decide _ _
  hasSameBinder _ _ := beq_eq_decide _ _
  getGainRequest _ := rfl

/-- What is called on an entry of the stack, and that its request is granted. -/
inductive FocusMessage
  | granted
  | handleFocusGain (focusGain : ℤ)
  | handleExternalFocusGain (focusGain : ℤ)
  | handleFocusLoss (focusLoss : ℤ)
  | release
  deriving DecidableEq

/-- What the call is made for: that the entry has got the focus, or that it has lost it. -/
def FocusMessage.signals : FocusMessage → Option Bool
  | .granted | .handleFocusGain _ => some true
  | .handleExternalFocusGain _ | .handleFocusLoss _ => some false
  | .release => none

/-- The stack, its top first, the messages so far, and the number of death handlers. -/
structure MediaFocusControl where
  mFocusStack : List FocusRequester
  messages : List (ℕ × FocusMessage)
  handlers : ℕ
  unlinked : List ℕ
  deriving DecidableEq

namespace MediaFocusControl

def IN_VOICE_COMM_FOCUS_ID : String := "AudioFocus_For_Phone_Ring_And_Calls"

def AUDIOFOCUS_NONE : ℤ := 0
def AUDIOFOCUS_GAIN : ℤ := 1
def AUDIOFOCUS_LOSS : ℤ := -1
def AUDIOFOCUS_REQUEST_FAILED : ℤ := 0
def AUDIOFOCUS_REQUEST_GRANTED : ℤ := 1

def new : MediaFocusControl := ⟨[], [], 0, []⟩

/-- Calls the requesters one after the other. -/
def tell (s : MediaFocusControl) (frs : List FocusRequester) (m : FocusMessage) :
    MediaFocusControl :=
  { s with messages := s.messages ++ frs.map fun fr => (fr.afdh, m) }

def discardAudioFocusOwner (s : MediaFocusControl) : MediaFocusControl :=
  match s.mFocusStack with
  | [] => s
  | exFocusOwner :: rest =>
    ({ s with mFocusStack := rest }.tell [exFocusOwner] (.handleFocusLoss AUDIOFOCUS_LOSS)).tell
      [exFocusOwner] .release

variable (M : FocusRequester.Methods)

/-- Calls may be interrupted by other applications. -/
def canReassignAudioFocus (s : MediaFocusControl) : Bool :=
  match s.mFocusStack with
  | [] => true
  | fr :: _ => if M.hasSameClient fr IN_VOICE_COMM_FOCUS_ID then true else true

def notifyTopOfAudioFocusStack (s : MediaFocusControl) : MediaFocusControl :=
  match s.mFocusStack with
  | [] => s
  | fr :: _ =>
    if s.canReassignAudioFocus M then s.tell [fr] (.handleFocusGain AUDIOFOCUS_GAIN) else s

def propagateFocusLossFromGain_syncAf (s : MediaFocusControl) (focusGain : ℤ) :
    MediaFocusControl :=
  s.tell s.mFocusStack.reverse (.handleExternalFocusGain focusGain)

/-- Removes the entries of a client that is not on top. -/
def removeBelow (s : MediaFocusControl) (clientToRemove : String) : MediaFocusControl :=
  let removed := s.mFocusStack.filter fun fr => M.hasSameClient fr clientToRemove
  let s : MediaFocusControl :=
    { s with mFocusStack := s.mFocusStack.filter fun fr => !M.hasSameClient fr clientToRemove }
  s.tell removed.reverse .release

def removeFocusStackEntry (s : MediaFocusControl) (clientToRemove : String) (signal : Bool) :
    MediaFocusControl :=
  match s.mFocusStack with
  | [] => s
  | fr :: rest =>
    if M.hasSameClient fr clientToRemove then
      let s := { s with mFocusStack := rest }.tell [fr] .release
      -- notify the new top of the stack it gained focus
      if signal then s.notifyTopOfAudioFocusStack M else s
    else s.removeBelow M clientToRemove

def removeFocusStackEntryForClient (s : MediaFocusControl) (cb : ℕ) : MediaFocusControl :=
  let isTopOfStackForClientToRemove := s.mFocusStack.head?.any (M.hasSameBinder · cb)
  -- the client just died, no need to unlink to its death
  let s := { s with mFocusStack := s.mFocusStack.filter fun fr => !M.hasSameBinder fr cb }
  if isTopOfStackForClientToRemove then s.notifyTopOfAudioFocusStack M else s

def getCurrentAudioFocus (s : MediaFocusControl) : ℤ :=
  match s.mFocusStack with
  | [] => AUDIOFOCUS_NONE
  | fr :: _ => M.getGainRequest fr

/-- Takes the top off the stack. -/
def popTop (s : MediaFocusControl) (rest : List FocusRequester) (top : FocusRequester) :
    MediaFocusControl :=
  { s with mFocusStack := rest }.tell [top] .release

/-- Puts the requester on top of the stack, and the others off. -/
def pushRequester (s : MediaFocusControl) (fr : FocusRequester) : MediaFocusControl :=
  let s := s.removeFocusStackEntry M fr.clientId false
  let s := if s.mFocusStack ≠ [] then s.propagateFocusLossFromGain_syncAf fr.focusGain else s
  { s with mFocusStack := fr :: s.mFocusStack }.tell [fr] .granted

/-- A death handler for the next requester. -/
def newDeathHandler (s : MediaFocusControl) : MediaFocusControl :=
  { s with handlers := s.handlers + 1 }

/-- What the system says about a request: whether the client is alive, may take the focus, and
can be linked to. -/
structure Admission where
  pingBinder : Bool
  noteOp : Bool
  linkToDeath : Bool
  deriving DecidableEq

def requestAudioFocus (s : MediaFocusControl) (focusChangeHint : ℤ) (cb : ℕ) (clientId : String)
    (a : Admission) : MediaFocusControl × ℤ :=
  if !a.pingBinder then (s, AUDIOFOCUS_REQUEST_FAILED)
  else if !a.noteOp then (s, AUDIOFOCUS_REQUEST_FAILED)
  else if !s.canReassignAudioFocus M then (s, AUDIOFOCUS_REQUEST_FAILED)
  else
    let afdh := s.handlers
    let s := s.newDeathHandler
    if !a.linkToDeath then (s, AUDIOFOCUS_REQUEST_FAILED)
    else
      let fr : FocusRequester := ⟨focusChangeHint, cb, clientId, afdh⟩
      match s.mFocusStack with
      | [] => (s.pushRequester M fr, AUDIOFOCUS_REQUEST_GRANTED)
      | top :: rest =>
        if M.hasSameClient top clientId then
          if M.getGainRequest top = focusChangeHint then
            -- unlink death handler so it can be gc'ed.
            ({ s with unlinked := s.unlinked ++ [afdh] }.tell [top] .granted,
              AUDIOFOCUS_REQUEST_GRANTED)
          else
            -- the reason for the audio focus request has changed
            ((s.popTop rest top).pushRequester M fr, AUDIOFOCUS_REQUEST_GRANTED)
        else (s.pushRequester M fr, AUDIOFOCUS_REQUEST_GRANTED)

def abandonAudioFocus (s : MediaFocusControl) (clientId : String) : MediaFocusControl × ℤ :=
  (s.removeFocusStackEntry M clientId true, AUDIOFOCUS_REQUEST_GRANTED)

/-- What a request does: nothing, or the client that asks is on top afterwards. -/
inductive Requested (M : FocusRequester.Methods) (s : MediaFocusControl) (focusChangeHint : ℤ)
    (cb : ℕ) (clientId : String) (a : Admission) : MediaFocusControl → ℤ → Prop
  | failed {t : MediaFocusControl} (ha : (a.pingBinder && a.noteOp && a.linkToDeath) = false)
      (ht : t = s ∨ t = s.newDeathHandler) :
      Requested M s focusChangeHint cb clientId a t AUDIOFOCUS_REQUEST_FAILED
  | again {top : FocusRequester} {rest : List FocusRequester}
      (ha : (a.pingBinder && a.noteOp && a.linkToDeath) = true) (hs : s.mFocusStack = top :: rest)
      (hclient : top.clientId = clientId) (hgain : top.focusGain = focusChangeHint) :
      Requested M s focusChangeHint cb clientId a
        ({ s.newDeathHandler with unlinked := s.unlinked ++ [s.handlers] }.tell [top] .granted)
        AUDIOFOCUS_REQUEST_GRANTED
  | changed {top : FocusRequester} {rest : List FocusRequester}
      (ha : (a.pingBinder && a.noteOp && a.linkToDeath) = true) (hs : s.mFocusStack = top :: rest)
      (hclient : top.clientId = clientId) (hgain : top.focusGain ≠ focusChangeHint) :
      Requested M s focusChangeHint cb clientId a
        ((s.newDeathHandler.popTop rest top).pushRequester M
          ⟨focusChangeHint, cb, clientId, s.handlers⟩)
        AUDIOFOCUS_REQUEST_GRANTED
  | pushed (ha : (a.pingBinder && a.noteOp && a.linkToDeath) = true)
      (hs : ∀ top, s.mFocusStack.head? = some top → top.clientId ≠ clientId) :
      Requested M s focusChangeHint cb clientId a
        (s.newDeathHandler.pushRequester M ⟨focusChangeHint, cb, clientId, s.handlers⟩)
        AUDIOFOCUS_REQUEST_GRANTED

@[simp] theorem canReassignAudioFocus_eq (s : MediaFocusControl) :
    s.canReassignAudioFocus M = true := by
  unfold canReassignAudioFocus
  split
  · rfl
  · exact ite_self _

variable {M}

theorem requested (hM : M.Lawful) (s : MediaFocusControl) (focusChangeHint : ℤ) (cb : ℕ)
    (clientId : String) (a : Admission) : Requested M s focusChangeHint cb clientId a
      (s.requestAudioFocus M focusChangeHint cb clientId a).1
      (s.requestAudioFocus M focusChangeHint cb clientId a).2 := by
  obtain ⟨pingBinder, noteOp, linkToDeath⟩ := a
  cases pingBinder with
  | false => exact .failed rfl (.inl rfl)
  | true =>
      cases noteOp with
      | false => exact .failed rfl (.inl rfl)
      | true =>
          unfold requestAudioFocus
          simp only [canReassignAudioFocus_eq, Bool.not_true, Bool.false_eq_true, if_false]
          cases linkToDeath with
          | false => exact .failed rfl (.inr rfl)
          | true =>
              obtain ⟨stack, messages, handlers, unlinked⟩ := s
              cases stack with
              | nil => exact .pushed rfl (by simp)
              | cons top rest =>
                  simp only [newDeathHandler, hM.hasSameClient, hM.getGainRequest,
                    decide_eq_true_eq]
                  by_cases hclient : top.clientId = clientId
                  · by_cases hgain : top.focusGain = focusChangeHint
                    · simp only [hclient, hgain, if_true]
                      exact .again rfl rfl hclient hgain
                    · simp only [hclient, hgain, if_true, if_false]
                      exact .changed rfl rfl hclient hgain
                  · simp only [hclient, if_false]
                    exact .pushed rfl (by simpa using hclient)

variable (M)

def unregisterAudioFocusClient (s : MediaFocusControl) (clientId : String) : MediaFocusControl :=
  s.removeFocusStackEntry M clientId false

/-! ## Calls -/

/-- The calls of clients, of the system, and of the binder of a client that dies. -/
inductive Call
  | requestAudioFocus (focusChangeHint : ℤ) (cb : ℕ) (clientId : String) (a : Admission)
  | abandonAudioFocus (clientId : String)
  | unregisterAudioFocusClient (clientId : String)
  | discardAudioFocusOwner
  | binderDied (cb : ℕ)
  | getCurrentAudioFocus

def perform (s : MediaFocusControl) : Call → MediaFocusControl × ℤ
  | .requestAudioFocus focusChangeHint cb clientId a =>
    s.requestAudioFocus M focusChangeHint cb clientId a
  | .abandonAudioFocus clientId => s.abandonAudioFocus M clientId
  | .unregisterAudioFocusClient clientId => (s.unregisterAudioFocusClient M clientId, 0)
  | .discardAudioFocusOwner => (s.discardAudioFocusOwner, 0)
  | .binderDied cb => (s.removeFocusStackEntryForClient M cb, 0)
  | .getCurrentAudioFocus => (s, s.getCurrentAudioFocus M)

def step (s : MediaFocusControl) (call : Call) : Option MediaFocusControl :=
  some (s.perform M call).1

end MediaFocusControl

/-! ## The clients by their last grants -/

/-- A grant of the focus to a client. -/
structure FocusGrant where
  clientId : String
  cb : ℕ
  focusGain : ℤ
  deriving DecidableEq

/-- The grants in force, the latest first, at most one for each client. -/
structure FocusOrder where
  grants : List FocusGrant
  nodup : (grants.map (·.clientId)).Nodup

namespace FocusOrder

def empty : FocusOrder := ⟨[], List.nodup_nil⟩

/-- The grants that meet a condition. -/
def keep (f : FocusOrder) (cond : FocusGrant → Bool) : FocusOrder where
  grants := f.grants.filter cond
  nodup := f.nodup.sublist (List.filter_sublist.map _)

/-- A new grant, in place of an earlier one of the client. -/
def grant (f : FocusOrder) (g : FocusGrant) : FocusOrder where
  grants := g :: f.grants.filter fun h => h.clientId != g.clientId
  nodup := by
    refine List.nodup_cons.mpr ⟨?_, (f.keep _).nodup⟩
    simp

/-- The first client holds the focus, with this gain. -/
def holder (f : FocusOrder) : Option (String × ℤ) :=
  f.grants.head?.map fun g => (g.clientId, g.focusGain)

def perform (f : FocusOrder) : MediaFocusControl.Call → FocusOrder × ℤ
  | .requestAudioFocus focusChangeHint cb clientId a =>
    if a.pingBinder && a.noteOp && a.linkToDeath then
      (if f.holder = some (clientId, focusChangeHint) then f
        else f.grant ⟨clientId, cb, focusChangeHint⟩, 1)
    else (f, 0)
  | .abandonAudioFocus clientId => (f.keep (·.clientId != clientId), 1)
  | .unregisterAudioFocusClient clientId => (f.keep (·.clientId != clientId), 0)
  | .discardAudioFocusOwner =>
    (⟨f.grants.tail, f.nodup.sublist ((List.tail_sublist _).map _)⟩, 0)
  | .binderDied cb => (f.keep (·.cb != cb), 0)
  | .getCurrentAudioFocus => (f, (f.holder.map (·.2)).getD 0)

end FocusOrder

/-! ## The stack holds the grants in force -/

namespace MediaFocusControl

variable {M : FocusRequester.Methods} {s : MediaFocusControl} {f : FocusOrder}

def toGrant (fr : FocusRequester) : FocusGrant := ⟨fr.clientId, fr.cb, fr.focusGain⟩

@[simp] theorem tell_mFocusStack (s : MediaFocusControl) (frs : List FocusRequester)
    (m : FocusMessage) : (s.tell frs m).mFocusStack = s.mFocusStack := rfl

@[simp] theorem notifyTop_mFocusStack (s : MediaFocusControl) :
    (s.notifyTopOfAudioFocusStack M).mFocusStack = s.mFocusStack := by
  unfold notifyTopOfAudioFocusStack
  split
  · rfl
  · simp

/-- No client has two entries. -/
def Single (s : MediaFocusControl) : Prop := (s.mFocusStack.map (·.clientId)).Nodup

theorem removeFocusStackEntry_mFocusStack (hM : M.Lawful) (h : s.Single) (clientId : String)
    (signal : Bool) :
    (s.removeFocusStackEntry M clientId signal).mFocusStack =
      s.mFocusStack.filter fun fr => !M.hasSameClient fr clientId := by
  obtain ⟨stack, messages, handlers, unlinked⟩ := s
  cases stack with
  | nil => rfl
  | cons fr rest =>
      cases hsame : M.hasSameClient fr clientId with
      | false => simp [removeFocusStackEntry, removeBelow, hsame]
      | true =>
          -- The entry on top is the only one of the client.
          have hrest : rest.filter (fun fr => !M.hasSameClient fr clientId) = rest := by
            rw [List.filter_eq_self]
            intro other hother
            obtain ⟨hnew, -⟩ := List.nodup_cons.mp h
            have hne : other.clientId ≠ fr.clientId := by
              intro heq
              exact hnew (List.mem_map.mpr ⟨other, hother, heq⟩)
            have hfr : fr.clientId = clientId := by simpa [hM.hasSameClient] using hsame
            simpa [hM.hasSameClient, ← hfr] using hne
          rw [List.filter_cons_of_neg (by simp [hsame]), hrest]
          cases signal <;> simp [removeFocusStackEntry, hsame]

theorem pushRequester_mFocusStack (hM : M.Lawful) (h : s.Single) (fr : FocusRequester) :
    (s.pushRequester M fr).mFocusStack =
      fr :: s.mFocusStack.filter fun other => !M.hasSameClient other fr.clientId := by
  have hremove := removeFocusStackEntry_mFocusStack hM h fr.clientId false
  unfold pushRequester
  simp only [tell_mFocusStack]
  split <;> simp [propagateFocusLossFromGain_syncAf, hremove]

/-- The stack and the grants in force. -/
def Represents (s : MediaFocusControl) (f : FocusOrder) : Prop :=
  s.mFocusStack.map toGrant = f.grants

theorem Represents.single (h : Represents s f) : s.Single := by
  have hnodup := f.nodup
  rw [← h, List.map_map] at hnodup
  exact hnodup

theorem Represents.filter (h : Represents s f) {cond : FocusRequester → Bool}
    {cond' : FocusGrant → Bool} (hcond : ∀ fr, cond fr = cond' (toGrant fr)) :
    (s.mFocusStack.filter cond).map toGrant = f.grants.filter cond' := by
  rw [← h, List.filter_map]
  congr 2
  exact funext hcond

theorem Represents.keep_client (hM : M.Lawful) (h : Represents s f) (clientId : String)
    (signal : Bool) :
    Represents (s.removeFocusStackEntry M clientId signal) (f.keep (·.clientId != clientId)) := by
  unfold Represents
  rw [removeFocusStackEntry_mFocusStack hM h.single]
  apply h.filter
  intro fr
  rw [hM.hasSameClient]
  rfl

theorem Represents.push (hM : M.Lawful) (h : Represents s f) (fr : FocusRequester) :
    Represents (s.pushRequester M fr) (f.grant (toGrant fr)) := by
  unfold Represents
  rw [pushRequester_mFocusStack hM h.single, List.map_cons]
  congr 1
  apply h.filter
  intro other
  rw [hM.hasSameClient]
  rfl

/-- The top of the stack is the holder of the focus. -/
theorem Represents.holder_eq (h : Represents s f) :
    f.holder = s.mFocusStack.head?.map fun fr => (fr.clientId, fr.focusGain) := by
  rw [FocusOrder.holder, ← h, List.head?_map, Option.map_map]
  rfl

theorem Requested.represents (hM : M.Lawful) {focusChangeHint : ℤ} {cb : ℕ} {clientId : String}
    {a : Admission} {t : MediaFocusControl} {r : ℤ}
    (hr : Requested M s focusChangeHint cb clientId a t r)
    (h : Represents s f) :
    r = (f.perform (.requestAudioFocus focusChangeHint cb clientId a)).2 ∧
      Represents t (f.perform (.requestAudioFocus focusChangeHint cb clientId a)).1 := by
  cases hr with
  | failed ha ht =>
      rw [FocusOrder.perform, if_neg (by simp [ha])]
      rcases ht with rfl | rfl
      · exact ⟨rfl, h⟩
      · exact ⟨rfl, h⟩
  | @again top rest ha hs hclient hgain =>
      have hholder : f.holder = some (clientId, focusChangeHint) := by
        simp [h.holder_eq, hs, hclient, hgain]
      rw [FocusOrder.perform, if_pos ha, if_pos hholder]
      exact ⟨rfl, h⟩
  | @changed top rest ha hs hclient hgain =>
      have hholder : f.holder ≠ some (clientId, focusChangeHint) := by
        simp [h.holder_eq, hs, hclient, hgain]
      rw [FocusOrder.perform, if_pos ha, if_neg hholder]
      refine ⟨rfl, ?_⟩
      -- The rest of the stack holds the grants of the other clients.
      have hrest :
          Represents (s.newDeathHandler.popTop rest top) (f.keep (·.clientId != clientId)) := by
        have hkeep := h.keep_client hM clientId false
        unfold Represents at hkeep ⊢
        rw [← hkeep]
        simp [MediaFocusControl.removeFocusStackEntry, hs, hM.hasSameClient, hclient, popTop]
      have hpush := hrest.push hM ⟨focusChangeHint, cb, clientId, s.handlers⟩
      unfold Represents at hpush ⊢
      rw [hpush]
      simp [FocusOrder.grant, FocusOrder.keep, toGrant]
  | pushed ha hs =>
      have hholder : f.holder ≠ some (clientId, focusChangeHint) := by
        rw [h.holder_eq]
        intro hsome
        obtain ⟨top, htop, heq⟩ := Option.map_eq_some_iff.mp hsome
        exact hs top htop (congrArg Prod.fst heq)
      rw [FocusOrder.perform, if_pos ha, if_neg hholder]
      have hnew : Represents s.newDeathHandler f := h
      exact ⟨rfl, hnew.push hM ⟨focusChangeHint, cb, clientId, s.handlers⟩⟩

theorem refines (hM : M.Lawful) :
    Refines (fun s call => some (perform M s call)) FocusOrder.perform Represents := by
  intro s f call h
  cases call with
  | requestAudioFocus focusChangeHint cb clientId a =>
      obtain ⟨hr, ht⟩ := (requested hM s focusChangeHint cb clientId a).represents hM h
      exact ⟨_, by rw [← hr]; rfl, ht⟩
  | abandonAudioFocus clientId => exact ⟨_, rfl, h.keep_client hM clientId true⟩
  | unregisterAudioFocusClient clientId => exact ⟨_, rfl, h.keep_client hM clientId false⟩
  | discardAudioFocusOwner =>
      refine ⟨_, rfl, ?_⟩
      have htail : s.discardAudioFocusOwner.mFocusStack = s.mFocusStack.tail := by
        unfold MediaFocusControl.discardAudioFocusOwner
        split
        · next hs => simp [hs]
        · next hs => simp [hs]
      have hgrants : s.mFocusStack.map toGrant = f.grants := h
      simp only [Represents, htail, FocusOrder.perform, ← hgrants, List.map_tail]
  | binderDied cb =>
      refine ⟨_, rfl, ?_⟩
      have hfilter : (s.removeFocusStackEntryForClient M cb).mFocusStack =
          s.mFocusStack.filter fun fr => !M.hasSameBinder fr cb := by
        unfold removeFocusStackEntryForClient
        simp only
        split <;> simp
      simp only [Represents, hfilter]
      apply h.filter
      intro fr
      rw [hM.hasSameBinder]
      rfl
  | getCurrentAudioFocus =>
      refine ⟨s, ?_, h⟩
      simp only [perform, FocusOrder.perform, h.holder_eq]
      unfold MediaFocusControl.getCurrentAudioFocus
      split
      · next hs => simp [hs, AUDIOFOCUS_NONE]
      · next hs => simp [hs, hM.getGainRequest]

/-- Whatever is called, the stack is the grants in force with the latest on top, and each call
returns what they say. -/
theorem focus_by_latest_grant (hM : M.Lawful) (calls : List Call) :
    answers (fun s call => some (perform M s call)) new calls =
        some (replies FocusOrder.perform .empty calls) ∧
      ∃ s, exec (step M) new calls = some s ∧
        s.mFocusStack.map toGrant = (after FocusOrder.perform .empty calls).grants := by
  have hnew : Represents new .empty := rfl
  refine ⟨(refines hM).answers_eq hnew calls, ?_⟩
  have hrun : ∀ (calls : List Call) (s : MediaFocusControl) (f : FocusOrder), Represents s f →
      ∃ t, exec (step M) s calls = some t ∧ Represents t (after FocusOrder.perform f calls) := by
    intro calls
    induction calls with
    | nil => exact fun s f h => ⟨s, rfl, h⟩
    | cons call calls ih =>
        intro s f h
        obtain ⟨t, ht, hrep⟩ := refines hM s f call h
        have hstate : (perform M s call).1 = t := congrArg Prod.fst (Option.some.inj ht)
        rw [exec_cons, step, Option.bind_some, hstate]
        exact ih t _ hrep
  exact hrun calls new .empty hnew

/-- A player, and a navigator that interrupts it: when the player asks again it goes on top. -/
theorem focus_by_latest_grant_interrupted :
    let M := FocusRequester.byArguments
    let calls : List Call := [.requestAudioFocus 1 7 "player" ⟨true, true, true⟩,
      .requestAudioFocus 3 8 "navigator" ⟨true, true, true⟩, .getCurrentAudioFocus,
      .requestAudioFocus 2 7 "player" ⟨true, true, true⟩, .binderDied 7, .getCurrentAudioFocus]
    (answers (fun s call => some (perform M s call)) new calls =
        some (replies FocusOrder.perform .empty calls) ∧
      ∃ s, exec (step M) new calls = some s ∧
        s.mFocusStack.map toGrant = (after FocusOrder.perform .empty calls).grants) ∧
    replies FocusOrder.perform .empty calls = [1, 1, 3, 1, 0, 3] :=
  ⟨focus_by_latest_grant FocusRequester.lawful_byArguments _, by decide⟩

/-! ## Who was told last of having the focus -/

/-- What has been signalled to the entries: that they have got the focus, or lost it. -/
def told (s : MediaFocusControl) : List (ℕ × Bool) :=
  s.messages.filterMap fun m => m.2.signals.map (m.1, ·)

theorem told_tell (s : MediaFocusControl) (frs : List FocusRequester) {m : FocusMessage} {v : Bool}
    (hm : m.signals = some v) :
    (s.tell frs m).told = s.told ++ (frs.map (·.afdh)).map fun k => (k, v) := by
  simp [told, tell, List.filterMap_append, List.filterMap_map, Function.comp_def, hm,
    List.filterMap_eq_map']

@[simp] theorem told_tell_release (s : MediaFocusControl) (frs : List FocusRequester) :
    (s.tell frs .release).told = s.told := by
  simp [told, tell, FocusMessage.signals, List.filterMap_append, List.filterMap_map]

/-- The call takes the top away, and does not tell the next requester that it has the focus now. -/
def Uncovers (s : MediaFocusControl) : Call → Prop
  | .unregisterAudioFocusClient clientId =>
    ∃ top next rest, s.mFocusStack = top :: next :: rest ∧ top.clientId = clientId
  | .discardAudioFocusOwner => ∃ top next rest, s.mFocusStack = top :: next :: rest
  | _ => False

/-- What a call does to the stack, and who is told what. -/
inductive Moves (s : MediaFocusControl) (call : Call) : MediaFocusControl → Prop
  | keeps {t : MediaFocusControl} {others : List (ℕ × Bool)} (hu : ¬s.Uncovers call)
      (hsub : t.mFocusStack.Sublist s.mFocusStack)
      (htop : ∀ fr, t.mFocusStack.head? = some fr → s.mFocusStack.head? = some fr)
      (htold : t.told = s.told ++ others)
      (hothers : ∀ w ∈ others, ∀ fr ∈ t.mFocusStack, w.1 ≠ fr.afdh)
      (hhandlers : s.handlers ≤ t.handlers) : Moves s call t
  | uncovers {t : MediaFocusControl} {top next : FocusRequester} {rest : List FocusRequester}
      {others : List (ℕ × Bool)} (hu : s.Uncovers call) (hs : s.mFocusStack = top :: next :: rest)
      (ht : t.mFocusStack = next :: rest) (htold : t.told = s.told ++ others)
      (hothers : ∀ w ∈ others, ∀ fr ∈ t.mFocusStack, w.1 ≠ fr.afdh)
      (hhandlers : s.handlers ≤ t.handlers) : Moves s call t
  | gains {t : MediaFocusControl} {fr : FocusRequester} {rest : List FocusRequester}
      (hu : ¬s.Uncovers call) (ht : t.mFocusStack = fr :: rest)
      (hsub : t.mFocusStack.Sublist s.mFocusStack) (htold : t.told = s.told ++ [(fr.afdh, true)])
      (hhandlers : s.handlers ≤ t.handlers) : Moves s call t
  | pushes {t : MediaFocusControl} {fr : FocusRequester} {rest : List FocusRequester}
      (hu : ¬s.Uncovers call) (ht : t.mFocusStack = fr :: rest) (hsub : rest.Sublist s.mFocusStack)
      (hfr : fr.afdh = s.handlers) (hhandlers : t.handlers = s.handlers + 1)
      (htold : t.told = s.told ++ ((rest.map (·.afdh)).reverse.map fun k => (k, false)) ++
        [(fr.afdh, true)]) : Moves s call t

/-- The entries are told apart by their handlers, and all but the top have been told last that
they do not have the focus. -/
structure Inv (s : MediaFocusControl) : Prop where
  fresh : ∀ fr ∈ s.mFocusStack, fr.afdh < s.handlers
  distinct : (s.mFocusStack.map (·.afdh)).Nodup
  below : ∀ fr ∈ s.mFocusStack.tail, Last s.told fr.afdh false

/-- The top has been told last that it has the focus. -/
def TopTold (s : MediaFocusControl) : Prop :=
  ∀ fr, s.mFocusStack.head? = some fr → Last s.told fr.afdh true

variable {call : Call} {t : MediaFocusControl}

theorem Inv.moves (h : Inv s) (hm : Moves s call t) : Inv t := by
  cases hm with
  | @keeps others hu hsub htop htold hothers hhandlers =>
      refine ⟨fun fr hfr => (h.fresh fr (hsub.subset hfr)).trans_le hhandlers,
        h.distinct.sublist (hsub.map _), fun fr hfr => ?_⟩
      rw [htold, last_append_of_forall_ne _ fun w hw => hothers w hw fr (List.mem_of_mem_tail hfr)]
      exact h.below fr (hsub.tail.subset hfr)
  | @uncovers top next rest others hu hs ht htold hothers hhandlers =>
      have hsub : t.mFocusStack.Sublist s.mFocusStack := by
        rw [hs, ht]
        exact List.sublist_cons_self _ _
      refine ⟨fun fr hfr => (h.fresh fr (hsub.subset hfr)).trans_le hhandlers,
        h.distinct.sublist (hsub.map _), fun fr hfr => ?_⟩
      rw [htold, last_append_of_forall_ne _ fun w hw => hothers w hw fr (List.mem_of_mem_tail hfr)]
      exact h.below fr (hsub.tail.subset hfr)
  | @gains top rest hu ht hsub htold hhandlers =>
      have hdistinct := h.distinct.sublist (hsub.map (·.afdh))
      refine ⟨fun fr hfr => (h.fresh fr (hsub.subset hfr)).trans_le hhandlers, hdistinct,
        fun fr hfr => ?_⟩
      have hne : top.afdh ≠ fr.afdh := by
        rw [ht, List.map_cons] at hdistinct
        rw [ht] at hfr
        exact fun heq => (List.nodup_cons.mp hdistinct).1 (List.mem_map.mpr ⟨fr, hfr, heq.symm⟩)
      rw [htold, last_concat_of_ne _ hne]
      exact h.below fr (hsub.tail.subset hfr)
  | @pushes top rest hu ht hsub hfr hhandlers htold =>
      have hne : ∀ fr ∈ rest, top.afdh ≠ fr.afdh := by
        intro fr hmem heq
        have := h.fresh fr (hsub.subset hmem)
        omega
      refine ⟨fun fr hmem => ?_, ?_, fun fr hmem => ?_⟩
      · rw [ht] at hmem
        rcases List.mem_cons.mp hmem with rfl | hmem
        · omega
        · have := h.fresh fr (hsub.subset hmem)
          omega
      · rw [ht, List.map_cons]
        refine List.nodup_cons.mpr ⟨fun hmem => ?_, h.distinct.sublist (hsub.map _)⟩
        obtain ⟨fr, hmem, heq⟩ := List.mem_map.mp hmem
        exact hne fr hmem heq.symm
      · rw [ht] at hmem
        rw [htold, last_concat_of_ne _ (hne fr hmem)]
        exact last_append_map_of_mem _ (List.mem_reverse.mpr (List.mem_map_of_mem hmem)) false

@[simp] theorem tell_handlers (s : MediaFocusControl) (frs : List FocusRequester)
    (m : FocusMessage) : (s.tell frs m).handlers = s.handlers := rfl

@[simp] theorem notifyTop_handlers (s : MediaFocusControl) :
    (s.notifyTopOfAudioFocusStack M).handlers = s.handlers := by
  unfold notifyTopOfAudioFocusStack
  split
  · rfl
  · simp

@[simp] theorem removeFocusStackEntry_handlers (s : MediaFocusControl) (clientId : String)
    (signal : Bool) : (s.removeFocusStackEntry M clientId signal).handlers = s.handlers := by
  unfold removeFocusStackEntry
  split
  · rfl
  · split
    · split <;> simp
    · rfl

/-- Without the signal nobody is told of having the focus. -/
@[simp] theorem told_removeFocusStackEntry (s : MediaFocusControl) (clientId : String) :
    (s.removeFocusStackEntry M clientId false).told = s.told := by
  unfold removeFocusStackEntry
  split
  · rfl
  · split
    · rw [if_neg Bool.false_ne_true, told_tell_release]
      rfl
    · rw [removeBelow, told_tell_release]
      rfl

/-- The new top of the stack is told that it has the focus. -/
theorem told_notifyTop {fr : FocusRequester} {rest : List FocusRequester}
    (hs : s.mFocusStack = fr :: rest) :
    (s.notifyTopOfAudioFocusStack M).told = s.told ++ [(fr.afdh, true)] := by
  unfold notifyTopOfAudioFocusStack
  simp only [hs, canReassignAudioFocus_eq, if_true]
  exact told_tell s [fr] rfl

theorem notifyTop_of_nil (hs : s.mFocusStack = []) : s.notifyTopOfAudioFocusStack M = s := by
  unfold notifyTopOfAudioFocusStack
  simp only [hs]

theorem moves_of_push (hM : M.Lawful) {s₀ : MediaFocusControl} {fr : FocusRequester}
    (hu : ¬s.Uncovers call) (hsingle : s₀.Single)
    (hsub : s₀.mFocusStack.Sublist s.mFocusStack) (htold : s₀.told = s.told)
    (hhandlers : s₀.handlers = s.handlers + 1) (hfr : fr.afdh = s.handlers) :
    Moves s call (s₀.pushRequester M fr) := by
  have hstack := removeFocusStackEntry_mFocusStack hM hsingle fr.clientId false
  have hrest := List.filter_sublist (p := fun other => !M.hasSameClient other fr.clientId)
    (l := s₀.mFocusStack)
  refine .pushes hu (pushRequester_mFocusStack hM hsingle fr) (hrest.trans hsub) hfr ?_ ?_
  · unfold pushRequester
    simp only [tell_handlers]
    split <;> simp [propagateFocusLossFromGain_syncAf, hhandlers]
  · unfold pushRequester
    simp only
    rw [told_tell _ _ rfl, List.map_singleton, List.map_singleton, List.append_left_inj, ← hstack]
    split
    · have hloss := told_tell (s₀.removeFocusStackEntry M fr.clientId false)
        (s₀.removeFocusStackEntry M fr.clientId false).mFocusStack.reverse
        (m := .handleExternalFocusGain fr.focusGain) rfl
      rw [told_removeFocusStackEntry, htold, List.map_reverse] at hloss
      exact hloss
    · next hnil =>
        rw [not_not.mp hnil, List.map_nil, List.reverse_nil, List.map_nil, List.append_nil]
        exact (told_removeFocusStackEntry s₀ fr.clientId).trans htold

/-- Nobody is told anything, and the top stays or the stack gets empty. -/
theorem moves_of_keeps (hu : ¬s.Uncovers call) (hsub : t.mFocusStack.Sublist s.mFocusStack)
    (htop : ∀ fr, t.mFocusStack.head? = some fr → s.mFocusStack.head? = some fr)
    (htold : t.told = s.told) (hhandlers : s.handlers ≤ t.handlers) : Moves s call t :=
  @Moves.keeps s call t [] hu hsub htop (by simp [htold]) (by simp) hhandlers

/-- The entries of a client that is not on top are taken off. -/
theorem moves_of_removeBelow (hM : M.Lawful) {clientId : String} (hu : ¬s.Uncovers call)
    {top : FocusRequester} {rest : List FocusRequester} (hs : s.mFocusStack = top :: rest)
    (hne : top.clientId ≠ clientId) : Moves s call (s.removeBelow M clientId) := by
  have hkeep : M.hasSameClient top clientId = false := by
    simpa [hM.hasSameClient] using hne
  refine moves_of_keeps hu List.filter_sublist ?_ ?_ le_rfl
  · intro fr hfr
    simpa [removeBelow, hs, hkeep] using hfr
  · rw [removeBelow, told_tell_release]
    rfl

/-- The top is taken off, and the next entry, if any, is told that it has the focus. -/
theorem moves_of_notify {s₀ : MediaFocusControl} (hu : ¬s.Uncovers call)
    (hsub : s₀.mFocusStack.Sublist s.mFocusStack) (htold : s₀.told = s.told)
    (hhandlers : s₀.handlers = s.handlers) : Moves s call (s₀.notifyTopOfAudioFocusStack M) := by
  cases hs : s₀.mFocusStack with
  | nil =>
      rw [notifyTop_of_nil hs]
      exact moves_of_keeps hu hsub (by simp [hs]) htold hhandlers.ge
  | cons fr rest =>
      refine .gains hu ((notifyTop_mFocusStack s₀).trans hs) (by simpa using hsub) ?_ ?_
      · rw [told_notifyTop hs, htold]
      · rw [notifyTop_handlers, hhandlers]

theorem Requested.moves (hM : M.Lawful) {focusChangeHint : ℤ} {cb : ℕ} {clientId : String}
    {a : Admission} {r : ℤ} (hr : Requested M s focusChangeHint cb clientId a t r) (h : s.Single) :
    Moves s (.requestAudioFocus focusChangeHint cb clientId a) t := by
  have hu : ¬s.Uncovers (.requestAudioFocus focusChangeHint cb clientId a) := not_false
  cases hr with
  | failed ha ht =>
      rcases ht with rfl | rfl
      · exact moves_of_keeps hu (List.Sublist.refl _) (fun fr hfr => hfr) rfl le_rfl
      · exact moves_of_keeps hu (List.Sublist.refl _) (fun fr hfr => hfr) rfl (Nat.le_succ _)
  | @again top rest ha hs hclient hgain =>
      exact .gains hu hs (List.Sublist.refl _) (told_tell _ [top] rfl) (Nat.le_succ _)
  | @changed top rest ha hs hclient hgain =>
      have hsub : rest.Sublist s.mFocusStack := by
        rw [hs]
        exact List.sublist_cons_self top rest
      exact moves_of_push hM hu (h.sublist (hsub.map _)) hsub (told_tell_release _ _) rfl rfl
  | pushed ha hs => exact moves_of_push hM hu h (List.Sublist.refl _) rfl rfl rfl

theorem moves_of_abandon (hM : M.Lawful) (s : MediaFocusControl) (clientId : String) :
    Moves s (.abandonAudioFocus clientId) (s.removeFocusStackEntry M clientId true) := by
  have hu : ¬s.Uncovers (.abandonAudioFocus clientId) := not_false
  unfold removeFocusStackEntry
  split
  · exact moves_of_keeps hu (List.Sublist.refl _) (fun fr hfr => hfr) rfl le_rfl
  · next top rest hs =>
      split
      · refine moves_of_notify hu ?_ (told_tell_release _ _) rfl
        rw [hs]
        exact List.sublist_cons_self top rest
      · next hne =>
          exact moves_of_removeBelow hM hu hs (by simpa [hM.hasSameClient] using hne)

/-- The top is taken off without a word to the next entry. -/
theorem moves_of_pop {top : FocusRequester} {rest : List FocusRequester} {others : List (ℕ × Bool)}
    (hs : s.mFocusStack = top :: rest) (hu : s.Uncovers call ↔ rest ≠ [])
    (ht : t.mFocusStack = rest) (htold : t.told = s.told ++ others)
    (hothers : ∀ w ∈ others, ∀ fr ∈ rest, w.1 ≠ fr.afdh) (hhandlers : t.handlers = s.handlers) :
    Moves s call t := by
  cases rest with
  | nil =>
      refine .keeps (by simp [hu]) (by simp [ht]) (by simp [ht]) htold ?_ hhandlers.ge
      simp [ht]
  | cons next rest =>
      exact .uncovers (hu.mpr (List.cons_ne_nil _ _)) hs ht htold (by rwa [ht]) hhandlers.ge

theorem moves_of_unregister (hM : M.Lawful) (s : MediaFocusControl) (clientId : String) :
    Moves s (.unregisterAudioFocusClient clientId) (s.unregisterAudioFocusClient M clientId) := by
  unfold unregisterAudioFocusClient removeFocusStackEntry
  split
  · next hs =>
      exact moves_of_keeps (by simp [Uncovers, hs]) (List.Sublist.refl _) (fun fr hfr => hfr) rfl
        le_rfl
  · next top rest hs =>
      split
      · next hsame =>
          have hclient : top.clientId = clientId := by
            simpa [hM.hasSameClient] using hsame
          refine @moves_of_pop s _ _ top rest [] hs ?_ rfl ?_ (by simp) rfl
          · cases rest <;> simp [Uncovers, hs, hclient]
          · exact (told_tell_release _ _).trans (List.append_nil _).symm
      · next hne =>
          have hclient : top.clientId ≠ clientId := by
            simpa [hM.hasSameClient] using hne
          exact moves_of_removeBelow hM (by simp [Uncovers, hs, hclient]) hs hclient

theorem moves_of_discard (h : Inv s) :
    Moves s .discardAudioFocusOwner s.discardAudioFocusOwner := by
  unfold MediaFocusControl.discardAudioFocusOwner
  split
  · next hs =>
      exact moves_of_keeps (by simp [Uncovers, hs]) (List.Sublist.refl _) (fun fr hfr => hfr) rfl
        le_rfl
  · next top rest hs =>
      have hdistinct := h.distinct
      rw [hs, List.map_cons] at hdistinct
      refine @moves_of_pop s _ _ top rest [(top.afdh, false)] hs ?_ rfl ?_ ?_ rfl
      · cases rest <;> simp [Uncovers, hs]
      · rw [told_tell_release, told_tell _ _ rfl]
        rfl
      · intro w hw fr hfr heq
        obtain rfl := List.mem_singleton.mp hw
        exact (List.nodup_cons.mp hdistinct).1 (List.mem_map.mpr ⟨fr, hfr, heq.symm⟩)

theorem moves_of_binderDied (s : MediaFocusControl) (cb : ℕ) :
    Moves s (.binderDied cb) (s.removeFocusStackEntryForClient M cb) := by
  have hu : ¬s.Uncovers (.binderDied cb) := not_false
  unfold removeFocusStackEntryForClient
  simp only
  split
  · exact moves_of_notify hu List.filter_sublist rfl rfl
  · next htop =>
      refine moves_of_keeps hu List.filter_sublist (fun fr hfr => ?_) rfl le_rfl
      cases hs : s.mFocusStack with
      | nil => simp [hs] at hfr
      | cons top rest =>
          have hkeep : M.hasSameBinder top cb = false := by simpa [hs] using htop
          simpa [hs, hkeep] using hfr

/-- Every call is one of the moves. -/
theorem moves_of_perform (hM : M.Lawful) (hs : s.Single) (h : Inv s) (call : Call) :
    Moves s call (s.perform M call).1 := by
  cases call with
  | requestAudioFocus focusChangeHint cb clientId a =>
      exact (requested hM s focusChangeHint cb clientId a).moves hM hs
  | abandonAudioFocus clientId => exact moves_of_abandon hM s clientId
  | unregisterAudioFocusClient clientId => exact moves_of_unregister hM s clientId
  | discardAudioFocusOwner => exact moves_of_discard h
  | binderDied cb => exact moves_of_binderDied s cb
  | getCurrentAudioFocus =>
      exact moves_of_keeps not_false (List.Sublist.refl _) (fun fr hfr => hfr) rfl le_rfl

/-- The top of the stack goes on being told that it has the focus, unless it is uncovered. -/
theorem topTold_iff_of_moves (h : Inv s) (htop : TopTold s) (hm : Moves s call t) :
    TopTold t ↔ ¬s.Uncovers call := by
  cases hm with
  | @keeps others hu hsub hhead htold hothers hhandlers =>
      refine iff_of_true (fun fr hfr => ?_) hu
      rw [htold, last_append_of_forall_ne _ fun w hw => hothers w hw fr (List.mem_of_mem_head? hfr)]
      exact htop fr (hhead fr hfr)
  | @uncovers top next rest others hu hs ht htold hothers hhandlers =>
      refine iff_of_false (fun htop' => ?_) (not_not_intro hu)
      have htrue := htop' next (by rw [ht]; rfl)
      have hfalse := h.below next (by rw [hs]; exact List.mem_cons_self)
      rw [htold, last_append_of_forall_ne _ fun w hw =>
        hothers w hw next (by rw [ht]; exact List.mem_cons_self)] at htrue
      exact Bool.noConfusion (htrue.unique hfalse)
  | @gains top rest hu ht hsub htold hhandlers =>
      refine iff_of_true (fun fr hfr => ?_) hu
      obtain rfl : top = fr := by simpa [ht] using hfr
      rw [htold, last_concat_self]
  | @pushes top rest hu ht hsub hafdh hhandlers htold =>
      refine iff_of_true (fun fr hfr => ?_) hu
      obtain rfl : top = fr := by simpa [ht] using hfr
      rw [htold, last_concat_self]

/-- What holds of the stack in every run. -/
structure Sound (s : MediaFocusControl) : Prop where
  single : s.Single
  inv : Inv s

theorem sound_new : Sound new where
  single := List.nodup_nil
  inv := ⟨by simp [new], List.nodup_nil, by simp [new]⟩

theorem Sound.step (hM : M.Lawful) (h : Sound s) {call : Call}
    (hs : step M s call = some t) :
    Sound t ∧ Moves s call t := by
  obtain rfl : (s.perform M call).1 = t := Option.some.inj hs
  have hmoves := moves_of_perform hM h.single h.inv call
  refine ⟨⟨?_, h.inv.moves hmoves⟩, hmoves⟩
  have hnodup : ((s.mFocusStack.map toGrant).map (·.clientId)).Nodup := by
    rw [List.map_map]
    exact h.single
  obtain ⟨t, ht, hrep⟩ := refines hM s ⟨s.mFocusStack.map toGrant, hnodup⟩ call rfl
  obtain rfl : (s.perform M call).1 = t := congrArg Prod.fst (Option.some.inj ht)
  exact hrep.single

/-- In every run, an entry of the stack whose last signal is that it has got the focus is on top. -/
theorem only_top_told (hM : M.Lawful) (calls : List Call) :
    Along (step M) (fun _ _ t => ∀ fr ∈ t.mFocusStack, Last t.told fr.afdh true →
      t.mFocusStack.head? = some fr) new calls := by
  refine along_of_invariant (fun s call t h hs => (h.step hM hs).1) ?_ sound_new calls
  intro s call t h hs fr hfr htrue
  have hinv := (h.step hM hs).1.inv
  cases hstack : t.mFocusStack with
  | nil => simp [hstack] at hfr
  | cons top rest =>
      rw [hstack] at hfr
      rcases List.mem_cons.mp hfr with rfl | hrest
      · rfl
      · have hfalse := hinv.below fr (by simpa [hstack] using hrest)
        exact Bool.noConfusion (htrue.unique hfalse)

theorem only_top_told_interrupted :
    Along (step FocusRequester.byArguments) (fun _ _ t => ∀ fr ∈ t.mFocusStack,
      Last t.told fr.afdh true → t.mFocusStack.head? = some fr) new
      [.requestAudioFocus 1 7 "player" ⟨true, true, true⟩,
        .requestAudioFocus 3 8 "navigator" ⟨true, true, true⟩, .abandonAudioFocus "navigator"] :=
  only_top_told FocusRequester.lawful_byArguments _

/-- The last signal to the top of the stack is that it has got the focus, all along a run, if and
only if no call takes the top away without telling the next one. -/
theorem top_told_iff (hM : M.Lawful) (calls : List Call) :
    Along (step M) (fun _ _ t => TopTold t) new calls ↔
      Along (step M) (fun s call _ => ¬s.Uncovers call) new calls := by
  have hnew : Sound new ∧ TopTold new := ⟨sound_new, by simp [TopTold, new]⟩
  apply along_congr (I := fun s => Sound s ∧ TopTold s) _ _ hnew
  · intro s call t h hs htop
    exact ⟨(h.1.step hM hs).1, htop⟩
  · intro s call t h hs
    exact topTold_iff_of_moves h.1.inv h.2 (h.1.step hM hs).2

/-- The navigator is unregistered, and the player is not told that it has the focus again. -/
theorem top_told_iff_uncovered :
    ¬Along (step FocusRequester.byArguments) (fun _ _ t => TopTold t) new
      [.requestAudioFocus 1 7 "player" ⟨true, true, true⟩,
        .requestAudioFocus 3 8 "navigator" ⟨true, true, true⟩,
        .unregisterAudioFocusClient "navigator"] := by
  rw [top_told_iff FocusRequester.lawful_byArguments]
  intro h
  exact h.2.2.1 ⟨⟨3, 8, "navigator", 1⟩, ⟨1, 7, "player", 0⟩, [], rfl, rfl⟩

end MediaFocusControl

end Collaboration
