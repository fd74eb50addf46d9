import Mathlib.Logic.Function.Basic
import Collaboration.Library.Transition
import Collaboration.Model.JavaString

/-! # The voice activity

`MainActivity` switches the three directions of one channel through `VoiceEngine`, whose
native methods call `webrtc::VoEBase`. The engine behind it, with its threads and devices, is a
parameter. -/

namespace Collaboration

open Transition

/-- A direction of a voice channel. -/
inductive VoiceDirection where
  | receive
  | playout
  | send
  deriving DecidableEq, Repr

/-- `webrtc::VoEBase` over engines of type `ε`: its calls, which return 0 for success, and what
a channel does. -/
structure VoEBase (ε : Type*) where
  StartReceive : ε → Int32 → Int32 × ε
  StopReceive : ε → Int32 → Int32 × ε
  StartPlayout : ε → Int32 → Int32 × ε
  StopPlayout : ε → Int32 → Int32 × ε
  StartSend : ε → Int32 → Int32 × ε
  StopSend : ε → Int32 → Int32 × ε
  isActive : ε → Int32 → VoiceDirection → Bool

namespace VoEBase

variable {ε : Type*}

/-- A call that succeeds turns one direction of the channel on or off and leaves the others. -/
def Turns (base : VoEBase ε) (call : ε → Int32 → Int32 × ε) (direction : VoiceDirection)
    (on : Bool) : Prop :=
  ∀ engine channel, (call engine channel).1 = 0 →
    base.isActive (call engine channel).2 channel =
      Function.update (base.isActive engine channel) direction on

/-- What the calls of `VoEBase` are documented to do. -/
structure Switches (base : VoEBase ε) : Prop where
  startReceive : base.Turns base.StartReceive .receive true
  stopReceive : base.Turns base.StopReceive .receive false
  startPlayout : base.Turns base.StartPlayout .playout true
  stopPlayout : base.Turns base.StopPlayout .playout false
  startSend : base.Turns base.StartSend .send true
  stopSend : base.Turns base.StopSend .send false

end VoEBase

/-! ## The native methods of `VoiceEngine` -/

namespace VoiceEngine

variable {ε : Type*} (base : VoEBase ε)

def startListen : ε → Int32 → Int32 × ε := base.StartReceive

def startPlayout : ε → Int32 → Int32 × ε := base.StartPlayout

def startSend : ε → Int32 → Int32 × ε := base.StartSend

/-- Calls `StartReceive`, like `startListen`. -/
def stopListen : ε → Int32 → Int32 × ε := base.StartReceive

def stopPlayout : ε → Int32 → Int32 × ε := base.StopPlayout

def stopSend : ε → Int32 → Int32 × ε := base.StopSend

end VoiceEngine

/-! ## The activity -/

/-- `dialogs` are the messages that `check` has shown, `results` what the native calls have
returned. -/
structure MainActivity (ε : Type*) where
  voe : ε
  audioChannel : Int32
  voeRunning : Bool
  dialogs : List JString
  results : List Int32

namespace MainActivity

variable {ε : Type*} {base : VoEBase ε} {a b : MainActivity ε}

/-- The activity once `initVoice` has created its channel. -/
def new (voe : ε) (audioChannel : Int32) : MainActivity ε := ⟨voe, audioChannel, false, [], []⟩

/-- Shows a message unless the value holds; the caller goes on in either case. -/
def check (a : MainActivity ε) (value : Bool) (message : JString) : MainActivity ε :=
  if value then a else { a with dialogs := a.dialogs ++ [message] }

/-- `check(voe.call(audioChannel) == 0, message)`. -/
def checkCall (a : MainActivity ε) (call : ε → Int32 → Int32 × ε) (message : JString) :
    MainActivity ε :=
  let (result, voe) := call a.voe a.audioChannel
  { a with voe := voe, results := a.results ++ [result] }.check (result == 0) message

def startVoE (base : VoEBase ε) (a : MainActivity ε) : MainActivity ε :=
  let a := a.check (!a.voeRunning) (JString.lit "VoE already started")
  let a := a.checkCall (VoiceEngine.startListen base) (JString.lit "Failed StartListen")
  let a := a.checkCall (VoiceEngine.startPlayout base) (JString.lit "VoE start playout failed")
  let a := a.checkCall (VoiceEngine.startSend base) (JString.lit "VoE start send failed")
  { a with voeRunning := true }

def stopVoe (base : VoEBase ε) (a : MainActivity ε) : MainActivity ε :=
  let a := a.check a.voeRunning (JString.lit "VoE not started")
  let a := a.checkCall (VoiceEngine.stopSend base) (JString.lit "VoE stop send failed")
  let a := a.checkCall (VoiceEngine.stopPlayout base) (JString.lit "VoE stop playout failed")
  let a := a.checkCall (VoiceEngine.stopListen base) (JString.lit "VoE stop listen failed")
  { a with voeRunning := false }

inductive Call where
  | startVoE
  | stopVoe
  deriving DecidableEq, Repr

def step (base : VoEBase ε) (a : MainActivity ε) : Call → Option (MainActivity ε)
  | .startVoE => some (a.startVoE base)
  | .stopVoe => some (a.stopVoe base)

/-! ## What the calls do to the channel -/

/-- What the channel of the activity does. -/
def channel (base : VoEBase ε) (a : MainActivity ε) : VoiceDirection → Bool :=
  base.isActive a.voe a.audioChannel

/-- Every native call so far has succeeded. -/
def Succeeded (a : MainActivity ε) : Prop := ∀ result ∈ a.results, result = 0

@[simp] theorem check_channel (a : MainActivity ε) (value : Bool) (message : JString) :
    (a.check value message).channel base = a.channel base := by
  cases value <;> rfl

@[simp] theorem check_succeeded (a : MainActivity ε) (value : Bool) (message : JString) :
    (a.check value message).Succeeded ↔ a.Succeeded := by
  cases value <;> exact Iff.rfl

/-- A native call that turns a direction turns it on the channel of the activity. -/
theorem checkCall_spec {call : ε → Int32 → Int32 × ε} {direction : VoiceDirection} {on : Bool}
    (hturns : base.Turns call direction on) {message : JString}
    (h : (a.checkCall call message).Succeeded) :
    a.Succeeded ∧
      (a.checkCall call message).channel base =
        Function.update (a.channel base) direction on := by
  simp only [checkCall, check_succeeded, check_channel] at h ⊢
  simp only [Succeeded, List.forall_mem_append, List.forall_mem_singleton] at h
  exact ⟨h.1, hturns _ _ h.2⟩

theorem startVoE_spec (hbase : base.Switches) (h : (a.startVoE base).Succeeded) :
    a.Succeeded ∧ (a.startVoE base).voeRunning = true ∧
      ∀ direction, (a.startVoE base).channel base direction = true := by
  obtain ⟨h, hsend⟩ := checkCall_spec hbase.startSend h
  obtain ⟨h, hplayout⟩ := checkCall_spec hbase.startPlayout h
  obtain ⟨h, hreceive⟩ := checkCall_spec hbase.startReceive h
  refine ⟨(check_succeeded ..).mp h, rfl, fun direction => ?_⟩
  refine (congrFun hsend direction).trans ?_
  rw [VoiceEngine.startPlayout, hplayout, VoiceEngine.startListen, hreceive]
  cases direction <;> rfl

/-- After `stopVoe` the channel listens, whatever it did before, and does nothing else. -/
theorem stopVoe_spec (hbase : base.Switches) (h : (a.stopVoe base).Succeeded) :
    a.Succeeded ∧ (a.stopVoe base).voeRunning = false ∧
      ∀ direction, (a.stopVoe base).channel base direction = decide (direction = .receive) := by
  obtain ⟨h, hreceive⟩ := checkCall_spec hbase.startReceive h
  obtain ⟨h, hplayout⟩ := checkCall_spec hbase.stopPlayout h
  obtain ⟨h, hsend⟩ := checkCall_spec hbase.stopSend h
  refine ⟨(check_succeeded ..).mp h, rfl, fun direction => ?_⟩
  refine (congrFun hreceive direction).trans ?_
  rw [VoiceEngine.stopPlayout, hplayout, VoiceEngine.stopSend, hsend]
  cases direction <;> rfl

/-! ## The flag and the channel -/

/-- `voeRunning` is set exactly if the channel listens, plays and sends. -/
def FlagMatches (base : VoEBase ε) (a : MainActivity ε) : Prop :=
  a.voeRunning = true ↔ ∀ direction, a.channel base direction = true

/-- What is expected of a call: the flag matches, and a stopped channel does nothing. -/
def Follows (base : VoEBase ε) (_ : MainActivity ε) (l : Call) (b : MainActivity ε) : Prop :=
  FlagMatches base b ∧ (l = .stopVoe → ∀ direction, b.channel base direction = false)

theorem flagMatches_of_startVoE (hbase : base.Switches) (h : (a.startVoE base).Succeeded) :
    FlagMatches base (a.startVoE base) := by
  obtain ⟨-, hflag, hchannel⟩ := startVoE_spec hbase h
  exact iff_of_true hflag hchannel

/-- The channel that still listens is not taken for a running one. -/
theorem flagMatches_of_stopVoe (hbase : base.Switches) (h : (a.stopVoe base).Succeeded) :
    FlagMatches base (a.stopVoe base) := by
  obtain ⟨-, hflag, hchannel⟩ := stopVoe_spec hbase h
  refine iff_of_false (by simp [hflag]) fun hall => ?_
  have hsend := hall .send
  rw [hchannel] at hsend
  cases hsend

theorem follows_iff (hbase : base.Switches) {l : Call} (hs : a.step base l = some b)
    (h : b.Succeeded) : Follows base a l b ↔ l ≠ .stopVoe := by
  cases l with
  | startVoE =>
      obtain rfl := Option.some.inj hs
      exact iff_of_true ⟨flagMatches_of_startVoE hbase h, by simp⟩ (by simp)
  | stopVoe =>
      obtain rfl := Option.some.inj hs
      obtain ⟨-, -, hchannel⟩ := stopVoe_spec hbase h
      refine iff_of_false (fun hfollows => ?_) (by simp)
      have hreceive := hfollows.2 rfl .receive
      rw [hchannel] at hreceive
      cases hreceive

/-- The flag alone matches the channel after every call. -/
theorem flag_matches (hbase : base.Switches) (ls : List Call)
    (hsuccess : Along (step base) (fun _ _ b => b.Succeeded) a ls) :
    Along (step base) (fun _ _ b => FlagMatches base b) a ls := by
  refine Along.imp_of_invariant (I := fun _ => True) (fun _ _ _ _ _ _ => trivial) ?_ trivial
    hsuccess
  intro a l b _ hs h
  cases l with
  | startVoE =>
      obtain rfl := Option.some.inj hs
      exact flagMatches_of_startVoE hbase h
  | stopVoe =>
      obtain rfl := Option.some.inj hs
      exact flagMatches_of_stopVoe hbase h

theorem follows_along_iff (hbase : base.Switches) (ls : List Call)
    (hsuccess : Along (step base) (fun _ _ b => b.Succeeded) a ls) :
    Along (step base) (Follows base) a ls ↔ .stopVoe ∉ ls := by
  induction ls generalizing a with
  | nil => simp
  | cons l ls ih =>
      cases hs : a.step base l with
      | none => cases l <;> cases hs
      | some b =>
          rw [along_cons_of_step hs] at hsuccess ⊢
          rw [follows_iff hbase hs hsuccess.1, ih hsuccess.2, List.mem_cons, not_or, ne_comm]

/-- However often the two methods are called on a new channel, and every native call succeeding,
the flag matches the channel and a stopped channel does nothing, if and only if `stopVoe` is
never called. -/
theorem flag_follows_channel_iff (hbase : base.Switches) (voe : ε) (audioChannel : Int32)
    (hnew : ∀ direction, base.isActive voe audioChannel direction = false) (ls : List Call)
    (hsuccess : Along (step base) (fun _ _ b => b.Succeeded) (new voe audioChannel) ls) :
    FlagMatches base (new voe audioChannel) ∧
        Along (step base) (Follows base) (new voe audioChannel) ls ↔
      .stopVoe ∉ ls := by
  have hmatches : FlagMatches base (new voe audioChannel) :=
    iff_of_false (by simp [new]) fun h => by simpa [channel, new, hnew] using h .send
  rw [follows_along_iff hbase ls hsuccess]
  exact and_iff_right hmatches

/-! ## An engine with one channel -/

/-- An engine that is what its channel does; no call fails. -/
def switchboard : VoEBase (VoiceDirection → Bool) where
  StartReceive engine _ := (0, Function.update engine .receive true)
  StopReceive engine _ := (0, Function.update engine .receive false)
  StartPlayout engine _ := (0, Function.update engine .playout true)
  StopPlayout engine _ := (0, Function.update engine .playout false)
  StartSend engine _ := (0, Function.update engine .send true)
  StopSend engine _ := (0, Function.update engine .send false)
  isActive engine _ := engine

theorem switchboard_switches : switchboard.Switches where
  startReceive _ _ _ := rfl
  stopReceive _ _ _ := rfl
  startPlayout _ _ _ := rfl
  stopPlayout _ _ _ := rfl
  startSend _ _ _ := rfl
  stopSend _ _ _ := rfl

theorem flag_follows_channel_iff_switchboard :
    FlagMatches switchboard (new (fun _ => false) 0) ∧
        Along (step switchboard) (Follows switchboard) (new (fun _ => false) 0)
          [.startVoE, .startVoE] ↔
      Call.stopVoe ∉ [Call.startVoE, .startVoE] :=
  flag_follows_channel_iff switchboard_switches (fun _ => false) 0 (fun _ => rfl) _
    (by simp [Along, step, startVoE, checkCall, check, VoiceEngine.startListen,
      VoiceEngine.startPlayout, VoiceEngine.startSend, switchboard, new, Succeeded])

/-- The channel is started and stopped once, and goes on listening. -/
theorem stopped_channel_listens :
    ¬ ∀ ls, Along (step switchboard) (Follows switchboard) (new (fun _ => false) 0) ls := by
  intro h
  have hrun := h [.startVoE, .stopVoe]
  rw [along_cons_of_step rfl, along_cons_of_step rfl] at hrun
  exact absurd (hrun.2.1.2 rfl .receive) (by decide)

end MainActivity

end Collaboration
