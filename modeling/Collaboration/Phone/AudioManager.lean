import Mathlib.Data.List.Infix
import Collaboration.Library.Transition
import Collaboration.Model.JavaString

/-! # The audio manager

`AudioManager` is the same class on both sides. Of the native calls it makes, only the
result of `VoE_CreateChannel` and the codecs of `VoE_GetCodecs` decide anything; the other
results are logged. -/

namespace Collaboration

open Transition

/-- A call of the native `ViEAndroidJavaAPI`, without the prefix `VoE_`. -/
inductive VoE where
  | Create
  | Init (enableTrace : Bool)
  | CreateChannel
  | SetLocalReceiver (channel port : Int32)
  | StartListen (channel : Int32)
  | SetSpeakerVolume (level : Int32)
  | StartPlayout (channel : Int32)
  | SetSendDestination (channel port : Int32) (ipaddr : Option JString)
  | GetCodecs
  | SetSendCodec (channel index : Int32)
  | SetECStatus (enable : Bool)
  | SetAGCStatus (enable : Bool)
  | SetNSStatus (enable : Bool)
  | StartSend (channel : Int32)
  | StopSend (channel : Int32)
  | StopListen (channel : Int32)
  | StopPlayout (channel : Int32)
  | DeleteChannel (channel : Int32)
  | Terminate
  deriving DecidableEq, Repr

/-- The call neither creates nor deletes channels. -/
def VoE.keepsChannels : VoE → Bool
  | .CreateChannel | .DeleteChannel _ | .Terminate => false
  | _ => true

structure AudioManager where
  voiceChannel : Int32
  audioRxPort : Int32
  voERunning : Bool
  audioTxPort : Int32
  remoteIp : Option JString
  enableTrace : Bool
  deriving DecidableEq, Repr

namespace AudioManager

def new : AudioManager where
  voiceChannel := 4
  audioRxPort := 11113
  voERunning := false
  audioTxPort := 11113
  remoteIp := some (JString.lit "127.0.0.1")
  enableTrace := true

def setRemoteIP (m : AudioManager) (ipAddr : Option JString) : AudioManager :=
  { m with remoteIp := ipAddr }

/-- The calls of `setupVoE`; a failed `VoE_Init` ends it too. -/
def setupVoE (m : AudioManager) : List VoE := [.Create, .Init m.enableTrace]

/-- The calls of `SetCoder`, given the codecs. -/
def SetCoder (m : AudioManager) (codecs : List JString) : List VoE :=
  let index := (codecs.findIdx? fun codec => decide (JString.lit "ISAC" <:+: codec)).getD 0
  [.GetCodecs, .SetSendCodec m.voiceChannel (Int32.ofNat index)]

/-- The calls of `startVoiceEngine` for the channel that it has created. -/
def startChannel (m : AudioManager) (codecs : List JString) : List VoE :=
  [.SetLocalReceiver m.voiceChannel m.audioRxPort, .StartListen m.voiceChannel,
    .SetSpeakerVolume 204, .StartPlayout m.voiceChannel,
    .SetSendDestination m.voiceChannel m.audioTxPort m.remoteIp] ++ m.SetCoder codecs ++
  [.SetECStatus false, .SetAGCStatus false, .SetNSStatus false, .StartSend m.voiceChannel]

/-- `startVoiceEngine`, given what `VoE_CreateChannel` and `VoE_GetCodecs` return. -/
def startVoiceEngine (m : AudioManager) (channel : Int32) (codecs : List JString) :
    AudioManager × List VoE :=
  let m := { m with voiceChannel := channel }
  if 0 > channel then (m, [.CreateChannel])
  else ({ m with voERunning := true }, .CreateChannel :: m.startChannel codecs)

theorem startVoiceEngine_of_fails (m : AudioManager) {channel : Int32} (h : 0 > channel)
    (codecs : List JString) :
    m.startVoiceEngine channel codecs = ({ m with voiceChannel := channel }, [.CreateChannel]) :=
  if_pos h

theorem startVoiceEngine_of_created (m : AudioManager) {channel : Int32} (h : ¬ 0 > channel)
    (codecs : List JString) :
    m.startVoiceEngine channel codecs =
      ({ m with voiceChannel := channel, voERunning := true },
        .CreateChannel :: { m with voiceChannel := channel }.startChannel codecs) :=
  if_neg h

theorem keepsChannels_of_startChannel (m : AudioManager) (codecs : List JString) :
    ∀ call ∈ m.startChannel codecs, call.keepsChannels = true :=
  List.all_eq_true.mp rfl

def stopVoiceEngine (m : AudioManager) : AudioManager × List VoE :=
  ({ m with voERunning := false, voiceChannel := -1 },
    [.StopSend m.voiceChannel, .StopListen m.voiceChannel, .StopPlayout m.voiceChannel,
      .DeleteChannel m.voiceChannel, .Terminate])

end AudioManager

/-! ## The manager and its voice channels -/

/-- A call of the manager with what the native calls in it return. -/
inductive AudioCall where
  | setRemoteIP (ipAddr : Option JString)
  | prepareAudio (created : Bool) (init : Int32)
  | startAudio (channel : Int32) (codecs : List JString)
  /-- `terminated` are the channels that `VoE_Terminate` takes with it. -/
  | stopAudio (terminated : List Int32)
  deriving DecidableEq, Repr

def AudioCall.isStartAudio : AudioCall → Bool
  | .startAudio _ _ => true
  | _ => false

def AudioCall.isStopAudio : AudioCall → Bool
  | .stopAudio _ => true
  | _ => false

/-- The manager, and the channels it has created that are not deleted. -/
structure Audio where
  manager : AudioManager
  channels : List Int32
  deriving DecidableEq, Repr

namespace Audio

def init : Audio := ⟨AudioManager.new, []⟩

/-- What a native call does to the channels, given the channel that is created and those
that end with the engine. -/
def perform (created : Int32) (terminated : List Int32) (channels : List Int32) :
    VoE → List Int32
  | .CreateChannel => if 0 > created then channels else created :: channels
  | .DeleteChannel channel => channels.filter (· != channel)
  | .Terminate => channels.filter (· ∉ terminated)
  | _ => channels

/-- One call of the manager; a channel that is created is not there yet. -/
def step (a : Audio) : AudioCall → Option Audio
  | .setRemoteIP ipAddr => some { a with manager := a.manager.setRemoteIP ipAddr }
  | .prepareAudio _ _ =>
    some { a with channels := a.manager.setupVoE.foldl (perform (-1) []) a.channels }
  | .startAudio channel codecs =>
    if channel ∈ a.channels then none
    else
      let (manager, calls) := a.manager.startVoiceEngine channel codecs
      some ⟨manager, calls.foldl (perform channel []) a.channels⟩
  | .stopAudio terminated =>
    let (manager, calls) := a.manager.stopVoiceEngine
    some ⟨manager, calls.foldl (perform (-1) terminated) a.channels⟩

/-! ## What each call does to the channels -/

variable {a b : Audio}

theorem foldl_perform_of_keeps {created : Int32} {terminated : List Int32} {calls : List VoE}
    (h : ∀ call ∈ calls, call.keepsChannels = true) (channels : List Int32) :
    calls.foldl (perform created terminated) channels = channels := by
  induction calls with
  | nil => rfl
  | cons call calls ih =>
      obtain ⟨hcall, hcalls⟩ := List.forall_mem_cons.mp h
      have hkeeps : perform created terminated channels call = channels := by
        cases call with
        | CreateChannel | DeleteChannel | Terminate => cases hcall
        | _ => rfl
      rw [List.foldl_cons, hkeeps, ih hcalls]

theorem prepareAudio_step (created : Bool) (init : Int32) :
    a.step (.prepareAudio created init) = some a := rfl

theorem stopAudio_step (terminated : List Int32) :
    a.step (.stopAudio terminated) = some
      { manager := { a.manager with voERunning := false, voiceChannel := -1 }
        channels := (a.channels.filter (· != a.manager.voiceChannel)).filter
          (· ∉ terminated) } := rfl

/-- A failed call leaves a negative `voiceChannel` and the flag as it was. -/
theorem startAudio_step {channel : Int32} {codecs : List JString}
    (h : a.step (.startAudio channel codecs) = some b) :
    channel ∉ a.channels ∧ b.manager.voiceChannel = channel ∧
      (0 > channel ∧ b.channels = a.channels ∧ b.manager.voERunning = a.manager.voERunning ∨
        ¬ 0 > channel ∧ b.channels = channel :: a.channels ∧ b.manager.voERunning = true) := by
  simp only [step] at h
  split at h
  · cases h
  · rename_i hfresh
    obtain rfl := Option.some.inj h
    refine ⟨hfresh, ?_⟩
    by_cases hfails : 0 > channel
    · rw [a.manager.startVoiceEngine_of_fails hfails]
      exact ⟨rfl, .inl ⟨hfails, if_pos hfails, rfl⟩⟩
    · rw [a.manager.startVoiceEngine_of_created hfails]
      refine ⟨rfl, .inr ⟨hfails, ?_, rfl⟩⟩
      dsimp only [List.foldl_cons]
      rw [foldl_perform_of_keeps (AudioManager.keepsChannels_of_startChannel _ codecs)]
      exact if_neg hfails

/-! ## One channel -/

/-- After the call at most one channel is undeleted, while the manager runs `voiceChannel` is
that one, and after `stopAudio` there is none. -/
def KeepsOneChannel (_ : Audio) (l : AudioCall) (b : Audio) : Prop :=
  b.channels.length ≤ 1 ∧
    (b.manager.voERunning = true → b.manager.voiceChannel ∈ b.channels) ∧
    (l.isStopAudio = true → b.channels = [])

instance (a : Audio) (l : AudioCall) (b : Audio) : Decidable (KeepsOneChannel a l b) :=
  inferInstanceAs (Decidable (_ ∧ _ ∧ _))

/-- `startAudio` is called on a manager that does not run. -/
def StartsStopped (a : Audio) (l : AudioCall) (_ : Audio) : Prop :=
  l.isStartAudio = true → a.manager.voERunning = false

/-- The manager runs on its only channel, or has none. -/
structure Matched (a : Audio) : Prop where
  running : a.manager.voERunning = true →
    a.channels = [a.manager.voiceChannel] ∧ ¬ 0 > a.manager.voiceChannel
  stopped : a.manager.voERunning = false → a.channels = []

theorem matched_init : Matched init := ⟨by simp [init, AudioManager.new], fun _ => rfl⟩

theorem Matched.keepsOneChannel (h : Matched b) {l : AudioCall}
    (hstop : l.isStopAudio = true → b.manager.voERunning = false) :
    KeepsOneChannel a l b := by
  cases hrun : b.manager.voERunning with
  | true =>
      obtain ⟨hchannels, -⟩ := h.running hrun
      refine ⟨by simp [hchannels], by simp [hchannels], ?_⟩
      intro hl
      simp [hstop hl] at hrun
  | false => simp [KeepsOneChannel, h.stopped hrun, hrun]

/-- A call that does not start a running manager keeps manager and channels together. -/
theorem Matched.of_step (h : Matched a) {l : AudioCall} (hstep : a.step l = some b)
    (hl : StartsStopped a l b) : Matched b := by
  cases l with
  | setRemoteIP ipAddr =>
      obtain rfl := Option.some.inj hstep
      exact ⟨h.running, h.stopped⟩
  | prepareAudio created init =>
      rw [prepareAudio_step] at hstep
      obtain rfl := Option.some.inj hstep
      exact h
  | startAudio channel codecs =>
      have hempty := h.stopped (hl rfl)
      obtain ⟨-, hchannel, ⟨-, hchannels, hrun⟩ | ⟨hcreated, hchannels, hrun⟩⟩ :=
        startAudio_step hstep
      · refine ⟨?_, fun _ => hchannels.trans hempty⟩
        simp [hrun, hl rfl]
      · refine ⟨fun _ => ⟨by rw [hchannels, hchannel, hempty], hchannel ▸ hcreated⟩, ?_⟩
        simp [hrun]
  | stopAudio terminated =>
      rw [stopAudio_step] at hstep
      obtain rfl := Option.some.inj hstep
      refine ⟨by simp, fun _ => ?_⟩
      cases hrun : a.manager.voERunning with
      | true => simp [(h.running hrun).1]
      | false => simp [h.stopped hrun]

theorem Matched.keepsOneChannel_iff (h : Matched a) {l : AudioCall} (hstep : a.step l = some b) :
    KeepsOneChannel a l b ↔ StartsStopped a l b := by
  constructor
  · intro hkeeps hstart
    by_contra hrun
    obtain ⟨hlive, hvalid⟩ := h.running (by simpa using hrun)
    cases l with
    | startAudio channel codecs =>
        obtain ⟨hfresh, hchannel, ⟨hfails, hchannels, hrun'⟩ | ⟨-, hchannels, -⟩⟩ :=
          startAudio_step hstep
        -- A failed start leaves the flag set, on a channel that is not there.
        · have hmem := hkeeps.2.1 (by simpa [hrun'] using hrun)
          rw [hchannel, hchannels] at hmem
          exact hfresh hmem
        · have hlength := hkeeps.1
          simp [hchannels, hlive] at hlength
    | setRemoteIP | prepareAudio | stopAudio => simp [AudioCall.isStartAudio] at hstart
  · intro hl
    refine (h.of_step hstep hl).keepsOneChannel ?_
    intro hstop
    cases l with
    | stopAudio terminated =>
        rw [stopAudio_step] at hstep
        obtain rfl := Option.some.inj hstep
        rfl
    | setRemoteIP | prepareAudio | startAudio => simp [AudioCall.isStopAudio] at hstop

/-- However the native calls end, the manager has at most one channel, runs on it, and has none
after `stopAudio`, if and only if no `startAudio` finds it running. -/
theorem one_channel_iff (ls : List AudioCall) :
    Along step KeepsOneChannel init ls ↔ Along step StartsStopped init ls :=
  (along_congr (fun _ _ _ h hstep hl => h.of_step hstep hl)
    (fun _ _ _ h hstep => (h.keepsOneChannel_iff hstep).symm) matched_init ls).symm

/-- A second call is accepted before the first has ended: the first one's channel stays. -/
theorem accepted_twice_keeps_channel :
    ¬ Along step KeepsOneChannel init
        [.setRemoteIP (some []), .prepareAudio true 0, .startAudio 0 [],
          .setRemoteIP (some []), .prepareAudio false 0, .startAudio 1 [], .stopAudio []] ∧
      (exec step init
        [.setRemoteIP (some []), .prepareAudio true 0, .startAudio 0 [],
          .setRemoteIP (some []), .prepareAudio false 0, .startAudio 1 [], .stopAudio []]).map
        channels = some [0] := by
  decide

end Audio

end Collaboration
