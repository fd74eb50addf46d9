import Collaboration.Media.VideoSender

/-! # From the sender to the receiver

`RTPSenderVideo` on one side, `FecReceiverImpl` on the other, and between them a network that may
lose packets, and deliver them late, in any order, and more than once. -/

namespace Collaboration

open Transition ForwardErrorCorrection

/-- Both sides, with what the receiver has handed over. -/
structure VideoTransmission where
  sender : RTPSenderVideo
  receiver : FecReceiverImpl
  handed_over : List ForwardErrorCorrection.Packet

namespace VideoTransmission

def new (sequence_number : UInt16) : VideoTransmission :=
  ⟨RTPSenderVideo.new sequence_number, FecReceiverImpl.new, []⟩

/-- The sender is called, or a packet comes in. -/
inductive Event
  | call (call : RTPSenderVideo.Call)
  | arrives (a : FecReceiverImpl.Arrival)

def step (mask_tables : FecMaskType → MaskTable) (payloadTypeRED payloadTypeFEC : UInt8)
    (s : VideoTransmission) : Event → Option VideoTransmission
  | .call call =>
    (RTPSenderVideo.step mask_tables payloadTypeRED payloadTypeFEC s.sender call).map
      fun sender => { s with sender := sender }
  | .arrives a =>
    (FecReceiverImpl.step payloadTypeFEC (s.receiver, s.handed_over) a).map
      fun t => { s with receiver := t.1, handed_over := t.2 }

/-- The sender is called as it must be. What arrives was sent before. -/
def Event.Fits (S : MediaStream) (payloadTypeFEC : UInt8) (s : VideoTransmission) : Event → Prop
  | .call c => c.Fits S payloadTypeFEC s.sender
  | .arrives a => ∃ x ∈ s.sender.sent,
      a.packet.header = ⟨x.rtp_header_length, x.seq_num⟩ ∧ a.packet.Carries x.red_packet

variable {S : MediaStream} {mask_tables : FecMaskType → MaskTable}
  {payloadTypeRED payloadTypeFEC : UInt8} {start : UInt16}

/-- What arrives changes nothing for the sender. -/
theorem sender_of_arrives {s t : VideoTransmission} {a : FecReceiverImpl.Arrival}
    (h : step mask_tables payloadTypeRED payloadTypeFEC s (.arrives a) = some t) :
    t.sender = s.sender := by
  obtain ⟨r, -, rfl⟩ := Option.map_eq_some_iff.mp h
  rfl

structure Transmitting (S : MediaStream) (mask_tables : FecMaskType → MaskTable)
    (payloadTypeRED payloadTypeFEC : UInt8) (start : UInt16) (s : VideoTransmission) : Prop where
  sending : RTPSenderVideo.Sending S mask_tables payloadTypeRED payloadTypeFEC start s.sender
  hands_over : FecReceiverImpl.HandsOver S (s.receiver, s.handed_over)

theorem Transmitting.step {s : VideoTransmission} {event : Event}
    (h : Transmitting S mask_tables payloadTypeRED payloadTypeFEC start s)
    (hred : payloadTypeRED < 0x80) (hfec : payloadTypeFEC < 0x80)
    (hevent : event.Fits S payloadTypeFEC s) :
    ∃ t, step mask_tables payloadTypeRED payloadTypeFEC s event = some t ∧
      Transmitting S mask_tables payloadTypeRED payloadTypeFEC start t := by
  cases event with
  | call call =>
      obtain ⟨t, ht, hsending⟩ := h.sending.step hevent
      refine ⟨{ s with sender := t }, ?_, hsending, h.hands_over⟩
      rw [VideoTransmission.step, ht, Option.map_some]
  | arrives a =>
      obtain ⟨x, hx, hheader, hcarries⟩ := hevent
      obtain ⟨fec_mask_type, hwire⟩ := h.sending.wired x hx a.packet hheader hcarries
      have hreceive : ∃ t, FecReceiverImpl.step payloadTypeFEC (s.receiver, s.handed_over) a =
          some t ∧ FecReceiverImpl.HandsOver S t :=
        FecReceiverImpl.handsOver_step h.hands_over hred hfec hwire
      obtain ⟨t, ht, hhands⟩ := hreceive
      refine ⟨{ s with receiver := t.1, handed_over := t.2 }, ?_, h.sending, hhands⟩
      rw [VideoTransmission.step, ht, Option.map_some]

/-- However the calls of the sender and the arrivals of its packets interleave, and whatever the
network loses, doubles or puts out of order: neither side does what is not defined, the sequence
numbers have no gap, and whatever the receiver hands over is a media packet as it was sent. -/
theorem delivers_what_was_sent (S : MediaStream) (mask_tables : FecMaskType → MaskTable)
    (payloadTypeRED payloadTypeFEC : UInt8) (start : UInt16) (events : List Event)
    (hred : payloadTypeRED < 0x80) (hfec : payloadTypeFEC < 0x80)
    (h : Admissible (step mask_tables payloadTypeRED payloadTypeFEC)
      (Event.Fits S payloadTypeFEC) (new start) events) :
    ∃ s, exec (step mask_tables payloadTypeRED payloadTypeFEC) (new start) events = some s ∧
      s.sender.sent.map (·.seq_num) =
        (List.range s.sender.sent.length).map (fun i => start + UInt16.ofNat i) ∧
      ∀ pkt ∈ s.handed_over, ∃ seq_num, S.Sends seq_num pkt := by
  have hnew : Transmitting S mask_tables payloadTypeRED payloadTypeFEC start (new start) :=
    ⟨RTPSenderVideo.sending_new S mask_tables payloadTypeRED payloadTypeFEC start,
      sound_empty, by simp [new, FecReceiverImpl.new], by simp [new]⟩
  obtain ⟨s, hs, hend⟩ :=
    exec_of_admissible (fun _ _ hkeep hevent => hkeep.step hred hfec hevent) hnew h
  exact ⟨s, hs, hend.sending.numbered.seq_nums, hend.hands_over.handed⟩

/-- A packet that comes in as it was sent. -/
def arrival (x : SentPacket) : Event :=
  .arrives ⟨⟨⟨x.rtp_header_length, x.seq_num⟩, x.red_packet.data, x.red_packet.length⟩, 0,
    fun _ => true⟩

/-- What is sent of a frame. -/
def frameSent : List SentPacket :=
  ((exec (RTPSenderVideo.step (fun _ => sampleTable) 97 98) (RTPSenderVideo.new 7)
    RTPSenderVideo.frameCalls).map (·.sent)).getD []

/-- The first packet of a frame is lost, the FEC packet comes before the second one. -/
def lossyEvents : List Event :=
  RTPSenderVideo.frameCalls.map .call ++ (frameSent.drop 1).reverse.map arrival

theorem lossyEvents_fit : Admissible (step (fun _ => sampleTable) 97 98)
    (Event.Fits RTPSenderVideo.frameStream 98) (new 7) lossyEvents := by
  have hle : ∀ seq_num pkt, RTPSenderVideo.frameStream.packet seq_num = some pkt →
      12 ≤ pkt.length.toNat :=
    fun seq_num pkt hpkt => (RTPSenderVideo.frameStream.rtp seq_num pkt hpkt).header
  refine ⟨rfl, fun s hs => ?_⟩
  obtain rfl := Option.some.inj hs
  refine ⟨⟨rfl, by decide, by decide, rfl, by decide, hle⟩, fun t ht => ?_⟩
  obtain rfl := Option.some.inj ht
  refine ⟨⟨rfl, by decide, by decide, rfl, by decide, hle⟩, fun u hu => ?_⟩
  obtain rfl := Option.some.inj hu
  refine ⟨⟨_, List.mem_cons_of_mem _ (List.mem_cons_of_mem _ List.mem_cons_self), rfl, rfl,
    fun _ _ => rfl⟩, fun v hv => ?_⟩
  have hmem : ⟨8, 12, ProducerFec.BuildRedPacket (RTPSenderVideo.framePacket true 8 43).data 1 12
      97⟩ ∈ v.sender.sent := by
    rw [sender_of_arrives hv]
    exact List.mem_cons_of_mem _ List.mem_cons_self
  exact ⟨⟨_, hmem, rfl, rfl, fun _ _ => rfl⟩, fun _ _ => trivial⟩

theorem delivers_what_was_sent_loss :
    ∃ s, exec (step (fun _ => sampleTable) 97 98) (new 7) lossyEvents = some s ∧
      s.sender.sent.map (·.seq_num) =
        (List.range s.sender.sent.length).map (fun i => 7 + UInt16.ofNat i) ∧
      ∀ pkt ∈ s.handed_over, ∃ seq_num, RTPSenderVideo.frameStream.Sends seq_num pkt :=
  delivers_what_was_sent RTPSenderVideo.frameStream (fun _ => sampleTable) 97 98 7 lossyEvents
    (by decide) (by decide) lossyEvents_fit

end VideoTransmission

end Collaboration
