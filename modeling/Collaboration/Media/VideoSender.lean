import Collaboration.Library.Transition
import Collaboration.Media.FecReceiver

/-! # The sender of video packets

`RTPSenderVideo` sends every media packet behind a RED header and gives it to `ProducerFec`, which
makes FEC packets for the packets of some frames. What goes over the network this way is what the
receiver is made for. -/

namespace Collaboration

open Transition ForwardErrorCorrection

/-! ## Producing FEC packets -/

inductive FecMaskType
  | kFecMaskRandom
  | kFecMaskBursty

structure FecProtectionParams where
  fec_rate : UInt8
  use_uep_protection : Bool
  max_fec_frames : ℤ
  fec_mask_type : FecMaskType

def kMaxExcessOverhead : ℤ := 50
def kMinimumMediaPackets : ℕ := 4
def kHighProtectionThreshold : ℕ := 80
def kRtpMarkerBitMask : UInt8 := 0x80

structure ProducerFec where
  media_packets_fec_ : List ForwardErrorCorrection.Packet
  fec_packets_ : List ForwardErrorCorrection.Packet
  num_frames_ : ℕ
  incomplete_frame_ : Bool
  num_first_partition_ : ℕ
  minimum_media_packets_fec_ : ℕ
  params_ : FecProtectionParams
  new_params_ : FecProtectionParams

namespace ProducerFec

def new : ProducerFec where
  media_packets_fec_ := []
  fec_packets_ := []
  num_frames_ := 0
  incomplete_frame_ := false
  num_first_partition_ := 0
  minimum_media_packets_fec_ := 1
  params_ := ⟨0, false, 0, .kFecMaskRandom⟩
  new_params_ := ⟨0, false, 0, .kFecMaskRandom⟩

def SetFecParameters (s : ProducerFec) (params : FecProtectionParams) (num_first_partition : ℕ) :
    ProducerFec :=
  { s with
    -- Apply them for the next set of FEC packets being produced.
    new_params_ := params
    num_first_partition_ := min num_first_partition kMaxMediaPackets
    minimum_media_packets_fec_ :=
      if kHighProtectionThreshold < params.fec_rate.toNat then kMinimumMediaPackets else 1 }

/-- The overhead in Q8, relative to the number of media packets. -/
def Overhead (s : ProducerFec) : ℕ :=
  (GetNumberOfFecPackets s.media_packets_fec_.length s.params_.fec_rate.toNat <<< 8) /
    s.media_packets_fec_.length

def ExcessOverheadBelowMax (s : ProducerFec) : Bool :=
  decide ((s.Overhead : ℤ) - s.params_.fec_rate.toNat < kMaxExcessOverhead)

def MinimumMediaPacketsReached (s : ProducerFec) : Bool :=
  -- The average number of packets of a frame is below 2.
  if s.media_packets_fec_.length < 2 * s.num_frames_ then
    decide (s.minimum_media_packets_fec_ ≤ s.media_packets_fec_.length)
  else decide (s.minimum_media_packets_fec_ + 1 ≤ s.media_packets_fec_.length)

/-- Takes a packet into the list of those that are to be protected. -/
def storePacket (s : ProducerFec) (packet : ForwardErrorCorrection.Packet) : ProducerFec :=
  { s with
    params_ := if s.media_packets_fec_.isEmpty then s.new_params_ else s.params_
    -- Generic FEC can only protect up to kMaxMediaPackets packets.
    media_packets_fec_ :=
      if s.media_packets_fec_.length < kMaxMediaPackets then s.media_packets_fec_ ++ [packet]
      else s.media_packets_fec_ }

def countFrame (s : ProducerFec) (marker_bit : Bool) : ProducerFec :=
  { s with
    num_frames_ := if marker_bit then s.num_frames_ + 1 else s.num_frames_
    incomplete_frame_ := !marker_bit }

/-- The media packets are dropped when there are no FEC packets for them. -/
def produceFec (mask_tables : FecMaskType → MaskTable) (s : ProducerFec) :
    Option (ℤ × ProducerFec) :=
  -- What `GenerateFEC` asserts.
  if s.media_packets_fec_.length < s.num_first_partition_ then none
  else
    (GenerateFEC (mask_tables s.params_.fec_mask_type) s.media_packets_fec_ s.params_.fec_rate
      s.num_first_partition_ s.params_.use_uep_protection).map fun r =>
        (r.1, if r.2.isEmpty then { s with num_frames_ := 0, media_packets_fec_ := [] }
          else { s with fec_packets_ := r.2 })

def AddRtpPacketAndGenerateFec (mask_tables : FecMaskType → MaskTable) (s : ProducerFec)
    (data_buffer : ℕ → UInt8) (payload_length rtp_header_length : ℕ) :
    Option (ℤ × ProducerFec) :=
  -- What the code asserts at first.
  if !s.fec_packets_.isEmpty then none
  else
    let s := s.storePacket ⟨UInt16.ofNat (payload_length + rtp_header_length), data_buffer⟩
    let s := s.countFrame (data_buffer 1 &&& kRtpMarkerBitMask != 0)
    if !s.incomplete_frame_ && (decide ((s.num_frames_ : ℤ) = s.params_.max_fec_frames) ||
        (s.ExcessOverheadBelowMax && s.MinimumMediaPacketsReached)) then
      s.produceFec mask_tables
    else some (0, s)

/-- `GetFecPacket` with the lists: the first FEC packet is taken out, and with the last one the
media packets go. -/
def takeFecPacket (s : ProducerFec) (red_pl_type fec_pl_type : UInt8) (seq_num : UInt16)
    (rtp_header_length : ℕ) : Option (RedPacket × ProducerFec) :=
  match s.fec_packets_, s.media_packets_fec_.getLast? with
  | packet_to_send :: fec_packets, some last_media_packet =>
    some (GetFecPacket packet_to_send last_media_packet red_pl_type fec_pl_type seq_num
        rtp_header_length,
      if fec_packets.isEmpty then
        { s with fec_packets_ := [], media_packets_fec_ := [], num_frames_ := 0 }
      else { s with fec_packets_ := fec_packets })
  | _, _ => none

/-! ## The packets that are protected -/

variable {S : MediaStream} {mask_tables : FecMaskType → MaskTable} {next : UInt16}

/-- The packets to be protected are in a row, and end before this number unless there are too many
of them. -/
def Collects (S : MediaStream) (next : UInt16) (s : ProducerFec) : Prop :=
  ∃ seq_num, S.Contiguous seq_num s.media_packets_fec_ ∧
    (s.media_packets_fec_.length < kMaxMediaPackets →
      seq_num + UInt16.ofNat s.media_packets_fec_.length = next)

/-- The FEC packets are for the packets that are still there. -/
def Protects (S : MediaStream) (mask_tables : FecMaskType → MaskTable) (s : ProducerFec) : Prop :=
  ∃ seq_num fec_mask_type protection_factor use_unequal_protection ret,
    S.Contiguous seq_num s.media_packets_fec_ ∧
    GenerateFEC (mask_tables fec_mask_type) s.media_packets_fec_ protection_factor 0
      use_unequal_protection = some (ret, s.fec_packets_)

theorem collects_nil {s : ProducerFec} (h : s.media_packets_fec_ = []) (next : UInt16) :
    s.Collects S next := by
  refine ⟨next, ?_, fun _ => ?_⟩
  · rw [h]
    exact trivial
  · rw [h]
    simp

theorem contiguous_concat {seq_num : UInt16} {media : List ForwardErrorCorrection.Packet}
    {pkt : ForwardErrorCorrection.Packet} (h : S.Contiguous seq_num media)
    (hpkt : S.packet (seq_num + UInt16.ofNat media.length) = some pkt) :
    S.Contiguous seq_num (media ++ [pkt]) := by
  induction media generalizing seq_num with
  | nil => exact ⟨by simpa using hpkt, trivial⟩
  | cons p media ih =>
      refine ⟨h.1, ih h.2 ?_⟩
      rw [List.length_cons, UInt16.ofNat_add] at hpkt
      rw [UInt16.add_assoc, UInt16.add_comm 1]
      exact hpkt

theorem Collects.storePacket {s : ProducerFec} {pkt : ForwardErrorCorrection.Packet}
    (h : s.Collects S next) (hpkt : S.packet next = some pkt) :
    (s.storePacket pkt).Collects S (next + 1) ∧ (s.storePacket pkt).media_packets_fec_ ≠ [] := by
  obtain ⟨seq_num, hcontiguous, hnext⟩ := h
  by_cases hroom : s.media_packets_fec_.length < kMaxMediaPackets
  · have hmedia : (s.storePacket pkt).media_packets_fec_ = s.media_packets_fec_ ++ [pkt] :=
      if_pos hroom
    unfold Collects
    rw [hmedia]
    refine ⟨⟨seq_num, contiguous_concat hcontiguous (by rwa [hnext hroom]), fun _ => ?_⟩, by simp⟩
    rw [List.length_append, List.length_singleton, UInt16.ofNat_add, ← UInt16.add_assoc,
      hnext hroom]
    rfl
  · have hmedia : (s.storePacket pkt).media_packets_fec_ = s.media_packets_fec_ := if_neg hroom
    unfold Collects
    rw [hmedia]
    refine ⟨⟨seq_num, hcontiguous, fun hlt => absurd hlt hroom⟩, ?_⟩
    rintro hnil
    rw [hnil] at hroom
    exact hroom (by decide)

/-- No FEC packets are there after a failure. -/
theorem fecs_of_failure {mask_table : MaskTable} {media : List ForwardErrorCorrection.Packet}
    {protection_factor : UInt8} {num_important_packets : ℕ} {use_unequal_protection : Bool}
    {ret : ℤ} {fec_packet_list : List ForwardErrorCorrection.Packet}
    (h : GenerateFEC mask_table media protection_factor num_important_packets
      use_unequal_protection = some (ret, fec_packet_list)) (hret : ret ≠ 0) :
    fec_packet_list = [] := by
  unfold GenerateFEC at h
  split at h
  · simp at h
  · dsimp only at h
    split at h
    · exact (Prod.mk.inj (Option.some.inj h)).2.symm
    · split at h
      · exact (Prod.mk.inj (Option.some.inj h)).2.symm
      · split at h
        · exact (Prod.mk.inj (Option.some.inj h)).2.symm
        · obtain ⟨_, -, h⟩ := Option.bind_eq_some_iff.mp h
          obtain ⟨_, -, h⟩ := Option.bind_eq_some_iff.mp h
          exact absurd (Prod.mk.inj (Option.some.inj h)).1.symm hret

theorem Collects.produceFec {s : ProducerFec} (h : s.Collects S next)
    (hne : s.media_packets_fec_ ≠ []) (hpartition : s.num_first_partition_ = 0)
    (hfecs : s.fec_packets_ = []) :
    ∃ ret t, s.produceFec mask_tables = some (ret, t) ∧ t.num_first_partition_ = 0 ∧
      t.Collects S next ∧ (t.fec_packets_ ≠ [] → ret = 0 ∧ t.Protects S mask_tables ∧
        t.media_packets_fec_ ≠ []) := by
  obtain ⟨seq_num, hcontiguous, hnext⟩ := h
  obtain ⟨ret, fecs, hgenerate, -⟩ := generateFEC_spec (mask_tables s.params_.fec_mask_type)
    hcontiguous hne s.params_.fec_rate (Nat.zero_le _) s.params_.use_uep_protection
  have hproduce : s.produceFec mask_tables = some (ret,
      if fecs.isEmpty then { s with num_frames_ := 0, media_packets_fec_ := [] }
        else { s with fec_packets_ := fecs }) := by
    unfold ProducerFec.produceFec
    rw [if_neg (by omega), hpartition, hgenerate]
    rfl
  cases fecs with
  | nil =>
      exact ⟨ret, _, hproduce, hpartition, collects_nil rfl next, fun hsome => absurd hfecs hsome⟩
  | cons pkt fecs =>
      refine ⟨ret, _, hproduce, hpartition, ⟨seq_num, hcontiguous, hnext⟩, fun _ => ⟨?_, ?_, hne⟩⟩
      · by_contra hret
        exact absurd (fecs_of_failure hgenerate hret) (List.cons_ne_nil _ _)
      · exact ⟨seq_num, _, _, _, ret, hcontiguous, hgenerate⟩

theorem addRtpPacketAndGenerateFec_spec {s : ProducerFec} (h : s.Collects S next)
    (hpartition : s.num_first_partition_ = 0) (hfecs : s.fec_packets_ = [])
    {data_buffer : ℕ → UInt8} {payload_length rtp_header_length : ℕ}
    (hpkt : S.packet next =
      some ⟨UInt16.ofNat (payload_length + rtp_header_length), data_buffer⟩) :
    ∃ ret t, s.AddRtpPacketAndGenerateFec mask_tables data_buffer payload_length
        rtp_header_length = some (ret, t) ∧ t.num_first_partition_ = 0 ∧
      t.Collects S (next + 1) ∧ (t.fec_packets_ ≠ [] → ret = 0 ∧ t.Protects S mask_tables ∧
        t.media_packets_fec_ ≠ []) := by
  obtain ⟨hcollects, hne⟩ := h.storePacket hpkt
  unfold AddRtpPacketAndGenerateFec
  rw [hfecs, if_neg (by simp)]
  dsimp only
  split
  · exact Collects.produceFec hcollects hne hpartition hfecs
  · exact ⟨0, _, rfl, hpartition, hcollects, fun hsome => absurd hfecs hsome⟩

theorem takeFecPacket_spec {s : ProducerFec} {pkt last : ForwardErrorCorrection.Packet}
    {rest : List ForwardErrorCorrection.Packet} (hfecs : s.fec_packets_ = pkt :: rest)
    (hlast : s.media_packets_fec_.getLast? = some last) (red_pl_type fec_pl_type : UInt8)
    (seq_num : UInt16) (rtp_header_length : ℕ) :
    ∃ t, s.takeFecPacket red_pl_type fec_pl_type seq_num rtp_header_length =
        some (GetFecPacket pkt last red_pl_type fec_pl_type seq_num rtp_header_length, t) ∧
      t.fec_packets_ = rest ∧ t.num_first_partition_ = s.num_first_partition_ ∧
      (rest = [] → t.media_packets_fec_ = []) ∧
      (rest ≠ [] → t.media_packets_fec_ = s.media_packets_fec_) := by
  unfold takeFecPacket
  rw [hfecs, hlast]
  cases rest with
  | nil => exact ⟨_, rfl, rfl, rfl, fun _ => rfl, fun hne => absurd rfl hne⟩
  | cons q rest => exact ⟨_, rfl, rfl, rfl, fun hnil => absurd hnil (by simp), fun _ => rfl⟩

end ProducerFec

/-! ## Sending -/

/-- A packet that was given to `SendToNetwork`. -/
structure SentPacket where
  seq_num : UInt16
  rtp_header_length : ℕ
  red_packet : RedPacket

structure RTPSenderVideo where
  producer_fec_ : ProducerFec
  sequence_number_ : UInt16
  sent : List SentPacket

namespace RTPSenderVideo

/-- What is asked of it. A media packet comes with its RTP header. -/
inductive Call
  | setFecParameters (params : FecProtectionParams) (num_first_partition : ℕ)
  | sendVideoPacket (data_buffer : ℕ → UInt8) (payload_length rtp_header_length : ℕ)
      (protect : Bool)

def new (sequence_number : UInt16) : RTPSenderVideo := ⟨ProducerFec.new, sequence_number, []⟩

/-- Sends a packet with the next sequence number. -/
def send (s : RTPSenderVideo) (producer_fec : ProducerFec) (rtp_header_length : ℕ)
    (red_packet : RedPacket) : RTPSenderVideo :=
  ⟨producer_fec, s.sequence_number_ + 1,
    s.sent ++ [⟨s.sequence_number_, rtp_header_length, red_packet⟩]⟩

/-- The loop of `SendVideoPacket` while there are FEC packets. -/
def sendFecPackets (payloadTypeRED payloadTypeFEC : UInt8) (rtp_header_length : ℕ) :
    List ForwardErrorCorrection.Packet → RTPSenderVideo → Option RTPSenderVideo
  | [], s => some s
  | _ :: rest, s =>
    (s.producer_fec_.takeFecPacket payloadTypeRED payloadTypeFEC s.sequence_number_
      rtp_header_length).bind fun r =>
        sendFecPackets payloadTypeRED payloadTypeFEC rtp_header_length rest
          (s.send r.2 rtp_header_length r.1)

/-- `SendVideoPacket` where FEC is enabled. The number of the media packet was taken when its
header was built. -/
def SendVideoPacket (mask_tables : FecMaskType → MaskTable)
    (payloadTypeRED payloadTypeFEC : UInt8) (s : RTPSenderVideo) (data_buffer : ℕ → UInt8)
    (payload_length rtp_header_length : ℕ) (protect : Bool) : Option RTPSenderVideo :=
  let red_packet :=
    ProducerFec.BuildRedPacket data_buffer payload_length rtp_header_length payloadTypeRED
  let s := s.send s.producer_fec_ rtp_header_length red_packet
  if protect then
    (s.producer_fec_.AddRtpPacketAndGenerateFec mask_tables data_buffer payload_length
      rtp_header_length).bind fun r =>
        let s := { s with producer_fec_ := r.2 }
        if r.1 ≠ 0 then some s
        else
          sendFecPackets payloadTypeRED payloadTypeFEC rtp_header_length
            s.producer_fec_.fec_packets_ s
  else
    sendFecPackets payloadTypeRED payloadTypeFEC rtp_header_length
      s.producer_fec_.fec_packets_ s

def step (mask_tables : FecMaskType → MaskTable) (payloadTypeRED payloadTypeFEC : UInt8)
    (s : RTPSenderVideo) : Call → Option RTPSenderVideo
  | .setFecParameters params num_first_partition =>
    some { s with producer_fec_ := s.producer_fec_.SetFecParameters params num_first_partition }
  | .sendVideoPacket data_buffer payload_length rtp_header_length protect =>
    SendVideoPacket mask_tables payloadTypeRED payloadTypeFEC s data_buffer payload_length
      rtp_header_length protect

/-! ## What is sent -/

variable {S : MediaStream} {mask_tables : FecMaskType → MaskTable}
  {payloadTypeRED payloadTypeFEC : UInt8} {start : UInt16}

/-- Whoever gets this packet gets one that a sender makes. -/
def Wired (S : MediaStream) (mask_tables : FecMaskType → MaskTable)
    (payloadTypeRED payloadTypeFEC : UInt8) (x : SentPacket) : Prop :=
  ∀ p : IncomingPacket, p.header = ⟨x.rtp_header_length, x.seq_num⟩ → p.Carries x.red_packet →
    ∃ fec_mask_type,
      FecReceiverImpl.OnWire S (mask_tables fec_mask_type) payloadTypeRED payloadTypeFEC p

/-- The stream is what is sent, and all of it is protected: no RTP header is longer than a packet,
and there is no partition that is more important, as with all codecs but one. -/
def Call.Fits (S : MediaStream) (payloadTypeFEC : UInt8) (s : RTPSenderVideo) : Call → Prop
  | .setFecParameters _ num_first_partition => num_first_partition = 0
  | .sendVideoPacket data_buffer payload_length rtp_header_length protect =>
    protect = true ∧ kRtpHeaderSize ≤ rtp_header_length ∧
    payload_length + rtp_header_length < 0x10000 ∧
    S.packet s.sequence_number_ =
      some ⟨UInt16.ofNat (payload_length + rtp_header_length), data_buffer⟩ ∧
    data_buffer 1 &&& 0x7f ≠ payloadTypeFEC ∧
    ∀ seq_num pkt, S.packet seq_num = some pkt → rtp_header_length ≤ pkt.length.toNat

/-- The packets have numbers without a gap, from the first one to the next one. -/
structure Numbered (start : UInt16) (s : RTPSenderVideo) : Prop where
  seq_nums : s.sent.map (·.seq_num) =
    (List.range s.sent.length).map fun i => start + UInt16.ofNat i
  next : s.sequence_number_ = start + UInt16.ofNat s.sent.length

structure Sending (S : MediaStream) (mask_tables : FecMaskType → MaskTable)
    (payloadTypeRED payloadTypeFEC : UInt8) (start : UInt16) (s : RTPSenderVideo) : Prop where
  numbered : Numbered start s
  wired : ∀ x ∈ s.sent, Wired S mask_tables payloadTypeRED payloadTypeFEC x
  no_fec : s.producer_fec_.fec_packets_ = []
  no_partition : s.producer_fec_.num_first_partition_ = 0
  collects : s.producer_fec_.Collects S s.sequence_number_

theorem sending_new (S : MediaStream) (mask_tables : FecMaskType → MaskTable)
    (payloadTypeRED payloadTypeFEC : UInt8) (start : UInt16) :
    Sending S mask_tables payloadTypeRED payloadTypeFEC start (new start) where
  numbered := ⟨rfl, by simp [new]⟩
  wired := by simp [new]
  no_fec := rfl
  no_partition := rfl
  collects := ProducerFec.collects_nil rfl start

theorem Numbered.send {s : RTPSenderVideo} (h : Numbered start s) (producer_fec : ProducerFec)
    (rtp_header_length : ℕ) (red_packet : RedPacket) :
    Numbered start (s.send producer_fec rtp_header_length red_packet) where
  seq_nums := by
    simp only [RTPSenderVideo.send, List.map_append, List.length_append, List.length_singleton,
      List.range_succ, h.seq_nums, h.next, List.map_cons, List.map_nil]
  next := by
    simp only [RTPSenderVideo.send, List.length_append, List.length_singleton, h.next,
      UInt16.ofNat_add, UInt16.add_assoc]
    rfl

theorem wired_concat {s : RTPSenderVideo} (h : ∀ x ∈ s.sent,
    Wired S mask_tables payloadTypeRED payloadTypeFEC x) (producer_fec : ProducerFec)
    {rtp_header_length : ℕ} {red_packet : RedPacket}
    (hnew : Wired S mask_tables payloadTypeRED payloadTypeFEC
      ⟨s.sequence_number_, rtp_header_length, red_packet⟩) :
    ∀ x ∈ (s.send producer_fec rtp_header_length red_packet).sent,
      Wired S mask_tables payloadTypeRED payloadTypeFEC x := by
  intro x hx
  rcases List.mem_append.mp hx with hx | hx
  · exact h x hx
  · rw [List.mem_singleton.mp hx]
    exact hnew

theorem sendFecPackets_spec {rtp_header_length : ℕ} (last : ForwardErrorCorrection.Packet)
    {fecs : List ForwardErrorCorrection.Packet} {s : RTPSenderVideo} (hnumbered : Numbered start s)
    (hwired : ∀ x ∈ s.sent, Wired S mask_tables payloadTypeRED payloadTypeFEC x)
    (hfecs : s.producer_fec_.fec_packets_ = fecs)
    (hpartition : s.producer_fec_.num_first_partition_ = 0)
    (hlast : fecs ≠ [] → s.producer_fec_.media_packets_fec_.getLast? = some last)
    (hcollects : fecs = [] → s.producer_fec_.Collects S s.sequence_number_)
    (hnew : ∀ pkt ∈ fecs, ∀ seq_num, Wired S mask_tables payloadTypeRED payloadTypeFEC
      ⟨seq_num, rtp_header_length, ProducerFec.GetFecPacket pkt last payloadTypeRED payloadTypeFEC
        seq_num rtp_header_length⟩) :
    ∃ t, sendFecPackets payloadTypeRED payloadTypeFEC rtp_header_length fecs s = some t ∧
      Sending S mask_tables payloadTypeRED payloadTypeFEC start t := by
  induction fecs generalizing s with
  | nil => exact ⟨s, rfl, hnumbered, hwired, hfecs, hpartition, hcollects rfl⟩
  | cons pkt fecs ih =>
      have hback := hlast (List.cons_ne_nil pkt fecs)
      obtain ⟨producer, htake, hrest, hkeep, hgone, hstay⟩ := ProducerFec.takeFecPacket_spec hfecs
        hback payloadTypeRED payloadTypeFEC s.sequence_number_ rtp_header_length
      rw [sendFecPackets, htake, Option.bind_some]
      refine ih (hnumbered.send _ _ _)
        (wired_concat hwired _ (hnew pkt List.mem_cons_self s.sequence_number_)) hrest
        (hkeep.trans hpartition) (fun hne => ?_)
        (fun hnil => ProducerFec.collects_nil (hgone hnil) _)
        fun q hq => hnew q (List.mem_cons_of_mem _ hq)
      exact (congrArg List.getLast? (hstay hne)).trans hback

theorem Sending.step {s : RTPSenderVideo} {call : Call}
    (h : Sending S mask_tables payloadTypeRED payloadTypeFEC start s)
    (hcall : call.Fits S payloadTypeFEC s) :
    ∃ t, step mask_tables payloadTypeRED payloadTypeFEC s call = some t ∧
      Sending S mask_tables payloadTypeRED payloadTypeFEC start t := by
  cases call with
  | setFecParameters params num_first_partition =>
      obtain rfl : num_first_partition = 0 := hcall
      exact ⟨_, rfl, ⟨h.numbered.seq_nums, h.numbered.next⟩, h.wired, h.no_fec, rfl, h.collects⟩
  | sendVideoPacket data_buffer payload_length rtp_header_length protect =>
      obtain ⟨rfl, hheader, hsize, hpkt, htype, hle⟩ := hcall
      have hlength : (UInt16.ofNat (payload_length + rtp_header_length)).toNat =
          payload_length + rtp_header_length := by
        rw [UInt16.toNat_ofNat']
        exact Nat.mod_eq_of_lt hsize
      have hmedia : Wired S mask_tables payloadTypeRED payloadTypeFEC
          ⟨s.sequence_number_, rtp_header_length, ProducerFec.BuildRedPacket data_buffer
            payload_length rtp_header_length payloadTypeRED⟩ := by
        intro p hp hcarries
        refine ⟨.kFecMaskRandom, .media (by rw [hp]; exact hpkt) ?_ ?_ htype ?_⟩
        · rw [hp]
          exact hheader
        · rw [hp]
          exact hle _ _ hpkt
        · rw [hp, hlength, Nat.add_sub_cancel]
          exact hcarries
      obtain ⟨ret, producer, hadd, hpartition, hcollects, hfecs⟩ :=
        ProducerFec.addRtpPacketAndGenerateFec_spec h.collects h.no_partition h.no_fec hpkt
      have hsend := h.numbered.send producer rtp_header_length (ProducerFec.BuildRedPacket
        data_buffer payload_length rtp_header_length payloadTypeRED)
      have hwired := wired_concat h.wired producer hmedia
      simp only [RTPSenderVideo.step, SendVideoPacket, if_true]
      have hadd' : (s.send s.producer_fec_ rtp_header_length (ProducerFec.BuildRedPacket
          data_buffer payload_length rtp_header_length
          payloadTypeRED)).producer_fec_.AddRtpPacketAndGenerateFec mask_tables data_buffer
          payload_length rtp_header_length = some (ret, producer) := hadd
      rw [hadd', Option.bind_some]
      by_cases hnone : producer.fec_packets_ = []
      · split
        · exact ⟨_, rfl, hsend, hwired, hnone, hpartition, hcollects⟩
        · dsimp only
          rw [hnone]
          exact ⟨_, rfl, hsend, hwired, hnone, hpartition, hcollects⟩
      · obtain ⟨hret, ⟨seq_num, fec_mask_type, factor, uep, ret', hcontiguous, hgenerate⟩, hne⟩ :=
          hfecs hnone
        rw [if_neg (not_not.mpr hret)]
        refine sendFecPackets_spec (producer.media_packets_fec_.getLast hne) hsend hwired rfl
          hpartition (fun _ => List.getLast?_eq_some_getLast hne)
          (fun hnil => absurd hnil hnone) fun pkt hmem n p hp hcarries => ?_
        have hlast : producer.media_packets_fec_.getLast hne ∈
            producer.media_packets_fec_.getLast? := List.getLast?_eq_some_getLast hne
        obtain ⟨m, hm⟩ := FecReceiverImpl.contiguous_mem hcontiguous (List.getLast_mem hne)
        refine ⟨fec_mask_type, .fec hcontiguous (Nat.zero_le _) hgenerate hmem hlast ?_ ?_ ?_⟩
        · rw [hp]
          exact hheader
        · rw [hp]
          exact hle _ _ hm
        · rw [hp]
          exact hcarries

/-- Whatever frames are sent with whatever FEC parameters, nothing goes wrong, the packets that go
over the network have sequence numbers without a gap, and each of them is one that the receiver is
made for: a media packet, or an FEC packet for media packets in a row. -/
theorem sends_in_sequence (S : MediaStream) (mask_tables : FecMaskType → MaskTable)
    (payloadTypeRED payloadTypeFEC : UInt8) (start : UInt16) (calls : List Call)
    (h : Admissible (step mask_tables payloadTypeRED payloadTypeFEC) (Call.Fits S payloadTypeFEC)
      (new start) calls) :
    ∃ s, exec (step mask_tables payloadTypeRED payloadTypeFEC) (new start) calls = some s ∧
      s.sent.map (·.seq_num) = (List.range s.sent.length).map (fun i => start + UInt16.ofNat i) ∧
      ∀ x ∈ s.sent, Wired S mask_tables payloadTypeRED payloadTypeFEC x := by
  obtain ⟨s, hs, hsending⟩ := exec_of_admissible
    (fun _ _ hsending hcall => Sending.step hsending hcall)
    (sending_new S mask_tables payloadTypeRED payloadTypeFEC start) h
  exact ⟨s, hs, hsending.numbered.seq_nums, hsending.wired⟩

/-- An RTP packet with a payload of one byte, the last one of a frame or not. -/
def framePacket (marker_bit : Bool) (seq_num payload : UInt8) : ForwardErrorCorrection.Packet :=
  ⟨13, fun j =>
    [0x80, if marker_bit then 224 else 96, 0, seq_num, 0, 0, 0, 0, 0, 0, 0, 1, payload].getD j 0⟩

/-- The two packets of a frame. -/
def frameStream : MediaStream where
  ssrc := 1
  start := 7
  packet seq_num :=
    if seq_num = 7 then some (framePacket false 7 42)
    else if seq_num = 8 then some (framePacket true 8 43)
    else none
  window := by
    intro seq_num p hp
    split_ifs at hp with h7 h8
    · rw [h7]
      decide
    · rw [h8]
      decide
  rtp := by
    intro seq_num p hp
    split_ifs at hp with h7 h8
    · obtain rfl := Option.some.inj hp
      rw [h7]
      exact ⟨by decide, by decide, by decide, by decide, by decide⟩
    · obtain rfl := Option.some.inj hp
      rw [h8]
      exact ⟨by decide, by decide, by decide, by decide, by decide⟩

/-- The frame is sent with one FEC packet. -/
def frameCalls : List Call :=
  [.setFecParameters ⟨128, false, 1, .kFecMaskRandom⟩ 0,
    .sendVideoPacket (framePacket false 7 42).data 1 12 true,
    .sendVideoPacket (framePacket true 8 43).data 1 12 true]

theorem frameCalls_fit : Admissible (step (fun _ => sampleTable) 97 98) (Call.Fits frameStream 98)
    (new 7) frameCalls := by
  have hle : ∀ seq_num pkt, frameStream.packet seq_num = some pkt → 12 ≤ pkt.length.toNat :=
    fun seq_num pkt hpkt => (frameStream.rtp seq_num pkt hpkt).header
  refine ⟨rfl, fun s hs => ?_⟩
  obtain rfl := Option.some.inj hs
  refine ⟨⟨rfl, by decide, by decide, rfl, by decide, hle⟩, fun t ht => ?_⟩
  obtain rfl := Option.some.inj ht
  exact ⟨⟨rfl, by decide, by decide, rfl, by decide, hle⟩, fun _ _ => trivial⟩

theorem sends_in_sequence_frame :
    ∃ s, exec (step (fun _ => sampleTable) 97 98) (new 7) frameCalls = some s ∧
      s.sent.map (·.seq_num) = [7, 8, 9] ∧
      ∀ x ∈ s.sent, Wired frameStream (fun _ => sampleTable) 97 98 x := by
  obtain ⟨s, hs, hseq, hwired⟩ :=
    sends_in_sequence frameStream (fun _ => sampleTable) 97 98 7 frameCalls frameCalls_fit
  have hthree : (exec (step (fun _ => sampleTable) 97 98) (new 7) frameCalls).map
      (fun s => s.sent.length) = some 3 := rfl
  rw [hs] at hthree
  have hlength : s.sent.length = 3 := Option.some.inj hthree
  refine ⟨s, hs, ?_, hwired⟩
  rw [hseq, hlength]
  decide

end RTPSenderVideo

end Collaboration
