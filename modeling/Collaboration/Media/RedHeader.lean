import Collaboration.Media.FecEncoding
import Collaboration.Media.RedPackets

/-! # The RED header

`FecReceiverImpl` takes off what `ProducerFec` puts before a packet. -/

namespace Collaboration

open ForwardErrorCorrection

namespace RedPacket

variable {r : RedPacket} {rtp_header : ℕ → UInt8} {header_length : ℕ} {red_pl_type pl_type : UInt8}

theorem createHeader_type :
    (r.CreateHeader rtp_header header_length red_pl_type pl_type).data header_length = pl_type := by
  simp only [CreateHeader]
  rw [copyBytes_inside le_rfl (by omega)]

theorem createHeader_marker (h : 1 < header_length) :
    (r.CreateHeader rtp_header header_length red_pl_type pl_type).data 1 =
      (rtp_header 1 &&& 0x80) + red_pl_type := by
  simp (disch := omega) only [CreateHeader, copyBytes_inside, copyBytes_outside, Nat.zero_add,
    Nat.sub_zero]

theorem createHeader_header {j : ℕ} (hj : j < header_length) (h1 : j ≠ 1) :
    (r.CreateHeader rtp_header header_length red_pl_type pl_type).data j = rtp_header j := by
  simp only [CreateHeader]
  rw [copyBytes_outside (by omega), copyBytes_outside (by omega),
    copyBytes_inside (by omega) (by omega), Nat.zero_add, Nat.sub_zero]

theorem assignPayload_data {payload : ℕ → UInt8} {length j : ℕ} (hj : j < r.header_length) :
    (r.AssignPayload payload length).data j = r.data j :=
  copyBytes_outside (.inl hj)

theorem assignPayload_payload {payload : ℕ → UInt8} {length j : ℕ} (hj : j < length) :
    (r.AssignPayload payload length).data (r.header_length + j) = payload j := by
  simp only [AssignPayload]
  rw [copyBytes_inside (by omega) (by omega), Nat.zero_add, Nat.add_sub_cancel_left]

end RedPacket

/-- The packet comes in as it was built. -/
def IncomingPacket.Carries (p : IncomingPacket) (r : RedPacket) : Prop :=
  p.packet_length = r.length ∧ ∀ j < r.length, p.incoming_rtp_packet j = r.data j

namespace FecReceiverImpl

variable {S : MediaStream} {p : IncomingPacket} {red_pl_type ulpfec_payload_type : UInt8}

/-- What the RED header and the payload behind it are, and what is kept of the RTP header. -/
structure Behind (p : IncomingPacket) (pl_type : UInt8) (payload : ℕ → UInt8) (n : ℕ) : Prop where
  length : p.packet_length = p.header.headerLength + 1 + n
  pl_type : redHeader p 0 = pl_type
  payload : ∀ j < n, redHeader p (1 + j) = payload j

theorem Behind.payload_data_length {pl_type : UInt8} {payload : ℕ → UInt8} {n : ℕ}
    (h : Behind p pl_type payload n) (hfits : p.packet_length < 0x10000) :
    (payload_data_length p).toNat = 1 + n := by
  have hlength := h.length
  have hpacket : (UInt16.ofNat p.packet_length).toNat = p.packet_length :=
    UInt16.toNat_ofNat_of_lt' hfits
  have hheader : (UInt16.ofNat p.header.headerLength).toNat = p.header.headerLength :=
    UInt16.toNat_ofNat_of_lt' (by unfold UInt16.size; omega)
  unfold FecReceiverImpl.payload_data_length
  rw [UInt16.toNat_sub_of_le _ _ (by rw [UInt16.le_iff_toNat_le]; omega)]
  omega

/-- Without the f bit there is one packet behind the header. -/
theorem addReceivedRedPacket_one {memory : UInt32} {r : FecReceiverImpl} {rx : ReceivedPacket}
    (hf : redHeader p 0 &&& 0x80 = 0)
    (hone : onePacket p ulpfec_payload_type 1 memory = some rx) (hlength : rx.pkt.length ≠ 0) :
    r.AddReceivedRedPacket p ulpfec_payload_type memory =
      some ({ r with received_packet_list_ := r.received_packet_list_ ++ [rx] }, 0) := by
  unfold AddReceivedRedPacket
  rw [if_neg (by simp [hf]), hone]
  simp [push, hlength]

theorem bufferToUWord32_eq (v : UInt32) {data : ℕ → UInt8} {i : ℕ}
    (h : ∀ j < 4, data (i + j) = bytes32 v j) : BufferToUWord32 data i = v := by
  have h0 : data i = (v >>> 24).toUInt8 := h 0 (by omega)
  have h1 : data (i + 1) = (v >>> 16).toUInt8 := h 1 (by omega)
  have h2 : data (i + 2) = (v >>> 8).toUInt8 := h 2 (by omega)
  have h3 : data (i + 3) = v.toUInt8 := h 3 (by omega)
  unfold BufferToUWord32
  rw [h0, h1, h2, h3]
  apply UInt32.toNat_inj.mp
  have hv := v.toNat_lt
  simp [Nat.shiftLeft_eq, Nat.shiftRight_eq_div_pow]
  omega

/-! ## Media packets -/

/-- The marker bit comes back, and the payload type. -/
theorem marker_and_type {red_pl_type : UInt8} (hred : red_pl_type < 0x80) (b : UInt8) :
    (((b &&& 0x80) + red_pl_type) &&& 0x80) + (b &&& 0x7f &&& 0x7f) = b := by
  have hmarker : ∀ b : UInt8, b &&& 0x80 = 0 ∨ b &&& 0x80 = 0x80 := forall_byte (by decide +kernel)
  have hkeep : ∀ red : UInt8, red < 0x80 →
      (0 + red) &&& 0x80 = 0 ∧ (0x80 + red) &&& 0x80 = 0x80 := forall_byte (by decide +kernel)
  have hsplit : ∀ b : UInt8, (b &&& 0x80) + (b &&& 0x7f &&& 0x7f) = b :=
    forall_byte (by decide +kernel)
  have hbit : ((b &&& 0x80) + red_pl_type) &&& 0x80 = b &&& 0x80 := by
    rcases hmarker b with hb | hb
    · rw [hb]
      exact (hkeep _ hred).1
    · rw [hb]
      exact (hkeep _ hred).2
  rw [hbit]
  exact hsplit b

theorem media_behind {pkt : Packet} {hl : ℕ} (hhl : 1 < hl)
    (hparsed : p.header.headerLength = hl)
    (hcarries : p.Carries
      (ProducerFec.BuildRedPacket pkt.data (pkt.length.toNat - hl) hl red_pl_type)) :
    Behind p (pkt.data 1 &&& 0x7f) (fun j => pkt.data (hl + j)) (pkt.length.toNat - hl) ∧
      p.incoming_rtp_packet 1 = (pkt.data 1 &&& 0x80) + red_pl_type ∧
      ∀ j < hl, j ≠ 1 → p.incoming_rtp_packet j = pkt.data j := by
  obtain ⟨hlength, hdata⟩ := hcarries
  have hsize : (ProducerFec.BuildRedPacket pkt.data (pkt.length.toNat - hl) hl red_pl_type).length =
      pkt.length.toNat - hl + 1 + hl := rfl
  rw [hsize] at hlength hdata
  refine ⟨⟨by omega, ?_, fun j hj => ?_⟩, ?_, fun j hj h1 => ?_⟩
  · rw [redHeader, hparsed, Nat.add_zero, hdata _ (by omega)]
    exact (RedPacket.assignPayload_data (Nat.lt_succ_self hl)).trans RedPacket.createHeader_type
  · rw [redHeader, hparsed, hdata _ (by omega), ← Nat.add_assoc]
    exact RedPacket.assignPayload_payload hj
  · rw [hdata 1 (by omega)]
    exact (RedPacket.assignPayload_data (Nat.lt_succ_of_lt hhl)).trans
      (RedPacket.createHeader_marker hhl)
  · rw [hdata j (by omega)]
    exact (RedPacket.assignPayload_data (Nat.lt_succ_of_lt hj)).trans
      (RedPacket.createHeader_header hj h1)

/-- A media packet comes out of its RED packet as it was. -/
theorem add_media {pkt : Packet} {hl : ℕ} (hred : red_pl_type < 0x80)
    (hhl : kRtpHeaderSize ≤ hl) (hle : hl ≤ pkt.length.toNat)
    (hfits : pkt.length.toNat ≤ IP_PACKET_SIZE)
    (htype : pkt.data 1 &&& 0x7f ≠ ulpfec_payload_type) (hparsed : p.header.headerLength = hl)
    (hcarries : p.Carries
      (ProducerFec.BuildRedPacket pkt.data (pkt.length.toNat - hl) hl red_pl_type))
    (memory : UInt32) (r : FecReceiverImpl) :
    ∃ rx, r.AddReceivedRedPacket p ulpfec_payload_type memory =
        some ({ r with received_packet_list_ := r.received_packet_list_ ++ [rx] }, 0) ∧
      rx.is_fec = false ∧ rx.seq_num = p.header.sequenceNumber ∧ SameBytes rx.pkt pkt := by
  have h12 : kRtpHeaderSize = 12 := rfl
  have h1500 : IP_PACKET_SIZE = 1500 := rfl
  obtain ⟨hbehind, hmarker, hheader⟩ := media_behind (by omega) hparsed hcarries
  have hsize := hbehind.length
  rw [hparsed] at hsize
  have hpayload := hbehind.payload_data_length (by omega)
  have hseven : ∀ b : UInt8, (b &&& 0x7f) &&& 0x80 = 0 ∧ (b &&& 0x7f) &&& 0x7f = b &&& 0x7f :=
    forall_byte (by decide +kernel)
  have hn : 1 + (pkt.length.toNat - hl) - 1 = pkt.length.toNat - hl := by omega
  have hsum : hl + (pkt.length.toNat - hl) = pkt.length.toNat := by omega
  have hone : onePacket p ulpfec_payload_type 1 memory = some ⟨p.header.sequenceNumber, memory,
      false, ⟨pkt.length, mediaData p 1 (pkt.length.toNat - hl)⟩⟩ := by
    unfold onePacket
    simp only [hpayload, hbehind.pl_type, (hseven _).2, htype, decide_false, Bool.false_eq_true,
      if_false, hparsed, hn, hsum, UInt16.ofNat_toNat]
    rw [if_neg (by omega), if_neg (by omega)]
  refine ⟨_, addReceivedRedPacket_one ?_ hone ?_, rfl, rfl, rfl, fun j hj => ?_⟩
  · rw [hbehind.pl_type]
    exact (hseven _).1
  · intro hzero
    have := congrArg UInt16.toNat hzero
    simp only [UInt16.toNat_zero] at this
    omega
  · change j < pkt.length.toNat at hj
    simp only [mediaData, hparsed, hbehind.pl_type]
    by_cases hpay : hl ≤ j
    · rw [copyBytes_inside hpay (by omega), Nat.zero_add, hbehind.payload _ (by omega),
        Nat.add_sub_cancel' hpay]
    · rw [copyBytes_outside (by omega)]
      by_cases h1 : j = 1
      · rw [h1, copyBytes_inside le_rfl (by omega), copyBytes_inside (by omega) (by omega),
          Nat.zero_add, Nat.sub_zero, hmarker]
        exact marker_and_type hred _
      · rw [copyBytes_outside (by omega), copyBytes_inside (by omega) (by omega), Nat.zero_add,
          Nat.sub_zero]
        exact hheader j (by omega) h1

/-! ## FEC packets -/

theorem fec_behind {fec last : Packet} {hl : ℕ} {seq_num : UInt16} (hhl : kRtpHeaderSize ≤ hl)
    (hparsed : p.header.headerLength = hl)
    (hcarries : p.Carries
      (ProducerFec.GetFecPacket fec last red_pl_type ulpfec_payload_type seq_num hl)) :
    Behind p ulpfec_payload_type fec.data fec.length.toNat ∧
      ∀ j < 4, p.incoming_rtp_packet (8 + j) = last.data (8 + j) := by
  have h12 : kRtpHeaderSize = 12 := rfl
  obtain ⟨hlength, hdata⟩ := hcarries
  have hsize :
      (ProducerFec.GetFecPacket fec last red_pl_type ulpfec_payload_type seq_num hl).length =
        fec.length.toNat + 1 + hl := rfl
  rw [hsize] at hlength hdata
  have hkeep : ∀ j, j = hl ∨ 8 ≤ j ∧ j < hl →
      (ProducerFec.GetFecPacket fec last red_pl_type ulpfec_payload_type seq_num hl).data j =
        ((RedPacket.new (fec.length.toNat + kREDForFECHeaderLength + hl)).CreateHeader last.data hl
          red_pl_type ulpfec_payload_type).data j := by
    intro j hj
    unfold ProducerFec.GetFecPacket
    refine (RedPacket.assignPayload_data ?_).trans ?_
    · change j < hl + 1
      omega
    · simp only [RedPacket.ClearMarkerBit, RedPacket.SetSeqNum, AssignUWord16ToBuffer]
      rw [copyBytes_outside (by omega), copyBytes_outside (by omega)]
  refine ⟨⟨by omega, ?_, fun j hj => ?_⟩, fun j hj => ?_⟩
  · rw [redHeader, hparsed, Nat.add_zero, hdata _ (by omega), hkeep hl (.inl rfl)]
    exact RedPacket.createHeader_type
  · rw [redHeader, hparsed, hdata _ (by omega), ← Nat.add_assoc]
    exact RedPacket.assignPayload_payload hj
  · rw [hdata _ (by omega), hkeep _ (.inr (by omega))]
    exact RedPacket.createHeader_header (by omega) (by omega)

/-- An FEC packet comes out of its RED packet, with zeros behind it and the SSRC of the media. -/
theorem add_fec {fec last : Packet} {hl : ℕ} {seq_num : UInt16} {ssrc : UInt32}
    (hfec : ulpfec_payload_type < 0x80) (hhl : kRtpHeaderSize ≤ hl) (hbound : hl ≤ IP_PACKET_SIZE)
    (hpos : fec.length ≠ 0) (hfits : fec.length.toNat ≤ IP_PACKET_SIZE)
    (hssrc : ∀ j < 4, last.data (8 + j) = bytes32 ssrc j) (hparsed : p.header.headerLength = hl)
    (hcarries : p.Carries
      (ProducerFec.GetFecPacket fec last red_pl_type ulpfec_payload_type seq_num hl))
    (memory : UInt32) (r : FecReceiverImpl) :
    r.AddReceivedRedPacket p ulpfec_payload_type memory =
      some ({ r with received_packet_list_ := r.received_packet_list_ ++
        [⟨p.header.sequenceNumber, ssrc, true,
          ⟨fec.length, fun j => if j < fec.length.toNat then fec.data j else 0⟩⟩] }, 0) := by
  have h12 : kRtpHeaderSize = 12 := rfl
  have h1500 : IP_PACKET_SIZE = 1500 := rfl
  obtain ⟨hbehind, hssrc'⟩ := fec_behind hhl hparsed hcarries
  have hsize := hbehind.length
  rw [hparsed] at hsize
  have hpayload := hbehind.payload_data_length (by omega)
  have hword : BufferToUWord32 p.incoming_rtp_packet 8 = ssrc :=
    bufferToUWord32_eq ssrc fun j hj => (hssrc' j hj).trans (hssrc j hj)
  have hseven : ∀ b : UInt8, b < 0x80 → b &&& 0x80 = 0 ∧ b &&& 0x7f = b :=
    forall_byte (by decide +kernel)
  have hdata : copyBytes (fun _ => 0) 0 (fun j => redHeader p (1 + j)) 0 fec.length.toNat =
      fun j => if j < fec.length.toNat then fec.data j else 0 := by
    funext j
    split
    · next hj => rw [copyBytes_inside (by omega) (by omega), Nat.zero_add, Nat.sub_zero,
        hbehind.payload j hj]
    · next hj => rw [copyBytes_outside (by omega)]
  refine addReceivedRedPacket_one ?_ ?_ hpos
  · rw [hbehind.pl_type]
    exact (hseven _ hfec).1
  · have hn : 1 + fec.length.toNat - 1 = fec.length.toNat := by omega
    unfold onePacket
    simp only [hpayload, hbehind.pl_type, (hseven _ hfec).2, decide_true, if_true, hn, hword, hdata,
      UInt16.ofNat_toNat]
    rw [if_neg (by omega), if_neg (by omega)]

end FecReceiverImpl

end Collaboration
