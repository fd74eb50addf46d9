import Collaboration.Media.FecDecoder

/-! # Packets behind a RED header

Media packets and FEC packets go over the network behind a RED header. `ProducerFec` puts it
there, `FecReceiverImpl` takes it away, decodes, and hands over the media packets. -/

namespace Collaboration

open ForwardErrorCorrection

def ForwardErrorCorrection.BufferToUWord32 (dataBuffer : ℕ → UInt8) (i : ℕ) : UInt32 :=
  ((dataBuffer i).toUInt32 <<< 24) + ((dataBuffer (i + 1)).toUInt32 <<< 16) +
    ((dataBuffer (i + 2)).toUInt32 <<< 8) + (dataBuffer (i + 3)).toUInt32

/-! ## The sender -/

def kREDForFECHeaderLength : ℕ := 1

structure RedPacket where
  data : ℕ → UInt8
  length : ℕ
  header_length : ℕ

namespace RedPacket

/-- `RedPacket(int length)`, whose memory is written before it is read. -/
def new (length : ℕ) : RedPacket := ⟨fun _ => 0, length, 0⟩

def CreateHeader (r : RedPacket) (rtp_header : ℕ → UInt8) (header_length : ℕ)
    (red_pl_type pl_type : UInt8) : RedPacket :=
  let data := copyBytes r.data 0 rtp_header 0 header_length
  -- Replace payload type.
  let data := copyBytes data 1 (fun _ => (data 1 &&& 0x80) + red_pl_type) 0 1
  -- Add RED header, the f-bit is always 0.
  { r with
    data := copyBytes data header_length (fun _ => pl_type) 0 1
    header_length := header_length + kREDForFECHeaderLength }

def SetSeqNum (r : RedPacket) (seq_num : UInt16) : RedPacket :=
  { r with data := AssignUWord16ToBuffer r.data 2 seq_num }

def AssignPayload (r : RedPacket) (payload : ℕ → UInt8) (length : ℕ) : RedPacket :=
  { r with data := copyBytes r.data r.header_length payload 0 length }

def ClearMarkerBit (r : RedPacket) : RedPacket :=
  { r with data := copyBytes r.data 1 (fun _ => r.data 1 &&& 0x7f) 0 1 }

end RedPacket

namespace ProducerFec

def BuildRedPacket (data_buffer : ℕ → UInt8) (payload_length rtp_header_length : ℕ)
    (red_pl_type : UInt8) : RedPacket :=
  let red_packet := RedPacket.new (payload_length + kREDForFECHeaderLength + rtp_header_length)
  let pl_type := data_buffer 1 &&& 0x7f
  let red_packet := red_packet.CreateHeader data_buffer rtp_header_length red_pl_type pl_type
  red_packet.AssignPayload (fun j => data_buffer (rtp_header_length + j)) payload_length

/-- The packet that `GetFecPacket` makes of the first FEC packet, with the header of the last
media packet. -/
def GetFecPacket (packet_to_send last_media_packet : ForwardErrorCorrection.Packet)
    (red_pl_type fec_pl_type : UInt8) (seq_num : UInt16) (rtp_header_length : ℕ) : RedPacket :=
  let return_packet := RedPacket.new
    (packet_to_send.length.toNat + kREDForFECHeaderLength + rtp_header_length)
  let return_packet :=
    return_packet.CreateHeader last_media_packet.data rtp_header_length red_pl_type fec_pl_type
  let return_packet := return_packet.SetSeqNum seq_num
  let return_packet := return_packet.ClearMarkerBit
  return_packet.AssignPayload packet_to_send.data packet_to_send.length.toNat

end ProducerFec

/-! ## The receiver -/

/-- What of a parsed header is read. -/
structure RTPHeader where
  headerLength : ℕ
  sequenceNumber : UInt16

/-- A packet that comes in, with its header. -/
structure IncomingPacket where
  header : RTPHeader
  incoming_rtp_packet : ℕ → UInt8
  packet_length : ℕ

structure FecReceiverImpl where
  received_packet_list_ : List ReceivedPacket
  fec_ : ForwardErrorCorrection

namespace FecReceiverImpl

abbrev Packet := ForwardErrorCorrection.Packet

def new : FecReceiverImpl := ⟨[], ⟨[], []⟩⟩

/-- The bytes from the RED header on. -/
def redHeader (p : IncomingPacket) (i : ℕ) : UInt8 :=
  p.incoming_rtp_packet (p.header.headerLength + i)

def payload_data_length (p : IncomingPacket) : UInt16 :=
  UInt16.ofNat p.packet_length - UInt16.ofNat p.header.headerLength

/-- A media packet: the RTP header with the media payload type, and `n` bytes of payload. -/
def mediaData (p : IncomingPacket) (redHeaderLength n : ℕ) : ℕ → UInt8 :=
  let payload_type := redHeader p 0 &&& 0x7f
  let data := copyBytes (fun _ => 0) 0 p.incoming_rtp_packet 0 p.header.headerLength
  let data := copyBytes data 1 (fun _ => (data 1 &&& 0x80) + payload_type) 0 1
  copyBytes data p.header.headerLength (fun j => redHeader p (redHeaderLength + j)) 0 n

/-- Everything behind the RED header is one packet. -/
def onePacket (p : IncomingPacket) (ulpfec_payload_type : UInt8) (redHeaderLength : ℕ)
    (ssrc : UInt32) : Option ReceivedPacket :=
  let headerLength := p.header.headerLength
  let n := (payload_data_length p).toNat - redHeaderLength
  let is_fec := decide (redHeader p 0 &&& 0x7f = ulpfec_payload_type)
  if (payload_data_length p).toNat < redHeaderLength then none
  else if is_fec then
    if IP_PACKET_SIZE < n then none
    else
      some ⟨p.header.sequenceNumber, BufferToUWord32 p.incoming_rtp_packet 8, is_fec,
        ⟨UInt16.ofNat n,
          copyBytes (fun _ => 0) 0 (fun j => redHeader p (redHeaderLength + j)) 0 n⟩⟩
  else if IP_PACKET_SIZE < headerLength + n then none
  else
    some ⟨p.header.sequenceNumber, ssrc, is_fec,
      ⟨UInt16.ofNat (headerLength + n), mediaData p redHeaderLength n⟩⟩

/-- A block of media and one of FEC. -/
def twoPackets (p : IncomingPacket) (ulpfec_payload_type : UInt8) (blockLength : ℕ)
    (ssrc : UInt32) : Option (List ReceivedPacket) :=
  let is_fec := decide (redHeader p 0 &&& 0x7f = ulpfec_payload_type)
  let n := (payload_data_length p).toNat - 5 - blockLength
  if (payload_data_length p).toNat < 5 + blockLength ∨
      IP_PACKET_SIZE < p.header.headerLength + blockLength ∨ IP_PACKET_SIZE < n then none
  else
    some [
      ⟨p.header.sequenceNumber, ssrc, is_fec,
        ⟨UInt16.ofNat blockLength, mediaData p 5 blockLength⟩⟩,
      ⟨p.header.sequenceNumber, ssrc, true,
        ⟨UInt16.ofNat n,
          copyBytes (fun _ => 0) 0 (fun j => redHeader p (5 + blockLength + j)) 0 n⟩⟩]

/-- Puts packets on the list, unless the first one is empty. -/
def push (r : FecReceiverImpl) (received_packets : List ReceivedPacket) : FecReceiverImpl × ℤ :=
  if received_packets.head?.any fun received_packet => received_packet.pkt.length = 0 then (r, 0)
  else ({ r with received_packet_list_ := r.received_packet_list_ ++ received_packets }, 0)

/-- Where nothing else is assigned, the SSRC of a new packet is what its memory holds. -/
def AddReceivedRedPacket (p : IncomingPacket) (ulpfec_payload_type : UInt8) (memory : UInt32)
    (r : FecReceiverImpl) : Option (FecReceiverImpl × ℤ) :=
  if redHeader p 0 &&& 0x80 != 0 then
    -- f bit set in RED header
    let timestamp_offset := BufferToUWord16 (redHeader p) 1 >>> 2
    let blockLength := (0x03 &&& redHeader p 2).toNat <<< 8 + (redHeader p 3).toNat
    -- Corrupt payload found.
    if timestamp_offset ≠ 0 then some (r, -1)
    -- more than 2 blocks in packet not supported
    else if redHeader p 4 &&& 0x80 != 0 then some (r, -1)
    -- block length longer than packet
    else if (payload_data_length p).toNat < blockLength + 4 then some (r, -1)
    else if 0 < blockLength then
      (twoPackets p ulpfec_payload_type blockLength memory).map r.push
    else (onePacket p ulpfec_payload_type 4 memory).map fun rx => r.push [rx]
  else (onePacket p ulpfec_payload_type 1 memory).map fun rx => r.push [rx]

/-- Sends any recovered media packets to the callback, until it fails. It was called some times
before, and each call has its own answer. -/
def returnRecovered (OnRecoveredPacket : ℕ → Bool) :
    ℕ → List RecoveredPacket → List RecoveredPacket × List Packet × ℤ
  | _, [] => ([], [], 0)
  | calls, packet :: rest =>
    if packet.returned then
      -- Already sent to the VCM and the jitter buffer.
      let (list, out, ret) := returnRecovered OnRecoveredPacket calls rest
      (packet :: list, out, ret)
    else if OnRecoveredPacket calls then
      let (list, out, ret) := returnRecovered OnRecoveredPacket (calls + 1) rest
      ({ packet with returned := true } :: list, packet.pkt :: out, ret)
    else (packet :: rest, [packet.pkt], -1)

/-- With the packets that the callback gets. -/
def returnAll (OnRecoveredPacket : ℕ → Bool) (calls : ℕ)
    (received_packet_list : List ReceivedPacket) (fec : ForwardErrorCorrection) :
    FecReceiverImpl × List Packet × ℤ :=
  let (list, out, ret) := returnRecovered OnRecoveredPacket calls fec.recovered_packet_list
  (⟨received_packet_list, { fec with recovered_packet_list := list }⟩, out, ret)

def ProcessReceivedFec (OnRecoveredPacket : ℕ → Bool) (r : FecReceiverImpl) :
    Option (FecReceiverImpl × List Packet × ℤ) :=
  match r.received_packet_list_ with
  | [] => some (returnAll OnRecoveredPacket 0 [] r.fec_)
  | front :: _ =>
    -- Send received media packet to VCM.
    if !front.is_fec && !OnRecoveredPacket 0 then some (r, [front.pkt], -1)
    else
      (r.fec_.DecodeFEC r.received_packet_list_).map fun fec =>
        let (r, out, ret) := returnAll OnRecoveredPacket (if front.is_fec then 0 else 1) [] fec
        (r, (if front.is_fec then [] else [front.pkt]) ++ out, ret)

/-- The branch of `ParseAndHandleEncapsulatingHeader` for RED, with the packets that the callback
gets. -/
def receiveRed (OnRecoveredPacket : ℕ → Bool) (ulpfec_payload_type : UInt8) (memory : UInt32)
    (r : FecReceiverImpl) (p : IncomingPacket) : Option (FecReceiverImpl × List Packet) := do
  let (r, ret) ← r.AddReceivedRedPacket p ulpfec_payload_type memory
  if ret ≠ 0 then some (r, [])
  else
    let (r, out, _) ← r.ProcessReceivedFec OnRecoveredPacket
    some (r, out)

end FecReceiverImpl

end Collaboration
