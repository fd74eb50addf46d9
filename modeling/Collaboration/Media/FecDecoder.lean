import Collaboration.Media.FecPackets
import Mathlib.Data.List.Sort
import Mathlib.Data.Option.Basic

/-! # Decoding for forward error correction

`DecodeFEC`: media packets go to the list of recovered packets, FEC packets wait until all but
one of the packets they protect are there. -/

namespace Collaboration

namespace ForwardErrorCorrection

structure ReceivedPacket where
  seq_num : UInt16
  ssrc : UInt32
  is_fec : Bool
  pkt : Packet

structure RecoveredPacket where
  seq_num : UInt16
  was_recovered : Bool
  returned : Bool
  pkt : Packet

/-- Links a media packet to an FEC packet that protects it, once it is there. -/
structure ProtectedPacket where
  seq_num : UInt16
  pkt : Option Packet

structure FecPacket where
  seq_num : UInt16
  ssrc : UInt32
  protected_pkt_list : List ProtectedPacket
  pkt : Packet

end ForwardErrorCorrection

open ForwardErrorCorrection in
/-- The FEC packets that wait, and the list of recovered packets that the caller keeps. -/
structure ForwardErrorCorrection where
  fec_packet_list_ : List FecPacket
  recovered_packet_list : List RecoveredPacket

namespace ForwardErrorCorrection

/-! ## Sequence numbers -/

def IsNewerSequenceNumber (sequence_number prev_sequence_number : UInt16) : Bool :=
  sequence_number != prev_sequence_number && sequence_number - prev_sequence_number < 0x8000

def LessThan (first second : UInt16) : Bool := IsNewerSequenceNumber second first

def sortPackets {α : Type*} (seq_num : α → UInt16) (l : List α) : List α :=
  l.mergeSort fun a b => !LessThan (seq_num b) (seq_num a)

/-- The distance of two sequence numbers as numbers. -/
def seqNumDiff (a b : UInt16) : ℕ := ((a.toNat : ℤ) - b.toNat).natAbs

/-! ## Inserting -/

def ResetState (_s : ForwardErrorCorrection) : ForwardErrorCorrection := ⟨[], []⟩

/-- The lists keep the latest packets. -/
def DiscardOldPackets (recovered_packet_list : List RecoveredPacket) : List RecoveredPacket :=
  recovered_packet_list.drop (recovered_packet_list.length - kMaxMediaPackets)

/-- Links the packet in the list of one FEC packet, if it is where `lower_bound` finds it. -/
def linkPacket (packet : RecoveredPacket) : List ProtectedPacket → List ProtectedPacket
  | [] => []
  | protected_packet :: rest =>
    if LessThan protected_packet.seq_num packet.seq_num then
      protected_packet :: linkPacket packet rest
    else if protected_packet.seq_num = packet.seq_num then
      { protected_packet with pkt := some packet.pkt } :: rest
    else protected_packet :: rest

def UpdateCoveringFECPackets (packet : RecoveredPacket) (fec_packet_list : List FecPacket) :
    List FecPacket :=
  fec_packet_list.map fun fec_packet =>
    { fec_packet with protected_pkt_list := linkPacket packet fec_packet.protected_pkt_list }

/-- Puts a packet on the list of recovered packets, and links it. -/
def addRecovered (s : ForwardErrorCorrection) (packet : RecoveredPacket) :
    ForwardErrorCorrection where
  fec_packet_list_ := UpdateCoveringFECPackets packet s.fec_packet_list_
  recovered_packet_list := sortPackets (·.seq_num) (s.recovered_packet_list ++ [packet])

def InsertMediaPacket (rx_packet : ReceivedPacket) (s : ForwardErrorCorrection) :
    ForwardErrorCorrection :=
  -- Duplicate packet, no need to add to list.
  if s.recovered_packet_list.any fun packet => packet.seq_num = rx_packet.seq_num then s
  else
    -- Inserted Media packet is already sent to VCM.
    s.addRecovered ⟨rx_packet.seq_num, false, true, rx_packet.pkt⟩

/-- The bit of an FEC packet that tells how long its mask is. -/
def lBit (pkt : Packet) : Bool := pkt.data 0 &&& 0x40 != 0

/-- The sequence numbers of the packets that an FEC packet protects. -/
def protectedSeqNums (pkt : Packet) : List UInt16 :=
  (List.range (maskSizeBytes (lBit pkt))).flatMap fun byte_idx =>
    ((List.range 8).filter fun bit_idx => maskBit (pkt.data (12 + byte_idx)) bit_idx).map
      fun bit_idx => BufferToUWord16 pkt.data 2 + UInt16.ofNat (8 * byte_idx + bit_idx)

def setIntersection : List RecoveredPacket → List ProtectedPacket → List RecoveredPacket
  | [], _ => []
  | _ :: _, [] => []
  | a :: as, b :: bs =>
    if LessThan a.seq_num b.seq_num then setIntersection as (b :: bs)
    else if LessThan b.seq_num a.seq_num then setIntersection (a :: as) bs
    else a :: setIntersection as bs
  termination_by as bs => as.length + bs.length

/-- Links the packets one after the other; `none` when one of them is not found. -/
def linkAll : List ProtectedPacket → List RecoveredPacket → Option (List ProtectedPacket)
  | not_recovered, [] => some not_recovered
  | [], _ :: _ => none
  | p :: ps, r :: rs =>
    if p.seq_num ≠ r.seq_num then (linkAll ps (r :: rs)).map (p :: ·)
    else linkAll ({ p with pkt := some r.pkt } :: ps) rs
  termination_by ps rs => ps.length + rs.length

def AssignRecoveredPackets (not_recovered : List ProtectedPacket)
    (recovered_packets : List RecoveredPacket) : Option (List ProtectedPacket) :=
  linkAll not_recovered (setIntersection recovered_packets not_recovered)

def InsertFECPacket (rx_packet : ReceivedPacket) (s : ForwardErrorCorrection) :
    Option ForwardErrorCorrection :=
  -- Check for duplicate.
  if s.fec_packet_list_.any fun fec_packet => fec_packet.seq_num = rx_packet.seq_num then some s
  else
    let protected_pkt_list := (protectedSeqNums rx_packet.pkt).map fun seq_num =>
      (⟨seq_num, none⟩ : ProtectedPacket)
    -- All-zero packet mask; we can discard this FEC packet.
    if protected_pkt_list = [] then some s
    else do
      let protected_pkt_list ← AssignRecoveredPackets protected_pkt_list s.recovered_packet_list
      let fec_packet : FecPacket :=
        ⟨rx_packet.seq_num, rx_packet.ssrc, protected_pkt_list, rx_packet.pkt⟩
      let fec_packet_list := sortPackets (·.seq_num) (s.fec_packet_list_ ++ [fec_packet])
      some { s with
        fec_packet_list_ :=
          if kMaxMediaPackets < fec_packet_list.length then fec_packet_list.tail
          else fec_packet_list }

/-- Discards the oldest FEC packet when it is far from the received one. -/
def discardOldest (rx_packet : ReceivedPacket) (s : ForwardErrorCorrection) :
    ForwardErrorCorrection :=
  match s.fec_packet_list_ with
  | [] => s
  | oldest :: rest =>
    if 0x3fff < seqNumDiff rx_packet.seq_num oldest.seq_num then { s with fec_packet_list_ := rest }
    else s

def insertPacket (rx_packet : ReceivedPacket) (s : ForwardErrorCorrection) :
    Option ForwardErrorCorrection :=
  let s := s.discardOldest rx_packet
  if rx_packet.is_fec then s.InsertFECPacket rx_packet else some (s.InsertMediaPacket rx_packet)

def InsertPackets : List ReceivedPacket → ForwardErrorCorrection → Option ForwardErrorCorrection
  | [], s => some { s with recovered_packet_list := DiscardOldPackets s.recovered_packet_list }
  | rx_packet :: rest, s => (s.insertPacket rx_packet).bind (InsertPackets rest)

/-! ## Recovering -/

/-- A packet on the way to be recovered. -/
structure Recovery where
  data : ℕ → UInt8
  length_recovery : ℕ → UInt8
  seq_num : UInt16

/-- This is the first packet which we try to recover with. -/
def InitRecovery (fec_packet : FecPacket) : Option Recovery :=
  let offset := payloadOffset (lBit fec_packet.pkt)
  let protection_length := BufferToUWord16 fec_packet.pkt.data 10
  if IP_PACKET_SIZE < offset + protection_length.toNat then none
  else
    let data := copyBytes (fun _ => 0) kRtpHeaderSize fec_packet.pkt.data offset
      protection_length.toNat
    let data := copyBytes data 0 fec_packet.pkt.data 0 2
    let data := copyBytes data 4 fec_packet.pkt.data 4 4
    some {
      data := AssignUWord32ToBuffer data 8 fec_packet.ssrc
      length_recovery := copyBytes (fun _ => 0) 0 fec_packet.pkt.data 8 2
      seq_num := 0 }

def XorPackets (src_packet : Packet) (dst_packet : Recovery) : Option Recovery :=
  if IP_PACKET_SIZE < src_packet.length.toNat then none
  else
    let media_payload_length := src_packet.length - UInt16.ofNat kRtpHeaderSize
    let data := xorBytes dst_packet.data 0 src_packet.data 0 2
    let data := xorBytes data 4 src_packet.data 4 4
    some { dst_packet with
      data := xorBytes data kRtpHeaderSize src_packet.data kRtpHeaderSize
        (src_packet.length.toNat - kRtpHeaderSize)
      length_recovery := xorBytes dst_packet.length_recovery 0 (bytes16 media_payload_length) 0 2 }

def xorProtected : List ProtectedPacket → Recovery → Option Recovery
  | [], r => some r
  | ⟨seq_num, none⟩ :: rest, r => xorProtected rest { r with seq_num := seq_num }
  | ⟨_, some pkt⟩ :: rest, r => (XorPackets pkt r).bind (xorProtected rest)

def FinishRecovery (r : Recovery) : Packet where
  -- Set the RTP version to 2.
  data := AssignUWord16ToBuffer
    (copyBytes r.data 0 (fun _ => (r.data 0 ||| 0x80) &&& 0xbf) 0 1) 2 r.seq_num
  length := BufferToUWord16 r.length_recovery 0 + UInt16.ofNat kRtpHeaderSize

def RecoverPacket (fec_packet : FecPacket) : Option RecoveredPacket := do
  let r ← InitRecovery fec_packet
  let r ← xorProtected fec_packet.protected_pkt_list r
  some ⟨r.seq_num, true, false, FinishRecovery r⟩

/-- Counts on from `packets_missing`, and stops after the second one. -/
def NumCoveredPacketsMissing : List ProtectedPacket → ℕ → ℕ
  | [], packets_missing => packets_missing
  | p :: rest, packets_missing =>
    if p.pkt.isNone then
      if 1 < packets_missing + 1 then packets_missing + 1
      else NumCoveredPacketsMissing rest (packets_missing + 1)
    else NumCoveredPacketsMissing rest packets_missing

/-- The loop over the FEC packets, those before the iterator in `seen`. -/
def attemptRecover (seen : List FecPacket) (fec_packet_list : List FecPacket)
    (recovered_packet_list : List RecoveredPacket) : Option ForwardErrorCorrection :=
  match fec_packet_list with
  | [] => some ⟨seen, recovered_packet_list⟩
  | fec_packet :: rest =>
    let packets_missing := NumCoveredPacketsMissing fec_packet.protected_pkt_list 0
    -- We can only recover one packet with an FEC packet.
    if packets_missing = 1 then
      match RecoverPacket fec_packet with
      | none => none
      | some packet_to_insert =>
        let s := addRecovered ⟨seen ++ rest, recovered_packet_list⟩ packet_to_insert
        -- Restart for first FEC packet.
        attemptRecover [] s.fec_packet_list_ (DiscardOldPackets s.recovered_packet_list)
    else if packets_missing = 0 then attemptRecover seen rest recovered_packet_list
    else attemptRecover (seen ++ [fec_packet]) rest recovered_packet_list
  termination_by (seen.length + fec_packet_list.length, fec_packet_list.length)
  decreasing_by
    · simp [addRecovered, UpdateCoveringFECPackets, Prod.lex_def]
    · simp [Prod.lex_def]
    · simp [Prod.lex_def]
      omega

def AttemptRecover (s : ForwardErrorCorrection) : Option ForwardErrorCorrection :=
  attemptRecover [] s.fec_packet_list_ s.recovered_packet_list

def DecodeFEC (received_packet_list : List ReceivedPacket) (s : ForwardErrorCorrection) :
    Option ForwardErrorCorrection := do
  let s ←
    if s.recovered_packet_list.length = kMaxMediaPackets then
      match received_packet_list.head?, s.recovered_packet_list.getLast? with
      | some front, some back =>
        -- A big gap in sequence numbers. The old recovered packets are now useless.
        if kMaxMediaPackets < seqNumDiff front.seq_num back.seq_num then some s.ResetState
        else some s
      | _, _ => none
    else some s
  let s ← s.InsertPackets received_packet_list
  s.AttemptRecover

end ForwardErrorCorrection

end Collaboration
