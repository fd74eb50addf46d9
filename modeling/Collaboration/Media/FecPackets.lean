import Mathlib.Data.Int.Notation
import Mathlib.Data.Nat.Notation
import Mathlib.Logic.Function.Basic

/-! # Packets for forward error correction

The packets of `forward_error_correction.h`, and `GenerateFEC`. Which packets an FEC packet
protects comes from tables, of which only the form matters. `none` stands for what is not
defined: an access outside of a memory or of a mask, a shift by a negative number. -/

namespace Collaboration

namespace ForwardErrorCorrection

/-- `class Packet`: its length, and what the memory of its data holds. -/
structure Packet where
  length : UInt16
  data : ℕ → UInt8

/-- The size of the memory of a packet. -/
def IP_PACKET_SIZE : ℕ := 1500

def kMaxMediaPackets : ℕ := 48
def kRtpHeaderSize : ℕ := 12
def kFecHeaderSize : ℕ := 10
def kMaskSizeLBitSet : ℕ := 6
def kMaskSizeLBitClear : ℕ := 2
def kUlpHeaderSizeLBitSet : ℕ := 2 + kMaskSizeLBitSet
def kUlpHeaderSizeLBitClear : ℕ := 2 + kMaskSizeLBitClear

/-! ## Memory -/

def BufferToUWord16 (dataBuffer : ℕ → UInt8) (i : ℕ) : UInt16 :=
  ((dataBuffer i).toUInt16 <<< 8) + (dataBuffer (i + 1)).toUInt16

/-- The two bytes of a number in network order. -/
def bytes16 (value : UInt16) : ℕ → UInt8
  | 0 => (value >>> 8).toUInt8
  | _ => value.toUInt8

/-- The four bytes of a number in network order. -/
def bytes32 (value : UInt32) : ℕ → UInt8
  | 0 => (value >>> 24).toUInt8
  | 1 => (value >>> 16).toUInt8
  | 2 => (value >>> 8).toUInt8
  | _ => value.toUInt8

/-- Copies `n` bytes of `src` from place `k` on to the place `i` of `dst`. -/
def copyBytes (dst : ℕ → UInt8) (i : ℕ) (src : ℕ → UInt8) (k n : ℕ) : ℕ → UInt8 :=
  fun j => if i ≤ j ∧ j < i + n then src (k + (j - i)) else dst j

/-- The same, with what `dst` holds. -/
def xorBytes (dst : ℕ → UInt8) (i : ℕ) (src : ℕ → UInt8) (k n : ℕ) : ℕ → UInt8 :=
  fun j => if i ≤ j ∧ j < i + n then dst j ^^^ src (k + (j - i)) else dst j

section

variable {dst src : ℕ → UInt8} {i j k n : ℕ}

theorem copyBytes_inside (h : i ≤ j) (h' : j < i + n) :
    copyBytes dst i src k n j = src (k + (j - i)) :=
  if_pos ⟨h, h'⟩

theorem copyBytes_outside (h : j < i ∨ i + n ≤ j) : copyBytes dst i src k n j = dst j :=
  if_neg (by omega)

theorem xorBytes_inside (h : i ≤ j) (h' : j < i + n) :
    xorBytes dst i src k n j = dst j ^^^ src (k + (j - i)) :=
  if_pos ⟨h, h'⟩

theorem xorBytes_outside (h : j < i ∨ i + n ≤ j) : xorBytes dst i src k n j = dst j :=
  if_neg (by omega)

/-- Nothing has to be combined where the memory is empty. -/
theorem copyBytes_eq_xorBytes (h : ∀ j, i ≤ j → j < i + n → dst j = 0) :
    copyBytes dst i src k n = xorBytes dst i src k n := by
  funext j
  by_cases hj : i ≤ j ∧ j < i + n
  · rw [copyBytes_inside hj.1 hj.2, xorBytes_inside hj.1 hj.2, h j hj.1 hj.2, UInt8.zero_xor]
  · rw [copyBytes_outside (by omega), xorBytes_outside (by omega)]

end

def AssignUWord16ToBuffer (dataBuffer : ℕ → UInt8) (i : ℕ) (value : UInt16) : ℕ → UInt8 :=
  copyBytes dataBuffer i (bytes16 value) 0 2

def AssignUWord32ToBuffer (dataBuffer : ℕ → UInt8) (i : ℕ) (value : UInt32) : ℕ → UInt8 :=
  copyBytes dataBuffer i (bytes32 value) 0 4

def ParseSequenceNumber (packet : Packet) : UInt16 := BufferToUWord16 packet.data 2

/-- Bit `bit` of a byte of a mask, the first one being the highest. -/
def maskBit (packet_mask : UInt8) (bit : ℕ) : Bool :=
  packet_mask &&& ((1 : UInt8) <<< UInt8.ofNat (7 - bit)) != 0

/-- The bytes of a mask, with or without the L bit. -/
def maskSizeBytes (l_bit : Bool) : ℕ := if l_bit then kMaskSizeLBitSet else kMaskSizeLBitClear

def ulpHeaderSize (l_bit : Bool) : ℕ :=
  if l_bit then kUlpHeaderSizeLBitSet else kUlpHeaderSizeLBitClear

/-- Where the payload stands in an FEC packet. -/
def payloadOffset (l_bit : Bool) : ℕ := kFecHeaderSize + ulpHeaderSize l_bit

/-! ## Masks -/

/-- A row of a mask table, which ends in zeros. -/
def maskRow (row : List UInt8) : ℕ → UInt8 := fun byte_idx => row.getD byte_idx 0

/-- Bit `i` of a mask. -/
def maskAt (packet_mask : ℕ → UInt8) (i : ℕ) : Bool := maskBit (packet_mask (i / 8)) (i % 8)

/-- For every number of media packets and of FEC packets the rows of the masks: each of them
protects some of the media packets, and nothing else. -/
structure MaskTable where
  rows : ℕ → ℕ → List (List UInt8)
  some_protected : ∀ num_media_packets num_fec_packets,
    ∀ row ∈ rows num_media_packets num_fec_packets,
      ∃ i < num_media_packets, maskAt (maskRow row) i = true
  none_beyond : ∀ num_media_packets num_fec_packets,
    ∀ row ∈ rows num_media_packets num_fec_packets,
      ∀ i, num_media_packets ≤ i → maskAt (maskRow row) i = false

def FitSubMask (sub_mask : List (List UInt8)) : List (ℕ → UInt8) := sub_mask.map maskRow

/-- How many FEC packets are for the important packets. -/
def SetProtectionAllocation (num_media_packets num_fec_packets num_imp_packets : ℕ) : ℕ :=
  -- Use at most half of the FEC packets for important packets.
  let max_num_fec_for_imp := num_fec_packets / 2
  let num_fec_for_imp_packets :=
    if num_imp_packets < max_num_fec_for_imp then num_imp_packets else max_num_fec_for_imp
  -- Fall back to equal protection in this case.
  if num_fec_packets = 1 ∧ 2 * num_imp_packets < num_media_packets then 0
  else num_fec_for_imp_packets

/-- The masks overlap: those for the important packets, then those for all. -/
def UnequalProtectionMask (mask_table : MaskTable)
    (num_media_packets num_fec_packets num_imp_packets : ℕ) : List (ℕ → UInt8) :=
  let num_fec_for_imp_packets :=
    SetProtectionAllocation num_media_packets num_fec_packets num_imp_packets
  let num_fec_remaining := num_fec_packets - num_fec_for_imp_packets
  let sub_mask1 :=
    if 0 < num_fec_for_imp_packets then
      FitSubMask (mask_table.rows num_imp_packets num_fec_for_imp_packets)
    else []
  let sub_mask22 :=
    if 0 < num_fec_remaining then
      FitSubMask (mask_table.rows num_media_packets num_fec_remaining)
    else []
  sub_mask1 ++ sub_mask22

def GeneratePacketMasks (mask_table : MaskTable)
    (num_media_packets num_fec_packets num_imp_packets : ℕ) (use_unequal_protection : Bool) :
    List (ℕ → UInt8) :=
  -- Equal-protection for these cases.
  if !use_unequal_protection || num_imp_packets = 0 then
    FitSubMask (mask_table.rows num_media_packets num_fec_packets)
  else UnequalProtectionMask mask_table num_media_packets num_fec_packets num_imp_packets

structure MaskRow where
  new_mask : ℕ → UInt8
  old_mask : ℕ → UInt8

def shiftByte (mask : ℕ → UInt8) (byte_index n : ℕ) : ℕ → UInt8 :=
  Function.update mask byte_index (mask byte_index <<< UInt8.ofNat n)

def InsertZeroColumns (num_zeros new_bit_index : ℕ) (row : MaskRow) : MaskRow :=
  let max_shifts := 7 - new_bit_index % 8
  { row with new_mask := shiftByte row.new_mask (new_bit_index / 8) (min num_zeros max_shifts) }

def CopyColumn (new_bit_index old_bit_index : ℕ) (row : MaskRow) : MaskRow :=
  let new_byte_index := new_bit_index / 8
  let old_byte_index := old_bit_index / 8
  let new_mask := Function.update row.new_mask new_byte_index
    (row.new_mask new_byte_index ||| ((row.old_mask old_byte_index &&& 0x80) >>> 7))
  let new_mask := if new_bit_index % 8 ≠ 7 then shiftByte new_mask new_byte_index 1 else new_mask
  ⟨new_mask, shiftByte row.old_mask old_byte_index 1⟩

/-- Insert zeros in the bit mask for every hole in the sequence. -/
def insertZeros : List Packet → UInt16 → ℕ → ℕ → List MaskRow → Option (ℕ × List MaskRow)
  | [], _, new_bit_index, _, rows => some (new_bit_index, rows)
  | packet :: rest, prev_seq_num, new_bit_index, old_bit_index, rows =>
    -- We can only cover up to 48 packets.
    if new_bit_index = 8 * kMaskSizeLBitSet then some (new_bit_index, rows)
    else
      let seq_num := ParseSequenceNumber packet
      let zeros_to_insert := (seq_num - prev_seq_num - 1).toNat
      let rows :=
        if 0 < zeros_to_insert then rows.map (InsertZeroColumns zeros_to_insert new_bit_index)
        else rows
      let new_bit_index := new_bit_index + zeros_to_insert
      -- A hole may lead out of the row.
      if 8 * kMaskSizeLBitSet ≤ new_bit_index then none
      else
        insertZeros rest seq_num (new_bit_index + 1) (old_bit_index + 1)
          (rows.map (CopyColumn new_bit_index old_bit_index))

def InsertZerosInBitMasks (media_packets : List Packet) (packet_mask : List (ℕ → UInt8)) :
    Option (ℕ × List (ℕ → UInt8)) :=
  match media_packets with
  | [] | [_] => some (media_packets.length, packet_mask)
  | first :: second :: rest =>
    let last := rest.getLastD second
    let first_seq_num := ParseSequenceNumber first
    let total_missing_seq_nums : ℤ :=
      ((ParseSequenceNumber last - first_seq_num).toNat : ℤ) - media_packets.length + 1
    -- All sequence numbers are covered by the packet mask. No zero insertion required.
    if total_missing_seq_nums = 0 then some (media_packets.length, packet_mask)
    else do
      -- Insert the first column.
      let rows := packet_mask.map fun old_mask => CopyColumn 0 0 ⟨fun _ => 0, old_mask⟩
      let (new_bit_index, rows) ← insertZeros (second :: rest) first_seq_num 1 1 rows
      -- We didn't fill the last byte. Shift bits to correct position.
      let finish (row : MaskRow) : ℕ → UInt8 :=
        if new_bit_index % 8 ≠ 0 then
          shiftByte row.new_mask (new_bit_index / 8) (7 - new_bit_index % 8)
        else row.new_mask
      some (new_bit_index, rows.map finish)

/-! ## Generating -/

def GetNumberOfFecPackets (num_media_packets protection_factor : ℕ) : ℕ :=
  -- Result in Q0 with an unsigned round.
  let num_fec_packets := (num_media_packets * protection_factor + (1 <<< 7)) >>> 8
  -- Generate at least one FEC packet if we need protection.
  if 0 < protection_factor ∧ num_fec_packets = 0 then 1 else num_fec_packets

/-- The parts of a media packet that an FEC packet holds: the first 2 bytes and the 5th to 8th
bytes of the RTP header, the network-ordered payload size, and the payload. -/
def putMedia (put : (ℕ → UInt8) → ℕ → (ℕ → UInt8) → ℕ → ℕ → ℕ → UInt8) (l_bit : Bool)
    (data : ℕ → UInt8) (media_packet : Packet) : ℕ → UInt8 :=
  let media_payload_length := media_packet.length - UInt16.ofNat kRtpHeaderSize
  let data := put data 0 media_packet.data 0 2
  let data := put data 4 media_packet.data 4 4
  let data := put data 8 (bytes16 media_payload_length) 0 2
  put data (payloadOffset l_bit) media_packet.data kRtpHeaderSize media_payload_length.toNat

/-- Puts a media packet under the protection of an FEC packet. -/
def protectPacket (l_bit : Bool) (fec_packet media_packet : Packet) : Option Packet :=
  let fec_rtp_offset := payloadOffset l_bit - kRtpHeaderSize
  if IP_PACKET_SIZE < media_packet.length.toNat + fec_rtp_offset then none
  else
    let fec_packet_length := media_packet.length + UInt16.ofNat fec_rtp_offset
    let data :=
      -- On the first protected packet, we don't need to XOR.
      if fec_packet.length = 0 then putMedia copyBytes l_bit fec_packet.data media_packet
      else putMedia xorBytes l_bit fec_packet.data media_packet
    some ⟨if fec_packet.length < fec_packet_length then fec_packet_length else fec_packet.length,
      data⟩

/-- The bit of the next media packet; 8 stands for the first one of the next byte. -/
def nextBit (media_packet : Packet) (rest : List Packet) (media_pkt_idx : ℕ) : ℕ :=
  match rest with
  | [] => media_pkt_idx
  | next :: _ =>
    media_pkt_idx + (ParseSequenceNumber next - ParseSequenceNumber media_packet).toNat

/-- The loop of `GenerateFecBitStrings` for one FEC packet. -/
def GenerateFecBitString (packet_mask : ℕ → UInt8) (l_bit : Bool) :
    List Packet → ℕ → ℕ → Packet → Option Packet
  | [], _, _, fec_packet => some fec_packet
  | media_packet :: rest, pkt_mask_idx, media_pkt_idx, fec_packet =>
    if 7 < media_pkt_idx ∨ maskSizeBytes l_bit ≤ pkt_mask_idx then none
    else
      let generated :=
        if maskBit (packet_mask pkt_mask_idx) media_pkt_idx then
          protectPacket l_bit fec_packet media_packet
        else some fec_packet
      let media_pkt_idx := nextBit media_packet rest media_pkt_idx
      generated.bind
        (if media_pkt_idx = 8 then
          -- Switch to the next mask byte.
          GenerateFecBitString packet_mask l_bit rest (pkt_mask_idx + 1) 0
        else GenerateFecBitString packet_mask l_bit rest pkt_mask_idx media_pkt_idx)

/-- The FEC header and the ULP header of one FEC packet. -/
def GenerateFecUlpHeader (media_packet : Packet) (packet_mask : ℕ → UInt8) (l_bit : Bool)
    (fec_packet : Packet) : Packet :=
  let byte := fec_packet.data 0 &&& 0x7f
  let byte := if l_bit then byte ||| 0x40 else byte &&& 0xbf
  let data := copyBytes fec_packet.data 0 (fun _ => byte) 0 1
  -- We use the same sequence number base for every FEC packet.
  let data := copyBytes data 2 media_packet.data 2 2
  let data := AssignUWord16ToBuffer data 10
    (fec_packet.length - UInt16.ofNat (payloadOffset l_bit))
  { fec_packet with data := copyBytes data 12 packet_mask 0 (maskSizeBytes l_bit) }

/-- `GenerateFecBitStrings` and `GenerateFecUlpHeaders` for one FEC packet, whose memory holds
zeros at first. -/
def generateFecPacket (first : Packet) (media_packet_list : List Packet) (l_bit : Bool)
    (packet_mask : ℕ → UInt8) : Option Packet :=
  (GenerateFecBitString packet_mask l_bit media_packet_list 0 0 ⟨0, fun _ => 0⟩).map
    (GenerateFecUlpHeader first packet_mask l_bit)

/-- The returned number, and the FEC packets. -/
def GenerateFEC (mask_table : MaskTable) (media_packet_list : List Packet)
    (protection_factor : UInt8) (num_important_packets : ℕ) (use_unequal_protection : Bool) :
    Option (ℤ × List Packet) :=
  match media_packet_list with
  | [] => none
  | first :: _ =>
    let num_media_packets := media_packet_list.length
    if kMaxMediaPackets < num_media_packets then some (-1, [])
    else if media_packet_list.any fun media_packet =>
        media_packet.length.toNat < kRtpHeaderSize then
      some (-1, [])
    else
      let num_fec_packets := GetNumberOfFecPackets num_media_packets protection_factor.toNat
      if num_fec_packets = 0 then some (0, [])
      else do
        let packet_mask := GeneratePacketMasks mask_table num_media_packets num_fec_packets
          num_important_packets use_unequal_protection
        let (num_maskBits, packet_mask) ← InsertZerosInBitMasks media_packet_list packet_mask
        let l_bit := decide (8 * kMaskSizeLBitClear < num_maskBits)
        let fec_packet_list ← packet_mask.mapM (generateFecPacket first media_packet_list l_bit)
        some (0, fec_packet_list)

end ForwardErrorCorrection

end Collaboration
