import Collaboration.Library.Parity
import Collaboration.Media.FecDecoder

/-! # What an FEC packet holds

An FEC packet holds the parity of the packets that it protects, and names them. -/

namespace Collaboration

open Parity

namespace ForwardErrorCorrection

/-! ## Symbols -/

/-- The operation on symbols. -/
def symbolXor (x y : ℕ → UInt8) : ℕ → UInt8 := fun j => x j ^^^ y j

instance : Std.Associative symbolXor where
  assoc _ _ _ := funext fun _ => UInt8.xor_assoc _ _ _

instance : Std.Commutative symbolXor where
  comm _ _ := funext fun _ => UInt8.xor_comm _ _

theorem symbolXor_self (x y : ℕ → UInt8) : symbolXor (symbolXor x y) y = x := by
  funext j
  rw [symbolXor, symbolXor, UInt8.xor_assoc, UInt8.xor_self, UInt8.xor_zero]

/-- What of a media packet is combined: the header but for what all packets have in common, with
the payload size in its middle, and the payload. -/
def symbol (p : Packet) : ℕ → UInt8 := fun j =>
  if j < 2 then p.data j
  else if j < 4 then bytes16 (p.length - UInt16.ofNat kRtpHeaderSize) (j - 2)
  else if j < 8 then p.data j
  else if j < kRtpHeaderSize then 0
  else if j < p.length.toNat then p.data j
  else 0

/-- Where a symbol stands in the memory of an FEC packet. -/
def fecSymbol (l_bit : Bool) (data : ℕ → UInt8) : ℕ → UInt8 := fun j =>
  if j < 2 then data j
  else if j < 4 then data (8 + (j - 2))
  else if j < 8 then data j
  else if j < kRtpHeaderSize then 0
  else data (payloadOffset l_bit + (j - kRtpHeaderSize))

theorem le_payloadOffset (l_bit : Bool) : 14 ≤ payloadOffset l_bit ∧ payloadOffset l_bit ≤ 18 := by
  cases l_bit <;> decide

theorem length_sub (p : Packet) (h : kRtpHeaderSize ≤ p.length.toNat) :
    (p.length - UInt16.ofNat kRtpHeaderSize).toNat = p.length.toNat - kRtpHeaderSize := by
  have hle : UInt16.ofNat kRtpHeaderSize ≤ p.length := by
    rw [UInt16.le_iff_toNat_le]
    exact h
  rw [UInt16.toNat_sub_of_le _ _ hle]
  rfl

theorem fecSymbol_putMedia_xor (l_bit : Bool) (data : ℕ → UInt8) (p : Packet)
    (h : kRtpHeaderSize ≤ p.length.toNat) :
    fecSymbol l_bit (putMedia xorBytes l_bit data p) =
      symbolXor (fecSymbol l_bit data) (symbol p) := by
  have hoffset := le_payloadOffset l_bit
  have hlength := length_sub p h
  have h12 : kRtpHeaderSize = 12 := rfl
  funext j
  simp only [fecSymbol, putMedia, symbolXor, symbol, hlength]
  by_cases h2 : j < 2
  · simp (disch := omega) only [if_pos, xorBytes_inside, xorBytes_outside]
    rw [Nat.zero_add, Nat.sub_zero]
  by_cases h4 : j < 4
  · simp (disch := omega) only [if_pos, if_neg, xorBytes_inside, xorBytes_outside]
    rw [Nat.zero_add, Nat.add_sub_cancel_left]
  by_cases h8 : j < 8
  · simp (disch := omega) only [if_pos, if_neg, xorBytes_inside, xorBytes_outside]
    rw [Nat.add_sub_cancel' (by omega)]
  by_cases hheader : j < kRtpHeaderSize
  · simp (disch := omega) only [if_pos, if_neg]
    rfl
  by_cases hpayload : j < p.length.toNat
  · simp (disch := omega) only [if_pos, if_neg, xorBytes_inside, xorBytes_outside]
    rw [Nat.add_sub_cancel_left, Nat.add_sub_cancel' (by omega)]
  · simp (disch := omega) only [if_neg, xorBytes_outside]
    rw [UInt8.xor_zero]

/-- Nothing has to be combined with an empty memory. -/
theorem putMedia_copy (l_bit : Bool) (p : Packet) :
    putMedia copyBytes l_bit (fun _ => 0) p = putMedia xorBytes l_bit (fun _ => 0) p := by
  have hoffset := le_payloadOffset l_bit
  simp only [putMedia]
  rw [copyBytes_eq_xorBytes, copyBytes_eq_xorBytes, copyBytes_eq_xorBytes, copyBytes_eq_xorBytes]
  all_goals
    intro j hj hlt
    simp (disch := omega) only [copyBytes_outside]

/-! ## Media packets -/

/-- Both have the same bytes. -/
def SameBytes (p q : Packet) : Prop :=
  p.length = q.length ∧ ∀ j < p.length.toNat, p.data j = q.data j

theorem SameBytes.symm {p q : Packet} (h : SameBytes p q) : SameBytes q p :=
  ⟨h.1.symm, fun j hj => (h.2 j (h.1 ▸ hj)).symm⟩

/-- An RTP packet of a stream, with room for the headers of FEC packets. -/
structure IsRtp (p : Packet) (seq_num : UInt16) (ssrc : UInt32) : Prop where
  header : kRtpHeaderSize ≤ p.length.toNat
  fits : p.length.toNat + (payloadOffset true - kRtpHeaderSize) ≤ IP_PACKET_SIZE
  version : p.data 0 &&& 0xc0 = 0x80
  seq_num : ∀ j < 2, p.data (2 + j) = bytes16 seq_num j
  ssrc : ∀ j < 4, p.data (8 + j) = bytes32 ssrc j

/-- The symbol depends on nothing but the bytes. -/
theorem symbol_congr {p q : Packet} (h : SameBytes p q) (hp : kRtpHeaderSize ≤ p.length.toNat) :
    symbol p = symbol q := by
  obtain ⟨hlength, hdata⟩ := h
  unfold kRtpHeaderSize at hp
  funext j
  simp only [symbol, ← hlength]
  split_ifs with h2 h4 h8 h12 hj
  · exact hdata j (by omega)
  · rfl
  · exact hdata j (by omega)
  · rfl
  · exact hdata j hj
  · rfl

theorem bufferToUWord16_eq (v : UInt16) {data : ℕ → UInt8} {i : ℕ}
    (h : ∀ j < 2, data (i + j) = bytes16 v j) : BufferToUWord16 data i = v := by
  have h0 : data i = (v >>> 8).toUInt8 := h 0 (by omega)
  have h1 : data (i + 1) = v.toUInt8 := h 1 (by omega)
  unfold BufferToUWord16
  rw [h0, h1]
  apply UInt16.toNat_inj.mp
  have hv := v.toNat_lt
  simp [Nat.shiftLeft_eq, Nat.shiftRight_eq_div_pow]
  omega

theorem IsRtp.parse {p : Packet} {seq_num : UInt16} {ssrc : UInt32} (h : IsRtp p seq_num ssrc) :
    ParseSequenceNumber p = seq_num :=
  bufferToUWord16_eq seq_num h.seq_num

/-! ## The parity in an FEC packet -/

/-- What the FEC packet holds after some packets were put under its protection. -/
structure Protecting (l_bit : Bool) (fec : Packet) (ps : List Packet) : Prop where
  symbol : fecSymbol l_bit fec.data = combine symbolXor symbol (fun _ => 0) ps
  empty : fec.length = 0 → ps = [] ∧ fec.data = fun _ => 0
  first : fec.length ≠ 0 → payloadOffset l_bit ≤ fec.length.toNat
  room : fec.length.toNat ≤ IP_PACKET_SIZE
  length : ∀ p ∈ ps, p.length.toNat + (payloadOffset l_bit - kRtpHeaderSize) ≤ fec.length.toNat

theorem protecting_nil (l_bit : Bool) : Protecting l_bit ⟨0, fun _ => 0⟩ [] where
  symbol := by
    funext j
    simp [fecSymbol]
  empty _ := ⟨rfl, rfl⟩
  first h := absurd rfl h
  room := Nat.zero_le _
  length := by simp

/-- The length of an FEC packet that protects a media packet alone. -/
theorem IsRtp.fec_length {p : Packet} {seq_num : UInt16} {ssrc : UInt32} (h : IsRtp p seq_num ssrc)
    (l_bit : Bool) :
    (p.length + UInt16.ofNat (payloadOffset l_bit - kRtpHeaderSize)).toNat =
        p.length.toNat + (payloadOffset l_bit - kRtpHeaderSize) ∧
      p.length.toNat + (payloadOffset l_bit - kRtpHeaderSize) ≤ IP_PACKET_SIZE := by
  have hoffset := le_payloadOffset l_bit
  have hfits := h.fits
  have htrue : payloadOffset true = 18 := rfl
  have hsum : p.length.toNat + (payloadOffset l_bit - kRtpHeaderSize) ≤ IP_PACKET_SIZE := by
    unfold kRtpHeaderSize at *
    omega
  refine ⟨?_, hsum⟩
  unfold IP_PACKET_SIZE at hsum
  rw [UInt16.toNat_add, UInt16.toNat_ofNat_of_lt' (by unfold UInt16.size; omega)]
  exact Nat.mod_eq_of_lt (by omega)

theorem Protecting.concat {l_bit : Bool} {fec p : Packet} {ps : List Packet} {seq_num : UInt16}
    {ssrc : UInt32} (h : Protecting l_bit fec ps) (hp : IsRtp p seq_num ssrc) :
    ∃ fec', protectPacket l_bit fec p = some fec' ∧ Protecting l_bit fec' (ps ++ [p]) := by
  obtain ⟨hlength, hfits⟩ := hp.fec_length l_bit
  have hoffset := le_payloadOffset l_bit
  have hheader := hp.header
  -- The first packet is copied, into an empty memory.
  have hdata : (if fec.length = 0 then putMedia copyBytes l_bit fec.data p
      else putMedia xorBytes l_bit fec.data p) = putMedia xorBytes l_bit fec.data p := by
    split
    · next hzero =>
        rw [(h.empty hzero).2]
        exact putMedia_copy l_bit p
    · rfl
  unfold protectPacket
  rw [if_neg (by omega), hdata]
  generalize hnew : p.length + UInt16.ofNat (payloadOffset l_bit - kRtpHeaderSize) = new
    at hlength ⊢
  have hmax : (if fec.length < new then new else fec.length).toNat =
      max fec.length.toNat (p.length.toNat + (payloadOffset l_bit - kRtpHeaderSize)) := by
    split
    · next hlt =>
        have := UInt16.lt_iff_toNat_lt.mp hlt
        omega
    · next hlt =>
        have := mt UInt16.lt_iff_toNat_lt.mpr hlt
        omega
  have hroom := h.room
  have h12 : kRtpHeaderSize = 12 := rfl
  refine ⟨_, rfl, ?_, ?_, ?_, ?_, ?_⟩
  · rw [fecSymbol_putMedia_xor l_bit _ p hheader, h.symbol, combine_append]
    rfl
  · intro hzero
    have := congrArg UInt16.toNat hzero
    simp only [hmax, UInt16.toNat_zero] at this
    omega
  · intro _
    rw [hmax]
    omega
  · rw [hmax]
    omega
  · intro q hq
    rw [hmax]
    rcases List.mem_append.mp hq with hq | hq
    · have := h.length q hq
      omega
    · obtain rfl := List.mem_singleton.mp hq
      omega

/-! ## The sender -/

/-- The media packets of a stream by their sequence numbers, which take up less than half of all. -/
structure MediaStream where
  ssrc : UInt32
  start : UInt16
  packet : UInt16 → Option Packet
  window : ∀ seq_num p, packet seq_num = some p → (seq_num - start).toNat < 0x8000
  rtp : ∀ seq_num p, packet seq_num = some p → IsRtp p seq_num ssrc

namespace MediaStream

variable {S : MediaStream}

/-- What of the packet with a sequence number is combined. -/
def symbolAt (S : MediaStream) (seq_num : UInt16) : ℕ → UInt8 :=
  (S.packet seq_num).elim (fun _ => 0) symbol

/-- Media packets with contiguous sequence numbers. -/
def Contiguous (S : MediaStream) : UInt16 → List Packet → Prop
  | _, [] => True
  | seq_num, p :: ps => S.packet seq_num = some p ∧ S.Contiguous (seq_num + 1) ps

end MediaStream

variable {S : MediaStream}

/-- The sequence numbers of the packets that a mask chooses from some on. -/
def chosen (packet_mask : ℕ → UInt8) (seq_num_base : UInt16) (i n : ℕ) : List UInt16 :=
  ((List.range' i n).filter fun k => maskAt packet_mask k).map
    fun k => seq_num_base + UInt16.ofNat k

theorem ofNat_succ (seq_num : UInt16) (i : ℕ) :
    seq_num + UInt16.ofNat i + 1 = seq_num + UInt16.ofNat (i + 1) := by
  rw [UInt16.add_assoc, UInt16.ofNat_add]
  rfl

/-- The index goes through the mask bit by bit. -/
theorem generateFecBitString_next {packet_mask : ℕ → UInt8} {l_bit : Bool} {p : Packet}
    {rest : List Packet} {seq_num : UInt16} (h : S.Contiguous seq_num (p :: rest)) {i : ℕ}
    (hi : i < 8 * maskSizeBytes l_bit) (fec : Packet) :
    GenerateFecBitString packet_mask l_bit (p :: rest) (i / 8) (i % 8) fec =
      ((if maskAt packet_mask i then protectPacket l_bit fec p else some fec).bind
        (GenerateFecBitString packet_mask l_bit rest ((i + 1) / 8) ((i + 1) % 8))) := by
  have hinside : ¬(7 < i % 8 ∨ maskSizeBytes l_bit ≤ i / 8) := by omega
  rw [GenerateFecBitString, if_neg hinside]
  refine Option.bind_congr fun fec' _ => ?_
  cases rest with
  | nil =>
      split <;> rfl
  | cons next rest =>
      have hp := (S.rtp _ _ h.1).parse
      have hnext := (S.rtp _ _ h.2.1).parse
      have hone : nextBit p (next :: rest) (i % 8) = i % 8 + 1 := by
        rw [nextBit, hp, hnext, UInt16.add_comm, UInt16.add_sub_cancel]
        rfl
      rw [hone]
      split
      · congr 1 <;> omega
      · congr 1 <;> omega

/-- One FEC packet ends up with the parity of the packets that its mask chooses. -/
theorem generateFecBitString_spec {packet_mask : ℕ → UInt8} {l_bit : Bool} (seq_num_base : UInt16)
    {media : List Packet} {i : ℕ} {fec : Packet} {ps : List Packet}
    (h : S.Contiguous (seq_num_base + UInt16.ofNat i) media)
    (hsize : i + media.length ≤ 8 * maskSizeBytes l_bit) (hfec : Protecting l_bit fec ps) :
    ∃ fec' ps', GenerateFecBitString packet_mask l_bit media (i / 8) (i % 8) fec = some fec' ∧
      List.Forall₂ (fun seq_num p => S.packet seq_num = some p)
        (chosen packet_mask seq_num_base i media.length) ps' ∧
      Protecting l_bit fec' (ps ++ ps') := by
  induction media generalizing i fec ps with
  | nil =>
      refine ⟨fec, [], ?_, .nil, ?_⟩
      · simp [GenerateFecBitString]
      · rwa [List.append_nil]
  | cons p rest ih =>
      have hp := h.1
      have hrest := h.2
      rw [ofNat_succ] at hrest
      rw [List.length_cons] at hsize
      rw [generateFecBitString_next h (by omega), chosen, List.length_cons, List.range'_succ]
      cases hmask : maskAt packet_mask i with
      | false =>
          obtain ⟨fec', ps', hgen, hall, hprotecting⟩ := ih hrest (by omega) hfec
          refine ⟨fec', ps', hgen, ?_, hprotecting⟩
          rw [List.filter_cons_of_neg (by simp [hmask])]
          exact hall
      | true =>
          obtain ⟨fec₁, hprotect, hone⟩ := hfec.concat (S.rtp _ _ hp)
          obtain ⟨fec', ps', hgen, hall, hprotecting⟩ := ih hrest (by omega) hone
          refine ⟨fec', p :: ps', ?_, ?_, ?_⟩
          · rw [if_pos rfl, hprotect]
            exact hgen
          · rw [List.filter_cons_of_pos hmask]
            exact .cons hp hall
          · rwa [List.append_assoc] at hprotecting

/-! ## What an FEC packet tells -/

/-- The parity of the packets with some sequence numbers. -/
def MediaStream.parity (S : MediaStream) (seq_nums : List UInt16) : ℕ → UInt8 :=
  combine symbolXor S.symbolAt (fun _ => 0) seq_nums

/-- The protection length of an FEC packet. -/
def protectionLength (pkt : Packet) : ℕ := (BufferToUWord16 pkt.data 10).toNat

/-- An FEC packet that protects packets of the stream, which it names in order. -/
structure MediaStream.Encodes (S : MediaStream) (pkt : Packet) : Prop where
  ordered : (protectedSeqNums pkt).Pairwise fun a b => (a - S.start).toNat < (b - S.start).toNat
  protects : ∀ seq_num ∈ protectedSeqNums pkt, ∃ p, S.packet seq_num = some p ∧
    p.length.toNat ≤ kRtpHeaderSize + protectionLength pkt
  length : pkt.length.toNat = payloadOffset (lBit pkt) + protectionLength pkt
  room : pkt.length.toNat ≤ IP_PACKET_SIZE
  first_byte : pkt.data 0 &&& 0x3f = S.parity (protectedSeqNums pkt) 0 &&& 0x3f
  symbol : ∀ j, 0 < j → j < kRtpHeaderSize + protectionLength pkt →
    fecSymbol (lBit pkt) pkt.data j = S.parity (protectedSeqNums pkt) j

theorem forall_byte {P : UInt8 → Prop} (h : ∀ i < 256, P (UInt8.ofNat i)) (b : UInt8) : P b := by
  have hb := h b.toNat b.toNat_lt
  rwa [UInt8.ofNat_toNat] at hb

theorem lBit_ulpHeader (first : Packet) (packet_mask : ℕ → UInt8) (l_bit : Bool) (fec : Packet) :
    lBit (GenerateFecUlpHeader first packet_mask l_bit fec) = l_bit := by
  have hset : ∀ b : UInt8, ((b &&& 0x7f ||| 0x40) &&& 0x40 != 0) = true :=
    forall_byte (by decide +kernel)
  have hclear : ∀ b : UInt8, ((b &&& 0x7f &&& 0xbf) &&& 0x40 != 0) = false :=
    forall_byte (by decide +kernel)
  cases l_bit with
  | false => exact hclear (fec.data 0)
  | true => exact hset (fec.data 0)

theorem payloadOffset_eq (l_bit : Bool) : payloadOffset l_bit = 12 + maskSizeBytes l_bit := by
  cases l_bit <;> rfl

/-- The bytes of the two headers, and what is kept of the others. -/
theorem ulpHeader_data (first : Packet) (packet_mask : ℕ → UInt8) (l_bit : Bool) (fec : Packet)
    (j : ℕ) :
    (GenerateFecUlpHeader first packet_mask l_bit fec).data j =
      if j = 0 then
        if l_bit then fec.data 0 &&& 0x7f ||| 0x40 else fec.data 0 &&& 0x7f &&& 0xbf
      else if j = 1 then fec.data 1
      else if j < 4 then first.data j
      else if j < 10 then fec.data j
      else if j < 12 then bytes16 (fec.length - UInt16.ofNat (payloadOffset l_bit)) (j - 10)
      else if j < payloadOffset l_bit then packet_mask (j - 12)
      else fec.data j := by
  have hoffset := payloadOffset_eq l_bit
  simp only [GenerateFecUlpHeader, AssignUWord16ToBuffer]
  by_cases h0 : j = 0
  · simp (disch := omega) only [if_pos, copyBytes_inside, copyBytes_outside]
  by_cases h1 : j = 1
  · simp (disch := omega) only [if_pos, if_neg, copyBytes_outside]
    rw [h1]
  by_cases h4 : j < 4
  · simp (disch := omega) only [if_pos, if_neg, copyBytes_inside, copyBytes_outside]
    rw [Nat.add_sub_cancel' (by omega)]
  by_cases h10 : j < 10
  · simp (disch := omega) only [if_pos, if_neg, copyBytes_outside]
  by_cases h12 : j < 12
  · simp (disch := omega) only [if_pos, if_neg, copyBytes_inside, copyBytes_outside]
    rw [Nat.zero_add]
  by_cases hmask : j < payloadOffset l_bit
  · simp (disch := omega) only [if_pos, if_neg, copyBytes_inside]
    rw [Nat.zero_add]
  · simp (disch := omega) only [if_neg, copyBytes_outside]

/-- The headers leave all of the symbol but the first byte. -/
theorem fecSymbol_ulpHeader (first : Packet) (packet_mask : ℕ → UInt8) (l_bit : Bool) (fec : Packet)
    {j : ℕ} (hj : 0 < j) :
    fecSymbol l_bit (GenerateFecUlpHeader first packet_mask l_bit fec).data j =
      fecSymbol l_bit fec.data j := by
  have hoffset := le_payloadOffset l_bit
  have hkeep : ∀ k, k = 1 ∨ 4 ≤ k ∧ k < 10 ∨ payloadOffset l_bit ≤ k →
      (GenerateFecUlpHeader first packet_mask l_bit fec).data k = fec.data k := by
    intro k hk
    rw [ulpHeader_data]
    split_ifs <;> first | omega | rfl | exact congrArg fec.data (by omega)
  unfold fecSymbol
  split_ifs <;> first | rfl | exact hkeep _ (by omega)

/-- A loop over bytes and bits is one over bits. -/
theorem protectedSeqNums_eq (pkt : Packet) :
    protectedSeqNums pkt = chosen (fun k => pkt.data (12 + k)) (BufferToUWord16 pkt.data 2) 0
      (8 * maskSizeBytes (lBit pkt)) := by
  unfold protectedSeqNums chosen
  generalize maskSizeBytes (lBit pkt) = n
  induction n with
  | zero => rfl
  | succ n ih =>
      have hrange : List.range' 0 (8 * (n + 1)) =
          List.range' 0 (8 * n) ++ (List.range 8).map (8 * n + ·) := by
        rw [← List.range'_eq_map_range, Nat.mul_succ, ← List.range'_append]
        simp
      rw [@List.range_succ n, List.flatMap_append, ih, hrange, List.filter_append, List.map_append,
        List.filter_map, List.map_map, List.flatMap_singleton]
      congr 2
      refine List.filter_congr fun bit hbit => ?_
      have hlt := List.mem_range.mp hbit
      have hbyte : (8 * n + bit) / 8 = n := by omega
      have hbit : (8 * n + bit) % 8 = bit := by omega
      simp only [Function.comp_apply, maskAt, hbyte, hbit]

/-! ## What the sender makes -/

theorem chosen_congr {mask mask' : ℕ → UInt8} {i n : ℕ} (seq_num_base : UInt16)
    (h : ∀ k < i + n, maskAt mask k = maskAt mask' k) :
    chosen mask seq_num_base i n = chosen mask' seq_num_base i n := by
  unfold chosen
  congr 1
  refine List.filter_congr fun k hk => h k ?_
  have := List.mem_range'_1.mp hk
  omega

/-- Bits that are not set choose nothing. -/
theorem chosen_extend {mask : ℕ → UInt8} {n m : ℕ} (seq_num_base : UInt16) (hnm : n ≤ m)
    (h : ∀ k, n ≤ k → maskAt mask k = false) :
    chosen mask seq_num_base 0 m = chosen mask seq_num_base 0 n := by
  obtain ⟨d, rfl⟩ := Nat.exists_eq_add_of_le hnm
  have hnone : (List.range' n d).filter (fun k => maskAt mask k) = [] := by
    rw [List.filter_eq_nil_iff]
    intro k hk
    simp [h k (List.mem_range'_1.mp hk).1]
  unfold chosen
  rw [← List.range'_append_1, List.filter_append, Nat.zero_add, hnone, List.append_nil]

theorem exists_of_forall₂ {α β : Type*} {r : α → β → Prop} {as : List α} {bs : List β}
    (h : List.Forall₂ r as bs) {a : α} (ha : a ∈ as) : ∃ b ∈ bs, r a b := by
  induction h with
  | nil => simp at ha
  | @cons a' b _ _ hab _ ih =>
      rcases List.mem_cons.mp ha with rfl | ha
      · exact ⟨b, List.mem_cons_self, hab⟩
      · obtain ⟨b', hb', hr⟩ := ih ha
        exact ⟨b', List.mem_cons_of_mem _ hb', hr⟩

theorem parity_eq {seq_nums : List UInt16} {ps : List Packet} (x : ℕ → UInt8)
    (h : List.Forall₂ (fun seq_num p => S.packet seq_num = some p) seq_nums ps) :
    combine symbolXor S.symbolAt x seq_nums = combine symbolXor symbol x ps := by
  induction h generalizing x with
  | nil => rfl
  | @cons seq_num p _ _ hp _ ih =>
      have hsymbol : S.symbolAt seq_num = symbol p := by simp [MediaStream.symbolAt, hp]
      rw [combine_cons, combine_cons, hsymbol]
      exact ih _

/-- Sequence numbers go up within the window of the stream. -/
theorem MediaStream.distance_add {seq_num : UInt16} {p : Packet} (hp : S.packet seq_num = some p)
    {i : ℕ} (hi : i < 0x8000) :
    (seq_num + UInt16.ofNat i - S.start).toNat = (seq_num - S.start).toNat + i := by
  have hwindow := S.window _ _ hp
  have hsum : seq_num + UInt16.ofNat i - S.start = (seq_num - S.start) + UInt16.ofNat i := by
    rw [UInt16.sub_eq_add_neg, UInt16.sub_eq_add_neg, UInt16.add_assoc, UInt16.add_assoc,
      UInt16.add_comm (UInt16.ofNat i)]
  rw [hsum, UInt16.toNat_add, UInt16.toNat_ofNat_of_lt' (by unfold UInt16.size; omega)]
  exact Nat.mod_eq_of_lt (by omega)

theorem chosen_ordered {mask : ℕ → UInt8} {seq_num_base : UInt16} {p : Packet} {n : ℕ}
    (hp : S.packet seq_num_base = some p) (hn : n ≤ 0x8000) :
    (chosen mask seq_num_base 0 n).Pairwise fun a b =>
      (a - S.start).toNat < (b - S.start).toNat := by
  unfold chosen
  rw [List.pairwise_map]
  refine List.Pairwise.imp_of_mem ?_ ((List.pairwise_lt_range' (s := 0) (n := n)).filter _)
  intro i k hi hk hlt
  have hi := (List.mem_range'_1.mp (List.mem_filter.mp hi).1).2
  have hk := (List.mem_range'_1.mp (List.mem_filter.mp hk).1).2
  rw [MediaStream.distance_add hp (by omega), MediaStream.distance_add hp (by omega)]
  omega

/-- The FEC packet names the packets that the mask chooses. -/
theorem protectedSeqNums_ulpHeader {mask : ℕ → UInt8} {l_bit : Bool} {first : Packet} {n : ℕ}
    {seq_num_base : UInt16} (fec : Packet) (hfirst : S.packet seq_num_base = some first)
    (hn : n ≤ 8 * maskSizeBytes l_bit) (hnone : ∀ i, n ≤ i → maskAt mask i = false) :
    protectedSeqNums (GenerateFecUlpHeader first mask l_bit fec) =
      chosen mask seq_num_base 0 n := by
  have hdata := ulpHeader_data first mask l_bit fec
  have hoffset := le_payloadOffset l_bit
  have hoffseteq := payloadOffset_eq l_bit
  have h12 : kRtpHeaderSize = 12 := rfl
  have hbase : BufferToUWord16 (GenerateFecUlpHeader first mask l_bit fec).data 2 =
      seq_num_base := by
    refine bufferToUWord16_eq seq_num_base fun j hj => ?_
    rw [hdata, if_neg (by omega), if_neg (by omega), if_pos (by omega)]
    exact (S.rtp _ _ hfirst).seq_num j hj
  rw [protectedSeqNums_eq, hbase, lBit_ulpHeader, ← chosen_extend seq_num_base hn hnone]
  refine chosen_congr seq_num_base fun k hk => ?_
  have hbyte : (GenerateFecUlpHeader first mask l_bit fec).data (12 + k / 8) = mask (k / 8) := by
    rw [hdata, if_neg (by omega), if_neg (by omega), if_neg (by omega), if_neg (by omega),
      if_neg (by omega), if_pos (by omega), Nat.add_sub_cancel_left]
  simp only [maskAt, hbyte]

theorem maskSizeBytes_le (l_bit : Bool) : maskSizeBytes l_bit ≤ 6 := by
  cases l_bit <;> decide

theorem encodes_ulpHeader {mask : ℕ → UInt8} {l_bit : Bool} {first fec : Packet} {n : ℕ}
    {seq_num_base : UInt16} {ps : List Packet} (hfirst : S.packet seq_num_base = some first)
    (hn : n ≤ 8 * maskSizeBytes l_bit) (hsome : ∃ i < n, maskAt mask i = true)
    (hnone : ∀ i, n ≤ i → maskAt mask i = false)
    (hall : List.Forall₂ (fun seq_num p => S.packet seq_num = some p)
      (chosen mask seq_num_base 0 n) ps)
    (hfec : Protecting l_bit fec ps) :
    S.Encodes (GenerateFecUlpHeader first mask l_bit fec) := by
  have hnamed := protectedSeqNums_ulpHeader fec hfirst hn hnone
  have hdata := ulpHeader_data first mask l_bit fec
  have hlbit := lBit_ulpHeader first mask l_bit fec
  generalize hpkt : GenerateFecUlpHeader first mask l_bit fec = pkt at hdata hlbit hnamed ⊢
  have hpktlength : pkt.length = fec.length := by rw [← hpkt]; rfl
  have hoffset := le_payloadOffset l_bit
  have hoffseteq := payloadOffset_eq l_bit
  have h12 : kRtpHeaderSize = 12 := rfl
  have hne : ps ≠ [] := by
    intro hnil
    obtain ⟨i, hi, hmask⟩ := hsome
    rw [hnil, List.forall₂_nil_right_iff] at hall
    have hmem : seq_num_base + UInt16.ofNat i ∈ chosen mask seq_num_base 0 n := by
      refine List.mem_map.mpr ⟨i, List.mem_filter.mpr ⟨?_, hmask⟩, rfl⟩
      exact List.mem_range'_1.mpr ⟨Nat.zero_le _, by omega⟩
    simp [hall] at hmem
  have hlengthne : fec.length ≠ 0 := fun hzero => hne (hfec.empty hzero).1
  have hfirstlength := hfec.first hlengthne
  have hprotection : protectionLength pkt = fec.length.toNat - payloadOffset l_bit := by
    unfold protectionLength
    rw [bufferToUWord16_eq (fec.length - UInt16.ofNat (payloadOffset l_bit)) fun j hj => by
      rw [hdata, if_neg (by omega), if_neg (by omega), if_neg (by omega), if_neg (by omega),
        if_pos (by omega), Nat.add_sub_cancel_left]]
    have hnat : (UInt16.ofNat (payloadOffset l_bit)).toNat = payloadOffset l_bit :=
      UInt16.toNat_ofNat_of_lt' (by unfold UInt16.size; omega)
    rw [UInt16.toNat_sub_of_le _ _ (by rw [UInt16.le_iff_toNat_le, hnat]; exact hfirstlength), hnat]
  have hparity : S.parity (protectedSeqNums pkt) = fecSymbol l_bit fec.data := by
    rw [hnamed, hfec.symbol]
    exact parity_eq _ hall
  have hmask : ∀ b : UInt8, (b &&& 0x7f ||| 0x40) &&& 0x3f = b &&& 0x3f :=
    forall_byte (by decide +kernel)
  have hmask' : ∀ b : UInt8, (b &&& 0x7f &&& 0xbf) &&& 0x3f = b &&& 0x3f :=
    forall_byte (by decide +kernel)
  refine ⟨?_, ?_, ?_, ?_, ?_, ?_⟩
  · rw [hnamed]
    refine chosen_ordered hfirst ?_
    have := maskSizeBytes_le l_bit
    omega
  · intro seq_num hseq
    rw [hnamed] at hseq
    obtain ⟨p, hp, hpacket⟩ := exists_of_forall₂ hall hseq
    refine ⟨p, hpacket, ?_⟩
    have := hfec.length p hp
    omega
  · rw [hpktlength, hlbit, hprotection]
    omega
  · rw [hpktlength]
    exact hfec.room
  · rw [hparity, hdata, if_pos rfl]
    cases l_bit
    · exact hmask' _
    · exact hmask _
  · intro j hj _
    rw [hparity, hlbit, ← hpkt]
    exact fecSymbol_ulpHeader first mask l_bit fec hj

/-- The L bit is set where the short mask is too short. -/
theorem le_maskSizeBytes {n : ℕ} (hn : n ≤ kMaxMediaPackets) :
    n ≤ 8 * maskSizeBytes (decide (8 * kMaskSizeLBitClear < n)) := by
  have h48 : kMaxMediaPackets = 48 := rfl
  have htrue : 8 * maskSizeBytes true = 48 := rfl
  have hfalse : 8 * maskSizeBytes false = 8 * kMaskSizeLBitClear := rfl
  by_cases hlong : 8 * kMaskSizeLBitClear < n
  · rw [decide_eq_true hlong]
    omega
  · rw [decide_eq_false hlong]
    omega

/-- Every row protects some of the media packets, and nothing else. -/
theorem generatePacketMasks_spec (mask_table : MaskTable) {num_media_packets num_fec_packets : ℕ}
    {num_imp_packets : ℕ} {use_unequal_protection : Bool} {mask : ℕ → UInt8}
    (himp : num_imp_packets ≤ num_media_packets)
    (hmask : mask ∈ GeneratePacketMasks mask_table num_media_packets num_fec_packets num_imp_packets
      use_unequal_protection) :
    (∃ i < num_media_packets, maskAt mask i = true) ∧
      ∀ i, num_media_packets ≤ i → maskAt mask i = false := by
  have hfit : ∀ n k, n ≤ num_media_packets → mask ∈ FitSubMask (mask_table.rows n k) →
      (∃ i < num_media_packets, maskAt mask i = true) ∧
        ∀ i, num_media_packets ≤ i → maskAt mask i = false := by
    intro n k hn hmem
    obtain ⟨row, hrow, rfl⟩ := List.mem_map.mp hmem
    obtain ⟨i, hi, hsome⟩ := mask_table.some_protected n k row hrow
    exact ⟨⟨i, by omega, hsome⟩, fun i hi => mask_table.none_beyond n k row hrow i (by omega)⟩
  unfold GeneratePacketMasks at hmask
  split at hmask
  · exact hfit _ _ le_rfl hmask
  · unfold UnequalProtectionMask at hmask
    rcases List.mem_append.mp hmask with hmask | hmask
    · split at hmask
      · exact hfit _ _ himp hmask
      · simp at hmask
    · split at hmask
      · exact hfit _ _ le_rfl hmask
      · simp at hmask

theorem MediaStream.Contiguous.last {seq_num : UInt16} {p : Packet} {ps : List Packet}
    (h : S.Contiguous seq_num (p :: ps)) :
    S.packet (seq_num + UInt16.ofNat ps.length) = some (ps.getLastD p) := by
  induction ps generalizing seq_num p with
  | nil => simpa using h.1
  | cons q qs ih =>
      have hq := ih h.2
      have hcomm : seq_num + UInt16.ofNat (qs.length + 1) =
          seq_num + 1 + UInt16.ofNat qs.length := by
        rw [← ofNat_succ, UInt16.add_assoc, UInt16.add_assoc, UInt16.add_comm (UInt16.ofNat _)]
      rw [List.length_cons, List.getLastD_cons, hcomm]
      exact hq

/-- Without holes the masks stay as they are. -/
theorem insertZeros_contiguous {seq_num : UInt16} {media : List Packet}
    (h : S.Contiguous seq_num media) (hlength : media.length ≤ kMaxMediaPackets)
    (packet_mask : List (ℕ → UInt8)) :
    InsertZerosInBitMasks media packet_mask = some (media.length, packet_mask) := by
  cases media with
  | nil => rfl
  | cons first rest =>
      cases rest with
      | nil => rfl
      | cons second rest =>
          have hfirst := (S.rtp _ _ h.1).parse
          have hlast := (S.rtp _ _ (MediaStream.Contiguous.last h)).parse
          rw [List.getLastD_cons] at hlast
          have hmissing : ((ParseSequenceNumber (rest.getLastD second) -
              ParseSequenceNumber first).toNat : ℤ) - (first :: second :: rest).length + 1 = 0 := by
            have hbound : (second :: rest).length < 48 := hlength
            rw [hlast, hfirst, UInt16.add_comm, UInt16.add_sub_cancel,
              UInt16.toNat_ofNat_of_lt' (by unfold UInt16.size; omega)]
            simp only [List.length_cons]
            omega
          simp only [InsertZerosInBitMasks]
          rw [if_pos hmissing]

theorem generateFecPacket_spec {mask : ℕ → UInt8} {l_bit : Bool} {seq_num : UInt16}
    {first : Packet} {rest : List Packet} (h : S.Contiguous seq_num (first :: rest))
    (hsize : (first :: rest).length ≤ 8 * maskSizeBytes l_bit)
    (hsome : ∃ i < (first :: rest).length, maskAt mask i = true)
    (hnone : ∀ i, (first :: rest).length ≤ i → maskAt mask i = false) :
    ∃ pkt, generateFecPacket first (first :: rest) l_bit mask = some pkt ∧ S.Encodes pkt := by
  have hbase : S.Contiguous (seq_num + UInt16.ofNat 0) (first :: rest) := by simpa using h
  obtain ⟨fec, ps, hgen, hps, hfec⟩ :=
    generateFecBitString_spec seq_num hbase (by omega) (protecting_nil l_bit)
  exact ⟨_, congrArg _ hgen, encodes_ulpHeader h.1 hsize hsome hnone hps hfec⟩

/-- What a list gives one by one, when each of its elements stands for one of another list. -/
theorem mapM_forall₂ {α β γ : Type*} {f : α → Option β} {r : γ → α → Prop} {r' : γ → β → Prop}
    {cs : List γ} {as : List α} (h : List.Forall₂ r cs as)
    (hf : ∀ c ∈ cs, ∀ a, r c a → ∃ b, f a = some b ∧ r' c b) :
    ∃ bs, as.mapM f = some bs ∧ List.Forall₂ r' cs bs := by
  induction h with
  | nil => exact ⟨[], rfl, .nil⟩
  | @cons c a cs as hca hrest ih =>
      obtain ⟨hc, hcs⟩ := List.forall_mem_cons.mp hf
      obtain ⟨b, hb, hr'⟩ := hc a hca
      obtain ⟨bs, hbs, hall⟩ := ih hcs
      refine ⟨b :: bs, ?_, .cons hr' hall⟩
      simp [List.mapM_cons, hb, hbs]

theorem mapM_forall {α β : Type*} {f : α → Option β} {cond : β → Prop} {as : List α}
    (h : ∀ a ∈ as, ∃ b, f a = some b ∧ cond b) :
    ∃ bs, as.mapM f = some bs ∧ ∀ b ∈ bs, cond b := by
  induction as with
  | nil => exact ⟨[], rfl, by simp⟩
  | cons a as ih =>
      obtain ⟨ha, has⟩ := List.forall_mem_cons.mp h
      obtain ⟨b, hb, hcond⟩ := ha
      obtain ⟨bs, hbs, hall⟩ := ih has
      refine ⟨b :: bs, ?_, List.forall_mem_cons.mpr ⟨hcond, hall⟩⟩
      simp [List.mapM_cons, hb, hbs]

/-- Whatever is asked for, the FEC packets for contiguous packets of a stream are made, and tell
what they protect. -/
theorem generateFEC_spec (mask_table : MaskTable) {seq_num : UInt16} {media : List Packet}
    (h : S.Contiguous seq_num media) (hne : media ≠ []) (protection_factor : UInt8)
    {num_important_packets : ℕ} (himp : num_important_packets ≤ media.length)
    (use_unequal_protection : Bool) :
    ∃ r fec_packet_list, GenerateFEC mask_table media protection_factor num_important_packets
        use_unequal_protection = some (r, fec_packet_list) ∧
      ∀ pkt ∈ fec_packet_list, S.Encodes pkt := by
  cases media with
  | nil => exact absurd rfl hne
  | cons first rest =>
      unfold GenerateFEC
      simp only
      split
      · exact ⟨_, _, rfl, by simp⟩
      · next hlength =>
          split
          · exact ⟨_, _, rfl, by simp⟩
          · split
            · exact ⟨_, _, rfl, by simp⟩
            · rw [insertZeros_contiguous h (by omega)]
              obtain ⟨fecs, hfecs, hall⟩ := mapM_forall fun mask hmask =>
                have ⟨hsome, hnone⟩ := generatePacketMasks_spec mask_table himp hmask
                generateFecPacket_spec h (le_maskSizeBytes (by omega)) hsome hnone
              exact ⟨0, fecs, by rw [Option.bind_eq_bind, Option.bind_some, hfecs]; rfl, hall⟩

end ForwardErrorCorrection

end Collaboration
