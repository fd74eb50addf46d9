import Collaboration.Media.FecEncoding

/-! # Recovering a packet

The packet that is missing comes back when the others are taken out of the parity. -/

namespace Collaboration

open Parity

namespace ForwardErrorCorrection

variable {S : MediaStream}

/-! ## Received packets -/

/-- The packet has the bytes of the one that was sent with the sequence number. -/
def MediaStream.Sends (S : MediaStream) (seq_num : UInt16) (pkt : Packet) : Prop :=
  ∃ p, S.packet seq_num = some p ∧ SameBytes pkt p

/-- What an FEC packet tells depends on nothing but its bytes. -/
theorem MediaStream.Encodes.congr {pkt pkt' : Packet} (h : S.Encodes pkt)
    (hsame : SameBytes pkt pkt') :
    S.Encodes pkt' := by
  obtain ⟨hlength, hdata⟩ := hsame
  have hoffset := payloadOffset_eq (lBit pkt)
  have hbound := le_payloadOffset (lBit pkt)
  have hlen := h.length
  have h12 : kRtpHeaderSize = 12 := rfl
  have hlbit : lBit pkt' = lBit pkt := by
    unfold lBit
    rw [hdata 0 (by omega)]
  have hprotection : protectionLength pkt' = protectionLength pkt := by
    unfold protectionLength BufferToUWord16
    rw [hdata 10 (by omega), hdata 11 (by omega)]
  have hseqs : protectedSeqNums pkt' = protectedSeqNums pkt := by
    have hbase : BufferToUWord16 pkt'.data 2 = BufferToUWord16 pkt.data 2 := by
      unfold BufferToUWord16
      rw [hdata 2 (by omega), hdata 3 (by omega)]
    rw [protectedSeqNums_eq, protectedSeqNums_eq, hlbit, hbase]
    refine chosen_congr _ fun k hk => ?_
    simp only [maskAt]
    rw [hdata (12 + k / 8) (by omega)]
  refine ⟨?_, ?_, ?_, ?_, ?_, ?_⟩
  · rw [hseqs]
    exact h.ordered
  · rw [hseqs, hprotection]
    exact h.protects
  · rw [← hlength, hlbit, hprotection]
    exact hlen
  · rw [← hlength]
    exact h.room
  · rw [hseqs, ← hdata 0 (by omega)]
    exact h.first_byte
  · intro j hj hlt
    rw [hprotection] at hlt
    rw [hseqs, hlbit, ← h.symbol j hj hlt]
    unfold fecSymbol
    split_ifs
    · rw [hdata j (by omega)]
    · rw [hdata (8 + (j - 2)) (by omega)]
    · rw [hdata j (by omega)]
    · rfl
    · rw [hdata (payloadOffset (lBit pkt) + (j - kRtpHeaderSize)) (by omega)]

/-- No protected packet reaches beyond the protection length. -/
theorem MediaStream.Encodes.parity_beyond {pkt : Packet} (h : S.Encodes pkt) {j : ℕ}
    (hj : kRtpHeaderSize + protectionLength pkt ≤ j) : S.parity (protectedSeqNums pkt) j = 0 := by
  have hbeyond : ∀ (seq_nums : List UInt16) (x : ℕ → UInt8), x j = 0 →
      (∀ seq_num ∈ seq_nums, seq_num ∈ protectedSeqNums pkt) →
      combine symbolXor S.symbolAt x seq_nums j = 0 := by
    intro seq_nums
    induction seq_nums with
    | nil => exact fun x hx _ => hx
    | cons seq_num seq_nums ih =>
        intro x hx hmem
        obtain ⟨hseq, hrest⟩ := List.forall_mem_cons.mp hmem
        obtain ⟨p, hp, hlength⟩ := h.protects seq_num hseq
        have h12 : kRtpHeaderSize = 12 := rfl
        refine ih _ ?_ hrest
        simp only [symbolXor, hx, MediaStream.symbolAt, hp, Option.elim_some,
          ForwardErrorCorrection.symbol]
        split_ifs <;> first | omega | rfl
  exact hbeyond _ _ rfl fun _ hmem => hmem

/-! ## Taking packets out -/

/-- What of the recovered packet is on the way. -/
def Recovery.symbol (r : Recovery) : ℕ → UInt8 := fun j =>
  if j < 2 then r.data j
  else if j < 4 then r.length_recovery (j - 2)
  else if j < 8 then r.data j
  else if j < kRtpHeaderSize then 0
  else r.data j

theorem xorPackets_spec {seq_num : UInt16} {src : Packet} (h : S.Sends seq_num src) (r : Recovery) :
    ∃ r', XorPackets src r = some r' ∧ r'.symbol = symbolXor r.symbol (S.symbolAt seq_num) ∧
      (∀ j < 4, r'.data (8 + j) = r.data (8 + j)) ∧ r'.seq_num = r.seq_num := by
  obtain ⟨p, hp, hsame⟩ := h
  have hrtp := S.rtp _ _ hp
  have hheader : kRtpHeaderSize ≤ src.length.toNat := by
    rw [hsame.1]
    exact hrtp.header
  have hfits : src.length.toNat ≤ IP_PACKET_SIZE := by
    have := hrtp.fits
    rw [hsame.1]
    omega
  have hsymbol : S.symbolAt seq_num = ForwardErrorCorrection.symbol src := by
    rw [MediaStream.symbolAt, hp, symbol_congr hsame hheader]
    rfl
  have h12 : kRtpHeaderSize = 12 := rfl
  unfold XorPackets
  rw [if_neg (by omega), hsymbol]
  refine ⟨_, rfl, ?_, ?_, rfl⟩
  · funext j
    simp only [Recovery.symbol, xorBytes, symbolXor, ForwardErrorCorrection.symbol]
    split_ifs <;> try omega
    · simp
    · simp
    · rw [Nat.add_sub_cancel' (by omega)]
    · simp
    · rw [Nat.add_sub_cancel' (by omega)]
    · simp
  · intro j hj
    simp only [xorBytes]
    split_ifs <;> first | omega | rfl

/-- Packets that are there are taken out one after the other. -/
theorem xorProtected_links {links : List ProtectedPacket} (rest : List ProtectedPacket)
    (h : ∀ p ∈ links, ∃ pkt, p.pkt = some pkt ∧ S.Sends p.seq_num pkt) (r : Recovery) :
    ∃ r', xorProtected (links ++ rest) r = xorProtected rest r' ∧
      r'.symbol = combine symbolXor S.symbolAt r.symbol (links.map (·.seq_num)) ∧
      (∀ j < 4, r'.data (8 + j) = r.data (8 + j)) ∧ r'.seq_num = r.seq_num := by
  induction links generalizing r with
  | nil => exact ⟨r, rfl, rfl, fun _ _ => rfl, rfl⟩
  | cons p links ih =>
      obtain ⟨⟨pkt, hpkt, hsends⟩, hlinks⟩ := List.forall_mem_cons.mp h
      obtain ⟨seq_num, link⟩ := p
      obtain rfl : link = some pkt := hpkt
      obtain ⟨r₁, hxor, hsymbol, hssrc, hseq⟩ := xorPackets_spec hsends r
      obtain ⟨r', hrest, hsymbol', hssrc', hseq'⟩ := ih hlinks r₁
      refine ⟨r', ?_, ?_, ?_, hseq'.trans hseq⟩
      · rw [List.cons_append, xorProtected, hxor]
        exact hrest
      · rw [hsymbol', hsymbol]
        rfl
      · intro j hj
        rw [hssrc' j hj, hssrc j hj]

theorem initRecovery_spec {fec_packet : FecPacket} (h : S.Encodes fec_packet.pkt) :
    ∃ r, InitRecovery fec_packet = some r ∧
      (∀ j, 0 < j → r.symbol j = S.parity (protectedSeqNums fec_packet.pkt) j) ∧
      r.symbol 0 &&& 0x3f = S.parity (protectedSeqNums fec_packet.pkt) 0 &&& 0x3f ∧
      ∀ j < 4, r.data (8 + j) = bytes32 fec_packet.ssrc j := by
  have hlength := h.length
  have hroom := h.room
  have hprotection : protectionLength fec_packet.pkt =
      (BufferToUWord16 fec_packet.pkt.data 10).toNat := rfl
  have h12 : kRtpHeaderSize = 12 := rfl
  unfold InitRecovery
  simp only
  rw [if_neg (by omega)]
  generalize hr : Recovery.mk _ _ _ = r
  have hsymbol : ∀ j, r.symbol j =
      if j < kRtpHeaderSize + protectionLength fec_packet.pkt then
        fecSymbol (lBit fec_packet.pkt) fec_packet.pkt.data j
      else 0 := by
    intro j
    rw [← hr]
    simp only [Recovery.symbol, AssignUWord32ToBuffer, copyBytes, fecSymbol]
    split_ifs <;> first | omega | rfl | exact congrArg fec_packet.pkt.data (by omega)
  refine ⟨_, rfl, ?_, ?_, ?_⟩
  · intro j hj
    rw [hsymbol]
    split
    · next hlt => exact h.symbol j hj hlt
    · next hle => exact (h.parity_beyond (by omega)).symm
  · rw [hsymbol, if_pos (by omega)]
    exact h.first_byte
  · intro j hj
    rw [← hr]
    simp only [AssignUWord32ToBuffer, copyBytes]
    rw [if_pos (by omega), Nat.zero_add, Nat.add_sub_cancel_left]

/-- What is left is the packet that was sent. -/
theorem finishRecovery_spec {seq_num : UInt16} {p : Packet} {r : Recovery}
    (hp : S.packet seq_num = some p) (hsymbol : ∀ j, 0 < j → r.symbol j = symbol p j)
    (hfirst : r.symbol 0 &&& 0x3f = symbol p 0 &&& 0x3f)
    (hssrc : ∀ j < 4, r.data (8 + j) = bytes32 S.ssrc j) (hseq : r.seq_num = seq_num) :
    SameBytes (FinishRecovery r) p := by
  have hrtp := S.rtp _ _ hp
  have h12 : kRtpHeaderSize = 12 := rfl
  have hheader := hrtp.header
  have hlength : (FinishRecovery r).length = p.length := by
    have hword : BufferToUWord16 r.length_recovery 0 = p.length - UInt16.ofNat kRtpHeaderSize := by
      refine bufferToUWord16_eq _ fun j hj => ?_
      have h2 := hsymbol (2 + j) (by omega)
      simp only [Recovery.symbol, symbol] at h2
      rw [if_neg (by omega), if_pos (by omega), if_neg (by omega), if_pos (by omega),
        Nat.add_sub_cancel_left] at h2
      rw [Nat.zero_add, h2]
    rw [FinishRecovery, hword, UInt16.sub_add_cancel]
  refine ⟨hlength, fun j hj => ?_⟩
  rw [hlength] at hj
  have hversion : ∀ b : UInt8, (b ||| 0x80) &&& 0xbf = (b &&& 0x3f) ||| 0x80 :=
    forall_byte (by decide +kernel)
  have hrecover : ∀ b : UInt8, b &&& 0xc0 = 0x80 → (b &&& 0x3f) ||| 0x80 = b :=
    forall_byte (by decide +kernel)
  simp only [FinishRecovery, AssignUWord16ToBuffer, copyBytes, hseq]
  have hdata : 0 < j → (j < 2 ∨ 4 ≤ j ∧ j < 8 ∨ 12 ≤ j) → r.data j = p.data j := by
    intro hpos hregion
    have hj' := hsymbol j hpos
    simp only [Recovery.symbol, symbol] at hj'
    split_ifs at hj' <;> omega
  split_ifs with hseqnum hzero
  · have := hrtp.seq_num (j - 2) (by omega)
    rw [Nat.add_sub_cancel' (by omega)] at this
    rw [Nat.zero_add, this]
  · obtain rfl : j = 0 := by omega
    rw [hversion]
    have h0 : r.data 0 &&& 0x3f = p.data 0 &&& 0x3f := hfirst
    rw [h0, hrecover _ hrtp.version]
  · by_cases hmiddle : 8 ≤ j ∧ j < 12
    · have hthere := hrtp.ssrc (j - 8) (by omega)
      have hhere := hssrc (j - 8) (by omega)
      rw [Nat.add_sub_cancel' (by omega)] at hthere hhere
      rw [hhere, hthere]
    · exact hdata (by omega) (by omega)

/-! ## One packet is missing -/

theorem xor_and (a b c : UInt8) : (a ^^^ b) &&& c = (a &&& c) ^^^ (b &&& c) := by
  apply UInt8.toBitVec_inj.mp
  ext i hi
  simp [Bool.and_xor_distrib_right]

theorem combine_start (x : ℕ → UInt8) (seq_nums : List UInt16) (j : ℕ) :
    combine symbolXor S.symbolAt x seq_nums j =
      combine symbolXor S.symbolAt (fun _ => 0) seq_nums j ^^^ x j := by
  have hzero : symbolXor (fun _ => 0) x = x := funext fun _ => UInt8.zero_xor
  have hstart : combine symbolXor S.symbolAt (symbolXor (fun _ => 0) x) seq_nums =
      symbolXor (combine symbolXor S.symbolAt (fun _ => 0) seq_nums) x := combine_op _ _ _
  rw [hzero] at hstart
  rw [hstart]
  rfl

/-- The symbol of a packet is what the others leave of the parity. -/
theorem symbolAt_eq (seq_num : UInt16) (before after : List UInt16) (j : ℕ) :
    S.symbolAt seq_num j =
      combine symbolXor S.symbolAt (fun _ => 0) (before ++ after) j ^^^
        S.parity (before ++ seq_num :: after) j := by
  rw [← combine_start, MediaStream.parity, combine_others symbolXor_self]
  exact UInt8.zero_xor.symm

/-- An FEC packet that waits: it names what it protects, and is linked to packets as they were
sent. -/
structure FecPacket.Waits (S : MediaStream) (f : FecPacket) : Prop where
  encodes : S.Encodes f.pkt
  ssrc : f.ssrc = S.ssrc
  seq_nums : f.protected_pkt_list.map (·.seq_num) = protectedSeqNums f.pkt
  links : ∀ p ∈ f.protected_pkt_list, ∀ pkt, p.pkt = some pkt → S.Sends p.seq_num pkt

theorem numCoveredPacketsMissing_eq (links : List ProtectedPacket) {n : ℕ} (hn : n ≤ 1) :
    NumCoveredPacketsMissing links n = min 2 (n + links.countP fun p => p.pkt.isNone) := by
  induction links generalizing n with
  | nil =>
      simp [NumCoveredPacketsMissing]
      omega
  | cons p links ih =>
      rw [NumCoveredPacketsMissing, List.countP_cons]
      split
      · next hnone =>
          split
          · omega
          · rw [ih (by omega)]
            omega
      · rw [ih hn]
        rfl

/-- The list around the only packet that is missing. -/
theorem exists_missing {links : List ProtectedPacket}
    (h : (links.countP fun p => p.pkt.isNone) = 1) :
    ∃ before seq_num after, links = before ++ ⟨seq_num, none⟩ :: after ∧
      ∀ p ∈ before ++ after, p.pkt.isSome := by
  have hpos : 0 < links.countP fun p => p.pkt.isNone := by omega
  obtain ⟨p, hp, hnone⟩ := List.countP_pos_iff.mp hpos
  obtain ⟨before, after, rfl⟩ := List.append_of_mem hp
  obtain ⟨seq_num, pkt⟩ := p
  obtain rfl : pkt = none := by simpa using hnone
  refine ⟨before, seq_num, after, rfl, ?_⟩
  have hothers : ((before ++ after).countP fun p => p.pkt.isNone) = 0 := by
    simp only [List.countP_append, List.countP_cons, Option.isNone_none, if_true] at h ⊢
    omega
  intro p hp
  have := List.countP_eq_zero.mp hothers p hp
  simpa [Option.isSome_iff_ne_none] using this

/-- The missing packet is recovered as it was sent. -/
theorem recoverPacket_spec {f : FecPacket} (h : f.Waits S)
    (hmissing : NumCoveredPacketsMissing f.protected_pkt_list 0 = 1) :
    ∃ seq_num pkt, RecoverPacket f = some ⟨seq_num, true, false, pkt⟩ ∧ S.Sends seq_num pkt ∧
      ⟨seq_num, none⟩ ∈ f.protected_pkt_list ∧
        ∀ p ∈ f.protected_pkt_list, p.seq_num ≠ seq_num → p.pkt.isSome := by
  rw [numCoveredPacketsMissing_eq _ (Nat.zero_le 1), Nat.zero_add] at hmissing
  have hone : (f.protected_pkt_list.countP fun p => p.pkt.isNone) = 1 := by omega
  obtain ⟨before, seq_num, after, hlinks, hsome⟩ := exists_missing hone
  have hsent : ∀ p ∈ before ++ after, ∃ pkt, p.pkt = some pkt ∧ S.Sends p.seq_num pkt := by
    intro p hp
    obtain ⟨pkt, hpkt⟩ := Option.isSome_iff_exists.mp (hsome p hp)
    refine ⟨pkt, hpkt, h.links p ?_ pkt hpkt⟩
    rw [hlinks]
    rcases List.mem_append.mp hp with hp | hp
    · exact List.mem_append_left _ hp
    · exact List.mem_append_right _ (List.mem_cons_of_mem _ hp)
  have hseqs : protectedSeqNums f.pkt =
      before.map (·.seq_num) ++ seq_num :: after.map (·.seq_num) := by
    rw [← h.seq_nums, hlinks, List.map_append, List.map_cons]
  obtain ⟨r, hinit, hsymbol, hfirst, hssrc⟩ := initRecovery_spec h.encodes
  obtain ⟨r₁, hr₁, hsymbol₁, hssrc₁, -⟩ := xorProtected_links (⟨seq_num, none⟩ :: after)
    (fun p hp => hsent p (List.mem_append_left _ hp)) r
  obtain ⟨r₂, hr₂, hsymbol₂, hssrc₂, hseq₂⟩ := xorProtected_links []
    (fun p hp => hsent p (List.mem_append_right _ hp)) { r₁ with seq_num := seq_num }
  obtain ⟨p, hp, -⟩ := h.encodes.protects seq_num (by rw [hseqs]; simp)
  have hleft : ∀ j, r₂.symbol j = combine symbolXor S.symbolAt (fun _ => 0)
      (before.map (·.seq_num) ++ after.map (·.seq_num)) j ^^^ r.symbol j := by
    intro j
    have hkeep : Recovery.symbol { r₁ with seq_num := seq_num } = r₁.symbol := rfl
    rw [hsymbol₂, hkeep, hsymbol₁, ← combine_append, combine_start]
  have hpacket : ∀ j, symbol p j = combine symbolXor S.symbolAt (fun _ => 0)
      (before.map (·.seq_num) ++ after.map (·.seq_num)) j ^^^
        S.parity (protectedSeqNums f.pkt) j := by
    intro j
    rw [hseqs, ← symbolAt_eq, MediaStream.symbolAt, hp]
    rfl
  have hsame : SameBytes (FinishRecovery r₂) p := by
    refine finishRecovery_spec hp ?_ ?_ ?_ hseq₂
    · intro j hj
      rw [hleft, hpacket, hsymbol j hj]
    · rw [hleft, hpacket, xor_and, xor_and, hfirst]
    · intro j hj
      rw [hssrc₂ j hj]
      exact (hssrc₁ j hj).trans ((hssrc j hj).trans (by rw [h.ssrc]))
  refine ⟨seq_num, FinishRecovery r₂, ?_, ⟨p, hp, hsame⟩, ?_, ?_⟩
  · rw [List.append_nil] at hr₂
    rw [RecoverPacket, hinit, hlinks]
    simp only [Option.bind_eq_bind, Option.bind_some]
    rw [hr₁, xorProtected, hr₂]
    simp [xorProtected, hseq₂]
  · rw [hlinks]
    exact List.mem_append_right _ List.mem_cons_self
  · intro q hq hne
    rw [hlinks] at hq
    rcases List.mem_append.mp hq with hq | hq
    · exact hsome q (List.mem_append_left _ hq)
    · rcases List.mem_cons.mp hq with rfl | hq
      · exact absurd rfl hne
      · exact hsome q (List.mem_append_right _ hq)

end ForwardErrorCorrection

end Collaboration
