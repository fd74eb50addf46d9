import Collaboration.Media.FecCompleteness
import Collaboration.Media.FecReceiver

/-! # What can be recovered is handed over

Of a block of packets, the callback gets all that the packets which arrive determine one by one. -/

namespace Collaboration

open Peeling Transition ForwardErrorCorrection

namespace FecReceiverImpl

variable {S : MediaStream} {p : IncomingPacket} {red_pl_type ulpfec_payload_type : UInt8}

theorem complete_relabel {B : Block S} {known : Set UInt16}
    {checks : Set (List UInt16)} {s : ForwardErrorCorrection} (h : Complete B known checks s)
    {list : List RecoveredPacket} (hsame : list.map content = s.recovered_packet_list.map content) :
    Complete B known checks { s with recovered_packet_list := list } := by
  have hsparing := h.sparing
  have hhas : ∀ seq_num, s.Has seq_num → Has { s with recovered_packet_list := list } seq_num := by
    rintro seq_num ⟨r, hr, rfl⟩
    obtain ⟨r', hr', hseq, -⟩ := exists_of_content hsame.symm hr
    exact ⟨r', hr', hseq⟩
  refine ⟨⟨sound_relabel hsparing.sound hsame, fun r hr => ?_, hsparing.waiting,
    fun f hf p hp hsome => hhas _ (hsparing.there f hf p hp hsome), hsparing.sent,
    hsparing.distinct⟩, fun seq_num hseq => hhas _ (h.known seq_num hseq), fun seq_nums hseq => ?_⟩
  · obtain ⟨r', hr', hseq, -⟩ := exists_of_content hsame hr
    rw [← hseq]
    exact hsparing.solved r' hr'
  · rcases h.checked seq_nums hseq with hwaits | hall
    · exact .inl hwaits
    · exact .inr fun seq_num hmem => hhas _ (hall seq_num hmem)

/-- The callback that takes every packet gets all that it did not get before. -/
theorem returnRecovered_all (calls : ℕ) (l : List RecoveredPacket) :
    (∀ r ∈ (returnRecovered (fun _ => true) calls l).1, r.returned = true) ∧
      ∀ r ∈ l, r.returned = false → r.pkt ∈ (returnRecovered (fun _ => true) calls l).2.1 := by
  induction l generalizing calls with
  | nil => simp [returnRecovered]
  | cons packet rest ih =>
      rw [returnRecovered]
      split
      · next hreturned =>
          obtain ⟨hmarks, hout⟩ := ih calls
          refine ⟨List.forall_mem_cons.mpr ⟨hreturned, hmarks⟩, List.forall_mem_cons.mpr ⟨?_, hout⟩⟩
          simp [hreturned]
      · obtain ⟨hmarks, hout⟩ := ih (calls + 1)
        refine ⟨List.forall_mem_cons.mpr ⟨rfl, hmarks⟩, List.forall_mem_cons.mpr ⟨?_, ?_⟩⟩
        · exact fun _ => List.mem_cons_self
        · exact fun r hr hmark => List.mem_cons_of_mem _ (hout r hr hmark)

/-- Packets that are marked as returned are of one kind. -/
def Marked (P : UInt16 → Prop) (l : List RecoveredPacket) : Prop :=
  ∀ r ∈ l, r.returned = true → P r.seq_num

variable {P : UInt16 → Prop}

theorem Marked.discardOld {l : List RecoveredPacket} (h : Marked P l) :
    Marked P (DiscardOldPackets l) :=
  fun r hr => h r (List.mem_of_mem_drop hr)

theorem Marked.addRecovered {s : ForwardErrorCorrection} (h : Marked P s.recovered_packet_list)
    {r : RecoveredPacket} (hr : r.returned = true → P r.seq_num) :
    Marked P (s.addRecovered r).recovered_packet_list := by
  intro r' hr'
  rcases addRecovered_mem.mp hr' with hr' | rfl
  · exact h r' hr'
  · exact hr

theorem recoverPacket_returned {f : FecPacket} {r : RecoveredPacket}
    (h : RecoverPacket f = some r) :
    r.returned = false := by
  simp only [RecoverPacket, Option.bind_eq_bind, Option.bind_eq_some_iff] at h
  obtain ⟨_, -, _, -, h⟩ := h
  rw [← Option.some.inj h]

theorem Marked.attemptRecover {seen fecs : List FecPacket} {recovered : List RecoveredPacket}
    (h : Marked P recovered) {t : ForwardErrorCorrection}
    (ht : ForwardErrorCorrection.attemptRecover seen fecs recovered = some t) :
    Marked P t.recovered_packet_list := by
  induction seen, fecs, recovered using attemptRecover.induct with
  | case1 seen recovered =>
      rw [ForwardErrorCorrection.attemptRecover] at ht
      rw [← Option.some.inj ht]
      exact h
  | case2 seen recovered f rest missing hone hnone =>
      rw [ForwardErrorCorrection.attemptRecover, if_pos hone, hnone] at ht
      simp at ht
  | case3 seen recovered f rest missing hone r hr s ih =>
      rw [ForwardErrorCorrection.attemptRecover, if_pos hone, hr] at ht
      refine ih (Marked.discardOld ?_) ht
      refine Marked.addRecovered h fun hreturned => ?_
      rw [recoverPacket_returned hr] at hreturned
      simp at hreturned
  | case4 seen recovered f rest missing hone hzero ih =>
      rw [ForwardErrorCorrection.attemptRecover, if_neg hone, if_pos hzero] at ht
      exact ih h ht
  | case5 seen recovered f rest missing hone hzero ih =>
      rw [ForwardErrorCorrection.attemptRecover, if_neg hone, if_neg hzero] at ht
      exact ih h ht

theorem Marked.insertPacket {s t : ForwardErrorCorrection} {rx : ReceivedPacket}
    (h : Marked P s.recovered_packet_list) (hrx : rx.is_fec = false → P rx.seq_num)
    (ht : s.insertPacket rx = some t) : Marked P t.recovered_packet_list := by
  have hkeep : (s.discardOldest rx).recovered_packet_list = s.recovered_packet_list :=
    (discardOldest_fecs rx s).2
  simp only [ForwardErrorCorrection.insertPacket] at ht
  split at ht
  · -- An FEC packet leaves the recovered packets alone.
    have hsame : t.recovered_packet_list = s.recovered_packet_list := by
      rw [← hkeep]
      simp only [InsertFECPacket] at ht
      split at ht
      · rw [← Option.some.inj ht]
      · split at ht
        · rw [← Option.some.inj ht]
        · obtain ⟨_, -, ht⟩ := Option.bind_eq_some_iff.mp ht
          rw [← Option.some.inj ht]
    rwa [hsame]
  · next hmedia =>
    rw [← Option.some.inj ht, InsertMediaPacket]
    split
    · rwa [hkeep]
    · exact Marked.addRecovered (by rwa [hkeep]) fun _ => hrx (by simpa using hmedia)

theorem Marked.decodeFEC {s t : ForwardErrorCorrection} {rx : ReceivedPacket}
    (h : Marked P s.recovered_packet_list) (hrx : rx.is_fec = false → P rx.seq_num)
    (ht : s.DecodeFEC [rx] = some t) : Marked P t.recovered_packet_list := by
  simp only [ForwardErrorCorrection.DecodeFEC, Option.bind_eq_bind] at ht
  -- After the reset, if any.
  have hstart : ∃ u : ForwardErrorCorrection, Marked P u.recovered_packet_list ∧
      (u.InsertPackets [rx]).bind AttemptRecover = some t := by
    split at ht
    · split at ht
      · split at ht
        · exact ⟨_, by simp [Marked, ResetState], ht⟩
        · exact ⟨_, h, ht⟩
      · simp at ht
    · exact ⟨_, h, ht⟩
  obtain ⟨u, hmarked, ht⟩ := hstart
  obtain ⟨v, hv, ht⟩ := Option.bind_eq_some_iff.mp ht
  obtain ⟨w, hw, hv⟩ := Option.bind_eq_some_iff.mp hv
  rw [← Option.some.inj hv] at ht
  exact (hmarked.insertPacket hrx hw).discardOld.attemptRecover ht

theorem sends_inj {a b : UInt16} {pkt : Packet} (ha : S.Sends a pkt) (hb : S.Sends b pkt) :
    a = b := by
  have hparse : ∀ seq_num, S.Sends seq_num pkt → ParseSequenceNumber pkt = seq_num := by
    rintro seq_num ⟨q, hq, hlength, hdata⟩
    have hrtp := S.rtp _ _ hq
    have h12 : kRtpHeaderSize = 12 := rfl
    have hheader := hrtp.header
    rw [← hlength] at hheader
    refine bufferToUWord16_eq seq_num fun j hj => ?_
    rw [hdata _ (by omega)]
    exact hrtp.seq_num j hj
  rw [← hparse a ha, hparse b hb]

/-- What holds of a receiver of a block between the packets, when the callback takes them all. -/
structure HandsOverAll (B : Block S) (past : List ReceivedPacket)
    (s : FecReceiverImpl × List Packet) : Prop where
  empty : s.1.received_packet_list_ = []
  after : After B past s.1.fec_
  stuck : ∀ f ∈ s.1.fec_.fec_packet_list_, f.Stuck
  handed : ∀ seq_num, (∃ pkt ∈ s.2, S.Sends seq_num pkt) ↔ s.1.fec_.Has seq_num

theorem HandsOverAll.process {B : Block S} {past : List ReceivedPacket}
    {s : FecReceiverImpl × List Packet} (h : HandsOverAll B past s) {rx : ReceivedPacket}
    (hrx : B.Delivers rx) :
    ∃ t out ret, ProcessReceivedFec (fun _ => true) { s.1 with received_packet_list_ := [rx] } =
        some (t, out, ret) ∧ HandsOverAll B (past ++ [rx]) (t, s.2 ++ out) := by
  obtain ⟨fec, hdecode, hafter, hstuck⟩ := h.after.decodeFEC (List.cons_ne_nil rx [])
    (fun rx' hrx' => List.mem_singleton.mp hrx' ▸ hrx)
  obtain ⟨calls, hcalls⟩ : ∃ calls, calls = if rx.is_fec then 0 else 1 := ⟨_, rfl⟩
  obtain ⟨hsame, hout⟩ := returnRecovered_spec (fun _ => true) calls fec.recovered_packet_list
  obtain ⟨-, hall⟩ := returnRecovered_all calls fec.recovered_packet_list
  have hsound := hafter.sparing.sound
  have hmono : ∀ seq_num, s.1.fec_.Has seq_num → fec.Has seq_num := by
    intro seq_num hhas
    have hsolved := (h.after.has_iff h.stuck seq_num).mp hhas
    exact (hafter.has_iff hstuck seq_num).mpr
      (hsolved.mono (mediaIn_subset past [rx]) (checksIn_subset past [rx]))
  -- What is marked was there before, or is the packet itself.
  have hmarked : Marked (fun seq_num => s.1.fec_.Has seq_num ∨
      rx.is_fec = false ∧ rx.seq_num = seq_num) fec.recovered_packet_list :=
    Marked.decodeFEC (fun r hr _ => .inl ⟨r, hr, rfl⟩) (fun hmedia => .inr ⟨hmedia, rfl⟩) hdecode
  have hmedia : rx.is_fec = false → S.Sends rx.seq_num rx.pkt := gets_sends hrx.gets
  unfold ProcessReceivedFec
  simp only [Bool.not_true, Bool.and_false, Bool.false_eq_true, if_false, hdecode, Option.map_some,
    ← hcalls]
  refine ⟨_, _, _, rfl, rfl, complete_relabel hafter hsame, hstuck, fun seq_num => ?_⟩
  have hhas : Has (returnAll (fun _ => true) calls [] fec).1.fec_ seq_num ↔ fec.Has seq_num := by
    constructor
    · rintro ⟨r, hr, rfl⟩
      obtain ⟨r', hr', hseq, -⟩ := exists_of_content hsame hr
      exact ⟨r', hr', hseq⟩
    · rintro ⟨r, hr, rfl⟩
      obtain ⟨r', hr', hseq, -⟩ := exists_of_content hsame.symm hr
      exact ⟨r', hr', hseq⟩
  rw [hhas]
  constructor
  · rintro ⟨pkt, hpkt, hsends⟩
    rcases List.mem_append.mp hpkt with hpkt | hpkt
    · exact hmono _ ((h.handed seq_num).mp ⟨pkt, hpkt, hsends⟩)
    · rcases List.mem_append.mp hpkt with hpkt | hpkt
      · split at hpkt
        · simp at hpkt
        · next hnotfec =>
            have hnotfec : rx.is_fec = false := by simpa using hnotfec
            rw [List.mem_singleton.mp hpkt] at hsends
            rw [← sends_inj (hmedia hnotfec) hsends]
            exact hafter.known _ ⟨rx, List.mem_append_right _ List.mem_cons_self, hnotfec, rfl⟩
      · obtain ⟨r, hr, rfl⟩ := hout pkt hpkt
        exact ⟨r, hr, sends_inj (hsound.recovered r hr) hsends⟩
  · rintro ⟨r, hr, rfl⟩
    cases hreturned : r.returned with
    | false =>
        refine ⟨r.pkt, ?_, hsound.recovered r hr⟩
        exact List.mem_append_right _ (List.mem_append_right _ (hall r hr hreturned))
    | true =>
        rcases hmarked r hr hreturned with hbefore | ⟨hnotfec, hseq⟩
        · obtain ⟨pkt, hpkt, hsends⟩ := (h.handed r.seq_num).mpr hbefore
          exact ⟨pkt, List.mem_append_left _ hpkt, hsends⟩
        · refine ⟨rx.pkt, ?_, hseq ▸ hmedia hnotfec⟩
          refine List.mem_append_right _ (List.mem_append_left _ ?_)
          simp [hnotfec]

/-- A packet of a block on its way. The memory behind an FEC packet holds zeros. -/
inductive BlockOnWire (B : Block S) (red_pl_type ulpfec_payload_type : UInt8)
    (p : IncomingPacket) : Prop
  | media {pkt : Packet} (hpkt : S.packet p.header.sequenceNumber = some pkt)
      (hheader : kRtpHeaderSize ≤ p.header.headerLength)
      (hle : p.header.headerLength ≤ pkt.length.toNat)
      (htype : pkt.data 1 &&& 0x7f ≠ ulpfec_payload_type)
      (hcarries : p.Carries (ProducerFec.BuildRedPacket pkt.data
        (pkt.length.toNat - p.header.headerLength) p.header.headerLength red_pl_type))
  | fec {rx : ReceivedPacket} {last : Packet} {seq_num : UInt16}
      (hsent : B.fec rx.seq_num = some rx) (hseq : rx.seq_num = p.header.sequenceNumber)
      (hzeros : ∀ j, rx.pkt.length.toNat ≤ j → rx.pkt.data j = 0)
      (hlast : S.packet seq_num = some last)
      (hheader : kRtpHeaderSize ≤ p.header.headerLength)
      (hle : p.header.headerLength ≤ last.length.toNat)
      (hcarries : p.Carries (ProducerFec.GetFecPacket rx.pkt last red_pl_type ulpfec_payload_type
        p.header.sequenceNumber p.header.headerLength))

/-- The packet is taken in as this one. -/
structure TakenAs (B : Block S) (ulpfec_payload_type : UInt8) (p : IncomingPacket)
    (rx : ReceivedPacket) : Prop where
  delivers : B.Delivers rx
  seq_num : rx.seq_num = p.header.sequenceNumber
  is_fec : rx.is_fec = true ↔ redHeader p 0 = ulpfec_payload_type
  sent : rx.is_fec = true → B.fec rx.seq_num = some rx

theorem BlockOnWire.add {B : Block S}
    (h : BlockOnWire B red_pl_type ulpfec_payload_type p) (hred : red_pl_type < 0x80)
    (hfec : ulpfec_payload_type < 0x80) (memory : UInt32) (r : FecReceiverImpl) :
    ∃ rx, r.AddReceivedRedPacket p ulpfec_payload_type memory =
        some ({ r with received_packet_list_ := r.received_packet_list_ ++ [rx] }, 0) ∧
      TakenAs B ulpfec_payload_type p rx := by
  have h12 : kRtpHeaderSize = 12 := rfl
  cases h with
  | media hpkt hheader hle htype hcarries =>
      have hfits := (S.rtp _ _ hpkt).fits
      obtain ⟨hbehind, -⟩ := media_behind (by omega) rfl hcarries
      obtain ⟨rx, hadd, hmedia, hseq, hsame⟩ :=
        add_media hred hheader hle (by omega) htype rfl hcarries memory r
      refine ⟨rx, hadd, .media hmedia ⟨_, hseq ▸ hpkt, hsame⟩, hseq, ?_, ?_⟩
      · rw [hbehind.pl_type]
        simp [hmedia, htype]
      · simp [hmedia]
  | @fec rx last seq_num hsent hseq hzeros hlast hheader hle hcarries =>
      obtain ⟨hbehind, -⟩ := fec_behind hheader rfl hcarries
      obtain ⟨hisfec, hssrc, hencodes⟩ := Block.encodes hsent
      have hlength := hencodes.length
      have hoffset := le_payloadOffset (lBit rx.pkt)
      have hrtp := S.rtp _ _ hlast
      have hfits := hrtp.fits
      have hpos : rx.pkt.length ≠ 0 := by
        intro hzero
        simp only [hzero, UInt16.toNat_zero] at hlength
        omega
      refine ⟨rx, ?_, .fec hsent, hseq, ?_, fun _ => hsent⟩
      · have hpkt : (⟨rx.pkt.length,
            fun j => if j < rx.pkt.length.toNat then rx.pkt.data j else 0⟩ : Packet) = rx.pkt := by
          obtain ⟨seq, ssrc, isfec, length, data⟩ := rx
          congr 1
          funext j
          split
          · rfl
          · next hj => exact (hzeros j (Nat.le_of_not_lt hj)).symm
        rw [add_fec hfec hheader (by omega) hpos hencodes.room hrtp.ssrc rfl hcarries memory r,
          hpkt, ← hseq, ← hssrc, ← hisfec]
      · rw [hbehind.pl_type]
        simp [hisfec]

/-- The sequence numbers of the media packets that arrive. -/
def mediaOnWire (ulpfec_payload_type : UInt8) (arrivals : List Arrival) :
    Set UInt16 :=
  fun seq_num => ∃ a ∈ arrivals, redHeader a.packet 0 ≠ ulpfec_payload_type ∧
    a.packet.header.sequenceNumber = seq_num

/-- What the FEC packets that arrive protect. -/
def checksOnWire (B : Block S) (ulpfec_payload_type : UInt8)
    (arrivals : List Arrival) : Set (List UInt16) :=
  fun seq_nums => ∃ a ∈ arrivals, redHeader a.packet 0 = ulpfec_payload_type ∧
    ∃ rx, B.fec a.packet.header.sequenceNumber = some rx ∧ protectedSeqNums rx.pkt = seq_nums

theorem mediaIn_of_taken {B : Block S} {arrivals : List Arrival}
    {past : List ReceivedPacket}
    (h : List.Forall₂ (fun a rx => TakenAs B ulpfec_payload_type a.packet rx) arrivals past) :
    mediaIn past = mediaOnWire ulpfec_payload_type arrivals := by
  ext seq_num
  constructor
  · rintro ⟨rx, hrx, hmedia, rfl⟩
    obtain ⟨a, ha, htaken⟩ := exists_of_forall₂ h.flip hrx
    refine ⟨a, ha, fun htype => ?_, htaken.seq_num.symm⟩
    simp [htaken.is_fec.mpr htype] at hmedia
  · rintro ⟨a, ha, htype, rfl⟩
    obtain ⟨rx, hrx, htaken⟩ := exists_of_forall₂ h ha
    refine ⟨rx, hrx, ?_, htaken.seq_num⟩
    simpa using mt htaken.is_fec.mp htype

theorem checksIn_of_taken {B : Block S} {arrivals : List Arrival}
    {past : List ReceivedPacket}
    (h : List.Forall₂ (fun a rx => TakenAs B ulpfec_payload_type a.packet rx) arrivals past) :
    checksIn past = checksOnWire B ulpfec_payload_type arrivals := by
  ext seq_nums
  constructor
  · rintro ⟨rx, hrx, hfec, rfl⟩
    obtain ⟨a, ha, htaken⟩ := exists_of_forall₂ h.flip hrx
    exact ⟨a, ha, htaken.is_fec.mp hfec, rx, htaken.seq_num ▸ htaken.sent hfec, rfl⟩
  · rintro ⟨a, ha, htype, rx', hsent, rfl⟩
    obtain ⟨rx, hrx, htaken⟩ := exists_of_forall₂ h ha
    have hfec := htaken.is_fec.mpr htype
    have hsent' := htaken.sent hfec
    rw [htaken.seq_num, hsent] at hsent'
    exact ⟨rx, hrx, hfec, by rw [Option.some.inj hsent']⟩

theorem sampleFec_zeros {j : ℕ} (hj : sampleFec.length.toNat ≤ j) : sampleFec.data j = 0 := by
  have h15 : 15 ≤ j := hj
  have hfec : sampleFec = GenerateFecUlpHeader (samplePacket 7 42) (maskRow [0xc0, 0]) false
      ⟨15, putMedia xorBytes false (putMedia copyBytes false (fun _ => 0) (samplePacket 7 42))
        (samplePacket 8 43)⟩ := rfl
  have h14 : payloadOffset false = 14 := rfl
  have hlength : ∀ n c, (samplePacket n c).length = 13 := fun _ _ => rfl
  have hone : ((13 : UInt16) - UInt16.ofNat kRtpHeaderSize).toNat = 1 := by decide
  rw [hfec, ulpHeader_data]
  simp (disch := omega) only [if_neg, putMedia, hlength, hone, xorBytes_outside, copyBytes_outside]

end FecReceiverImpl

end Collaboration
