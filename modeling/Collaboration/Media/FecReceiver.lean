import Collaboration.Media.FecSoundness
import Collaboration.Media.RedHeader

/-! # What is handed over was sent

Whatever arrives at `FecReceiverImpl` of a stream, the callback gets packets of the stream. -/

namespace Collaboration

open Transition ForwardErrorCorrection

namespace FecReceiverImpl

variable {S : MediaStream} {p : IncomingPacket} {red_pl_type ulpfec_payload_type : UInt8}

/-- What of a recovered packet is more than a mark. -/
def content (r : RecoveredPacket) : UInt16 × Packet := (r.seq_num, r.pkt)

theorem exists_of_content {l l' : List RecoveredPacket} (h : l.map content = l'.map content)
    {r : RecoveredPacket} (hr : r ∈ l) : ∃ r' ∈ l', r'.seq_num = r.seq_num ∧ r'.pkt = r.pkt := by
  have hmem : content r ∈ l'.map content := h ▸ List.mem_map_of_mem hr
  obtain ⟨r', hr', heq⟩ := List.mem_map.mp hmem
  exact ⟨r', hr', congrArg Prod.fst heq, congrArg Prod.snd heq⟩

theorem seq_nums_of_content {l l' : List RecoveredPacket} (h : l.map content = l'.map content) :
    l.map (·.seq_num) = l'.map (·.seq_num) := by
  have hfst := congrArg (List.map Prod.fst) h
  rw [List.map_map, List.map_map] at hfst
  exact hfst

/-- The decoder does not look at the marks of the recovered packets. -/
theorem sound_relabel {s : ForwardErrorCorrection} (h : Sound S s) {list : List RecoveredPacket}
    (hsame : list.map content = s.recovered_packet_list.map content) :
    Sound S { s with recovered_packet_list := list } := by
  refine ⟨fun r hr => ?_, ⟨fun r hr => ?_, ?_⟩, h.waits, fun f hf p hp r hr heq => ?_⟩
  · obtain ⟨r', hr', hseq, hpkt⟩ := exists_of_content hsame hr
    rw [← hseq, ← hpkt]
    exact h.recovered r' hr'
  · obtain ⟨r', hr', hseq, -⟩ := exists_of_content hsame hr
    rw [← hseq]
    exact h.in_order.window r' hr'
  · rw [seq_nums_of_content hsame]
    exact h.in_order.ordered
  · obtain ⟨r', hr', hseq, -⟩ := exists_of_content hsame hr
    exact h.linked f hf p hp r' hr' (heq.trans hseq.symm)

theorem returnRecovered_spec (OnRecoveredPacket : ℕ → Bool) (calls : ℕ)
    (l : List RecoveredPacket) :
    (returnRecovered OnRecoveredPacket calls l).1.map content = l.map content ∧
      ∀ pkt ∈ (returnRecovered OnRecoveredPacket calls l).2.1, ∃ r ∈ l, r.pkt = pkt := by
  induction l generalizing calls with
  | nil => exact ⟨rfl, by simp [returnRecovered]⟩
  | cons packet rest ih =>
      have hrest : ∀ calls, ∀ pkt ∈ (returnRecovered OnRecoveredPacket calls rest).2.1,
          ∃ r ∈ packet :: rest, r.pkt = pkt := by
        intro calls pkt hpkt
        obtain ⟨r, hr, heq⟩ := (ih calls).2 pkt hpkt
        exact ⟨r, List.mem_cons_of_mem _ hr, heq⟩
      rw [returnRecovered]
      split
      · refine ⟨?_, hrest calls⟩
        rw [List.map_cons, List.map_cons, (ih calls).1]
      · split
        · refine ⟨?_, List.forall_mem_cons.mpr
            ⟨⟨packet, List.mem_cons_self, rfl⟩, hrest (calls + 1)⟩⟩
          rw [List.map_cons, List.map_cons, (ih (calls + 1)).1]
          rfl
        · refine ⟨rfl, fun pkt hpkt => ⟨packet, List.mem_cons_self, ?_⟩⟩
          exact (List.mem_singleton.mp hpkt).symm

theorem gets_sends {rx : ReceivedPacket} (h : S.Gets rx) (hfec : rx.is_fec = false) :
    S.Sends rx.seq_num rx.pkt := by
  cases h with
  | media _ hsends => exact hsends
  | fec hfec' _ _ => simp [hfec] at hfec'

/-- What holds of the receiver and of what it has handed over. -/
structure HandsOver (S : MediaStream) (s : FecReceiverImpl × List Packet) : Prop where
  sound : Sound S s.1.fec_
  received : ∀ rx ∈ s.1.received_packet_list_, S.Gets rx
  handed : ∀ pkt ∈ s.2, ∃ seq_num, S.Sends seq_num pkt

theorem handsOver_returnAll {fec : ForwardErrorCorrection} (h : Sound S fec)
    (OnRecoveredPacket : ℕ → Bool) (calls : ℕ) :
    HandsOver S ((returnAll OnRecoveredPacket calls [] fec).1,
      (returnAll OnRecoveredPacket calls [] fec).2.1) := by
  obtain ⟨hsame, hout⟩ := returnRecovered_spec OnRecoveredPacket calls fec.recovered_packet_list
  refine ⟨sound_relabel h hsame, by simp [returnAll], fun pkt hpkt => ?_⟩
  obtain ⟨r, hr, rfl⟩ := hout pkt hpkt
  exact ⟨_, h.recovered r hr⟩

theorem processReceivedFec_spec {r : FecReceiverImpl} (h : HandsOver S (r, []))
    (OnRecoveredPacket : ℕ → Bool) :
    ∃ t out ret, r.ProcessReceivedFec OnRecoveredPacket = some (t, out, ret) ∧
      HandsOver S (t, out) := by
  unfold ProcessReceivedFec
  split
  · exact ⟨_, _, _, rfl, handsOver_returnAll h.sound OnRecoveredPacket 0⟩
  · next front rest hlist =>
      have hfront : front.is_fec = false → S.Sends front.seq_num front.pkt :=
        gets_sends (h.received front (hlist ▸ List.mem_cons_self))
      split
      · next hfail =>
          obtain ⟨hmedia, -⟩ := Bool.and_eq_true_iff.mp hfail
          refine ⟨_, _, _, rfl, h.sound, h.received, fun pkt hpkt => ?_⟩
          rw [List.mem_singleton.mp hpkt]
          exact ⟨_, hfront (by simpa using hmedia)⟩
      · obtain ⟨fec, hdecode, hsettled⟩ := h.sound.decodeFEC (by simp [hlist]) h.received
        obtain ⟨hsound, hreceived, hhanded⟩ :=
          handsOver_returnAll hsettled.sound OnRecoveredPacket (if front.is_fec then 0 else 1)
        rw [hdecode]
        refine ⟨_, _, _, rfl, hsound, hreceived, fun pkt hpkt => ?_⟩
        rcases List.mem_append.mp hpkt with hpkt | hpkt
        · split at hpkt
          · simp at hpkt
          · next hmedia =>
              rw [List.mem_singleton.mp hpkt]
              exact ⟨_, hfront (by simpa using hmedia)⟩
        · exact hhanded pkt hpkt

/-- A packet of the sender on its way: a media packet or an FEC packet behind a RED header, which
arrives with the header length and the sequence number that it has. -/
inductive OnWire (S : MediaStream) (mask_table : MaskTable)
    (red_pl_type ulpfec_payload_type : UInt8) (p : IncomingPacket) : Prop
  | media {pkt : Packet} (hpkt : S.packet p.header.sequenceNumber = some pkt)
      (hheader : kRtpHeaderSize ≤ p.header.headerLength)
      (hle : p.header.headerLength ≤ pkt.length.toNat)
      (htype : pkt.data 1 &&& 0x7f ≠ ulpfec_payload_type)
      (hcarries : p.Carries (ProducerFec.BuildRedPacket pkt.data
        (pkt.length.toNat - p.header.headerLength) p.header.headerLength red_pl_type))
  | fec {seq_num : UInt16} {media : List Packet} {protection_factor : UInt8}
      {num_important_packets : ℕ} {use_unequal_protection : Bool} {ret : ℤ}
      {fec_packet_list : List Packet} {pkt last : Packet}
      (hmedia : S.Contiguous seq_num media) (himp : num_important_packets ≤ media.length)
      (hgenerate : GenerateFEC mask_table media protection_factor num_important_packets
        use_unequal_protection = some (ret, fec_packet_list))
      (hpkt : pkt ∈ fec_packet_list) (hlast : last ∈ media.getLast?)
      (hheader : kRtpHeaderSize ≤ p.header.headerLength)
      (hle : p.header.headerLength ≤ last.length.toNat)
      (hcarries : p.Carries (ProducerFec.GetFecPacket pkt last red_pl_type ulpfec_payload_type
        p.header.sequenceNumber p.header.headerLength))

theorem contiguous_mem {seq_num : UInt16} {media : List Packet} (h : S.Contiguous seq_num media)
    {pkt : Packet} (hpkt : pkt ∈ media) : ∃ seq_num, S.packet seq_num = some pkt := by
  induction media generalizing seq_num with
  | nil => simp at hpkt
  | cons first rest ih =>
      rcases List.mem_cons.mp hpkt with rfl | hpkt
      · exact ⟨seq_num, h.1⟩
      · exact ih h.2 hpkt

variable {mask_table : MaskTable}

/-- What is on its way is taken in as the sender made it. -/
theorem OnWire.add (h : OnWire S mask_table red_pl_type ulpfec_payload_type p)
    (hred : red_pl_type < 0x80) (hfec : ulpfec_payload_type < 0x80) (memory : UInt32)
    (r : FecReceiverImpl) :
    ∃ rx, r.AddReceivedRedPacket p ulpfec_payload_type memory =
        some ({ r with received_packet_list_ := r.received_packet_list_ ++ [rx] }, 0) ∧
      S.FromSender mask_table rx := by
  cases h with
  | media hpkt hheader hle htype hcarries =>
      have hfits := (S.rtp _ _ hpkt).fits
      obtain ⟨rx, hadd, hmedia, hseq, hsame⟩ :=
        add_media hred hheader hle (by omega) htype rfl hcarries memory r
      exact ⟨rx, hadd, .media hmedia ⟨_, hseq ▸ hpkt, hsame⟩⟩
  | @fec seq_num media factor imp uep ret fecs pkt last hmedia himp hgenerate hpkt hlast hheader hle
      hcarries =>
      have hgets : S.Gets ⟨p.header.sequenceNumber, S.ssrc, true, pkt⟩ :=
        (MediaStream.FromSender.fec rfl rfl hmedia himp hgenerate hpkt
          ⟨rfl, fun _ _ => rfl⟩ : S.FromSender mask_table _).gets
      have hencodes : S.Encodes pkt := by
        cases hgets with
        | media hfec' _ => simp at hfec'
        | fec _ _ hencodes => exact hencodes
      have hlength := hencodes.length
      have hoffset := le_payloadOffset (lBit pkt)
      obtain ⟨_, hlast'⟩ := contiguous_mem hmedia (List.mem_of_mem_getLast? hlast)
      have hrtp := S.rtp _ _ hlast'
      have hfits := hrtp.fits
      have hpos : pkt.length ≠ 0 := by
        intro hzero
        simp only [hzero, UInt16.toNat_zero] at hlength
        omega
      refine ⟨_, add_fec hfec hheader (by omega) hpos hencodes.room hrtp.ssrc rfl hcarries memory r,
        .fec rfl rfl hmedia himp hgenerate hpkt ⟨rfl, fun j hj => ?_⟩⟩
      exact (if_pos hj).symm

/-- A packet that comes in, what is in the memory for it, and what the callback answers to the
calls that follow. -/
structure Arrival where
  packet : IncomingPacket
  memory : UInt32
  OnRecoveredPacket : ℕ → Bool

/-- One packet comes in; what is handed over is kept beside the receiver. -/
def step (ulpfec_payload_type : UInt8) (s : FecReceiverImpl × List Packet) (a : Arrival) :
    Option (FecReceiverImpl × List Packet) :=
  (s.1.receiveRed a.OnRecoveredPacket ulpfec_payload_type a.memory a.packet).map
    fun t => (t.1, s.2 ++ t.2)

theorem handsOver_step {s : FecReceiverImpl × List Packet} {a : Arrival} (h : HandsOver S s)
    (hred : red_pl_type < 0x80) (hfec : ulpfec_payload_type < 0x80)
    (ha : OnWire S mask_table red_pl_type ulpfec_payload_type a.packet) :
    ∃ t, step ulpfec_payload_type s a = some t ∧ HandsOver S t := by
  obtain ⟨rx, hadd, hrx⟩ := ha.add hred hfec a.memory s.1
  have hadded : HandsOver S ({ s.1 with
      received_packet_list_ := s.1.received_packet_list_ ++ [rx] }, []) := by
    refine ⟨h.sound, fun rx' hrx' => ?_, by simp⟩
    rcases List.mem_append.mp hrx' with hrx' | hrx'
    · exact h.received rx' hrx'
    · exact List.mem_singleton.mp hrx' ▸ hrx.gets
  obtain ⟨t, out, ret, hprocess, hend⟩ := processReceivedFec_spec hadded a.OnRecoveredPacket
  refine ⟨(t, s.2 ++ out), ?_, hend.sound, hend.received, fun pkt hpkt => ?_⟩
  · simp [step, receiveRed, hadd, hprocess]
  · rcases List.mem_append.mp hpkt with hpkt | hpkt
    · exact h.handed pkt hpkt
    · exact hend.handed pkt hpkt

/-- Whatever of the media and FEC packets of a sender arrives behind RED headers, in whatever order
and however often, and whatever the callback answers to each call: nothing is accessed out of its
bounds, and every packet that the callback gets is a media packet as it was sent. -/
theorem hands_over_what_was_sent (S : MediaStream) (red_pl_type ulpfec_payload_type : UInt8)
    (arrivals : List Arrival) (hred : red_pl_type < 0x80) (hfec : ulpfec_payload_type < 0x80)
    (h : ∀ a ∈ arrivals, ∃ mask_table,
      OnWire S mask_table red_pl_type ulpfec_payload_type a.packet) :
    ∃ r out, exec (step ulpfec_payload_type) (new, []) arrivals = some (r, out) ∧
      ∀ pkt ∈ out, ∃ seq_num, S.Sends seq_num pkt := by
  have hempty : HandsOver S (new, []) := ⟨sound_empty, by simp [new], by simp⟩
  have hstep : ∀ (s : FecReceiverImpl × List Packet) (a : Arrival), HandsOver S s →
      (∃ mask_table, OnWire S mask_table red_pl_type ulpfec_payload_type a.packet) →
      ∃ t, step ulpfec_payload_type s a = some t ∧ HandsOver S t :=
    fun s a hhands ⟨_, ha⟩ => handsOver_step hhands hred hfec ha
  obtain ⟨⟨r, out⟩, hexec, hhands⟩ :=
    exec_of_admissible hstep hempty (admissible_of_forall h _)
  exact ⟨r, out, hexec, hhands.handed⟩

/-- A RED packet as it comes in. -/
def sampleArrival (seq_num : UInt16) (r : RedPacket) : Arrival :=
  ⟨⟨⟨12, seq_num⟩, r.data, r.length⟩, 0, fun _ => true⟩

/-- The second media packet and the FEC packet, the first media packet is lost. -/
def sampleArrivals : List Arrival :=
  [sampleArrival 8 (ProducerFec.BuildRedPacket (samplePacket 8 43).data 1 12 97),
    sampleArrival 9 (ProducerFec.GetFecPacket sampleFec (samplePacket 8 43) 97 98 9 12)]

theorem hands_over_what_was_sent_loss :
    ∃ r out, exec (step 98) (new, []) sampleArrivals = some (r, out) ∧
      ∀ pkt ∈ out, ∃ seq_num, sampleStream.Sends seq_num pkt := by
  refine hands_over_what_was_sent sampleStream 97 98 sampleArrivals (by decide) (by decide)
    (List.forall_mem_cons.mpr
      ⟨⟨sampleTable, ?_⟩, List.forall_mem_cons.mpr ⟨⟨sampleTable, ?_⟩, by simp⟩⟩)
  · have hpkt : sampleStream.packet 8 = some (samplePacket 8 43) := rfl
    exact .media hpkt (by decide) (by decide) (by decide) ⟨rfl, fun _ _ => rfl⟩
  · have hcontiguous : sampleStream.Contiguous 7 [samplePacket 7 42, samplePacket 8 43] :=
      ⟨rfl, rfl, trivial⟩
    exact .fec hcontiguous (Nat.zero_le _) generateFEC_sample List.mem_cons_self rfl
      (by decide) (by decide) ⟨rfl, fun _ _ => rfl⟩

end FecReceiverImpl

end Collaboration
