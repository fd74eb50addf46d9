import Collaboration.Library.Parity
import Collaboration.Media.FecSoundness
import Mathlib.Data.List.Perm.Subperm

/-! # What can be recovered is recovered

Of a block of media packets and the FEC packets for it, the decoder ends up with all that the
packets it got determine one by one, in whatever order and batches they came. -/

namespace Collaboration

open Peeling Transition

namespace ForwardErrorCorrection

/-- A block of media packets, and the FEC packets that are sent behind it, by their sequence
numbers. -/
structure Block (S : MediaStream) where
  first : ℕ
  size : ℕ
  fec : UInt16 → Option ReceivedPacket
  size_le : size ≤ kMaxMediaPackets
  no_wrap : first + 2 * size ≤ 0x10000
  media_range : ∀ seq_num p, S.packet seq_num = some p →
    first ≤ seq_num.toNat ∧ seq_num.toNat < first + size
  fec_range : ∀ seq_num rx, fec seq_num = some rx →
    first + size ≤ seq_num.toNat ∧ seq_num.toNat < first + 2 * size
  fec_sent : ∀ seq_num rx, fec seq_num = some rx →
    rx.is_fec = true ∧ ∃ mask_table, S.FromSender mask_table rx

/-- What may arrive of a block. -/
inductive Block.Delivers {S : MediaStream} (B : Block S)
    (rx : ReceivedPacket) : Prop
  | media (hfec : rx.is_fec = false) (hsends : S.Sends rx.seq_num rx.pkt)
  | fec (hsent : B.fec rx.seq_num = some rx)

variable {S : MediaStream} {B : Block S}
variable {s t : ForwardErrorCorrection}

theorem Block.Delivers.gets {rx : ReceivedPacket} (h : B.Delivers rx) : S.Gets rx := by
  cases h with
  | media hfec hsends => exact .media hfec hsends
  | fec hsent =>
      obtain ⟨-, mask_table, hfrom⟩ := B.fec_sent _ _ hsent
      exact hfrom.gets

theorem Block.Delivers.range {rx : ReceivedPacket} (h : B.Delivers rx) :
    B.first ≤ rx.seq_num.toNat ∧ rx.seq_num.toNat < B.first + 2 * B.size := by
  cases h with
  | media hfec hsends =>
      obtain ⟨p, hp, -⟩ := hsends
      have := B.media_range _ _ hp
      omega
  | fec hsent =>
      have := B.fec_range _ _ hsent
      omega

/-! ## Room for the block -/

theorem length_le_of_range {l : List UInt16} {first n : ℕ} (hnodup : l.Nodup)
    (h : ∀ a ∈ l, first ≤ a.toNat ∧ a.toNat < first + n) : l.length ≤ n := by
  have hnodup' : (l.map UInt16.toNat).Nodup := hnodup.map fun _ _ heq => UInt16.toNat_inj.mp heq
  have hsub : l.map UInt16.toNat ⊆ List.range' first n := by
    intro x hx
    obtain ⟨a, ha, rfl⟩ := List.mem_map.mp hx
    exact List.mem_range'_1.mpr (h a ha)
  simpa using (hnodup'.subperm hsub).length_le

theorem Sound.range (B : Block S) (h : Sound S s) :
    ∀ r ∈ s.recovered_packet_list,
      B.first ≤ r.seq_num.toNat ∧ r.seq_num.toNat < B.first + B.size := by
  intro r hr
  obtain ⟨p, hp, -⟩ := h.recovered r hr
  exact B.media_range _ _ hp

theorem Sound.length_le (B : Block S) (h : Sound S s) :
    s.recovered_packet_list.length ≤ B.size := by
  have hnodup : (s.recovered_packet_list.map (·.seq_num)).Nodup :=
    h.in_order.ordered.imp MediaStream.ne_of_place_lt
  have hlength := length_le_of_range hnodup fun a ha => by
    obtain ⟨r, hr, rfl⟩ := List.mem_map.mp ha
    exact h.range B r hr
  simpa using hlength

/-- No recovered packet of a block is discarded. -/
theorem Sound.discardOldPackets_eq (B : Block S) (h : Sound S s) :
    DiscardOldPackets s.recovered_packet_list = s.recovered_packet_list := by
  have hlength := h.length_le B
  have hsize := B.size_le
  have hzero : s.recovered_packet_list.length - kMaxMediaPackets = 0 := by omega
  rw [DiscardOldPackets, hzero, List.drop_zero]

theorem le_getLast_of_lt {l : List ℕ} {lo last : ℕ} (h : l.Pairwise (· < ·)) (hlo : ∀ x ∈ l, lo ≤ x)
    (hlast : l.getLast? = some last) : lo + l.length ≤ last + 1 := by
  induction l generalizing lo with
  | nil => simp at hlast
  | cons x l ih =>
      obtain ⟨hx, hl⟩ := List.pairwise_cons.mp h
      obtain ⟨hlox, hlol⟩ := List.forall_mem_cons.mp hlo
      cases l with
      | nil =>
          obtain rfl : x = last := by simpa using hlast
          simpa using hlox
      | cons y l =>
          rw [List.getLast?_cons_cons] at hlast
          have hrest : ∀ z ∈ y :: l, lo + 1 ≤ z := by
            intro z hz
            have := hx z hz
            omega
          have := ih hl hrest hlast
          rw [List.length_cons]
          omega

/-- Within a block the order of the stream is that of the numbers. -/
theorem Sound.ordered (B : Block S) (h : Sound S s) :
    (s.recovered_packet_list.map fun r => r.seq_num.toNat).Pairwise (· < ·) := by
  have hordered := h.in_order.ordered
  rw [List.pairwise_map] at hordered ⊢
  refine hordered.imp_of_mem ?_
  intro a b ha hb hlt
  have harange := h.range B a ha
  have hbrange := h.range B b hb
  have hawindow := h.in_order.window a ha
  have hbwindow := h.in_order.window b hb
  have hsize := B.size_le
  have hwrap := B.no_wrap
  unfold kMaxMediaPackets at hsize
  simp only [MediaStream.place, UInt16.toNat_sub] at hlt hawindow hbwindow
  have := S.start.toNat_lt
  omega

/-- A full list is the whole block, from which no packet is far. -/
theorem Sound.no_reset (B : Block S) (h : Sound S s)
    (hfull : s.recovered_packet_list.length = kMaxMediaPackets) {rx : ReceivedPacket}
    (hrx : B.Delivers rx) {back : RecoveredPacket}
    (hback : s.recovered_packet_list.getLast? = some back) :
    seqNumDiff rx.seq_num back.seq_num ≤ kMaxMediaPackets := by
  have hfirst : ∀ x ∈ s.recovered_packet_list.map fun r => r.seq_num.toNat, B.first ≤ x := by
    intro x hx
    obtain ⟨r, hr, rfl⟩ := List.mem_map.mp hx
    exact (h.range B r hr).1
  have hend : (s.recovered_packet_list.map fun r => r.seq_num.toNat).getLast? =
      some back.seq_num.toNat := by
    rw [List.getLast?_map, hback]
    rfl
  have hlast := le_getLast_of_lt (h.ordered B) hfirst hend
  have hbackrange := h.range B back (List.mem_of_getLast? hback)
  have hrange := hrx.range
  have hsize := B.size_le
  rw [List.length_map] at hlast
  unfold kMaxMediaPackets at *
  unfold seqNumDiff
  omega

/-! ## What is known and what is waited for -/

/-- The packet with the sequence number is among the recovered ones. -/
def Has (s : ForwardErrorCorrection) (seq_num : UInt16) : Prop :=
  ∃ r ∈ s.recovered_packet_list, r.seq_num = seq_num

/-- Nothing is recovered that cannot be solved, and what waits is linked to all that is there. -/
structure Sparing (B : Block S) (known : Set UInt16) (checks : Set (List UInt16))
    (s : ForwardErrorCorrection) : Prop where
  sound : Sound S s
  solved : ∀ r ∈ s.recovered_packet_list, Solved known checks r.seq_num
  waiting : ∀ f ∈ s.fec_packet_list_, protectedSeqNums f.pkt ∈ checks
  there : ∀ f ∈ s.fec_packet_list_, ∀ p ∈ f.protected_pkt_list, p.pkt.isSome → s.Has p.seq_num
  sent : ∀ f ∈ s.fec_packet_list_, ∃ rx, B.fec f.seq_num = some rx ∧ rx.pkt = f.pkt
  distinct : (s.fec_packet_list_.map (·.seq_num)).Nodup

/-- The FEC packet waits, or is not needed any more. -/
def Checked (s : ForwardErrorCorrection) (seq_nums : List UInt16) : Prop :=
  (∃ f ∈ s.fec_packet_list_, protectedSeqNums f.pkt = seq_nums) ∨
    ∀ seq_num ∈ seq_nums, s.Has seq_num

/-- Nothing is forgotten that has come in. -/
structure Complete (B : Block S) (known : Set UInt16) (checks : Set (List UInt16))
    (s : ForwardErrorCorrection) : Prop where
  sparing : Sparing B known checks s
  known : ∀ seq_num ∈ known, s.Has seq_num
  checked : ∀ seq_nums ∈ checks, s.Checked seq_nums

variable {known known' : Set UInt16} {checks checks' : Set (List UInt16)}

theorem Sparing.mono (h : Sparing B known checks s) (hknown : known ⊆ known')
    (hchecks : checks ⊆ checks') : Sparing B known' checks' s :=
  { h with
    solved := fun r hr => (h.solved r hr).mono hknown hchecks
    waiting := fun f hf => hchecks (h.waiting f hf) }

theorem addRecovered_mem {r r' : RecoveredPacket} :
    r' ∈ (s.addRecovered r).recovered_packet_list ↔ r' ∈ s.recovered_packet_list ∨ r' = r := by
  rw [addRecovered, (sortPackets_perm _ _).mem_iff, List.mem_append, List.mem_singleton]

theorem has_addRecovered {r : RecoveredPacket} {seq_num : UInt16} :
    (s.addRecovered r).Has seq_num ↔ s.Has seq_num ∨ r.seq_num = seq_num := by
  constructor
  · rintro ⟨r', hr', rfl⟩
    rcases addRecovered_mem.mp hr' with hr' | rfl
    · exact .inl ⟨r', hr', rfl⟩
    · exact .inr rfl
  · rintro (⟨r', hr', rfl⟩ | rfl)
    · exact ⟨r', addRecovered_mem.mpr (.inl hr'), rfl⟩
    · exact ⟨r, addRecovered_mem.mpr (.inr rfl), rfl⟩

theorem Checked.addRecovered {r : RecoveredPacket} (hsound : Sound S s)
    (hr : S.place r.seq_num < 0x8000)
    {seq_nums : List UInt16} (h : s.Checked seq_nums) : (s.addRecovered r).Checked seq_nums := by
  rcases h with ⟨f, hf, rfl⟩ | hall
  · refine .inl ⟨f.relink (linkTo · r), ?_, rfl⟩
    have hfecs := updateCoveringFECPackets_eq hsound.waits hr
    rw [ForwardErrorCorrection.addRecovered, hfecs]
    exact List.mem_map_of_mem hf
  · exact .inr fun seq_num hseq => has_addRecovered.mpr (.inl (hall seq_num hseq))

/-- A packet that can be solved joins the recovered ones. -/
theorem Sparing.addRecovered (h : Sparing B known checks s) {r : RecoveredPacket}
    (hr : S.Sends r.seq_num r.pkt) (hnew : ¬s.Has r.seq_num)
    (hsolved : Solved known checks r.seq_num) : Sparing B known checks (s.addRecovered r) := by
  have hfecs : (s.addRecovered r).fec_packet_list_ =
      s.fec_packet_list_.map fun f => f.relink (linkTo · r) :=
    updateCoveringFECPackets_eq h.sound.waits hr.place_lt
  refine ⟨h.sound.addRecovered hr fun r' hr' heq => hnew ⟨r', hr', heq⟩, ?_, ?_, ?_, ?_, ?_⟩
  · intro r' hr'
    rcases addRecovered_mem.mp hr' with hr' | rfl
    · exact h.solved r' hr'
    · exact hsolved
  · intro f' hf'
    rw [hfecs] at hf'
    obtain ⟨f, hf, rfl⟩ := List.mem_map.mp hf'
    exact h.waiting f hf
  · intro f' hf' q hq hsome
    rw [hfecs] at hf'
    obtain ⟨f, hf, rfl⟩ := List.mem_map.mp hf'
    obtain ⟨p, hp, rfl⟩ := List.mem_map.mp hq
    rw [linkTo_seq_num, has_addRecovered]
    rcases (linkTo_isSome_iff p r).mp hsome with hsome | heq
    · exact .inl (h.there f hf p hp hsome)
    · exact .inr heq.symm
  · intro f' hf'
    rw [hfecs] at hf'
    obtain ⟨f, hf, rfl⟩ := List.mem_map.mp hf'
    exact h.sent f hf
  · rw [hfecs, List.map_map]
    exact h.distinct

/-! ## Inserting -/

/-- The sequence numbers of the media packets among those that came in. -/
def mediaIn (past : List ReceivedPacket) : Set UInt16 :=
  fun seq_num => ∃ rx ∈ past, rx.is_fec = false ∧ rx.seq_num = seq_num

/-- What the FEC packets among those that came in protect. -/
def checksIn (past : List ReceivedPacket) : Set (List UInt16) :=
  fun seq_nums => ∃ rx ∈ past, rx.is_fec = true ∧ protectedSeqNums rx.pkt = seq_nums

theorem mediaIn_subset (past more : List ReceivedPacket) : mediaIn past ⊆ mediaIn (past ++ more) :=
  fun _ ⟨rx, hrx, h⟩ => ⟨rx, List.mem_append_left _ hrx, h⟩

theorem checksIn_subset (past more : List ReceivedPacket) :
    checksIn past ⊆ checksIn (past ++ more) :=
  fun _ ⟨rx, hrx, h⟩ => ⟨rx, List.mem_append_left _ hrx, h⟩

/-- What holds of the decoder when some packets have come in. -/
abbrev After (B : Block S) (past : List ReceivedPacket) (s : ForwardErrorCorrection) :
    Prop :=
  Complete B (mediaIn past) (checksIn past) s

variable {past : List ReceivedPacket} {rx : ReceivedPacket}

theorem After.concat (h : After B past s) (hsparing : Sparing B (mediaIn (past ++ [rx]))
      (checksIn (past ++ [rx])) t)
    (hhas : ∀ seq_num, s.Has seq_num → t.Has seq_num)
    (hchecked : ∀ seq_nums, s.Checked seq_nums → t.Checked seq_nums)
    (hmedia : rx.is_fec = false → t.Has rx.seq_num)
    (hfec : rx.is_fec = true → t.Checked (protectedSeqNums rx.pkt)) : After B (past ++ [rx]) t := by
  refine ⟨hsparing, ?_, ?_⟩
  · rintro seq_num ⟨rx', hrx', hfec', rfl⟩
    rcases List.mem_append.mp hrx' with hpast | hlast
    · exact hhas _ (h.known _ ⟨rx', hpast, hfec', rfl⟩)
    · obtain rfl := List.mem_singleton.mp hlast
      exact hmedia hfec'
  · rintro seq_nums ⟨rx', hrx', hfec', rfl⟩
    rcases List.mem_append.mp hrx' with hpast | hlast
    · exact hchecked _ (h.checked _ ⟨rx', hpast, hfec', rfl⟩)
    · obtain rfl := List.mem_singleton.mp hlast
      exact hfec hfec'

theorem After.insertMediaPacket (h : After B past s) (hfec : rx.is_fec = false)
    (hsends : S.Sends rx.seq_num rx.pkt) : After B (past ++ [rx]) (s.InsertMediaPacket rx) := by
  have hmono := h.sparing.mono (mediaIn_subset past [rx]) (checksIn_subset past [rx])
  have hnotfec : ¬rx.is_fec = true := by simp [hfec]
  unfold ForwardErrorCorrection.InsertMediaPacket
  split
  · next hdup =>
      obtain ⟨r, hr, heq⟩ := List.any_eq_true.mp hdup
      have hhas : s.Has rx.seq_num := ⟨r, hr, by simpa using heq⟩
      exact h.concat hmono (fun _ => id) (fun _ => id) (fun _ => hhas)
        fun hfec => absurd hfec hnotfec
  · next hnew =>
      have hnothas : ¬s.Has rx.seq_num := by
        rintro ⟨r, hr, heq⟩
        exact hnew (List.any_eq_true.mpr ⟨r, hr, by simpa using heq⟩)
      have hknown : rx.seq_num ∈ mediaIn (past ++ [rx]) :=
        ⟨rx, List.mem_append_right _ List.mem_cons_self, hfec, rfl⟩
      refine h.concat (hmono.addRecovered hsends hnothas (.known hknown)) ?_ ?_ ?_ ?_
      · exact fun _ hhas => has_addRecovered.mpr (.inl hhas)
      · exact fun _ hchecked => hchecked.addRecovered h.sparing.sound hsends.place_lt
      · exact fun _ => has_addRecovered.mpr (.inr rfl)
      · exact fun hfec => absurd hfec hnotfec

theorem Block.encodes (h : B.fec rx.seq_num = some rx) :
    rx.is_fec = true ∧ rx.ssrc = S.ssrc ∧ S.Encodes rx.pkt := by
  obtain ⟨hfec, mask_table, hsender⟩ := B.fec_sent _ _ h
  cases hsender.gets with
  | media hmedia => simp [hmedia] at hfec
  | fec _ hssrc hencodes => exact ⟨hfec, hssrc, hencodes⟩

theorem Sparing.distinct_join (h : Sparing B known checks s)
    (hnew : ∀ f ∈ s.fec_packet_list_, f.seq_num ≠ rx.seq_num) :
    ((s.fec_packet_list_ ++ [newFecPacket rx s.recovered_packet_list]).map (·.seq_num)).Nodup := by
  rw [List.map_append, List.nodup_append]
  refine ⟨h.distinct, by simp, ?_⟩
  intro a ha b hb
  obtain ⟨f, hf, rfl⟩ := List.mem_map.mp ha
  obtain rfl : b = rx.seq_num := by simpa [newFecPacket] using hb
  exact hnew f hf

/-- There is room for all the FEC packets of a block. -/
theorem Sparing.length_le (h : Sparing B known checks s) (hsent : B.fec rx.seq_num = some rx)
    (hnew : ∀ f ∈ s.fec_packet_list_, f.seq_num ≠ rx.seq_num) :
    (s.fec_packet_list_ ++ [newFecPacket rx s.recovered_packet_list]).length ≤
      kMaxMediaPackets := by
  have hrange : ∀ a ∈ (s.fec_packet_list_ ++ [newFecPacket rx s.recovered_packet_list]).map
      (·.seq_num), B.first + B.size ≤ a.toNat ∧ a.toNat < B.first + B.size + B.size := by
    intro a ha
    obtain ⟨f, hf, rfl⟩ := List.mem_map.mp ha
    have hfec : ∃ rx, B.fec f.seq_num = some rx := by
      rcases List.mem_append.mp hf with hf | hf
      · obtain ⟨rx', hrx', -⟩ := h.sent f hf
        exact ⟨rx', hrx'⟩
      · obtain rfl := List.mem_singleton.mp hf
        exact ⟨rx, hsent⟩
    obtain ⟨rx', hrx'⟩ := hfec
    have := B.fec_range _ _ hrx'
    omega
  have hlength := length_le_of_range (h.distinct_join hnew) hrange
  have hsize := B.size_le
  rw [List.length_map] at hlength
  omega

theorem After.insertFECPacket (h : After B past s) (hsent : B.fec rx.seq_num = some rx) :
    ∃ t, s.InsertFECPacket rx = some t ∧ After B (past ++ [rx]) t := by
  obtain ⟨hfec, hssrc, hencodes⟩ := Block.encodes hsent
  have hsparing := h.sparing
  have hmono := hsparing.mono (mediaIn_subset past [rx]) (checksIn_subset past [rx])
  have hnotmedia : ¬rx.is_fec = false := by simp [hfec]
  obtain ⟨t, ht, hcases⟩ := insertFECPacket_cases hencodes hsparing.sound.in_order
  obtain ⟨t', ht', hsound⟩ := hsparing.sound.insertFECPacket hencodes hssrc
  obtain rfl : t' = t := Option.some.inj (ht'.symm.trans ht)
  refine ⟨t', ht, ?_⟩
  rcases hcases with ⟨rfl, hneedless⟩ | ⟨hrecovered, hnew, l, hperm, hfecs⟩
  · refine h.concat hmono (fun _ => id) (fun _ => id) (fun hmedia => absurd hmedia hnotmedia)
      fun _ => ?_
    rcases hneedless with ⟨f, hf, heq⟩ | hnone
    · obtain ⟨rx', hrx', hpkt⟩ := hsparing.sent f hf
      rw [heq, hsent] at hrx'
      obtain rfl := Option.some.inj hrx'
      exact .inl ⟨f, hf, by rw [hpkt]⟩
    · exact .inr (by simp [hnone])
  · have hroom := hsparing.length_le hsent hnew
    rw [hperm.length_eq.symm] at hroom
    rw [if_neg (by omega)] at hfecs
    have hmem : ∀ f ∈ t'.fec_packet_list_,
        f ∈ s.fec_packet_list_ ∨ f = newFecPacket rx s.recovered_packet_list := by
      intro f hf
      rw [hfecs] at hf
      simpa using hperm.mem_iff.mp hf
    have hhas : ∀ seq_num, t'.Has seq_num ↔ s.Has seq_num := by
      intro seq_num
      unfold Has
      rw [hrecovered]
    obtain ⟨-, hlinks⟩ := newFecPacket_spec hencodes hssrc hsparing.sound.recovered
    have hcheck : protectedSeqNums rx.pkt ∈ checksIn (past ++ [rx]) :=
      ⟨rx, List.mem_append_right _ List.mem_cons_self, hfec, rfl⟩
    refine h.concat ⟨hsound, ?_, ?_, ?_, ?_, ?_⟩ (fun seq_num => (hhas seq_num).mpr) ?_
      (fun hmedia => absurd hmedia hnotmedia) fun _ => ?_
    · rw [hrecovered]
      exact hmono.solved
    · intro f hf
      rcases hmem f hf with hf | rfl
      · exact hmono.waiting f hf
      · exact hcheck
    · intro f hf p hp hsome
      rw [hhas]
      rcases hmem f hf with hf | rfl
      · exact hsparing.there f hf p hp hsome
      · obtain ⟨r, hr, heq⟩ := (hlinks p hp).mp hsome
        exact ⟨r, hr, heq.symm⟩
    · intro f hf
      rcases hmem f hf with hf | rfl
      · exact hsparing.sent f hf
      · exact ⟨rx, hsent, rfl⟩
    · rw [hfecs, (hperm.map _).nodup_iff]
      exact hsparing.distinct_join hnew
    · rintro seq_nums (⟨f, hf, rfl⟩ | hall)
      · refine .inl ⟨f, ?_, rfl⟩
        rw [hfecs]
        exact hperm.mem_iff.mpr (List.mem_append_left _ hf)
      · exact .inr fun seq_num hseq => (hhas seq_num).mpr (hall seq_num hseq)
    · refine .inl ⟨newFecPacket rx s.recovered_packet_list, ?_, rfl⟩
      rw [hfecs]
      exact hperm.mem_iff.mpr (List.mem_append_right _ List.mem_cons_self)

/-- No FEC packet of a block is far from a packet that comes in. -/
theorem Sparing.discardOldest_eq (h : Sparing B known checks s) (hrx : B.Delivers rx) :
    s.discardOldest rx = s := by
  unfold ForwardErrorCorrection.discardOldest
  split
  · rfl
  · next oldest rest hs =>
      obtain ⟨rx', hrx', -⟩ := h.sent oldest (by rw [hs]; exact List.mem_cons_self)
      have hrange := hrx.range
      have holdest := B.fec_range _ _ hrx'
      have hsize := B.size_le
      unfold kMaxMediaPackets at hsize
      have hnear : ¬0x3fff < seqNumDiff rx.seq_num oldest.seq_num := by
        unfold seqNumDiff
        omega
      rw [if_neg hnear]

theorem After.insertPacket (h : After B past s) (hrx : B.Delivers rx) :
    ∃ t, s.insertPacket rx = some t ∧ After B (past ++ [rx]) t := by
  unfold ForwardErrorCorrection.insertPacket
  simp only [h.sparing.discardOldest_eq hrx]
  cases hrx with
  | media hfec hsends =>
      simp only [hfec, Bool.false_eq_true, if_false]
      exact ⟨_, rfl, h.insertMediaPacket hfec hsends⟩
  | fec hsent =>
      simp only [(Block.encodes hsent).1, if_true]
      exact h.insertFECPacket hsent

theorem After.insertPackets {batch : List ReceivedPacket} (h : After B past s)
    (hbatch : ∀ rx ∈ batch, B.Delivers rx) :
    ∃ t, s.InsertPackets batch = some t ∧ After B (past ++ batch) t := by
  induction batch generalizing s past with
  | nil =>
      refine ⟨s, ?_, by rwa [List.append_nil]⟩
      rw [InsertPackets, h.sparing.sound.discardOldPackets_eq B]
  | cons rx rest ih =>
      obtain ⟨hrx, hrest⟩ := List.forall_mem_cons.mp hbatch
      obtain ⟨t, ht, hafter⟩ := h.insertPacket hrx
      obtain ⟨u, hu, hend⟩ := ih hafter hrest
      refine ⟨u, ?_, by rwa [List.append_assoc] at hend⟩
      rw [InsertPackets, ht]
      exact hu

/-! ## Recovering -/

theorem isSome_of_missing_zero {links : List ProtectedPacket}
    (h : NumCoveredPacketsMissing links 0 = 0) : ∀ p ∈ links, p.pkt.isSome := by
  rw [numCoveredPacketsMissing_eq links (Nat.zero_le 1)] at h
  have hzero : (links.countP fun p => p.pkt.isNone) = 0 := by omega
  intro p hp
  have := List.countP_eq_zero.mp hzero p hp
  simpa [Option.isSome_iff_ne_none] using this

/-- When two are missing, one of them is not the given one. -/
theorem exists_missing_ne {links : List ProtectedPacket}
    (hstuck : NumCoveredPacketsMissing links 0 = 2)
    (hnodup : (links.map (·.seq_num)).Nodup) (seq_num : UInt16) :
    ∃ p ∈ links, p.pkt = none ∧ p.seq_num ≠ seq_num := by
  rw [numCoveredPacketsMissing_eq links (Nat.zero_le 1)] at hstuck
  have htwo : 2 ≤ (links.filter fun p => p.pkt.isNone).length := by
    rw [← List.countP_eq_length_filter]
    omega
  have hsub : (links.filter fun p => p.pkt.isNone).Sublist links := List.filter_sublist
  have hnodup' := hnodup.sublist (hsub.map (·.seq_num))
  have hmem : ∀ p ∈ links.filter fun p => p.pkt.isNone, p ∈ links ∧ p.pkt = none := by
    intro p hp
    simpa using List.mem_filter.mp hp
  generalize (links.filter fun p => p.pkt.isNone) = missing at htwo hnodup' hmem
  cases missing with
  | nil => simp at htwo
  | cons p rest =>
      cases rest with
      | nil => simp at htwo
      | cons q rest =>
          have hne : p.seq_num ≠ q.seq_num := by
            intro heq
            exact (List.nodup_cons.mp hnodup').1 (by simp [heq])
          by_cases hp : p.seq_num = seq_num
          · obtain ⟨hq, hnone⟩ := hmem q (by simp)
            exact ⟨q, hq, hnone, fun heq => hne (hp.trans heq.symm)⟩
          · obtain ⟨hp', hnone⟩ := hmem p (by simp)
            exact ⟨p, hp', hnone, hp⟩

theorem FecPacket.Waits.mem_iff {f : FecPacket} (h : f.Waits S) {seq_num : UInt16} :
    seq_num ∈ protectedSeqNums f.pkt ↔ ∃ p ∈ f.protected_pkt_list, p.seq_num = seq_num := by
  rw [← h.seq_nums, List.mem_map]

/-- An FEC packet can go when all that it protects is there. -/
theorem Complete.drop {seen rest : List FecPacket} {f : FecPacket}
    {recovered : List RecoveredPacket}
    (h : Complete B known checks ⟨seen ++ f :: rest, recovered⟩)
    (hall : ∀ seq_num ∈ protectedSeqNums f.pkt, Has ⟨seen ++ rest, recovered⟩ seq_num) :
    Complete B known checks ⟨seen ++ rest, recovered⟩ := by
  have hsub : (seen ++ rest).Sublist (seen ++ f :: rest) :=
    (List.Sublist.refl seen).append (List.sublist_cons_self f rest)
  have hsparing := h.sparing
  refine ⟨⟨?_, ?_, ?_, ?_, ?_, ?_⟩, h.known, ?_⟩
  · exact hsparing.sound.sublist (fun f' hf' => hsub.subset hf') (List.Sublist.refl _)
  · exact hsparing.solved
  · exact fun f' hf' => hsparing.waiting f' (hsub.subset hf')
  · exact fun f' hf' => hsparing.there f' (hsub.subset hf')
  · exact fun f' hf' => hsparing.sent f' (hsub.subset hf')
  · exact hsparing.distinct.sublist (hsub.map _)
  · intro seq_nums hseq
    rcases h.checked seq_nums hseq with ⟨f', hf', rfl⟩ | hhas
    · rcases List.mem_append.mp hf' with hf' | hf'
      · exact .inl ⟨f', List.mem_append_left _ hf', rfl⟩
      · rcases List.mem_cons.mp hf' with rfl | hf'
        · exact .inr hall
        · exact .inl ⟨f', List.mem_append_right _ hf', rfl⟩
    · exact .inr hhas

theorem Complete.addRecovered (h : Complete B known checks s) {r : RecoveredPacket}
    (hr : S.Sends r.seq_num r.pkt) (hnew : ¬s.Has r.seq_num)
    (hsolved : Solved known checks r.seq_num) : Complete B known checks (s.addRecovered r) where
  sparing := h.sparing.addRecovered hr hnew hsolved
  known _ hseq := has_addRecovered.mpr (.inl (h.known _ hseq))
  checked _ hseq := (h.checked _ hseq).addRecovered h.sparing.sound hr.place_lt

/-- The missing packet joins the others, and the FEC packet goes. -/
theorem Complete.recover {seen rest : List FecPacket} {f : FecPacket}
    {recovered : List RecoveredPacket} (h : Complete B known checks ⟨seen ++ f :: rest, recovered⟩)
    (hmissing : NumCoveredPacketsMissing f.protected_pkt_list 0 = 1) {r : RecoveredPacket}
    (hr : RecoverPacket f = some r) :
    Complete B known checks (ForwardErrorCorrection.addRecovered ⟨seen ++ rest, recovered⟩ r) := by
  have hsparing := h.sparing
  have hf : f ∈ seen ++ f :: rest := List.mem_append_right _ List.mem_cons_self
  have hwaits := hsparing.sound.waits f hf
  obtain ⟨seq_num, pkt, hpkt, hsends, hmem, hothers⟩ := recoverPacket_spec hwaits hmissing
  obtain rfl := Option.some.inj (hpkt.symm.trans hr)
  -- The others are there, so that the missing one can be solved.
  have hthere : ∀ seq ∈ protectedSeqNums f.pkt, seq ≠ seq_num →
      Has ⟨seen ++ f :: rest, recovered⟩ seq := by
    intro seq hseq hne
    obtain ⟨p, hp, rfl⟩ := hwaits.mem_iff.mp hseq
    exact hsparing.there f hf p hp (hothers p hp hne)
  have hprotected : seq_num ∈ protectedSeqNums f.pkt := hwaits.mem_iff.mpr ⟨_, hmem, rfl⟩
  have hsolved : Solved known checks seq_num := by
    refine .check (hsparing.waiting f hf) hprotected fun seq hseq hne => ?_
    obtain ⟨r', hr', rfl⟩ := hthere seq hseq hne
    exact hsparing.solved r' hr'
  have hnew : ¬Has ⟨seen ++ f :: rest, recovered⟩ seq_num := by
    rintro ⟨r', hr', heq⟩
    have := hsparing.sound.linked f hf _ hmem r' hr' heq.symm
    simp at this
  have hadded := h.addRecovered (r := ⟨seq_num, true, false, pkt⟩) hsends hnew hsolved
  have hsplit : UpdateCoveringFECPackets ⟨seq_num, true, false, pkt⟩ (seen ++ f :: rest) =
      UpdateCoveringFECPackets ⟨seq_num, true, false, pkt⟩ seen ++
        { f with protected_pkt_list :=
          linkPacket ⟨seq_num, true, false, pkt⟩ f.protected_pkt_list } ::
        UpdateCoveringFECPackets ⟨seq_num, true, false, pkt⟩ rest := by
    simp [UpdateCoveringFECPackets]
  have hrest : UpdateCoveringFECPackets ⟨seq_num, true, false, pkt⟩ (seen ++ rest) =
      UpdateCoveringFECPackets ⟨seq_num, true, false, pkt⟩ seen ++
        UpdateCoveringFECPackets ⟨seq_num, true, false, pkt⟩ rest := List.map_append
  unfold ForwardErrorCorrection.addRecovered at hadded ⊢
  rw [hsplit] at hadded
  rw [hrest]
  refine hadded.drop fun seq hseq => ?_
  by_cases heq : seq = seq_num
  · exact has_addRecovered.mpr (.inr heq.symm)
  · exact has_addRecovered.mpr (.inl (hthere seq hseq heq))

theorem Complete.attemptRecover (h : Complete B known checks s) :
    ∃ t, s.AttemptRecover = some t ∧ Complete B known checks t ∧
      ∀ f ∈ t.fec_packet_list_, f.Stuck := by
  refine attemptRecover_induct (I := Complete B known checks) ?_ ?_ ?_ h (by simp)
  · intro seen f rest recovered h hmissing
    have hf : f ∈ seen ++ f :: rest := List.mem_append_right _ List.mem_cons_self
    obtain ⟨seq_num, pkt, hpkt, -⟩ := recoverPacket_spec (h.sparing.sound.waits f hf) hmissing
    exact ⟨_, hpkt⟩
  · intro seen f rest recovered r h hmissing hr
    have hrecover := h.recover hmissing hr
    rw [hrecover.sparing.sound.discardOldPackets_eq B]
    exact hrecover
  · intro seen f rest recovered h hmissing
    have hf : f ∈ seen ++ f :: rest := List.mem_append_right _ List.mem_cons_self
    refine h.drop fun seq_num hseq => ?_
    obtain ⟨p, hp, rfl⟩ := (h.sparing.sound.waits f hf).mem_iff.mp hseq
    exact h.sparing.there f hf p hp (isSome_of_missing_zero hmissing p hp)

theorem After.decodeFEC (h : After B past s) {batch : List ReceivedPacket} (hne : batch ≠ [])
    (hbatch : ∀ rx ∈ batch, B.Delivers rx) :
    ∃ t, s.DecodeFEC batch = some t ∧ After B (past ++ batch) t ∧
      ∀ f ∈ t.fec_packet_list_, f.Stuck := by
  obtain ⟨u, hu, hafter⟩ := h.insertPackets hbatch
  obtain ⟨t, ht, hcomplete, hstuck⟩ := hafter.attemptRecover
  refine ⟨t, ?_, hcomplete, hstuck⟩
  have hdecode : s.DecodeFEC batch = (s.InsertPackets batch).bind AttemptRecover := by
    unfold ForwardErrorCorrection.DecodeFEC
    by_cases hfull : s.recovered_packet_list.length = kMaxMediaPackets
    · obtain ⟨front, rest, rfl⟩ := List.exists_cons_of_ne_nil hne
      have hnonempty : s.recovered_packet_list ≠ [] := by
        rintro hnil
        simp [hnil, kMaxMediaPackets] at hfull
      have hlast := List.getLast?_eq_some_getLast hnonempty
      have hnear := h.sparing.sound.no_reset B hfull (hbatch front List.mem_cons_self) hlast
      rw [if_pos hfull, hlast]
      simp only [List.head?_cons]
      rw [if_neg (by omega)]
      rfl
    · rw [if_neg hfull]
      rfl
  rw [hdecode, hu]
  exact ht

/-- When every FEC packet misses two packets at least, all that can be solved is there. -/
theorem Complete.has_iff (h : Complete B known checks s)
    (hstuck : ∀ f ∈ s.fec_packet_list_, f.Stuck)
    (seq_num : UInt16) : s.Has seq_num ↔ Solved known checks seq_num := by
  constructor
  · rintro ⟨r, hr, rfl⟩
    exact h.sparing.solved r hr
  · refine Solved.mem_of_closed (s := {seq_num | s.Has seq_num}) h.known ?_
    intro c hc i hi hothers
    rcases h.checked c hc with ⟨f, hf, rfl⟩ | hall
    · have hwaits := h.sparing.sound.waits f hf
      obtain ⟨p, hp, hnone, hne⟩ := exists_missing_ne (hstuck f hf)
        (hwaits.in_order.ordered.imp MediaStream.ne_of_place_lt) i
      obtain ⟨r, hr, heq⟩ := hothers p.seq_num (hwaits.mem_iff.mpr ⟨p, hp, rfl⟩) hne
      have := h.sparing.sound.linked f hf p hp r hr heq.symm
      simp [hnone] at this
    · exact hall i hi

/-- The two packets and the one FEC packet behind them. -/
def sampleBlock : Block sampleStream where
  first := 7
  size := 2
  fec seq_num := if seq_num = 9 then some sampleCheck else none
  size_le := by decide
  no_wrap := by decide
  media_range := by
    intro seq_num p hp
    simp only [sampleStream] at hp
    split_ifs at hp with h7 h8
    · rw [h7]
      decide
    · rw [h8]
      decide
  fec_range := by
    intro seq_num rx hrx
    split_ifs at hrx with h9
    · rw [h9]
      decide
  fec_sent := by
    intro seq_num rx hrx
    split_ifs at hrx with h9
    obtain rfl := Option.some.inj hrx
    exact ⟨rfl, sampleTable, sampleCheck_fromSender⟩

end ForwardErrorCorrection

end Collaboration
