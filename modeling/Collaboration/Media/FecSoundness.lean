import Collaboration.Library.Transition
import Collaboration.Media.FecRecovery

/-! # What the decoder recovers was sent

Whatever arrives of a stream, in whatever order and however often: the recovered packets are
packets of the stream, in order and without duplicates. -/

namespace Collaboration

open Transition

namespace ForwardErrorCorrection

variable {S : MediaStream}

/-! ## The order of sequence numbers -/

/-- How far into the stream a sequence number is. -/
def MediaStream.place (S : MediaStream) (seq_num : UInt16) : ℕ := (seq_num - S.start).toNat

theorem MediaStream.place_inj {a b : UInt16} : S.place a = S.place b ↔ a = b := by
  constructor
  · intro h
    have hsub : a - S.start = b - S.start := UInt16.toNat_inj.mp h
    rw [← UInt16.sub_add_cancel a S.start, hsub, UInt16.sub_add_cancel]
  · exact congrArg S.place

theorem MediaStream.ne_of_place_lt {a b : UInt16} (h : S.place a < S.place b) : a ≠ b :=
  fun heq => h.ne (congrArg S.place heq)

/-- In the window of a stream the comparison is that of the places. -/
theorem lessThan_iff {a b : UInt16} (ha : S.place a < 0x8000) (hb : S.place b < 0x8000) :
    LessThan a b = true ↔ S.place a < S.place b := by
  have hne : b = a ↔ b.toNat = a.toNat := UInt16.toNat_inj.symm
  have hlt : b - a < 0x8000 ↔ (b - a).toNat < 0x8000 := UInt16.lt_iff_toNat_lt
  simp only [LessThan, IsNewerSequenceNumber, Bool.and_eq_true, bne_iff_ne, ne_eq, hne,
    decide_eq_true_eq, hlt, MediaStream.place, UInt16.toNat_sub] at ha hb ⊢
  have := a.toNat_lt
  have := b.toNat_lt
  have := S.start.toNat_lt
  omega

theorem sortPackets_perm {α : Type*} (seq_num : α → UInt16) (l : List α) :
    (sortPackets seq_num l).Perm l :=
  List.mergeSort_perm l _

theorem sortPackets_sorted {α : Type*} {seq_num : α → UInt16} {l : List α}
    (hwindow : ∀ a ∈ l, S.place (seq_num a) < 0x8000) (hnodup : (l.map seq_num).Nodup) :
    ((sortPackets seq_num l).map seq_num).Pairwise fun a b => S.place a < S.place b := by
  have hagree : sortPackets seq_num l =
      l.mergeSort fun a b => decide (S.place (seq_num a) ≤ S.place (seq_num b)) := by
    have hmap := List.map_mergeSort (f := id) (l := l)
      (r := fun a b => !LessThan (seq_num b) (seq_num a))
      (s := fun a b => decide (S.place (seq_num a) ≤ S.place (seq_num b))) ?_
    · rw [List.map_id, List.map_id] at hmap
      exact hmap
    · intro a ha b hb
      have hlt := lessThan_iff (hwindow b hb) (hwindow a ha)
      cases h : LessThan (seq_num b) (seq_num a) <;> simp_all
  have hle : ((sortPackets seq_num l).map seq_num).Pairwise fun a b => S.place a ≤ S.place b := by
    rw [hagree, List.pairwise_map]
    have hsorted := @List.pairwise_mergeSort α
      (fun a b => decide (S.place (seq_num a) ≤ S.place (seq_num b))) ?_ ?_ l
    · simpa using hsorted
    · intro a b c
      simp only [decide_eq_true_eq]
      exact le_trans
    · intro a b
      simpa using le_total _ _
  have hdistinct : ((sortPackets seq_num l).map seq_num).Nodup :=
    ((sortPackets_perm seq_num l).map seq_num).nodup_iff.mpr hnodup
  refine (hle.and hdistinct).imp ?_
  rintro a b ⟨hab, hne⟩
  exact lt_of_le_of_ne hab (mt MediaStream.place_inj.mp hne)

/-! ## Links -/

/-- A list of packets of the stream, in its order. -/
structure MediaStream.InOrder {α : Type*} (S : MediaStream) (seq_num : α → UInt16) (l : List α) :
    Prop where
  window : ∀ a ∈ l, S.place (seq_num a) < 0x8000
  ordered : (l.map seq_num).Pairwise fun a b => S.place a < S.place b

theorem MediaStream.InOrder.tail {α : Type*} {seq_num : α → UInt16} {a : α} {l : List α}
    (h : S.InOrder seq_num (a :: l)) :
    S.InOrder seq_num l ∧ S.place (seq_num a) < 0x8000 ∧
      ∀ b ∈ l, S.place (seq_num a) < S.place (seq_num b) := by
  obtain ⟨ha, hl⟩ := List.forall_mem_cons.mp h.window
  obtain ⟨hfirst, hrest⟩ := List.pairwise_cons.mp h.ordered
  exact ⟨⟨hl, hrest⟩, ha, fun b hb => hfirst _ (List.mem_map_of_mem hb)⟩

/-- Links a packet when it is the protected one. -/
def linkTo (p : ProtectedPacket) (r : RecoveredPacket) : ProtectedPacket :=
  if p.seq_num = r.seq_num then { p with pkt := some r.pkt } else p

@[simp] theorem linkTo_seq_num (p : ProtectedPacket) (r : RecoveredPacket) :
    (linkTo p r).seq_num = p.seq_num := by
  unfold linkTo
  split <;> rfl

theorem linkTo_of_ne {p : ProtectedPacket} {r : RecoveredPacket} (h : p.seq_num ≠ r.seq_num) :
    linkTo p r = p :=
  if_neg h

theorem foldl_linkTo_of_ne {p : ProtectedPacket} {rs : List RecoveredPacket}
    (h : ∀ r ∈ rs, p.seq_num ≠ r.seq_num) : rs.foldl linkTo p = p := by
  induction rs with
  | nil => rfl
  | cons r rs ih =>
      obtain ⟨hr, hrs⟩ := List.forall_mem_cons.mp h
      rw [List.foldl_cons, linkTo_of_ne hr]
      exact ih hrs

/-- The search finds the packet wherever it is. -/
theorem linkPacket_eq {links : List ProtectedPacket} {r : RecoveredPacket}
    (h : S.InOrder (·.seq_num) links) (hr : S.place r.seq_num < 0x8000) :
    linkPacket r links = links.map fun p => linkTo p r := by
  have hrest : ∀ (p : ProtectedPacket) (rest : List ProtectedPacket),
      S.InOrder (·.seq_num) (p :: rest) → S.place r.seq_num ≤ S.place p.seq_num →
      rest.map (fun p => linkTo p r) = rest := by
    intro p rest h hle
    obtain ⟨-, -, hlt⟩ := h.tail
    have hsame : rest.map (fun p => linkTo p r) = rest.map id := by
      refine List.map_congr_left fun q hq => linkTo_of_ne ?_
      exact (MediaStream.ne_of_place_lt (hle.trans_lt (hlt q hq))).symm
    rw [hsame, List.map_id]
  induction links with
  | nil => rfl
  | cons p rest ih =>
      obtain ⟨htail, hp, hlt⟩ := h.tail
      have hless := lessThan_iff hp hr
      rw [linkPacket, List.map_cons]
      split
      · next hlp =>
          have hne := MediaStream.ne_of_place_lt (hless.mp hlp)
          rw [linkTo_of_ne hne, ih htail]
      · next hnl =>
          have hle : S.place r.seq_num ≤ S.place p.seq_num := not_lt.mp (mt hless.mpr hnl)
          rw [hrest p rest h hle]
          split
          · next heq => rw [linkTo, if_pos heq]
          · next hne => rw [linkTo_of_ne hne]

theorem mem_of_mem_setIntersection {as : List RecoveredPacket} {bs : List ProtectedPacket}
    {r : RecoveredPacket} (h : r ∈ setIntersection as bs) : r ∈ as := by
  induction as, bs using setIntersection.induct with
  | case1 => simp [setIntersection] at h
  | case2 => simp [setIntersection] at h
  | case3 a as b bs hab ih =>
      rw [setIntersection, if_pos hab] at h
      exact List.mem_cons_of_mem _ (ih h)
  | case4 a as b bs hab hba ih =>
      rw [setIntersection, if_neg hab, if_pos hba] at h
      exact ih h
  | case5 a as b bs hab hba ih =>
      rw [setIntersection, if_neg hab, if_neg hba] at h
      rcases List.mem_cons.mp h with rfl | h
      · exact List.mem_cons_self
      · exact List.mem_cons_of_mem _ (ih h)

theorem linkAll_cons_of_ne {p : ProtectedPacket} {ps : List ProtectedPacket}
    {rs : List RecoveredPacket} (h : ∀ r ∈ rs, p.seq_num ≠ r.seq_num) :
    linkAll (p :: ps) rs = (linkAll ps rs).map (p :: ·) := by
  cases rs with
  | nil => simp [linkAll]
  | cons r rs => rw [linkAll, if_pos (h r List.mem_cons_self)]

/-- All the packets that are there are linked, and none is searched in vain. -/
theorem linkAll_setIntersection {as : List RecoveredPacket} {bs : List ProtectedPacket}
    (has : S.InOrder (·.seq_num) as) (hbs : S.InOrder (·.seq_num) bs) :
    linkAll bs (setIntersection as bs) = some (bs.map fun p => as.foldl linkTo p) := by
  induction as, bs using setIntersection.induct with
  | case1 bs => simp [setIntersection, linkAll]
  | case2 a as => simp [setIntersection, linkAll]
  | case3 a as b bs hab ih =>
      obtain ⟨has', ha, -⟩ := has.tail
      obtain ⟨-, hb, hbafter⟩ := hbs.tail
      have hlt := (lessThan_iff ha hb).mp hab
      rw [setIntersection, if_pos hab, ih has' hbs]
      congr 1
      refine List.map_congr_left fun p hp => ?_
      have hne : p.seq_num ≠ a.seq_num := by
        rcases List.mem_cons.mp hp with rfl | hp
        · exact (MediaStream.ne_of_place_lt hlt).symm
        · exact (MediaStream.ne_of_place_lt (hlt.trans (hbafter p hp))).symm
      rw [List.foldl_cons, linkTo_of_ne hne]
  | case4 a as b bs hab hba ih =>
      obtain ⟨-, ha, haafter⟩ := has.tail
      obtain ⟨hbs', hb, -⟩ := hbs.tail
      have hlt := (lessThan_iff hb ha).mp hba
      have hne : ∀ r ∈ a :: as, b.seq_num ≠ r.seq_num := by
        intro r hr
        rcases List.mem_cons.mp hr with rfl | hr
        · exact MediaStream.ne_of_place_lt hlt
        · exact MediaStream.ne_of_place_lt (hlt.trans (haafter r hr))
      rw [setIntersection, if_neg hab, if_pos hba,
        linkAll_cons_of_ne fun r hr => hne r (mem_of_mem_setIntersection hr), ih has hbs',
        List.map_cons, foldl_linkTo_of_ne hne]
      rfl
  | case5 a as b bs hab hba ih =>
      obtain ⟨has', ha, haafter⟩ := has.tail
      obtain ⟨hbs', hb, hbafter⟩ := hbs.tail
      have hplace : S.place a.seq_num = S.place b.seq_num := by
        have hle := not_lt.mp (mt (lessThan_iff ha hb).mpr hab)
        have hge := not_lt.mp (mt (lessThan_iff hb ha).mpr hba)
        omega
      have heq : b.seq_num = a.seq_num := (MediaStream.place_inj.mp hplace).symm
      have hafter : ∀ r ∈ as, b.seq_num ≠ r.seq_num :=
        fun r hr => MediaStream.ne_of_place_lt (hplace ▸ haafter r hr)
      have hrest : bs.map (fun p => (a :: as).foldl linkTo p) =
          bs.map fun p => as.foldl linkTo p := by
        refine List.map_congr_left fun p hp => ?_
        have hne : p.seq_num ≠ a.seq_num :=
          (MediaStream.ne_of_place_lt (hplace ▸ hbafter p hp)).symm
        rw [List.foldl_cons, linkTo_of_ne hne]
      have hfirst : (a :: as).foldl linkTo b = { b with pkt := some a.pkt } := by
        rw [List.foldl_cons, linkTo, if_pos heq]
        exact foldl_linkTo_of_ne hafter
      have hothers : ∀ r ∈ setIntersection as bs,
          ({ b with pkt := some a.pkt } : ProtectedPacket).seq_num ≠ r.seq_num :=
        fun r hr => hafter r (mem_of_mem_setIntersection hr)
      rw [setIntersection, if_neg hab, if_neg hba, linkAll, if_neg (not_not_intro heq),
        linkAll_cons_of_ne hothers, ih has' hbs', List.map_cons, hrest, hfirst]
      rfl

/-! ## The invariant -/

/-- What holds of a decoder that gets packets of the stream. -/
structure Sound (S : MediaStream) (s : ForwardErrorCorrection) : Prop where
  recovered : ∀ r ∈ s.recovered_packet_list, S.Sends r.seq_num r.pkt
  in_order : S.InOrder (·.seq_num) s.recovered_packet_list
  waits : ∀ f ∈ s.fec_packet_list_, f.Waits S
  linked : ∀ f ∈ s.fec_packet_list_, ∀ p ∈ f.protected_pkt_list, ∀ r ∈ s.recovered_packet_list,
    p.seq_num = r.seq_num → p.pkt.isSome

theorem sound_empty : Sound S ⟨[], []⟩ where
  recovered := by simp
  in_order := ⟨by simp, .nil⟩
  waits := by simp
  linked := by simp

theorem MediaStream.Sends.place_lt {seq_num : UInt16} {pkt : Packet} (h : S.Sends seq_num pkt) :
    S.place seq_num < 0x8000 := by
  obtain ⟨p, hp, -⟩ := h
  exact S.window _ _ hp

theorem FecPacket.Waits.in_order {f : FecPacket} (h : f.Waits S) :
    S.InOrder (·.seq_num) f.protected_pkt_list where
  window p hp := by
    have hmem : p.seq_num ∈ protectedSeqNums f.pkt := by
      rw [← h.seq_nums]
      exact List.mem_map_of_mem hp
    obtain ⟨q, hq, -⟩ := h.encodes.protects _ hmem
    exact S.window _ _ hq
  ordered := by
    rw [h.seq_nums]
    exact h.encodes.ordered

/-- An FEC packet with its links changed. -/
def FecPacket.relink (f : FecPacket) (link : ProtectedPacket → ProtectedPacket) : FecPacket :=
  { f with protected_pkt_list := f.protected_pkt_list.map link }

theorem FecPacket.Waits.relink {f : FecPacket} (h : f.Waits S)
    {link : ProtectedPacket → ProtectedPacket} (hseq : ∀ p, (link p).seq_num = p.seq_num)
    (hlink : ∀ p ∈ f.protected_pkt_list, ∀ pkt, (link p).pkt = some pkt → S.Sends p.seq_num pkt) :
    (f.relink link).Waits S where
  encodes := h.encodes
  ssrc := h.ssrc
  seq_nums := by
    rw [FecPacket.relink, List.map_map, ← h.seq_nums]
    exact List.map_congr_left fun p _ => hseq p
  links q hq pkt hpkt := by
    obtain ⟨p, hp, rfl⟩ := List.mem_map.mp hq
    rw [hseq]
    exact hlink p hp pkt hpkt

theorem updateCoveringFECPackets_eq {r : RecoveredPacket} {fecs : List FecPacket}
    (h : ∀ f ∈ fecs, f.Waits S) (hr : S.place r.seq_num < 0x8000) :
    UpdateCoveringFECPackets r fecs = fecs.map fun f => f.relink (linkTo · r) := by
  refine List.map_congr_left fun f hf => ?_
  rw [linkPacket_eq (h f hf).in_order hr]
  rfl

theorem linkTo_isSome_iff (p : ProtectedPacket) (r : RecoveredPacket) :
    (linkTo p r).pkt.isSome ↔ p.pkt.isSome ∨ p.seq_num = r.seq_num := by
  unfold linkTo
  split
  · next heq => simp [heq]
  · next hne => simp [hne]

theorem linkTo_sends {p : ProtectedPacket} {r : RecoveredPacket} {pkt : Packet}
    (hp : ∀ pkt, p.pkt = some pkt → S.Sends p.seq_num pkt) (hr : S.Sends r.seq_num r.pkt)
    (h : (linkTo p r).pkt = some pkt) : S.Sends p.seq_num pkt := by
  unfold linkTo at h
  split at h
  · next heq =>
      obtain rfl : r.pkt = pkt := Option.some.inj h
      rwa [heq]
  · exact hp pkt h

variable {s : ForwardErrorCorrection}

/-- A packet that is not there yet. -/
theorem Sound.addRecovered (h : Sound S s) {r : RecoveredPacket} (hr : S.Sends r.seq_num r.pkt)
    (hnew : ∀ r' ∈ s.recovered_packet_list, r'.seq_num ≠ r.seq_num) :
    Sound S (s.addRecovered r) := by
  have hmem : ∀ {r'}, r' ∈ (s.addRecovered r).recovered_packet_list ↔
      r' ∈ s.recovered_packet_list ∨ r' = r := by
    intro r'
    rw [ForwardErrorCorrection.addRecovered, (sortPackets_perm _ _).mem_iff, List.mem_append,
      List.mem_singleton]
  have hfecs : (s.addRecovered r).fec_packet_list_ =
      s.fec_packet_list_.map fun f => f.relink (linkTo · r) :=
    updateCoveringFECPackets_eq h.waits hr.place_lt
  have hrecovered : ∀ r' ∈ (s.addRecovered r).recovered_packet_list, S.Sends r'.seq_num r'.pkt := by
    intro r' hr'
    rcases hmem.mp hr' with hr' | rfl
    · exact h.recovered r' hr'
    · exact hr
  refine ⟨hrecovered, ⟨fun r' hr' => (hrecovered r' hr').place_lt, ?_⟩, ?_, ?_⟩
  · refine sortPackets_sorted ?_ ?_
    · intro r' hr'
      exact (hrecovered r' ((sortPackets_perm _ _).mem_iff.mpr hr')).place_lt
    · rw [List.map_append, List.nodup_append]
      refine ⟨h.in_order.ordered.imp MediaStream.ne_of_place_lt, by simp, ?_⟩
      intro a ha b hb
      obtain ⟨r', hr', rfl⟩ := List.mem_map.mp ha
      obtain rfl : b = r.seq_num := by simpa using hb
      exact hnew r' hr'
  · intro f' hf'
    rw [hfecs] at hf'
    obtain ⟨f, hf, rfl⟩ := List.mem_map.mp hf'
    exact (h.waits f hf).relink (fun p => linkTo_seq_num p r)
      fun p hp pkt hpkt => linkTo_sends ((h.waits f hf).links p hp) hr hpkt
  · intro f' hf' q hq r' hr' heq
    rw [hfecs] at hf'
    obtain ⟨f, hf, rfl⟩ := List.mem_map.mp hf'
    obtain ⟨p, hp, rfl⟩ := List.mem_map.mp hq
    rw [linkTo_seq_num] at heq
    rw [linkTo_isSome_iff]
    rcases hmem.mp hr' with hr' | rfl
    · exact .inl (h.linked f hf p hp r' hr' heq)
    · exact .inr heq

theorem Sound.sublist (h : Sound S s) {t : ForwardErrorCorrection}
    (hfecs : ∀ f ∈ t.fec_packet_list_, f ∈ s.fec_packet_list_)
    (hrecovered : t.recovered_packet_list.Sublist s.recovered_packet_list) : Sound S t where
  recovered r hr := h.recovered r (hrecovered.subset hr)
  in_order := ⟨fun r hr => h.in_order.window r (hrecovered.subset hr),
    h.in_order.ordered.sublist (hrecovered.map _)⟩
  waits f hf := h.waits f (hfecs f hf)
  linked f hf p hp r hr := h.linked f (hfecs f hf) p hp r (hrecovered.subset hr)

theorem Sound.insertMediaPacket (h : Sound S s) {rx : ReceivedPacket}
    (hrx : S.Sends rx.seq_num rx.pkt) : Sound S (s.InsertMediaPacket rx) := by
  unfold ForwardErrorCorrection.InsertMediaPacket
  split
  · exact h
  · next hnew =>
      refine h.addRecovered hrx fun r hr heq => hnew ?_
      exact List.any_eq_true.mpr ⟨r, hr, by simpa using heq⟩

theorem foldl_linkTo_spec {rs : List RecoveredPacket} (hrs : ∀ r ∈ rs, S.Sends r.seq_num r.pkt)
    {p : ProtectedPacket} (hp : ∀ pkt, p.pkt = some pkt → S.Sends p.seq_num pkt) :
    (rs.foldl linkTo p).seq_num = p.seq_num ∧
      (∀ pkt, (rs.foldl linkTo p).pkt = some pkt → S.Sends p.seq_num pkt) ∧
      ((rs.foldl linkTo p).pkt.isSome ↔ p.pkt.isSome ∨ ∃ r ∈ rs, p.seq_num = r.seq_num) := by
  induction rs generalizing p with
  | nil => exact ⟨rfl, hp, by simp⟩
  | cons r rs ih =>
      obtain ⟨hr, hrest⟩ := List.forall_mem_cons.mp hrs
      have hlink : ∀ pkt, (linkTo p r).pkt = some pkt → S.Sends (linkTo p r).seq_num pkt := by
        intro pkt hpkt
        rw [linkTo_seq_num]
        exact linkTo_sends hp hr hpkt
      obtain ⟨hseq, hsends, hsome⟩ := ih hrest hlink
      rw [linkTo_seq_num] at hseq hsends hsome
      refine ⟨hseq, hsends, ?_⟩
      rw [List.foldl_cons, hsome, linkTo_isSome_iff, List.exists_mem_cons_iff, or_assoc]

/-- The FEC packet that is made of a received one. -/
def newFecPacket (rx : ReceivedPacket) (recovered : List RecoveredPacket) : FecPacket where
  seq_num := rx.seq_num
  ssrc := rx.ssrc
  protected_pkt_list := (protectedSeqNums rx.pkt).map fun seq_num =>
    recovered.foldl linkTo ⟨seq_num, none⟩
  pkt := rx.pkt

theorem newFecPacket_spec {rx : ReceivedPacket} (henc : S.Encodes rx.pkt) (hssrc : rx.ssrc = S.ssrc)
    {recovered : List RecoveredPacket} (h : ∀ r ∈ recovered, S.Sends r.seq_num r.pkt) :
    (newFecPacket rx recovered).Waits S ∧
      ∀ p ∈ (newFecPacket rx recovered).protected_pkt_list,
        p.pkt.isSome ↔ ∃ r ∈ recovered, p.seq_num = r.seq_num := by
  have hspec : ∀ seq_num : UInt16, _ := fun seq_num =>
    foldl_linkTo_spec h (p := ⟨seq_num, none⟩) (by simp)
  refine ⟨⟨henc, hssrc, ?_, ?_⟩, ?_⟩
  · rw [newFecPacket, List.map_map]
    conv_rhs => rw [← List.map_id (protectedSeqNums rx.pkt)]
    exact List.map_congr_left fun seq_num _ => (hspec seq_num).1
  · intro p hp pkt hpkt
    obtain ⟨seq_num, -, rfl⟩ := List.mem_map.mp hp
    rw [(hspec seq_num).1]
    exact (hspec seq_num).2.1 pkt hpkt
  · intro p hp
    obtain ⟨seq_num, -, rfl⟩ := List.mem_map.mp hp
    rw [(hspec seq_num).2.2, (hspec seq_num).1]
    simp

/-- A received FEC packet is a duplicate, protects nothing, or joins those that wait. -/
theorem insertFECPacket_cases {rx : ReceivedPacket} (henc : S.Encodes rx.pkt)
    (hin : S.InOrder (·.seq_num) s.recovered_packet_list) :
    ∃ t, s.InsertFECPacket rx = some t ∧
      (t = s ∧ ((∃ f ∈ s.fec_packet_list_, f.seq_num = rx.seq_num) ∨ protectedSeqNums rx.pkt = []) ∨
        t.recovered_packet_list = s.recovered_packet_list ∧
          (∀ f ∈ s.fec_packet_list_, f.seq_num ≠ rx.seq_num) ∧ ∃ l : List FecPacket,
            l.Perm (s.fec_packet_list_ ++ [newFecPacket rx s.recovered_packet_list]) ∧
              t.fec_packet_list_ = if kMaxMediaPackets < l.length then l.tail else l) := by
  unfold ForwardErrorCorrection.InsertFECPacket
  split
  · next hdup =>
      obtain ⟨f, hf, heq⟩ := List.any_eq_true.mp hdup
      exact ⟨s, rfl, .inl ⟨rfl, .inl ⟨f, hf, by simpa using heq⟩⟩⟩
  · next hnew =>
    have hfresh : ∀ f ∈ s.fec_packet_list_, f.seq_num ≠ rx.seq_num := by
      intro f hf heq
      exact hnew (List.any_eq_true.mpr ⟨f, hf, by simpa using heq⟩)
    dsimp only
    split
    · next hnone => exact ⟨s, rfl, .inl ⟨rfl, .inr (by simpa using hnone)⟩⟩
    · have hordered : S.InOrder (·.seq_num)
          ((protectedSeqNums rx.pkt).map fun seq_num => (⟨seq_num, none⟩ : ProtectedPacket)) := by
        refine ⟨fun p hp => ?_, ?_⟩
        · obtain ⟨seq_num, hseq, rfl⟩ := List.mem_map.mp hp
          obtain ⟨q, hq, -⟩ := henc.protects _ hseq
          exact S.window _ _ hq
        · rw [List.map_map]
          exact (List.map_id _).symm ▸ henc.ordered
      rw [AssignRecoveredPackets, linkAll_setIntersection hin hordered, List.map_map]
      exact ⟨_, rfl, .inr ⟨rfl, hfresh, _, sortPackets_perm _ _, rfl⟩⟩

theorem Sound.insertFECPacket (h : Sound S s) {rx : ReceivedPacket} (henc : S.Encodes rx.pkt)
    (hssrc : rx.ssrc = S.ssrc) : ∃ t, s.InsertFECPacket rx = some t ∧ Sound S t := by
  obtain ⟨t, ht, hcases⟩ := insertFECPacket_cases henc h.in_order
  obtain ⟨hnew, hlinked⟩ := newFecPacket_spec henc hssrc h.recovered
  refine ⟨t, ht, ?_⟩
  rcases hcases with ⟨rfl, -⟩ | ⟨hrecovered, -, l, hperm, hfecs⟩
  · exact h
  · have hmem : ∀ f ∈ t.fec_packet_list_, f ∈ s.fec_packet_list_ ∨
        f = newFecPacket rx s.recovered_packet_list := by
      intro f hf
      have hl : f ∈ l := by
        rw [hfecs] at hf
        split at hf
        · exact List.mem_of_mem_tail hf
        · exact hf
      simpa using hperm.mem_iff.mp hl
    refine ⟨?_, ?_, ?_, ?_⟩
    · rw [hrecovered]
      exact h.recovered
    · rw [hrecovered]
      exact h.in_order
    · intro f hf
      rcases hmem f hf with hf | rfl
      · exact h.waits f hf
      · exact hnew
    · rw [hrecovered]
      intro f hf
      rcases hmem f hf with hf | rfl
      · exact h.linked f hf
      · exact fun p hp r hr heq => (hlinked p hp).mpr ⟨r, hr, heq⟩

/-! ## Calls -/

/-- A packet as the sender of a stream makes it: a media packet, or an FEC packet for contiguous
media packets. -/
inductive MediaStream.FromSender (S : MediaStream) (mask_table : MaskTable) (rx : ReceivedPacket) :
    Prop
  | media (hfec : rx.is_fec = false) (hsends : S.Sends rx.seq_num rx.pkt)
  | fec {seq_num : UInt16} {media : List Packet} {protection_factor : UInt8}
      {num_important_packets : ℕ} {use_unequal_protection : Bool} {r : ℤ}
      {fec_packet_list : List Packet} {pkt : Packet} (hfec : rx.is_fec = true)
      (hssrc : rx.ssrc = S.ssrc) (hmedia : S.Contiguous seq_num media)
      (himp : num_important_packets ≤ media.length)
      (hgenerate : GenerateFEC mask_table media protection_factor num_important_packets
        use_unequal_protection = some (r, fec_packet_list))
      (hpkt : pkt ∈ fec_packet_list) (hsame : SameBytes pkt rx.pkt)

/-- What the decoder gets. -/
inductive MediaStream.Gets (S : MediaStream) (rx : ReceivedPacket) : Prop
  | media (hfec : rx.is_fec = false) (hsends : S.Sends rx.seq_num rx.pkt)
  | fec (hfec : rx.is_fec = true) (hssrc : rx.ssrc = S.ssrc) (hencodes : S.Encodes rx.pkt)

theorem MediaStream.FromSender.gets {mask_table : MaskTable} {rx : ReceivedPacket}
    (h : S.FromSender mask_table rx) : S.Gets rx := by
  cases h with
  | media hfec hsends => exact .media hfec hsends
  | @fec seq_num media factor imp uep r fecs pkt hfec hssrc hmedia himp hgenerate hpkt hsame =>
      have hne : media ≠ [] := by
        rintro rfl
        simp [GenerateFEC] at hgenerate
      obtain ⟨r', fecs', hgenerate', hencodes⟩ :=
        generateFEC_spec mask_table hmedia hne factor himp uep
      obtain ⟨-, rfl⟩ := Prod.mk.inj (Option.some.inj (hgenerate.symm.trans hgenerate'))
      exact .fec hfec hssrc ((hencodes pkt hpkt).congr hsame)

theorem discardOldest_fecs (rx : ReceivedPacket) (s : ForwardErrorCorrection) :
    (∀ f ∈ (s.discardOldest rx).fec_packet_list_, f ∈ s.fec_packet_list_) ∧
      (s.discardOldest rx).recovered_packet_list = s.recovered_packet_list := by
  unfold ForwardErrorCorrection.discardOldest
  split
  · exact ⟨fun f hf => hf, rfl⟩
  · next oldest rest hs =>
      split
      · exact ⟨fun f hf => by rw [hs]; exact List.mem_cons_of_mem _ hf, rfl⟩
      · exact ⟨fun f hf => hf, rfl⟩

theorem Sound.insertPacket (h : Sound S s) {rx : ReceivedPacket} (hrx : S.Gets rx) :
    ∃ t, s.insertPacket rx = some t ∧ Sound S t := by
  obtain ⟨hfecs, hrecovered⟩ := discardOldest_fecs rx s
  have hs := h.sublist hfecs (hrecovered ▸ List.Sublist.refl _)
  unfold ForwardErrorCorrection.insertPacket
  cases hrx with
  | media hfec hsends =>
      simp only [hfec, Bool.false_eq_true, if_false]
      exact ⟨_, rfl, hs.insertMediaPacket hsends⟩
  | fec hfec hssrc hencodes =>
      simp only [hfec, if_true]
      exact hs.insertFECPacket hencodes hssrc

theorem Sound.discardOldPackets (h : Sound S s) :
    Sound S { s with recovered_packet_list := DiscardOldPackets s.recovered_packet_list } :=
  h.sublist (fun _ hf => hf) (List.drop_sublist _ _)

theorem length_discardOldPackets (l : List RecoveredPacket) :
    (DiscardOldPackets l).length ≤ kMaxMediaPackets := by
  rw [DiscardOldPackets, List.length_drop]
  omega

theorem Sound.insertPackets (h : Sound S s) {batch : List ReceivedPacket}
    (hbatch : ∀ rx ∈ batch, S.Gets rx) :
    ∃ t, s.InsertPackets batch = some t ∧ Sound S t ∧
      t.recovered_packet_list.length ≤ kMaxMediaPackets := by
  induction batch generalizing s with
  | nil => exact ⟨_, rfl, h.discardOldPackets, length_discardOldPackets _⟩
  | cons rx rest ih =>
      obtain ⟨hrx, hrest⟩ := List.forall_mem_cons.mp hbatch
      obtain ⟨t, ht, hsound⟩ := h.insertPacket hrx
      obtain ⟨u, hu, hend⟩ := ih hsound hrest
      refine ⟨u, ?_, hend⟩
      rw [InsertPackets, ht]
      exact hu

/-- At least two of the packets that the FEC packet protects are missing. -/
def FecPacket.Stuck (f : FecPacket) : Prop := NumCoveredPacketsMissing f.protected_pkt_list 0 = 2

theorem numCoveredPacketsMissing_le (links : List ProtectedPacket) :
    NumCoveredPacketsMissing links 0 ≤ 2 := by
  rw [numCoveredPacketsMissing_eq links (Nat.zero_le 1)]
  omega

/-- The loop ends, and leaves no FEC packet that could recover one more. What it keeps holds of the
state with the FEC packets before and behind the iterator. -/
theorem attemptRecover_induct {I : ForwardErrorCorrection → Prop}
    (hfind : ∀ seen f rest recovered, I ⟨seen ++ f :: rest, recovered⟩ →
      NumCoveredPacketsMissing f.protected_pkt_list 0 = 1 → ∃ r, RecoverPacket f = some r)
    (hrecover : ∀ seen f rest recovered r, I ⟨seen ++ f :: rest, recovered⟩ →
      NumCoveredPacketsMissing f.protected_pkt_list 0 = 1 → RecoverPacket f = some r →
      I ⟨(addRecovered ⟨seen ++ rest, recovered⟩ r).fec_packet_list_,
        DiscardOldPackets (addRecovered ⟨seen ++ rest, recovered⟩ r).recovered_packet_list⟩)
    (hdrop : ∀ seen f rest recovered, I ⟨seen ++ f :: rest, recovered⟩ →
      NumCoveredPacketsMissing f.protected_pkt_list 0 = 0 → I ⟨seen ++ rest, recovered⟩)
    {seen fecs : List FecPacket} {recovered : List RecoveredPacket}
    (h : I ⟨seen ++ fecs, recovered⟩)
    (hseen : ∀ f ∈ seen, f.Stuck) :
    ∃ t, attemptRecover seen fecs recovered = some t ∧ I t ∧ ∀ f ∈ t.fec_packet_list_, f.Stuck := by
  induction seen, fecs, recovered using attemptRecover.induct with
  | case1 seen recovered =>
      rw [List.append_nil] at h
      exact ⟨_, by rw [attemptRecover], h, hseen⟩
  | case2 seen recovered f rest missing hone hnone =>
      obtain ⟨r, hr⟩ := hfind _ _ _ _ h hone
      simp [hnone] at hr
  | case3 seen recovered f rest missing hone r hr s ih =>
      obtain ⟨t, ht, hend⟩ := ih (hrecover _ _ _ _ _ h hone hr) (by simp)
      refine ⟨t, ?_, hend⟩
      rw [attemptRecover, if_pos hone, hr]
      exact ht
  | case4 seen recovered f rest missing hone hzero ih =>
      obtain ⟨t, ht, hend⟩ := ih (hdrop _ _ _ _ h hzero) hseen
      refine ⟨t, ?_, hend⟩
      rw [attemptRecover, if_neg hone, if_pos hzero]
      exact ht
  | case5 seen recovered f rest missing hone hzero ih =>
      have hle := numCoveredPacketsMissing_le f.protected_pkt_list
      have hstuck : f.Stuck := by
        unfold FecPacket.Stuck
        omega
      obtain ⟨t, ht, hend⟩ := ih (by rwa [List.append_assoc]) (by
        intro f' hf'
        rcases List.mem_append.mp hf' with hf' | hf'
        · exact hseen f' hf'
        · exact List.mem_singleton.mp hf' ▸ hstuck)
      refine ⟨t, ?_, hend⟩
      rw [attemptRecover, if_neg hone, if_neg hzero]
      exact ht

/-- An FEC packet that misses one packet of the stream recovers it. -/
theorem Sound.recovers {seen rest : List FecPacket} {f : FecPacket}
    {recovered : List RecoveredPacket}
    (h : Sound S ⟨seen ++ f :: rest, recovered⟩) {r : RecoveredPacket}
    (hmissing : NumCoveredPacketsMissing f.protected_pkt_list 0 = 1)
    (hr : RecoverPacket f = some r) :
    Sound S (ForwardErrorCorrection.addRecovered ⟨seen ++ rest, recovered⟩ r) := by
  have hf : f ∈ seen ++ f :: rest := List.mem_append_right _ List.mem_cons_self
  obtain ⟨seq_num, pkt, hpkt, hsends, hmem, -⟩ := recoverPacket_spec (h.waits f hf) hmissing
  obtain rfl := Option.some.inj (hpkt.symm.trans hr)
  have hsound : Sound S ⟨seen ++ rest, recovered⟩ := by
    refine h.sublist (fun f' hf' => ?_) (List.Sublist.refl _)
    rcases List.mem_append.mp hf' with hf' | hf'
    · exact List.mem_append_left _ hf'
    · exact List.mem_append_right _ (List.mem_cons_of_mem _ hf')
  refine hsound.addRecovered hsends fun r' hr' heq => ?_
  have := h.linked f hf _ hmem r' hr' heq.symm
  simp at this

theorem Sound.attemptRecover (h : Sound S s)
    (hlength : s.recovered_packet_list.length ≤ kMaxMediaPackets) :
    ∃ t, s.AttemptRecover = some t ∧
      (Sound S t ∧ t.recovered_packet_list.length ≤ kMaxMediaPackets) ∧
      ∀ f ∈ t.fec_packet_list_, f.Stuck := by
  refine attemptRecover_induct
    (I := fun s => Sound S s ∧ s.recovered_packet_list.length ≤ kMaxMediaPackets)
    ?_ ?_ ?_ ⟨h, hlength⟩ (by simp)
  · intro seen f rest recovered h hmissing
    have hf : f ∈ seen ++ f :: rest := List.mem_append_right _ List.mem_cons_self
    obtain ⟨seq_num, pkt, hpkt, -⟩ := recoverPacket_spec (h.1.waits f hf) hmissing
    exact ⟨_, hpkt⟩
  · intro seen f rest recovered r h hmissing hr
    exact ⟨(h.1.recovers hmissing hr).discardOldPackets, length_discardOldPackets _⟩
  · intro seen f rest recovered h _
    refine ⟨h.1.sublist (fun f' hf' => ?_) (List.Sublist.refl _), h.2⟩
    rcases List.mem_append.mp hf' with hf' | hf'
    · exact List.mem_append_left _ hf'
    · exact List.mem_append_right _ (List.mem_cons_of_mem _ hf')

/-- What holds of the decoder between the calls. -/
structure Settled (S : MediaStream) (s : ForwardErrorCorrection) : Prop where
  sound : Sound S s
  bounded : s.recovered_packet_list.length ≤ kMaxMediaPackets
  stuck : ∀ f ∈ s.fec_packet_list_, f.Stuck

theorem Sound.decodeFEC (h : Sound S s) {batch : List ReceivedPacket} (hne : batch ≠ [])
    (hbatch : ∀ rx ∈ batch, S.Gets rx) : ∃ t, s.DecodeFEC batch = some t ∧ Settled S t := by
  -- After the reset, if any.
  have hstart : ∃ u, Sound S u ∧
      s.DecodeFEC batch = (u.InsertPackets batch).bind AttemptRecover := by
    unfold ForwardErrorCorrection.DecodeFEC
    by_cases hfull : s.recovered_packet_list.length = kMaxMediaPackets
    · obtain ⟨front, rest, rfl⟩ := List.exists_cons_of_ne_nil hne
      have hnonempty : s.recovered_packet_list ≠ [] := by
        rintro hnil
        simp [hnil, kMaxMediaPackets] at hfull
      rw [if_pos hfull, List.getLast?_eq_some_getLast hnonempty]
      simp only [List.head?_cons]
      split
      · exact ⟨_, sound_empty, rfl⟩
      · exact ⟨_, h, rfl⟩
    · rw [if_neg hfull]
      exact ⟨_, h, rfl⟩
  obtain ⟨u, hu, hdecode⟩ := hstart
  obtain ⟨v, hv, hsound, hlength⟩ := hu.insertPackets hbatch
  obtain ⟨t, ht, ⟨hsound', hlength'⟩, hstuck⟩ := hsound.attemptRecover hlength
  refine ⟨t, ?_, hsound', hlength', hstuck⟩
  rw [hdecode, hv]
  exact ht

/-- One call of `DecodeFEC` as a step. -/
def step (s : ForwardErrorCorrection) (batch : List ReceivedPacket) :
    Option ForwardErrorCorrection :=
  s.DecodeFEC batch

/-- However the packets of a stream arrive, lost, doubled or out of order: no call accesses a
memory out of its bounds, every recovered packet has the bytes that were sent with its sequence
number, the recovered packets are in the order of the stream and without duplicates, and each of
the FEC packets that wait misses two packets at least. -/
theorem recovers_what_was_sent (S : MediaStream) (batches : List (List ReceivedPacket))
    (h : ∀ batch ∈ batches,
      batch ≠ [] ∧ ∀ rx ∈ batch, ∃ mask_table, S.FromSender mask_table rx) :
    ∃ s, exec step ⟨[], []⟩ batches = some s ∧
      (∀ r ∈ s.recovered_packet_list, S.Sends r.seq_num r.pkt) ∧
      (s.recovered_packet_list.map (·.seq_num)).Pairwise (fun a b => S.place a < S.place b) ∧
      ∀ f ∈ s.fec_packet_list_, f.Stuck := by
  have hempty : Settled S ⟨[], []⟩ := ⟨sound_empty, Nat.zero_le _, by simp⟩
  have hgets : ∀ batch ∈ batches, batch ≠ [] ∧ ∀ rx ∈ batch, S.Gets rx := by
    intro batch hbatch
    obtain ⟨hne, hall⟩ := h batch hbatch
    refine ⟨hne, fun rx hrx => ?_⟩
    obtain ⟨mask_table, hfrom⟩ := hall rx hrx
    exact hfrom.gets
  obtain ⟨s, hs, hsettled⟩ := exec_of_admissible
    (fun _ _ hsettled hbatch => hsettled.sound.decodeFEC hbatch.1 hbatch.2) hempty
    (admissible_of_forall hgets _)
  exact ⟨s, hs, hsettled.sound.recovered, hsettled.sound.in_order.ordered, hsettled.stuck⟩

/-- An RTP packet with a payload of one byte. -/
def samplePacket (seq_num payload : UInt8) : Packet :=
  ⟨13, fun j => [0x80, 96, 0, seq_num, 0, 0, 0, 0, 0, 0, 0, 1, payload].getD j 0⟩

/-- Two packets in a row. -/
def sampleStream : MediaStream where
  ssrc := 1
  start := 7
  packet seq_num :=
    if seq_num = 7 then some (samplePacket 7 42)
    else if seq_num = 8 then some (samplePacket 8 43)
    else none
  window := by
    intro seq_num p hp
    split_ifs at hp with h7 h8
    · rw [h7]
      decide
    · rw [h8]
      decide
  rtp := by
    intro seq_num p hp
    split_ifs at hp with h7 h8
    · obtain rfl := Option.some.inj hp
      rw [h7]
      exact ⟨by decide, by decide, by decide, by decide, by decide⟩
    · obtain rfl := Option.some.inj hp
      rw [h8]
      exact ⟨by decide, by decide, by decide, by decide, by decide⟩

/-- The mask of one FEC packet for two media packets. -/
def sampleTable : MaskTable where
  rows num_media_packets num_fec_packets :=
    if num_media_packets = 2 ∧ num_fec_packets = 1 then [[0xc0, 0]] else []
  some_protected := by
    intro num_media_packets num_fec_packets row hrow
    split_ifs at hrow with h
    · obtain rfl := List.mem_singleton.mp hrow
      exact ⟨0, by omega, by decide⟩
    · simp at hrow
  none_beyond := by
    intro num_media_packets num_fec_packets row hrow i hi
    split_ifs at hrow with h
    · obtain rfl := List.mem_singleton.mp hrow
      rw [h.1] at hi
      by_cases hbyte : i < 8
      · have hbits : ∀ k < 8, 2 ≤ k → maskAt (maskRow [0xc0, 0]) k = false := by decide
        exact hbits i hbyte hi
      · have hzero : maskRow [0xc0, 0] (i / 8) = 0 := by
          obtain ⟨k, hk⟩ := Nat.exists_eq_add_of_le' (by omega : 1 ≤ i / 8)
          rw [hk]
          cases k <;> rfl
        simp [maskAt, maskBit, hzero]
    · simp at hrow

/-- The FEC packet for both. -/
def sampleFec : Packet :=
  (generateFecPacket (samplePacket 7 42) [samplePacket 7 42, samplePacket 8 43] false
    (maskRow [0xc0, 0])).getD ⟨0, fun _ => 0⟩

theorem generateFEC_sample :
    GenerateFEC sampleTable [samplePacket 7 42, samplePacket 8 43] 128 0 false =
      some (0, [sampleFec]) := rfl

/-- The first media packet is lost, the second one and the FEC packet arrive. -/
def sampleMedia : ReceivedPacket := ⟨8, 1, false, samplePacket 8 43⟩

def sampleCheck : ReceivedPacket := ⟨9, 1, true, sampleFec⟩

theorem sampleMedia_sends : sampleStream.Sends sampleMedia.seq_num sampleMedia.pkt :=
  ⟨samplePacket 8 43, rfl, rfl, fun _ _ => rfl⟩

theorem sampleCheck_fromSender : sampleStream.FromSender sampleTable sampleCheck := by
  have hcontiguous : sampleStream.Contiguous 7 [samplePacket 7 42, samplePacket 8 43] :=
    ⟨rfl, rfl, trivial⟩
  have hsame : SameBytes sampleFec sampleCheck.pkt := ⟨rfl, fun _ _ => rfl⟩
  exact .fec rfl rfl hcontiguous (Nat.zero_le _) generateFEC_sample List.mem_cons_self hsame

theorem recovers_what_was_sent_loss :
    ∃ s, exec step ⟨[], []⟩ [[sampleMedia], [sampleCheck]] = some s ∧
      (∀ r ∈ s.recovered_packet_list, sampleStream.Sends r.seq_num r.pkt) ∧
      (s.recovered_packet_list.map (·.seq_num)).Pairwise
        (fun a b => sampleStream.place a < sampleStream.place b) ∧
      ∀ f ∈ s.fec_packet_list_, f.Stuck := by
  refine recovers_what_was_sent sampleStream [[sampleMedia], [sampleCheck]] ?_
  simp only [List.forall_mem_cons, List.not_mem_nil, false_implies, implies_true, and_true]
  exact ⟨⟨by simp, sampleTable, .media rfl sampleMedia_sends⟩, by simp, sampleTable,
    sampleCheck_fromSender⟩

end ForwardErrorCorrection

end Collaboration
