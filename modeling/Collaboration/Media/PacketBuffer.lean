import Collaboration.Library.BackInsert
import Collaboration.Library.SerialNumber
import Collaboration.Library.Transition

/-! # The packet buffer of the jitter buffer

`packet_buffer.cc`: a list of packets in the order in which they are to be decoded. Timestamps
and sequence numbers wrap around. -/

namespace Collaboration

open SerialNumber Transition

/-- `struct Packet`: what the buffer reads of the header, the payload and the flags. -/
structure Packet where
  timestamp : BitVec 32
  sequenceNumber : BitVec 16
  payloadType : UInt8
  payload : Option (List UInt8)
  primary : Bool
  sync_packet : Bool
  deriving DecidableEq

namespace Packet

def lt (lhs rhs : Packet) : Bool :=
  if lhs.timestamp = rhs.timestamp then
    if lhs.sequenceNumber = rhs.sequenceNumber then
      -- A sync packet is larger than a packet from the network.
      if rhs.sync_packet then true
      else if lhs.sync_packet then false
      else lhs.primary && !rhs.primary
    else decide (Ahead (0xFFFF / 2) lhs.sequenceNumber rhs.sequenceNumber)
  else decide (Ahead (0xFFFFFFFF / 2) lhs.timestamp rhs.timestamp)

def ge (lhs rhs : Packet) : Bool := !lhs.lt rhs

end Packet

/-- The list of pointers to packets, and the packets that have been deleted. -/
structure PacketBuffer (κ : Type*) where
  max_number_of_packets_ : ℕ
  buffer_ : List κ
  deleted : List κ
  deriving DecidableEq

namespace PacketBuffer

variable {κ : Type*}

inductive Code
  | kOK
  | kFlushed
  | kNotFound
  | kBufferEmpty
  | kInvalidPacket
  | kInvalidPointer
  deriving DecidableEq

/-- What the list of packets asks the decoder database. -/
structure DecoderDatabase where
  IsComfortNoise : UInt8 → Bool
  IsDtmf : UInt8 → Bool

def new (max_number_of_packets : ℕ) : PacketBuffer κ := ⟨max_number_of_packets, [], []⟩

def Flush (b : PacketBuffer κ) : PacketBuffer κ :=
  { b with buffer_ := [], deleted := b.deleted ++ b.buffer_ }

variable (packet : κ → Packet)

/-- Puts a packet behind the last one that goes before it. -/
def place (b : PacketBuffer κ) (p : κ) : PacketBuffer κ :=
  { b with
    buffer_ := BackInsert.insert (fun new old => !(packet new).ge (packet old)) p b.buffer_ }

def InsertPacket (b : PacketBuffer κ) : Option κ → PacketBuffer κ × Code
  | none => (b, .kInvalidPacket)
  | some p =>
    if (packet p).payload = none then ({ b with deleted := b.deleted ++ [p] }, .kInvalidPacket)
    else
      -- Buffer is full. Flush it.
      let (b, return_val) :=
        if b.max_number_of_packets_ ≤ b.buffer_.length then (b.Flush, Code.kFlushed)
        else (b, Code.kOK)
      (b.place packet p, return_val)

/-- The buffer after the payload type of a packet has been looked at, the current types, and
whether the buffer was flushed. -/
def checkPayloadType (db : DecoderDatabase) (b : PacketBuffer κ) (payloadType : UInt8)
    (current_rtp current_cng : UInt8) : PacketBuffer κ × UInt8 × UInt8 × Bool :=
  if db.IsComfortNoise payloadType then
    if current_cng ≠ 0xFF ∧ current_cng ≠ payloadType then
      -- New CNG payload type implies new codec type.
      (b.Flush, 0xFF, payloadType, true)
    else (b, current_rtp, payloadType, false)
  else if ¬db.IsDtmf payloadType then
    -- This must be speech.
    if current_rtp ≠ 0xFF ∧ current_rtp ≠ payloadType then (b.Flush, payloadType, 0xFF, true)
    else (b, payloadType, current_cng, false)
  else (b, current_rtp, current_cng, false)

def InsertPacketList (db : DecoderDatabase) :
    PacketBuffer κ → List κ → UInt8 → UInt8 → Bool → PacketBuffer κ × Code × UInt8 × UInt8
  | b, [], current_rtp, current_cng, flushed =>
    (b, if flushed then .kFlushed else .kOK, current_rtp, current_cng)
  | b, p :: packet_list, current_rtp, current_cng, flushed =>
    let (b, current_rtp, current_cng, now) :=
      b.checkPayloadType db (packet p).payloadType current_rtp current_cng
    match b.InsertPacket packet (some p) with
    | (b, .kFlushed) => InsertPacketList db b packet_list current_rtp current_cng true
    | (b, .kOK) => InsertPacketList db b packet_list current_rtp current_cng (flushed || now)
    -- An error occurred. Delete remaining packets in list and return.
    | (b, code) => ({ b with deleted := b.deleted ++ packet_list }, code, current_rtp, current_cng)

/-- `DiscardNextPacket`, as long as the first packet meets the condition. -/
def discardWhile (cond : κ → Bool) (b : PacketBuffer κ) : PacketBuffer κ :=
  { b with
    buffer_ := b.buffer_.dropWhile cond
    deleted := b.deleted ++ b.buffer_.takeWhile cond }

def DiscardNextPacket (b : PacketBuffer κ) : PacketBuffer κ × Code :=
  match b.buffer_ with
  | [] => (b, .kBufferEmpty)
  | p :: rest => ({ b with buffer_ := rest, deleted := b.deleted ++ [p] }, .kOK)

/-- The next packet; others with its timestamp are discarded. -/
def GetNextPacket (b : PacketBuffer κ) : PacketBuffer κ × Option κ :=
  match b.buffer_ with
  | [] => (b, none)
  | p :: rest =>
    (discardWhile (fun q => (packet q).timestamp = (packet p).timestamp) { b with buffer_ := rest },
      some p)

def DiscardOldPackets (b : PacketBuffer κ) (timestamp_limit : BitVec 32) : PacketBuffer κ :=
  b.discardWhile fun q => timestamp_limit ≠ (packet q).timestamp ∧
    Ahead (0xFFFFFFFF / 2) (packet q).timestamp timestamp_limit

/-! ## Runs -/

inductive Call (κ : Type*)
  | Flush
  | InsertPacket (p : Option κ)
  | InsertPacketList (db : DecoderDatabase) (packet_list : List κ) (current_rtp current_cng : UInt8)
  | GetNextPacket
  | DiscardNextPacket
  | DiscardOldPackets (timestamp_limit : BitVec 32)

/-- The packets that a call hands over to the buffer. -/
def Call.incoming : Call κ → List κ
  | .InsertPacket p => p.toList
  | .InsertPacketList _ packet_list _ _ => packet_list
  | _ => []

/-- What a call makes of the buffer, and the packet that it gives out. -/
def perform (b : PacketBuffer κ) : Call κ → PacketBuffer κ × Option κ
  | .Flush => (b.Flush, none)
  | .InsertPacket p => ((b.InsertPacket packet p).1, none)
  | .InsertPacketList db packet_list current_rtp current_cng =>
    ((InsertPacketList packet db b packet_list current_rtp current_cng false).1, none)
  | .GetNextPacket => b.GetNextPacket packet
  | .DiscardNextPacket => (b.DiscardNextPacket.1, none)
  | .DiscardOldPackets timestamp_limit => (b.DiscardOldPackets packet timestamp_limit, none)

/-- The buffer, with the packets that it has given out. -/
def step (s : PacketBuffer κ × List κ) (call : Call κ) : Option (PacketBuffer κ × List κ) :=
  some ((s.1.perform packet call).1, s.2 ++ (s.1.perform packet call).2.toList)

variable {packet}

@[elab_as_elim] theorem insertPacket_cases (packet : κ → Packet) (b : PacketBuffer κ) (p : κ)
    {motive : PacketBuffer κ × Code → Prop}
    (invalid : (packet p).payload = none →
      motive ({ b with deleted := b.deleted ++ [p] }, .kInvalidPacket))
    (full : (packet p).payload ≠ none → b.max_number_of_packets_ ≤ b.buffer_.length →
      motive (b.Flush.place packet p, .kFlushed))
    (room : (packet p).payload ≠ none → b.buffer_.length < b.max_number_of_packets_ →
      motive (b.place packet p, .kOK)) : motive (b.InsertPacket packet (some p)) := by
  simp only [InsertPacket]
  by_cases hpayload : (packet p).payload = none
  · simpa only [if_pos hpayload] using invalid hpayload
  · by_cases hfull : b.max_number_of_packets_ ≤ b.buffer_.length
    · simpa only [if_neg hpayload, if_pos hfull] using full hpayload hfull
    · simpa only [if_neg hpayload, if_neg hfull] using room hpayload (Nat.lt_of_not_le hfull)

/-- The buffer is flushed or left alone. -/
theorem checkPayloadType_cases (db : DecoderDatabase) (b : PacketBuffer κ) (payloadType : UInt8)
    (current_rtp current_cng : UInt8) :
    (b.checkPayloadType db payloadType current_rtp current_cng).1 = b.Flush ∨
      (b.checkPayloadType db payloadType current_rtp current_cng).1 = b := by
  unfold checkPayloadType
  split_ifs <;> simp

@[simp] theorem mem_place {b : PacketBuffer κ} {p q : κ} :
    q ∈ (b.place packet p).buffer_ ↔ q = p ∨ q ∈ b.buffer_ := by
  simp only [place, BackInsert.mem_insert]

@[simp] theorem length_place (b : PacketBuffer κ) (p : κ) :
    (b.place packet p).buffer_.length = b.buffer_.length + 1 := by
  simp only [place, BackInsert.length_insert]

/-! ## Every packet is in one place -/

/-- What is in the buffer and what has been deleted. -/
def kept (b : PacketBuffer κ) : List κ := b.buffer_ ++ b.deleted

theorem kept_flush (b : PacketBuffer κ) : b.Flush.kept.Perm b.kept := by
  simpa [kept, Flush] using List.perm_append_comm

theorem kept_place (packet : κ → Packet) (b : PacketBuffer κ) (p : κ) :
    (b.place packet p).kept.Perm (p :: b.kept) := by
  have hinsert := BackInsert.insert_perm (fun new old => !(packet new).ge (packet old)) p b.buffer_
  simpa [kept, place] using hinsert.append_right b.deleted

theorem kept_discardWhile (cond : κ → Bool) (b : PacketBuffer κ) :
    (b.discardWhile cond).kept.Perm b.kept := by
  classical
  have hsplit := List.takeWhile_append_dropWhile (p := cond) (l := b.buffer_)
  rw [List.perm_iff_count]
  intro q
  have hcount := congrArg (List.count q) hsplit
  simp only [List.count_append] at hcount
  simp only [kept, discardWhile, List.count_append]
  omega

theorem kept_insertPacket (packet : κ → Packet) (b : PacketBuffer κ) (p : κ) :
    (b.InsertPacket packet (some p)).1.kept.Perm (p :: b.kept) := by
  refine insertPacket_cases packet b p ?_ ?_ ?_
  · intro _
    have hlast := List.perm_append_singleton p b.kept
    simpa [kept] using hlast
  · exact fun _ _ => (kept_place packet b.Flush p).trans ((kept_flush b).cons p)
  · exact fun _ _ => kept_place packet b p

theorem kept_insertPacketList (db : DecoderDatabase) (packet_list : List κ) (b : PacketBuffer κ)
    (current_rtp current_cng : UInt8) (flushed : Bool) :
    (InsertPacketList packet db b packet_list current_rtp current_cng flushed).1.kept.Perm
      (packet_list ++ b.kept) := by
  induction packet_list generalizing b current_rtp current_cng flushed with
  | nil => exact .refl _
  | cons p packet_list ih =>
      obtain ⟨⟨b', rtp, cng, now⟩, hcheck⟩ : ∃ r, r =
        b.checkPayloadType db (packet p).payloadType current_rtp current_cng := ⟨_, rfl⟩
      have hkept : b'.kept.Perm b.kept := by
        have hcases := checkPayloadType_cases db b (packet p).payloadType current_rtp current_cng
        rw [← hcheck] at hcases
        rcases hcases with h | h
        · obtain rfl : b' = b.Flush := h
          exact kept_flush b
        · obtain rfl : b' = b := h
          exact .refl _
      have hinsert := kept_insertPacket packet b' p
      have hgo {b'' : PacketBuffer κ} (h : b''.kept.Perm (p :: b'.kept)) :
          (packet_list ++ b''.kept).Perm (p :: packet_list ++ b.kept) :=
        (h.append_left packet_list).trans (List.perm_middle.trans ((hkept.append_left _).cons p))
      unfold InsertPacketList
      simp only [← hcheck]
      revert hinsert
      refine insertPacket_cases packet b' p ?_ ?_ ?_
      · intro _ hinsert
        have hlast : (kept { b' with deleted := b'.deleted ++ [p] ++ packet_list }).Perm
            (packet_list ++ kept { b' with deleted := b'.deleted ++ [p] }) := by
          have hcomm := @List.perm_append_comm κ (b'.buffer_ ++ (b'.deleted ++ [p])) packet_list
          simpa [kept] using hcomm
        exact hlast.trans (hgo hinsert)
      · intro _ _ hinsert
        exact (ih _ _ _ _).trans (hgo hinsert)
      · intro _ _ hinsert
        exact (ih _ _ _ _).trans (hgo hinsert)

/-- A call neither loses nor doubles a packet. -/
theorem kept_perform (packet : κ → Packet) (b : PacketBuffer κ) (call : Call κ) :
    ((b.perform packet call).1.kept ++ (b.perform packet call).2.toList).Perm
      (call.incoming ++ b.kept) := by
  cases call with
  | Flush => simpa [perform, Call.incoming] using kept_flush b
  | InsertPacket p =>
      cases p with
      | none => simp [perform, Call.incoming, InsertPacket]
      | some p => simpa [perform, Call.incoming] using kept_insertPacket packet b p
  | InsertPacketList db packet_list current_rtp current_cng =>
      simpa [perform, Call.incoming] using kept_insertPacketList db packet_list b current_rtp
        current_cng false
  | GetNextPacket =>
      obtain ⟨max, buffer, deleted⟩ := b
      cases buffer with
      | nil => simp [perform, Call.incoming, GetNextPacket]
      | cons p rest =>
          have hdiscard := kept_discardWhile
            (fun q => decide ((packet q).timestamp = (packet p).timestamp)) ⟨max, rest, deleted⟩
          have hfirst := (hdiscard.append_right [p]).trans (List.perm_append_singleton p _)
          simpa [perform, Call.incoming, GetNextPacket, kept] using hfirst
  | DiscardNextPacket =>
      obtain ⟨max, buffer, deleted⟩ := b
      cases buffer with
      | nil => simp [perform, Call.incoming, DiscardNextPacket]
      | cons p rest =>
          have hfirst := List.perm_append_singleton p (rest ++ deleted)
          simpa [perform, Call.incoming, DiscardNextPacket, kept] using hfirst
  | DiscardOldPackets timestamp_limit =>
      simpa [perform, Call.incoming, DiscardOldPackets] using kept_discardWhile _ b

/-- A property that flushing, inserting and deleting keep is kept by the insertion of a list. -/
theorem insertPacketList_induct {packet : κ → Packet} {I : PacketBuffer κ → Prop}
    (db : DecoderDatabase) {packet_list : List κ} (hflush : ∀ b, I b → I b.Flush)
    (hdelete : ∀ b ps, I b → I { b with deleted := b.deleted ++ ps })
    (hplace : ∀ b, ∀ p ∈ packet_list, (packet p).payload ≠ none → I b →
      b.buffer_.length < b.max_number_of_packets_ ∨ b.buffer_ = [] → I (b.place packet p))
    {b : PacketBuffer κ} (h : I b) (current_rtp current_cng : UInt8) (flushed : Bool) :
    I (InsertPacketList packet db b packet_list current_rtp current_cng flushed).1 := by
  induction packet_list generalizing b current_rtp current_cng flushed with
  | nil => exact h
  | cons p packet_list ih =>
      have hrest : ∀ b, ∀ q ∈ packet_list, (packet q).payload ≠ none → I b →
          b.buffer_.length < b.max_number_of_packets_ ∨ b.buffer_ = [] → I (b.place packet q) :=
        fun b q hq => hplace b q (List.mem_cons_of_mem p hq)
      obtain ⟨⟨b', rtp, cng, now⟩, hcheck⟩ : ∃ r, r =
        b.checkPayloadType db (packet p).payloadType current_rtp current_cng := ⟨_, rfl⟩
      have h' : I b' := by
        have hcases := checkPayloadType_cases db b (packet p).payloadType current_rtp current_cng
        rw [← hcheck] at hcases
        rcases hcases with hb | hb
        · obtain rfl : b' = b.Flush := hb
          exact hflush b h
        · obtain rfl : b' = b := hb
          exact h
      unfold InsertPacketList
      simp only [← hcheck]
      refine insertPacket_cases packet b' p ?_ ?_ ?_
      · exact fun _ => hdelete _ _ (hdelete _ _ h')
      · exact fun hp _ => ih hrest (hplace _ p List.mem_cons_self hp (hflush _ h') (.inr rfl)) _ _ _
      · exact fun hp hroom => ih hrest (hplace _ p List.mem_cons_self hp h' (.inl hroom)) _ _ _

/-- The same for every call. -/
theorem perform_induct {packet : κ → Packet} {I : PacketBuffer κ → Prop} {call : Call κ}
    (hshed : ∀ b b' : PacketBuffer κ, b'.max_number_of_packets_ = b.max_number_of_packets_ →
      b'.buffer_.Sublist b.buffer_ → I b → I b')
    (hplace : ∀ b, ∀ p ∈ call.incoming, (packet p).payload ≠ none → I b →
      b.buffer_.length < b.max_number_of_packets_ ∨ b.buffer_ = [] → I (b.place packet p))
    {b : PacketBuffer κ} (h : I b) : I (b.perform packet call).1 := by
  have hflush : ∀ b, I b → I b.Flush := fun b => hshed b _ rfl (List.nil_sublist _)
  cases call with
  | Flush => exact hflush b h
  | InsertPacket p =>
      cases p with
      | none => exact h
      | some p =>
          change I (b.InsertPacket packet (some p)).1
          refine insertPacket_cases packet b p ?_ ?_ ?_
          · exact fun _ => hshed b _ rfl (.refl _) h
          · exact fun hp _ => hplace _ p (by simp [Call.incoming]) hp (hflush b h) (.inr rfl)
          · exact fun hp hroom => hplace b p (by simp [Call.incoming]) hp h (.inl hroom)
  | InsertPacketList db packet_list current_rtp current_cng =>
      exact insertPacketList_induct db hflush (fun b _ => hshed b _ rfl (.refl _)) hplace h _ _ _
  | GetNextPacket =>
      obtain ⟨max, buffer, deleted⟩ := b
      cases buffer with
      | nil => exact h
      | cons p rest =>
          exact hshed ⟨max, p :: rest, deleted⟩ _ rfl
            ((List.dropWhile_sublist _).trans (List.sublist_cons_self p rest)) h
  | DiscardNextPacket =>
      obtain ⟨max, buffer, deleted⟩ := b
      cases buffer with
      | nil => exact h
      | cons p rest =>
          exact hshed ⟨max, p :: rest, deleted⟩ _ rfl (List.sublist_cons_self p rest) h
  | DiscardOldPackets timestamp_limit => exact hshed b _ rfl (List.dropWhile_sublist _) h

/-- There is room, and the buffer holds no packet without a payload. -/
structure Sound (packet : κ → Packet) (N : ℕ) (b : PacketBuffer κ) : Prop where
  max_eq : b.max_number_of_packets_ = N
  length_le : b.buffer_.length ≤ max N 1
  payload : ∀ p ∈ b.buffer_, (packet p).payload ≠ none

theorem sound_perform {packet : κ → Packet} {N : ℕ} {b : PacketBuffer κ} (h : Sound packet N b)
    (call : Call κ) : Sound packet N (b.perform packet call).1 := by
  refine perform_induct ?_ ?_ h
  · intro b b' hmax hsub h
    exact ⟨hmax.trans h.max_eq, hsub.length_le.trans h.length_le,
      fun p hp => h.payload p (hsub.subset hp)⟩
  · intro b p _ hp h hroom
    refine ⟨h.max_eq, ?_, ?_⟩
    · have hmax := h.max_eq
      rw [length_place]
      rcases hroom with hlt | hnil
      · omega
      · simp [hnil]
    · intro q hq
      rcases mem_place.mp hq with rfl | hq
      · exact hp
      · exact h.payload q hq

/-- The packets that a run hands over to the buffer. -/
def incoming (calls : List (Call κ)) : List κ := calls.flatMap Call.incoming

/-- At the end of a run every packet that was handed over is in one place: in the buffer, deleted,
or given out. The buffer never holds more than it may, and only packets that have a payload. -/
theorem packets_accounted (packet : κ → Packet) (N : ℕ) (calls : List (Call κ))
    (b : PacketBuffer κ) (out : List κ)
    (h : exec (step packet) (new N, []) calls = some (b, out)) :
    (incoming calls).Perm (b.buffer_ ++ b.deleted ++ out) ∧ b.buffer_.length ≤ max N 1 ∧
      ∀ p ∈ b.buffer_, (packet p).payload ≠ none := by
  have hinv := history_nil
    (I := fun past (s : PacketBuffer κ × List κ) =>
      (incoming past).Perm (s.1.kept ++ s.2) ∧ Sound packet N s.1)
    ?_ ⟨by simp [incoming, kept, new], ⟨rfl, by simp [new], by simp [new]⟩⟩ h
  · exact ⟨hinv.1, hinv.2.length_le, hinv.2.payload⟩
  · intro past s call t hs hstep
    obtain ⟨hperm, hsound⟩ := hs
    obtain rfl := Option.some.inj hstep
    refine ⟨?_, sound_perform hsound call⟩
    have hkept := kept_perform packet s.1 call
    classical
    rw [List.perm_iff_count] at hperm hkept ⊢
    intro q
    have hperm := hperm q
    have hkept := hkept q
    simp only [incoming, List.flatMap_append, List.flatMap_cons, List.flatMap_nil,
      List.count_append, List.append_nil] at hperm hkept ⊢
    omega

/-- The packets of a sender whose timestamps and sequence numbers are about to wrap around. -/
def samplePacket (n : Fin 3) : Packet :=
  ⟨BitVec.ofInt 32 (4294967136 + 160 * n), BitVec.ofInt 16 (65535 + n), 0, some [], true, false⟩

/-- The second packet comes first, and the last one is doubled. -/
def reordered : List (Call (Fin 3)) :=
  [.InsertPacket (some 1), .InsertPacket (some 0), .GetNextPacket, .InsertPacket (some 2),
    .InsertPacket (some 2), .GetNextPacket, .GetNextPacket]

theorem packets_accounted_reordered :
    (incoming reordered).Perm ([] ++ [2] ++ [0, 1, 2]) ∧ ([] : List (Fin 3)).length ≤ max 10 1 ∧
      ∀ p ∈ ([] : List (Fin 3)), (samplePacket p).payload ≠ none :=
  packets_accounted samplePacket 10 reordered ⟨10, [], [2]⟩ [0, 1, 2] (by decide)

/-! ## The packets in the order of the sender -/

/-- The times and the numbers of the packets as the sender counts them, which do not wrap. -/
structure Unwrapped (packet : κ → Packet) where
  time : κ → ℤ
  number : κ → ℤ
  timestamp_eq : ∀ p, (packet p).timestamp = BitVec.ofInt 32 (time p)
  sequenceNumber_eq : ∀ p, (packet p).sequenceNumber = BitVec.ofInt 16 (number p)

/-- Among packets with one time and number: first the primary one, then redundant ones, then those
that stand for a missing packet. -/
def rank (p : Packet) : ℕ := if p.sync_packet then 2 else if p.primary then 0 else 1

namespace Unwrapped

variable (u : Unwrapped packet)

/-- Not later. -/
def le (p q : κ) : Prop :=
  u.time p < u.time q ∨ u.time p = u.time q ∧
    (u.number p < u.number q ∨ u.number p = u.number q ∧ rank (packet p) ≤ rank (packet q))

/-- Close enough for what wraps to tell the order. -/
def near (p q : κ) : Prop :=
  Near (0xFFFFFFFF / 2) (u.time p) (u.time q) ∧
    (u.time p = u.time q → Near (0xFFFF / 2) (u.number p) (u.number q))

variable {u} {p q : κ}

theorem le_trans {r : κ} (hpq : u.le p q) (hqr : u.le q r) : u.le p r := by
  unfold le at hpq hqr ⊢
  omega

theorem time_le (h : u.le p q) : u.time p ≤ u.time q := by
  unfold le at h
  omega

theorem timestamp_iff (h : Near (0xFFFFFFFF / 2) (u.time p) (u.time q)) :
    (packet p).timestamp = (packet q).timestamp ↔ u.time p = u.time q := by
  rw [u.timestamp_eq, u.timestamp_eq]
  exact ofInt_inj (by decide) h

/-- The comparison of the code says which of two near packets is not later. -/
theorem lt_spec (h : u.near p q) :
    ((packet p).lt (packet q) = true → u.le p q) ∧
      ((packet p).lt (packet q) = false → u.le q p) := by
  obtain ⟨htime, hnumber⟩ := h
  unfold Packet.lt le
  by_cases ht : u.time p = u.time q
  · have hnear := hnumber ht
    have hseq : (packet p).sequenceNumber = (packet q).sequenceNumber ↔
        u.number p = u.number q := by
      rw [u.sequenceNumber_eq, u.sequenceNumber_eq]
      exact ofInt_inj (by decide) hnear
    rw [if_pos ((timestamp_iff htime).mpr ht)]
    by_cases hn : u.number p = u.number q
    · rw [if_pos (hseq.mpr hn)]
      simp only [ht, hn, lt_irrefl, true_and, false_or, rank]
      cases (packet p).sync_packet <;> cases (packet q).sync_packet <;>
        cases (packet p).primary <;> cases (packet q).primary <;> simp
    · rw [if_neg (mt hseq.mp hn), u.sequenceNumber_eq, u.sequenceNumber_eq]
      have hahead := ahead_iff (w := 16) (by decide) hnear
      simp only [decide_eq_true_eq, decide_eq_false_iff_not, hahead]
      omega
  · rw [if_neg (mt (timestamp_iff htime).mp ht), u.timestamp_eq, u.timestamp_eq]
    have hahead := ahead_iff (w := 32) (by decide) htime
    simp only [decide_eq_true_eq, decide_eq_false_iff_not, hahead]
    omega

end Unwrapped

variable {u : Unwrapped packet}

theorem pairwise_place {b : PacketBuffer κ} {p : κ} (hb : b.buffer_.Pairwise u.le)
    (hnear : ∀ q ∈ b.buffer_, u.near p q) : (b.place packet p).buffer_.Pairwise u.le := by
  simp only [place]
  apply BackInsert.pairwise_insert Unwrapped.le_trans hb
  · intro q hq hbefore
    exact (Unwrapped.lt_spec (hnear q hq)).1 (by simpa [Packet.ge] using hbefore)
  · intro q hq hbefore
    exact (Unwrapped.lt_spec (hnear q hq)).2 (by simpa [Packet.ge] using hbefore)

/-- The packets in the buffer and those that come in are near each other. -/
def NearIncoming (u : Unwrapped packet) (s : PacketBuffer κ × List κ) (call : Call κ) : Prop :=
  ∀ p ∈ s.1.buffer_ ++ call.incoming, ∀ q ∈ s.1.buffer_ ++ call.incoming, u.near p q

theorem pairwise_perform {s : PacketBuffer κ × List κ} {call : Call κ}
    (hs : s.1.buffer_.Pairwise u.le) (hnear : NearIncoming u s call) :
    (s.1.perform packet call).1.buffer_.Pairwise u.le := by
  have hinv := @perform_induct κ packet
    (fun b => b.buffer_.Pairwise u.le ∧ ∀ p ∈ b.buffer_, p ∈ s.1.buffer_ ++ call.incoming)
    call ?_ ?_ s.1 ⟨hs, fun p hp => List.mem_append_left _ hp⟩
  · exact hinv.1
  · intro b b' _ hsub hb
    exact ⟨hb.1.sublist hsub, fun p hp => hb.2 p (hsub.subset hp)⟩
  · intro b p hp _ hb _
    have hmem := List.mem_append_right s.1.buffer_ hp
    refine ⟨pairwise_place hb.1 fun q hq => hnear p hmem q (hb.2 q hq), fun q hq => ?_⟩
    rcases mem_place.mp hq with rfl | hq
    · exact hmem
    · exact hb.2 q hq

/-- A call works on the packets in the order of the sender: the next packet is the first one, and
only later ones stay; old packets are those from before the limit. -/
def InSenderOrder (u : Unwrapped packet) (s : PacketBuffer κ × List κ) (call : Call κ)
    (t : PacketBuffer κ × List κ) : Prop :=
  t.1.buffer_.Pairwise u.le ∧
    match call with
    | .GetNextPacket => ∀ p, (s.1.GetNextPacket packet).2 = some p →
        (∀ q ∈ s.1.buffer_, u.le p q) ∧
          t.1.buffer_ = s.1.buffer_.filter fun q => u.time p < u.time q
    | .DiscardOldPackets timestamp_limit => ∀ limit, timestamp_limit = BitVec.ofInt 32 limit →
        (∀ q ∈ s.1.buffer_, Near (0xFFFFFFFF / 2) (u.time q) limit) →
          t.1.buffer_ = s.1.buffer_.filter fun q => limit ≤ u.time q
    | _ => True

theorem getNextPacket_spec {b : PacketBuffer κ} {p : κ} (hb : b.buffer_.Pairwise u.le)
    (hnear : ∀ p ∈ b.buffer_, ∀ q ∈ b.buffer_, u.near p q)
    (h : (b.GetNextPacket packet).2 = some p) :
    p ∈ b.buffer_ ∧ (∀ q ∈ b.buffer_, u.le p q) ∧
      (b.GetNextPacket packet).1.buffer_ = b.buffer_.filter fun q => u.time p < u.time q := by
  obtain ⟨max, buffer, deleted⟩ := b
  cases buffer with
  | nil => simp [GetNextPacket] at h
  | cons first rest =>
      obtain rfl : first = p := by simpa [GetNextPacket] using h
      obtain ⟨hfirst, hrest⟩ := List.pairwise_cons.mp hb
      refine ⟨List.mem_cons_self, fun q hq => ?_, ?_⟩
      · rcases List.mem_cons.mp hq with rfl | hq
        · exact .inr ⟨rfl, .inr ⟨rfl, Nat.le_refl _⟩⟩
        · exact hfirst q hq
      · -- The packets with the time of the first one come before all others.
        have hsame (q : κ) (hq : q ∈ rest) :
            decide ((packet q).timestamp = (packet first).timestamp) =
              decide (u.time q = u.time first) := by
          have hq := hnear q (List.mem_cons_of_mem _ hq) first List.mem_cons_self
          simp only [Unwrapped.timestamp_iff hq.1]
        have hdrop :
            rest.dropWhile (fun q => decide ((packet q).timestamp = (packet first).timestamp)) =
            rest.filter fun q => !decide ((packet q).timestamp = (packet first).timestamp) := by
          apply BackInsert.dropWhile_eq_filter
          refine hrest.imp_of_mem ?_
          intro a b ha hb hab hlast
          rw [hsame b hb, decide_eq_true_eq] at hlast
          rw [hsame a ha, decide_eq_true_eq]
          have := Unwrapped.time_le hab
          have := Unwrapped.time_le (hfirst a ha)
          omega
        simp only [GetNextPacket, discardWhile, hdrop, lt_irrefl, decide_false,
          List.filter_cons_of_neg, Bool.false_eq_true, not_false_eq_true]
        apply List.filter_congr
        intro q hq
        have := Unwrapped.time_le (hfirst q hq)
        rw [hsame q hq]
        grind

theorem discardOldPackets_spec {b : PacketBuffer κ} {limit : ℤ} (hb : b.buffer_.Pairwise u.le)
    (hnear : ∀ q ∈ b.buffer_, Near (0xFFFFFFFF / 2) (u.time q) limit) :
    (b.DiscardOldPackets packet (BitVec.ofInt 32 limit)).buffer_ =
      b.buffer_.filter fun q => limit ≤ u.time q := by
  have hold (q : κ) (hq : q ∈ b.buffer_) :
      (BitVec.ofInt 32 limit ≠ (packet q).timestamp ∧
        Ahead (0xFFFFFFFF / 2) (packet q).timestamp (BitVec.ofInt 32 limit)) ↔
      u.time q < limit := by
    rw [u.timestamp_eq, ahead_iff (by decide) (hnear q hq), Ne,
      ofInt_inj (by decide) (hnear q hq).symm]
    omega
  simp only [DiscardOldPackets, discardWhile]
  rw [BackInsert.dropWhile_eq_filter]
  · apply List.filter_congr
    intro q hq
    simp only [hold q hq]
    grind
  · refine hb.imp_of_mem ?_
    intro p q hp hq hpq hlast
    rw [decide_eq_true_eq, hold q hq] at hlast
    rw [decide_eq_true_eq, hold p hp]
    have := Unwrapped.time_le hpq
    omega

/-- The times and numbers of the sample packets. -/
def samplePackets : Unwrapped samplePacket where
  time n := 4294967136 + 160 * n
  number n := 65535 + n
  timestamp_eq _ := rfl
  sequenceNumber_eq _ := rfl

theorem near_samplePackets (p q : Fin 3) : samplePackets.near p q := by
  unfold Unwrapped.near Near samplePackets
  simp only [abs_lt]
  omega

/-- No packet comes in from a time that has been given out. -/
def NoneLate (u : Unwrapped packet) (s : PacketBuffer κ × List κ) (call : Call κ) : Prop :=
  ∀ p ∈ call.incoming, ∀ q ∈ s.2, u.time q < u.time p

instance (u : Unwrapped packet) (s : PacketBuffer κ × List κ) (call : Call κ) :
    Decidable (NoneLate u s call) :=
  inferInstanceAs (Decidable (∀ p ∈ call.incoming, ∀ q ∈ s.2, u.time q < u.time p))

theorem mem_of_mem_perform {b : PacketBuffer κ} {call : Call κ} {p : κ}
    (hp : p ∈ (b.perform packet call).1.buffer_) : p ∈ b.buffer_ ++ call.incoming := by
  refine @perform_induct κ packet (fun b' => ∀ p ∈ b'.buffer_, p ∈ b.buffer_ ++ call.incoming)
    call ?_ ?_ b (fun p hp => List.mem_append_left _ hp) p hp
  · exact fun _ _ _ hsub hb q hq => hb q (hsub.subset hq)
  · intro b' q hq _ hb _ r hr
    rcases mem_place.mp hr with rfl | hr
    · exact List.mem_append_right _ hq
    · exact hb r hr

/-- A packet that is given out was in the buffer, and only later ones stay there. -/
theorem perform_gives {s : PacketBuffer κ × List κ} {call : Call κ} {p : κ}
    (hs : s.1.buffer_.Pairwise u.le) (hnear : NearIncoming u s call)
    (hp : (s.1.perform packet call).2 = some p) :
    p ∈ s.1.buffer_ ∧ ∀ q ∈ (s.1.perform packet call).1.buffer_, u.time p < u.time q := by
  cases call with
  | GetNextPacket =>
      have hbuffer : ∀ p ∈ s.1.buffer_, ∀ q ∈ s.1.buffer_, u.near p q :=
        fun p hp q hq => hnear p (List.mem_append_left _ hp) q (List.mem_append_left _ hq)
      obtain ⟨hmem, -, hrest⟩ := getNextPacket_spec hs hbuffer hp
      refine ⟨hmem, fun q hq => ?_⟩
      rw [perform, hrest] at hq
      simpa using (List.mem_filter.mp hq).2
  | _ => simp [perform] at hp

/-- When no late packet comes in, the packets are given out at strictly increasing times. -/
theorem given_out_in_order (u : Unwrapped packet) (N : ℕ) (calls : List (Call κ))
    (b : PacketBuffer κ) (out : List κ)
    (hnear : Along (step packet) (fun s call _ => NearIncoming u s call) (new N, []) calls)
    (hlate : Along (step packet) (fun s call _ => NoneLate u s call) (new N, []) calls)
    (he : exec (step packet) (new N, []) calls = some (b, out)) :
    out.Pairwise fun p q => u.time p < u.time q := by
  have hinv := invariant_along (I := fun s => s.1.buffer_.Pairwise u.le ∧
    (∀ q ∈ s.2, ∀ p ∈ s.1.buffer_, u.time q < u.time p) ∧
      s.2.Pairwise fun p q => u.time p < u.time q) ?_ ?_ (hnear.and hlate) he
  · exact hinv.2.2
  · intro s call t hs hstep hcall
    obtain ⟨hsorted, hbuffer, hout⟩ := hs
    obtain ⟨hnear, hlate⟩ := hcall
    obtain rfl := Option.some.inj hstep
    have hlater : ∀ q ∈ s.2, ∀ p ∈ (s.1.perform packet call).1.buffer_, u.time q < u.time p := by
      intro q hq p hp
      rcases List.mem_append.mp (mem_of_mem_perform hp) with hp | hp
      · exact hbuffer q hq p hp
      · exact hlate p hp q hq
    refine ⟨pairwise_perform hsorted hnear, ?_, ?_⟩
    · intro q hq p hp
      rcases List.mem_append.mp hq with hq | hq
      · exact hlater q hq p hp
      · exact (perform_gives hsorted hnear (Option.mem_toList.mp hq)).2 p hp
    · refine List.pairwise_append.mpr ⟨hout, Option.pairwise_toList, ?_⟩
      intro q hq p hp
      exact hbuffer q hq p (perform_gives hsorted hnear (Option.mem_toList.mp hp)).1
  · exact ⟨List.Pairwise.nil, by simp, List.Pairwise.nil⟩

theorem given_out_in_order_reordered :
    ([0, 1, 2] : List (Fin 3)).Pairwise fun p q => samplePackets.time p < samplePackets.time q := by
  refine given_out_in_order samplePackets 10 reordered ⟨10, [], [2]⟩ [0, 1, 2]
    (along_of_step (fun _ _ _ _ p _ q _ => near_samplePackets p q) _ _) ?_ (by decide)
  decide

end PacketBuffer

end Collaboration
