import Collaboration.Library.Transition
import Collaboration.Library.Circular
import Mathlib.Data.Int.ModEq

/-! # The ring buffer of the audio processing

`ring_buffer.c`: positions that may stand at the end of the memory, and a flag that tells
whether the writer is in the same round as the reader. -/

namespace Collaboration

open Calls Circular

inductive Wrap
  | SAME_WRAP
  | DIFF_WRAP
  deriving DecidableEq, Repr

/-- `struct RingBuffer`, its memory as a list of elements. -/
structure RingBuffer (α : Type*) where
  read_pos : ℕ
  write_pos : ℕ
  element_count : ℕ
  rw_wrap : Wrap
  data : List α
  deriving DecidableEq, Repr

namespace RingBuffer

variable {α : Type*}

def INT_MAX : ℕ := 2 ^ 31 - 1

/-- The difference of two values of type `size_t`, which has 32 bits. -/
def sizeSub (a b : ℕ) : ℕ := if b ≤ a then a - b else a + 2 ^ 32 - b

/-- The cast from `size_t` to `int`. -/
def toInt (n : ℕ) : ℤ := if n ≤ INT_MAX then n else n - 2 ^ 32

/-- The result of an operation on values of type `int`, which is undefined if it overflows. -/
def int (n : ℤ) : Option ℤ := if -INT_MAX - 1 ≤ n ∧ n ≤ INT_MAX then some n else none

/-- Initializes the positions, and the memory to zeros. -/
def InitBuffer (zero : α) (self : RingBuffer α) : RingBuffer α :=
  { self with
    read_pos := 0
    write_pos := 0
    rw_wrap := .SAME_WRAP
    data := List.replicate self.element_count zero }

def available_read (self : RingBuffer α) : ℕ :=
  if self.rw_wrap = .SAME_WRAP then sizeSub self.write_pos self.read_pos
  else sizeSub self.element_count self.read_pos + self.write_pos

def available_write (self : RingBuffer α) : ℕ :=
  sizeSub self.element_count self.available_read

def MoveReadPtr (self : RingBuffer α) (element_count : ℤ) : Option (RingBuffer α × ℤ) :=
  let free_elements := toInt self.available_write
  let readable_elements := toInt self.available_read
  let element_count :=
    if readable_elements < element_count then readable_elements else element_count
  (int (-free_elements)).bind fun lowest =>
  let element_count := if element_count < lowest then lowest else element_count
  (int (toInt self.read_pos + element_count)).bind fun read_pos =>
  -- Buffer wrap around. Restart read position and wrap indicator.
  (if toInt self.element_count < read_pos then
      (int (read_pos - toInt self.element_count)).map fun read_pos => (read_pos, Wrap.SAME_WRAP)
    else some (read_pos, self.rw_wrap)).bind fun (read_pos, rw_wrap) =>
  (if read_pos < 0 then
      (int (read_pos + toInt self.element_count)).map fun read_pos => (read_pos, Wrap.DIFF_WRAP)
    else some (read_pos, rw_wrap)).bind fun (read_pos, rw_wrap) =>
  some ({ self with read_pos := read_pos.toNat, rw_wrap := rw_wrap }, element_count)

/-- The regions from which `element_count` elements can be read, or those that there are. -/
def GetBufferReadRegions (self : RingBuffer α) (element_count : ℕ) :
    Option (List α × List α × ℕ) :=
  let readable_elements := self.available_read
  let read_elements :=
    if readable_elements < element_count then readable_elements else element_count
  let margin := sizeSub self.element_count self.read_pos
  -- Check to see if read is not contiguous.
  if margin < read_elements then do
    let data_1 ← region self.data self.read_pos margin
    let data_2 ← region self.data 0 (read_elements - margin)
    some (data_1, data_2, read_elements)
  else do
    let data_1 ← region self.data self.read_pos read_elements
    some (data_1, [], read_elements)

/-- What a caller of `ReadBuffer` is left with: what was copied to its memory, and what the
pointer points to that it asked for. -/
structure Reading (α : Type*) where
  data : Option (List α)
  data_ptr : Option (List α)

/-- The elements that a caller takes: those at the pointer if it asked for one. -/
def Reading.elements (r : Reading α) : List α :=
  (r.data_ptr <|> r.data).getD []

def ReadBuffer (self : RingBuffer α) (data_ptr : Bool) (element_count : ℕ) :
    Option (RingBuffer α × Reading α × ℕ) := do
  let (buf_1, buf_2, read_count) ← self.GetBufferReadRegions element_count
  let reading : Reading α :=
    if 0 < buf_2.length then
      -- We have a wrap around when reading the buffer.
      ⟨some (buf_1 ++ buf_2), if data_ptr then some (buf_1 ++ buf_2) else none⟩
    else if data_ptr then ⟨none, some buf_1⟩
    else ⟨some buf_1, none⟩
  let (self, _) ← self.MoveReadPtr (toInt read_count)
  some (self, reading, read_count)

def WriteBuffer (self : RingBuffer α) (data : List α) : Option (RingBuffer α × ℕ) :=
  let element_count := data.length
  let free_elements := self.available_write
  let write_elements := if free_elements < element_count then free_elements else element_count
  let margin := sizeSub self.element_count self.write_pos
  if margin < write_elements then do
    -- Buffer wrap around when writing.
    let memory ← overwrite self.data self.write_pos (data.take margin)
    let n := write_elements - margin
    let memory ← overwrite memory 0 ((data.drop (write_elements - n)).take n)
    some ({ self with write_pos := n, rw_wrap := .DIFF_WRAP, data := memory }, write_elements)
  else do
    let memory ← overwrite self.data self.write_pos (data.take write_elements)
    some ({ self with write_pos := self.write_pos + write_elements, data := memory },
      write_elements)

/-! ## Calls and what they are for -/

inductive Call (α : Type*)
  | InitBuffer
  | ReadBuffer (data_ptr : Bool) (element_count : ℕ)
  | WriteBuffer (data : List α)
  | MoveReadPtr (element_count : ℤ)
  | available_read
  | available_write

/-- What they return: a number, and the elements that were read. -/
structure Answer (α : Type*) where
  count : ℤ
  elements : List α
  deriving DecidableEq

def perform (zero : α) (self : RingBuffer α) : Call α → Option (RingBuffer α × Answer α)
  | .InitBuffer => some (self.InitBuffer zero, ⟨0, []⟩)
  | .ReadBuffer data_ptr element_count =>
    (self.ReadBuffer data_ptr element_count).map fun (self, reading, read_count) =>
      (self, ⟨read_count, reading.elements⟩)
  | .WriteBuffer data =>
    (self.WriteBuffer data).map fun (self, write_elements) => (self, ⟨write_elements, []⟩)
  | .MoveReadPtr element_count =>
    (self.MoveReadPtr element_count).map fun (self, element_count) => (self, ⟨element_count, []⟩)
  | .available_read => some (self, ⟨self.available_read, []⟩)
  | .available_write => some (self, ⟨self.available_write, []⟩)

end RingBuffer

/-- A stream and a reader of it, which is at most `N` items behind its end and can go back to
there. -/
structure Tape (α : Type*) (N : ℕ) where
  stream : List α
  position : ℕ
  behind : stream.length ≤ position + N
  within : position ≤ stream.length

namespace Tape

variable {α : Type*} {N : ℕ}

/-- `N` zeros that have been read. -/
def blank (zero : α) (N : ℕ) : Tape α N where
  stream := List.replicate N zero
  position := N
  behind := by simp
  within := by simp

def unread (t : Tape α N) : ℕ := t.stream.length - t.position

def room (t : Tape α N) : ℕ := N - t.unread

/-- As many of the items as there is room for. -/
def write (t : Tape α N) (items : List α) : Tape α N where
  stream := t.stream ++ items.take t.room
  position := t.position
  behind := by
    have := t.behind
    have := t.within
    simp only [List.length_append, List.length_take, room, unread]
    omega
  within := by
    have := t.within
    simp only [List.length_append]
    omega

theorem unread_write (t : Tape α N) (items : List α) :
    (t.write items).unread = t.unread + min t.room items.length := by
  have := t.within
  simp only [unread, write, List.length_append, List.length_take]
  omega

/-- As far as the reader may go. -/
def clamp (t : Tape α N) (k : ℤ) : ℤ := max (-t.room) (min t.unread k)

theorem clamp_eq (t : Tape α N) (k : ℤ) :
    (if (if (t.unread : ℤ) < k then (t.unread : ℤ) else k) < -t.room then -(t.room : ℤ)
      else if (t.unread : ℤ) < k then (t.unread : ℤ) else k) = t.clamp k := by
  unfold clamp
  split_ifs <;> omega

theorem le_clamp (t : Tape α N) (k : ℤ) : (t.stream.length : ℤ) ≤ t.position + t.clamp k + N := by
  have := t.behind
  have := t.within
  have hlow : -(t.room : ℤ) ≤ t.clamp k := le_max_left _ _
  simp only [room, unread] at hlow
  omega

theorem clamp_le (t : Tape α N) (k : ℤ) : t.position + t.clamp k ≤ t.stream.length := by
  have := t.within
  have hhigh : t.clamp k ≤ t.unread := max_le (by omega) (min_le_left _ _)
  simp only [unread] at hhigh
  omega

def move (t : Tape α N) (k : ℤ) : Tape α N where
  stream := t.stream
  position := (t.position + t.clamp k).toNat
  behind := by
    have := t.le_clamp k
    omega
  within := by
    have := t.clamp_le k
    omega

/-- The next items, as many as asked for or as there are. -/
def next (t : Tape α N) (n : ℕ) : List α := (t.stream.drop t.position).take n

theorem length_next (t : Tape α N) (n : ℕ) : (t.next n).length = min n t.unread := by
  simp [next, unread]

theorem next_length (t : Tape α N) (n : ℕ) : t.next (t.next n).length = t.next n := by
  simp [next]

/-- The items that have not been read. -/
def rest (t : Tape α N) : List α := t.stream.drop t.position

theorem length_rest (t : Tape α N) : t.rest.length ≤ N := by
  have := t.behind
  simp only [rest, List.length_drop]
  omega

theorem rest_write (t : Tape α N) (items : List α) :
    (t.write items).rest = t.rest ++ items.take (min t.room items.length) := by
  have htake : items.take (min t.room items.length) = items.take t.room := by
    rw [List.take_eq_take_iff]
    omega
  rw [htake]
  exact List.drop_append_of_le_length t.within

theorem rest_next (t : Tape α N) (n : ℕ) :
    t.rest = t.next n ++ (t.move (t.next n).length).rest := by
  have hclamp : t.clamp (t.next n).length = (t.next n).length := by
    have := t.length_next n
    unfold clamp
    omega
  have hmove : (t.move (t.next n).length).rest = t.rest.drop (t.next n).length := by
    simp only [rest, move, hclamp, List.drop_drop]
    congr 1
  rw [hmove]
  conv_lhs => rw [← List.take_append_drop (t.next n).length t.rest]
  rw [rest, ← next, t.next_length]

/-- What the functions of the ring buffer do to the tape. -/
def perform (zero : α) (t : Tape α N) : RingBuffer.Call α → Tape α N × RingBuffer.Answer α
  | .InitBuffer => (blank zero N, ⟨0, []⟩)
  | .ReadBuffer _ n => (t.move (t.next n).length, ⟨(t.next n).length, t.next n⟩)
  | .WriteBuffer items => (t.write items, ⟨(min t.room items.length : ℕ), []⟩)
  | .MoveReadPtr k => (t.move k, ⟨t.clamp k, []⟩)
  | .available_read => (t, ⟨t.unread, []⟩)
  | .available_write => (t, ⟨t.room, []⟩)

end Tape

/-! ## The ring buffer keeps the tape -/

namespace RingBuffer

variable {α : Type*} {N : ℕ} {buf : RingBuffer α} {t : Tape α N}

/-- The memory keeps the last items, and the positions and the flag say how many are unread. -/
structure Represents (buf : RingBuffer α) (t : Tape α N) : Prop where
  element_count : buf.element_count = N
  memory : buf.data.length = N
  mirrors : Mirrors buf.data t.stream
  reader : (buf.read_pos : ℤ) ≡ t.position [ZMOD N]
  read_le : buf.read_pos ≤ N
  write_le : buf.write_pos ≤ N
  same : buf.rw_wrap = .SAME_WRAP → buf.read_pos + t.unread = buf.write_pos
  diff : buf.rw_wrap = .DIFF_WRAP → buf.read_pos + t.unread = N + buf.write_pos

theorem sizeSub_of_le {a b : ℕ} (h : b ≤ a) : sizeSub a b = a - b := if_pos h

theorem toInt_of_le {n : ℕ} (h : n ≤ INT_MAX) : toInt n = n := if_pos h

theorem int_of_le {n : ℤ} (h₁ : -(INT_MAX : ℤ) ≤ n) (h₂ : n ≤ INT_MAX) : int n = some n :=
  if_pos ⟨by omega, h₂⟩

theorem unread_le (t : Tape α N) : t.unread ≤ N := by
  have := t.behind
  unfold Tape.unread
  omega

/-- The writer stands at the end of the stream. -/
theorem Represents.writer (h : Represents buf t) :
    (buf.write_pos : ℤ) ≡ t.stream.length [ZMOD N] := by
  have hend : (buf.read_pos : ℤ) + t.unread ≡ t.stream.length [ZMOD N] := by
    have hsum : (t.position : ℤ) + t.unread = t.stream.length := by
      have := t.within
      unfold Tape.unread
      omega
    rw [← hsum]
    exact h.reader.add_right _
  cases hw : buf.rw_wrap with
  | SAME_WRAP =>
      have hsame := h.same hw
      rw [← hsame]
      exact_mod_cast hend
  | DIFF_WRAP =>
      have hdiff := h.diff hw
      have hround : (buf.read_pos : ℤ) + t.unread = N + buf.write_pos := by exact_mod_cast hdiff
      rw [hround] at hend
      simpa using hend

theorem Represents.available_read_eq (h : Represents buf t) :
    buf.available_read = t.unread := by
  have := h.read_le
  have := h.write_le
  unfold available_read
  cases hw : buf.rw_wrap with
  | SAME_WRAP =>
      have := h.same hw
      rw [if_pos rfl, sizeSub_of_le] <;> omega
  | DIFF_WRAP =>
      have := h.diff hw
      rw [if_neg (by decide), h.element_count, sizeSub_of_le] <;> omega

theorem Represents.available_write_eq (h : Represents buf t) :
    buf.available_write = t.room := by
  have := unread_le t
  unfold available_write
  rw [h.available_read_eq, h.element_count, sizeSub_of_le this]
  rfl

theorem represents_init (zero : α) (buf : RingBuffer α) (h : buf.element_count = N) :
    Represents (buf.InitBuffer zero) (Tape.blank zero N) where
  element_count := h
  memory := by simp [InitBuffer, h]
  mirrors := by
    rw [Tape.blank, InitBuffer, h]
    exact .refl _
  reader := by simp [InitBuffer, Tape.blank, Int.ModEq]
  read_le := Nat.zero_le _
  write_le := Nat.zero_le _
  same _ := by simp [InitBuffer, Tape.blank, Tape.unread]
  diff hw := by simp [InitBuffer] at hw

/-- What has been written stays, and the reader moves by `k` around the memory. -/
theorem Represents.moved (h : Represents buf t) {k : ℤ} (hk : k = t.clamp k) {pos : ℕ} {wrap : Wrap}
    (hreader : (pos : ℤ) ≡ buf.read_pos + k [ZMOD N]) (hle : pos ≤ N)
    (hsame : wrap = .SAME_WRAP → (pos : ℤ) + t.unread = buf.write_pos + k)
    (hdiff : wrap = .DIFF_WRAP → (pos : ℤ) + t.unread = N + buf.write_pos + k) :
    Represents ⟨pos, buf.write_pos, N, wrap, buf.data⟩ (t.move k) := by
  have hbehind := t.le_clamp k
  have hwithin := t.clamp_le k
  have hfilled := h.mirrors.filled
  rw [h.memory] at hfilled
  rw [← hk] at hbehind hwithin
  have hposition : ((t.move k).position : ℤ) = t.position + k := by
    simp only [Tape.move, ← hk]
    omega
  have hunread : ((t.move k).unread : ℤ) = t.unread - k := by
    have := t.within
    simp only [Tape.unread, Tape.move, ← hk]
    omega
  refine ⟨rfl, h.memory, h.mirrors, ?_, hle, h.write_le, fun hw => ?_, fun hw => ?_⟩
  · rw [hposition]
    exact hreader.trans (h.reader.add_right k)
  · have := hsame hw
    simp only
    omega
  · have := hdiff hw
    simp only
    omega

/-- From `2 ^ 30` elements on, the position and the elements to read would not fit together. -/
theorem Represents.moveReadPtr (h : Represents buf t) (hN : 2 * N ≤ INT_MAX) (k : ℤ) :
    ∃ buf', buf.MoveReadPtr k = some (buf', t.clamp k) ∧ Represents buf' (t.move k) := by
  have := h.read_le
  have := h.write_le
  have := unread_le t
  have hroom : (t.room : ℤ) = N - t.unread := by
    unfold Tape.room
    omega
  obtain ⟨m, hm⟩ : ∃ m, t.clamp k = m := ⟨_, rfl⟩
  have hagain : m = t.clamp m := by
    unfold Tape.clamp at hm ⊢
    omega
  have hmove : t.move k = t.move m := by
    simp only [Tape.move, hm, ← hagain]
  have hlow : -(t.room : ℤ) ≤ m := hm ▸ le_max_left _ _
  have hhigh : m ≤ t.unread := by
    unfold Tape.clamp at hm
    omega
  have hfree : toInt t.room = t.room := toInt_of_le (by omega)
  have hlowest : int (-t.room) = some (-t.room : ℤ) := int_of_le (by omega) (by omega)
  have hreadable : toInt t.unread = t.unread := toInt_of_le (by omega)
  have hread_pos : toInt buf.read_pos = buf.read_pos := toInt_of_le (by omega)
  have hcount : toInt N = N := toInt_of_le (by omega)
  have hpos : int (buf.read_pos + m) = some (buf.read_pos + m) :=
    int_of_le (by omega) (by omega)
  unfold MoveReadPtr
  simp only [h.available_write_eq, h.available_read_eq, h.element_count, hfree, hreadable,
    hread_pos, hcount, hlowest, hmove, Option.bind_some, t.clamp_eq, hm, hpos]
  cases hw : buf.rw_wrap with
  | SAME_WRAP =>
      have := h.same hw
      -- The reader stays in the round of the writer, or goes back to the one before.
      have hforth : ¬(N : ℤ) < buf.read_pos + m := by omega
      by_cases hback : (buf.read_pos : ℤ) + m < 0
      · have hend : int (buf.read_pos + m + N) = some (buf.read_pos + m + N) :=
          int_of_le (by omega) (by omega)
        simp only [hforth, hback, hend, if_true, if_false, Option.map_some, Option.bind_some]
        refine ⟨_, rfl, ?_⟩
        apply h.moved hagain _ (by omega) (by simp) fun _ => by omega
        rw [Int.toNat_of_nonneg (by omega)]
        simp
      · simp only [hforth, hback, if_false, Option.bind_some]
        refine ⟨_, rfl, ?_⟩
        apply h.moved hagain _ (by omega) (fun _ => by omega) (by simp)
        rw [Int.toNat_of_nonneg (by omega)]
  | DIFF_WRAP =>
      have := h.diff hw
      -- The reader stays in the round before that of the writer, or comes into it.
      by_cases hforth : (N : ℤ) < buf.read_pos + m
      · have hstart : int (buf.read_pos + m - N) = some (buf.read_pos + m - N) :=
          int_of_le (by omega) (by omega)
        have hback : ¬(buf.read_pos : ℤ) + m - N < 0 := by omega
        simp only [hforth, hstart, hback, if_true, if_false, Option.map_some, Option.bind_some]
        refine ⟨_, rfl, ?_⟩
        apply h.moved hagain _ (by omega) (fun _ => by omega) (by simp)
        rw [Int.toNat_of_nonneg (by omega)]
        simp
      · have hback : ¬(buf.read_pos : ℤ) + m < 0 := by omega
        simp only [hforth, hback, if_false, Option.bind_some]
        refine ⟨_, rfl, ?_⟩
        apply h.moved hagain _ (by omega) (by simp) fun _ => by omega
        rw [Int.toNat_of_nonneg (by omega)]

theorem Represents.natCast_modEq (h : Represents buf t) :
    buf.read_pos ≡ t.position [MOD buf.data.length] := by
  rw [h.memory]
  exact Int.natCast_modEq_iff.mp h.reader

/-- The regions hold the next items. -/
theorem Represents.readRegions (h : Represents buf t) (n : ℕ) :
    ∃ buf_1 buf_2, buf.GetBufferReadRegions n = some (buf_1, buf_2, (t.next n).length) ∧
      buf_1 ++ buf_2 = t.next n := by
  obtain ⟨m, hm⟩ : ∃ m, (t.next n).length = m := ⟨_, rfl⟩
  have hnext : t.next n = (t.stream.drop t.position).take m := by
    rw [← hm, ← Tape.next, t.next_length]
  have hcount : (if t.unread < n then t.unread else n) = m := by
    rw [← hm, t.length_next]
    split_ifs <;> omega
  have hunread : m ≤ t.stream.length - t.position := by
    rw [← hm, t.length_next]
    exact min_le_right _ _
  have hmargin : sizeSub buf.element_count buf.read_pos = N - buf.read_pos := by
    rw [h.element_count, sizeSub_of_le h.read_le]
  have hread := h.read_le
  have hbehind := t.behind
  have hwithin := t.within
  have hmemory := h.memory
  unfold GetBufferReadRegions
  simp only [h.available_read_eq, hcount, hm, hmargin]
  by_cases hwraps : N - buf.read_pos < m
  · -- The first region ends with the memory, the second one starts with it.
    have hfirst := h.mirrors.region (n := N - buf.read_pos) h.natCast_modEq (by omega) (by omega)
      (by omega)
    have hstart : 0 ≡ t.position + (N - buf.read_pos) [MOD buf.data.length] := by
      have hend := h.natCast_modEq.add_right (N - buf.read_pos)
      rw [Nat.add_sub_cancel' hread] at hend
      refine Nat.ModEq.trans ?_ hend
      simp [hmemory, Nat.ModEq]
    have hsecond := h.mirrors.region (n := m - (N - buf.read_pos)) hstart (by omega) (by omega)
      (by omega)
    refine ⟨(t.stream.drop t.position).take (N - buf.read_pos),
      (t.stream.drop (t.position + (N - buf.read_pos))).take (m - (N - buf.read_pos)),
      by simp [hwraps, hfirst, hsecond], ?_⟩
    rw [hnext, ← List.drop_drop, ← List.take_add, Nat.add_sub_cancel' hwraps.le]
  · have hregion := h.mirrors.region (n := m) h.natCast_modEq (by omega) (by omega) (by omega)
    exact ⟨t.next n, [], by simp [hwraps, hregion, hnext], List.append_nil _⟩

theorem Represents.readBuffer (h : Represents buf t) (hN : 2 * N ≤ INT_MAX) (data_ptr : Bool)
    (n : ℕ) : ∃ buf' reading, buf.ReadBuffer data_ptr n = some (buf', reading, (t.next n).length) ∧
      reading.elements = t.next n ∧ Represents buf' (t.move (t.next n).length) := by
  obtain ⟨buf_1, buf_2, hregions, hnext⟩ := h.readRegions n
  have hcount : toInt (t.next n).length = (t.next n).length := by
    have := unread_le t
    apply toInt_of_le
    rw [t.length_next]
    omega
  obtain ⟨buf', hmoved, h'⟩ := h.moveReadPtr hN (t.next n).length
  refine ⟨buf', _, by
    simp only [ReadBuffer, hregions, hcount, hmoved, Option.bind_eq_bind, Option.bind_some]
    rfl, ?_, h'⟩
  rcases buf_2 with - | ⟨x, xs⟩
  · rw [← hnext]
    cases data_ptr <;> simp [Reading.elements]
  · rw [← hnext]
    cases data_ptr <;> simp [Reading.elements]

/-- What has been written where the stream ends is the end of the stream. -/
theorem Represents.wrote (h : Represents buf t) {items memory : List α} {pos m : ℕ} {wrap : Wrap}
    (hm : m = min t.room items.length) (hmemory : memory.length = N)
    (hmirrors : Mirrors memory (t.stream ++ items.take m)) (hle : pos ≤ N)
    (hsame : wrap = .SAME_WRAP → buf.read_pos + t.unread + m = pos)
    (hdiff : wrap = .DIFF_WRAP → buf.read_pos + t.unread + m = N + pos) :
    Represents ⟨buf.read_pos, pos, buf.element_count, wrap, memory⟩ (t.write items) where
  element_count := h.element_count
  memory := hmemory
  mirrors := by
    have htake : items.take m = items.take t.room := by
      rw [hm, List.take_eq_take_iff]
      omega
    rwa [htake] at hmirrors
  reader := h.reader
  read_le := h.read_le
  write_le := hle
  same hw := by
    rw [t.unread_write, ← hm, ← hsame hw, Nat.add_assoc]
  diff hw := by
    rw [t.unread_write, ← hm, ← hdiff hw, Nat.add_assoc]

theorem Represents.writeBuffer (h : Represents buf t) (items : List α) :
    ∃ buf', buf.WriteBuffer items = some (buf', min t.room items.length) ∧
      Represents buf' (t.write items) := by
  obtain ⟨m, hm⟩ : ∃ m, m = min t.room items.length := ⟨_, rfl⟩
  have hcount : (if t.room < items.length then t.room else items.length) = m := by
    rw [hm]
    split_ifs <;> omega
  have hmargin : sizeSub buf.element_count buf.write_pos = N - buf.write_pos := by
    rw [h.element_count, sizeSub_of_le h.write_le]
  have hmemory := h.memory
  have hread := h.read_le
  have hwrite := h.write_le
  have hroom : t.room = N - t.unread := rfl
  have hunread := unread_le t
  have hend : buf.write_pos ≡ t.stream.length [MOD buf.data.length] := by
    rw [hmemory]
    exact Int.natCast_modEq_iff.mp h.writer
  unfold WriteBuffer
  simp only [h.available_write_eq, hcount, hmargin, ← hm]
  by_cases hwraps : N - buf.write_pos < m
  · -- The writer is in the round of the reader, and starts the next one.
    have hsame := h.same (by
      cases hw : buf.rw_wrap with
      | SAME_WRAP => rfl
      | DIFF_WRAP =>
          have := h.diff hw
          omega)
    have htake : (items.take (N - buf.write_pos)).length = N - buf.write_pos :=
      List.length_take_of_le (by omega)
    obtain ⟨memory₁, hfirst, hlength₁, hmirrors₁⟩ := h.mirrors.overwrite hend
      (items.take (N - buf.write_pos)) (by omega)
    have hstart : 0 ≡ (t.stream ++ items.take (N - buf.write_pos)).length [MOD memory₁.length] := by
      rw [List.length_append, htake, hlength₁]
      have hround := hend.add_right (N - buf.write_pos)
      rw [Nat.add_sub_cancel' hwrite] at hround
      refine Nat.ModEq.trans ?_ hround
      simp [hmemory, Nat.ModEq]
    obtain ⟨memory₂, hsecond, hlength₂, hmirrors₂⟩ := hmirrors₁.overwrite hstart
      ((items.drop (N - buf.write_pos)).take (m - (N - buf.write_pos)))
      (by rw [List.length_take]; omega)
    have hrest : m - (m - (N - buf.write_pos)) = N - buf.write_pos := by omega
    rw [List.append_assoc, ← List.take_add, Nat.add_sub_cancel' hwraps.le] at hmirrors₂
    refine ⟨⟨buf.read_pos, m - (N - buf.write_pos), buf.element_count, .DIFF_WRAP, memory₂⟩,
      by simp [hwraps, hfirst, hrest, hsecond], ?_⟩
    exact h.wrote hm (by omega) hmirrors₂ (by omega) (by simp) fun _ => by omega
  · obtain ⟨memory, hover, hlength, hmirrors⟩ := h.mirrors.overwrite hend
      (items.take m) (by rw [List.length_take]; omega)
    refine ⟨⟨buf.read_pos, buf.write_pos + m, buf.element_count, buf.rw_wrap, memory⟩,
      by simp [hwraps, hover], ?_⟩
    apply h.wrote hm (by omega) hmirrors (by omega)
    · intro hw
      have := h.same hw
      omega
    · intro hw
      have := h.diff hw
      omega

theorem refines (zero : α) (hN : 2 * N ≤ INT_MAX) :
    Refines (perform zero) (Tape.perform (N := N) zero) Represents := by
  intro buf t call h
  cases call with
  | InitBuffer => exact ⟨_, rfl, represents_init zero buf h.element_count⟩
  | ReadBuffer data_ptr n =>
      obtain ⟨buf', reading, hread, helements, h'⟩ := h.readBuffer hN data_ptr n
      exact ⟨buf', by simp [perform, Tape.perform, hread, helements], h'⟩
  | WriteBuffer items =>
      obtain ⟨buf', hwrite, h'⟩ := h.writeBuffer items
      exact ⟨buf', by simp [perform, Tape.perform, hwrite], h'⟩
  | MoveReadPtr k =>
      obtain ⟨buf', hmove, h'⟩ := h.moveReadPtr hN k
      exact ⟨buf', by simp [perform, Tape.perform, hmove], h'⟩
  | available_read => exact ⟨buf, by simp [perform, Tape.perform, h.available_read_eq], h⟩
  | available_write => exact ⟨buf, by simp [perform, Tape.perform, h.available_write_eq], h⟩

/-- From its initialization on, whatever the memory held before, a ring buffer gives the answers
of the tape, and never copies to or from outside of its memory. -/
theorem ring_buffer_is_a_tape (zero : α) (buf : RingBuffer α)
    (hN : 2 * buf.element_count ≤ INT_MAX) (calls : List (Call α)) :
    answers (perform zero) buf (.InitBuffer :: calls) =
      some (⟨0, []⟩ :: replies (Tape.perform zero) (Tape.blank zero buf.element_count) calls) := by
  have hcalls := (refines zero hN).answers_eq (represents_init zero buf rfl) calls
  simp [answers, perform, hcalls]

/-- A buffer of three elements as it was allocated: written to past its end, read over its end,
and moved back. -/
theorem ring_buffer_is_a_tape_wrapping :
    let buf : RingBuffer ℕ := ⟨7, 9, 3, .DIFF_WRAP, [5, 6, 7]⟩
    let calls : List (Call ℕ) := [.WriteBuffer [1, 2], .ReadBuffer true 1, .WriteBuffer [3, 4, 5],
      .ReadBuffer false 3, .MoveReadPtr (-5), .ReadBuffer true 2]
    answers (perform 0) buf (.InitBuffer :: calls) =
      some (⟨0, []⟩ :: replies (Tape.perform 0) (Tape.blank 0 3) calls) ∧
    (replies (Tape.perform 0) (Tape.blank 0 3) calls).map (·.elements) =
      [[], [1], [], [2, 3, 4], [], [2, 3]] :=
  ⟨ring_buffer_is_a_tape 0 _ (by decide) _, by decide⟩

/-! ## First in, first out -/

/-- The calls that neither start anew nor move the reader back or forth. -/
def Call.inOrder : Call α → Bool
  | .InitBuffer | .MoveReadPtr _ => false
  | _ => true

/-- What the calls have put in, by their answers. -/
def accepted : List (Call α) → List (Answer α) → List α
  | .WriteBuffer items :: calls, a :: as => items.take a.count.toNat ++ accepted calls as
  | _ :: calls, _ :: as => accepted calls as
  | _, _ => []

theorem accepted_replies (zero : α) (calls : List (Call α)) (h : ∀ call ∈ calls, call.inOrder)
    (t : Tape α N) :
    t.rest ++ accepted calls (replies (Tape.perform zero) t calls) =
      (replies (Tape.perform zero) t calls).flatMap (·.elements) ++
        (after (Tape.perform zero) t calls).rest := by
  induction calls generalizing t with
  | nil => simp [replies, accepted, after]
  | cons call calls ih =>
      obtain ⟨hcall, hcalls⟩ := List.forall_mem_cons.mp h
      have hrest := ih hcalls (Tape.perform zero t call).1
      rw [replies, after, List.foldl_cons, ← after, List.flatMap_cons, List.append_assoc, ← hrest]
      cases call with
      | InitBuffer | MoveReadPtr k => simp [Call.inOrder] at hcall
      | available_read | available_write => simp [accepted, Tape.perform]
      | ReadBuffer data_ptr n =>
          simp only [accepted, Tape.perform]
          rw [← List.append_assoc, ← t.rest_next n]
      | WriteBuffer items =>
          simp only [accepted, Tape.perform, t.rest_write, List.append_assoc, Int.toNat_natCast,
            List.nil_append]

/-- What is read comes out as it was accepted: in this order, nothing twice, nothing left out,
and all of it but what the buffer still holds. -/
theorem first_in_first_out (zero : α) (buf : RingBuffer α)
    (hN : 2 * buf.element_count ≤ INT_MAX) (calls : List (Call α)) (h : ∀ call ∈ calls, call.inOrder) :
    ∃ as rest, answers (perform zero) buf (.InitBuffer :: calls) = some (⟨0, []⟩ :: as) ∧
      accepted calls as = as.flatMap (·.elements) ++ rest ∧ rest.length ≤ buf.element_count := by
  have hcalls := (refines zero hN).answers_eq (represents_init zero buf rfl) calls
  refine ⟨replies (Tape.perform zero) (Tape.blank zero buf.element_count) calls,
    (after (Tape.perform zero) (Tape.blank zero buf.element_count) calls).rest,
    by simp [answers, perform, hcalls], ?_, Tape.length_rest _⟩
  have hblank : (Tape.blank zero buf.element_count).rest = [] := by
    simp [Tape.blank, Tape.rest]
  rw [← accepted_replies zero calls h, hblank, List.nil_append]

theorem first_in_first_out_full :
    let buf : RingBuffer ℕ := ⟨0, 0, 3, .SAME_WRAP, [5, 6, 7]⟩
    let calls : List (Call ℕ) :=
      [.WriteBuffer [1, 2, 3, 4], .ReadBuffer true 2, .WriteBuffer [5, 6],
      .ReadBuffer false 2]
    ∃ as rest, answers (perform 0) buf (.InitBuffer :: calls) = some (⟨0, []⟩ :: as) ∧
      accepted calls as = as.flatMap (·.elements) ++ rest ∧ rest.length ≤ 3 :=
  first_in_first_out 0 _ (by decide) _ (by decide)

end RingBuffer

end Collaboration
