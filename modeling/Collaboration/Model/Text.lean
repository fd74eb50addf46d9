import Collaboration.Model.JavaString

/-! # Splitting text at a separator, and numbers in decimal

The first and the last occurrence of a unit, the parts on both sides of it, and
`Integer.parseInt` on the text of an `int`. -/

namespace Collaboration.JString

/-! ## Separators -/

theorem indexOf_append_cons {a : JString} {u : UInt16} (h : u ∉ a) (b : JString) :
    indexOf (a ++ u :: b) u = a.length := by
  have ha : a.findIdx? (· == u) = none := by
    rw [List.findIdx?_eq_none_iff]
    intro x hx
    simpa using fun hxu : x = u => h (hxu ▸ hx)
  simp [indexOf, List.findIdx?_append, ha, List.findIdx?_cons]

theorem lastIndexOf_append_cons {b : JString} {u : UInt16} (a : JString) (h : u ∉ b) :
    lastIndexOf (a ++ u :: b) u = a.length := by
  have hb : b.reverse.findIdx? (· == u) = none := by
    rw [List.findIdx?_eq_none_iff]
    intro x hx
    simpa using fun hxu : x = u => h (hxu ▸ List.mem_reverse.mp hx)
  have hfind : (a ++ u :: b).reverse.findIdx? (· == u) = some b.length := by
    simp [List.findIdx?_append, hb, List.findIdx?_cons]
  simp only [lastIndexOf, hfind, List.length_append, List.length_cons]
  omega

/-- A unit that occurs has a last occurrence. -/
theorem exists_last_occurrence {s : JString} {u : UInt16} (h : u ∈ s) :
    ∃ a b, s = a ++ u :: b ∧ u ∉ b := by
  obtain ⟨b, a, hs, hb⟩ := List.eq_append_cons_of_mem (List.mem_reverse.mpr h)
  refine ⟨a.reverse, b.reverse, ?_, by simpa using hb⟩
  rw [← List.reverse_reverse s, hs]
  simp

/-- The part between two positions. -/
theorem substring_append (a b c : JString) :
    substring (a ++ b ++ c) a.length (a ++ b).length = some b := by
  have hbounds : (0 : Int) ≤ a.length ∧ (a.length : Int) ≤ (a ++ b).length ∧
      ((a ++ b).length : Int) ≤ (a ++ b ++ c).length := by
    simp only [List.length_append]
    omega
  rw [substring, if_pos hbounds, Int.toNat_natCast, Int.toNat_natCast, List.take_left',
    List.drop_left']
  · rfl
  · rfl

theorem substring_append_left (a b : JString) :
    substring (a ++ b) 0 a.length = some a :=
  substring_append [] a b

theorem substringFrom_append (a b : JString) :
    substringFrom (a ++ b) a.length = some b := by
  simpa [substringFrom] using substring_append a b []

/-- What follows a separator. -/
theorem substringFrom_after (a : JString) (u : UInt16) (b : JString) :
    substringFrom (a ++ u :: b) (a.length + 1) = some b := by
  simpa using substringFrom_append (a ++ [u]) b

theorem substringFrom_eq_none_iff {s : JString} {b : Int} :
    substringFrom s b = none ↔ b < 0 ∨ s.length < b := by
  simp only [substringFrom, substring, ite_eq_right_iff, reduceCtorEq, imp_false]
  omega

/-! ## Decimal text -/

theorem toNat_unit_of_isDigit {c : Char} (h : c.isDigit) :
    (unit c).toNat = c.toNat ∧ 48 ≤ c.toNat ∧ c.toNat ≤ 57 := by
  simp only [Char.isDigit, Bool.and_eq_true, decide_eq_true_eq, UInt32.le_iff_toNat_le] at h
  have hrange : 48 ≤ c.toNat ∧ c.toNat ≤ 57 := h
  refine ⟨?_, hrange⟩
  simp only [unit, UInt16.toNat_ofNat']
  omega

theorem DigitTable.digit_unit (t : DigitTable) {c : Char} (h : c.isDigit) :
    t.digit (unit c) = some (c.toNat - 48) := by
  obtain ⟨hunit, hlo, hhi⟩ := toNat_unit_of_isDigit h
  have hascii : unit c < 128 := by
    rw [UInt16.lt_iff_toNat_lt, hunit]
    exact Nat.lt_of_le_of_lt hhi (by decide)
  have hdigit : (48 : UInt16) ≤ unit c ∧ unit c ≤ 57 := by
    rw [UInt16.le_iff_toNat_le, UInt16.le_iff_toNat_le, hunit]
    exact ⟨hlo, hhi⟩
  rw [t.digit_ascii (unit c) hascii, asciiDigit, if_pos hdigit, hunit]

theorem DigitTable.foldlM_digits (t : DigitTable) (cs : List Char) (h : ∀ c ∈ cs, c.isDigit)
    (n : ℕ) :
    (cs.map unit).foldlM (fun n u => (t.digit u).map fun d => 10 * n + d) n =
      some (Nat.ofDigitChars 10 cs n) := by
  induction cs generalizing n with
  | nil => simp
  | cons c cs ih =>
      obtain ⟨hc, hcs⟩ := List.forall_mem_cons.mp h
      simp [t.digit_unit hc, ih hcs, Nat.ofDigitChars_cons]

theorem lit_repr (n : ℕ) : lit n.repr = (Nat.toDigits 10 n).map unit := by
  simp [lit, unit, Nat.toList_repr]

theorem DigitTable.value_repr (t : DigitTable) (n : ℕ) : t.value (lit n.repr) = some n := by
  rw [lit_repr]
  simpa [value] using t.foldlM_digits (Nat.toDigits 10 n)
    (fun c hc => Nat.isDigit_of_mem_toDigits (by decide) (by decide) hc) 0

/-- The text of an `int` is a sequence of digits, behind a minus sign if it is negative. -/
theorem ofInt_eq (n : Int32) :
    ofInt n = if 0 ≤ n.toInt then lit n.toInt.toNat.repr
      else unit '-' :: lit (-n.toInt).toNat.repr := by
  rw [ofInt, Int.toString_eq_repr, Int.repr_eq_if]
  split
  · rfl
  · simp [lit, unit]

/-- The text of a number does not begin with a sign. -/
theorem head?_lit_repr_ne (n : ℕ) {c : Char} (hc : (unit c).toNat < 48) :
    (lit n.repr).head? ≠ some (unit c) := by
  rw [lit_repr]
  cases hdigits : Nat.toDigits 10 n with
  | nil => simp
  | cons d ds =>
      have hd : d.isDigit :=
        Nat.isDigit_of_mem_toDigits (by decide) (by decide) (hdigits ▸ List.mem_cons_self)
      obtain ⟨hunit, hlo, -⟩ := toNat_unit_of_isDigit hd
      intro h
      have heq : unit d = unit c := by simpa using h
      rw [← heq, hunit] at hc
      omega

theorem lit_repr_ne_nil (n : ℕ) : lit n.repr ≠ [] := by
  rw [lit_repr]
  simp [Nat.toDigits_ne_nil]

theorem DigitTable.parseInt_of_unsigned (t : DigitTable) {s : JString} {n : ℕ} (hne : s ≠ [])
    (hminus : s.head? ≠ some (unit '-')) (hplus : s.head? ≠ some (unit '+'))
    (hvalue : t.value s = some n) :
    t.parseInt s = if Int32.minValue.toInt ≤ n ∧ n ≤ Int32.maxValue.toInt then
      some (Int32.ofInt n) else none := by
  simp only [parseInt, hminus, hplus, or_self, if_false, hne, hvalue, Int.one_mul]
  rfl

theorem DigitTable.parseInt_of_minus (t : DigitTable) {s : JString} {n : ℕ} (hne : s ≠ [])
    (hvalue : t.value s = some n) :
    t.parseInt (unit '-' :: s) = if Int32.minValue.toInt ≤ -n ∧ -n ≤ Int32.maxValue.toInt then
      some (Int32.ofInt (-n)) else none := by
  simp only [parseInt, List.head?_cons, List.tail_cons, if_true, true_or, hne, if_false, hvalue,
    Int.neg_one_mul]
  rfl

/-- `parseInt` reads the text of an `int` back. -/
theorem DigitTable.parseInt_ofInt (t : DigitTable) (n : Int32) :
    t.parseInt (ofInt n) = some n := by
  have hrange : Int32.minValue.toInt ≤ n.toInt ∧ n.toInt ≤ Int32.maxValue.toInt :=
    ⟨n.minValue_le_toInt, n.toInt_le⟩
  rw [ofInt_eq]
  split
  · rename_i hpos
    rw [t.parseInt_of_unsigned (lit_repr_ne_nil _) (head?_lit_repr_ne _ (by decide))
      (head?_lit_repr_ne _ (by decide)) (t.value_repr _), Int.toNat_of_nonneg hpos,
      if_pos hrange, Int32.ofInt_toInt]
  · rename_i hneg
    have hvalue : -((-n.toInt).toNat : Int) = n.toInt := by omega
    rw [t.parseInt_of_minus (lit_repr_ne_nil _) (t.value_repr _), hvalue, if_pos hrange,
      Int32.ofInt_toInt]

end Collaboration.JString
