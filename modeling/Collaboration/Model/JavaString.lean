import Mathlib.Data.List.Basic

/-! # Java strings

A `java.lang.String` is its sequence of UTF-16 code units, so that lengths and
indices count units as they do in the source. -/

namespace Collaboration

abbrev JString := List UInt16

namespace JString

/-- A literal of the source; all of them lie in the basic plane. -/
def lit (s : String) : JString := s.toList.map fun c => UInt16.ofNat c.toNat

/-- The code unit of a one-character literal. -/
def unit (c : Char) : UInt16 := UInt16.ofNat c.toNat

/-- `substring(b, e)`; `none` is the `StringIndexOutOfBoundsException`. -/
def substring (s : JString) (b e : Int) : Option JString :=
  if 0 ≤ b ∧ b ≤ e ∧ e ≤ s.length then
    some ((s.take e.toNat).drop b.toNat)
  else none

def substringFrom (s : JString) (b : Int) : Option JString :=
  substring s b s.length

/-- `indexOf` of a one-character string, `-1` when it does not occur. -/
def indexOf (s : JString) (u : UInt16) : Int :=
  match s.findIdx? (· == u) with
  | some i => i
  | none => -1

/-- `lastIndexOf` of a one-character string, `-1` when it does not occur. -/
def lastIndexOf (s : JString) (u : UInt16) : Int :=
  match s.reverse.findIdx? (· == u) with
  | some i => (s.length : Int) - 1 - i
  | none => -1

/-- `replaceAll` between two one-character strings. -/
def replaceAll (s : JString) (old new : UInt16) : JString :=
  s.map fun u => if u = old then new else u

/-- The simple case mappings `Character.toUpperCase` and `Character.toLowerCase`. -/
structure CaseTable where
  toUpperCase : UInt16 → UInt16
  toLowerCase : UInt16 → UInt16

namespace CaseTable

/-- `equalsIgnoreCase` of two units, as `String.regionMatches` compares them. -/
def sameUnit (t : CaseTable) (a b : UInt16) : Bool :=
  a == b || t.toUpperCase a == t.toUpperCase b ||
    t.toLowerCase (t.toUpperCase a) == t.toLowerCase (t.toUpperCase b)

/-- `a.equalsIgnoreCase(b)`, where `b` may be null. -/
def equalsIgnoreCase (t : CaseTable) (a : JString) : Option JString → Bool
  | none => false
  | some b => a.length == b.length && (a.zip b).all fun p => t.sameUnit p.1 p.2

/-- The tables restricted to ASCII letters. -/
def ascii : CaseTable where
  toUpperCase u := if 97 ≤ u ∧ u ≤ 122 then u - 32 else u
  toLowerCase u := if 65 ≤ u ∧ u ≤ 90 then u + 32 else u

end CaseTable

/-! ## Numbers -/

/-- `Character.digit(_, 10)` of an ASCII character. -/
def asciiDigit (u : UInt16) : Option ℕ :=
  if 48 ≤ u ∧ u ≤ 57 then some (u.toNat - 48) else none

/-- `Character.digit(_, 10)`, which knows the decimal digits of every script. -/
structure DigitTable where
  digit : UInt16 → Option ℕ
  digit_ascii : ∀ u, u < 128 → digit u = asciiDigit u
  digit_lt : ∀ u, ∀ d ∈ digit u, d < 10

namespace DigitTable

/-- The table restricted to ASCII digits. -/
def ascii : DigitTable where
  digit := asciiDigit
  digit_ascii _ _ := rfl
  digit_lt u d h := by
    simp only [asciiDigit, Option.mem_def, Option.ite_none_right_eq_some, Option.some.injEq,
      UInt16.le_iff_toNat_le] at h
    obtain ⟨⟨-, hle⟩, rfl⟩ := h
    have : u.toNat ≤ 57 := hle
    omega

/-- The value of a sequence of digits. -/
def value (t : DigitTable) (s : JString) : Option ℕ :=
  s.foldlM (fun n u => (t.digit u).map fun d => 10 * n + d) 0

/-- `Integer.parseInt(s)`; `none` is the `NumberFormatException`. -/
def parseInt (t : DigitTable) (s : JString) : Option Int32 :=
  let sign : Int := if s.head? = some (unit '-') then -1 else 1
  let digits := if s.head? = some (unit '-') ∨ s.head? = some (unit '+') then s.tail else s
  if digits = [] then none
  else do
    let n ← t.value digits
    let i := sign * n
    if Int32.minValue.toInt ≤ i ∧ i ≤ Int32.maxValue.toInt then some (Int32.ofInt i) else none

end DigitTable

def valueOf (s : Option JString) : JString := s.getD (lit "null")

def ofInt (n : Int32) : JString := lit (toString n.toInt)

end JString

end Collaboration
