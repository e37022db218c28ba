import Mathlib.Tactic.IntervalCases
import Mathlib.Tactic.NormNum.Pow

/-!
# IEEE-754 doubles by their bits

Conversion from integers, the exact value of a double as a multiple of the smallest
positive one, and how a double compares with the integer its bits spell.
-/

namespace Framework

/-- An IEEE-754 double, by its bits. -/
structure F64 where
  bits : BitVec 64
  deriving DecidableEq

namespace F64

def exponent (x : F64) : Nat := x.bits.toNat / 2 ^ 52 % 2 ^ 11

def fraction (x : F64) : Nat := x.bits.toNat % 2 ^ 52

def negative (x : F64) : Bool := 2 ^ 63 ≤ x.bits.toNat

def isFinite (x : F64) : Bool := x.exponent != 2047

/-- `n as f64` on a magnitude: round to nearest, ties to even. The significand keeps
its leading one, so a carry out of it moves the exponent up by itself. -/
def ofMagnitude (n : Nat) : Nat :=
  if n = 0 then 0
  else
    let e := n.log2
    if e ≤ 52 then (e + 1022) * 2 ^ 52 + n * 2 ^ (52 - e)
    else
      let q := n / 2 ^ (e - 52)
      let r := n % 2 ^ (e - 52)
      let half := 2 ^ (e - 53)
      let q' := if half < r ∨ (r = half ∧ q % 2 = 1) then q + 1 else q
      (e + 1022) * 2 ^ 52 + q'

def ofInt (n : Int) : F64 :=
  ⟨BitVec.ofNat 64 ((if n < 0 then 2 ^ 63 else 0) + ofMagnitude n.natAbs)⟩

/-- The significand with its leading bit, which only subnormals lack. -/
def significand (x : F64) : Nat :=
  if x.exponent = 0 then x.fraction else 2 ^ 52 + x.fraction

def scaleExponent : Nat := 1074

/-- How many of the smallest positive double make one. -/
def scale : Nat := 2 ^ scaleExponent

/-- The magnitude of a finite double in units of `1 / scale`. -/
def magnitude (x : F64) : Nat := x.significand * 2 ^ (x.exponent - 1)

/-- The value of a finite double in units of `1 / scale`. -/
def scaled (x : F64) : Int := if x.negative then -x.magnitude else x.magnitude

/-- A finite double that is exactly an integer. -/
def IsInteger (x : F64) (n : Int) : Prop := x.isFinite ∧ x.scaled = n * scale

instance (x : F64) (n : Int) : Decidable (x.IsInteger n) :=
  inferInstanceAs (Decidable (_ ∧ _))

theorem two_le_scale : 2 ≤ scale := Nat.le_self_pow (by decide : scaleExponent ≠ 0) 2

theorem scale_pos : 0 < scale := Nat.lt_of_lt_of_le (by decide) two_le_scale

theorem exponent_lt (x : F64) : x.exponent < 2 ^ 11 := Nat.mod_lt _ (by decide)

theorem fraction_lt (x : F64) : x.fraction < 2 ^ 52 := Nat.mod_lt _ (by decide)

theorem toNat_bits (x : F64) :
    x.bits.toNat = (if x.negative then 2 ^ 63 else 0) + x.exponent * 2 ^ 52 + x.fraction := by
  have hlt := x.bits.isLt
  unfold negative exponent fraction
  by_cases hneg : 2 ^ 63 ≤ x.bits.toNat
  · simp only [hneg, decide_true, if_true]
    omega
  · simp only [hneg, decide_false, Bool.false_eq_true, if_false]
    omega

/-- Between the scale of a double and the integers there is a factor that is no
power of two small enough to matter: the magnitude of a nonzero double is never an
integer `r` whose own size follows the double's exponent field. -/
private theorem magnitude_ne_low (x : F64) (r : Nat) (he : 1 ≤ x.exponent)
    (hlow : x.exponent ≤ 1075) (hr : 2 ^ 52 + x.fraction ≤ r)
    (hstrict : x.exponent = 1075 → 2 ^ 52 + x.fraction < r) :
    x.magnitude ≠ r * scale := by
  intro h
  have hsplit : scale = 2 ^ (1075 - x.exponent) * 2 ^ (x.exponent - 1) := by
    unfold scale
    rw [← pow_add]
    congr 1
    unfold scaleExponent
    omega
  have hne : x.exponent ≠ 0 := by omega
  unfold magnitude significand at h
  rw [if_neg hne, hsplit, ← Nat.mul_assoc] at h
  have hcancel := Nat.eq_of_mul_eq_mul_right (Nat.two_pow_pos _) h
  by_cases htop : x.exponent = 1075
  · have hlt := hstrict htop
    rw [htop] at hcancel
    omega
  · have htwo : 2 ≤ 2 ^ (1075 - x.exponent) := by
      calc 2 = 2 ^ 1 := rfl
        _ ≤ 2 ^ (1075 - x.exponent) := Nat.pow_le_pow_right (by decide) (by omega)
    have hmul : r * 2 ≤ r * 2 ^ (1075 - x.exponent) := Nat.mul_le_mul_left r htwo
    omega

private theorem magnitude_high (x : F64) (r : Nat) (hhigh : 1075 < x.exponent)
    (h : x.magnitude = r * scale) :
    (2 ^ 52 + x.fraction) * 2 ^ (x.exponent - 1075) = r := by
  have hsplit : 2 ^ (x.exponent - 1) = 2 ^ (x.exponent - 1075) * scale := by
    unfold scale
    rw [← pow_add]
    congr 1
    unfold scaleExponent
    omega
  have hne : x.exponent ≠ 0 := by omega
  unfold magnitude significand at h
  rw [if_neg hne, hsplit, ← Nat.mul_assoc] at h
  exact Nat.eq_of_mul_eq_mul_right scale_pos h

/-- A product with so many trailing zeros stays below `2 ^ 63` only for a small shift. -/
private theorem shift_le_ten {f k r : Nat} (hr : r < 2 ^ 63) (h : (2 ^ 52 + f) * 2 ^ k = r) :
    k ≤ 10 := by
  by_contra hk
  have hpow : 2 ^ 11 ≤ 2 ^ k := Nat.pow_le_pow_right (by decide) (by omega)
  have hmul : (2 ^ 52 + f) * 2 ^ 11 ≤ (2 ^ 52 + f) * 2 ^ k := Nat.mul_le_mul_left _ hpow
  omega

private theorem magnitude_ne_positive (x : F64) (hbits : 0 < x.exponent * 2 ^ 52 + x.fraction) :
    x.magnitude ≠ (x.exponent * 2 ^ 52 + x.fraction) * scale := by
  have hfrac := x.fraction_lt
  have hexp := x.exponent_lt
  by_cases hzero : x.exponent = 0
  · intro h
    unfold magnitude significand at h
    rw [if_pos hzero, hzero] at h
    have hmul := Nat.mul_le_mul_left (0 * 2 ^ 52 + x.fraction) two_le_scale
    omega
  by_cases hlow : x.exponent ≤ 1075
  · apply magnitude_ne_low x _ (by omega) hlow (by omega)
    omega
  · intro h
    have heq := magnitude_high x _ (by omega) h
    have hk := shift_le_ten (by omega) heq
    generalize hke : x.exponent - 1075 = k at heq hk
    have hexponent : x.exponent = k + 1075 := by omega
    rw [hexponent] at heq
    interval_cases k <;> omega

private theorem magnitude_ne_negative (x : F64) :
    x.magnitude ≠ (2 ^ 63 - (x.exponent * 2 ^ 52 + x.fraction)) * scale := by
  have hfrac := x.fraction_lt
  have hexp := x.exponent_lt
  by_cases hzero : x.exponent = 0
  · intro h
    unfold magnitude significand at h
    rw [if_pos hzero, hzero] at h
    have hmul := Nat.mul_le_mul_left (2 ^ 63 - (0 * 2 ^ 52 + x.fraction)) two_le_scale
    omega
  by_cases hlow : x.exponent ≤ 1075
  · apply magnitude_ne_low x _ (by omega) hlow (by omega)
    omega
  · intro h
    have heq := magnitude_high x _ (by omega) h
    have hk := shift_le_ten (by omega) heq
    generalize hke : x.exponent - 1075 = k at heq hk
    have hexponent : x.exponent = k + 1075 := by omega
    rw [hexponent] at heq
    interval_cases k <;> omega

/-- The bits of a double, read as a signed integer, spell its value only at positive zero. -/
theorem isInteger_bits_iff (x : F64) : x.IsInteger x.bits.toInt ↔ x.bits = 0 := by
  have hbits := x.toNat_bits
  have hexp := x.exponent_lt
  have hfrac := x.fraction_lt
  unfold IsInteger scaled
  rw [BitVec.toInt_eq_toNat_cond]
  by_cases hneg : x.negative
  · simp only [hneg, if_true] at hbits ⊢
    have hbig : ¬ 2 * x.bits.toNat < 2 ^ 64 := by omega
    have hpos : x.bits ≠ 0 := by
      intro h
      rw [h] at hbits
      have hz : (0 : BitVec 64).toNat = 0 := rfl
      omega
    rw [if_neg hbig]
    refine ⟨fun ⟨_, h⟩ => absurd ?_ (magnitude_ne_negative x), fun h => absurd h hpos⟩
    have hint : ((x.bits.toNat : Int) - (2 ^ 64 : Nat)) =
        -((2 ^ 63 - (x.exponent * 2 ^ 52 + x.fraction) : Nat) : Int) := by omega
    rw [hint, Int.neg_mul, Int.neg_inj] at h
    exact_mod_cast h
  · simp only [hneg, Bool.false_eq_true, if_false, Nat.zero_add] at hbits ⊢
    have hsmall : 2 * x.bits.toNat < 2 ^ 64 := by omega
    rw [if_pos hsmall, hbits]
    by_cases hzero : x.exponent * 2 ^ 52 + x.fraction = 0
    · have hb : x.bits = 0 := BitVec.eq_of_toNat_eq (by rw [hbits, hzero]; rfl)
      have he : x.exponent = 0 := by omega
      have hf : x.fraction = 0 := by omega
      have hm : x.magnitude = 0 := by
        unfold magnitude significand
        rw [if_pos he, hf, Nat.zero_mul]
      have hfin : x.isFinite := by simp [isFinite, he]
      simp only [hb, iff_true, hzero, hm]
      exact ⟨hfin, (Int.zero_mul _).symm⟩
    · have hb : x.bits ≠ 0 := by
        intro h
        rw [h] at hbits
        exact hzero hbits.symm
      refine ⟨fun ⟨_, h⟩ => absurd ?_ (magnitude_ne_positive x (by omega)),
        fun h => absurd h hb⟩
      exact_mod_cast h

end F64

end Framework
