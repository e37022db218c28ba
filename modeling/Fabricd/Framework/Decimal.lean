import Mathlib.Data.List.TakeWhile
import Mathlib.Algebra.Order.Field.Rat
import Mathlib.Tactic.NormNum

/-!
# Decimal notation

The number a decimal text stands for: digits, a sign before them, a point among them.
-/

namespace Framework.Decimal

def readDigits (cs : List Char) : Option Nat :=
  if cs ≠ [] ∧ cs.all Char.isDigit then some (Nat.ofDigitChars 10 cs 0) else none

/-- Digits, or digits around one point. -/
def readUnsigned (cs : List Char) : Option ℚ :=
  match cs.dropWhile (· != '.') with
  | [] => (readDigits cs).map fun (int : ℕ) => (int : ℚ)
  | _ :: frac => do
    let int ← readDigits (cs.takeWhile (· != '.'))
    let part ← readDigits frac
    return (int : ℚ) + (part : ℚ) / 10 ^ frac.length

/-- The number a decimal text stands for. -/
def read (text : String) : Option ℚ :=
  match text.toList with
  | '-' :: cs => (readUnsigned cs).map (- ·)
  | cs => readUnsigned cs

/-- The notation of `mantissa / 10 ^ scale` with all `scale` places. -/
def printUnsigned (mantissa scale : Nat) : List Char :=
  let int := Nat.toDigits 10 (mantissa / 10 ^ scale)
  if scale = 0 then int
  else
    let frac := Nat.toDigits 10 (mantissa % 10 ^ scale)
    int ++ '.' :: (List.replicate (scale - frac.length) '0' ++ frac)

def print (negative : Bool) (mantissa scale : Nat) : String :=
  String.ofList (if negative then '-' :: printUnsigned mantissa scale else printUnsigned mantissa scale)

/-- The number of a sign, a mantissa and a scale. -/
def value (negative : Bool) (mantissa scale : Nat) : ℚ :=
  (if negative then -1 else 1) * ((mantissa : ℚ) / 10 ^ scale)

/-! ## Digits -/

theorem toDigits_isDigit (n : Nat) : (Nat.toDigits 10 n).all Char.isDigit := by
  rw [List.all_eq_true]
  intro c hc
  exact Nat.isDigit_of_mem_toDigits (by decide) (by decide) hc

theorem readDigits_toDigits (n : Nat) : readDigits (Nat.toDigits 10 n) = some n := by
  rw [readDigits, if_pos ⟨Nat.toDigits_ne_nil, toDigits_isDigit n⟩, Nat.ofDigitChars_ten_toDigits]

theorem readDigits_zeros (k n : Nat) :
    readDigits (List.replicate k '0' ++ Nat.toDigits 10 n) = some n := by
  have hdigits : (List.replicate k '0' ++ Nat.toDigits 10 n).all Char.isDigit := by
    rw [List.all_append, toDigits_isDigit, Bool.and_true, List.all_replicate]
    by_cases hk : k = 0 <;> simp [hk]
  have hne : List.replicate k '0' ++ Nat.toDigits 10 n ≠ [] := by
    simp [Nat.toDigits_ne_nil]
  rw [readDigits, if_pos ⟨hne, hdigits⟩, Nat.ofDigitChars_append, Nat.ofDigitChars_replicate_zero,
    Nat.mul_zero, Nat.ofDigitChars_ten_toDigits]

theorem ne_of_isDigit {c d : Char} (hc : c.isDigit) (hd : ¬ d.isDigit) : c ≠ d := by
  intro heq
  rw [heq] at hc
  exact hd hc

theorem no_point {cs : List Char} (h : cs.all Char.isDigit) : ∀ c ∈ cs, (c != '.') = true := by
  intro c hc
  have hne : c ≠ '.' := ne_of_isDigit (List.all_eq_true.mp h c hc) (by decide)
  simpa using hne

theorem readUnsigned_digits {cs : List Char} (h : cs.all Char.isDigit) :
    readUnsigned cs = (readDigits cs).map fun (int : ℕ) => (int : ℚ) := by
  have hdrop : cs.dropWhile (· != '.') = [] := by
    rw [List.dropWhile_eq_nil_iff]
    exact no_point h
  rw [readUnsigned, hdrop]

theorem readUnsigned_point {int frac : List Char} (h : int.all Char.isDigit) {n m : Nat}
    (hint : readDigits int = some n) (hfrac : readDigits frac = some m) :
    readUnsigned (int ++ '.' :: frac) = some ((n : ℚ) + (m : ℚ) / 10 ^ frac.length) := by
  have hdrop : (int ++ '.' :: frac).dropWhile (· != '.') = '.' :: frac := by
    rw [List.dropWhile_append_of_pos (no_point h)]
    rfl
  have htake : (int ++ '.' :: frac).takeWhile (· != '.') = int := by
    rw [List.takeWhile_append_of_pos (no_point h)]
    simp
  unfold readUnsigned
  simp only [hdrop, htake, hint, hfrac]
  rfl

/-! ## Reading back what was printed -/

theorem read_unsigned {cs : List Char} (hne : cs ≠ []) (h : ∀ c ∈ cs.head?, c.isDigit) :
    read (String.ofList cs) = readUnsigned cs := by
  rw [read, String.toList_ofList]
  cases cs with
  | nil => exact absurd rfl hne
  | cons c cs =>
    have hc : c ≠ '-' := ne_of_isDigit (h c rfl) (by decide)
    split
    next heq => exact absurd (List.cons.inj heq).1 hc
    next => rfl

theorem read_negative (cs : List Char) :
    read (String.ofList ('-' :: cs)) = (readUnsigned cs).map (- ·) := by
  unfold read
  simp only [String.toList_ofList]

theorem read_int (k : Int) : read (toString k) = some (k : ℚ) := by
  rw [Int.toString_eq_repr, Int.repr_eq_if]
  split
  next hk =>
    have hread : readUnsigned (Nat.toDigits 10 k.toNat) = some (k : ℚ) := by
      have hcast : ((k.toNat : Int) : ℚ) = (k : ℚ) := congrArg Int.cast (Int.toNat_of_nonneg hk)
      rw [readUnsigned_digits (toDigits_isDigit _), readDigits_toDigits, ← hcast]
      rfl
    rw [Nat.repr_eq_ofList_toDigits, read_unsigned Nat.toDigits_ne_nil ?_, hread]
    intro c hc
    exact List.all_eq_true.mp (toDigits_isDigit _) c (List.mem_of_mem_head? hc)
  next hk =>
    have htext : "-" ++ (-k).toNat.repr = String.ofList ('-' :: Nat.toDigits 10 (-k).toNat) := by
      rw [Nat.repr_eq_ofList_toDigits, ← String.toList_inj]
      simp
    have hcast : (((-k).toNat : Int) : ℚ) = -(k : ℚ) := by
      rw [Int.toNat_of_nonneg (by omega)]
      push_cast
      rfl
    rw [htext, read_negative, readUnsigned_digits (toDigits_isDigit _), readDigits_toDigits]
    have hneg : -(((-k).toNat : ℕ) : ℚ) = (k : ℚ) := by
      rw [← Int.cast_natCast, hcast, neg_neg]
    exact congrArg some hneg

theorem readUnsigned_print (mantissa scale : Nat) :
    readUnsigned (printUnsigned mantissa scale) = some ((mantissa : ℚ) / 10 ^ scale) := by
  unfold printUnsigned
  split
  next hscale =>
    subst hscale
    rw [readUnsigned_digits (toDigits_isDigit _), readDigits_toDigits]
    simp
  next hscale =>
    have hpos : 0 < 10 ^ scale := Nat.pow_pos (by decide)
    have hlen : (Nat.toDigits 10 (mantissa % 10 ^ scale)).length ≤ scale :=
      (Nat.length_toDigits_le_iff (by decide) (Nat.pos_of_ne_zero hscale)).mpr
        (Nat.mod_lt _ hpos)
    have hplaces : (List.replicate (scale - (Nat.toDigits 10 (mantissa % 10 ^ scale)).length) '0' ++
        Nat.toDigits 10 (mantissa % 10 ^ scale)).length = scale := by
      simp only [List.length_append, List.length_replicate]
      omega
    rw [readUnsigned_point (toDigits_isDigit _) (readDigits_toDigits _) (readDigits_zeros _ _),
      hplaces, Option.some.injEq]
    have hten : ((10 : ℚ) ^ scale) ≠ 0 := pow_ne_zero _ (by norm_num)
    have hsplit : ((mantissa / 10 ^ scale : Nat) : ℚ) * 10 ^ scale + (mantissa % 10 ^ scale : Nat) =
        mantissa := by
      have hnat := Nat.div_add_mod' mantissa (10 ^ scale)
      exact_mod_cast hnat
    rw [eq_div_iff hten, add_mul, div_mul_cancel₀ _ hten]
    exact hsplit

theorem printUnsigned_head (mantissa scale : Nat) :
    printUnsigned mantissa scale ≠ [] ∧ ∀ c ∈ (printUnsigned mantissa scale).head?, c.isDigit := by
  have hdigits := toDigits_isDigit (mantissa / 10 ^ scale)
  cases hint : Nat.toDigits 10 (mantissa / 10 ^ scale) with
  | nil => exact absurd hint Nat.toDigits_ne_nil
  | cons d ds =>
    have hd : d.isDigit := List.all_eq_true.mp hdigits d (hint ▸ List.mem_cons_self)
    unfold printUnsigned
    split <;> simp [hint, hd]

/-- A printed decimal reads back as its number. -/
theorem read_print (negative : Bool) (mantissa scale : Nat) :
    read (print negative mantissa scale) = some (value negative mantissa scale) := by
  unfold print value
  cases negative with
  | true =>
    simp only [if_true]
    rw [read_negative, readUnsigned_print]
    simp
  | false =>
    obtain ⟨hne, hhead⟩ := printUnsigned_head mantissa scale
    simp only [Bool.false_eq_true, if_false]
    rw [read_unsigned hne hhead, readUnsigned_print, one_mul]

end Framework.Decimal
