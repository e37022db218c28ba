import Mathlib.Tactic.Positivity
import Mathlib.Tactic.Ring

/-!
# Integers and text as bytes

Big-endian naturals, two's-complement integers and UTF-8, each with its reading.
-/

namespace Framework

/-- The `w` low bytes of a natural number, most significant first. -/
def beBytes : Nat → Nat → List UInt8
  | 0, _ => []
  | w + 1, n => beBytes w (n / 256) ++ [UInt8.ofNat n]

/-- The natural number big-endian bytes spell. -/
def ofBe (bytes : List UInt8) : Nat := bytes.foldl (fun acc b => acc * 256 + b.toNat) 0

def beSigned (w : Nat) (int : Int) : List UInt8 := beBytes w (int % (256 ^ w : Nat)).toNat

/-- The integer two's-complement bytes spell. -/
def ofBeSigned (bytes : List UInt8) : Int := (ofBe bytes : Int).bmod (256 ^ bytes.length)

/-- The UTF-8 bytes of a text. -/
def utf8Bytes (text : String) : List UInt8 := text.toUTF8.data.toList

/-- The text UTF-8 bytes spell, if they are valid. -/
def ofUtf8 (bytes : List UInt8) : Option String := String.fromUTF8? ⟨bytes.toArray⟩

@[simp] theorem length_beBytes (w n : Nat) : (beBytes w n).length = w := by
  induction w generalizing n with
  | zero => rfl
  | succ w ih => simp [beBytes, ih]

theorem ofBe_concat (bytes : List UInt8) (b : UInt8) :
    ofBe (bytes ++ [b]) = ofBe bytes * 256 + b.toNat := by
  unfold ofBe
  rw [List.foldl_append]
  rfl

theorem ofBe_beBytes (w n : Nat) : ofBe (beBytes w n) = n % 256 ^ w := by
  induction w generalizing n with
  | zero => simp [beBytes, ofBe, Nat.mod_one]
  | succ w ih =>
    have hbyte : (UInt8.ofNat n).toNat = n % 256 := by simp
    rw [beBytes, ofBe_concat, ih, hbyte, pow_succ, Nat.mul_comm (256 ^ w) 256,
      Nat.mod_mul]
    ring

@[simp] theorem length_beSigned (w : Nat) (int : Int) : (beSigned w int).length = w :=
  length_beBytes w _

theorem ofBe_beSigned (w : Nat) (int : Int) :
    (ofBe (beSigned w int) : Int) = int % (256 ^ w : Nat) := by
  have hpos : (0 : Int) < (256 ^ w : Nat) := by positivity
  have hnonneg := Int.emod_nonneg int (Int.ne_of_gt hpos)
  have hlt := Int.emod_lt_of_pos int hpos
  unfold beSigned
  rw [ofBe_beBytes, Nat.mod_eq_of_lt (by omega)]
  omega

/-- Two's complement reads back every integer that fits. -/
theorem ofBeSigned_beSigned {w : Nat} {int : Int} (hlow : -(256 ^ w : Nat) ≤ int * 2)
    (hhigh : int * 2 < (256 ^ w : Nat)) : ofBeSigned (beSigned w int) = int := by
  unfold ofBeSigned
  rw [ofBe_beSigned, length_beSigned, Int.emod_bmod]
  exact Int.bmod_eq_of_le_mul_two hlow hhigh

theorem ofBe_beSigned_eq_iff {w : Nat} {int : Int} (hhigh : int < (256 ^ w : Nat)) :
    (ofBe (beSigned w int) : Int) = int ↔ 0 ≤ int := by
  rw [ofBe_beSigned]
  constructor
  · intro h
    rw [← h]
    exact Int.emod_nonneg int (by positivity)
  · intro h
    exact Int.emod_eq_of_lt h hhigh

@[simp] theorem ofUtf8_utf8Bytes (text : String) : ofUtf8 (utf8Bytes text) = some text := by
  unfold ofUtf8 utf8Bytes
  simp only [Array.toArray_toList, String.fromUTF8?, String.toUTF8_eq_toByteArray]
  rw [dif_pos text.isValidUTF8]
  rfl

end Framework
