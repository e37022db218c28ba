import Fabricd.Framework.Bytes
import Mathlib.Data.List.GetD
import Mathlib.Data.List.Nodup

/-!
# Text encodings of bytes

Hexadecimal and base64 texts, each of which determines the bytes it was made from.
-/

namespace Framework

def digitOf (alphabet : List Char) (n : Nat) : Char := alphabet.getD n '='

theorem digitOf_inj {alphabet : List Char} (h : alphabet.Nodup) {m n : Nat}
    (hm : m < alphabet.length) (hn : n < alphabet.length)
    (heq : digitOf alphabet m = digitOf alphabet n) : m = n := by
  unfold digitOf at heq
  rw [List.getD_eq_getElem _ _ hm, List.getD_eq_getElem _ _ hn] at heq
  exact h.getElem_inj_iff.mp heq

theorem digitOf_mem {alphabet : List Char} {n : Nat} (h : n < alphabet.length) :
    digitOf alphabet n ∈ alphabet := by
  unfold digitOf
  rw [List.getD_eq_getElem _ _ h]
  exact List.getElem_mem h

/-! ## Hexadecimal -/

def hexAlphabet : List Char := "0123456789abcdef".toList

/-- Two digits for each byte, high half first. -/
def hexText (bytes : List UInt8) : String :=
  .ofList (bytes.flatMap fun b =>
    [digitOf hexAlphabet (b.toNat / 16), digitOf hexAlphabet (b.toNat % 16)])

theorem hexAlphabet_nodup : hexAlphabet.Nodup := by decide

theorem hexAlphabet_length : hexAlphabet.length = 16 := rfl

theorem hexDigits_inj {a b : UInt8}
    (hhigh : digitOf hexAlphabet (a.toNat / 16) = digitOf hexAlphabet (b.toNat / 16))
    (hlow : digitOf hexAlphabet (a.toNat % 16) = digitOf hexAlphabet (b.toNat % 16)) : a = b := by
  have ha := a.toNat_lt
  have hb := b.toNat_lt
  have hquot : a.toNat / 16 = b.toNat / 16 := by
    apply digitOf_inj hexAlphabet_nodup _ _ hhigh <;> rw [hexAlphabet_length] <;> omega
  have hrem : a.toNat % 16 = b.toNat % 16 := by
    apply digitOf_inj hexAlphabet_nodup _ _ hlow <;> rw [hexAlphabet_length] <;> omega
  apply UInt8.toNat_inj.mp
  omega

theorem hexText_injective : Function.Injective hexText := by
  intro xs ys h
  replace h := String.ofList_injective h
  induction xs generalizing ys with
  | nil =>
    cases ys with
    | nil => rfl
    | cons y ys => simp at h
  | cons x xs ih =>
    cases ys with
    | nil => simp at h
    | cons y ys =>
      simp only [List.flatMap_cons, List.cons_append, List.nil_append, List.cons.injEq] at h
      obtain ⟨hhigh, hlow, hrest⟩ := h
      rw [hexDigits_inj hhigh hlow, ih hrest]

/-! ## Base64 -/

def base64Alphabet : List Char :=
  "ABCDEFGHIJKLMNOPQRSTUVWXYZabcdefghijklmnopqrstuvwxyz0123456789+/".toList

/-- The four digits of three bytes. -/
def base64Group (a b c : Nat) : List Char :=
  [a / 4, a % 4 * 16 + b / 16, b % 16 * 4 + c / 64, c % 64].map (digitOf base64Alphabet)

/-- Groups of three bytes, the last one padded. -/
def base64Chars : List UInt8 → List Char
  | [] => []
  | [a] => (base64Group a.toNat 0 0).take 2 ++ ['=', '=']
  | [a, b] => (base64Group a.toNat b.toNat 0).take 3 ++ ['=']
  | a :: b :: c :: rest => base64Group a.toNat b.toNat c.toNat ++ base64Chars rest

def base64Text (bytes : List UInt8) : String := .ofList (base64Chars bytes)

theorem base64Alphabet_nodup : base64Alphabet.Nodup := by decide +kernel

theorem base64Alphabet_length : base64Alphabet.length = 64 := rfl

theorem base64Digit_inj {m n : Nat} (hm : m < 64) (hn : n < 64)
    (h : digitOf base64Alphabet m = digitOf base64Alphabet n) : m = n :=
  digitOf_inj base64Alphabet_nodup (base64Alphabet_length ▸ hm) (base64Alphabet_length ▸ hn) h

theorem base64Digit_ne {n : Nat} (h : n < 64) : digitOf base64Alphabet n ≠ '=' := by
  have hmem := digitOf_mem (base64Alphabet_length ▸ h)
  intro heq
  rw [heq] at hmem
  revert hmem
  decide

/-- The digits of a group give its three bytes back. -/
theorem base64Group_inj {a b c a' b' c' : UInt8}
    (h : base64Group a.toNat b.toNat c.toNat = base64Group a'.toNat b'.toNat c'.toNat) :
    a = a' ∧ b = b' ∧ c = c' := by
  have ha := a.toNat_lt
  have hb := b.toNat_lt
  have hc := c.toNat_lt
  have ha' := a'.toNat_lt
  have hb' := b'.toNat_lt
  have hc' := c'.toNat_lt
  simp only [base64Group, List.map_cons, List.map_nil, List.cons.injEq, and_true] at h
  obtain ⟨h₁, h₂, h₃, h₄⟩ := h
  replace h₁ := base64Digit_inj (by omega) (by omega) h₁
  replace h₂ := base64Digit_inj (by omega) (by omega) h₂
  replace h₃ := base64Digit_inj (by omega) (by omega) h₃
  replace h₄ := base64Digit_inj (by omega) (by omega) h₄
  refine ⟨UInt8.toNat_inj.mp ?_, UInt8.toNat_inj.mp ?_, UInt8.toNat_inj.mp ?_⟩ <;> omega

theorem base64Group_third (a b c : UInt8) :
    (base64Group a.toNat b.toNat c.toNat)[2]? ≠ some '=' := by
  have hb := b.toNat_lt
  have hc := c.toNat_lt
  intro h
  exact base64Digit_ne (by omega) (Option.some.inj h)

theorem base64Group_fourth (a b c : UInt8) :
    (base64Group a.toNat b.toNat c.toNat)[3]? ≠ some '=' := by
  have hc := c.toNat_lt
  intro h
  exact base64Digit_ne (by omega) (Option.some.inj h)

theorem base64Group_two (a b : UInt8) : base64Group a.toNat b.toNat (0 : UInt8).toNat =
    (base64Group a.toNat b.toNat 0).take 3 ++ ['A'] := rfl

theorem base64Group_one (a : UInt8) :
    base64Group a.toNat (0 : UInt8).toNat (0 : UInt8).toNat =
      (base64Group a.toNat 0 0).take 2 ++ ['A', 'A'] := rfl

theorem base64Chars_injective : Function.Injective base64Chars := by
  intro xs
  induction xs using base64Chars.induct with
  | case1 =>
    intro ys h
    cases ys using base64Chars.fun_cases with
    | case1 => rfl
    | _ => simp [base64Chars, base64Group] at h
  | case2 a =>
    intro ys h
    cases ys using base64Chars.fun_cases with
    | case1 => simp [base64Chars, base64Group] at h
    | case2 a' =>
      have hgroup := base64Group_one a
      rw [List.append_cancel_right h, ← base64Group_one a'] at hgroup
      rw [(base64Group_inj hgroup).1]
    | case3 a' b' => exact absurd (congrArg (·[2]?) h).symm (base64Group_third a' b' 0)
    | case4 a' b' c' rest => exact absurd (congrArg (·[2]?) h).symm (base64Group_third a' b' c')
  | case3 a b =>
    intro ys h
    cases ys using base64Chars.fun_cases with
    | case1 => simp [base64Chars, base64Group] at h
    | case2 a' => exact absurd (congrArg (·[2]?) h) (base64Group_third a b 0)
    | case3 a' b' =>
      have hgroup := base64Group_two a b
      rw [List.append_cancel_right h, ← base64Group_two a' b'] at hgroup
      obtain ⟨ha, hb, -⟩ := base64Group_inj hgroup
      rw [ha, hb]
    | case4 a' b' c' rest => exact absurd (congrArg (·[3]?) h).symm (base64Group_fourth a' b' c')
  | case4 a b c rest ih =>
    intro ys h
    cases ys using base64Chars.fun_cases with
    | case1 => simp [base64Chars, base64Group] at h
    | case2 a' => exact absurd (congrArg (·[2]?) h) (base64Group_third a b c)
    | case3 a' b' => exact absurd (congrArg (·[3]?) h) (base64Group_fourth a b c)
    | case4 a' b' c' rest' =>
      obtain ⟨hgroup, hrest⟩ := List.append_inj h rfl
      obtain ⟨ha, hb, hc⟩ := base64Group_inj hgroup
      rw [ha, hb, hc, ih hrest]

theorem base64Text_injective : Function.Injective base64Text := by
  intro xs ys h
  exact base64Chars_injective (String.ofList_injective h)

/-- The text of three bytes and of one. -/
example : base64Text [77, 97, 110, 77] = "TWFuTQ==" := by decide

end Framework
