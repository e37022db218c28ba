import Fabricd.Backends.Params

/-!
# What a bound parameter arrives as

The encoder follows the JSON value, the decoder the type the server inferred. Where the
widths coincide the bytes are read back as something else, and the exact cases are stated.
-/

namespace Fabricd.Db

open Framework Postgres

/-- A value the server reads. -/
inductive SqlValue where
  | bool (flag : Bool)
  | int (int : Int)
  | text (text : String)
  deriving DecidableEq

def width : PgType → Option Nat
  | .bool => some 1
  | .int2 => some 2
  | .int4 | .oid => some 4
  | .int8 => some 8
  | _ => none

def isText (type : PgType) : Bool := type == .text || type == .varchar

/-- The server's reading of a parameter in binary format. -/
def decodeBinary (type : PgType) (bytes : List UInt8) : Option SqlValue :=
  match type with
  | .bool => if bytes.length = 1 then some (.bool (ofBe bytes != 0)) else none
  | .int2 => if bytes.length = 2 then some (.int (ofBeSigned bytes)) else none
  | .int4 => if bytes.length = 4 then some (.int (ofBeSigned bytes)) else none
  | .int8 => if bytes.length = 8 then some (.int (ofBeSigned bytes)) else none
  | .oid => if bytes.length = 4 then some (.int (ofBe bytes)) else none
  | .text | .varchar => (ofUtf8 bytes).map .text
  | _ => none

/-- A JSON number and an integer are the same number. -/
def NumberIs (num : Number) (int : Int) : Prop :=
  match num with
  | .posInt n => (n.toNat : Int) = int
  | .negInt n => n.toInt = int
  | .float x => x.IsInteger int

/-- What the server read is the JSON value; an array or object is its JSON text. -/
def SameValue (lib : Lib) : Json → SqlValue → Prop
  | .bool flag, .bool flag' => flag' = flag
  | .number num, .int int => NumberIs num int
  | .string text, .text text' => text' = text
  | .array items, .text text => lib.toStr (.array items) = .ok text
  | .object fields, .text text => lib.toStr (.object fields) = .ok text
  | _, _ => False

/-- If the parameter can be read at all, it is read as the JSON value. -/
def Arrives (lib : Lib) (json : Json) (param : ParamValue) (type : PgType) : Prop :=
  ∀ bytes, toSqlChecked param type = .ok (some bytes) →
    ∀ value, decodeBinary type bytes = some value → SameValue lib json value

/-- When an integer sent in `w` bytes arrives: not as a large unsigned one, and not as
text. -/
def IntKept (w : Nat) (int : Int) (type : PgType) : Prop :=
  (type = .oid → w = 4 → 0 ≤ int) ∧ (isText type → ofUtf8 (beSigned w int) = none)

/-- When a number sent as a double arrives: as an integer only from positive zero, and
not as text. -/
def FloatKept (num : Number) (type : PgType) : Prop :=
  (type = .int8 → num = .float ⟨0⟩) ∧
    (isText type → ofUtf8 (beBytes 8 num.asF64.bits.toNat) = none)

/-- When a text arrives: its length is not the width of the type. -/
def TextKept (text : String) (type : PgType) : Prop :=
  width type ≠ some (utf8Bytes text).length

/-- The condition under which a JSON value bound at a type arrives as itself. -/
def Kept (lib : Lib) (json : Json) (type : PgType) : Prop :=
  match json with
  | .null => True
  | .bool _ => ¬ isText type
  | .number num =>
    match num.asI64 with
    | none => FloatKept num type
    | some int => IntKept (if (i32TryFrom int).isSome then 4 else 8) int type
  | .string text => TextKept text type
  | .array items =>
    match lib.toStr (.array items) with
    | .ok text => TextKept text type
    | .error _ => TextKept "[]" type ∧ ¬ isText type
  | .object fields =>
    match lib.toStr (.object fields) with
    | .ok text => TextKept text type
    | .error _ => TextKept "\x7b\x7d" type ∧ ¬ isText type

private theorem arrives_iff {lib : Lib} {json : Json} {param : ParamValue} {type : PgType}
    {bytes : List UInt8} (h : toSql param type = some bytes) :
    Arrives lib json param type ↔
      ∀ value, decodeBinary type bytes = some value → SameValue lib json value := by
  unfold Arrives toSqlChecked accepts
  rw [h]
  constructor
  · intro harrives
    exact harrives bytes rfl
  · intro hsame bytes' hbytes
    cases hbytes
    exact hsame

private theorem decodeBinary_text {type : PgType} (h : isText type) (bytes : List UInt8) :
    decodeBinary type bytes = (ofUtf8 bytes).map .text := by
  unfold isText at h
  rcases (Bool.or_eq_true _ _).mp h with htype | htype
  · rw [eq_of_beq htype]
    rfl
  · rw [eq_of_beq htype]
    rfl

private theorem width_text {type : PgType} (h : isText type) : width type = none := by
  unfold isText at h
  rcases (Bool.or_eq_true _ _).mp h with htype | htype
  · rw [eq_of_beq htype]
    rfl
  · rw [eq_of_beq htype]
    rfl

private theorem decodeBinary_length {type : PgType} {bytes : List UInt8} {value : SqlValue}
    (htext : ¬ isText type) (h : decodeBinary type bytes = some value) :
    width type = some bytes.length := by
  unfold decodeBinary at h
  split at h
  case h_6 => simp [isText] at htext
  case h_7 => simp [isText] at htext
  case h_8 => cases h
  all_goals
    split at h
    · next hlen => simp [width, hlen]
    · cases h

private theorem decodeBinary_of_width {type : PgType} {bytes : List UInt8}
    (h : width type = some bytes.length) :
    ∃ value, decodeBinary type bytes = some value ∧ ∀ text, value ≠ .text text := by
  unfold width at h
  split at h
  case h_6 => cases h
  all_goals
    have hlen := (Option.some.inj h).symm
    exact ⟨_, if_pos hlen, fun _ hvalue => by cases hvalue⟩

private theorem width_eq_one {type : PgType} (h : width type = some 1) : type = .bool := by
  unfold width at h
  split at h
  · rfl
  all_goals cases h

private theorem width_eq_four {type : PgType} (h : width type = some 4) :
    type = .int4 ∨ type = .oid := by
  unfold width at h
  split at h
  case h_3 => exact .inl rfl
  case h_4 => exact .inr rfl
  all_goals cases h

private theorem width_eq_eight {type : PgType} (h : width type = some 8) : type = .int8 := by
  unfold width at h
  split at h
  case h_5 => rfl
  all_goals cases h

section

variable {lib : Lib} {json : Json} {param : ParamValue} {type : PgType} {bytes : List UInt8}

private theorem arrives_of_width_ne (hbytes : toSql param type = some bytes) (htext : ¬ isText type)
    (hwidth : width type ≠ some bytes.length) : Arrives lib json param type := by
  rw [arrives_iff hbytes]
  intro value hvalue
  exact absurd (decodeBinary_length htext hvalue) hwidth

private theorem arrives_text_iff (hbytes : toSql param type = some bytes) (htext : isText type)
    (hsame : ∀ text, ¬ SameValue lib json (.text text)) :
    Arrives lib json param type ↔ ofUtf8 bytes = none := by
  rw [arrives_iff hbytes, decodeBinary_text htext]
  cases htexts : ofUtf8 bytes with
  | none => simp
  | some text => simp [hsame text]

end

/-! ## Booleans -/

private theorem arrives_bool (lib : Lib) (flag : Bool) (type : PgType) :
    Arrives lib (.bool flag) (.bool flag) type ↔ ¬ isText type := by
  have hbytes : toSql (.bool flag) type = some [if flag then 1 else 0] := rfl
  by_cases htext : isText type
  · have hsame : ∀ text, ¬ SameValue lib (.bool flag) (.text text) := fun _ h => h
    rw [arrives_text_iff hbytes htext hsame]
    cases flag with
    | false =>
      have hvalid : ofUtf8 [0] ≠ none := by decide
      simp [htext, hvalid]
    | true =>
      have hvalid : ofUtf8 [1] ≠ none := by decide
      simp [htext, hvalid]
  · refine ⟨fun _ => htext, fun _ => ?_⟩
    by_cases hwidth : width type = some 1
    · rw [width_eq_one hwidth] at hbytes ⊢
      rw [arrives_iff hbytes]
      intro value hvalue
      cases flag with
      | false =>
        cases hvalue
        rfl
      | true =>
        cases hvalue
        rfl
    · exact arrives_of_width_ne hbytes htext hwidth

/-! ## Integers -/

private theorem numberIs_of_asI64 {num : Number} {int : Int} (h : num.asI64 = some int)
    (other : Int) :
    NumberIs num other ↔ other = int := by
  cases num with
  | posInt n =>
    simp only [Number.asI64] at h
    split at h
    · cases h
      exact eq_comm
    · cases h
  | negInt n =>
    cases h
    exact eq_comm
  | float x => cases h

private theorem arrives_int {lib : Lib} {num : Number} {int : Int} {param : ParamValue} {w : Nat}
    {type : PgType} (hnum : num.asI64 = some int)
    (hbytes : toSql param type = some (beSigned w int)) (hw : w = 4 ∨ w = 8)
    (hlow : -(256 ^ w : Nat) ≤ int * 2) (hhigh : int * 2 < (256 ^ w : Nat)) :
    Arrives lib (.number num) param type ↔ IntKept w int type := by
  have hread := ofBeSigned_beSigned hlow hhigh
  have hlen := length_beSigned w int
  unfold IntKept
  by_cases htext : isText type
  · have hoid : type ≠ .oid := by
      rintro rfl
      cases htext
    have hsame : ∀ text, ¬ SameValue lib (.number num) (.text text) := fun _ h => h
    rw [arrives_text_iff hbytes htext hsame]
    simp [htext, hoid]
  simp only [htext, Bool.false_eq_true, false_implies, and_true]
  by_cases hwidth : width type = some w
  · have hsigned (hdecode : decodeBinary type (beSigned w int) = some (.int int)) :
        Arrives lib (.number num) param type := by
      rw [arrives_iff hbytes, hdecode]
      intro value hvalue
      cases hvalue
      exact (numberIs_of_asI64 hnum int).mpr rfl
    rcases hw with rfl | rfl
    · rcases width_eq_four hwidth with rfl | rfl
      · have hdecode : decodeBinary .int4 (beSigned 4 int) = some (.int int) := by
          simp [decodeBinary, hlen, hread]
        simp [hsigned hdecode]
      · have hdecode : decodeBinary .oid (beSigned 4 int) =
            some (.int (ofBe (beSigned 4 int))) := by
          simp [decodeBinary, hlen]
        have hrange : int < (256 ^ 4 : Nat) := by omega
        rw [arrives_iff hbytes, hdecode, ← ofBe_beSigned_eq_iff hrange]
        constructor
        · intro h _ _
          exact (numberIs_of_asI64 hnum _).mp (h _ rfl)
        · intro h value hvalue
          cases hvalue
          exact (numberIs_of_asI64 hnum _).mpr (h rfl rfl)
    · have htype := width_eq_eight hwidth
      subst htype
      have hdecode : decodeBinary .int8 (beSigned 8 int) = some (.int int) := by
        simp [decodeBinary, hlen, hread]
      simp [hsigned hdecode]
  · have hne : width type ≠ some (beSigned w int).length := by rwa [hlen]
    refine ⟨?_, fun _ => arrives_of_width_ne hbytes htext hne⟩
    rintro _ rfl rfl
    exact absurd rfl hwidth

/-! ## Doubles -/

private theorem ofBeSigned_double (x : F64) :
    ofBeSigned (beBytes 8 x.bits.toNat) = x.bits.toInt := by
  unfold ofBeSigned
  rw [ofBe_beBytes, length_beBytes, show 256 ^ 8 = 2 ^ 64 from rfl,
    Nat.mod_eq_of_lt x.bits.isLt, BitVec.toInt_eq_toNat_bmod]

private theorem numberIs_double_bits {num : Number} (h : num.asI64 = none) :
    NumberIs num num.asF64.bits.toInt ↔ num = .float ⟨0⟩ := by
  cases num with
  | posInt n =>
    simp only [Number.asI64] at h
    have hbig : ¬ n.toNat < 2 ^ 63 := by
      intro hlt
      rw [if_pos hlt] at h
      cases h
    have hlt := (Number.posInt n).asF64.bits.toInt_lt
    simp only [NumberIs, reduceCtorEq, iff_false]
    omega
  | negInt n => cases h
  | float x =>
    have hbits : (Number.float x).asF64 = x := rfl
    have hsame : NumberIs (.float x) x.bits.toInt ↔ x.IsInteger x.bits.toInt := Iff.rfl
    rw [hbits, hsame, F64.isInteger_bits_iff]
    constructor
    · intro hzero
      exact congrArg Number.float (congrArg F64.mk hzero)
    · intro hzero
      cases hzero
      rfl

private theorem arrives_float {lib : Lib} {num : Number} {type : PgType} (hnum : num.asI64 = none) :
    Arrives lib (.number num) (.float8 num.asF64) type ↔ FloatKept num type := by
  have hbytes : toSql (.float8 num.asF64) type = some (beBytes 8 num.asF64.bits.toNat) := rfl
  have hlen := length_beBytes 8 num.asF64.bits.toNat
  unfold FloatKept
  by_cases htext : isText type
  · have hint : type ≠ .int8 := by
      rintro rfl
      cases htext
    have hsame : ∀ text, ¬ SameValue lib (.number num) (.text text) := fun _ h => h
    rw [arrives_text_iff hbytes htext hsame]
    simp [htext, hint]
  simp only [htext, Bool.false_eq_true, false_implies, and_true]
  by_cases hwidth : width type = some 8
  · have htype := width_eq_eight hwidth
    subst htype
    have hdecode : decodeBinary .int8 (beBytes 8 num.asF64.bits.toNat) =
        some (.int num.asF64.bits.toInt) := by
      simp [decodeBinary, hlen, ofBeSigned_double]
    rw [arrives_iff hbytes, hdecode, ← numberIs_double_bits hnum]
    constructor
    · intro h _
      exact h _ rfl
    · intro h value hvalue
      cases hvalue
      exact h rfl
  · have hne : width type ≠ some (beBytes 8 num.asF64.bits.toNat).length := by rwa [hlen]
    refine ⟨?_, fun _ => arrives_of_width_ne hbytes htext hne⟩
    rintro _ rfl
    exact absurd rfl hwidth

/-! ## Text -/

/-- A text sent for a value that is this text arrives unless its length is the width of
the type, at which it is read as something else. -/
theorem arrives_text {lib : Lib} {json : Json} {text : String} {type : PgType}
    (hsame : ∀ value, SameValue lib json value ↔ value = .text text) :
    Arrives lib json (.text text) type ↔ TextKept text type := by
  have hbytes : toSql (.text text) type = some (utf8Bytes text) := rfl
  unfold TextKept
  by_cases htext : isText type
  · rw [arrives_iff hbytes, decodeBinary_text htext, ofUtf8_utf8Bytes, width_text htext]
    simp [hsame]
  by_cases hwidth : width type = some (utf8Bytes text).length
  · obtain ⟨value, hdecode, hvalue⟩ := decodeBinary_of_width hwidth
    rw [arrives_iff hbytes, hdecode]
    simp [hwidth, hsame, hvalue]
  · simp [hwidth, arrives_of_width_ne hbytes htext hwidth]

private theorem arrives_no_text {lib : Lib} {json : Json} {text : String} {type : PgType}
    (hnone : ∀ value, ¬ SameValue lib json value) :
    Arrives lib json (.text text) type ↔ TextKept text type ∧ ¬ isText type := by
  have hbytes : toSql (.text text) type = some (utf8Bytes text) := rfl
  unfold TextKept
  by_cases htext : isText type
  · rw [arrives_text_iff hbytes htext fun other => hnone _, ofUtf8_utf8Bytes]
    simp [htext]
  by_cases hwidth : width type = some (utf8Bytes text).length
  · obtain ⟨value, hdecode, _⟩ := decodeBinary_of_width hwidth
    rw [arrives_iff hbytes, hdecode]
    simp [hwidth, hnone]
  · simp [hwidth, htext, arrives_of_width_ne hbytes htext hwidth]

private theorem arrives_serialized {lib : Lib} {json : Json} {fallback : String} {type : PgType}
    (hsame : ∀ value,
      SameValue lib json value ↔ ∃ text, value = .text text ∧ lib.toStr json = .ok text) :
    Arrives lib json
        (match lib.toStr json with
        | .ok text => .text text
        | .error _ => .text fallback) type ↔
      match lib.toStr json with
      | .ok text => TextKept text type
      | .error _ => TextKept fallback type ∧ ¬ isText type := by
  cases htext : lib.toStr json with
  | ok text =>
    refine arrives_text fun value => ?_
    rw [hsame, htext]
    simp
  | error err =>
    refine arrives_no_text fun value hvalue => ?_
    obtain ⟨text, _, hok⟩ := (hsame value).mp hvalue
    rw [htext] at hok
    cases hok

/-! ## Every value at every type -/

private theorem arrives_number (lib : Lib) (num : Number) (type : PgType) :
    Arrives lib (.number num) (ParamValue.from lib (.number num)) type ↔
      Kept lib (.number num) type := by
  simp only [ParamValue.from, Kept]
  cases hnum : num.asI64 with
  | none => exact arrives_float hnum
  | some int =>
    obtain ⟨hlow, hhigh⟩ := Number.asI64_range hnum
    by_cases hrange : -2 ^ 31 ≤ int ∧ int < 2 ^ 31
    · have hsmall : i32TryFrom int = some (Int32.ofInt int) := if_pos hrange
      have hint : (Int32.ofInt int).toInt = int :=
        Int32.toInt_ofInt_of_le hrange.1 hrange.2
      simp only [hsmall]
      refine arrives_int hnum ?_ (.inl rfl) (by simp; omega) (by simp; omega)
      simp only [toSql, hint]
      rfl
    · have hlarge : i32TryFrom int = none := if_neg hrange
      have hint : (Int64.ofInt int).toInt = int := Int64.toInt_ofInt_of_le hlow hhigh
      simp only [hlarge]
      refine arrives_int hnum ?_ (.inr rfl) (by simp; omega) (by simp; omega)
      simp only [toSql, hint]
      rfl

private theorem arrives_iff_kept (lib : Lib) (json : Json) (type : PgType) :
    Arrives lib json (ParamValue.from lib json) type ↔ Kept lib json type := by
  cases json with
  | null =>
    refine ⟨fun _ => trivial, fun _ bytes hbytes => ?_⟩
    cases hbytes
  | bool flag => exact arrives_bool lib flag type
  | number num => exact arrives_number lib num type
  | string text =>
    refine arrives_text fun value => ?_
    cases value <;> simp [SameValue]
  | array items =>
    refine arrives_serialized fun value => ?_
    cases value <;> simp [SameValue]
  | object fields =>
    refine arrives_serialized fun value => ?_
    cases value <;> simp [SameValue]

/-- A parameter of a JSON array, bound at a type the server inferred, is read as the JSON
value or not at all, exactly when the value is kept at that type. -/
theorem bound_parameter_kept_iff (lib : Lib) (paramsJson : String) {values : List Json}
    {params : List ParamValue} (hvalues : lib.fromStrArray paramsJson = .ok values)
    (hparams : parseParams lib paramsJson = .ok params) {i : Nat} {json : Json}
    {param : ParamValue} (hjson : values[i]? = some json) (hparam : params[i]? = some param)
    (type : PgType) : Arrives lib json param type ↔ Kept lib json type := by
  unfold parseParams at hparams
  rw [hvalues] at hparams
  cases hparams
  rw [List.getElem?_map, hjson] at hparam
  cases hparam
  exact arrives_iff_kept lib json type

/-- Parsing the array `["12345678"]`. -/
def digitsLib : Lib := { Lib.rejecting with fromStrArray := fun _ => .ok [.string "12345678"] }

theorem bound_parameter_kept_iff_digits :
    Arrives digitsLib (.string "12345678") (.text "12345678") .int8 ↔
      Kept digitsLib (.string "12345678") .int8 :=
  bound_parameter_kept_iff digitsLib "[\"12345678\"]" rfl rfl (i := 0) rfl rfl _

/-- Not every parameter arrives as itself: eight digits bound at `INT8` arrive as the
integer their characters spell. -/
theorem digits_arrive_as_integer :
    ¬ ∀ (lib : Lib) (paramsJson : String) (values : List Json) (params : List ParamValue),
      lib.fromStrArray paramsJson = .ok values → parseParams lib paramsJson = .ok params →
      ∀ (i : Nat) (json : Json) (param : ParamValue) (type : PgType),
        values[i]? = some json → params[i]? = some param → Arrives lib json param type := by
  intro hall
  have harrives := hall digitsLib "[\"12345678\"]" _ _ rfl rfl 0 _ _ .int8 rfl rfl
  have hread : decodeBinary .int8 (utf8Bytes "12345678") = some (.int 3544952156018063160) := by
    decide
  exact harrives _ rfl _ hread

end Fabricd.Db
