import Fabricd.Framework.Binary64

/-!
# JSON values

`serde_json::Value` as the daemon links it: numbers keep the three forms of
`serde_json::Number`, and objects keep insertion order (`bson` turns the
`preserve_order` feature on for the whole build).
-/

namespace Fabricd

open Framework

/-- `serde_json::Number`: a `u64`, a negative `i64`, or a finite double. -/
inductive Number where
  | posInt (n : UInt64)
  | negInt (n : Int64)
  | float (x : F64)
  deriving DecidableEq

inductive Json where
  | null
  | bool (flag : Bool)
  | number (num : Number)
  | string (text : String)
  | array (items : List Json)
  | object (fields : List (String × Json))

namespace Number

def asI64 : Number → Option Int
  | posInt n => if n.toNat < 2 ^ 63 then some n.toNat else none
  | negInt n => some n.toInt
  | float _ => none

def asU64 : Number → Option UInt64
  | posInt n => some n
  | negInt _ => none
  | float _ => none

def asF64 : Number → F64
  | posInt n => F64.ofInt n.toNat
  | negInt n => F64.ofInt n.toInt
  | float x => x

/-- `Number::from_f64`: only a finite double is a JSON number. -/
def fromF64 (x : F64) : Option Number := if x.isFinite then some (float x) else none

theorem asI64_range {num : Number} {k : Int} (h : num.asI64 = some k) :
    -2 ^ 63 ≤ k ∧ k < 2 ^ 63 := by
  cases num with
  | posInt n =>
    simp only [asI64] at h
    split at h
    · cases h
      omega
    · cases h
  | negInt n =>
    cases h
    exact ⟨n.le_toInt, n.toInt_lt⟩
  | float x => cases h

end Number

namespace Json

/-- `Map::insert` on an insertion-ordered map: an existing key keeps its place. -/
def insert : List (String × Json) → String → Json → List (String × Json)
  | [], key, val => [(key, val)]
  | (k, v) :: fields, key, val =>
    if k = key then (k, val) :: fields else (k, v) :: insert fields key val

/-- `Value::get` with a string index. -/
def get (key : String) : Json → Option Json
  | object fields => (fields.find? (fun field => field.1 == key)).map Prod.snd
  | _ => none

def isNull : Json → Bool
  | null => true
  | _ => false

def asStr : Json → Option String
  | string text => some text
  | _ => none

def asBool : Json → Option Bool
  | bool flag => some flag
  | _ => none

def asU64 : Json → Option UInt64
  | number num => num.asU64
  | _ => none

/-- `Value::from` of a `usize`, which is at most a `u64` wide. -/
def ofUsize (n : Nat) : Json := number (.posInt (UInt64.ofNat n))

/-- `Value::from` of a signed machine integer. -/
def ofInt (n : Int) : Json :=
  number (if 0 ≤ n then .posInt (UInt64.ofNat n.toNat) else .negInt (Int64.ofInt n))

/-- `Value::from` of an optional string: absent is `null`. -/
def ofOption : Option String → Json
  | none => null
  | some text => string text

/-! ## Map lemmas -/

theorem insert_fresh {fields : List (String × Json)} {key : String} (val : Json)
    (h : key ∉ fields.map Prod.fst) : insert fields key val = fields ++ [(key, val)] := by
  induction fields with
  | nil => rfl
  | cons field fields ih =>
    obtain ⟨hne, hfresh⟩ : ¬ key = field.1 ∧ key ∉ fields.map Prod.fst := by simpa using h
    simp only [insert, if_neg (Ne.symm hne), ih hfresh, List.cons_append]

theorem get_insert (fields : List (String × Json)) (key k : String) (val : Json) :
    get k (.object (insert fields key val)) =
      if key = k then some val else get k (.object fields) := by
  induction fields with
  | nil => by_cases hk : key = k <;> simp [insert, get, hk]
  | cons field fields ih =>
    simp only [get] at ih ⊢
    by_cases hf : field.1 = key
    · by_cases hk : key = k <;> simp [insert, hf, hk]
    · by_cases hk : field.1 = k
      · subst hk
        have hne : ¬ key = field.1 := Ne.symm hf
        simp [insert, hf, hne]
      · simpa [insert, hf, hk] using ih

end Json

end Fabricd
