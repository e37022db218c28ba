import Fabricd.Backends.Mongo
import Fabricd.Framework.Decimal
import Fabricd.Framework.Encodings

/-!
# Shapes of the documents read back

A BSON value against the JSON it is read as: one shape, and what each leaf keeps.
-/

namespace Fabricd.Mongo

open Framework Mongodb

/-! ## Leaves -/

def isLeaf : Bson → Bool
  | .array _ | .document _ => false
  | _ => true

def isScalar : Json → Bool
  | .array _ | .object _ => false
  | _ => true

/-- The integer of a JSON number that is one. -/
def integer : Json → Option Int
  | .number (.posInt n) => some n.toNat
  | .number (.negInt n) => some n.toInt
  | _ => none

/-- The integer of an `Int32`. -/
def int32 : Bson → Option Int
  | .int32 int => some int.toInt
  | _ => none

/-- `Null`, and the doubles JSON has no number for. -/
def isVoid : Bson → Bool
  | .null => true
  | .double num => !num.isFinite
  | _ => false

mutual

def leaves : Bson → List Bson
  | .array items => leavesItems items
  | .document doc => leavesFields doc
  | leaf => [leaf]

def leavesItems : List Bson → List Bson
  | [] => []
  | item :: items => leaves item ++ leavesItems items

def leavesFields : Document → List Bson
  | [] => []
  | (_, val) :: fields => leaves val ++ leavesFields fields

end

mutual

def scalars : Json → List Json
  | .array items => scalarsItems items
  | .object fields => scalarsFields fields
  | scalar => [scalar]

def scalarsItems : List Json → List Json
  | [] => []
  | item :: items => scalars item ++ scalarsItems items

def scalarsFields : List (String × Json) → List Json
  | [] => []
  | (_, val) :: fields => scalars val ++ scalarsFields fields

end

mutual

/-- No document in the value repeats a key. -/
def distinctKeys : Bson → Bool
  | .array items => distinctKeysItems items
  | .document doc => (doc.map Prod.fst).Nodup && distinctKeysFields doc
  | _ => true

def distinctKeysItems : List Bson → Bool
  | [] => true
  | item :: items => distinctKeys item && distinctKeysItems items

def distinctKeysFields : Document → Bool
  | [] => true
  | (_, val) :: fields => distinctKeys val && distinctKeysFields fields

end

/-- What is found of a leaf in its JSON value, given readers of hexadecimal and base64. -/
def Kept (readHex readBase64 : String → Option (List UInt8)) (json : Json) : Bson → Prop
  | .double num => json = if num.isFinite then .number (.float num) else .null
  | .string text => json = .string text
  | .boolean flag => json = .bool flag
  | .null => json = .null
  | .int32 int => integer json = some int.toInt
  | .int64 int => ∃ text, json = .string text ∧ Decimal.read text = some (int.toInt : ℚ)
  | .objectId oid => ∃ text, json = .string text ∧ readHex text = some oid
  | .binary bytes => ∃ text, json = .string text ∧ readBase64 text = some bytes
  | .decimal128 _ | .dateTime _ | .exotic _ => ∃ text, json = .string text
  | .array _ | .document _ => False

/-- Two values of one shape with related leaves: arrays element by element, documents with
the same keys value by value. -/
inductive Mirrors (Leaf : Json → Bson → Prop) : Json → Bson → Prop where
  | leaf {json : Json} {value : Bson} :
      isScalar json → isLeaf value → Leaf json value → Mirrors Leaf json value
  | array {jsons : List Json} {items : List Bson} :
      List.Forall₂ (Mirrors Leaf) jsons items → Mirrors Leaf (.array jsons) (.array items)
  | document {fields : List (String × Json)} {doc : Document} :
      fields.map Prod.fst = doc.map Prod.fst →
      List.Forall₂ (Mirrors Leaf) (fields.map Prod.snd) (doc.map Prod.snd) →
      Mirrors Leaf (.object fields) (.document doc)

/-! ## The conversion -/

private theorem documentFields_append (lib : Lib) (obj : List (String × Json)) (doc : Document)
    (h : (obj.map Prod.fst ++ doc.map Prod.fst).Nodup) :
    documentFields lib obj doc =
      obj ++ doc.map fun field => (field.1, bsonToJson lib field.2) := by
  induction doc generalizing obj with
  | nil => simp [documentFields]
  | cons field fields ih =>
    obtain ⟨key, val⟩ := field
    simp only [List.map_cons] at h
    have hfresh : key ∉ obj.map Prod.fst := fun hmem =>
      (List.nodup_append.mp h).2.2 key hmem key List.mem_cons_self rfl
    have hrest : ((obj ++ [(key, bsonToJson lib val)]).map Prod.fst ++ fields.map Prod.fst).Nodup := by
      simpa using h
    rw [documentFields, Json.insert_fresh _ hfresh, ih _ hrest, List.append_assoc]
    rfl

private theorem arrayToJson_map (lib : Lib) (items : List Bson) :
    arrayToJson lib items = items.map (bsonToJson lib) := by
  induction items with
  | nil => rfl
  | cons item items ih => simp only [arrayToJson, List.map_cons, ih]

section Conversion

variable {lib : Lib} {Leaf : Json → Bson → Prop}

mutual

/-- A conversion right on the leaves mirrors every value without repeated keys. -/
theorem bsonToJson_mirrors (hscalar : ∀ value, isLeaf value → isScalar (bsonToJson lib value))
    (hleaf : ∀ value, isLeaf value → Leaf (bsonToJson lib value) value) (value : Bson)
    (h : distinctKeys value) : Mirrors Leaf (bsonToJson lib value) value := by
  cases value with
  | array items =>
    simp only [distinctKeys] at h
    rw [bsonToJson, arrayToJson_map]
    exact .array (mirrors_items hscalar hleaf items h)
  | document doc =>
    simp only [distinctKeys, Bool.and_eq_true, decide_eq_true_eq] at h
    have hfields := documentFields_append lib [] doc (by simpa using h.1)
    rw [bsonToJson, hfields, List.nil_append]
    apply Mirrors.document
    · simp
    · rw [List.map_map]
      exact mirrors_fields hscalar hleaf doc h.2
  | _ => exact .leaf (hscalar _ rfl) rfl (hleaf _ rfl)

private theorem mirrors_items (hscalar : ∀ value, isLeaf value → isScalar (bsonToJson lib value))
    (hleaf : ∀ value, isLeaf value → Leaf (bsonToJson lib value) value) (items : List Bson)
    (h : distinctKeysItems items) :
    List.Forall₂ (Mirrors Leaf) (items.map (bsonToJson lib)) items := by
  cases items with
  | nil => exact .nil
  | cons item items =>
    simp only [distinctKeysItems, Bool.and_eq_true] at h
    exact .cons (bsonToJson_mirrors hscalar hleaf item h.1) (mirrors_items hscalar hleaf items h.2)

private theorem mirrors_fields (hscalar : ∀ value, isLeaf value → isScalar (bsonToJson lib value))
    (hleaf : ∀ value, isLeaf value → Leaf (bsonToJson lib value) value) (doc : Document)
    (h : distinctKeysFields doc) :
    List.Forall₂ (Mirrors Leaf) (doc.map fun field => bsonToJson lib field.2)
      (doc.map Prod.snd) := by
  cases doc with
  | nil => exact .nil
  | cons field fields =>
    obtain ⟨key, val⟩ := field
    simp only [distinctKeysFields, Bool.and_eq_true] at h
    exact .cons (bsonToJson_mirrors hscalar hleaf val h.1) (mirrors_fields hscalar hleaf fields h.2)

end

mutual

private theorem Mirrors.leaves (value : Bson) {json : Json} (h : Mirrors Leaf json value) :
    List.Forall₂ Leaf (scalars json) (leaves value) := by
  cases h with
  | leaf hscalar hisLeaf hleaf =>
    have hjson : scalars json = [json] := by
      cases json <;> first | rfl | cases hscalar
    have hvalue : Mongo.leaves value = [value] := by
      cases value <;> first | rfl | cases hisLeaf
    rw [hjson, hvalue]
    exact .cons hleaf .nil
  | @array jsons items hitems =>
    simp only [scalars, Mongo.leaves]
    exact Mirrors.leavesItems items hitems
  | @document fields doc hkeys hvals =>
    simp only [scalars, Mongo.leaves]
    exact Mirrors.leavesFields doc hvals

private theorem Mirrors.leavesItems (items : List Bson) {jsons : List Json}
    (h : List.Forall₂ (Mirrors Leaf) jsons items) :
    List.Forall₂ Leaf (scalarsItems jsons) (leavesItems items) := by
  cases h with
  | nil => exact .nil
  | @cons json item jsons items hitem hitems =>
    exact List.rel_append (Mirrors.leaves item hitem) (Mirrors.leavesItems items hitems)

private theorem Mirrors.leavesFields (doc : Document) {fields : List (String × Json)}
    (h : List.Forall₂ (Mirrors Leaf) (fields.map Prod.snd) (doc.map Prod.snd)) :
    List.Forall₂ Leaf (scalarsFields fields) (leavesFields doc) := by
  cases doc with
  | nil =>
    cases fields with
    | nil => exact .nil
    | cons field fields => cases h
  | cons pair pairs =>
    obtain ⟨key, val⟩ := pair
    cases fields with
    | nil => cases h
    | cons field fields =>
      obtain ⟨hval, hvals⟩ := List.forall₂_cons.mp h
      exact List.rel_append (Mirrors.leaves val hval) (Mirrors.leavesFields pairs hvals)

end

end Conversion

/-! ## What the leaves keep -/

private theorem isScalar_bsonToJson (lib : Lib) (value : Bson) (h : isLeaf value) :
    isScalar (bsonToJson lib value) := by
  cases value with
  | double num =>
    simp only [bsonToJson]
    split <;> rfl
  | dateTime date =>
    simp only [bsonToJson]
    split <;> rfl
  | array items => cases h
  | document doc => cases h
  | _ => rfl

private theorem integer_ofInt {k : Int} (hlow : -2 ^ 63 ≤ k) (hhigh : k < 2 ^ 63) :
    integer (.ofInt k) = some k := by
  by_cases hk : 0 ≤ k
  · have hwide : k.toNat < 2 ^ 64 := by omega
    have hnat : (UInt64.ofNat k.toNat).toNat = k.toNat := UInt64.toNat_ofNat_of_lt' hwide
    rw [Json.ofInt, if_pos hk, integer, hnat, Int.toNat_of_nonneg hk]
  · rw [Json.ofInt, if_neg hk, integer, Int64.toInt_ofInt_of_le hlow hhigh]

private theorem kept_bsonToJson (lib : Lib) {readHex readBase64 : String → Option (List UInt8)}
    (hhex : ∀ oid, readHex (lib.toHex oid) = some oid)
    (hbase64 : ∀ bytes, readBase64 (lib.base64 bytes) = some bytes) (value : Bson)
    (h : isLeaf value) : Kept readHex readBase64 (bsonToJson lib value) value := by
  cases value with
  | double num =>
    simp only [bsonToJson, Kept, Number.fromF64]
    by_cases hnum : num.isFinite <;> simp [hnum]
  | string text => rfl
  | boolean flag => rfl
  | null => rfl
  | int32 int =>
    have hlow := int.le_toInt
    have hhigh := int.toInt_lt
    exact integer_ofInt (by omega) (by omega)
  | int64 int => exact ⟨_, rfl, Decimal.read_int int.toInt⟩
  | objectId oid => exact ⟨_, rfl, hhex oid⟩
  | binary bytes => exact ⟨_, rfl, hbase64 bytes⟩
  | decimal128 bytes => exact ⟨_, rfl⟩
  | dateTime date =>
    simp only [bsonToJson, Kept]
    split <;> exact ⟨_, rfl⟩
  | exotic text => exact ⟨_, rfl⟩
  | array items => cases h
  | document doc => cases h

section Kept

variable {readHex readBase64 : String → Option (List UInt8)} {json : Json} {value : Bson}

theorem Kept.integer (h : Kept readHex readBase64 json value) : integer json = int32 value := by
  cases value with
  | double num =>
    simp only [Kept] at h
    rw [h]
    split <;> rfl
  | int32 int => exact h
  | string text | boolean flag | null =>
    cases h
    rfl
  | int64 int | objectId oid | binary bytes =>
    obtain ⟨text, rfl, -⟩ := h
    rfl
  | decimal128 bytes | dateTime date | exotic text =>
    obtain ⟨text, rfl⟩ := h
    rfl
  | array items => cases h
  | document doc => cases h

theorem Kept.isNull (h : Kept readHex readBase64 json value) : json.isNull = isVoid value := by
  cases value with
  | double num =>
    simp only [Kept] at h
    by_cases hnum : num.isFinite <;> simp [h, hnum, isVoid, Json.isNull]
  | int32 int =>
    cases json with
    | number num => rfl
    | _ => cases h
  | string text | boolean flag | null =>
    cases h
    rfl
  | int64 int | objectId oid | binary bytes =>
    obtain ⟨text, rfl, -⟩ := h
    rfl
  | decimal128 bytes | dateTime date | exotic text =>
    obtain ⟨text, rfl⟩ := h
    rfl
  | array items => cases h
  | document doc => cases h

/-- In order, the integers read are those of the `Int32` leaves. -/
theorem integers_of_kept {jsons : List Json} {values : List Bson}
    (h : List.Forall₂ (Kept readHex readBase64) jsons values) :
    jsons.filterMap Mongo.integer = values.filterMap int32 := by
  induction h with
  | nil => rfl
  | cons hleaf _ ih => simp only [List.filterMap_cons, hleaf.integer, ih]

private theorem nulls_of_kept {jsons : List Json} {values : List Bson}
    (h : List.Forall₂ (Kept readHex readBase64) jsons values) :
    jsons.map Json.isNull = values.map isVoid := by
  induction h with
  | nil => rfl
  | cons hleaf _ ih => simp only [List.map_cons, hleaf.isNull, ih]

end Kept

private theorem int32_range {value : Bson} {k : Int} (h : int32 value = some k) :
    -2 ^ 31 ≤ k ∧ k < 2 ^ 31 := by
  cases value with
  | int32 int =>
    cases h
    exact ⟨int.le_toInt, int.toInt_lt⟩
  | _ => cases h

/-- A value without repeated keys is read in its own shape with every leaf kept, its
integers are those of its `Int32` leaves, and its nulls stand for `Null` and the
non-finite doubles. -/
theorem bsonToJson_keeps (lib : Lib) (hhex : Function.Injective lib.toHex)
    (hbase64 : Function.Injective lib.base64) :
    ∃ readHex readBase64 : String → Option (List UInt8), ∀ value, distinctKeys value →
      Mirrors (Kept readHex readBase64) (bsonToJson lib value) value ∧
        (scalars (bsonToJson lib value)).filterMap integer = (leaves value).filterMap int32 ∧
        (∀ k ∈ (scalars (bsonToJson lib value)).filterMap integer, -2 ^ 31 ≤ k ∧ k < 2 ^ 31) ∧
        (scalars (bsonToJson lib value)).map Json.isNull = (leaves value).map isVoid := by
  refine ⟨Function.partialInv lib.toHex, Function.partialInv lib.base64, fun value h => ?_⟩
  have hmirrors : Mirrors (Kept (Function.partialInv lib.toHex) (Function.partialInv lib.base64))
      (bsonToJson lib value) value :=
    bsonToJson_mirrors (isScalar_bsonToJson lib)
      (kept_bsonToJson lib (Function.partialInv_left hhex) (Function.partialInv_left hbase64))
      value h
  have hleaves := Mirrors.leaves value hmirrors
  have hintegers := integers_of_kept hleaves
  refine ⟨hmirrors, hintegers, fun k hk => ?_, nulls_of_kept hleaves⟩
  rw [hintegers] at hk
  obtain ⟨leaf, -, hleaf⟩ := List.mem_filterMap.mp hk
  exact int32_range hleaf

/-- The encodings of an `ObjectId` and of binary data. -/
def encodingLib : Lib := { Lib.rejecting with toHex := hexText, base64 := base64Text }

/-- An order with values of both integer widths, an id and a blob inside a list. -/
def orderValue : Bson := .document
  [("_id", .objectId [101, 0, 0, 0, 0, 0, 0, 0, 0, 0, 1, 171]),
   ("lines", .array [.int32 (-7), .document [("total", .int64 9007199254740993), ("note", .null)]]),
   ("seal", .binary [77, 97, 110])]

theorem bsonToJson_keeps_order :
    bsonToJson encodingLib orderValue = .object
        [("_id", .string "6500000000000000000001ab"),
         ("lines", .array [.ofInt (-7),
           .object [("total", .string "9007199254740993"), ("note", .null)]]),
         ("seal", .string "TWFu")] ∧
      ∃ readHex readBase64, Mirrors (Kept readHex readBase64) (bsonToJson encodingLib orderValue)
        orderValue := by
  obtain ⟨readHex, readBase64, h⟩ :=
    bsonToJson_keeps encodingLib hexText_injective base64Text_injective
  exact ⟨rfl, readHex, readBase64, (h orderValue (by decide)).1⟩

end Fabricd.Mongo
