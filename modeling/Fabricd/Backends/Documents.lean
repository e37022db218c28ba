import Fabricd.Backends.Mongo

/-!
# Documents through the `mongo` backend

What a script stores against what it reads back: the JSON of a written document, the
rendering of an inserted id, and one insert against a batch of one.
-/

namespace Fabricd.Mongo

open Framework Mongodb

/-! ## The values a script stores -/

mutual

/-- Documents built from null, booleans, strings and integers that satisfy `int`, with
distinct keys none of which starts with `$`. -/
def storable (int : Int → Bool) : Json → Bool
  | .null => true
  | .bool _ => true
  | .number num => num.asI64.any int
  | .string _ => true
  | .array items => storableItems int items
  | .object fields => (fields.map Prod.fst).Nodup && storableFields int fields

def storableItems (int : Int → Bool) : List Json → Bool
  | [] => true
  | item :: items => storable int item && storableItems int items

def storableFields (int : Int → Bool) : List (String × Json) → Bool
  | [] => true
  | (key, val) :: fields =>
    key.toList.head? != some '$' && storable int val && storableFields int fields

end

def fitsI32 (k : Int) : Bool := -2 ^ 31 ≤ k && k < 2 ^ 31

/-! ## The write path -/

mutual

/-- The BSON counterpart of a value, every integer an `Int64`. -/
def bsonOf : Json → Bson
  | .null => .null
  | .bool flag => .boolean flag
  | .number num => .int64 (Int64.ofInt (num.asI64.getD 0))
  | .string text => .string text
  | .array items => .array (bsonItems items)
  | .object fields => .document (bsonFields fields)

def bsonItems : List Json → List Bson
  | [] => []
  | item :: items => bsonOf item :: bsonItems items

def bsonFields : List (String × Json) → Document
  | [] => []
  | (key, val) :: fields => (key, bsonOf val) :: bsonFields fields

end

/-- What `bson::to_bson` does with a `serde_json::Value` whose integers fit an `i64`. -/
structure SerdeBson (lib : Lib) : Prop where
  toBson (value : Json) : storable (fun _ => true) value → lib.toBson value = .ok (bsonOf value)

/-! ## What is read back -/

mutual

/-- A value with every integer replaced by its decimal text. -/
def textual : Json → Json
  | .null => .null
  | .bool flag => .bool flag
  | .number num => .string (toString (num.asI64.getD 0))
  | .string text => .string text
  | .array items => .array (textualItems items)
  | .object fields => .object (textualFields fields)

def textualItems : List Json → List Json
  | [] => []
  | item :: items => textual item :: textualItems items

def textualFields : List (String × Json) → List (String × Json)
  | [] => []
  | (key, val) :: fields => (key, textual val) :: textualFields fields

end

mutual

/-- No integer anywhere in the value. -/
def integerFree : Json → Bool
  | .number _ => false
  | .array items => integerFreeItems items
  | .object fields => integerFreeFields fields
  | _ => true

def integerFreeItems : List Json → Bool
  | [] => true
  | item :: items => integerFree item && integerFreeItems items

def integerFreeFields : List (String × Json) → Bool
  | [] => true
  | (_, val) :: fields => integerFree val && integerFreeFields fields

end

mutual

private theorem storable_mono {int int' : Int → Bool} (hint : ∀ k, int k → int' k) (value : Json)
    (h : storable int value) : storable int' value := by
  cases value with
  | null => rfl
  | bool flag => rfl
  | string text => rfl
  | number num =>
    simp only [storable, Option.any_eq_true] at h ⊢
    obtain ⟨k, hk, hok⟩ := h
    exact ⟨k, hk, hint k hok⟩
  | array items =>
    simp only [storable] at h ⊢
    exact storableItems_mono hint items h
  | object fields =>
    simp only [storable, Bool.and_eq_true] at h ⊢
    exact ⟨h.1, storableFields_mono hint fields h.2⟩

private theorem storableItems_mono {int int' : Int → Bool} (hint : ∀ k, int k → int' k)
    (items : List Json) (h : storableItems int items) : storableItems int' items := by
  cases items with
  | nil => rfl
  | cons item items =>
    simp only [storableItems, Bool.and_eq_true] at h ⊢
    exact ⟨storable_mono hint item h.1, storableItems_mono hint items h.2⟩

private theorem storableFields_mono {int int' : Int → Bool} (hint : ∀ k, int k → int' k)
    (fields : List (String × Json)) (h : storableFields int fields) :
    storableFields int' fields := by
  cases fields with
  | nil => rfl
  | cons field fields =>
    obtain ⟨key, val⟩ := field
    simp only [storableFields, Bool.and_eq_true] at h ⊢
    exact ⟨⟨h.1.1, storable_mono hint val h.1.2⟩, storableFields_mono hint fields h.2⟩

end

mutual

/-- Reading back the BSON counterpart of a value gives its textual form. -/
theorem bsonToJson_bsonOf (lib : Lib) {int : Int → Bool} (value : Json)
    (h : storable int value) : bsonToJson lib (bsonOf value) = textual value := by
  cases value with
  | null => rfl
  | bool flag => rfl
  | string text => rfl
  | number num =>
    simp only [storable, Option.any_eq_true] at h
    obtain ⟨k, hk, -⟩ := h
    obtain ⟨hlow, hhigh⟩ := Number.asI64_range hk
    have hwide : (Int64.ofInt k).toInt = k := Int64.toInt_ofInt_of_le hlow hhigh
    simp only [bsonOf, bsonToJson, textual, hk, Option.getD_some, hwide]
  | array items =>
    simp only [storable] at h
    simp only [bsonOf, bsonToJson, textual, arrayToJson_bsonItems lib items h]
  | object fields =>
    simp only [storable, Bool.and_eq_true, decide_eq_true_eq] at h
    have hfields := documentFields_bsonFields lib [] fields h.2 (by simpa using h.1)
    simp only [bsonOf, bsonToJson, textual, hfields, List.nil_append]

private theorem arrayToJson_bsonItems (lib : Lib) {int : Int → Bool} (items : List Json)
    (h : storableItems int items) : arrayToJson lib (bsonItems items) = textualItems items := by
  cases items with
  | nil => rfl
  | cons item items =>
    simp only [storableItems, Bool.and_eq_true] at h
    simp only [bsonItems, arrayToJson, textualItems, bsonToJson_bsonOf lib item h.1,
      arrayToJson_bsonItems lib items h.2]

private theorem documentFields_bsonFields (lib : Lib) {int : Int → Bool}
    (obj fields : List (String × Json))
    (h : storableFields int fields) (hkeys : (obj.map Prod.fst ++ fields.map Prod.fst).Nodup) :
    documentFields lib obj (bsonFields fields) = obj ++ textualFields fields := by
  cases fields with
  | nil => simp [bsonFields, documentFields, textualFields]
  | cons field fields =>
    obtain ⟨key, val⟩ := field
    simp only [storableFields, Bool.and_eq_true] at h
    simp only [List.map_cons] at hkeys
    have hfresh : key ∉ obj.map Prod.fst := fun hmem =>
      (List.nodup_append.mp hkeys).2.2 key hmem key List.mem_cons_self rfl
    have hrest : ((obj ++ [(key, textual val)]).map Prod.fst ++ fields.map Prod.fst).Nodup := by
      simpa using hkeys
    simp only [bsonFields, documentFields, textualFields]
    rw [bsonToJson_bsonOf lib val h.1.2, Json.insert_fresh _ hfresh,
      documentFields_bsonFields lib _ fields h.2 hrest, List.append_assoc]
    rfl

end

mutual

/-- A value is its own textual form exactly when it has no integer. -/
theorem textual_eq_iff (value : Json) : textual value = value ↔ integerFree value := by
  cases value with
  | null => simp [textual, integerFree]
  | bool flag => simp [textual, integerFree]
  | string text => simp [textual, integerFree]
  | number num => simp [textual, integerFree]
  | array items => simpa [textual, integerFree] using textualItems_eq_iff items
  | object fields => simpa [textual, integerFree] using textualFields_eq_iff fields

private theorem textualItems_eq_iff (items : List Json) :
    textualItems items = items ↔ integerFreeItems items := by
  cases items with
  | nil => simp [textualItems, integerFreeItems]
  | cons item items =>
    simp only [textualItems, integerFreeItems, List.cons.injEq, Bool.and_eq_true]
    exact and_congr (textual_eq_iff item) (textualItems_eq_iff items)

private theorem textualFields_eq_iff (fields : List (String × Json)) :
    textualFields fields = fields ↔ integerFreeFields fields := by
  cases fields with
  | nil => simp [textualFields, integerFreeFields]
  | cons field fields =>
    obtain ⟨key, val⟩ := field
    simp only [textualFields, integerFreeFields, List.cons.injEq, Prod.mk.injEq, true_and,
      Bool.and_eq_true]
    exact and_congr (textual_eq_iff val) (textualFields_eq_iff fields)

end

/-- A storable document is accepted, and what is read back is its textual form. -/
theorem written_reads_textual {lib : Lib} (hlib : SerdeBson lib) {int : Int → Bool}
    {fields : List (String × Json)} (h : storable int (.object fields)) :
    ∃ doc, jsonToDoc lib (.object fields) = .ok doc ∧
      documentToJson lib doc = textual (.object fields) := by
  have hbson : lib.toBson (.object fields) = .ok (.document (bsonFields fields)) :=
    hlib.toBson _ (storable_mono (fun _ _ => rfl) _ h)
  refine ⟨bsonFields fields, ?_, ?_⟩
  · simp only [jsonToDoc, Json.isNull, Bool.false_eq_true, if_false, hbson]
  · have hread := bsonToJson_bsonOf lib (.object fields) h
    simpa only [bsonOf, bsonToJson, documentToJson] using hread

/-- Every document of null, booleans, strings and 32-bit integers is stored, and it reads
back as itself exactly when it has no integer. -/
theorem written_reads_back_iff (lib : Lib) (hlib : SerdeBson lib)
    (fields : List (String × Json)) (h : storable fitsI32 (.object fields)) :
    ∃ doc, jsonToDoc lib (.object fields) = .ok doc ∧
      (documentToJson lib doc = .object fields ↔ integerFree (.object fields)) := by
  obtain ⟨doc, hdoc, hread⟩ := written_reads_textual hlib h
  refine ⟨doc, hdoc, ?_⟩
  rw [hread]
  exact textual_eq_iff _

/-- `to_bson` on the values it maps without loss. -/
def serdeLib : Lib := { Lib.rejecting with toBson := fun value => .ok (bsonOf value) }

private theorem serdeLib_serde : SerdeBson serdeLib := ⟨fun _ _ => rfl⟩

theorem written_reads_back_tags :
    ∃ doc, jsonToDoc serdeLib (.object [("tags", .array [.string "a", .null])]) = .ok doc ∧
      (documentToJson serdeLib doc = .object [("tags", .array [.string "a", .null])] ↔
        integerFree (.object [("tags", .array [.string "a", .null])])) :=
  written_reads_back_iff serdeLib serdeLib_serde _ (by decide)

/-- `{"n": 1}` is stored and reads back with the text `"1"`. -/
theorem integer_reads_back_as_text :
    ∃ lib, SerdeBson lib ∧ storable fitsI32 (.object [("n", .ofInt 1)]) ∧
      ∃ doc, jsonToDoc lib (.object [("n", .ofInt 1)]) = .ok doc ∧
        documentToJson lib doc = .object [("n", .string "1")] ∧
        documentToJson lib doc ≠ .object [("n", .ofInt 1)] := by
  refine ⟨serdeLib, serdeLib_serde, by decide, [("n", .int64 1)], rfl, rfl, ?_⟩
  intro h
  cases h

/-! ## Inserted ids -/

/-- What `Value::to_string` does with a string: the escaped text between two quotes. -/
structure Quotes (lib : Lib) : Prop where
  string (text : String) :
    ∃ escaped, lib.display (.string text) = "\"" ++ escaped ++ "\"" ∧ text.length ≤ escaped.length

theorem Quotes.ne {lib : Lib} (hlib : Quotes lib) (text : String) :
    lib.display (.string text) ≠ text := by
  obtain ⟨escaped, hdisplay, hlen⟩ := hlib.string text
  intro heq
  have hcount := congrArg String.length (hdisplay.symm.trans heq)
  simp only [String.length_append] at hcount
  have hquote : ("\"" : String).length = 1 := rfl
  omega

/-- The types that are read as text but are neither an `ObjectId` nor a string. -/
def isTextual : Bson → Bool
  | .int64 _ | .decimal128 _ | .dateTime _ | .binary _ | .exotic _ => true
  | _ => false

/-- An id is reported as a find shows it: the same text, or the JSON text of the value. -/
def IdAgrees (lib : Lib) (id : Bson) : Prop :=
  (∀ text, bsonToJson lib id = .string text → idToString lib id = text) ∧
    ((∀ text, bsonToJson lib id ≠ .string text) → idToString lib id = lib.display (bsonToJson lib id))

private theorem isTextual_reads (lib : Lib) {id : Bson} (h : isTextual id) :
    ∃ text, bsonToJson lib id = .string text := by
  cases id with
  | int64 int => exact ⟨toString int.toInt, by simp only [bsonToJson]⟩
  | decimal128 dec => exact ⟨lib.decimal128ToString dec, by simp only [bsonToJson]⟩
  | dateTime date =>
    cases hdate : lib.tryToRfc3339 date with
    | ok text => exact ⟨text, by simp only [bsonToJson, hdate]⟩
    | error err => exact ⟨toString date.toInt, by simp only [bsonToJson, hdate]⟩
  | binary bin => exact ⟨lib.base64 bin, by simp only [bsonToJson]⟩
  | exotic text => exact ⟨text, by simp only [bsonToJson]⟩
  | _ => cases h

private theorem isTextual_reports (lib : Lib) {id : Bson} (h : isTextual id) :
    idToString lib id = lib.display (bsonToJson lib id) := by
  cases id with
  | objectId oid => cases h
  | string text => cases h
  | _ => rfl

private theorem not_isTextual_reads (lib : Lib) {id : Bson} (h : ¬ isTextual id) :
    (∃ text, bsonToJson lib id = .string text ∧ idToString lib id = text) ∨
      ((∀ text, bsonToJson lib id ≠ .string text) ∧
        idToString lib id = lib.display (bsonToJson lib id)) := by
  cases id with
  | objectId oid => exact .inl ⟨lib.toHex oid, by simp only [bsonToJson], rfl⟩
  | string text => exact .inl ⟨text, by simp only [bsonToJson], rfl⟩
  | double num =>
    refine .inr ⟨fun text => ?_, rfl⟩
    simp only [bsonToJson]
    split <;> simp
  | boolean flag => exact .inr ⟨fun text => by simp [bsonToJson], rfl⟩
  | null => exact .inr ⟨fun text => by simp [bsonToJson], rfl⟩
  | int32 int => exact .inr ⟨fun text => by simp [bsonToJson, Json.ofInt], rfl⟩
  | array items => exact .inr ⟨fun text => by simp [bsonToJson], rfl⟩
  | document doc => exact .inr ⟨fun text => by simp [bsonToJson], rfl⟩
  | int64 int => exact absurd rfl h
  | decimal128 dec => exact absurd rfl h
  | dateTime date => exact absurd rfl h
  | binary bin => exact absurd rfl h
  | exotic text => exact absurd rfl h

/-- The reported id is the one later read exactly for an `ObjectId`, a string, and the
types that are not read as text. -/
theorem idAgrees_iff (lib : Lib) (hlib : Quotes lib) (id : Bson) :
    IdAgrees lib id ↔ ¬ isTextual id := by
  constructor
  · intro hagrees htextual
    obtain ⟨text, hread⟩ := isTextual_reads lib htextual
    have hsame := hagrees.1 text hread
    rw [isTextual_reports lib htextual, hread] at hsame
    exact hlib.ne text hsame
  · intro htextual
    rcases not_isTextual_reads lib htextual with ⟨text, hread, hreport⟩ | ⟨hread, hreport⟩
    · refine ⟨fun other hother => ?_, fun hnone => absurd hread (hnone text)⟩
      rw [hread] at hother
      cases hother
      exact hreport
    · exact ⟨fun text htext => absurd htext (hread text), fun _ => hreport⟩

/-- `Value::to_string` on strings with nothing to escape, the only values it is used at here. -/
def quotingLib : Lib :=
  { Lib.rejecting with
    display := fun value =>
      match value with
      | .string text => "\"" ++ text ++ "\""
      | _ => "" }

private theorem quotingLib_quotes : Quotes quotingLib := ⟨fun text => ⟨text, rfl, le_rfl⟩⟩

theorem idAgrees_iff_string :
    IdAgrees quotingLib (.string "a1") ↔ ¬ isTextual (.string "a1") :=
  idAgrees_iff quotingLib quotingLib_quotes _

/-- A document inserted with `_id: 5` is reported under an id that carries its quotes. -/
theorem int64_id_keeps_quotes :
    ∃ lib, Quotes lib ∧ bsonToJson lib (.int64 5) = .string "5" ∧
      idToString lib (.int64 5) = "\"5\"" ∧ ¬ IdAgrees lib (.int64 5) := by
  have hread : bsonToJson quotingLib (.int64 5) = .string "5" := rfl
  have hreport : idToString quotingLib (.int64 5) = "\"5\"" := rfl
  refine ⟨quotingLib, quotingLib_quotes, hread, hreport, fun h => ?_⟩
  have hsame := h.1 "5" hread
  rw [hreport] at hsame
  revert hsame
  decide

/-! ## One insert against a batch of one -/

/-- What becomes of the single document of an insert, with the text of the driver's
error on each path. -/
inductive InsertOutcome where
  | stored (id : Bson)
  | writeError (one many : String)
  | failed (kind : ErrorKind) (one many : String)
  | elapsed

namespace InsertOutcome

/-- How the driver reports it to `insert_one`. -/
def insertOne : InsertOutcome → Option (Except DriverError Bson)
  | stored id => some (.ok id)
  | writeError one _ => some (.error ⟨.write, one⟩)
  | failed kind one _ => some (.error ⟨kind, one⟩)
  | elapsed => none

/-- How the driver reports it to `insert_many` of one document. -/
def insertMany : InsertOutcome → Option (Except DriverError Nat)
  | stored _ => some (.ok 1)
  | writeError _ many => some (.error ⟨.insertMany, many⟩)
  | failed kind _ many => some (.error ⟨kind, many⟩)
  | elapsed => none

/-- The server refused the document itself. -/
def isWriteError : InsertOutcome → Bool
  | writeError _ _ => true
  | _ => false

/-- The driver of a server on which inserts end so. -/
def driver (outcome : InsertOutcome) : Env Fx Unit := fun _ op =>
  match op with
  | ⟨.mongo (.insertOne _ _), _⟩ => (outcome.insertOne, ())
  | ⟨.mongo (.insertMany _ _), _⟩ => (outcome.insertMany, ())
  | ⟨call, _⟩ => ((default : call.Ans), ())

end InsertOutcome

/-- One action against such a server: what it sends, and its result. -/
def runAction (lib : Lib) (outcome : InsertOutcome) (budget : Duration) (call : MongoCall)
    (collection : Collection) (action : String) (payload : MongoPayload) :
    List Call × Except MongoError MongoOutcome :=
  let ran := Prog.run outcome.driver () (run lib budget call collection action payload).run
  (ran.events.map fun event => event.op.call, ran.value)

def SameError (one many : MongoError) : Prop :=
  one.intoResourceError.code = many.intoResourceError.code ∧
    one.intoResourceError.retryable = many.intoResourceError.retryable ∧
    one.intoResourceError.owner = many.intoResourceError.owner

/-- Both insert one document, or both fail alike. -/
def SameResult : Except MongoError MongoOutcome → Except MongoError MongoOutcome → Prop
  | .ok one, .ok many => one.docsAffected = 1 ∧ many.docsAffected = 1
  | .error one, .error many => SameError one many
  | _, _ => False

/-- Both refuse before sending anything, or both send one and the same document. -/
def InsertsAgree (collection : Collection)
    (one many : List Call × Except MongoError MongoOutcome) : Prop :=
  (one.1 = [] ∧ many.1 = [] ∧
      ∃ err err', one.2 = .error err ∧ many.2 = .error err' ∧ SameError err err') ∨
    (∃ doc, one.1 = [.mongo (.insertOne collection doc)] ∧
      many.1 = [.mongo (.insertMany collection [doc])] ∧ SameResult one.2 many.2)

section Inserts

variable (lib : Lib) (outcome : InsertOutcome) (budget : Duration) (call : MongoCall)
  (collection : Collection) (payload : MongoPayload)

private theorem insertOne_refused {err : MongoError} (h : jsonToDoc lib payload.doc = .error err) :
    runAction lib outcome budget call collection "insert_one" payload = ([], .error err) := by
  simp only [runAction, run, doInsertOne, h]
  rfl

private theorem insertMany_refused {d : Json} {err : MongoError}
    (h : jsonToDoc lib d = .error err) :
    runAction lib outcome budget call collection "insert_many" { payload with docs := .array [d] } =
      ([], .error err) := by
  have hdocs : docsToDocs lib (.array [d]) = .error err := by
    simp only [docsToDocs, List.mapM_cons, h]
    rfl
  simp only [runAction, run, doInsertMany, hdocs]
  rfl

private theorem insertOne_sent {doc : Document} (h : jsonToDoc lib payload.doc = .ok doc) :
    ∃ result, runAction lib outcome budget call collection "insert_one" payload =
        ([.mongo (.insertOne collection doc)], result) ∧
      match outcome.insertOne with
      | some (.ok _) => ∃ out, result = .ok out ∧ out.docsAffected = 1
      | some (.error err) => result = .error (.fromDriver err)
      | none => result = .error .timeout := by
  simp only [runAction, run, doInsertOne, h]
  cases outcome with
  | stored id => exact ⟨_, rfl, _, rfl, rfl⟩
  | writeError one many => exact ⟨_, rfl, rfl⟩
  | failed kind one many => exact ⟨_, rfl, rfl⟩
  | elapsed => exact ⟨_, rfl, rfl⟩

private theorem insertMany_sent {d : Json} {doc : Document} (h : jsonToDoc lib d = .ok doc) :
    ∃ result, runAction lib outcome budget call collection "insert_many"
          { payload with docs := .array [d] } =
        ([.mongo (.insertMany collection [doc])], result) ∧
      match outcome.insertMany with
      | some (.ok count) => ∃ out, result = .ok out ∧ out.docsAffected = UInt64.ofNat count
      | some (.error err) => result = .error (.fromDriver err)
      | none => result = .error .timeout := by
  have hdocs : docsToDocs lib (.array [d]) = .ok [doc] := by
    simp only [docsToDocs, List.mapM_cons, h]
    rfl
  simp only [runAction, run, doInsertMany, hdocs]
  cases outcome with
  | stored id => exact ⟨_, rfl, _, rfl, rfl⟩
  | writeError one many => exact ⟨_, rfl, rfl⟩
  | failed kind one many => exact ⟨_, rfl, rfl⟩
  | elapsed => exact ⟨_, rfl, rfl⟩

end Inserts

/-- An `insert_many` of one document ends as an `insert_one` of it exactly when the
server does not refuse the document itself. -/
theorem insertMany_agrees_iff (lib : Lib) (outcome : InsertOutcome) (budget budget' : Duration)
    (call call' : MongoCall) (collection : Collection) (payload payload' : MongoPayload) (d : Json) :
    InsertsAgree collection
        (runAction lib outcome budget call collection "insert_one" { payload with doc := d })
        (runAction lib outcome budget' call' collection "insert_many"
          { payload' with docs := .array [d] }) ↔
      ((jsonToDoc lib d).isOk → ¬ outcome.isWriteError) := by
  cases hdoc : jsonToDoc lib d with
  | error err =>
    rw [insertOne_refused lib outcome budget call collection { payload with doc := d } hdoc,
      insertMany_refused lib outcome budget' call' collection payload' hdoc]
    constructor
    · intro _ hok
      cases hok
    · intro _
      exact .inl ⟨rfl, rfl, err, err, rfl, rfl, rfl, rfl, rfl⟩
  | ok doc =>
    obtain ⟨one, hone, hresult⟩ :=
      insertOne_sent lib outcome budget call collection { payload with doc := d } hdoc
    obtain ⟨many, hmany, hresult'⟩ :=
      insertMany_sent lib outcome budget' call' collection payload' hdoc
    rw [hone, hmany]
    have hagree : InsertsAgree collection ([.mongo (.insertOne collection doc)], one)
        ([.mongo (.insertMany collection [doc])], many) ↔ SameResult one many := by
      constructor
      · rintro (⟨hsent, -⟩ | ⟨_, _, _, hsame⟩)
        · cases hsent
        · exact hsame
      · intro hsame
        exact .inr ⟨doc, rfl, rfl, hsame⟩
    rw [hagree]
    cases outcome with
    | stored id =>
      obtain ⟨out, rfl, hcount⟩ := hresult
      obtain ⟨out', rfl, hcount'⟩ := hresult'
      exact ⟨fun _ _ => Bool.false_ne_true, fun _ => ⟨hcount, hcount'⟩⟩
    | writeError text text' =>
      cases hresult
      cases hresult'
      constructor
      · rintro ⟨hcode, -, -⟩
        -- `Write` is classified, `InsertMany` falls to the catch-all
        have hne : "MONGO_WRITE" ≠ "MONGO_ERROR" := by decide
        exact absurd hcode hne
      · intro h
        exact absurd rfl (h rfl)
    | failed kind text text' =>
      cases hresult
      cases hresult'
      exact ⟨fun _ _ => Bool.false_ne_true, fun _ => ⟨rfl, rfl, rfl⟩⟩
    | elapsed =>
      cases hresult
      cases hresult'
      exact ⟨fun _ _ => Bool.false_ne_true, fun _ => ⟨rfl, rfl, rfl⟩⟩

/-- A duplicate key is the developer's `MONGO_WRITE` on `insert_one` and a retryable
`MONGO_ERROR` of the operator on `insert_many`. -/
theorem duplicate_key_differs :
    ∃ (budget : Duration) (call : MongoCall) (collection : Collection) (payload : MongoPayload)
      (one many : MongoError),
      let outcome : InsertOutcome := .writeError "E11000 duplicate key" "E11000 duplicate key"
      let inserted := runAction serdeLib outcome budget call collection "insert_one"
        { payload with doc := .object [("_id", .string "a")] }
      let batched := runAction serdeLib outcome budget call collection "insert_many"
        { payload with docs := .array [.object [("_id", .string "a")]] }
      inserted.2 = .error one ∧ one.fault = mongoWrite ∧
        batched.2 = .error many ∧ many.fault = mongoFallback ∧
        ¬ InsertsAgree collection inserted batched := by
  refine ⟨0, ⟨0, "app", 0, 10, 1000⟩, ⟨0, "app", "users"⟩, .ofFields ⟨none, none, none, none, none, none⟩,
    .fromDriver ⟨.write, "E11000 duplicate key"⟩, .fromDriver ⟨.insertMany, "E11000 duplicate key"⟩,
    rfl, rfl, rfl, rfl, ?_⟩
  rintro (⟨hsent, -⟩ | ⟨_, _, _, hcode, -⟩)
  · cases hsent
  · have hne : "MONGO_WRITE" ≠ "MONGO_ERROR" := by decide
    exact hne hcode

end Fabricd.Mongo
