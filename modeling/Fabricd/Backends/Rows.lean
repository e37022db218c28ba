import Fabricd.Backends.Db
import Fabricd.Framework.Bytes
import Fabricd.Framework.Decimal

/-!
# Rows through the `db` backend

Which column values survive the conversion to JSON, and which rows and columns a query
reply carries.
-/

namespace Fabricd.Db

open Framework Postgres

/-! ## Column values -/

/-- The text types of a column. -/
inductive TextType where
  | text | varchar | bpchar | name

def TextType.type : TextType → PgType
  | text => .text
  | varchar => .varchar
  | bpchar => .bpchar
  | name => .name

/-- A NUMERIC value: digits of any precision with a scale, or `NaN` and the infinities. -/
inductive Numeric where
  | finite (negative : Bool) (digits scale : Nat)
  | special (name : String)

def Numeric.value : Numeric → Option ℚ
  | finite negative digits scale => some (Decimal.value negative digits scale)
  | special _ => none

/-- Some 96-bit mantissa over at most 28 decimal places is the number. -/
def Numeric.Representable (num : Numeric) : Prop :=
  ∃ negative mantissa scale, mantissa < 2 ^ 96 ∧ scale ≤ 28 ∧
    num.value = some (Decimal.value negative mantissa scale)

/-- A non-NULL value of a column with an integer, text or decimal rule. -/
inductive ColumnValue where
  | int2 (val : Int16)
  | int4 (val : Int32)
  | oid (val : UInt32)
  | int8 (val : Int64)
  | numeric (num : Numeric)
  | bool (flag : Bool)
  | text (type : TextType) (content : String)

def ColumnValue.type : ColumnValue → PgType
  | int2 _ => .int2
  | int4 _ => .int4
  | oid _ => .oid
  | int8 _ => .int8
  | numeric _ => .numeric
  | bool _ => .bool
  | text type _ => type.type

/-- A JSON number of an integer. -/
def IsInteger (json : Json) (k : Int) : Prop := ∃ num, json = .number num ∧ num.asI64 = some k

/-- The value is neither lost nor altered by its JSON form. -/
def ColumnValue.Kept (json : Json) : ColumnValue → Prop
  | int2 val => IsInteger json val.toInt
  | int4 val => IsInteger json val.toInt
  | oid val => IsInteger json val.toNat
  | int8 val => ∃ text, json = .string text ∧ Decimal.read text = some (val.toInt : ℚ)
  | numeric num => ∃ text, json = .string text ∧ Decimal.read text = num.value
  | bool flag => json = .bool flag
  | text _ content => json = .string content

/-- The Rust types that accept a column type, where the conversion depends on it. -/
def readsType : FromSql → PgType → Bool
  | .i16, type => type = .int2
  | .i32, type => type = .int4
  | .i64, type => type = .int8
  | .string, .text | .string, .varchar | .string, .bpchar | .string, .name => true
  | .string, .other _ => true
  | .string, _ => false
  | _, _ => true

/-- What `postgres-types` and `rust_decimal` do with the bytes the server sends for a
value: `wire` is the server's encoding. -/
structure Decodes (lib : Lib) (wire : ColumnValue → List UInt8) : Prop where
  rejects (T : FromSql) (type : PgType) (cell : Option (List UInt8)) :
    readsType T type = false → ∃ err, lib.tryGet T type cell = .error err
  int2 (val : Int16) : lib.tryGet .i16 .int2 (some (wire (.int2 val))) = .ok (some val)
  int4 (val : Int32) : lib.tryGet .i32 .int4 (some (wire (.int4 val))) = .ok (some val)
  int8 (val : Int64) : lib.tryGet .i64 .int8 (some (wire (.int8 val))) = .ok (some val)
  bool (flag : Bool) : lib.tryGet .bool .bool (some (wire (.bool flag))) = .ok (some flag)
  text (type : TextType) (content : String) :
    lib.tryGet .string type.type (some (wire (.text type content))) = .ok (some content)
  /-- A number a `Decimal` can hold is read as that number. -/
  decimal (num : Numeric) : num.Representable →
    ∃ dec : Postgres.Decimal, lib.tryGet .decimal .numeric (some (wire (.numeric num))) = .ok (some dec) ∧
      num.value = some (Decimal.value dec.negative dec.mantissa dec.scale)
  /-- A `Decimal` has a 96-bit mantissa and at most 28 places. -/
  bounds (type : PgType) (cell : Option (List UInt8)) (dec : Postgres.Decimal) :
    lib.tryGet .decimal type cell = .ok (some dec) → dec.mantissa < 2 ^ 96 ∧ dec.scale ≤ 28
  /-- `Decimal` prints the number it holds. -/
  prints (dec : Postgres.Decimal) : Decimal.read (lib.decimalToString dec) =
    some (Decimal.value dec.negative dec.mantissa dec.scale)

section Values

variable {lib : Lib} {wire : ColumnValue → List UInt8} {T : FromSql} {type : PgType}
  {cell : Option (List UInt8)} {convert : T.Val → Json}

private theorem getOrNull_read {val : T.Val} (h : lib.tryGet T type cell = .ok (some val)) :
    getOrNull lib T type cell convert = convert val := by
  simp only [getOrNull, h]

private theorem Decodes.getOrNull_refused (hlib : Decodes lib wire) (hT : readsType T type = false)
    (hstring : readsType .string type = false) : getOrNull lib T type cell convert = .null := by
  obtain ⟨err, hread⟩ := hlib.rejects T type cell hT
  obtain ⟨err', hretry⟩ := hlib.rejects .string type cell hstring
  simp only [getOrNull, hread, hretry]

private theorem ofInt_isInteger {k : Int} (hlow : -2 ^ 63 ≤ k) (hhigh : k < 2 ^ 63) :
    IsInteger (.ofInt k) k := by
  refine ⟨_, rfl, ?_⟩
  split
  next hk =>
    have hwide : k.toNat < 2 ^ 64 := by omega
    have hnat : (UInt64.ofNat k.toNat).toNat = k.toNat := UInt64.toNat_ofNat_of_lt' hwide
    have hfits : k.toNat < 2 ^ 63 := by omega
    rw [Number.asI64, hnat, if_pos hfits, Int.toNat_of_nonneg hk]
  next hk =>
    rw [Number.asI64, Int64.toInt_ofInt_of_le hlow hhigh]

theorem Decodes.representable (hlib : Decodes lib wire) {num : Numeric} {dec : Postgres.Decimal}
    (hread : lib.tryGet .decimal type cell = .ok (some dec))
    (hvalue : num.value = some (Decimal.value dec.negative dec.mantissa dec.scale)) :
    num.Representable := by
  obtain ⟨hmantissa, hscale⟩ := hlib.bounds type cell dec hread
  exact ⟨dec.negative, dec.mantissa, dec.scale, hmantissa, hscale, hvalue⟩

/-- A NUMERIC value survives exactly when a `Decimal` can hold it. -/
theorem Decodes.numeric_kept_iff (hlib : Decodes lib wire) (num : Numeric) :
    (ColumnValue.numeric num).Kept (columnToJson lib .numeric (some (wire (.numeric num)))) ↔
      num.Representable := by
  constructor
  · rintro ⟨text, hjson, htext⟩
    cases hread : lib.tryGet .decimal .numeric (some (wire (.numeric num))) with
    | error err =>
      obtain ⟨err', hretry⟩ := hlib.rejects .string .numeric (some (wire (.numeric num))) rfl
      simp [columnToJson, getOrNull, hread, hretry] at hjson
    | ok read =>
      cases read with
      | none => simp [columnToJson, getOrNull, hread] at hjson
      | some dec =>
        have hprinted : lib.decimalToString dec = text := by
          simpa [columnToJson, getOrNull, hread] using hjson
        rw [← hprinted, hlib.prints dec] at htext
        exact hlib.representable hread htext.symm
  · intro hnum
    obtain ⟨dec, hread, hvalue⟩ := hlib.decimal num hnum
    refine ⟨lib.decimalToString dec, getOrNull_read hread, ?_⟩
    rw [hlib.prints dec, hvalue]

private theorem Decodes.oid_null (hlib : Decodes lib wire) : columnToJson lib .oid cell = .null :=
  hlib.getOrNull_refused rfl rfl

private theorem text_columnToJson (hlib : Decodes lib wire) (type : TextType) (content : String) :
    columnToJson lib type.type (some (wire (.text type content))) = .string content := by
  have hread := hlib.text type content
  cases type <;> exact getOrNull_read hread

end Values

/-- A value keeps its content exactly when it is not an OID and, as a NUMERIC, fits a
`Decimal`. -/
theorem column_kept_iff (lib : Lib) (wire : ColumnValue → List UInt8) (hlib : Decodes lib wire)
    (val : ColumnValue) :
    val.Kept (columnToJson lib val.type (some (wire val))) ↔
      val.type ≠ .oid ∧ ∀ num, val = .numeric num → num.Representable := by
  cases val with
  | int2 int =>
    have hjson : columnToJson lib .int2 (some (wire (.int2 int))) = .ofInt int.toInt :=
      getOrNull_read (hlib.int2 int)
    have hlow := int.le_toInt
    have hhigh := int.toInt_lt
    refine iff_of_true ?_ ⟨nofun, nofun⟩
    show IsInteger (columnToJson lib .int2 (some (wire (.int2 int)))) int.toInt
    rw [hjson]
    exact ofInt_isInteger (by omega) (by omega)
  | int4 int =>
    have hjson : columnToJson lib .int4 (some (wire (.int4 int))) = .ofInt int.toInt :=
      getOrNull_read (hlib.int4 int)
    have hlow := int.le_toInt
    have hhigh := int.toInt_lt
    refine iff_of_true ?_ ⟨nofun, nofun⟩
    show IsInteger (columnToJson lib .int4 (some (wire (.int4 int)))) int.toInt
    rw [hjson]
    exact ofInt_isInteger (by omega) (by omega)
  | oid oid =>
    refine iff_of_false ?_ fun h => h.1 rfl
    rintro ⟨num, hnum, -⟩
    have hnull : columnToJson lib .oid (some (wire (.oid oid))) = .null := hlib.oid_null
    have hclash : Json.null = .number num := hnull.symm.trans hnum
    cases hclash
  | int8 int =>
    refine iff_of_true ⟨toString int.toInt, getOrNull_read (hlib.int8 int), ?_⟩ ⟨nofun, nofun⟩
    exact Decimal.read_int int.toInt
  | numeric num =>
    refine (hlib.numeric_kept_iff num).trans ⟨fun h => ⟨nofun, ?_⟩, fun h => h.2 num rfl⟩
    intro num' heq
    cases heq
    exact h
  | bool flag => exact iff_of_true (getOrNull_read (hlib.bool flag)) ⟨nofun, nofun⟩
  | text type content =>
    refine iff_of_true (text_columnToJson hlib type content) ⟨?_, nofun⟩
    cases type <;> exact nofun

/-! ### A driver that reads so -/

/-- The `Decimal` over `scale` places that holds a number. -/
def holdAt (q : ℚ) (scale : Nat) : Option Postgres.Decimal :=
  let mantissa := q * 10 ^ scale
  if mantissa.den = 1 ∧ mantissa.num.natAbs < 2 ^ 96 then
    some ⟨mantissa.num < 0, mantissa.num.natAbs, scale⟩
  else none

/-- The `Decimal` with the fewest places that holds a number. -/
def hold (q : ℚ) : Option Postgres.Decimal := (List.range 29).findSome? (holdAt q)

private theorem holdAt_holds {q : ℚ} {scale : Nat} {dec : Postgres.Decimal}
    (h : holdAt q scale = some dec) :
    dec.mantissa < 2 ^ 96 ∧ dec.scale = scale ∧
      q = Decimal.value dec.negative dec.mantissa dec.scale := by
  unfold holdAt at h
  dsimp only at h
  split at h
  next hfits =>
    obtain ⟨hden, hsize⟩ := hfits
    cases h
    refine ⟨hsize, rfl, ?_⟩
    have hten : ((10 : ℚ) ^ scale) ≠ 0 := pow_ne_zero _ (by norm_num)
    have hint : ((q * 10 ^ scale).num : ℚ) = q * 10 ^ scale := Rat.den_eq_one_iff _ |>.mp hden
    have hsign : (if decide ((q * 10 ^ scale).num < 0) = true then (-1 : ℚ) else 1) *
        ((q * 10 ^ scale).num.natAbs : ℚ) = q * 10 ^ scale := by
      rw [← hint]
      generalize (q * 10 ^ scale).num = k
      by_cases hk : k < 0
      · have habs : (k.natAbs : ℤ) = -k := by omega
        have hcast : (k.natAbs : ℚ) = -(k : ℚ) := by
          rw [← Int.cast_natCast, habs, Int.cast_neg]
        simp [hk, hcast]
      · have habs : (k.natAbs : ℤ) = k := by omega
        have hcast : (k.natAbs : ℚ) = (k : ℚ) := by
          rw [← Int.cast_natCast, habs]
        simp [hk, hcast]
    rw [Decimal.value, ← mul_div_assoc, hsign, mul_div_cancel_right₀ _ hten]
  next => cases h

private theorem holdAt_isSome (negative : Bool) {mantissa : Nat} (scale : Nat)
    (h : mantissa < 2 ^ 96) :
    (holdAt (Decimal.value negative mantissa scale) scale).isSome := by
  have hten : ((10 : ℚ) ^ scale) ≠ 0 := pow_ne_zero _ (by norm_num)
  obtain ⟨k, hk, habs⟩ : ∃ k : Int, Decimal.value negative mantissa scale * 10 ^ scale = (k : ℚ) ∧
      k.natAbs = mantissa := by
    cases negative with
    | true =>
      refine ⟨-mantissa, ?_, by omega⟩
      simp [Decimal.value, div_mul_cancel₀ _ hten]
    | false =>
      refine ⟨mantissa, ?_, by omega⟩
      simp [Decimal.value, div_mul_cancel₀ _ hten]
  simp only [holdAt, hk, Rat.den_intCast, Rat.num_intCast, habs, h, and_self, if_true,
    Option.isSome_some]

private theorem hold_holds {q : ℚ} {dec : Postgres.Decimal} (h : hold q = some dec) :
    dec.mantissa < 2 ^ 96 ∧ dec.scale ≤ 28 ∧
      q = Decimal.value dec.negative dec.mantissa dec.scale := by
  obtain ⟨scale, hscale, hdec⟩ := List.exists_of_findSome?_eq_some h
  obtain ⟨hsize, heq, hvalue⟩ := holdAt_holds hdec
  have hlt := List.mem_range.mp hscale
  exact ⟨hsize, by omega, hvalue⟩

private theorem hold_isSome (negative : Bool) {mantissa scale : Nat} (h : mantissa < 2 ^ 96)
    (hscale : scale ≤ 28) : (hold (Decimal.value negative mantissa scale)).isSome := by
  rw [hold, List.findSome?_isSome_iff]
  exact ⟨scale, List.mem_range.mpr (by omega), holdAt_isSome negative scale h⟩

/-- The server's binary formats, with NUMERIC in its decimal notation. -/
def pgWire : ColumnValue → List UInt8
  | .int2 val => beSigned 2 val.toInt
  | .int4 val => beSigned 4 val.toInt
  | .oid val => beBytes 4 val.toNat
  | .int8 val => beSigned 8 val.toInt
  | .numeric (.finite negative digits scale) => utf8Bytes (Decimal.print negative digits scale)
  | .numeric (.special name) => utf8Bytes name
  | .bool flag => [if flag then 1 else 0]
  | .text _ content => utf8Bytes content

def pgDecode (T : FromSql) (bytes : List UInt8) : Except String (Option T.Val) :=
  match T with
  | .i16 => .ok (some (Int16.ofInt (ofBeSigned bytes)))
  | .i32 => .ok (some (Int32.ofInt (ofBeSigned bytes)))
  | .i64 => .ok (some (Int64.ofInt (ofBeSigned bytes)))
  | .bool => .ok (some (bytes == [1]))
  | .string =>
    match ofUtf8 bytes with
    | some text => .ok (some text)
    | none => .error "invalid utf-8"
  | .decimal =>
    match ((ofUtf8 bytes).bind Decimal.read).bind hold with
    | some dec => .ok (some dec)
    | none => .error "out of range"
  | _ => .error "no reader"

def pgTryGet (T : FromSql) (type : PgType) (cell : Option (List UInt8)) :
    Except String (Option T.Val) :=
  if readsType T type then
    match cell with
    | some bytes => pgDecode T bytes
    | none => .ok none
  else .error "wrong type"

/-- The two libraries over the formats of `pgWire`. -/
def pgLib : Lib :=
  { Lib.rejecting with
    tryGet := pgTryGet
    decimalToString := fun dec => Decimal.print dec.negative dec.mantissa dec.scale }

private theorem pgTryGet_some (T : FromSql) (type : PgType) (h : readsType T type)
    (bytes : List UInt8) :
    pgTryGet T type (some bytes) = pgDecode T bytes := by
  simp only [pgTryGet, h, if_true]

private theorem pgDecode_text {content : String} :
    pgDecode .string (utf8Bytes content) = .ok (some content) := by
  simp only [pgDecode, ofUtf8_utf8Bytes]

private theorem pgDecode_decimal {num : Numeric} (h : num.Representable) :
    ∃ dec : Postgres.Decimal, pgDecode .decimal (pgWire (.numeric num)) = .ok (some dec) ∧
      num.value = some (Decimal.value dec.negative dec.mantissa dec.scale) := by
  obtain ⟨negative, mantissa, scale, hsize, hscale, hvalue⟩ := h
  cases num with
  | special name => cases hvalue
  | finite negative' digits scale' =>
    have hsame : Decimal.value negative' digits scale' = Decimal.value negative mantissa scale :=
      Option.some.inj hvalue
    obtain ⟨dec, hdec⟩ := Option.isSome_iff_exists.mp (hold_isSome negative hsize hscale)
    refine ⟨dec, ?_, ?_⟩
    · simp only [pgDecode, pgWire, ofUtf8_utf8Bytes, Option.bind_some, Decimal.read_print, hsame, hdec]
    · rw [hvalue, ← (hold_holds hdec).2.2]

private theorem pgTryGet_bounds (type : PgType) (cell : Option (List UInt8))
    {dec : Postgres.Decimal}
    (h : pgTryGet .decimal type cell = .ok (some dec)) : dec.mantissa < 2 ^ 96 ∧ dec.scale ≤ 28 := by
  unfold pgTryGet at h
  split at h
  · cases cell with
    | none => cases h
    | some bytes =>
      simp only [pgDecode] at h
      split at h
      next held hheld =>
        cases h
        obtain ⟨q, -, hq⟩ := Option.bind_eq_some_iff.mp hheld
        obtain ⟨hsize, hscale, -⟩ := hold_holds hq
        exact ⟨hsize, hscale⟩
      next => cases h
  · cases h

private theorem pgLib_decodes : Decodes pgLib pgWire where
  rejects T type cell h := ⟨"wrong type", by simp [pgLib, pgTryGet, h]⟩
  int2 val := by
    have hlow := val.le_toInt
    have hhigh := val.toInt_lt
    have hread : ofBeSigned (beSigned 2 val.toInt) = val.toInt :=
      ofBeSigned_beSigned (by omega) (by omega)
    refine (pgTryGet_some .i16 .int2 rfl _).trans ?_
    simp only [pgDecode, pgWire, hread, Int16.ofInt_toInt]
  int4 val := by
    have hlow := val.le_toInt
    have hhigh := val.toInt_lt
    have hread : ofBeSigned (beSigned 4 val.toInt) = val.toInt :=
      ofBeSigned_beSigned (by omega) (by omega)
    refine (pgTryGet_some .i32 .int4 rfl _).trans ?_
    simp only [pgDecode, pgWire, hread, Int32.ofInt_toInt]
  int8 val := by
    have hlow := val.le_toInt
    have hhigh := val.toInt_lt
    have hread : ofBeSigned (beSigned 8 val.toInt) = val.toInt :=
      ofBeSigned_beSigned (by omega) (by omega)
    refine (pgTryGet_some .i64 .int8 rfl _).trans ?_
    simp only [pgDecode, pgWire, hread, Int64.ofInt_toInt]
  bool flag := by
    refine (pgTryGet_some .bool .bool rfl _).trans ?_
    cases flag <;> rfl
  text type content := by
    have htype : readsType .string type.type := by cases type <;> rfl
    exact (pgTryGet_some .string type.type htype _).trans pgDecode_text
  decimal num h := by
    obtain ⟨dec, hread, hvalue⟩ := pgDecode_decimal h
    exact ⟨dec, (pgTryGet_some .decimal .numeric rfl _).trans hread, hvalue⟩
  bounds type cell _ h := pgTryGet_bounds type cell h
  prints dec := Decimal.read_print dec.negative dec.mantissa dec.scale

theorem column_kept_iff_minusOne :
    (ColumnValue.int8 (-1)).Kept (columnToJson pgLib .int8 (some (pgWire (.int8 (-1))))) ↔
      (ColumnValue.int8 (-1)).type ≠ .oid ∧
        ∀ num, ColumnValue.int8 (-1) = .numeric num → num.Representable :=
  column_kept_iff pgLib pgWire pgLib_decodes (.int8 (-1))

/-- An OID column comes back as null. -/
theorem oid_reads_null :
    ∃ (lib : Lib) (wire : ColumnValue → List UInt8), Decodes lib wire ∧
      columnToJson lib .oid (some (wire (.oid 16384))) = .null ∧
      ¬ (ColumnValue.oid 16384).Kept (columnToJson lib .oid (some (wire (.oid 16384)))) := by
  have hnull : columnToJson pgLib .oid (some (pgWire (.oid 16384))) = .null := pgLib_decodes.oid_null
  refine ⟨pgLib, pgWire, pgLib_decodes, hnull, ?_⟩
  rintro ⟨num, hnum, -⟩
  have hclash : Json.null = .number num := hnull.symm.trans hnum
  cases hclash

/-! ## Query replies -/

/-- A result set: every row has a cell for each column of the statement, and the rows are
counted in a `usize`. -/
structure ResultSet where
  columns : List PgColumn
  cells : List (List (Option (List UInt8)))
  aligned : ∀ row ∈ cells, row.length = columns.length
  counted : cells.length < 2 ^ 64

def ResultSet.rows (set : ResultSet) : List PgRow := set.cells.map fun row => ⟨set.columns.zip row⟩

/-- The value `do_query` serializes. -/
def queryReply (lib : Lib) (rows : List PgRow) (maxRows : Nat) : Json :=
  .object
    [("columns", .array ((extractColumns rows).map .string)),
     ("rows", .array (rowsToJson lib rows maxRows).1),
     ("row_count", .ofUsize (rowsToJson lib rows maxRows).1.length),
     ("truncated", .bool (rowsToJson lib rows maxRows).2)]

/-- The cell's value is found under the name of its column. -/
def Readable (lib : Lib) (row : PgRow) (cell : PgColumn × Option (List UInt8)) : Prop :=
  (rowToJson lib row).get cell.1.name = some (columnToJson lib cell.1.type cell.2)

/-- No later column of the row has the name of the `j`-th. -/
def LastNamed (row : PgRow) (j : Nat) (cell : PgColumn × Option (List UInt8)) : Prop :=
  ∀ k cell', j < k → row.cells[k]? = some cell' → cell'.1.name ≠ cell.1.name

/-- A reply carries the first rows of a result set, in order, with every column that is
the last of its name. -/
structure Carries (lib : Lib) (set : ResultSet) (maxRows : Nat) (reply : Json) : Prop where
  columns : reply.get "columns" = some (.array (set.columns.map fun column => .string column.name))
  rows : reply.get "rows" = some (.array ((set.rows.take maxRows).map (rowToJson lib)))
  rowCount : ∃ count, (reply.get "row_count").bind Json.asU64 = some count ∧
    count.toNat = min set.rows.length maxRows
  truncated : reply.get "truncated" = some (.bool (decide (maxRows < set.rows.length)))
  cells : ∀ row ∈ set.rows.take maxRows, ∀ j cell, row.cells[j]? = some cell →
    LastNamed row j cell → Readable lib row cell

private theorem get_foldl_other {lib : Lib} {name : String}
    (cells : List (PgColumn × Option (List UInt8)))
    (obj : List (String × Json)) (h : ∀ cell ∈ cells, cell.1.name ≠ name) :
    Json.get name (.object (cells.foldl
      (fun obj cell => Json.insert obj cell.1.name (columnToJson lib cell.1.type cell.2)) obj)) =
      Json.get name (.object obj) := by
  induction cells generalizing obj with
  | nil => rfl
  | cons cell cells ih =>
    rw [List.foldl_cons, ih _ fun cell hcell => h cell (List.mem_cons_of_mem _ hcell),
      Json.get_insert, if_neg (h cell List.mem_cons_self)]

private theorem readable_of_last {lib : Lib} {row : PgRow} {j : Nat}
    {cell : PgColumn × Option (List UInt8)}
    (hcell : row.cells[j]? = some cell) (hlast : LastNamed row j cell) : Readable lib row cell := by
  obtain ⟨hj, hget⟩ := List.getElem?_eq_some_iff.mp hcell
  have hsplit : row.cells = row.cells.take j ++ cell :: row.cells.drop (j + 1) := by
    rw [← hget, List.getElem_cons_drop, List.take_append_drop]
  have hother : ∀ cell' ∈ row.cells.drop (j + 1), cell'.1.name ≠ cell.1.name := by
    intro cell' hmem
    obtain ⟨i, hi⟩ := List.mem_iff_getElem?.mp hmem
    rw [List.getElem?_drop] at hi
    exact hlast (j + 1 + i) cell' (by omega) hi
  unfold Readable rowToJson
  rw [hsplit, List.foldl_append, List.foldl_cons, get_foldl_other _ _ hother, Json.get_insert,
    if_pos rfl]

theorem rowsToJson_rows (lib : Lib) (rows : List PgRow) (maxRows : Nat) :
    rowsToJson lib rows maxRows =
      ((rows.take maxRows).map (rowToJson lib), decide (maxRows < rows.length)) := by
  by_cases h : maxRows < rows.length
  · simp [rowsToJson, h]
  · have hall : rows.take maxRows = rows := List.take_of_length_le (by omega)
    simp [rowsToJson, h, hall]

private theorem ResultSet.extractColumns_rows (set : ResultSet) (h : set.cells ≠ []) :
    extractColumns set.rows = set.columns.map PgColumn.name := by
  cases hcells : set.cells with
  | nil => exact absurd hcells h
  | cons row rest =>
    have hlen : row.length = set.columns.length := set.aligned row (by simp [hcells])
    have hzip : (set.columns.zip row).map Prod.fst = set.columns :=
      List.map_fst_zip (by omega)
    have hnames := congrArg (List.map PgColumn.name) hzip
    rw [List.map_map] at hnames
    simp only [ResultSet.rows, hcells, List.map_cons, extractColumns]
    exact hnames

/-- The reply to a query with a row carries the result set up to the cap. -/
theorem queryReply_carries (lib : Lib) (set : ResultSet) (maxRows : Nat) (h : set.cells ≠ []) :
    Carries lib set maxRows (queryReply lib set.rows maxRows) where
  columns := by
    simp [queryReply, Json.get, set.extractColumns_rows h]
  rows := by
    simp [queryReply, Json.get, rowsToJson_rows]
  rowCount := by
    have hlen : set.rows.length < 2 ^ 64 := by
      rw [ResultSet.rows, List.length_map]
      exact set.counted
    have hcount : (min maxRows set.rows.length) < 2 ^ 64 := by omega
    refine ⟨UInt64.ofNat (min maxRows set.rows.length), ?_, ?_⟩
    · simp [queryReply, Json.get, rowsToJson_rows, Json.ofUsize, Json.asU64, Number.asU64]
    · rw [UInt64.toNat_ofNat_of_lt' hcount, Nat.min_comm]
  truncated := by
    simp [queryReply, Json.get, rowsToJson_rows]
  cells row _ j cell hcell hlast := readable_of_last hcell hlast

def queryResult (lib : Lib) (maxRows : Nat) (answer : Option (Except PgError (List PgRow))) :
    Except DbError String :=
  match answer with
  | some (.ok rows) =>
    (lib.toStr (queryReply lib rows maxRows)).mapError fun err => .fallback s!"serialize error: {err}"
  | some (.error driver) => .error (.fromDriver driver)
  | none => .error .timeout

private theorem queryResult_ok {lib : Lib} {maxRows : Nat} {rows : List PgRow} {text : String}
    (h : queryResult lib maxRows (some (.ok rows)) = .ok text) :
    lib.toStr (queryReply lib rows maxRows) = .ok text :=
  mapError_ok h

private theorem doQuery_run (lib : Lib) (call : DbCall) (sql paramsJson : String) (maxRows : Nat) :
    (doQuery lib call sql paramsJson maxRows).run =
      match parseParams lib paramsJson with
      | .error err => .ret (.error (.fallback err))
      | .ok params => now >>= fun t =>
        askWithin (call.deadline - t) (.db (.timeout call.client (.query sql params))) >>= fun answer =>
          .ret (queryResult lib maxRows answer) := by
  unfold doQuery
  cases parseParams lib paramsJson with
  | error err => rfl
  | ok params =>
    refine congrArg (Prog.act _) (funext fun t => congrArg (Prog.act _) (funext fun answer => ?_))
    cases answer with
    | none => rfl
    | some result =>
      cases result with
      | error driver => rfl
      | ok rows => rfl

/-- Every reply `do_query` gives to a result set with a row carries it up to the cap. -/
theorem doQuery_carries (lib : Lib) (set : ResultSet) (maxRows : Nat) (h : set.cells ≠ [])
    (call : DbCall) (sql paramsJson text : String) (params : List ParamValue)
    (budget : Option Duration) (es : List (Event Fx))
    (hrun : Prog.Steps (doQuery lib call sql paramsJson maxRows).run
      (es ++ [⟨⟨.db (.timeout call.client (.query sql params)), budget⟩, some (.ok set.rows)⟩])
      (.ret (.ok text))) :
    ∃ reply, lib.toStr reply = .ok text ∧ Carries lib set maxRows reply := by
  refine ⟨queryReply lib set.rows maxRows, ?_, queryReply_carries lib set maxRows h⟩
  rw [doQuery_run] at hrun
  cases hparams : parseParams lib paramsJson with
  | error err =>
    rw [hparams] at hrun
    have hnil := (Prog.steps_ret hrun).1
    simp at hnil
  | ok params' =>
    rw [hparams] at hrun
    -- the clock reading comes first, so the statement's event is the second
    cases es with
    | nil =>
      obtain ⟨t, hev, -⟩ := Prog.steps_act_cons hrun
      cases hev
    | cons first rest =>
      obtain ⟨t, -, hrest⟩ := Prog.steps_act_cons hrun
      cases rest with
      | nil =>
        obtain ⟨answer, hev, hlast⟩ := Prog.steps_act_cons hrest
        cases hev
        have hresult := (Prog.steps_ret hlast).2
        exact queryResult_ok (Prog.ret.inj hresult).symm
      | cons second more =>
        obtain ⟨answer, -, hlast⟩ := Prog.steps_act_cons hrest
        have hnil := (Prog.steps_ret hlast).1
        simp at hnil

/-- Orders and the customers they are joined with, where both tables have an `id`. -/
def orders : ResultSet where
  columns := [⟨"id", .int4⟩, ⟨"name", .text⟩, ⟨"id", .int4⟩]
  cells :=
    [[some (pgWire (.int4 1)), some (pgWire (.text .text "ann")), some (pgWire (.int4 70))],
     [some (pgWire (.int4 2)), none, some (pgWire (.int4 80))],
     [some (pgWire (.int4 3)), some (pgWire (.text .text "bob")), none]]
  aligned := by simp
  counted := by decide

/-- `serde_json` on the replies, and on the empty parameter list. -/
def ordersRowLib : Lib :=
  { pgLib with
    fromStrArray := fun text => if text = "[]" then .ok [] else .error "expected value"
    toStr := fun value => .ok (plainText value) }

/-- The reply for at most two rows of `orders`. -/
def ordersText : String :=
  "\x7b\"columns\":[\"id\",\"name\",\"id\"],\"rows\":[\x7b\"id\":70,\"name\":\"ann\"\x7d," ++
    "\x7b\"id\":80,\"name\":null\x7d],\"row_count\":2,\"truncated\":true\x7d"

theorem doQuery_carries_orders :
    ∃ reply, ordersRowLib.toStr reply = .ok ordersText ∧ Carries ordersRowLib orders 2 reply := by
  refine doQuery_carries ordersRowLib orders 2 (by simp [orders]) ⟨0, 1000⟩ "SELECT" "[]" _ []
    (some 900) [⟨⟨.now, none⟩, (100 : Nat)⟩] ?_
  have htext : queryResult ordersRowLib 2 (some (.ok orders.rows)) = .ok ordersText := rfl
  rw [doQuery_run, ← htext]
  exact .act (.act (.refl _))

/-- Two columns of one name, as in a join. -/
def joined (first second : Bool) : ResultSet where
  columns := [⟨"id", .bool⟩, ⟨"id", .bool⟩]
  cells := [[some (pgWire (.bool first)), some (pgWire (.bool second))]]
  aligned := by simp
  counted := by simp

/-- Rows that differ in the first of two columns of one name have one reply, so nothing
read from the reply is the first column's value. -/
theorem repeated_name_hides_column :
    queryReply pgLib (joined true false).rows 10 = queryReply pgLib (joined false false).rows 10 ∧
      (∃ row ∈ (joined true false).rows.take 10, ∃ cell, row.cells[0]? = some cell ∧
        columnToJson pgLib cell.1.type cell.2 = .bool true ∧ ¬ Readable pgLib row cell) ∧
      (∃ row ∈ (joined false false).rows.take 10, ∃ cell, row.cells[0]? = some cell ∧
        columnToJson pgLib cell.1.type cell.2 = .bool false) := by
  refine ⟨rfl, ⟨_, List.mem_cons_self, _, rfl, rfl, ?_⟩, ⟨_, List.mem_cons_self, _, rfl, rfl⟩⟩
  intro hread
  have hfound : some (Json.bool false) = some (Json.bool true) := hread
  cases hfound

end Fabricd.Db
