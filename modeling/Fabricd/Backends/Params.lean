import Fabricd.Lib
import Fabricd.Framework.Bytes

/-!
# Bound SQL parameters

The `db` payload's JSON parameters as typed values, and the bytes each is sent as.
-/

namespace Fabricd.Db

open Framework Postgres

def i32TryFrom (int : Int) : Option Int32 :=
  if -2 ^ 31 ≤ int ∧ int < 2 ^ 31 then some (Int32.ofInt int) else none

/-- `ParamValue::from`. Arrays and objects travel as their JSON text. -/
def ParamValue.from (lib : Lib) : Json → ParamValue
  | .null => .null
  | .bool flag => .bool flag
  | .number num =>
    match num.asI64 with
    | none => .float8 num.asF64
    | some int =>
      match i32TryFrom int with
      | some small => .int4 small
      | none => .int8 (Int64.ofInt int)
  | .string text => .text text
  | .array items =>
    match lib.toStr (.array items) with
    | .ok text => .text text
    | .error _ => .text "[]"
  | .object fields =>
    match lib.toStr (.object fields) with
    | .ok text => .text text
    | .error _ => .text "\x7b\x7d"

/-- Parses JSON params into typed values. -/
def parseParams (lib : Lib) (paramsJson : String) : Except String (List ParamValue) :=
  match lib.fromStrArray paramsJson with
  | .error err => .error s!"invalid params JSON: {err}"
  | .ok values => .ok (values.map (ParamValue.from lib))

/-- `ParamValue::accepts`: every parameter type. -/
def accepts (_ : PgType) : Bool := true

/-- `ToSql::to_sql` of a parameter; `none` is NULL. The library's encodings of `bool`,
`i32`, `i64`, `f64` and `String` do not look at the type. -/
def toSql (param : ParamValue) (_ : PgType) : Option (List UInt8) :=
  match param with
  | .null => none
  | .bool val => some [if val then 1 else 0]
  | .int4 val => some (beSigned 4 val.toInt)
  | .int8 val => some (beSigned 8 val.toInt)
  | .float8 val => some (beBytes 8 val.bits.toNat)
  | .text val => some (utf8Bytes val)

/-- `to_sql_checked!`: a type that is not accepted is refused. -/
def toSqlChecked (param : ParamValue) (type : PgType) : Except String (Option (List UInt8)) :=
  if accepts type then .ok (toSql param type) else .error "wrong type"

end Fabricd.Db
