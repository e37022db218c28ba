import Fabricd.Drivers.Postgres
import Fabricd.Drivers.Mongodb
import Fabricd.Drivers.Services

/-!
# Library functions

The pure functions the daemon takes from its dependencies, as a parameter of the
model. `serde_json::from_str` appears once for each payload type it is used at; its
result lists the fields the text had, and the `#[serde(default)]` values are filled in
by the function that reads it.
-/

namespace Fabricd

open Postgres Mongodb Smtp

structure DbFields where
  sql : String
  params : Option Json

structure MongoFields where
  collection : Option String
  data : Option Json

structure AuthFields where
  token : Option String

structure FindOptFields where
  limit : Option Int64
  skip : Option UInt64
  sort : Option Json
  projection : Option Json

structure MongoPayloadFields where
  filter : Option Json
  update : Option Json
  doc : Option Json
  docs : Option Json
  pipeline : Option Json
  options : Option FindOptFields

structure MailFields where
  sender : Option String
  to' : Option (List String)
  cc : Option (List String)
  bcc : Option (List String)
  replyTo : Option String
  subject : Option String
  text : Option String
  html : Option String

structure KeyFields where
  key : Option String

structure SetFields where
  key : Option String
  value : Option String
  ttl : Option UInt64

structure ExpireFields where
  key : Option String
  seconds : Option Int64

structure AmqMessageFields where
  key : Option String
  payload : Option String

structure AmqSendFields where
  messages : Option (List AmqMessageFields)

structure AmqRequestFields where
  subject : Option String
  payload : Option String

/-- The functions of the dependencies. -/
structure Lib where
  /-- `serde_json::from_str::<Value>`. -/
  fromStr : String → Except String Json
  /-- `serde_json::from_str::<Vec<Value>>`. -/
  fromStrArray : String → Except String (List Json)
  /-- `serde_json::to_string` of a `Value`. -/
  toStr : Json → Except String String
  /-- `Value::to_string`. -/
  display : Json → String
  dbPayload : String → Except String DbFields
  mongoEnvelope : String → Except String MongoFields
  mongoPayload : String → Except String MongoPayloadFields
  mailPayload : String → Except String MailFields
  keyPayload : String → Except String KeyFields
  setPayload : String → Except String SetFields
  expirePayload : String → Except String ExpireFields
  amqSendPayload : String → Except String AmqSendFields
  amqRequestPayload : String → Except String AmqRequestFields
  authPayload : String → Except String AuthFields
  /-- `str::to_lowercase`. -/
  toLowercase : String → String
  /-- `String::from_utf8_lossy`. -/
  fromUtf8Lossy : List UInt8 → String
  /-- `Row::try_get::<_, Option<T>>` on a column's type and bytes. -/
  tryGet : (T : FromSql) → PgType → Option (List UInt8) → Except String (Option T.Val)
  /-- `rust_decimal::Decimal::to_string`. -/
  decimalToString : Decimal → String
  base64 : List UInt8 → String
  /-- `bson::to_bson` of a `Value`. -/
  toBson : Json → Except String Bson
  /-- `ObjectId::to_hex`. -/
  toHex : List UInt8 → String
  /-- `Decimal128::to_string`. -/
  decimal128ToString : List UInt8 → String
  /-- `DateTime::try_to_rfc3339_string`. -/
  tryToRfc3339 : Int64 → Except String String
  /-- `str::parse::<Mailbox>`. -/
  parseMailbox : String → Except String Mailbox
  /-- Finishing a message builder with its body. -/
  buildMessage : Message → Except String Message
  /-- `message.formatted().len()`. -/
  formattedLen : Message → Nat
  /-- `reqwest::Url::parse` and its `host_str`. -/
  urlHost : String → Option String

def Lib.rejecting : Lib where
  fromStr _ := .error "expected value"
  fromStrArray _ := .error "expected value"
  toStr _ := .error "no text"
  display _ := ""
  dbPayload _ := .error "expected value"
  mongoEnvelope _ := .error "expected value"
  mongoPayload _ := .error "expected value"
  mailPayload _ := .error "expected value"
  keyPayload _ := .error "expected value"
  setPayload _ := .error "expected value"
  expirePayload _ := .error "expected value"
  amqSendPayload _ := .error "expected value"
  amqRequestPayload _ := .error "expected value"
  authPayload _ := .error "expected value"
  toLowercase text := text
  fromUtf8Lossy _ := ""
  tryGet _ _ _ := .error "wrong type"
  decimalToString _ := "0"
  base64 _ := ""
  toBson _ := .error "not representable"
  toHex _ := ""
  decimal128ToString _ := "0"
  tryToRfc3339 _ := .error "out of range"
  parseMailbox _ := .error "missing address"
  buildMessage _ := .error "missing body"
  formattedLen _ := 0
  urlHost _ := none

mutual

/-- `serde_json::to_string` of a value that has no double in it and no text to escape. -/
def plainText : Json → String
  | .null => "null"
  | .bool flag => toString flag
  | .number (.posInt n) => toString n.toNat
  | .number (.negInt n) => toString n.toInt
  | .number (.float _) => "0.0"
  | .string text => "\"" ++ text ++ "\""
  | .array items => "[" ++ plainItems items ++ "]"
  | .object fields => "\x7b" ++ plainFields fields ++ "\x7d"

def plainItems : List Json → String
  | [] => ""
  | [item] => plainText item
  | item :: items => plainText item ++ "," ++ plainItems items

def plainFields : List (String × Json) → String
  | [] => ""
  | [(key, val)] => "\"" ++ key ++ "\":" ++ plainText val
  | (key, val) :: fields => "\"" ++ key ++ "\":" ++ plainText val ++ "," ++ plainFields fields

end

/-- The functions where only plain values are written. -/
def Lib.writing : Lib :=
  { Lib.rejecting with toStr := fun value => .ok (plainText value), display := plainText }

end Fabricd
