import Fabricd.Json

/-!
# The MongoDB driver

BSON values and what the `mongo` backend asks of the driver. Every request but
`deserializeCurrent` is awaited under the call's budget, so its answer is `none`
when the timer elapsed first.
-/

namespace Fabricd.Mongodb

open Framework

abbrev ClientId := Nat
abbrev CursorId := Nat

/-- `bson::Bson`, with one constructor for the types the backend does not tell apart,
which carries their rendered text. -/
inductive Bson where
  | double (num : F64)
  | string (text : String)
  | boolean (flag : Bool)
  | null
  | int32 (int : Int32)
  | int64 (int : Int64)
  | objectId (oid : List UInt8)
  | decimal128 (bytes : List UInt8)
  | dateTime (millis : Int64)
  | binary (bytes : List UInt8)
  | array (items : List Bson)
  | document (fields : List (String × Bson))
  | exotic (text : String)

abbrev Document := List (String × Bson)

/-- `mongodb::error::ErrorKind`, with one constructor for the kinds the backend does
not tell apart. -/
inductive ErrorKind where
  | authentication
  | io
  | serverSelection
  | write
  | bulkWrite
  | command (code : Int32)
  | invalidArgument
  | insertMany
  | exotic (name : String)
  deriving DecidableEq, Inhabited

structure DriverError where
  kind : ErrorKind
  message : String
  deriving DecidableEq, Inhabited

/-- A collection handle: the client that opened it, the database and the name. -/
structure Collection where
  client : ClientId
  database : String
  name : String
  deriving DecidableEq

/-- `find` with the builder calls the backend makes. -/
structure FindAction where
  filter : Document
  maxTimeMs : UInt64
  limit : Option Int64
  skip : Option UInt64
  sort : Option Document
  projection : Option Document

/-- The `inserted_id` of an `insert_one`, the counts of the other writes. -/
structure UpdateResult where
  matchedCount : UInt64
  modifiedCount : UInt64
  deriving DecidableEq

inductive Op where
  | build (uri : String)
  | find (collection : Collection) (action : FindAction)
  | advance (client : ClientId) (cursor : CursorId)
  | deserializeCurrent (client : ClientId) (cursor : CursorId)
  | findOne (collection : Collection) (filter : Document)
  | countDocuments (collection : Collection) (filter : Document) (maxTimeMs : UInt64)
  | aggregate (collection : Collection) (pipeline : List Document) (maxTimeMs : UInt64)
  | insertOne (collection : Collection) (doc : Document)
  | insertMany (collection : Collection) (docs : List Document)
  | update (many : Bool) (collection : Collection) (filter update : Document)
  | delete (many : Bool) (collection : Collection) (filter : Document)

def Op.Ans : Op → Type
  | build _ => Except DriverError ClientId
  | find _ _ => Option (Except DriverError CursorId)
  | advance _ _ => Option (Except DriverError Bool)
  | deserializeCurrent _ _ => Except DriverError Document
  | findOne _ _ => Option (Except DriverError (Option Document))
  | countDocuments _ _ _ => Option (Except DriverError UInt64)
  | aggregate _ _ _ => Option (Except DriverError CursorId)
  | insertOne _ _ => Option (Except DriverError Bson)
  | insertMany _ _ => Option (Except DriverError Nat)
  | update _ _ _ _ => Option (Except DriverError UpdateResult)
  | delete _ _ _ => Option (Except DriverError UInt64)

def Op.client : Op → Option ClientId
  | build _ => none
  | find collection _ | findOne collection _ | countDocuments collection _ _
  | aggregate collection _ _ | insertOne collection _ | insertMany collection _
  | update _ collection _ _ | delete _ collection _ => some collection.client
  | advance client _ | deserializeCurrent client _ => some client

end Fabricd.Mongodb
