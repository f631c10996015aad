import MediaPlane.Failure

/-
  Operations that clients ask for, and their wire form: a method name with parameters.
  `Operation.ofParts` reads that form and `Operation.toParts` writes it; the parameters of every
  method but three are a record whose fields `Method.record` lists.
-/

namespace MediaPlane

/-- What a client may ask for. -/
inductive Method where
  | create
  | invoke
  | ref
  | unref
  | release
  | describe
  | subscribe
  | unsubscribe
  | transaction
  | closeSession
  | keepAlive
  | connect
  | ping
deriving DecidableEq, Repr

namespace Method

def all : List Method :=
  [create, invoke, ref, unref, release, describe, subscribe, unsubscribe, transaction,
    closeSession, keepAlive, connect, ping]

def name : Method → String
  | create => "create"
  | invoke => "invoke"
  | ref => "ref"
  | unref => "unref"
  | release => "release"
  | describe => "describe"
  | subscribe => "subscribe"
  | unsubscribe => "unsubscribe"
  | transaction => "transaction"
  | closeSession => "closeSession"
  | keepAlive => "keepAlive"
  | connect => "connect"
  | ping => "ping"

def ofName? (s : String) : Option Method := all.find? (·.name = s)

theorem ofName?_name (m : Method) : ofName? m.name = some m := by cases m <;> decide

theorem name_of_ofName? {s : String} {m : Method} (h : ofName? s = some m) : m.name = s := by
  simpa using List.find?_some h

/-- The methods that address objects; only they may stand in a transaction. -/
def inTransaction : Method → Bool
  | create | invoke | ref | unref | release | describe | subscribe | unsubscribe => true
  | transaction | closeSession | keepAlive | connect | ping => false

/-- The parameters of a method; `none` if it takes none. -/
def record : Method → Option Record
  | create => some ⟨"CreateParams",
      [⟨"type", true, .text⟩, ⟨"constructorParams", false, .anything⟩]⟩
  | invoke => some ⟨"InvokeParams",
      [⟨"object", true, .text⟩, ⟨"operation", true, .text⟩,
        ⟨"operationParams", false, .anything⟩]⟩
  | ref | unref | release | describe => some ⟨"ObjectParams", [⟨"object", true, .text⟩]⟩
  | subscribe => some ⟨"SubscribeParams",
      [⟨"object", true, .text⟩, ⟨"type", true, .text⟩, ⟨"transportParams", false, .anything⟩]⟩
  | unsubscribe => some ⟨"UnsubscribeParams",
      [⟨"object", true, .text⟩, ⟨"subscription", true, .text⟩]⟩
  | transaction => some ⟨"TransactionParams", [⟨"operations", true, .list⟩]⟩
  | closeSession => some ⟨"CloseSessionParams", [⟨"release", false, .flag⟩]⟩
  | keepAlive | connect | ping => none

end Method

/-- One operation with its parameters. -/
inductive Operation where
  | create (typeName : String) (params : Value)
  | invoke (object : ObjectId) (operation : String) (params : Value)
  | ref (object : ObjectId)
  | unref (object : ObjectId)
  | release (object : ObjectId)
  | describe (object : ObjectId)
  | subscribe (object : ObjectId) (eventType : String) (params : Value)
  | unsubscribe (object : ObjectId) (subscription : SubscriptionId)
  | transaction (operations : List Value)
  | closeSession (forced : Bool)
  | keepAlive
  | connect
  | ping
deriving Repr

namespace Operation

def method : Operation → Method
  | create .. => .create
  | invoke .. => .invoke
  | ref _ => .ref
  | unref _ => .unref
  | release _ => .release
  | describe _ => .describe
  | subscribe .. => .subscribe
  | unsubscribe .. => .unsubscribe
  | transaction _ => .transaction
  | closeSession _ => .closeSession
  | keepAlive => .keepAlive
  | connect => .connect
  | ping => .ping

/-! ## Reading -/

/-- The operation that parameters give once they were read. -/
def ofFields (m : Method) (fields : Value) : Operation :=
  let object : ObjectId := ⟨fields.textAt "object"⟩
  match m with
  | .create => .create (fields.textAt "type") (fields.memberAt "constructorParams")
  | .invoke =>
    .invoke object (fields.textAt "operation") (fields.memberAt "operationParams")
  | .ref => .ref object
  | .unref => .unref object
  | .release => .release object
  | .describe => .describe object
  | .subscribe => .subscribe object (fields.textAt "type") (fields.memberAt "transportParams")
  | .unsubscribe => .unsubscribe object ⟨fields.textAt "subscription"⟩
  | .transaction => .transaction (fields.itemsAt "operations")
  | .closeSession => .closeSession (fields.flagAt "release")
  | .keepAlive => .keepAlive
  | .connect => .connect
  | .ping => .ping

/-- Null parameters stand for an empty object. -/
def orEmpty (params : Value) : Value := if params.isNull then .obj [] else params

/-- The operation of a known method. -/
def ofParams (m : Method) (params : Value) : Except Failure Operation :=
  match m.record with
  | none => .ok (ofFields m .null)
  | some r =>
    match r.read (orEmpty params) with
    | .error f => .error (.invalidParams (.malformed m.name f))
    | .ok fields => .ok (ofFields m fields)

/-- Reads a method name and its parameters. -/
def ofParts (method : String) (params : Value) : Except Failure Operation :=
  match Method.ofName? method with
  | none => .error (.unknownMethod method)
  | some m => ofParams m params

/-! ## Writing -/

/-- The parameters, with every field of their record; null if there are none. -/
def params : Operation → Value
  | create typeName params => .object [("type", .str typeName), ("constructorParams", params)]
  | invoke object operation params =>
    .object [("object", .str object.text), ("operation", .str operation),
      ("operationParams", params)]
  | ref object | unref object | release object | describe object =>
    .object [("object", .str object.text)]
  | subscribe object eventType params =>
    .object [("object", .str object.text), ("type", .str eventType), ("transportParams", params)]
  | unsubscribe object subscription =>
    .object [("object", .str object.text), ("subscription", .str subscription.text)]
  | transaction operations => .object [("operations", .arr operations)]
  | closeSession forced => .object [("release", .bool forced)]
  | keepAlive | connect | ping => .null

/-- The method name and the parameters. -/
def toParts (op : Operation) : String × Value := (op.method.name, op.params)

/-- The form inside a transaction: an object with the method and, unless null, the parameters. -/
def toValue (op : Operation) : Value :=
  .objectOf [("method", some (.str op.method.name)),
    ("params", if op.params.isNull then none else some op.params)]

end Operation

end MediaPlane
