import MediaPlane.Identity
import MediaPlane.Value.Record

/-
  Why a request fails. A failure is a cause; its code, its label in the statistics, its wording and
  the payload that a client sees are functions of the cause. What an engine reports is passed on as
  it is. An internal failure keeps its details from the client.
-/

namespace MediaPlane

/-! ## Codes -/

/-- The code of a failure: one of the control plane's own, or one that an engine chose. -/
inductive FailureCode where
  | objectNotFound
  | invalidSession
  | notEnoughResources
  | subscriptionNotFound
  | unresolvedReference
  | invalidParams
  | methodNotFound
  | internalError
  | engine (code : Int32)
deriving DecidableEq, Repr

namespace FailureCode

/-- Every code that is not an engine's. -/
def own : List FailureCode :=
  [objectNotFound, invalidSession, notEnoughResources, subscriptionNotFound, unresolvedReference,
    invalidParams, methodNotFound, internalError]

def number : FailureCode → Int32
  | objectNotFound => 40101
  | invalidSession => 40102
  | notEnoughResources => 40103
  | subscriptionNotFound => 40401
  | unresolvedReference => 40402
  | invalidParams => -32602
  | methodNotFound => -32601
  | internalError => -32603
  | engine code => code

def symbol : FailureCode → String
  | objectNotFound => "MEDIA_OBJECT_NOT_FOUND"
  | invalidSession => "INVALID_SESSION"
  | notEnoughResources => "NOT_ENOUGH_RESOURCES"
  | subscriptionNotFound => "SUBSCRIPTION_NOT_FOUND"
  | unresolvedReference => "UNRESOLVED_REFERENCE"
  | invalidParams => "INVALID_PARAMS"
  | methodNotFound => "METHOD_NOT_FOUND"
  | internalError => "INTERNAL_ERROR"
  | engine _ => "ENGINE_ERROR"

theorem own_numbers_nodup : (own.map number).Nodup := by decide

end FailureCode

/-! ## What engines report -/

/-- A failure inside an engine, in the engine's own terms. -/
structure EngineFault where
  code : Int32
  kind : String
  message : String
  data : Option Value := none
deriving Repr

namespace EngineFault

def withData (f : EngineFault) (data : Value) : EngineFault := { f with data := some data }

/-- The element has no such operation. -/
def unsupportedOperation (typeName operation : String) : EngineFault where
  code := 40105
  kind := "MEDIA_OBJECT_OPERATION_NOT_FOUND"
  message := typeName ++ " has no operation '" ++ operation ++ "'"

/-- A parameter is missing or has the wrong shape. -/
def illegalParam (message : String) : EngineFault where
  code := 40107
  kind := "MEDIA_OBJECT_ILLEGAL_PARAM_ERROR"
  message := message

def display (f : EngineFault) : String := f.kind ++ ": " ++ f.message

end EngineFault

/-! ## Causes -/

/-- What is wrong with the parameters of an operation. -/
inductive ParamFault where
  | malformed (method : String) (fault : DecodeFault)
  | parentRequired (typeName param : String)
  | notInTransaction (method : String)
  | operationNotObject
  | methodMissing
  | argumentMissing (operation name : String)
  | noTag (key : String)
  | handlerElsewhere (bound asked : ObjectId)
  | alreadySubscribed (subscription : SubscriptionId)
  | refused (reason : String)
deriving Repr

namespace ParamFault

def message : ParamFault → String
  | malformed method fault => method ++ ": " ++ fault.message
  | parentRequired typeName param =>
    typeName ++ " requires constructor parameter '" ++ param ++ "'"
  | notInTransaction method => "'" ++ method ++ "' is not allowed in a transaction"
  | operationNotObject => "transaction operations must be objects"
  | methodMissing => "transaction operation is missing 'method'"
  | argumentMissing operation name => operation ++ ": missing '" ++ name ++ "'"
  | noTag key => "getTag: no tag '" ++ key ++ "'"
  | handlerElsewhere bound asked =>
    "handler is bound to " ++ bound.text ++ ", not " ++ asked.text
  | alreadySubscribed subscription =>
    "subscription " ++ subscription.text ++ " already registered"
  | refused reason => reason

end ParamFault

/-- A failure that no client caused. -/
inductive InternalFault where
  | registeredTwice (id : ObjectId)
  | noHandlerFactory
  | abandoned
  | other (details : String)
deriving Repr

namespace InternalFault

def message : InternalFault → String
  | registeredTwice id => "object id " ++ id.text ++ " registered twice"
  | noHandlerFactory => "no event subscription handler installed"
  | abandoned => "original request was abandoned"
  | other details => details

end InternalFault

/-- Why a request fails. -/
inductive Failure where
  | objectNotFound (id : ObjectId)
  | wrongKind (id : ObjectId) (expected : String)
  | invalidSession (session : SessionId)
  | notEnoughResources (usage limit : Binary64)
  | subscriptionNotFound (subscription : SubscriptionId)
  | unresolvedReference (placeholder : String)
  | invalidParams (fault : ParamFault)
  | unknownMethod (method : String)
  | unknownType (tag : String)
  | engine (fault : EngineFault)
  | internal (fault : InternalFault)
deriving Repr

namespace Failure

def code : Failure → FailureCode
  | objectNotFound _ => .objectNotFound
  | wrongKind _ _ => .objectNotFound
  | invalidSession _ => .invalidSession
  | notEnoughResources _ _ => .notEnoughResources
  | subscriptionNotFound _ => .subscriptionNotFound
  | unresolvedReference _ => .unresolvedReference
  | invalidParams _ => .invalidParams
  | unknownMethod _ => .methodNotFound
  | unknownType _ => .methodNotFound
  | engine fault => .engine fault.code
  | internal _ => .internalError

/-- The wording, with all details. -/
def message : Failure → String
  | objectNotFound id => "Media object not found: " ++ id.text
  | wrongKind id expected => "Media object " ++ id.text ++ " is not a " ++ expected
  | invalidSession session => "Invalid session: " ++ session.text
  | notEnoughResources usage limit =>
    "Not enough resources: usage " ++ usage.fixed 3 ++ " exceeds limit " ++ limit.fixed 3
  | subscriptionNotFound subscription => "Subscription not found: " ++ subscription.text
  | unresolvedReference placeholder => "Unresolved reference: " ++ placeholder
  | invalidParams fault => "Invalid params: " ++ fault.message
  | unknownMethod method => "Unknown method: " ++ method
  | unknownType tag => "Unknown object type: " ++ tag
  | engine fault => fault.display
  | internal fault => "Internal error: " ++ fault.message

/-- The wording that a client sees. -/
def clientMessage : Failure → String
  | internal _ => "An internal error occurred"
  | engine fault => fault.message
  | f => f.message

/-- The label under which a failed request is counted. -/
def label : Failure → String
  | objectNotFound _ => "not_found"
  | wrongKind _ _ => "not_found"
  | invalidSession _ => "invalid_session"
  | notEnoughResources _ _ => "not_enough_resources"
  | subscriptionNotFound _ => "subscription_not_found"
  | unresolvedReference _ => "validation"
  | invalidParams _ => "validation"
  | unknownMethod _ => "validation"
  | unknownType _ => "validation"
  | engine _ => "engine"
  | internal _ => "internal"

end Failure

/-! ## The payload of a failed response -/

/-- The error payload of a response. -/
structure ErrorBody where
  code : Int32
  message : String
  data : Option Value := none
deriving Repr

namespace ErrorBody

def record : Record where
  name := "ErrorBody"
  fields :=
    [⟨"code", true, .code⟩, ⟨"message", true, .text⟩, ⟨"data", false, .optional .anything⟩]

/-- The error payload of fields that were read. -/
def ofFields (fields : Value) : ErrorBody where
  code := Int32.ofInt (fields.intAt "code")
  message := fields.textAt "message"
  data := fields.get? "data"

def ofValue (v : Value) : Except DecodeFault ErrorBody := (record.read v).map ofFields

def toValue (b : ErrorBody) : Value :=
  .objectOf [("code", some (.int b.code.toInt)), ("message", some (.str b.message)),
    ("data", b.data)]

end ErrorBody

namespace Failure

/-- What a client is told about a failure. -/
def body (f : Failure) : ErrorBody where
  code := f.code.number
  message := f.clientMessage
  data := some <|
    match f with
    | engine fault => .objectOf [("type", some (.str fault.kind)), ("details", fault.data)]
    | _ => .object [("type", .str f.code.symbol)]

end Failure

end MediaPlane
