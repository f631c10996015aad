import MediaPlane.ControlPlane.Status
import MediaPlane.Http.Body
import MediaPlane.Http.MediaType
import MediaPlane.Value.Writer

/-
  Two services over HTTP. One takes requests in JSON bodies and lists the objects; the other says
  whether the process lives and is ready. Routing settles a message at once, except for a request,
  which is handed on as a call.
-/

namespace MediaPlane.Http

/-- The two services. -/
inductive Service where
  | requests
  | health
deriving DecidableEq, Repr

/-- A message to a service. -/
structure Message where
  method : String
  target : String
  contentType : Option String
  body : String
deriving Repr

/-- The longest body that is looked at, in bytes. -/
def maxBodyBytes : Nat := 2097152

/-- An answer; its body is JSON text or nothing that matters. -/
structure Reply where
  status : Nat
  body : Option String := none
deriving Repr

namespace Reply

def ok (body : Value) : Reply := ⟨200, some body.write⟩

def notFound : Reply := ⟨404, none⟩

def methodNotAllowed : Reply := ⟨405, none⟩

def unavailable : Reply := ⟨503, none⟩

def ofFault : BodyFault → Reply
  | .malformed => ⟨400, none⟩
  | .unfit => ⟨422, none⟩

/-- An answer as its receiver reads it; a body that cannot be read counts as null. -/
def toValue (r : Reply) : Value :=
  .object [("status", .nat r.status), ("body", Value.orNull (r.body.bind Value.read?))]

end Reply

/-- What a message comes to: an answer, or a call that gives one. -/
inductive Routed where
  | reply (r : Reply)
  | call (request : Request)

/-- The path of a target, which may come with a scheme and a host, and ends before a query. -/
def pathOf (target : String) : String :=
  let cs := target.toList
  let afterHost := fun cs : List Char => cs.dropWhile fun c => c ≠ '/' && c ≠ '?' && c ≠ '#'
  let path :=
    if cs.head? = some '/' then cs
    else
      match cs.dropWhile (· ≠ ':') with
      | ':' :: '/' :: '/' :: rest =>
        match afterHost rest with
        | '/' :: path => '/' :: path
        | rest => '/' :: rest
      | _ => cs
  String.ofList (path.takeWhile fun c => c ≠ '?' && c ≠ '#')

/-- A resource that can only be read; a head request is answered without the body. -/
def readOnly (m : Message) (r : Reply) : Reply :=
  if m.method = "GET" then r
  else if m.method = "HEAD" then { r with body := none }
  else .methodNotAllowed

/-- A message that should hold a request. -/
def acceptRequest (m : Message) : Routed :=
  if m.method ≠ "POST" then .reply .methodNotAllowed
  else if !(m.contentType.any isJson) then .reply ⟨415, none⟩
  else if maxBodyBytes < m.body.utf8ByteSize then .reply ⟨413, none⟩
  else
    match readRequest m.body with
    | .ok r => .call r
    | .error f => .reply (.ofFault f)

/-- Routes a message by its path. -/
def route (cp : ControlPlane) (ready : Bool) (service : Service) (m : Message) : Routed :=
  match service, pathOf m.target with
  | .requests, "/rpc" => acceptRequest m
  | .requests, "/objects" => .reply (readOnly m (.ok cp.snapshot))
  | .health, "/health" => .reply (readOnly m ⟨200, none⟩)
  | .health, "/ready" => .reply (readOnly m (if ready then .ok cp.status.toValue else .unavailable))
  | _, _ => .reply .notFound

end MediaPlane.Http
