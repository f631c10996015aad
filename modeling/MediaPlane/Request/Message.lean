import MediaPlane.Request.Operation

/-
  Requests and responses with their wire forms. Absent fields are left out when written; null stands
  for an absent one when read. A request that names neither an id nor a session is legal.
-/

namespace MediaPlane

namespace RequestId

def toValue : RequestId → Value
  | number n => .int n.toInt
  | text s => .str s

/-- A whole number of 64 bits with sign, or a text. -/
def ofValue? : Value → Option RequestId
  | .int n =>
    if Int64.minValue.toInt ≤ n ∧ n ≤ Int64.maxValue.toInt then some (.number (Int64.ofInt n))
    else none
  | .str s => some (.text s)
  | _ => none

def display : RequestId → String
  | number n => toString n.toInt
  | text s => s

def read : FieldReader := fun v =>
  if (ofValue? v).isSome then .ok (some v) else .error (.noVariant "RequestId")

theorem ofValue?_toValue (i : RequestId) : ofValue? i.toValue = some i := by
  cases i with
  | number n =>
    have h1 := n.le_toInt
    have h2 := n.toInt_lt
    simp [toValue, ofValue?, Int64.toInt_maxValue, Int64.ofInt_toInt]
    omega
  | text s => rfl

end RequestId

/-- One request as a client sends it. -/
structure Request where
  id : Option RequestId := none
  session : Option SessionId := none
  method : String
  params : Value := .null
deriving Repr

namespace Request

def record : Record where
  name := "Request"
  fields :=
    [⟨"id", false, .optional RequestId.read⟩, ⟨"sessionId", false, .optional .text⟩,
      ⟨"method", true, .text⟩, ⟨"params", false, .anything⟩]

/-- The request of fields that were read. -/
def ofFields (fields : Value) : Request where
  id := (fields.get? "id").bind RequestId.ofValue?
  session := ((fields.get? "sessionId").bind Value.str?).map SessionId.mk
  method := fields.textAt "method"
  params := fields.memberAt "params"

def ofValue (v : Value) : Except DecodeFault Request := (record.read v).map ofFields

def toValue (r : Request) : Value :=
  .objectOf [("id", r.id.map RequestId.toValue), ("sessionId", r.session.map (.str ·.text)),
    ("method", some (.str r.method)),
    ("params", if r.params.isNull then none else some r.params)]

/-- The operation asked for, or why there is none. -/
def operation (r : Request) : Except Failure Operation := Operation.ofParts r.method r.params

/-- A request for an operation in a session. -/
def inSession (session : SessionId) (op : Operation) : Request where
  session := some session
  method := op.method.name
  params := op.params

/-- A request for an operation without a session. -/
def anonymous (op : Operation) : Request where
  method := op.method.name
  params := op.params

end Request

/-- The outcome of one request. -/
structure Response where
  id : Option RequestId := none
  session : Option SessionId := none
  result : Option Value := none
  error : Option ErrorBody := none
deriving Repr

namespace Response

/-- The response to a request with a known outcome. -/
def ofOutcome (id : Option RequestId) (session : Option SessionId) :
    Except Failure Value → Response
  | .ok result => { id, session, result := some result }
  | .error failure => { id, session, error := some failure.body }

def succeeded (r : Response) : Bool := r.error.isNone

def record : Record where
  name := "Response"
  fields :=
    [⟨"id", false, .optional RequestId.read⟩, ⟨"sessionId", false, .optional .text⟩,
      ⟨"result", false, .optional .anything⟩,
      ⟨"error", false, .optional fun v => (ErrorBody.record.read v).map some⟩]

/-- The response of fields that were read. -/
def ofFields (fields : Value) : Response where
  id := (fields.get? "id").bind RequestId.ofValue?
  session := ((fields.get? "sessionId").bind Value.str?).map SessionId.mk
  result := fields.get? "result"
  error := (fields.get? "error").map ErrorBody.ofFields

def ofValue (v : Value) : Except DecodeFault Response := (record.read v).map ofFields

def toValue (r : Response) : Value :=
  .objectOf [("id", r.id.map RequestId.toValue), ("sessionId", r.session.map (.str ·.text)),
    ("result", r.result), ("error", r.error.map ErrorBody.toValue)]

end Response

end MediaPlane
