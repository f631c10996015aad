import MediaPlane.Number.Word
import MediaPlane.Request.Operation

/-
  Forward references of a transaction. The text `newref:N` stands for the object that the create
  number `N` of the transaction made, counted from zero. Every create takes a slot, also one that
  failed; a reference to an empty or later slot is unresolved. References are replaced at any depth
  of the parameters just before an operation runs.
-/

namespace MediaPlane

/-- What the creates of a transaction made so far, in order. -/
abbrev Slots := List (Option ObjectId)

namespace Slots

/-- The slot that a text refers to, if it is a forward reference. -/
def placeholder? (s : String) : Option Nat :=
  if "newref:".toList.isPrefixOf s.toList then readWord? (s.toList.drop 7) else none

/-- The object in a slot; none if the slot is still to come or its create failed. -/
def resolve? (slots : Slots) (index : Nat) : Option ObjectId := slots[index]?.join

/-- A text with its forward reference replaced. -/
def substituteText (slots : Slots) (s : String) : Except Failure String :=
  match placeholder? s with
  | none => .ok s
  | some index =>
    match slots.resolve? index with
    | some id => .ok id.text
    | none => .error (.unresolvedReference s)

mutual

/-- Replaces the forward references among the string values of `v`. -/
def substitute (slots : Slots) : Value → Except Failure Value
  | .str s =>
    match substituteText slots s with
    | .ok t => .ok (.str t)
    | .error e => .error e
  | .arr items =>
    match substituteItems slots items with
    | .ok vs => .ok (.arr vs)
    | .error e => .error e
  | .obj ms =>
    match substituteMembers slots ms with
    | .ok ns => .ok (.obj ns)
    | .error e => .error e
  | v => .ok v

def substituteItems (slots : Slots) : List Value → Except Failure (List Value)
  | [] => .ok []
  | v :: vs =>
    match substitute slots v with
    | .error e => .error e
    | .ok w =>
      match substituteItems slots vs with
      | .error e => .error e
      | .ok ws => .ok (w :: ws)

def substituteMembers (slots : Slots) : Members → Except Failure Members
  | [] => .ok []
  | (k, v) :: ms =>
    match substitute slots v with
    | .error e => .error e
    | .ok w =>
      match substituteMembers slots ms with
      | .error e => .error e
      | .ok ns => .ok ((k, w) :: ns)

end

end Slots

namespace Operation

/-- The method and the parameters of an entry in a transaction. -/
def splitEntry : Value → Except Failure (String × Value)
  | .obj ms =>
    match Members.get? ms "method" with
    | some (.str method) => .ok (method, Value.orNull (Members.get? ms "params"))
    | _ => .error (.invalidParams .methodMissing)
  | _ => .error (.invalidParams .operationNotObject)

/-- Whether a method name may stand in a transaction. -/
def allowedInTransaction (method : String) : Bool :=
  match Method.ofName? method with
  | some m => m.inTransaction
  | none => false

end Operation

end MediaPlane
