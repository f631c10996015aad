import MediaPlane.Request.Message
import MediaPlane.Value.Reader

/-
  Reading a request from the text of a body, from front to back. What comes first decides how the
  body is refused: as malformed where the text stops being JSON, as unfit where it stops being a
  request. A member that is no field is skipped, whatever its depth; text after the request is not
  looked at.
-/

namespace MediaPlane.Http

open MediaPlane.Value (skipBlank readQuoted readValue hexQuad simpleEscape)

/-- Why a body is refused. -/
inductive BodyFault where
  /-- It is no JSON. -/
  | malformed
  /-- It is JSON, but no request. -/
  | unfit
deriving DecidableEq, Repr

/-! ## Skipping -/

/-- Skips the rest of a string after its opening quote. Any four hexadecimal digits are
an escape. -/
def skipQuoted : List Char → Option (List Char)
  | '"' :: rest => some rest
  | '\\' :: 'u' :: a :: b :: c :: d :: rest =>
    if (hexQuad a b c d).isSome then skipQuoted rest else none
  | '\\' :: e :: rest => if (simpleEscape e).isSome then skipQuoted rest else none
  | c :: rest => if c.toNat < 32 ∨ c = '\\' then none else skipQuoted rest
  | [] => none

/-- Skips digits, of which there is at least one. -/
def skipDigits (cs : List Char) : Option (List Char) :=
  if (cs.takeWhile Char.isDigit).isEmpty then none else some (cs.dropWhile Char.isDigit)

/-- Skips an exponent, if there is one. -/
def skipExponent : List Char → Option (List Char)
  | [] => some []
  | c :: cs =>
    if c = 'e' ∨ c = 'E' then
      match cs with
      | '+' :: ds | '-' :: ds => skipDigits ds
      | ds => skipDigits ds
    else some (c :: cs)

/-- Skips a number; its size does not matter. -/
def skipNumber (cs : List Char) : Option (List Char) :=
  let cs := match cs with
    | '-' :: ds => ds
    | ds => ds
  let digits := cs.takeWhile Char.isDigit
  if digits.length ≠ 1 ∧ digits.head? = some '0' then none
  else
    match skipDigits cs with
    | some ('.' :: places) => (skipDigits places).bind skipExponent
    | some rest => skipExponent rest
    | none => none

mutual

/-- Skips one value. -/
def skipValue : Nat → List Char → Option (List Char)
  | 0, _ => none
  | fuel + 1, cs =>
    match skipBlank cs with
    | 'n' :: 'u' :: 'l' :: 'l' :: rest => some rest
    | 't' :: 'r' :: 'u' :: 'e' :: rest => some rest
    | 'f' :: 'a' :: 'l' :: 's' :: 'e' :: rest => some rest
    | '"' :: rest => skipQuoted rest
    | '[' :: rest =>
      match skipBlank rest with
      | ']' :: rest => some rest
      | rest => skipItems fuel rest
    | '{' :: rest =>
      match skipBlank rest with
      | '}' :: rest => some rest
      | rest => skipMembers fuel rest
    | rest => skipNumber rest

/-- Skips the items of an array and its closing bracket. -/
def skipItems : Nat → List Char → Option (List Char)
  | 0, _ => none
  | fuel + 1, cs =>
    match (skipValue fuel cs).map skipBlank with
    | some (']' :: rest) => some rest
    | some (',' :: rest) => skipItems fuel rest
    | _ => none

/-- Skips the members of an object and its closing brace. -/
def skipMembers : Nat → List Char → Option (List Char)
  | 0, _ => none
  | fuel + 1, cs =>
    match skipBlank cs with
    | '"' :: rest =>
      match (skipQuoted rest).map skipBlank with
      | some (':' :: rest) =>
        match (skipValue fuel rest).map skipBlank with
        | some ('}' :: rest) => some rest
        | some (',' :: rest) => skipMembers fuel rest
        | _ => none
      | _ => none
    | _ => none

end

/-! ## Fields -/

/-- The depth that is left inside a request. -/
def fieldDepth : Nat := Value.maxDepth - 1

/-- Reads one value inside a request. -/
def readInside (embedded : Bool) (cs : List Char) : Except BodyFault (Value × List Char) :=
  match readValue embedded (Value.fuelFor cs) fieldDepth cs with
  | .ok r => .ok r
  | .error e => .error (if e.isData then .unfit else .malformed)

/-- Whether an array or object follows. -/
def opens (cs : List Char) : Bool := cs.head?.any fun c => c = '[' || c = '{'

/-- Reads the value of a field, and says whether it counts as there. Parameters are taken as they
are read, embedded values replaced. An id is read as a whole before it is tested; a text is tested
as it is read, so that an array or object in its place is refused where it opens. -/
def readField (f : Field) (cs : List Char) : Except BodyFault (Option Value × List Char) :=
  let cs := skipBlank cs
  if f.name = "params" then (readInside true cs).map fun p => (some p.1, p.2)
  else if opens cs && f.name ≠ "id" then .error .unfit
  else
    match readInside false cs with
    | .error e => .error e
    | .ok (v, rest) =>
      match f.read v with
      | .error _ => .error .unfit
      | .ok w => .ok (w, rest)

/-- The fields of a request read so far; one that counts as absent has no value. -/
abbrev Seen := List (String × Option Value)

/-- A request of the fields read, if none is missing. -/
def completed (seen : Seen) : Except BodyFault Request :=
  let fields := Members.present seen
  match Request.record.missing fields with
  | some _ => .error .unfit
  | none => .ok (Request.ofFields (.obj fields))

/-! ## The two forms of a request -/

/-- Reads members, the first of which follows; `seen` holds the fields so far. -/
def readRequestMembers : Nat → Seen → List Char → Except BodyFault Request
  | 0, _, _ => .error .malformed
  | fuel + 1, seen, cs =>
    match skipBlank cs with
    | '"' :: rest =>
      match readQuoted [] rest with
      | .error _ => .error .malformed
      | .ok (key, rest) =>
        let field := Request.record.field? key
        if field.isSome && (seen.lookup key).isSome then .error .unfit
        else
          match skipBlank rest with
          | ':' :: rest =>
            let read : Except BodyFault (Seen × List Char) :=
              match field with
              | none =>
                match skipValue (Value.fuelFor rest) rest with
                | none => .error .malformed
                | some rest => .ok (seen, rest)
              | some f =>
                match readField f rest with
                | .error e => .error e
                | .ok (v, rest) => .ok ((key, v) :: seen, rest)
            match read with
            | .error e => .error e
            | .ok (seen, rest) =>
              match skipBlank rest with
              | '}' :: _ => completed seen
              | ',' :: rest => readRequestMembers fuel seen rest
              | _ => .error .malformed
          | _ => .error .malformed
    | _ => .error .malformed

/-- Reads items for the fields that are left. After the last field the array must end. -/
def readRequestItems (seen : Seen) : List Field → List Char → Except BodyFault Request
  | [], cs =>
    match skipBlank cs with
    | ']' :: _ => completed seen
    | _ => .error .malformed
  | f :: fs, cs =>
    match skipBlank cs with
    | ']' :: _ => completed seen
    | ',' :: rest =>
      match skipBlank rest with
      | ']' :: _ => .error .malformed
      | rest =>
        match readField f rest with
        | .error e => .error e
        | .ok (v, rest) => readRequestItems ((f.name, v) :: seen) fs rest
    | _ => .error .malformed

/-- Reads the items of a request, the first of which has no comma before it. -/
def readRequestArray (cs : List Char) : Except BodyFault Request :=
  match skipBlank cs with
  | ']' :: _ => completed []
  | cs => readRequestItems [] Request.record.fields (',' :: cs)

/-- Reads a request from the text of a body. -/
def readRequest (text : String) : Except BodyFault Request :=
  match skipBlank text.toList with
  | '{' :: rest =>
    match skipBlank rest with
    | '}' :: _ => completed []
    | rest => readRequestMembers (rest.length + 1) [] rest
  | '[' :: rest => readRequestArray rest
  | cs =>
    match readInside false cs with
    | .error e => .error e
    | .ok _ => .error .unfit

end MediaPlane.Http
