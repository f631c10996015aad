import MediaPlane.Value.Embedded
import MediaPlane.Value.Lenient

/-
  Reading records out of values. A record is an object, or an array of its fields in their declared
  order. The fields of an object are looked at in the order of their keys, those of an array in the
  declared order; the first field that does not fit is the fault. A required field is missed only
  when all that is there fits. What is read is an object of the fields that are there.
-/

namespace MediaPlane

/-- Reads the value of a field: what it stands for, nothing if it counts as absent, or why it does
not fit. -/
abbrev FieldReader := Value → Except DecodeFault (Option Value)

namespace FieldReader

/-- Any value, with its embedded values replaced. -/
def anything : FieldReader := fun v => v.unpack.map some

def text : FieldReader
  | .str s => .ok (some (.str s))
  | v => .error (.wrongType v "a string")

def flag : FieldReader
  | .bool b => .ok (some (.bool b))
  | v => .error (.wrongType v "a boolean")

/-- A list of any values. -/
def list : FieldReader
  | .arr items => (Value.unpackItems items).map fun vs => some (.arr vs)
  | v => .error (.wrongType v "a sequence")

/-- A whole number that fits thirty-two bits, with a sign. -/
def code : FieldReader
  | .int n =>
    if Int32.minValue.toInt ≤ n ∧ n ≤ Int32.maxValue.toInt then .ok (some (.int n))
    else .error (.outOfRange n "i32")
  | v => .error (.wrongType v "i32")

/-- Null stands for an absent value. -/
def optional (read : FieldReader) : FieldReader
  | .null => .ok none
  | v => read v

@[simp] theorem text_str (s : String) : text (.str s) = .ok (some (.str s)) := rfl

@[simp] theorem flag_bool (b : Bool) : flag (.bool b) = .ok (some (.bool b)) := rfl

@[simp] theorem optional_null (read : FieldReader) : optional read .null = .ok none := rfl

end FieldReader

/-- One field of a record. -/
structure Field where
  name : String
  required : Bool
  read : FieldReader

/-- A record: its name and its fields in declared order. -/
structure Record where
  name : String
  fields : List Field

namespace Record

def field? (r : Record) (name : String) : Option Field := r.fields.find? (·.name = name)

/-- A member that is there in front of others. -/
def keep (name : String) (v : Option Value) (rest : Members) : Members :=
  match v with
  | some v => (name, v) :: rest
  | none => rest

/-- The fields among the members of an object; other members are left out. -/
def readMembers (r : Record) : Members → Except DecodeFault Members
  | [] => .ok []
  | (key, v) :: ms =>
    match r.field? key with
    | none => r.readMembers ms
    | some f =>
      match f.read v with
      | .error e => .error e
      | .ok w =>
        match r.readMembers ms with
        | .error e => .error e
        | .ok rest => .ok (keep key w rest)

/-- The first required field without a member. -/
def missing (r : Record) (ms : Members) : Option DecodeFault :=
  (r.fields.find? fun f => f.required && (Members.get? ms f.name).isNone).map
    fun f => .missingField f.name

/-- The fields of the items of an array, from position `i` on. -/
def readItems (r : Record) (length : Nat) :
    Nat → List Field → List Value → Except DecodeFault Members
  | i, f :: fs, [] =>
    if f.required then .error (.tooShort i r.name r.fields.length)
    else r.readItems length (i + 1) fs []
  | i, f :: fs, v :: vs =>
    match f.read v with
    | .error e => .error e
    | .ok w =>
      match r.readItems length (i + 1) fs vs with
      | .error e => .error e
      | .ok rest => .ok (keep f.name w rest)
  | _, [], _ :: _ => .error (.tooLong length)
  | _, [], [] => .ok []

/-- The fields of a record, or why a value is none. -/
def read (r : Record) : Value → Except DecodeFault Value
  | .obj ms =>
    match r.readMembers ms with
    | .error e => .error e
    | .ok fields =>
      match r.missing ms with
      | some e => .error e
      | none => .ok (.obj fields)
  | .arr items => (r.readItems items.length 0 r.fields items).map Value.object
  | v => .error (.wrongType v ("struct " ++ r.name))

end Record

end MediaPlane
