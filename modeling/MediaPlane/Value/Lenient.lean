import MediaPlane.Number.Decimal
import MediaPlane.Value.Basic

/-
  Lenient access to the members of an object: what is missing, or of another kind, reads as empty.
-/

namespace MediaPlane.Value

/-- A member; null if missing. -/
def memberAt (v : Value) (key : String) : Value := orNull (v.get? key)

/-- A text; empty if missing. -/
def textAt (v : Value) (key : String) : String := ((v.get? key).bind str?).getD ""

/-- A whole number that is not negative; zero if missing. -/
def natAt (v : Value) (key : String) : Nat := ((v.get? key).bind nat?).getD 0

/-- A whole number; zero if missing. -/
def intAt (v : Value) (key : String) : Int := ((v.get? key).bind int?).getD 0

/-- A flag; false if missing. -/
def flagAt (v : Value) (key : String) : Bool := ((v.get? key).bind bool?).getD false

/-- The items of an array; none if missing. -/
def itemsAt (v : Value) (key : String) : List Value := ((v.get? key).bind arr?).getD []

/-- The items of an array of texts. -/
def textsAt (v : Value) (key : String) : List String :=
  (v.itemsAt key).map fun item => item.str?.getD ""

/-- A number, which may be written as a text. -/
def toDouble? : Value → Option Binary64
  | .int n => some (.ofInt n)
  | .double d => some d
  | .str s => Binary64.read? s
  | _ => none

/-- A number, which may be written as a text; zero if missing. -/
def doubleAt (v : Value) (key : String) : Binary64 :=
  ((v.get? key).bind toDouble?).getD (.ofNat 0)

end MediaPlane.Value
