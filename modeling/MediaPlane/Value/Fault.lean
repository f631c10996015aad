import MediaPlane.Number.Decimal
import MediaPlane.Text.Quoted
import MediaPlane.Value.Basic

/-
  What can be wrong with JSON text, and why a value does not decode. A fault of a text has a place:
  a line, counted from one, and the bytes of that line up to the place. Faults are causes; each has
  one wording.
-/

namespace MediaPlane

/-- A value as messages name it. -/
def Value.describe : Value → String
  | .null => "null"
  | .bool b => "boolean `" ++ (if b then "true" else "false") ++ "`"
  | .int n => "integer `" ++ toString n ++ "`"
  | .double d => "floating point `" ++ d.compact ++ "`"
  | .str s => "string " ++ quoted s
  | .arr _ => "sequence"
  | .obj _ => "map"

/-- The wording for a value of another kind than the expected one. -/
def mismatch (found : Value) (expected : String) : String :=
  "invalid type: " ++ found.describe ++ ", expected " ++ expected

/-! ## Faults of a text -/

/-- What is wrong at a place of a text. -/
inductive Flaw where
  | endInValue
  | endInString
  | endInArray
  | endInObject
  | unknownWord
  | noValue
  | noColon
  | itemsNotEnded
  | membersNotEnded
  | badEscape
  | loneSurrogate
  | unpairedSurrogate
  | controlCharacter
  | badNumber
  | numberOutOfRange
  | keyNotString
  | trailingComma
  | trailingText
  | tooDeep
  /-- An embedded text must be a string. -/
  | embeddedNotString (found : Value)
deriving Repr

namespace Flaw

/-- What is expected in place of the text of an embedded value. -/
def embeddedText : String := "raw value"

def message : Flaw → String
  | endInValue => "EOF while parsing a value"
  | endInString => "EOF while parsing a string"
  | endInArray => "EOF while parsing a list"
  | endInObject => "EOF while parsing an object"
  | unknownWord => "expected ident"
  | noValue => "expected value"
  | noColon => "expected `:`"
  | itemsNotEnded => "expected `,` or `]`"
  | membersNotEnded => "expected `,` or `\x7d`"
  | badEscape => "invalid escape"
  | loneSurrogate => "lone leading surrogate in hex escape"
  | unpairedSurrogate => "unexpected end of hex escape"
  | controlCharacter => "control character (\\u0000-\\u001F) found while parsing a string"
  | badNumber => "invalid number"
  | numberOutOfRange => "number out of range"
  | keyNotString => "key must be a string"
  | trailingComma => "trailing comma"
  | trailingText => "trailing characters"
  | tooDeep => "recursion limit exceeded"
  | embeddedNotString found => mismatch found embeddedText

/-- Whether the text is JSON up to the place, and what it says is refused. -/
def isData : Flaw → Bool
  | embeddedNotString _ => true
  | _ => false

end Flaw

/-- A flaw at its place. -/
structure TextFault where
  flaw : Flaw
  line : Nat
  column : Nat
deriving Repr

namespace TextFault

def message (f : TextFault) : String :=
  f.flaw.message ++ " at line " ++ toString f.line ++ " column " ++ toString f.column

/-- The flaw behind the bytes `before` of a text. -/
def after (flaw : Flaw) (before : List UInt8) : TextFault where
  flaw := flaw
  line := before.count 10 + 1
  column := (before.reverse.takeWhile (· ≠ 10)).length

end TextFault

/-! ## Faults of a value -/

/-- Why a value does not decode. -/
inductive DecodeFault where
  | wrongType (found : Value) (expected : String)
  | outOfRange (found : Int) (expected : String)
  | missingField (name : String)
  | tooShort (length : Nat) (record : String) (fields : Nat)
  | tooLong (length : Nat)
  | noVariant (type : String)
  /-- An embedded text stands among other members. -/
  | tooManyMembers (length : Nat)
  /-- An embedded text cannot be read. -/
  | unreadable (fault : TextFault)
deriving Repr

namespace DecodeFault

def message : DecodeFault → String
  | wrongType found expected => mismatch found expected
  | outOfRange found expected =>
    "invalid value: integer `" ++ toString found ++ "`, expected " ++ expected
  | missingField name => "missing field `" ++ name ++ "`"
  | tooShort length record fields =>
    "invalid length " ++ toString length ++ ", expected struct " ++ record ++ " with " ++
      toString fields ++ (if fields = 1 then " element" else " elements")
  | tooLong length =>
    "invalid length " ++ toString length ++ ", expected fewer elements in array"
  | noVariant type => "data did not match any variant of untagged enum " ++ type
  | tooManyMembers length =>
    "invalid length " ++ toString length ++ ", expected fewer elements in map"
  | unreadable fault => fault.message

end DecodeFault

end MediaPlane
