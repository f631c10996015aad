import MediaPlane.Number.Decimal
import MediaPlane.Value.Basic

/-
  Values as JSON text, compact, members in their order.
-/

namespace MediaPlane.Value

/-- Lowercase hexadecimal digits of a code point, without padding. -/
def hexDigits (c : Char) : List Char := Nat.toDigits 16 c.toNat

/-- A character inside a quoted string. -/
def writeChar (c : Char) : List Char :=
  if c = '"' then ['\\', '"']
  else if c = '\\' then ['\\', '\\']
  else if c = '\n' then ['\\', 'n']
  else if c = '\r' then ['\\', 'r']
  else if c = '\t' then ['\\', 't']
  else if c.toNat < 32 then
    let ds := hexDigits c
    ['\\', 'u'] ++ List.replicate (4 - ds.length) '0' ++ ds
  else [c]

def writeString (s : String) : List Char := '"' :: (s.toList.flatMap writeChar ++ ['"'])

mutual

/-- The text of a value, put in front of `rest`. -/
def writeBefore : Value → List Char → List Char
  | .null, rest => "null".toList ++ rest
  | .bool b, rest => (if b then "true" else "false").toList ++ rest
  | .int n, rest => (toString n).toList ++ rest
  | .double d, rest => d.compact.toList ++ rest
  | .str s, rest => writeString s ++ rest
  | .arr items, rest => '[' :: writeItems items (']' :: rest)
  | .obj ms, rest => '{' :: writeMembers ms ('}' :: rest)

def writeItems : List Value → List Char → List Char
  | [], rest => rest
  | [v], rest => writeBefore v rest
  | v :: vs, rest => writeBefore v (',' :: writeItems vs rest)

def writeMembers : Members → List Char → List Char
  | [], rest => rest
  | [(k, v)], rest => writeString k ++ ':' :: writeBefore v rest
  | (k, v) :: ms, rest => writeString k ++ ':' :: writeBefore v (',' :: writeMembers ms rest)

end

/-- The JSON text of a value. -/
def write (v : Value) : String := String.ofList (writeBefore v [])

end MediaPlane.Value
