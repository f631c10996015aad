import MediaPlane.Number.Word
import MediaPlane.Value.Fault

/-
  The tokens of JSON text: words, strings and numbers. A number without point and exponent that fits
  64 bits is whole; any other is a double. Of its digits as many leading ones count as fit 64 bits;
  the double is rounded from them and then scaled by a power of ten. The readers take characters
  from the front and return the rest; where they stop, they say how many bytes lie behind the place.
-/

namespace MediaPlane

/-- Why reading stops: at a flaw with so many bytes of the text left behind its place, or at a fault
of a text that is embedded in it. -/
inductive Stop where
  | flaw (f : Flaw) (left : Nat)
  | embedded (f : TextFault)
deriving Repr

namespace Stop

def byteCount (cs : List Char) : Nat := cs.foldl (fun n c => n + c.utf8Size) 0

/-- A flaw in front of what is left. -/
def before (f : Flaw) (rest : List Char) : Stop := .flaw f (byteCount rest)

/-- A flaw of the first byte that is left. -/
def on (f : Flaw) (rest : List Char) : Stop := .flaw f (byteCount rest - 1)

/-- A flaw at the end of the text. -/
def atEnd (f : Flaw) : Stop := .flaw f 0

/-- Whether the text is JSON up to here, and what it says is refused. -/
def isData : Stop → Bool
  | flaw f _ => f.isData
  | embedded _ => true

/-- The fault of a text whose reading stops. -/
def fault (text : String) : Stop → TextFault
  | flaw f left =>
    let bytes := text.toUTF8.toList
    .after f (bytes.take (bytes.length - left))
  | embedded f => f

end Stop

/-- What is read from the front of a text, and the rest. -/
abbrev Scan (α : Type) := Except Stop (α × List Char)

namespace Value

/-- White space between tokens. -/
def isBlank (c : Char) : Bool := c = ' ' || c = '\n' || c = '\t' || c = '\r'

def skipBlank (cs : List Char) : List Char := cs.dropWhile isBlank

/-- The rest of a word that stands for a value. -/
def readWord (v : Value) : List Char → List Char → Scan Value
  | [], cs => .ok (v, cs)
  | _ :: _, [] => .error (.atEnd .endInValue)
  | w :: ws, c :: cs => if c = w then readWord v ws cs else .error (.on .unknownWord (c :: cs))

/-! ## Strings -/

def hexValue (c : Char) : Option Nat :=
  if '0' ≤ c ∧ c ≤ '9' then some (c.toNat - '0'.toNat)
  else if 'a' ≤ c ∧ c ≤ 'f' then some (c.toNat - 'a'.toNat + 10)
  else if 'A' ≤ c ∧ c ≤ 'F' then some (c.toNat - 'A'.toNat + 10)
  else none

/-- Four hexadecimal digits. -/
def hexQuad (a b c d : Char) : Option Nat := do
  return (← hexValue a) * 4096 + (← hexValue b) * 256 + (← hexValue c) * 16 + (← hexValue d)

/-- What is wrong where four hexadecimal digits should follow. -/
def quadFault (cs : List Char) : Stop :=
  let n := Stop.byteCount cs
  if n < 4 then .atEnd .endInString else .flaw .badEscape (n - 4)

/-- The character of a two-letter escape. -/
def simpleEscape : Char → Option Char
  | '"' => some '"'
  | '\\' => some '\\'
  | '/' => some '/'
  | 'b' => some '\x08'
  | 'f' => some '\x0c'
  | 'n' => some '\n'
  | 'r' => some '\r'
  | 't' => some '\t'
  | _ => none

def isHighSurrogate (n : Nat) : Bool := 0xD800 ≤ n && n < 0xDC00

def isLowSurrogate (n : Nat) : Bool := 0xDC00 ≤ n && n < 0xE000

/-- The character of two surrogates. -/
def joinSurrogates (high low : Nat) : Char :=
  Char.ofNat (0x10000 + (high - 0xD800) * 1024 + (low - 0xDC00))

/-- The rest of a string after its opening quote; `seen` holds the characters so far, the last one
first. Control characters and lone surrogates are refused. -/
def readQuoted (seen : List Char) : List Char → Scan String
  | [] => .error (.atEnd .endInString)
  | '"' :: rest => .ok (String.ofList seen.reverse, rest)
  | ['\\'] => .error (.atEnd .endInString)
  | '\\' :: 'u' :: a :: b :: c :: d :: rest =>
    match hexQuad a b c d with
    | none => .error (quadFault (a :: b :: c :: d :: rest))
    | some n =>
      if isLowSurrogate n then .error (.before .loneSurrogate rest)
      else if isHighSurrogate n then
        match rest with
        | [] | ['\\'] => .error (.atEnd .endInString)
        | '\\' :: 'u' :: e :: f :: g :: h :: rest =>
          match hexQuad e f g h with
          | none => .error (quadFault (e :: f :: g :: h :: rest))
          | some m =>
            if isLowSurrogate m then readQuoted (joinSurrogates n m :: seen) rest
            else .error (.before .loneSurrogate rest)
        | '\\' :: 'u' :: rest => .error (quadFault rest)
        | '\\' :: rest => .error (.on .unpairedSurrogate rest)
        | rest => .error (.on .unpairedSurrogate rest)
      else readQuoted (Char.ofNat n :: seen) rest
  | '\\' :: 'u' :: rest => .error (quadFault rest)
  | '\\' :: e :: rest =>
    match simpleEscape e with
    | none => .error (.on .badEscape (e :: rest))
    | some c => readQuoted (c :: seen) rest
  | c :: rest =>
    if c.toNat < 32 then .error (.before .controlCharacter rest) else readQuoted (c :: seen) rest

/-! ## Numbers -/

/-- Takes digits onto `n` while the result stays within the limit; returns it, the count taken and
the rest. -/
def takeFitting (limit : Nat) : Nat → List Char → Nat × Nat × List Char
  | n, [] => (n, 0, [])
  | n, c :: cs =>
    let m := 10 * n + (c.toNat - '0'.toNat)
    if limit < m then (n, 0, c :: cs)
    else
      let (r, taken, rest) := takeFitting limit m cs
      (r, taken + 1, rest)

/-- Past this exponent a number is zero or too large. -/
def maxExponent : Nat := 2147483647

/-- The double `digits * 10 ^ exponent` in front of what is left. -/
def scaled (negative : Bool) (digits : Nat) (exponent : Int) (rest : List Char) : Scan Value :=
  match Binary64.scaleDigits negative digits exponent with
  | some d => .ok (.double d, rest)
  | none => .error (.before .numberOutOfRange rest)

/-- The exponent part after its mark, and the double it makes of `digits * 10 ^ exponent`. An
exponent is given up at the digit that takes it past its limit. -/
def readScale (negative : Bool) (digits : Nat) (exponent : Int) (cs : List Char) : Scan Value :=
  let (down, cs) := Decimal.readSign cs
  let ds := cs.takeWhile Char.isDigit
  let rest := cs.dropWhile Char.isDigit
  let (e, _, beyond) := takeFitting maxExponent 0 ds
  if ds.isEmpty then
    .error (if rest.isEmpty then .atEnd .endInValue else .on .badNumber rest)
  else if beyond.isEmpty then
    scaled negative digits (if down then exponent - e else exponent + e) rest
  else if digits = 0 ∨ down then .ok (.double (Binary64.zero negative), rest)
  else .error (.before .numberOutOfRange (beyond.drop 1 ++ rest))

/-- What follows the digits of a number: an exponent, or its end. -/
def readTail (negative : Bool) (digits : Nat) (exponent : Int) : List Char → Scan Value
  | 'e' :: rest => readScale negative digits exponent rest
  | 'E' :: rest => readScale negative digits exponent rest
  | rest => scaled negative digits exponent rest

/-- The value of a number without point and exponent. -/
def wholeNumber (negative : Bool) (n : Nat) : Value :=
  if !negative then .int n
  else if n = 0 ∨ -(n : Int) < Int64.minValue.toInt then .double (Binary64.ofRatio true n 1)
  else .int (-(n : Int))

/-- A number after its sign. -/
def readUnsignedNumber (negative : Bool) (cs : List Char) : Scan Value :=
  let ds := cs.takeWhile Char.isDigit
  let rest := cs.dropWhile Char.isDigit
  if ds.isEmpty then
    .error (if rest.isEmpty then .atEnd .endInValue else .on .badNumber rest)
  else if ds.length ≠ 1 ∧ ds.head? = some '0' then .error (.on .badNumber (cs.drop 1))
  else
    let (digits, _, beyond) := takeFitting maxWord 0 ds
    match rest with
    | '.' :: tail =>
      let places := tail.takeWhile Char.isDigit
      let (digits, taken, _) := takeFitting maxWord digits places
      if places.isEmpty then
        .error (.on (if tail.isEmpty then .endInValue else .badNumber) tail)
      else readTail negative digits ((beyond.length : Int) - taken) (tail.dropWhile Char.isDigit)
    | 'e' :: tail => readScale negative digits beyond.length tail
    | 'E' :: tail => readScale negative digits beyond.length tail
    | _ =>
      if beyond.isEmpty then .ok (wholeNumber negative digits, rest)
      else readTail negative digits beyond.length rest

def readNumber : List Char → Scan Value
  | '-' :: cs => readUnsignedNumber true cs
  | cs => readUnsignedNumber false cs

end Value

end MediaPlane
