import MediaPlane.Number.Binary64

/-
  Decimal text of binary64 numbers, in both directions. Reading: a sign, digits with an optional
  point, an optional exponent; the nearest double is taken. Writing: the fewest digits that read
  back as the same double, or a fixed count of places. Both directions work on exact fractions of
  naturals.
-/

namespace MediaPlane

/-- The value of a run of decimal digits, most significant first. -/
def digitsValue (cs : List Char) : Nat := cs.foldl (fun n c => 10 * n + (c.toNat - '0'.toNat)) 0

/-- How many decimal digits a natural has; zero has one. -/
def digitCount (n : Nat) : Nat := (Nat.toDigits 10 n).length

/-- A power of ten. -/
def tenTo (k : Nat) : Nat := Nat.pow 10 k

/-- The number `digits * 10 ^ exponent`, with a sign. -/
structure Decimal where
  negative : Bool
  digits : Nat
  exponent : Int
deriving DecidableEq, Repr

namespace Decimal

/-- The nearest double. Exponents far outside the range of doubles are settled without computing
the power of ten. -/
def toBinary64 (d : Decimal) : Binary64 :=
  let top := d.exponent + digitCount d.digits
  if d.digits = 0 ∨ top < -330 then Binary64.zero d.negative
  else if 320 < top then Binary64.infinity d.negative
  else if 0 ≤ d.exponent then Binary64.ofRatio d.negative (d.digits * tenTo d.exponent.toNat) 1
  else Binary64.ofRatio d.negative d.digits (tenTo (-d.exponent).toNat)

/-- The sign in front of a number, and what follows it. -/
def readSign : List Char → Bool × List Char
  | '-' :: cs => (true, cs)
  | '+' :: cs => (false, cs)
  | cs => (false, cs)

/-- The exponent mark and its digits; the whole rest of the text must be taken. -/
def readExponent : List Char → Option Int
  | [] => some 0
  | c :: cs =>
    if c = 'e' ∨ c = 'E' then
      let (negative, ds) := readSign cs
      if ds.isEmpty || !ds.all Char.isDigit then none
      else some (if negative then -(digitsValue ds : Int) else digitsValue ds)
    else none

/-- Reads digits, an optional point with digits on at least one side, and an optional exponent. -/
def readUnsigned (negative : Bool) (cs : List Char) : Option Decimal :=
  let whole := cs.takeWhile Char.isDigit
  let rest := cs.dropWhile Char.isDigit
  let (places, rest) := match rest with
    | '.' :: tail => (tail.takeWhile Char.isDigit, tail.dropWhile Char.isDigit)
    | _ => ([], rest)
  if whole.isEmpty && places.isEmpty then none
  else (readExponent rest).map fun e =>
    { negative, digits := digitsValue (whole ++ places), exponent := e - places.length }

end Decimal

namespace Binary64

/-! ## Reading -/

/-- Reads a decimal number, an infinity or a not-a-number (letters in either case). -/
def read? (text : String) : Option Binary64 :=
  let (negative, cs) := Decimal.readSign text.toList
  let word := String.ofList (cs.map Char.toLower)
  if word = "inf" ∨ word = "infinity" then some (infinity negative)
  else if word = "nan" then some (if negative then nan.neg else nan)
  else (Decimal.readUnsigned negative cs).map Decimal.toBinary64

/-- Powers of ten beyond this one are no doubles. -/
def maxPowerOfTen : Nat := 308

/-- The digits rounded to a double and then scaled by a power of ten in a second rounded step;
`none` if the result is too large. -/
def scaleDigits (negative : Bool) (digits : Nat) (exponent : Int) : Option Binary64 :=
  let start := ofRatio negative digits 1
  if 0 ≤ exponent then
    if digits = 0 then some start
    else if maxPowerOfTen < exponent.toNat then none
    else
      let r := start.mul (ofNat (tenTo exponent.toNat))
      if r.isInfinite then none else some r
  else
    let down := (-exponent).toNat
    let pow := fun (k : Nat) => ofNat (tenTo k)
    if down ≤ maxPowerOfTen then some (start.div (pow down))
    else if down ≤ 2 * maxPowerOfTen then
      some ((start.div (pow maxPowerOfTen)).div (pow (down - maxPowerOfTen)))
    else some (zero negative)

/-! ## The fewest digits that read back -/

/-- The least power of ten, from `k` on, that lifts the magnitude to one or more. -/
def leadingZeros (units : Nat) : Nat → Nat → Nat
  | 0, k => k
  | fuel + 1, k => if unitsPerOne ≤ units * tenTo k then k else leadingZeros units fuel (k + 1)

/-- The exponent `k` with `10 ^ (k - 1) ≤ value < 10 ^ k`. -/
def pointPosition (units : Nat) : Int :=
  if unitsPerOne ≤ units then digitCount (units / unitsPerOne)
  else 1 - (leadingZeros units 400 0 : Int)

/-- Whether `digits * 10 ^ exponent` rounds to the double `x`: it lies between the midpoints to the
two neighbours, which count only for an even significand. -/
def roundsTo (x : Binary64) (digits : Nat) (exponent : Int) : Bool :=
  let half := 1 <<< (x.shift + 1)
  let below := if x.significand = hiddenBit ∧ 0 < x.shift then half / 2 else half
  let up := tenTo exponent.toNat
  let down := tenTo (-exponent).toNat
  let value := 4 * (digits * up * unitsPerOne)
  let low := (4 * x.units - below) * down
  let high := (4 * x.units + half) * down
  if x.significand % 2 = 0 then low ≤ value && value ≤ high else low < value && value < high

/-- Which of two candidates that are equally near is taken. -/
inductive Tie where
  | even
  | up
deriving DecidableEq, Repr

/-- The quotient rounded to the nearest natural. -/
def Tie.round : Tie → Nat → Nat → Nat
  | even => roundDiv
  | up => roundUpDiv

/-- The better of the two neighbours of `x` among the numbers of `count` digits, if one reads
back. -/
def shortAt (tie : Tie) (x : Binary64) (count : Nat) : Option (Nat × Int) :=
  let exponent := pointPosition x.units - count
  let up := tenTo exponent.toNat
  let down := tenTo (-exponent).toNat
  let num := x.units * down
  let den := unitsPerOne * up
  let low := num / den
  let near := tie.round num den
  let far := if near = low then low + 1 else low
  if roundsTo x near exponent then some (near, exponent)
  else if roundsTo x far exponent then some (far, exponent)
  else none

/-- Trailing zeros of the digits moved into the exponent. -/
def stripZeros : Nat → Nat → Int → Nat × Int
  | 0, digits, exponent => (digits, exponent)
  | fuel + 1, digits, exponent =>
    if digits % 10 = 0 ∧ digits ≠ 0 then stripZeros fuel (digits / 10) (exponent + 1)
    else (digits, exponent)

/-- The shortest decimal that reads back as the magnitude of `x`; zero is `0 * 10 ^ 0`. -/
def shortest (tie : Tie) (x : Binary64) : Nat × Int :=
  if x.units = 0 then (0, 0)
  else
    let (digits, exponent) :=
      (((List.range 17).findSome? fun i => shortAt tie x (i + 1)).getD (x.units, -1074))
    stripZeros 20 digits exponent

/-! ## Text -/

/-- Digits with the point moved `places` to the left, padded with zeros on either side. -/
def placePoint (digits : Nat) (exponent : Int) : String :=
  let ds := Nat.toDigits 10 digits
  if 0 ≤ exponent then String.ofList (ds ++ List.replicate exponent.toNat '0')
  else
    let places := (-exponent).toNat
    let padded := List.replicate (places + 1 - ds.length) '0' ++ ds
    let cut := padded.length - places
    String.ofList (padded.take cut ++ '.' :: padded.drop cut)

def signed (negative : Bool) (text : String) : String := if negative then "-" ++ text else text

/-- Words for the values that have no digits. -/
def special? (x : Binary64) : Option String :=
  if x.isNaN then some "NaN"
  else if x.isInfinite then some (signed x.negative "inf")
  else none

/-- The shortest digits that read back, in positional notation whatever the size; of two that are
equally near, the greater. -/
def positional (x : Binary64) : String :=
  (special? x).getD <|
    let (digits, exponent) := shortest .up x
    signed x.negative (placePoint digits exponent)

/-- A point and a zero behind a whole number. -/
def withPoint (text : String) : String := if text.toList.contains '.' then text else text ++ ".0"

/-- The shortest digits that read back, the even of two that are equally near; positional up to
sixteen digits before the point and five zeros after it, else scientific. -/
def compact (x : Binary64) : String :=
  (special? x).getD <|
    let (digits, exponent) := shortest .even x
    let point := exponent + digitCount digits
    if digits = 0 ∨ (-5 < point ∧ point ≤ 16) then
      signed x.negative (withPoint (placePoint digits exponent))
    else
      let ds := Nat.toDigits 10 digits
      let tail := if ds.length = 1 then [] else '.' :: ds.drop 1
      let mark := if 0 < point then "e+" else "e"
      signed x.negative (String.ofList (ds.take 1 ++ tail) ++ mark ++ toString (point - 1))

/-- The exact value rounded to `places` places, a tie to the even digit. -/
def fixed (places : Nat) (x : Binary64) : String :=
  (special? x).getD <|
    let n := roundDiv (x.units * tenTo places) unitsPerOne
    signed x.negative (placePoint n (-(places : Int)))

/-- The word as sixteen lowercase hexadecimal digits. -/
def hex (x : Binary64) : String :=
  let ds := Nat.toDigits 16 x.bits.toNat
  String.ofList (List.replicate (16 - ds.length) '0' ++ ds)

end Binary64

end MediaPlane
