/-
  IEEE 754 binary64 numbers as 64-bit words, with all arithmetic done exactly on natural numbers.
  A finite magnitude is a whole number of units of `2^-1074`, so that comparing two doubles is
  comparing two naturals, and rounding a fraction to the nearest double (a tie goes to the even
  significand) is one integer division with remainder. Nothing here uses the built-in floats.
-/

namespace MediaPlane

/-- A binary64 number, given by its word: sign, eleven exponent bits, fifty-two fraction bits. -/
structure Binary64 where
  bits : UInt64
deriving DecidableEq, Repr, Inhabited

/-- The quotient rounded to the nearest natural, a tie to the even one. -/
def roundDiv (num den : Nat) : Nat :=
  let q := num / den
  let r := num % den
  if 2 * r < den then q else if den < 2 * r then q + 1 else q + q % 2

/-- The quotient rounded to the nearest natural, a tie to the greater one. -/
def roundUpDiv (num den : Nat) : Nat :=
  let q := num / den
  let r := num % den
  if 2 * r < den then q else q + 1

namespace Binary64

/-! ## The fields of a word -/

/-- The bit of a word that says that it is negative. -/
def signBit : Nat := 1 <<< 63

/-- The leading bit of a significand, which the word does not hold. -/
def hiddenBit : Nat := 1 <<< 52

def negative (x : Binary64) : Bool := signBit ≤ x.bits.toNat

def exponentField (x : Binary64) : Nat := x.bits.toNat / hiddenBit % 2048

def fraction (x : Binary64) : Nat := x.bits.toNat % hiddenBit

def isNaN (x : Binary64) : Bool := x.exponentField == 2047 && x.fraction != 0

def isInfinite (x : Binary64) : Bool := x.exponentField == 2047 && x.fraction == 0

/-- The significand, hidden bit included. -/
def significand (x : Binary64) : Nat :=
  if x.exponentField = 0 then x.fraction else hiddenBit + x.fraction

/-- The significand counts multiples of this power of two, in units of `2^-1074`. -/
def shift (x : Binary64) : Nat := x.exponentField - 1

/-- The magnitude in units of `2^-1074`; that of an infinity lies above every finite one. -/
def units (x : Binary64) : Nat := x.significand <<< x.shift

/-- The number of units in one. -/
def unitsPerOne : Nat := 1 <<< 1074

/-- The word with this sign whose magnitude word is `m` plus `p` binades. -/
def assemble (negative : Bool) (m p : Nat) : Binary64 :=
  let magnitude := if m < hiddenBit then m else (p + 1) * hiddenBit + (m - hiddenBit)
  ⟨UInt64.ofNat ((if negative then signBit else 0) + min magnitude (2047 * hiddenBit))⟩

def infinity (negative : Bool) : Binary64 :=
  ⟨UInt64.ofNat ((if negative then signBit else 0) + 2047 * hiddenBit)⟩

def nan : Binary64 := ⟨0x7ff8000000000000⟩

def zero (negative : Bool) : Binary64 := assemble negative 0 0

/-! ## Rounding and order -/

/-- The double nearest to `num / den`, a tie to the even significand, with the given sign. -/
def ofRatio (negative : Bool) (num den : Nat) : Binary64 :=
  let scaled := num * unitsPerOne
  let whole := scaled / den
  if whole < 2 * hiddenBit then
    assemble negative (roundDiv scaled den) 0
  else
    let p := Nat.log2 whole - 52
    assemble negative (roundDiv scaled (den <<< p)) p

def ofNat (n : Nat) : Binary64 := ofRatio false n 1

def ofInt (n : Int) : Binary64 := ofRatio (n < 0) n.natAbs 1

/-- The signed magnitude, in units of `2^-1074`. -/
def signedUnits (x : Binary64) : Int := if x.negative then -(x.units : Int) else x.units

/-- Less-than of numbers; false as soon as one side is no number. -/
def lt (x y : Binary64) : Bool := !x.isNaN && !y.isNaN && x.signedUnits < y.signedUnits

def le (x y : Binary64) : Bool := !x.isNaN && !y.isNaN && x.signedUnits ≤ y.signedUnits

/-- The larger of two numbers; a side that is no number loses. -/
def max (x y : Binary64) : Binary64 :=
  if x.isNaN then y else if y.isNaN then x else if x.lt y then y else x

/-! ## Products and quotients, each rounded once -/

def mul (x y : Binary64) : Binary64 :=
  ofRatio (x.negative != y.negative) (x.units * y.units) (unitsPerOne * unitsPerOne)

def div (x y : Binary64) : Binary64 := ofRatio (x.negative != y.negative) x.units y.units

def neg (x : Binary64) : Binary64 := ⟨x.bits ^^^ 0x8000000000000000⟩

end Binary64

end MediaPlane
