/-!
# Doubles

A double is its 64 bits: a sign, eleven bits of exponent and 52 bits of fraction. A finite one has
the exact value `± mantissa * 2 ^ exponent`, and all arithmetic here is exact arithmetic on that
value, followed by one rounding to the nearest double, ties to the even mantissa.
-/

namespace GoSchema

/-- A double, as the number that its bits write. -/
structure Double where
  /-- The bits. -/
  bits : UInt64
  deriving DecidableEq

namespace Double

/-- The bit above exponent and fraction. -/
def signBit : Nat := 1 <<< 63

/-- The bit above the fraction. -/
def implicitBit : Nat := 1 <<< 52

/-- The sign bit is set. -/
def negative (d : Double) : Bool := signBit ≤ d.bits.toNat

/-- The bits without the sign. -/
def magnitude (d : Double) : Nat := d.bits.toNat % signBit

/-- The magnitude of the infinities. -/
def infiniteMagnitude : Nat := 2047 * implicitBit

/-- Neither infinite nor undefined. -/
def isFinite (d : Double) : Bool := d.magnitude < infiniteMagnitude

/-- Not a number. -/
def isNaN (d : Double) : Bool := infiniteMagnitude < d.magnitude

/-- Plus or minus zero. -/
def isZero (d : Double) : Bool := d.magnitude == 0

/-- The integer whose multiple by a power of two is the magnitude of a finite double. -/
def mantissa (d : Double) : Nat :=
  if d.magnitude < implicitBit then d.magnitude else implicitBit + d.magnitude % implicitBit

/-- The exponent of two that goes with the mantissa of a finite double. -/
def exponent (d : Double) : Int :=
  if d.magnitude < implicitBit then -1074 else (d.magnitude / implicitBit : Nat) - 1075

/-- The double with this sign and these other bits. -/
def ofMagnitude (negative : Bool) (magnitude : Nat) : Double :=
  ⟨UInt64.ofNat (if negative then signBit + magnitude else magnitude)⟩

/-- Not a number, with the sign bit clear. -/
def nan : Double := ⟨0x7ff8000000000000⟩

/-- An infinity. -/
def infinity (negative : Bool) : Double := ofMagnitude negative infiniteMagnitude

/-- A quotient rounded to the nearest integer, ties to the even one. -/
def roundHalfEven (num den : Nat) : Nat :=
  let floor := num / den
  let rest := 2 * (num % den)
  if den < rest ∨ (rest = den ∧ floor % 2 = 1) then floor + 1 else floor

/-- `x * 2 ^ e` for `0 ≤ e`, else `x`. -/
def scaleUp (x : Nat) (e : Int) : Nat := x <<< e.toNat

/-- The double nearest to `± num / den`, ties to the even mantissa; infinite when it is out of
range. The exponent is the one that gives the quotient 53 bits, or the least one. -/
def ofRatio (negative : Bool) (num den : Nat) : Double :=
  if num = 0 then ofMagnitude negative 0
  else
    let guess : Int := (num.log2 : Int) - den.log2 - 53
    let guess := max guess (-1074)
    let tooBig := 2 * implicitBit * scaleUp den guess ≤ scaleUp num (-guess)
    let e := if tooBig then guess + 1 else guess
    let m := roundHalfEven (scaleUp num (-e)) (scaleUp den e)
    ofMagnitude negative (min ((e + 1074).toNat * implicitBit + m) infiniteMagnitude)

/-- Numerator and denominator of the magnitude of a finite double. -/
def ratio (d : Double) : Nat × Nat :=
  (scaleUp d.mantissa d.exponent, scaleUp 1 (-d.exponent))

/-- The product of the magnitudes of finite doubles, with the sign of the first. -/
def mul (a b : Double) : Double :=
  ofRatio a.negative (a.ratio.1 * b.ratio.1) (a.ratio.2 * b.ratio.2)

/-- The quotient of the magnitudes of finite doubles, with the sign of the first. -/
def div (a b : Double) : Double :=
  ofRatio a.negative (a.ratio.1 * b.ratio.2) (a.ratio.2 * b.ratio.1)

/-- The double nearest to an integer. -/
def ofInt (n : Int) : Double := ofRatio (n < 0) n.natAbs 1

end Double

end GoSchema
