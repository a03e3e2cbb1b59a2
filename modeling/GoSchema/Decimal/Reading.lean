import GoSchema.Decimal.Double

/-!
# Reading decimals

A decimal numeral has an integer part, a fraction and an exponent of ten. `nearest` gives the double
nearest to its exact value. `stepwise` is the rule of the JSON format: as many digits as fit into 64
bits are taken, the rest are dropped, and the number is brought to its place by one multiplication or
division by a power of ten, each result being rounded.
-/

namespace GoSchema.Decimal

/-- A decimal numeral without its sign. -/
structure Numeral where
  /-- The digits before the point. -/
  whole : List Char
  /-- The digits behind the point. -/
  fraction : List Char
  /-- The exponent of ten. -/
  exponent : Int

/-- The value of a digit. -/
def digitValue (c : Char) : Nat := c.toNat - 48

/-- The number written by decimal digits. -/
def readDigits (cs : List Char) : Nat := cs.foldl (fun n c => 10 * n + digitValue c) 0

/-- The double nearest to a numeral. An exponent far out of range is cut off first. -/
def nearest (negative : Bool) (n : Numeral) : Double :=
  let digits := readDigits (n.whole ++ n.fraction)
  let exponent := n.exponent - n.fraction.length
  let length : Int := (n.whole ++ n.fraction).length
  if digits = 0 then Double.ofMagnitude negative 0
  else if 400 < exponent then Double.infinity negative
  else if exponent + length < -400 then Double.ofMagnitude negative 0
  else Double.ofRatio negative (digits * Nat.pow 10 exponent.toNat) (Nat.pow 10 (-exponent).toNat)

/-- The greatest number of 64 bits. -/
def greatestWord : Nat := UInt64.size - 1

/-- Appends digits to a number as long as it fits into 64 bits; gives the number and the number of
digits that were left. -/
def takeWhileFits (n : Nat) : List Char → Nat × Nat
  | [] => (n, 0)
  | c :: cs =>
    if 10 * n + digitValue c ≤ greatestWord then takeWhileFits (10 * n + digitValue c) cs
    else (n, cs.length + 1)

/-- A power of ten as a double. -/
def powerOfTen (n : Nat) : Double := Double.ofRatio false (Nat.pow 10 n) 1

/-- `d / 10 ^ e`, by quotients of at most `10 ^ 308`. -/
def divPowerOfTen (d : Double) (e : Nat) : Double :=
  if e ≤ 308 then d.div (powerOfTen e)
  else if d.isZero then d
  else divPowerOfTen (d.div (powerOfTen 308)) (e - 308)
termination_by e

/-- The double of a numeral by the stepwise rule; nothing when it is out of range. -/
def stepwise (negative : Bool) (n : Numeral) : Option Double :=
  let (whole, dropped) := takeWhileFits 0 n.whole
  let (significand, left) := takeWhileFits whole n.fraction
  let exponent := n.exponent + dropped - (n.fraction.length - left : Nat)
  let d := Double.ofRatio negative significand 1
  if exponent < 0 then some (divPowerOfTen d (-exponent).toNat)
  else if d.isZero then some d
  else if exponent ≤ 308 then
    let product := d.mul (powerOfTen exponent.toNat)
    if product.isFinite then some product else none
  else none

end GoSchema.Decimal
