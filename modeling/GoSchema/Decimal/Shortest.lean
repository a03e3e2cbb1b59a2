import GoSchema.Decimal.Double

/-!
# The shortest decimal of a double

Of all decimals that are read back as a given double, the ones with the fewest digits are looked for,
and of these the nearest to its exact value; of two equally near ones the larger is taken. A decimal is
read back as the double when it lies between the midpoints to the neighbouring doubles; the midpoints
themselves count when the mantissa is even, because ties go to the even mantissa.

The text is positional, with at least one digit behind the point, for zero and for magnitudes from
`10 ^ -4` up to `10 ^ 16`; otherwise it is a mantissa with an exponent.
-/

namespace GoSchema.Decimal

/-- The decimal `0.d₁d₂… * 10 ^ point` with the digits `d₁d₂…` of `digits`. -/
structure Shortest where
  /-- The digits, read as one number. -/
  digits : Nat
  /-- The power of ten that the fraction is multiplied by. -/
  point : Int
  deriving DecidableEq

/-- The decimals that are read back as a double, as numerators over one denominator. -/
structure Interval where
  /-- The midpoint to the double below. -/
  low : Nat
  /-- The exact value. -/
  value : Nat
  /-- The midpoint to the double above. -/
  high : Nat
  /-- The denominator of the three. -/
  den : Nat
  /-- The midpoints belong to the interval. -/
  closed : Bool

/-- The interval of a finite double other than zero. Midpoints are half the distance to the
neighbours, and the neighbour below the least mantissa of a binade is twice as near. -/
def Interval.ofDouble (d : Double) : Interval :=
  let m := d.mantissa
  let e := d.exponent - 2
  let below := if m = Double.implicitBit ∧ d.exponent ≠ -1074 then 1 else 2
  let up := fun n => Double.scaleUp n e
  ⟨up (4 * m - below), up (4 * m), up (4 * m + 2), Double.scaleUp 1 (-e), m % 2 = 0⟩

/-- `n * 10 ^ e` lies in the interval. -/
def Interval.contains (i : Interval) (n : Nat) (e : Int) : Bool :=
  let x := n * Nat.pow 10 e.toNat * i.den
  let scale := Nat.pow 10 (-e).toNat
  if i.closed then i.low * scale ≤ x && x ≤ i.high * scale
  else i.low * scale < x && x < i.high * scale

/-- The least `k` among `start, start + 1, …` with `num / den < 10 ^ k`, out of `tries + 1`. -/
def decimalPoint (num den : Nat) : (tries : Nat) → (k : Int) → Int
  | 0, k => k
  | tries + 1, k =>
    if num * Nat.pow 10 (-k).toNat < den * Nat.pow 10 k.toNat then k
    else decimalPoint num den tries (k + 1)

/-- Of the two neighbours of the value with `n` digits, the one in the interval, if any; if both
are, the nearer one, and of two equally near the larger. -/
def Interval.candidate (i : Interval) (point : Int) (n : Nat) : Option Nat :=
  let e := point - n
  let num := i.value * Nat.pow 10 (-e).toNat
  let den := i.den * Nat.pow 10 e.toNat
  let floor := num / den
  let below := i.contains floor e
  let above := i.contains (floor + 1) e
  if below && (!above || 2 * (num % den) < den) then some floor
  else if above then some (floor + 1)
  else none

/-- The first candidate among those with `n, n + 1, …` digits, out of `tries`; with 17 digits there
always is one. -/
def Interval.search (i : Interval) (point : Int) : (tries n : Nat) → Nat × Nat
  | 0, n => (i.value, n)
  | tries + 1, n =>
    match i.candidate point n with
    | some digits => (digits, n)
    | none => i.search point tries (n + 1)

/-- The number without its trailing zeros, out of `tries` digits. -/
def stripZeros : (tries : Nat) → Nat → Nat
  | 0, n => n
  | tries + 1, n => if n % 10 = 0 then stripZeros tries (n / 10) else n

/-- The shortest decimal of a finite double other than zero. -/
def shortest (d : Double) : Shortest :=
  let i := Interval.ofDouble d
  let point := decimalPoint i.value i.den 700 (-330)
  let (digits, n) := i.search point 17 1
  ⟨stripZeros 17 digits, if digits = Nat.pow 10 n then point + 1 else point⟩

/-- The digits with the point behind the first `point` of them, and a zero wherever a side would be
empty. -/
def positional (digits : List Char) (point : Int) : List Char :=
  if point ≤ 0 then ['0', '.'] ++ List.replicate (-point).toNat '0' ++ digits
  else if digits.length ≤ point.toNat then
    digits ++ List.replicate (point.toNat - digits.length) '0' ++ ['.', '0']
  else digits.take point.toNat ++ ['.'] ++ digits.drop point.toNat

/-- The digits with the point behind the first one, if more follow, and an exponent of ten. -/
def scientific (digits : List Char) (point : Int) : List Char :=
  let fraction := if digits.length ≤ 1 then [] else '.' :: digits.drop 1
  digits.take 1 ++ fraction ++ ['e'] ++ (toString (point - 1)).toList

/-- The text of a double. -/
def text (d : Double) : String :=
  if d.isNaN then "NaN"
  else
    let sign := if d.negative then ['-'] else []
    let body :=
      if !d.isFinite then "inf".toList
      else if d.isZero then "0.0".toList
      else
        let s := shortest d
        let digits := Nat.toDigits 10 s.digits
        if -3 ≤ s.point ∧ s.point ≤ 16 then positional digits s.point else scientific digits s.point
    String.ofList (sign ++ body)

end GoSchema.Decimal
