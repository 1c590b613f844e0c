/-!
# Binary floating point with 64 bits

A finite number of the format is a signed significand below 2⁵³ times a power of two. Rounding goes
to the nearest number and in a tie to the even significand; what would be infinite has no result.
-/

namespace AnchorLayout

structure Binary64 where
  negative : Bool
  significand : Nat
  exponent : Int
  deriving DecidableEq, Repr

namespace Binary64

/-- The exponents of the smallest and the greatest numbers. -/
def leastExponent : Int := -1074

def greatestExponent : Int := 971

/-- 2⁵², the least significand of a normal number, and 2⁵³, the first that is too large. -/
def leastNormal : Nat := 4503599627370496

def significandLimit : Nat := 9007199254740992

def zero : Binary64 := ⟨false, 0, leastExponent⟩

def negate (x : Binary64) : Binary64 := { x with negative := !x.negative }

def magnitude (x : Binary64) : Rat := x.significand * (2 : Rat) ^ x.exponent

def isZero (x : Binary64) : Bool := x.significand == 0

/-- The greatest `e` with `2 ^ e ≤ v`, for a positive `v`. -/
def floorLog2 (v : Rat) : Int :=
  let e : Int := (v.num.natAbs.log2 : Int) - (v.den.log2 : Int)
  if v < (2 : Rat) ^ e then e - 1 else e

/-- The integer nearest to `v`, an even one in a tie. -/
def roundToEven (v : Rat) : Int :=
  let below := v.floor
  let rest := v - below
  if rest < 1 / 2 then below
  else if 1 / 2 < rest then below + 1
  else if below % 2 = 0 then below else below + 1

/-- The number of the format nearest to `v ≥ 0`. -/
def nearest? (v : Rat) : Option Binary64 :=
  if v ≤ 0 then some zero
  else
    let exponent := max (floorLog2 v - 52) leastExponent
    let m := (roundToEven (v / (2 : Rat) ^ exponent)).toNat
    let (m, exponent) := if m = significandLimit then (leastNormal, exponent + 1) else (m, exponent)
    if greatestExponent < exponent then none else some ⟨false, m, exponent⟩

def ofNat? (n : Nat) : Option Binary64 := nearest? n

/-- The number nearest to a power of ten. -/
def powerOfTen? (k : Nat) : Option Binary64 := nearest? (Nat.pow 10 k : Nat)

/-- The rounded product and quotient of magnitudes. -/
def mul? (x y : Binary64) : Option Binary64 := nearest? (x.magnitude * y.magnitude)

def div? (x y : Binary64) : Option Binary64 := nearest? (x.magnitude / y.magnitude)

end Binary64

end AnchorLayout
